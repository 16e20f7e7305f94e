import Flowgraph.Settings.Basic
import Flowgraph.Storage
import Mathlib.Data.List.Forall2
import Mathlib.Data.Set.Function

namespace Flowgraph.Storage

/-- A call on a store. -/
inductive Access where
  | get (key : String)
  | set (key text : String)
  | remove (key : String)

namespace Access

def key : Access → String
  | .get key | .set key _ | .remove key => key

def renamed (f : String → String) : Access → Access
  | .get key => .get (f key)
  | .set key text => .set (f key) text
  | .remove key => .remove (f key)

def update (m : SortedMap String String) : Access → SortedMap String String
  | .get _ => m
  | .set key text => m.insert key text
  | .remove key => m.erase key

def updates (m : SortedMap String String) (as : List Access) : SortedMap String String :=
  as.foldl update m

def read? (m : SortedMap String String) : Access → Option String
  | .get key => m.find? key
  | .set .. | .remove _ => none

def reads (m : SortedMap String String) : List Access → List (Option String)
  | [] => []
  | a :: as => a.read? m :: reads (a.update m) as

@[simp] theorem key_renamed (a : Access) (f : String → String) : (a.renamed f).key = f a.key := by
  cases a <;> rfl

theorem find?_update_of_ne {a : Access} {key : String} (other : key ≠ a.key)
    (m : SortedMap String String) : (a.update m).find? key = m.find? key := by
  cases a with
  | get => rfl
  | set => exact (m.find?_insert ..).trans (if_neg other)
  | remove => exact (m.find?_erase ..).trans (if_neg other)

theorem key_of_mem_updates {as : List Access} {m : SortedMap String String} {key : String}
    (stored : key ∈ (updates m as).keys) : key ∈ m.keys ∨ ∃ a ∈ as, a.key = key := by
  induction as generalizing m with
  | nil => exact .inl stored
  | cons a as ih =>
    rcases ih stored with mem | ⟨b, mem, eq⟩
    · by_cases same : a.key = key
      · exact .inr ⟨a, List.mem_cons_self, same⟩
      · rw [SortedMap.mem_keys_iff, SortedMap.contains, find?_update_of_ne (Ne.symm same)] at mem
        exact .inl (SortedMap.mem_keys_iff.2 mem)
    · exact .inr ⟨b, List.mem_cons_of_mem _ mem, eq⟩

/-- Texts under new names are read as under the old ones, if the new names tell the keys apart. -/
theorem find?_update_renamed {f : String → String} {K : Set String} (apart : K.InjOn f)
    {a : Access} (used : a.key ∈ K) {m n : SortedMap String String}
    (same : ∀ k ∈ K, n.find? (f k) = m.find? k) :
    ∀ k ∈ K, ((a.renamed f).update n).find? (f k) = (a.update m).find? k := by
  intro k mem
  have iff : f k = f a.key ↔ k = a.key := apart.eq_iff mem used
  cases a with
  | get => exact same k mem
  | set key text =>
    simp only [renamed, update, SortedMap.find?_insert]
    exact if_congr iff rfl (same k mem)
  | remove key =>
    simp only [renamed, update, SortedMap.find?_erase]
    exact if_congr iff rfl (same k mem)

theorem reads_renamed {f : String → String} {K : Set String} (apart : K.InjOn f)
    {as : List Access} (used : ∀ a ∈ as, a.key ∈ K) {m n : SortedMap String String}
    (same : ∀ k ∈ K, n.find? (f k) = m.find? k) :
    reads n (as.map (renamed f)) = reads m as := by
  induction as generalizing m n with
  | nil => rfl
  | cons a as ih =>
    obtain ⟨first, later⟩ := List.forall_mem_cons.1 used
    have read : (a.renamed f).read? n = a.read? m := by
      cases a with
      | get key => exact same key first
      | set key text => rfl
      | remove key => rfl
    rw [List.map_cons, reads, reads, read, ih later (find?_update_renamed apart first same)]

theorem injOn_of_reads_renamed {f : String → String} {K : Set String}
    (same : ∀ as : List Access, (∀ a ∈ as, a.key ∈ K) →
      reads .empty (as.map (renamed f)) = reads .empty as) : K.InjOn f := by
  intro k mem k' mem' eq
  by_contra ne
  have read := same [.set k "", .get k'] (by simp [key, mem, mem'])
  simp [reads, read?, renamed, update, SortedMap.find?_insert, eq, Ne.symm ne] at read

end Access

/-- The store after a call, with what the call answers. A call that stores nothing reads none. -/
def perform (s : Storage) : Access → Storage × Except Failure (Option String)
  | .get key => (s, s.get? key)
  | .set key text =>
    match s.set key text with
    | .ok s' => (s', .ok none)
    | .error e => (s, .error e)
  | .remove key =>
    match s.remove key with
    | .ok s' => (s', .ok none)
    | .error e => (s, .error e)

def performAll (s : Storage) (as : List Access) : Storage := as.foldl (fun s a => (s.perform a).1) s

def answers (s : Storage) : List Access → List (Except Failure (Option String))
  | [] => []
  | a :: as => (s.perform a).2 :: (s.perform a).1.answers as

/-- Two characters of keys that look the same in the name of a file. -/
def Blend (c c' : Char) : Prop := c = c' ∨ (isSafe c → c = '_') ∧ (isSafe c' → c' = '_')

/-- No file has a name under which one is written first. -/
def Settled (m : SortedMap String String) : Prop := ∀ key, m.find? (stagingFor key) = none

theorem stagingFor_ne_fileFor (key key' : String) : stagingFor key ≠ fileFor key' := by
  intro same
  have last := congrArg (·.toList.getLast?) same
  simp [stagingFor, fileFor, List.getLast?_append] at last

theorem blend_iff {c c' : Char} :
    (if isSafe c then c else '_') = (if isSafe c' then c' else '_') ↔ Blend c c' := by
  unfold Blend
  cases safe : isSafe c <;> cases safe' : isSafe c' <;> grind [isSafe]

theorem fileFor_eq_iff {key key' : String} :
    fileFor key = fileFor key' ↔ List.Forall₂ Blend key.toList key'.toList := by
  rw [fileFor, fileFor, String.append_left_inj, stemFor, stemFor, String.ofList_inj,
    ← List.forall₂_eq_eq_eq, List.forall₂_map_left_iff, List.forall₂_map_right_iff]
  simp only [blend_iff]

theorem injOn_of_safe : {key : String | ∀ c ∈ key.toList, isSafe c}.InjOn fileFor := by
  intro key safe key' safe' same
  have blended := fileFor_eq_iff.1 same
  apply String.toList_inj.1
  apply List.ext_getElem blended.length_eq
  intro i hi hi'
  rcases blended.get hi hi' with eq | ⟨under, under'⟩
  · exact eq
  · exact (under (safe _ (List.getElem_mem hi))).trans (under' (safe' _ (List.getElem_mem hi'))).symm

theorem perform_memory (m : SortedMap String String) (a : Access) :
    (memory m).perform a = (memory (a.update m), .ok (a.read? m)) := by
  cases a <;> rfl

theorem perform_files {m : SortedMap String String} (settled : Settled m) (a : Access) :
    (files { files := m }).perform a =
      (files { files := (a.renamed fileFor).update m }, .ok ((a.renamed fileFor).read? m)) := by
  cases a with
  | get key => rfl
  | remove key => rfl
  | set key text =>
    have replaced : ((m.insert (stagingFor key) text).erase (stagingFor key)).insert
        (fileFor key) text = m.insert (fileFor key) text := by
      apply SortedMap.ext_find?
      intro name
      simp only [SortedMap.find?_insert, SortedMap.find?_erase]
      split
      · rfl
      · split
        · next staged => rw [staged, settled key]
        · rfl
    have staged : (m.insert (stagingFor key) text).find? (stagingFor key) = some text := by
      rw [SortedMap.find?_insert, if_pos rfl]
    have set : (files { files := m }).set key text =
        .ok (files { files := m.insert (fileFor key) text }) := by
      rw [← replaced]
      simp [Storage.set, Directory.write, Directory.rename, Directory.check, staged, bind,
        Except.bind, pure, Except.pure]
    rw [perform, set]
    rfl

theorem Settled.update {m : SortedMap String String} (settled : Settled m) (a : Access) :
    Settled ((a.renamed fileFor).update m) := by
  intro key
  rw [Access.find?_update_of_ne (a.key_renamed fileFor ▸ stagingFor_ne_fileFor key a.key)]
  exact settled key

theorem answers_memory (m : SortedMap String String) (as : List Access) :
    (memory m).answers as = (Access.reads m as).map .ok := by
  induction as generalizing m with
  | nil => rfl
  | cons a as ih => rw [answers, perform_memory, ih, Access.reads, List.map_cons]

theorem answers_files {m : SortedMap String String} (settled : Settled m) (as : List Access) :
    (files { files := m }).answers as = (Access.reads m (as.map (.renamed fileFor))).map .ok := by
  induction as generalizing m with
  | nil => rfl
  | cons a as ih =>
    rw [answers, perform_files settled, ih (settled.update a), List.map_cons, Access.reads,
      List.map_cons]

theorem performAll_files {m : SortedMap String String} (settled : Settled m) (as : List Access) :
    (files { files := m }).performAll as =
      files { files := Access.updates m (as.map (.renamed fileFor)) } := by
  induction as generalizing m with
  | nil => rfl
  | cons a as ih =>
    rw [performAll, List.foldl_cons, perform_files settled]
    exact ih (settled.update a)

theorem settled_empty : Settled .empty := fun _ => rfl

/-- In a new directory there are only files of the keys in use, whatever was done. -/
theorem exists_performAll_files (as : List Access) :
    ∃ m, (files {}).performAll as = files { files := m } ∧
      ∀ name ∈ m.keys, ∃ a ∈ as, fileFor a.key = name := by
  refine ⟨_, performAll_files settled_empty as, ?_⟩
  intro name stored
  rcases Access.key_of_mem_updates stored with old | ⟨a, mem, named⟩
  · cases old
  · obtain ⟨b, used, renamed⟩ := List.mem_map.1 mem
    rw [← renamed, Access.key_renamed] at named
    exact ⟨b, used, named⟩

/-- New stores of both kinds answer alike for some keys exactly if no two of them share a file. -/
theorem answers_iff_injOn (K : Set String) :
    (∀ as : List Access, (∀ a ∈ as, a.key ∈ K) →
      (files {}).answers as = (memory .empty).answers as) ↔ K.InjOn fileFor := by
  constructor
  · intro same
    apply Access.injOn_of_reads_renamed
    intro as used
    have answered := same as used
    rw [answers_files settled_empty, answers_memory] at answered
    exact List.map_injective_iff.2 (fun _ _ => Except.ok.inj) answered
  · intro apart as used
    have unread : ∀ key ∈ K, SortedMap.empty.find? (fileFor key) =
        (SortedMap.empty : SortedMap String String).find? key := fun _ _ => rfl
    rw [answers_files settled_empty, answers_memory, Access.reads_renamed apart used unread]

/-- While a file is written under its first name every key reads as before. -/
theorem get?_of_staged {d d' : Directory} {key text : String}
    (written : d.write (stagingFor key) text = .ok d') (key' : String) :
    (files d').get? key' = (files d).get? key' := by
  have checked : d.check (stagingFor key) = .ok () := by
    cases check : d.check (stagingFor key) with
    | ok => rfl
    | error e =>
      rw [Directory.write, check] at written
      cases written
  rw [Directory.write, checked] at written
  cases written
  have unread : (d.files.insert (stagingFor key) text).find? (fileFor key') =
      d.files.find? (fileFor key') := by
    rw [SortedMap.find?_insert, if_neg (stagingFor_ne_fileFor key key').symm]
  simp only [get?, Directory.read, unread]
  rfl

/-- A new store of files answers as the one in memory under the names of the files. So it answers
as the one in memory for keys of which no two share a file, and only for such. Keys that differ in
a kept character share none. In the end there are only files of keys in use, never one under its
first name, and while a file has that name every key reads as before. -/
theorem files_answer_by_name (as : List Access) (K : Set String) (key key' : String) :
    (files {}).answers as = (memory .empty).answers (as.map (.renamed fileFor)) ∧
    ((∀ as : List Access, (∀ a ∈ as, a.key ∈ K) →
      (files {}).answers as = (memory .empty).answers as) ↔ K.InjOn fileFor) ∧
    (fileFor key = fileFor key' ↔ List.Forall₂ Blend key.toList key'.toList) ∧
    {key : String | ∀ c ∈ key.toList, isSafe c}.InjOn fileFor ∧
    (∃ m, (files {}).performAll as = files { files := m } ∧
      ∀ name ∈ m.keys, ∃ a ∈ as, fileFor a.key = name) ∧
    stagingFor key ≠ fileFor key' ∧
    ∀ (d d' : Directory) (text : String), d.write (stagingFor key) text = .ok d' →
      (files d').get? key' = (files d).get? key' := by
  refine ⟨?_, answers_iff_injOn K, fileFor_eq_iff, injOn_of_safe, exists_performAll_files as,
    stagingFor_ne_fileFor key key', fun _ _ _ written => get?_of_staged written key'⟩
  rw [answers_files settled_empty, answers_memory]

/-- The latest workflow and the record of a user do not get in each other's way. -/
theorem workflow_kept_beside_record :
    (files {}).answers [.set workflowKey "{}", .set userInfoKey "me", .remove userInfoKey,
        .get workflowKey, .get userInfoKey] =
      [.ok none, .ok none, .ok none, .ok (some "{}"), .ok none] := by
  have apart : {key | key = workflowKey ∨ key = userInfoKey}.InjOn fileFor := by
    apply injOn_of_safe.mono
    rintro key (rfl | rfl)
    · exact List.all_eq_true.1 (by decide +kernel : workflowKey.toList.all isSafe = true)
    · exact List.all_eq_true.1 (by decide +kernel : userInfoKey.toList.all isSafe = true)
  obtain ⟨_, alike_iff, _⟩ := files_answer_by_name [] {key | key = workflowKey ∨ key = userInfoKey}
    workflowKey userInfoKey
  exact alike_iff.2 apart _ (by simp [Access.key])

/-- A key can read what was stored at another one. -/
theorem not_answered_as_memory : ¬ ∀ as : List Access,
    (files {}).answers as = (memory .empty).answers as := by
  intro same
  have read : some (.ok (some "1")) = some (.ok none : Except Failure (Option String)) :=
    congrArg List.getLast? (same [.set "a.b" "1", .get "a_b"])
  cases read

end Flowgraph.Storage
