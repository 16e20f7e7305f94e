import Flowgraph.Plan.Basic
import Flowgraph.Proofs.Json.Legible
import Flowgraph.Proofs.Snapshot.Codec

namespace Flowgraph

open Json

def PlanNode.Proper (n : PlanNode) : Prop := n.inputs.Proper

def Prompt.Proper (p : Prompt) : Prop := ∀ e ∈ p.entries, IsWord e.1 ∧ e.2.Proper

structure ExecutionPlan.Proper (p : ExecutionPlan) : Prop where
  prompt : p.prompt.Proper
  workflow : p.workflow.Proper

namespace PlanNode

def fields (n : PlanNode) : List (String × Option Value) :=
  [("inputs", some (.object n.inputs)), ("type", some (.string n.type)),
    ("name", some (.string n.name))]

theorem faithful : Faithful PlanNode.Proper PlanNode.encode PlanNode.decode? where
  back σ n p := by
    have w : Written ["inputs", "type", "name"] n.fields [] := ⟨rfl, by decide, .nil⟩
    have inputs := w.required σ .object "inputs" n.inputs p (by simp [fields])
    have type := w.required σ .string "type" n.type trivial (by simp [fields])
    have name := w.required σ .string "name" n.name trivial (by simp [fields])
    have written : (n.encode.spelled σ).record? ["inputs", "type", "name"] =
      some (Value.spelledMembers σ (Members.present n.fields ++ [])) := rfl
    simp only [decode?, written, Option.bind_eq_bind, Option.bind_some, inputs, type, name]
  sound d n read := by
    simp only [decode?, Option.bind_eq_bind, Option.bind_eq_some_iff, Option.some.injEq] at read
    obtain ⟨fs, _, _, inputs, _, _, _, _, rfl⟩ := read
    exact Faithful.object.of_required inputs

end PlanNode

namespace Prompt

theorem keyId?_integerText {id : NodeId} (h : IsWord id) :
    keyId? ⟨String.ofList (integerText id), true⟩ = some id := by
  have ends : Ends [] := fun _ head => nomatch head
  have word : (Document.number (.int id)).word? = some id := if_pos h
  obtain ⟨least, most⟩ := h
  simp only [keyId?, Bool.not_true, Bool.false_eq_true, if_false, String.toList_ofList,
    Option.bind_eq_bind]
  -- The sign is read apart from the digits, and no digit is taken for it.
  cases id with
  | ofNat n =>
    have fits : n < 0x10000000000000000 := by
      rw [Int.ofNat_eq_natCast] at most
      omega
    have literal := Reader.literal_digits false n ends
    rw [List.append_nil] at literal
    simp only [integerText]
    split
    · next cs minus =>
      have digit : '-'.isDigit = true := isDigit_of_mem_digits (minus ▸ List.mem_cons_self)
      exact absurd digit (by decide)
    · simp only [literal, Except.toOption, Option.bind_some, List.isEmpty_nil, Bool.not_true,
        Bool.false_eq_true, if_false]
      rw [Literal.value?_digits fits, Option.bind_some, ← Int.ofNat_eq_natCast, word]
  | negSucc n =>
    have fits : n < 0x8000000000000000 := by omega
    have literal := Reader.literal_digits true (n + 1) ends
    rw [List.append_nil] at literal
    simp only [integerText, literal, Except.toOption, Option.bind_some, List.isEmpty_nil,
      Bool.not_true, Bool.false_eq_true, if_false]
    rw [Literal.value?_neg_digits fits, Option.bind_some, word]

theorem isWord_of_keyId? {k : Key} {id : NodeId} (read : keyId? k = some id) : IsWord id := by
  simp only [keyId?, Option.bind_eq_bind] at read
  split at read
  · cases read
  · obtain ⟨⟨l, rest⟩, _, read⟩ := Option.bind_eq_some_iff.1 read
    split at read
    · cases read
    · obtain ⟨n, _, read⟩ := Option.bind_eq_some_iff.1 read
      exact Faithful.word.sound _ _ read

theorem entries_spelled (σ : Spelling) {es : List (NodeId × PlanNode)}
    (proper : ∀ e ∈ es, IsWord e.1 ∧ e.2.Proper) :
    (Value.spelledMembers σ (es.map fun e => (String.ofList (integerText e.1), e.2.encode))).mapM
      (fun f => (keyId? f.1).bind fun id => (PlanNode.decode? f.2).bind fun n => some (id, n)) =
        some es := by
  induction es with
  | nil => rfl
  | cons e es ih =>
    obtain ⟨id, n⟩ := e
    obtain ⟨word, node⟩ := proper _ List.mem_cons_self
    have key := keyId?_integerText word
    have back := PlanNode.faithful.back σ n node
    have rest := ih fun e he => proper e (List.mem_cons_of_mem _ he)
    rw [List.map_cons, Value.spelledMembers, List.mapM_cons, rest]
    simp only [σ.integer, key, back, Option.bind_eq_bind, Option.bind_some, Option.pure_def]

theorem faithful : Faithful Prompt.Proper Prompt.encode Prompt.decode? where
  back σ p proper := by
    have written : (p.encode.spelled σ).fields? = some (Value.spelledMembers σ
      (p.entries.map fun e => (String.ofList (integerText e.1), e.2.encode))) := rfl
    simp only [decode?, written, Option.bind_eq_bind, Option.bind_some]
    rw [entries_spelled σ proper, Option.bind_some, SortedMap.ofList_entries]
  sound d p read := by
    simp only [decode?, Option.bind_eq_bind, Option.bind_eq_some_iff, Option.some.injEq] at read
    obtain ⟨fs, _, es, entries, rfl⟩ := read
    have each : ∀ e ∈ es, IsWord e.1 ∧ e.2.Proper := by
      refine Faithful.forall_of_mapM (fun f e entry => ?_) entries
      obtain ⟨id, key, n, node, rfl⟩ := by
        simpa only [Option.bind_eq_some_iff, Option.some.injEq] using entry
      exact ⟨isWord_of_keyId? key, PlanNode.faithful.sound _ _ node⟩
    intro e mem
    exact each e (SortedMap.mem_of_mem_ofList mem)

end Prompt

namespace ExecutionPlan

/-- The fields of a plan, the id included where it is left out. -/
def fields (p : ExecutionPlan) : List (String × Option Value) :=
  [("prompt", some p.prompt.encode), ("workflow", some p.workflow.encode),
    ("checksum", some (.string p.checksum)), ("promptId", p.promptId.map .string)]

theorem encode_eq (p : ExecutionPlan) : p.encode = .object (Members.present p.fields ++ []) := by
  obtain ⟨prompt, workflow, checksum, promptId⟩ := p
  cases promptId <;> rfl

theorem faithful : Faithful ExecutionPlan.Proper ExecutionPlan.encode ExecutionPlan.decode? where
  back σ p proper := by
    have w : Written ["prompt", "workflow", "checksum", "promptId"] p.fields [] :=
      ⟨rfl, by decide, .nil⟩
    have prompt := w.required σ Prompt.faithful "prompt" p.prompt proper.prompt (by simp [fields])
    have workflow := w.required σ Snapshot.faithful "workflow" p.workflow proper.workflow
      (by simp [fields])
    have checksum := w.required σ .string "checksum" p.checksum trivial (by simp [fields])
    have promptId := w.optional σ .string "promptId" p.promptId (fun _ _ => trivial) nofun
      (by simp [fields])
    have written : (p.encode.spelled σ).record? ["prompt", "workflow", "checksum", "promptId"] =
        some (Value.spelledMembers σ (Members.present p.fields ++ [])) := by
      rw [encode_eq]
      rfl
    simp only [decode?, written, Option.bind_eq_bind, Option.bind_some, prompt, workflow, checksum,
      promptId]
  sound d p read := by
    simp only [decode?, Option.bind_eq_bind, Option.bind_eq_some_iff, Option.some.injEq] at read
    obtain ⟨fs, _, _, prompt, _, workflow, _, _, _, _, rfl⟩ := read
    exact ⟨Prompt.faithful.of_required prompt, Snapshot.faithful.of_required workflow⟩

end ExecutionPlan

section ReadBack

variable {α : Type} {P : α → Prop} {write : α → Value} {read : Document → Option α}

theorem Json.Faithful.back_toDocument (F : Faithful P write read) {a : α} (proper : P a) :
    read (write a).toDocument = some a := by
  rw [Spelling.toDocument_eq]
  exact F.back _ a proper

theorem Json.Faithful.back_text (F : Faithful P write read) {a : α} (proper : P a)
    (legible : (write a).legible Reader.depthLimit = true) :
    (Document.ofText? (write a).compact).bind read = some a := by
  rw [Value.ofText?_compact legible]
  exact F.back _ a proper

theorem Json.Faithful.sound_text (F : Faithful P write read) {text : String} {a : α}
    (ok : (Document.ofText? text).bind read = some a) : P a := by
  obtain ⟨d, _, ok⟩ := Option.bind_eq_some_iff.1 ok
  exact F.sound d a ok

end ReadBack

/-- Snapshots and plans are read back as they were written, from values and from texts without
doubles; and what any text is read as can be written and read back. -/
theorem snapshots_and_plans_read_back :
    (∀ s : Snapshot, s.Proper → Snapshot.decode? s.encode.toDocument = some s ∧
      (s.encode.legible Reader.depthLimit = true → Snapshot.ofText? s.toText = some s)) ∧
    (∀ (text : String) (s : Snapshot), Snapshot.ofText? text = some s →
      s.Proper ∧ Snapshot.decode? s.encode.toDocument = some s) ∧
    (∀ p : ExecutionPlan, p.Proper → ExecutionPlan.decode? p.encode.toDocument = some p ∧
      (p.encode.legible Reader.depthLimit = true → ExecutionPlan.ofText? p.toText = some p)) ∧
    ∀ (text : String) (p : ExecutionPlan), ExecutionPlan.ofText? text = some p →
      p.Proper ∧ ExecutionPlan.decode? p.encode.toDocument = some p := by
  have snapshots := Snapshot.faithful
  have plans := ExecutionPlan.faithful
  refine ⟨fun s proper => ?_, fun text s ok => ?_, fun p proper => ?_, fun text p ok => ?_⟩
  · exact ⟨snapshots.back_toDocument proper, snapshots.back_text proper⟩
  · have proper := snapshots.sound_text ok
    exact ⟨proper, snapshots.back_toDocument proper⟩
  · exact ⟨plans.back_toDocument proper, plans.back_text proper⟩
  · have proper := plans.sound_text ok
    exact ⟨proper, plans.back_toDocument proper⟩

/-- A foreign plan without an id, around a snapshot with a null title, null links, a number for a
version and members of its own. -/
theorem foreign_plan_reads_back :
    let node : Value := .object [("id", .ofInt 4), ("type", .string "T"), ("title", .null),
      ("outputs", .array [.object [("name", .string "o"), ("links", .null)]]),
      ("pos", .array [.ofInt 1, .ofInt 2])]
    let link : Value :=
      .array [.ofInt (-1), .ofInt 4, .ofInt 0, .ofInt 4, .ofInt 0, .string "*"]
    let snapshot : Value := .object [("nodes", .array [node]), ("links", .array [link]),
      ("NeoScaffoldVersion", .ofInt 2), ("zoom\n", .bool true)]
    let entry : Value :=
      .object [("inputs", .object [("a", .null)]), ("type", .string "T"), ("name", .string "n")]
    let plan : Value := .object [("prompt", .object [("-7", entry)]), ("workflow", snapshot),
      ("checksum", .string "c")]
    ∃ p, ExecutionPlan.ofText? plan.compact = some p ∧ p.prompt.keys = [-7] ∧ p.promptId = none ∧
      ExecutionPlan.decode? p.encode.toDocument = some p ∧
      ExecutionPlan.ofText? p.toText = some p ∧
      p.workflow.version = "2" ∧ Snapshot.ofText? p.workflow.toText = some p.workflow ∧
      Snapshot.decode? p.workflow.encode.toDocument = some p.workflow := by
  intro node link snapshot entry plan
  have text := Value.ofText?_compact (v := plan) (by decide +kernel)
  have seen : (ExecutionPlan.decode? (plan.spelled .printed)).map (fun p => (p.prompt.keys,
      p.promptId, p.workflow.version, p.encode.legible Reader.depthLimit,
      p.workflow.encode.legible Reader.depthLimit)) = some ([-7], none, "2", true, true) := by
    decide +kernel
  obtain ⟨p, read, seen⟩ := Option.map_eq_some_iff.1 seen
  have ok : ExecutionPlan.ofText? plan.compact = some p := by
    rw [ExecutionPlan.ofText?, text]
    exact read
  simp only [Prod.mk.injEq] at seen
  obtain ⟨keys, absent, version, legible, legible'⟩ := seen
  obtain ⟨snapshots, snapshotTexts, plans, planTexts⟩ := snapshots_and_plans_read_back
  obtain ⟨proper, again⟩ := planTexts _ p ok
  have back := (plans p proper).2 legible
  have back' := (snapshots p.workflow proper.workflow).2 legible'
  exact ⟨p, ok, keys, absent, again, back, version, back', (snapshotTexts _ _ back').2⟩

end Flowgraph
