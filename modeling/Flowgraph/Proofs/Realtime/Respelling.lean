import Flowgraph.Proofs.Intervention.Colors
import Flowgraph.Proofs.Json.Legible
import Flowgraph.Proofs.Realtime.Priority

namespace Flowgraph

open Json

section Related

variable {α β : Type} {R : α → α → Prop} {o o' : Option α}

theorem exists_of_rel {a : α} (related : Option.Rel R o o') (given : o = some a) :
    ∃ a', o' = some a' ∧ R a a' := by
  cases related with
  | none => cases given
  | some r =>
    cases given
    exact ⟨_, rfl, r⟩

theorem none_of_rel (related : Option.Rel R none o') : o' = none := by
  cases related
  rfl

theorem rel_symm (symm : ∀ {a a'}, R a a' → R a' a) (related : Option.Rel R o o') :
    Option.Rel R o' o := by
  cases related with
  | none => exact .none
  | some r => exact .some (symm r)

theorem bind_eq_of_rel {f : α → Option β} (related : Option.Rel R o o')
    (same : ∀ a a', R a a' → f a = f a') : o.bind f = o'.bind f := by
  cases related with
  | none => rfl
  | some r => exact same _ _ r

end Related

/-- Values that are the same, or denote the same node. -/
def SameReference (v v' : Value) : Prop :=
  v = v' ∨ ∃ id, nodeIdOf? v = some id ∧ nodeIdOf? v' = some id

/-- Values that are the same, or objects that differ in how they spell the node that they name. -/
def Respelled (v v' : Value) : Prop :=
  v = v' ∨ ∃ ms r r', v = .object ms ∧ Members.get? "node_id" ms = some r ∧
    v' = .object (Members.put "node_id" r' ms) ∧ SameReference r r'

/-- One value is the number 0, and the other one a string. -/
def SplitsAtZero (v v' : Value) : Prop :=
  ∃ text, v = .number (.int 0) ∧ v' = .string text ∨ v = .string text ∧ v' = .number (.int 0)

section References

variable {v v' : Value} {id : NodeId}

theorem foldl_digits (n : Nat) :
    (Decimal.digits n).foldl (fun n c => n * 10 + (c.toNat - '0'.toNat)) 0 = n := by
  have back : Nat.ofDigitChars 10 (Decimal.digits n) 0 = n :=
    Nat.ofDigitChars_toDigits (by decide) (by decide)
  conv_rhs => rw [← back]
  rw [Nat.ofDigitChars]
  congr 1
  funext n c
  rw [Nat.mul_comm]

theorem parseId?_integerText (least : minId ≤ id) (most : id ≤ maxId) :
    parseId? (String.ofList (integerText id)) = some id := by
  have digit {n : Nat} {c : Char} (mem : c ∈ Decimal.digits n) : Reader.isDigit c = true := by
    rw [isDigit_eq]
    exact isDigit_of_mem_digits mem
  have whole (n : Nat) : ¬((Decimal.digits n).isEmpty = true ∨
      (!(Decimal.digits n).all Reader.isDigit) = true) := by
    have filled : Decimal.digits n ≠ [] := Nat.toDigits_ne_nil
    have all : (Decimal.digits n).all Reader.isDigit = true :=
      List.all_eq_true.2 fun _ mem => digit mem
    simp [filled, all]
  cases id with
  | negSucc n =>
    rw [parseId?, String.toList_ofList]
    simp only [integerText, whole, foldl_digits, if_true, if_false]
    exact if_pos ⟨least, most⟩
  | ofNat n =>
    have unsigned {c : Char} {rest : List Char} (mark : Reader.isDigit c = false) :
        integerText (.ofNat n) ≠ c :: rest := by
      intro text
      have mem : c ∈ integerText (.ofNat n) := text ▸ List.mem_cons_self
      exact absurd (digit mem) (mark ▸ Bool.false_ne_true)
    rw [parseId?, String.toList_ofList]
    -- No digit is taken for a sign.
    split
    next negative digits parts =>
      split at parts
      · next text => exact absurd text (unsigned (by decide))
      · next text => exact absurd text (unsigned (by decide))
      · cases parts
        simp only [integerText, whole, foldl_digits, if_false]
        exact if_pos ⟨least, most⟩

theorem sameReference_integerText (least : minId ≤ id) (most : id ≤ maxId) :
    SameReference (.number (.int id)) (.string (String.ofList (integerText id))) :=
  .inr ⟨id, if_pos ⟨least, most⟩, parseId?_integerText least most⟩

theorem SameReference.node (same : SameReference v v') : nodeIdOf? v = nodeIdOf? v' := by
  rcases same with rfl | ⟨id, denotes, denotes'⟩
  · rfl
  · exact denotes.trans denotes'.symm

theorem isPresent_or_zero (denotes : nodeIdOf? v = some id) :
    isPresent v = true ∨ v = .number (.int 0) := by
  cases v with
  | number n =>
    cases n with
    | int n =>
      by_cases zero : n = 0
      · exact .inr (by rw [zero])
      · exact .inl (decide_eq_true zero)
    | float => cases denotes
  | string s =>
    refine .inl (decide_eq_true ?_)
    rintro rfl
    cases denotes
  | null | bool | array | object => cases denotes

/-- A value that denotes node 0 is the number 0 or a string. -/
theorem zero_or_string (denotes : nodeIdOf? v = some 0) :
    v = .number (.int 0) ∨ ∃ text, v = .string text := by
  cases v with
  | number n =>
    cases n with
    | int n =>
      rw [nodeIdOf?] at denotes
      split at denotes
      · cases denotes
        exact .inl rfl
      · cases denotes
    | float => cases denotes
  | string s => exact .inr ⟨s, rfl⟩
  | null | bool | array | object => cases denotes

theorem SplitsAtZero.symm (splits : SplitsAtZero v v') : SplitsAtZero v' v := by
  obtain ⟨text, h | h⟩ := splits
  · exact ⟨text, .inr h.symm⟩
  · exact ⟨text, .inl h.symm⟩

theorem SplitsAtZero.node (splits : SplitsAtZero v v') (same : nodeIdOf? v = nodeIdOf? v') :
    nodeIdOf? v = some 0 := by
  obtain ⟨text, ⟨rfl, rfl⟩ | ⟨rfl, rfl⟩⟩ := splits
  · rfl
  · exact same

theorem SplitsAtZero.present (splits : SplitsAtZero v v') (same : nodeIdOf? v = nodeIdOf? v') :
    isPresent v = !isPresent v' := by
  have string {text : String} (denotes : nodeIdOf? (.string text) = some 0) :
      isPresent (.string text) = true := (isPresent_or_zero denotes).resolve_right nofun
  have node := splits.node same
  obtain ⟨text, ⟨rfl, rfl⟩ | ⟨rfl, rfl⟩⟩ := splits
  · rw [string (same.symm.trans node)]
    rfl
  · rw [string node]
    rfl

theorem SameReference.symm (same : SameReference v v') : SameReference v' v := by
  rcases same with rfl | ⟨id, denotes, denotes'⟩
  · exact .inl rfl
  · exact .inr ⟨id, denotes', denotes⟩

theorem SameReference.present (same : SameReference v v') (whole : ¬SplitsAtZero v v') :
    isPresent v = isPresent v' := by
  rcases same with rfl | ⟨id, denotes, denotes'⟩
  · rfl
  · rcases isPresent_or_zero denotes with present | rfl
    · rcases isPresent_or_zero denotes' with present' | rfl
      · rw [present, present']
      · cases denotes'
        rcases zero_or_string denotes with rfl | ⟨text, rfl⟩
        · rfl
        · exact absurd ⟨text, .inr ⟨rfl, rfl⟩⟩ whole
    · cases denotes
      rcases zero_or_string denotes' with rfl | ⟨text, rfl⟩
      · rfl
      · exact absurd ⟨text, .inl ⟨rfl, rfl⟩⟩ whole

theorem Respelled.present (r : Respelled v v') : isPresent v = isPresent v' := by
  rcases r with rfl | ⟨ms, r, r', rfl, found, rfl, _⟩
  · rfl
  · have filled : ms ≠ [] := by
      rintro rfl
      cases found
    have kept : Members.put "node_id" r' ms ≠ [] := by
      intro empty
      have found := Members.get?_put "node_id" "node_id" r' ms
      rw [empty, if_pos rfl] at found
      cases found
    rw [isPresent, isPresent, List.isEmpty_eq_false_iff.2 filled, List.isEmpty_eq_false_iff.2 kept]

theorem Respelled.node (r : Respelled v v') :
    (v.get? "node_id").bind nodeIdOf? = (v'.get? "node_id").bind nodeIdOf? := by
  rcases r with rfl | ⟨ms, r, r', rfl, found, rfl, same⟩
  · rfl
  · rw [Value.get?, Value.get?, found, Members.get?_put, if_pos rfl]
    exact same.node

end References

/-- The same reports, with references to nodes spelled in another way. -/
structure FrameData.Respelled (d d' : FrameData) : Prop where
  breakpoint : Option.Rel SameReference d.breakpoint d'.breakpoint
  nodeErrors : d'.nodeErrors = d.nodeErrors
  evaluationAction : Option.Rel Flowgraph.Respelled d.evaluationAction d'.evaluationAction
  results : Option.Rel (List.Forall₂ fun e e' => e'.1 = e.1 ∧ Flowgraph.Respelled e.2 e'.2)
    d.results d'.results
  promptId : d'.promptId = d.promptId
  number : d'.number = d.number

def FrameData.SplitAtZero (d d' : FrameData) : Prop :=
  ∃ v v', d.breakpoint = some v ∧ d'.breakpoint = some v' ∧ SplitsAtZero v v'

structure Frame.Respelled (f f' : Frame) : Prop where
  type : f'.type = f.type
  data : Option.Rel FrameData.Respelled f.data f'.data

/-- Texts of frames that are spelled in another way; what is malformed stays so. -/
def Frame.RespelledIn (text text' : String) : Prop :=
  Option.Rel Respelled (ofText? text) (ofText? text')

theorem Frame.RespelledIn.isSome {text text' : String} (r : RespelledIn text text') :
    (ofText? text').isSome = (ofText? text).isSome := by
  unfold RespelledIn at r
  generalize ofText? text = o, ofText? text' = o' at r
  cases r <;> rfl

def Frame.SplitIn (text text' : String) : Prop :=
  ∃ f f' d d', ofText? text = some f ∧ ofText? text' = some f' ∧ f.data = some d ∧
    f'.data = some d' ∧ d.SplitAtZero d'

namespace FrameData

variable {d d' : FrameData} {g : Graph} {n : NodeId}

theorem Respelled.fails_iff (r : d.Respelled d') : d.Fails ↔ d'.Fails := by
  rw [Fails, Fails, r.nodeErrors]

theorem Respelled.evaluatedNode? (r : d.Respelled d') : d.evaluatedNode? = d'.evaluatedNode? := by
  rw [FrameData.evaluatedNode?, FrameData.evaluatedNode?, Option.bind_assoc, Option.bind_assoc]
  exact bind_eq_of_rel r.evaluationAction fun _ _ same => same.node

theorem Respelled.evaluates_iff (r : d.Respelled d') : d.Evaluates g n ↔ d'.Evaluates g n := by
  have iff (d : FrameData) := Scene.known?_evaluatedNode?_iff (s := { graph := g }) (d := d) (n := n)
  rw [← iff d, ← iff d', r.evaluatedNode?]

theorem resolve?_eq {e e' : String × Value}
    (same : e'.1 = e.1 ∧ Flowgraph.Respelled e.2 e'.2) : resolve? g e = resolve? g e' := by
  obtain ⟨key, r⟩ := same
  rw [resolve?, resolve?, r.present, resultNode?, resultNode?, r.node, key]

theorem Respelled.resultNodes (r : d.Respelled d') : d.resultNodes g = d'.resultNodes g := by
  have entries : List.Forall₂ (fun e e' => e'.1 = e.1 ∧ Flowgraph.Respelled e.2 e'.2)
      (d.results.getD []) (d'.results.getD []) := by
    have same := r.results
    generalize d.results = o, d'.results = o' at same
    cases same with
    | none => exact .nil
    | some same => exact same
  rw [FrameData.resultNodes, FrameData.resultNodes]
  generalize d.results.getD [] = es, d'.results.getD [] = es' at entries
  induction entries with
  | nil => rfl
  | cons same _ ih => rw [List.filterMap_cons, List.filterMap_cons, resolve?_eq same, ih]

theorem breaks_of_sameReference (same : Option.Rel SameReference d.breakpoint d'.breakpoint)
    (clear : g.hasNode 0 = true → ¬d.SplitAtZero d') (breaks : d.Breaks g n) : d'.Breaks g n := by
  obtain ⟨v, given, present, denotes, known⟩ := breaks
  obtain ⟨v', given', same⟩ := exists_of_rel same given
  have denotes' : nodeIdOf? v' = some n := same.node.symm.trans denotes
  have whole : ¬SplitsAtZero v v' := by
    intro splits
    cases denotes.symm.trans (splits.node same.node)
    exact clear known ⟨v, v', given, given', splits⟩
  exact ⟨v', given', same.present whole ▸ present, denotes', known⟩

theorem Respelled.breaks_iff (r : d.Respelled d') (clear : g.hasNode 0 = true → ¬d.SplitAtZero d') :
    d.Breaks g n ↔ d'.Breaks g n := by
  constructor
  · exact breaks_of_sameReference r.breakpoint clear
  · refine breaks_of_sameReference (rel_symm SameReference.symm r.breakpoint) ?_
    rintro node ⟨v', v, given', given, splits⟩
    exact clear node ⟨v, v', given, given', splits.symm⟩

/-- Where the breakpoints part, just one of the frames pauses at node 0. -/
theorem Respelled.not_breaks_iff (r : d.Respelled d') (node : g.hasNode 0 = true)
    (splits : d.SplitAtZero d') : ¬(d.Breaks g 0 ↔ d'.Breaks g 0) := by
  have breaks_iff {d : FrameData} {v : Value} (given : d.breakpoint = some v)
      (denotes : nodeIdOf? v = some 0) : d.Breaks g 0 ↔ isPresent v = true := by
    constructor
    · rintro ⟨v', given', present, _⟩
      cases given.symm.trans given'
      exact present
    · exact fun present => ⟨v, given, present, denotes, node⟩
  obtain ⟨v, v', given, given', splits⟩ := splits
  obtain ⟨w, given'', same⟩ := exists_of_rel r.breakpoint given
  cases given'.symm.trans given''
  have denotes := splits.node same.node
  rw [breaks_iff given denotes, breaks_iff given' (same.node.symm.trans denotes),
    splits.present same.node]
  cases isPresent v' <;> decide

end FrameData

namespace Scene

variable {s s' s₁ s₁' : Scene} {d d' : FrameData} {now now' text text' : String}

/-- Scenes that a user cannot tell apart: the same nodes in the same colours, and the same canvas. -/
structure Alike (s s' : Scene) : Prop where
  paused : s'.paused = s.paused
  canvas : s'.canvas = s.canvas
  index : s'.graph.index = s.graph.index
  nodes : ∀ i : Nat, Option.Rel Node.SameColors s.graph.nodes[i]? s'.graph.nodes[i]?

theorem Alike.refl (s : Scene) : s.Alike s where
  paused := rfl
  canvas := rfl
  index := rfl
  nodes i := by
    cases s.graph.nodes[i]? with
    | none => exact .none
    | some n => exact .some (.refl n)

theorem Alike.hasNode (alike : s.Alike s') : s'.graph.hasNode = s.graph.hasNode := by
  funext id
  rw [Graph.hasNode, Graph.hasNode, alike.index]

theorem idSet_ext {a b : IdSet} (same : ∀ id, a.contains id = true ↔ b.contains id = true) :
    a = b := by
  apply SortedMap.ext_find?
  intro id
  have some_ := Bool.eq_iff_iff.2 (same id)
  rw [SortedMap.contains, SortedMap.contains] at some_
  generalize a.find? id = o, b.find? id = o' at some_
  cases o <;> cases o' <;> trivial

theorem Alike.receive (alike : s.Alike s') {f f' : Frame} (parsed : Frame.ofText? text = some f)
    (parsed' : Frame.ofText? text' = some f')
    (same : (s'.applyFrame now' f').2 = (s.applyFrame now f).2) :
    (s.receive now text).Alike (s'.receive now' text') := by
  have received : s.receive now text = (s.applyFrame now f).1 := by
    rw [Scene.receive, applyText, parsed]
  have received' : s'.receive now' text' = (s'.applyFrame now' f').1 := by
    rw [Scene.receive, applyText, parsed']
  have shows := s.shows_applyFrame now f
  have shows' := s'.shows_applyFrame now' f'
  rw [same] at shows'
  rw [received, received']
  constructor
  case paused => rw [shows.paused, shows'.paused, alike.paused]
  case index => rw [shows.index, shows'.index, alike.index]
  case canvas =>
    have selected : (s'.applyFrame now' f').1.canvas.selected =
        (s.applyFrame now f).1.canvas.selected := by
      apply idSet_ext
      intro id
      rw [shows.selected, shows'.selected, alike.canvas]
    have centered : (s'.applyFrame now' f').1.canvas.centered =
        (s.applyFrame now f).1.canvas.centered := by
      rw [shows.centered, shows'.centered, alike.canvas]
    have redraws : (s'.applyFrame now' f').1.canvas.redraws =
        (s.applyFrame now f).1.canvas.redraws := by
      rw [shows.redraws, shows'.redraws, alike.canvas]
    have notices : (s'.applyFrame now' f').1.canvas.notices =
        (s.applyFrame now f).1.canvas.notices := by
      rw [shows.notices, shows'.notices, alike.canvas]
    generalize (s.applyFrame now f).1.canvas = c, (s'.applyFrame now' f').1.canvas = c' at *
    cases c
    cases c'
    cases selected
    cases centered
    cases redraws
    cases notices
    rfl
  case nodes =>
    intro i
    have recolored := s.recoloredAt_applyFrame i now f
    have recolored' := s'.recoloredAt_applyFrame i now' f'
    have leads : s'.graph.leadsTo i = s.graph.leadsTo i := by
      unfold Graph.leadsTo
      rw [alike.index]
    rw [same, leads] at recolored'
    cases there : s.graph.nodes[i]? with
    | none =>
      have gone := (s.receive_reportedAt now text).nodes i
      have gone' := (s'.receive_reportedAt now' text').nodes i
      have absent := alike.nodes i
      rw [there] at absent gone
      rw [none_of_rel absent] at gone'
      rw [received] at gone
      rw [received'] at gone'
      rw [none_of_rel gone, none_of_rel gone']
      exact .none
    | some n =>
      obtain ⟨n', there', colors⟩ := exists_of_rel (alike.nodes i) there
      obtain ⟨m, found, changed⟩ := recolored.node n there
      obtain ⟨m', found', changed'⟩ := recolored'.node n' there'
      rw [found, found']
      exact .some (changed.trans ((colors.recolorAll _).trans changed'.symm))

/-- Whatever the time, respelled data has the same outcome in alike scenes, unless the breakpoints
part. -/
theorem outcome_of_respelled (alike : s.Alike s') (r : d.Respelled d')
    (clear : s.graph.hasNode 0 = true → ¬d.SplitAtZero d') :
    (s'.applyData now' d').2 = (s.applyData now d).2 := by
  have acts := s.acts_applyData now d
  have prioritizes := (s'.acts_applyData now' d').prioritizes.congr alike.hasNode
  have breaks (n : NodeId) := r.breaks_iff (n := n) clear
  have evaluates (n : NodeId) := r.evaluates_iff (g := s.graph) (n := n)
  have results := r.resultNodes (g := s.graph)
  generalize s.applyData now d = after at acts ⊢
  obtain ⟨s₁, outcome⟩ := after
  dsimp only at acts ⊢
  cases acts with
  | paused held => exact (prioritizes.paused _).2 ((breaks _).1 held)
  | errored runs given present evaluated =>
    have fails : d.Fails := ⟨_, given, present⟩
    refine (prioritizes.errored _).2 ⟨fun m held => runs m ((breaks m).2 held), ?_, ?_⟩
    · exact r.fails_iff.1 fails
    · exact (evaluates _).1 evaluated
  | updated runs clean evaluated =>
    refine (prioritizes.updated _ _).2 ⟨fun m held => runs m ((breaks m).2 held), ?_, ?_, results⟩
    · rintro ⟨fails, n, evaluated'⟩
      exact clean ⟨r.fails_iff.2 fails, n, (evaluates n).2 evaluated'⟩
    · exact fun n => (evaluated n).trans (evaluates n)

/-- Where the breakpoints part at a node, so do the outcomes. -/
theorem outcome_of_split (alike : s.Alike s') (r : d.Respelled d')
    (node : s.graph.hasNode 0 = true) (splits : d.SplitAtZero d') :
    (s'.applyData now' d').2 ≠ (s.applyData now d).2 := by
  intro same
  have prioritizes := (s.acts_applyData now d).prioritizes
  have prioritizes' := (s'.acts_applyData now' d').prioritizes.congr alike.hasNode
  rw [same] at prioritizes'
  exact r.not_breaks_iff node splits ((prioritizes.paused 0).symm.trans (prioritizes'.paused 0))

theorem outcomes_cons (s : Scene) (now text : String) (rest : List (String × String)) :
    s.outcomes ((now, text) :: rest) =
      s.outcomes [(now, text)] ++ (s.receive now text).outcomes rest := by
  rw [outcomes, outcomes, receive, applyText]
  cases Frame.ofText? text <;> rfl

theorem outcomes_of_parsed (s : Scene) (now : String) {f : Frame}
    (parsed : Frame.ofText? text = some f) :
    s.outcomes [(now, text)] = [(s.applyFrame now f).2] := by
  rw [outcomes, applyText, parsed]
  rfl

theorem outcomes_of_malformed (s : Scene) (now : String) (malformed : Frame.ofText? text = none) :
    s.outcomes [(now, text)] = [] := by
  rw [outcomes, applyText, malformed]
  rfl

theorem applyFrame_outcome_iff (alike : s.Alike s') {f f' : Frame} (r : f.Respelled f') :
    (s'.applyFrame now' f').2 = (s.applyFrame now f).2 ↔ (s.graph.hasNode 0 = true →
      ∀ d d', f.data = some d → f'.data = some d' → ¬d.SplitAtZero d') := by
  cases given : f.data with
  | none =>
    have data := r.data
    rw [given] at data
    rw [applyFrame, applyFrame, given, none_of_rel data]
    refine iff_of_true rfl fun _ _ _ given => ?_
    cases given
  | some d =>
    obtain ⟨d', given', r⟩ := exists_of_rel r.data given
    rw [applyFrame, applyFrame, given, given']
    constructor
    · rintro same node _ _ ⟨⟩ ⟨⟩ splits
      exact outcome_of_split alike r node splits same
    · intro clear
      exact outcome_of_respelled alike r fun node => clear node d d' rfl rfl

theorem Alike.receive_iff (alike : s.Alike s') (now now' : String)
    (r : Frame.RespelledIn text text') :
    (s'.outcomes [(now', text')] = s.outcomes [(now, text)] ↔
      (s.graph.hasNode 0 = true → ¬Frame.SplitIn text text')) ∧
    (s'.outcomes [(now', text')] = s.outcomes [(now, text)] →
      (s.receive now text).Alike (s'.receive now' text')) := by
  cases parsed : Frame.ofText? text with
  | none =>
    rw [Frame.RespelledIn, parsed] at r
    have parsed' := none_of_rel r
    have silent : s'.outcomes [(now', text')] = s.outcomes [(now, text)] := by
      rw [s.outcomes_of_malformed now parsed, s'.outcomes_of_malformed now' parsed']
    rw [receive_of_malformed parsed, receive_of_malformed parsed']
    refine ⟨iff_of_true silent ?_, fun _ => alike⟩
    rintro - ⟨f, _, _, _, given, _⟩
    cases parsed.symm.trans given
  | some f =>
    obtain ⟨f', parsed', r⟩ := exists_of_rel r parsed
    rw [s.outcomes_of_parsed now parsed, s'.outcomes_of_parsed now' parsed', List.singleton_inj]
    refine ⟨(applyFrame_outcome_iff alike r).trans (imp_congr_right fun _ => ?_), ?_⟩
    · constructor
      · rintro clear ⟨f, f', d, d', given, given', data, data', splits⟩
        cases parsed.symm.trans given
        cases parsed'.symm.trans given'
        exact clear d d' data data' splits
      · intro clear d d' data data' splits
        exact clear ⟨f, f', d, d', parsed, parsed', data, data', splits⟩
    · exact alike.receive parsed parsed'

theorem respelled_run_iff (alike : s.Alike s') {frames frames' : List (String × String)}
    (r : List.Forall₂ (fun a a' => Frame.RespelledIn a.2 a'.2) frames frames') :
    s'.outcomes frames' = s.outcomes frames ∧
        (s.receiveAll frames).Alike (s'.receiveAll frames') ↔
      List.Forall₂ (fun a a' => s.graph.hasNode 0 = true → ¬Frame.SplitIn a.2 a'.2)
        frames frames' := by
  induction r generalizing s s' with
  | nil => exact iff_of_true ⟨rfl, alike⟩ .nil
  | @cons a a' rest rest' r _ ih =>
    obtain ⟨now, text⟩ := a
    obtain ⟨now', text'⟩ := a'
    have lengths : (s'.outcomes [(now', text')]).length = (s.outcomes [(now, text)]).length := by
      rw [length_outcomes, length_outcomes, List.filter_singleton, List.filter_singleton, r.isSome]
      cases (Frame.ofText? text).isSome <;> rfl
    have known : (s.receive now text).graph.hasNode = s.graph.hasNode :=
      funext (s.receive_reportedAt now text).hasNode
    obtain ⟨same_iff, next⟩ := alike.receive_iff now now' r
    rw [outcomes_cons, outcomes_cons s]
    constructor
    · rintro ⟨same, after⟩
      obtain ⟨first, later⟩ := List.append_inj same lengths
      have clear := (ih (next first)).1 ⟨later, after⟩
      rw [known] at clear
      exact .cons (same_iff.1 first) clear
    · intro clear
      cases clear with
      | cons here clear =>
        have first := same_iff.2 here
        rw [← known] at clear
        obtain ⟨later, after⟩ := (ih (next first)).2 clear
        exact ⟨by rw [first, later], after⟩

/-- An id and its decimal text are one reference. Runs of frames that differ in how they spell their
references have the same outcomes and look the same, from scenes that do, exactly if no frame
breaks at a node 0 by a number on one side and a string on the other. -/
theorem respelled_frames (alike : s.Alike s') {frames frames' : List (String × String)}
    (r : List.Forall₂ (fun a a' => Frame.RespelledIn a.2 a'.2) frames frames') :
    (∀ id : NodeId, minId ≤ id → id ≤ maxId →
      SameReference (.number (.int id)) (.string (String.ofList (integerText id)))) ∧
    (s'.outcomes frames' = s.outcomes frames ∧
        (s.receiveAll frames).Alike (s'.receiveAll frames') ↔
      List.Forall₂ (fun a a' => s.graph.hasNode 0 = true → ¬Frame.SplitIn a.2 a'.2)
        frames frames') :=
  ⟨fun _ => sameReference_integerText, respelled_run_iff alike r⟩

/-- A node 0 does not matter to references other than breakpoints. -/
theorem respelled_beside_node_zero :
    let stored : Snapshot := { nodes := [{ id := 0, type := "Step" }, { id := 5, type := "Step" }] }
    let frame (n zero five : Value) : Value := .object [("data", .object [("breakpoint", n),
      ("evaluation_action", .object [("node_id", zero)]),
      ("results", .object [("0", .object [("node_id", five)])])])]
    let text := (frame (.number (.int 9)) (.number (.int 0)) (.string "5")).compact
    let text' := (frame (.string "9") (.string "0") (.number (.int 5))).compact
    ∃ g, Graph.ofSnapshot stored .empty = .ok g ∧
      ({ graph := g } : Scene).outcomes [("noon", text)] = [.updated (some 0) [5]] ∧
      (({ graph := g } : Scene).receiveAll [("noon", text)]).Alike
        (({ graph := g } : Scene).receiveAll [("one", text')]) := by
  intro stored frame text text'
  have parsed : Frame.ofText? text = some { data := some {
      breakpoint := some (.number (.int 9))
      evaluationAction := some (.object [("node_id", .number (.int 0))])
      results := some [("0", .object [("node_id", .string "5")])] } } := by
    rw [Frame.ofText?, Value.ofText?_compact (by decide +kernel)]
    rfl
  have parsed' : Frame.ofText? text' = some { data := some {
      breakpoint := some (.string "9")
      evaluationAction := some (.object [("node_id", .string "0")])
      results := some [("0", .object [("node_id", .number (.int 5))])] } } := by
    rw [Frame.ofText?, Value.ofText?_compact (by decide +kernel)]
    rfl
  have respelled : Frame.RespelledIn text text' := by
    rw [Frame.RespelledIn, parsed, parsed']
    refine .some ⟨rfl, .some ⟨.some ?_, rfl, .some ?_, .some (.cons ⟨rfl, ?_⟩ .nil), rfl, rfl⟩⟩
    · exact .inr ⟨9, by decide, by decide +kernel⟩
    · exact .inr ⟨_, _, .string "0", rfl, rfl, rfl, .inr ⟨0, by decide, by decide +kernel⟩⟩
    · exact .inr ⟨_, _, .number (.int 5), rfl, rfl, rfl, .inr ⟨5, by decide +kernel, by decide⟩⟩
  have clear : ¬Frame.SplitIn text text' := by
    rintro ⟨f, _, d, _, given, _, data, _, v, _, here, _, zero⟩
    cases parsed.symm.trans given
    cases data
    cases here
    obtain ⟨_, ⟨nine, _⟩ | ⟨nine, _⟩⟩ := zero
    · simp at nine
    · cases nine
  have alone : List.Forall₂ (fun a a' : String × String => Frame.RespelledIn a.2 a'.2)
      [("noon", text)] [("one", text')] := .cons respelled .nil
  have same (s : Scene) := (respelled_frames (.refl s) alone).2.2 (.cons (fun _ => clear) .nil)
  exact ⟨_, rfl, (outcomes_of_parsed _ _ parsed).trans rfl, (same _).2⟩

/-- A breakpoint at a node 0 is one as a string, and none as a number. -/
theorem not_paused_by_number_zero :
    let stored : Snapshot := { nodes := [{ id := 0, type := "Step" }] }
    let frame (n : Value) : Value := .object [("data", .object [("breakpoint", n)])]
    let number := (frame (.number (.int 0))).compact
    let string := (frame (.string "0")).compact
    ∃ g, Graph.ofSnapshot stored .empty = .ok g ∧ Frame.RespelledIn number string ∧
      ({ graph := g } : Scene).outcomes [("noon", number)] = [.updated none []] ∧
      ({ graph := g } : Scene).outcomes [("noon", string)] = [.paused 0] := by
  intro stored frame number string
  have parsed : Frame.ofText? number =
      some { data := some { breakpoint := some (.number (.int 0)) } } := by
    rw [Frame.ofText?, Value.ofText?_compact (by decide +kernel)]
    rfl
  have parsed' : Frame.ofText? string =
      some { data := some { breakpoint := some (.string "0") } } := by
    rw [Frame.ofText?, Value.ofText?_compact (by decide +kernel)]
    rfl
  refine ⟨_, rfl, ?_, (outcomes_of_parsed _ _ parsed).trans rfl,
    (outcomes_of_parsed _ _ parsed').trans ?_⟩
  · rw [Frame.RespelledIn, parsed, parsed']
    exact .some ⟨rfl, .some ⟨.some (.inr ⟨0, rfl, by decide +kernel⟩), rfl, .none, .none, rfl, rfl⟩⟩
  · decide +kernel

end Scene

end Flowgraph
