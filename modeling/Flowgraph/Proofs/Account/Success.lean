import Flowgraph.Proofs.Account.Rejection
import Flowgraph.Proofs.Json.Numeral

namespace Flowgraph

open Json

section Mentions

variable {w xs ys : List Char} {c : Char}

theorem mentions_iff {cs : List Char} : mentions w cs = true ↔ w <:+: cs := by
  induction cs with
  | nil => rw [mentions, List.isEmpty_iff, List.infix_nil]
  | cons c cs ih =>
    rw [mentions, Bool.or_eq_true, ih, List.isPrefixOf_iff_prefix, List.infix_cons_iff]

theorem prefix_append_cons_iff (apart : c ∉ w) : w <+: xs ++ c :: ys ↔ w <+: xs := by
  induction xs generalizing w with
  | nil =>
    cases w with
    | nil => simp
    | cons d w =>
      rw [List.nil_append, List.cons_prefix_cons]
      refine iff_of_false (fun same => ?_) (by simp)
      exact apart (same.1 ▸ List.mem_cons_self)
  | cons x xs ih =>
    cases w with
    | nil => simp
    | cons d w =>
      rw [List.cons_append, List.cons_prefix_cons, List.cons_prefix_cons,
        ih (not_or.1 (mt List.mem_cons.2 apart)).2]

theorem infix_append_cons_iff (apart : c ∉ w) :
    w <:+: xs ++ c :: ys ↔ w <:+: xs ∨ w <:+: ys := by
  induction xs with
  | nil =>
    have start : w <+: [] ++ c :: ys ↔ w <+: [] := prefix_append_cons_iff apart
    rw [List.nil_append] at start
    rw [List.nil_append, List.infix_cons_iff, start, List.infix_nil, List.prefix_nil]
  | cons x xs ih =>
    have start : w <+: (x :: xs) ++ c :: ys ↔ w <+: x :: xs := prefix_append_cons_iff apart
    rw [List.cons_append] at start ⊢
    rw [List.infix_cons_iff, start, ih, List.infix_cons_iff, or_assoc]

end Mentions

def Has401 (n : Nat) : Prop := "401".toList <:+: Decimal.digits n

theorem le_of_has401 {n : Nat} (has : Has401 n) : 401 ≤ n := by
  obtain ⟨before, after, text⟩ := has
  have read : Nat.ofDigitChars 10 (Decimal.digits n) 0 = n :=
    Nat.ofDigitChars_toDigits (by decide) (by decide)
  rw [← text, Nat.ofDigitChars_append, Nat.ofDigitChars_append] at read
  have more := le_ofDigitChars after
    (Nat.ofDigitChars 10 "401".toList (Nat.ofDigitChars 10 before 0))
  have here (m : Nat) : Nat.ofDigitChars 10 "401".toList m = 1000 * m + 401 := by
    simp [Nat.ofDigitChars]
    omega
  rw [here] at more read
  omega

namespace Json

theorem byteCount_cons (c : Char) (cs : List Char) :
    byteCount (c :: cs) = c.utf8Size + byteCount cs := by
  have shift (cs : List Char) (n : Nat) :
      cs.foldl (fun n c => n + c.utf8Size) n = n + byteCount cs := by
    induction cs generalizing n with
    | nil => rfl
    | cons c cs ih =>
      rw [byteCount, List.foldl_cons, List.foldl_cons, ih, ih (0 + _)]
      omega
  rw [byteCount, List.foldl_cons, shift, Nat.zero_add]

theorem positionAfter_le (bytes : Nat) (cs : List Char) (line column : Nat) :
    (positionAfter bytes cs (line, column)).1 ≤ line + byteCount cs ∧
      (positionAfter bytes cs (line, column)).2 ≤ column + byteCount cs := by
  induction cs generalizing bytes line column with
  | nil => exact ⟨Nat.le_refl _, Nat.le_refl _⟩
  | cons c cs ih =>
    have some_ := Char.utf8Size_pos c
    rw [positionAfter, byteCount_cons]
    split
    · exact ⟨Nat.le_add_right _ _, Nat.le_add_right _ _⟩
    · split
      · exact ⟨Nat.le_add_right _ _, by omega⟩
      · split
        · obtain ⟨lines, columns⟩ := ih (bytes - c.utf8Size) (line + 1) 0
          exact ⟨by omega, by omega⟩
        · obtain ⟨lines, columns⟩ := ih (bytes - c.utf8Size) line (column + c.utf8Size)
          exact ⟨by omega, by omega⟩

end Json

namespace Failure

theorem uncased_of_isDigit {c : Char} (digit : c.isDigit = true) : uncased c = c := by
  have other : c ≠ '\u212a' := ne_of_isDigit digit (by decide)
  have same : c.toLower = c := by
    refine dif_neg fun upper => ?_
    simp only [Char.isDigit, Bool.and_eq_true, decide_eq_true_eq] at digit
    exact absurd (UInt32.le_trans upper.1 digit.2) (by decide)
  rw [uncased, if_neg other, same]

theorem map_uncased_digits (n : Nat) : (Decimal.digits n).map uncased = Decimal.digits n := by
  refine (List.map_congr_left fun c mem => ?_).trans (List.map_id _)
  exact uncased_of_isDigit (isDigit_of_mem_digits mem)

/-- A text without the words by which a rejection is known. -/
def Unsuspicious (cs : List Char) : Prop :=
  ∀ w ∈ ["401".toList, "unauthorized".toList, "expired".toList], mentions w (cs.map uncased) = false

instance (cs : List Char) : Decidable (Unsuspicious cs) :=
  inferInstanceAs (Decidable (∀ w ∈ _, _))

theorem unsuspicious_cause (cause : Cause) : Unsuspicious cause.message.toList := by
  cases cause <;> decide +kernel

theorem Unsuspicious.free {cs w : List Char} (unsuspicious : Unsuspicious cs)
    (h : w ∈ ["401".toList, "unauthorized".toList, "expired".toList]) :
    ¬w <:+: cs.map uncased := by
  rw [← mentions_iff, unsuspicious w h]
  exact Bool.false_ne_true

theorem map_uncased_message (text : List Char) (f : Fault) :
    (malformed (f.message text)).message.toList.map uncased =
      "Serialization error:".toList.map uncased ++ ' ' :: (f.cause.message.toList.map uncased ++
        ' ' :: ("at line".toList.map uncased ++ ' ' :: (Decimal.digits (f.position text).1 ++
          ' ' :: ("column".toList.map uncased ++ ' ' :: Decimal.digits (f.position text).2)))) := by
  have said : (malformed (f.message text)).message.toList = "Serialization error:".toList ++
      ' ' :: (f.cause.message.toList ++ ' ' :: ("at line".toList ++
        ' ' :: (Decimal.digits (f.position text).1 ++
          ' ' :: ("column".toList ++ ' ' :: Decimal.digits (f.position text).2)))) := by
    have start : "Serialization error: ".toList = "Serialization error:".toList ++ [' '] := by
      decide +kernel
    have line : " at line ".toList = ' ' :: ("at line".toList ++ [' ']) := by decide +kernel
    have column : " column ".toList = ' ' :: ("column".toList ++ [' ']) := by decide +kernel
    have number (n : Nat) : (toString n).toList = Decimal.digits n := by simp [Decimal.digits]
    have worded : (malformed (f.message text)).message = "Serialization error: " ++
        (f.cause.message ++ " at line " ++ toString (f.position text).1 ++ " column " ++
          toString (f.position text).2) := rfl
    rw [worded]
    simp only [String.toList_append, number, start, line, column, List.append_assoc,
      List.cons_append, List.nil_append]
  have blank : uncased ' ' = ' ' := by decide
  rw [said]
  simp only [List.map_append, List.map_cons, map_uncased_digits, blank]

/-- The words of a rejection stand in the message of a fault only where it tells the position. -/
theorem infix_message_iff {w : List Char}
    (h : w ∈ ["401".toList, "unauthorized".toList, "expired".toList]) (text : List Char)
    (f : Fault) : w <:+: (malformed (f.message text)).message.toList.map uncased ↔
      w <:+: Decimal.digits (f.position text).1 ∨ w <:+: Decimal.digits (f.position text).2 := by
  have apart : ∀ w ∈ ["401".toList, "unauthorized".toList, "expired".toList], ' ' ∉ w := by
    decide
  have heading : Unsuspicious "Serialization error:".toList := by decide +kernel
  have line : Unsuspicious "at line".toList := by decide +kernel
  have column : Unsuspicious "column".toList := by decide +kernel
  rw [map_uncased_message]
  simp only [infix_append_cons_iff (apart w h), heading.free h, line.free h,
    column.free h, (unsuspicious_cause f.cause).free h, false_or]

theorem not_infix_digits {w : List Char} {c : Char} (mem : c ∈ w) (letter : c.isDigit = false)
    (n : Nat) : ¬w <:+: Decimal.digits n := by
  intro within
  exact absurd (isDigit_of_mem_digits (within.mem mem)) (letter ▸ Bool.false_ne_true)

/-- A body that is no JSON counts as a rejection just for the position where it is broken. -/
theorem rejectsSession_malformed_iff (text : List Char) (f : Fault) :
    (malformed (f.message text)).rejectsSession = true ↔
      Has401 (f.position text).1 ∨ Has401 (f.position text).2 := by
  have number := infix_message_iff (w := "401".toList) (by simp) text f
  have unauthorized : speaksOf "unauthorized" (malformed (f.message text)).message = false := by
    have word := infix_message_iff (w := "unauthorized".toList) (by simp) text f
    rw [speaksOf, ← Bool.not_eq_true, mentions_iff, word]
    have letter (n : Nat) := not_infix_digits (w := "unauthorized".toList) (c := 'u') (by decide)
      (by decide) n
    exact not_or.2 ⟨letter _, letter _⟩
  have expired : speaksOf "token expired" (malformed (f.message text)).message = false := by
    have word := infix_message_iff (w := "expired".toList) (by simp) text f
    have letter (n : Nat) := not_infix_digits (w := "expired".toList) (c := 'e') (by decide)
      (by decide) n
    have part : "expired".toList <:+: "token expired".toList := ⟨"token ".toList, [], rfl⟩
    rw [speaksOf, ← Bool.not_eq_true, mentions_iff]
    intro said
    exact not_or.2 ⟨letter _, letter _⟩ (word.1 (part.trans said))
  have searched : (malformed (f.message text)).rejectsSession =
      (speaksOf "401" (malformed (f.message text)).message ||
        namesRejection (malformed (f.message text)).message) := rfl
  rw [searched, namesRejection, unauthorized, expired, Bool.or_false, Bool.or_false, speaksOf,
    mentions_iff, number]
  rfl

end Failure

/-- A body with something in it that is no JSON, and is broken where the number of the line or of
the column is written with 401. -/
def BrokenAt401 (body : String) : Prop :=
  body.toList.all isWhite = false ∧ ∃ f, Value.read body = .error f ∧
    (Has401 (f.position body.toList).1 ∨ Has401 (f.position body.toList).2)

theorem not_brokenAt401_of_short {body : String} (short : byteCount body.toList < 400) :
    ¬BrokenAt401 body := by
  rintro ⟨_, f, _, numbered⟩
  obtain ⟨lines, columns⟩ := positionAfter_le
    (byteCount body.toList - byteCount f.left + f.ahead) body.toList 1 0
  rcases numbered with line | column
  · have most : (f.position body.toList).1 ≤ 1 + byteCount body.toList := lines
    have least := le_of_has401 line
    omega
  · have most : (f.position body.toList).2 ≤ 0 + byteCount body.toList := columns
    have least := le_of_has401 column
    omega

/-- The value of a successful reply is a failure that counts as a rejection just for such bodies. -/
theorem Reply.rejects_iff {status : Nat} (success : 200 ≤ status ∧ status < 300) (body : String) :
    (∃ f, (answered status body).value = .error f ∧ f.rejectsSession = true) ↔
      BrokenAt401 body := by
  have accepted : isFailure status = false := by
    simp only [isFailure, Bool.and_eq_false_iff, decide_eq_false_iff_not]
    omega
  rw [value, accepted, if_neg Bool.false_ne_true, BrokenAt401]
  cases body.toList.all isWhite with
  | true => simp
  | false =>
    rw [if_neg Bool.false_ne_true]
    cases Value.read body with
    | ok v => simp
    | error f => simp [Failure.rejectsSession_malformed_iff]

namespace Account

theorem receive_of_success (a : Account) (body : String) {status : Nat}
    (success : 200 ≤ status ∧ status < 300) :
    (¬BrokenAt401 body → (a.receive (.answered status body)).1 = a) ∧
      (BrokenAt401 body → (a.receive (.answered status body)).1 = a.forget.redirect) := by
  rw [← Reply.rejects_iff success]
  unfold receive
  cases (Reply.answered status body).value with
  | ok v => exact ⟨fun _ => rfl, fun ⟨_, failed, _⟩ => nomatch failed⟩
  | error f =>
    constructor
    · intro accepted
      exact if_neg fun rejects => accepted ⟨f, rfl, rejects⟩
    · rintro ⟨_, ⟨⟩, rejects⟩
      exact if_pos rejects

theorem current_of_unexpired {a : Account} {now : Float}
    (unexpired : ∀ s, a.stored? = some s → s.isExpired now = false) : (a.current now).1 = a := by
  cases stored : a.stored? with
  | none => rw [current_of_absent stored]
  | some s => simp [current, stored, unexpired s stored]

end Account

namespace Workspace

/-- After a successful reply, whatever its body, an account is as the look-up of the session left
it, unless the body is broken at a position with 401 in it: only then the session is forgotten and
the user sent to sign in. Short bodies are not. The look-up takes away only a session that has
ended. -/
theorem success_keeps_session (w : Workspace) (c : Clock) (r : Request) {status : Nat}
    {body : String} (success : 200 ≤ status ∧ status < 300)
    (replied : (w.remote.exchange r (w.account.headers c.seconds).2).2 = .answered status body) :
    (w.ask c r).2 = (Reply.answered status body).value ∧
      (¬BrokenAt401 body → (w.ask c r).1.account = (w.account.current c.seconds).1) ∧
      (BrokenAt401 body →
        (w.ask c r).1.account = (w.account.current c.seconds).1.forget.redirect) ∧
      (byteCount body.toList < 400 → ¬BrokenAt401 body) ∧
      ((∀ s, w.account.stored? = some s → s.isExpired c.seconds = false) →
        (w.account.current c.seconds).1 = w.account) := by
  have asked : (w.ask c r).2 = ((w.account.current c.seconds).1.receive
        (w.remote.exchange r (w.account.headers c.seconds).2).2).2 ∧
      (w.ask c r).1.account = ((w.account.current c.seconds).1.receive
        (w.remote.exchange r (w.account.headers c.seconds).2).2).1 := ⟨rfl, rfl⟩
  rw [replied] at asked
  obtain ⟨kept, forgotten⟩ := (w.account.current c.seconds).1.receive_of_success body success
  refine ⟨asked.1.trans ?_, ?_, ?_, not_brokenAt401_of_short, Account.current_of_unexpired⟩
  · exact Account.receive_snd _ _
  · exact fun whole => asked.2.trans (kept whole)
  · exact fun broken => asked.2.trans (forgotten broken)

/-- A workspace with a session in memory that has no end, and a backend that answers with a body. -/
def signedIn (body : String) : Workspace :=
  create { (default : Settings) with authEnabled := true, sessionKey := "user" }
    (.memory (SortedMap.empty.insert "user" (Value.object
      [("authenticator", .string "google-sign-in"), ("token", .string "abc")]).compact))
    { Backend.unreachable with reply := .answered 200 body } {}

theorem signedIn_unexpired (body : String) (now : Float) :
    ∀ s, (signedIn body).account.stored? = some s → s.isExpired now = false := by
  intro s stored
  have keyed : (signedIn body).account.key = some "user" := rfl
  obtain ⟨text, record, parsed⟩ := (Account.stored?_eq_some_iff keyed).1 stored
  cases record
  have endless := congrArg (Option.map (·.expiration)) parsed
  have read : (Session.ofText? (Value.object [("authenticator", .string "google-sign-in"),
      ("token", .string "abc")]).compact).map (·.expiration) = some none := by decide +kernel
  rw [read, Option.map_some, Option.some.injEq] at endless
  rw [Session.isExpired, ← endless]
  rfl

/-- A body that breaks off leaves the session in its place. -/
theorem session_kept_through_open_brace :
    ((signedIn "\x7b").ask (.atMillis 0 []) .extensions).2.toOption = none ∧
      ((signedIn "\x7b").ask (.atMillis 0 []) .extensions).1.account =
        (signedIn "\x7b").account := by
  obtain ⟨failed, kept, _, short, unexpired⟩ :=
    (signedIn "\x7b").success_keeps_session (.atMillis 0 []) .extensions (by decide) rfl
  rw [failed, kept (short (by decide)), unexpired (signedIn_unexpired _ _)]
  exact ⟨by decide +kernel, rfl⟩

def blanksAndLetter : String := String.ofList (List.replicate 400 ' ' ++ ['x'])

theorem brokenAt401_of_blanks : BrokenAt401 blanksAndLetter := by
  have skipped : Reader.skipBlanks (List.replicate 400 ' ' ++ ['x']) = ['x'] := by decide +kernel
  have listed : blanksAndLetter.toList = List.replicate 400 ' ' ++ ['x'] := String.toList_ofList
  have unquoted : Value.read blanksAndLetter = .error (Reader.here .noValue ['x']) := by
    rw [Value.read, listed, Reader.text, Reader.value, skipped]
    rfl
  have place : (Reader.here .noValue ['x']).position (List.replicate 400 ' ' ++ ['x']) =
      (1, 401) := by decide +kernel
  rw [BrokenAt401, listed]
  refine ⟨?_, _, unquoted, .inr ?_⟩
  · rw [List.all_eq_false]
    exact ⟨'x', List.mem_append_right _ List.mem_cons_self, by decide⟩
  · rw [place]
    exact ⟨[], [], by decide⟩

theorem signedIn_signed_out {body : String} (broken : BrokenAt401 body) :
    ((signedIn body).ask (.atMillis 0 []) .extensions).1.account =
      (signedIn body).account.forget.redirect := by
  have asked : ((signedIn body).ask (.atMillis 0 []) .extensions).1.account =
      (((signedIn body).account.current (Clock.atMillis 0 []).seconds).1.receive
        (.answered 200 body)).1 := rfl
  have success : 200 ≤ 200 ∧ 200 < 300 := by decide
  rw [asked, (Account.receive_of_success _ body success).2 broken,
    Account.current_of_unexpired (signedIn_unexpired _ _)]

/-- A body of blanks with one letter behind them signs the user out. -/
theorem signed_out_by_blanks :
    ((signedIn blanksAndLetter).account.storage.get? "user").toOption.join.isSome = true ∧
      (signedIn blanksAndLetter).account.signedOut = false ∧
      (((signedIn blanksAndLetter).ask (.atMillis 0 []) .extensions).1.account.storage.get?
        "user").toOption = some none ∧
      ((signedIn blanksAndLetter).ask (.atMillis 0 []) .extensions).1.account.signedOut = true := by
  rw [signedIn_signed_out brokenAt401_of_blanks]
  exact ⟨rfl, rfl, rfl, rfl⟩

end Workspace

end Flowgraph
