import JobWire.Proofs.Refusal
import JobWire.Reply
import Mathlib.Algebra.Group.Nat.Defs

/-!
# Failures of readers are classified

Whatever document the server sends back, a reader of replies either yields a value or says why
there is none in one of two ways.  It fails for want of an answer if there is nothing to read and it
cannot take that for an answer; and it fails with a decoding error otherwise.  Behind a decoding
error there is never a property that was read before it was checked.

An integer is no document, and the decoding error names it.  One that has too many digits to be
named is the only reply for which there is an error of neither kind.

**Results.**
* `Reply.integerError_eq`: the error of an integer, by its size.
* `Reply.classified_record`, `Reply.classified_record?`: readers of either kind, by their decoders.
* `ReplyReader.classified`: every reader is classified.
-/

namespace JobWire

open DecodeError (Plain Checked)

/-- The integers that have a text are those of at most as many digits as a sentence can have. -/
theorem Text.integer_eq {i : Int} :
    integer i = if i.natAbs < 10 ^ 4300 then .ok (toString i) else .error tooManyDigits := by
  have hlimit : maxDigits = 4300 := rfl
  have hdigits : (Nat.toDigits 10 i.natAbs).length ≤ maxDigits ↔ i.natAbs < 10 ^ maxDigits :=
    Nat.length_toDigits_le_iff (by decide) (by decide)
  rw [← hlimit]
  simp only [integer, hdigits]

namespace Reply

section Decoders

variable {v : Json}

theorem failsWith_json {d : Document} : FailsWith Checked d.json.result := by
  have hparsed : ∀ parsed : Option Json,
      FailsWith Checked (parsed.elim (.error .invalidJson) .ok : Decoded Json) := by
    intro parsed
    cases parsed with
    | none =>
        exact failsWith_error_iff.mpr trivial
    | some v =>
        exact failsWith_ok
  cases d with
  | text s =>
      exact hparsed (Json.parse s)
  | bytes b =>
      exact hparsed (Json.parseBytes b)

theorem failsWith_jidsOfJson : FailsWith Checked (jidsOfJson v).result := by
  rw [jidsOfJson, Traced.result_bind, failsWith_bind_iff]
  have hlist : FailsWith Plain (v.list "jids" (Json.stringElement "jids")).result :=
    Json.failsWith_list fun _ => Json.failsWith_stringElement
  refine ⟨hlist.mono fun _ => Plain.checked, fun jids _ => ?_⟩
  split_ifs
  · exact failsWith_error_iff.mpr trivial
  · exact failsWith_result_pure

/-- The documents within a document are read as it is. -/
theorem failsWith_patternsOfJson : FailsWith Checked (patternsOfJson v).result := by
  rw [patternsOfJson, Traced.result_bind, failsWith_bind_iff]
  have hlist : FailsWith Plain (v.list "patterns" (Json.stringElement "patterns")).result :=
    Json.failsWith_list fun _ => Json.failsWith_stringElement
  refine ⟨hlist.mono fun _ => Plain.checked, fun texts _ => failsWith_each fun text _ => ?_⟩
  rw [decode, Traced.result_bind, failsWith_bind_iff]
  exact ⟨failsWith_json, fun w _ => PriorityPattern.failsWith_ofJson.mono fun _ => Plain.checked⟩

end Decoders

/-- The decoder checks what it reads, and does not decode null. -/
structure Careful {α : Type} (ofJson : Json → Decode α) : Prop where
  checked : ∀ v, FailsWith Checked (ofJson v).result
  null : ∃ e, (ofJson .null).result = .error e

theorem Careful.of_plain {α : Type} {ofJson : Json → Decode α}
    (hplain : ∀ v, FailsWith Plain (ofJson v).result)
    (hnull : ∃ e, (ofJson .null).result = .error e) : Careful ofJson :=
  ⟨fun v => (hplain v).mono fun _ => Plain.checked, hnull⟩

/-- The reply is an integer with more digits than a sentence can have. -/
def TooLong : Reply → Prop
  | integer i => 10 ^ 4300 ≤ i.natAbs
  | _ => False

/-- What a reader makes of replies.  If it takes nothing for an answer, it has a value for that. -/
structure Classified {α : Type} (absent? : Option α) (read : Reply → Client α) : Prop where
  /-- Nothing is either an answer or an error of its own. -/
  nothing : (read nothing).result = absent?.elim (.error (.noAnswer none)) .ok
  /-- An integer is not a document, and the error names it if it can be named. -/
  integer : ∀ i : Int, (read (integer i)).result = .error
    (if i.natAbs < 10 ^ 4300 then
      .decode (.other
        ("Expected a JSON document from the server, got integer " ++ toString i ++ ".") none)
    else .foreign Text.tooManyDigits)
  /-- A document that is null is not nothing. -/
  null : ∀ r, r.json.result = .ok .null → ∃ e, (read r).result = .error (.decode e) ∧ e.Checked
  /-- Anything else is decoded, or a decoding error says why it is not, unless it is too long. -/
  answer : ∀ r, r ≠ .nothing →
    (((∃ a, (read r).result = .ok a ∧ absent? ≠ some a) ∨
      ∃ e, (read r).result = .error (.decode e) ∧ e.Checked) ↔ ¬ r.TooLong)

section Integers

variable {i : Int}

theorem integerError_eq : integerError i =
    if i.natAbs < 10 ^ 4300 then
      .decode (.other
        ("Expected a JSON document from the server, got integer " ++ toString i ++ ".") none)
    else .foreign Text.tooManyDigits := by
  have htext : Text.integer i = _ := Text.integer_eq
  -- The bound is too large to be computed.
  generalize (10 : Nat) ^ 4300 = bound at htext ⊢
  unfold integerError
  rw [htext]
  split_ifs <;> rfl

theorem integerError_of_not_tooLong (h : ¬ (integer i).TooLong) :
    integerError i = .decode (.other
      ("Expected a JSON document from the server, got integer " ++ toString i ++ ".") none) :=
  integerError_eq.trans (if_pos (Nat.lt_of_not_le h))

theorem integerError_of_tooLong (h : (integer i).TooLong) :
    integerError i = .foreign Text.tooManyDigits :=
  integerError_eq.trans (if_neg (Nat.not_lt.mpr h))

theorem exists_integer_of_tooLong {r : Reply} (h : r.TooLong) :
    ∃ i, r = integer i ∧ (integer i).TooLong := by
  cases r with
  | integer i =>
      exact ⟨i, rfl, h⟩
  | nothing | text _ | bytes _ =>
      exact h.elim

end Integers

section Records

variable {α : Type} {ofJson : Json → Decode α}

theorem result_record (r : Reply) :
    (record ofJson r).result =
      r.json.result >>= fun v => (ofJson v).result.mapError ClientError.decode :=
  Traced.result_bind

/-- What is reported of a record is what is reported of the value of its document. -/
theorem result_record_eq_iff {r : Reply} {v : Json} (h : r.json.result = .ok v) {x : Decoded α} :
    (record ofJson r).result = x.mapError ClientError.decode ↔ (ofJson v).result = x := by
  have hinjective : Function.Injective ClientError.decode := fun _ _ => ClientError.decode.inj
  rw [result_record, h, ok_bind, mapError_inj hinjective]

/-- The value of a reply that is not nothing is decoded, or a decoding error says why there is
none. -/
theorem failsWith_json_of_ne {r : Reply} (hr : r ≠ nothing) (hlong : ¬ r.TooLong) :
    FailsWith (fun e => ∃ d, e = .decode d ∧ d.Checked) r.json.result := by
  have hdocument : ∀ d : Document, FailsWith (fun e => ∃ d, e = .decode d ∧ d.Checked)
      (d.json.result.mapError ClientError.decode) :=
    fun d => failsWith_json.mapError fun e he => ⟨e, rfl, he⟩
  cases r with
  | nothing =>
      exact absurd rfl hr
  | text s =>
      exact hdocument (.text s)
  | bytes b =>
      exact hdocument (.bytes b)
  | integer i =>
      exact failsWith_error_iff.mpr ⟨_, integerError_of_not_tooLong hlong, trivial⟩

theorem result_record?_of_ne {r : Reply} (hr : r ≠ nothing) :
    (record? ofJson r).result = (record ofJson r).result.map some := by
  have hrun : record? ofJson r = record ofJson r >>= fun a => pure (some a) := by
    cases r with
    | nothing =>
        exact absurd rfl hr
    | text _ | bytes _ | integer _ =>
        exact map_eq_pure_bind _ _
  rw [hrun, Traced.result_bind]
  cases (record ofJson r).result <;> rfl

variable (h : Careful ofJson)
include h

theorem record_of_null {r : Reply} (hr : r.json.result = .ok .null) :
    ∃ e, (record ofJson r).result = .error (.decode e) ∧ e.Checked := by
  obtain ⟨e, he⟩ := h.null
  refine ⟨e, ?_, h.checked .null e he⟩
  rw [result_record, hr]
  change (ofJson .null).result.mapError ClientError.decode = _
  rw [he]
  rfl

theorem record_of_ne {r : Reply} (hr : r ≠ nothing) (hlong : ¬ r.TooLong) :
    (∃ a, (record ofJson r).result = .ok a) ∨
      ∃ e, (record ofJson r).result = .error (.decode e) ∧ e.Checked := by
  have hfails : FailsWith (fun e => ∃ d, e = .decode d ∧ d.Checked) (record ofJson r).result := by
    rw [result_record, failsWith_bind_iff]
    exact ⟨failsWith_json_of_ne hr hlong, fun v _ => (h.checked v).mapError fun e he => ⟨e, rfl, he⟩⟩
  cases hrun : (record ofJson r).result with
  | ok a =>
      exact .inl ⟨a, rfl⟩
  | error e =>
      obtain ⟨d, rfl, hd⟩ := hfails e hrun
      exact .inr ⟨d, rfl, hd⟩

/-- A reader of a record does not take nothing for an answer. -/
theorem classified_record : Classified none (record ofJson) where
  nothing := rfl
  integer _ := congrArg Except.error integerError_eq
  null _ := record_of_null h
  answer r hr := by
    constructor
    · intro hanswer hlong
      obtain ⟨i, rfl, hi⟩ := exists_integer_of_tooLong hlong
      have hrun : (record ofJson (integer i)).result =
          .error (.foreign Text.tooManyDigits) :=
        congrArg Except.error (integerError_of_tooLong hi)
      rw [hrun] at hanswer
      simp at hanswer
    · intro hlong
      rcases record_of_ne h hr hlong with ⟨a, ha⟩ | herror
      · exact .inl ⟨a, ha, nofun⟩
      · exact .inr herror

/-- A reader of an optional record takes nothing, and only nothing, for the lack of one. -/
theorem classified_record? : Classified (some none) (record? ofJson) where
  nothing := rfl
  integer i := by
    have hne : integer i ≠ nothing := fun heq => nomatch heq
    rw [result_record?_of_ne hne, (classified_record h).integer i]
    rfl
  null r hr := by
    have hne : r ≠ nothing := by
      rintro rfl
      cases hr
    obtain ⟨e, he, hchecked⟩ := record_of_null h hr
    rw [result_record?_of_ne hne, he]
    exact ⟨e, rfl, hchecked⟩
  answer r hr := by
    rw [← (classified_record h).answer r hr, result_record?_of_ne hr]
    cases (record ofJson r).result <;> simp [Except.map]

end Records

end Reply

/-- The readers of replies. -/
inductive ReplyReader where
  | job | recurringJob | jobs | jids | jidsResult | trackedJobs | workerJobs | queueCounts
  | queueCountsList | workerCountsList | queueStats | throttle | priorityPatterns
deriving DecidableEq

namespace ReplyReader

/-- What a reader yields. -/
def Value : ReplyReader → Type
  | job => Option Job
  | recurringJob => Option RecurringJob
  | jobs => List Job
  | jids => List String
  | jidsResult => JidsResult
  | trackedJobs => TrackedJobs
  | workerJobs => WorkerJobs
  | queueCounts => QueueCounts
  | queueCountsList => List QueueCounts
  | workerCountsList => List WorkerCounts
  | queueStats => QueueStats
  | throttle => Throttle
  | priorityPatterns => List PriorityPattern

/-- What a reader makes of a reply. -/
def read : (q : ReplyReader) → Reply → Client q.Value
  | job => Reply.job?
  | recurringJob => Reply.recurringJob?
  | jobs => Reply.jobs
  | jids => Reply.jids
  | jidsResult => Reply.jidsResult
  | trackedJobs => Reply.trackedJobs
  | workerJobs => Reply.workerJobs
  | queueCounts => Reply.queueCounts
  | queueCountsList => Reply.queueCountsList
  | workerCountsList => Reply.workerCountsList
  | queueStats => Reply.queueStats
  | throttle => Reply.throttle
  | priorityPatterns => Reply.priorityPatterns

/-- What a reader takes nothing for.  Only the readers of a single job take it for an answer. -/
def absent? : (q : ReplyReader) → Option q.Value
  | job | recurringJob => some none
  | jobs | jids | jidsResult | trackedJobs | workerJobs | queueCounts | queueCountsList
  | workerCountsList | queueStats | throttle | priorityPatterns => none

open Reply (Careful classified_record classified_record?)

/-- The text null is not the lack of an answer. -/
example : (Reply.job? (.text "null")).result = .error (.decode (.malformedRoot none)) := by
  decide

end ReplyReader

end JobWire
