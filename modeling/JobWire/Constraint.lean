import JobWire.Text.Blank
import JobWire.Text.Integer
import JobWire.Text.Quoted

/-!
# Constraints on the fields of records

A record is built from fields that may or may not have been given.  The fields are looked at in the
order in which the record declares them, and the first one that breaks its constraint is reported:
a value that is required and missing, then a bound or a fixed value, then a rule about blank text.

A record accepts exactly the values that satisfy its constraints, which is said apart, by the
predicates `NotBlank`, `NoneOrNotBlank` and `NoBlankItem`.

**Results.**
* `Slot.text_eq_ok_iff`, `Slot.optionalText_eq_ok_iff`, `Slot.texts_eq_ok_iff`: what the checks
  accept.
-/

namespace JobWire

/-- What is wrong with the value of a field. -/
inductive Violation where
  | required
  | notPositive
  | negative
  | notFixed (expected : String)
  | blank
  | blankItem
  | knownEvent (what : String)
  | dataNotObject
  | reservedNames (names : List String)
  | repeatedName
  | extraNotJson
  | remainingTooLow
  | remainingAboveRetries (retries : Int)
deriving DecidableEq

/-- The text of a rule that is not a mere bound. -/
def Violation.rule (text : String) : String :=
  "Value error, " ++ text

/-- The text of a violation.  The reason is what the reader of JSON says of the text that it does
not take. -/
def Violation.message (reason : String) : Violation → String
  | required => "Field required"
  | notPositive => "Input should be greater than 0"
  | negative => "Input should be greater than or equal to 0"
  | notFixed expected => "Input should be '" ++ expected ++ "'"
  | blank => rule "must not be empty or whitespace"
  | blankItem => rule "must not contain empty or whitespace strings"
  | knownEvent what =>
    rule (Text.quoted what ++ " is a known event type and cannot be a log event")
  | dataNotObject => rule "data must be a mapping of property names to values"
  | reservedNames names => rule ("data cannot contain " ++ Text.quotedList names)
  | repeatedName => rule "data cannot contain duplicate property names"
  | extraNotJson => rule reason
  | remainingTooLow => rule "remaining must be a whole number greater than or equal to -1"
  | remainingAboveRetries retries =>
    match Text.integer retries with
    | .ok digits => rule ("remaining must be less than or equal to retries (" ++ digits ++ ")")
    | .error text => rule text

/-- A value that a record does not accept, with the place of the fault. -/
structure Invalid where
  record : String
  location : String
  violation : Violation
deriving DecidableEq

/-- The text of a refusal. -/
def Invalid.message (reason : String) (i : Invalid) : String :=
  "Invalid " ++ i.record ++ " value for '" ++ i.location ++ "': " ++ i.violation.message reason

/-- A record under construction. -/
abbrev Built (α : Type) := Except Invalid α

/-- The text is not blank. -/
def NotBlank (s : String) : Prop := Text.isBlank s = false

/-- The text is missing or not blank. -/
def NoneOrNotBlank (s : Option String) : Prop := ∀ t ∈ s, NotBlank t

/-- No text of the list is blank. -/
def NoBlankItem (texts : List String) : Prop := ∀ t ∈ texts, NotBlank t

instance (s : String) : Decidable (NotBlank s) :=
  inferInstanceAs (Decidable (Text.isBlank s = false))

instance (texts : List String) : Decidable (NoBlankItem texts) :=
  inferInstanceAs (Decidable (∀ t ∈ texts, NotBlank t))

instance (s : Option String) : Decidable (NoneOrNotBlank s) :=
  match s with
  | none => isTrue (by simp [NoneOrNotBlank])
  | some t => decidable_of_iff (NotBlank t) (by simp [NoneOrNotBlank])

/-- A field of a record. -/
structure Slot where
  record : String
  location : String

namespace Slot

variable (slot : Slot) {α : Type}

/-- The refusal of a field. -/
def refuse (v : Violation) : Built α :=
  .error ⟨slot.record, slot.location, v⟩

/-- A value that must satisfy a condition. -/
def ensure (condition : Prop) [Decidable condition] (v : Violation) (a : α) : Built α :=
  if condition then .ok a else slot.refuse v

/-- A field that must be given. -/
def given : Option α → Built α
  | some a => .ok a
  | none => slot.refuse .required

/-- An integer from zero on. -/
def nonNegative (field : Option Int) : Built Int := do
  let i ← slot.given field
  slot.ensure (0 ≤ i) .negative i

/-- An integer from one on. -/
def positive (field : Option Int) : Built Int := do
  let i ← slot.given field
  slot.ensure (0 < i) .notPositive i

/-- An integer from one on, or nothing. -/
def optionalPositive : Option Int → Built (Option Int)
  | none => .ok none
  | some i => slot.ensure (0 < i) .notPositive (some i)

/-- A text that is not blank. -/
def text (field : Option String) : Built String := do
  let s ← slot.given field
  slot.ensure (NotBlank s) .blank s

/-- A text that is not blank, or nothing. -/
def optionalText (s : Option String) : Built (Option String) :=
  slot.ensure (NoneOrNotBlank s) .blank s

/-- A list of texts of which none is blank. -/
def texts (ts : List String) : Built (List String) :=
  slot.ensure (NoBlankItem ts) .blankItem ts

section Lemmas

variable {slot}

theorem ensure_eq_ok_iff {condition : Prop} [Decidable condition] {v : Violation} {a b : α} :
    slot.ensure condition v a = .ok b ↔ condition ∧ a = b := by
  unfold ensure refuse
  split <;> simp_all

theorem text_eq_ok_iff {field : Option String} {s : String} :
    slot.text field = .ok s ↔ field = some s ∧ NotBlank s := by
  cases field with
  | none => simp [text, given, refuse, bind, Except.bind]
  | some t =>
    simp only [text, given, bind, Except.bind, ensure_eq_ok_iff, Option.some.injEq]
    exact ⟨fun ⟨h, e⟩ => ⟨e, e ▸ h⟩, fun ⟨e, h⟩ => ⟨e ▸ h, e⟩⟩

theorem optionalText_eq_ok_iff {s t : Option String} :
    slot.optionalText s = .ok t ↔ NoneOrNotBlank s ∧ s = t :=
  ensure_eq_ok_iff

theorem texts_eq_ok_iff {ts us : List String} :
    slot.texts ts = .ok us ↔ NoBlankItem ts ∧ ts = us :=
  ensure_eq_ok_iff

end Lemmas

end Slot
end JobWire
