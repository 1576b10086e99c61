import JobWire.Proofs.Grammar

/-!
# Declarations

A type of records declares its fields in order.  A field must be given or has a default, and what is
given for it may have to satisfy a rule of its own.  A record may have a rule on all of its fields
besides, which comes last.

A `Declaration` lists the rules in the order in which they are looked at, as rules on the
*arguments* that a record is built from, and says which record the arguments stand for when all is
well.  A builder is *declared* by it when it fails as the first rule that the arguments break, and
yields the record that they stand for.

**Results.**
* `Declaration.errorOf?_bind`: a check of one field, and then of the others.
* `Declaration.Declares.exists_build_iff`: a declared builder succeeds exactly when the arguments
  keep every rule.
* `Declaration.Declares.mapError_build_eq_iff`: a declared builder has the declared outcome, for all
  arguments.
-/

namespace JobWire

namespace Rule

variable {α β : Type}

/-- A field that must be given, with a rule on what is given. -/
def given (field : α → Option β) (rule : Rule β) : Rule α :=
  ⟨rule.location, fun a => (field a).elim (some .required) rule.violation?⟩

/-- A field that has a default, with a rule on what is given. -/
def defaulted (field : α → Option β) (rule : Rule β) : Rule α :=
  ⟨rule.location, fun a => (field a).elim none rule.violation?⟩

/-- A field of which anything is accepted. -/
def any (location : String) : Rule α :=
  ⟨location, fun _ => none⟩

/-- The rule that an integer is missing or positive. -/
def optionalPositive (location : String) (field : α → Option Int) : Rule α :=
  ⟨location, fun a => (field a).elim none (positive location id).violation?⟩

/-- How a record is refused that breaks the rule. -/
def refusal? (record : String) (rule : Rule α) (a : α) : Option Invalid :=
  (rule.violation? a).map (Invalid.mk record rule.location)

end Rule

/-- How a record is built of arguments: the rules on these, in order, and the records that they
stand for. -/
structure Declaration (α β : Type) where
  record : String
  rules : List (Rule α)
  Gives : α → β → Prop

namespace Slot

variable {slot : Slot} {α β : Type} {fault? : α → Option Violation} {check : α → Built β}

/-- The refusal of a field, if its value is at fault. -/
def report (slot : Slot) (fault : Option Violation) : Option Invalid :=
  fault.map (Invalid.mk slot.record slot.location)

theorem errorOf?_ensure {condition : Prop} [Decidable condition] {violation : Violation} {a : α} :
    errorOf? (slot.ensure condition violation a) =
      slot.report (if condition then none else some violation) := by
  unfold ensure
  split_ifs
  · rfl
  · rfl

/-- A field that must be given is checked when it is. -/
theorem errorOf?_given_bind {field : Option α}
    (hcheck : ∀ a, errorOf? (check a) = slot.report (fault? a)) :
    errorOf? (slot.given field >>= check) = slot.report (field.elim (some .required) fault?) := by
  cases field with
  | none =>
      rfl
  | some a =>
      exact hcheck a

theorem errorOf?_given {field : Option α} :
    errorOf? (slot.given field) = slot.report (field.elim (some .required) fun _ => none) := by
  cases field with
  | none =>
      rfl
  | some a =>
      rfl

/-- A field that has a default is checked as if it were given, and a default is never at fault. -/
theorem errorOf?_getD {field : Option α} {default : α}
    (hcheck : ∀ a, errorOf? (check a) = slot.report (fault? a)) (hdefault : fault? default = none) :
    errorOf? (check (field.getD default)) = slot.report (field.elim none fault?) := by
  cases field with
  | none =>
      rw [Option.getD_none, hcheck, hdefault, Option.elim_none]
  | some a =>
      exact hcheck a

/-- A rule on the whole record is reported at its own place. -/
theorem errorOf?_match {a : α} {fault : Option Violation} :
    errorOf? (match fault with | none => pure a | some v => slot.refuse v) = slot.report fault := by
  cases fault with
  | none =>
      rfl
  | some v =>
      rfl

theorem errorOf?_text {field : Option String} :
    errorOf? (slot.text field) =
      slot.report (field.elim (some .required) fun s => if NotBlank s then none else some .blank) :=
  errorOf?_given_bind fun _ => errorOf?_ensure

theorem errorOf?_nonNegative {field : Option Int} :
    errorOf? (slot.nonNegative field) =
      slot.report (field.elim (some .required) fun i => if 0 ≤ i then none else some .negative) :=
  errorOf?_given_bind fun _ => errorOf?_ensure

theorem errorOf?_positive {field : Option Int} :
    errorOf? (slot.positive field) =
      slot.report
        (field.elim (some .required) fun i => if 0 < i then none else some .notPositive) :=
  errorOf?_given_bind fun _ => errorOf?_ensure

theorem errorOf?_optionalPositive {field : Option Int} :
    errorOf? (slot.optionalPositive field) =
      slot.report (field.elim none fun i => if 0 < i then none else some .notPositive) := by
  cases field with
  | none =>
      rfl
  | some i =>
      exact errorOf?_ensure

theorem errorOf?_optionalText {field : Option String} :
    errorOf? (slot.optionalText field) =
      slot.report (if NoneOrNotBlank field then none else some .blank) :=
  errorOf?_ensure

theorem errorOf?_texts {field : List String} :
    errorOf? (slot.texts field) =
      slot.report (if NoBlankItem field then none else some .blankItem) :=
  errorOf?_ensure

section Defaults

theorem errorOf?_optionalPositive_getD (field : Option (Option Int)) :
    errorOf? (slot.optionalPositive (field.getD none)) =
      slot.report (field.elim none fun i? =>
        i?.elim none fun i => if 0 < i then none else some .notPositive) :=
  errorOf?_getD (fun _ => errorOf?_optionalPositive) rfl

theorem errorOf?_optionalText_getD (field : Option (Option String)) :
    errorOf? (slot.optionalText (field.getD none)) =
      slot.report (field.elim none fun s? =>
        if NoneOrNotBlank s? then none else some .blank) :=
  errorOf?_getD (fun _ => errorOf?_optionalText) rfl

theorem errorOf?_texts_getD (field : Option (List String)) :
    errorOf? (slot.texts (field.getD [])) =
      slot.report (field.elim none fun ts =>
        if NoBlankItem ts then none else some .blankItem) :=
  errorOf?_getD (fun _ => errorOf?_texts) rfl

end Defaults

end Slot

namespace Declaration

variable {α β : Type}

/-- The refusal of the first rule that the arguments break. -/
def firstRefusal? (record : String) (rules : List (Rule α)) (a : α) : Option Invalid :=
  rules.findSome? fun rule => rule.refusal? record a

section Checks

variable {γ δ : Type} {record : String} {rule : Rule α} {rules : List (Rule α)} {a : α}
  {x : Built γ} {f : γ → Built δ}

/-- A check that goes on with the others fails as its rule does, or else as they do. -/
theorem errorOf?_bind {k : γ → Built β} (hx : errorOf? x = rule.refusal? record a)
    (hk : ∀ c, x = .ok c → errorOf? (k c) = firstRefusal? record rules a) :
    errorOf? (x >>= k) = firstRefusal? record (rule :: rules) a := by
  rw [firstRefusal?, List.findSome?_cons, ← hx]
  cases x with
  | error i =>
      rfl
  | ok c =>
      exact hk c rfl

/-- The same of a check in two steps. -/
theorem errorOf?_bind_bind {k : δ → Built β} (hx : errorOf? (x >>= f) = rule.refusal? record a)
    (hk : ∀ d, errorOf? (k d) = firstRefusal? record rules a) :
    errorOf? (x >>= fun c => f c >>= k) = firstRefusal? record (rule :: rules) a := by
  rw [← bind_assoc]
  exact errorOf?_bind hx fun d _ => hk d

theorem firstRefusal?_singleton : firstRefusal? record [rule] a = rule.refusal? record a := by
  rw [firstRefusal?, List.findSome?_cons, List.findSome?_nil]
  cases rule.refusal? record a <;> rfl

theorem firstRefusal?_eq_none_iff :
    firstRefusal? record rules a = none ↔ ∀ rule ∈ rules, rule.violation? a = none := by
  rw [firstRefusal?, List.findSome?_eq_none_iff]
  exact forall₂_congr fun _ _ => Option.map_eq_none_iff

theorem firstRefusal?_eq_some_iff {i : Invalid} :
    firstRefusal? record rules a = some i ↔
      ∃ rule violation, IsFirst (fun rule => rule.violation? a ≠ none) rules rule ∧
        rule.violation? a = some violation ∧ i = ⟨record, rule.location, violation⟩ := by
  have hfault : (fun rule : Rule α => rule.refusal? record a ≠ none) =
      fun rule => rule.violation? a ≠ none :=
    funext fun _ => propext (not_congr Option.map_eq_none_iff)
  rw [firstRefusal?, findSome?_eq_some_iff_isFirst, hfault]
  constructor
  · rintro ⟨rule, hfirst, hrefusal⟩
    obtain ⟨violation, hviolation, rfl⟩ := Option.map_eq_some_iff.mp hrefusal
    exact ⟨rule, violation, hfirst, hviolation, rfl⟩
  · rintro ⟨rule, violation, hfirst, hviolation, rfl⟩
    refine ⟨rule, hfirst, ?_⟩
    rw [Rule.refusal?, hviolation, Option.map_some]

end Checks

/-- What is made of arguments: the record that they stand for if they keep every rule, and otherwise
a refusal for the first rule that they break, at its own place. -/
inductive Outcome (d : Declaration α β) (a : α) : Decoded β → Prop
  | built {b : β} :
      (∀ rule ∈ d.rules, rule.violation? a = none) →
      d.Gives a b →
      Outcome d a (.ok b)
  | refused {rule : Rule α} {violation : Violation} :
      IsFirst (fun rule => rule.violation? a ≠ none) d.rules rule →
      rule.violation? a = some violation →
      Outcome d a (.error (.invalid ⟨d.record, rule.location, violation⟩))

/-- The builder fails as the first rule that the arguments break, and yields the one record that
they stand for. -/
structure Declares (d : Declaration α β) (build : α → Built β) : Prop where
  errorOf?_build : ∀ a, errorOf? (build a) = firstRefusal? d.record d.rules a
  gives : ∀ {a b}, build a = .ok b → d.Gives a b
  unique : ∀ {a b c}, d.Gives a b → d.Gives a c → b = c

/-- A builder is declared if it fails as the first rule that is broken, and builds a record of none
but the fields of that record, which the arguments fill. -/
theorem Declares.of_fields {δ : Type} {d : Declaration α β} {build : δ → Built β} {draft : α → δ}
    {fields : β → δ}
    (herror : ∀ a, errorOf? (build (draft a)) = firstRefusal? d.record d.rules a)
    (hbuild : ∀ {x b}, build x = .ok b → x = fields b)
    (hgives : ∀ {a b}, d.Gives a b ↔ draft a = fields b)
    (hfields : Function.Injective fields) :
    d.Declares fun a => build (draft a) where
  errorOf?_build := herror
  gives h := hgives.mpr (hbuild h)
  unique hb hc := hfields ((hgives.mp hb).symm.trans (hgives.mp hc))

namespace Declares

variable {d : Declaration α β} {build : α → Built β} {a : α} (h : d.Declares build)
include h

theorem exists_build_iff :
    (∃ b, build a = .ok b) ↔ ∀ rule ∈ d.rules, rule.violation? a = none := by
  rw [← errorOf?_eq_none_iff, h.errorOf?_build, firstRefusal?_eq_none_iff]

/-- The record that the arguments stand for is built if and only if they keep every rule. -/
theorem build_eq_ok_iff {b : β} :
    build a = .ok b ↔ (∀ rule ∈ d.rules, rule.violation? a = none) ∧ d.Gives a b := by
  constructor
  · intro hbuild
    exact ⟨h.exists_build_iff.mp ⟨b, hbuild⟩, h.gives hbuild⟩
  · rintro ⟨hrules, hgives⟩
    obtain ⟨c, hbuild⟩ := h.exists_build_iff.mpr hrules
    rw [hbuild, h.unique (h.gives hbuild) hgives]

/-- Otherwise the first rule that they break is reported, at its own place. -/
theorem build_eq_error_iff {i : Invalid} :
    build a = .error i ↔
      ∃ rule violation, IsFirst (fun rule => rule.violation? a ≠ none) d.rules rule ∧
        rule.violation? a = some violation ∧ i = ⟨d.record, rule.location, violation⟩ := by
  rw [← errorOf?_eq_some_iff, h.errorOf?_build, firstRefusal?_eq_some_iff]

/-- A declared builder has the declared outcome, for all arguments. -/
theorem mapError_build_eq_iff {r : Decoded β} :
    (build a).mapError DecodeError.invalid = r ↔ d.Outcome a r := by
  constructor
  · rintro rfl
    cases hbuild : build a with
    | ok b =>
        obtain ⟨hrules, hgives⟩ := h.build_eq_ok_iff.mp hbuild
        exact .built hrules hgives
    | error i =>
        obtain ⟨rule, violation, hfirst, hviolation, rfl⟩ := h.build_eq_error_iff.mp hbuild
        exact .refused hfirst hviolation
  · intro houtcome
    cases houtcome with
    | built hrules hgives =>
        rw [h.build_eq_ok_iff.mpr ⟨hrules, hgives⟩]
        rfl
    | refused hfirst hviolation =>
        rw [h.build_eq_error_iff.mpr ⟨_, _, hfirst, hviolation, rfl⟩]
        rfl

end Declares

end Declaration

end JobWire
