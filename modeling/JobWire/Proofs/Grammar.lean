import JobWire.Proofs.Property

/-!
# Grammars of records

A record is decoded from an object in three rounds.  First every declared property must be there, in
declared order.  Then the properties are read, in an order of their own.  Last the record is built
of what was read, and its constraints are looked at in the order of its fields.  A round ends at its
first fault, and begins only if the round before it found none.

A `Grammar` lists what each round looks at, and `Grammar.Verdict` says by the position of the faults
what is reported of a value.  A decoder is *governed* by a grammar when each of its rounds does what
the grammar lists.

The readers of a grammar are given by the kinds of the values that they take, not by the code that
takes them; only a record inside another is read by its own decoder.

**Results.**
* `findSome?_eq_some_iff_isFirst`: searching a list finds its first element with the property.
* `Reader.of_asString` and its like: the readers of the code, by the kinds of values.
* `Grammar.Governs.result_eq_iff`: a governed decoder yields the verdict of the grammar, for every
  value.
* `Grammar.Verdict.location_mem`: a refusal is reported at the place of a rule, unless a reader
  passes it on.
-/

namespace JobWire

section First

variable {α β : Type} {f : α → Option β} {as : List α} {b : β}

/-- The first element of a list that has a property. -/
def IsFirst (p : α → Prop) (as : List α) (a : α) : Prop :=
  ∃ before after, as = before ++ a :: after ∧ p a ∧ ∀ b ∈ before, ¬ p b

theorem findSome?_eq_some_iff_isFirst :
    as.findSome? f = some b ↔ ∃ a, IsFirst (fun a => f a ≠ none) as a ∧ f a = some b := by
  rw [List.findSome?_eq_some_iff]
  constructor
  · rintro ⟨before, a, after, has, ha, hbefore⟩
    have hfault : f a ≠ none := by simp [ha]
    exact ⟨a, ⟨before, after, has, hfault, fun x hx => not_not.mpr (hbefore x hx)⟩, ha⟩
  · rintro ⟨a, ⟨before, after, has, -, hbefore⟩, ha⟩
    exact ⟨before, a, after, has, ha, fun x hx => not_not.mp (hbefore x hx)⟩

theorem IsFirst.mem {p : α → Prop} {a : α} (h : IsFirst p as a) : a ∈ as := by
  obtain ⟨before, after, rfl, -, -⟩ := h
  simp

theorem IsFirst.prop {p : α → Prop} {a : α} (h : IsFirst p as a) : p a := by
  obtain ⟨-, -, -, ha, -⟩ := h
  exact ha

end First

section Errors

variable {ε α β : Type}

/-- The error that a run ends with, if it fails. -/
def errorOf? : Except ε α → Option ε
  | .ok _ => none
  | .error e => some e

theorem errorOf?_eq_some_iff {r : Except ε α} {e : ε} : errorOf? r = some e ↔ r = .error e := by
  cases r <;> simp [errorOf?]

theorem errorOf?_eq_none_iff {r : Except ε α} : errorOf? r = none ↔ ∃ a, r = .ok a := by
  cases r <;> simp [errorOf?]

theorem bind_eq_error_iff {x : Except ε α} {f : α → Except ε β} {e : ε} :
    (x >>= f) = .error e ↔ x = .error e ∨ ∃ a, x = .ok a ∧ f a = .error e := by
  cases x with
  | error e' =>
      simp [bind, Except.bind]
  | ok a =>
      simp [bind, Except.bind]

/-- The runs of a list fail as the first of them that fails. -/
theorem Traced.errorOf?_each {f : α → Traced ε β} {as : List α} :
    errorOf? (each f as).result = as.findSome? fun a => errorOf? (f a).result := by
  induction as with
  | nil =>
      rfl
  | cons a as ih =>
      rw [each, result_bind, List.findSome?_cons]
      cases ha : (f a).result with
      | error e =>
          rfl
      | ok b =>
          change errorOf? (each f as >>= fun bs => pure (b :: bs)).result = _
          rw [result_bind]
          cases has : (each f as).result with
          | error e =>
              rw [has] at ih
              exact ih
          | ok bs =>
              rw [has] at ih
              exact ih

end Errors

namespace Json

section Kinds

variable {v : Json} {name : String} {e : DecodeError}

theorem asString_eq_error_iff :
    v.asString name = .error e ↔ v.kind ≠ .string ∧ e = v.wrongShape name "string" := by
  cases v <;> simp [asString, kind, eq_comm]

theorem asInt_eq_error_iff :
    v.asInt name = .error e ↔ v.kind ≠ .integer ∧ e = v.wrongShape name "integer" := by
  cases v <;> simp [asInt, kind, eq_comm]

theorem asBool_eq_error_iff :
    v.asBool name = .error e ↔ v.kind ≠ .boolean ∧ e = v.wrongShape name "boolean" := by
  cases v <;> simp [asBool, kind, eq_comm]

end Kinds

/-- The fault of the value of a property that is to be of one kind. -/
def kindFault? (name : String) (kind : Kind) (v : Json) : Option DecodeError :=
  if v.kind = kind then none else some (v.wrongShape name kind.name)

/-- The fault of an element of a list of values of one kind. -/
def itemFault? (name : String) (kind : Kind) (expected : String) (v : Json) : Option DecodeError :=
  if v.kind = kind then none
  else if v.kind = .null then some (nullElement name)
  else some (v.wrongShape name expected)

/-- The fault of the value of a list property: that of the value as a whole, or else of the first
element that has one. -/
def listFault? (name : String) (item : Json → Option DecodeError) : Json → Option DecodeError
  | .arr items => items.findSome? item
  | .obj [] => none
  | .obj members => some (.nonEmptyObject name members.length)
  | .null => some (.null name none)
  | v => some (v.wrongShape name DecodeError.listShape)

theorem errorOf?_list {α : Type} {name : String} {item : Json → Decode α}
    {fault? : Json → Option DecodeError} (h : ∀ w, errorOf? (item w).result = fault? w) (v : Json) :
    errorOf? (v.list name item).result = v.listFault? name fault? := by
  cases v with
  | arr items =>
      rw [list_arr, Traced.errorOf?_each]
      exact congrArg (List.findSome? · items) (funext h)
  | obj members =>
      cases members <;> rfl
  | null | bool _ | int _ | float _ | str _ =>
      rfl

/-- A refusal that a list passes on is that of one of its elements. -/
theorem exists_item_of_listFault? {name : String} {item : Json → Option DecodeError} {v : Json}
    {i : Invalid} (h : v.listFault? name item = some (.invalid i)) :
    ∃ w, item w = some (.invalid i) := by
  cases v with
  | arr items =>
      obtain ⟨w, -, hw⟩ := findSome?_eq_some_iff_isFirst.mp h
      exact ⟨w, hw⟩
  | obj members =>
      cases members <;> cases h
  | null | bool _ | int _ | float _ | str _ =>
      cases h

end Json

namespace Object

variable {α : Type} {o : Object} {name : String} {item : Json → Decode α}

theorem result_list :
    (o.list name item).result = o.value name >>= fun v => (v.list name item).result := by
  rw [list, Traced.result_bind, Traced.result_lift]

theorem result_strings :
    (o.strings name).result =
      o.value name >>= fun v => (v.list name (Json.stringElement name)).result :=
  result_list

theorem result_ints :
    (o.ints name).result =
      o.value name >>= fun v => (v.list name (Json.intElement name)).result :=
  result_list

end Object

/-- A step of the second round: the property that is read, and the fault of its value. -/
structure Reader where
  property : String
  faultOf? : Json → Option DecodeError

namespace Reader

/-- The reader that takes the value of a property as something. -/
def of {β : Type} (name : String) (f : Json → Decoded β) : Reader :=
  ⟨name, fun v => errorOf? (f v)⟩

/-- The reader that takes a value of one kind. -/
def kind (name : String) (kind : Json.Kind) : Reader :=
  ⟨name, Json.kindFault? name kind⟩

/-- The reader that takes a list of values of one kind. -/
def items (name : String) (kind : Json.Kind) (expected : String) : Reader :=
  ⟨name, Json.listFault? name (Json.itemFault? name kind expected)⟩

/-- The fault that a reader finds in an object.  A property that is absent has none. -/
def fault? (r : Reader) (o : Object) : Option DecodeError :=
  (o.get? r.property).bind r.faultOf?

/-- The faults of a reader are its own, and no refusal of a record inside the value. -/
def Direct (r : Reader) : Prop :=
  ∀ v i, r.faultOf? v ≠ some (.invalid i)

section Kinds

variable {name expected : String} {k : Json.Kind}

theorem of_asString : of name (Json.asString name) = kind name .string :=
  congrArg (mk name) (funext fun v => by cases v <;> rfl)

theorem of_asInt : of name (Json.asInt name) = kind name .integer :=
  congrArg (mk name) (funext fun v => by cases v <;> rfl)

theorem of_asBool : of name (Json.asBool name) = kind name .boolean :=
  congrArg (mk name) (funext fun v => by cases v <;> rfl)

theorem of_strings :
    (of name fun v => (v.list name (Json.stringElement name)).result) =
      items name .string "an array of strings" :=
  congrArg (mk name) (funext (Json.errorOf?_list fun w => by cases w <;> rfl))

theorem of_ints :
    (of name fun v => (v.list name (Json.intElement name)).result) =
      items name .integer "an array of integers" :=
  congrArg (mk name) (funext (Json.errorOf?_list fun w => by cases w <;> rfl))

theorem direct_of {β : Type} {f : Json → Decoded β}
    (h : ∀ v i, f v ≠ .error (.invalid i)) : (of name f).Direct :=
  fun v i hfault => h v i (errorOf?_eq_some_iff.mp hfault)

theorem direct_kind : (kind name k).Direct := by
  intro v i h
  simp only [kind, Json.kindFault?] at h
  split_ifs at h
  cases h

theorem direct_items : (items name k expected).Direct := by
  intro v i h
  obtain ⟨w, hw⟩ := Json.exists_item_of_listFault? h
  unfold Json.itemFault? at hw
  split_ifs at hw <;> cases hw

end Kinds

section Sequence

variable {β γ : Type} {o : Object} {name : String} {readers : List Reader} {f : Json → Decoded β}
  {k : β → Decoded γ}

/-- The fault of a run that takes a property and goes on is that of the property, or else the first
one of what follows. -/
theorem errorOf?_value_bind (hname : ∃ v, o.get? name = some v)
    (hrest : ∀ b, errorOf? (k b) = readers.findSome? fun r => r.fault? o) :
    errorOf? (o.value name >>= fun v => f v >>= k) =
      (of name f :: readers).findSome? fun r => r.fault? o := by
  obtain ⟨v, hv⟩ := hname
  have hvalue : o.value name = .ok v := Object.value_eq_ok_iff.mpr hv
  have hfault : (of name f).fault? o = errorOf? (f v) := by
    simp [fault?, of, hv]
  rw [hvalue, List.findSome?_cons, hfault]
  change errorOf? (f v >>= k) = _
  cases hread : f v with
  | error e =>
      rfl
  | ok b =>
      exact hrest b

theorem errorOf?_read_bind (hname : ∃ v, o.get? name = some v)
    (hrest : ∀ b, errorOf? (k b) = readers.findSome? fun r => r.fault? o) :
    errorOf? ((o.value name >>= f) >>= k) =
      (of name f :: readers).findSome? fun r => r.fault? o := by
  rw [bind_assoc]
  exact errorOf?_value_bind hname hrest

end Sequence

end Reader

/-- A rule of the third round: the place where it is reported, and how a record breaks it. -/
structure Rule (α : Type) where
  location : String
  violation? : α → Option Violation

theorem Slot.given_bind {slot : Slot} {α β : Type} {a : α} {k : α → Built β} :
    (slot.given (some a) >>= k) = k a := rfl

namespace Rule

variable {α : Type}

/-- The rule that a text is not blank. -/
def text (location : String) (field : α → String) : Rule α :=
  ⟨location, fun a => if NotBlank (field a) then none else some .blank⟩

/-- The rule that a text is missing or not blank. -/
def optionalText (location : String) (field : α → Option String) : Rule α :=
  ⟨location, fun a => if NoneOrNotBlank (field a) then none else some .blank⟩

/-- The rule that no text of a list is blank. -/
def texts (location : String) (field : α → List String) : Rule α :=
  ⟨location, fun a => if NoBlankItem (field a) then none else some .blankItem⟩

/-- The rule that an integer is not negative. -/
def nonNegative (location : String) (field : α → Int) : Rule α :=
  ⟨location, fun a => if 0 ≤ field a then none else some .negative⟩

/-- The rule that an integer is positive. -/
def positive (location : String) (field : α → Int) : Rule α :=
  ⟨location, fun a => if 0 < field a then none else some .notPositive⟩

end Rule

/-- What a type of records is decoded from: the declared properties, the readers and the rules, each
in the order in which they are looked at, and the records that have the values of an object. -/
structure Grammar (α : Type) where
  record : String
  shape : Shape
  readers : List Reader
  rules : List (Rule α)
  ReadFrom : Object → α → Prop

/-- The property is declared to be there, and is absent, or null where it may not be. -/
def Shape.Misses (s : Shape) (o : Object) (name : String) : Prop :=
  o.get? name = none ∨ o.get? name = some .null ∧ name ∉ s.nullable

namespace Grammar

variable {α : Type}

/-- What is reported of a value: the first fault of the first round that has one, or the record. -/
inductive Verdict (g : Grammar α) : Json → Decoded α → Prop
  | notObject {v : Json} :
      (∀ o, v ≠ .obj o) →
      Verdict g v (.error (.malformedRoot none))
  | absent {o : Object} {name : String} :
      IsFirst (g.shape.Misses o) g.shape.names name →
      o.get? name = none →
      Verdict g (.obj o) (.error (.missing name none))
  | null {o : Object} {name : String} :
      IsFirst (g.shape.Misses o) g.shape.names name →
      o.get? name = some .null →
      Verdict g (.obj o) (.error (.null name none))
  | misread {o : Object} {r : Reader} {e : DecodeError} :
      g.shape.Fits o →
      IsFirst (fun r => r.fault? o ≠ none) g.readers r →
      r.fault? o = some e →
      Verdict g (.obj o) (.error e)
  | refused {o : Object} {a : α} {rule : Rule α} {violation : Violation} :
      g.shape.Fits o →
      (∀ r ∈ g.readers, r.fault? o = none) →
      g.ReadFrom o a →
      IsFirst (fun rule => rule.violation? a ≠ none) g.rules rule →
      rule.violation? a = some violation →
      Verdict g (.obj o) (.error (.invalid ⟨g.record, rule.location, violation⟩))
  | accepted {o : Object} {a : α} :
      g.shape.Fits o →
      (∀ r ∈ g.readers, r.fault? o = none) →
      g.ReadFrom o a →
      (∀ rule ∈ g.rules, rule.violation? a = none) →
      Verdict g (.obj o) (.ok a)

/-- The record, unless it breaks one of the rules, which are looked at in order. -/
def judge (record : String) (a : α) : List (Rule α) → Built α
  | [] => .ok a
  | rule :: rules =>
      match rule.violation? a with
      | some violation => .error ⟨record, rule.location, violation⟩
      | none => judge record a rules

section Judging

variable {record location : String} {a : α} {rules : List (Rule α)}

theorem judge_of_forall (h : ∀ rule ∈ rules, rule.violation? a = none) :
    judge record a rules = .ok a := by
  induction rules with
  | nil =>
      rfl
  | cons rule rules ih =>
      obtain ⟨hrule, hrules⟩ := List.forall_mem_cons.mp h
      rw [judge, hrule]
      exact ih hrules

theorem judge_of_isFirst {rule : Rule α} {violation : Violation}
    (hfirst : IsFirst (fun rule => rule.violation? a ≠ none) rules rule)
    (h : rule.violation? a = some violation) :
    judge record a rules = .error ⟨record, rule.location, violation⟩ := by
  obtain ⟨before, after, rfl, -, hbefore⟩ := hfirst
  induction before with
  | nil =>
      rw [List.nil_append, judge, h]
  | cons other before ih =>
      obtain ⟨hother, hrest⟩ := List.forall_mem_cons.mp hbefore
      rw [List.cons_append, judge, not_not.mp hother]
      exact ih hrest

variable {β : Type} {k : β → Built α} {condition : Prop} [Decidable condition]
  {violation : Violation} {b : β}

/-- A check that goes on as the other rules do is a rule before them. -/
theorem ensure_bind_eq_judge (hrest : k b = judge record a rules)
    {rule : Rule α} (hlocation : rule.location = location)
    (hrule : rule.violation? a = if condition then none else some violation) :
    ((Slot.mk record location).ensure condition violation b >>= k) =
      judge record a (rule :: rules) := by
  rw [judge, hrule, Slot.ensure]
  split_ifs with hcondition
  · exact hrest
  · rw [hlocation]
    rfl

/-- A check that a record passes anyway is no rule. -/
theorem ensure_bind_of_pos {slot : Slot} (h : condition) :
    (slot.ensure condition violation b >>= k) = k b := by
  rw [Slot.ensure, if_pos h]
  rfl

end Judging

/-- The decoder that checks the shape, reads the fields and builds the record does in each round
what the grammar lists. -/
structure Governs {δ : Type} (g : Grammar α) (draft : Object → Decode δ)
    (build : δ → Built α) : Prop where
  errorOf?_draft : ∀ {o}, g.shape.Fits o →
    errorOf? (draft o).result = g.readers.findSome? fun r => r.fault? o
  exists_readFrom : ∀ {o d}, (draft o).result = .ok d → ∃ a, g.ReadFrom o a
  exists_draft : ∀ {o a}, g.ReadFrom o a →
    ∃ d, (draft o).result = .ok d ∧ build d = judge g.record a g.rules

end Grammar

namespace Shape

variable {s : Shape} {o : Object} {name : String}

theorem fault?_ne_none_iff : s.fault? o name ≠ none ↔ s.Misses o name := by
  unfold fault? Misses Object.presence
  cases hget : o.get? name with
  | none =>
      simp
  | some v =>
      cases v <;> simp

theorem misses_eq : s.Misses o = fun name => s.fault? o name ≠ none :=
  funext fun _ => propext fault?_ne_none_iff.symm

/-- An object that does not have the shape of a record has a first property that it misses. -/
theorem exists_isFirst_of_not_fits (h : ¬ s.Fits o) :
    ∃ name, IsFirst (s.Misses o) s.names name := by
  rw [← firstFault?_eq_none_iff] at h
  obtain ⟨e, he⟩ := Option.ne_none_iff_exists'.mp h
  obtain ⟨name, hfirst, -⟩ := findSome?_eq_some_iff_isFirst.mp he
  exact ⟨name, misses_eq ▸ hfirst⟩

theorem result_read_of_isFirst {e : DecodeError} (hfirst : IsFirst (s.Misses o) s.names name)
    (h : s.fault? o name = some e) : (s.read (.obj o)).result = .error e := by
  have hfault : s.firstFault? o = some e :=
    findSome?_eq_some_iff_isFirst.mpr ⟨name, misses_eq ▸ hfirst, h⟩
  rw [read_obj, hfault]
  rfl

/-- A value that is no object has no properties to be checked. -/
theorem result_read_of_ne {v : Json} (h : ∀ o, v ≠ .obj o) :
    (s.read v).result = .error (.malformedRoot none) := by
  cases v with
  | obj o =>
      exact absurd rfl (h o)
  | null | bool _ | int _ | float _ | str _ | arr _ =>
      rfl

theorem result_read_of_absent (hfirst : IsFirst (s.Misses o) s.names name)
    (h : o.get? name = none) : (s.read (.obj o)).result = .error (.missing name none) := by
  have hfault : s.fault? o name = some (.missing name none) := by
    rw [fault?, Object.presence_eq_absent_iff.mpr h]
  exact result_read_of_isFirst hfirst hfault

theorem result_read_of_null (hfirst : IsFirst (s.Misses o) s.names name)
    (h : o.get? name = some .null) : (s.read (.obj o)).result = .error (.null name none) := by
  have hnullable : name ∉ s.nullable := by
    rcases hfirst.prop with habsent | ⟨-, hnot⟩
    · rw [h] at habsent
      cases habsent
    · exact hnot
  have hfault : s.fault? o name = some (.null name none) := by
    rw [fault?, Object.presence_eq_null_iff.mpr h]
    simp [hnullable]
  exact result_read_of_isFirst hfirst hfault

end Shape

namespace Grammar

variable {α δ : Type} {g : Grammar α} {draft : Object → Decode δ} {build : δ → Built α}
  {v : Json} {r : Decoded α}

/-- The decoder that checks the shape of a value, reads its properties and builds the record. -/
def decode (g : Grammar α) (draft : Object → Decode δ) (build : δ → Built α) (v : Json) :
    Decode α := do
  let o ← g.shape.read v
  let d ← draft o
  build d

theorem decode_of_fits {o : Object} (h : g.shape.Fits o) :
    (g.decode draft build (.obj o)).result =
      (draft o).result >>= fun d => (build d).mapError DecodeError.invalid := by
  have hread : (g.shape.read (.obj o)).result = .ok o := Shape.result_read_eq_ok_iff.mpr ⟨rfl, h⟩
  rw [decode, Traced.result_bind, hread]
  change (draft o >>= fun d => (liftM (build d) : Decode α)).result = _
  rw [Traced.result_bind]
  rfl

namespace Governs

variable (h : g.Governs draft build)
include h

theorem decode_of_verdict (hv : g.Verdict v r) : (g.decode draft build v).result = r := by
  cases hv with
  | notObject hne =>
      rw [decode, Traced.result_bind, Shape.result_read_of_ne hne]
      rfl
  | absent hfirst hget =>
      rw [decode, Traced.result_bind, Shape.result_read_of_absent hfirst hget]
      rfl
  | null hfirst hget =>
      rw [decode, Traced.result_bind, Shape.result_read_of_null hfirst hget]
      rfl
  | misread hfits hfirst hfault =>
      have herror := (h.errorOf?_draft hfits).trans
        (findSome?_eq_some_iff_isFirst.mpr ⟨_, hfirst, hfault⟩)
      rw [decode_of_fits hfits, errorOf?_eq_some_iff.mp herror]
      rfl
  | refused hfits _ hread hfirst hviolation =>
      obtain ⟨d, hdraft, hbuild⟩ := h.exists_draft hread
      rw [decode_of_fits hfits, hdraft]
      change (build d).mapError DecodeError.invalid = _
      rw [hbuild, judge_of_isFirst hfirst hviolation]
      rfl
  | accepted hfits _ hread hrules =>
      obtain ⟨d, hdraft, hbuild⟩ := h.exists_draft hread
      rw [decode_of_fits hfits, hdraft]
      change (build d).mapError DecodeError.invalid = _
      rw [hbuild, judge_of_forall hrules]
      rfl

theorem exists_verdict (v : Json) : ∃ r, g.Verdict v r := by
  by_cases hobject : ∃ o, v = .obj o
  · obtain ⟨o, rfl⟩ := hobject
    by_cases hfits : g.shape.Fits o
    · cases hreaders : g.readers.findSome? fun r => r.fault? o with
      | some e =>
          obtain ⟨r, hfirst, hfault⟩ := findSome?_eq_some_iff_isFirst.mp hreaders
          exact ⟨_, .misread hfits hfirst hfault⟩
      | none =>
          obtain ⟨d, hdraft⟩ := errorOf?_eq_none_iff.mp ((h.errorOf?_draft hfits).trans hreaders)
          obtain ⟨a, hread⟩ := h.exists_readFrom hdraft
          have hnone := List.findSome?_eq_none_iff.mp hreaders
          cases hrules : g.rules.findSome? fun rule => rule.violation? a with
          | some violation =>
              obtain ⟨rule, hfirst, hviolation⟩ := findSome?_eq_some_iff_isFirst.mp hrules
              exact ⟨_, .refused hfits hnone hread hfirst hviolation⟩
          | none =>
              exact ⟨_, .accepted hfits hnone hread (List.findSome?_eq_none_iff.mp hrules)⟩
    · obtain ⟨name, hfirst⟩ := Shape.exists_isFirst_of_not_fits hfits
      rcases hfirst.prop with habsent | ⟨hnull, -⟩
      · exact ⟨_, .absent hfirst habsent⟩
      · exact ⟨_, .null hfirst hnull⟩
  · exact ⟨_, .notObject fun o ho => hobject ⟨o, ho⟩⟩

/-- A governed decoder yields the verdict of the grammar. -/
theorem result_eq_iff : (g.decode draft build v).result = r ↔ g.Verdict v r :=
  eq_iff_of_total (h.exists_verdict v) h.decode_of_verdict

end Governs

/-- A refusal is reported at the place of a rule, unless a reader passes it on. -/
theorem Verdict.location_mem {i : Invalid} (h : g.Verdict v (.error (.invalid i))) :
    (i.record = g.record ∧ i.location ∈ g.rules.map Rule.location) ∨
      ∃ r ∈ g.readers, ∃ w, r.faultOf? w = some (.invalid i) := by
  cases h with
  | misread _ hfirst hfault =>
      obtain ⟨w, -, hw⟩ := Option.bind_eq_some_iff.mp hfault
      exact .inr ⟨_, hfirst.mem, w, hw⟩
  | refused _ _ _ hfirst _ =>
      exact .inl ⟨rfl, List.mem_map_of_mem hfirst.mem⟩

end Grammar

end JobWire
