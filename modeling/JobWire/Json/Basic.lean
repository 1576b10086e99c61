import JobWire.Number.Binary64

/-!
# JSON values

A JSON value as it is after reading: integers are exact and unbounded and differ from floating-point
numbers, and the members of an object keep the order in which they were written.  An object is its
list of members; reading never yields two members of one name, and `Json.Distinct` says so of a
value and everything in it.

**Results.**
* `Object.get?_eq_none_iff`: a property is absent exactly when no member bears its name.
* `Object.get?_set_self`, `Object.get?_set_of_ne`: setting a property changes that property alone.
* `Object.set_eq_append`: a property that is absent is set at the end.
-/

namespace JobWire

/-- A JSON value. -/
inductive Json where
  | null
  | bool (b : Bool)
  | int (i : Int)
  | float (x : Binary64)
  | str (s : String)
  | arr (items : List Json)
  | obj (members : List (String × Json))

/-- The members of a JSON object, in order. -/
abbrev Object := List (String × Json)

namespace Json

mutual

/-- Equality of values is decidable. -/
def decEq : (a b : Json) → Decidable (a = b)
  | null, null => isTrue rfl
  | bool a, bool b => decidable_of_iff (a = b) (by simp)
  | int a, int b => decidable_of_iff (a = b) (by simp)
  | float a, float b => decidable_of_iff (a = b) (by simp)
  | str a, str b => decidable_of_iff (a = b) (by simp)
  | arr as, arr bs =>
    match decEqItems as bs with
    | isTrue h => isTrue (by rw [h])
    | isFalse h => isFalse (by simpa using h)
  | obj as, obj bs =>
    match decEqMembers as bs with
    | isTrue h => isTrue (by rw [h])
    | isFalse h => isFalse (by simpa using h)
  | null, bool _ | null, int _ | null, float _ | null, str _ | null, arr _ | null, obj _
  | bool _, null | bool _, int _ | bool _, float _ | bool _, str _ | bool _, arr _ | bool _, obj _
  | int _, null | int _, bool _ | int _, float _ | int _, str _ | int _, arr _ | int _, obj _
  | float _, null | float _, bool _ | float _, int _ | float _, str _ | float _, arr _
  | float _, obj _
  | str _, null | str _, bool _ | str _, int _ | str _, float _ | str _, arr _ | str _, obj _
  | arr _, null | arr _, bool _ | arr _, int _ | arr _, float _ | arr _, str _ | arr _, obj _
  | obj _, null | obj _, bool _ | obj _, int _ | obj _, float _ | obj _, str _ | obj _, arr _ =>
    isFalse (by simp)

/-- Equality of lists of values is decidable. -/
def decEqItems : (as bs : List Json) → Decidable (as = bs)
  | [], [] => isTrue rfl
  | [], _ :: _ | _ :: _, [] => isFalse (by simp)
  | a :: as, b :: bs =>
    match decEq a b, decEqItems as bs with
    | isTrue h, isTrue hs => isTrue (by rw [h, hs])
    | isFalse h, _ => isFalse (by simp [h])
    | _, isFalse hs => isFalse (by simp [hs])

/-- Equality of member lists is decidable. -/
def decEqMembers : (as bs : List (String × Json)) → Decidable (as = bs)
  | [], [] => isTrue rfl
  | [], _ :: _ | _ :: _, [] => isFalse (by simp)
  | (k, a) :: as, (l, b) :: bs =>
    match instDecidableEqString k l, decEq a b, decEqMembers as bs with
    | isTrue hk, isTrue h, isTrue hs => isTrue (by rw [hk, h, hs])
    | isFalse hk, _, _ => isFalse (by simp [hk])
    | _, isFalse h, _ => isFalse (by simp [h])
    | _, _, isFalse hs => isFalse (by simp [hs])

end

instance : DecidableEq Json := decEq

instance : Inhabited Json := ⟨null⟩

/-- The kinds of JSON value. -/
inductive Kind where
  | null | boolean | integer | number | string | array | object
deriving DecidableEq

/-- The name of a kind in messages. -/
def Kind.name : Kind → String
  | null => "null"
  | boolean => "boolean"
  | integer => "integer"
  | number => "number"
  | string => "string"
  | array => "array"
  | object => "object"

/-- The kind of a value. -/
def kind : Json → Kind
  | null => .null
  | bool _ => .boolean
  | int _ => .integer
  | float _ => .number
  | str _ => .string
  | arr _ => .array
  | obj _ => .object

mutual

/-- No object in the value has two members of one name. -/
def Distinct : Json → Prop
  | arr items => DistinctItems items
  | obj members => (members.map Prod.fst).Nodup ∧ DistinctMembers members
  | _ => True

/-- No object in the list has two members of one name. -/
def DistinctItems : List Json → Prop
  | [] => True
  | v :: vs => Distinct v ∧ DistinctItems vs

/-- No object among the values of the members has two members of one name. -/
def DistinctMembers : List (String × Json) → Prop
  | [] => True
  | (_, v) :: ms => Distinct v ∧ DistinctMembers ms

end

end Json

namespace Object

/-- The names of an object's properties, in order. -/
def names (o : Object) : List String :=
  o.map Prod.fst

/-- The value of a property. -/
def get? (o : Object) (name : String) : Option Json :=
  o.lookup name

/-- The object after a property is set: a name that is already there keeps its place. -/
def set (name : String) (value : Json) : Object → Object
  | [] => [(name, value)]
  | (n, v) :: rest => if n = name then (n, value) :: rest else (n, v) :: set name value rest

/-- The object without a property. -/
def without (o : Object) (name : String) : Object :=
  o.filter fun m => m.1 != name

section Lemmas

variable {name other : String} {value : Json}

@[simp] theorem get?_nil : get? [] name = none := rfl

theorem get?_cons_self {o : Object} : get? ((name, value) :: o) name = some value := by
  simp [get?]

theorem get?_cons_of_ne {o : Object} (h : other ≠ name) :
    get? ((name, value) :: o) other = o.get? other := by
  simp [get?, List.lookup_cons, beq_eq_false_iff_ne.2 h]

/-- A property is absent exactly when no member bears its name. -/
theorem get?_eq_none_iff : ∀ {o : Object}, o.get? name = none ↔ name ∉ o.names
  | [] => by simp [names]
  | (n, v) :: rest => by
    by_cases h : name = n
    · subst h
      simp [get?_cons_self, names]
    · rw [get?_cons_of_ne h, get?_eq_none_iff (o := rest)]
      simp [names, h]

/-- Setting a property that is absent adds a member at the end. -/
theorem set_eq_append : ∀ {o : Object}, name ∉ o.names → set name value o = o ++ [(name, value)]
  | [], _ => rfl
  | (n, v) :: rest, h => by
    have hn : n ≠ name := by
      rintro rfl
      exact h (by simp [names])
    have hrest : name ∉ names rest := fun hm => h (by
      simp only [names] at hm
      simp [names, hm])
    simp [set, hn, set_eq_append hrest]

@[simp] theorem get?_set_self : ∀ {o : Object}, get? (set name value o) name = some value
  | [] => get?_cons_self
  | (n, v) :: rest => by
    by_cases h : n = name
    · subst h
      simp [set, get?_cons_self]
    · rw [set, if_neg h, get?_cons_of_ne (Ne.symm h)]
      exact get?_set_self

theorem get?_set_of_ne (h : other ≠ name) :
    ∀ {o : Object}, get? (set name value o) other = o.get? other
  | [] => get?_cons_of_ne h
  | (n, v) :: rest => by
    by_cases hn : n = name
    · subst hn
      simp [set, get?_cons_of_ne h]
    · by_cases ho : other = n
      · subst ho
        simp [set, hn, get?_cons_self]
      · rw [set, if_neg hn, get?_cons_of_ne ho, get?_cons_of_ne ho]
        exact get?_set_of_ne h

end Lemmas

end Object
end JobWire
