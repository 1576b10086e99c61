import JobWire.Proofs.Property

/-!
# Objects in normal form

The wire has several ways to say that there is nothing, and takes properties in any order and with
others between them.  An object in *normal form* has the properties of a list alone, in the order of
the list, and each of its values has been put into the form that its property asks for.

**Results.**
* `Object.names_normalized`, `Object.get?_normalized`: the properties of the normal form, and what
  each of them is.
* `Object.normalized_normalized`: a normal form is its own normal form.
-/

namespace JobWire

/-- A property in normal form: its name, and the form of its value. -/
structure Form where
  property : String
  settle : Json → Json

/-- The property whose value stays as it is. -/
def Form.verbatim (name : String) : Form :=
  ⟨name, id⟩

namespace Json

/-- The array that a list is, where the empty object is the empty list. -/
def emptyAsArray : Json → Json
  | obj [] => arr []
  | v => v

/-- The text that a placeholder for no text stands for. -/
def blankAsEmpty : Json → Json
  | null => str ""
  | str s => if Text.isBlank s then str "" else str s
  | v => v

theorem emptyAsArray_emptyAsArray (v : Json) : v.emptyAsArray.emptyAsArray = v.emptyAsArray := by
  cases v with
  | obj members =>
      cases members <;> rfl
  | null | bool _ | int _ | float _ | str _ | arr _ =>
      rfl

theorem blankAsEmpty_blankAsEmpty (v : Json) : v.blankAsEmpty.blankAsEmpty = v.blankAsEmpty := by
  cases v with
  | str s =>
      by_cases hblank : Text.isBlank s = true
      · simp [blankAsEmpty, hblank]
      · simp [blankAsEmpty, hblank]
  | null =>
      simp [blankAsEmpty]
  | bool _ | int _ | float _ | arr _ | obj _ =>
      rfl

section Lists

variable {α : Type} {v : Json} {name : String} {item : Json → Decode α} {as : List α}

/-- What is read as a list has the array of its elements as its normal form. -/
theorem exists_emptyAsArray_of_list (h : (v.list name item).result = .ok as) :
    ∃ items, v.emptyAsArray = arr items ∧
      List.Forall₂ (fun w a => (item w).result = .ok a) items as := by
  obtain ⟨items, helements, hitems⟩ := result_list_eq_ok_iff.mp h
  rcases elements_eq_ok_iff.mp helements with rfl | ⟨rfl, rfl⟩
  · exact ⟨items, rfl, hitems⟩
  · exact ⟨[], rfl, hitems⟩

end Lists

end Json

namespace Object

/-- The normal form of a list of values is the array of them. -/
theorem HasValues.exists_emptyAsArray {α : Type} {o : Object} {name : String} {encode : α → Json}
    {as : List α} (h : o.HasValues name encode as) :
    ∃ v, o.get? name = some v ∧ v.emptyAsArray = .arr (as.map encode) := by
  rcases h with hget | ⟨hget, rfl⟩
  · exact ⟨_, hget, rfl⟩
  · exact ⟨_, hget, rfl⟩

/-- The object with the listed properties alone, in their order and in their form. -/
def normalized (forms : List Form) (o : Object) : Object :=
  forms.filterMap fun f => (o.get? f.property).map fun v => (f.property, f.settle v)

section Normalized

variable {forms : List Form} {f : Form} {o members : Object} {v w : Json}

theorem normalized_cons (hget : o.get? f.property = some v) (hvalue : f.settle v = w)
    (hrest : o.normalized forms = members) :
    o.normalized (f :: forms) = (f.property, w) :: members := by
  rw [normalized, List.filterMap_cons, hget, ← hvalue, ← hrest]
  rfl

theorem normalized_cons_of_none (h : o.get? f.property = none) :
    o.normalized (f :: forms) = o.normalized forms := by
  rw [normalized, List.filterMap_cons, h]
  rfl

theorem get?_normalized_eq_none {name : String} (h : name ∉ forms.map Form.property) :
    (o.normalized forms).get? name = none := by
  rw [get?_eq_none_iff]
  intro hname
  obtain ⟨m, hm, rfl⟩ := List.mem_map.mp hname
  obtain ⟨f, hf, hmap⟩ := List.mem_filterMap.mp hm
  obtain ⟨w, -, rfl⟩ := Option.map_eq_some_iff.mp hmap
  exact h (List.mem_map_of_mem hf)

/-- If all listed properties are there, the normal form has exactly these. -/
theorem names_normalized (h : ∀ f ∈ forms, ∃ v, o.get? f.property = some v) :
    (o.normalized forms).names = forms.map Form.property := by
  induction forms with
  | nil =>
      rfl
  | cons f forms ih =>
      obtain ⟨⟨v, hget⟩, hrest⟩ := List.forall_mem_cons.mp h
      rw [normalized_cons hget rfl rfl, List.map_cons, ← ih hrest]
      rfl

/-- A property of the normal form is the property of the object in its form. -/
theorem get?_normalized (hnodup : (forms.map Form.property).Nodup) (hf : f ∈ forms) :
    (o.normalized forms).get? f.property = (o.get? f.property).map f.settle := by
  induction forms with
  | nil =>
      cases hf
  | cons g forms ih =>
      obtain ⟨hfree, hnodup⟩ := List.nodup_cons.mp hnodup
      rcases List.mem_cons.mp hf with rfl | hf
      · cases hget : o.get? f.property with
        | none =>
            rw [normalized_cons_of_none hget]
            exact get?_normalized_eq_none hfree
        | some v =>
            rw [normalized_cons hget rfl rfl]
            exact get?_cons_self
      · have hne : f.property ≠ g.property :=
          fun heq => hfree (heq ▸ List.mem_map_of_mem hf)
        cases hget : o.get? g.property with
        | none =>
            rw [normalized_cons_of_none hget]
            exact ih hnodup hf
        | some v =>
            rw [normalized_cons hget rfl rfl, get?_cons_of_ne hne]
            exact ih hnodup hf

/-- A normal form is its own normal form if the form of each value is. -/
theorem normalized_normalized (hnodup : (forms.map Form.property).Nodup)
    (hforms : ∀ f ∈ forms, ∀ v, f.settle (f.settle v) = f.settle v) :
    (o.normalized forms).normalized forms = o.normalized forms := by
  refine List.filterMap_congr fun f hf => ?_
  rw [get?_normalized hnodup hf, Option.map_map]
  exact Option.map_congr fun v _ => by simp [hforms f hf v]

end Normalized

end Object

end JobWire
