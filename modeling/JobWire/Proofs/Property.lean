import JobWire.Envelope
import JobWire.Proofs.Json.Limits
import JobWire.Proofs.Success

/-!
# What the readers of properties accept

Every typed reader accepts the values of one kind and nothing else, and a record's shape accepts an
object in which each declared property is there and is null only where it may be.  A list property
is read element by element, so whatever holds of the elements that are read from readable values
holds of the whole list.

What a list property holds is said by `Object.HasValues` and `Object.HasList` of the array itself,
which is the array of the elements or, if there are none, possibly an empty object.

**Results.**
* `Object.string_eq_ok_iff`, `Object.int_eq_ok_iff`, `Object.bool_eq_ok_iff`: what is read of a
  property.
* `Object.result_strings_eq_ok_iff`, `Object.result_ints_eq_ok_iff`, `Object.hasList_iff_result`:
  what is read of a list property.
* `Shape.result_read_eq_ok_iff`: the objects that have the shape of a record.
* `Json.exists_item_of_list`: an element of a list that is read stems from a value inside it.
* `Json.result_list_map_iff`: a list is read back exactly if each of its elements is.
-/

namespace JobWire

namespace Object

section Members

variable {o : Object} {name : String} {v : Json} {level : Nat}

theorem get?_cons {n : String} :
    get? ((n, v) :: o) name = if name = n then some v else o.get? name := by
  by_cases h : name = n
  · rw [if_pos h, h, get?_cons_self]
  · rw [if_neg h, get?_cons_of_ne h]

theorem mem_of_get? : ∀ {o : Object}, o.get? name = some v → (name, v) ∈ o
  | [], h => by cases h
  | (n, w) :: rest, h => by
      rw [get?_cons] at h
      split_ifs at h with hn
      · cases h
        rw [hn]
        exact List.mem_cons_self
      · exact List.mem_cons_of_mem _ (mem_of_get? h)

theorem get?_of_mem : ∀ {o : Object}, o.names.Nodup → (name, v) ∈ o → o.get? name = some v
  | [], _, h => by cases h
  | (n, w) :: rest, hnodup, h => by
      obtain ⟨hfree, hrest⟩ := List.nodup_cons.mp hnodup
      rcases List.mem_cons.mp h with hfirst | hmem
      · cases hfirst
        exact get?_cons_self
      · have hne : name ≠ n := by
          rintro rfl
          exact hfree (List.mem_map.mpr ⟨_, hmem, rfl⟩)
        rw [get?_cons_of_ne hne]
        exact get?_of_mem hrest hmem

/-- The value of a property is readable one level deeper than its object. -/
theorem readable_of_get? (ho : (Json.obj o).Readable level) (h : o.get? name = some v) :
    v.Readable (level + 1) :=
  (Json.readable_obj_iff.mp ho).2.2 _ (mem_of_get? h)

end Members

section Readers

variable {o : Object} {name : String}

theorem value_eq_ok_iff {v : Json} : o.value name = .ok v ↔ o.get? name = some v := by
  unfold value
  split <;> simp_all

theorem require_eq_ok_iff {v : Json} : o.require name = .ok v ↔ o.get? name = some v := by
  unfold require
  split <;> simp_all

theorem asString_eq_ok_iff {v : Json} {s : String} : v.asString name = .ok s ↔ v = .str s := by
  cases v <;> simp [Json.asString]

theorem asInt_eq_ok_iff {v : Json} {i : Int} : v.asInt name = .ok i ↔ v = .int i := by
  cases v <;> simp [Json.asInt]

theorem asBool_eq_ok_iff {v : Json} {b : Bool} : v.asBool name = .ok b ↔ v = .bool b := by
  cases v <;> simp [Json.asBool]

theorem string_eq_ok_iff {s : String} :
    o.string name = .ok s ↔ o.get? name = some (.str s) := by
  simp only [string, bind_eq_ok_iff, value_eq_ok_iff, asString_eq_ok_iff, exists_eq_right]

theorem int_eq_ok_iff {i : Int} : o.int name = .ok i ↔ o.get? name = some (.int i) := by
  simp only [int, bind_eq_ok_iff, value_eq_ok_iff, asInt_eq_ok_iff, exists_eq_right]

theorem bool_eq_ok_iff {b : Bool} : o.bool name = .ok b ↔ o.get? name = some (.bool b) := by
  simp only [bool, bind_eq_ok_iff, value_eq_ok_iff, asBool_eq_ok_iff, exists_eq_right]

theorem result_list_eq_ok_iff {α : Type} {item : Json → Decode α} {as : List α} :
    (o.list name item).result = .ok as ↔
      ∃ v, o.get? name = some v ∧ (v.list name item).result = .ok as := by
  simp only [list, Traced.result_bind_eq_ok_iff, Traced.result_lift, value_eq_ok_iff]

/-- An envelope takes its lists as they are taken everywhere. -/
theorem result_envelopeList_eq_ok_iff {α : Type} {typeName : String} {item : Json → Decode α}
    {as : List α} :
    (o.envelopeList name typeName item).result = .ok as ↔ (o.list name item).result = .ok as := by
  have helements : ∀ {v : Json} {items : List Json},
      envelopeElements name typeName v = .ok items ↔ v.elements name = .ok items := by
    intro v items
    cases v <;> simp [envelopeElements, Json.elements]
  simp only [envelopeList, list, Json.list, Traced.result_bind_eq_ok_iff, Traced.result_lift,
    Traced.result_mapError_eq_ok_iff, require_eq_ok_iff, value_eq_ok_iff, helements]

/-- The elements of an array in an envelope are read one by one, and a fault is reported of the list
as a whole. -/
theorem envelopeList_of_arr {α : Type} {typeName : String} {item : Json → Decode α}
    {items : List Json} (h : o.get? name = some (.arr items)) :
    o.envelopeList name typeName item =
      (Traced.each item items).mapError (.nestedElement name typeName) := by
  have hrequire : o.require name = .ok (.arr items) := require_eq_ok_iff.mpr h
  rw [envelopeList, hrequire]
  rfl

end Readers

end Object

namespace Json

theorem asObject_eq_ok_iff {v : Json} {o : Object} : v.asObject = .ok o ↔ v = .obj o := by
  cases v <;> simp [asObject]

/-- Reading starts with the properties of an object. -/
theorem lift_asObject_obj (o : Object) :
    (liftM (obj o).asObject : Decode Object) = pure o := rfl

section Lists

variable {α : Type} {name : String} {v : Json} {items : List Json} {item : Json → Decode α}
  {encode : α → Json} {as : List α} {level : Nat}

theorem elements_eq_ok_iff :
    v.elements name = .ok items ↔ v = .arr items ∨ v = .obj [] ∧ items = [] := by
  cases v with
  | obj members =>
      cases members with
      | nil =>
          simp [elements, eq_comm]
      | cons m ms =>
          simp [elements]
  | null | bool _ | int _ | float _ | str _ | arr _ =>
      simp [elements]

theorem result_list_eq_ok_iff :
    (v.list name item).result = .ok as ↔
      ∃ items, v.elements name = .ok items ∧
        List.Forall₂ (fun w a => (item w).result = .ok a) items as := by
  simp only [list, Traced.result_bind_eq_ok_iff, Traced.result_lift,
    Traced.result_each_eq_ok_iff]

/-- What is read as a list is not null. -/
theorem ne_null_of_result_list (h : (v.list name item).result = .ok as) : v ≠ .null := by
  obtain ⟨items, helements, -⟩ := result_list_eq_ok_iff.mp h
  rintro rfl
  cases helements

theorem readable_of_elements (hv : v.Readable level) (h : v.elements name = .ok items) :
    ∀ w ∈ items, w.Readable (level + 1) := by
  rcases elements_eq_ok_iff.mp h with rfl | ⟨rfl, rfl⟩
  · exact (readable_arr_iff.mp hv).2
  · simp

/-- Every element of a list that is read stems from a value inside the one that was read. -/
theorem exists_item_of_list (h : (v.list name item).result = .ok as) :
    ∀ a ∈ as, ∃ w, (∀ level, v.Readable level → w.Readable (level + 1)) ∧
      (item w).result = .ok a := by
  obtain ⟨items, helements, hitems⟩ := result_list_eq_ok_iff.mp h
  have hreadable : ∀ w ∈ items, ∀ level, v.Readable level → w.Readable (level + 1) :=
    fun w hw level hv => readable_of_elements hv helements w hw
  clear helements h
  induction hitems with
  | nil =>
      simp
  | cons hitem _ ih =>
      obtain ⟨hw, hrest⟩ := List.forall_mem_cons.mp hreadable
      exact List.forall_mem_cons.mpr ⟨⟨_, hw, hitem⟩, ih hrest⟩

/-- The list of encoded elements is readable if decoding and encoding keep readability. -/
theorem readable_arr_map (hv : v.Readable level) (h : (v.list name item).result = .ok as)
    (hkeep : ∀ w a, w.Readable (level + 1) → (item w).result = .ok a →
      (encode a).Readable (level + 1)) :
    (arr (as.map encode)).Readable level := by
  refine readable_arr_iff.mpr ⟨hv.level_le, List.forall_mem_map.mpr fun a ha => ?_⟩
  obtain ⟨w, hw, hitem⟩ := exists_item_of_list h a ha
  exact hkeep w a (hw level hv) hitem

/-- The elements of an array are read one by one. -/
theorem list_arr : (arr items).list name item = Traced.each item items :=
  pure_bind items (Traced.each item)

/-- A list is read back from its encoded elements exactly if each element is. -/
theorem result_list_map_iff :
    ((arr (as.map encode)).list name item).result = .ok as ↔
      ∀ a ∈ as, (item (encode a)).result = .ok a := by
  rw [list_arr, Traced.result_each_map_iff]

theorem result_stringElement_eq_ok_iff {s : String} :
    (stringElement name v).result = .ok s ↔ v = .str s := by
  cases v <;> simp [stringElement, Traced.ok, Traced.fail]

theorem result_intElement_eq_ok_iff {i : Int} :
    (intElement name v).result = .ok i ↔ v = .int i := by
  cases v <;> simp [intElement, Traced.ok, Traced.fail]

/-- If each element is read from a single value, the list is read from the array of these values,
or from the empty object. -/
theorem result_values_eq_ok_iff (h : ∀ w a, (item w).result = .ok a ↔ w = encode a) :
    (v.list name item).result = .ok as ↔ v = .arr (as.map encode) ∨ v = .obj [] ∧ as = [] := by
  have hitems : ∀ items : List Json,
      List.Forall₂ (fun w a => (item w).result = .ok a) items as ↔ items = as.map encode := by
    intro items
    simp only [h]
    rw [← List.forall₂_map_right_iff (R := Eq), List.forall₂_eq_eq_eq]
  simp only [result_list_eq_ok_iff, hitems, exists_eq_right, elements_eq_ok_iff,
    List.map_eq_nil_iff]

/-- A list of strings is read from an array of them, or from the empty object. -/
theorem result_strings_eq_ok_iff {texts : List String} :
    (v.list name (stringElement name)).result = .ok texts ↔
      v = .ofStrings texts ∨ v = .obj [] ∧ texts = [] :=
  result_values_eq_ok_iff fun _ _ => result_stringElement_eq_ok_iff

end Lists

end Json

namespace Object

section Lists

variable {α : Type} {o : Object} {name : String} {item : Json → Decode α} {encode : α → Json}
  {as : List α} {level : Nat}

/-- The property is a list of the given values. -/
def HasValues (o : Object) (name : String) (encode : α → Json) (as : List α) : Prop :=
  o.get? name = some (.arr (as.map encode)) ∨ o.get? name = some (.obj []) ∧ as = []

/-- The property is a list, and the values are what its elements are decoded into, in their
order. -/
def HasList (o : Object) (name : String) (item : Json → Decode α) (as : List α) : Prop :=
  ∃ items, (o.get? name = some (.arr items) ∨ o.get? name = some (.obj []) ∧ items = []) ∧
    List.Forall₂ (fun w a => (item w).result = .ok a) items as

theorem hasValues_iff_result (h : ∀ w a, (item w).result = .ok a ↔ w = encode a) :
    o.HasValues name encode as ↔ (o.list name item).result = .ok as := by
  simp only [HasValues, result_list_eq_ok_iff, Json.result_values_eq_ok_iff h]
  constructor
  · rintro (hget | ⟨hget, hnone⟩)
    · exact ⟨_, hget, .inl rfl⟩
    · exact ⟨_, hget, .inr ⟨rfl, hnone⟩⟩
  · rintro ⟨_, hget, rfl | ⟨rfl, hnone⟩⟩
    · exact .inl hget
    · exact .inr ⟨hget, hnone⟩

theorem hasList_iff : o.HasList name item as ↔
    ∃ v, o.get? name = some v ∧ (v.list name item).result = .ok as := by
  simp only [HasList, Json.result_list_eq_ok_iff, Json.elements_eq_ok_iff]
  constructor
  · rintro ⟨items, hget | ⟨hget, hnone⟩, hvalues⟩
    · exact ⟨_, hget, items, .inl rfl, hvalues⟩
    · exact ⟨_, hget, items, .inr ⟨rfl, hnone⟩, hvalues⟩
  · rintro ⟨_, hget, items, rfl | ⟨rfl, hnone⟩, hvalues⟩
    · exact ⟨items, .inl hget, hvalues⟩
    · exact ⟨items, .inr ⟨hget, hnone⟩, hvalues⟩

theorem hasList_iff_result : o.HasList name item as ↔ (o.list name item).result = .ok as :=
  hasList_iff.trans result_list_eq_ok_iff.symm

theorem result_strings_eq_ok_iff {texts : List String} :
    (o.strings name).result = .ok texts ↔ o.HasValues name .str texts :=
  (hasValues_iff_result fun _ _ => Json.result_stringElement_eq_ok_iff).symm

theorem HasValues.hasList_strings {texts : List String} (h : o.HasValues name .str texts) :
    o.HasList name (Json.stringElement name) texts :=
  hasList_iff_result.mpr (result_strings_eq_ok_iff.mpr h)

theorem result_ints_eq_ok_iff {ints : List Int} :
    (o.ints name).result = .ok ints ↔ o.HasValues name .int ints :=
  (hasValues_iff_result fun _ _ => Json.result_intElement_eq_ok_iff).symm

theorem result_envelopeJids_eq_ok_iff {jids : List String} :
    (o.envelopeJids name).result = .ok jids ↔ o.HasValues name .str jids :=
  result_envelopeList_eq_ok_iff.trans result_strings_eq_ok_iff

theorem HasValues.fits {nullable : List String} (h : o.HasValues name encode as) :
    ∃ v, o.get? name = some v ∧ (v = .null → name ∈ nullable) := by
  rcases h with hget | ⟨hget, -⟩
  · exact ⟨_, hget, nofun⟩
  · exact ⟨_, hget, nofun⟩

theorem HasList.fits {nullable : List String} (h : o.HasList name item as) :
    ∃ v, o.get? name = some v ∧ (v = .null → name ∈ nullable) := by
  obtain ⟨v, hget, hlist⟩ := hasList_iff.mp h
  exact ⟨v, hget, fun hnull => absurd hnull (Json.ne_null_of_result_list hlist)⟩

/-- The values of a list property are readable where the property is. -/
theorem HasValues.readable (h : o.HasValues name encode as) (ho : (Json.obj o).Readable level) :
    (Json.arr (as.map encode)).Readable (level + 1) := by
  rcases h with hget | ⟨hget, rfl⟩
  · exact readable_of_get? ho hget
  · exact Json.readable_arr_iff.mpr ⟨(readable_of_get? ho hget).level_le, by simp⟩

end Lists

end Object

namespace Shape

variable {s : Shape} {o : Object} {v : Json}

/-- Every declared property is there, and is null only where it may be. -/
def Fits (s : Shape) (o : Object) : Prop :=
  ∀ name ∈ s.names, ∃ v, o.get? name = some v ∧ (v = .null → name ∈ s.nullable)

theorem Fits.exists_value {name : String} (h : s.Fits o) (hname : name ∈ s.names) :
    ∃ v, o.get? name = some v := by
  obtain ⟨v, hget, -⟩ := h name hname
  exact ⟨v, hget⟩

theorem fault?_eq_none_iff {name : String} :
    s.fault? o name = none ↔ ∃ v, o.get? name = some v ∧ (v = .null → name ∈ s.nullable) := by
  unfold fault? Object.presence
  cases hget : o.get? name with
  | none =>
      simp
  | some v =>
      cases v <;> simp

theorem firstFault?_eq_none_iff : s.firstFault? o = none ↔ s.Fits o := by
  rw [firstFault?, List.findSome?_eq_none_iff]
  exact forall₂_congr fun _ _ => fault?_eq_none_iff

/-- A check of an object reports the first fault, or notes what is not declared. -/
theorem read_obj :
    s.read (.obj o) = (s.firstFault? o).elim
      ⟨(s.unknown o).map (Notice.ignored s.record), .ok o⟩ Traced.fail := by
  rw [read, Json.lift_asObject_obj, pure_bind]
  cases s.firstFault? o with
  | none =>
      exact congrArg (Traced.mk · (Except.ok o)) (List.append_nil _)
  | some e =>
      rfl

/-- A value has the shape of a record if it is an object with the declared properties. -/
theorem result_read_eq_ok_iff : (s.read v).result = .ok o ↔ v = .obj o ∧ s.Fits o := by
  rw [read, Traced.result_bind_eq_ok_iff]
  simp only [Traced.result_lift, Json.asObject_eq_ok_iff]
  constructor
  · rintro ⟨p, rfl, hread⟩
    cases hfault : s.firstFault? p with
    | some e =>
        rw [hfault] at hread
        exact absurd hread Traced.result_fail_ne_ok
    | none =>
        rw [hfault] at hread
        obtain ⟨-, -, hpure⟩ := Traced.result_bind_eq_ok_iff.mp hread
        obtain rfl := Traced.result_pure_eq_ok_iff.mp hpure
        exact ⟨rfl, firstFault?_eq_none_iff.mp hfault⟩
  · rintro ⟨rfl, hfits⟩
    refine ⟨o, rfl, ?_⟩
    rw [firstFault?_eq_none_iff.mpr hfits]
    rfl

end Shape

end JobWire
