import JobWire.Json.Parser

/-!
# Values within the limits of reading

A text is read only if its containers do not lie too deep and its integers are not too long.  A
value is *readable* inside a number of containers when it stays within these limits there and no
object in it has two members of one name: these are the values that reading can yield.

**Results.**
* `depth_arr_le_iff`, `depth_obj_le_iff`: a container lies one level above what it holds.
* `readable_arr_iff`, `readable_obj_iff`: a container is readable if what it holds is readable one
  level deeper.
-/

namespace JobWire
namespace Json

mutual

/-- The number of levels of non-empty containers in a value. -/
def depth : Json → Nat
  | arr items => depthItems items
  | obj members => depthMembers members
  | _ => 0

/-- The depth of the array with the given items. -/
def depthItems : List Json → Nat
  | [] => 0
  | v :: vs => max (depth v + 1) (depthItems vs)

/-- The depth of the object with the given members. -/
def depthMembers : List (String × Json) → Nat
  | [] => 0
  | (_, v) :: ms => max (depth v + 1) (depthMembers ms)

end

mutual

/-- Whether every integer in the value is short enough to be read. -/
def integersFit : Json → Bool
  | int i => decide ((Nat.toDigits 10 i.natAbs).length ≤ maxDigits)
  | arr items => integersFitItems items
  | obj members => integersFitMembers members
  | _ => true

/-- Whether every integer in the list of values is short enough to be read. -/
def integersFitItems : List Json → Bool
  | [] => true
  | v :: vs => integersFit v && integersFitItems vs

/-- Whether every integer in the values of the members is short enough to be read. -/
def integersFitMembers : List (String × Json) → Bool
  | [] => true
  | (_, v) :: ms => integersFit v && integersFitMembers ms

end

/-- The value can be read inside the given number of containers. -/
structure Readable (level : Nat) (v : Json) : Prop where
  distinct : v.Distinct
  integersFit : v.integersFit = true
  depth : level + v.depth ≤ maxDepth

section Members

theorem depthItems_le_iff {k : Nat} :
    ∀ items : List Json, depthItems items ≤ k ↔ ∀ v ∈ items, v.depth + 1 ≤ k
  | [] => by simp [depthItems]
  | v :: vs => by
      rw [depthItems, Nat.max_le, depthItems_le_iff vs, List.forall_mem_cons]

theorem depthMembers_le_iff {k : Nat} :
    ∀ members : List (String × Json),
      depthMembers members ≤ k ↔ ∀ m ∈ members, m.2.depth + 1 ≤ k
  | [] => by simp [depthMembers]
  | (_, v) :: ms => by
      rw [depthMembers, Nat.max_le, depthMembers_le_iff ms, List.forall_mem_cons]

theorem integersFitItems_iff :
    ∀ items : List Json, integersFitItems items = true ↔ ∀ v ∈ items, v.integersFit = true
  | [] => by simp [integersFitItems]
  | v :: vs => by
      rw [integersFitItems, Bool.and_eq_true, integersFitItems_iff vs, List.forall_mem_cons]

theorem integersFitMembers_iff :
    ∀ members : List (String × Json),
      integersFitMembers members = true ↔ ∀ m ∈ members, m.2.integersFit = true
  | [] => by simp [integersFitMembers]
  | (_, v) :: ms => by
      rw [integersFitMembers, Bool.and_eq_true, integersFitMembers_iff ms, List.forall_mem_cons]

theorem distinctItems_iff :
    ∀ items : List Json, DistinctItems items ↔ ∀ v ∈ items, v.Distinct
  | [] => by simp [DistinctItems]
  | v :: vs => by
      rw [DistinctItems, distinctItems_iff vs, List.forall_mem_cons]

theorem distinctMembers_iff :
    ∀ members : List (String × Json), DistinctMembers members ↔ ∀ m ∈ members, m.2.Distinct
  | [] => by simp [DistinctMembers]
  | (_, v) :: ms => by
      rw [DistinctMembers, distinctMembers_iff ms, List.forall_mem_cons]

end Members

section Containers

variable {items : List Json} {members : Object} {k : Nat}

theorem depth_arr_le_iff : (arr items).depth ≤ k ↔ ∀ v ∈ items, v.depth + 1 ≤ k := by
  rw [depth, depthItems_le_iff]

theorem depth_obj_le_iff : (obj members).depth ≤ k ↔ ∀ m ∈ members, m.2.depth + 1 ≤ k := by
  rw [depth, depthMembers_le_iff]

theorem integersFit_arr_iff :
    (arr items).integersFit = true ↔ ∀ v ∈ items, v.integersFit = true := by
  rw [integersFit, integersFitItems_iff]

theorem integersFit_obj_iff :
    (obj members).integersFit = true ↔ ∀ m ∈ members, m.2.integersFit = true := by
  rw [integersFit, integersFitMembers_iff]

theorem distinct_arr_iff : (arr items).Distinct ↔ ∀ v ∈ items, v.Distinct := by
  rw [Distinct, distinctItems_iff]

theorem distinct_obj_iff :
    (obj members).Distinct ↔ members.names.Nodup ∧ ∀ m ∈ members, m.2.Distinct := by
  rw [Distinct, distinctMembers_iff]
  rfl

end Containers

section Readable

variable {level : Nat} {items : List Json} {members : Object}

theorem Readable.level_le {v : Json} (h : v.Readable level) : level ≤ maxDepth :=
  Nat.le_trans (Nat.le_add_right _ _) h.depth

/-- An array is readable if its items are readable one level deeper. -/
theorem readable_arr_iff :
    (arr items).Readable level ↔ level ≤ maxDepth ∧ ∀ v ∈ items, v.Readable (level + 1) := by
  constructor
  · intro h
    refine ⟨h.level_le, fun v hv => ⟨?_, ?_, ?_⟩⟩
    · exact distinct_arr_iff.mp h.distinct v hv
    · exact integersFit_arr_iff.mp h.integersFit v hv
    · have hdepth := depth_arr_le_iff.mp (Nat.le_refl (arr items).depth) v hv
      have := h.depth
      omega
  · rintro ⟨hlevel, hitems⟩
    refine ⟨distinct_arr_iff.mpr fun v hv => (hitems v hv).distinct,
      integersFit_arr_iff.mpr fun v hv => (hitems v hv).integersFit, ?_⟩
    have hdepth : (arr items).depth ≤ maxDepth - level := by
      rw [depth_arr_le_iff]
      intro v hv
      have := (hitems v hv).depth
      omega
    omega

/-- An object is readable if its names differ and its values are readable one level deeper. -/
theorem readable_obj_iff :
    (obj members).Readable level ↔
      level ≤ maxDepth ∧ members.names.Nodup ∧ ∀ m ∈ members, m.2.Readable (level + 1) := by
  constructor
  · intro h
    obtain ⟨hnames, hdistinct⟩ := distinct_obj_iff.mp h.distinct
    refine ⟨h.level_le, hnames, fun m hm => ⟨hdistinct m hm, ?_, ?_⟩⟩
    · exact integersFit_obj_iff.mp h.integersFit m hm
    · have hdepth := depth_obj_le_iff.mp (Nat.le_refl (obj members).depth) m hm
      have := h.depth
      omega
  · rintro ⟨hlevel, hnames, hmembers⟩
    refine ⟨distinct_obj_iff.mpr ⟨hnames, fun m hm => (hmembers m hm).distinct⟩,
      integersFit_obj_iff.mpr fun m hm => (hmembers m hm).integersFit, ?_⟩
    have hdepth : (obj members).depth ≤ maxDepth - level := by
      rw [depth_obj_le_iff]
      intro m hm
      have := (hmembers m hm).depth
      omega
    omega

theorem readable_null_iff : null.Readable level ↔ level ≤ maxDepth :=
  ⟨Readable.level_le, fun h => ⟨trivial, rfl, h⟩⟩

theorem readable_bool_iff {b : Bool} : (bool b).Readable level ↔ level ≤ maxDepth :=
  ⟨Readable.level_le, fun h => ⟨trivial, rfl, h⟩⟩

theorem readable_float_iff {x : Binary64} : (float x).Readable level ↔ level ≤ maxDepth :=
  ⟨Readable.level_le, fun h => ⟨trivial, rfl, h⟩⟩

theorem readable_str_iff {s : String} : (str s).Readable level ↔ level ≤ maxDepth :=
  ⟨Readable.level_le, fun h => ⟨trivial, rfl, h⟩⟩

theorem readable_int_iff {i : Int} :
    (int i).Readable level ↔
      level ≤ maxDepth ∧ (Nat.toDigits 10 i.natAbs).length ≤ maxDigits := by
  constructor
  · intro h
    exact ⟨h.level_le, of_decide_eq_true h.integersFit⟩
  · rintro ⟨hlevel, hdigits⟩
    exact ⟨trivial, decide_eq_true hdigits, hlevel⟩

/-- What is readable inside some containers is readable inside fewer. -/
theorem Readable.mono {v : Json} {inner : Nat} (h : v.Readable inner) (hle : level ≤ inner) :
    v.Readable level :=
  ⟨h.distinct, h.integersFit, Nat.le_trans (Nat.add_le_add_right hle _) h.depth⟩

end Readable

end Json
end JobWire
