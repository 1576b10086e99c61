import JobWire.Proofs.Grammar
import JobWire.Proofs.Independence
import Mathlib.Data.List.Dedup

/-!
# Checking declared properties

Every record is decoded from an object whose declared properties have been checked.  The check goes
through the names in the order in which they are declared, so what it reports depends on the names
and on what the object has under each of them, and not on how the object was written.

A declared property can be there in three ways.  If it is absent, that is a fault even where it
might have been null; if it is null, that is a fault of its own unless it may be; and otherwise
there is none.  The names that an object has besides the declared ones are the unknown ones.

**Results.**
* `Shape.result_read_eq_iff`: what is reported of a value, for any names and any value.
* `Shape.result_read_perm`: an error does not depend on the order of the properties.
* `Shape.perm_present_append_unknown`: an object has the declared names that it has, and the unknown
  ones, and no name is both.
* `Shape.checked_in_order`: all of this for any shape.
-/

namespace JobWire
namespace Shape

/-- What is reported of a value that is checked against a shape. -/
inductive Verdict (s : Shape) : Json → Decoded Object → Prop
  | notObject {v : Json} :
      (∀ o, v ≠ .obj o) →
      Verdict s v (.error (.malformedRoot none))
  | absent {o : Object} {name : String} :
      IsFirst (s.Misses o) s.names name →
      o.get? name = none →
      Verdict s (.obj o) (.error (.missing name none))
  | null {o : Object} {name : String} :
      IsFirst (s.Misses o) s.names name →
      o.get? name = some .null →
      Verdict s (.obj o) (.error (.null name none))
  | fits {o : Object} :
      s.Fits o →
      Verdict s (.obj o) (.ok o)

/-- The declared properties that an object has, each once. -/
def present (s : Shape) (o : Object) : List String :=
  s.names.dedup.filter fun name => decide (o.presence name ≠ .absent)

variable {s : Shape} {o p : Object} {v : Json} {r : Decoded Object} {name : String}

section Reading

theorem result_read_of_verdict (h : s.Verdict v r) : (s.read v).result = r := by
  cases h with
  | notObject hne =>
      exact result_read_of_ne hne
  | absent hfirst hget =>
      exact result_read_of_absent hfirst hget
  | null hfirst hget =>
      exact result_read_of_null hfirst hget
  | fits hfits =>
      exact result_read_eq_ok_iff.mpr ⟨rfl, hfits⟩

theorem exists_verdict (s : Shape) (v : Json) : ∃ r, s.Verdict v r := by
  by_cases hobject : ∃ o, v = .obj o
  · obtain ⟨o, rfl⟩ := hobject
    by_cases hfits : s.Fits o
    · exact ⟨_, .fits hfits⟩
    · obtain ⟨name, hfirst⟩ := exists_isFirst_of_not_fits hfits
      rcases hfirst.prop with habsent | ⟨hnull, -⟩
      · exact ⟨_, .absent hfirst habsent⟩
      · exact ⟨_, .null hfirst hnull⟩
  · exact ⟨_, .notObject fun o ho => hobject ⟨o, ho⟩⟩

/-- A check reports the verdict, for any names and any value. -/
theorem result_read_eq_iff : (s.read v).result = r ↔ s.Verdict v r :=
  eq_iff_of_total (exists_verdict s v) result_read_of_verdict

theorem result_read_obj_eq_error_iff {e : DecodeError} :
    (s.read (.obj o)).result = .error e ↔ s.firstFault? o = some e := by
  rw [read_obj]
  cases s.firstFault? o with
  | none =>
      simp
  | some fault =>
      simp [Traced.fail]

/-- An error does not depend on the order of the properties. -/
theorem result_read_perm {e : DecodeError} (hnodup : o.names.Nodup) (h : p.Perm o) :
    (s.read (.obj p)).result = .error e ↔ (s.read (.obj o)).result = .error e := by
  have hagree : Object.AgreeOn s.names o p := Object.agreeOn_of_perm hnodup h
  have hfault : s.firstFault? o = s.firstFault? p := firstFault?_congr hagree.presence
  rw [result_read_obj_eq_error_iff, result_read_obj_eq_error_iff, hfault]

end Reading

section Names

theorem mem_present_iff : name ∈ s.present o ↔ name ∈ s.names ∧ name ∈ o.names := by
  have hpresent : o.presence name ≠ .absent ↔ name ∈ o.names := by
    rw [Ne, Object.presence_eq_absent_iff, Object.get?_eq_none_iff, not_not]
  simp only [present, List.mem_filter, List.mem_dedup, decide_eq_true_eq, hpresent]

theorem unknown_sublist : (s.unknown o).Sublist o.names :=
  List.filter_sublist

theorem nodup_unknown (hnodup : o.names.Nodup) : (s.unknown o).Nodup :=
  hnodup.sublist unknown_sublist

theorem nodup_present_append_unknown (hnodup : o.names.Nodup) :
    (s.present o ++ s.unknown o).Nodup := by
  have hpresent : (s.present o).Nodup := (List.nodup_dedup s.names).filter _
  refine hpresent.append (nodup_unknown hnodup) ?_
  intro name hdeclared hunknown
  have hin : name ∈ s.names := (mem_present_iff.mp hdeclared).1
  exact (mem_unknown_iff.mp hunknown).2 hin

/-- An object has the declared names that it has, and the unknown ones, and no name is both. -/
theorem perm_present_append_unknown (hnodup : o.names.Nodup) :
    (s.present o ++ s.unknown o).Perm o.names := by
  rw [List.perm_ext_iff_of_nodup (nodup_present_append_unknown hnodup) hnodup]
  intro name
  rw [List.mem_append, mem_present_iff, mem_unknown_iff]
  constructor
  · rintro (⟨-, hname⟩ | ⟨hname, -⟩)
    · exact hname
    · exact hname
  · intro hname
    by_cases hdeclared : name ∈ s.names
    · exact .inl ⟨hdeclared, hname⟩
    · exact .inr ⟨hname, hdeclared⟩

end Names

/-- A value passes the check, and is left as it is, exactly if it is an object that has every
declared property, null only where it may be.  Of any other object the first declared property at
fault is reported, as absent or as null, in whatever order the object has its properties.  The
unknown names are the others that an object has, each once and in its order. -/
theorem checked_in_order (s : Shape) :
    (∀ v r, (s.read v).result = r ↔ s.Verdict v r) ∧
      (∀ v o, (s.read v).result = .ok o ↔ v = .obj o ∧ s.Fits o) ∧
      ∀ o : Object, o.names.Nodup →
        (∀ p : Object, p.Perm o → ∀ e,
          (s.read (.obj p)).result = .error e ↔ (s.read (.obj o)).result = .error e) ∧
        (s.unknown o).Sublist o.names ∧
        (s.unknown o).Nodup ∧
        (∀ name, name ∈ s.unknown o ↔ name ∈ o.names ∧ name ∉ s.names) ∧
        (s.present o ++ s.unknown o).Perm o.names := by
  refine ⟨fun v r => result_read_eq_iff, fun v o => result_read_eq_ok_iff, fun o hnodup => ?_⟩
  refine ⟨fun p hperm e => result_read_perm hnodup hperm, unknown_sublist, nodup_unknown hnodup,
    fun name => mem_unknown_iff, perm_present_append_unknown hnodup⟩

/-- Four properties, of which one is declared twice and may be null. -/
def nullableTwice : Shape := ⟨"sample", ["a", "b", "a", "c"], ["a", "b"]⟩

/-- An object that lacks one property, has two that are null, and two that are not declared. -/
def lacking : Object := [("y", .null), ("c", .null), ("x", .int 1), ("a", .null)]

/-- What may be null must be there, and is reported before what is null and may not be. -/
theorem checked_in_order_lacking :
    lacking.names.Nodup ∧ lacking.reverse.Perm lacking ∧
      (nullableTwice.read (.obj lacking)).result = .error (.missing "b" none) ∧
      nullableTwice.Verdict (.obj lacking) (.error (.missing "b" none)) ∧
      (nullableTwice.read (.obj lacking.reverse)).result = .error (.missing "b" none) ∧
      nullableTwice.unknown lacking = ["y", "x"] ∧
      (nullableTwice.present lacking ++ nullableTwice.unknown lacking).Perm lacking.names := by
  have hnodup : lacking.names.Nodup := by decide
  have hperm : lacking.reverse.Perm lacking := List.reverse_perm lacking
  have herror : (nullableTwice.read (.obj lacking)).result = .error (.missing "b" none) := by
    decide
  obtain ⟨hverdict, -, hobject⟩ := checked_in_order nullableTwice
  obtain ⟨horder, -, -, -, hnames⟩ := hobject lacking hnodup
  exact ⟨hnodup, hperm, herror, (hverdict _ _).mp herror, (horder _ hperm _).mpr herror, by decide,
    hnames⟩

end Shape
end JobWire
