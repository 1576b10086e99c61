import JobWire.Proofs.Construction
import JobWire.Proofs.Property

/-!
# Failures written and read back

A failure is read from an object with its four properties, and its absence is read from null or from
an object that is empty.  A failure is never written as an empty object, so neither is taken for the
other.

**Results.**
* `Failure.result_ofJson_eq_ok_iff`: which values a failure, or its absence, is read from.
* `Failure.result_ofJson_toJson`: a valid failure, or its absence, is read back.
* `Failure.readable_toJson`: what was read is written as a value that can be read where its own was.
-/

namespace JobWire
namespace Failure

/-- The object has the properties that a failure is read from. -/
structure ReadFrom (o : Object) (f : Failure) : Prop where
  group : o.get? "group" = some (.str f.group)
  message : o.get? "message" = some (.str f.message)
  time : o.get? "when" = some (.int f.time)
  worker : o.get? "worker" = some (.str f.worker)

variable {o : Object} {f : Failure} {failure : Option Failure} {v : Json} {level : Nat}

theorem ReadFrom.fits (h : f.ReadFrom o) : shape.Fits o := by
  refine List.forall_mem_cons.mpr ⟨⟨_, h.group, by simp⟩, ?_⟩
  refine List.forall_mem_cons.mpr ⟨⟨_, h.message, by simp⟩, ?_⟩
  exact List.forall_mem_cons.mpr
    ⟨⟨_, h.time, by simp⟩, List.forall_mem_singleton.mpr ⟨_, h.worker, by simp⟩⟩

theorem draft_eq_ok_iff : draft o = .ok f.fields ↔ f.ReadFrom o := by
  simp only [draft, bind_eq_ok_iff, pure_eq_ok_iff, Object.string_eq_ok_iff,
    Object.int_eq_ok_iff]
  constructor
  · rintro ⟨_, hgroup, _, hmessage, _, htime, _, hworker, hfields⟩
    cases hfields
    exact ⟨hgroup, hmessage, htime, hworker⟩
  · intro h
    exact ⟨_, h.group, _, h.message, _, h.time, _, h.worker, rfl⟩

/-- A failure is read from the objects that have its properties, if it is valid. -/
theorem result_ofJson_eq_some_iff :
    (ofJson v).result = .ok (some f) ↔ ∃ o, v = .obj o ∧ f.ReadFrom o ∧ f.Valid := by
  have hrun : ∀ {o : Object},
      (do let o ← shape.read (.obj o); let d ← draft o; let f ← d.build; return some f :
        Decode (Option Failure)).result = .ok (some f) ↔ f.ReadFrom o ∧ f.Valid := by
    intro o
    simp only [Traced.result_bind_eq_ok_iff, Traced.result_lift, Shape.result_read_eq_ok_iff,
      Traced.result_liftBuilt_eq_ok_iff, Traced.result_pure_eq_ok_iff, Json.obj.injEq,
      FailureDraft.build_eq_ok_iff]
    constructor
    · rintro ⟨_, ⟨rfl, -⟩, _, hdraft, _, ⟨rfl, hvalid⟩, hsome⟩
      cases hsome
      exact ⟨draft_eq_ok_iff.mp hdraft, hvalid⟩
    · rintro ⟨hread, hvalid⟩
      exact ⟨o, ⟨rfl, hread.fits⟩, _, draft_eq_ok_iff.mpr hread, f, ⟨rfl, hvalid⟩, rfl⟩
  cases v with
  | obj members =>
      cases members with
      | nil =>
          constructor
          · intro h
            cases h
          · rintro ⟨_, ho, hread, -⟩
            cases ho
            cases hread.group
      | cons m ms =>
          simp only [ofJson, hrun, Json.obj.injEq, exists_eq_left']
  | null =>
      constructor
      · intro h
        cases h
      · rintro ⟨_, ho, -⟩
        cases ho
  | bool _ | int _ | float _ | str _ | arr _ =>
      simp [ofJson, Traced.fail]

theorem result_ofJson_eq_none_iff :
    (ofJson v).result = .ok none ↔ v = .null ∨ v = .obj [] := by
  cases v with
  | obj members =>
      cases members with
      | nil =>
          exact iff_of_true rfl (.inr rfl)
      | cons m ms =>
          refine iff_of_false (fun h => ?_) (by simp)
          simp only [ofJson, Traced.result_bind_eq_ok_iff, Traced.result_pure_eq_ok_iff] at h
          obtain ⟨_, -, _, -, _, -, hnone⟩ := h
          cases hnone
  | null =>
      exact iff_of_true rfl (.inl rfl)
  | bool _ | int _ | float _ | str _ | arr _ =>
      simp [ofJson, Traced.fail]

/-- The value is that of a failure, or stands for the absence of one. -/
inductive ReadAs : Json → Option Failure → Prop
  | null : ReadAs .null none
  | empty : ReadAs (.obj []) none
  | failure {o : Object} {f : Failure} :
      f.ReadFrom o →
      f.Valid →
      ReadAs (.obj o) (some f)

theorem result_ofJson_eq_ok_iff : (ofJson v).result = .ok failure ↔ ReadAs v failure := by
  cases failure with
  | none =>
      rw [result_ofJson_eq_none_iff]
      constructor
      · rintro (rfl | rfl)
        · exact .null
        · exact .empty
      · rintro (_ | _)
        · exact .inl rfl
        · exact .inr rfl
  | some f =>
      rw [result_ofJson_eq_some_iff]
      constructor
      · rintro ⟨o, rfl, hread, hvalid⟩
        exact .failure hread hvalid
      · rintro (_ | _ | ⟨hread, hvalid⟩)
        exact ⟨_, rfl, hread, hvalid⟩

theorem valid_of_ofJson (h : (ofJson v).result = .ok failure) : ∀ f ∈ failure, f.Valid := by
  rintro f rfl
  obtain ⟨_, -, -, hvalid⟩ := result_ofJson_eq_some_iff.mp h
  exact hvalid

/-- A valid failure, or its absence, is read back from its own value. -/
theorem result_ofJson_toJson (h : ∀ f ∈ failure, f.Valid) :
    (ofJson (toJson failure)).result = .ok failure := by
  cases failure with
  | none =>
      rfl
  | some f =>
      exact result_ofJson_eq_some_iff.mpr ⟨_, rfl, ⟨rfl, rfl, rfl, rfl⟩, h f rfl⟩

/-- What was read as a failure or its absence is written as a value that is readable there. -/
theorem readable_toJson (hv : v.Readable level) (h : (ofJson v).result = .ok failure) :
    (toJson failure).Readable level := by
  cases failure with
  | none =>
      exact Json.readable_obj_iff.mpr ⟨hv.level_le, List.nodup_nil, by simp⟩
  | some f =>
      obtain ⟨o, rfl, hread, -⟩ := result_ofJson_eq_some_iff.mp h
      refine Json.readable_obj_iff.mpr ⟨hv.level_le, by simp [Object.names], ?_⟩
      simp only [List.forall_mem_cons]
      exact ⟨Object.readable_of_get? hv hread.group, Object.readable_of_get? hv hread.message,
        Object.readable_of_get? hv hread.time, Object.readable_of_get? hv hread.worker, by simp⟩

end Failure
end JobWire
