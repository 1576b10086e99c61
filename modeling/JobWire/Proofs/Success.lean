import JobWire.Wire
import Mathlib.Data.List.Forall2

/-!
# Runs that succeed

What a run yields when it succeeds, without its notices.  A run in sequence yields a value exactly
when its parts do, so the value of a decoder that is put together from others is taken apart one
step at a time, in either direction.

**Results.**
* `bind_eq_ok_iff`, `Traced.result_bind_eq_ok_iff`: the values of runs in sequence.
* `Traced.result_each_eq_ok_iff`: the values of the runs of a list.
* `eq_iff_of_total`: what a run yields, by a relation that knows it.
-/

namespace JobWire

/-- A relation that holds of something, and of nothing but `a`, holds exactly of `a`. -/
theorem eq_iff_of_total {α : Type} {R : α → Prop} {a b : α} (htotal : ∃ c, R c)
    (hsound : ∀ {c}, R c → a = c) : a = b ↔ R b := by
  constructor
  · rintro rfl
    obtain ⟨c, hc⟩ := htotal
    rw [hsound hc]
    exact hc
  · exact hsound

section Plain

variable {ε ε' α β : Type} {x : Except ε α} {a : α}

theorem bind_eq_ok_iff {f : α → Except ε β} {b : β} :
    (x >>= f) = .ok b ↔ ∃ a, x = .ok a ∧ f a = .ok b := by
  cases x with
  | error e =>
      simp [bind, Except.bind]
  | ok a =>
      simp [bind, Except.bind]

theorem ok_bind {f : α → Except ε β} : (Except.ok a >>= f) = f a := rfl

theorem pure_eq_ok_iff {b : α} : (pure a : Except ε α) = .ok b ↔ a = b := by
  simp [pure, Except.pure]

theorem mapError_eq_ok_iff {f : ε → ε'} : x.mapError f = .ok a ↔ x = .ok a := by
  cases x with
  | error e =>
      simp [Except.mapError]
  | ok a =>
      simp [Except.mapError]

theorem mapError_inj {f : ε → ε'} (hf : Function.Injective f) {y : Except ε α} :
    x.mapError f = y.mapError f ↔ x = y := by
  cases x <;> cases y <;> simp [Except.mapError, hf.eq_iff]

end Plain

namespace Traced

variable {ε ε' α β : Type} {x : Traced ε α} {a : α}

theorem result_bind_eq_ok_iff {f : α → Traced ε β} {b : β} :
    (x >>= f).result = .ok b ↔ ∃ a, x.result = .ok a ∧ (f a).result = .ok b := by
  rw [result_bind, bind_eq_ok_iff]

theorem result_pure_eq_ok_iff {b : α} : (pure a : Traced ε α).result = .ok b ↔ a = b :=
  pure_eq_ok_iff

theorem result_fail_ne_ok {e : ε} : (fail e : Traced ε α).result ≠ .ok a := by
  simp [fail]

theorem result_lift {r : Except ε α} : (liftM r : Traced ε α).result = r := rfl

/-- A record that is built while decoding is built from the same fields. -/
theorem result_liftBuilt_eq_ok_iff {b : Built α} :
    (liftM b : Decode α).result = .ok a ↔ b = .ok a :=
  mapError_eq_ok_iff

theorem result_mapError_eq_ok_iff {f : ε → ε'} :
    (x.mapError f).result = .ok a ↔ x.result = .ok a :=
  mapError_eq_ok_iff

/-- The runs of a list yield the values of its elements, in order. -/
theorem result_each_eq_ok_iff {f : α → Traced ε β} {as : List α} {bs : List β} :
    (each f as).result = .ok bs ↔ List.Forall₂ (fun a b => (f a).result = .ok b) as bs := by
  induction as generalizing bs with
  | nil =>
      rw [List.forall₂_nil_left_iff]
      exact pure_eq_ok_iff.trans eq_comm
  | cons a as ih =>
      rw [each, result_bind_eq_ok_iff, List.forall₂_cons_left_iff]
      constructor
      · rintro ⟨b, hb, hrest⟩
        obtain ⟨rest, hrest, hpure⟩ := result_bind_eq_ok_iff.mp hrest
        exact ⟨b, rest, hb, ih.mp hrest, (result_pure_eq_ok_iff.mp hpure).symm⟩
      · rintro ⟨b, rest, hb, hrest, rfl⟩
        exact ⟨b, hb, result_bind_eq_ok_iff.mpr ⟨rest, ih.mpr hrest, rfl⟩⟩

/-- The runs of a list yield the values that they stem from exactly if each run does. -/
theorem result_each_map_iff {f : β → Traced ε α} {g : α → β} {as : List α} :
    (each f (as.map g)).result = .ok as ↔ ∀ a ∈ as, (f (g a)).result = .ok a := by
  rw [result_each_eq_ok_iff, List.forall₂_map_left_iff, List.forall₂_same]

end Traced

end JobWire
