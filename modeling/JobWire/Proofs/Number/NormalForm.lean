import JobWire.Number.Decimal
import Mathlib.Algebra.Group.Nat.Defs
import Mathlib.Data.List.DropRight
import Mathlib.Data.List.TakeWhile

/-!
# Decimals in normal form

A decimal is in normal form when its digits neither begin nor end with a zero, and zero itself has
its point at the front.  Two decimals in normal form are equal only if their digits and points are,
so a text of a number is read back as soon as it leads to the right normal form.

**Results.**
* `Decimal.normal_ofDigits`: every digit sequence leads to a normal form.
* `Decimal.Normal.ofDigits_digits`: the digits of a normal form lead back to it.
* `Decimal.ofDigits_replicate_append`, `Decimal.ofDigits_append_replicate`: zeros written before
  or after the digits change nothing but the place of the point.
* `Decimal.ofNat_zero`, `Decimal.exists_ofNat`: what a natural number and a power of ten lead to.
-/

namespace JobWire
namespace Decimal

/-- The digits neither begin nor end with a zero, and without digits the point is at the front. -/
structure Normal (d : Decimal) : Prop where
  digits : ∀ c ∈ d.digits, c.isDigit = true
  head : d.digits.head? ≠ some '0'
  last : d.digits.getLast? ≠ some '0'
  point : d.digits = [] → d.point = 0

theorem dropTrailingZeros_eq (ds : List Char) :
    dropTrailingZeros ds = ds.rdropWhile (· == '0') := rfl

theorem dropTrailingZeros_append_zero (ds : List Char) :
    dropTrailingZeros (ds ++ ['0']) = dropTrailingZeros ds := by
  rw [dropTrailingZeros_eq, List.rdropWhile_concat_pos _ _ _ (by decide), dropTrailingZeros_eq]

theorem dropTrailingZeros_eq_self {ds : List Char} (h : ds.getLast? ≠ some '0') :
    dropTrailingZeros ds = ds := by
  rw [dropTrailingZeros_eq, List.rdropWhile_eq_self_iff]
  intro hne hlast
  apply h
  rw [List.getLast?_eq_some_getLast hne]
  simpa using hlast

/-- The trailing zeros that are dropped. -/
theorem exists_dropTrailingZeros_append :
    ∀ ds : List Char, ∃ k, ds = dropTrailingZeros ds ++ List.replicate k '0' := by
  intro ds
  induction ds using List.reverseRecOn with
  | nil =>
      exact ⟨0, rfl⟩
  | append_singleton ds c ih =>
      by_cases hc : c = '0'
      · subst hc
        obtain ⟨k, hk⟩ := ih
        refine ⟨k + 1, ?_⟩
        rw [dropTrailingZeros_append_zero, List.replicate_succ', ← List.append_assoc, ← hk]
      · refine ⟨0, ?_⟩
        rw [dropTrailingZeros_eq_self (by simpa using hc)]
        simp

theorem dropWhile_zero_of_head {ds : List Char} (h : ds.head? ≠ some '0') :
    ds.dropWhile (· == '0') = ds :=
  List.dropWhile_beq_eq_self_of_head?_ne h

theorem ofDigits_eq_of_ne_nil {ds : List Char} (point : Int)
    (h : dropTrailingZeros (ds.dropWhile (· == '0')) ≠ []) :
    ofDigits ds point =
      ⟨dropTrailingZeros (ds.dropWhile (· == '0')),
        point - (ds.length - (ds.dropWhile (· == '0')).length : Nat)⟩ := by
  simp only [ofDigits]

/-- Digits that do not begin with a zero only lose their trailing zeros. -/
theorem ofDigits_of_head {ds : List Char} (point : Int) (hhead : ds.head? ≠ some '0')
    (hne : dropTrailingZeros ds ≠ []) :
    ofDigits ds point = ⟨dropTrailingZeros ds, point⟩ := by
  rw [ofDigits_eq_of_ne_nil _ (by rwa [dropWhile_zero_of_head hhead]),
    dropWhile_zero_of_head hhead]
  simp

theorem ofDigits_of_all_zero {ds : List Char} (point : Int) (h : ds.dropWhile (· == '0') = []) :
    ofDigits ds point = zero := by
  simp [ofDigits, h, dropTrailingZeros]

/-- A zero written before the digits moves the point. -/
theorem ofDigits_zero_cons (ds : List Char) (point : Int) :
    ofDigits ('0' :: ds) point = ofDigits ds (point - 1) := by
  have hlen : (ds.dropWhile (· == '0')).length ≤ ds.length := List.length_dropWhile_le _ ds
  unfold ofDigits
  simp only [List.dropWhile_cons, beq_self_eq_true, if_true, List.length_cons]
  split
  · rfl
  · congr 1
    omega

/-- A zero written after the digits changes nothing. -/
theorem ofDigits_append_zero (ds : List Char) (point : Int) :
    ofDigits (ds ++ ['0']) point = ofDigits ds point := by
  by_cases h : ds.dropWhile (· == '0') = []
  · have hall : (ds ++ ['0']).dropWhile (· == '0') = [] := by
      rw [List.dropWhile_eq_nil_iff] at h ⊢
      intro c hc
      rcases List.mem_append.mp hc with hc | hc
      · exact h c hc
      · simpa using hc
    rw [ofDigits_of_all_zero _ h, ofDigits_of_all_zero _ hall]
  · have hdrop : (ds ++ ['0']).dropWhile (· == '0') = ds.dropWhile (· == '0') ++ ['0'] := by
      rw [List.dropWhile_append, if_neg (by simpa using h)]
    unfold ofDigits
    simp only [hdrop, dropTrailingZeros_append_zero, List.length_append, List.length_singleton,
      Nat.add_sub_add_right]

theorem ofDigits_replicate_append (k : Nat) (ds : List Char) (point : Int) :
    ofDigits (List.replicate k '0' ++ ds) point = ofDigits ds (point - k) := by
  induction k generalizing point with
  | zero =>
      simp
  | succ k ih =>
      rw [List.replicate_succ, List.cons_append, ofDigits_zero_cons, ih]
      congr 1
      omega

theorem ofDigits_append_replicate (ds : List Char) (k : Nat) (point : Int) :
    ofDigits (ds ++ List.replicate k '0') point = ofDigits ds point := by
  induction k with
  | zero =>
      simp
  | succ k ih =>
      rw [List.replicate_succ', ← List.append_assoc, ofDigits_append_zero, ih]

/-- The digits of a normal form lead back to it. -/
theorem Normal.ofDigits_digits {d : Decimal} (h : d.Normal) : ofDigits d.digits d.point = d := by
  have hlast := dropTrailingZeros_eq_self h.last
  by_cases hnil : d.digits = []
  · obtain ⟨ds, point⟩ := d
    obtain rfl : ds = [] := hnil
    obtain rfl : point = 0 := h.point rfl
    rfl
  · rw [ofDigits_of_head _ h.head (by rwa [hlast]), hlast]

theorem normal_zero : zero.Normal where
  digits := by simp [zero]
  head := by simp [zero]
  last := by simp [zero]
  point := fun _ => rfl

theorem getLast?_dropTrailingZeros (ds : List Char) :
    (dropTrailingZeros ds).getLast? ≠ some '0' := by
  intro h
  have hne : dropTrailingZeros ds ≠ [] := by
    intro hnil
    simp [hnil] at h
  rw [List.getLast?_eq_some_getLast hne, Option.some.injEq] at h
  have hlast := List.rdropWhile_last_not (fun c => c == '0') ds hne
  apply hlast
  rw [beq_iff_eq]
  exact h

theorem head?_dropTrailingZeros {ds : List Char} (h : dropTrailingZeros ds ≠ []) :
    (dropTrailingZeros ds).head? = ds.head? := by
  obtain ⟨k, hk⟩ := exists_dropTrailingZeros_append ds
  conv_rhs => rw [hk]
  rw [List.head?_append_of_ne_nil _ h]

theorem mem_of_mem_dropTrailingZeros {ds : List Char} {c : Char}
    (h : c ∈ dropTrailingZeros ds) : c ∈ ds := by
  obtain ⟨k, hk⟩ := exists_dropTrailingZeros_append ds
  rw [hk]
  exact List.mem_append_left _ h

/-- Every digit sequence leads to a normal form. -/
theorem normal_ofDigits {ds : List Char} (point : Int) (h : ∀ c ∈ ds, c.isDigit = true) :
    (ofDigits ds point).Normal := by
  by_cases hne : dropTrailingZeros (ds.dropWhile (· == '0')) = []
  · have hzero : ofDigits ds point = zero := by simp only [ofDigits, hne]
    rw [hzero]
    exact normal_zero
  · rw [ofDigits_eq_of_ne_nil _ hne]
    refine ⟨?_, ?_, ?_, fun hnil => absurd hnil hne⟩
    · intro c hc
      exact h c ((List.dropWhile_sublist _).subset (mem_of_mem_dropTrailingZeros hc))
    · intro hhead
      rw [head?_dropTrailingZeros hne] at hhead
      have hnot := List.head?_dropWhile_not (fun c => c == '0') ds
      simp [hhead] at hnot
    · exact getLast?_dropTrailingZeros _

section OfNat

/-- A decimal without digits before the first significant one does not begin with a zero. -/
theorem head?_toDigits {n : Nat} (h : 0 < n) : (Nat.toDigits 10 n).head? ≠ some '0' := by
  induction n using Nat.strongRecOn with
  | ind n ih =>
      rw [Nat.toDigits_eq_if (by decide)]
      split
      · next hlt =>
          have hdigit : ∀ d < 10, 0 < d → Nat.digitChar d ≠ '0' := by decide
          simpa using hdigit n hlt h
      · next hge =>
          rw [List.head?_append_of_ne_nil _ Nat.toDigits_ne_nil]
          exact ih (n / 10) (by omega) (by omega)

theorem ofNat_zero (e : Int) : ofNat 0 e = zero := rfl

/-- A positive number in units of a power of ten is its digits without the trailing zeros, whose
number is what the exponent gains. -/
theorem exists_ofNat {n : Nat} (h : 0 < n) (e : Int) :
    ∃ k : Nat, n = (ofNat n e).mantissa * 10 ^ k ∧ (ofNat n e).exponent = e + k ∧
      (ofNat n e).point = (Nat.toDigits 10 n).length + e := by
  obtain ⟨k, hk⟩ := exists_dropTrailingZeros_append (Nat.toDigits 10 n)
  have hvalue : Nat.ofDigitChars 10 (Nat.toDigits 10 n) 0 = n := Nat.ofDigitChars_ten_toDigits
  have hne : dropTrailingZeros (Nat.toDigits 10 n) ≠ [] := by
    intro hnil
    rw [hnil, List.nil_append] at hk
    rw [hk, Nat.ofDigitChars_replicate_zero, Nat.mul_zero] at hvalue
    omega
  have hof : ofNat n e =
      ⟨dropTrailingZeros (Nat.toDigits 10 n), (Nat.toDigits 10 n).length + e⟩ :=
    ofDigits_of_head _ (head?_toDigits h) hne
  rw [hof]
  refine ⟨k, ?_, ?_, rfl⟩
  · conv_lhs => rw [← hvalue, hk]
    rw [Nat.ofDigitChars_append, Nat.ofDigitChars_replicate_zero, Nat.mul_comm]
    rfl
  · have hlen : (Nat.toDigits 10 n).length =
        (dropTrailingZeros (Nat.toDigits 10 n)).length + k := by
      conv_lhs => rw [hk]
      simp
    simp only [exponent, hlen]
    omega

theorem normal_ofNat (n : Nat) (e : Int) : (ofNat n e).Normal :=
  normal_ofDigits _ fun _ hc => Nat.isDigit_of_mem_toDigits (by decide) (by decide) hc

end OfNat

end Decimal
end JobWire
