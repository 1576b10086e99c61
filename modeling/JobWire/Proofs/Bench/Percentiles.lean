import JobWire.Bench.Statistics
import Mathlib.Algebra.Order.Field.Rat
import Mathlib.Data.List.Sort
import Mathlib.Tactic.Linarith

/-!
# Percentiles are order statistics

A percentile of some latencies divides them: as many as it says are at most as large, and the rest
are at least as large.  In the ascending list this is a matter of positions, and so both percentiles
are settled by where they stand there: the 99th percentile at a position of its own, and the median
between the two positions in the middle, which are one if the number of latencies is odd.

The latencies are exact numbers here, elements of an ordered field.

**Results.**
* `ascending_eq_of_perm`: the ascending list does not depend on the order of the latencies.
* `isPercentile_of_between`: a number between two latencies of the ascending list is a percentile
  according to their positions.
* `percentiles_divide`: what the two percentiles of a list that is not empty say of its latencies.
-/

namespace JobWire
namespace Bench

/-- At least `p` percent of the latencies are at most `a`, and at least the other `100 - p` percent
of them are at least `a`. -/
def IsPercentile {α : Type} [LE α] [DecidableLE α] (p : Nat) (l : List α) (a : α) : Prop :=
  p * l.length ≤ 100 * l.countP (fun b => decide (b ≤ a)) ∧
    (100 - p) * l.length ≤ 100 * l.countP (fun b => decide (a ≤ b))

section Positions

variable {α : Type} [LinearOrder α] {l : List α} {a : α} {i j p : Nat}

theorem perm_ascending (l : List α) : (ascending l).Perm l :=
  List.mergeSort_perm l _

theorem length_ascending (l : List α) : (ascending l).length = l.length :=
  (perm_ascending l).length_eq

theorem sortedLE_ascending (l : List α) : (ascending l).SortedLE :=
  List.sortedLE_mergeSort

/-- The ascending list does not depend on the order of the latencies. -/
theorem ascending_eq_of_perm {l' : List α} (h : l'.Perm l) : ascending l' = ascending l := by
  have hperm : (ascending l').Perm (ascending l) :=
    ((perm_ascending l').trans h).trans (perm_ascending l).symm
  exact hperm.eq_of_sortedLE (sortedLE_ascending l') (sortedLE_ascending l)

/-- If all elements of a part of the ascending list have a property, at least as many latencies have
it. -/
theorem length_le_countP_of_sublist {part : List α} {q : α → Bool}
    (hpart : part.Sublist (ascending l)) (hall : ∀ b ∈ part, q b = true) :
    part.length ≤ l.countP q := by
  calc
    part.length = part.countP q := (List.countP_eq_length.mpr hall).symm
    _ ≤ (ascending l).countP q := hpart.countP_le
    _ = l.countP q := (perm_ascending l).countP_eq q

/-- The latencies up to a position of the ascending list are at most as large as the one there. -/
theorem succ_le_countP_le (hi : i < (ascending l).length) (h : (ascending l)[i] ≤ a) :
    i + 1 ≤ l.countP fun b => decide (b ≤ a) := by
  have hall : ∀ b ∈ (ascending l).take (i + 1), decide (b ≤ a) = true := by
    intro b hb
    obtain ⟨k, hk, rfl⟩ := List.mem_take_iff_getElem.mp hb
    have hki : k ≤ i := by omega
    have hle : (ascending l)[k] ≤ (ascending l)[i] :=
      (sortedLE_ascending l).getElem_le_getElem_of_le hki
    exact decide_eq_true (hle.trans h)
  have hcount := length_le_countP_of_sublist (List.take_sublist _ _) hall
  rw [List.length_take] at hcount
  omega

/-- The latencies from a position of the ascending list on are at least as large as the one
there. -/
theorem sub_le_countP_ge (hj : j < (ascending l).length) (h : a ≤ (ascending l)[j]) :
    l.length - j ≤ l.countP fun b => decide (a ≤ b) := by
  have hall : ∀ b ∈ (ascending l).drop j, decide (a ≤ b) = true := by
    intro b hb
    obtain ⟨k, hk, rfl⟩ := List.mem_drop_iff_getElem.mp hb
    have hle : (ascending l)[j] ≤ (ascending l)[j + k] :=
      (sortedLE_ascending l).getElem_le_getElem_of_le (Nat.le_add_right j k)
    exact decide_eq_true (h.trans hle)
  have hcount := length_le_countP_of_sublist (List.drop_sublist _ _) hall
  rw [List.length_drop, length_ascending] at hcount
  exact hcount

/-- A number between two latencies of the ascending list is a percentile according to their
positions. -/
theorem isPercentile_of_between (hi : i < (ascending l).length) (hj : j < (ascending l).length)
    (hlow : (ascending l)[i] ≤ a) (hhigh : a ≤ (ascending l)[j])
    (hbelow : p * l.length ≤ 100 * (i + 1)) (habove : 100 * j ≤ p * l.length) :
    IsPercentile p l a := by
  have hatMost : i + 1 ≤ l.countP fun b => decide (b ≤ a) := succ_le_countP_le hi hlow
  have hatLeast : l.length - j ≤ l.countP fun b => decide (a ≤ b) := sub_le_countP_ge hj hhigh
  constructor
  · omega
  · rw [Nat.sub_mul]
    omega

end Positions

section Percentiles

variable {α : Type} [Field α] [LinearOrder α] {l : List α}

/-- The position of the 99th percentile lies within the ascending list, and the percentile is the
latency there. -/
theorem percentile99_eq_getElem (h : l ≠ []) :
    ∃ hrank : rank99 l.length < (ascending l).length,
      percentile99 l = (ascending l)[rank99 l.length] := by
  have hrank : rank99 l.length < (ascending l).length := by
    rw [length_ascending]
    exact rank99_lt (List.length_pos_of_ne_nil h)
  exact ⟨hrank, (List.getElem_eq_getD 0).symm⟩

theorem isPercentile_percentile99 (hne : l ≠ []) : IsPercentile 99 l (percentile99 l) := by
  obtain ⟨hrank, heq⟩ := percentile99_eq_getElem hne
  refine isPercentile_of_between hrank hrank heq.ge heq.le ?_ ?_
  · unfold rank99
    omega
  · unfold rank99
    omega

theorem median_of_odd (h : l.length % 2 = 1) :
    ∃ hmiddle : l.length / 2 < (ascending l).length,
      median l = (ascending l)[l.length / 2] := by
  have hmiddle : l.length / 2 < (ascending l).length := by
    rw [length_ascending]
    omega
  refine ⟨hmiddle, ?_⟩
  simp only [median, length_ascending, h, if_true]
  exact (List.getElem_eq_getD 0).symm

theorem median_of_even (hne : l ≠ []) (h : l.length % 2 = 0) :
    ∃ (hbefore : l.length / 2 - 1 < (ascending l).length)
      (hafter : l.length / 2 < (ascending l).length),
      median l = ((ascending l)[l.length / 2 - 1] + (ascending l)[l.length / 2]) / 2 := by
  have hpos : 0 < l.length := List.length_pos_of_ne_nil hne
  have hbefore : l.length / 2 - 1 < (ascending l).length := by
    rw [length_ascending]
    omega
  have hafter : l.length / 2 < (ascending l).length := by
    rw [length_ascending]
    omega
  refine ⟨hbefore, hafter, ?_⟩
  have hodd : ¬ l.length % 2 = 1 := by omega
  simp only [median, length_ascending, if_neg hodd, if_neg hpos.ne']
  rw [List.getElem_eq_getD 0, List.getElem_eq_getD 0]

variable [IsStrictOrderedRing α]

/-- The median lies between the two positions in the middle. -/
theorem median_between (hne : l ≠ []) :
    ∃ (hlow : (l.length - 1) / 2 < (ascending l).length)
      (hhigh : l.length / 2 < (ascending l).length),
      (ascending l)[(l.length - 1) / 2] ≤ median l ∧ median l ≤ (ascending l)[l.length / 2] := by
  have hpos : 0 < l.length := List.length_pos_of_ne_nil hne
  rcases Nat.mod_two_eq_zero_or_one l.length with heven | hodd
  · obtain ⟨hbefore, hafter, hmedian⟩ := median_of_even hne heven
    have hposition : (l.length - 1) / 2 = l.length / 2 - 1 := by omega
    have hle : (ascending l)[l.length / 2 - 1] ≤ (ascending l)[l.length / 2] :=
      (sortedLE_ascending l).getElem_le_getElem_of_le (Nat.sub_le _ _)
    simp only [hposition, hmedian]
    refine ⟨hbefore, hafter, ?_, ?_⟩
    · linarith
    · linarith
  · obtain ⟨hmiddle, hmedian⟩ := median_of_odd hodd
    have hposition : (l.length - 1) / 2 = l.length / 2 := by omega
    simp only [hposition, hmedian]
    exact ⟨hmiddle, hmiddle, le_rfl, le_rfl⟩

theorem isPercentile_median (hne : l ≠ []) : IsPercentile 50 l (median l) := by
  obtain ⟨hlow, hhigh, hle, hge⟩ := median_between hne
  refine isPercentile_of_between hlow hhigh hle hge ?_ ?_
  · omega
  · omega

theorem median_le_percentile99 (hne : l ≠ []) : median l ≤ percentile99 l := by
  have hpos : 0 < l.length := List.length_pos_of_ne_nil hne
  obtain ⟨-, hhigh, -, hmedian⟩ := median_between hne
  obtain ⟨hrank, hpercentile⟩ := percentile99_eq_getElem hne
  have hposition : l.length / 2 ≤ rank99 l.length := by
    unfold rank99
    omega
  calc
    median l ≤ (ascending l)[l.length / 2] := hmedian
    _ ≤ (ascending l)[rank99 l.length] :=
      (sortedLE_ascending l).getElem_le_getElem_of_le hposition
    _ = percentile99 l := hpercentile.symm

/-- The 99th percentile of latencies is one of them, at a position within the ascending list; it and
the median divide the latencies as percentiles do, the median is not above it, and neither depends
on the order of the latencies. -/
theorem percentiles_divide (hne : l ≠ []) :
    (∃ hrank : rank99 l.length < (ascending l).length,
      percentile99 l = (ascending l)[rank99 l.length]) ∧
      percentile99 l ∈ l ∧
      IsPercentile 99 l (percentile99 l) ∧
      IsPercentile 50 l (median l) ∧
      median l ≤ percentile99 l ∧
      ∀ l' : List α, l'.Perm l → median l' = median l ∧ percentile99 l' = percentile99 l := by
  obtain ⟨hrank, hpercentile⟩ := percentile99_eq_getElem hne
  refine ⟨⟨hrank, hpercentile⟩, ?_, isPercentile_percentile99 hne, isPercentile_median hne,
    median_le_percentile99 hne, ?_⟩
  · rw [hpercentile]
    exact (perm_ascending l).mem_iff.mp (List.getElem_mem hrank)
  · intro l' hperm
    have hsorted : ascending l' = ascending l := ascending_eq_of_perm hperm
    constructor
    · simp only [median, hsorted]
    · rw [percentile99, percentile99, hsorted, hperm.length_eq]

/-- Four latencies of which two are equal: the median is none of them. -/
theorem percentiles_divide_four :
    [(3 : ℚ), 1, 7, 1] ≠ [] ∧
      percentile99 [(3 : ℚ), 1, 7, 1] = 7 ∧
      median [(3 : ℚ), 1, 7, 1] = 2 ∧
      IsPercentile 99 [(3 : ℚ), 1, 7, 1] (percentile99 [(3 : ℚ), 1, 7, 1]) ∧
      median [(3 : ℚ), 1, 7, 1] ≤ percentile99 [(3 : ℚ), 1, 7, 1] ∧
      percentile99 [(1 : ℚ), 1, 3, 7] = percentile99 [(3 : ℚ), 1, 7, 1] := by
  have hne : [(3 : ℚ), 1, 7, 1] ≠ [] := List.cons_ne_nil _ _
  have hperm : [(1 : ℚ), 1, 3, 7].Perm [3, 1, 7, 1] := by decide
  have hsorted : ascending [(3 : ℚ), 1, 7, 1] = [1, 1, 3, 7] :=
    ((perm_ascending _).trans hperm.symm).eq_of_sortedLE (sortedLE_ascending _) (by decide)
  have hpercentile : percentile99 [(3 : ℚ), 1, 7, 1] = 7 := by
    rw [percentile99, hsorted]
    rfl
  have hmedian : median [(3 : ℚ), 1, 7, 1] = 2 := by
    rw [median, hsorted]
    norm_num
  obtain ⟨-, -, hdivides, -, hle, hsame⟩ := percentiles_divide hne
  exact ⟨hne, hpercentile, hmedian, hdivides, hle, (hsame _ hperm).2⟩

end Percentiles

end Bench
end JobWire
