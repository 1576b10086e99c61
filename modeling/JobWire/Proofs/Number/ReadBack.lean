import JobWire.Number.Shortest
import JobWire.Proofs.Number.NormalForm
import Mathlib.Tactic.Positivity
import Mathlib.Tactic.Ring

/-!
# Shortest decimals read back

The decimal that is chosen for a finite magnitude is always read as that magnitude.  What the search
returns was tried before it was returned, so the reserve is what remains: the exact decimal of a
magnitude is in the range of points in which reading is exact, and a quotient that equals a
magnitude is rounded to its rank.

**Results.**
* `units_eq_significand_mul`: a magnitude is its significand, shifted by its binade.
* `rankOfRatio_of_units`: a quotient that is a magnitude has the rank of that magnitude.
* `ofDecimal_exactDecimal`: the exact decimal of a magnitude reads back.
* `ofDecimal_shortest`, `normal_shortest`: so does the shortest one, which is in normal form.
-/

namespace JobWire
namespace Binary64

/-- The number of places by which the significand of a rank is shifted. -/
def shift (rank : Nat) : Nat :=
  rank / binade - 1

/-- The significand of a rank. -/
def significand (rank : Nat) : Nat :=
  rank - shift rank * binade

theorem binade_pos : 0 < binade := by
  decide

section Units

variable {rank : Nat}

theorem shift_mul_binade_le (rank : Nat) : shift rank * binade ≤ rank :=
  calc shift rank * binade ≤ rank / binade * binade :=
        Nat.mul_le_mul_right _ (Nat.sub_le _ _)
    _ ≤ rank := Nat.div_mul_le_self _ _

theorem significand_lt_binade (h : rank < binade) : shift rank = 0 ∧ significand rank = rank := by
  have hq : rank / binade = 0 := Nat.div_eq_of_lt h
  simp [shift, significand, hq]

theorem significand_of_le (h : binade ≤ rank) :
    significand rank = binade + rank % binade := by
  have hq : 1 ≤ rank / binade := (Nat.one_le_div_iff binade_pos).mpr h
  have hsplit : rank / binade * binade + rank % binade = rank := Nat.div_add_mod' _ _
  have hstep : rank / binade * binade = shift rank * binade + binade := by
    rw [← Nat.succ_mul, shift, Nat.succ_eq_add_one, Nat.sub_add_cancel hq]
  unfold significand
  omega

/-- A magnitude is its significand, shifted by its binade. -/
theorem units_eq_significand_mul (rank : Nat) :
    units rank = significand rank * 2 ^ shift rank := by
  unfold units
  split
  · next h =>
      obtain ⟨hshift, hsig⟩ := significand_lt_binade h
      rw [hshift, hsig, Nat.pow_zero, Nat.mul_one]
  · next h =>
      rw [significand_of_le (Nat.le_of_not_lt h)]
      rfl

theorem significand_lt_two_mul (rank : Nat) : significand rank < 2 * binade := by
  by_cases h : rank < binade
  · rw [(significand_lt_binade h).2]
    omega
  · rw [significand_of_le (Nat.le_of_not_lt h)]
    have := Nat.mod_lt rank binade_pos
    omega

theorem log2_units (rank : Nat) : (units rank).log2 - 52 = shift rank := by
  have hbinade : binade = 2 ^ 52 := rfl
  rw [units_eq_significand_mul]
  by_cases h : rank < binade
  · obtain ⟨hshift, hsig⟩ := significand_lt_binade h
    rw [hshift, hsig, Nat.pow_zero, Nat.mul_one]
    by_cases h0 : rank = 0
    · subst h0
      rfl
    · have hlog : rank.log2 < 52 := (Nat.log2_lt h0).mpr (hbinade ▸ h)
      omega
  · have hlow : 2 ^ 52 ≤ significand rank := by
      rw [significand_of_le (Nat.le_of_not_lt h), hbinade]
      omega
    have hhigh : significand rank < 2 ^ 53 := by
      have := significand_lt_two_mul rank
      omega
    have hlog : (significand rank * 2 ^ shift rank).log2 = 52 + shift rank := by
      rw [Nat.log2_eq_iff (by positivity)]
      constructor
      · rw [Nat.pow_add]
        exact Nat.mul_le_mul_right _ hlow
      · rw [show 52 + shift rank + 1 = 53 + shift rank by omega, Nat.pow_add]
        exact Nat.mul_lt_mul_of_pos_right hhigh (by positivity)
    omega

/-- A quotient that is a magnitude has the rank of that magnitude. -/
theorem rankOfRatio_of_units {num den : Nat} (hden : 0 < den)
    (h : num * unitsInOne = units rank * den) : rankOfRatio num den = rank := by
  have hquot : units rank * den / den = units rank := Nat.mul_div_cancel _ hden
  have hround :
      divRound (units rank * den) (den * Nat.pow 2 (shift rank)) = significand rank := by
    rw [units_eq_significand_mul]
    rw [show significand rank * 2 ^ shift rank * den =
      significand rank * (den * Nat.pow 2 (shift rank)) by
        rw [Nat.mul_assoc, Nat.mul_comm (2 ^ shift rank)]; rfl]
    exact divRound_mul (Nat.mul_pos hden (Nat.pow_pos (by decide)))
  unfold rankOfRatio
  simp only [h, hquot, log2_units, hround]
  have := shift_mul_binade_le rank
  unfold significand
  omega

end Units

section Decimals

variable {rank : Nat} {d : Decimal}

/-- A decimal within the exact range whose value is a magnitude is read as that magnitude. -/
theorem ofDecimal_of_value (negative : Bool) (hlow : -400 ≤ d.point) (hhigh : d.point ≤ 400)
    (h : d.mantissa * 10 ^ d.exponent.toNat * unitsInOne =
      units rank * 10 ^ (-d.exponent).toNat) :
    ofDecimal negative d = ofRank negative rank := by
  unfold ofDecimal ofRatio
  rw [if_neg (by omega), if_neg (by omega)]
  split
  · next hexp =>
      have hneg : (-d.exponent).toNat = 0 := by omega
      rw [hneg] at h
      exact congrArg (ofRank negative) (rankOfRatio_of_units Nat.one_pos h)
  · next hexp =>
      have hpos : d.exponent.toNat = 0 := by omega
      rw [hpos, Nat.pow_zero, Nat.mul_one] at h
      exact congrArg (ofRank negative) (rankOfRatio_of_units (Nat.pow_pos (by decide)) h)

/-- A power of five on one side of an equation of powers of ten leaves a power of two on the
other. -/
theorem cancel_five {m u k c : Nat} (h : u * 5 ^ c = m * 10 ^ k) :
    m * 10 ^ (k - c) * 2 ^ c = u * 10 ^ (c - k) := by
  have hfive : 0 < 5 ^ c := by positivity
  apply Nat.eq_of_mul_eq_mul_right hfive
  have hten : 2 ^ c * 5 ^ c = 10 ^ c := by
    rw [← Nat.mul_pow]
  by_cases hk : c ≤ k
  · obtain ⟨j, rfl⟩ := Nat.exists_eq_add_of_le hk
    rw [Nat.add_sub_cancel_left, Nat.sub_eq_zero_of_le hk, Nat.pow_zero, Nat.mul_one, h,
      Nat.mul_assoc, hten, Nat.pow_add]
    ring
  · obtain ⟨j, rfl⟩ := Nat.exists_eq_add_of_le (Nat.le_of_not_le hk)
    rw [Nat.add_sub_cancel_left, Nat.sub_eq_zero_of_le (Nat.le_of_not_le hk), Nat.pow_zero,
      Nat.mul_one, Nat.mul_assoc, hten, Nat.mul_right_comm, h, Nat.pow_add]
    ring

theorem units_pos (h : 0 < rank) : 0 < units rank := by
  rw [units_eq_significand_mul]
  have hsig : 0 < significand rank := by
    by_cases hlt : rank < binade
    · rwa [(significand_lt_binade hlt).2]
    · rw [significand_of_le (Nat.le_of_not_lt hlt)]
      have := binade_pos
      omega
  positivity

theorem mul_five_pow_lt {u c j k : Nat} (hu : u < 2 ^ (c + j)) (hj : j ≤ 3 * k) :
    u * 5 ^ c < 10 ^ (k + c) :=
  calc u * 5 ^ c < 2 ^ (c + j) * 5 ^ c := Nat.mul_lt_mul_of_pos_right hu (by positivity)
    _ = 2 ^ j * (2 * 5) ^ c := by rw [Nat.mul_pow, Nat.pow_add]; ring
    _ ≤ 2 ^ (3 * k) * 10 ^ c :=
        Nat.mul_le_mul_right _ (Nat.pow_le_pow_right (by decide) hj)
    _ = 8 ^ k * 10 ^ c := by rw [Nat.pow_mul]
    _ ≤ 10 ^ k * 10 ^ c := Nat.mul_le_mul_right _ (Nat.pow_le_pow_left (by decide) _)
    _ = 10 ^ (k + c) := by rw [Nat.pow_add]

theorem ten_pow_le_five_pow {a c : Nat} (h : 3 * a ≤ 2 * c) : 10 ^ a ≤ 5 ^ c :=
  calc 10 ^ a = 5 ^ a * 2 ^ a := by rw [← Nat.mul_pow]
    _ ≤ 5 ^ a * 2 ^ (2 * (c - a)) :=
        Nat.mul_le_mul_left _ (Nat.pow_le_pow_right (by decide) (by omega))
    _ = 5 ^ a * 4 ^ (c - a) := by rw [Nat.pow_mul]
    _ ≤ 5 ^ a * 5 ^ (c - a) := Nat.mul_le_mul_left _ (Nat.pow_le_pow_left (by decide) _)
    _ = 5 ^ c := by rw [← Nat.pow_add]; congr 1; omega

/-- The number of binary places behind the point that a magnitude may have. -/
def fractionPlaces : Nat := 1074

theorem unitsInOne_eq : unitsInOne = 2 ^ fractionPlaces := by
  unfold unitsInOne fractionPlaces
  generalize 1074 = places
  rfl

theorem exactDecimal_eq (rank : Nat) :
    exactDecimal rank = Decimal.ofNat (units rank * 5 ^ fractionPlaces) (-fractionPlaces) := by
  unfold exactDecimal fractionPlaces
  have hplaces : (-1074 : Int) = -(1074 : Nat) := rfl
  rw [hplaces]
  -- with the number of places left open, no power of it is ever evaluated
  generalize 1074 = places
  rfl

theorem units_lt (h : rank < rankCount) : units rank < 2 ^ (fractionPlaces + 1024) := by
  have hshift : 53 + shift rank ≤ fractionPlaces + 1024 := by
    have hq : rank / binade < 2047 := by
      rw [Nat.div_lt_iff_lt_mul binade_pos]
      exact h
    unfold shift fractionPlaces
    omega
  have hsig : significand rank < 2 ^ 53 := significand_lt_two_mul rank
  rw [units_eq_significand_mul]
  calc significand rank * 2 ^ shift rank
      < 2 ^ 53 * 2 ^ shift rank := Nat.mul_lt_mul_of_pos_right hsig (by positivity)
    _ = 2 ^ (53 + shift rank) := by rw [Nat.pow_add]
    _ ≤ 2 ^ (fractionPlaces + 1024) := Nat.pow_le_pow_right (by decide) hshift

/-- The exact decimal of a magnitude that is not zero has its point where reading is exact. -/
theorem point_exactDecimal_bounds (hpos : 0 < rank) (h : rank < rankCount) :
    -400 ≤ (exactDecimal rank).point ∧ (exactDecimal rank).point ≤ 400 := by
  have hN : 0 < units rank * 5 ^ fractionPlaces := Nat.mul_pos (units_pos hpos) (by positivity)
  obtain ⟨_, _, _, hpoint⟩ := Decimal.exists_ofNat hN (-fractionPlaces)
  have hhigh : (Nat.toDigits 10 (units rank * 5 ^ fractionPlaces)).length ≤
      400 + fractionPlaces := by
    rw [Nat.length_toDigits_le_iff (by decide) (by unfold fractionPlaces; decide)]
    exact mul_five_pow_lt (units_lt h) (by decide)
  have hlow : fractionPlaces - 401 <
      (Nat.toDigits 10 (units rank * 5 ^ fractionPlaces)).length := by
    rw [← Nat.not_le, Nat.length_toDigits_le_iff (by decide) (by unfold fractionPlaces; decide),
      Nat.not_lt]
    exact le_trans (ten_pow_le_five_pow (by unfold fractionPlaces; decide))
      (Nat.le_mul_of_pos_left _ (units_pos hpos))
  have hplaces : 401 ≤ fractionPlaces := by
    unfold fractionPlaces
    decide
  rw [exactDecimal_eq, hpoint]
  omega

/-- The exact decimal of a magnitude reads back. -/
theorem ofDecimal_exactDecimal (negative : Bool) (h : rank < rankCount) :
    ofDecimal negative (exactDecimal rank) = ofRank negative rank := by
  by_cases h0 : rank = 0
  · subst h0
    have hunits : units 0 = 0 := rfl
    have hzero : exactDecimal 0 = Decimal.zero := by
      rw [exactDecimal_eq, hunits, Nat.zero_mul, Decimal.ofNat_zero]
    have hmantissa : Decimal.zero.mantissa = 0 := rfl
    rw [hzero]
    apply ofDecimal_of_value negative (by decide) (by decide)
    rw [hunits, hmantissa, Nat.zero_mul, Nat.zero_mul, Nat.zero_mul]
  · have hpos : 0 < rank := Nat.pos_of_ne_zero h0
    have hN : 0 < units rank * 5 ^ fractionPlaces := Nat.mul_pos (units_pos hpos) (by positivity)
    obtain ⟨hlow, hhigh⟩ := point_exactDecimal_bounds hpos h
    obtain ⟨k, hvalue, hexponent, -⟩ := Decimal.exists_ofNat hN (-fractionPlaces)
    apply ofDecimal_of_value negative hlow hhigh
    rw [exactDecimal_eq, hexponent, unitsInOne_eq,
      show (-(fractionPlaces : Int) + k).toNat = k - fractionPlaces by omega,
      show (-(-(fractionPlaces : Int) + k)).toNat = fractionPlaces - k by omega]
    exact cancel_five hvalue

end Decimals


section Search

variable {rank : Nat} {d : Decimal}

theorem ofRank_of_lt (negative : Bool) (h : rank < rankCount) :
    ofRank negative rank = finite negative ⟨rank, h⟩ :=
  dif_pos h

theorem rank_eq_of_ofRank {negative : Bool} {other : Nat} (h : rank < rankCount)
    (heq : ofRank negative other = ofRank negative rank) : other = rank := by
  rw [ofRank_of_lt negative h, ofRank] at heq
  split at heq
  · simpa using heq
  · cases heq

/-- The sign plays no part in how a decimal is rounded. -/
theorem ofDecimal_of_false (negative : Bool) (h : rank < rankCount)
    (hread : ofDecimal false d = ofRank false rank) :
    ofDecimal negative d = ofRank negative rank := by
  unfold ofDecimal ofRatio at hread ⊢
  split_ifs at hread ⊢
  · rw [ofRank_of_lt false h] at hread
    cases hread
  all_goals rw [rank_eq_of_ofRank h hread]

/-- What the search returns is one of the neighbours, and was tried. -/
theorem mem_neighbours_of_withDigits? {digits : Nat} (h : withDigits? rank digits = some d) :
    (d = (neighbours rank digits).1 ∨ d = (neighbours rank digits).2.1) ∧
      readsBack rank d = true := by
  unfold withDigits? at h
  generalize neighbours rank digits = candidates at h ⊢
  obtain ⟨below, above, preferAbove⟩ := candidates
  refine ⟨?_, List.find?_some h⟩
  have hmem := List.mem_of_find?_eq_some h
  cases preferAbove with
  | true =>
      have hor : d = above ∨ d = below := by simpa using hmem
      exact hor.symm
  | false =>
      simpa using hmem

theorem normal_neighbours (rank digits : Nat) :
    (neighbours rank digits).1.Normal ∧ (neighbours rank digits).2.1.Normal := by
  unfold neighbours
  exact ⟨Decimal.normal_ofNat _ _, Decimal.normal_ofNat _ _⟩

theorem ofDecimal_of_withDigits? {digits : Nat} (h : withDigits? rank digits = some d) :
    ofDecimal false d = ofRank false rank := by
  have hread := (mem_neighbours_of_withDigits? h).2
  unfold readsBack at hread
  exact of_decide_eq_true hread

theorem normal_of_withDigits? {digits : Nat} (h : withDigits? rank digits = some d) :
    d.Normal := by
  rcases (mem_neighbours_of_withDigits? h).1 with rfl | rfl
  · exact (normal_neighbours rank digits).1
  · exact (normal_neighbours rank digits).2

/-- The shortest decimal was found by the search, or is the exact one. -/
theorem shortest_cases (rank : Nat) :
    (∃ digits, withDigits? rank digits = some (shortest rank)) ∨
      shortest rank = exactDecimal rank := by
  unfold shortest
  cases h : (List.range' 1 17).findSome? (withDigits? rank) with
  | none =>
      rw [Option.getD_none]
      exact Or.inr rfl
  | some d =>
      obtain ⟨digits, _, hd⟩ := List.exists_of_findSome?_eq_some h
      rw [Option.getD_some]
      exact Or.inl ⟨digits, hd⟩

/-- The shortest decimal of a magnitude reads back. -/
theorem ofDecimal_shortest (negative : Bool) (h : rank < rankCount) :
    ofDecimal negative (shortest rank) = ofRank negative rank := by
  rcases shortest_cases rank with ⟨digits, hd⟩ | hexact
  · exact ofDecimal_of_false negative h (ofDecimal_of_withDigits? hd)
  · rw [hexact]
    exact ofDecimal_exactDecimal negative h

theorem normal_shortest (rank : Nat) : (shortest rank).Normal := by
  rcases shortest_cases rank with ⟨digits, hd⟩ | hexact
  · exact normal_of_withDigits? hd
  · rw [hexact]
    exact Decimal.normal_ofNat _ _

end Search

end Binary64
end JobWire
