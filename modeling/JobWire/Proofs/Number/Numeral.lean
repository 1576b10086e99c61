import JobWire.Json.Printer
import JobWire.Json.Token
import JobWire.Proofs.Number.ReadBack

/-!
# Numerals read back

What is written for a number is read as that number.  An integer is its digits, and is read if it is
short enough.  A floating-point datum is set from the digits of a normal form, positionally or with
an exponent; either way the digits around the point, joined again, lead back to that normal form.

**Results.**
* `Numeral.unsigned_toDigits`: the digits of a natural number are read as long as they are few
  enough, and not otherwise.
* `Numeral.unsigned_magnitude`: both settings of a decimal are read as the decimal.
* `bareToken_intChars`, `bareToken_numberLayout`: the numbers in JSON text.
* `allBare_intChars`, `allBare_numberLayout`: a number is one maximal run of characters.
-/

namespace JobWire
namespace Json

/-- Every character is a digit. -/
def AllDigits (cs : List Char) : Prop := ∀ c ∈ cs, c.isDigit = true

theorem allDigits_append {cs ds : List Char} :
    AllDigits (cs ++ ds) ↔ AllDigits cs ∧ AllDigits ds := by
  unfold AllDigits
  exact List.forall_mem_append

theorem allDigits_replicate (k : Nat) : AllDigits (List.replicate k '0') := by
  intro c hc
  rw [List.eq_of_mem_replicate hc]
  rfl

theorem allDigits_toDigits (n : Nat) : AllDigits (Nat.toDigits 10 n) :=
  fun _ hc => Nat.isDigit_of_mem_toDigits (by decide) (by decide) hc

theorem allDigits_padded (width n : Nat) : AllDigits (Layout.padded width n) :=
  allDigits_append.mpr ⟨allDigits_replicate _, allDigits_toDigits n⟩

namespace Numeral

section Runs

variable {ds rest : List Char}

/-- A run of digits ends where a character that is no digit follows. -/
theorem digits_append (rest : List Char) (hds : AllDigits ds)
    (hrest : ∀ c ∈ rest.head?, c.isDigit = false) :
    digits (ds ++ rest) = (ds, rest) := by
  have htake : rest.takeWhile Char.isDigit = [] := by
    cases rest with
    | nil =>
        rfl
    | cons c cs =>
        simp [hrest c (by simp)]
  have hdrop : rest.dropWhile Char.isDigit = rest := by
    cases rest with
    | nil =>
        rfl
    | cons c cs =>
        simp [hrest c (by simp)]
  rw [digits, List.span_eq_takeWhile_dropWhile, List.takeWhile_append_of_pos hds,
    List.dropWhile_append_of_pos hds, htake, hdrop, List.append_nil]

theorem digits_all (hds : AllDigits ds) : digits ds = (ds, []) := by
  have h := digits_append [] hds (by simp)
  rwa [List.append_nil] at h

theorem fraction_point (rest : List Char) (hds : AllDigits ds) (hne : ds ≠ [])
    (hrest : ∀ c ∈ rest.head?, c.isDigit = false) :
    fraction ('.' :: (ds ++ rest)) = some (ds, rest) := by
  rw [fraction, digits_append rest hds hrest]
  cases ds with
  | nil =>
      contradiction
  | cons d ds =>
      rfl

theorem exponentDigits_padded (negative : Bool) (width n : Nat) :
    exponentDigits negative (Layout.padded width n) =
      some (if negative then -(n : Int) else n) := by
  have hvalue : Nat.ofDigitChars 10 (Layout.padded width n) 0 = n := by
    rw [Layout.padded, Nat.ofDigitChars_append, Nat.ofDigitChars_replicate_zero, Nat.mul_zero,
      Nat.ofDigitChars_ten_toDigits]
  have hne : Layout.padded width n ≠ [] := by
    simp [Layout.padded]
  rw [exponentDigits, digits_all (allDigits_padded width n)]
  cases hds : Layout.padded width n with
  | nil =>
      contradiction
  | cons c cs =>
      rw [← hvalue, hds]

/-- How an unsigned text is read once its whole part is known. -/
theorem unsigned_append (negative : Bool) (rest : List Char) (hds : AllDigits ds) (hne : ds ≠ [])
    (hzero : ds = ['0'] ∨ ds.head? ≠ some '0') (hrest : ∀ c ∈ rest.head?, c.isDigit = false) :
    unsigned negative (ds ++ rest) =
      if maxDigits < ds.length then none
      else if rest.isEmpty then
        some (.int (if negative then -(Nat.ofDigitChars 10 ds 0 : Int)
          else (Nat.ofDigitChars 10 ds 0 : Int)))
      else (fraction rest).bind fun p =>
        (if p.2.isEmpty then some 0 else exponent p.2).bind fun power =>
          some (.float (.ofDecimal negative (.ofDigits (ds ++ p.1) (ds.length + power)))) := by
  have hread := digits_append rest hds hrest
  unfold unsigned
  split
  · next h =>
      rw [hread] at h
      exact absurd (congrArg Prod.fst h) hne
  · next c cs tail h =>
      rw [hread] at h
      obtain rfl : ds = '0' :: c :: cs := congrArg Prod.fst h
      simp at hzero
  · next whole tail _ _ h =>
      rw [hread] at h
      obtain ⟨rfl, rfl⟩ := Prod.mk.inj h
      cases fraction rest with
      | none =>
          rfl
      | some p =>
          obtain ⟨frac, tail⟩ := p
          cases tail <;> rfl

end Runs

section Integers

theorem toDigits_zero_or_head (n : Nat) :
    Nat.toDigits 10 n = ['0'] ∨ (Nat.toDigits 10 n).head? ≠ some '0' := by
  cases n with
  | zero =>
      exact Or.inl rfl
  | succ n =>
      exact Or.inr (Decimal.head?_toDigits (Nat.succ_pos n))

/-- The digits of a natural number are read if they are few enough. -/
theorem unsigned_toDigits (negative : Bool) (n : Nat) :
    unsigned negative (Nat.toDigits 10 n) =
      if (Nat.toDigits 10 n).length ≤ maxDigits then
        some (.int (if negative then -(n : Int) else n))
      else none := by
  have h := unsigned_append negative [] (allDigits_toDigits n) Nat.toDigits_ne_nil
    (toDigits_zero_or_head n) (by simp)
  rw [List.append_nil, Nat.ofDigitChars_ten_toDigits] at h
  by_cases hlen : (Nat.toDigits 10 n).length ≤ maxDigits
  · rw [h, if_pos hlen, if_neg (Nat.not_lt.mpr hlen)]
    rfl
  · rw [h, if_neg hlen, if_pos (Nat.lt_of_not_le hlen)]

theorem read_minus (cs : List Char) : read ('-' :: cs) = unsigned true cs := rfl

/-- A text without a sign is read from its first digit on. -/
theorem read_of_unsigned {cs : List Char} {v : Json} (h : unsigned false cs = some v) :
    read cs = some v := by
  unfold read
  split
  · cases h
  · exact h

theorem read_toDigits (n : Nat) :
    read (Nat.toDigits 10 n) = unsigned false (Nat.toDigits 10 n) := by
  cases hds : Nat.toDigits 10 n with
  | nil =>
      rfl
  | cons c cs =>
      have hc : c.isDigit = true := allDigits_toDigits n c (by simp [hds])
      have hminus : c ≠ '-' := by
        rintro rfl
        exact absurd hc (by decide)
      simp [read, hminus]

theorem read_intChars (i : Int) :
    read (intChars i) =
      if (Nat.toDigits 10 i.natAbs).length ≤ maxDigits then some (.int i) else none := by
  unfold intChars
  by_cases hi : i < 0
  · rw [if_pos hi, List.singleton_append, read_minus, unsigned_toDigits, if_pos rfl,
      show -(i.natAbs : Int) = i by omega]
  · rw [if_neg hi, List.nil_append, read_toDigits, unsigned_toDigits, if_neg Bool.false_ne_true,
      show (i.natAbs : Int) = i by omega]

end Integers

section Magnitudes

variable {d : Decimal}

/-- A text that goes on with a fraction is read from the digits on both sides of the point. -/
theorem unsigned_float {ds rest frac tail : List Char} {power : Int} (negative : Bool)
    (hds : AllDigits ds) (hne : ds ≠ []) (hzero : ds = ['0'] ∨ ds.head? ≠ some '0')
    (hlen : ds.length ≤ maxDigits) (hrest : ∀ c ∈ rest.head?, c.isDigit = false)
    (hrestne : rest ≠ []) (hfrac : fraction rest = some (frac, tail))
    (hpower : (if tail.isEmpty then some 0 else exponent tail) = some power) :
    unsigned negative (ds ++ rest) =
      some (.float (.ofDecimal negative (.ofDigits (ds ++ frac) (ds.length + power)))) := by
  rw [unsigned_append negative rest hds hne hzero hrest, if_neg (Nat.not_lt.mpr hlen),
    if_neg (by simpa using hrestne), hfrac, Option.bind_some, hpower, Option.bind_some]

/-- Without an exponent, the point stands behind the digits before the fraction. -/
theorem unsigned_point {ds rest frac : List Char} (negative : Bool)
    (hds : AllDigits ds) (hne : ds ≠ []) (hzero : ds = ['0'] ∨ ds.head? ≠ some '0')
    (hlen : ds.length ≤ maxDigits) (hrest : ∀ c ∈ rest.head?, c.isDigit = false)
    (hrestne : rest ≠ []) (hfrac : fraction rest = some (frac, [])) :
    unsigned negative (ds ++ rest) =
      some (.float (.ofDecimal negative (.ofDigits (ds ++ frac) ds.length))) := by
  have hpower : (if ([] : List Char).isEmpty then some 0 else exponent []) = some 0 := rfl
  have h := unsigned_float negative hds hne hzero hlen hrest hrestne hfrac hpower
  rwa [Int.add_zero] at h

theorem unsigned_zero (negative : Bool) :
    unsigned negative ['0', '.', '0'] = some (.float (.ofDecimal negative .zero)) := by
  have hds : AllDigits ['0'] := allDigits_replicate 1
  have hvalue : Decimal.ofDigits (['0'] ++ ['0']) (['0'] : List Char).length = .zero := rfl
  have h : unsigned negative (['0'] ++ ['.', '0']) =
      some (.float (.ofDecimal negative (.ofDigits (['0'] ++ ['0']) (['0'] : List Char).length))) :=
    unsigned_point negative hds (by simp) (Or.inl rfl) (by decide) (by simp) (by simp) rfl
  rw [hvalue] at h
  exact h

/-- Below one, zeros stand between the point and the digits. -/
theorem unsigned_positional_below (negative : Bool) (hd : d.Normal) (hne : d.digits ≠ [])
    (hpoint : d.point ≤ 0) :
    unsigned negative (Layout.positional d) = some (.float (.ofDecimal negative d)) := by
  have hfracDigits : AllDigits (List.replicate (-d.point).toNat '0' ++ d.digits) :=
    allDigits_append.mpr ⟨allDigits_replicate _, hd.digits⟩
  have hfrac := fraction_point [] hfracDigits (by simp [hne]) (by simp)
  rw [List.append_nil] at hfrac
  have hds : AllDigits ['0'] := allDigits_replicate 1
  have h := unsigned_point negative hds (by simp) (Or.inl rfl) (by decide) (by simp) (by simp) hfrac
  have hvalue : Decimal.ofDigits (['0'] ++ (List.replicate (-d.point).toNat '0' ++ d.digits))
      (['0'] : List Char).length = d := by
    rw [List.singleton_append, Decimal.ofDigits_zero_cons, Decimal.ofDigits_replicate_append,
      show ((['0'] : List Char).length : Int) - 1 - ((-d.point).toNat : Int) = d.point by
        simp only [List.length_singleton]; omega,
      hd.ofDigits_digits]
  rw [hvalue] at h
  rw [Layout.positional, if_pos hpoint]
  exact h

/-- The digits before the point, with zeros added, and those behind it lead back to the decimal. -/
theorem ofDigits_around_point (hd : d.Normal) (hpoint : 0 < d.point) :
    Decimal.ofDigits
      (d.digits.take d.point.toNat ++ List.replicate (d.point.toNat - d.digits.length) '0' ++
        if (d.digits.drop d.point.toNat).isEmpty then ['0'] else d.digits.drop d.point.toNat)
      d.point.toNat = d := by
  have hvalue : Decimal.ofDigits d.digits d.point.toNat = d := by
    rw [show (d.point.toNat : Int) = d.point by omega, hd.ofDigits_digits]
  by_cases hlen : d.digits.length ≤ d.point.toNat
  · rw [List.take_of_length_le hlen, List.drop_of_length_le hlen, if_pos List.isEmpty_nil,
      List.append_assoc, ← List.replicate_succ', Decimal.ofDigits_append_replicate, hvalue]
  · have hdrop : d.digits.drop d.point.toNat ≠ [] := by
      rw [Ne, List.drop_eq_nil_iff]
      exact hlen
    rw [if_neg (by simpa using hdrop), Nat.sub_eq_zero_of_le (by omega), List.replicate_zero,
      List.append_nil, List.take_append_drop, hvalue]

/-- From one on, the point stands among the digits or behind zeros that are added to them. -/
theorem unsigned_positional_from (negative : Bool) (hd : d.Normal) (hne : d.digits ≠ [])
    (hpoint : 0 < d.point) (hlen : d.point ≤ maxDigits) :
    unsigned negative (Layout.positional d) = some (.float (.ofDecimal negative d)) := by
  have htake : d.digits.take d.point.toNat ≠ [] := by
    rw [Ne, List.take_eq_nil_iff]
    simp only [hne, or_false]
    omega
  have hwholeDigits : AllDigits
      (d.digits.take d.point.toNat ++ List.replicate (d.point.toNat - d.digits.length) '0') :=
    allDigits_append.mpr ⟨fun c hc => hd.digits c (List.mem_of_mem_take hc), allDigits_replicate _⟩
  have hwholeHead :
      (d.digits.take d.point.toNat ++
        List.replicate (d.point.toNat - d.digits.length) '0').head? ≠ some '0' := by
    rw [List.head?_append_of_ne_nil _ htake, List.head?_take, if_neg (by omega)]
    exact hd.head
  have hwholeLength :
      (d.digits.take d.point.toNat ++
        List.replicate (d.point.toNat - d.digits.length) '0').length = d.point.toNat := by
    simp only [List.length_append, List.length_take, List.length_replicate]
    omega
  have hfracDigits : AllDigits (if (d.digits.drop d.point.toNat).isEmpty then ['0']
      else d.digits.drop d.point.toNat) := by
    split
    · exact allDigits_replicate 1
    · exact fun c hc => hd.digits c (List.mem_of_mem_drop hc)
  have hfracNe : (if (d.digits.drop d.point.toNat).isEmpty then ['0']
      else d.digits.drop d.point.toNat) ≠ [] := by
    split
    · simp
    · next h => simpa using h
  have hfrac := fraction_point [] hfracDigits hfracNe (by simp)
  rw [List.append_nil] at hfrac
  have h := unsigned_point negative hwholeDigits (by simp [htake]) (Or.inr hwholeHead)
    (by omega) (by simp) (by simp) hfrac
  rw [hwholeLength, ofDigits_around_point hd hpoint] at h
  rw [Layout.positional, if_neg (by omega)]
  exact h

/-- The exponent of a number in scientific setting. -/
theorem exponent_power (width : Nat) (power : Int) :
    exponent ('e' :: (if power < 0 then '-' else '+') :: Layout.padded width power.natAbs) =
      some power := by
  by_cases hneg : power < 0
  · rw [if_pos hneg]
    change exponentDigits true (Layout.padded width power.natAbs) = some power
    rw [exponentDigits_padded, if_pos rfl, show -(power.natAbs : Int) = power by omega]
  · rw [if_neg hneg]
    change exponentDigits false (Layout.padded width power.natAbs) = some power
    rw [exponentDigits_padded, if_neg Bool.false_ne_true,
      show (power.natAbs : Int) = power by omega]

theorem unsigned_scientific (l : Layout) (negative : Bool) (hd : d.Normal) (hne : d.digits ≠ []) :
    unsigned negative (l.scientific d) = some (.float (.ofDecimal negative d)) := by
  obtain ⟨ds, point⟩ := d
  obtain ⟨c, cs, rfl⟩ : ∃ c cs, ds = c :: cs := List.exists_cons_of_ne_nil hne
  have hfirst : AllDigits [c] := by
    intro x hx
    exact hd.digits x (by simp_all)
  have hvalue : Decimal.ofDigits ([c] ++ cs) (([c] : List Char).length + (point - 1)) =
      ⟨c :: cs, point⟩ := by
    rw [show ((([c] : List Char).length : Int) + (point - 1)) = point by
      simp only [List.length_singleton]; omega]
    exact hd.ofDigits_digits
  have hpower := exponent_power l.exponentWidth (point - 1)
  have hhead : some c ≠ some '0' := hd.head
  have hread : ∀ rest : List Char, rest ≠ [] → (∀ x ∈ rest.head?, x.isDigit = false) →
      fraction rest = some (cs, 'e' :: (if point - 1 < 0 then '-' else '+') ::
        Layout.padded l.exponentWidth (point - 1).natAbs) →
      unsigned negative ([c] ++ rest) =
        some (.float (.ofDecimal negative (⟨c :: cs, point⟩ : Decimal))) := by
    intro rest hrestne hrest hfrac
    have h := unsigned_float negative hfirst (by simp) (Or.inr hhead) (by simp [maxDigits]) hrest
      hrestne hfrac hpower
    rw [hvalue] at h
    exact h
  cases cs with
  | nil =>
      exact hread _ (by simp) (by simp) rfl
  | cons c' cs =>
      have hcs : AllDigits (c' :: cs) := fun x hx => hd.digits x (List.mem_cons_of_mem _ hx)
      exact hread _ (by simp) (by simp) (fraction_point _ hcs (by simp) (by simp))

/-- Both settings of a decimal are read as the decimal. -/
theorem unsigned_magnitude {l : Layout} (hl : l.highest < maxDigits) (negative : Bool)
    (hd : d.Normal) :
    unsigned negative (l.magnitude d) = some (.float (.ofDecimal negative d)) := by
  unfold Layout.magnitude
  split
  · next hnil =>
      have hzero : d = .zero := by
        obtain ⟨ds, point⟩ := d
        obtain rfl : ds = [] := by simpa using hnil
        obtain rfl : point = 0 := hd.point rfl
        rfl
      rw [hzero]
      exact unsigned_zero negative
  · next hnil =>
      have hne : d.digits ≠ [] := by simpa using hnil
      split
      · next hbounds =>
          by_cases hpoint : d.point ≤ 0
          · exact unsigned_positional_below negative hd hne hpoint
          · exact unsigned_positional_from negative hd hne (by omega) (by omega)
      · exact unsigned_scientific l negative hd hne

end Magnitudes

end Numeral

section Tokens

/-- A number is no literal. -/
theorem bareToken_of_read {cs : List Char} {v : Json} (h : Numeral.read cs = some v) :
    bareToken cs = some (.scalar v) := by
  unfold bareToken
  split_ifs with h1 h2 h3 h4 h5 h6
  · subst h1
    cases h
  · subst h2
    cases h
  · subst h3
    cases h
  · subst h4
    cases h
  · subst h5
    cases h
  · subst h6
    cases h
  · rw [h, Option.map_some]

theorem mem_intChars {i : Int} {c : Char} (h : c ∈ intChars i) : c = '-' ∨ c.isDigit = true := by
  unfold intChars at h
  rcases List.mem_append.mp h with hsign | hdigit
  · left
    split at hsign
    · simpa using hsign
    · simp at hsign
  · exact Or.inr (allDigits_toDigits i.natAbs c hdigit)

/-- The text of an integer is a token if the integer is short enough. -/
theorem bareToken_intChars (i : Int) :
    bareToken (intChars i) =
      if (Nat.toDigits 10 i.natAbs).length ≤ maxDigits then some (.scalar (.int i)) else none := by
  have hread := Numeral.read_intChars i
  by_cases hlen : (Nat.toDigits 10 i.natAbs).length ≤ maxDigits
  · rw [if_pos hlen] at hread ⊢
    exact bareToken_of_read hread
  · rw [if_neg hlen] at hread ⊢
    have hword : ∀ c : Char, c ≠ '-' → c.isDigit = false → ∀ cs : List Char, c ∈ cs →
        intChars i ≠ cs := by
      rintro c hminus hdigit cs hc rfl
      rcases mem_intChars hc with h | h
      · exact hminus h
      · rw [hdigit] at h
        cases h
    unfold bareToken
    rw [if_neg (hword 'n' (by decide) (by decide) _ (by decide)),
      if_neg (hword 'r' (by decide) (by decide) _ (by decide)),
      if_neg (hword 'f' (by decide) (by decide) _ (by decide)),
      if_neg (hword 'N' (by decide) (by decide) _ (by decide)),
      if_neg (hword 'I' (by decide) (by decide) _ (by decide)),
      if_neg (hword 'I' (by decide) (by decide) _ (by decide)), hread, Option.map_none]

theorem read_numberLayout_finite (negative : Bool) (rank : Fin Binary64.rankCount) :
    Numeral.read (numberLayout.chars (.finite negative rank)) =
      some (.float (.finite negative rank)) := by
  have hvalue : Binary64.ofDecimal negative (Binary64.shortest rank) =
      .finite negative rank := by
    rw [Binary64.ofDecimal_shortest negative rank.isLt, Binary64.ofRank_of_lt negative rank.isLt]
  have hread := Numeral.unsigned_magnitude (l := numberLayout) (by decide) negative
    (Binary64.normal_shortest rank)
  rw [hvalue] at hread
  rw [Layout.chars]
  cases negative with
  | true =>
      rw [if_pos rfl, List.singleton_append, Numeral.read_minus, hread]
  | false =>
      rw [if_neg Bool.false_ne_true, List.nil_append]
      exact Numeral.read_of_unsigned hread

/-- The text of a floating-point datum is a token of it. -/
theorem bareToken_numberLayout (x : Binary64) :
    bareToken (numberLayout.chars x) = some (.scalar (.float x)) := by
  cases x with
  | nan =>
      rfl
  | infinite negative =>
      cases negative <;> rfl
  | finite negative rank =>
      exact bareToken_of_read (read_numberLayout_finite negative rank)

end Tokens

section Runs

/-- Every character can belong to a literal or a number. -/
def AllBare (cs : List Char) : Prop := ∀ c ∈ cs, Scanner.isBare c = true

instance (cs : List Char) : Decidable (AllBare cs) :=
  decidable_of_iff (cs.all Scanner.isBare = true) List.all_eq_true

theorem allBare_append {cs ds : List Char} : AllBare (cs ++ ds) ↔ AllBare cs ∧ AllBare ds := by
  unfold AllBare
  exact List.forall_mem_append

theorem allBare_cons {c : Char} {cs : List Char} :
    AllBare (c :: cs) ↔ Scanner.isBare c = true ∧ AllBare cs := by
  unfold AllBare
  exact List.forall_mem_cons

theorem AllDigits.allBare {cs : List Char} (h : AllDigits cs) : AllBare cs := by
  intro c hc
  simp [Scanner.isBare, Char.isAlphanum, h c hc]

theorem allBare_intChars (i : Int) : AllBare (intChars i) := by
  refine allBare_append.mpr ⟨?_, (allDigits_toDigits i.natAbs).allBare⟩
  split
  · decide
  · decide

theorem intChars_ne_nil (i : Int) : intChars i ≠ [] := by
  simp [intChars]

theorem allBare_positional {d : Decimal} (hd : d.Normal) : AllBare (Layout.positional d) := by
  have hdigits : AllBare d.digits := AllDigits.allBare hd.digits
  unfold Layout.positional
  split
  · exact allBare_append.mpr ⟨allBare_cons.mpr ⟨rfl, allBare_cons.mpr
      ⟨rfl, (allDigits_replicate _).allBare⟩⟩, hdigits⟩
  · refine allBare_append.mpr ⟨allBare_append.mpr ⟨?_, (allDigits_replicate _).allBare⟩,
      allBare_cons.mpr ⟨rfl, ?_⟩⟩
    · exact fun c hc => hdigits c (List.mem_of_mem_take hc)
    · split
      · decide
      · exact fun c hc => hdigits c (List.mem_of_mem_drop hc)

theorem allBare_scientific (l : Layout) {d : Decimal} (hd : d.Normal) :
    AllBare (l.scientific d) := by
  have hdigits : AllBare d.digits := AllDigits.allBare hd.digits
  unfold Layout.scientific
  refine allBare_append.mpr ⟨allBare_append.mpr ⟨?_, ?_⟩, allBare_cons.mpr ⟨rfl,
    allBare_cons.mpr ⟨?_, (allDigits_padded _ _).allBare⟩⟩⟩
  · exact fun c hc => hdigits c (List.mem_of_mem_take hc)
  · split
    · decide
    · exact allBare_cons.mpr ⟨rfl, fun c hc => hdigits c (List.mem_of_mem_drop hc)⟩
  · split <;> rfl

theorem allBare_magnitude (l : Layout) {d : Decimal} (hd : d.Normal) :
    AllBare (l.magnitude d) := by
  unfold Layout.magnitude
  split
  · decide
  · split
    · exact allBare_positional hd
    · exact allBare_scientific l hd

theorem allBare_numberLayout (x : Binary64) : AllBare (numberLayout.chars x) := by
  cases x with
  | nan =>
      decide
  | infinite negative =>
      cases negative <;> decide
  | finite negative rank =>
      refine allBare_append.mpr ⟨?_, allBare_magnitude _ (Binary64.normal_shortest rank)⟩
      cases negative <;> decide

theorem numberLayout_ne_nil (x : Binary64) : numberLayout.chars x ≠ [] := by
  intro h
  have hread := bareToken_numberLayout x
  rw [h] at hread
  cases hread

end Runs

end Json
end JobWire
