import JobWire.Proofs.Json.Limits
import JobWire.Proofs.Number.Numeral

/-!
# Scanning the text of a value

The text of a value is scanned into the tokens that spell it.  A literal or a number is a maximal
run, so what a value is scanned into can be said only together with the character that follows it:
every statement is about a text that goes on with a character that cannot belong to such a run.

**Results.**
* `Scanner.run_bare`: a maximal run is scanned into its token.
* `Scanner.run_stringChars`: a string is scanned into itself, whatever had to be escaped.
* `Scanner.run_chars`: the text of a value is scanned into its lexemes if its integers are short
  enough, and not at all otherwise.
* `tokens_chars`: so is the whole text.
-/

namespace JobWire
namespace Json

mutual

/-- The tokens that spell a value. -/
def lexemes : Json → List Token
  | arr [] => [.openArray, .closeArray]
  | arr (v :: vs) => .openArray :: lexemes v ++ moreItemLexemes vs ++ [.closeArray]
  | obj [] => [.openObject, .closeObject]
  | obj ((k, v) :: ms) =>
    .openObject :: .text k :: .colon :: lexemes v ++ moreMemberLexemes ms ++ [.closeObject]
  | str s => [.text s]
  | v => [.scalar v]

/-- The tokens that spell the items after the first one. -/
def moreItemLexemes : List Json → List Token
  | [] => []
  | v :: vs => .comma :: lexemes v ++ moreItemLexemes vs

/-- The tokens that spell the members after the first one. -/
def moreMemberLexemes : List (String × Json) → List Token
  | [] => []
  | (k, v) :: ms => .comma :: .text k :: .colon :: lexemes v ++ moreMemberLexemes ms

end

namespace Scanner

variable {c : Char} {cs w seen : List Char} {toks : List Token}

theorem step_between : step ⟨.between, toks⟩ c = begin toks c := rfl

theorem step_bare :
    step ⟨.bare seen, toks⟩ c =
      if isBare c then some ⟨.bare (c :: seen), toks⟩
      else (bareToken seen.reverse).bind fun t => begin (t :: toks) c := rfl

theorem step_text_quote :
    step ⟨.text seen, toks⟩ '"' =
      some ⟨.between, .text (String.ofList seen.reverse) :: toks⟩ := rfl

section Bare

/-- A character of a run begins one. -/
theorem begin_of_isBare (h : isBare c = true) : begin toks c = some ⟨.bare [c], toks⟩ := by
  have hspace : isSpace c = false := by
    cases hs : isSpace c with
    | false =>
        rfl
    | true =>
        simp only [isSpace, Bool.or_eq_true, beq_iff_eq] at hs
        rcases hs with ((rfl | rfl) | rfl) | rfl <;> exact absurd h (by decide)
  unfold begin
  split
  case h_8 =>
      rw [hspace, if_neg Bool.false_ne_true, if_pos h]
  all_goals exact absurd h (by decide)

/-- A run ends where a character that cannot belong to it follows. -/
theorem run_bare_from (hw : AllBare w) (hc : isBare c = false) :
    run ⟨.bare seen, toks⟩ (w ++ c :: cs) =
      (bareToken (seen.reverse ++ w)).bind fun t => run ⟨.between, t :: toks⟩ (c :: cs) := by
  induction w generalizing seen with
  | nil =>
      rw [List.nil_append, List.append_nil, run_cons, step_bare, hc, if_neg Bool.false_ne_true,
        Option.bind_assoc]
      rfl
  | cons d w ih =>
      obtain ⟨hd, hw⟩ := allBare_cons.mp hw
      rw [List.cons_append, run_cons, step_bare, if_pos hd, Option.bind_some, ih hw,
        List.reverse_cons, List.append_assoc, List.singleton_append]

/-- A maximal run is scanned into its token. -/
theorem run_bare (hne : w ≠ []) (hw : AllBare w) (hc : isBare c = false) :
    run ⟨.between, toks⟩ (w ++ c :: cs) =
      (bareToken w).bind fun t => run ⟨.between, t :: toks⟩ (c :: cs) := by
  obtain ⟨d, w, rfl⟩ := List.exists_cons_of_ne_nil hne
  obtain ⟨hd, hw⟩ := allBare_cons.mp hw
  rw [List.cons_append, run_cons, step_between, begin_of_isBare hd, Option.bind_some,
    run_bare_from hw hc, List.reverse_singleton, List.singleton_append]

end Bare

section Strings

/-- Four hexadecimal digits of a character that is no half of a pair are read as it. -/
theorem run_hexDigits {n : Nat} (hn : n < 0xD800) :
    run ⟨.unit seen none 4 0, toks⟩ (Text.hexDigits 4 n) =
      some ⟨.text (Char.ofNat n :: seen), toks⟩ := by
  have hvalue : ∀ m, Text.hexValue? (Nat.digitChar (m % 16)) = some (m % 16) :=
    fun m => Text.hexValue?_digitChar _ (Nat.mod_lt _ (by decide))
  have hsum : 16 * (16 * (16 * (16 * 0 + n / 16 / 16 / 16 % 16) + n / 16 / 16 % 16) +
      n / 16 % 16) + n % 16 = n := by
    omega
  simp only [Text.hexDigits, List.nil_append, List.cons_append, run_cons, step, hvalue,
    Option.bind_some, Nat.reduceLeDiff, if_false, Nat.reduceSub, Nat.le_refl, if_true, hsum]
  simp [codeUnit, Nat.not_le.mpr hn, show ¬ 0xDC00 ≤ n by omega]

theorem run_escapedChar (d : Char) :
    run ⟨.text seen, toks⟩ (escapedChar d) = some ⟨.text (d :: seen), toks⟩ := by
  unfold escapedChar
  split
  · next h => subst h; rfl
  split
  · next h => subst h; rfl
  split
  · next hquote hbackslash hspace =>
      simp [run_cons, step, hquote, hbackslash, Nat.not_lt.mpr hspace]
  split
  · next h => subst h; rfl
  split
  · next h => subst h; rfl
  split
  · next h => subst h; rfl
  split
  · next h => subst h; rfl
  split
  · next h => subst h; rfl
  · next hspace _ _ _ _ _ =>
      have h : run ⟨.unit seen none 4 0, toks⟩ (Text.hexDigits 4 d.toNat) =
          some ⟨.text (Char.ofNat d.toNat :: seen), toks⟩ := run_hexDigits (by omega)
      rw [Char.ofNat_toNat] at h
      exact h

theorem run_escaped (ds : List Char) :
    run ⟨.text seen, toks⟩ (ds.flatMap escapedChar) =
      some ⟨.text (ds.reverse ++ seen), toks⟩ := by
  induction ds generalizing seen with
  | nil =>
      rfl
  | cons d ds ih =>
      rw [List.flatMap_cons, run_append, run_escapedChar, Option.bind_some, ih,
        List.reverse_cons, List.append_assoc, List.singleton_append]

/-- A string is scanned into itself, whatever had to be escaped. -/
theorem run_stringChars (s : String) :
    run ⟨.between, toks⟩ (stringChars s ++ cs) = run ⟨.between, .text s :: toks⟩ cs := by
  have hclose : run ⟨.text (s.toList.reverse ++ []), toks⟩ ('"' :: cs) =
      run ⟨.between, .text s :: toks⟩ cs := by
    rw [List.append_nil, run_cons, step_text_quote, Option.bind_some, List.reverse_reverse,
      String.ofList_toList]
  unfold stringChars
  rw [List.cons_append, List.cons_append, List.append_assoc, List.singleton_append, run_cons]
  change run ⟨.text [], toks⟩ (s.toList.flatMap escapedChar ++ '"' :: cs) = _
  rw [run_append, run_escaped, Option.bind_some, hclose]

end Strings

section Values

theorem step_openArray : step ⟨.between, toks⟩ '[' = some ⟨.between, .openArray :: toks⟩ := rfl

theorem step_closeArray : step ⟨.between, toks⟩ ']' = some ⟨.between, .closeArray :: toks⟩ := rfl

theorem step_openObject :
    step ⟨.between, toks⟩ '\x7b' = some ⟨.between, .openObject :: toks⟩ := rfl

theorem step_closeObject :
    step ⟨.between, toks⟩ '\x7d' = some ⟨.between, .closeObject :: toks⟩ := rfl

theorem step_comma : step ⟨.between, toks⟩ ',' = some ⟨.between, .comma :: toks⟩ := rfl

theorem step_colon : step ⟨.between, toks⟩ ':' = some ⟨.between, .colon :: toks⟩ := rfl

/-- The text after an item or a member does not go on with a character of a run. -/
theorem exists_cons_moreItems (vs : List Json) (c : Char) (cs : List Char)
    (hc : isBare c = false) :
    ∃ d ds, moreItems vs ++ c :: cs = d :: ds ∧ isBare d = false := by
  cases vs with
  | nil =>
      exact ⟨c, cs, rfl, hc⟩
  | cons v vs =>
      exact ⟨',', chars v ++ moreItems vs ++ c :: cs, rfl, rfl⟩

theorem exists_cons_moreMembers (ms : Object) (c : Char) (cs : List Char)
    (hc : isBare c = false) :
    ∃ d ds, moreMembers ms ++ c :: cs = d :: ds ∧ isBare d = false := by
  cases ms with
  | nil =>
      exact ⟨c, cs, rfl, hc⟩
  | cons m ms =>
      exact ⟨',', stringChars m.1 ++ ':' :: chars m.2 ++ moreMembers ms ++ c :: cs, rfl, rfl⟩

mutual

/-- The text of a value is scanned into its lexemes if its integers are short enough, and not at
all otherwise. -/
theorem run_chars :
    ∀ (v : Json) (toks : List Token) {c : Char} {cs : List Char}, isBare c = false →
      run ⟨.between, toks⟩ (v.chars ++ c :: cs) =
        if v.integersFit then run ⟨.between, v.lexemes.reverse ++ toks⟩ (c :: cs) else none
  | null, toks, _, _, hc => by
      rw [chars, run_bare (by simp) (by decide) hc]
      rfl
  | bool true, toks, _, _, hc => by
      rw [chars, run_bare (by simp) (by decide) hc]
      rfl
  | bool false, toks, _, _, hc => by
      rw [chars, run_bare (by simp) (by decide) hc]
      rfl
  | int i, toks, _, _, hc => by
      rw [chars, run_bare (intChars_ne_nil i) (allBare_intChars i) hc, bareToken_intChars,
        integersFit]
      by_cases hlen : (Nat.toDigits 10 i.natAbs).length ≤ maxDigits
      · rw [if_pos hlen, if_pos (decide_eq_true hlen)]
        rfl
      · rw [if_neg hlen, if_neg (by simpa using hlen), Option.bind_none]
  | float x, toks, _, _, hc => by
      rw [chars, run_bare (numberLayout_ne_nil x) (allBare_numberLayout x) hc,
        bareToken_numberLayout]
      rfl
  | str s, toks, _, _, _ => by
      rw [chars, run_stringChars]
      rfl
  | arr [], toks, _, _, _ => rfl
  | arr (v :: vs), toks, c, cs, hc => by
      obtain ⟨d, ds, hrest, hd⟩ := exists_cons_moreItems vs ']' (c :: cs) rfl
      have hsplit : (arr (v :: vs)).chars ++ c :: cs =
          '[' :: (v.chars ++ (moreItems vs ++ ']' :: c :: cs)) := by
        simp [chars]
      rw [hsplit, run_cons, step_openArray, Option.bind_some, hrest, run_chars v _ hd, ← hrest,
        run_moreItems vs _ rfl, integersFit, integersFitItems]
      cases v.integersFit <;> cases integersFitItems vs <;>
        simp [run_cons, step_closeArray, lexemes]
  | obj [], toks, _, _, _ => rfl
  | obj ((k, v) :: ms), toks, c, cs, hc => by
      obtain ⟨d, ds, hrest, hd⟩ := exists_cons_moreMembers ms '\x7d' (c :: cs) rfl
      have hsplit : (obj ((k, v) :: ms)).chars ++ c :: cs =
          '\x7b' ::
            (stringChars k ++ ':' :: (v.chars ++ (moreMembers ms ++ '\x7d' :: c :: cs))) := by
        simp [chars]
      rw [hsplit, run_cons, step_openObject, Option.bind_some, run_stringChars, run_cons,
        step_colon, Option.bind_some, hrest, run_chars v _ hd, ← hrest, run_moreMembers ms _ rfl,
        integersFit, integersFitMembers]
      cases v.integersFit <;> cases integersFitMembers ms <;>
        simp [run_cons, step_closeObject, lexemes]

theorem run_moreItems :
    ∀ (vs : List Json) (toks : List Token) {c : Char} {cs : List Char}, isBare c = false →
      run ⟨.between, toks⟩ (moreItems vs ++ c :: cs) =
        if integersFitItems vs then
          run ⟨.between, (moreItemLexemes vs).reverse ++ toks⟩ (c :: cs)
        else none
  | [], toks, _, _, _ => rfl
  | v :: vs, toks, c, cs, hc => by
      obtain ⟨d, ds, hrest, hd⟩ := exists_cons_moreItems vs c cs hc
      have hsplit : moreItems (v :: vs) ++ c :: cs =
          ',' :: (v.chars ++ (moreItems vs ++ c :: cs)) := by
        simp [moreItems]
      rw [hsplit, run_cons, step_comma, Option.bind_some, hrest, run_chars v _ hd, ← hrest,
        run_moreItems vs _ hc, integersFitItems]
      cases v.integersFit <;> cases integersFitItems vs <;> simp [moreItemLexemes]

theorem run_moreMembers :
    ∀ (ms : List (String × Json)) (toks : List Token) {c : Char} {cs : List Char},
      isBare c = false →
      run ⟨.between, toks⟩ (moreMembers ms ++ c :: cs) =
        if integersFitMembers ms then
          run ⟨.between, (moreMemberLexemes ms).reverse ++ toks⟩ (c :: cs)
        else none
  | [], toks, _, _, _ => rfl
  | (k, v) :: ms, toks, c, cs, hc => by
      obtain ⟨d, ds, hrest, hd⟩ := exists_cons_moreMembers ms c cs hc
      have hsplit : moreMembers ((k, v) :: ms) ++ c :: cs =
          ',' :: (stringChars k ++ ':' :: (v.chars ++ (moreMembers ms ++ c :: cs))) := by
        simp [moreMembers]
      rw [hsplit, run_cons, step_comma, Option.bind_some, run_stringChars, run_cons, step_colon,
        Option.bind_some, hrest, run_chars v _ hd, ← hrest, run_moreMembers ms _ hc,
        integersFitMembers]
      cases v.integersFit <;> cases integersFitMembers ms <;> simp [moreMemberLexemes]

end

end Values

section Ends

theorem finish_bare :
    finish ⟨.bare seen, toks⟩ = (bareToken seen.reverse).map fun t => (t :: toks).reverse := rfl

/-- The end of a text and a space close the same tokens. -/
theorem finish_eq_step_space (s : Scanner) : s.finish = (s.step ' ').bind finish := by
  obtain ⟨mode, toks⟩ := s
  cases mode with
  | bare seen =>
      rw [step_bare, if_neg (by decide), Option.bind_assoc, finish_bare]
      cases bareToken seen.reverse <;> rfl
  | between | text _ | escape _ | unit _ _ _ _ | pairBackslash _ _ | pairLetter _ _ =>
      rfl

end Ends

end Scanner

/-- The whole text of a value is scanned into its lexemes if its integers are short enough. -/
theorem tokens_chars (v : Json) :
    tokens v.chars = if v.integersFit then some v.lexemes else none := by
  have hspace : tokens v.chars = (Scanner.start.run (v.chars ++ [' '])).bind Scanner.finish := by
    rw [Scanner.run_append, Option.bind_assoc, tokens]
    congr 1
    funext s
    rw [Scanner.finish_eq_step_space, Scanner.run_cons, Option.bind_assoc]
    rfl
  rw [hspace, Scanner.start, Scanner.run_chars v [] (by decide)]
  cases v.integersFit with
  | false =>
      rfl
  | true =>
      rw [if_pos rfl, if_pos rfl, List.append_nil, Scanner.run_cons]
      change some (v.lexemes.reverse.reverse) = some v.lexemes
      rw [List.reverse_reverse]

end Json
end JobWire
