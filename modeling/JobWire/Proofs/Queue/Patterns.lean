import JobWire.Proofs.Codec
import JobWire.Proofs.Elementwise
import JobWire.Proofs.Queue.Grammar

/-!
# Patterns within a document

The stored priority patterns are sent as texts within a document, each of which is a document of its
own.  They are read in two passes: first every element of the outer document must be a text, and
then each text is read and decoded.  So a fault of the first pass is reported before any of the
second, wherever it stands in the list.

What is written into a text and then into a document is read back as it was, however many of its
characters had to be escaped, and escaped again.

**Results.**
* `Reply.result_patternsOfJson_eq_iff`: what is reported of an array of patterns.
* `Reply.patterns_read_back`: stored patterns are read back, and what is reported of every other
  array.
-/

namespace JobWire

namespace PriorityPattern

/-- What is reported of a text that is to be the JSON of a priority pattern. -/
inductive TextVerdict (text : String) : Decoded PriorityPattern → Prop
  | malformed :
      Json.parse text = none →
      TextVerdict text (.error .invalidJson)
  | parsed {v : Json} {r : Decoded PriorityPattern} :
      Json.parse text = some v →
      grammar.Verdict v r →
      TextVerdict text r

variable {text : String} {r : Decoded PriorityPattern}

theorem result_decode_text_eq_iff :
    (decode PriorityPattern (.text text)).result = r ↔ TextVerdict text r := by
  have hrun : (decode PriorityPattern (.text text)).result =
      ((Json.parse text).elim (.error .invalidJson) .ok : Decoded Json) >>=
        fun v => (ofJson v).result := Traced.result_bind
  rw [hrun]
  cases hparse : Json.parse text with
  | none =>
      constructor
      · rintro rfl
        exact .malformed hparse
      · rintro (_ | ⟨hsome, -⟩)
        · rfl
        · rw [hparse] at hsome
          cases hsome
  | some v =>
      have hread : (ofJson v).result = r ↔ grammar.Verdict v r := governs.result_eq_iff
      refine hread.trans ?_
      constructor
      · exact .parsed hparse
      · rintro (hnone | ⟨hsome, hverdict⟩)
        · rw [hparse] at hnone
          cases hnone
        · rw [hparse] at hsome
          cases hsome
          exact hverdict

/-- The value of a priority pattern is always readable: it is shallow and has no numbers. -/
theorem readable_toJson (p : PriorityPattern) : p.toJson.Readable 0 := by
  have htexts : (Json.ofStrings p.pattern).Readable 1 := by
    refine Json.readable_arr_iff.mpr ⟨by decide, List.forall_mem_map.mpr fun s _ => ?_⟩
    exact Json.readable_str_iff.mpr (by decide)
  refine Json.readable_obj_iff.mpr ⟨by decide, by simp [Object.names], ?_⟩
  simp only [List.forall_mem_cons]
  exact ⟨Json.readable_bool_iff.mpr (by decide), htexts, by simp⟩

theorem textVerdict_render {p : PriorityPattern} (h : p.Valid) :
    TextVerdict p.toJson.render (.ok p) :=
  .parsed (Json.parse_render_of_readable (readable_toJson p))
    (governs.result_eq_iff.mp (result_ofJson_toJson h))

/-- The document that holds the texts of some priority patterns. -/
def stored (ps : List PriorityPattern) : Json :=
  .ofStrings (ps.map fun p => p.toJson.render)

end PriorityPattern

namespace Reply

open PriorityPattern (TextVerdict stored)

/-- What is reported of an array that is to hold the texts of priority patterns. -/
inductive PatternsVerdict (items : List Json) : Decoded (List PriorityPattern) → Prop
  | null :
      IsFirst (fun w => w.kind ≠ .string) items .null →
      PatternsVerdict items (.error (Json.nullElement "patterns"))
  | notString {w : Json} :
      IsFirst (fun w => w.kind ≠ .string) items w →
      w ≠ .null →
      PatternsVerdict items (.error (w.wrongShape "patterns" "an array of strings"))
  | unreadable {texts : List String} {text : String} {e : DecodeError} :
      items = texts.map .str →
      IsFirst (fun text => ∀ p, ¬ TextVerdict text (.ok p)) texts text →
      TextVerdict text (.error e) →
      PatternsVerdict items (.error e)
  | patterns {texts : List String} {ps : List PriorityPattern} :
      items = texts.map .str →
      List.Forall₂ (fun text p => TextVerdict text (.ok p)) texts ps →
      PatternsVerdict items (.ok ps)

section Passes

variable {items : List Json} {texts : List String} {e : DecodeError}

theorem result_patternsOfJson :
    (patternsOfJson (.arr items)).result =
      ((Json.arr items).list "patterns" (Json.stringElement "patterns")).result >>= fun texts =>
        (Traced.each (fun text => decode PriorityPattern (.text text)) texts).result :=
  Traced.result_bind

/-- The second pass fails at the first text that is no pattern, with the error of that text. -/
theorem secondPass_eq_error_iff :
    (Traced.each (fun text => decode PriorityPattern (.text text)) texts).result = .error e ↔
      ∃ text, IsFirst (fun text => ∀ p, ¬ TextVerdict text (.ok p)) texts text ∧
        TextVerdict text (.error e) := by
  rw [Traced.result_each_eq_error_iff]
  simp only [ne_eq, PriorityPattern.result_decode_text_eq_iff]

theorem secondPass_eq_ok_iff {ps : List PriorityPattern} :
    (Traced.each (fun text => decode PriorityPattern (.text text)) texts).result = .ok ps ↔
      List.Forall₂ (fun text p => TextVerdict text (.ok p)) texts ps := by
  rw [Traced.result_each_eq_ok_iff]
  simp only [PriorityPattern.result_decode_text_eq_iff]

end Passes

/-- What is reported of an array is what the first pass reports, or else the second. -/
theorem result_patternsOfJson_eq_iff {items : List Json} {r : Decoded (List PriorityPattern)} :
    (patternsOfJson (.arr items)).result = r ↔ PatternsVerdict items r := by
  rw [result_patternsOfJson]
  cases r with
  | error e =>
      rw [bind_eq_error_iff]
      constructor
      · rintro (hfirst | ⟨texts, htexts, hsecond⟩)
        · rcases Json.result_strings_arr_eq_error_iff.mp hfirst with ⟨hnull, rfl⟩ | ⟨w, hw, hnull, rfl⟩
          · exact .null hnull
          · exact .notString hw hnull
        · obtain ⟨text, htext, he⟩ := secondPass_eq_error_iff.mp hsecond
          exact .unreadable (Json.result_strings_arr_eq_ok_iff.mp htexts) htext he
      · rintro (hnull | ⟨hw, hnull⟩ | ⟨htexts, htext, he⟩)
        · exact .inl (Json.result_strings_arr_eq_error_iff.mpr (.inl ⟨hnull, rfl⟩))
        · exact .inl (Json.result_strings_arr_eq_error_iff.mpr (.inr ⟨_, hw, hnull, rfl⟩))
        · exact .inr ⟨_, Json.result_strings_arr_eq_ok_iff.mpr htexts,
            secondPass_eq_error_iff.mpr ⟨_, htext, he⟩⟩
  | ok ps =>
      rw [bind_eq_ok_iff]
      constructor
      · rintro ⟨texts, htexts, hsecond⟩
        exact .patterns (Json.result_strings_arr_eq_ok_iff.mp htexts)
          (secondPass_eq_ok_iff.mp hsecond)
      · rintro (_ | _ | _ | ⟨htexts, hps⟩)
        exact ⟨_, Json.result_strings_arr_eq_ok_iff.mpr htexts, secondPass_eq_ok_iff.mpr hps⟩

section Replies

variable {r : Reply} {items : List Json} {ps : List PriorityPattern}

theorem result_priorityPatterns_eq_iff (h : r.json.result = .ok (.arr items))
    {x : Decoded (List PriorityPattern)} :
    (priorityPatterns r).result = x.mapError ClientError.decode ↔ PatternsVerdict items x := by
  rw [priorityPatterns, result_record_eq_iff h, result_patternsOfJson_eq_iff]

theorem result_json_text {s : String} {v : Json} (h : Json.parse s = some v) :
    (text s).json.result = .ok v :=
  mapError_eq_ok_iff.mpr (result_ofExcept_elim_eq_ok_iff.mpr h)

theorem result_json_bytes {s : String} {v : Json} (h : Json.parse s = some v) :
    (bytes s.toUTF8).json.result = .ok v := by
  have hbytes : Json.parseBytes s.toUTF8 = some v := by
    rw [Json.parseBytes, fromUTF8?_toUTF8, Option.bind_some, h]
  exact mapError_eq_ok_iff.mpr (result_ofExcept_elim_eq_ok_iff.mpr hbytes)

theorem readable_stored (ps : List PriorityPattern) : (stored ps).Readable 0 :=
  Json.readable_arr_iff.mpr
    ⟨by decide, List.forall_mem_map.mpr fun _ _ => Json.readable_str_iff.mpr (by decide)⟩

theorem patternsVerdict_stored (h : ∀ p ∈ ps, p.Valid) :
    PatternsVerdict ((ps.map fun p => p.toJson.render).map .str) (.ok ps) := by
  refine .patterns rfl ?_
  rw [List.forall₂_map_left_iff, List.forall₂_same]
  exact fun p hp => PriorityPattern.textVerdict_render (h p hp)

end Replies

/-- Priority patterns that were built are read back in order from the document that holds their
texts.  Of any other array the first element that is not a string is reported, and if there is none,
the first text that is not JSON or not a pattern, in the words in which it is reported by itself. -/
theorem patterns_read_back :
    (∀ ps : List PriorityPattern, (∀ p ∈ ps, ∃ d : PriorityPatternDraft, d.build = .ok p) →
      ∀ r ∈ [text (stored ps).render, bytes (stored ps).render.toUTF8],
        (priorityPatterns r).result = .ok ps) ∧
      ∀ (r : Reply) (items : List Json), r.json.result = .ok (.arr items) →
        ∀ x : Decoded (List PriorityPattern),
          (priorityPatterns r).result = x.mapError ClientError.decode ↔
            PatternsVerdict items x := by
  refine ⟨fun ps hps r hr => ?_, fun r items h x => result_priorityPatterns_eq_iff h⟩
  have hvalid : ∀ p ∈ ps, p.Valid := by
    intro p hp
    obtain ⟨d, hd⟩ := hps p hp
    exact (PriorityPatternDraft.build_eq_ok_iff.mp hd).2
  have hparse := Json.parse_render_of_readable (readable_stored ps)
  have hjson : r.json.result = .ok (stored ps) := by
    rcases List.mem_pair.mp hr with rfl | rfl
    · exact result_json_text hparse
    · exact result_json_bytes hparse
  exact (result_priorityPatterns_eq_iff hjson).mpr (patternsVerdict_stored hvalid)

/-- Two patterns, one of them with characters that are escaped in each of the documents. -/
def escapedPatterns : List PriorityPattern :=
  [⟨["a\"b\\", "\t*"], true⟩, ⟨[], false⟩]

theorem patterns_read_back_escaped :
    (priorityPatterns (text (stored escapedPatterns).render)).result = .ok escapedPatterns ∧
      (text "[\"\x7b\",null]").json.result = .ok (.arr [.str "\x7b", .null]) ∧
      (priorityPatterns (text "[\"\x7b\",null]")).result =
        .error (.decode (Json.nullElement "patterns")) ∧
      PatternsVerdict [.str "\x7b", .null] (.error (Json.nullElement "patterns")) := by
  have hbuilt : ∀ p ∈ escapedPatterns, ∃ d : PriorityPatternDraft, d.build = .ok p := by
    refine List.forall_mem_cons.mpr ⟨⟨⟨some ["a\"b\\", "\t*"], true⟩, by decide⟩, ?_⟩
    exact List.forall_mem_singleton.mpr ⟨⟨some [], false⟩, by decide⟩
  have hjson : (text "[\"\x7b\",null]").json.result = .ok (.arr [.str "\x7b", .null]) := by
    decide +kernel
  have hrun : (priorityPatterns (text "[\"\x7b\",null]")).result =
      .error (.decode (Json.nullElement "patterns")) := by decide +kernel
  obtain ⟨hback, hverdict⟩ := patterns_read_back
  exact ⟨hback escapedPatterns hbuilt _ List.mem_cons_self, hjson, hrun,
    (hverdict _ _ hjson (.error (Json.nullElement "patterns"))).mp hrun⟩

end Reply
end JobWire
