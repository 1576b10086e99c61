import JobWire.Proofs.Json.Scanning

/-!
# Assembling a value from its lexemes

The lexemes of a value are assembled into that value whenever it does not lie too deep among the
containers that wait for it.  A container is put onto the stack when its first element begins, so an
element is assembled one level deeper than its container, and an empty container takes no level.

The statement is exact: lexemes that lie too deep are assembled into nothing.

**Results.**
* `Assembly.run_lexemes`: what the lexemes of a value lead to, and when.
* `parse_render`: the text of a value is read as that value if its integers are short enough and it
  is not nested too deep, and not at all otherwise.
-/

namespace JobWire
namespace Json

/-- The lexemes of a value do not begin with the end of an array. -/
theorem exists_cons_lexemes (v : Json) : ∃ t ts, v.lexemes = t :: ts ∧ t ≠ .closeArray := by
  cases v with
  | null | bool _ | int _ | float _ | str _ =>
      exact ⟨_, _, rfl, by simp⟩
  | arr items =>
      cases items with
      | nil =>
          exact ⟨_, _, rfl, by simp⟩
      | cons v vs =>
          exact ⟨.openArray, lexemes v ++ moreItemLexemes vs ++ [.closeArray], rfl, by simp⟩
  | obj members =>
      cases members with
      | nil =>
          exact ⟨_, _, rfl, by simp⟩
      | cons m ms =>
          exact ⟨.openObject,
            .text m.1 :: .colon :: lexemes m.2 ++ moreMemberLexemes ms ++ [.closeObject],
            rfl, by simp⟩

namespace Assembly

variable {frames : List Frame} {ts : List Token}

section Steps

theorem step_value (t : Token) : step ⟨frames, .value⟩ t = beginValue frames t := by
  cases t <;> rfl

theorem step_firstItem {t : Token} (h : t ≠ .closeArray) :
    step ⟨frames, .firstItem⟩ t =
      (push (.item []) frames).bind fun frames => beginValue frames t := by
  cases t with
  | closeArray =>
      contradiction
  | openArray | openObject | closeObject | comma | colon | text _ | scalar _ =>
      rfl

theorem step_afterItem_close (items : List Json) :
    step ⟨frames, .afterItem items⟩ .closeArray = some (give (.arr items.reverse) frames) := rfl

theorem step_afterMember_close (members : Object) :
    step ⟨frames, .afterMember members⟩ .closeObject = some (give (.obj members) frames) := rfl

theorem run_openArray : run ⟨frames, .value⟩ (.openArray :: ts) = run ⟨frames, .firstItem⟩ ts := rfl

theorem run_openObject (name : String) :
    run ⟨frames, .value⟩ (.openObject :: .text name :: ts) = run ⟨frames, .colon [] name⟩ ts := rfl

theorem run_afterMember_comma (members : Object) (name : String) :
    run ⟨frames, .afterMember members⟩ (.comma :: .text name :: ts) =
      run ⟨frames, .colon members name⟩ ts := rfl

theorem run_afterItem_comma (items : List Json) :
    run ⟨frames, .afterItem items⟩ (.comma :: ts) =
      (push (.item items) frames).bind fun frames => run ⟨frames, .value⟩ ts :=
  Option.bind_map

theorem run_colon (members : Object) (name : String) :
    run ⟨frames, .colon members name⟩ (.colon :: ts) =
      (push (.member members name) frames).bind fun frames => run ⟨frames, .value⟩ ts :=
  Option.bind_map

/-- The first item of an array is a value one level deeper. -/
theorem run_firstItem (v : Json) :
    run ⟨frames, .firstItem⟩ (v.lexemes ++ ts) =
      (push (.item []) frames).bind fun frames => run ⟨frames, .value⟩ (v.lexemes ++ ts) := by
  obtain ⟨t, us, hlex, hne⟩ := exists_cons_lexemes v
  rw [hlex, List.cons_append, run_cons, step_firstItem hne, Option.bind_assoc]
  congr 1

/-- A value that is assembled inside one more container, if the stack has room for it. -/
theorem run_pushed {frame : Frame} {v : Json}
    (h : (frame :: frames).length ≤ maxDepth →
      run ⟨frame :: frames, .value⟩ (v.lexemes ++ ts) =
        if (frame :: frames).length + v.depth ≤ maxDepth then run (give v (frame :: frames)) ts
        else none) :
    ((push frame frames).bind fun frames => run ⟨frames, .value⟩ (v.lexemes ++ ts)) =
      if frames.length + (v.depth + 1) ≤ maxDepth then run (give v (frame :: frames)) ts
      else none := by
  unfold push
  by_cases hroom : frames.length < maxDepth
  · rw [if_pos hroom, Option.bind_some, h hroom, List.length_cons, Nat.add_assoc, Nat.add_comm 1]
  · rw [if_neg hroom, Option.bind_none, if_neg (by omega)]

/-- Two depths fit if each of them does. -/
theorem ite_add_max_le {α : Type} {level a b : Nat} {x y : α} :
    (if level + max a b ≤ maxDepth then x else y) =
      if level + a ≤ maxDepth then (if level + b ≤ maxDepth then x else y) else y := by
  split_ifs <;> first | rfl | omega

end Steps

mutual

/-- The lexemes of a value are assembled into it, unless it lies too deep. -/
theorem run_lexemes :
    ∀ (v : Json) {frames : List Frame} {ts : List Token}, v.Distinct → frames.length ≤ maxDepth →
      run ⟨frames, .value⟩ (v.lexemes ++ ts) =
        if frames.length + v.depth ≤ maxDepth then run (give v frames) ts else none
  | null, frames, ts, _, hframes => (if_pos hframes).symm
  | bool _, frames, ts, _, hframes => (if_pos hframes).symm
  | int _, frames, ts, _, hframes => (if_pos hframes).symm
  | float _, frames, ts, _, hframes => (if_pos hframes).symm
  | str _, frames, ts, _, hframes => (if_pos hframes).symm
  | arr [], frames, ts, _, hframes => (if_pos hframes).symm
  | arr (v :: vs), frames, ts, hdistinct, hframes => by
      have hall := distinct_arr_iff.mp hdistinct
      have hv : v.Distinct := hall v List.mem_cons_self
      have hvs : ∀ w ∈ vs, w.Distinct := fun w hw => hall w (List.mem_cons_of_mem _ hw)
      have hsplit : (arr (v :: vs)).lexemes ++ ts =
          .openArray :: (v.lexemes ++ (moreItemLexemes vs ++ .closeArray :: ts)) := by
        simp [lexemes]
      rw [hsplit, run_openArray, run_firstItem, run_pushed (run_lexemes v hv), give,
        run_moreItemLexemes vs [v] hvs hframes, depth, depthItems, ite_add_max_le, run_cons,
        step_afterItem_close, Option.bind_some]
      simp
  | obj [], frames, ts, _, hframes => (if_pos hframes).symm
  | obj ((k, v) :: ms), frames, ts, hdistinct, hframes => by
      obtain ⟨hnames, hall⟩ := distinct_obj_iff.mp hdistinct
      have hv : v.Distinct := hall (k, v) List.mem_cons_self
      have hms : ∀ m ∈ ms, m.2.Distinct := fun m hm => hall m (List.mem_cons_of_mem _ hm)
      have hsplit : (obj ((k, v) :: ms)).lexemes ++ ts = .openObject :: .text k :: .colon ::
          (v.lexemes ++ (moreMemberLexemes ms ++ .closeObject :: ts)) := by
        simp [lexemes]
      rw [hsplit, run_openObject, run_colon, run_pushed (run_lexemes v hv), give, Object.set,
        run_moreMemberLexemes ms [(k, v)] hms hnames hframes, depth, depthMembers,
        ite_add_max_le, run_cons, step_afterMember_close, Option.bind_some,
        List.singleton_append]

theorem run_moreItemLexemes :
    ∀ (vs acc : List Json) {frames : List Frame} {ts : List Token},
      (∀ v ∈ vs, v.Distinct) → frames.length ≤ maxDepth →
      run ⟨frames, .afterItem acc⟩ (moreItemLexemes vs ++ ts) =
        if frames.length + depthItems vs ≤ maxDepth then
          run ⟨frames, .afterItem (vs.reverse ++ acc)⟩ ts
        else none
  | [], acc, frames, ts, _, hframes => (if_pos hframes).symm
  | v :: vs, acc, frames, ts, hall, hframes => by
      have hv : v.Distinct := hall v List.mem_cons_self
      have hvs : ∀ w ∈ vs, w.Distinct := fun w hw => hall w (List.mem_cons_of_mem _ hw)
      have hsplit : moreItemLexemes (v :: vs) ++ ts =
          .comma :: (v.lexemes ++ (moreItemLexemes vs ++ ts)) := by
        simp [moreItemLexemes]
      rw [hsplit, run_afterItem_comma, run_pushed (run_lexemes v hv), give,
        run_moreItemLexemes vs (v :: acc) hvs hframes, depthItems, ite_add_max_le,
        List.reverse_cons, List.append_assoc, List.singleton_append]

theorem run_moreMemberLexemes :
    ∀ (ms acc : List (String × Json)) {frames : List Frame} {ts : List Token},
      (∀ m ∈ ms, m.2.Distinct) → (Object.names (acc ++ ms)).Nodup → frames.length ≤ maxDepth →
      run ⟨frames, .afterMember acc⟩ (moreMemberLexemes ms ++ ts) =
        if frames.length + depthMembers ms ≤ maxDepth then
          run ⟨frames, .afterMember (acc ++ ms)⟩ ts
        else none
  | [], acc, frames, ts, _, _, hframes => by
      rw [depthMembers, Nat.add_zero, if_pos hframes, List.append_nil]
      rfl
  | (k, v) :: ms, acc, frames, ts, hall, hnames, hframes => by
      have hv : v.Distinct := hall (k, v) List.mem_cons_self
      have hms : ∀ m ∈ ms, m.2.Distinct := fun m hm => hall m (List.mem_cons_of_mem _ hm)
      have hnew : k ∉ Object.names acc := by
        intro hk
        rw [Object.names, List.map_append, List.nodup_append] at hnames
        exact hnames.2.2 k hk k (by simp) rfl
      have hset : Object.set k v acc = acc ++ [(k, v)] := Object.set_eq_append hnew
      have hsplit : moreMemberLexemes ((k, v) :: ms) ++ ts =
          .comma :: .text k :: .colon :: (v.lexemes ++ (moreMemberLexemes ms ++ ts)) := by
        simp [moreMemberLexemes]
      rw [hsplit, run_afterMember_comma, run_colon, run_pushed (run_lexemes v hv), give, hset,
        run_moreMemberLexemes ms (acc ++ [(k, v)]) hms (by simpa using hnames) hframes,
        depthMembers, ite_add_max_le, List.append_assoc, List.singleton_append]

end

end Assembly

/-- The lexemes of a value denote it, unless it is nested too deep. -/
theorem ofTokens?_lexemes {v : Json} (h : v.Distinct) :
    ofTokens? v.lexemes = if v.depth ≤ maxDepth then some v else none := by
  have hrun : Assembly.run ⟨[], .value⟩ (v.lexemes ++ []) =
      if ([] : List Frame).length + v.depth ≤ maxDepth then Assembly.run (Assembly.give v []) []
      else none := Assembly.run_lexemes v h (Nat.zero_le _)
  rw [List.append_nil, List.length_nil, Nat.zero_add] at hrun
  rw [ofTokens?, Assembly.start, hrun]
  split <;> rfl

/-- The text of a value is read as that value if its integers are short enough and it is not nested
too deep, and not at all otherwise. -/
theorem parse_render {v : Json} (h : v.Distinct) :
    parse v.render = if v.integersFit = true ∧ v.depth ≤ maxDepth then some v else none := by
  rw [parse, render, String.toList_ofList, parseChars, tokens_chars]
  cases v.integersFit with
  | false =>
      simp
  | true =>
      simp [ofTokens?_lexemes h]

end Json
end JobWire
