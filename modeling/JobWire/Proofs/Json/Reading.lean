import JobWire.Proofs.Json.Assembling

/-!
# What reading yields

Whatever text is read, the value is readable, and so its own text is read as the same value again.
Two invariants carry this.  Every scalar that a scanner holds is readable at any level, because the
digits of an integer are counted when its token is made.  And every value on the stack of an
assembly is readable where it stands, because a container is put onto the stack only while there is
room, and because setting a member never repeats a name.

**Results.**
* `Scanner.scalarsReadable_run`, `Assembly.readable_run`: the invariants of whole runs.
* `readable_of_parse`: every value that is read is readable.
* `parse_render_of_readable`: a readable value is read back from its text.
* `parse_render_eq_some_iff`: what is read from the text of a value.
-/

namespace JobWire
namespace Json

section Scalars

theorem digit_le_nine {c : Char} (h : c.isDigit = true) : c.toNat - '0'.toNat ≤ 9 := by
  simp only [Char.isDigit, Bool.and_eq_true, decide_eq_true_eq] at h
  have hhigh : c.toNat ≤ 57 := UInt32.le_iff_toNat_le.mp h.2
  simp only [show '0'.toNat = 48 from rfl]
  omega

/-- A run of digits stands for a number with no more digits. -/
theorem ofDigitChars_lt {ds : List Char} (h : AllDigits ds) :
    Nat.ofDigitChars 10 ds 0 < 10 ^ ds.length := by
  induction ds using List.reverseRecOn with
  | nil =>
      simp
  | append_singleton ds c ih =>
      obtain ⟨hds, hc⟩ := allDigits_append.mp h
      have hdigit := digit_le_nine (hc c (by simp))
      have hlt := ih hds
      rw [Nat.ofDigitChars_append, Nat.ofDigitChars_cons, Nat.ofDigitChars_nil,
        List.length_append, List.length_singleton, Nat.pow_succ]
      omega

theorem length_toDigits_ofDigitChars_le {ds : List Char} (h : AllDigits ds)
    (hlen : ds.length ≤ maxDigits) :
    (Nat.toDigits 10 (Nat.ofDigitChars 10 ds 0)).length ≤ maxDigits := by
  rw [Nat.length_toDigits_le_iff (by decide) (by simp [maxDigits])]
  exact Nat.lt_of_lt_of_le (ofDigitChars_lt h) (Nat.pow_le_pow_right (by decide) hlen)

theorem allDigits_digits (cs : List Char) : AllDigits (Numeral.digits cs).1 := by
  intro c hc
  rw [Numeral.digits, List.span_eq_takeWhile_dropWhile] at hc
  exact List.mem_takeWhile_imp hc

/-- A number that is read is readable at every level. -/
theorem readable_of_unsigned {negative : Bool} {cs : List Char} {v : Json} {level : Nat}
    (h : Numeral.unsigned negative cs = some v) (hlevel : level ≤ maxDepth) :
    v.Readable level := by
  have hdigits := allDigits_digits cs
  unfold Numeral.unsigned at h
  split at h
  · cases h
  · cases h
  · next whole rest _ _ heq =>
      rw [heq] at hdigits
      split at h
      · cases h
      · next hlen =>
          split at h
          · cases h
            rw [readable_int_iff]
            refine ⟨hlevel, ?_⟩
            have hfit := length_toDigits_ofDigitChars_le hdigits (Nat.le_of_not_lt hlen)
            cases negative <;> simpa using hfit
          · simp only [Option.bind_eq_bind, Option.bind_eq_some_iff] at h
            obtain ⟨⟨frac, tail⟩, -, hpower⟩ := h
            split at hpower <;>
            · simp only [Option.bind_some, Option.bind_eq_some_iff, Option.some.injEq] at hpower
              first
              | obtain rfl := hpower
                exact readable_float_iff.mpr hlevel
              | obtain ⟨_, -, rfl⟩ := hpower
                exact readable_float_iff.mpr hlevel

/-- The token of a literal or a number is a scalar that is readable at every level. -/
theorem readable_of_bareToken {cs : List Char} {t : Token} (h : bareToken cs = some t) :
    ∃ v, t = .scalar v ∧ ∀ level ≤ maxDepth, v.Readable level := by
  unfold bareToken at h
  split_ifs at h
  · cases h
    exact ⟨_, rfl, fun _ hlevel => readable_null_iff.mpr hlevel⟩
  · cases h
    exact ⟨_, rfl, fun _ hlevel => readable_bool_iff.mpr hlevel⟩
  · cases h
    exact ⟨_, rfl, fun _ hlevel => readable_bool_iff.mpr hlevel⟩
  · cases h
    exact ⟨_, rfl, fun _ hlevel => readable_float_iff.mpr hlevel⟩
  · cases h
    exact ⟨_, rfl, fun _ hlevel => readable_float_iff.mpr hlevel⟩
  · cases h
    exact ⟨_, rfl, fun _ hlevel => readable_float_iff.mpr hlevel⟩
  · obtain ⟨v, hread, rfl⟩ := Option.map_eq_some_iff.mp h
    refine ⟨v, rfl, fun level hlevel => ?_⟩
    unfold Numeral.read at hread
    split at hread <;> exact readable_of_unsigned hread hlevel

end Scalars

namespace Scanner

/-- Every scalar among the tokens is readable at every level. -/
def ScalarsReadable (toks : List Token) : Prop :=
  ∀ v, .scalar v ∈ toks → ∀ level ≤ maxDepth, v.Readable level

variable {s s' : Scanner} {c : Char} {toks : List Token}

theorem scalarsReadable_cons {t : Token} (h : ScalarsReadable toks)
    (ht : ∀ v, t = .scalar v → ∀ level ≤ maxDepth, v.Readable level) :
    ScalarsReadable (t :: toks) := by
  intro v hv
  rcases List.mem_cons.mp hv with heq | hmem
  · exact ht v heq.symm
  · exact h v hmem

theorem scalarsReadable_begin (hs : ScalarsReadable toks) (h : begin toks c = some s) :
    ScalarsReadable s.tokens := by
  unfold begin at h
  split at h
  case h_8 =>
      split_ifs at h
      · cases h
        exact hs
      · cases h
        exact hs
  case h_7 =>
      cases h
      exact hs
  all_goals
    cases h
    exact scalarsReadable_cons hs (by simp)

theorem scalarsReadable_bareToken {seen : List Char} {t : Token} (hs : ScalarsReadable toks)
    (h : bareToken seen = some t) : ScalarsReadable (t :: toks) := by
  obtain ⟨v, rfl, hv⟩ := readable_of_bareToken h
  refine scalarsReadable_cons hs ?_
  intro w hw
  cases hw
  exact hv

/-- One more character keeps the scalars readable. -/
theorem scalarsReadable_step (hs : ScalarsReadable s.tokens) (h : s.step c = some s') :
    ScalarsReadable s'.tokens := by
  obtain ⟨mode, toks⟩ := s
  cases mode with
  | between =>
      exact scalarsReadable_begin hs h
  | bare seen =>
      rw [step_bare] at h
      split_ifs at h
      · cases h
        exact hs
      · obtain ⟨t, ht, hbegin⟩ := Option.bind_eq_some_iff.mp h
        exact scalarsReadable_begin (scalarsReadable_bareToken hs ht) hbegin
  | text seen =>
      simp only [step] at h
      split_ifs at h
      · cases h
        exact scalarsReadable_cons hs (by simp)
      · cases h
        exact hs
      · cases h
        exact hs
  | escape seen =>
      simp only [step] at h
      split_ifs at h
      · cases h
        exact hs
      · obtain ⟨e, -, rfl⟩ := Option.map_eq_some_iff.mp h
        exact hs
  | unit seen high left value =>
      obtain ⟨d, -, hunit⟩ := Option.bind_eq_some_iff.mp h
      split_ifs at hunit
      · obtain ⟨m, -, rfl⟩ := Option.map_eq_some_iff.mp hunit
        exact hs
      · cases hunit
        exact hs
  | pairBackslash seen high =>
      simp only [step] at h
      split_ifs at h
      cases h
      exact hs
  | pairLetter seen high =>
      simp only [step] at h
      split_ifs at h
      cases h
      exact hs

theorem scalarsReadable_run {cs : List Char} (hs : ScalarsReadable s.tokens)
    (h : s.run cs = some s') : ScalarsReadable s'.tokens := by
  induction cs generalizing s with
  | nil =>
      cases h
      exact hs
  | cons c cs ih =>
      rw [run_cons] at h
      obtain ⟨t, hstep, hrun⟩ := Option.bind_eq_some_iff.mp h
      exact ih (scalarsReadable_step hs hstep) hrun

theorem scalarsReadable_finish (hs : ScalarsReadable s.tokens) (h : s.finish = some toks) :
    ScalarsReadable toks := by
  have hreverse : ∀ {us : List Token}, ScalarsReadable us → ScalarsReadable us.reverse :=
    fun hus v hv => hus v (List.mem_reverse.mp hv)
  obtain ⟨mode, seenToks⟩ := s
  cases mode with
  | between =>
      cases h
      exact hreverse hs
  | bare seen =>
      rw [finish_bare] at h
      obtain ⟨t, ht, rfl⟩ := Option.map_eq_some_iff.mp h
      exact hreverse (scalarsReadable_bareToken hs ht)
  | text _ | escape _ | unit _ _ _ _ | pairBackslash _ _ | pairLetter _ _ =>
      cases h

end Scanner

/-- Every scalar among the tokens of a text is readable at every level. -/
theorem scalarsReadable_tokens {cs : List Char} {ts : List Token} (h : tokens cs = some ts) :
    Scanner.ScalarsReadable ts := by
  obtain ⟨s, hrun, hfinish⟩ := Option.bind_eq_some_iff.mp h
  have hstart : Scanner.ScalarsReadable Scanner.start.tokens := by
    intro v hv
    cases hv
  exact Scanner.scalarsReadable_finish (Scanner.scalarsReadable_run hstart hrun) hfinish

/-- The members read so far have names of their own, and values that are readable one level
deeper. -/
def MembersReadable (level : Nat) (members : Object) : Prop :=
  members.names.Nodup ∧ ∀ m ∈ members, m.2.Readable (level + 1)

section Members

variable {name : String} {value : Json} {level : Nat}

theorem mem_of_mem_set {m : String × Json} :
    ∀ {o : Object}, m ∈ Object.set name value o → m = (name, value) ∨ m ∈ o
  | [], h => Or.inl (List.mem_singleton.mp h)
  | (n, v) :: rest, h => by
      rw [Object.set] at h
      split_ifs at h with hn
      · subst hn
        rcases List.mem_cons.mp h with heq | hmem
        · exact Or.inl heq
        · exact Or.inr (List.mem_cons_of_mem _ hmem)
      · rcases List.mem_cons.mp h with rfl | hmem
        · exact Or.inr List.mem_cons_self
        · exact (mem_of_mem_set hmem).imp_right (List.mem_cons_of_mem _)

theorem mem_names_of_mem_names_set {n : String} {o : Object}
    (h : n ∈ (Object.set name value o).names) : n = name ∨ n ∈ o.names := by
  obtain ⟨m, hm, rfl⟩ := List.mem_map.mp h
  rcases mem_of_mem_set hm with rfl | hmem
  · exact Or.inl rfl
  · exact Or.inr (List.mem_map_of_mem hmem)

theorem nodup_names_set : ∀ {o : Object}, o.names.Nodup → (Object.set name value o).names.Nodup
  | [], _ => List.nodup_singleton name
  | (n, v) :: rest, h => by
      obtain ⟨hn, hrest⟩ := List.nodup_cons.mp h
      rw [Object.set]
      split_ifs with heq
      · exact List.nodup_cons.mpr ⟨hn, hrest⟩
      · refine List.nodup_cons.mpr ⟨?_, nodup_names_set hrest⟩
        intro hmem
        rcases mem_names_of_mem_names_set hmem with hname | hold
        · exact heq hname
        · exact hn hold

theorem membersReadable_nil : MembersReadable level [] :=
  ⟨List.nodup_nil, by simp⟩

theorem MembersReadable.set {o : Object} (h : MembersReadable level o)
    (hv : value.Readable (level + 1)) : MembersReadable level (Object.set name value o) := by
  refine ⟨nodup_names_set h.1, fun m hm => ?_⟩
  rcases mem_of_mem_set hm with rfl | hmem
  · exact hv
  · exact h.2 m hmem

end Members

/-- What a waiting container holds is readable inside it, where it lies as deep as given. -/
def Frame.Readable (level : Nat) : Frame → Prop
  | .item items => ∀ v ∈ items, v.Readable (level + 1)
  | .member members _ => MembersReadable level members

/-- What has been read of the innermost container is readable inside it. -/
def Expected.Readable (level : Nat) : Expected → Prop
  | .value | .firstItem | .firstName => True
  | .afterItem items => ∀ v ∈ items, v.Readable (level + 1)
  | .name members | .colon members _ | .afterMember members => MembersReadable level members
  | .nothing v => v.Readable level

/-- Every waiting container lies at most `maxDepth` deep and is readable where it lies. -/
def StackReadable : List Frame → Prop
  | [] => True
  | frame :: frames => frames.length < maxDepth ∧ frame.Readable frames.length ∧
      StackReadable frames

namespace Assembly

/-- Everything assembled so far is readable where it stands. -/
def Readable (a : Assembly) : Prop :=
  StackReadable a.frames ∧ a.expected.Readable a.frames.length

variable {a b : Assembly} {frames pushed : List Frame} {frame : Frame} {v : Json} {t : Token}

theorem length_le_of_stackReadable (h : StackReadable frames) : frames.length ≤ maxDepth := by
  cases frames with
  | nil =>
      exact Nat.zero_le _
  | cons frame frames =>
      exact h.1

theorem readable_give (hframes : StackReadable frames) (hv : v.Readable frames.length) :
    (give v frames).Readable := by
  cases frames with
  | nil =>
      exact ⟨trivial, hv⟩
  | cons frame frames =>
      obtain ⟨-, hframe, hrest⟩ := hframes
      cases frame with
      | item items =>
          exact ⟨hrest, List.forall_mem_cons.mpr ⟨hv, hframe⟩⟩
      | member members name =>
          exact ⟨hrest, MembersReadable.set hframe hv⟩

theorem stackReadable_push (hframes : StackReadable frames)
    (hframe : frame.Readable frames.length) (h : push frame frames = some pushed) :
    StackReadable pushed := by
  rw [push] at h
  split_ifs at h with hroom
  cases h
  exact ⟨hroom, hframe, hframes⟩

theorem readable_beginValue (hframes : StackReadable frames)
    (ht : ∀ v, t = .scalar v → ∀ level ≤ maxDepth, v.Readable level)
    (h : beginValue frames t = some b) : b.Readable := by
  have hlen := length_le_of_stackReadable hframes
  cases t with
  | scalar v =>
      cases h
      exact readable_give hframes (ht v rfl _ hlen)
  | text s =>
      cases h
      exact readable_give hframes (readable_str_iff.mpr hlen)
  | openArray | openObject =>
      cases h
      exact ⟨hframes, trivial⟩
  | closeArray | closeObject | comma | colon =>
      cases h

/-- One more token keeps the assembly readable. -/
theorem readable_step (ha : a.Readable)
    (ht : ∀ v, t = .scalar v → ∀ level ≤ maxDepth, v.Readable level)
    (h : a.step t = some b) : b.Readable := by
  obtain ⟨frames, expected⟩ := a
  obtain ⟨hframes, hexpected⟩ := ha
  have hlen : frames.length ≤ maxDepth := length_le_of_stackReadable hframes
  cases expected with
  | value =>
      rw [step_value] at h
      exact readable_beginValue hframes ht h
  | firstItem =>
      by_cases hclose : t = .closeArray
      · subst hclose
        cases h
        exact readable_give hframes (readable_arr_iff.mpr ⟨hlen, by simp⟩)
      · rw [step_firstItem hclose] at h
        obtain ⟨pushed, hpush, hbegin⟩ := Option.bind_eq_some_iff.mp h
        have hitem : (Frame.item []).Readable frames.length := by simp [Frame.Readable]
        exact readable_beginValue (stackReadable_push hframes hitem hpush) ht hbegin
  | firstName =>
      cases t with
      | closeObject =>
          cases h
          exact readable_give hframes (readable_obj_iff.mpr ⟨hlen, membersReadable_nil⟩)
      | text name =>
          cases h
          exact ⟨hframes, membersReadable_nil⟩
      | openArray | closeArray | openObject | comma | colon | scalar _ =>
          cases h
  | afterItem items =>
      cases t with
      | closeArray =>
          cases h
          refine readable_give hframes (readable_arr_iff.mpr ⟨hlen, fun v hv => ?_⟩)
          exact hexpected v (List.mem_reverse.mp hv)
      | comma =>
          obtain ⟨pushed, hpush, rfl⟩ := Option.map_eq_some_iff.mp h
          have hframe : (Frame.item items).Readable frames.length := hexpected
          exact ⟨stackReadable_push hframes hframe hpush, trivial⟩
      | openArray | openObject | closeObject | colon | text _ | scalar _ =>
          cases h
  | name members =>
      cases t with
      | text name =>
          cases h
          exact ⟨hframes, hexpected⟩
      | openArray | closeArray | openObject | closeObject | comma | colon | scalar _ =>
          cases h
  | colon members name =>
      cases t with
      | colon =>
          obtain ⟨pushed, hpush, rfl⟩ := Option.map_eq_some_iff.mp h
          have hframe : (Frame.member members name).Readable frames.length := hexpected
          exact ⟨stackReadable_push hframes hframe hpush, trivial⟩
      | openArray | closeArray | openObject | closeObject | comma | text _ | scalar _ =>
          cases h
  | afterMember members =>
      cases t with
      | closeObject =>
          cases h
          exact readable_give hframes (readable_obj_iff.mpr ⟨hlen, hexpected⟩)
      | comma =>
          cases h
          exact ⟨hframes, hexpected⟩
      | openArray | closeArray | openObject | colon | text _ | scalar _ =>
          cases h
  | nothing v =>
      cases t <;> cases h

theorem readable_run {ts : List Token} (ha : a.Readable) (hts : Scanner.ScalarsReadable ts)
    (h : a.run ts = some b) : b.Readable := by
  induction ts generalizing a with
  | nil =>
      cases h
      exact ha
  | cons t ts ih =>
      rw [run_cons] at h
      obtain ⟨c, hstep, hrun⟩ := Option.bind_eq_some_iff.mp h
      have hc : c.Readable := by
        refine readable_step ha (fun v hv => hts v ?_) hstep
        rw [hv]
        exact List.mem_cons_self
      exact ih hc (fun v hv => hts v (List.mem_cons_of_mem _ hv)) hrun

theorem readable_finish (ha : a.Readable) (h : a.finish = some v) : v.Readable 0 := by
  obtain ⟨frames, expected⟩ := a
  obtain ⟨-, hexpected⟩ := ha
  cases expected with
  | nothing w =>
      cases h
      exact hexpected.mono (Nat.zero_le _)
  | value | firstItem | firstName | afterItem _ | name _ | colon _ _ | afterMember _ =>
      cases h

end Assembly

section Reading

variable {s : String} {v w : Json}

/-- Every value that is read from a text is readable. -/
theorem readable_of_parse (h : parse s = some v) : v.Readable 0 := by
  obtain ⟨ts, htokens, hread⟩ := Option.bind_eq_some_iff.mp h
  obtain ⟨a, hrun, hfinish⟩ := Option.bind_eq_some_iff.mp hread
  have hstart : Assembly.start.Readable := ⟨trivial, trivial⟩
  exact Assembly.readable_finish
    (Assembly.readable_run hstart (scalarsReadable_tokens htokens) hrun) hfinish

/-- Every value that is read from bytes is readable. -/
theorem readable_of_parseBytes {bytes : ByteArray} (h : parseBytes bytes = some v) :
    v.Readable 0 := by
  obtain ⟨s, -, hparse⟩ := Option.bind_eq_some_iff.mp h
  exact readable_of_parse hparse

/-- A readable value is read back from its own text. -/
theorem parse_render_of_readable (h : v.Readable 0) : parse v.render = some v := by
  have hdepth : v.depth ≤ maxDepth := by
    have := h.depth
    omega
  rw [parse_render h.distinct, if_pos ⟨h.integersFit, hdepth⟩]

/-- From the text of a value, nothing is read but that value, if it is readable. -/
theorem parse_render_eq_some_iff (h : v.Distinct) :
    parse v.render = some w ↔ v = w ∧ v.Readable 0 := by
  constructor
  · intro hparse
    rw [parse_render h] at hparse
    split_ifs at hparse with hfit
    refine ⟨Option.some.inj hparse, h, hfit.1, ?_⟩
    omega
  · rintro ⟨rfl, hreadable⟩
    exact parse_render_of_readable hreadable

end Reading

end Json
end JobWire
