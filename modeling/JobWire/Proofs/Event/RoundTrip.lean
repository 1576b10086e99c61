import JobWire.Proofs.Event.Reading
import JobWire.Proofs.Json.Reading

/-!
# Events written and read back

The further properties of a log event are kept as JSON text.  They are read when the event is
written, and written when it is read, so the texts come back as their values are written: an event
is read back exactly when its texts are *canonical*, that is, already written in this way.

An event that was read has canonical texts, and so has one that was built from an object of values.
An event that is built from texts need not have them; it is read back with its texts rewritten.

**Results.**
* `Event.result_ofJson_toJson`, `Event.result_ofJson_toJson_iff`: what is read back of a valid
  event, and that it is the same event if and only if that is canonical.
* `Event.canonical_of_ofJson`, `Event.readable_toJson`: an event that was read is canonical, and
  is written as a value that can be read wherever the one that it was read from can.
* `LogDraft.canonical_of_data`, `Event.Constructed.readBack`: an event that is built from an object
  of values is canonical, and so is read back.
-/

namespace JobWire

namespace Event

/-- The text is written as its value is. -/
def CanonicalText (text : String) : Prop :=
  (Json.parse text).map Json.render = some text

instance (text : String) : Decidable (CanonicalText text) :=
  inferInstanceAs (Decidable (_ = _))

/-- The further properties of an event are kept in canonical texts. -/
def Canonical : Event → Prop
  | .log _ _ extras => ∀ x ∈ extras, CanonicalText x.2
  | _ => True

instance : (e : Event) → Decidable e.Canonical
  | .log _ _ extras => inferInstanceAs (Decidable (∀ x ∈ extras, CanonicalText x.2))
  | .put _ _ | .popped _ _ | .done _ | .failed _ _ _ | .failedRetries _ _ | .throttled _ _
  | .timedOut _ => isTrue trivial

section Texts

variable {extras : List (String × String)} {members : Object} {level : Nat}

theorem canonicalText_render {v : Json} (h : v.Readable level) : CanonicalText v.render := by
  rw [CanonicalText, Json.parse_render_of_readable (h.mono (Nat.zero_le level)), Option.map_some]

/-- The texts of the further properties are written again exactly if they are canonical. -/
theorem texts_extraMembers_eq_iff (h : ∀ x ∈ extras, (Json.parse x.2).isSome) :
    LogDraft.texts (extraMembers extras) = extras ↔ ∀ x ∈ extras, CanonicalText x.2 := by
  induction extras with
  | nil =>
      simp [extraMembers, LogDraft.texts]
  | cons x rest ih =>
      obtain ⟨hx, hrest⟩ := List.forall_mem_cons.mp h
      obtain ⟨v, hv⟩ := Option.isSome_iff_exists.mp hx
      have hcons : extraMembers (x :: rest) = (x.1, v) :: extraMembers rest := by
        simp [extraMembers, hv]
      have hcanonical : CanonicalText x.2 ↔ v.render = x.2 := by
        simp [CanonicalText, hv]
      have htexts : LogDraft.texts ((x.1, v) :: extraMembers rest) =
          (x.1, v.render) :: LogDraft.texts (extraMembers rest) := rfl
      rw [hcons, htexts, List.cons.injEq, ih hrest, List.forall_mem_cons, hcanonical,
        Prod.ext_iff]
      simp

theorem names_extraMembers (h : ∀ x ∈ extras, (Json.parse x.2).isSome) :
    (extraMembers extras).names = extras.map Prod.fst := by
  induction extras with
  | nil =>
      rfl
  | cons x rest ih =>
      obtain ⟨hx, hrest⟩ := List.forall_mem_cons.mp h
      obtain ⟨v, hv⟩ := Option.isSome_iff_exists.mp hx
      have hcons : extraMembers (x :: rest) = (x.1, v) :: extraMembers rest := by
        simp [extraMembers, hv]
      rw [hcons, List.map_cons, ← ih hrest]
      rfl

/-- The texts of readable values are read as these values. -/
theorem extraMembers_texts (h : ∀ m ∈ members, m.2.Readable level) :
    extraMembers (LogDraft.texts members) = members := by
  induction members with
  | nil =>
      rfl
  | cons m rest ih =>
      obtain ⟨hm, hrest⟩ := List.forall_mem_cons.mp h
      have hparse := Json.parse_render_of_readable (hm.mono (Nat.zero_le level))
      have hcons : LogDraft.texts (m :: rest) = (m.1, m.2.render) :: LogDraft.texts rest := rfl
      rw [hcons, extraMembers, List.filterMap_cons, hparse]
      exact congrArg (m :: ·) (ih hrest)

/-- The further properties that are read of texts are readable values. -/
theorem readable_of_mem_extraMembers : ∀ m ∈ extraMembers extras, m.2.Readable 0 := by
  intro m hm
  obtain ⟨x, -, hvalue⟩ := List.mem_filterMap.mp hm
  obtain ⟨v, hparse, rfl⟩ := Option.map_eq_some_iff.mp hvalue
  exact Json.readable_of_parse hparse

theorem keptMembers_append {h : EventHeader} (hextras : ValidExtras extras) :
    keptMembers (h.members ++ extraMembers extras) = extraMembers extras := by
  obtain ⟨hnames, -, hparse⟩ := hextras
  have hheader : keptMembers h.members = [] := rfl
  rw [keptMembers, List.filter_append, ← keptMembers, hheader, List.nil_append,
    List.filter_eq_self]
  intro m hm
  have hname : m.1 ∈ extras.map Prod.fst := by
    rw [← names_extraMembers hparse]
    exact List.mem_map_of_mem hm
  have hfree : m.1 ∉ reservedNames := fun hreserved => hnames _ hreserved hname
  simpa using hfree

end Texts

section WrittenAndRead

/-- The event with every text of its further properties written as its value is. -/
def rewritten : Event → Event
  | .log what time extras => .log what time (LogDraft.texts (extraMembers extras))
  | e => e

variable {e : Event}

theorem rewritten_eq_iff (h : e.Valid) : e.rewritten = e ↔ e.Canonical := by
  cases e with
  | log what time extras =>
      rw [rewritten, Canonical, ← texts_extraMembers_eq_iff h.2.2.2.2]
      simp
  | put _ _ | popped _ _ | done _ | failed _ _ _ | failedRetries _ _ | throttled _ _
  | timedOut _ =>
      exact iff_of_true rfl trivial

theorem valid_rewritten (h : e.Valid) : e.rewritten.Valid := by
  cases e with
  | log what time extras =>
      obtain ⟨hwhat, htime, hnames, hnodup, hparse⟩ := h
      have hsame : (LogDraft.texts (extraMembers extras)).map Prod.fst = extras.map Prod.fst := by
        rw [← names_extraMembers hparse, LogDraft.texts, List.map_map]
        rfl
      refine ⟨hwhat, htime, hsame.symm ▸ hnames, hsame.symm ▸ hnodup, ?_⟩
      rintro _ hx
      obtain ⟨m, hm, rfl⟩ := List.mem_map.mp hx
      rw [Json.parse_render_of_readable (readable_of_mem_extraMembers m hm), Option.isSome_some]
  | put _ _ | popped _ _ | done _ | failed _ _ _ | failedRetries _ _ | throttled _ _
  | timedOut _ =>
      exact h

/-- What is read from the properties of a valid event is the event with its texts rewritten. -/
theorem readFrom_members (h : e.Valid) :
    e.rewritten.ReadFrom (e.header.members ++ e.ownMembers) := by
  cases e with
  | log what time extras =>
      refine ⟨rfl, rfl, ?_⟩
      rw [rewritten, OwnReadFrom, ownMembers, keptMembers_append h.2.2]
  | put _ _ | popped _ _ | failedRetries _ _ | throttled _ _ =>
      exact ⟨rfl, rfl, rfl⟩
  | done _ | timedOut _ =>
      exact ⟨rfl, rfl, trivial⟩
  | failed _ _ _ =>
      exact ⟨rfl, rfl, rfl, rfl⟩

/-- A valid event is always read from its own value, with its texts rewritten. -/
theorem result_ofJson_toJson (h : e.Valid) : (ofJson e.toJson).result = .ok e.rewritten :=
  result_ofJson_eq_ok_iff.mpr ⟨_, rfl, readFrom_members h, valid_rewritten h⟩

/-- A valid event is read back from its own value if and only if it is canonical. -/
theorem result_ofJson_toJson_iff (h : e.Valid) :
    (ofJson e.toJson).result = .ok e ↔ e.Canonical := by
  rw [result_ofJson_toJson h, Except.ok.injEq, rewritten_eq_iff h]

end WrittenAndRead

section Decoded

variable {e : Event} {v : Json} {level : Nat}

theorem valid_of_ofJson (h : (ofJson v).result = .ok e) : e.Valid := by
  obtain ⟨_, -, -, hvalid⟩ := result_ofJson_eq_ok_iff.mp h
  exact hvalid

theorem readable_of_mem_keptMembers {o : Object} (ho : (Json.obj o).Readable level) :
    ∀ m ∈ keptMembers o, m.2.Readable (level + 1) :=
  fun m hm => (Json.readable_obj_iff.mp ho).2.2 m (List.mem_of_mem_filter hm)

/-- An event that was read from a readable value is canonical. -/
theorem canonical_of_ofJson (hv : v.Readable level) (h : (ofJson v).result = .ok e) :
    e.Canonical := by
  obtain ⟨o, rfl, hread, -⟩ := result_ofJson_eq_ok_iff.mp h
  cases e with
  | log what time extras =>
      obtain rfl : extras = LogDraft.texts (keptMembers o) := hread.own
      intro x hx
      obtain ⟨m, hm, rfl⟩ := List.mem_map.mp hx
      exact canonicalText_render (readable_of_mem_keptMembers hv m hm)
  | put _ _ | popped _ _ | done _ | failed _ _ _ | failedRetries _ _ | throttled _ _
  | timedOut _ =>
      exact trivial

/-- An event that was read from a readable value is read back. -/
theorem readBack_of_ofJson (hv : v.Readable level) (h : (ofJson v).result = .ok e) :
    (ofJson e.toJson).result = .ok e :=
  (result_ofJson_toJson_iff (valid_of_ofJson h)).mpr (canonical_of_ofJson hv h)

theorem readable_of_mem_ownMembers {o : Object} (ho : (Json.obj o).Readable level)
    (h : e.ReadFrom o) : ∀ m ∈ e.ownMembers, m.2.Readable (level + 1) := by
  have hown := h.own
  cases e with
  | put _ _ | popped _ _ | failedRetries _ _ | throttled _ _ =>
      exact List.forall_mem_singleton.mpr (Object.readable_of_get? ho hown)
  | done _ | timedOut _ =>
      simp [ownMembers]
  | failed _ _ _ =>
      exact List.forall_mem_cons.mpr ⟨Object.readable_of_get? ho hown.1,
        List.forall_mem_singleton.mpr (Object.readable_of_get? ho hown.2)⟩
  | log _ _ extras =>
      obtain rfl : extras = LogDraft.texts (keptMembers o) := hown
      have hkept := readable_of_mem_keptMembers ho
      rw [ownMembers, extraMembers_texts hkept]
      exact hkept

theorem nodup_names_members (h : e.Valid) : (e.header.members ++ e.ownMembers).names.Nodup := by
  cases e with
  | put _ _ | popped _ _ | done _ | failed _ _ _ | failedRetries _ _ | throttled _ _
  | timedOut _ =>
      simp [Object.names, EventHeader.members, ownMembers]
  | log what time extras =>
      obtain ⟨-, -, hnames, hnodup, hparse⟩ := h
      have hown : (log what time extras).ownMembers.map Prod.fst = extras.map Prod.fst :=
        names_extraMembers hparse
      have hheader : (log what time extras).header.members.map Prod.fst = reservedNames := rfl
      rw [Object.names, List.map_append, hown, hheader]
      refine List.nodup_append.mpr ⟨by decide, hnodup, ?_⟩
      rintro n hn _ hextra rfl
      exact hnames n hn hextra

/-- An event that was read is written as a value that is readable where its own was. -/
theorem readable_toJson (hv : v.Readable level) (h : (ofJson v).result = .ok e) :
    e.toJson.Readable level := by
  obtain ⟨o, rfl, hread, hvalid⟩ := result_ofJson_eq_ok_iff.mp h
  refine Json.readable_obj_iff.mpr ⟨hv.level_le, nodup_names_members hvalid, ?_⟩
  refine List.forall_mem_append.mpr ⟨?_, readable_of_mem_ownMembers hv hread⟩
  exact List.forall_mem_cons.mpr ⟨Object.readable_of_get? hv hread.what,
    List.forall_mem_singleton.mpr (Object.readable_of_get? hv hread.time)⟩

end Decoded

end Event

/-- An event that is built from an object of values is canonical. -/
theorem LogDraft.canonical_of_data {d : LogDraft} {e : Event} {members : Object}
    (hdata : d.data = some (.obj members)) (hdistinct : (Json.obj members).Distinct)
    (h : d.build = .ok e) : e.Canonical := by
  obtain ⟨what, time, extras, -, -, hgiven, rfl, -, -, hextras⟩ := build_eq_ok_iff.mp h
  have htexts : extras = texts members := by
    rw [givenExtras, hdata] at hgiven
    exact (Except.ok.inj hgiven).symm
  subst htexts
  intro x hx
  obtain ⟨m, hm, rfl⟩ := List.mem_map.mp hx
  -- The validator reads every text, so a value that is too deep to be read is not in the object.
  obtain ⟨v, hparse⟩ := Option.isSome_iff_exists.mp (hextras.2.2 _ hx)
  have hvalue := (Json.distinct_obj_iff.mp hdistinct).2 m hm
  obtain ⟨-, hreadable⟩ := (Json.parse_render_eq_some_iff hvalue).mp hparse
  exact Event.canonicalText_render hreadable

theorem Event.canonical_of_kind? {e : Event} {kind : EventKind} (h : e.kind? = some kind) :
    e.Canonical := by
  cases e with
  | log _ _ _ =>
      cases h
  | put _ _ | popped _ _ | done _ | failed _ _ _ | failedRetries _ _ | throttled _ _
  | timedOut _ =>
      exact trivial

/-- An event that is of a known kind, or built from an object of values, is read back. -/
theorem Event.Constructed.readBack {e : Event} (h : e.Constructed) :
    (Event.ofJson e.toJson).result = .ok e := by
  refine (result_ofJson_toJson_iff h.valid).mpr ?_
  cases h with
  | known hbuild =>
      exact canonical_of_kind? (EventDraft.build_eq_ok_iff.mp hbuild).1
  | log hdata hdistinct hbuild =>
      exact LogDraft.canonical_of_data hdata hdistinct hbuild

section ReadBack

/-- A log event that is accepted is read back if and only if the texts of its further properties
are written as their values are. -/
theorem LogDraft.read_back_iff_rendered {d : LogDraft} {what : String} {time : Int}
    {extras : List (String × String)} (h : d.build = .ok (.log what time extras)) :
    (Event.ofJson (Event.log what time extras).toJson).result = .ok (.log what time extras) ↔
      ∀ x ∈ extras, (Json.parse x.2).map Json.render = some x.2 := by
  obtain ⟨_, _, _, -, -, -, -, hvalid⟩ := build_eq_ok_iff.mp h
  exact Event.result_ofJson_toJson_iff hvalid

theorem LogDraft.read_back_nested_nan :
    LogDraft.build { what := "custom", time := some 1, extras := [("a", "[1,NaN]")] } =
        .ok (.log "custom" 1 [("a", "[1,NaN]")]) ∧
      (Event.ofJson (Event.log "custom" 1 [("a", "[1,NaN]")]).toJson).result =
        .ok (.log "custom" 1 [("a", "[1,NaN]")]) := by
  have hbuild : LogDraft.build
      { what := "custom", time := some 1, extras := [("a", "[1,NaN]")] } =
        .ok (.log "custom" 1 [("a", "[1,NaN]")]) := by decide
  exact ⟨hbuild, (LogDraft.read_back_iff_rendered hbuild).mpr (by decide)⟩

/-- A text with a space before its value is accepted, and comes back without it. -/
theorem LogDraft.space_before_value_is_lost :
    LogDraft.build { what := "custom", time := some 1, extras := [("a", " 1")] } =
        .ok (.log "custom" 1 [("a", " 1")]) ∧
      (Event.ofJson (Event.log "custom" 1 [("a", " 1")]).toJson).result =
        .ok (.log "custom" 1 [("a", "1")]) ∧
      Event.log "custom" 1 [("a", "1")] ≠ Event.log "custom" 1 [("a", " 1")] := by
  decide

end ReadBack

end JobWire
