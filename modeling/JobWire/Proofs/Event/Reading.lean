import JobWire.Event.Wire
import JobWire.Proofs.Construction
import JobWire.Proofs.Property

/-!
# The objects that an event is read from

An event is read from an object exactly when the object has the event's kind, its time and the
properties of its own, and the event is valid.  What else the object has does not matter, except
that a log event takes every other property along.

**Results.**
* `Event.result_ofJson_eq_ok_iff`: when an event is read, and from which values.
-/

namespace JobWire

namespace Object

variable {o : Object} {s : String}

theorem what_eq_ok_iff : o.what = .ok s ↔ o.get? "what" = some (.str s) := by
  rw [what, bind_eq_ok_iff]
  simp only [require_eq_ok_iff]
  constructor
  · rintro ⟨v, hget, hread⟩
    split at hread
    · cases hread
    · rw [hget, asString_eq_ok_iff.mp hread]
  · intro hget
    exact ⟨.str s, hget, rfl⟩

end Object

theorem EventKind.ofName?_eq_some_iff {s : String} {kind : EventKind} :
    ofName? s = some kind ↔ kind.name = s := by
  constructor
  · intro h
    have hname := List.find?_some h
    exact beq_iff_eq.mp hname
  · rintro rfl
    exact ofName?_name kind

namespace Event

/-- The object has the properties of its own that an event is read from. -/
def OwnReadFrom (o : Object) : Event → Prop
  | .put _ queue | .throttled _ queue => o.get? "queue" = some (.str queue)
  | .popped _ worker => o.get? "worker" = some (.str worker)
  | .failed _ group worker =>
      o.get? "group" = some (.str group) ∧ o.get? "worker" = some (.str worker)
  | .failedRetries _ group => o.get? "group" = some (.str group)
  | .done _ | .timedOut _ => True
  | .log _ _ extras => extras = LogDraft.texts (keptMembers o)

/-- The object has the properties that an event is read from. -/
structure ReadFrom (o : Object) (e : Event) : Prop where
  what : o.get? "what" = some (.str e.what)
  time : o.get? "when" = some (.int e.time)
  own : e.OwnReadFrom o

variable {o : Object} {e : Event} {kind : EventKind}

/-- The object has the shape of an event's kind if the event is read from it. -/
theorem ReadFrom.fits (h : e.ReadFrom o) (hkind : e.kind? = some kind) : kind.shape.Fits o := by
  have hwhat : ∃ v, o.get? "what" = some v ∧ (v = .null → "what" ∈ kind.shape.nullable) :=
    ⟨_, h.what, by simp⟩
  have hwhen : ∃ v, o.get? "when" = some v ∧ (v = .null → "when" ∈ kind.shape.nullable) :=
    ⟨_, h.time, by simp⟩
  have hown := h.own
  cases e with
  | put _ _ | popped _ _ | failedRetries _ _ | throttled _ _ =>
      cases hkind
      refine List.forall_mem_cons.mpr ⟨hwhat, List.forall_mem_cons.mpr ⟨hwhen, ?_⟩⟩
      exact List.forall_mem_singleton.mpr ⟨_, hown, by simp⟩
  | done _ | timedOut _ =>
      cases hkind
      exact List.forall_mem_cons.mpr ⟨hwhat, List.forall_mem_singleton.mpr hwhen⟩
  | failed _ _ _ =>
      cases hkind
      refine List.forall_mem_cons.mpr ⟨hwhat, List.forall_mem_cons.mpr ⟨hwhen, ?_⟩⟩
      exact List.forall_mem_cons.mpr
        ⟨⟨_, hown.1, by simp⟩, List.forall_mem_singleton.mpr ⟨_, hown.2, by simp⟩⟩
  | log _ _ _ =>
      cases hkind

/-- An event of a known kind is built from the fields that are read from an object. -/
theorem exists_draft_build_iff :
    (∃ d, kind.draft o = .ok d ∧ d.build kind = .ok e) ↔
      e.kind? = some kind ∧ o.get? "when" = some (.int e.time) ∧ e.OwnReadFrom o ∧ e.Valid := by
  constructor
  · rintro ⟨d, hdraft, hbuild⟩
    obtain ⟨hkind, -, htime, hfields, hvalid⟩ := EventDraft.build_eq_ok_iff.mp hbuild
    cases e with
    | put _ _ | popped _ _ | failedRetries _ _ | throttled _ _ =>
        cases hkind
        simp only [EventKind.draft, bind_eq_ok_iff, pure_eq_ok_iff, Object.int_eq_ok_iff,
          Object.string_eq_ok_iff] at hdraft
        obtain ⟨_, hwhen, _, hown, rfl⟩ := hdraft
        cases htime
        cases hfields
        exact ⟨rfl, hwhen, hown, hvalid⟩
    | done _ | timedOut _ =>
        cases hkind
        simp only [EventKind.draft, bind_eq_ok_iff, pure_eq_ok_iff,
          Object.int_eq_ok_iff] at hdraft
        obtain ⟨_, hwhen, rfl⟩ := hdraft
        cases htime
        exact ⟨rfl, hwhen, trivial, hvalid⟩
    | failed _ _ _ =>
        cases hkind
        simp only [EventKind.draft, bind_eq_ok_iff, pure_eq_ok_iff, Object.int_eq_ok_iff,
          Object.string_eq_ok_iff] at hdraft
        obtain ⟨_, hwhen, _, hgroup, _, hworker, rfl⟩ := hdraft
        obtain ⟨⟨⟩, ⟨⟩⟩ := hfields
        cases htime
        exact ⟨rfl, hwhen, ⟨hgroup, hworker⟩, hvalid⟩
    | log _ _ _ =>
        cases hkind
  · rintro ⟨hkind, hwhen, hown, hvalid⟩
    simp only [EventDraft.build_eq_ok_iff]
    cases e with
    | put _ _ | popped _ _ | failedRetries _ _ | throttled _ _ =>
        cases hkind
        simp only [EventKind.draft, bind_eq_ok_iff, pure_eq_ok_iff, Object.int_eq_ok_iff,
          Object.string_eq_ok_iff]
        exact ⟨_, ⟨_, hwhen, _, hown, rfl⟩, rfl, rfl, rfl, rfl, hvalid⟩
    | done _ | timedOut _ =>
        cases hkind
        simp only [EventKind.draft, bind_eq_ok_iff, pure_eq_ok_iff, Object.int_eq_ok_iff]
        exact ⟨_, ⟨_, hwhen, rfl⟩, rfl, rfl, rfl, trivial, hvalid⟩
    | failed _ _ _ =>
        cases hkind
        simp only [EventKind.draft, bind_eq_ok_iff, pure_eq_ok_iff, Object.int_eq_ok_iff,
          Object.string_eq_ok_iff]
        exact ⟨_, ⟨_, hwhen, _, hown.1, _, hown.2, rfl⟩, rfl, rfl, rfl, ⟨rfl, rfl⟩, hvalid⟩
    | log _ _ _ =>
        cases hkind

/-- An event of a known kind is decoded from the objects that it is read from. -/
theorem result_decode_eq_ok_iff (hwhat : o.get? "what" = some (.str kind.name)) :
    (kind.decode o).result = .ok e ↔ e.kind? = some kind ∧ e.ReadFrom o ∧ e.Valid := by
  simp only [EventKind.decode, Traced.result_bind_eq_ok_iff, Traced.result_lift,
    Traced.result_liftBuilt_eq_ok_iff, Shape.result_read_eq_ok_iff, Json.obj.injEq]
  constructor
  · rintro ⟨_, ⟨rfl, -⟩, hbuilt⟩
    obtain ⟨hkind, hwhen, hown, hvalid⟩ := exists_draft_build_iff.mp hbuilt
    refine ⟨hkind, ⟨?_, hwhen, hown⟩, hvalid⟩
    rw [hwhat, what_eq_of_kind? hkind]
  · rintro ⟨hkind, hread, hvalid⟩
    exact ⟨o, ⟨rfl, hread.fits hkind⟩,
      exists_draft_build_iff.mpr ⟨hkind, hread.time, hread.own, hvalid⟩⟩

/-- A log event is decoded from the objects that it is read from. -/
theorem result_decodeLog_eq_ok_iff {what : String} (hwhat : o.get? "what" = some (.str what)) :
    (decodeLog what o).result = .ok e ↔ e.kind? = none ∧ e.ReadFrom o ∧ e.Valid := by
  simp only [decodeLog, Traced.result_bind_eq_ok_iff, Traced.result_lift,
    Object.require_eq_ok_iff]
  constructor
  · rintro ⟨stamp, -, hrun⟩
    split_ifs at hrun with hnull
    · obtain ⟨_, hfail, -⟩ := Traced.result_bind_eq_ok_iff.mp hrun
      exact absurd hfail Traced.result_fail_ne_ok
    · obtain ⟨time, htime, hbuild⟩ := Traced.result_bind_eq_ok_iff.mp hrun
      rw [Traced.result_liftBuilt_eq_ok_iff, LogDraft.build_eq_ok_iff] at hbuild
      obtain ⟨_, _, _, ⟨⟩, ⟨⟩, ⟨⟩, rfl, hvalid⟩ := hbuild
      exact ⟨rfl, ⟨hwhat, Object.int_eq_ok_iff.mp htime, rfl⟩, hvalid⟩
  · rintro ⟨hkind, hread, hvalid⟩
    cases e with
    | log w time extras =>
        obtain rfl : what = w := by
          have hsame := hwhat.symm.trans hread.what
          simpa [Event.what] using hsame
        have hextras : extras = LogDraft.texts (keptMembers o) := hread.own
        refine ⟨_, hread.time, ?_⟩
        rw [if_neg (by simp), Traced.result_bind_eq_ok_iff]
        refine ⟨time, Object.int_eq_ok_iff.mpr hread.time, ?_⟩
        rw [Traced.result_liftBuilt_eq_ok_iff, LogDraft.build_eq_ok_iff]
        exact ⟨what, time, extras, rfl, rfl, congrArg Except.ok hextras.symm, rfl, hvalid⟩
    | put _ _ | popped _ _ | done _ | failed _ _ _ | failedRetries _ _ | throttled _ _
    | timedOut _ =>
        cases hkind

/-- The known kind of a valid event is the one that its name has. -/
theorem ofName?_what (h : e.Valid) : EventKind.ofName? e.what = e.kind? := by
  cases hkind : e.kind? with
  | some kind =>
      rw [what_eq_of_kind? hkind, EventKind.ofName?_name]
  | none =>
      cases e with
      | log _ _ _ =>
          exact h.1.2
      | put _ _ | popped _ _ | done _ | failed _ _ _ | failedRetries _ _ | throttled _ _
      | timedOut _ =>
          cases hkind

/-- An event is read from the objects that have its properties, if it is valid. -/
theorem result_ofJson_eq_ok_iff {v : Json} :
    (ofJson v).result = .ok e ↔ ∃ o, v = .obj o ∧ e.ReadFrom o ∧ e.Valid := by
  simp only [ofJson, Traced.result_bind_eq_ok_iff, Traced.result_lift, Json.asObject_eq_ok_iff,
    Object.what_eq_ok_iff]
  constructor
  · rintro ⟨o, rfl, what, hwhat, hrun⟩
    cases hkind : EventKind.ofName? what with
    | some kind =>
        rw [hkind] at hrun
        obtain rfl := EventKind.ofName?_eq_some_iff.mp hkind
        obtain ⟨-, hread, hvalid⟩ := (result_decode_eq_ok_iff hwhat).mp hrun
        exact ⟨o, rfl, hread, hvalid⟩
    | none =>
        rw [hkind] at hrun
        obtain ⟨-, hread, hvalid⟩ := (result_decodeLog_eq_ok_iff hwhat).mp hrun
        exact ⟨o, rfl, hread, hvalid⟩
  · rintro ⟨o, rfl, hread, hvalid⟩
    refine ⟨o, rfl, e.what, hread.what, ?_⟩
    rw [ofName?_what hvalid]
    cases hkind : e.kind? with
    | some kind =>
        have hwhat := hread.what
        rw [what_eq_of_kind? hkind] at hwhat
        exact (result_decode_eq_ok_iff hwhat).mpr ⟨hkind, hread, hvalid⟩
    | none =>
        exact (result_decodeLog_eq_ok_iff hread.what).mpr ⟨hkind, hread, hvalid⟩

end Event

end JobWire
