import JobWire.Proofs.Event.Reading
import JobWire.Proofs.Grammar

/-!
# The grammars of events

Each known kind of event has a grammar: the time is read first and then the properties of the kind's
own, and the only rule is that the time is not negative.  A log event declares nothing and has rules
on its kind and on its further properties as well.

**Results.**
* `EventKind.governs`: the decoder of a known kind is governed by the kind's grammar.
* `Event.location_of_ofJson`: where a refusal of an event is reported.
-/

namespace JobWire

namespace Slot

variable {slot : Slot} {i : Invalid}

/-- The refusal is that of a field. -/
def Refuses (slot : Slot) (i : Invalid) : Prop :=
  i.record = slot.record ∧ i.location = slot.location

theorem refuses_of_ensure {α : Type} {condition : Prop} [Decidable condition] {v : Violation}
    {a : α} (h : slot.ensure condition v a = .error i) : slot.Refuses i := by
  unfold ensure refuse at h
  split_ifs at h
  cases h
  exact ⟨rfl, rfl⟩

theorem refuses_of_given {α : Type} {field : Option α} (h : slot.given field = .error i) :
    slot.Refuses i := by
  cases field with
  | none =>
      cases h
      exact ⟨rfl, rfl⟩
  | some a =>
      cases h

theorem refuses_of_nonNegative {field : Option Int} (h : slot.nonNegative field = .error i) :
    slot.Refuses i := by
  rcases bind_eq_error_iff.mp h with hgiven | ⟨_, -, hbound⟩
  · exact refuses_of_given hgiven
  · exact refuses_of_ensure hbound

theorem refuses_of_text {field : Option String} (h : slot.text field = .error i) :
    slot.Refuses i := by
  rcases bind_eq_error_iff.mp h with hgiven | ⟨_, -, hblank⟩
  · exact refuses_of_given hgiven
  · exact refuses_of_ensure hblank

end Slot

namespace EventKind

/-- The readers of a known kind of event. -/
def readers : EventKind → List Reader
  | put | throttled =>
      [.kind "when" .integer, .kind "queue" .string]
  | popped =>
      [.kind "when" .integer, .kind "worker" .string]
  | done | timedOut =>
      [.kind "when" .integer]
  | failed =>
      [.kind "when" .integer, .kind "group" .string, .kind "worker" .string]
  | failedRetries =>
      [.kind "when" .integer, .kind "group" .string]

/-- What an event of a known kind is decoded from. -/
def grammar (kind : EventKind) : Grammar Event where
  record := kind.record
  shape := kind.shape
  readers := kind.readers
  rules := [.nonNegative "when" Event.time]
  ReadFrom o e := e.kind? = some kind ∧ o.get? "when" = some (.int e.time) ∧ e.OwnReadFrom o

variable {kind : EventKind} {o : Object} {e : Event}

theorem errorOf?_draft (h : kind.shape.Fits o) :
    errorOf? (kind.draft o) = kind.readers.findSome? fun r => r.fault? o := by
  simp only [readers, ← Reader.of_asInt, ← Reader.of_asString]
  cases kind with
  | put | throttled =>
      exact Reader.errorOf?_read_bind (h.exists_value (by simp [shape])) fun _ =>
        Reader.errorOf?_read_bind (h.exists_value (by simp [shape])) fun _ => rfl
  | popped =>
      exact Reader.errorOf?_read_bind (h.exists_value (by simp [shape])) fun _ =>
        Reader.errorOf?_read_bind (h.exists_value (by simp [shape])) fun _ => rfl
  | done | timedOut =>
      exact Reader.errorOf?_read_bind (h.exists_value (by simp [shape])) fun _ => rfl
  | failed =>
      exact Reader.errorOf?_read_bind (h.exists_value (by simp [shape])) fun _ =>
        Reader.errorOf?_read_bind (h.exists_value (by simp [shape])) fun _ =>
          Reader.errorOf?_read_bind (h.exists_value (by simp [shape])) fun _ => rfl
  | failedRetries =>
      exact Reader.errorOf?_read_bind (h.exists_value (by simp [shape])) fun _ =>
        Reader.errorOf?_read_bind (h.exists_value (by simp [shape])) fun _ => rfl

theorem exists_readFrom {d : EventDraft} (h : kind.draft o = .ok d) :
    ∃ e, kind.grammar.ReadFrom o e := by
  cases kind with
  | put =>
      simp only [draft, bind_eq_ok_iff, Object.int_eq_ok_iff, Object.string_eq_ok_iff] at h
      obtain ⟨time, htime, queue, hqueue, -⟩ := h
      exact ⟨.put time queue, rfl, htime, hqueue⟩
  | popped =>
      simp only [draft, bind_eq_ok_iff, Object.int_eq_ok_iff, Object.string_eq_ok_iff] at h
      obtain ⟨time, htime, worker, hworker, -⟩ := h
      exact ⟨.popped time worker, rfl, htime, hworker⟩
  | done =>
      simp only [draft, bind_eq_ok_iff, Object.int_eq_ok_iff] at h
      obtain ⟨time, htime, -⟩ := h
      exact ⟨.done time, rfl, htime, trivial⟩
  | failed =>
      simp only [draft, bind_eq_ok_iff, Object.int_eq_ok_iff, Object.string_eq_ok_iff] at h
      obtain ⟨time, htime, group, hgroup, worker, hworker, -⟩ := h
      exact ⟨.failed time group worker, rfl, htime, hgroup, hworker⟩
  | failedRetries =>
      simp only [draft, bind_eq_ok_iff, Object.int_eq_ok_iff, Object.string_eq_ok_iff] at h
      obtain ⟨time, htime, group, hgroup, -⟩ := h
      exact ⟨.failedRetries time group, rfl, htime, hgroup⟩
  | throttled =>
      simp only [draft, bind_eq_ok_iff, Object.int_eq_ok_iff, Object.string_eq_ok_iff] at h
      obtain ⟨time, htime, queue, hqueue, -⟩ := h
      exact ⟨.throttled time queue, rfl, htime, hqueue⟩
  | timedOut =>
      simp only [draft, bind_eq_ok_iff, Object.int_eq_ok_iff] at h
      obtain ⟨time, htime, -⟩ := h
      exact ⟨.timedOut time, rfl, htime, trivial⟩

/-- An event is built from its fields unless its time is negative. -/
theorem build_eq_judge {d : EventDraft} (hkind : e.kind? = some kind) (hwhat : d.what = none)
    (htime : d.time = some e.time) (hfields : e.OwnFields d) :
    d.build kind = Grammar.judge kind.record e kind.grammar.rules := by
  have hname : d.what.getD kind.name = kind.name := by rw [hwhat, Option.getD_none]
  rw [EventDraft.build, Grammar.ensure_bind_of_pos hname, htime]
  refine Grammar.ensure_bind_eq_judge ?_ rfl rfl
  cases e with
  | put _ _ | popped _ _ | failedRetries _ _ | throttled _ _ =>
      cases hkind
      rw [Event.OwnFields] at hfields
      simp only [hfields]
      rfl
  | done _ | timedOut _ =>
      cases hkind
      rfl
  | failed _ _ _ =>
      cases hkind
      rw [Event.OwnFields] at hfields
      simp only [hfields.1, hfields.2]
      rfl
  | log _ _ _ =>
      cases hkind

theorem exists_draft (h : kind.grammar.ReadFrom o e) :
    ∃ d, kind.draft o = .ok d ∧ d.build kind = Grammar.judge kind.record e kind.grammar.rules := by
  obtain ⟨hkind, hwhen, hown⟩ := h
  have htime := Object.int_eq_ok_iff.mpr hwhen
  cases e with
  | put _ _ | popped _ _ | failedRetries _ _ | throttled _ _ =>
      have hstring := Object.string_eq_ok_iff.mpr hown
      cases hkind
      simp only [draft, htime, hstring]
      exact ⟨_, rfl, build_eq_judge rfl rfl rfl rfl⟩
  | done _ | timedOut _ =>
      cases hkind
      simp only [draft, htime]
      exact ⟨_, rfl, build_eq_judge rfl rfl rfl trivial⟩
  | failed _ _ _ =>
      have hgroup := Object.string_eq_ok_iff.mpr hown.1
      have hworker := Object.string_eq_ok_iff.mpr hown.2
      cases hkind
      simp only [draft, htime, hgroup, hworker]
      exact ⟨_, rfl, build_eq_judge rfl rfl rfl ⟨rfl, rfl⟩⟩
  | log _ _ _ =>
      cases hkind

/-- The decoder of a known kind of event is governed by the kind's grammar. -/
theorem governs (kind : EventKind) :
    kind.grammar.Governs (fun o => liftM (kind.draft o)) fun d => d.build kind where
  errorOf?_draft := errorOf?_draft
  exists_readFrom := exists_readFrom
  exists_draft := exists_draft

/-- A known kind of event is decoded by its grammar. -/
theorem result_decode_eq_iff {r : Decoded Event} :
    (kind.decode o).result = r ↔ kind.grammar.Verdict (.obj o) r :=
  kind.governs.result_eq_iff

end EventKind

theorem EventKind.direct_readers {kind : EventKind} : ∀ r ∈ kind.readers, r.Direct := by
  cases kind with
  | put | throttled | popped | failedRetries =>
      exact List.forall_mem_cons.mpr
        ⟨Reader.direct_kind, List.forall_mem_singleton.mpr Reader.direct_kind⟩
  | done | timedOut =>
      exact List.forall_mem_singleton.mpr Reader.direct_kind
  | failed =>
      exact List.forall_mem_cons.mpr ⟨Reader.direct_kind, List.forall_mem_cons.mpr
        ⟨Reader.direct_kind, List.forall_mem_singleton.mpr Reader.direct_kind⟩⟩

theorem LogDraft.location_of_build {d : LogDraft} {i : Invalid} (h : d.build = .error i) :
    i.record = "LogEvent" ∧ i.location ∈ ["LogEvent", "what", "when", "extras"] := by
  rcases bind_eq_error_iff.mp h with hgiven | ⟨_, -, h⟩
  · unfold givenExtras at hgiven
    split at hgiven
    · cases hgiven
    · cases hgiven
    · cases hgiven
      exact ⟨rfl, by simp⟩
  rcases bind_eq_error_iff.mp h with hwhat | ⟨_, -, h⟩
  · rcases bind_eq_error_iff.mp hwhat with htext | ⟨_, -, hknown⟩
    · obtain ⟨hrecord, hlocation⟩ := Slot.refuses_of_text htext
      exact ⟨hrecord, by simp [hlocation]⟩
    · obtain ⟨hrecord, hlocation⟩ := Slot.refuses_of_ensure hknown
      exact ⟨hrecord, by simp [hlocation]⟩
  rcases bind_eq_error_iff.mp h with htime | ⟨_, -, h⟩
  · obtain ⟨hrecord, hlocation⟩ := Slot.refuses_of_nonNegative htime
    exact ⟨hrecord, by simp [hlocation]⟩
  rcases bind_eq_error_iff.mp h with hextras | ⟨_, -, hpure⟩
  · have hrefuses : (Slot.mk "LogEvent" "extras").Refuses i := by
      rcases bind_eq_error_iff.mp hextras with hreserved | ⟨_, -, h⟩
      · exact Slot.refuses_of_ensure hreserved
      rcases bind_eq_error_iff.mp h with hrepeated | ⟨_, -, htexts⟩
      · exact Slot.refuses_of_ensure hrepeated
      · exact Slot.refuses_of_ensure htexts
    exact ⟨hrefuses.1, by simp [hrefuses.2]⟩
  · cases hpure

namespace Event

variable {o : Object} {v : Json} {what : String} {i : Invalid}

theorem what_ne_invalid : o.what ≠ .error (.invalid i) := by
  intro h
  rcases bind_eq_error_iff.mp h with hrequire | ⟨w, -, hread⟩
  · unfold Object.require at hrequire
    split at hrequire
    · cases hrequire
    · cases hrequire
  · split at hread
    · cases hread
    · cases (Json.asString_eq_error_iff.mp hread).2

theorem location_of_decodeLog (h : (decodeLog what o).result = .error (.invalid i)) :
    i.record = "LogEvent" ∧ i.location ∈ ["LogEvent", "what", "when", "extras"] := by
  rw [decodeLog, Traced.result_bind] at h
  rcases bind_eq_error_iff.mp h with hrequire | ⟨stamp, -, h⟩
  · rw [Traced.result_lift, Object.require] at hrequire
    split at hrequire
    · cases hrequire
    · cases hrequire
  split_ifs at h with hnull
  · cases h
  rw [Traced.result_bind] at h
  rcases bind_eq_error_iff.mp h with htime | ⟨time, -, hbuild⟩
  · rcases bind_eq_error_iff.mp htime with hvalue | ⟨w, -, hint⟩
    · rw [Object.value] at hvalue
      split at hvalue
      · cases hvalue
      · cases hvalue
    · cases (Json.asInt_eq_error_iff.mp hint).2
  · cases hresult : LogDraft.build
        { what := some what, time := some time, data := some (.obj (keptMembers o)) } with
    | ok e =>
        rw [hresult] at hbuild
        cases hbuild
    | error j =>
        rw [hresult] at hbuild
        cases hbuild
        exact LogDraft.location_of_build hresult

/-- Where a refusal of an event is reported. -/
theorem location_of_ofJson (h : (ofJson v).result = .error (.invalid i)) :
    (∃ kind : EventKind, i.record = kind.record ∧ i.location = "when") ∨
      i.record = "LogEvent" ∧ i.location ∈ ["LogEvent", "what", "when", "extras"] := by
  rw [ofJson, Traced.result_bind] at h
  rcases bind_eq_error_iff.mp h with hobject | ⟨o, -, h⟩
  · cases v <;> cases hobject
  rw [Traced.result_bind] at h
  rcases bind_eq_error_iff.mp h with hwhat | ⟨what, -, h⟩
  · exact absurd hwhat what_ne_invalid
  cases hkind : EventKind.ofName? what with
  | none =>
      rw [hkind] at h
      exact .inr (location_of_decodeLog h)
  | some kind =>
      rw [hkind] at h
      have hverdict := EventKind.result_decode_eq_iff.mp h
      rcases hverdict.location_mem with ⟨hrecord, hlocation⟩ | ⟨r, hr, w, hfault⟩
      · exact .inl ⟨kind, hrecord, List.mem_singleton.mp hlocation⟩
      · exact absurd hfault (EventKind.direct_readers r hr w i)

end Event

end JobWire
