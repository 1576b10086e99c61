import JobWire.Proofs.Agreement
import JobWire.Proofs.Event.Grammar
import JobWire.Proofs.Event.Lossless
import JobWire.Proofs.Settling

/-!
# What an object says is decided by its root

Of which kind an event is, the root property `what` says alone.  It is settled first, in the way of
envelopes.  A known kind is then decoded by its grammar, and any other event as a log event, which
settles the time in the way of envelopes, and looks at what happened before it looks at the bound of
the time.

A log event keeps the texts of its further properties, and is refused if a text cannot be read
again.  This does not happen to a value that was itself read from a text.

**Results.**
* `Event.result_decodeLog_eq_iff`: what is made of an object that is no event of a known kind.
* `Event.result_ofJson_eq_iff`: what is made of any value that is to be an event.
* `Event.result_ofJson_of_sameOutside`: what is inside the properties of an event changes nothing
  but what a log event keeps.
* `Event.decided_by_what`: the verdict on every value, and what it does not depend on.
-/

namespace JobWire

namespace Event

/-- What is made of an object that is no event of a known kind. -/
inductive LogVerdict (what : String) (o : Object) : Decoded Event → Prop
  | absent :
      o.get? "when" = none →
      LogVerdict what o (.error (Object.lacks "when"))
  | null :
      o.get? "when" = some .null →
      LogVerdict what o (.error (.null "when" none))
  | notInteger {v : Json} :
      o.get? "when" = some v →
      v ≠ .null →
      (∀ i, v ≠ .int i) →
      LogVerdict what o (.error (v.wrongShape "when" "integer"))
  | blank {i : Int} :
      o.get? "when" = some (.int i) →
      ¬ NotBlank what →
      LogVerdict what o (.error (.invalid ⟨"LogEvent", "what", .blank⟩))
  | negative {i : Int} :
      o.get? "when" = some (.int i) →
      NotBlank what →
      i < 0 →
      LogVerdict what o (.error (.invalid ⟨"LogEvent", "when", .negative⟩))
  | repeated {i : Int} :
      o.get? "when" = some (.int i) →
      NotBlank what →
      0 ≤ i →
      ¬ (keptMembers o).names.Nodup →
      LogVerdict what o (.error (.invalid ⟨"LogEvent", "extras", .repeatedName⟩))
  | unreadable {i : Int} {m : String × Json} :
      o.get? "when" = some (.int i) →
      NotBlank what →
      0 ≤ i →
      (keptMembers o).names.Nodup →
      m ∈ keptMembers o →
      Json.parse m.2.render = none →
      LogVerdict what o (.error (.invalid ⟨"LogEvent", "extras", .extraNotJson⟩))
  | kept {i : Int} :
      o.get? "when" = some (.int i) →
      NotBlank what →
      0 ≤ i →
      ValidExtras (LogDraft.texts (keptMembers o)) →
      LogVerdict what o (.ok (.log what i (LogDraft.texts (keptMembers o))))

/-- What is made of a value that is to be an event. -/
inductive Verdict : Json → Decoded Event → Prop
  | notObject {v : Json} :
      (∀ o, v ≠ .obj o) →
      Verdict v (.error (.malformedRoot none))
  | whatAbsent {o : Object} :
      o.get? "what" = none →
      Verdict (.obj o) (.error (Object.lacks "what"))
  | whatNull {o : Object} :
      o.get? "what" = some .null →
      Verdict (.obj o) (.error (.null "what"
        (some "Expected a string value for the 'what' property, got null.")))
  | whatNotString {o : Object} {v : Json} :
      o.get? "what" = some v →
      v ≠ .null →
      (∀ s, v ≠ .str s) →
      Verdict (.obj o) (.error (v.wrongShape "what" "string"))
  | known {o : Object} {kind : EventKind} {r : Decoded Event} :
      o.get? "what" = some (.str kind.name) →
      kind.grammar.Verdict (.obj o) r →
      Verdict (.obj o) r
  | unknown {o : Object} {what : String} {r : Decoded Event} :
      o.get? "what" = some (.str what) →
      (∀ kind : EventKind, kind.name ≠ what) →
      LogVerdict what o r →
      Verdict (.obj o) r

section Log

variable {o : Object} {what : String} {i : Int} {r : Decoded Event}

theorem names_texts (members : Object) :
    (LogDraft.texts members).map Prod.fst = members.names := by
  rw [LogDraft.texts, List.map_map]
  rfl

/-- What is kept has none of the reserved names, so its names and its texts are what is checked. -/
theorem checkExtras_keptMembers :
    LogDraft.checkExtras (LogDraft.texts (keptMembers o)) =
      if (keptMembers o).names.Nodup then
        if ∀ m ∈ keptMembers o, (Json.parse m.2.render).isSome then
          .ok (LogDraft.texts (keptMembers o))
        else .error ⟨"LogEvent", "extras", .extraNotJson⟩
      else .error ⟨"LogEvent", "extras", .repeatedName⟩ := by
  have hreserved : reservedNames.filter (keptMembers o).names.contains = [] := by
    refine List.filter_eq_nil_iff.mpr fun n hn hkept => ?_
    obtain ⟨m, hm, rfl⟩ := List.mem_map.mp (List.contains_iff_mem.mp hkept)
    exact (mem_keptMembers_iff.mp hm).2 hn
  have htexts : (∀ e ∈ LogDraft.texts (keptMembers o), (Json.parse e.2).isSome) ↔
      ∀ m ∈ keptMembers o, (Json.parse m.2.render).isSome :=
    List.forall_mem_map
  unfold LogDraft.checkExtras
  simp only [names_texts, hreserved, Slot.ensure, Slot.refuse, if_true, ok_bind, htexts]
  by_cases hnames : (keptMembers o).names.Nodup
  · rw [if_pos hnames, if_pos hnames, ok_bind]
  · rw [if_neg hnames, if_neg hnames]
    rfl

/-- What is made of an object whose time is an integer. -/
theorem result_decodeLog_of_int (hwhen : o.get? "when" = some (.int i))
    (hunknown : ∀ kind : EventKind, kind.name ≠ what) :
    (decodeLog what o).result =
      if NotBlank what then
        if 0 ≤ i then
          (LogDraft.checkExtras (LogDraft.texts (keptMembers o))).mapError DecodeError.invalid >>=
            fun extras => .ok (.log what i extras)
        else .error (.invalid ⟨"LogEvent", "when", .negative⟩)
      else .error (.invalid ⟨"LogEvent", "what", .blank⟩) := by
  have hrequire : o.require "when" = .ok (.int i) := Object.require_eq_ok_iff.mpr hwhen
  have hint : o.int "when" = .ok i := Object.int_eq_ok_iff.mpr hwhen
  have hname : EventKind.ofName? what = none := EventKind.ofName?_eq_none_iff.mpr hunknown
  have hrun : (decodeLog what o).result =
      (LogDraft.build { what := some what, time := some i, data := some (.obj (keptMembers o)) }
        ).mapError DecodeError.invalid := by
    rw [decodeLog, hrequire, hint]
    rfl
  rw [hrun]
  unfold LogDraft.build LogDraft.checkWhat
  simp only [LogDraft.givenExtras, Slot.text, Slot.given, Slot.nonNegative, Slot.ensure,
    Slot.refuse, ok_bind]
  by_cases hblank : NotBlank what
  · by_cases hbound : 0 ≤ i
    · simp only [if_pos hblank, if_pos hbound, if_pos hname, ok_bind]
      cases LogDraft.checkExtras (LogDraft.texts (keptMembers o)) <;> rfl
    · simp only [if_pos hblank, if_neg hbound, if_pos hname, ok_bind]
      rfl
  · simp only [if_neg hblank]
    rfl

theorem result_decodeLog_of_verdict (hunknown : ∀ kind : EventKind, kind.name ≠ what)
    (h : LogVerdict what o r) : (decodeLog what o).result = r := by
  cases h with
  | absent hwhen =>
      rw [decodeLog, Object.require_of_absent hwhen]
      rfl
  | null hwhen =>
      rw [decodeLog, Object.require_eq_ok_iff.mpr hwhen]
      rfl
  | @notInteger v hwhen hnull hint =>
      have hread : o.int "when" = .error (v.wrongShape "when" "integer") := by
        rw [Object.int, Object.value_eq_ok_iff.mpr hwhen]
        refine Json.asInt_eq_error_iff.mpr ⟨fun hkind => ?_, rfl⟩
        cases v <;> cases hkind
        exact hint _ rfl
      rw [decodeLog, Object.require_eq_ok_iff.mpr hwhen, hread]
      cases v with
      | null =>
          exact absurd rfl hnull
      | bool _ | int _ | float _ | str _ | arr _ | obj _ =>
          rfl
  | blank hwhen hblank =>
      rw [result_decodeLog_of_int hwhen hunknown, if_neg hblank]
  | negative hwhen hblank hbound =>
      rw [result_decodeLog_of_int hwhen hunknown, if_pos hblank, if_neg (not_le.mpr hbound)]
  | repeated hwhen hblank hbound hnames =>
      rw [result_decodeLog_of_int hwhen hunknown, if_pos hblank, if_pos hbound,
        checkExtras_keptMembers, if_neg hnames]
      rfl
  | unreadable hwhen hblank hbound hnames hm hparse =>
      have hnot : ¬ ∀ m ∈ keptMembers o, (Json.parse m.2.render).isSome := by
        intro hall
        have hsome := hall _ hm
        rw [hparse] at hsome
        cases hsome
      rw [result_decodeLog_of_int hwhen hunknown, if_pos hblank, if_pos hbound,
        checkExtras_keptMembers, if_pos hnames, if_neg hnot]
      rfl
  | kept hwhen hblank hbound hextras =>
      rw [result_decodeLog_of_int hwhen hunknown, if_pos hblank, if_pos hbound,
        LogDraft.checkExtras_eq_ok_iff.mpr ⟨rfl, hextras⟩]
      rfl

theorem exists_logVerdict (what : String) (o : Object) : ∃ r, LogVerdict what o r := by
  cases hwhen : o.get? "when" with
  | none =>
      exact ⟨_, .absent hwhen⟩
  | some v =>
      cases v with
      | null =>
          exact ⟨_, .null hwhen⟩
      | bool _ | float _ | str _ | arr _ | obj _ =>
          exact ⟨_, .notInteger hwhen nofun nofun⟩
      | int i =>
          by_cases hblank : NotBlank what
          · by_cases hbound : 0 ≤ i
            · by_cases hnames : (keptMembers o).names.Nodup
              · by_cases hparse : ∃ m ∈ keptMembers o, Json.parse m.2.render = none
                · obtain ⟨m, hm, hnone⟩ := hparse
                  exact ⟨_, .unreadable hwhen hblank hbound hnames hm hnone⟩
                · have hread : ∀ m ∈ keptMembers o, (Json.parse m.2.render).isSome :=
                    fun m hm => Option.isSome_iff_ne_none.mpr fun hnone => hparse ⟨m, hm, hnone⟩
                  have hchecked := checkExtras_keptMembers (o := o)
                  rw [if_pos hnames, if_pos hread] at hchecked
                  exact ⟨_, .kept hwhen hblank hbound
                    (LogDraft.checkExtras_eq_ok_iff.mp hchecked).2⟩
              · exact ⟨_, .repeated hwhen hblank hbound hnames⟩
            · exact ⟨_, .negative hwhen hblank (not_le.mp hbound)⟩
          · exact ⟨_, .blank hwhen hblank⟩

theorem result_decodeLog_eq_iff (hunknown : ∀ kind : EventKind, kind.name ≠ what) :
    (decodeLog what o).result = r ↔ LogVerdict what o r :=
  eq_iff_of_total (exists_logVerdict what o) (result_decodeLog_of_verdict hunknown)

end Log

section Root

variable {o : Object} {v : Json} {what : String} {r : Decoded Event} {level : Nat}

/-- What happened is settled first. -/
theorem result_ofJson_obj (o : Object) :
    (ofJson (.obj o)).result = o.what >>= fun what =>
      match EventKind.ofName? what with
      | some kind => (kind.decode o).result
      | none => (decodeLog what o).result := by
  rw [ofJson, Json.lift_asObject_obj, pure_bind, Traced.result_bind, Traced.result_lift]
  refine congrArg _ (funext fun what => ?_)
  cases EventKind.ofName? what <;> rfl

theorem result_ofJson_of_unknown (hwhat : o.get? "what" = some (.str what))
    (hunknown : ∀ kind : EventKind, kind.name ≠ what) :
    (ofJson (.obj o)).result = (decodeLog what o).result := by
  rw [result_ofJson_obj, Object.what_eq_ok_iff.mpr hwhat]
  change (match EventKind.ofName? what with | some kind => _ | none => _) = _
  rw [EventKind.ofName?_eq_none_iff.mpr hunknown]

theorem result_ofJson_of_verdict (h : Verdict v r) : (ofJson v).result = r := by
  cases h with
  | notObject hne =>
      cases v with
      | obj o =>
          exact absurd rfl (hne o)
      | null | bool _ | int _ | float _ | str _ | arr _ =>
          rfl
  | whatAbsent hwhat =>
      rw [result_ofJson_obj, Object.what, Object.require_of_absent hwhat]
      rfl
  | whatNull hwhat =>
      rw [result_ofJson_obj, Object.what, Object.require_eq_ok_iff.mpr hwhat]
      rfl
  | @whatNotString o v hwhat hnull hstr =>
      rw [result_ofJson_obj, Object.what, Object.require_eq_ok_iff.mpr hwhat]
      cases v with
      | null =>
          exact absurd rfl hnull
      | str s =>
          exact absurd rfl (hstr s)
      | bool _ | int _ | float _ | arr _ | obj _ =>
          rfl
  | known hwhat hverdict =>
      rw [ofJson_obj_of_what hwhat]
      exact EventKind.result_decode_eq_iff.mpr hverdict
  | unknown hwhat hunknown hverdict =>
      rw [result_ofJson_of_unknown hwhat hunknown]
      exact (result_decodeLog_eq_iff hunknown).mpr hverdict

theorem exists_verdict (v : Json) : ∃ r, Verdict v r := by
  cases v with
  | null | bool _ | int _ | float _ | str _ | arr _ =>
      exact ⟨_, .notObject nofun⟩
  | obj o =>
      cases hwhat : Object.get? o "what" with
      | none =>
          exact ⟨_, .whatAbsent hwhat⟩
      | some w =>
          cases w with
          | null =>
              exact ⟨_, .whatNull hwhat⟩
          | bool _ | int _ | float _ | arr _ | obj _ =>
              exact ⟨_, .whatNotString hwhat nofun nofun⟩
          | str what =>
              by_cases hknown : ∃ kind : EventKind, kind.name = what
              · obtain ⟨kind, rfl⟩ := hknown
                obtain ⟨r, hr⟩ := kind.governs.exists_verdict (.obj o)
                exact ⟨r, .known hwhat hr⟩
              · obtain ⟨r, hr⟩ := exists_logVerdict what o
                exact ⟨r, .unknown hwhat (fun kind hkind => hknown ⟨kind, hkind⟩) hr⟩

/-- The decoder of events yields the verdict on every value. -/
theorem result_ofJson_eq_iff : (ofJson v).result = r ↔ Verdict v r :=
  eq_iff_of_total (exists_verdict v) result_ofJson_of_verdict

/-- No text is refused that a value was kept as, if the value was read itself. -/
theorem location_of_readable {i : Invalid} (hv : v.Readable level)
    (h : (ofJson v).result = .error (.invalid i)) : i.location ≠ "extras" := by
  intro hextras
  cases result_ofJson_eq_iff.mp h with
  | known hwhat hverdict =>
      rcases hverdict.location_mem with ⟨-, hlocation⟩ | ⟨r, hr, w, hfault⟩
      · have hwhen : i.location = "when" := List.mem_singleton.mp hlocation
        rw [hwhen] at hextras
        exact absurd hextras (by decide)
      · exact EventKind.direct_readers r hr w i hfault
  | unknown _ _ hverdict =>
      have hvalid := validExtras_texts hv
      rw [ValidExtras, names_texts] at hvalid
      cases hverdict with
      | blank _ _ | negative _ _ _ =>
          exact absurd hextras (by decide)
      | repeated _ _ _ hnames =>
          exact hnames hvalid.2.1
      | @unreadable _ m _ _ _ _ hm hparse =>
          have hsome := hvalid.2.2 (m.1, m.2.render) (List.mem_map_of_mem hm)
          rw [hparse] at hsome
          cases hsome

end Root

end Event

/-- The values are the same, or differ inside of arrays or inside of objects. -/
inductive Json.SameOutside : Json → Json → Prop
  | same {v : Json} : SameOutside v v
  | arrays {items others : List Json} : SameOutside (arr items) (arr others)
  | objects {members others : Object} : SameOutside (obj members) (obj others)

namespace Object

/-- The objects have the same properties, and their values differ at most inside. -/
def SameOutside (o p : Object) : Prop :=
  List.Forall₂ (fun m n => m.1 = n.1 ∧ m.2.SameOutside n.2) o p

section SameOutside

variable {o p : Object} {name : String} {v w : Json}

theorem SameOutside.get?_cases (h : o.SameOutside p) (name : String) :
    o.get? name = none ∧ p.get? name = none ∨
      ∃ v w, o.get? name = some v ∧ p.get? name = some w ∧ v.SameOutside w := by
  induction h with
  | nil =>
      exact .inl ⟨rfl, rfl⟩
  | @cons m n _ _ hmember _ ih =>
      obtain ⟨hname, hvalue⟩ := hmember
      obtain ⟨k, v⟩ := m
      obtain ⟨_, w⟩ := n
      obtain rfl : k = _ := hname
      rw [get?_cons, get?_cons]
      split_ifs
      · exact .inr ⟨v, w, rfl, rfl, hvalue⟩
      · exact ih

theorem SameOutside.presence_eq (h : o.SameOutside p) (name : String) :
    o.presence name = p.presence name := by
  unfold presence
  rcases h.get?_cases name with ⟨ho, hp⟩ | ⟨v, w, ho, hp, hvalue⟩
  · rw [ho, hp]
  · rw [ho, hp]
    cases hvalue <;> rfl

/-- A reader that does not look inside reads the same from both objects. -/
theorem SameOutside.value_bind_eq {β : Type} {f : Json → Decoded β} (h : o.SameOutside p)
    (hf : ∀ {v w}, Json.SameOutside v w → f v = f w) (name : String) :
    (o.value name >>= f) = (p.value name >>= f) := by
  unfold value
  rcases h.get?_cases name with ⟨ho, hp⟩ | ⟨v, w, ho, hp, hvalue⟩
  · rw [ho, hp]
  · rw [ho, hp, ok_bind, ok_bind, hf hvalue]

theorem SameOutside.int_eq (h : o.SameOutside p) (name : String) : o.int name = p.int name :=
  h.value_bind_eq (fun hvalue => by cases hvalue <;> rfl) name

theorem SameOutside.string_eq (h : o.SameOutside p) (name : String) :
    o.string name = p.string name :=
  h.value_bind_eq (fun hvalue => by cases hvalue <;> rfl) name

theorem SameOutside.what_eq (h : o.SameOutside p) : o.what = p.what := by
  rcases h.get?_cases "what" with ⟨ho, hp⟩ | ⟨v, w, ho, hp, hvalue⟩
  · rw [what, what, require_of_absent ho, require_of_absent hp]
  · rw [what, what, require_eq_ok_iff.mpr ho, require_eq_ok_iff.mpr hp]
    cases hvalue <;> rfl

end SameOutside

end Object

namespace Event

/-- The event without its further properties. -/
def withoutExtras : Event → Event
  | log what time _ => log what time []
  | e => e

section SameOutside

variable {o p : Object} {kind : EventKind} {what : String} {level : Nat}

theorem result_decode_of_sameOutside (h : o.SameOutside p) :
    (kind.decode o).result = (kind.decode p).result := by
  have hdraft : kind.draft o = kind.draft p := by
    cases kind with
    | put | popped | done | failed | failedRetries | throttled | timedOut =>
        simp only [EventKind.draft, h.int_eq, h.string_eq]
  have hfault : kind.shape.firstFault? o = kind.shape.firstFault? p :=
    Shape.firstFault?_congr fun name _ => h.presence_eq name
  rw [EventKind.decode, EventKind.decode, Traced.result_bind, Traced.result_bind, Shape.read_obj,
    Shape.read_obj, hfault]
  cases kind.shape.firstFault? p with
  | some e =>
      rfl
  | none =>
      change (liftM (kind.draft o) >>= fun d => (liftM (d.build kind) : Decode Event)).result =
        (liftM (kind.draft p) >>= fun d => (liftM (d.build kind) : Decode Event)).result
      rw [hdraft]

/-- Log events that are read from objects that differ inside differ in what they keep only. -/
theorem result_decodeLog_of_sameOutside (ho : (Json.obj o).Readable level)
    (hp : (Json.obj p).Readable level) (h : o.SameOutside p)
    (hunknown : ∀ kind : EventKind, kind.name ≠ what) :
    (decodeLog what o).result.map withoutExtras = (decodeLog what p).result.map withoutExtras := by
  rcases h.get?_cases "when" with ⟨howhen, hpwhen⟩ | ⟨v, w, howhen, hpwhen, hvalue⟩
  · rw [result_decodeLog_of_verdict hunknown (.absent howhen),
      result_decodeLog_of_verdict hunknown (.absent hpwhen)]
  · cases hvalue with
    | arrays | objects =>
        rw [result_decodeLog_of_verdict hunknown (.notInteger howhen nofun nofun),
          result_decodeLog_of_verdict hunknown (.notInteger hpwhen nofun nofun)]
        rfl
    | same =>
        cases v with
        | null =>
            rw [result_decodeLog_of_verdict hunknown (.null howhen),
              result_decodeLog_of_verdict hunknown (.null hpwhen)]
        | bool _ | float _ | str _ | arr _ | obj _ =>
            rw [result_decodeLog_of_verdict hunknown (.notInteger howhen nofun nofun),
              result_decodeLog_of_verdict hunknown (.notInteger hpwhen nofun nofun)]
        | int i =>
            have hokept := LogDraft.checkExtras_eq_ok_iff.mpr ⟨rfl, validExtras_texts ho⟩
            have hpkept := LogDraft.checkExtras_eq_ok_iff.mpr ⟨rfl, validExtras_texts hp⟩
            rw [result_decodeLog_of_int howhen hunknown, result_decodeLog_of_int hpwhen hunknown,
              hokept, hpkept]
            split_ifs
            · rfl
            · rfl
            · rfl

/-- What is inside the properties of an object changes nothing but what a log event keeps. -/
theorem result_ofJson_of_sameOutside (ho : (Json.obj o).Readable level)
    (hp : (Json.obj p).Readable level) (h : o.SameOutside p) :
    (ofJson (.obj o)).result.map withoutExtras = (ofJson (.obj p)).result.map withoutExtras := by
  rw [result_ofJson_obj, result_ofJson_obj, h.what_eq]
  cases p.what with
  | error e =>
      rfl
  | ok what =>
      rw [ok_bind, ok_bind]
      cases hkind : EventKind.ofName? what with
      | some kind =>
          exact congrArg (Except.map withoutExtras) (result_decode_of_sameOutside h)
      | none =>
          exact result_decodeLog_of_sameOutside ho hp h (EventKind.ofName?_eq_none_iff.mp hkind)

end SameOutside

/-- What is made of a value is its verdict.  If the value was read from a text, no further property
is a fault, and what is inside its properties changes nothing but what a log event keeps. -/
theorem decided_by_what (v : Json) :
    (∀ r, (ofJson v).result = r ↔ Verdict v r) ∧
    (∀ level, v.Readable level →
      ∀ i, (ofJson v).result = .error (.invalid i) → i.location ≠ "extras") ∧
    ∀ level (o p : Object), v = .obj o → v.Readable level → (Json.obj p).Readable level →
      o.SameOutside p →
      (ofJson v).result.map withoutExtras = (ofJson (.obj p)).result.map withoutExtras := by
  refine ⟨fun r => result_ofJson_eq_iff, fun level hv i h => location_of_readable hv h, ?_⟩
  rintro level o p rfl ho hp h
  exact result_ofJson_of_sameOutside ho hp h

/-- An object with a put event inside, that says of itself what it is given to say. -/
def aroundPut (what : String) (time : Int) : Object :=
  [("data", .obj [("what", .str "put"), ("when", .null)]), ("when", .int time), ("what", .str what)]

theorem decided_by_what_aroundPut :
    ∃ p : Object, (Json.obj (aroundPut "seen" 5)).Readable 0 ∧ (Json.obj p).Readable 0 ∧
      (aroundPut "seen" 5).SameOutside p ∧
      Verdict (.obj (aroundPut "seen" 5))
        (.ok (.log "seen" 5 [("data", "\x7b\"what\":\"put\",\"when\":null\x7d")])) ∧
      (ofJson (.obj (aroundPut "seen" 5))).result.map withoutExtras =
        (ofJson (.obj p)).result.map withoutExtras ∧
      ∃ i : Invalid, (ofJson (.obj (aroundPut " " (-1)))).result = .error (.invalid i) ∧
        i.location ≠ "extras" := by
  have hreadable : ∀ v : Json, Json.parse v.render = some v → v.Readable 0 :=
    fun _ hparse => Json.readable_of_parse hparse
  have hseen := hreadable (.obj (aroundPut "seen" 5)) (by decide +kernel)
  have hblank := hreadable (.obj (aroundPut " " (-1))) (by decide +kernel)
  have hempty := hreadable (.obj [("data", .obj []), ("when", .int 5), ("what", .str "seen")])
    (by decide +kernel)
  have hsame : (aroundPut "seen" 5).SameOutside
      [("data", .obj []), ("when", .int 5), ("what", .str "seen")] :=
    .cons ⟨rfl, .objects⟩ (.cons ⟨rfl, .same⟩ (.cons ⟨rfl, .same⟩ .nil))
  obtain ⟨hverdict, -, hnested⟩ := decided_by_what (.obj (aroundPut "seen" 5))
  obtain ⟨-, hkept, -⟩ := decided_by_what (.obj (aroundPut " " (-1)))
  refine ⟨_, hseen, hempty, hsame, (hverdict _).mp (by decide +kernel),
    hnested 0 _ _ rfl hseen hempty hsame, ⟨"LogEvent", "what", .blank⟩, ?_⟩
  have hrefused : (ofJson (.obj (aroundPut " " (-1)))).result =
      .error (.invalid ⟨"LogEvent", "what", .blank⟩) := by
    decide +kernel
  exact ⟨hrefused, hkept 0 hblank _ hrefused⟩

end Event

end JobWire
