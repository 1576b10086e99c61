import JobWire.Proofs.Construction
import JobWire.Proofs.Declaration.Rules

/-!
# Declarations of events

What happened and when are the first two fields of every event.  For a known kind the first has a
default, and nothing else can be given; the fields of the kind's own follow, which must be given and
may be anything.  A log event must be given what happened, and has its further properties as its
last field.  They can be given as values instead, which are stored as texts and take the place of
texts that are given besides; whether these values are an object is looked at before any field.

**Results.**
* `EventHeader.declares`, `EventKind.declares`, `LogDraft.declares`: events are built as they are
  declared.
-/

namespace JobWire

/-- The arguments of an event of any kind. -/
structure HeaderArguments where
  what : Option String := none
  time : Option Int := none

namespace EventHeader

/-- How what all events have is built. -/
def declaration : Declaration HeaderArguments EventHeader where
  record := "JobEvent"
  rules :=
    [.given HeaderArguments.what (.any "what"),
      .given HeaderArguments.time (.nonNegative "when" id)]
  Gives a h := a.what = some h.what ∧ a.time = some h.time

theorem declares : declaration.Declares fun a => build a.what a.time where
  errorOf?_build a := by
    refine Declaration.errorOf?_bind Slot.errorOf?_given fun _ _ => ?_
    refine Declaration.errorOf?_bind Slot.errorOf?_nonNegative fun _ _ => ?_
    rfl
  gives {a h} hbuild := by
    simp only [build, bind_eq_ok_iff, pure_eq_ok_iff, Slot.given_eq_ok_iff,
      Slot.nonNegative_eq_ok_iff] at hbuild
    obtain ⟨_, hwhat, _, ⟨htime, -⟩, rfl⟩ := hbuild
    exact ⟨hwhat, htime⟩
  unique {a b c} hb hc := by
    have hwhat : b.what = c.what := Option.some.inj (hb.1.symm.trans hc.1)
    have htime : b.time = c.time := Option.some.inj (hb.2.symm.trans hc.2)
    obtain ⟨_, _⟩ := b
    obtain ⟨_, _⟩ := c
    cases hwhat
    cases htime
    rfl

end EventHeader

namespace EventKind

/-- The rule that what happened is the name of the kind. -/
def fixedWhat (kind : EventKind) : Rule String :=
  ⟨"what", fun s => if s = kind.name then none else some (.notFixed kind.name)⟩

/-- The fields of a kind's own. -/
def ownRules : EventKind → List (Rule EventDraft)
  | put | throttled => [.given EventDraft.queue (.any "queue_name")]
  | popped => [.given EventDraft.worker (.any "worker_name")]
  | done | timedOut => []
  | failed =>
    [.given EventDraft.group (.any "group"), .given EventDraft.worker (.any "worker_name")]
  | failedRetries => [.given EventDraft.group (.any "group")]

/-- How an event of a known kind is built. -/
def declaration (kind : EventKind) : Declaration EventDraft Event where
  record := kind.record
  rules :=
    .defaulted EventDraft.what kind.fixedWhat ::
      .given EventDraft.time (.nonNegative "when" id) :: kind.ownRules
  Gives d e := e.kind? = some kind ∧ d.time = some e.time ∧ e.OwnFields d

variable {kind : EventKind} {d : EventDraft} {e f : Event}

theorem errorOf?_fixedWhat {field : Option String} :
    errorOf? ((Slot.mk kind.record "what").ensure (field.getD kind.name = kind.name)
      (.notFixed kind.name) ()) =
        (Slot.mk kind.record "what").report (field.elim none kind.fixedWhat.violation?) := by
  rw [Slot.errorOf?_ensure]
  cases field with
  | none =>
      rw [Option.getD_none, if_pos rfl, Option.elim_none]
  | some s =>
      rfl

theorem eq_of_gives (he : kind.declaration.Gives d e) (hf : kind.declaration.Gives d f) :
    e = f := by
  obtain ⟨hekind, hetime, heown⟩ := he
  obtain ⟨hfkind, hftime, hfown⟩ := hf
  have htime : e.time = f.time := Option.some.inj (hetime.symm.trans hftime)
  cases e with
  | put _ _ | popped _ _ | failedRetries _ _ | throttled _ _ =>
      cases hekind
      cases f <;> cases hfkind
      have hown := Option.some.inj (heown.symm.trans hfown)
      cases htime
      cases hown
      rfl
  | done _ | timedOut _ =>
      cases hekind
      cases f <;> cases hfkind
      cases htime
      rfl
  | failed _ _ _ =>
      cases hekind
      cases f <;> cases hfkind
      have hgroup := Option.some.inj (heown.1.symm.trans hfown.1)
      have hworker := Option.some.inj (heown.2.symm.trans hfown.2)
      cases htime
      cases hgroup
      cases hworker
      rfl
  | log _ _ _ =>
      cases hekind

theorem declares (kind : EventKind) : kind.declaration.Declares (EventDraft.build kind) where
  errorOf?_build d := by
    refine Declaration.errorOf?_bind errorOf?_fixedWhat fun _ _ => ?_
    refine Declaration.errorOf?_bind Slot.errorOf?_nonNegative fun _ _ => ?_
    cases kind with
    | put | popped | failedRetries | throttled =>
        exact Declaration.errorOf?_bind Slot.errorOf?_given fun _ _ => rfl
    | done | timedOut =>
        rfl
    | failed =>
        refine Declaration.errorOf?_bind Slot.errorOf?_given fun _ _ => ?_
        exact Declaration.errorOf?_bind Slot.errorOf?_given fun _ _ => rfl
  gives hbuild := by
    obtain ⟨hkind, -, htime, hown, -⟩ := EventDraft.build_eq_ok_iff.mp hbuild
    exact ⟨hkind, htime, hown⟩
  unique := eq_of_gives

end EventKind

/-- The arguments of a log event.  Its further properties are given as texts, or as an object of
values. -/
structure LogArguments where
  what : Option String := none
  time : Option Int := none
  extras : Option (List (String × String)) := none
  data : Option Json := none

namespace LogArguments

/-- The fields that the arguments fill. -/
def draft (a : LogArguments) : LogDraft :=
  { what := a.what
    time := a.time
    extras := a.extras.getD ({} : LogDraft).extras
    data := a.data }

/-- The further properties that are stored: the texts of the values, in order, if there are values,
or else the given texts, or else none. -/
def stored (a : LogArguments) : List (String × String) :=
  match a.data with
  | some (.obj members) => members.map fun m => (m.1, m.2.render)
  | _ => a.extras.getD []

end LogArguments

namespace LogDraft

/-- The rule that values are given as an object. -/
def objectRule : Rule Json :=
  ⟨"LogEvent", fun v => if v.kind = .object then none else some .dataNotObject⟩

instance (s : String) : Decidable (∀ kind : EventKind, kind.name ≠ s) :=
  decidable_of_iff _ EventKind.ofName?_eq_none_iff

/-- The rule that what happened is not blank and names no known kind. -/
def unknownWhat : Rule String where
  location := "what"
  violation? s :=
    if NotBlank s then
      if ∀ kind : EventKind, kind.name ≠ s then none else some (.knownEvent s)
    else some .blank

/-- The rule on the further properties: no reserved name, no repeated name, and JSON texts. -/
def extrasRule : Rule (List (String × String)) where
  location := "extras"
  violation? extras :=
    let names := extras.map Prod.fst
    let reserved := Event.reservedNames.filter names.contains
    if reserved = [] then
      if names.Nodup then
        if ∀ e ∈ extras, (Json.parse e.2).isSome then none else some .extraNotJson
      else some .repeatedName
    else some (.reservedNames reserved)

/-- How a log event is built. -/
def declaration : Declaration LogArguments Event where
  record := "LogEvent"
  rules :=
    [.defaulted LogArguments.data objectRule,
      .given LogArguments.what unknownWhat,
      .given LogArguments.time (.nonNegative "when" id),
      ⟨"extras", fun a => extrasRule.violation? a.stored⟩]
  Gives a e := ∃ what time, a.what = some what ∧ a.time = some time ∧ e = .log what time a.stored

variable {a : LogArguments}

theorem errorOf?_givenExtras :
    errorOf? a.draft.givenExtras =
      (Rule.defaulted LogArguments.data objectRule).refusal? "LogEvent" a := by
  obtain ⟨_, _, _, data⟩ := a
  cases data with
  | none =>
      rfl
  | some v =>
      cases v with
      | null | bool _ | int _ | float _ | str _ | arr _ | obj _ =>
          rfl

theorem stored_of_givenExtras {extras : List (String × String)}
    (h : a.draft.givenExtras = .ok extras) : a.stored = extras := by
  obtain ⟨_, _, _, data⟩ := a
  cases data with
  | none =>
      exact Except.ok.inj h
  | some v =>
      cases v with
      | obj members =>
          exact Except.ok.inj h
      | null | bool _ | int _ | float _ | str _ | arr _ =>
          cases h

theorem errorOf?_checkWhat {field : Option String} :
    errorOf? (checkWhat field) =
      (Slot.mk "LogEvent" "what").report (field.elim (some .required) unknownWhat.violation?) := by
  unfold checkWhat Slot.text
  rw [bind_assoc]
  refine Slot.errorOf?_given_bind fun s => ?_
  unfold unknownWhat
  by_cases hblank : NotBlank s
  · have hensure : (Slot.mk "LogEvent" "what").ensure (NotBlank s) .blank s = .ok s :=
      Slot.ensure_eq_ok_iff.mpr ⟨hblank, rfl⟩
    rw [hensure, ok_bind, Slot.errorOf?_ensure]
    simp only [if_pos hblank, EventKind.ofName?_eq_none_iff]
  · have hensure : (Slot.mk "LogEvent" "what").ensure (NotBlank s) .blank s =
        .error ⟨"LogEvent", "what", .blank⟩ := if_neg hblank
    simp only [hensure, if_neg hblank]
    rfl

theorem errorOf?_checkExtras {extras : List (String × String)} :
    errorOf? (checkExtras extras) =
      (Slot.mk "LogEvent" "extras").report (extrasRule.violation? extras) := by
  unfold checkExtras extrasRule Slot.ensure
  simp only
  by_cases hreserved : Event.reservedNames.filter (extras.map Prod.fst).contains = []
  · simp only [if_pos hreserved, ok_bind]
    by_cases hnames : (extras.map Prod.fst).Nodup
    · simp only [if_pos hnames, ok_bind]
      split_ifs
      · rfl
      · rfl
    · simp only [if_neg hnames]
      rfl
  · simp only [if_neg hreserved]
    rfl

theorem declares : declaration.Declares fun a => a.draft.build where
  errorOf?_build a := by
    refine Declaration.errorOf?_bind errorOf?_givenExtras fun extras hextras => ?_
    have hstored := stored_of_givenExtras hextras
    refine Declaration.errorOf?_bind errorOf?_checkWhat fun _ _ => ?_
    refine Declaration.errorOf?_bind Slot.errorOf?_nonNegative fun _ _ => ?_
    refine Declaration.errorOf?_bind ?_ fun _ _ => rfl
    rw [errorOf?_checkExtras, ← hstored]
    rfl
  gives {a e} hbuild := by
    obtain ⟨what, time, extras, hwhat, htime, hextras, rfl, -⟩ := build_eq_ok_iff.mp hbuild
    exact ⟨what, time, hwhat, htime, by rw [stored_of_givenExtras hextras]⟩
  unique {a e f} he hf := by
    obtain ⟨what, time, hwhat, htime, rfl⟩ := he
    obtain ⟨_, _, hwhat', htime', rfl⟩ := hf
    cases hwhat.symm.trans hwhat'
    cases htime.symm.trans htime'
    rfl

end LogDraft

end JobWire
