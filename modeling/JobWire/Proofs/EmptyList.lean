import JobWire.Proofs.Alike
import JobWire.Proofs.Envelope
import JobWire.Proofs.Independence
import JobWire.Reply

/-!
# The empty list and the empty object

Wherever a list is expected, an empty object stands for the empty list.  Documents that differ in
this alone are decoded to the same value, or refused for the same fault, and leave the same notices:
at any of the places where a decoder expects a list, in lists and envelopes also at those of the
jobs inside, and for priority patterns also at those of the documents inside.

The further properties of an event of no known kind are kept as they are.  So no list is expected
inside them, and an empty list differs from an empty object there.

**Results.**
* `DecoderKind.ofJson_eq_of_alike`: documents that are alike are decoded alike, by every decoder.
* `DecoderKind.kept_of_result`: what events keep of a document can be told from what is decoded.
* `DecoderKind.empty_list_as_object`: where the empty object stands for the empty list, and where it
  does not.
-/

namespace JobWire

open Json (ListAlike ObjectAlike TextAlike AlikeAt)

section Records

variable {v w : Json}

/-- The jobs differ at most in which of their empty lists are objects. -/
def Job.Alike : Json → Json → Prop :=
  ObjectAlike (AlikeAt ["dependencies", "dependents", "tags", "throttles", "history"]
    (ListAlike Eq))

theorem Job.ofJson_eq_of_alike (h : Alike v w) : ofJson v = ofJson w := by
  refine h.read_bind_eq Json.null_iff_of_alikeAt_list fun o p h => ?_
  have hdraft : draft o = draft p := by
    simp (disch := decide) only [draft, Object.string, Object.optionalString, Object.int,
      Object.bool, Object.strings, h.value_eq, h.list_eq]
  rw [hdraft]

/-- The recurring jobs differ at most in which of their empty lists are objects. -/
def RecurringJob.Alike : Json → Json → Prop :=
  ObjectAlike (AlikeAt ["tags", "throttles"] (ListAlike Eq))

theorem RecurringJob.ofJson_eq_of_alike (h : Alike v w) : ofJson v = ofJson w := by
  refine h.read_bind_eq Json.null_iff_of_alikeAt_list fun o p h => ?_
  have hdraft : draft o = draft p := by
    simp (disch := decide) only [draft, Object.string, Object.int, Object.strings, h.value_eq,
      h.list_eq]
  rw [hdraft]

/-- The times of a phase differ at most in whether an empty histogram is an object. -/
def PhaseStats.Alike : Json → Json → Prop :=
  ObjectAlike (AlikeAt ["histogram"] (ListAlike Eq))

theorem PhaseStats.ofJson_eq_of_alike (h : Alike v w) : ofJson v = ofJson w := by
  refine h.read_bind_eq Json.null_iff_of_alikeAt_list fun o p h => ?_
  have hdraft : draft o = draft p := by
    simp (disch := decide) only [draft, Object.int, Object.ints, h.value_eq, h.list_eq]
  rw [hdraft]

/-- The statistics differ at most in the histograms of the two phases. -/
def QueueStats.Alike : Json → Json → Prop :=
  ObjectAlike (AlikeAt ["run", "wait"] PhaseStats.Alike)

theorem QueueStats.ofJson_eq_of_alike (h : Alike v w) : ofJson v = ofJson w := by
  have hnull : ∀ name v w, AlikeAt ["run", "wait"] PhaseStats.Alike name v w →
      (v = .null ↔ w = .null) :=
    fun _ _ _ hvalue => hvalue.null_iff fun _ _ => ObjectAlike.null_iff
  have hphase : ∀ {name}, name ∈ ["run", "wait"] → ∀ v w,
      AlikeAt ["run", "wait"] PhaseStats.Alike name v w →
        PhaseStats.ofJson v = PhaseStats.ofJson w := by
    intro name hname v w hvalue
    rw [Json.alikeAt_of_mem hname] at hvalue
    exact PhaseStats.ofJson_eq_of_alike hvalue
  refine h.read_bind_eq hnull fun o p h => ?_
  have hdraft : draft o = draft p := by
    simp (disch := decide) only [draft, Object.int, h.value_eq]
    refine bind_congr fun _ => bind_congr fun _ => bind_congr fun _ => ?_
    refine h.value_bind_congr ?_
    intro v w hrun
    rw [hphase (by decide) v w hrun]
    refine bind_congr fun _ => ?_
    refine h.value_bind_congr ?_
    intro v w hwait
    rw [hphase (by decide) v w hwait]
  rw [hdraft]

/-- The priority patterns differ at most in whether an empty list of patterns is an object. -/
def PriorityPattern.Alike : Json → Json → Prop :=
  ObjectAlike (AlikeAt ["pattern"] (ListAlike Eq))

theorem PriorityPattern.ofJson_eq_of_alike (h : Alike v w) : ofJson v = ofJson w := by
  refine h.read_bind_eq Json.null_iff_of_alikeAt_list fun o p h => ?_
  have hfairly : o.get? "fairly" = p.get? "fairly" :=
    h.get?_eq (Json.alikeAt_of_not_mem (by decide))
  have hdraft : draft o = draft p := by
    simp (disch := decide) only [draft, readFairly, Object.strings, hfairly, h.list_eq]
  rw [hdraft]

namespace RecordKind

/-- The values of a record are alike.  Records without lists are alike only if they are the same. -/
def Alike : RecordKind → Json → Json → Prop
  | job => Job.Alike
  | recurringJob => RecurringJob.Alike
  | phaseStats => PhaseStats.Alike
  | queueStats => QueueStats.Alike
  | priorityPattern => PriorityPattern.Alike
  | failure | event _ | queueCounts | workerCounts | throttle => Eq

theorem ofJson_eq_of_alike {r : RecordKind} (h : r.Alike v w) : r.ofJson v = r.ofJson w := by
  cases r with
  | job =>
      exact Job.ofJson_eq_of_alike h
  | recurringJob =>
      exact RecurringJob.ofJson_eq_of_alike h
  | phaseStats =>
      exact PhaseStats.ofJson_eq_of_alike h
  | queueStats =>
      exact QueueStats.ofJson_eq_of_alike h
  | priorityPattern =>
      exact PriorityPattern.ofJson_eq_of_alike h
  | failure | event _ | queueCounts | workerCounts | throttle =>
      exact congrArg _ h

end RecordKind

/-- The pages differ at most in whether an empty list of jids is an object. -/
def JidsResult.Alike : Json → Json → Prop :=
  ObjectAlike (AlikeAt ["jobs"] (ListAlike Eq))

theorem JidsResult.ofJson_eq_of_alike (h : Alike v w) : ofJson v = ofJson w := by
  refine h.asObject_bind_eq fun o p h => ?_
  have hjids : o.envelopeJids "jobs" = p.envelopeJids "jobs" :=
    h.envelopeJids_eq (Json.alikeAt_of_mem (by decide))
  have htotal : o.require "total" = p.require "total" :=
    h.require_eq (Json.alikeAt_of_not_mem (by decide))
  rw [hjids, htotal]

/-- The tracked jobs differ at most in which of their lists, and of those of each job, that are
empty are objects. -/
def TrackedJobs.Alike : Json → Json → Prop :=
  ObjectAlike fun name =>
    if name = "jobs" then ListAlike Job.Alike else AlikeAt ["expired"] (ListAlike Eq) name

theorem TrackedJobs.ofJson_eq_of_alike (h : Alike v w) : ofJson v = ofJson w := by
  refine h.asObject_bind_eq fun o p h => ?_
  have hjobs : o.envelopeList "jobs" "Job[]" Job.ofJson =
      p.envelopeList "jobs" "Job[]" Job.ofJson :=
    h.envelopeList_eq (if_pos rfl) fun _ _ => Job.ofJson_eq_of_alike
  have hexpired : o.envelopeJids "expired" = p.envelopeJids "expired" :=
    h.envelopeJids_eq ((if_neg (by decide)).trans (Json.alikeAt_of_mem (by decide)))
  rw [hjobs, hexpired]

/-- The jobs of a worker differ at most in which of their empty lists are objects. -/
def WorkerJobs.Alike : Json → Json → Prop :=
  ObjectAlike (AlikeAt ["jobs", "stalled"] (ListAlike Eq))

theorem WorkerJobs.ofJson_eq_of_alike (h : Alike v w) : ofJson v = ofJson w := by
  refine h.asObject_bind_eq fun o p h => ?_
  have hjids : o.envelopeJids "jobs" = p.envelopeJids "jobs" :=
    h.envelopeJids_eq (Json.alikeAt_of_mem (by decide))
  have hstalled : o.envelopeJids "stalled" = p.envelopeJids "stalled" :=
    h.envelopeJids_eq (Json.alikeAt_of_mem (by decide))
  rw [hjids, hstalled]

namespace EnvelopeKind

/-- The values of an envelope are alike. -/
def Alike : EnvelopeKind → Json → Json → Prop
  | jidsResult => JidsResult.Alike
  | trackedJobs => TrackedJobs.Alike
  | workerJobs => WorkerJobs.Alike

theorem ofJson_eq_of_alike {k : EnvelopeKind} (h : k.Alike v w) : k.ofJson v = k.ofJson w := by
  cases k with
  | jidsResult =>
      exact JidsResult.ofJson_eq_of_alike h
  | trackedJobs =>
      exact TrackedJobs.ofJson_eq_of_alike h
  | workerJobs =>
      exact WorkerJobs.ofJson_eq_of_alike h

end EnvelopeKind

end Records

/-- The lists that a server answers with. -/
inductive ListKind where
  | jobs (name : String)
  | jids | queueCounts | workerCounts | priorityPatterns
deriving DecidableEq

namespace ListKind

/-- What an element of a list is decoded into. -/
def Element : ListKind → Type
  | jobs _ => Job
  | jids => String
  | queueCounts => QueueCounts
  | workerCounts => WorkerCounts
  | priorityPatterns => PriorityPattern

/-- The decoder of a list. -/
def ofJson : (l : ListKind) → Json → Decode (List l.Element)
  | jobs name => Job.listOfJson name
  | jids => Reply.jidsOfJson
  | queueCounts => QueueCounts.listOfJson
  | workerCounts => WorkerCounts.listOfJson
  | priorityPatterns => Reply.patternsOfJson

/-- The values of a list are alike.  A priority pattern is a document of its own. -/
def Alike : ListKind → Json → Json → Prop
  | jobs _ => ListAlike Job.Alike
  | priorityPatterns => ListAlike (TextAlike PriorityPattern.Alike)
  | jids | queueCounts | workerCounts => ListAlike Eq

variable {v w : Json}

theorem patternsOfJson_eq_of_alike (h : ListAlike (TextAlike PriorityPattern.Alike) v w) :
    Reply.patternsOfJson v = Reply.patternsOfJson w := by
  cases h with
  | same | objectForArray | arrayForObject =>
      rfl
  | elements hall =>
      -- The texts themselves differ, so only what is made of them can be compared.
      unfold Reply.patternsOfJson
      rw [Json.list_arr, Json.list_arr]
      refine Json.each_stringElement_bind_congr
        (S := fun s t => decode PriorityPattern (.text s) = decode PriorityPattern (.text t))
        (fun _ => rfl) (hall.imp fun v w hvw => ?_)
        fun _ _ htexts => Traced.each_congr htexts fun _ _ hsame => hsame
      cases hvw with
      | same =>
          exact .inl rfl
      | @documents s t v w hs ht hvw =>
          refine .inr ⟨s, t, rfl, rfl, ?_⟩
          have hread : ∀ {text : String} {u : Json}, Json.parse text = some u →
              decode PriorityPattern (.text text) = PriorityPattern.ofJson u := by
            intro text u hu
            rw [decode, Document.json, hu]
            rfl
          rw [hread hs, hread ht, PriorityPattern.ofJson_eq_of_alike hvw]

theorem ofJson_eq_of_alike {l : ListKind} (h : l.Alike v w) : l.ofJson v = l.ofJson w := by
  cases l with
  | jobs name =>
      exact Json.list_eq_of_alike h fun _ _ => Job.ofJson_eq_of_alike
  | jids =>
      have hjids : v.list "jids" (Json.stringElement "jids") =
          w.list "jids" (Json.stringElement "jids") := Json.list_eq_of_alike_eq h
      change Reply.jidsOfJson v = Reply.jidsOfJson w
      rw [Reply.jidsOfJson, Reply.jidsOfJson, hjids]
  | queueCounts | workerCounts =>
      exact Json.list_eq_of_alike_eq h
  | priorityPatterns =>
      exact patternsOfJson_eq_of_alike h

end ListKind

/-- What a document is decoded as: a whole object, or a list. -/
inductive DecoderKind where
  | root (k : RootKind)
  | list (l : ListKind)
deriving DecidableEq

namespace DecoderKind

/-- What a document is decoded into. -/
def Model : DecoderKind → Type
  | root k => k.Model
  | list l => List l.Element

/-- The decoder of a document. -/
def ofJson : (d : DecoderKind) → Json → Decode d.Model
  | root k => k.ofJson
  | list l => l.ofJson

/-- The documents differ at most in which of their empty lists are objects. -/
def Alike : DecoderKind → Json → Json → Prop
  | root (.record r) => r.Alike
  | root (.envelope k) => k.Alike
  | list l => l.Alike

/-- Documents that are alike are decoded alike, and leave the same notices. -/
theorem ofJson_eq_of_alike {d : DecoderKind} {v w : Json} (h : d.Alike v w) :
    d.ofJson v = d.ofJson w := by
  cases d with
  | root k =>
      cases k with
      | record r =>
          exact RecordKind.ofJson_eq_of_alike h
      | envelope k =>
          exact EnvelopeKind.ofJson_eq_of_alike h
  | list l =>
      exact ListKind.ofJson_eq_of_alike h

end DecoderKind

section Kept

/-- What the elements of an array hold. -/
def Json.gather {α : Type} (f : Json → List α) : Json → List α
  | arr items => items.flatMap f
  | _ => []

/-- What the elements of a list property hold. -/
def Object.gather {α : Type} (name : String) (f : Json → List α) (o : Object) : List α :=
  ((o.get? name).map (Json.gather f)).getD []

/-- The further properties that an event of no known kind keeps of a value. -/
def Event.kept : Json → List Object
  | .obj o =>
      match Object.get? o "what" with
      | some (.str what) => if EventKind.ofName? what = none then [keptMembers o] else []
      | _ => []
  | _ => []

/-- What the events of a job keep of its value. -/
def Job.kept : Json → List Object
  | .obj o => Object.gather "history" Event.kept o
  | _ => []

/-- What the events of tracked jobs keep of their value. -/
def TrackedJobs.kept : Json → List Object
  | .obj o => Object.gather "jobs" Job.kept o
  | _ => []

/-- The further properties of an event of no known kind. -/
def Event.ownData : Event → List Object
  | e@(.log _ _ _) => [e.data]
  | _ => []

/-- The further properties of the events of a job that are of no known kind. -/
def Job.ownData (j : Job) : List Object :=
  j.history.flatMap Event.ownData

variable {α β : Type} {v w : Json} {o : Object} {name : String} {item : Json → Decode α}
  {f : Json → List β} {g : α → List β} {as : List α} {level : Nat}

/-- What a list holds can be told from its decoded elements if it can be told of each element. -/
theorem Json.gather_of_result_list (hv : v.Readable level)
    (h : (v.list name item).result = .ok as)
    (hitem : ∀ w a, w.Readable (level + 1) → (item w).result = .ok a → f w = g a) :
    gather f v = as.flatMap g := by
  obtain ⟨items, helements, hall⟩ := result_list_eq_ok_iff.mp h
  have hitems := readable_of_elements hv helements
  have hgather : gather f v = items.flatMap f := by
    rcases elements_eq_ok_iff.mp helements with rfl | ⟨rfl, rfl⟩ <;> rfl
  rw [hgather]
  clear hgather helements h
  induction hall with
  | nil =>
      rfl
  | cons hfirst _ ih =>
      obtain ⟨hreadable, hrest⟩ := List.forall_mem_cons.mp hitems
      rw [List.flatMap_cons, List.flatMap_cons, hitem _ _ hreadable hfirst, ih hrest]

theorem Object.gather_of_hasList (ho : (Json.obj o).Readable level) (h : o.HasList name item as)
    (hitem : ∀ w a, w.Readable (level + 2) → (item w).result = .ok a → f w = g a) :
    o.gather name f = as.flatMap g := by
  obtain ⟨u, hget, hlist⟩ := hasList_iff.mp h
  rw [gather, hget]
  exact Json.gather_of_result_list (readable_of_get? ho hget) hlist hitem

/-- What an event keeps can be told from the event. -/
theorem Event.kept_of_result {e : Event} (hv : v.Readable level) (h : (ofJson v).result = .ok e) :
    kept v = e.ownData := by
  obtain ⟨o, rfl, hread, hvalid⟩ := result_ofJson_eq_ok_iff.mp h
  have hkept : kept (.obj o) =
      if EventKind.ofName? e.what = none then [keptMembers o] else [] := by
    rw [kept, hread.what]
  rw [hkept, ofName?_what hvalid]
  cases e with
  | log what time extras =>
      obtain rfl : extras = LogDraft.texts (keptMembers o) := hread.own
      rw [ownData, data, extraMembers_texts (readable_of_mem_keptMembers hv)]
      rfl
  | put _ _ | popped _ _ | done _ | failed _ _ _ | failedRetries _ _ | throttled _ _
  | timedOut _ =>
      rfl

theorem Job.kept_of_result {j : Job} (hv : v.Readable level) (h : (ofJson v).result = .ok j) :
    kept v = j.ownData := by
  obtain ⟨o, rfl, hread, -⟩ := result_ofJson_eq_ok_iff.mp h
  exact Object.gather_of_hasList hv hread.history fun _ _ => Event.kept_of_result

theorem TrackedJobs.kept_of_result {t : TrackedJobs} (hv : v.Readable level)
    (h : (ofJson v).result = .ok t) : kept v = t.jobs.flatMap Job.ownData := by
  obtain ⟨o, rfl, hjobs, -⟩ := result_ofJson_eq_ok_iff.mp h
  exact Object.gather_of_hasList hv hjobs fun _ _ => Job.kept_of_result

namespace DecoderKind

/-- What the events in a document keep of it.  Only jobs have events. -/
def kept : DecoderKind → Json → List Object
  | root (.record (.event _)) => Event.kept
  | root (.record .job) => Job.kept
  | root (.envelope .trackedJobs) => TrackedJobs.kept
  | list (.jobs _) => Json.gather Job.kept
  | _ => fun _ => []

/-- The further properties of the events in what was decoded. -/
def ownData : (d : DecoderKind) → d.Model → List Object
  | root (.record (.event _)) => Event.ownData
  | root (.record .job) => Job.ownData
  | root (.envelope .trackedJobs) => fun t => t.jobs.flatMap Job.ownData
  | list (.jobs _) => fun jobs => jobs.flatMap Job.ownData
  | _ => fun _ => []

/-- What the events in a document keep can be told from what is decoded. -/
theorem kept_of_result {d : DecoderKind} {x : d.Model} (hv : v.Readable level)
    (h : (d.ofJson v).result = .ok x) : d.kept v = d.ownData x := by
  cases d with
  | root k =>
      cases k with
      | record r =>
          cases r with
          | event _ =>
              exact Event.kept_of_result hv h
          | job =>
              exact Job.kept_of_result hv h
          | recurringJob | failure | queueCounts | phaseStats | queueStats | workerCounts
          | throttle | priorityPattern =>
              rfl
      | envelope k =>
          cases k with
          | trackedJobs =>
              exact TrackedJobs.kept_of_result hv h
          | jidsResult | workerJobs =>
              rfl
  | list l =>
      cases l with
      | jobs name =>
          exact Json.gather_of_result_list hv h fun _ _ => Job.kept_of_result
      | jids | queueCounts | workerCounts | priorityPatterns =>
          rfl

/-- The empty object stands for the empty list wherever a list is expected.  It does not inside the
further properties of an event of no known kind: documents that differ in these are not decoded to
the same value. -/
theorem empty_list_as_object (d : DecoderKind) :
    (∀ v w, d.Alike v w → d.ofJson v = d.ofJson w) ∧
      ∀ s t v w x, Json.parse s = some v → Json.parse t = some w → d.kept v ≠ d.kept w →
        (d.ofJson v).result = .ok x → (d.ofJson w).result ≠ .ok x := by
  refine ⟨fun v w => ofJson_eq_of_alike, ?_⟩
  intro s t v w x hs ht hne hv hw
  have hkept : d.kept v = d.kept w :=
    (kept_of_result (Json.readable_of_parse hs) hv).trans
      (kept_of_result (Json.readable_of_parse ht) hw).symm
  exact hne hkept

/-- Tracked jobs, of which one has nothing but tags. -/
def tagsOnly (tags expired : Json) : Json :=
  .obj [("jobs", .arr [.obj [("tags", tags)]]), ("expired", expired)]

/-- An event of no known kind with a further property. -/
def noted (text : Json) : Json :=
  .obj [("what", .str "noted"), ("when", .int 0), ("text", text)]

theorem empty_list_as_object_noted :
    (root (.envelope .trackedJobs)).Alike (tagsOnly (.obj []) (.arr []))
        (tagsOnly (.arr []) (.obj [])) ∧
      TrackedJobs.ofJson (tagsOnly (.obj []) (.arr [])) =
        TrackedJobs.ofJson (tagsOnly (.arr []) (.obj [])) ∧
      (Event.ofJson (noted (.arr []))).result = .ok (.log "noted" 0 [("text", "[]")]) ∧
      (Event.ofJson (noted (.obj []))).result ≠ .ok (.log "noted" 0 [("text", "[]")]) := by
  have hjob : Job.Alike (.obj [("tags", .obj [])]) (.obj [("tags", .arr [])]) :=
    .members (.cons ⟨rfl, .arrayForObject⟩ .nil)
  have htracked : (root (.envelope .trackedJobs)).Alike (tagsOnly (.obj []) (.arr []))
      (tagsOnly (.arr []) (.obj [])) :=
    .members (.cons ⟨rfl, .elements (.cons hjob .nil)⟩ (.cons ⟨rfl, .objectForArray⟩ .nil))
  have harray : Json.parse (noted (.arr [])).render = some (noted (.arr [])) := by decide +kernel
  have hobject : Json.parse (noted (.obj [])).render = some (noted (.obj [])) := by
    decide +kernel
  have hkept : Event.kept (noted (.arr [])) ≠ Event.kept (noted (.obj [])) := by decide
  have hread : (Event.ofJson (noted (.arr []))).result =
      .ok (.log "noted" 0 [("text", "[]")]) := by decide
  refine ⟨htracked, ?_, hread, ?_⟩
  · exact (empty_list_as_object (root (.envelope .trackedJobs))).1 _ _ htracked
  · exact (empty_list_as_object (root (.record (.event .put)))).2 _ _ _ _ _ harray hobject hkept
      hread

end DecoderKind

end Kept

end JobWire
