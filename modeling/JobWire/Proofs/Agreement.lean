import JobWire.Job.Recurring
import JobWire.Proofs.Event.Reading
import JobWire.Proofs.Job.Failure
import JobWire.Queue.Counts
import JobWire.Queue.PriorityPattern
import JobWire.Queue.Stats
import JobWire.Throttle
import JobWire.Worker.Counts

/-!
# What decoding depends on

A decoder looks up each property by its name.  So two objects that have the same values at the names
that it looks up are decoded alike, whatever other properties they have and however their properties
are ordered, and they are refused for the same fault.

These names are the ones that a record declares, but for priority patterns: they are asked whether
they are fair as well, which they need not say.

**Results.**
* `Shape.result_read_bind_congr`: what follows a check of declared properties.
* `Job.result_ofJson_congr` and its like for the other records: decoding depends on the declared
  properties.
-/

namespace JobWire

theorem findSome?_congr {α β : Type} {f g : α → Option β} {as : List α}
    (h : ∀ a ∈ as, f a = g a) : as.findSome? f = as.findSome? g := by
  induction as with
  | nil =>
      rfl
  | cons a as ih =>
      obtain ⟨ha, has⟩ := List.forall_mem_cons.mp h
      rw [List.findSome?_cons, List.findSome?_cons, ha, ih has]

namespace Object

/-- The objects have the same values at the names, and lack the same of them. -/
def AgreeOn (names : List String) (o p : Object) : Prop :=
  ∀ name ∈ names, o.get? name = p.get? name

section AgreeOn

variable {names : List String} {o p : Object} {name other : String} {v : Json}

theorem AgreeOn.value (h : AgreeOn names o p) :
    ∀ name ∈ names, o.value name = p.value name := by
  intro name hname
  unfold Object.value
  rw [h name hname]

theorem AgreeOn.presence (h : AgreeOn names o p) :
    ∀ name ∈ names, o.presence name = p.presence name := by
  intro name hname
  unfold Object.presence
  rw [h name hname]

theorem AgreeOn.fits {s : Shape} (h : AgreeOn s.names o p) (ho : s.Fits o) : s.Fits p := by
  intro name hname
  rw [← h name hname]
  exact ho name hname

theorem get?_without_of_ne (h : other ≠ name) : (o.without name).get? other = o.get? other := by
  induction o with
  | nil =>
      rfl
  | cons m rest ih =>
      by_cases hm : m.1 = name
      · have hskip : Object.without (m :: rest) name = Object.without rest name := by
          simp [without, hm]
        have hne : other ≠ m.1 := hm.symm ▸ h
        rw [hskip, ih, get?_cons_of_ne hne]
      · have hkeep : Object.without (m :: rest) name = m :: Object.without rest name := by
          simp [without, hm]
        rw [hkeep, get?_cons, get?_cons, ih]

theorem agreeOn_set (h : name ∉ names) : AgreeOn names o (set name v o) := by
  intro n hn
  have hne : n ≠ name := fun heq => h (heq ▸ hn)
  rw [get?_set_of_ne hne]

end AgreeOn

end Object

section Checked

variable {s : Shape} {o p : Object} {α : Type} {f : Object → Decode α}

theorem Shape.firstFault?_congr (h : ∀ name ∈ s.names, o.presence name = p.presence name) :
    s.firstFault? o = s.firstFault? p := by
  refine findSome?_congr fun name hname => ?_
  unfold fault?
  rw [h name hname]

/-- What is decoded after a check of the declared properties depends on these alone if what follows
the check does. -/
theorem Shape.result_read_bind_congr (h : Object.AgreeOn s.names o p)
    (hf : (f o).result = (f p).result) :
    (s.read (.obj o) >>= f).result = (s.read (.obj p) >>= f).result := by
  rw [Traced.result_bind, Traced.result_bind, read_obj, read_obj, firstFault?_congr h.presence]
  cases s.firstFault? p with
  | none =>
      exact hf
  | some e =>
      rfl

end Checked

section Records

variable {o p : Object}

theorem Job.result_ofJson_congr (h : Object.AgreeOn shape.names o p) :
    (ofJson (.obj o)).result = (ofJson (.obj p)).result := by
  have hvalue := h.value
  simp only [shape, List.forall_mem_cons] at hvalue
  have hdraft : draft o = draft p := by
    simp only [draft, Object.string, Object.optionalString, Object.int, Object.bool,
      Object.strings, Object.list, hvalue]
  exact Shape.result_read_bind_congr h (by rw [hdraft])

theorem RecurringJob.result_ofJson_congr (h : Object.AgreeOn shape.names o p) :
    (ofJson (.obj o)).result = (ofJson (.obj p)).result := by
  have hvalue := h.value
  simp only [shape, List.forall_mem_cons] at hvalue
  have hdraft : draft o = draft p := by
    simp only [draft, Object.string, Object.int, Object.strings, Object.list, hvalue]
  exact Shape.result_read_bind_congr h (by rw [hdraft])

/-- What is read as a failure depends on its declared properties, unless it is empty and so none. -/
theorem Failure.result_ofJson_congr (ho : o ≠ []) (hp : p ≠ [])
    (h : Object.AgreeOn shape.names o p) :
    (ofJson (.obj o)).result = (ofJson (.obj p)).result := by
  have hvalue := h.value
  simp only [shape, List.forall_mem_cons] at hvalue
  have hdraft : draft o = draft p := by
    simp only [draft, Object.string, Object.int, hvalue]
  obtain ⟨m, ms, rfl⟩ := List.exists_cons_of_ne_nil ho
  obtain ⟨n, ns, rfl⟩ := List.exists_cons_of_ne_nil hp
  exact Shape.result_read_bind_congr h (by rw [hdraft])

theorem EventKind.result_decode_congr {kind : EventKind}
    (h : Object.AgreeOn kind.shape.names o p) :
    (kind.decode o).result = (kind.decode p).result := by
  have hvalue := h.value
  have hdraft : kind.draft o = kind.draft p := by
    cases kind with
    | put | popped | done | failed | failedRetries | throttled | timedOut =>
        simp only [shape, List.forall_mem_cons] at hvalue
        simp only [draft, Object.string, Object.int, hvalue]
  exact Shape.result_read_bind_congr h (by rw [hdraft])

theorem EventKind.what_mem_names (kind : EventKind) : "what" ∈ kind.shape.names := by
  cases kind <;> simp [shape]

theorem Event.ofJson_obj_of_what {kind : EventKind}
    (h : o.get? "what" = some (.str kind.name)) : ofJson (.obj o) = kind.decode o := by
  have hwhat : o.what = .ok kind.name := Object.what_eq_ok_iff.mpr h
  have hkind : (liftM (.ok kind.name : Decoded String) : Decode String) = pure kind.name := rfl
  rw [ofJson, Json.lift_asObject_obj, pure_bind, hwhat, hkind, pure_bind, EventKind.ofName?_name]

/-- What is read as an event of a known kind depends on the properties that the kind declares. -/
theorem Event.result_ofJson_congr {kind : EventKind} (hwhat : o.get? "what" = some (.str kind.name))
    (h : Object.AgreeOn kind.shape.names o p) :
    (ofJson (.obj o)).result = (ofJson (.obj p)).result := by
  rw [ofJson_obj_of_what hwhat, ofJson_obj_of_what (h "what" kind.what_mem_names ▸ hwhat)]
  exact EventKind.result_decode_congr h

theorem QueueCounts.result_ofJson_congr (h : Object.AgreeOn shape.names o p) :
    (ofJson (.obj o)).result = (ofJson (.obj p)).result := by
  have hvalue := h.value
  simp only [shape, List.forall_mem_cons] at hvalue
  have hdraft : draft o = draft p := by
    simp only [draft, Object.string, Object.int, Object.bool, hvalue]
  exact Shape.result_read_bind_congr h (by rw [hdraft])

theorem PhaseStats.result_ofJson_congr (h : Object.AgreeOn shape.names o p) :
    (ofJson (.obj o)).result = (ofJson (.obj p)).result := by
  have hvalue := h.value
  simp only [shape, List.forall_mem_cons] at hvalue
  have hdraft : draft o = draft p := by
    simp only [draft, Object.int, Object.ints, Object.list, hvalue]
  exact Shape.result_read_bind_congr h (by rw [hdraft])

theorem QueueStats.result_ofJson_congr (h : Object.AgreeOn shape.names o p) :
    (ofJson (.obj o)).result = (ofJson (.obj p)).result := by
  have hvalue := h.value
  simp only [shape, List.forall_mem_cons] at hvalue
  have hdraft : draft o = draft p := by
    simp only [draft, Object.int, hvalue]
  exact Shape.result_read_bind_congr h (by rw [hdraft])

theorem WorkerCounts.result_ofJson_congr (h : Object.AgreeOn shape.names o p) :
    (ofJson (.obj o)).result = (ofJson (.obj p)).result := by
  have hvalue := h.value
  simp only [shape, List.forall_mem_cons] at hvalue
  have hdraft : draft o = draft p := by
    simp only [draft, Object.string, Object.int, hvalue]
  exact Shape.result_read_bind_congr h (by rw [hdraft])

theorem Throttle.result_ofJson_congr (h : Object.AgreeOn shape.names o p) :
    (ofJson (.obj o)).result = (ofJson (.obj p)).result := by
  have hvalue := h.value
  simp only [shape, List.forall_mem_cons] at hvalue
  have hdraft : draft o = draft p := by
    simp only [draft, Object.string, Object.int, hvalue]
  exact Shape.result_read_bind_congr h (by rw [hdraft])

/-- What is read as a priority pattern depends on the property `fairly` besides the declared one. -/
theorem PriorityPattern.result_ofJson_congr (h : Object.AgreeOn shape.names o p)
    (hfairly : o.get? "fairly" = p.get? "fairly") :
    (ofJson (.obj o)).result = (ofJson (.obj p)).result := by
  have hvalue := h.value
  simp only [shape, List.forall_mem_cons] at hvalue
  have hdraft : draft o = draft p := by
    simp only [draft, readFairly, Object.strings, Object.list, hvalue, hfairly]
  exact Shape.result_read_bind_congr h (by rw [hdraft])

end Records

end JobWire
