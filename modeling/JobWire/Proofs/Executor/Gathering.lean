import JobWire.Executor

/-!
# Gathered calls under a lock

Gathered calls are tasks that run at the same time and share one lock.  They come to the lock in
the given order and wait there in line; the one that holds the lock has its call recorded first,
and its reply afterwards, when it lets the lock go.  Between any two of these events another task
may come to the lock.

**Results.**
* `Executor.gather_eq`: the replies to gathered calls and the executor after them.
* `Batch.InOrder.next`: what holds of the tasks of a batch is kept by every event.
* `Batch.interleaved`: whatever the interleaving, the tasks never wait for each other forever, and
  after three events for each call they have the replies, and leave the executor, of the calls that
  run one after the other.
-/

namespace JobWire

namespace Executor

variable {x y : Executor}

/-- A reply depends on what is registered only. -/
theorem reply_congr (h : y.responses = x.responses) (call : Call) :
    y.reply call = x.reply call := by
  simp only [reply, response?, h]

theorem gather_eq (x : Executor) (calls : List Call) :
    gather x calls = (calls.map x.reply, { x with calls := x.calls ++ calls }) := by
  induction calls generalizing x with
  | nil =>
      simp only [gather, List.map_nil, List.append_nil]
  | cons call calls ih =>
      have hgather : gather x (call :: calls) =
          ((x.execute call).1 :: (gather (x.execute call).2 calls).1,
            (gather (x.execute call).2 calls).2) := rfl
      have hreply : (x.execute call).2.reply = x.reply :=
        funext fun c => reply_congr responses_execute c
      rw [hgather, ih, hreply]
      simp only [execute, List.map_cons, List.append_assoc, List.singleton_append]

end Executor

/-- A call of a batch, with its place in the batch. -/
abbrev Task := Call × Nat

/-- The tasks of gathered calls, and the executor that they share. -/
structure Batch where
  executor : Executor
  /-- The tasks that have not come to the lock, in order. -/
  pending : List Task
  /-- The tasks that wait at the lock, in line. -/
  waiting : List Task := []
  /-- The task that holds the lock. -/
  holder : Option Task := none
  /-- The replies of the finished tasks, with the places of their calls. -/
  replies : List (Client Reply × Nat) := []

namespace Batch

/-- A batch of calls of which none has come to the lock. -/
def start (x : Executor) (calls : List Call) : Batch where
  executor := x
  pending := calls.zipIdx

/-- The next event in a batch. -/
inductive Next : Batch → Batch → Prop
  | arrive {b : Batch} {t : Task} {ts : List Task} :
      b.pending = t :: ts →
      Next b { b with pending := ts, waiting := b.waiting ++ [t] }
  | acquire {b : Batch} {t : Task} {ts : List Task} :
      b.holder = none →
      b.waiting = t :: ts →
      Next b { b with
        waiting := ts
        holder := some t
        executor := { b.executor with calls := b.executor.calls ++ [t.1] } }
  | release {b : Batch} {t : Task} :
      b.holder = some t →
      Next b { b with holder := none, replies := b.replies ++ [(b.executor.reply t.1, t.2)] }

/-- A number of events from one batch to another. -/
inductive Events : Nat → Batch → Batch → Prop
  | none {b : Batch} : Events 0 b b
  | next {n : Nat} {b c d : Batch} : Events n b c → Next c d → Events (n + 1) b d

/-- The number of events that are left. -/
def remaining (b : Batch) : Nat :=
  3 * b.pending.length + 2 * b.waiting.length + b.holder.toList.length

section Progress

variable {b c : Batch}

theorem remaining_start (x : Executor) (calls : List Call) :
    (start x calls).remaining = 3 * calls.length := by
  simp [remaining, start]

/-- Every event brings the batch one step nearer to its end. -/
theorem Next.remaining (h : Next b c) : c.remaining + 1 = b.remaining := by
  cases h with
  | arrive hpending =>
      simp only [Batch.remaining, hpending, List.length_append, List.length_cons, List.length_nil]
      omega
  | acquire hholder hwaiting =>
      simp only [Batch.remaining, hholder, hwaiting, Option.toList_some, Option.toList_none,
        List.length_cons, List.length_nil]
      omega
  | release hholder =>
      simp only [Batch.remaining, hholder, Option.toList_some, Option.toList_none,
        List.length_cons, List.length_nil]

theorem Events.remaining {n : Nat} (h : Events n b c) : c.remaining + n = b.remaining := by
  induction h with
  | none => rfl
  | next _ hnext ih =>
      have := hnext.remaining
      omega

/-- A batch that is not at its end is not stuck. -/
theorem exists_next (h : b.remaining ≠ 0) : ∃ c, Next b c := by
  cases hholder : b.holder with
  | some t =>
      exact ⟨_, .release hholder⟩
  | none =>
      cases hwaiting : b.waiting with
      | cons t ts =>
          exact ⟨_, .acquire hholder hwaiting⟩
      | nil =>
          cases hpending : b.pending with
          | cons t ts =>
              exact ⟨_, .arrive hpending⟩
          | nil =>
              exact absurd (by simp [Batch.remaining, hholder, hwaiting, hpending]) h

end Progress

/-- The tasks of the batch are in order: the finished ones, then the one that holds the lock, then
those that wait, and then those that have not come.  What has a reply is the finished tasks, and
what is recorded is these and the task that holds the lock. -/
structure InOrder (x : Executor) (tasks finished : List Task) (b : Batch) : Prop where
  tasks : tasks = finished ++ b.holder.toList ++ b.waiting ++ b.pending
  responses : b.executor.responses = x.responses
  calls : b.executor.calls = x.calls ++ (finished ++ b.holder.toList).map Prod.fst
  replies : b.replies = finished.map (Prod.map x.reply id)

section Interleaving

variable {x : Executor} {calls : List Call} {tasks finished : List Task} {b c : Batch}

theorem inOrder_start : InOrder x calls.zipIdx [] (start x calls) where
  tasks := rfl
  responses := rfl
  calls := (List.append_nil _).symm
  replies := rfl

/-- Every event keeps the tasks in order. -/
theorem InOrder.next (h : InOrder x tasks finished b) (hnext : Next b c) :
    ∃ finished', InOrder x tasks finished' c := by
  cases hnext with
  | arrive hpending =>
      refine ⟨finished, ?_, h.responses, h.calls, h.replies⟩
      rw [h.tasks, hpending]
      simp only [List.append_assoc, List.singleton_append]
  | @acquire t ts hholder hwaiting =>
      refine ⟨finished, ?_, h.responses, ?_, h.replies⟩
      · rw [h.tasks, hholder, hwaiting]
        simp only [Option.toList_none, Option.toList_some, List.append_assoc, List.cons_append,
          List.nil_append]
      · have hcalls := h.calls
        rw [hholder, Option.toList_none, List.append_nil] at hcalls
        simp only [hcalls, Option.toList_some, List.map_append, List.append_assoc, List.map_cons,
          List.map_nil]
  | @release t hholder =>
      refine ⟨finished ++ [t], ?_, h.responses, ?_, ?_⟩
      · rw [h.tasks, hholder]
        simp only [Option.toList_none, Option.toList_some, List.append_nil]
      · rw [h.calls, hholder]
        simp only [Option.toList_none, Option.toList_some, List.append_nil]
      · have hreply : b.executor.reply t.1 = x.reply t.1 := Executor.reply_congr h.responses t.1
        simp only [h.replies, hreply, List.map_append, List.map_cons, List.map_nil, Prod.map,
          id_eq]

theorem Events.inOrder {n : Nat} (h : Events n (start x calls) b) :
    ∃ finished, InOrder x calls.zipIdx finished b := by
  generalize hb : start x calls = b' at h
  induction h with
  | none =>
      subst hb
      exact ⟨[], inOrder_start⟩
  | next _ hnext ih =>
      obtain ⟨finished, hfinished⟩ := ih hb
      exact hfinished.next hnext

/-- A batch at its end has the replies, and the executor, of the calls one after the other. -/
theorem InOrder.eq_gather (h : InOrder x calls.zipIdx finished b) (hend : b.remaining = 0) :
    b.replies = (gather x calls).1.zipIdx ∧ b.executor = (gather x calls).2 := by
  have hpending : b.pending = [] := List.length_eq_zero_iff.mp (by unfold remaining at hend; omega)
  have hwaiting : b.waiting = [] := List.length_eq_zero_iff.mp (by unfold remaining at hend; omega)
  have hholder : b.holder.toList = [] :=
    List.length_eq_zero_iff.mp (by unfold remaining at hend; omega)
  have htasks : calls.zipIdx = finished := by
    rw [h.tasks, hpending, hwaiting, hholder]
    simp only [List.append_nil]
  have hcalls : b.executor.calls = x.calls ++ calls := by
    rw [h.calls, hholder, List.append_nil, ← htasks, List.zipIdx_map_fst]
  rw [Executor.gather_eq]
  constructor
  · rw [h.replies, ← htasks, List.zipIdx_map]
  · change b.executor = { x with calls := x.calls ++ calls }
    rw [← hcalls, ← h.responses]

/-- Every interleaving of gathered calls goes on until each call has its reply, and then it has the
replies, and the executor, of the calls one after the other. -/
theorem interleaved {n : Nat} (h : Events n (start x calls) b) :
    (n < 3 * calls.length ∧ ∃ c, Next b c) ∨
      (n = 3 * calls.length ∧ b.replies = (gather x calls).1.zipIdx ∧
        b.executor = (gather x calls).2) := by
  have hremaining := h.remaining
  rw [remaining_start] at hremaining
  by_cases hend : b.remaining = 0
  · obtain ⟨finished, hfinished⟩ := h.inOrder
    exact .inr ⟨by omega, hfinished.eq_gather hend⟩
  · exact .inl ⟨by omega, exists_next hend⟩

end Interleaving

end Batch
end JobWire
