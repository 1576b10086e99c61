import JobWire.Proofs.Executor.Gathering
import Mathlib.Data.List.Basic

/-!
# What a run of an executor comes to

An executor takes one step after another: responses are registered, calls run alone, with a decoder
or gathered.  What a run comes to is told from its steps.  The calls that it records are the ones
that the steps attempt, whether they succeed or not; and the outcome of a step is that of its calls,
answered by the response that was registered last for their commands.

**Results.**
* `Executor.calls_step`, `Executor.response?_step`, `Executor.outcome_step`: what one step does.
* `Executor.calls_run`, `Executor.response?_run`, `Executor.getElem?_run`: what a run does.
* `Executor.accounted`: the account of a run.
-/

namespace JobWire

/-- What becomes of a call when the given responses are registered. -/
def Call.answer (responses : String → Option Response) (call : Call) : Client Reply where
  log := [.executing call.command call.arguments.length]
  result :=
    match responses call.command with
    | some (.fixed reply) => .ok reply
    | some (.computed f) => (f call.arguments).mapError ClientError.foreign
    | none => .error (.command call.command "no response registered")

/-- Why a call fails: nothing is registered for its command, or its reply cannot be computed. -/
inductive Call.Fails (responses : String → Option Response) (call : Call) : ClientError → Prop
  | unregistered :
      responses call.command = none →
      Fails responses call (.command call.command "no response registered")
  | uncomputed {f : List Argument → Except String Reply} {text : String} :
      responses call.command = some (.computed f) →
      f call.arguments = .error text →
      Fails responses call (.foreign text)

namespace Call

variable {responses : String → Option Response} {call : Call} {e : ClientError}

theorem answer_of_fails (h : call.Fails responses e) :
    (call.answer responses).result = .error e := by
  cases h with
  | unregistered hnone =>
      simp only [answer, hnone]
  | uncomputed hsome herror =>
      simp only [answer, hsome, herror]
      rfl

theorem fails_of_answer (h : (call.answer responses).result = .error e) :
    call.Fails responses e := by
  unfold answer at h
  cases hresponse : responses call.command with
  | none =>
      simp only [hresponse] at h
      cases h
      exact .unregistered hresponse
  | some response =>
      cases response with
      | fixed reply =>
          simp only [hresponse] at h
          cases h
      | computed f =>
          cases hreply : f call.arguments with
          | ok reply =>
              simp only [hresponse, hreply] at h
              cases h
          | error text =>
              simp only [hresponse, hreply] at h
              cases h
              exact .uncomputed hresponse hreply

/-- A call fails for the reasons that there are, and for no other. -/
theorem answer_eq_error_iff :
    (call.answer responses).result = .error e ↔ call.Fails responses e :=
  ⟨fails_of_answer, answer_of_fails⟩

/-- An error that carries a command is that of a command without a response. -/
theorem answer_command_iff :
    (∃ command text, (call.answer responses).result = .error (.command command text)) ↔
      responses call.command = none := by
  simp only [answer_eq_error_iff]
  constructor
  · rintro ⟨_, _, hnone | _⟩
    exact hnone
  · intro h
    exact ⟨_, _, .unregistered h⟩

end Call

namespace Step

variable {α : Type}

/-- The calls that a step attempts. -/
def attempts : Step α → List Call
  | respond _ _ => []
  | execute call | executeAndDecode _ call => [call]
  | gather calls => calls

/-- The response that a step registers for a command. -/
def registers? (command : String) : Step α → Option Response
  | respond other response => if other = command then some response else none
  | execute _ | executeAndDecode _ _ | gather _ => none

/-- The outcome of a step when the given responses are registered. -/
def outcome (responses : String → Option Response) : Step α → Outcome α
  | respond _ _ => .registered
  | execute call => .replied (call.answer responses)
  | executeAndDecode decoder call => .decoded (call.answer responses >>= decoder)
  | gather calls => .gathered (calls.map (·.answer responses))

end Step

namespace Executor

variable {α : Type} {x : Executor} {s : Step α} {steps before after : List (Step α)}
  {command : String}

/-- What is registered for a command after some steps: by the last of them that registers anything
for it, or else from before. -/
def latest? (x : Executor) (steps : List (Step α)) (command : String) : Option Response :=
  (steps.reverse.findSome? (Step.registers? command)).or (x.response? command)

section Step

theorem reply_eq_answer : x.reply = Call.answer x.response? := by
  funext call
  unfold reply Call.answer
  cases x.response? call.command with
  | none =>
      rfl
  | some response =>
      cases response with
      | fixed reply =>
          rfl
      | computed f =>
          cases f call.arguments <;> rfl

theorem step_gather (x : Executor) (calls : List Call) :
    x.step (.gather calls : Step α) =
      (.gathered (calls.map x.reply), { x with calls := x.calls ++ calls }) := by
  have hstep : x.step (.gather calls : Step α) =
      (.gathered (gather x calls).1, (gather x calls).2) := rfl
  rw [hstep, gather_eq]

/-- A step records the calls that it attempts. -/
theorem calls_step : (x.step s).2.calls = x.calls ++ s.attempts := by
  cases s with
  | respond command response =>
      exact (List.append_nil _).symm
  | execute call =>
      rfl
  | executeAndDecode decoder call =>
      rfl
  | gather calls =>
      rw [step_gather]
      rfl

theorem responses_step_of_ne (h : ∀ command response, s ≠ .respond command response) :
    (x.step s).2.responses = x.responses := by
  cases s with
  | respond command response =>
      exact absurd rfl (h command response)
  | execute call =>
      rfl
  | executeAndDecode decoder call =>
      rfl
  | gather calls =>
      rw [step_gather]

theorem response?_step :
    (x.step s).2.response? command = (s.registers? command).or (x.response? command) := by
  cases s with
  | respond other response =>
      change (x.respond other response).response? command =
        (if other = command then some response else none).or (x.response? command)
      by_cases h : other = command
      · subst h
        rw [response?_respond_self, if_pos rfl, Option.some_or]
      · rw [response?_respond_of_ne (Ne.symm h), if_neg h, Option.none_or]
  | execute call =>
      rfl
  | executeAndDecode decoder call =>
      rfl
  | gather calls =>
      have hresponses : (x.step (.gather calls : Step α)).2.responses = x.responses :=
        responses_step_of_ne nofun
      simp only [response?, hresponses, Step.registers?, Option.none_or]

theorem outcome_step : (x.step s).1 = s.outcome x.response? := by
  cases s with
  | respond command response =>
      rfl
  | execute call =>
      exact congrArg (fun f => Outcome.replied (f call)) reply_eq_answer
  | executeAndDecode decoder call =>
      exact congrArg (fun f => Outcome.decoded (f call >>= decoder)) reply_eq_answer
  | gather calls =>
      rw [step_gather, reply_eq_answer]
      rfl

end Step

section Run

theorem run_cons (x : Executor) (s : Step α) (steps : List (Step α)) :
    x.run (s :: steps) =
      ((x.step s).1 :: ((x.step s).2.run steps).1, ((x.step s).2.run steps).2) := rfl

theorem run_append (x : Executor) (before after : List (Step α)) :
    x.run (before ++ after) =
      ((x.run before).1 ++ ((x.run before).2.run after).1, ((x.run before).2.run after).2) := by
  induction before generalizing x with
  | nil =>
      rfl
  | cons s before ih =>
      rw [List.cons_append, run_cons, run_cons, ih]
      rfl

theorem length_run : (x.run steps).1.length = steps.length := by
  induction steps generalizing x with
  | nil =>
      rfl
  | cons s steps ih =>
      rw [run_cons, List.length_cons, List.length_cons, ih]

/-- A run records the calls that its steps attempt. -/
theorem calls_run : (x.run steps).2.calls = x.calls ++ steps.flatMap Step.attempts := by
  induction steps generalizing x with
  | nil =>
      exact (List.append_nil _).symm
  | cons s steps ih =>
      rw [run_cons, ih, calls_step, List.flatMap_cons, List.append_assoc]

theorem latest?_cons : x.latest? (s :: steps) command = (x.step s).2.latest? steps command := by
  unfold latest?
  rw [response?_step, List.reverse_cons, List.findSome?_append, Option.or_assoc]
  congr 2
  cases h : s.registers? command <;> simp [h]

/-- After a run, what is registered for a command is what was registered for it last. -/
theorem response?_run : (x.run steps).2.response? command = x.latest? steps command := by
  induction steps generalizing x with
  | nil =>
      rfl
  | cons s steps ih =>
      rw [run_cons, ih, latest?_cons]

/-- The outcome of a step is told from what was registered last before it. -/
theorem getElem?_run (x : Executor) (before after : List (Step α)) (s : Step α) :
    (x.run (before ++ s :: after)).1[before.length]? = some (s.outcome (x.latest? before)) := by
  have hresponses : (x.run before).2.response? = x.latest? before := funext fun _ => response?_run
  rw [run_append, List.getElem?_append_right (Nat.le_of_eq length_run), length_run, Nat.sub_self,
    run_cons, outcome_step, hresponses]
  rfl

/-- Calls that run one after the other have the replies of the gathered calls, and leave the same
executor. -/
theorem run_map_execute (x : Executor) (calls : List Call) :
    x.run (calls.map (.execute : Call → Step α)) =
      ((gather x calls).1.map .replied, (gather x calls).2) := by
  induction calls generalizing x with
  | nil =>
      rfl
  | cons call calls ih =>
      rw [List.map_cons, run_cons, ih]
      rfl

end Run

/-- What steps do to an executor. -/
structure Orderly (α : Type) (x : Executor) : Prop where
  /-- A step that registers nothing leaves what is registered as it is. -/
  kept : ∀ s : Step α, (∀ command response, s ≠ .respond command response) →
    (x.step s).2.responses = x.responses
  /-- Registering changes the response of its command only, and no call. -/
  registered : ∀ command response, ∃ y,
    x.step (.respond command response : Step α) = (.registered, y) ∧ y.calls = x.calls ∧
      y.response? command = some response ∧
        ∀ other, other ≠ command → y.response? other = x.response? other
  /-- Gathered calls have the replies of the same calls one after the other, and leave the same
  executor. -/
  gathered : ∀ calls, ∃ replies y,
    x.step (.gather calls : Step α) = (.gathered replies, y) ∧
      x.run (calls.map (.execute : Call → Step α)) = (replies.map .replied, y)
  /-- So they do in every interleaving, and none of them gets stuck. -/
  interleaved : ∀ calls n b, Batch.Events n (.start x calls) b →
    (n < 3 * calls.length ∧ ∃ c, Batch.Next b c) ∨
      (n = 3 * calls.length ∧ x.step (.gather calls : Step α) =
        (.gathered (b.replies.map Prod.fst), b.executor))
  /-- A decoder has no part in what its call leaves behind. -/
  decoded : ∀ (decoder : Reply → Client α) call,
    (x.step (.executeAndDecode decoder call)).2 = (x.step (.execute call : Step α)).2

theorem orderly : Orderly α x where
  kept _ h := responses_step_of_ne h
  registered command response :=
    ⟨_, rfl, rfl, response?_respond_self, fun _ h => response?_respond_of_ne h⟩
  gathered calls := ⟨_, _, rfl, run_map_execute x calls⟩
  interleaved calls n b h := by
    rcases Batch.interleaved h with hgoing | ⟨hn, hreplies, hexecutor⟩
    · exact .inl hgoing
    · refine .inr ⟨hn, ?_⟩
      rw [hreplies, List.zipIdx_map_fst, hexecutor]
      rfl
  decoded _ _ := rfl

/-- The account of a run. -/
structure Accounted (x : Executor) (steps : List (Step α)) : Prop where
  /-- The recorded calls are the attempted ones, once each and in order. -/
  calls : (x.run steps).2.calls = x.calls ++ steps.flatMap Step.attempts
  /-- What is registered for a command is what was registered last. -/
  responses : ∀ command, (x.run steps).2.response? command = x.latest? steps command
  /-- Every step has an outcome, and it is told from what was registered last before the step. -/
  outcomes : (x.run steps).1.length = steps.length ∧
    ∀ before s after, steps = before ++ s :: after →
      (x.run steps).1[before.length]? = some (s.outcome (x.latest? before))
  /-- A call fails with an error that carries a command if and only if nothing was registered for
  its own, which is the one that the error carries; and it fails in no other way than because its
  reply cannot be computed. -/
  unregistered : ∀ before call after, steps = before ++ .execute call :: after →
    ∃ reply, (x.run steps).1[before.length]? = some (.replied reply) ∧
      ((∃ command text, reply.result = .error (.command command text)) ↔
        x.latest? before call.command = none) ∧
      ∀ e, reply.result = .error e ↔ call.Fails (x.latest? before) e
  /-- So every next step is as orderly as the ones before. -/
  orderly : Orderly α (x.run steps).2

/-- Every run of an executor is accounted for by its steps. -/
theorem accounted (x : Executor) (steps : List (Step α)) : x.Accounted steps where
  calls := calls_run
  responses _ := response?_run
  outcomes := by
    refine ⟨length_run, ?_⟩
    rintro before s after rfl
    exact getElem?_run x before after s
  unregistered := by
    rintro before call after rfl
    exact ⟨_, getElem?_run x before after (.execute call), Call.answer_command_iff,
      fun _ => Call.answer_eq_error_iff⟩
  orderly := orderly

/-- A call that fails is recorded, and the call after it has its reply. -/
example :
    ({ responses := [("ping", .fixed (.text "pong"))] } : Executor).run
        [(.gather [⟨"pause", [.text "a"]⟩, ⟨"ping", []⟩] : Step Unit)] =
      ([.gathered [⟨[.executing "pause" 1], .error (.command "pause" "no response registered")⟩,
          ⟨[.executing "ping" 0], .ok (.text "pong")⟩]],
        { responses := [("ping", .fixed (.text "pong"))]
          calls := [⟨"pause", [.text "a"]⟩, ⟨"ping", []⟩] }) := by
  rfl

end Executor
end JobWire
