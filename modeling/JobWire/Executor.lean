import JobWire.Number.Binary64
import JobWire.Reply

/-!
# Executing commands

An executor runs commands against a server; a `CommandRunner` is a state that can do so.  The
`Executor` of this module has its replies registered beforehand, each fixed or computed from the
arguments, where computing one may fail; it records every call, also one that fails.

A sequence of steps on an executor leads from state to state and has an outcome for each step.
Commands that are gathered run in the given order, and the failure of one does not affect the
others.

**Results.**
* `response?_respond_self`, `response?_respond_of_ne`: registering changes one response.
* `calls_execute`, `responses_execute`: executing records the call and changes nothing else.
-/

namespace JobWire

/-- An argument of a command. -/
inductive Argument where
  | integer (i : Int)
  | float (x : Binary64)
  | text (s : String)
  | bytes (b : ByteArray)

/-- A command with its arguments. -/
structure Call where
  command : String
  arguments : List Argument

/-- A state against which commands can be run. -/
class CommandRunner (σ : Type) where
  execute : σ → Call → Client Reply × σ

/-- What is registered for a command. -/
inductive Response where
  | fixed (reply : Reply)
  /-- A reply that is computed from the arguments, or a failure in its own words. -/
  | computed (f : List Argument → Except String Reply)

/-- The reply to a call. -/
def Response.reply : Response → List Argument → Client Reply
  | fixed reply, _ => return reply
  | computed f, arguments => Traced.ofExcept ((f arguments).mapError ClientError.foreign)

/-- An executor with registered responses. -/
structure Executor where
  /-- The response of each command, the latest registration first. -/
  responses : List (String × Response) := []
  /-- The calls so far, in order. -/
  calls : List Call := []

namespace Executor

/-- The response that is registered for a command. -/
def response? (x : Executor) (command : String) : Option Response :=
  x.responses.lookup command

/-- Registers the response of a command, in place of an earlier one. -/
def respond (x : Executor) (command : String) (response : Response) : Executor :=
  { x with responses := (command, response) :: x.responses }

/-- The reply to a call. -/
def reply (x : Executor) (call : Call) : Client Reply := do
  Traced.note [.executing call.command call.arguments.length]
  match x.response? call.command with
  | some response => response.reply call.arguments
  | none => Traced.fail (.command call.command "no response registered")

/-- Runs a call and records it. -/
def execute (x : Executor) (call : Call) : Client Reply × Executor :=
  (x.reply call, { x with calls := x.calls ++ [call] })

instance : CommandRunner Executor := ⟨execute⟩

section Lemmas

variable {x : Executor} {command other : String} {response : Response} {call : Call}

@[simp] theorem response?_respond_self :
    (x.respond command response).response? command = some response := by
  simp [response?, respond]

theorem response?_respond_of_ne (h : other ≠ command) :
    (x.respond command response).response? other = x.response? other := by
  simp [response?, respond, List.lookup_cons, beq_eq_false_iff_ne.2 h]

@[simp] theorem calls_respond : (x.respond command response).calls = x.calls := rfl

@[simp] theorem responses_execute : (x.execute call).2.responses = x.responses := rfl

@[simp] theorem calls_execute : (x.execute call).2.calls = x.calls ++ [call] := rfl

end Lemmas

end Executor

section Runner

variable {σ α : Type} [CommandRunner σ]

/-- Runs a call and decodes its reply. -/
def executeAndDecode (decoder : Reply → Client α) (state : σ) (call : Call) : Client α × σ :=
  let (reply, state) := CommandRunner.execute state call
  (reply >>= decoder, state)

/-- Runs calls one after the other, whatever becomes of each. -/
def gather (state : σ) : List Call → List (Client Reply) × σ
  | [] => ([], state)
  | call :: calls =>
    let (reply, state) := CommandRunner.execute state call
    let (replies, state) := gather state calls
    (reply :: replies, state)

end Runner

/-- A step on an executor; `α` is what decoders yield. -/
inductive Step (α : Type) where
  | respond (command : String) (response : Response)
  | execute (call : Call)
  | executeAndDecode (decoder : Reply → Client α) (call : Call)
  | gather (calls : List Call)

/-- The outcome of a step. -/
inductive Outcome (α : Type) where
  | registered
  | replied (reply : Client Reply)
  | decoded (value : Client α)
  | gathered (replies : List (Client Reply))

namespace Executor

variable {α : Type}

/-- The outcome of a step and the executor after it. -/
def step (x : Executor) : Step α → Outcome α × Executor
  | .respond command response => (.registered, x.respond command response)
  | .execute call => let (reply, x) := x.execute call; (.replied reply, x)
  | .executeAndDecode decoder call =>
    let (value, x) := JobWire.executeAndDecode decoder x call
    (.decoded value, x)
  | .gather calls => let (replies, x) := JobWire.gather x calls; (.gathered replies, x)

/-- The outcomes of a sequence of steps and the executor after it. -/
def run (x : Executor) : List (Step α) → List (Outcome α) × Executor
  | [] => ([], x)
  | s :: steps =>
    let (outcome, x) := x.step s
    let (outcomes, x) := x.run steps
    (outcome :: outcomes, x)

end Executor
end JobWire
