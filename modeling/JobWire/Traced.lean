import JobWire.Text.Quoted

/-!
# Runs that leave a trace

Decoding a document and running a command leave notices behind, whether they succeed or fail.  A
`Traced ε α` is the notices of a run, in order, with its result; a run in sequence has the notices
of its parts one after the other, and ends at the first failure.

**Results.**
* `log_bind_ok`, `log_bind_error`: the notices of two runs in sequence.
* `Traced` is a lawful monad.
* `each_append`: the runs of a list that is put together from two.
-/

namespace JobWire

/-- What is worth noting about a run. -/
inductive Notice where
  /-- An object had a property that its record does not declare. -/
  | ignored (record property : String)
  /-- A command is about to be run. -/
  | executing (command : String) (argumentCount : Nat)
deriving DecidableEq

/-- The text of a notice. -/
def Notice.message : Notice → String
  | ignored record property =>
    "Ignoring unknown " ++ record ++ " property " ++ Text.quoted property
  | executing command argumentCount =>
    "Executing " ++ command ++ " with " ++ toString argumentCount ++ " argument(s)"

/-- A finished run: its notices in order, and its result. -/
structure Traced (ε α : Type) where
  log : List Notice
  result : Except ε α

namespace Traced

variable {ε ε' α β : Type}

/-- A run that only yields a value. -/
def ok (a : α) : Traced ε α := ⟨[], .ok a⟩

/-- A run that only fails. -/
def fail (e : ε) : Traced ε α := ⟨[], .error e⟩

/-- A run that only leaves notices. -/
def note (notices : List Notice) : Traced ε Unit := ⟨notices, .ok ()⟩

/-- A run without notices. -/
def ofExcept (r : Except ε α) : Traced ε α := ⟨[], r⟩

/-- One run, and then another that depends on its value. -/
def andThen (x : Traced ε α) (f : α → Traced ε β) : Traced ε β :=
  match x.result with
  | .ok a => ⟨x.log ++ (f a).log, (f a).result⟩
  | .error e => ⟨x.log, .error e⟩

instance : Monad (Traced ε) where
  pure := ok
  bind := andThen

instance : MonadLift (Except ε) (Traced ε) where
  monadLift := ofExcept

/-- The same run with its error, if any, put in other terms. -/
def mapError (f : ε → ε') (x : Traced ε α) : Traced ε' α :=
  ⟨x.log, x.result.mapError f⟩

/-- The runs of the elements of a list, in order, up to the first that fails. -/
def each (f : α → Traced ε β) : List α → Traced ε (List β)
  | [] => ok []
  | a :: as => do
    let b ← f a
    let bs ← each f as
    return b :: bs

section Lemmas

variable {x : Traced ε α} {f : α → Traced ε β} {a : α} {e : ε}

theorem log_bind_ok (h : x.result = .ok a) : (x >>= f).log = x.log ++ (f a).log := by
  simp only [bind, andThen, h]

theorem log_bind_error (h : x.result = .error e) : (x >>= f).log = x.log := by
  simp only [bind, andThen, h]

theorem result_bind : (x >>= f).result = x.result >>= fun a => (f a).result := by
  cases h : x.result <;> simp [bind, andThen, h, Except.bind]

instance : LawfulMonad (Traced ε) :=
  LawfulMonad.mk' _
    (fun x => by
      obtain ⟨log, result⟩ := x
      cases result <;> simp [Functor.map, andThen, ok])
    (fun a f => by simp [bind, andThen, pure, ok])
    (fun x f g => by
      obtain ⟨log, result⟩ := x
      cases result with
      | error e => rfl
      | ok a => cases h : (f a).result <;> simp [bind, andThen, h])

/-- The runs of two lists, one after the other. -/
theorem each_append (f : α → Traced ε β) (as bs : List α) :
    each f (as ++ bs) = do
      let xs ← each f as
      let ys ← each f bs
      return xs ++ ys := by
  induction as with
  | nil =>
    change each f bs = pure [] >>= fun xs => each f bs >>= fun ys => pure (xs ++ ys)
    simp
  | cons a as ih =>
    simp only [List.cons_append, each, ih, bind_assoc, pure_bind, List.cons_append]

end Lemmas

end Traced
end JobWire
