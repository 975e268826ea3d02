import SqlBatch.Session.Basic
/- Programs over a session. An operation queues statements, changes the database,
   opens scopes whose failures it may swallow, looks at the session, and ends in a
   result or a failure. What it does next may depend on all that it was told.
     1. `bind_assoc`, `bind_done`: programs form a lawful monad.
   Correspondence:
     an operation that `batch` is given ↔ `Program`
     `Flush::Outermost`, `OnExit`       ↔ `Sending.outermost`, `Sending.always`
     `Batched`                          ↔ `Batched` -/
namespace SqlBatch

/-- When a scope sends what waits. -/
inductive Sending where
  /-- At its end if no other scope is around it. -/
  | outermost
  /-- At its end. -/
  | always
  deriving DecidableEq, Repr

/-- What a scope came to: what was sent at its end brought rows and reports, its operation a
    value. -/
structure Batched (α : Type) where
  rows : List Row
  affected : Affected
  value : α

/-- An operation that leaves marks of type `μ` and ends in a result of type `α`. -/
inductive Program (μ : Type) : Type → Type 1 where
  /-- The end. -/
  | done {α : Type} (result : Except Failure α) : Program μ α
  /-- The end of everything, the operations around this one included. -/
  | abort {α : Type} : Program μ α
  | queue {α : Type} (statement : Statement) (next : Program μ α) : Program μ α
  | useDatabase {α : Type} (database : String) (next : Program μ α) : Program μ α
  | scope {α β : Type} (destroyOnError : Bool) (sending : Sending) (operation : Program μ β)
      (next : Except Failure (Batched β) → Program μ α) : Program μ α
  | observe {α : Type} (next : View → Program μ α) : Program μ α
  | mark {α : Type} (mark : μ) (next : Program μ α) : Program μ α

namespace Program

variable {μ α β γ : Type}

/-- The program that goes on with the result of another one, unless that failed. -/
def bind : Program μ α → (α → Program μ β) → Program μ β
  | .done (.ok a), f => f a
  | .done (.error e), _ => .done (.error e)
  | .abort, _ => .abort
  | .queue st next, f => .queue st (next.bind f)
  | .useDatabase db next, f => .useDatabase db (next.bind f)
  | .scope d s op next, f => .scope d s op fun r => (next r).bind f
  | .observe next, f => .observe fun v => (next v).bind f
  | .mark m next, f => .mark m (next.bind f)

/-- The program that ends in whatever another one ended in, a failure included. -/
def attempt : Program μ α → Program μ (Except Failure α)
  | .done r => .done (.ok r)
  | .abort => .abort
  | .queue st next => .queue st next.attempt
  | .useDatabase db next => .useDatabase db next.attempt
  | .scope d s op next => .scope d s op fun r => (next r).attempt
  | .observe next => .observe fun v => (next v).attempt
  | .mark m next => .mark m next.attempt

instance : Monad (Program μ) where
  pure a := .done (.ok a)
  bind := Program.bind

instance : Inhabited (Program μ α) := ⟨.abort⟩

/-- The program that fails. -/
def fail (e : Failure) : Program μ α := .done (.error e)

/-- The program that ends in a result or refuses an argument. -/
def ofChecked : Except ArgumentError α → Program μ α
  | .ok a => .done (.ok a)
  | .error e => .done (.error (.argument e))

theorem bind_assoc (p : Program μ α) (f : α → Program μ β) (g : β → Program μ γ) :
    (p.bind f).bind g = p.bind fun a => (f a).bind g := by
  induction p with
  | done r => cases r <;> rfl
  | abort => rfl
  | queue st next ih => simp only [bind, ih]
  | useDatabase db next ih => simp only [bind, ih]
  | scope d s op next _ ih => simp only [bind, ih]
  | observe next ih => simp only [bind, ih]
  | mark m next ih => simp only [bind, ih]

theorem bind_done (p : Program μ α) : (p.bind fun a => .done (.ok a)) = p := by
  induction p with
  | done r => cases r <;> rfl
  | abort => rfl
  | queue st next ih => simp only [bind, ih]
  | useDatabase db next ih => simp only [bind, ih]
  | scope d s op next _ ih => simp only [bind, ih]
  | observe next ih => simp only [bind, ih]
  | mark m next ih => simp only [bind, ih]

instance : LawfulMonad (Program μ) :=
  LawfulMonad.mk' _ bind_done (fun _ _ => rfl) bind_assoc

end Program

end SqlBatch
