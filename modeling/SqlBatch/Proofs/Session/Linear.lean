import SqlBatch.Proofs.Session.Step
import SqlBatch.Session.Calls
/- Programs without scopes. As long as nothing fails, a nested scope does nothing
   but run its operation, and a session is no more than a line of statements that
   is cut into requests.
     1. `linear_read`, `linear_batch`: what the calls come to on the line.
     2. `linear_flat`: a program comes to the same when every nested scope that sends
        nothing of its own is replaced by its operation. -/
namespace SqlBatch

variable {σ μ α β : Type}

/-- A line of statements on one connection, cut into the requests that were sent and the segment
    that waits. -/
structure Line (σ : Type) where
  /-- The database that statements are meant for. -/
  database : Option String
  /-- The statements since the last cut. -/
  waiting : List Statement
  /-- The requests that were sent on this connection. -/
  sent : List Request
  server : σ

namespace Line

def queue (l : Line σ) (st : Statement) : Line σ := { l with waiting := l.waiting ++ [st] }

/-- A change of the database is a statement: a request has selected another one. -/
def needsUse (l : Line σ) (db : String) : Bool := !l.sent.isEmpty && l.database ≠ some db

/-- Statements are meant for another database from here on. -/
def useDatabase (l : Line σ) (db : String) : Line σ :=
  let l := if l.needsUse db then l.queue (.use db) else l
  { l with database := some db }

/-- The request that sends the segment. Only the first one selects the database. -/
def request (l : Line σ) : Request := ⟨if l.sent.isEmpty then l.database else none, l.waiting⟩

/-- The line cut behind the segment, which has brought the server somewhere. -/
def cut (l : Line σ) (server : σ) : Line σ :=
  { l with waiting := [], sent := l.sent ++ [l.request], server := server }

/-- The segment is sent, and this is what it brings. There is no result when the request fails. -/
def send (b : Backend σ) (l : Line σ) : Option (Shaped × Line σ) :=
  let (response, server) := b.run (l.request.text b.dialect) l.server
  match response.outcome with
  | .finished (.ok shaped) => some (shaped, l.cut server)
  | _ => none

/-- The end of a scope, where the line is cut or not. An empty segment is not sent. -/
def close (b : Backend σ) (cuts : Bool) (l : Line σ) : Option (Shaped × Line σ) :=
  if cuts && !l.waiting.isEmpty then l.send b else some (.empty, l)

end Line

namespace Program

/-- What a program comes to on a line, if nothing fails. A scope is its operation in place, and
    only one that always sends cuts the line at its end. The depth is for programs that ask. -/
def linear (b : Backend σ) : {α : Type} → Program μ α → Nat → Line σ → Option (α × Line σ)
  | _, .done (.ok a), _, l => some (a, l)
  | _, .done (.error _), _, _ => none
  | _, .abort, _, _ => none
  | _, .queue st next, n, l => next.linear b n (l.queue st)
  | _, .useDatabase db next, n, l => next.linear b n (l.useDatabase db)
  | _, .observe next, n, l => (next ⟨true, n, l.database, l.waiting⟩).linear b n l
  | _, .mark _ next, n, l => next.linear b n l
  | _, .scope _ sending operation next, n, l =>
    (operation.linear b (n + 1) l).bind fun (a, l) =>
      (l.close b (sending = .always)).bind fun (shaped, l) =>
        (next (.ok ⟨shaped.rows, shaped.affected, a⟩)).linear b n l

theorem linear_bind (b : Backend σ) (p : Program μ α) (f : α → Program μ β) (n : Nat)
    (l : Line σ) :
    (p.bind f).linear b n l = (p.linear b n l).bind fun (a, l) => (f a).linear b n l := by
  induction p generalizing l with
  | done r => cases r <;> rfl
  | abort => rfl
  | queue st next ih => exact ih f _
  | useDatabase db next ih => exact ih f _
  | observe next ih => exact ih _ f _
  | mark m next ih => exact ih f _
  | scope d s op next _ ih =>
    simp only [bind, linear, Option.bind_assoc]
    congr 1
    funext x
    obtain ⟨a, l⟩ := x
    congr 1
    funext y
    obtain ⟨shaped, l⟩ := y
    exact ih _ f _

/-- A read cuts the line behind its own statement, and returns the rows of that request. -/
theorem linear_read (b : Backend σ) (d : Bool) (st : Statement) (n : Nat) (l : Line σ) :
    (read (μ := μ) d st).linear b n l =
      ((l.queue st).send b).map fun (shaped, l) => (shaped.rows, l) := by
  have hclose : (l.queue st).close b true = (l.queue st).send b := by
    simp [Line.close, Line.queue]
  simp only [read, queued, Pure.pure, linear, Option.bind_some, decide_true, hclose]
  cases (l.queue st).send b <;> rfl

/-- A nested batch is its operation. It returns no rows and no reports. -/
theorem linear_batch (b : Backend σ) (d : Bool) (op : Program μ α) (n : Nat) (l : Line σ) :
    (batch d op).linear b n l =
      (op.linear b (n + 1) l).map fun (a, l) => (⟨[], .none, a⟩, l) := by
  simp only [batch, linear]
  cases op.linear b (n + 1) l <;> rfl

/-! The flattened program. -/

/-- The program with the operation of every nested scope in place of the scope, the scopes that
    always send excepted. Some scopes around it have been replaced already, and an operation that
    asks for the depth is told of them too. -/
def flat : {α : Type} → Program μ α → Nat → Program μ α
  | _, .done r, _ => .done r
  | _, .abort, _ => .abort
  | _, .queue st next, n => .queue st (next.flat n)
  | _, .useDatabase db next, n => .useDatabase db (next.flat n)
  | _, .observe next, n => .observe fun v => (next { v with depth := v.depth + n }).flat n
  | _, .mark m next, n => .mark m (next.flat n)
  | _, .scope _ .outermost operation next, n =>
    (operation.flat (n + 1)).bind fun a => (next (.ok ⟨[], .none, a⟩)).flat n
  | _, .scope d .always operation next, n =>
    .scope d .always (operation.flat n) fun r => (next r).flat n

/-- No scope of the program waits for one around it to send. -/
def IsFlat : {α : Type} → Program μ α → Prop
  | _, .done _ => True
  | _, .abort => True
  | _, .queue _ next => next.IsFlat
  | _, .useDatabase _ next => next.IsFlat
  | _, .observe next => ∀ v, (next v).IsFlat
  | _, .mark _ next => next.IsFlat
  | _, .scope _ s op next => s = .always ∧ op.IsFlat ∧ ∀ r, (next r).IsFlat

theorem flat_bind (p : Program μ α) (f : α → Program μ β) (n : Nat) :
    (p.bind f).flat n = (p.flat n).bind fun a => (f a).flat n := by
  induction p generalizing n with
  | done r => cases r <;> rfl
  | abort => rfl
  | queue st next ih => simp only [bind, flat, ih]
  | useDatabase db next ih => simp only [bind, flat, ih]
  | observe next ih => simp only [bind, flat, ih]
  | mark m next ih => simp only [bind, flat, ih]
  | scope d s op next _ ih => cases s <;> simp only [bind, flat, ih, bind_assoc]

/-- A nested batch that locks tables is flattened to the lock, its operation and the unlock. -/
theorem flat_lockedBatch (tables : List Table) (op : Program μ α) (n : Nat) :
    (lockedBatch tables op).flat n = (do
      queued (← ofChecked (lockStatement (tables.map fun t => (t, .write))))
      let value ← op.flat (n + 1)
      unlockTables
      return ⟨[], .none, value⟩) := by
  simp only [lockedBatch]
  cases lockStatement (tables.map fun t => (t, .write)) with
  | error e => rfl
  | ok lock =>
    have hbody := flat_bind op (fun value => do unlockTables; return value) (n + 1)
    simp only [Bind.bind, Pure.pure, ofChecked, bind, batch, queued, unlockTables, flat] at hbody ⊢
    rw [hbody, bind_assoc]
    rfl

theorem IsFlat.bind {p : Program μ α} {f : α → Program μ β} (hp : p.IsFlat)
    (hf : ∀ a, (f a).IsFlat) : (p.bind f).IsFlat := by
  induction p with
  | done r =>
    cases r with
    | ok a => exact hf a
    | error e => trivial
  | abort => trivial
  | queue st next ih => exact ih hp hf
  | useDatabase db next ih => exact ih hp hf
  | observe next ih => exact fun v => ih v (hp v) hf
  | mark m next ih => exact ih hp hf
  | scope d s op next _ ih => exact ⟨hp.1, hp.2.1, fun r => ih r (hp.2.2 r) hf⟩

theorem isFlat_flat (p : Program μ α) (n : Nat) : (p.flat n).IsFlat := by
  induction p generalizing n with
  | done r => trivial
  | abort => trivial
  | queue st next ih => exact ih n
  | useDatabase db next ih => exact ih n
  | observe next ih => exact fun v => ih _ n
  | mark m next ih => exact ih n
  | scope d s op next hop ih =>
    cases s with
    | outermost => exact (hop (n + 1)).bind fun a => ih _ n
    | always => exact ⟨rfl, hop n, fun r => ih r n⟩

/-- On the line a program comes to the same as the flattened one. -/
theorem linear_flat (b : Backend σ) (p : Program μ α) (n m : Nat) (l : Line σ) :
    (p.flat n).linear b m l = p.linear b (m + n) l := by
  induction p generalizing n m l with
  | done r => cases r <;> rfl
  | abort => rfl
  | queue st next ih => exact ih ..
  | useDatabase db next ih => exact ih ..
  | observe next ih => exact ih ..
  | mark m next ih => exact ih ..
  | scope d s op next hop ih =>
    cases s with
    | outermost =>
      rw [flat, linear_bind, hop, linear, Nat.add_assoc]
      congr 1
      funext x
      obtain ⟨a, l⟩ := x
      exact ih ..
    | always =>
      rw [flat, linear, linear, hop, Nat.add_right_comm]
      simp only [ih]

end Program

end SqlBatch
