import SqlBatch.Proofs.Session.Course
import SqlBatch.Proofs.Session.Delivery
import SqlBatch.Session.Calls
/- Programs that are written with the calls of a session and with nothing else. A call checks its
   arguments before it touches the session: it is refused, or it makes one statement.
     1. `Call.perform_refused`, `Call.perform_makes`: what a call does, by what it makes.
     2. `Program.Written`: scopes and calls one after another, whatever is done with what they
        come to.
     3. `Program.Written.meets`: what holds of the calls at every step holds of such programs.
        `Program.Written.queues`: so that they queue what calls make, and nothing else.
     4. `Program.Queues.run`: the statements in a log are those that its program queues.
     5. `Program.Written.sent`: so that what is sent was made by calls.
   Correspondence:
     `select`, `queue_set` and the like, by name ↔ `Call`
     an operation that is written with them      ↔ `Program.Written` -/
namespace SqlBatch

variable {σ μ α β : Type}

/-- What goes on with a part of what was checked goes on with that part. -/
theorem Program.ofChecked_map_bind {γ : Type} (r : Except ArgumentError α) (g : α → γ)
    (f : γ → Program μ β) :
    (ofChecked (r.map g)).bind f = (ofChecked r).bind fun a => f (g a) := by
  cases r <;> rfl

/-- A call that makes a statement, by what it returns. -/
inductive Call : Type → Type where
  | createTable (table : Table) : Call Unit
  | insert (table : Table) (values : List Assignment) : Call Unit
  | replace (table : Table) (values : List Assignment) : Call Unit
  | update (table : Table) (values : List Assignment) (filter : Filter) : Call Unit
  | delete (table : Table) (filter : Filter) : Call Unit
  | truncate (table : Table) : Call Unit
  | set (name : String) (value : Value) : Call Unit
  | lockTables (locks : List (Table × LockKind)) : Call Unit
  | unlockTables : Call Unit
  | createDatabase (name : String) : Call Unit
  | select (query : Select) : Call (List Row)
  | unionSelect (destroyOnError : Bool) (query : UnionSelect) : Call (List Row)
  | count (table : Table) (filter : Option Filter) : Call Nat
  | sum (table : Table) (column : Column) (join : Option Join) (filter : Option Filter) : Call Value

namespace Call

/-- The program of the call. -/
def perform : {α : Type} → Call α → Program μ α
  | _, .createTable t => .createTable t
  | _, .insert t vs => .insert t vs
  | _, .replace t vs => .replace t vs
  | _, .update t vs f => .update t vs f
  | _, .delete t f => .delete t f
  | _, .truncate t => .truncate t
  | _, .set name v => .set name v
  | _, .lockTables locks => .lockTables locks
  | _, .unlockTables => .unlockTables
  | _, .createDatabase name => .createDatabase name
  | _, .select q => .select q
  | _, .unionSelect d q => .unionSelect d q
  | _, .count t f => .count t f
  | _, .sum t c j f => .sum t c j f

/-- The statement that the call makes, or the fault of its arguments. -/
def statement : {α : Type} → Call α → Except ArgumentError Statement
  | _, .createTable t => .ok (.createTable t)
  | _, .insert t vs => (checkAssignments .insert t vs).map fun _ => .insert t vs
  | _, .replace t vs => (checkAssignments .replace t vs).map fun _ => .replace t vs
  | _, .update t vs f => (checkAssignments .update t vs).map fun _ => .update t vs f
  | _, .delete t f => .ok (.delete t f)
  | _, .truncate t => .ok (.truncate t)
  | _, .set name v =>
    if Program.isSetTarget name then .ok (.set name v) else .error (.setTarget name)
  | _, .lockTables locks => Program.lockStatement locks
  | _, .unlockTables => .ok .unlockTables
  | _, .createDatabase name =>
    if name = "" then .error .emptyDatabaseName else .ok (.createDatabase name)
  | _, .select q => .ok (.select q)
  | _, .unionSelect _ q =>
    if q.filters.isEmpty then .error (.noFilters q.table.name) else .ok (.unionSelect q)
  | _, .count t f =>
    .ok (.select { table := t, columns := .ofText Program.countLabel, filter := f })
  | _, .sum t c j f =>
    .ok (.select
      { table := t, columns := .ofText (Program.sumExpression c j.isSome), join := j, filter := f })

/-- What the call does with its statement: it lets it wait, or it sends it and looks at the rows. -/
def deliver : {α : Type} → Call α → Statement → Program μ α
  | _, .createTable _, st | _, .insert .., st | _, .replace .., st | _, .update .., st
  | _, .delete .., st | _, .truncate _, st | _, .set .., st | _, .lockTables _, st
  | _, .unlockTables, st | _, .createDatabase _, st => .queued st
  | _, .select _, st => .read false st
  | _, .unionSelect d _, st => .read d st
  | _, .count t _, st => do
    let value ← Program.firstValue Program.countLabel (← .read false st)
    match value.asNat? with
    | some n => return n
    | none => .fail (.unexpectedCount value t.name)
  | _, .sum .., st => do Program.firstValue Program.sumLabel (← .read false st)

/-- A call checks its arguments, and goes on with the statement that it makes of them. -/
theorem perform_eq (c : Call α) :
    (c.perform : Program μ α) = (Program.ofChecked c.statement).bind c.deliver := by
  cases c with
  | insert t vs => exact (Program.ofChecked_map_bind (checkAssignments .insert t vs) _ _).symm
  | replace t vs => exact (Program.ofChecked_map_bind (checkAssignments .replace t vs) _ _).symm
  | update t vs f => exact (Program.ofChecked_map_bind (checkAssignments .update t vs) _ _).symm
  | set name v =>
    simp only [perform, statement, Program.set]
    split <;> rfl
  | createDatabase name =>
    simp only [perform, statement, Program.createDatabase]
    split <;> rfl
  | unionSelect d q =>
    simp only [perform, statement, Program.unionSelect]
    split <;> rfl
  | _ => rfl

/-- A call whose arguments are at fault does nothing else than to say so. -/
theorem perform_refused {c : Call α} {e : ArgumentError} (h : c.statement = .error e) :
    (c.perform : Program μ α) = .done (.error (.argument e)) := by
  rw [perform_eq, h]
  rfl

end Call

namespace Program

/-- The program has come to an end, or ends everything. -/
def Ends (p : Program μ α) : Prop := p = .abort ∨ ∃ r, p = .done r

/-- The program lets the statement wait, or sends it at once, and then comes to an end. -/
inductive Makes (st : Statement) : {α : Type} → Program μ α → Prop where
  | waits {α : Type} (a : α) : Makes st (.queue st (.done (.ok a)))
  | reads {α : Type} (d : Bool) {next : Except Failure (Batched Unit) → Program μ α} :
      (∀ r, (next r).Ends) → Makes st (.scope d .always (queued st) next)

theorem Ends.bind {p : Program μ α} {f : α → Program μ β} (hp : p.Ends) (hf : ∀ a, (f a).Ends) :
    (p.bind f).Ends := by
  rcases hp with rfl | ⟨r, rfl⟩
  · exact .inl rfl
  · cases r with
    | ok a => exact hf a
    | error e => exact .inr ⟨_, rfl⟩

/-- What is looked up in rows is a value, unless the first row has the label and nothing under
    it. -/
theorem firstValue_cases (label : String) (rows : List Row) :
    ((∃ row, rows.head? = some row ∧ row.cell label = .missing) ∧
      firstValue (μ := μ) label rows = .abort) ∨
    ((∀ row, rows.head? = some row → row.cell label ≠ .missing) ∧
      ∃ value, firstValue (μ := μ) label rows = .done (.ok value)) := by
  cases rows with
  | nil => exact .inr ⟨nofun, .null, rfl⟩
  | cons row rest =>
    simp only [firstValue, List.head?_cons, Option.some.injEq, exists_eq_left', forall_eq']
    cases row.cell label with
    | value v => exact .inr ⟨nofun, v, rfl⟩
    | unlabelled => exact .inr ⟨nofun, _, rfl⟩
    | missing => exact .inl ⟨rfl, rfl⟩

theorem ends_firstValue (label : String) (rows : List Row) :
    (firstValue (μ := μ) label rows).Ends := by
  rcases firstValue_cases (μ := μ) label rows with ⟨-, h⟩ | ⟨-, value, h⟩
  · exact .inl h
  · exact .inr ⟨_, h⟩

theorem makes_read (d : Bool) (st : Statement) {f : List Row → Program μ α}
    (hf : ∀ rows, (f rows).Ends) : ((read d st).bind f).Makes st :=
  .reads d fun r => Ends.bind (.inr ⟨r.map (·.rows), rfl⟩) hf

end Program

theorem Call.makes_deliver (c : Call α) (st : Statement) :
    (c.deliver st : Program μ α).Makes st := by
  cases c with
  | select q => exact .reads false fun r => .inr ⟨_, rfl⟩
  | unionSelect d q => exact .reads d fun r => .inr ⟨_, rfl⟩
  | count t f =>
    refine Program.makes_read false st fun rows => ?_
    refine (Program.ends_firstValue _ rows).bind fun value => ?_
    cases value.asNat? <;> exact .inr ⟨_, rfl⟩
  | sum t c j f => exact Program.makes_read false st (Program.ends_firstValue _)
  | _ => exact .waits ()

/-- A call whose arguments are not at fault makes its statement. -/
theorem Call.perform_makes {c : Call α} {st : Statement} (h : c.statement = .ok st) :
    (c.perform : Program μ α).Makes st := by
  rw [perform_eq, h]
  exact c.makes_deliver st

/-! Programs of calls. -/

/-- The program is written with the calls of a session, batches, and looks at the session. It may go
    on whatever a call came to. -/
inductive Program.Written : {α : Type} → Program μ α → Prop where
  | done {α : Type} (r : Except Failure α) : Written (.done r)
  | call {α β : Type} (c : Call β) {next : Except Failure β → Program μ α} :
      (∀ r, Written (next r)) → Written (c.perform.attempt.bind next)
  | use {α : Type} (database : String) {next : Except Failure Unit → Program μ α} :
      (∀ r, Written (next r)) → Written ((Program.use database).attempt.bind next)
  | batch {α β : Type} (destroyOnError : Bool) {op : Program μ β}
      {next : Except Failure (Batched β) → Program μ α} :
      Written op → (∀ r, Written (next r)) →
      Written ((Program.batch destroyOnError op).attempt.bind next)
  | lockedBatch {α β : Type} (tables : List Table) {op : Program μ β}
      {next : Except Failure (Batched β) → Program μ α} :
      Written op → (∀ r, Written (next r)) →
      Written ((Program.lockedBatch tables op).attempt.bind next)
  | observe {α : Type} {next : View → Program μ α} :
      (∀ v, Written (next v)) → Written (.observe next)
  | mark {α : Type} (m : μ) {next : Program μ α} : Written next → Written (.mark m next)

section Written

theorem Program.Written.bind {p : Program μ α} {f : α → Program μ β} (hp : p.Written)
    (hf : ∀ a, (f a).Written) : (p.bind f).Written := by
  induction hp with
  | done r =>
    cases r with
    | ok a => exact hf a
    | error e => exact .done _
  | call c _ ih =>
    rw [bind_assoc]
    exact .call c fun r => ih r hf
  | use database _ ih => exact .use database fun r => ih r hf
  | batch d hop _ _ ih => exact .batch d hop fun r => ih r hf
  | lockedBatch tables hop _ _ ih =>
    rw [bind_assoc]
    exact .lockedBatch tables hop fun r => ih r hf
  | observe _ ih => exact .observe fun v => ih v hf
  | mark m _ ih => exact .mark m (ih hf)

/-- To end in what a program ended in is to do nothing else. -/
theorem Program.attempt_bind_done (p : Program μ α) : p.attempt.bind .done = p := by
  have h := p.bind_eq_attempt fun a => .done (.ok a)
  rw [p.bind_done] at h
  refine (congrArg p.attempt.bind (funext fun r => ?_)).trans h.symm
  cases r <;> rfl

theorem Program.written_call (c : Call α) : (c.perform : Program μ α).Written := by
  rw [← attempt_bind_done c.perform]
  exact .call c .done

theorem Program.written_batch (d : Bool) {op : Program μ α} (hop : op.Written) :
    (batch d op).Written :=
  .batch d hop .done

end Written

/-! What holds of a program step by step. -/

/-- What can be demanded of a program: of the statements that it queues, of its ending everything,
    and of what scopes tell it, for which alone it has to meet the demands behind them. -/
structure Program.Demands where
  queued : Statement → Prop
  abort : Prop
  told : {β : Type} → Except Failure (Batched β) → Prop

namespace Program

/-- The program does as demanded, whatever it is told that can be told. -/
def Meets (D : Demands) : {α : Type} → Program μ α → Prop
  | _, .done _ => True
  | _, .abort => D.abort
  | _, .queue st next => D.queued st ∧ next.Meets D
  | _, .useDatabase _ next => next.Meets D
  | _, .scope _ _ op next => op.Meets D ∧ ∀ r, D.told r → (next r).Meets D
  | _, .observe next => ∀ v, (next v).Meets D
  | _, .mark _ next => next.Meets D

section Meets

variable {D : Demands}

theorem Meets.bind {p : Program μ α} {f : α → Program μ β} (hp : p.Meets D)
    (hf : ∀ a, (f a).Meets D) : (p.bind f).Meets D := by
  induction p with
  | done r =>
    cases r with
    | ok a => exact hf a
    | error e => trivial
  | abort => exact hp
  | queue st next ih => exact ⟨hp.1, ih hp.2 hf⟩
  | useDatabase db next ih => exact ih hp hf
  | scope d s op next _ ih => exact ⟨hp.1, fun r hr => ih r (hp.2 r hr) hf⟩
  | observe next ih => exact fun v => ih v (hp v) hf
  | mark m next ih => exact ih hp hf

theorem Meets.attempt {p : Program μ α} (hp : p.Meets D) : p.attempt.Meets D := by
  induction p with
  | done r => trivial
  | abort => exact hp
  | queue st next ih => exact ⟨hp.1, ih hp.2⟩
  | useDatabase db next ih => exact ih hp
  | scope d s op next _ ih => exact ⟨hp.1, fun r hr => ih r (hp.2 r hr)⟩
  | observe next ih => exact fun v => ih v (hp v)
  | mark m next ih => exact ih hp

/-- The calls meet the demands with the statements that they make. -/
def CallsMeet (μ : Type) (D : Demands) : Prop :=
  ∀ {α : Type} (c : Call α) (st : Statement), c.statement = .ok st →
    (c.deliver st : Program μ α).Meets D

theorem CallsMeet.perform (h : CallsMeet μ D) (c : Call α) : (c.perform : Program μ α).Meets D := by
  rw [c.perform_eq]
  cases hc : c.statement with
  | ok st => exact h c st hc
  | error e => trivial

/-- A locked batch is the calls that lock and unlock with the operation between them. -/
theorem CallsMeet.lockedBatch (h : CallsMeet μ D) {op : Program μ α} (hop : op.Meets D)
    (tables : List Table) : (lockedBatch tables op).Meets D := by
  unfold Program.lockedBatch
  cases hl : lockStatement (tables.map fun t => (t, .write)) with
  | error e => trivial
  | ok lock =>
    have hlock : D.queued lock := (h (.lockTables (tables.map fun t => (t, .write))) lock hl).1
    have hunlock : D.queued .unlockTables := (h .unlockTables .unlockTables rfl).1
    exact ⟨⟨hlock, hop.bind fun _ => ⟨hunlock, trivial⟩⟩, fun _ _ => trivial⟩

/-- So do the programs that are written with them. -/
theorem Written.meets (h : CallsMeet μ D) {p : Program μ α} (hp : p.Written) : p.Meets D := by
  induction hp with
  | done r => trivial
  | call c _ ih => exact (h.perform c).attempt.bind ih
  | use database _ ih => exact ih _
  | batch d _ _ ihop ih => exact ⟨ihop, fun r _ => ih r⟩
  | lockedBatch tables _ _ ihop ih => exact (h.lockedBatch ihop tables).attempt.bind ih
  | observe _ ih => exact ih
  | mark m _ ih => exact ih

end Meets

/-- The statements that the program queues have the property. -/
def Queues (P : Statement → Prop) (p : Program μ α) : Prop := p.Meets ⟨P, True, fun _ => True⟩

variable {P : Statement → Prop}

theorem Ends.queues {p : Program μ α} (hp : p.Ends) : p.Queues P := by
  rcases hp with rfl | ⟨r, rfl⟩ <;> trivial

theorem Makes.queues {st : Statement} {p : Program μ α} (hp : p.Makes st) (h : P st) :
    p.Queues P := by
  cases hp with
  | waits a => exact ⟨h, trivial⟩
  | reads d hnext => exact ⟨⟨h, trivial⟩, fun r _ => (hnext r).queues⟩

/-- The statements that a program of calls queues are those that the calls make. -/
theorem Written.queues (h : ∀ {α : Type} (c : Call α) (st : Statement), c.statement = .ok st → P st)
    {p : Program μ α} (hp : p.Written) : p.Queues P :=
  hp.meets fun c st hc => (c.makes_deliver st).queues (h c st hc)

end Program

/-! Runs. -/

section Runs

variable {b : Backend σ} {w w₁ : World σ} {es : List (Event μ)}

/-- No part of a scope queues anything. -/
theorem queuedStatements_enter {r : Except Failure Unit} (h : w.enter b = (r, w₁, es)) :
    queuedStatements es = [] := by
  cases r with
  | error e => rcases enter_refused_log h with rfl | rfl <;> rfl
  | ok u => rcases enter_log h with rfl | rfl <;> rfl

theorem queuedStatements_settle {s : Sending} {r : Except Failure β} {o : Outcome (Batched β)}
    (h : w.settle b s r = (o, w₁, es)) : queuedStatements es = [] := by
  rcases settle_log h with rfl | ⟨-, done, rfl⟩ <;> rfl

theorem queuedStatements_leave {d failed : Bool} {epoch : UInt64}
    (h : w.leave b d epoch failed = (w₁, es)) : queuedStatements es = [] := by
  cases leave_step [] h with
  | leaveLast => split <;> rfl
  | _ => rfl

/-- The statements in the log of a run are those that its program queues, and those that select a
    database. -/
theorem Program.Queues.run {P : Statement → Prop} {p : Program μ α} (hp : p.Queues P)
    (huse : ∀ database, P (.use database)) (b : Backend σ) (w : World σ) :
    ∀ st ∈ queuedStatements (p.run b w).events, P st := by
  induction p generalizing w with
  | done r => simp [Program.run, queuedStatements]
  | abort => simp [Program.run, queuedStatements]
  | queue st next ih =>
    show ∀ st' ∈ st :: queuedStatements _, P st'
    exact List.forall_mem_cons.mpr ⟨hp.1, ih hp.2 _⟩
  | useDatabase db next ih =>
    simp only [Program.run, Ran.after, queuedStatements_append, List.forall_mem_append]
    refine ⟨?_, ih hp _⟩
    split
    · exact List.forall_mem_singleton.mpr (huse db)
    · exact List.forall_mem_nil _
  | observe next ih => exact ih _ (hp _) w
  | mark m next ih => exact ih hp w
  | scope d s op next ihop ih =>
    have hran := run_scope b d s op next w
    generalize (Program.scope d s op next).run b w = ran at hran ⊢
    cases hran with
    | refused he =>
      rw [Ran.after, queuedStatements_append, queuedStatements_enter he]
      exact ih _ (hp.2 _ trivial) _
    | @stopped w₁ _ _ _ he ho =>
      have hop := ihop hp.1 w₁
      rw [ho] at hop
      rwa [queuedStatements_append, queuedStatements_enter he]
    | @overrun w₁ _ _ _ _ _ _ he ho hset =>
      have hop := ihop hp.1 w₁
      rw [ho] at hop
      simpa only [queuedStatements_append, queuedStatements_enter he, queuedStatements_settle hset,
        List.nil_append, List.append_nil] using hop
    | @left w₁ _ _ _ _ _ _ _ _ _ he ho hset hl =>
      have hop := ihop hp.1 w₁
      rw [ho] at hop
      simp only [Ran.after, queuedStatements_append, queuedStatements_enter he,
        queuedStatements_settle hset, queuedStatements_leave hl, List.nil_append, List.append_nil,
        List.forall_mem_append]
      exact ⟨hop, ih _ (hp.2 _ trivial) _⟩

/-- What a run sends was queued before it is sent. -/
theorem Program.queued_of_sent {config : Config} {server : σ} (p : Program μ α)
    {before after : List (Event μ)} {request : Request} {done : Bool}
    (hlog : (p.run b ⟨.start config, server⟩).events = before ++ Event.run request done :: after) :
    ∀ st ∈ request.statements, st ∈ queuedStatements before := by
  obtain ⟨w, hp, -, rfl⟩ := p.run_sends _ hlog
  intro st hst
  have hwaiting : (ledger before).having .pending = w.session.pending :=
    (awaited_of_reached hp.reached).waiting (by simp)
  rw [Session.request, ← hwaiting] at hst
  obtain ⟨entry, hentry, rfl⟩ := List.mem_map.mp hst
  rw [← ledger_map_fst]
  exact List.mem_map_of_mem (List.mem_filter.mp hentry).1

/-- Every statement that a program of calls sends is one that a call has made, or one that selects a
    database. -/
theorem Program.Written.sent {P : Statement → Prop}
    (h : ∀ {α : Type} (c : Call α) (st : Statement), c.statement = .ok st → P st)
    (huse : ∀ database, P (.use database)) {config : Config} {server : σ} {p : Program μ α}
    (hp : p.Written) {before after : List (Event μ)} {request : Request} {done : Bool}
    (hlog : (p.run b ⟨.start config, server⟩).events = before ++ Event.run request done :: after) :
    ∀ st ∈ request.statements, P st := by
  intro st hst
  refine (hp.queues h).run huse b ⟨.start config, server⟩ st ?_
  rw [hlog, queuedStatements_append]
  exact List.mem_append_left _ (p.queued_of_sent hlog st hst)

end Runs

end SqlBatch
