import SqlBatch.Proofs.Session.Arguments
/- Calls whose arguments are at fault. They are refused by a check that comes before all else, so
   that it is as if they had not been made; every other failure drops what waits, and may cost the
   connection.
     1. `checkAssignments_eq_error_iff`, `Call.statement_eq_error_iff`: which arguments are at
        fault, and what is reported of them.
     2. `Program.run_refused`: what is refused leaves no trace, whatever goes on with it.
     3. `Call.run_waits`: a call that lets its statement wait, and is not refused, does no more.
     4. `refused_calls_change_nothing`: so it is with all calls, at any time. -/
namespace SqlBatch

variable {σ μ α β : Type}

/-! Faults. -/

/-- What is at fault with values for the columns of a table: there is none, or one of them is the
    first for a column of another table. -/
inductive AssignmentFault (k : Assigning) (t : Table) : List Assignment → ArgumentError → Prop where
  | nothing : AssignmentFault k t [] (.noAssignments k t.name)
  | foreign {own rest : List Assignment} {a : Assignment} :
      (∀ a' ∈ own, a'.column.AllowedIn t) → a.column.isAttached = true → a.column.table ≠ t.name →
      AssignmentFault k t (own ++ a :: rest)
        (.foreignAssignment k t.name a.column.name a.column.table)

theorem checkAssignments_eq_error_iff {k : Assigning} {t : Table} {vs : List Assignment}
    {e : ArgumentError} : checkAssignments k t vs = .error e ↔ AssignmentFault k t vs e := by
  constructor
  · intro h
    rcases checkAssignments_cases k t vs with
      ⟨rfl, hc⟩ | ⟨own, a, rest, rfl, hown, hattached, hother, hc⟩ | ⟨-, -, hc⟩
    · cases hc.symm.trans h
      exact .nothing
    · cases hc.symm.trans h
      exact .foreign hown hattached hother
    · cases hc.symm.trans h
  · intro h
    cases h with
    | nothing => rfl
    | @foreign own rest a hown hattached hother =>
      have hforeign : a.column.isForeignTo t.name = true :=
        (a.column.isForeignTo_eq_true_iff t).mpr ⟨hattached, hother⟩
      have hfind : (own ++ a :: rest).find? (fun a => a.column.isForeignTo t.name) = some a := by
        refine List.find?_eq_some_iff_append.mpr ⟨hforeign, own, rest, rfl, fun a' ha' => ?_⟩
        simp [(a'.column.isForeignTo_eq_false_iff t).mpr (hown a' ha')]
      have hsome : own ++ a :: rest ≠ [] := by simp
      simp only [checkAssignments, if_neg hsome, hfind]

/-- A text cannot be assigned to exactly if it is blank or has a semicolon. -/
theorem Program.isSetTarget_eq_false_iff (name : String) :
    isSetTarget name = false ↔
      (∀ c ∈ name.toList, Text.isBlank c = true) ∨ ';' ∈ name.toList := by
  rw [← Text.dropBlankEnds_eq_nil_iff]
  simp [isSetTarget, Decidable.imp_iff_not_or]

/-- What is at fault with the arguments of a call. -/
def Call.Fault : {α : Type} → Call α → ArgumentError → Prop
  | _, .insert t vs, e => AssignmentFault .insert t vs e
  | _, .replace t vs, e => AssignmentFault .replace t vs e
  | _, .update t vs _, e => AssignmentFault .update t vs e
  | _, .set name _, e =>
    ((∀ c ∈ name.toList, Text.isBlank c = true) ∨ ';' ∈ name.toList) ∧ e = .setTarget name
  | _, .lockTables locks, e => locks = [] ∧ e = .noLocks
  | _, .createDatabase name, e => name = "" ∧ e = .emptyDatabaseName
  | _, .unionSelect _ q, e => q.filters = [] ∧ e = .noFilters q.table.name
  | _, _, _ => False

/-- What was checked to be a fault is reported. -/
theorem error_of_checked_iff {fault known : Prop} [Decidable fault] (h : fault ↔ known)
    {e e' : ArgumentError} {st : Statement} :
    (if fault then .error e else .ok st : Except ArgumentError Statement) = .error e' ↔
      known ∧ e' = e := by
  rw [← h]
  by_cases hfault : fault
  · simp [hfault, eq_comm]
  · simp [hfault]

/-- A statement is not made exactly if there is a fault. -/
theorem Call.statement_eq_error_iff (c : Call α) (e : ArgumentError) :
    c.statement = .error e ↔ c.Fault e := by
  have hassign (k : Assigning) (t : Table) (vs : List Assignment) (st : Statement) :
      ((checkAssignments k t vs).map fun _ => st) = .error e ↔ AssignmentFault k t vs e := by
    rw [← checkAssignments_eq_error_iff]
    cases checkAssignments k t vs <;> simp [Except.map]
  cases c with
  | insert t vs | replace t vs | update t vs f => exact hassign _ t vs _
  | set name v =>
    rw [Fault, ← Program.isSetTarget_eq_false_iff, statement]
    cases Program.isSetTarget name with
    | false => simp [eq_comm]
    | true => simp
  | lockTables locks => exact error_of_checked_iff List.isEmpty_iff
  | createDatabase name => exact error_of_checked_iff Iff.rfl
  | unionSelect d q => exact error_of_checked_iff List.isEmpty_iff
  | _ => simp [statement, Fault]

/-! Runs. -/

/-- What is refused leaves no trace, and what goes on with it starts from where it was. -/
theorem Program.run_refused (b : Backend σ) (w : World σ) {p : Program μ α} {e : ArgumentError}
    (h : p = .done (.error (.argument e))) :
    p.run b w = ⟨.finished (.error (.argument e)), w, []⟩ ∧
      ∀ {β : Type} (next : Except Failure α → Program μ β),
        (p.attempt.bind next).run b w = (next (.error (.argument e))).run b w := by
  subst h
  exact ⟨rfl, fun _ => rfl⟩

/-- The call lets its statement wait. The others read. -/
def Call.waits : {α : Type} → Call α → Bool
  | _, .select _ | _, .unionSelect .. | _, .count .. | _, .sum .. => false
  | _, _ => true

/-- A call that lets its statement wait queues it, and does nothing else. -/
theorem Call.run_waits (b : Backend σ) (w : World σ) {c : Call α} (hc : c.waits = true)
    {st : Statement} (hs : c.statement = .ok st) :
    ∃ a, (c.perform (μ := μ)).run b w =
      ⟨.finished (.ok a), w.put (w.session.queue st), [.queued st w.session.database]⟩ := by
  rw [perform_eq, hs]
  cases c with
  | select q | unionSelect d q | count t f | sum t c j f => cases hc
  | _ => exact ⟨(), rfl⟩

/-- A batch that locks no tables is refused, whatever its operation is. -/
theorem Program.lockedBatch_no_tables (op : Program μ α) :
    lockedBatch [] op = .done (.error (.argument .noLocks)) := rfl

/-- Whatever the session and the server have come to, a call whose arguments are at fault ends in
    that fault: nothing happens, nothing is changed, and what goes on with it goes on as if the call
    had not been made. So it is with a batch that locks no tables, the operation of which is not
    run. A call that lets its statement wait, and has no fault, adds the statement to what waits and
    changes nothing else. -/
theorem refused_calls_change_nothing (b : Backend σ) (w : World σ) :
    (∀ {α : Type} (c : Call α) (e : ArgumentError), c.Fault e →
      c.perform.run b w = (⟨.finished (.error (.argument e)), w, []⟩ : Ran σ μ α) ∧
      ∀ {β : Type} (next : Except Failure α → Program μ β),
        (c.perform.attempt.bind next).run b w = (next (.error (.argument e))).run b w) ∧
    (∀ {α : Type} (op : Program μ α),
      (Program.lockedBatch [] op).run b w = ⟨.finished (.error (.argument .noLocks)), w, []⟩ ∧
      ∀ {β : Type} (next : Except Failure (Batched α) → Program μ β),
        ((Program.lockedBatch [] op).attempt.bind next).run b w =
          (next (.error (.argument .noLocks))).run b w) ∧
    ∀ {α : Type} (c : Call α), c.waits = true → (∀ e, ¬ c.Fault e) →
      ∃ st a, c.statement = .ok st ∧
        c.perform.run b w = (⟨.finished (.ok a),
          ⟨{ w.session with pending := w.session.pending ++ [st] }, w.server⟩,
          [.queued st w.session.database]⟩ : Ran σ μ α) := by
  refine ⟨fun c e hfault => ?_, fun op => ?_, fun c hwaits hnone => ?_⟩
  · exact Program.run_refused b w (Call.perform_refused ((c.statement_eq_error_iff e).mpr hfault))
  · exact Program.run_refused b w (Program.lockedBatch_no_tables op)
  · cases hs : c.statement with
    | error e => exact absurd ((c.statement_eq_error_iff e).mp hs) (hnone e)
    | ok st =>
      obtain ⟨a, hrun⟩ := Call.run_waits (μ := μ) b w hwaits hs
      exact ⟨st, a, rfl, hrun⟩

end SqlBatch
