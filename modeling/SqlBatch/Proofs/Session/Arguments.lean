import SqlBatch.Proofs.Session.Locks
import SqlBatch.Proofs.Sql.Lists
/- What calls make of their arguments, and which arguments they refuse.
     1. `checkAssignments_cases`: values are refused if there is none or if one of them is for a
        column of another table, and the first such column is named.
     2. `Call.accepted`: what can be said of the statement of a call that is not refused.
     3. `empty_lists_refused`: so that nothing that a program sends has an empty list, unless it is
        that of the selected columns.
     4. `mutations_assign_own_columns`: which calls that write to a table are refused, and that
        filters are written as if their columns were those of the table. -/
namespace SqlBatch

variable {σ μ α β : Type}

/-- A call is refused, or it makes its statement. -/
theorem Call.refused_or_makes (c : Call α) (b : Backend σ) (w : World σ) :
    (∃ e, (c.perform (μ := μ)).run b w = ⟨.finished (.error (.argument e)), w, []⟩) ∨
      ∃ st, c.statement = .ok st ∧ (c.perform : Program μ α).Makes st := by
  cases hc : c.statement with
  | error e =>
    refine .inl ⟨e, ?_⟩
    rw [Call.perform_refused hc]
    rfl
  | ok st => exact .inr ⟨st, rfl, Call.perform_makes hc⟩

/-! Values for columns. -/

/-- The column belongs to the table, or to none. -/
def Column.AllowedIn (c : Column) (t : Table) : Prop := c.isAttached = true → c.table = t.name

theorem Column.isForeignTo_eq_false_iff (c : Column) (t : Table) :
    c.isForeignTo t.name = false ↔ c.AllowedIn t := by
  unfold Column.isForeignTo Column.AllowedIn
  cases c.isAttached <;> simp

theorem Column.isForeignTo_eq_true_iff (c : Column) (t : Table) :
    c.isForeignTo t.name = true ↔ c.isAttached = true ∧ c.table ≠ t.name := by
  unfold Column.isForeignTo
  cases c.isAttached <;> simp

/-- There is no value, or a first one for a column of another table, or neither. -/
theorem checkAssignments_cases (k : Assigning) (t : Table) (vs : List Assignment) :
    (vs = [] ∧ checkAssignments k t vs = .error (.noAssignments k t.name)) ∨
    (∃ own a rest, vs = own ++ a :: rest ∧ (∀ a' ∈ own, a'.column.AllowedIn t) ∧
      a.column.isAttached = true ∧ a.column.table ≠ t.name ∧
      checkAssignments k t vs =
        .error (.foreignAssignment k t.name a.column.name a.column.table)) ∨
    (vs ≠ [] ∧ (∀ a ∈ vs, a.column.AllowedIn t) ∧ checkAssignments k t vs = .ok ()) := by
  by_cases hnil : vs = []
  · subst hnil
    exact .inl ⟨rfl, rfl⟩
  · cases hfind : vs.find? fun a => a.column.isForeignTo t.name with
    | none =>
      refine .inr (.inr ⟨hnil, fun a ha => ?_, ?_⟩)
      · have hown : ¬ a.column.isForeignTo t.name = true := List.find?_eq_none.mp hfind a ha
        exact (a.column.isForeignTo_eq_false_iff t).mp (Bool.not_eq_true _ ▸ hown)
      · simp only [checkAssignments, hnil, if_false, hfind]
    | some a =>
      obtain ⟨hforeign, own, rest, hvs, hown⟩ := List.find?_eq_some_iff_append.mp hfind
      obtain ⟨hattached, hother⟩ := (a.column.isForeignTo_eq_true_iff t).mp hforeign
      refine .inr (.inl ⟨own, a, rest, hvs, fun a' ha' => ?_, hattached, hother, ?_⟩)
      · exact (a'.column.isForeignTo_eq_false_iff t).mp (by simpa using hown a' ha')
      · simp only [checkAssignments, hnil, if_false, hfind]

/-- There is something to assign, and all of it to columns of the table or of none. -/
def AssignsOwn (t : Table) (vs : List Assignment) : Prop :=
  vs ≠ [] ∧ ∀ a ∈ vs, a.column.AllowedIn t

theorem assignsOwn_of_check {k : Assigning} {t : Table} {vs : List Assignment} {st st' : Statement}
    (h : ((checkAssignments k t vs).map fun _ => st) = .ok st') : st = st' ∧ AssignsOwn t vs := by
  rcases checkAssignments_cases k t vs with
    ⟨-, hc⟩ | ⟨own, a, rest, -, -, -, -, hc⟩ | ⟨hnil, hown, hc⟩
  · rw [hc] at h
    cases h
  · rw [hc] at h
    cases h
  · rw [hc] at h
    cases h
    exact ⟨rfl, hnil, hown⟩

/-! Statements. -/

/-- What calls see to before they make the statement. -/
def Statement.Accepted : Statement → Prop
  | .insert t vs | .replace t vs | .update t vs _ => AssignsOwn t vs
  | .set name _ => Program.isSetTarget name = true
  | .lockTables locks => locks ≠ []
  | .createDatabase name => name ≠ ""
  | .unionSelect q => q.filters ≠ []
  | _ => True

/-- What was checked to be no fault is the statement. -/
theorem ok_of_checked {fault : Prop} [Decidable fault] {e : ArgumentError} {st st' : Statement}
    (h : (if fault then .error e else .ok st : Except ArgumentError Statement) = .ok st') :
    ¬ fault ∧ st = st' := by
  split at h
  · cases h
  · next hfault =>
    cases h
    exact ⟨hfault, rfl⟩

theorem Call.accepted (c : Call α) {st : Statement} (h : c.statement = .ok st) : st.Accepted := by
  cases c with
  | insert t vs | replace t vs | update t vs f =>
    obtain ⟨rfl, hown⟩ := assignsOwn_of_check h
    exact hown
  | set name v =>
    simp only [Call.statement] at h
    split at h
    · next htarget =>
      cases h
      exact htarget
    · cases h
  | lockTables locks =>
    obtain ⟨hlocks, rfl⟩ := ok_of_checked h
    exact fun hnil => hlocks (List.isEmpty_iff.mpr hnil)
  | createDatabase name =>
    obtain ⟨hname, rfl⟩ := ok_of_checked h
    exact hname
  | unionSelect d q =>
    obtain ⟨hfilters, rfl⟩ := ok_of_checked h
    exact fun hnil => hfilters (List.isEmpty_iff.mpr hnil)
  | _ =>
    cases h
    trivial

theorem Statement.Accepted.filled {st : Statement} (h : st.Accepted) : st.Filled := by
  cases st with
  | insert t vs | replace t vs | update t vs f => exact h.1
  | lockTables locks | unionSelect q => exact h
  | _ => trivial

/-- What the statement assigns, it assigns to its own table. -/
def Statement.AssignsOwn : Statement → Prop
  | .insert t vs | .replace t vs | .update t vs _ => SqlBatch.AssignsOwn t vs
  | _ => True

theorem Statement.Accepted.assignsOwn {st : Statement} (h : st.Accepted) : st.AssignsOwn := by
  cases st with
  | insert t vs | replace t vs | update t vs f => exact h
  | _ => trivial

/-- All that a program of calls sends is accepted by a call, or selects a database. -/
theorem Program.Written.accepted {b : Backend σ} {config : Config} {server : σ} {p : Program μ α}
    (hp : p.Written) {before after : List (Event μ)} {request : Request} {done : Bool}
    (hlog : (p.run b ⟨.start config, server⟩).events = before ++ .run request done :: after) :
    ∀ st ∈ request.statements, st.Accepted :=
  hp.sent (fun c _ h => c.accepted h) (fun _ => trivial) hlog

/-! Lists. -/

/-- The lists of the statement stand in its text and have items, unless the columns of an empty list
    are selected: their list is empty. -/
def Statement.ListsFilled (st : Statement) : Prop :=
  ∀ d, ∀ l ∈ st.lists d, Text.Within l.text (Sql.statement d st) ∧
    (l.items = [] ↔ l.kind = .selected ∧ st.SelectsNothing)

theorem Statement.Accepted.listsFilled {st : Statement} (h : st.Accepted) : st.ListsFilled :=
  fun _ _ hl => ⟨st.lists_within hl, h.filled.items_eq_nil_iff hl⟩

/-- No list of values, conditions or joined tables can be built without an item. A call that is
    given an empty list is refused, and nothing is queued or sent, or the list is that of the columns
    that are selected: it is accepted, and is the only one without an item in what a program
    sends. -/
theorem empty_lists_refused (b : Backend σ) :
    (∀ (c : Column) (vs : List Value), (Clause.isIn c vs).isOk = true ↔ vs ≠ []) ∧
    (∀ cs : List Clause, (Filter.all cs).isOk = true ↔ cs ≠ []) ∧
    (∀ cs : List JoinClause, (Join.all cs).isOk = true ↔ cs ≠ []) ∧
    (∀ (c : Call α) (w : World σ),
      (∃ e, (c.perform (μ := μ)).run b w = ⟨.finished (.error (.argument e)), w, []⟩) ∨
      ∃ st, c.statement = .ok st ∧ (c.perform : Program μ α).Makes st ∧ st.ListsFilled) ∧
    ∀ (config : Config) (server : σ) (p : Program μ α), p.Written →
      ∀ before request done after,
        (p.run b ⟨.start config, server⟩).events = before ++ .run request done :: after →
        ∀ st ∈ request.statements, st.ListsFilled := by
  refine ⟨fun c vs => ?_, fun cs => ?_, fun cs => ?_, fun c w => ?_, ?_⟩
  · unfold Clause.isIn
    split <;> simp_all [Except.isOk, Except.toBool]
  · unfold Filter.all
    split <;> simp_all [Except.isOk, Except.toBool]
  · unfold Join.all
    split <;> simp_all [Except.isOk, Except.toBool]
  · rcases c.refused_or_makes b w with hrefused | ⟨st, hst, hmakes⟩
    · exact .inl hrefused
    · exact .inr ⟨st, hst, hmakes, (c.accepted hst).listsFilled⟩
  · intro config server p hp before request done after hlog st hst
    exact (hp.accepted hlog st hst).listsFilled

/-- The columns of an empty list. -/
def selectNothing : Select := { table := keyTable, columns := .list [] }

/-- A select of no columns is accepted and sent, although the list in its text is empty. -/
theorem empty_columns_sent :
    (∃ before after,
      ((Program.select (μ := Unit) selectNothing).run (Script.backend .generic) untouched).events =
        before ++ .run ⟨some "app", [.select selectNothing]⟩ true :: after) ∧
    (⟨.selected, ",", []⟩ : ItemList) ∈ (Statement.select selectNothing).lists .generic ∧
    Request.text .generic ⟨some "app", [.select selectNothing]⟩ =
      "USE `app`;SELECT  FROM `keys`;" := by
  refine ⟨⟨[.connect "mock://localhost/app" true, .opened 0,
    .queued (.select selectNothing) (some "app")], [.destroy, .closed false], ?_⟩,
    List.mem_singleton.mpr rfl, by decide +kernel⟩
  simp only [Program.select, Program.read, Program.run]
  rfl

/-! Columns of other tables. -/

namespace Assigning

/-- The call that makes a statement which assigns values. Only an update has a filter. -/
def call (t : Table) (vs : List Assignment) (f : Filter) : Assigning → Call Unit
  | .insert => .insert t vs
  | .replace => .replace t vs
  | .update => .update t vs f

def statement (t : Table) (vs : List Assignment) (f : Filter) : Assigning → Statement
  | .insert => .insert t vs
  | .replace => .replace t vs
  | .update => .update t vs f

/-- The values are checked, and then the statement waits. -/
theorem perform_call (t : Table) (vs : List Assignment) (f : Filter) (k : Assigning) :
    ((k.call t vs f).perform : Program μ Unit) =
      (Program.ofChecked (checkAssignments k t vs)).bind fun _ => .queued (k.statement t vs f) := by
  cases k <;> rfl

end Assigning

/-- The conditions on one column, as they are for the column of that name of a table. -/
def Clause.placedIn (t : Table) : Clause → Clause
  | .equals c v => .equals (c.placedIn t.name) v
  | .member c vs h => .member (c.placedIn t.name) vs h
  | .compare c op v => .compare (c.placedIn t.name) op v
  | .columns a b h => .columns a b h

def Filter.placedIn (t : Table) (f : Filter) : Filter :=
  ⟨f.clauses.map (Clause.placedIn t), fun hnil => f.nonempty (List.map_eq_nil_iff.mp hnil)⟩

theorem Sql.columnName_placedIn (c : Column) (table : String) :
    Sql.columnName false (c.placedIn table) = Sql.columnName false c := by
  simp only [Sql.columnName, Bool.false_and, Bool.false_eq_true, if_false, Column.placedIn]

/-- A condition on one column is written by the name of the column alone. -/
theorem Sql.condition_placedIn (d : Dialect) (t : Table) (c : Clause) :
    Sql.condition d (c.placedIn t) = Sql.condition d c := by
  cases c with
  | columns a b h => rfl
  | _ => simp only [Clause.placedIn, Sql.condition, Sql.columnName_placedIn]

theorem Sql.filter_placedIn (d : Dialect) (t : Table) (f : Filter) :
    Sql.filter d (f.placedIn t) = Sql.filter d f := by
  simp only [Sql.filter, Filter.placedIn, List.map_map, Function.comp_def, Sql.condition_placedIn]

/-- The run of a call that lets its statement wait. -/
def queuedRun (w : World σ) (st : Statement) : Ran σ μ Unit :=
  ⟨.finished (.ok ()), w.put (w.session.queue st), [.queued st w.session.database]⟩

/-- The run of a call that is refused. -/
def refusedRun (w : World σ) (e : ArgumentError) : Ran σ μ Unit :=
  ⟨.finished (.error (.argument e)), w, []⟩

/-- An insertion, a replacement or an update is queued exactly when it assigns something, and
    nothing to a column of another table. Else it is refused with the first fault and nothing is
    queued. The columns of filters are not looked at: no deletion is refused, and an update is not
    for its filter. A condition on one column is written as if the column were one of the table. -/
theorem mutations_assign_own_columns (b : Backend σ) (w : World σ) (t : Table)
    (vs : List Assignment) (f : Filter) :
    (∀ k : Assigning,
      (AssignsOwn t vs ∧
        (k.call t vs f).perform.run b w = queuedRun (μ := μ) w (k.statement t vs f)) ∨
      (vs = [] ∧
        (k.call t vs f).perform.run b w = refusedRun (μ := μ) w (.noAssignments k t.name)) ∨
      ∃ own a rest, vs = own ++ a :: rest ∧ (∀ a' ∈ own, a'.column.AllowedIn t) ∧
        a.column.isAttached = true ∧ a.column.table ≠ t.name ∧
        (k.call t vs f).perform.run b w =
          refusedRun (μ := μ) w (.foreignAssignment k t.name a.column.name a.column.table)) ∧
    (Call.delete t f).perform.run b w = queuedRun (μ := μ) w (.delete t f) ∧
    (∀ d, Sql.statement d (.delete t f) = Sql.statement d (.delete t (f.placedIn t)) ∧
      Sql.statement d (.update t vs f) = Sql.statement d (.update t vs (f.placedIn t))) ∧
    ∀ (config : Config) (server : σ) (p : Program μ α), p.Written →
      ∀ before request done after,
        (p.run b ⟨.start config, server⟩).events = before ++ .run request done :: after →
        ∀ st ∈ request.statements, st.AssignsOwn := by
  refine ⟨fun k => ?_, rfl, fun d => ?_, ?_⟩
  · simp only [Assigning.perform_call]
    rcases checkAssignments_cases k t vs with
      ⟨hnil, hc⟩ | ⟨own, a, rest, hvs, hown, hattached, hother, hc⟩ | ⟨hnil, hown, hc⟩
    · rw [hc]
      exact .inr (.inl ⟨hnil, rfl⟩)
    · rw [hc]
      exact .inr (.inr ⟨own, a, rest, hvs, hown, hattached, hother, rfl⟩)
    · rw [hc]
      exact .inl ⟨⟨hnil, hown⟩, rfl⟩
  · have hfilter := (Sql.filter_placedIn d t f).symm
    constructor
    · exact congrArg (fun text => "DELETE FROM " ++ Sql.tableName t ++ " " ++ text ++ ";") hfilter
    · exact congrArg (fun text => "UPDATE " ++ Sql.tableName t ++ " SET " ++
        Sql.assignments d vs ++ " " ++ text ++ ";") hfilter
  · intro config server p hp before request done after hlog st hst
    exact (hp.accepted hlog st hst).assignsOwn

/-- A column of another table than the one with the keys. -/
def lineColumn : Column := ⟨"line", "logs", .varchar 255, .none, by decide, by decide⟩

def lineFilter : Filter := .single (.equals lineColumn .null)

/-- A deletion of keys is queued although its filter names a column of another table, which it
    writes as a column of the keys. -/
theorem foreign_filter_queued :
    lineColumn.isAttached = true ∧ lineColumn.table ≠ keyTable.name ∧
    (Program.delete keyTable lineFilter).run (Script.backend .generic) untouched =
      queuedRun (μ := Unit) untouched (.delete keyTable lineFilter) ∧
    Sql.statement .generic (.delete keyTable lineFilter) =
      "DELETE FROM `keys` WHERE `line` = NULL;" :=
  ⟨by decide, by decide, rfl, by decide +kernel⟩

end SqlBatch
