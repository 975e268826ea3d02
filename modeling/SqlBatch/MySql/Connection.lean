import SqlBatch.Failure
import SqlBatch.Result.Affected
import SqlBatch.Text.Excerpt
import SqlBatch.MySql.Value
/- A connection to a MySQL server. A request has one result for each of its
   statements. Rows are passed on result by result; a report of changed rows is
   passed on for the last statement only, and only if no row was. An error that
   comes after the first result and outside of a result with rows is kept back, and
   the next call on the connection fails with it.
     1. `Result.rowsOf_rows`: no row of a result is lost.
     2. `Cursor.readAll_next`: what reading does at a result without an error.
   Correspondence:
     `MySQLConnection::run`               ↔ `Connection.run`, and its stream `Replies.answers`
     its loop, with `is_empty`, `collect` ↔ `Cursor.readAll`, `Cursor.isEmpty`, `Cursor.collect`
     `query_iter`                         ↔ `query`
     `destroy`                            ↔ `Connection.close` -/
namespace SqlBatch.MySql

/-- An error that the server reports. -/
structure ServerError where
  code : Nat
  state : String
  message : String
  deriving DecidableEq, Repr

/-- The error on one line. -/
def ServerError.line (e : ServerError) : String :=
  "ERROR " ++ e.state ++ " (" ++ toString e.code ++ "): " ++ e.message

/-- The error as a failure. -/
def ServerError.failure (e : ServerError) : Failure :=
  .during ("Server error: `" ++ e.line ++ "'") (.reported e.line)

/-- What the server sends for one statement. -/
inductive Result where
  /-- Success without rows: how many were changed, and the identifier generated, zero for none. -/
  | done (affected lastInsertId : UInt64)
  /-- Rows of cells, each null or bytes, under the names of their columns as bytes, and the error
      that cut them short, if one did. -/
  | rows (names : List (List UInt8)) (cells : List (List (Option (List UInt8))))
      (error : Option ServerError)
  | error (error : ServerError)

/-- A cell as it is sent. -/
def Sent.ofCell : Option (List UInt8) → Sent
  | none => .null
  | some bs => .bytes bs

namespace Result

/-- The rows of a result. -/
def rowsOf : Result → List Row
  | .rows names cells _ =>
    cells.filterMap fun cs => row? names ((cs.map Sent.ofCell).map some)
  | _ => []

/-- The error of a result, if it has one. -/
def error? : Result → Option ServerError
  | .done _ _ => none
  | .rows _ _ e => e
  | .error e => some e

/-- What a result reports: only a statement without rows has changed any. -/
def report : Result → Affected
  | .done affected lastInsertId =>
    ⟨affected, if lastInsertId = 0 then none else some lastInsertId⟩
  | _ => .none

/-- Every row of a result is one of its rows, as no value was taken out of it before. -/
theorem rowsOf_rows (names : List (List UInt8)) (cells : List (List (Option (List UInt8))))
    (error : Option ServerError) :
    (rows names cells error).rowsOf =
      cells.map fun cs => ⟨names.map Text.ofUtf8Lossy, cs.map fun c => (Sent.ofCell c).value⟩ := by
  simp only [rowsOf, row?_untaken]
  rw [List.filterMap_eq_map']
  simp only [List.map_map, Function.comp_def]

end Result

/-- The results of a request while they are read. -/
structure Cursor where
  /-- The results that were not read yet, the one at hand first. -/
  results : List Result
  /-- What the last result reported that was at hand. -/
  report : Affected

/-- What reading the results of a request came to. -/
structure Replies where
  /-- The rows that were passed on. -/
  rows : List Row
  /-- The error that was passed on. -/
  error : Option ServerError
  /-- The error that was kept back. -/
  kept : Option ServerError
  /-- What the last result reported that was read. -/
  report : Affected

/-- The replies with rows before them. -/
def Replies.withRows (rows : List Row) (r : Replies) : Replies := { r with rows := rows ++ r.rows }

namespace Cursor

/-- The first of the results is at hand, if there is one, after others that reported this. -/
def before (results : List Result) (report : Affected) : Cursor :=
  ⟨results, (results.head?.map Result.report).getD report⟩

/-- There is no result at hand. An error is none. -/
def isEmpty (c : Cursor) : Bool :=
  match c.results with
  | [] | .error _ :: _ => true
  | _ => false

/-- The error at hand, if it is one. -/
def kept (c : Cursor) : Option ServerError :=
  match c.results with
  | .error e :: _ => some e
  | _ => none

/-- Reads the result at hand and goes on to the next one. -/
def collect (c : Cursor) : Except ServerError (List Row × Cursor) :=
  match c.results with
  | [] => .ok ([], c)
  | r :: rest =>
    match r.error? with
    | some e => .error e
    | none => .ok (r.rowsOf, before rest c.report)

/-- One result less is left after one was read. -/
theorem length_collect {c next : Cursor} {rows : List Row} (hempty : c.isEmpty = false)
    (h : c.collect = .ok (rows, next)) : next.results.length < c.results.length := by
  obtain ⟨results, report⟩ := c
  cases results with
  | nil => cases hempty
  | cons r rest =>
    simp only [collect] at h
    split at h
    · cases h
    · cases h
      exact Nat.lt_succ_self _

/-- Reads the results one after another until there is none at hand, or one has an error. -/
def readAll (c : Cursor) : Replies :=
  if _hempty : c.isEmpty then ⟨[], none, c.kept, c.report⟩
  else
    match _h : c.collect with
    | .error e => ⟨[], some e, none, .none⟩
    | .ok (rows, next) => next.readAll.withRows rows
termination_by c.results.length
decreasing_by exact length_collect (Bool.eq_false_iff.mpr _hempty) _h

theorem readAll_of_isEmpty {c : Cursor} (h : c.isEmpty = true) :
    c.readAll = ⟨[], none, c.kept, c.report⟩ := by
  rw [readAll, dif_pos h]

theorem readAll_error {c : Cursor} {e : ServerError} (hempty : c.isEmpty = false)
    (h : c.collect = .error e) : c.readAll = ⟨[], some e, none, .none⟩ := by
  rw [readAll, dif_neg (Bool.eq_false_iff.mp hempty)]
  split <;> simp_all

theorem readAll_next {c next : Cursor} {rows : List Row} (hempty : c.isEmpty = false)
    (h : c.collect = .ok (rows, next)) : c.readAll = next.readAll.withRows rows := by
  rw [readAll, dif_neg (Bool.eq_false_iff.mp hempty)]
  split <;> simp_all

end Cursor

/-- The results of a request, unless the first statement failed. -/
def query : List Result → Except ServerError Cursor
  | .error e :: _ => .error e
  | results => .ok (.before results .none)

/-- The replies to a request. -/
def replies (results : List Result) : Replies :=
  match query results with
  | .error e => ⟨[], some e, none, .none⟩
  | .ok c => c.readAll

/-- A connection, with the error that was kept back on it. -/
structure Connection where
  kept : Option ServerError
  deriving DecidableEq, Repr

/-- What a request fails with. -/
def runFailure (sql : String) (e : ServerError) : Failure :=
  .during ("While running the query:\n" ++ Text.excerpt sql) e.failure

/-- The items of the replies to a request, and the failure after them. -/
def Replies.answers (sql : String) (r : Replies) : List (Except Failure Item) :=
  r.rows.map (fun row => .ok (.row row)) ++
    match r.error with
    | some e => [.error (runFailure sql e)]
    | none => if r.rows.isEmpty && 0 < r.report.rows then [.ok (.affected r.report)] else []

/-- A request with the results that the server has for it. With an error kept back it is not
    sent, and the results are left. -/
def Connection.run (c : Connection) (sql : String) (results : List Result) :
    List (Except Failure Item) × Connection :=
  match c.kept with
  | some e => ([.error (runFailure sql e)], ⟨none⟩)
  | none => ((replies results).answers sql, ⟨(replies results).kept⟩)

/-- Closing fails with an error that was kept back, and then says no goodbye. -/
def Connection.close (c : Connection) : Except Failure Unit :=
  match c.kept with
  | some e => .error (.during "While closing the MySQL connection" e.failure)
  | none => .ok ()

/-- What happens on a connection that sends requests one after another to a server with a list of
    results for each it receives: the answers to each request, the requests received, and the
    connection at the end. -/
def converse : Connection → List String → List (List Result) →
    List (List (Except Failure Item)) × List String × Connection
  | c, [], _ => ([], [], c)
  | c, sql :: rest, script =>
    let (answers, next) := c.run sql (script.headD [])
    let sent := c.kept.isNone
    let (all, received, last) := converse next rest (if sent then script.drop 1 else script)
    (answers :: all, if sent then sql :: received else received, last)

end SqlBatch.MySql
