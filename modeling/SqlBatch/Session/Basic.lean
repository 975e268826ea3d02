import SqlBatch.Config.Basic
import SqlBatch.Failure
import SqlBatch.Result.Affected
import SqlBatch.Sql.Statement
/- A session: the statements that wait to be sent, and the one connection that the
   open scopes share. A connection is made by the first scope and destroyed with
   the last one, or earlier by a scope that fails; the scopes around such a scope
   go on without a connection and are orphans.
   Correspondence:
     `StatementPerformer`              ↔ `Session`
     `nesting`, `orphaned`, `need_use` ↔ `depth`, `orphans`, `fresh`
     `statements`                      ↔ `pending`
     `queue`, `use_database`           ↔ `Session.queue`, `Session.useDatabase`
     `Driver`, `Connection`            ↔ `Backend` -/
namespace SqlBatch

/-- The state of a session. -/
structure Session where
  config : Config
  /-- There is a connection. -/
  connected : Bool
  /-- How many open scopes share the connection. -/
  depth : Nat
  /-- How many open scopes have outlived their connection. -/
  orphans : Nat
  /-- How many connections were given up, in 64 bits. A scope that finds another number at its
      end than at its start is an orphan. -/
  epoch : UInt64
  /-- No request was sent on the connection yet, so that none has selected a database. -/
  fresh : Bool
  /-- The database that statements are meant for. -/
  database : Option String
  /-- The statements that wait, in the order in which they were queued. -/
  pending : List Statement

namespace Session

/-- A session that did nothing yet. -/
def start (config : Config) : Session where
  config := config
  connected := false
  depth := 0
  orphans := 0
  epoch := 0
  fresh := true
  database := config.database
  pending := []

/-- The session without the statements that waited. -/
def cleared (s : Session) : Session := { s with pending := [] }

/-- The session with one more statement that waits. -/
def queue (s : Session) (statement : Statement) : Session :=
  { s with pending := s.pending ++ [statement] }

/-- A change of the database has to be sent: a request on this connection selected another. -/
def needsUse (s : Session) (database : String) : Bool :=
  s.connected && !s.fresh && s.database ≠ some database

/-- The session meant for another database. -/
def useDatabase (s : Session) (database : String) : Session :=
  let s := if s.needsUse database then s.queue (.use database) else s
  { s with database := some database }

end Session

/-- What an operation can see of its session. -/
structure View where
  connected : Bool
  depth : Nat
  database : Option String
  pending : List Statement

/-- What an operation can see of the session. -/
def Session.view (s : Session) : View :=
  ⟨s.connected, s.depth, s.database, s.pending⟩

/-- A request: statements sent together, after a selection of the database if none was made. -/
structure Request where
  database : Option String
  statements : List Statement

/-- The statements of the request in the order in which they run. -/
def Request.all (r : Request) : List Statement :=
  (r.database.map Statement.use).toList ++ r.statements

/-- The text that is sent. -/
def Request.text (d : Dialect) (r : Request) : String :=
  String.join (r.all.map (Sql.statement d))

/-- The request that sends everything that waits. -/
def Session.request (s : Session) : Request :=
  ⟨if s.fresh then s.database else none, s.pending⟩

/-- What a request brings: items, and the failure that ended them, if one did. -/
structure Response where
  items : List Item
  failure : Option Failure

/-- What a session talks to: it answers each call from a state of its own. -/
structure Backend (σ : Type) where
  dialect : Dialect
  connect : Config → σ → Except Failure Unit × σ
  run : String → σ → Response × σ
  destroy : σ → Except Failure Unit × σ

/-- A session together with the state of what it talks to. -/
structure World (σ : Type) where
  session : Session
  server : σ

/-- What happens in a session, marks of type `μ` included. -/
inductive Event (μ : Type) where
  /-- A statement was queued, meant for a database if one was chosen. -/
  | queued (statement : Statement) (database : Option String)
  /-- A connection was asked for, and made or not. -/
  | connect (url : String) (made : Bool)
  /-- A request was sent, and all of it carried out or not. -/
  | run (request : Request) (carriedOut : Bool)
  /-- The connection was destroyed. -/
  | destroy
  /-- A scope was opened, in the given epoch. -/
  | opened (epoch : UInt64)
  /-- A scope was refused before its operation began. -/
  | refused
  /-- A scope was closed, with a failure or without. -/
  | closed (failed : Bool)
  /-- An operation left a mark, with the session as it was then. -/
  | mark (mark : μ) (session : Session)

end SqlBatch
