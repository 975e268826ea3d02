import SqlBatch.Argument
import SqlBatch.Value.Inspect
/- What can go wrong while statements are queued and sent.
   Correspondence:
     `Error`                          ↔ `Failure`
     `context`                        ↔ `Failure.during`
     what an error and its causes say ↔ `Failure.message` -/
namespace SqlBatch

/-- A failure. -/
inductive Failure where
  /-- An argument was refused. -/
  | argument (error : ArgumentError)
  /-- A scope was opened in a chain whose connection is gone. -/
  | orphanedScope
  /-- Statements were left to a scope whose connection is gone. -/
  | orphanedStatements
  /-- The server answered a count with a value that is none. -/
  | unexpectedCount (value : Value) (table : String)
  /-- An operation or the server reports a failure in its own words. -/
  | reported (message : String)
  /-- A failure together with what was being done. -/
  | during (activity : String) (cause : Failure)

/-- The failure in words, what was being done first. -/
def Failure.message : Failure → String
  | .argument e => e.message
  | .orphanedScope =>
    "Cannot open a batch scope, the connection was destroyed by a failed nested batch"
  | .orphanedStatements =>
    "Cannot send the pending statements, the connection was destroyed by a failed nested batch"
  | .unexpectedCount v t =>
    "Unexpected result " ++ v.inspect ++ " while counting the rows of `" ++ t ++ "`"
  | .reported message => message
  | .during activity cause => activity ++ ": " ++ cause.message

/-- The failure is at its root a refused argument. -/
def Failure.isArgument : Failure → Bool
  | .argument _ => true
  | .during _ cause => cause.isArgument
  | _ => false

end SqlBatch
