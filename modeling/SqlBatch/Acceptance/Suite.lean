import SqlBatch.Acceptance.Counters
import SqlBatch.Acceptance.Locking
/- The whole acceptance run, against a server whose database may be written to.
   Correspondence:
     `execute_tests` ↔ `suite` -/
namespace SqlBatch.Acceptance

/-- All parts one after another. At the end no scope is open and no connection left. -/
def suite {μ : Type} : Program μ Unit := do
  counters
  ledger
  locking
  let seen ← view
  require (seen.depth = 0)
  require (seen.connected = false)

end SqlBatch.Acceptance
