import SqlBatch.Acceptance.Ledger
/- The acceptance of scopes: locks around reads and updates, and failures inside of
   scopes, after which the connection is gone.
   Correspondence:
     `locking` ↔ `locking` -/
namespace SqlBatch.Acceptance

namespace Ledger

variable {μ : Type}

/-- The balance of one owner set. -/
def setBalance (l : Ledger) (owner : String) (balance : Int64) : Program μ Unit :=
  .update l.accounts [⟨l.balance, .signed balance⟩] (isText l.owner owner)

/-- A read inside of a locked scope shares its connection, which is gone after the scope. -/
def updateLocked (l : Ledger) : Program μ Unit := do
  let batched ← succeed <| .lockedBatch [l.accounts] do
    let before ← Program.count l.accounts none
    l.setBalance "ann" 100
    return before
  require (batched.value = 2)
  require ((← view).connected = false)

/-- A locked scope that fails sends nothing. -/
def failLocked (l : Ledger) : Program μ Unit := do
  let result ← (Program.lockedBatch [l.accounts] do
    l.setBalance "ann" 0
    (Program.fail (.reported "Rolled back on purpose") : Program μ Unit)).attempt
  require (result.isOk = false)
  let seen ← view
  require (seen.depth = 0)
  require (seen.connected = false)
  let rows ← succeed <|
    .select { table := l.accounts, filter := some (isText l.owner "ann") }
  let row :: _ := rows | .abort
  require ((← intAt? "balance" row) = some 100)

/-- An error of the server inside of a scope gives the connection up, and the scope around it
    can go on without. -/
def failNested (l : Ledger) : Program μ Unit := do
  let _ ← succeed <| .batch false do
    let result ← (Program.batch true do
      .insert l.accounts [⟨l.owner, .text "ann"⟩]
      let _ ← Program.select { table := l.accounts }).attempt
    require (result.isOk = false)
    require ((← view).connected = false)
  require ((← succeed (.count l.accounts none)) = 2)

end Ledger

/-- The acceptance of scopes, on the accounts of the ledger. -/
def locking {μ : Type} : Program μ Unit := do
  let l ← accepted Ledger.declare
  l.updateLocked
  l.failLocked
  l.failNested

end SqlBatch.Acceptance
