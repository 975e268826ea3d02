import SqlBatch.Acceptance.Check
/- The acceptance of two tables of which one refers to the other: a generated
   identifier travels through a session variable, and the two are joined.
   Correspondence:
     `accounts`, `entries` ↔ `Ledger.declare`
     `ledger`              ↔ `ledger` -/
namespace SqlBatch.Acceptance

/-- A table of accounts and one of entries in them, with the columns in use at hand. -/
structure Ledger where
  accounts : Table
  id : Column
  owner : Column
  balance : Column
  entries : Table
  accountId : Column
  amount : Column
  payload : Column

/-- The attributes of a generated key. -/
def generatedKey : Attributes := .primaryKey ∪ .notNull ∪ .unsigned ∪ .autoIncrement

/-- The two tables. -/
def Ledger.declare : Except ArgumentError Ledger := do
  let accounts ← Table.declare "quay_accounts"
    [← Column.declare "id" .int generatedKey,
     ← Column.declare "owner" (.varchar 64) (.notNull ∪ .unique),
     ← Column.declare "balance" .bigInt .none]
  let entries ← Table.declare "quay_entries"
    [← Column.declare "entry_id" .int generatedKey,
     ← Column.declare "account_id" .int (.notNull ∪ .unsigned),
     ← Column.declare "amount" .int .notNull,
     ← Column.declare "payload" .longBlob .none]
  return {
    accounts
    id := ← accounts.column "id"
    owner := ← accounts.column "owner"
    balance := ← accounts.column "balance"
    entries
    accountId := ← entries.column "account_id"
    amount := ← entries.column "amount"
    payload := ← entries.column "payload" }

/-- Bytes that are no text, and a quote. -/
def rawPayload : List UInt8 := [0x00, 0xff, 0x27]

/-- The session variable that a generated identifier travels through. -/
def accountVariable : String := "@quay_account"

namespace Ledger

variable {μ : Type}

/-- An account, and entries of the given amounts that refer to it. -/
def openAccount (l : Ledger) (account : Value) (owner : String) (amounts : List Int64) :
    Program μ Unit := do
  .insert l.accounts [⟨l.owner, .text owner⟩]
  .set accountVariable .lastInsertId
  amounts.forM fun amount =>
    .insert l.entries
      [⟨l.accountId, account⟩, ⟨l.amount, .signed amount⟩, ⟨l.payload, .blob rawPayload⟩]

/-- The tables are made and filled, which returns no rows. -/
def fill (l : Ledger) : Program μ Unit := do
  let _ ← succeed <| .batch true do
    .createTable l.accounts
    .createTable l.entries
    .truncate l.accounts
    .truncate l.entries
  let batched ← succeed <| .batch true do
    let account ← Program.ofChecked (Value.ofVariableName accountVariable)
    l.openAccount account "ann" [10, 15]
    l.openAccount account "bob" [7]
  require (batched.rows.isEmpty = true)

/-- The entries are summed and selected together with their accounts. -/
def combine (l : Ledger) : Program μ Unit := do
  let clause ← accepted (JoinClause.onColumns l.accounts l.accountId l.id)
  let total ← succeed <|
    .sum l.entries l.amount (some (.single clause)) (some (isText l.owner "ann"))
  require (total.asInt? = some 25)
  let rows ← succeed <| .select
    { table := l.entries
      columns := .list [l.amount, l.owner, l.payload]
      join := some (.single clause)
      order := some ⟨l.amount, .ascending⟩ }
  let [first, second, third] := rows | .abort
  let owners ← [first, second, third].mapM fun r => textAt? "owner" r
  require (owners = [some "bob", some "ann", some "ann"])
  let payload ← valueAt? "payload" first
  require (payload.any (Value.same (.blob rawPayload)) = true)

/-- One account is found by a filter of two clauses, one of which compares columns. -/
def findOwner (l : Ledger) : Program μ Unit := do
  let itself ← accepted (Clause.columnsEqual l.owner l.owner)
  let filter := (Filter.single itself).and (.equals l.owner (.text "bob"))
  let rows ← succeed <| .select { table := l.accounts, filter := some filter }
  require (rows.length = 1)

end Ledger

/-- The acceptance of two tables. -/
def ledger {μ : Type} : Program μ Unit := do
  let l ← accepted Ledger.declare
  l.fill
  l.combine
  l.findOwner

end SqlBatch.Acceptance
