/- Where a session connects, and which database it selects there.
   Correspondence:
     `ConnectionConfig` ↔ `Config` -/
namespace SqlBatch

/-- The address of a server and the database that a session begins with. -/
structure Config where
  url : String
  database : Option String
  deriving DecidableEq, Repr

end SqlBatch
