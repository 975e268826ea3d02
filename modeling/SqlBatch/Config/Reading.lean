import SqlBatch.Config.Basic
import SqlBatch.Failure
import SqlBatch.Text.Excerpt
import SqlBatch.Url.Basic
/- Configurations read from an address, given as it is or through a variable of
   the environment. The first segment of the path, as it is written there, names
   the database.
   Correspondence:
     `ConnectionConfig::new`   ↔ `Config.ofUrl`
     `from_env`                ↔ `Config.ofVariable`, of what the variable holds
     `with_database`, `scheme` ↔ `Config.withDatabase`, `Config.scheme` -/
namespace SqlBatch.Config

/-- The configuration of an address. -/
def ofUrl (url : String) : Except Failure Config :=
  match Url.parse url with
  | .ok parsed => .ok ⟨url, parsed.firstSegment?⟩
  | .error e =>
    .error (.during ("While parsing the connection url `" ++ Text.excerpt url ++ "`")
      (.reported e.message))

/-- The configuration of the address that a variable of the environment holds. -/
def ofVariable (name : String) : Option String → Except Failure Config
  | some url => ofUrl url
  | none =>
    .error (.during ("While reading the environment variable `" ++ name ++ "`")
      (.reported "environment variable not found"))

/-- The configuration with another database. -/
def withDatabase (c : Config) (database : String) : Config := { c with database := some database }

/-- The characters before the first `://`, none without it. -/
def schemeChars : List Char → Option (List Char)
  | ':' :: '/' :: '/' :: _ => some []
  | c :: cs => (schemeChars cs).map (c :: ·)
  | [] => none

/-- What is written before the first `://` of the address, nothing without it. -/
def scheme (c : Config) : String := String.ofList ((schemeChars c.url.toList).getD [])

end SqlBatch.Config
