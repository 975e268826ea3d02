import SqlBatch.Proofs.Sql.Query
/- What the texts of statements that write or lock say.
     1. `reads_assignment`, `reads_insertion`: values are read with their columns, whether each
        stands by its column or all of them behind all of these.
     2. `reads_update`, `reads_delete`, `reads_locks`: so are conditions, and locks with their
        tables.
     3. `mutation_text_determines`: each of the texts is parsed as what it says. -/
namespace SqlBatch

namespace Sql

/-- What a statement that writes or locks says. -/
inductive Mutation where
  | insert (table : String) (values : List (String × Content))
  | replace (table : String) (values : List (String × Content))
  | update (table : String) (values : List (String × Content)) (conditions : List Condition)
  | delete (table : String) (conditions : List Condition)
  | lock (tables : List (String × LockKind))
  deriving DecidableEq

end Sql

/-- The name of the column and what the value stands for. -/
def Assignment.pair (d : Dialect) (a : Assignment) : String × Sql.Content :=
  (a.column.name, a.value.content d)

namespace Sql

variable {next : List String}

/-! Values. -/

/-- Each of the one list with the one in its place in the other, if there are as many. -/
def paired? {α β : Type} (as : List α) (bs : List β) : Option (List (α × β)) :=
  if as.length = bs.length then some (as.zip bs) else none

theorem paired?_map {α β γ : Type} (f : γ → α) (g : γ → β) (cs : List γ) :
    paired? (cs.map f) (cs.map g) = some (cs.map fun c => (f c, g c)) := by
  rw [paired?, if_pos (by rw [List.length_map, List.length_map]), List.zip_map']

/-- Takes columns and values, each between parentheses. -/
def Reader.columnValues : Reader (List (String × Content)) := do
  expect " ("
  let columns ← items "," identifier
  expect ") VALUES ("
  let values ← items "," Content.read
  expect ")"
  paired? columns values

/-- Takes a column with its value. -/
def Reader.assignment : Reader (String × Content) := do
  let column ← identifier
  expect "="
  let value ← Content.read
  return (column, value)

theorem reads_columnValues (d : Dialect) {vs : List Assignment} (hvs : vs ≠ []) :
    Reads Reader.columnValues (columnValues d vs) (vs.map (Assignment.pair d)) next := by
  have hcolumns : Reads (Reader.items "," Reader.identifier)
      (Text.separated "," (vs.map fun a => columnName false a.column))
      (vs.map fun a => a.column.name) [")"] :=
    .items hvs (fun a _ => reads_identifier a.column.name rfl) rfl (by decide) rfl
  have hvalues : Reads (Reader.items "," Content.read)
      (Text.separated "," (vs.map fun a => literal d a.value))
      (vs.map fun a => a.value.content d) [")"] :=
    .items hvs (fun a _ => (reads_literal d a.value).mono rfl) rfl (by decide) rfl
  have htext : columnValues d vs =
      " (" ++ (Text.separated "," (vs.map fun a => columnName false a.column) ++ (") VALUES (" ++
        (Text.separated "," (vs.map fun a => literal d a.value) ++ (")" ++ "")))) := by
    unfold columnValues
    simp only [String.append_assoc, String.append_empty]
  rw [htext]
  refine .behind (hcolumns.before rfl (.behind (hvalues.before rfl (.behind fun rest _ => ?_))))
  show (paired? _ _).bind _ = _
  rw [paired?_map]
  rfl

theorem reads_assignment (d : Dialect) (a : Assignment) :
    Reads Reader.assignment (columnName false a.column ++ "=" ++ literal d a.value) (a.pair d)
      stops := by
  have hcolumn : Reads Reader.identifier (columnName false a.column) a.column.name ["="] :=
    reads_identifier a.column.name rfl
  rw [String.append_assoc]
  exact hcolumn.before rfl (.behind ((reads_literal d a.value).last fun _ => rfl))

/-! Statements. -/

/-- Takes what stands behind the keyword of an insertion or a replacement. -/
def Reader.insertion (kind : String → List (String × Content) → Mutation) : Reader Mutation := do
  let table ← identifier
  let values ← columnValues
  expect ";"
  return kind table values

/-- Takes what stands behind `UPDATE`. -/
def Reader.update : Reader Mutation := do
  let table ← identifier
  expect " SET "
  let values ← items "," assignment
  expect " WHERE "
  let conditions ← Condition.readAll
  expect ";"
  return .update table values conditions

/-- Takes what stands behind `DELETE FROM`. -/
def Reader.delete : Reader Mutation := do
  let table ← identifier
  expect " WHERE "
  let conditions ← Condition.readAll
  expect ";"
  return .delete table conditions

/-- Takes a table and how it is locked. -/
def Reader.lock : Reader (String × LockKind) := do
  let table ← identifier
  let kind ← oneOf [(" READ", .read), (" WRITE", .write)]
  return (table, kind)

/-- Takes what stands behind `LOCK TABLES`. -/
def Reader.locks : Reader Mutation := do
  let tables ← items ", " lock
  expect ";"
  return .lock tables

/-- What each statement begins with, and what is taken behind it. -/
def mutations : List (String × Reader Mutation) :=
  [("INSERT INTO ", Reader.insertion .insert), ("REPLACE ", Reader.insertion .replace),
    ("UPDATE ", Reader.update), ("DELETE FROM ", Reader.delete), ("LOCK TABLES ", Reader.locks)]

/-- Takes a statement that writes or locks. -/
def Mutation.read : Reader Mutation := do
  let behind ← Reader.oneOf mutations
  behind

/-- A statement is read as what stands behind its keyword is. -/
theorem reads_mutation {keyword text : String} {m : Mutation} (behind : Reader Mutation)
    (hkeyword : (keyword, behind) ∈ mutations) (h : Reads behind text m next) :
    Reads Mutation.read (keyword ++ text) m next :=
  .choice hkeyword (by decide) h

theorem reads_table (t : Table) : Reads Reader.identifier (tableName t) t.name [" "] :=
  reads_identifier t.name rfl

theorem reads_insertion (d : Dialect) (kind : String → List (String × Content) → Mutation)
    (t : Table) {vs : List Assignment} (hvs : vs ≠ []) :
    Reads (Reader.insertion kind) (tableName t ++ (columnValues d vs ++ (";" ++ "")))
      (kind t.name (vs.map (Assignment.pair d))) next := by
  have hvalues : Reads Reader.columnValues (columnValues d vs) (vs.map (Assignment.pair d)) [";"] :=
    reads_columnValues d hvs
  refine (reads_table t).bind (hvalues.before rfl (.behind (.pure _ _))) fun rest _ => ?_
  refine ⟨" ", List.mem_singleton_self _, ?_⟩
  simp [columnValues]

theorem reads_insert (d : Dialect) (t : Table) {vs : List Assignment} (hvs : vs ≠ []) :
    Reads Mutation.read (statement d (.insert t vs)) (.insert t.name (vs.map (Assignment.pair d)))
      next := by
  have htext : statement d (.insert t vs) =
      "INSERT INTO " ++ (tableName t ++ (columnValues d vs ++ (";" ++ ""))) := by
    unfold statement
    simp only [String.append_assoc, String.append_empty]
  rw [htext]
  exact reads_mutation (Reader.insertion .insert) (by simp [mutations])
    (reads_insertion d .insert t hvs)

theorem reads_replace (d : Dialect) (t : Table) {vs : List Assignment} (hvs : vs ≠ []) :
    Reads Mutation.read (statement d (.replace t vs))
      (.replace t.name (vs.map (Assignment.pair d))) next := by
  have htext : statement d (.replace t vs) =
      "REPLACE " ++ (tableName t ++ (columnValues d vs ++ (";" ++ ""))) := by
    unfold statement
    simp only [String.append_assoc, String.append_empty]
  rw [htext]
  exact reads_mutation (Reader.insertion .replace) (by simp [mutations])
    (reads_insertion d .replace t hvs)

/-- Conditions are the last part of a statement. -/
theorem reads_filter (d : Dialect) (f : Filter)
    {k : List Condition → Reader Mutation} {m : Mutation}
    (hk : Reads (k (f.clauses.map (Clause.condition d))) (";" ++ "") m next) :
    ReadsFrom [" "] (do Reader.expect " WHERE "; k (← Condition.readAll))
      (" " ++ (filter d f ++ (";" ++ ""))) m next := by
  have hwhere : ReadsBehind " WHERE " Condition.readAll (" " ++ filter d f)
      (f.clauses.map (Clause.condition d)) [";"] := reads_where d f rfl rfl
  obtain ⟨body, htext, hbody⟩ := hwhere
  rw [← String.append_assoc, htext, String.append_assoc]
  refine ⟨.behind (hbody.before rfl hk), fun rest _ => ?_⟩
  rw [String.toList_append, List.append_assoc]
  exact before_of_opens rfl _

theorem reads_update (d : Dialect) (t : Table) {vs : List Assignment} (hvs : vs ≠ [])
    (f : Filter) :
    Reads Mutation.read (statement d (.update t vs f))
      (.update t.name (vs.map (Assignment.pair d)) (f.clauses.map (Clause.condition d))) next := by
  have hvalues : Reads (Reader.items "," Reader.assignment) (assignments d vs)
      (vs.map (Assignment.pair d)) [" "] :=
    .items hvs (fun a _ => (reads_assignment d a).mono rfl) rfl (by decide) rfl
  have htext : statement d (.update t vs f) =
      "UPDATE " ++ (tableName t ++ (" SET " ++ (assignments d vs ++
        (" " ++ (filter d f ++ (";" ++ "")))))) := by
    unfold statement
    simp only [String.append_assoc, String.append_empty]
  rw [htext]
  refine reads_mutation Reader.update (by simp [mutations]) ?_
  exact (reads_table t).before rfl
    (.behind (hvalues.followed (reads_filter d f (.behind (.pure _ _)))))

theorem reads_delete (d : Dialect) (t : Table) (f : Filter) :
    Reads Mutation.read (statement d (.delete t f))
      (.delete t.name (f.clauses.map (Clause.condition d))) next := by
  have htext : statement d (.delete t f) =
      "DELETE FROM " ++ (tableName t ++ (" " ++ (filter d f ++ (";" ++ "")))) := by
    unfold statement
    simp only [String.append_assoc, String.append_empty]
  rw [htext]
  refine reads_mutation Reader.delete (by simp [mutations]) ?_
  exact (reads_table t).followed (reads_filter d f (.behind (.pure _ _)))

theorem reads_locks (d : Dialect) {locks : List (Table × LockKind)} (hlocks : locks ≠ []) :
    Reads Mutation.read (statement d (.lockTables locks))
      (.lock (locks.map fun l => (l.1.name, l.2))) next := by
  have hlock (l : Table × LockKind) :
      Reads Reader.lock (tableName l.1 ++ " " ++ l.2.keyword) (l.1.name, l.2) [", ", ";"] := by
    have htext : tableName l.1 ++ " " ++ l.2.keyword =
        tableName l.1 ++ ((" " ++ l.2.keyword) ++ "") := by
      simp only [String.append_assoc, String.append_empty]
    rw [htext]
    refine (reads_table l.1).before ?_ (.choice (a := l.2) ?_ (by decide) (.pure _ _))
    · cases l.2 <;> rfl
    · cases l.2 <;> decide
  have hitems : Reads (Reader.items ", " Reader.lock)
      (Text.separated ", " (locks.map fun l => tableName l.1 ++ " " ++ l.2.keyword))
      (locks.map fun l => (l.1.name, l.2)) [";"] :=
    .items hlocks (fun l _ => hlock l) rfl (by decide) rfl
  have htext : statement d (.lockTables locks) = "LOCK TABLES " ++
      (Text.separated ", " (locks.map fun l => tableName l.1 ++ " " ++ l.2.keyword) ++
        (";" ++ "")) := by
    unfold statement
    simp only [String.append_assoc, String.append_empty]
  rw [htext]
  refine reads_mutation Reader.locks (by simp [mutations]) ?_
  exact hitems.before rfl (.behind (.pure _ _))

/-- The text of every insertion, replacement, update and deletion, and of every lock, is parsed as
    what it says: its kind and its table, every value with its own column, and its conditions. -/
theorem mutation_text_determines (d : Dialect) (t : Table) (vs : List Assignment) (hvs : vs ≠ [])
    (f : Filter) (locks : List (Table × LockKind)) (hlocks : locks ≠ []) :
    Mutation.read.parse (statement d (.insert t vs)) =
        some (.insert t.name (vs.map (Assignment.pair d))) ∧
      Mutation.read.parse (statement d (.replace t vs)) =
        some (.replace t.name (vs.map (Assignment.pair d))) ∧
      Mutation.read.parse (statement d (.update t vs f)) =
        some (.update t.name (vs.map (Assignment.pair d))
          (f.clauses.map (Clause.condition d))) ∧
      Mutation.read.parse (statement d (.delete t f)) =
        some (.delete t.name (f.clauses.map (Clause.condition d))) ∧
      Mutation.read.parse (statement d (.lockTables locks)) =
        some (.lock (locks.map fun l => (l.1.name, l.2))) := by
  refine ⟨(reads_insert d t hvs).parse, (reads_replace d t hvs).parse, ?_, ?_, ?_⟩
  · exact (reads_update d t hvs f).parse
  · exact (reads_delete d t f).parse
  · exact (reads_locks d hlocks).parse

/-- A table, and one that is called as what stands behind the first in a list of locks. -/
def quotesTables : Table × Table :=
  (numberTable "t" "c" (by decide) (by decide),
    numberTable "t` READ, `u" "c" (by decide) (by decide))

/-- A text that closes a list of values, for a column with a comma in its name, and a number. -/
def quotesValues : List Assignment :=
  [⟨numberColumn "t" "a,b" (by decide), .text "),("⟩,
    ⟨numberColumn "t" "c" (by decide), .signed (-2)⟩]

def quotesFilter : Filter := .single (.equals (numberColumn "t" "c" (by decide)) .null)

theorem mutation_text_determines_quotes :
    Mutation.read.parse "INSERT INTO `t` (`a,b`,`c`) VALUES ('),(',-2);" =
        some (.insert "t" [("a,b", .text "),("), ("c", .integer (-2))]) ∧
      Mutation.read.parse "REPLACE `t` (`a,b`,`c`) VALUES ('),(',-2);" =
        some (.replace "t" [("a,b", .text "),("), ("c", .integer (-2))]) ∧
      Mutation.read.parse "UPDATE `t` SET `a,b`='),(',`c`=-2 WHERE `c` = NULL;" =
        some (.update "t" [("a,b", .text "),("), ("c", .integer (-2))]
          [.compare ⟨none, "c"⟩ .equal (.literal .null)]) ∧
      Mutation.read.parse "DELETE FROM `t` WHERE `c` = NULL;" =
        some (.delete "t" [.compare ⟨none, "c"⟩ .equal (.literal .null)]) ∧
      Mutation.read.parse "LOCK TABLES `t` READ, `t`` READ, ``u` WRITE;" =
        some (.lock [("t", .read), ("t` READ, `u", .write)]) := by
  have hinsert : statement .generic (.insert quotesTables.1 quotesValues) =
    "INSERT INTO `t` (`a,b`,`c`) VALUES ('),(',-2);" := by decide +kernel
  have hreplace : statement .generic (.replace quotesTables.1 quotesValues) =
    "REPLACE `t` (`a,b`,`c`) VALUES ('),(',-2);" := by decide +kernel
  have hupdate : statement .generic (.update quotesTables.1 quotesValues quotesFilter) =
    "UPDATE `t` SET `a,b`='),(',`c`=-2 WHERE `c` = NULL;" := by decide +kernel
  have hdelete : statement .generic (.delete quotesTables.1 quotesFilter) =
    "DELETE FROM `t` WHERE `c` = NULL;" := by decide +kernel
  have hlock : statement .generic
      (.lockTables [(quotesTables.1, .read), (quotesTables.2, .write)]) =
    "LOCK TABLES `t` READ, `t`` READ, ``u` WRITE;" := by decide +kernel
  rw [← hinsert, ← hreplace, ← hupdate, ← hdelete, ← hlock]
  exact mutation_text_determines .generic quotesTables.1 quotesValues (List.cons_ne_nil _ _)
    quotesFilter _ (List.cons_ne_nil _ _)

end Sql

end SqlBatch
