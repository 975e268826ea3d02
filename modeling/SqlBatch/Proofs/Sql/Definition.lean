import SqlBatch.Proofs.Sql.Query
/- What the text that creates a table says of it. The entries of the text are told apart by what
   they begin with: a column by the backtick of its name, the keys by their keywords.
     1. `reads_columnDefinition`, `reads_primaryKey`, `reads_uniqueKey`: each entry is read as what
        it says, whatever the names and the attributes are.
     2. `tableDefinition_eq`: the three runs over the columns write one list of entries.
     3. `table_text_determines`: the text is parsed as the schema of the table. -/
namespace SqlBatch

namespace Sql

/-- What a definition says of a column. -/
structure ColumnShape where
  name : String
  type : ColumnType
  isUnsigned : Bool
  isNotNull : Bool
  isAutoIncrement : Bool
  deriving DecidableEq

/-- A unique key and the column it is of. -/
structure UniqueKey where
  name : String
  column : String
  deriving DecidableEq

/-- An entry of a definition. -/
inductive Entry where
  | column (shape : ColumnShape)
  | primaryKey (column : String)
  | uniqueKey (key : UniqueKey)
  deriving DecidableEq

/-- What a definition says of a table, each kind of entries in their order. -/
structure Definition where
  table : String
  columns : List ColumnShape
  primaryKeys : List String
  uniqueKeys : List UniqueKey
  deriving DecidableEq

namespace Entry

/-- The column that the entry defines. -/
def column? : Entry → Option ColumnShape
  | .column shape => some shape
  | _ => none

/-- The column that the entry makes the primary key. -/
def primaryKey? : Entry → Option String
  | .primaryKey name => some name
  | _ => none

/-- The unique key that the entry adds. -/
def uniqueKey? : Entry → Option UniqueKey
  | .uniqueKey key => some key
  | _ => none

end Entry

/-- The definition that is made of the entries. -/
def Definition.ofEntries (table : String) (entries : List Entry) : Definition where
  table := table
  columns := entries.filterMap Entry.column?
  primaryKeys := entries.filterMap Entry.primaryKey?
  uniqueKeys := entries.filterMap Entry.uniqueKey?

end Sql

/-- What the definition of a table says of the column. -/
def Column.shape (c : Column) : Sql.ColumnShape where
  name := c.name
  type := c.type
  isUnsigned := c.isUnsigned
  isNotNull := c.isNotNull
  isAutoIncrement := c.isAutoIncrement

/-- The key of a unique column is called after the column. -/
def Column.uniqueKey (c : Column) : Sql.UniqueKey := ⟨c.name ++ "_UNIQUE", c.name⟩

namespace Sql

variable {next : List String}

/-! Readers. -/

/-- Takes a width and the parenthesis behind it. -/
def Reader.width (type : Nat → ColumnType) : Reader ColumnType := do
  let w ← Reader.number
  Reader.expect ")"
  return type w

/-- What the types of columns begin with. The types without a width are written as they are. -/
def typeKeywords : List (String × Reader ColumnType) :=
  [("CHAR(", Reader.width .char), ("VARCHAR(", Reader.width .varchar), ("INT(4)", pure .tinyInt),
    ("INT(6)", pure .smallInt), ("INT(8)", pure .mediumInt), ("INT(11)", pure .int),
    ("INT(20)", pure .bigInt), ("LONGBLOB", pure .longBlob)]

/-- Takes the type of a column. -/
def Reader.columnType : Reader ColumnType := do
  let r ← Reader.oneOf typeKeywords
  r

/-- Takes the keyword if it stands there. -/
def Reader.flag (keyword : String) : Reader Bool := do
  let found ← Reader.maybe keyword (pure ())
  return found.isSome

/-- Takes what stands behind the first backtick of a column. -/
def Entry.readColumn : Reader Entry := do
  let name ← Reader.quoted '`' []
  Reader.expect " "
  let type ← Reader.columnType
  let isUnsigned ← Reader.flag " UNSIGNED"
  let isNotNull ← Reader.flag " NOT NULL"
  let isAutoIncrement ← Reader.flag " AUTO_INCREMENT"
  return .column ⟨String.ofList name, type, isUnsigned, isNotNull, isAutoIncrement⟩

/-- Takes what stands behind `PRIMARY KEY`. -/
def Entry.readPrimaryKey : Reader Entry := do
  let column ← Reader.identifier
  Reader.expect ")"
  return .primaryKey column

/-- Takes what stands behind `UNIQUE KEY`. -/
def Entry.readUniqueKey : Reader Entry := do
  let name ← Reader.identifier
  Reader.expect " ("
  let column ← Reader.identifier
  Reader.expect ")"
  return .uniqueKey ⟨name, column⟩

/-- What the entries of a definition begin with. -/
def entryKeywords : List (String × Reader Entry) :=
  [("`", Entry.readColumn), ("PRIMARY KEY (", Entry.readPrimaryKey),
    ("UNIQUE KEY ", Entry.readUniqueKey)]

/-- Takes an entry of a definition. -/
def Entry.read : Reader Entry := do
  let r ← Reader.oneOf entryKeywords
  r

/-- Takes the text that creates a table. -/
def Definition.read : Reader Definition := do
  Reader.expect "CREATE TABLE IF NOT EXISTS "
  let table ← Reader.identifier
  Reader.expect " ("
  let entries ← Reader.items ", " Entry.read
  Reader.expect ");"
  return .ofEntries table entries

/-! Types. -/

theorem reads_width (type : Nat → ColumnType) (w : Nat) :
    Reads (Reader.width type) (toString w ++ ")") (type w) next := by
  have hw : Reads Reader.number (toString w) w [")"] := reads_number w rfl
  have hread : Reads (Reader.width type) (toString w ++ (")" ++ "")) (type w) next :=
    hw.before rfl (.behind (.pure _ _))
  rwa [String.append_empty] at hread

/-- Every two types stand apart, the widths of integers among them. -/
theorem reads_typeKeyword {keyword text : String} {r : Reader ColumnType} {type : ColumnType}
    (h : (keyword, r) ∈ typeKeywords) (hr : Reads r text type next) :
    Reads Reader.columnType (keyword ++ text) type next :=
  .choice h (by decide) hr

theorem reads_columnType (type : ColumnType) :
    Reads Reader.columnType (columnType type) type next := by
  have hfixed {keyword : String} {type : ColumnType} (h : (keyword, pure type) ∈ typeKeywords) :
      Reads Reader.columnType keyword type next := by
    have hread := reads_typeKeyword h (.pure type next)
    rwa [String.append_empty] at hread
  cases type with
  | char w =>
    rw [columnType, String.append_assoc]
    exact reads_typeKeyword (by simp [typeKeywords]) (reads_width .char w)
  | varchar w =>
    rw [columnType, String.append_assoc]
    exact reads_typeKeyword (by simp [typeKeywords]) (reads_width .varchar w)
  | tinyInt => exact hfixed (by simp [typeKeywords, columnType])
  | smallInt => exact hfixed (by simp [typeKeywords, columnType])
  | mediumInt => exact hfixed (by simp [typeKeywords, columnType])
  | int => exact hfixed (by simp [typeKeywords, columnType])
  | bigInt => exact hfixed (by simp [typeKeywords, columnType])
  | longBlob => exact hfixed (by simp [typeKeywords, columnType])

/-! Entries. -/

/-- A flag stands in front of all that may follow it. -/
theorem ReadsFrom.flag {β : Type} {keyword t : String} {mid : List String} {f : Bool → Reader β}
    {b : β} {p : Bool} (hf : ReadsFrom mid (f p) t b next) (hapart : apart keyword mid = true) :
    ReadsFrom (keyword :: mid) (Reader.flag keyword >>= f) ((if p then keyword else "") ++ t) b
      next := by
  have hflag : Reads (Reader.flag keyword) (if p then keyword else "") p mid := by
    cases p with
    | false => exact (Reads.maybe_none _ hapart).last fun _ => rfl
    | true =>
      exact (Reads.maybe_some ⟨"", String.append_empty.symm, .pure () mid⟩).last fun _ => rfl
  refine ⟨hflag.followed hf, fun rest hrest => ?_⟩
  have hbegins := hf.begins rest hrest
  cases p with
  | false => simpa using hbegins.cons keyword
  | true =>
    simp only [if_true, String.toList_append, List.append_assoc]
    exact before_of_opens (by simp [opens]) _

/-- What may follow an entry. -/
def entryStops : List String := [", ", ")"]

/-- Every two entries stand apart. -/
theorem reads_entryKeyword {keyword text : String} {r : Reader Entry} {e : Entry}
    (h : (keyword, r) ∈ entryKeywords) (hr : Reads r text e next) :
    Reads Entry.read (keyword ++ text) e next :=
  .choice h (by decide) hr

theorem reads_columnDefinition (c : Column) :
    Reads Entry.read (columnDefinition c) (.column c.shape) entryStops := by
  have hname : Reads (Reader.quoted '`' []) (escaped c.name '`' "``" ++ "`") c.name.toList [" "] :=
    reads_quotedName c.name rfl
  have htype : Reads Reader.columnType (columnType c.type) c.type
      (" UNSIGNED" :: " NOT NULL" :: " AUTO_INCREMENT" :: entryStops) := reads_columnType c.type
  have hread : Reads Entry.readColumn
      ((escaped c.name '`' "``" ++ "`") ++ (" " ++ (columnType c.type ++
        ((if c.isUnsigned then " UNSIGNED" else "") ++ ((if c.isNotNull then " NOT NULL" else "") ++
          ((if c.isAutoIncrement then " AUTO_INCREMENT" else "") ++ ""))))))
      (.column c.shape) entryStops := by
    refine hname.before rfl (.behind (htype.followed ?_))
    rw [String.ofList_toList]
    exact .flag (.flag (.flag ⟨.pure _ _, fun _ h => h⟩ rfl) rfl) rfl
  have htext : columnDefinition c = "`" ++ ((escaped c.name '`' "``" ++ "`") ++ (" " ++
      (columnType c.type ++ ((if c.isUnsigned then " UNSIGNED" else "") ++
        ((if c.isNotNull then " NOT NULL" else "") ++
          ((if c.isAutoIncrement then " AUTO_INCREMENT" else "") ++ "")))))) := by
    simp only [columnDefinition, columnName, Bool.false_and, Bool.false_eq_true, if_false,
      identifier, String.append_assoc, String.append_empty]
  rw [htext]
  exact reads_entryKeyword (by simp [entryKeywords]) hread

theorem reads_primaryKey (c : Column) :
    Reads Entry.read ("PRIMARY KEY (" ++ columnName false c ++ ")") (.primaryKey c.name)
      entryStops := by
  have hcolumn : Reads Reader.identifier (identifier c.name) c.name [")"] :=
    reads_identifier _ rfl
  have hread : Reads Entry.readPrimaryKey (identifier c.name ++ (")" ++ "")) (.primaryKey c.name)
      entryStops := hcolumn.before rfl (.behind (.pure _ _))
  rw [String.append_assoc]
  exact reads_entryKeyword (by simp [entryKeywords]) hread

theorem reads_uniqueKey (c : Column) :
    Reads Entry.read ("UNIQUE KEY " ++ identifier (c.name ++ "_UNIQUE") ++ " (" ++
      columnName false c ++ ")") (.uniqueKey c.uniqueKey) entryStops := by
  have hname : Reads Reader.identifier (identifier (c.name ++ "_UNIQUE")) _ [" "] :=
    reads_identifier _ rfl
  have hcolumn : Reads Reader.identifier (identifier c.name) c.name [")"] :=
    reads_identifier _ rfl
  have hread : Reads Entry.readUniqueKey (identifier (c.name ++ "_UNIQUE") ++ (" (" ++
      (identifier c.name ++ (")" ++ "")))) (.uniqueKey c.uniqueKey) entryStops :=
    hname.before rfl (.behind (hcolumn.before rfl (.behind (.pure _ _))))
  simp only [String.append_assoc]
  exact reads_entryKeyword (by simp [entryKeywords]) hread

end Sql

/-! The whole text. -/

namespace Table

/-- The entries of the definition of a table, each with its text. -/
def entries (t : Table) : List (String × Sql.Entry) :=
  t.columns.map (fun c => (Sql.columnDefinition c, .column c.shape)) ++
    (t.primaryKey?.toList.map (fun c =>
        ("PRIMARY KEY (" ++ Sql.columnName false c ++ ")", .primaryKey c.name)) ++
      t.uniqueColumns.map fun c =>
        ("UNIQUE KEY " ++ Sql.identifier (c.name ++ "_UNIQUE") ++ " (" ++
          Sql.columnName false c ++ ")", .uniqueKey c.uniqueKey))

/-- What the definition of a table says. -/
def definition (t : Table) : Sql.Definition where
  table := t.name
  columns := t.columns.map Column.shape
  primaryKeys := (t.primaryKey?.map Column.name).toList
  uniqueKeys := t.uniqueColumns.map Column.uniqueKey

theorem reads_entries (t : Table) :
    ∀ e ∈ t.entries, Sql.Reads Sql.Entry.read e.1 e.2 Sql.entryStops := by
  simp only [entries, List.forall_mem_append, List.forall_mem_map]
  exact ⟨fun c _ => Sql.reads_columnDefinition c, fun c _ => Sql.reads_primaryKey c,
    fun c _ => Sql.reads_uniqueKey c⟩

theorem entries_ne_nil (t : Table) : t.entries ≠ [] := by
  simp [entries, t.nonempty]

theorem ofEntries_entries (t : Table) :
    Sql.Definition.ofEntries t.name (t.entries.map Prod.snd) = t.definition := by
  simp only [Sql.Definition.ofEntries, definition, entries, List.map_append, List.map_map,
    List.filterMap_append, List.filterMap_map, Function.comp_def, Sql.Entry.column?,
    Sql.Entry.primaryKey?, Sql.Entry.uniqueKey?, List.filterMap_eq_map', List.filterMap_none,
    List.append_nil, List.nil_append, Option.toList_map]

end Table

namespace Sql

open Text (separated)

/-- The three runs over the columns write one list of entries. -/
theorem tableDefinition_eq (t : Table) :
    tableDefinition t = separated ", " (t.entries.map Prod.fst) := by
  have hentries : ∀ i ∈ t.entries.map Prod.fst, i ≠ "" := by
    intro i hi
    obtain ⟨e, he, rfl⟩ := List.mem_map.mp hi
    have hstop : Before entryStops (", ".toList ++ []) := before_of_opens rfl []
    exact (t.reads_entries e he).ne_empty hstop rfl
  have hcolumns : t.columns.map columnDefinition ≠ [] := by simpa using t.nonempty
  have hunique : uniqueKey = fun c => ", " ++ ("UNIQUE KEY " ++
      identifier (c.name ++ "_UNIQUE") ++ " (" ++ columnName false c ++ ")") := by
    funext c
    simp only [uniqueKey, ← String.append_assoc]
    rfl
  have hprimary (c : Column) : ", PRIMARY KEY (" ++ columnName false c ++ ")" =
      ", " ++ ("PRIMARY KEY (" ++ columnName false c ++ ")") := by
    simp only [← String.append_assoc]
    rfl
  simp only [Table.entries, List.map_append, List.map_map, Function.comp_def] at hentries ⊢
  rw [separated_append _ hcolumns _ hentries, tableDefinition, hunique]
  cases t.primaryKey? with
  | none => simp [Function.comp_def]
  | some c => simp [hprimary, Function.comp_def, String.append_assoc]

theorem reads_definition (d : Dialect) (t : Table) :
    Reads Definition.read (statement d (.createTable t)) t.definition next := by
  have htable : Reads Reader.identifier (identifier t.name) t.name [" "] := reads_identifier _ rfl
  have hentries : Reads (Reader.items ", " Entry.read) (tableDefinition t)
      (t.entries.map Prod.snd) [")"] := by
    rw [tableDefinition_eq]
    exact .items t.entries_ne_nil t.reads_entries rfl (by decide) rfl
  have hread : Reads Definition.read ("CREATE TABLE IF NOT EXISTS " ++ (identifier t.name ++
      (" (" ++ (tableDefinition t ++ (");" ++ ""))))) t.definition next := by
    refine .behind (htable.before rfl (.behind (hentries.before rfl (.behind ?_))))
    rw [t.ofEntries_entries]
    exact .pure _ _
  have htext : statement d (.createTable t) = "CREATE TABLE IF NOT EXISTS " ++
      (identifier t.name ++ (" (" ++ (tableDefinition t ++ (");" ++ "")))) := by
    unfold statement tableName
    simp only [String.append_assoc, String.append_empty]
  rw [htext]
  exact hread

/-- The text that creates a table is parsed as its schema, whatever its columns are: their names,
    types and flags in their order, the primary key if there is one, and the key of each unique
    column. No column but the primary key is declared as one. -/
theorem table_text_determines {name : String} {columns : List Column} {t : Table}
    (h : Table.declare name columns = .ok t) (d : Dialect) :
    Definition.read.parse (statement d (.createTable t)) = some {
      table := name
      columns := columns.map Column.shape
      primaryKeys := (t.primaryKey?.map Column.name).toList
      uniqueKeys := (columns.filter Column.isUnique).map Column.uniqueKey } ∧
    ∀ c ∈ columns, c.isPrimaryKey = true ↔ t.primaryKey? = some (c.placedIn name) := by
  obtain ⟨hname, hcolumns⟩ := Table.declare_columns h
  constructor
  · have hdefinition : t.definition = {
        table := name
        columns := columns.map Column.shape
        primaryKeys := (t.primaryKey?.map Column.name).toList
        uniqueKeys := (columns.filter Column.isUnique).map Column.uniqueKey } := by
      simp only [Table.definition, Table.uniqueColumns, hname, hcolumns, List.map_map,
        List.filter_map]
      rfl
    rw [← hdefinition]
    exact (reads_definition d t).parse
  · intro c hc
    rw [t.primaryKey?_eq_some_iff, Column.placedIn_isPrimaryKey, hcolumns]
    exact (and_iff_right (List.mem_map_of_mem hc)).symm

/-- A column that is a key, and another of which the name reads like the rest of a definition. -/
def quotedColumns : List Column :=
  [{ numberColumn "" "`id`, (" (by decide) with
     attributes := .primaryKey ∪ .notNull ∪ .unsigned ∪ .autoIncrement },
   { name := "`), PRIMARY KEY (`x"
     table := ""
     type := .varchar 255
     attributes := .unique
     named := by decide
     allowed := rfl }]

/-- The table of these columns. -/
def quotedTable : Table where
  name := "a` ("
  columns := quotedColumns.map (·.placedIn "a` (")
  named := by decide
  nonempty := List.cons_ne_nil _ _
  formed := ⟨by decide, by decide, by decide⟩

theorem table_text_determines_quotes :
    Table.declare "a` (" quotedColumns = .ok quotedTable ∧
    Definition.read.parse
        ("CREATE TABLE IF NOT EXISTS `a`` (` (```id``, (` INT(20) UNSIGNED NOT NULL " ++
          "AUTO_INCREMENT, ```), PRIMARY KEY (``x` VARCHAR(255), PRIMARY KEY (```id``, (`), " ++
          "UNIQUE KEY ```), PRIMARY KEY (``x_UNIQUE` (```), PRIMARY KEY (``x`));") =
      some {
        table := "a` ("
        columns := [⟨"`id`, (", .bigInt, true, true, true⟩,
          ⟨"`), PRIMARY KEY (`x", .varchar 255, false, false, false⟩]
        primaryKeys := ["`id`, ("]
        uniqueKeys := [⟨"`), PRIMARY KEY (`x_UNIQUE", "`), PRIMARY KEY (`x"⟩] } := by
  have hdeclared : Table.declare "a` (" quotedColumns = .ok quotedTable := by rfl
  have htext : statement .generic (.createTable quotedTable) =
      "CREATE TABLE IF NOT EXISTS `a`` (` (```id``, (` INT(20) UNSIGNED NOT NULL " ++
        "AUTO_INCREMENT, ```), PRIMARY KEY (``x` VARCHAR(255), PRIMARY KEY (```id``, (`), " ++
        "UNIQUE KEY ```), PRIMARY KEY (``x_UNIQUE` (```), PRIMARY KEY (``x`));" := by
    decide +kernel
  rw [← htext]
  exact ⟨hdeclared, (table_text_determines hdeclared .generic).1⟩

end Sql

end SqlBatch
