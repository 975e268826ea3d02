import SqlBatch.Proofs.Sql.Condition
/- What the text of a select asks for.
     1. `reads_targets`, `reads_joining`, `reads_where`, `reads_sorting`, `reads_window`: each
        clause is read as what it says.
     2. `reads_select`: so is the whole text, whatever clauses are there and whatever they hold.
     3. `select_text_determines`: the text of a select of columns is parsed as its query. -/
namespace SqlBatch

namespace Sql

/-- What a select returns of a row. -/
inductive Targets where
  | all
  | list (columns : List Reference)
  /-- A text that can be told from what follows only if it is known. -/
  | verbatim (text : String)
  deriving DecidableEq

/-- A joined table and the two columns that are matched. -/
structure Joining where
  table : String
  joined : Reference
  owner : Reference
  deriving DecidableEq

/-- The column that rows are ordered by. -/
structure Sorting where
  column : Reference
  order : Order
  deriving DecidableEq

/-- How many rows are returned, and how many are passed over before. -/
structure Window where
  offset : Option Nat
  count : Nat
  deriving DecidableEq

/-- What a select asks for. -/
structure Query where
  targets : Targets
  table : String
  joins : List Joining
  conditions : Option (List Condition)
  order : Option Sorting
  limit : Option Window
  deriving DecidableEq

end Sql

/-- The text of what no grammar reads: an expression, and the columns of an empty list. -/
def Columns.verbatim? : Columns → Option String
  | .all | .list (_ :: _) => none
  | .list [] => some ""
  | .expression text => some text

/-- The references of the columns. -/
def Columns.targets (qualified : Bool) : Columns → Sql.Targets
  | .all => .all
  | .list [] => .verbatim ""
  | .list (c :: cs) => .list ((c :: cs).map (Column.reference qualified))
  | .expression text => .verbatim text

/-- What a join of the table selected from says. -/
def JoinClause.joining (owner : Table) (j : JoinClause) : Sql.Joining :=
  ⟨j.table.name, ⟨some j.table.name, j.matchColumn.name⟩, ⟨some owner.name, j.column.name⟩⟩

/-- The clauses of a join, if there is one. -/
def Select.joinClauses (q : Select) : List JoinClause :=
  match q.join with
  | none => []
  | some j => j.clauses

/-- What an order says. -/
def OrderBy.sorting (o : OrderBy) : Sql.Sorting := ⟨o.column.reference false, o.order⟩

/-- What a limit says. -/
def Limit.window : Limit → Sql.Window
  | .count n => ⟨none, n.toNat⟩
  | .range offset n => ⟨some offset.toNat, n.toNat⟩

/-- What a select asks for. -/
def Select.query (d : Dialect) (q : Select) : Sql.Query where
  targets := q.columns.targets q.join.isSome
  table := q.table.name
  joins := q.joinClauses.map (JoinClause.joining q.table)
  conditions := q.filter.map fun f => f.clauses.map (Clause.condition d)
  order := q.order.map OrderBy.sorting
  limit := q.limit.map Limit.window

namespace Sql

variable {next : List String}

/-! The clauses. -/

/-- Takes an asterisk where it stands, and else references. -/
def Targets.readColumns : Reader Targets
  | '*' :: cs => some (.all, cs)
  | cs => (Reader.items "," Reference.read cs).map fun p => (.list p.1, p.2)

/-- Takes what is selected: the text if it is known, and else columns. -/
def Targets.read : Option String → Reader Targets
  | none => Targets.readColumns
  | some text => do
    Reader.expect text
    return .verbatim text

/-- Takes what stands behind `INNER JOIN`. -/
def Joining.read : Reader Joining := do
  let table ← Reader.identifier
  Reader.expect " ON "
  let joined ← Reference.read
  Reader.expect " = "
  let owner ← Reference.read
  return ⟨table, joined, owner⟩

/-- Takes what stands behind `WHERE`. -/
def Condition.readAll : Reader (List Condition) := Reader.items " AND " Condition.read

/-- Takes what stands behind `ORDER BY`. -/
def Sorting.read : Reader Sorting := do
  let column ← Reference.read
  let order ← Reader.oneOf [(" ASC", .ascending), (" DESC", .descending)]
  return ⟨column, order⟩

/-- Takes a number. -/
def Reader.number : Reader Nat := do
  let digits ← span Char.isDigit
  natural? digits

/-- Takes what stands behind `LIMIT`. -/
def Window.read : Reader Window := do
  let first ← Reader.number
  let second ← Reader.maybe "," Reader.number
  return ⟨second.map fun _ => first, second.getD first⟩

/-- Takes a select, of which the columns may be known as a text. -/
def Query.read (known : Option String) : Reader Query := do
  Reader.expect "SELECT "
  let targets ← Targets.read known
  Reader.expect " FROM "
  let table ← Reader.identifier
  let joins ← Reader.repeated " INNER JOIN " Joining.read
  let conditions ← Reader.maybe " WHERE " Condition.readAll
  let order ← Reader.maybe " ORDER BY " Sorting.read
  let limit ← Reader.maybe " LIMIT " Window.read
  Reader.expect ";"
  return { targets, table, joins, conditions, order, limit }

theorem reads_targets (qualified : Bool) (cs : Columns) :
    Reads (Targets.read cs.verbatim?) (columns qualified cs) (cs.targets qualified) [" "] := by
  cases cs with
  | all =>
    show Reads Targets.readColumns "*" .all [" "]
    exact fun _ _ => rfl
  | list cs =>
    cases cs with
    | nil => exact (Reads.expect "" _).last fun _ => rfl
    | cons c cs =>
      have hcolumns : Reads (Reader.items "," Reference.read)
          (columns qualified (.list (c :: cs)))
          ((c :: cs).map (Column.reference qualified)) [" "] :=
        .items (List.cons_ne_nil _ _) (fun c _ => reads_columnName qualified c rfl) rfl
          (by decide) rfl
      intro rest hrest
      have hread := hcolumns rest hrest
      show Targets.readColumns _ = _
      unfold Targets.readColumns
      -- No reference begins with an asterisk.
      split
      · next heq =>
        rw [heq] at hread
        cases hread
      · rw [hread]
        rfl
  | expression text => exact (Reads.expect text _).last fun _ => rfl

/-- A joined table is read with both columns, each with its table. -/
theorem reads_joining (owner : Table) (j : JoinClause) (hnext : closesReference next = true) :
    ReadsBehind " INNER JOIN " Joining.read (" " ++ joinClause owner j) (j.joining owner) next := by
  have htable : Reads Reader.identifier (identifier j.table.name) j.table.name [" "] :=
    reads_identifier _ rfl
  have hjoined : Reads Reference.read
      (identifier j.table.name ++ ("." ++ identifier j.matchColumn.name)) _ [" "] :=
    reads_qualified _ _ rfl
  have howner := reads_qualified owner.name j.column.name hnext
  have hread : Reads Joining.read
      (identifier j.table.name ++ (" ON " ++
        ((identifier j.table.name ++ ("." ++ identifier j.matchColumn.name)) ++ (" = " ++
          (identifier owner.name ++ ("." ++ identifier j.column.name))))))
      (j.joining owner) next :=
    htable.before rfl (.behind (hjoined.before rfl (.behind (howner.last fun _ => rfl))))
  refine ⟨_, ?_, hread⟩
  unfold joinClause tableName
  simp only [← String.append_assoc]
  rfl

theorem reads_where (d : Dialect) (f : Filter)
    (hnext : next.all (opens stops) = true) (hapart : apart " AND " next = true) :
    ReadsBehind " WHERE " Condition.readAll (" " ++ filter d f)
      (f.clauses.map (Clause.condition d)) next :=
  ⟨_, String.append_assoc.symm, reads_conditions d f hnext hapart⟩

theorem reads_sorting (o : OrderBy) :
    ReadsBehind " ORDER BY " Sorting.read (" " ++ orderBy o) o.sorting next := by
  have hcolumn : Reads Reference.read (columnName false o.column) _ [" "] :=
    reads_columnName false o.column rfl
  have hread : Reads Sorting.read (columnName false o.column ++ ((" " ++ o.order.keyword) ++ ""))
      o.sorting next := by
    refine hcolumn.before ?_ (.choice (a := o.order) ?_ (by decide) (.pure _ _))
    · cases o.order <;> rfl
    · cases o.order <;> decide
  refine ⟨_, ?_, hread⟩
  simp only [orderBy, String.append_empty, ← String.append_assoc]
  rfl

theorem reads_number (n : Nat)
    (hnext : (next.all fun o => o.toList.head?.any fun c => !c.isDigit) = true) :
    Reads Reader.number (toString n) n next := by
  refine (Reads.span (isDigit_toString n) hnext).last fun cs => ?_
  rw [natural?_toString]
  rfl

theorem reads_window (l : Limit) :
    ReadsBehind " LIMIT " Window.read (" " ++ limit l) l.window [";"] := by
  cases l with
  | count n =>
    have hcount : Reads Reader.number (toString n.toNat) n.toNat [";"] := reads_number _ rfl
    have hread : Reads Window.read (toString n.toNat ++ "") ⟨none, n.toNat⟩ [";"] :=
      hcount.bind (.last (.maybe_none _ rfl) fun _ => rfl) fun _ h => h
    refine ⟨_, ?_, hread⟩
    simp only [limit, String.append_empty, ← String.append_assoc]
    rfl
  | range offset n =>
    have hoffset : Reads Reader.number (toString offset.toNat) offset.toNat [","] :=
      reads_number _ rfl
    have hcount : Reads Reader.number (toString n.toNat) n.toNat [";"] := reads_number _ rfl
    have hread : Reads Window.read (toString offset.toNat ++ ("," ++ toString n.toNat))
        ⟨some offset.toNat, n.toNat⟩ [";"] :=
      hoffset.before rfl (.last (.maybe_some ⟨_, rfl, hcount⟩) fun _ => rfl)
    refine ⟨_, ?_, hread⟩
    simp only [limit, ← String.append_assoc]
    rfl

/-! The whole text. -/

/-- The joined tables stand one behind the other, each behind a blank. -/
theorem part_join (q : Select) : part (join q.table) q.join =
    String.join (q.joinClauses.map fun j => " " ++ joinClause q.table j) := by
  unfold Select.joinClauses
  cases q.join with
  | none => rfl
  | some j =>
    obtain ⟨clauses, hne⟩ := j
    obtain ⟨c, cs, rfl⟩ := List.exists_cons_of_ne_nil hne
    show " " ++ Text.separated " " ((c :: cs).map (joinClause q.table)) = _
    rw [List.map_cons, separated_eq_join]
    · simp only [List.map_cons, List.map_map, Function.comp_def, String.join_cons,
        String.append_assoc]
    · intro i hi
      rw [← List.map_cons, List.mem_map] at hi
      obtain ⟨j, -, rfl⟩ := hi
      unfold joinClause
      simp

/-- The text of a select is read as what it asks for, if its columns are known where no grammar
    reads them. -/
theorem reads_select (d : Dialect) (q : Select) :
    Reads (Query.read q.columns.verbatim?) (statement d (.select q)) (q.query d) next := by
  have htext : statement d (.select q) =
      "SELECT " ++ (columns q.join.isSome q.columns ++ (" FROM " ++ (identifier q.table.name ++
        (part (join q.table) q.join ++ (part (filter d) q.filter ++ (part orderBy q.order ++
          (part limit q.limit ++ (";" ++ "")))))))) := by
    unfold statement selectBody tableName
    simp only [String.append_assoc, String.append_empty]
  rw [htext, part_join]
  have htable : Reads Reader.identifier (identifier q.table.name) q.table.name
      [" INNER JOIN ", " WHERE ", " ORDER BY ", " LIMIT ", ";"] :=
    reads_identifier _ rfl
  -- Each part that may be missing stands in front of all that may follow it.
  refine .behind ((reads_targets _ _).before rfl (.behind (htable.followed ?_)))
  refine .repeated (fun j _ => reads_joining q.table j rfl) (by decide) rfl ?_
  refine .part (fun f _ => reads_where d f rfl rfl) rfl ?_
  refine .part (fun o _ => reads_sorting o) rfl ?_
  refine .part (fun l _ => reads_window l) rfl ?_
  exact .expect (.pure _ _)

/-- The text of a select of all columns or of listed ones is parsed as what it asks for. -/
theorem select_text_determines (d : Dialect) (q : Select)
    (hlist : q.columns ≠ .list []) (hexpression : ∀ text, q.columns ≠ .expression text) :
    (Query.read none).parse (statement d (.select q)) = some (q.query d) := by
  have hread := (reads_select d q).parse
  have hknown : q.columns.verbatim? = none := by
    cases hcolumns : q.columns with
    | all => rfl
    | list cs =>
      cases cs with
      | nil => exact absurd hcolumns hlist
      | cons c cs => rfl
    | expression text => exact absurd hcolumns (hexpression text)
  rw [hknown] at hread
  exact hread

/-- A column of numbers. -/
def numberColumn (table name : String) (named : name ≠ "") : Column where
  name := name
  table := table
  type := .bigInt
  attributes := .none
  named := named
  allowed := rfl

/-- A table of nothing but a column of numbers. -/
def numberTable (name column : String) (named : name ≠ "") (hcolumn : column ≠ "") : Table where
  name := name
  columns := [numberColumn name column hcolumn]
  named := named
  nonempty := List.cons_ne_nil _ _
  formed := ⟨by simp, List.length_filter_le _ _, by simp [numberColumn]⟩

/-- A select of a table that is called as a keyword. A comma and a backtick are in the name of the
    column, and a condition in the text that it is compared with. -/
def quotesSelect : Select where
  table := numberTable "where" "a,`b" (by decide) (by decide)
  columns := .list [numberColumn "where" "a,`b" (by decide)]
  join := some (.single (.sameName (numberTable "c d" "a,`b" (by decide) (by decide))
    (numberColumn "where" "a,`b" (by decide))))
  filter := some (.single (.equals (numberColumn "where" "a,`b" (by decide)) (.text "' AND 1 = 1")))
  order := some ⟨numberColumn "where" "a,`b" (by decide), .descending⟩
  limit := some (.range 2 3)

theorem select_text_determines_quotes :
    (Query.read none).parse
        ("SELECT `where`.`a,``b` FROM `where` INNER JOIN `c d` ON `c d`.`a,``b` = " ++
          "`where`.`a,``b` WHERE `a,``b` = '\\' AND 1 = 1' ORDER BY `a,``b` DESC LIMIT 2,3;") =
      some {
        targets := .list [⟨some "where", "a,`b"⟩]
        table := "where"
        joins := [⟨"c d", ⟨some "c d", "a,`b"⟩, ⟨some "where", "a,`b"⟩⟩]
        conditions := some [.compare ⟨none, "a,`b"⟩ .equal (.literal (.text "' AND 1 = 1"))]
        order := some ⟨⟨none, "a,`b"⟩, .descending⟩
        limit := some ⟨some 2, 3⟩ } := by
  have htext : statement .generic (.select quotesSelect) =
      "SELECT `where`.`a,``b` FROM `where` INNER JOIN `c d` ON `c d`.`a,``b` = " ++
        "`where`.`a,``b` WHERE `a,``b` = '\\' AND 1 = 1' ORDER BY `a,``b` DESC LIMIT 2,3;" := by
    decide +kernel
  rw [← htext]
  exact select_text_determines .generic quotesSelect (by simp [quotesSelect])
    (by simp [quotesSelect])

end Sql

end SqlBatch
