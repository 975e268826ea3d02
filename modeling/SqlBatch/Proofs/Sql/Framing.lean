import SqlBatch.Proofs.Session.Client
import SqlBatch.Proofs.Sql.Splitting
/- The statements of a request stay apart. Whatever a name, a text, a document or a number is, what
   is written of it opens no quotes and no comment that it does not close, and closes no statement.
     1. `sealed_literal`, `sealed_identifier`: so it is with values and with names.
     2. `sealed_condition` and what follows it: so with every clause that is made of them.
     3. `request_framing`: so that statements are told apart wherever they stand one after another.
     4. `Program.requests_framed`: so that every request of a run is read as the statements
        that were queued for it. -/
namespace SqlBatch

namespace Sql

open Text (separated)

/-! Numbers. -/

theorem isPlain_of_isDigit {c : Char} (h : c.isDigit = true) : isPlain c = true :=
  isPlain_of_kind rfl h

theorem isPlain_toString (n : Nat) : ∀ c ∈ (toString n).toList, isPlain c = true := by
  intro c hc
  rw [Nat.toString_eq_ofList_toDigits, String.toList_ofList] at hc
  exact isPlain_of_isDigit (Nat.isDigit_of_mem_toDigits (by decide) (by decide) hc)

theorem toString_eq_cons (n : Nat) : ∃ c cs, (toString n).toList = c :: cs ∧ isPlain c = true := by
  have hne : (toString n).toList ≠ [] := by
    rw [Nat.toString_eq_ofList_toDigits, String.toList_ofList]
    exact Nat.toDigits_ne_nil
  obtain ⟨c, cs, hcs⟩ := List.exists_cons_of_ne_nil hne
  exact ⟨c, cs, hcs, isPlain_toString n c (hcs ▸ List.mem_cons_self)⟩

theorem sealed_nat (n : Nat) : Sealed (toString n) :=
  Reading.through_plain (isPlain_toString n)

theorem sealed_int (n : Int) : Sealed (toString n) := by
  cases n with
  | ofNat n => exact sealed_nat n
  | negSucc n =>
    obtain ⟨c, cs, hcs, hc⟩ := toString_eq_cons (n + 1)
    rw [Sealed, toList_negSucc, hcs, Reading.through_dash hc, ← hcs]
    exact sealed_nat (n + 1)

/-- An exponent with its sign behind plain characters. -/
theorem through_exponent {front sign : List Char} (hfront : ∀ c ∈ front, isPlain c = true)
    (hsign : sign = ['-'] ∨ ∀ c ∈ sign, isPlain c = true) (n : Nat) :
    Reading.through .bare (front ++ 'e' :: sign ++ (toString n).toList) = some .bare := by
  have hdigits := sealed_nat n
  rw [List.append_assoc, Reading.through_append, Reading.through_plain hfront]
  show Reading.through .bare ('e' :: (sign ++ _)) = _
  rw [Reading.through_cons_plain rfl]
  rcases hsign with rfl | hsign
  · obtain ⟨c, cs, hcs, hc⟩ := toString_eq_cons n
    rw [Sealed, hcs] at hdigits
    rw [hcs]
    exact (Reading.through_dash hc cs).trans hdigits
  · rw [Reading.through_append, Reading.through_plain hsign]
    exact hdigits

/-- The digits of a number are spelled with a point, zeros and an exponent. -/
theorem through_spell (layout : NumberLayout) {ds : List Char} (e : Int)
    (hds : ∀ c ∈ ds, isPlain c = true) :
    Reading.through .bare (layout.spell ds e) = some .bare := by
  have hzeros (n : Nat) : ∀ c ∈ List.replicate n '0', isPlain c = true := by
    intro c hc
    rw [(List.mem_replicate.mp hc).2]
    rfl
  have htake (n : Nat) : ∀ c ∈ ds.take n, isPlain c = true := fun c hc =>
    hds c (List.mem_of_mem_take hc)
  have hdrop (n : Nat) : ∀ c ∈ '.' :: ds.drop n, isPlain c = true :=
    List.forall_mem_cons.mpr ⟨rfl, fun c hc => hds c (List.mem_of_mem_drop hc)⟩
  simp only [NumberLayout.spell]
  split
  · split
    · apply Reading.through_plain
      simp only [List.forall_mem_cons, List.forall_mem_append]
      exact ⟨rfl, rfl, hzeros _, hds⟩
    · split
      · apply Reading.through_plain
        simp only [List.forall_mem_append]
        exact ⟨⟨hds, hzeros _⟩, List.all_eq_true.mp rfl⟩
      · apply Reading.through_plain
        simp only [List.forall_mem_append]
        exact ⟨htake _, hdrop _⟩
  · apply through_exponent
    · rw [List.forall_mem_append]
      refine ⟨htake _, ?_⟩
      split
      · simp
      · exact hdrop _
    · split
      · exact .inl rfl
      · right
        split
        · exact List.all_eq_true.mp rfl
        · simp

/-- A spelled number begins with a digit. -/
theorem spell_eq_cons (layout : NumberLayout) {ds : List Char} (e : Int)
    (hds : ∀ c ∈ ds, isPlain c = true) (hne : ds ≠ []) :
    ∃ c cs, layout.spell ds e = c :: cs ∧ isPlain c = true := by
  obtain ⟨d, ds, rfl⟩ := List.exists_cons_of_ne_nil hne
  have hd := hds d List.mem_cons_self
  simp only [NumberLayout.spell]
  split
  · split
    · exact ⟨_, _, rfl, rfl⟩
    · split
      · exact ⟨_, _, rfl, hd⟩
      · exact ⟨_, _, rfl, hd⟩
  · exact ⟨_, _, rfl, hd⟩

/-- So that a sign before it begins no comment. -/
theorem through_signed (layout : NumberLayout) (negative : Bool) (n : Nat) (e : Int) :
    Reading.through .bare
      ((if negative then ['-'] else []) ++ layout.spell (toString n).toList e) = some .bare := by
  have hdigits := isPlain_toString n
  have hspell := through_spell layout e hdigits
  cases negative with
  | false => exact hspell
  | true =>
    have hne : (toString n).toList ≠ [] := by
      obtain ⟨d, ds, hds, -⟩ := toString_eq_cons n
      rw [hds]
      exact List.cons_ne_nil _ _
    obtain ⟨c, cs, hcs, hc⟩ := spell_eq_cons layout e hdigits hne
    rw [hcs] at hspell ⊢
    exact (Reading.through_dash hc cs).trans hspell

/-- The text of a double, whatever the layout. -/
theorem sealed_number (layout : NumberLayout) (x : Binary64) : Sealed (layout.text x) := by
  simp only [NumberLayout.text]
  split
  · cases x.isNegative <;> rfl
  · rw [Sealed, String.toList_ofList]
    exact through_signed layout _ _ _

/-! Values and names. -/

/-- What is written between single quotes does not end them. -/
theorem through_escapeChar (c : Char) :
    Reading.through (.quoted '\'') (escapeChar c) = some (.quoted '\'') := by
  -- A character with an escape of its own is read behind the backslash.
  have hescape {p : Prop} [Decidable p] {e : Char} {cs : List Char}
      (h : ¬ p → Reading.through (.quoted '\'') cs = some (.quoted '\'')) :
      Reading.through (.quoted '\'') (if p then ['\\', e] else cs) = some (.quoted '\'') := by
    split
    · rfl
    · next hp => exact h hp
  unfold escapeChar
  repeat refine hescape fun _ => ?_
  next hquote hbackslash =>
    simp [Reading.through, Reading.cuts, Reading.isOutside, Reading.next, hquote, hbackslash]

theorem toList_string (s : String) :
    (string s).toList = '\'' :: (s.toList.flatMap escapeChar ++ ['\'']) := by
  simp [string]

/-- What is written for a text neither leaves its quotes open nor closes a statement. -/
theorem sealed_string (s : String) : Sealed (string s) := by
  rw [Sealed, toList_string]
  exact Reading.through_quoted rfl (by decide) (Reading.through_flatMap through_escapeChar _)

theorem toList_identifier (name : String) : (identifier name).toList =
    '`' :: ((name.toList.flatMap fun c => if c = '`' then ['`', '`'] else [c]) ++ ['`']) := by
  simp [identifier, escaped, replaceChar]

/-- Nor does what is written between backticks. -/
theorem sealed_identifier (name : String) : Sealed (identifier name) := by
  rw [Sealed, toList_identifier]
  refine Reading.through_quoted rfl (by decide) (Reading.through_flatMap (fun c => ?_) _)
  split
  · rfl
  · next hc => simp [Reading.through, Reading.cuts, Reading.isOutside, Reading.next, hc]

theorem isPlain_hexDigit {n : Nat} (h : n < 16) : isPlain (Text.hexDigit n) = true := by
  have hall : ∀ n < 16, isPlain (Text.hexDigit n) = true := by decide
  exact hall n h

theorem sealed_blob (bytes : List UInt8) : Sealed (blob bytes) := by
  unfold blob
  split
  · rfl
  · refine Sealed.append (sealed_of_plain rfl) (sealed_of_plain ?_)
    rw [Text.hex, String.toList_ofList, List.all_flatMap, List.all_eq_true]
    intro byte _
    have hlt := byte.toNat_lt
    simp only [Text.hexByte, List.all_cons, List.all_nil, Bool.and_true, Bool.and_eq_true]
    exact ⟨isPlain_hexDigit (by omega), isPlain_hexDigit (by omega)⟩

theorem sealed_float (x : Binary64) : Sealed (float x) := by
  unfold float
  split
  · exact sealed_number _ x
  · exact sealed_of_plain rfl

theorem sealed_json (d : Dialect) (doc : Json) : Sealed (json d doc) := by
  cases d with
  | generic => exact sealed_string _
  | mysql => exact ((sealed_of_plain rfl).append (sealed_string _)).word rfl

/-- A name that can stand for a variable. -/
theorem isPlain_of_variableName {name : String} (h : isVariableName name = true) :
    ∀ c ∈ name.toList, isPlain c = true := by
  unfold isVariableName at h
  split at h
  · next c cs hname =>
    rw [hname, List.forall_mem_cons]
    exact ⟨rfl, fun x hx => isPlain_of_kind rfl (List.all_eq_true.mp h x hx)⟩
  · cases h

theorem sealed_variable {name : String} (h : isVariableName name = true) : Sealed name :=
  Reading.through_plain (isPlain_of_variableName h)

theorem sealed_literal (d : Dialect) (v : Value) : Sealed (literal d v) := by
  cases v with
  | null =>
    show Sealed "NULL"
    exact sealed_of_plain rfl
  | boolean b =>
    show Sealed (if b then "true" else "false")
    split
    · exact sealed_of_plain rfl
    · exact sealed_of_plain rfl
  | signed n => exact sealed_int _
  | unsigned n => exact sealed_nat _
  | float x => exact sealed_float x
  | text s => exact sealed_string s
  | blob bytes => exact sealed_blob bytes
  | json doc => exact sealed_json d doc
  | lastInsertId =>
    show Sealed "LAST_INSERT_ID()"
    exact sealed_of_plain rfl
  | «variable» name => exact sealed_variable name.valid

/-! Clauses. -/

section Clauses

variable (d : Dialect)

/-- The texts of the elements of a list. -/
theorem sealed_items {α : Type} (separator : String) {text : α → String}
    (hs : separator.toList.all isPlain = true) (h : ∀ a, Sealed (text a)) (as : List α) :
    Sealed (separated separator (as.map text)) := by
  refine sealed_separated (sealed_of_plain hs) fun item hitem => ?_
  obtain ⟨a, -, rfl⟩ := List.mem_map.mp hitem
  exact h a

theorem sealed_part {α : Type} {text : α → String} (h : ∀ a, Sealed (text a)) (a : Option α) :
    Sealed (part text a) := by
  cases a with
  | none => exact sealed_empty
  | some a => exact (sealed_of_plain rfl).append (h a)

theorem sealed_tableName (t : Table) : Sealed (tableName t) := sealed_identifier _

theorem sealed_columnName (qualified : Bool) (c : Column) : Sealed (columnName qualified c) := by
  unfold columnName
  split
  · exact ((sealed_identifier _).word rfl).append (sealed_identifier _)
  · exact sealed_identifier _

theorem sealed_symbol (op : Comparison) : Sealed op.symbol := by
  cases op <;> exact sealed_of_plain rfl

theorem sealed_condition (c : Clause) : Sealed (condition d c) := by
  cases c with
  | equals c v => exact .append (.word (sealed_columnName _ c) rfl) (sealed_literal d v)
  | member c vs _ =>
    have hvalues := sealed_items ", " rfl (sealed_literal d) vs
    exact .word (.append (.word (sealed_columnName _ c) rfl) hvalues) rfl
  | compare c op v =>
    have hop : Sealed (columnName false c ++ " " ++ op.symbol) :=
      .append (.word (sealed_columnName _ c) rfl) (sealed_symbol op)
    exact .append (.word hop rfl) (sealed_literal d v)
  | columns a b _ => exact .append (.word (sealed_columnName _ a) rfl) (sealed_columnName _ b)

theorem sealed_filter (f : Filter) : Sealed (filter d f) :=
  .append (sealed_of_plain rfl) (sealed_items _ rfl (sealed_condition d) f.clauses)

theorem sealed_joinClause (owner : Table) (j : JoinClause) : Sealed (joinClause owner j) := by
  have hjoined : Sealed ("INNER JOIN " ++ tableName j.table ++ " ON " ++ tableName j.table) :=
    .append (.word (.append (sealed_of_plain rfl) (sealed_identifier _)) rfl) (sealed_identifier _)
  have hmatched : Sealed ("INNER JOIN " ++ tableName j.table ++ " ON " ++ tableName j.table ++
      "." ++ identifier j.matchColumn.name) := .append (.word hjoined rfl) (sealed_identifier _)
  exact .append (.word (.append (.word hmatched rfl) (sealed_identifier _)) rfl)
    (sealed_identifier _)

theorem sealed_joined (owner : Table) (j : Join) : Sealed (join owner j) :=
  sealed_items _ rfl (sealed_joinClause owner) j.clauses

theorem sealed_orderBy (o : OrderBy) : Sealed (orderBy o) := by
  refine .append (.word (.append (sealed_of_plain rfl) (sealed_columnName _ _)) rfl) ?_
  cases o.order <;> exact sealed_of_plain rfl

theorem sealed_limit (l : Limit) : Sealed (limit l) := by
  cases l with
  | count n => exact .append (sealed_of_plain rfl) (sealed_nat _)
  | range offset n =>
    exact .append (.word (.append (sealed_of_plain rfl) (sealed_nat _)) rfl) (sealed_nat _)

theorem sealed_columnValues (values : List Assignment) : Sealed (columnValues d values) := by
  have hcolumns := sealed_items "," rfl
    (fun a : Assignment => sealed_columnName false a.column) values
  have hvalues := sealed_items "," rfl
    (fun a : Assignment => sealed_literal d a.value) values
  exact .word (.append (.word (.append (sealed_of_plain rfl) hcolumns) rfl) hvalues) rfl

theorem sealed_assignments (values : List Assignment) : Sealed (assignments d values) :=
  sealed_items _ rfl (fun _ => .append (.word (sealed_columnName _ _) rfl) (sealed_literal d _))
    values

theorem sealed_columnType (t : ColumnType) : Sealed (columnType t) := by
  cases t with
  | char w => exact .word (.append (sealed_of_plain rfl) (sealed_nat w)) rfl
  | varchar w => exact .word (.append (sealed_of_plain rfl) (sealed_nat w)) rfl
  | _ => exact sealed_of_plain rfl

theorem sealed_columnDefinition (c : Column) : Sealed (columnDefinition c) := by
  have hkeyword {p : Bool} {text : String} (h : text.toList.all isPlain = true) :
      Sealed (if p then text else "") := by
    split
    · exact sealed_of_plain h
    · exact sealed_empty
  have htype : Sealed (columnName false c ++ " " ++ columnType c.type) :=
    .append (.word (sealed_columnName _ c) rfl) (sealed_columnType _)
  exact .append (.append (.append htype (hkeyword rfl)) (hkeyword rfl)) (hkeyword rfl)

theorem sealed_uniqueKey (c : Column) : Sealed (uniqueKey c) := by
  have hkey : Sealed (", UNIQUE KEY " ++ identifier (c.name ++ "_UNIQUE") ++ " (") :=
    .word (.append (sealed_of_plain rfl) (sealed_identifier _)) rfl
  exact .word (.append hkey (sealed_columnName _ c)) rfl

theorem sealed_tableDefinition (t : Table) : Sealed (tableDefinition t) := by
  refine .append (.append (sealed_items _ rfl sealed_columnDefinition t.columns) ?_)
    (sealed_join fun item hitem => ?_)
  · split
    · exact .word (.append (sealed_of_plain rfl) (sealed_columnName _ _)) rfl
    · exact sealed_empty
  · obtain ⟨c, -, rfl⟩ := List.mem_map.mp hitem
    exact sealed_uniqueKey c

end Clauses

/-! Statements. -/

end Sql

/-- What is selected is no expression but one that counts rows or sums a column up. -/
def Columns.Composed : Columns → Prop
  | .expression text =>
    text = Program.countLabel ∨ ∃ c joined, text = Program.sumExpression c joined
  | _ => True

/-- What a count selects. -/
theorem composed_count : (Columns.ofText Program.countLabel).Composed := by
  unfold Columns.ofText
  split
  · trivial
  · exact .inl rfl

/-- What a sum selects. -/
theorem composed_sum (c : Column) (joined : Bool) :
    (Columns.ofText (Program.sumExpression c joined)).Composed := by
  unfold Columns.ofText
  split
  · trivial
  · exact .inr ⟨c, joined, rfl⟩

/-- The statement holds no text that is written as it is, but what counts rows or sums a column up
    and the name of a variable. -/
def Statement.Composed : Statement → Prop
  | .select q => q.columns.Composed
  | .unionSelect q => q.columns.Composed
  | .set name _ => isVariableName name = true
  | _ => True

namespace Sql

theorem sealed_columns {cs : Columns} (h : cs.Composed) (qualified : Bool) :
    Sealed (columns qualified cs) := by
  cases cs with
  | all =>
    show Sealed "*"
    exact sealed_of_plain rfl
  | list cs => exact sealed_items _ rfl (sealed_columnName qualified) cs
  | expression text =>
    rcases h with rfl | ⟨c, joined, rfl⟩
    · show Sealed "COUNT(*)"
      exact sealed_of_plain rfl
    · exact .word (.word (.append (sealed_of_plain rfl) (sealed_columnName joined c)) rfl) rfl

theorem sealed_selectBody (d : Dialect) {q : Select} (h : q.columns.Composed) :
    Sealed (selectBody d q) := by
  have hfrom : Sealed ("SELECT " ++ columns q.join.isSome q.columns ++ " FROM " ++
      tableName q.table) :=
    .append (.word (.append (sealed_of_plain rfl) (sealed_columns h _)) rfl) (sealed_tableName _)
  have hfiltered := (hfrom.append (sealed_part (sealed_joined q.table) q.join)).append
    (sealed_part (sealed_filter d) q.filter)
  exact (hfiltered.append (sealed_part sealed_orderBy q.order)).append
    (sealed_part sealed_limit q.limit)

theorem sealed_unionBlock (d : Dialect) {q : UnionSelect} (h : q.columns.Composed) (f : Filter) :
    Sealed (unionBlock d q f) := by
  have hcolumns : Sealed (unionColumns q) := by
    unfold unionColumns
    split
    · exact .word (sealed_tableName _) rfl
    · exact sealed_columns h _
  have hfrom : Sealed ("SELECT count(*)," ++ unionColumns q ++ " FROM " ++ tableName q.table) :=
    .append (.word (.append (sealed_of_plain rfl) hcolumns) rfl) (sealed_tableName _)
  exact .append (.word (hfrom.append (sealed_part (sealed_joined q.table) q.join)) rfl)
    (sealed_filter d f)

/-- The text of a statement is closed by its last character, and by no other. -/
theorem closed_statement (d : Dialect) {st : Statement} (h : st.Composed) :
    Closed (statement d st) := by
  cases st with
  | select q => exact ⟨_, sealed_selectBody d h, rfl⟩
  | unionSelect q => exact ⟨_, sealed_items _ rfl (sealed_unionBlock d h) q.filters, rfl⟩
  | insert t vs =>
    exact ⟨_, .append (.append (sealed_of_plain rfl) (sealed_tableName t))
      (sealed_columnValues d vs), rfl⟩
  | replace t vs =>
    exact ⟨_, .append (.append (sealed_of_plain rfl) (sealed_tableName t))
      (sealed_columnValues d vs), rfl⟩
  | update t vs f =>
    have hset : Sealed ("UPDATE " ++ tableName t ++ " SET " ++ assignments d vs) :=
      .append (.word (.append (sealed_of_plain rfl) (sealed_tableName t)) rfl)
        (sealed_assignments d vs)
    exact ⟨_, .append (.word hset rfl) (sealed_filter d f), rfl⟩
  | delete t f =>
    exact ⟨_, .append (.word (.append (sealed_of_plain rfl) (sealed_tableName t)) rfl)
      (sealed_filter d f), rfl⟩
  | truncate t => exact ⟨_, .append (sealed_of_plain rfl) (sealed_tableName t), rfl⟩
  | set name v =>
    exact ⟨_, .append (.word (.append (sealed_of_plain rfl) (sealed_variable h)) rfl)
      (sealed_literal d v), rfl⟩
  | lockTables locks =>
    refine ⟨_, .append (sealed_of_plain rfl) (sealed_items _ rfl (fun lock => ?_) locks), rfl⟩
    refine .append (.word (sealed_tableName _) rfl) ?_
    cases lock.2 <;> exact sealed_of_plain rfl
  | unlockTables => exact ⟨"UNLOCK TABLES", sealed_of_plain rfl, rfl⟩
  | createDatabase name => exact ⟨_, .append (sealed_of_plain rfl) (sealed_identifier name), rfl⟩
  | use database => exact ⟨_, .append (sealed_of_plain rfl) (sealed_identifier database), rfl⟩
  | createTable t =>
    have hopen : Sealed ("CREATE TABLE IF NOT EXISTS " ++ tableName t ++ " (") :=
      .word (.append (sealed_of_plain rfl) (sealed_tableName t)) rfl
    refine ⟨_, .word (hopen.append (sealed_tableDefinition t)) (b := ")") rfl, ?_⟩
    rw [String.append_assoc]
    rfl

theorem split_statements {d : Dialect} {sts : List Statement}
    (h : ∀ st ∈ sts, Closed (statement d st)) :
    split (String.join (sts.map (statement d))) = sts.map (statement d) :=
  split_join (List.forall_mem_map.mpr h)

/-- Statements are told apart wherever they stand one after another, and each ends with the
    semicolon that closes it. -/
theorem request_framing (d : Dialect) (sts : List Statement) (h : ∀ st ∈ sts, st.Composed) :
    split (String.join (sts.map (statement d))) = sts.map (statement d) ∧
      ∀ st ∈ sts, ∃ body, Sealed body ∧ statement d st = body ++ ";" :=
  ⟨split_statements fun st hst => closed_statement d (h st hst),
    fun st hst => closed_statement d (h st hst)⟩

/-- A database and a text that hold what would close them. -/
theorem request_framing_quotes :
    split "USE `a``;b`;SET @x = '\\';-- ';UNLOCK TABLES;" =
      ["USE `a``;b`;", "SET @x = '\\';-- ';", "UNLOCK TABLES;"] := by
  have h := (request_framing .mysql
    [.use "a`;b", .set "@x" (.text "';-- "), .unlockTables] (by
      simp only [List.forall_mem_cons, List.not_mem_nil, false_implies, implies_true, and_true]
      exact ⟨trivial, rfl, trivial⟩)).1
  exact h

end Sql

/-- What holds of the statements of a request, and of all that select a database, holds of all that
    the request sends. -/
theorem Request.forall_mem_all {P : Statement → Prop} (huse : ∀ database, P (.use database))
    {r : Request} (h : ∀ st ∈ r.statements, P st) : ∀ st ∈ r.all, P st := by
  intro st hst
  rw [Request.all, List.mem_append, Option.toList_map, List.mem_map] at hst
  rcases hst with ⟨database, -, rfl⟩ | hst
  · exact huse database
  · exact h st hst

/-- The statements of a request, the selection of its database among them, are told apart. -/
theorem Request.split_text {d : Dialect} {r : Request}
    (h : ∀ st ∈ r.statements, Sql.Closed (Sql.statement d st)) :
    Sql.split (r.text d) = r.all.map (Sql.statement d) :=
  Sql.split_statements <| Request.forall_mem_all (fun database =>
    Sql.closed_statement d (show (Statement.use database).Composed from trivial)) h

variable {σ μ α : Type} {b : Backend σ} {config : Config} {server : σ}

/-- What a run sends is told apart as it was queued, if the text of each statement is closed. -/
theorem Program.requests_framed (p : Program μ α) {before after : List (Event μ)}
    {request : Request} {done : Bool}
    (hlog : (p.run b ⟨.start config, server⟩).events = before ++ Event.run request done :: after)
    (h : ∀ st ∈ queuedStatements before, Sql.Closed (Sql.statement b.dialect st)) :
    Sql.split (request.text b.dialect) = request.all.map (Sql.statement b.dialect) :=
  Request.split_text fun st hst => h st (p.queued_of_sent hlog st hst)

end SqlBatch
