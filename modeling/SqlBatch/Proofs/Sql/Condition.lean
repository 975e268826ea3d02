import SqlBatch.Proofs.Sql.Content
/- What the conditions of a statement say, and of which columns.
     1. `reads_identifier`: every name is read back from between backticks.
     2. `reads_columnName`: a column is read as a reference, with its table if it is qualified.
     3. `reads_condition`: a condition is read as what its clause says.
     4. `reads_conditions`: so are all the conditions of a filter, in their order. -/
namespace SqlBatch

namespace Sql

/-- A reference to a column, with a table if it is qualified. -/
structure Reference where
  table : Option String
  name : String
  deriving DecidableEq

/-- What a column is compared with. -/
inductive Operand where
  | literal (content : Content)
  | column (reference : Reference)
  deriving DecidableEq

/-- A condition on a column. -/
inductive Condition where
  | compare (column : Reference) (op : Comparison) (operand : Operand)
  | member (column : Reference) (values : List Content)
  deriving DecidableEq

end Sql

/-- The reference to a column. It is qualified only if the column belongs to a table. -/
def Column.reference (qualified : Bool) (c : Column) : Sql.Reference :=
  ⟨if qualified && c.isAttached then some c.table else none, c.name⟩

/-- What a clause says. An equality is a comparison. -/
def Clause.condition (d : Dialect) : Clause → Sql.Condition
  | .equals c v => .compare (c.reference false) .equal (.literal (v.content d))
  | .member c vs _ => .member (c.reference false) (vs.map (Value.content d))
  | .compare c op v => .compare (c.reference false) op (.literal (v.content d))
  | .columns a b _ => .compare (a.reference true) .equal (.column (b.reference true))

namespace Sql

variable {next : List String}

/-! Names. -/

/-- Takes a name between backticks. -/
def Reader.identifier : Reader String := do
  expect "`"
  let cs ← quoted '`' []
  return String.ofList cs

/-- What stands behind the first backtick, in front of everything but one more. -/
theorem quoted_name (s : String) {rest : List Char} (hrest : rest.head? ≠ some '`') :
    Reader.quoted '`' [] ((escaped s '`' "``" ++ "`").toList ++ rest) = some (s.toList, rest) := by
  -- A backtick is written twice, and a backslash is a character as any other.
  have hchar (c : Char) (rest : List Char) :
      Reader.quoted '`' [] ((if c = '`' then "``".toList else [c]) ++ rest) =
        (Reader.quoted '`' [] rest).map fun p => (c :: p.1, p.2) := by
    split
    · next hc =>
      subst hc
      exact quoted_doubled
    · next hc => exact quoted_cons hc (.inr rfl)
  rw [escaped, String.toList_append, String.toList_ofList, List.append_assoc]
  exact quoted_flatMap hchar hrest s.toList

theorem reads_quotedName (s : String)
    (hnext : (next.all fun o => o.toList.head?.any (· ≠ '`')) = true) :
    Reads (Reader.quoted '`' []) (escaped s '`' "``" ++ "`") s.toList next :=
  fun _ hrest => quoted_name s (hrest.head?_ne hnext)

theorem reads_identifier (s : String)
    (hnext : (next.all fun o => o.toList.head?.any (· ≠ '`')) = true) :
    Reads Reader.identifier (identifier s) s next := by
  rw [identifier, String.append_assoc]
  refine Reads.behind ((reads_quotedName s hnext).last fun cs => ?_)
  rw [String.ofList_toList]
  rfl

/-! Columns. -/

/-- Takes a reference to a column. -/
def Reference.read : Reader Reference := do
  let first ← Reader.identifier
  let second ← Reader.maybe "." Reader.identifier
  return ⟨second.map fun _ => first, second.getD first⟩

/-- A reference ends in front of what begins neither with a point nor with a backtick. -/
def closesReference (next : List String) : Bool :=
  apart "." next && next.all fun o => o.toList.head?.any (· ≠ '`')

theorem reads_qualified (table column : String) (hnext : closesReference next = true) :
    Reads Reference.read (identifier table ++ ("." ++ identifier column)) ⟨some table, column⟩
      next := by
  have htable : Reads Reader.identifier (identifier table) table ["."] :=
    reads_identifier table rfl
  have hcolumn := reads_identifier column (Bool.and_eq_true_iff.mp hnext).2
  exact htable.before rfl (.last (.maybe_some ⟨_, rfl, hcolumn⟩) fun _ => rfl)

theorem reads_unqualified (column : String) (hnext : closesReference next = true) :
    Reads Reference.read (identifier column) ⟨none, column⟩ next := by
  have hclosed := Bool.and_eq_true_iff.mp hnext
  have htext : identifier column = identifier column ++ "" := by rw [String.append_empty]
  rw [htext]
  exact (reads_identifier column hclosed.2).bind (.last (.maybe_none _ hclosed.1) fun _ => rfl)
    fun _ hrest => hrest

theorem reads_columnName (qualified : Bool) (c : Column) (hnext : closesReference next = true) :
    Reads Reference.read (columnName qualified c) (c.reference qualified) next := by
  unfold columnName Column.reference
  split
  · rw [String.append_assoc]
    exact reads_qualified c.table c.name hnext
  · exact reads_unqualified c.name hnext

/-! Conditions. -/

/-- Takes a reference where a backtick stands, and else a literal. -/
def Operand.read : Reader Operand
  | '`' :: cs => (Reference.read ('`' :: cs)).map fun p => (.column p.1, p.2)
  | cs => (Content.read cs).map fun p => (.literal p.1, p.2)

/-- What stands behind the column of a condition: a comparison, or membership, which is none. -/
def links : List (String × Option Comparison) :=
  [(" = ", some .equal), (" != ", some .notEqual), (" < ", some .less), (" <= ", some .lessEqual),
    (" > ", some .greater), (" >= ", some .greaterEqual), (" LIKE ", some .like),
    (" NOT LIKE ", some .notLike), (" IN (", none)]

/-- Takes a condition. -/
def Condition.read : Reader Condition := do
  let column ← Reference.read
  match ← Reader.oneOf links with
  | some op => do
    let operand ← Operand.read
    return .compare column op operand
  | none => do
    let values ← Reader.items ", " Content.read
    Reader.expect ")"
    return .member column values

theorem reads_literalOperand {text : String} {c : Content} (h : Reads Content.read text c stops) :
    Reads Operand.read text (.literal c) stops := by
  intro rest hrest
  have hread := h rest hrest
  unfold Operand.read
  split
  · next cs heq =>
    rw [heq] at hread
    cases hread
  · rw [hread]
    rfl

theorem reads_columnOperand (c : Column) :
    Reads Operand.read (columnName true c) (.column (c.reference true)) stops := by
  have hopen : ∃ cs, (columnName true c).toList = '`' :: cs := by
    unfold columnName
    split <;> simp [identifier]
  obtain ⟨cs, hcs⟩ := hopen
  intro rest hrest
  have hread := reads_columnName true c rfl rest hrest
  rw [hcs, List.cons_append] at hread ⊢
  rw [Operand.read, hread]
  rfl

/-- Every two links stand apart, and so do no others than these. -/
theorem reads_link {f : Option Comparison → Reader Condition} {link text : String}
    {op : Option Comparison} {c : Condition} (h : (link, op) ∈ links)
    (hf : Reads (f op) text c stops) :
    Reads (Reader.oneOf links >>= f) (link ++ text) c stops :=
  .choice h (by decide) hf

/-- A condition is read as what its clause says. -/
theorem reads_condition (d : Dialect) (c : Clause) :
    Reads Condition.read (condition d c) (c.condition d) stops := by
  have hcolumn (c : Column) : Reads Reference.read (columnName false c) (c.reference false) [" "] :=
    reads_columnName false c rfl
  cases c with
  | equals c v =>
    have hv := reads_literalOperand (reads_literal d v)
    rw [condition, String.append_assoc]
    exact (hcolumn c).before rfl (reads_link (.head _) (hv.last fun _ => rfl))
  | member c vs hvs =>
    have hvalues : Reads (Reader.items ", " Content.read) (Text.separated ", " (vs.map (literal d)))
        (vs.map (Value.content d)) [")"] :=
      .items hvs (fun v _ => (reads_literal d v).mono rfl) rfl (by decide) rfl
    have hlink : (" IN (", none) ∈ links := by decide
    rw [condition, String.append_assoc, String.append_assoc]
    refine (hcolumn c).before rfl (reads_link hlink (hvalues.bind ?_ fun rest _ => ?_))
    · exact (Reads.expect ")" stops).last fun _ => rfl
    · exact before_of_opens rfl rest
  | compare c op v =>
    have hv := reads_literalOperand (reads_literal d v)
    have htext : condition d (.compare c op v) =
        columnName false c ++ ((" " ++ op.symbol ++ " ") ++ literal d v) := by
      simp only [condition, String.append_assoc]
    have hlink : (" " ++ op.symbol ++ " ", some op) ∈ links := by cases op <;> decide
    rw [htext]
    refine (hcolumn c).before ?_ (reads_link hlink (hv.last fun _ => rfl))
    cases op <;> rfl
  | columns a b hab =>
    have ha : Reads Reference.read (columnName true a) (a.reference true) [" "] :=
      reads_columnName true a rfl
    rw [condition, String.append_assoc]
    exact ha.before rfl (reads_link (.head _) ((reads_columnOperand b).last fun _ => rfl))

/-- The conditions of a filter are read in their order. -/
theorem reads_conditions (d : Dialect) (f : Filter)
    (hnext : next.all (opens stops) = true) (hapart : apart " AND " next = true) :
    Reads (Reader.items " AND " Condition.read)
      (Text.separated " AND " (f.clauses.map (condition d)))
      (f.clauses.map (Clause.condition d)) next := by
  refine .items f.nonempty (fun c _ => (reads_condition d c).mono ?_) rfl (by decide) hapart
  rw [List.all_cons, hnext]
  rfl

end Sql

end SqlBatch
