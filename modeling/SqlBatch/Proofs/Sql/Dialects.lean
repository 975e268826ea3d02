import SqlBatch.Proofs.Sql.Query
/- Where the dialects differ. A statement is made of texts and of the literals of its values, and
   the literals are all that a dialect is asked for.
     1. `Clause.values`, `Filter.values`, `Statement.values`: the values of a statement, in the
        order of their literals.
     2. `WrittenAround`: the same texts stand around the literals in both dialects. It is kept by
        whatever puts texts together, lists with separators among them.
     3. `writtenAround_statement`: so it is with every statement.
     4. `dialects_differ_on_documents`: the dialects differ in what encloses a document. -/
namespace SqlBatch

/-- The values of a condition. -/
def Clause.values : Clause → List Value
  | .equals _ v => [v]
  | .member _ vs _ => vs
  | .compare _ _ v => [v]
  | .columns _ _ _ => []

/-- The values of a filter. -/
def Filter.values (f : Filter) : List Value := f.clauses.flatMap Clause.values

/-- The values of a statement. -/
def Statement.values : Statement → List Value
  | .select q => q.filter.elim [] Filter.values
  | .unionSelect q => q.filters.flatMap Filter.values
  | .insert _ vs => vs.map Assignment.value
  | .replace _ vs => vs.map Assignment.value
  | .update _ vs f => vs.map Assignment.value ++ f.values
  | .delete _ f => f.values
  | .set _ v => [v]
  | .truncate _ | .lockTables _ | .unlockTables | .createDatabase _ | .use _ | .createTable _ => []

namespace Sql

/-! Texts around literals. -/

/-- A part of a text: written as it is, or the literal of a value. -/
inductive Piece where
  | text (text : String)
  | value (value : Value)

namespace Piece

/-- The value of a piece, if it is the literal of one. -/
def value? : Piece → Option Value
  | .text _ => none
  | .value v => some v

/-- The piece where literals are written in this way. -/
def written (write : Value → String) : Piece → String
  | .text s => s
  | .value v => write v

end Piece

/-- The text of pieces where literals are written in this way. -/
def written (write : Value → String) (pieces : List Piece) : String :=
  String.join (pieces.map (Piece.written write))

/-- In each dialect the text is made of the same texts around the literals of the values, in their
    order. -/
def WrittenAround (values : List Value) (text : Dialect → String) : Prop :=
  ∃ pieces, pieces.filterMap Piece.value? = values ∧ ∀ d, text d = written (literal d) pieces

theorem written_append (write : Value → String) (pieces more : List Piece) :
    written write (pieces ++ more) = written write pieces ++ written write more := by
  rw [written, List.map_append, String.join_append]
  rfl

theorem written_congr {write write' : Value → String} {pieces : List Piece}
    (h : ∀ v, .value v ∈ pieces → write v = write' v) :
    written write pieces = written write' pieces := by
  refine congrArg String.join (List.map_congr_left fun p hp => ?_)
  cases p with
  | text s => rfl
  | value v => exact h v hp

/-- The literal of no value is empty in one dialect alone. -/
theorem literal_eq_empty_iff (d : Dialect) (v : Value) :
    literal d v = "" ↔ literal .generic v = "" := by
  cases d with
  | generic => exact Iff.rfl
  | mysql =>
    cases v with
    | json doc => simp [literal, json, string]
    | _ => exact Iff.rfl

namespace WrittenAround

variable {values more : List Value} {text body : Dialect → String}

theorem constant (s : String) : WrittenAround [] fun _ => s :=
  ⟨[.text s], rfl, fun _ => by simp [written, Piece.written]⟩

theorem value (v : Value) : WrittenAround [v] fun d => literal d v :=
  ⟨[.value v], rfl, fun _ => by simp [written, Piece.written]⟩

theorem append (h : WrittenAround values text) (hbody : WrittenAround more body) :
    WrittenAround (values ++ more) fun d => text d ++ body d := by
  obtain ⟨pieces, rfl, htext⟩ := h
  obtain ⟨others, rfl, hbody⟩ := hbody
  refine ⟨pieces ++ others, List.filterMap_append, fun d => ?_⟩
  rw [written_append, ← htext, ← hbody]

theorem congr (h : WrittenAround values text) (heq : ∀ d, body d = text d) :
    WrittenAround values body := by
  obtain ⟨pieces, hvalues, htext⟩ := h
  exact ⟨pieces, hvalues, fun d => (heq d).trans (htext d)⟩

/-- Behind a text that is the same in both dialects. -/
theorem before (s : String) (h : WrittenAround values text) :
    WrittenAround values fun d => s ++ text d := (constant s).append h

/-- In front of a text that is the same in both dialects. -/
theorem behind (h : WrittenAround values text) (s : String) :
    WrittenAround values fun d => text d ++ s := by
  have happend := h.append (constant s)
  rwa [List.append_nil] at happend

/-- A text is empty in both dialects or in none. -/
theorem eq_empty_iff (h : WrittenAround values text) (d : Dialect) :
    text d = "" ↔ text .generic = "" := by
  obtain ⟨pieces, -, htext⟩ := h
  rw [htext, htext]
  clear htext
  induction pieces with
  | nil => exact Iff.rfl
  | cons p pieces ih =>
    have hpiece : p.written (literal d) = "" ↔ p.written (literal .generic) = "" := by
      cases p with
      | text s => exact Iff.rfl
      | value v => exact literal_eq_empty_iff d v
    have hcons (e : Dialect) : written (literal e) (p :: pieces) =
        p.written (literal e) ++ written (literal e) pieces := String.join_cons
    rw [hcons, hcons, String.append_eq_empty_iff, String.append_eq_empty_iff, hpiece, ih]

/-- Items between separators: which of them are empty is the same in both dialects. -/
theorem separated {α : Type} {valuesOf : α → List Value} {text : Dialect → α → String}
    (separator : String) (items : List α)
    (h : ∀ a ∈ items, WrittenAround (valuesOf a) fun d => text d a) :
    WrittenAround (items.flatMap valuesOf) fun d =>
      Text.separated separator (items.map (text d)) := by
  induction items with
  | nil => exact constant ""
  | cons a rest ih =>
    obtain ⟨ha, hrest⟩ := List.forall_mem_cons.mp h
    have ih := ih hrest
    cases rest with
    | nil =>
      rw [List.flatMap_cons, List.flatMap_nil, List.append_nil]
      exact ha
    | cons b rest =>
      have hitem := ha.behind (if text .generic a = "" then "" else separator)
      rw [List.flatMap_cons]
      refine (hitem.append ih).congr fun d => ?_
      rw [List.map_cons, List.map_cons, Text.separated_cons_cons]
      simp only [ha.eq_empty_iff d]

/-- A part that may be missing. -/
theorem part {α : Type} {valuesOf : α → List Value} {text : Dialect → α → String} (o : Option α)
    (h : ∀ a, WrittenAround (valuesOf a) fun d => text d a) :
    WrittenAround (o.elim [] valuesOf) fun d => Sql.part (text d) o := by
  cases o with
  | none => exact constant ""
  | some a => exact (h a).before " "

end WrittenAround

/-! Clauses and statements. -/

theorem writtenAround_condition (c : Clause) : WrittenAround c.values fun d => condition d c := by
  cases c with
  | equals c v => exact .before (columnName false c ++ " = ") (.value v)
  | member c vs hvs =>
    have hlist := WrittenAround.separated ", " vs fun v _ => .value v
    rw [List.flatMap_singleton'] at hlist
    exact (hlist.before (columnName false c ++ " IN (")).behind ")"
  | compare c op v => exact .before (columnName false c ++ " " ++ op.symbol ++ " ") (.value v)
  | columns a b h => exact .constant _

theorem writtenAround_filter (f : Filter) : WrittenAround f.values fun d => filter d f :=
  .before "WHERE " (.separated " AND " f.clauses fun c _ => writtenAround_condition c)

theorem writtenAround_columnValues (vs : List Assignment) :
    WrittenAround (vs.map Assignment.value) fun d => columnValues d vs := by
  have hlist := WrittenAround.separated "," vs fun a _ => .value a.value
  rw [← List.map_eq_flatMap] at hlist
  exact (hlist.before (" (" ++ Text.separated "," (vs.map fun a => columnName false a.column) ++
    ") VALUES (")).behind ")"

theorem writtenAround_assignments (vs : List Assignment) :
    WrittenAround (vs.map Assignment.value) fun d => assignments d vs := by
  have hlist := WrittenAround.separated "," vs fun a _ =>
    .before (columnName false a.column ++ "=") (.value a.value)
  rw [← List.map_eq_flatMap] at hlist
  exact hlist

theorem writtenAround_statement (st : Statement) :
    WrittenAround st.values fun d => statement d st := by
  cases st with
  | select q =>
    have hfilter := WrittenAround.part q.filter writtenAround_filter
    exact (((hfilter.before _).behind _).behind _).behind ";"
  | unionSelect q =>
    have hblock (f : Filter) : WrittenAround f.values fun d => unionBlock d q f :=
      (writtenAround_filter f).before _
    exact (WrittenAround.separated " UNION ALL " q.filters fun f _ => hblock f).behind ";"
  | insert t vs => exact ((writtenAround_columnValues vs).before _).behind ";"
  | replace t vs => exact ((writtenAround_columnValues vs).before _).behind ";"
  | update t vs f =>
    have hset := (writtenAround_assignments vs).before ("UPDATE " ++ tableName t ++ " SET ")
    exact ((hset.behind " ").append (writtenAround_filter f)).behind ";"
  | delete t f => exact ((writtenAround_filter f).before _).behind ";"
  | set name v => exact ((WrittenAround.value v).before _).behind ";"
  | truncate t => exact .constant _
  | lockTables locks => exact .constant _
  | unlockTables => exact .constant _
  | createDatabase name => exact .constant _
  | use database => exact .constant _
  | createTable t => exact .constant _

/-! Documents. -/

/-- The literal of a value in the generic dialect, with a cast around it if it is a document. -/
def enclosed : Value → String
  | .json doc => "CAST(" ++ literal .generic (.json doc) ++ " AS JSON)"
  | v => literal .generic v

theorem literal_mysql (v : Value) : literal .mysql v = enclosed v := by
  cases v <;> rfl

/-- The one text is the other with a cast around the literal of each document among the values, and
    nothing else of it is another. -/
def DiffersOnDocuments (values : List Value) (text : Dialect → String) : Prop :=
  (∃ pieces, pieces.filterMap Piece.value? = values ∧
    text .generic = written (literal .generic) pieces ∧ text .mysql = written enclosed pieces) ∧
  ((∀ doc, .json doc ∉ values) → text .mysql = text .generic)

theorem WrittenAround.differsOnDocuments {values : List Value} {text : Dialect → String}
    (h : WrittenAround values text) : DiffersOnDocuments values text := by
  obtain ⟨pieces, rfl, htext⟩ := h
  have hmysql : text .mysql = written enclosed pieces := by
    rw [htext, funext literal_mysql]
  refine ⟨⟨pieces, rfl, htext .generic, hmysql⟩, fun hnone => ?_⟩
  rw [htext, htext]
  refine written_congr fun v hv => literal_mysql_eq_generic fun doc hdoc => ?_
  exact hnone doc (hdoc ▸ List.mem_filterMap.mpr ⟨_, hv, rfl⟩)

/-- The literals of values and of documents, the conditions, the filters, the values of an insertion
    and all statements differ between the dialects in a cast around the literal of each document,
    wherever it stands among the values, and in nothing else. Without a document they do not differ.
    A text that is that of a document is written as the generic dialect writes the document, without
    a cast. No dialect is asked for what else there is in a statement. -/
theorem dialects_differ_on_documents :
    (∀ v, DiffersOnDocuments [v] fun d => literal d v) ∧
    (∀ doc, DiffersOnDocuments [.json doc] fun d => json d doc) ∧
    (∀ c : Clause, DiffersOnDocuments c.values fun d => condition d c) ∧
    (∀ f : Filter, DiffersOnDocuments f.values fun d => filter d f) ∧
    (∀ vs, DiffersOnDocuments (vs.map Assignment.value) fun d => columnValues d vs) ∧
    (∀ st : Statement, DiffersOnDocuments st.values fun d => statement d st) ∧
    ∀ doc, literal .mysql (.text doc.render) = literal .generic (.json doc) := by
  refine ⟨fun v => ?_, fun doc => ?_, fun c => ?_, fun f => ?_, fun vs => ?_, fun st => ?_,
    fun _ => rfl⟩
  · exact (WrittenAround.value v).differsOnDocuments
  · exact (WrittenAround.value (.json doc)).differsOnDocuments
  · exact (writtenAround_condition c).differsOnDocuments
  · exact (writtenAround_filter f).differsOnDocuments
  · exact (writtenAround_columnValues vs).differsOnDocuments
  · exact (writtenAround_statement st).differsOnDocuments

/-- An update that sets a text and a document of the same text, where a column has the text. -/
def castUpdate : Statement :=
  .update (numberTable "docs" "doc" (by decide) (by decide))
    [⟨numberColumn "docs" "title" (by decide), .text "[1]"⟩,
      ⟨numberColumn "docs" "doc" (by decide), .json (.array [.int 1])⟩]
    (.single (.equals (numberColumn "docs" "doc" (by decide)) (.text "[1]")))

/-- A deletion where a column has the text. -/
def castDelete : Statement :=
  .delete (numberTable "docs" "doc" (by decide) (by decide))
    (.single (.equals (numberColumn "docs" "doc" (by decide)) (.text "[1]")))

theorem dialects_differ_on_documents_cast :
    (∃ pieces, pieces.filterMap Piece.value? =
        [.text "[1]", .json (.array [.int 1]), .text "[1]"] ∧
      "UPDATE `docs` SET `title`='[1]',`doc`='[1]' WHERE `doc` = '[1]';" =
        written (literal .generic) pieces ∧
      "UPDATE `docs` SET `title`='[1]',`doc`=CAST('[1]' AS JSON) WHERE `doc` = '[1]';" =
        written enclosed pieces) ∧
    (∀ doc, .json doc ∉ castDelete.values) ∧
      statement .mysql castDelete = statement .generic castDelete := by
  have hgeneric : statement .generic castUpdate =
    "UPDATE `docs` SET `title`='[1]',`doc`='[1]' WHERE `doc` = '[1]';" := by decide +kernel
  have hmysql : statement .mysql castUpdate =
    "UPDATE `docs` SET `title`='[1]',`doc`=CAST('[1]' AS JSON) WHERE `doc` = '[1]';" := by
      decide +kernel
  have hnone : ∀ doc, .json doc ∉ castDelete.values := fun doc h => nomatch List.mem_singleton.mp h
  obtain ⟨-, -, -, -, -, hstatement, -⟩ := dialects_differ_on_documents
  rw [← hgeneric, ← hmysql]
  exact ⟨(hstatement castUpdate).1, hnone, (hstatement castDelete).2 hnone⟩

end Sql

end SqlBatch
