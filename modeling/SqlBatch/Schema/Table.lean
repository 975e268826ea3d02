import SqlBatch.Schema.Column
/- Tables: a name and columns in order, each of which is found at its place under its
   name. No two columns share a name, at most one is the primary key, and every one
   of them belongs to the table.
     1. `addColumns_eq_ok`: columns added one by one stand in their order, each placed
        in the table and at its place under its name.
     2. `declare_columns`: so a declared table has the given columns.
     3. `lookup_index_eq_some_iff`: a name leads to the place of the column of it.
     4. `column?_eq_some_iff`: looking a name up finds the one column of it.
     5. `primaryKey?_eq_some_iff`: the key is the one column that is declared as one.
   Correspondence:
     `Table::new`, its loop          ↔ `Table.declare`, `addColumns`
     `column`, `try_column`          ↔ `Table.column?`, `Table.column`
     `primary_key`, `unique_columns` ↔ `Table.primaryKey?`, `Table.uniqueColumns` -/
namespace SqlBatch

namespace Column

/-- What holds of the columns of a table of the given name. -/
structure FormTable (table : String) (columns : List Column) : Prop where
  distinct : (columns.map Column.name).Nodup
  oneKey : (columns.filter Column.isPrimaryKey).length ≤ 1
  placed : ∀ c ∈ columns, c.table = table

/-- No columns form a table of any name, but for their number. -/
theorem formTable_nil (table : String) : FormTable table [] :=
  ⟨by simp, by simp, by simp⟩

/-- One more column fits in if its name is free, and unless it is a second key. -/
theorem formTable_concat_iff {table : String} {placed : List Column}
    (hp : FormTable table placed) (c : Column) :
    FormTable table (placed ++ [c.placedIn table]) ↔
      (∀ d ∈ placed, d.name ≠ c.name) ∧
      (c.isPrimaryKey = true → ∀ d ∈ placed, d.isPrimaryKey = false) := by
  have hnames : ((placed ++ [c.placedIn table]).map Column.name).Nodup ↔
      ∀ d ∈ placed, d.name ≠ c.name := by
    simp only [List.map_append, List.map_cons, List.map_nil, placedIn_name, List.nodup_append,
      List.mem_map, List.mem_singleton]
    constructor
    · rintro ⟨-, -, h⟩ d hd
      exact h d.name ⟨d, hd, rfl⟩ c.name rfl
    · intro h
      refine ⟨hp.distinct, by simp, ?_⟩
      rintro _ ⟨d, hd, rfl⟩ _ rfl
      exact h d hd
  have hkeys : ((placed ++ [c.placedIn table]).filter Column.isPrimaryKey).length ≤ 1 ↔
      (c.isPrimaryKey = true → ∀ d ∈ placed, d.isPrimaryKey = false) := by
    rw [List.filter_append, List.length_append]
    cases hc : c.isPrimaryKey with
    | false => simp [hc, hp.oneKey]
    | true => simp [hc, List.filter_eq_nil_iff]
  constructor
  · exact fun h => ⟨hnames.mp h.distinct, hkeys.mp h.oneKey⟩
  · rintro ⟨hname, hkey⟩
    refine ⟨hnames.mpr hname, hkeys.mpr hkey, fun d hd => ?_⟩
    rcases List.mem_append.mp hd with hd | hd
    · exact hp.placed d hd
    · rw [List.mem_singleton.mp hd, placedIn_table]

/-- The places of the columns under their names, the last one first. -/
def places (columns : List Column) : List (String × Nat) :=
  (columns.map Column.name).zipIdx.reverse

theorem places_concat (columns : List Column) (c : Column) :
    places (columns ++ [c]) = (c.name, columns.length) :: places columns := by
  simp [places, List.zipIdx_append]

theorem mem_places_iff {columns : List Column} {name : String} {i : Nat} :
    (name, i) ∈ places columns ↔ ∃ h : i < columns.length, columns[i].name = name := by
  rw [places, List.mem_reverse, List.mem_zipIdx_iff_getElem?, List.getElem?_eq_some_iff]
  simp

/-- A name without a place is the name of no column. -/
theorem lookup_places_isSome_iff (columns : List Column) (name : String) :
    ((places columns).lookup name).isSome = true ↔ ∃ d ∈ columns, d.name = name := by
  constructor
  · intro h
    obtain ⟨i, hi⟩ := Option.isSome_iff_exists.mp h
    obtain ⟨before, after, hsplit, -⟩ := List.lookup_eq_some_iff.mp hi
    have hmem : (name, i) ∈ places columns := by simp [hsplit]
    obtain ⟨hlt, hname⟩ := mem_places_iff.mp hmem
    exact ⟨columns[i], List.getElem_mem hlt, hname⟩
  · rintro ⟨d, hd, rfl⟩
    obtain ⟨i, hi, rfl⟩ := List.getElem_of_mem hd
    cases h : (places columns).lookup columns[i].name with
    | some j => rfl
    | none => simpa using List.lookup_eq_none_iff.mp h _ (mem_places_iff.mpr ⟨hi, rfl⟩)

/-- A name leads to a place exactly if the column there has it, where no two columns share one. -/
theorem lookup_places_eq_some_iff {columns : List Column}
    (hd : (columns.map Column.name).Nodup) (name : String) (i : Nat) :
    (places columns).lookup name = some i ↔ ∃ h : i < columns.length, columns[i].name = name := by
  have hfound : ∀ {j}, (places columns).lookup name = some j →
      ∃ h : j < columns.length, columns[j].name = name := by
    intro j hj
    obtain ⟨before, after, hsplit, -⟩ := List.lookup_eq_some_iff.mp hj
    exact mem_places_iff.mp (by simp [hsplit])
  refine ⟨hfound, ?_⟩
  rintro ⟨hi, hname⟩
  have hsome : ((places columns).lookup name).isSome = true :=
    (lookup_places_isSome_iff columns name).mpr ⟨columns[i], List.getElem_mem hi, hname⟩
  obtain ⟨j, hj⟩ := Option.isSome_iff_exists.mp hsome
  obtain ⟨hlt, hother⟩ := hfound hj
  have hsame : (columns.map Column.name)[j]? = (columns.map Column.name)[i]? := by
    simp [hlt, hi, hother, hname]
  rw [hj, (List.getElem?_inj (by simpa using hlt) hd).mp hsame]

end Column

/-- A table. -/
structure Table where
  name : String
  columns : List Column
  /-- The place of each column under its name. -/
  index : List (String × Nat) := Column.places columns
  named : name ≠ ""
  nonempty : columns ≠ []
  formed : Column.FormTable name columns
  indexed : index = Column.places columns := by rfl

namespace Table

/-- Tables are equal exactly when their names and columns are. -/
theorem eq_iff (s t : Table) : s = t ↔ s.name = t.name ∧ s.columns = t.columns := by
  constructor
  · rintro rfl
    exact ⟨rfl, rfl⟩
  · obtain ⟨name, columns, index, _, _, _, rfl⟩ := s
    obtain ⟨_, _, _, _, _, _, rfl⟩ := t
    rintro ⟨rfl, rfl⟩
    rfl

instance : DecidableEq Table := fun s t => decidable_of_iff _ (eq_iff s t).symm

/-- The columns of a table so far, and the place of each under its name. -/
structure Draft where
  columns : List Column
  index : List (String × Nat)

/-- The columns with their places. -/
def Draft.of (columns : List Column) : Draft := ⟨columns, Column.places columns⟩

/-- The columns once one more is added, unless its name is taken or it is a second key. -/
def addColumn (table : String) (draft : Draft) (c : Column) : Except ArgumentError Draft :=
  if (draft.index.lookup c.name).isSome then .error (.duplicateColumn table c.name)
  else if c.isPrimaryKey && (draft.columns.find? Column.isPrimaryKey).isSome then
    .error (.secondPrimaryKey table)
  else .ok ⟨draft.columns ++ [c.placedIn table], (c.name, draft.columns.length) :: draft.index⟩

/-- The columns once all the others are added in their order. -/
def addColumns (table : String) : Draft → List Column → Except ArgumentError Draft
  | draft, [] => .ok draft
  | draft, c :: rest =>
    match addColumn table draft c with
    | .ok draft => addColumns table draft rest
    | .error e => .error e

/-- A column is refused for its name, or else as a second key, or it comes last. -/
theorem addColumn_cases (table : String) (placed : List Column) (c : Column) :
    ((∃ d ∈ placed, d.name = c.name) ∧
      addColumn table (.of placed) c = .error (.duplicateColumn table c.name)) ∨
    ((∀ d ∈ placed, d.name ≠ c.name) ∧ c.isPrimaryKey = true ∧
      (∃ d ∈ placed, d.isPrimaryKey = true) ∧
      addColumn table (.of placed) c = .error (.secondPrimaryKey table)) ∨
    ((∀ d ∈ placed, d.name ≠ c.name) ∧
      (c.isPrimaryKey = true → ∀ d ∈ placed, d.isPrimaryKey = false) ∧
      addColumn table (.of placed) c = .ok (.of (placed ++ [c.placedIn table]))) := by
  have htaken := Column.lookup_places_isSome_iff placed c.name
  unfold addColumn Draft.of
  split
  · next h => exact .inl ⟨htaken.mp h, rfl⟩
  · next h =>
    have hfree : ∀ d ∈ placed, d.name ≠ c.name := fun d hd hn => h (htaken.mpr ⟨d, hd, hn⟩)
    split
    · next hk =>
      simp only [Bool.and_eq_true, List.find?_isSome] at hk
      exact .inr (.inl ⟨hfree, hk.1, hk.2, rfl⟩)
    · next hk =>
      refine .inr (.inr ⟨hfree, ?_, ?_⟩)
      · intro hc
        simpa [hc] using hk
      · rw [Column.places_concat, Column.placedIn_name]

/-- Columns that are added to those of a table stand behind them, and form the table with them. -/
theorem addColumns_eq_ok {table : String} (columns : List Column) :
    ∀ {placed : List Column} {result : Draft}, Column.FormTable table placed →
      addColumns table (.of placed) columns = .ok result →
      result = .of (placed ++ columns.map (·.placedIn table)) ∧
        Column.FormTable table (placed ++ columns.map (·.placedIn table)) := by
  induction columns with
  | nil =>
    intro placed result hp h
    cases h
    simpa using hp
  | cons c rest ih =>
    intro placed result hp h
    simp only [addColumns] at h
    rcases addColumn_cases table placed c with
      ⟨-, hc⟩ | ⟨-, -, -, hc⟩ | ⟨hname, hkey, hc⟩
    · rw [hc] at h
      cases h
    · rw [hc] at h
      cases h
    · rw [hc] at h
      have hmore := (Column.formTable_concat_iff hp c).mpr ⟨hname, hkey⟩
      simpa using ih hmore h

/-- The table of the given columns. Of two faults the one met first is reported: the name, then
    the columns one by one, and their absence last. -/
def declare (name : String) (columns : List Column) : Except ArgumentError Table :=
  if named : name = "" then .error .emptyTableName
  else
    match h : addColumns name ⟨[], []⟩ columns with
    | .error e => .error e
    | .ok draft =>
      if nonempty : draft.columns = [] then .error (.noColumns name)
      else
        have hdraft := addColumns_eq_ok columns (Column.formTable_nil name) h
        .ok { name, columns := draft.columns, index := draft.index, named, nonempty
              formed := by rw [hdraft.1]; exact hdraft.2
              indexed := by rw [hdraft.1]; rfl }

/-- A name leads to a place exactly if the column there has it. -/
theorem lookup_index_eq_some_iff (t : Table) (name : String) (i : Nat) :
    t.index.lookup name = some i ↔ ∃ h : i < t.columns.length, t.columns[i].name = name := by
  rw [t.indexed]
  exact Column.lookup_places_eq_some_iff t.formed.distinct name i

/-- The column of a name. -/
def column? (t : Table) (name : String) : Option Column :=
  match h : t.index.lookup name with
  | some i =>
    have hplace : i < t.columns.length := ((t.lookup_index_eq_some_iff name i).mp h).1
    some t.columns[i]
  | none => none

/-- The column of a name, or the fault that there is none. -/
def column (t : Table) (name : String) : Except ArgumentError Column :=
  match t.column? name with
  | some c => .ok c
  | none => .error (.unknownColumn t.name name)

/-- The primary key. -/
def primaryKey? (t : Table) : Option Column :=
  t.columns.find? Column.isPrimaryKey

/-- The unique columns, in order. -/
def uniqueColumns (t : Table) : List Column :=
  t.columns.filter Column.isUnique

/-- A declared table holds the columns in their order, placed in it. -/
theorem declare_columns {name : String} {columns : List Column} {t : Table}
    (h : declare name columns = .ok t) :
    t.name = name ∧ t.columns = columns.map (·.placedIn name) := by
  unfold declare at h
  split at h
  · cases h
  · split at h
    · cases h
    · next hp =>
      split at h
      · cases h
      · cases h
        have hdraft := (addColumns_eq_ok columns (Column.formTable_nil name) hp).1
        exact ⟨rfl, congrArg Draft.columns hdraft⟩

/-- A name leads to a column exactly when the table has that column under it. -/
theorem column?_eq_some_iff (t : Table) (name : String) (c : Column) :
    t.column? name = some c ↔ c ∈ t.columns ∧ c.name = name := by
  have hplace := t.lookup_index_eq_some_iff name
  unfold column?
  split
  · next i h =>
    obtain ⟨hi, hname⟩ := (hplace i).mp h
    rw [Option.some.injEq]
    constructor
    · rintro rfl
      exact ⟨List.getElem_mem hi, hname⟩
    · rintro ⟨hc, hcname⟩
      obtain ⟨j, hj, rfl⟩ := List.getElem_of_mem hc
      have hsame : some i = some j := h.symm.trans ((hplace j).mpr ⟨hj, hcname⟩)
      cases hsame
      rfl
  · next h =>
    simp only [reduceCtorEq, false_iff, not_and]
    intro hc hcname
    obtain ⟨j, hj, rfl⟩ := List.getElem_of_mem hc
    have hsome := (hplace j).mpr ⟨hj, hcname⟩
    rw [h] at hsome
    cases hsome

/-- A column of a table is its primary key exactly if it is declared as one. -/
theorem primaryKey?_eq_some_iff (t : Table) (c : Column) :
    t.primaryKey? = some c ↔ c ∈ t.columns ∧ c.isPrimaryKey = true := by
  unfold primaryKey?
  constructor
  · intro h
    exact ⟨List.mem_of_find?_eq_some h, List.find?_some h⟩
  · rintro ⟨hc, hkey⟩
    -- There is no second one that the search could meet first.
    have hone := t.formed.oneKey
    have hmem : c ∈ t.columns.filter Column.isPrimaryKey := List.mem_filter.mpr ⟨hc, hkey⟩
    rw [← List.head?_filter]
    match hkeys : t.columns.filter Column.isPrimaryKey with
    | [] => simp [hkeys] at hmem
    | [k] => simpa [hkeys, eq_comm] using hmem
    | k :: l :: rest => simp [hkeys] at hone

end Table

end SqlBatch
