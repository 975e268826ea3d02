import SqlBatch.Schema.Table
/- Which tables can be declared, and what is reported of a declaration that is refused.
     1. `Column.fit_or_misfit`: all the columns fit together, or those before a first one do that
        does not fit to them.
     2. `addColumns_of_fit`, `addColumns_of_misfit`: so that all of them are added, or the first
        misfit is reported.
     3. `declare_eq_error_iff`: a declaration is refused for the fault that is met first.
     4. `declares_fitting_columns`: every declaration without a fault makes the table of its
        columns, in which each of them is found. -/
namespace SqlBatch

namespace Column

/-- The columns can stand in one table. -/
structure Fit (columns : List Column) : Prop where
  distinct : (columns.map Column.name).Nodup
  oneKey : (columns.filter Column.isPrimaryKey).length ≤ 1

/-- Columns that fit form the table they are placed in, wherever they were before. -/
theorem formTable_placed_iff (table : String) (columns : List Column) :
    FormTable table (columns.map (·.placedIn table)) ↔ Fit columns := by
  have hnames : (columns.map (·.placedIn table)).map Column.name = columns.map Column.name := by
    simp
  have hkeys : ((columns.map (·.placedIn table)).filter Column.isPrimaryKey).length =
      (columns.filter Column.isPrimaryKey).length := by
    simp [List.filter_map, Function.comp_def]
  constructor
  · intro h
    exact ⟨hnames ▸ h.distinct, hkeys ▸ h.oneKey⟩
  · intro h
    exact ⟨hnames.symm ▸ h.distinct, hkeys.symm ▸ h.oneKey, by simp⟩

theorem fit_nil : Fit [] := ⟨List.nodup_nil, by simp⟩

theorem Fit.left {xs ys : List Column} (h : Fit (xs ++ ys)) : Fit xs := by
  refine ⟨?_, ?_⟩
  · have hnames := h.distinct
    rw [List.map_append] at hnames
    exact (List.nodup_append.mp hnames).1
  · have hkeys := h.oneKey
    rw [List.filter_append, List.length_append] at hkeys
    omega

/-- One more column fits if its name is free, and unless it is a second key. -/
theorem Fit.concat_iff {columns : List Column} (h : Fit columns) (c : Column) :
    Fit (columns ++ [c]) ↔
      (∀ d ∈ columns, d.name ≠ c.name) ∧
      (c.isPrimaryKey = true → ∀ d ∈ columns, d.isPrimaryKey = false) := by
  have hplaced := (formTable_placed_iff "" columns).mpr h
  have hconcat := formTable_concat_iff hplaced c
  rw [← formTable_placed_iff "", List.map_append]
  simpa using hconcat

/-- All the columns fit to those that do, or there is a first one that does not. -/
theorem fit_or_misfit (columns : List Column) :
    ∀ {before : List Column}, Fit before →
      Fit (before ++ columns) ∨
      ∃ more c rest, columns = more ++ c :: rest ∧ Fit (before ++ more) ∧
        ¬ Fit (before ++ more ++ [c]) := by
  induction columns with
  | nil =>
    intro before hb
    exact .inl (by simpa using hb)
  | cons c rest ih =>
    intro before hb
    by_cases hc : Fit (before ++ [c])
    · rcases ih hc with hall | ⟨more, c', rest', hrest, hmore, hmisfit⟩
      · exact .inl (by simpa using hall)
      · refine .inr ⟨c :: more, c', rest', by simp [hrest], by simpa using hmore, ?_⟩
        simpa using hmisfit
    · exact .inr ⟨[], c, rest, rfl, by simpa using hb, by simpa using hc⟩

end Column

namespace Table

variable {name table : String} {columns before rest : List Column} {c : Column}

/-- The columns with their places, each of them in the table. -/
def Draft.placed (table : String) (columns : List Column) : Draft :=
  .of (columns.map (·.placedIn table))

/-- What is reported of a column that does not fit to those before it. -/
inductive Misfit (table : String) (before : List Column) (c : Column) : ArgumentError → Prop where
  | duplicate : (∃ d ∈ before, d.name = c.name) →
      Misfit table before c (.duplicateColumn table c.name)
  | secondKey : (∀ d ∈ before, d.name ≠ c.name) → c.isPrimaryKey = true →
      (∃ d ∈ before, d.isPrimaryKey = true) →
      Misfit table before c (.secondPrimaryKey table)

/-- A column is added exactly if it fits, and its misfit is reported if it does not. -/
theorem addColumn_placed (table : String) (hb : Column.Fit before) (c : Column) :
    (Column.Fit (before ++ [c]) ∧
      addColumn table (.placed table before) c = .ok (.placed table (before ++ [c]))) ∨
    ∃ e, Misfit table before c e ∧ addColumn table (.placed table before) c = .error e := by
  rcases addColumn_cases table (before.map (·.placedIn table)) c with
    ⟨⟨_, hd', hname⟩, hc⟩ | ⟨hfree, hkey, ⟨_, hd', hother⟩, hc⟩ | ⟨hfree, hkey, hc⟩
  · obtain ⟨d, hd, rfl⟩ := List.mem_map.mp hd'
    exact .inr ⟨_, .duplicate ⟨d, hd, hname⟩, hc⟩
  · obtain ⟨d, hd, rfl⟩ := List.mem_map.mp hd'
    exact .inr ⟨_, .secondKey (by simpa using hfree) hkey ⟨d, hd, hother⟩, hc⟩
  · refine .inl ⟨(hb.concat_iff c).mpr ⟨by simpa using hfree, by simpa using hkey⟩, ?_⟩
    simpa [Draft.placed] using hc

theorem Misfit.not_fit {e : ArgumentError} (h : Misfit table before c e) (hb : Column.Fit before) :
    ¬ Column.Fit (before ++ [c]) := by
  rw [hb.concat_iff]
  rintro ⟨hfree, hkey⟩
  cases h with
  | duplicate htaken =>
    obtain ⟨d, hd, hname⟩ := htaken
    exact hfree d hd hname
  | secondKey _ hc hother =>
    obtain ⟨d, hd, hdkey⟩ := hother
    exact Bool.false_ne_true ((hkey hc d hd).symm.trans hdkey)

/-- One of two misfits counts: a name that is taken before a second key. -/
theorem Misfit.unique {e e' : ArgumentError} (h : Misfit table before c e)
    (h' : Misfit table before c e') : e = e' := by
  cases h with
  | duplicate htaken =>
    cases h' with
    | duplicate => rfl
    | secondKey hfree =>
      obtain ⟨d, hd, hname⟩ := htaken
      exact absurd hname (hfree d hd)
  | secondKey hfree =>
    cases h' with
    | duplicate htaken =>
      obtain ⟨d, hd, hname⟩ := htaken
      exact absurd hname (hfree d hd)
    | secondKey => rfl

/-- Columns that fit to those before them are all added. -/
theorem addColumns_of_fit (columns : List Column) :
    ∀ {before rest : List Column}, Column.Fit (before ++ columns) →
      addColumns table (.placed table before) (columns ++ rest) =
        addColumns table (.placed table (before ++ columns)) rest := by
  induction columns with
  | nil =>
    intro before rest _
    simp
  | cons c columns ih =>
    intro before rest h
    have hsplit : before ++ c :: columns = (before ++ [c]) ++ columns := by simp
    rw [hsplit] at h
    rcases addColumn_placed table h.left.left c with ⟨-, hc⟩ | ⟨e, hmisfit, -⟩
    · rw [List.cons_append, addColumns, hc, hsplit]
      exact ih h
    · exact absurd h.left (hmisfit.not_fit h.left.left)

/-- The first column that does not fit is reported. -/
theorem addColumns_of_misfit {e : ArgumentError} (hb : Column.Fit before)
    (h : Misfit table before c e) :
    addColumns table ⟨[], []⟩ (before ++ c :: rest) = .error e := by
  have hadded : addColumns table ⟨[], []⟩ (before ++ c :: rest) =
      addColumns table (.placed table before) (c :: rest) :=
    @addColumns_of_fit table before [] (c :: rest) hb
  rcases addColumn_placed table hb c with ⟨hfit, -⟩ | ⟨e', hmisfit, hc⟩
  · exact absurd hfit (h.not_fit hb)
  · rw [hadded, addColumns, hc, h.unique hmisfit]

theorem addColumns_of_all_fit (h : Column.Fit columns) :
    addColumns table ⟨[], []⟩ columns = .ok (.placed table columns) := by
  have hadded := @addColumns_of_fit table columns [] [] h
  rwa [List.append_nil] at hadded

/-- The fault that is met first: that there is no name, then the first column that does not fit to
    those before it, and last that there is no column. -/
inductive Fault (name : String) : List Column → ArgumentError → Prop where
  | unnamed {columns : List Column} : name = "" → Fault name columns .emptyTableName
  | misfit {before rest : List Column} {c : Column} {e : ArgumentError} :
      name ≠ "" → Column.Fit before → Misfit name before c e → Fault name (before ++ c :: rest) e
  | noColumns : name ≠ "" → Fault name [] (.noColumns name)

theorem declare_eq_ok_of_fit (hn : name ≠ "") (hc : columns ≠ []) (h : Column.Fit columns) :
    ∃ t, declare name columns = .ok t := by
  have hadded : addColumns name ⟨[], []⟩ columns = .ok (.placed name columns) :=
    addColumns_of_all_fit h
  unfold declare
  rw [dif_neg hn]
  split
  · next he =>
    rw [hadded] at he
    cases he
  · next draft hd =>
    rw [hadded] at hd
    cases hd
    have hne : (Draft.placed name columns).columns ≠ [] := by
      simpa [Draft.placed, Draft.of] using hc
    exact ⟨_, dif_neg hne⟩

theorem Fault.declare_eq {e : ArgumentError} (h : Fault name columns e) :
    declare name columns = .error e := by
  cases h with
  | unnamed hn => rw [declare, dif_pos hn]
  | noColumns hn =>
    rw [declare, dif_neg hn]
    rfl
  | @misfit before rest c _ hn hb hmisfit =>
    have hrefused : addColumns name ⟨[], []⟩ (before ++ c :: rest) = .error e :=
      addColumns_of_misfit hb hmisfit
    unfold declare
    rw [dif_neg hn]
    split
    · next he =>
      rw [hrefused] at he
      cases he
      rfl
    · next hd =>
      rw [hrefused] at hd
      cases hd

/-- There is a fault exactly if the table cannot be declared. -/
theorem fault_or_fit (name : String) (columns : List Column) :
    (∃ e, Fault name columns e) ∨ (name ≠ "" ∧ columns ≠ [] ∧ Column.Fit columns) := by
  by_cases hn : name = ""
  · exact .inl ⟨_, .unnamed hn⟩
  · rcases Column.fit_or_misfit columns Column.fit_nil with
      hall | ⟨before, c, rest, rfl, hb, hmisfit⟩
    · cases columns with
      | nil => exact .inl ⟨_, .noColumns hn⟩
      | cons c rest => exact .inr ⟨hn, List.cons_ne_nil c rest, hall⟩
    · rw [List.nil_append] at hb hmisfit
      rcases addColumn_placed name hb c with ⟨hfit, -⟩ | ⟨e, h, -⟩
      · exact absurd hfit hmisfit
      · exact .inl ⟨e, .misfit hn hb h⟩

/-- A declaration is refused for the fault that is met first. -/
theorem declare_eq_error_iff {e : ArgumentError} :
    declare name columns = .error e ↔ Fault name columns e := by
  refine ⟨fun h => ?_, Fault.declare_eq⟩
  rcases fault_or_fit name columns with ⟨e', he⟩ | ⟨hn, hc, hfit⟩
  · have hsame := he.declare_eq
    rw [h] at hsame
    cases hsame
    exact he
  · obtain ⟨t, ht⟩ := declare_eq_ok_of_fit hn hc hfit
    rw [h] at ht
    cases ht

theorem declare_isOk_iff :
    (∃ t, declare name columns = .ok t) ↔ name ≠ "" ∧ columns ≠ [] ∧ Column.Fit columns := by
  constructor
  · rintro ⟨t, ht⟩
    rcases fault_or_fit name columns with ⟨e, he⟩ | h
    · rw [he.declare_eq] at ht
      cases ht
    · exact h
  · rintro ⟨hn, hc, hfit⟩
    exact declare_eq_ok_of_fit hn hc hfit

/-- A name is looked up as if the columns were searched one after another. -/
theorem column?_eq_find? (t : Table) (n : String) :
    t.column? n = t.columns.find? fun c => c.name = n := by
  cases hfind : t.columns.find? fun c => c.name = n with
  | some c =>
    have hname : c.name = n := by simpa using List.find?_some hfind
    exact (t.column?_eq_some_iff n c).mpr ⟨List.mem_of_find?_eq_some hfind, hname⟩
  | none =>
    cases hc : t.column? n with
    | none => rfl
    | some c =>
      obtain ⟨hmem, hname⟩ := (t.column?_eq_some_iff n c).mp hc
      simpa [hname] using List.find?_eq_none.mp hfind c hmem

/-- The table is that of the columns as they were given, each of which it finds again. -/
structure Holds (t : Table) (name : String) (columns : List Column) : Prop where
  named : t.name = name
  /-- They stand in their order. Only the table that they belong to may be another. -/
  placed : t.columns = columns.map fun c => { c with table := name }
  /-- The place of a name is among the columns, and is the one of its column. -/
  place : ∀ n i, t.index.lookup n = some i ↔ ∃ h : i < t.columns.length, t.columns[i].name = n
  found : ∀ n c, t.column? n = some c ↔ c ∈ t.columns ∧ c.name = n
  searched : ∀ n, t.column? n = t.columns.find? fun c => c.name = n
  key : ∀ c, t.primaryKey? = some c ↔ c ∈ t.columns ∧ c.isPrimaryKey = true
  unique : t.uniqueColumns = (columns.filter Column.isUnique).map (·.placedIn name)

/-- A table is declared exactly with a name and with columns that fit, of which there is one at
    least. It holds the columns as they were given. Else the fault that is met first is reported. -/
theorem declares_fitting_columns (name : String) (columns : List Column) :
    ((∃ t, declare name columns = .ok t) ↔
      name ≠ "" ∧ columns ≠ [] ∧ (columns.map Column.name).Nodup ∧
        (columns.filter Column.isPrimaryKey).length ≤ 1) ∧
    (∀ t, declare name columns = .ok t → t.Holds name columns) ∧
    ∀ e, declare name columns = .error e ↔ Fault name columns e := by
  refine ⟨?_, fun t ht => ?_, fun e => declare_eq_error_iff⟩
  · rw [declare_isOk_iff]
    constructor
    · rintro ⟨hn, hc, hfit⟩
      exact ⟨hn, hc, hfit.distinct, hfit.oneKey⟩
    · rintro ⟨hn, hc, hdistinct, hkey⟩
      exact ⟨hn, hc, hdistinct, hkey⟩
  · obtain ⟨hname, hcolumns⟩ := declare_columns ht
    exact {
      named := hname
      placed := hcolumns
      place := t.lookup_index_eq_some_iff
      found := t.column?_eq_some_iff
      searched := t.column?_eq_find?
      key := t.primaryKey?_eq_some_iff
      unique := by
        rw [uniqueColumns, hcolumns, List.filter_map]
        rfl }

end Table

end SqlBatch
