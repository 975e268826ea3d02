import SqlBatch.Sql.Statement
/- The lists that the texts of statements are made of: columns, values, conditions, joined tables,
   locks, and the blocks of a union. An empty one leaves a text that no server accepts.
     1. `Statement.lists_within`: the text of each list is a part of the text of its statement.
     2. `Filter.lists_filled`, `Join.lists_filled`: filters and joins have no empty lists, since
        none can be built.
     3. `Statement.Filled.items_eq_nil_iff`: in a statement that calls accept only a list of
        selected columns can be empty, and it is when it was given as an empty one. -/
namespace SqlBatch

/-! Parts of texts. -/

/-- The one text stands in the other. -/
def Text.Within (part text : String) : Prop := ∃ before behind, text = before ++ part ++ behind

namespace Text

theorem Within.self (text : String) : Within text text :=
  ⟨"", "", by rw [String.empty_append, String.append_empty]⟩

theorem Within.left {part text : String} (h : Within part text) (rest : String) :
    Within part (text ++ rest) := by
  obtain ⟨before, behind, rfl⟩ := h
  exact ⟨before, behind ++ rest, by simp only [String.append_assoc]⟩

theorem Within.right {part text : String} (h : Within part text) (front : String) :
    Within part (front ++ text) := by
  obtain ⟨before, behind, rfl⟩ := h
  exact ⟨front ++ before, behind, by simp only [String.append_assoc]⟩

/-- What stands in an item stands in the whole list. -/
theorem Within.separated {part item : String} {items : List String} (h : Within part item)
    (hitem : item ∈ items) (separator : String) : Within part (separated separator items) := by
  induction items with
  | nil => cases hitem
  | cons first rest ih =>
    cases rest with
    | nil =>
      cases List.mem_singleton.mp hitem
      exact h
    | cons second rest =>
      rw [separated_cons_cons]
      rcases List.mem_cons.mp hitem with rfl | hrest
      · exact (h.left _).left _
      · exact (ih hrest).right _

end Text

/-! Lists. -/

/-- What the items of a list are. -/
inductive ListKind where
  | selected
  | members
  | assigned
  | conditions
  | joined
  | blocks
  | locked
  | defined
  deriving DecidableEq

/-- A list in a statement: texts with a separator in between. -/
structure ItemList where
  kind : ListKind
  separator : String
  items : List String

def ItemList.text (l : ItemList) : String := Text.separated l.separator l.items

def Clause.lists (d : Dialect) : Clause → List ItemList
  | .member _ vs _ => [⟨.members, ", ", vs.map (Sql.literal d)⟩]
  | .equals .. | .compare .. | .columns .. => []

def Filter.lists (d : Dialect) (f : Filter) : List ItemList :=
  ⟨.conditions, " AND ", f.clauses.map (Sql.condition d)⟩ :: f.clauses.flatMap (Clause.lists d)

def Join.lists (owner : Table) (j : Join) : List ItemList :=
  [⟨.joined, " ", j.clauses.map (Sql.joinClause owner)⟩]

def Columns.lists (qualified : Bool) : Columns → List ItemList
  | .list cs => [⟨.selected, ",", cs.map (Sql.columnName qualified)⟩]
  | .all | .expression _ => []

/-- The lists of an insertion or a replacement: the columns, and the values in the same places. -/
def insertionLists (d : Dialect) (vs : List Assignment) : List ItemList :=
  [⟨.assigned, ",", vs.map fun a => Sql.columnName false a.column⟩,
    ⟨.assigned, ",", vs.map fun a => Sql.literal d a.value⟩]

/-- The lists in one block of a union. -/
def UnionSelect.blockLists (d : Dialect) (q : UnionSelect) (f : Filter) : List ItemList :=
  q.columns.lists q.join.isSome ++ q.join.elim [] (Join.lists q.table) ++ f.lists d

/-- All lists in the text of a statement. -/
def Statement.lists (d : Dialect) : Statement → List ItemList
  | .select q =>
    q.columns.lists q.join.isSome ++ q.join.elim [] (Join.lists q.table) ++
      q.filter.elim [] (Filter.lists d)
  | .unionSelect q =>
    ⟨.blocks, " UNION ALL ", q.filters.map (Sql.unionBlock d q)⟩ ::
      q.filters.flatMap (q.blockLists d)
  | .insert _ vs | .replace _ vs => insertionLists d vs
  | .update _ vs f =>
    ⟨.assigned, ",",
        vs.map fun a => Sql.columnName false a.column ++ "=" ++ Sql.literal d a.value⟩ ::
      f.lists d
  | .delete _ f => f.lists d
  | .lockTables locks =>
    [⟨.locked, ", ", locks.map fun l => Sql.tableName l.1 ++ " " ++ l.2.keyword⟩]
  | .createTable t => [⟨.defined, ", ", t.columns.map Sql.columnDefinition⟩]
  | .truncate _ | .set .. | .unlockTables | .createDatabase _ | .use _ => []

/-! The lists stand in the texts. -/

section Within

open Text

variable {d : Dialect} {l : ItemList}

theorem Clause.lists_within (c : Clause) (h : l ∈ c.lists d) :
    Within l.text (Sql.condition d c) := by
  cases c with
  | member c vs _ =>
    cases List.mem_singleton.mp h
    exact ((Within.self _).right _).left _
  | _ => cases h

theorem Filter.lists_within (f : Filter) (h : l ∈ f.lists d) : Within l.text (Sql.filter d f) := by
  refine Within.right ?_ "WHERE "
  rcases List.mem_cons.mp h with rfl | h
  · exact .self _
  · obtain ⟨c, hc, hl⟩ := List.mem_flatMap.mp h
    exact (c.lists_within hl).separated (List.mem_map_of_mem hc) " AND "

theorem Join.lists_within {owner : Table} (j : Join) (h : l ∈ j.lists owner) :
    Within l.text (Sql.join owner j) := by
  cases List.mem_singleton.mp h
  exact .self _

theorem Columns.lists_within {qualified : Bool} (cs : Columns) (h : l ∈ cs.lists qualified) :
    Within l.text (Sql.columns qualified cs) := by
  cases cs with
  | list cs =>
    cases List.mem_singleton.mp h
    exact .self _
  | _ => cases h

/-- A part that may be missing has the lists of what is there. -/
theorem within_part {α : Type} {lists : α → List ItemList} {text : α → String} {a : Option α}
    (hpart : ∀ a, l ∈ lists a → Within l.text (text a)) (h : l ∈ a.elim [] lists) :
    Within l.text (Sql.part text a) := by
  cases a with
  | none => cases h
  | some a => exact (hpart a h).right " "

theorem within_columnValues {vs : List Assignment} (h : l ∈ insertionLists d vs) :
    Within l.text (Sql.columnValues d vs) := by
  unfold Sql.columnValues
  rcases List.mem_cons.mp h with rfl | h
  · iterate 3 apply Within.left
    exact (Within.self _).right _
  · cases List.mem_singleton.mp h
    exact ((Within.self _).right _).left _

theorem UnionSelect.blockLists_within (q : UnionSelect) (f : Filter) (h : l ∈ q.blockLists d f) :
    Within l.text (Sql.unionBlock d q f) := by
  unfold UnionSelect.blockLists at h
  unfold Sql.unionBlock
  simp only [List.mem_append] at h
  rcases h with (hcolumns | hjoin) | hfilter
  · have htext : Within l.text (Sql.unionColumns q) := by
      unfold Sql.unionColumns
      cases hcs : q.columns with
      | all =>
        rw [hcs] at hcolumns
        cases hcolumns
      | list cs => exact Columns.lists_within _ (hcs ▸ hcolumns)
      | expression text => exact Columns.lists_within _ (hcs ▸ hcolumns)
    iterate 5 apply Within.left
    exact htext.right _
  · iterate 2 apply Within.left
    exact (within_part Join.lists_within hjoin).right _
  · exact (f.lists_within hfilter).right _

theorem Statement.lists_within (st : Statement) (h : l ∈ st.lists d) :
    Within l.text (Sql.statement d st) := by
  cases st with
  | select q =>
    simp only [Statement.lists, List.mem_append] at h
    refine Within.left ?_ ";"
    unfold Sql.selectBody
    rcases h with (hcolumns | hjoin) | hfilter
    · iterate 6 apply Within.left
      exact (q.columns.lists_within hcolumns).right _
    · iterate 3 apply Within.left
      exact (within_part Join.lists_within hjoin).right _
    · iterate 2 apply Within.left
      exact (within_part Filter.lists_within hfilter).right _
  | unionSelect q =>
    refine Within.left ?_ ";"
    rcases List.mem_cons.mp h with rfl | h
    · exact .self _
    · obtain ⟨f, hf, hl⟩ := List.mem_flatMap.mp h
      exact (q.blockLists_within f hl).separated (List.mem_map_of_mem hf) " UNION ALL "
  | insert t vs => exact ((within_columnValues h).right _).left _
  | replace t vs => exact ((within_columnValues h).right _).left _
  | update t vs f =>
    rcases List.mem_cons.mp h with rfl | h
    · iterate 3 apply Within.left
      exact (Within.self _).right _
    · exact ((f.lists_within h).right _).left _
  | delete t f => exact ((f.lists_within h).right _).left _
  | lockTables locks =>
    cases List.mem_singleton.mp h
    exact ((Within.self _).right _).left _
  | createTable t =>
    cases List.mem_singleton.mp h
    refine (Within.right ?_ _).left _
    exact ((Within.self _).left _).left _
  | _ => cases h

end Within

/-! Lists that have items. -/

/-- There is something to assign, to lock or to select by, where the statement does that. -/
def Statement.Filled : Statement → Prop
  | .insert _ vs | .replace _ vs | .update _ vs _ => vs ≠ []
  | .lockTables locks => locks ≠ []
  | .unionSelect q => q.filters ≠ []
  | _ => True

/-- The columns of an empty list are selected. -/
def Statement.SelectsNothing : Statement → Prop
  | .select q => q.columns = .list []
  | .unionSelect q => q.columns = .list []
  | _ => False

section Filled

variable {d : Dialect} {l : ItemList}

/-- The list has items, and they are not the columns that are selected. -/
def ItemList.Filled (l : ItemList) : Prop := l.items ≠ [] ∧ l.kind ≠ .selected

theorem ItemList.filled_map {α : Type} {kind : ListKind} {separator : String} {as : List α}
    (text : α → String) (has : as ≠ []) (hkind : kind ≠ .selected) :
    ItemList.Filled ⟨kind, separator, as.map text⟩ :=
  ⟨fun hnil => has (List.map_eq_nil_iff.mp hnil), hkind⟩

theorem Filter.lists_filled (f : Filter) (h : l ∈ f.lists d) : l.Filled := by
  rcases List.mem_cons.mp h with rfl | h
  · exact ItemList.filled_map _ f.nonempty nofun
  · obtain ⟨c, -, hl⟩ := List.mem_flatMap.mp h
    cases c with
    | member c vs hvs =>
      cases List.mem_singleton.mp hl
      exact ItemList.filled_map _ hvs nofun
    | _ => cases hl

theorem Join.lists_filled {owner : Table} (j : Join) (h : l ∈ j.lists owner) : l.Filled := by
  cases List.mem_singleton.mp h
  exact ItemList.filled_map _ j.nonempty nofun

/-- A part that may be missing has no empty list if it has none when it is there. -/
theorem filled_part {α : Type} {lists : α → List ItemList} {a : Option α}
    (hpart : ∀ a, l ∈ lists a → l.Filled) (h : l ∈ a.elim [] lists) : l.Filled := by
  cases a with
  | none => cases h
  | some a => exact hpart a h

theorem insertionLists_filled {vs : List Assignment} (hvs : vs ≠ []) (h : l ∈ insertionLists d vs) :
    l.Filled := by
  rcases List.mem_cons.mp h with rfl | h
  · exact ItemList.filled_map _ hvs nofun
  · cases List.mem_singleton.mp h
    exact ItemList.filled_map _ hvs nofun

/-- The list of selected columns is empty exactly when it was given as an empty one. -/
theorem Columns.items_eq_nil_iff {qualified : Bool} {cs : Columns} (h : l ∈ cs.lists qualified) :
    l.kind = .selected ∧ (l.items = [] ↔ cs = .list []) := by
  cases cs with
  | list cs =>
    cases List.mem_singleton.mp h
    refine ⟨rfl, List.map_eq_nil_iff.trans ⟨fun hnil => hnil ▸ rfl, fun hlist => ?_⟩⟩
    cases hlist
    rfl
  | _ => cases h

theorem Statement.Filled.items_eq_nil_iff {st : Statement} (hst : st.Filled)
    (h : l ∈ st.lists d) : l.items = [] ↔ l.kind = .selected ∧ st.SelectsNothing := by
  have hfilled (hl : l.Filled) : l.items = [] ↔ l.kind = .selected ∧ st.SelectsNothing :=
    iff_of_false hl.1 fun hsel => hl.2 hsel.1
  have hcolumns {qualified : Bool} {cs : Columns} (hl : l ∈ cs.lists qualified)
      (hcs : st.SelectsNothing ↔ cs = .list []) :
      l.items = [] ↔ l.kind = .selected ∧ st.SelectsNothing := by
    obtain ⟨hkind, hnil⟩ := Columns.items_eq_nil_iff hl
    rw [hnil, hcs, and_iff_right hkind]
  cases st with
  | select q =>
    simp only [Statement.lists, List.mem_append] at h
    rcases h with (hselected | hjoin) | hfilter
    · exact hcolumns hselected .rfl
    · exact hfilled (filled_part Join.lists_filled hjoin)
    · exact hfilled (filled_part Filter.lists_filled hfilter)
  | unionSelect q =>
    rcases List.mem_cons.mp h with rfl | h
    · exact hfilled (ItemList.filled_map _ hst nofun)
    · obtain ⟨f, -, hl⟩ := List.mem_flatMap.mp h
      simp only [UnionSelect.blockLists, List.mem_append] at hl
      rcases hl with (hselected | hjoin) | hfilter
      · exact hcolumns hselected .rfl
      · exact hfilled (filled_part Join.lists_filled hjoin)
      · exact hfilled (f.lists_filled hfilter)
  | insert t vs => exact hfilled (insertionLists_filled hst h)
  | replace t vs => exact hfilled (insertionLists_filled hst h)
  | update t vs f =>
    rcases List.mem_cons.mp h with rfl | h
    · exact hfilled (ItemList.filled_map _ hst nofun)
    · exact hfilled (f.lists_filled h)
  | delete t f => exact hfilled (f.lists_filled h)
  | lockTables locks =>
    cases List.mem_singleton.mp h
    exact hfilled (ItemList.filled_map _ hst nofun)
  | createTable t =>
    cases List.mem_singleton.mp h
    exact hfilled (ItemList.filled_map _ t.nonempty nofun)
  | _ => cases h

end Filled

end SqlBatch
