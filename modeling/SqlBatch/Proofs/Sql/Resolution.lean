import SqlBatch.Proofs.Sql.Query
/- Which tables the columns of a select are looked up in. A reference with a table means that one,
   and a reference without means the only table in scope that has such a column.
     1. `resolve_qualified`, `resolve_unqualified`: what a reference to a column in scope means.
     2. `resolve_listed`: a listed column is looked up in its own table, with a join and without.
     3. `references_resolve`: what each reference in the text of a select means. Conditions on one
        column and the order leave the table out, and a join is on the table selected from.
     4. `references_astray`: so that some of them may mean another table than that of the column
        they were made of, or none. -/
namespace SqlBatch

/-- The table has a column of the name. -/
def Table.has (t : Table) (name : String) : Bool := (t.column? name).isSome

/-- The tables in the scope of a select: the one it selects from, and those it joins. -/
def Select.scope (q : Select) : List Table := q.table :: q.joinClauses.map JoinClause.table

/-- The column is one of a table in scope. -/
def Column.Within (scope : List Table) (c : Column) : Prop := ∃ t ∈ scope, c ∈ t.columns

/-- What the bare name of the column means: its table, if no other one has such a column. -/
def Column.meant (scope : List Table) (c : Column) : Option String :=
  if scope.countP (·.has c.name) = 1 then some c.table else none

/-- The columns of a list. -/
def Columns.listed : Columns → List Column
  | .list cs => cs
  | .all | .expression _ => []

/-- The columns that a clause compares. -/
def Clause.compared : Clause → List Column
  | .equals c _ | .member c _ _ | .compare c _ _ => [c]
  | .columns a b _ => [a, b]

/-- What the references to the columns of a clause mean. Those of an equality of columns are not
    bare. -/
def Clause.meant (scope : List Table) : Clause → List (Option String)
  | .equals c _ | .member c _ _ | .compare c _ _ => [c.meant scope]
  | .columns a b _ => [some a.table, some b.table]

/-- The clauses of a filter, if there is one. -/
def Select.filterClauses (q : Select) : List Clause := (q.filter.map Filter.clauses).getD []

/-- The columns that a select is made of. -/
def Select.mentioned (q : Select) : List Column :=
  q.columns.listed ++ q.joinClauses.map JoinClause.column ++
    q.filterClauses.flatMap Clause.compared ++ (q.order.map OrderBy.column).toList

namespace Sql

/-- The table that a reference means. Without a table it means the only one that has a column of
    the name. -/
def Reference.resolve (scope : List Table) (r : Reference) : Option String :=
  match r.table with
  | some name => (scope.find? (·.name = name)).map Table.name
  | none =>
    match scope.filter (·.has r.name) with
    | [t] => some t.name
    | _ => none

/-- The references of a list. -/
def Targets.references : Targets → List Reference
  | .list rs => rs
  | .all | .verbatim _ => []

/-- The references of a condition. -/
def Condition.references : Condition → List Reference
  | .compare column _ (.literal _) | .member column _ => [column]
  | .compare column _ (.column other) => [column, other]

variable {scope : List Table} {c : Column}

theorem resolve_qualified {t : Table} (ht : t ∈ scope) (name : String) :
    Reference.resolve scope ⟨some t.name, name⟩ = some t.name := by
  show (scope.find? (·.name = t.name)).map Table.name = _
  have hfound : (scope.find? (·.name = t.name)).isSome :=
    List.find?_isSome.mpr ⟨t, ht, decide_eq_true rfl⟩
  obtain ⟨s, hs⟩ := Option.isSome_iff_exists.mp hfound
  have hname : s.name = t.name := by simpa using List.find?_some hs
  rw [hs, Option.map_some, hname]

theorem has_of_mem {t : Table} (hc : c ∈ t.columns) : t.has c.name = true := by
  rw [Table.has, (t.column?_eq_some_iff c.name c).mpr ⟨hc, rfl⟩]
  rfl

/-- The bare name of a column in scope means the column's own table or none. -/
theorem resolve_unqualified (hc : c.Within scope) :
    Reference.resolve scope ⟨none, c.name⟩ = c.meant scope := by
  obtain ⟨t, ht, hcolumn⟩ := hc
  have hmem : t ∈ scope.filter (·.has c.name) := List.mem_filter.mpr ⟨ht, has_of_mem hcolumn⟩
  unfold Reference.resolve Column.meant
  rw [List.countP_eq_length_filter]
  show (match scope.filter (·.has c.name) with | [t] => some t.name | _ => none) = _
  split
  · next s hs =>
    rw [hs, List.mem_singleton] at hmem
    subst hmem
    rw [hs, if_pos List.length_singleton, t.formed.placed c hcolumn]
  · next hne =>
    rw [if_neg]
    intro hone
    obtain ⟨s, hs⟩ := List.length_eq_one_iff.mp hone
    exact hne s hs

theorem resolve_reference (hc : c.Within scope) :
    (c.reference false).resolve scope = c.meant scope ∧
      (c.reference true).resolve scope = some c.table := by
  refine ⟨resolve_unqualified hc, ?_⟩
  obtain ⟨t, ht, hcolumn⟩ := hc
  have htable := t.formed.placed c hcolumn
  have hattached : c.isAttached = true := by simpa [Column.isAttached, htable] using t.named
  simp only [Column.reference, hattached, Bool.and_self, if_true, htable]
  exact resolve_qualified ht c.name

/-- A listed column is bare only if no other table is in scope. -/
theorem resolve_listed {q : Select} (hc : c.Within q.scope) :
    (c.reference q.join.isSome).resolve q.scope = some c.table := by
  cases hjoin : q.join with
  | some j => exact (resolve_reference hc).2
  | none =>
    have hscope : q.scope = [q.table] := by
      rw [Select.scope, Select.joinClauses, hjoin]
      rfl
    rw [hscope] at hc ⊢
    have hown : c ∈ q.table.columns := by simpa [Column.Within] using hc
    rw [Option.isSome_none, (resolve_reference hc).1, Column.meant, List.countP_singleton,
      has_of_mem hown]
    rfl

/-- Every reference of a condition means what its clause does. -/
theorem resolve_compared {w : Clause} (d : Dialect) (hw : ∀ c ∈ w.compared, c.Within scope) :
    (w.condition d).references.map (Reference.resolve scope) = w.meant scope := by
  cases w with
  | equals c v => exact congrArg (· :: []) (resolve_reference (hw c (.head _))).1
  | member c vs hvs => exact congrArg (· :: []) (resolve_reference (hw c (.head _))).1
  | compare c op v => exact congrArg (· :: []) (resolve_reference (hw c (.head _))).1
  | columns a b hab =>
    have ha := (resolve_reference (hw a (.head _))).2
    have hb := (resolve_reference (hw b (.tail _ (.head _)))).2
    simp only [Clause.condition, Condition.references, Clause.meant, List.map_cons, List.map_nil,
      ha, hb]

/-! Selects. -/

theorem references_targets (qualified : Bool) (cs : Columns) :
    (cs.targets qualified).references = cs.listed.map (Column.reference qualified) := by
  cases cs with
  | all => rfl
  | list cs => cases cs <;> rfl
  | expression text => rfl

theorem conditions_query (d : Dialect) (q : Select) :
    (q.query d).conditions.getD [] = q.filterClauses.map (Clause.condition d) := by
  unfold Select.query Select.filterClauses
  cases q.filter <;> rfl

/-- What the references in the text of a select mean, if its columns are those of tables in scope.
    A listed column is looked up in its own table, a join is on the table selected from, and the
    column of a condition or of the order is looked up in its own table if it can be no other. -/
theorem references_resolve (d : Dialect) (q : Select) (hq : ∀ c ∈ q.mentioned, c.Within q.scope) :
    ∃ r, (Query.read q.columns.verbatim?).parse (statement d (.select q)) = some r ∧
      r.targets.references.map (Reference.resolve q.scope) =
        q.columns.listed.map (fun c => some c.table) ∧
      r.joins.map (fun j => j.owner.resolve q.scope) =
        q.joinClauses.map (fun _ => some q.table.name) ∧
      (r.conditions.getD []).map (fun w => w.references.map (Reference.resolve q.scope)) =
        q.filterClauses.map (Clause.meant q.scope) ∧
      r.order.map (fun o => o.column.resolve q.scope) =
        q.order.map (fun o => o.column.meant q.scope) := by
  simp only [Select.mentioned, List.forall_mem_append, List.forall_mem_flatMap] at hq
  obtain ⟨⟨⟨hlisted, -⟩, hcompared⟩, horder⟩ := hq
  refine ⟨q.query d, (reads_select d q).parse, ?_, ?_, ?_, ?_⟩
  · show (q.columns.targets q.join.isSome).references.map _ = _
    rw [references_targets, List.map_map]
    exact List.map_congr_left fun c hc => resolve_listed (hlisted c hc)
  · show (q.joinClauses.map (JoinClause.joining q.table)).map _ = _
    rw [List.map_map]
    exact List.map_congr_left fun j _ => resolve_qualified List.mem_cons_self j.column.name
  · rw [conditions_query, List.map_map]
    exact List.map_congr_left fun w hw => resolve_compared d (hcompared w hw)
  · show (q.order.map OrderBy.sorting).map _ = _
    cases hsome : q.order with
    | none => rfl
    | some o =>
      have ho : o.column.Within q.scope := horder o.column (by simp [hsome])
      exact congrArg some (resolve_reference ho).1

/-- A join of two tables that have no name of a column in common. -/
def distinctSelect : Select where
  table := numberTable "Users" "id" (by decide) (by decide)
  columns := .list [numberColumn "Orders" "user" (by decide)]
  join := some (.single ⟨numberTable "Orders" "user" (by decide) (by decide),
    numberColumn "Users" "id" (by decide), numberColumn "Orders" "user" (by decide)⟩)
  filter := some (.single (.equals (numberColumn "Orders" "user" (by decide)) (.signed 1)))
  order := some ⟨numberColumn "Users" "id" (by decide), .ascending⟩

theorem references_resolve_distinct :
    (∀ c ∈ distinctSelect.mentioned, c.Within distinctSelect.scope) ∧
      ∃ r, (Query.read none).parse
          ("SELECT `Orders`.`user` FROM `Users` INNER JOIN `Orders` ON `Orders`.`user` = " ++
            "`Users`.`id` WHERE `user` = 1 ORDER BY `id` ASC;") = some r ∧
        r.targets.references.map (Reference.resolve distinctSelect.scope) = [some "Orders"] ∧
        r.joins.map (fun j => j.owner.resolve distinctSelect.scope) = [some "Users"] ∧
        (r.conditions.getD []).map
          (fun w => w.references.map (Reference.resolve distinctSelect.scope)) =
            [[some "Orders"]] ∧
        r.order.map (fun o => o.column.resolve distinctSelect.scope) = some (some "Users") := by
  have htext : statement .generic (.select distinctSelect) =
      "SELECT `Orders`.`user` FROM `Users` INNER JOIN `Orders` ON `Orders`.`user` = " ++
        "`Users`.`id` WHERE `user` = 1 ORDER BY `id` ASC;" := by decide +kernel
  have hscope : ∀ c ∈ distinctSelect.mentioned, c.Within distinctSelect.scope := by
    unfold Column.Within
    decide
  rw [← htext]
  exact ⟨hscope, references_resolve .generic distinctSelect hscope⟩

/-- A join of two tables that have the name of a column in common. The table joined is the one that
    every clause names the column of. -/
def sharedSelect : Select where
  table := numberTable "Users" "id" (by decide) (by decide)
  join := some (.single (.sameName (numberTable "Orders" "id" (by decide) (by decide))
    (numberColumn "Orders" "id" (by decide))))
  filter := some (.single (.equals (numberColumn "Orders" "id" (by decide)) (.signed 1)))
  order := some ⟨numberColumn "Orders" "id" (by decide), .ascending⟩

/-- No reference to the column means its table, but for the one that is matched: the join is on the
    column of the other table, and neither the condition nor the order says which is meant. -/
theorem references_astray :
    (∀ c ∈ sharedSelect.mentioned, c.Within sharedSelect.scope) ∧
      sharedSelect.mentioned.map Column.table = ["Orders", "Orders", "Orders"] ∧
      statement .generic (.select sharedSelect) =
        "SELECT * FROM `Users` INNER JOIN `Orders` ON `Orders`.`id` = `Users`.`id`" ++
          " WHERE `id` = 1 ORDER BY `id` ASC;" ∧
      ∃ r, (Query.read none).parse (statement .generic (.select sharedSelect)) = some r ∧
        r.joins.map (fun j => j.owner.resolve sharedSelect.scope) = [some "Users"] ∧
        (r.conditions.getD []).map
          (fun w => w.references.map (Reference.resolve sharedSelect.scope)) = [[none]] ∧
        r.order.map (fun o => o.column.resolve sharedSelect.scope) = some none := by
  have htext : statement .generic (.select sharedSelect) =
      "SELECT * FROM `Users` INNER JOIN `Orders` ON `Orders`.`id` = `Users`.`id`" ++
        " WHERE `id` = 1 ORDER BY `id` ASC;" := by decide +kernel
  have hscope : ∀ c ∈ sharedSelect.mentioned, c.Within sharedSelect.scope := by
    unfold Column.Within
    decide
  exact ⟨hscope, rfl, htext, _, (reads_select .generic sharedSelect).parse, rfl, rfl, rfl⟩

end Sql

end SqlBatch
