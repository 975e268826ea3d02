import SqlBatch.MySql.Connection
/- What is passed on of the results of a request. They are read one after another, each as it is at
   hand, whatever kinds of results there are and in whichever order.
     1. `Cursor.readAll_cons`, `Cursor.readAll_append`: a result without an error is passed on with
        all its rows, and so are all of them up to the first with an error.
     2. `rows_passed_once`: what is passed on of a response, whichever way it ends.
     3. `later_error_unreported`: an error in place of a later result is not passed on. -/
namespace SqlBatch.MySql

/-- What the last of the results reported, after others that reported this. -/
def lastReport (results : List Result) (report : Affected) : Affected :=
  (results.getLast?.map Result.report).getD report

theorem lastReport_cons (r : Result) (rest : List Result) (report : Affected) :
    lastReport (r :: rest) report = lastReport rest r.report := by
  rw [lastReport, lastReport, List.getLast?_cons]
  cases rest.getLast? <;> rfl

namespace Replies

theorem withRows_nil (r : Replies) : r.withRows [] = r := rfl

theorem withRows_withRows (first second : List Row) (r : Replies) :
    (r.withRows second).withRows first = r.withRows (first ++ second) := by
  simp only [withRows, List.append_assoc]

end Replies

namespace Cursor

/-- Behind a result without an error the next one is at hand. -/
theorem readAll_cons {r : Result} (h : r.error? = none) (rest : List Result)
    (report : Affected) :
    (before (r :: rest) report).readAll = (before rest r.report).readAll.withRows r.rowsOf := by
  apply readAll_next
  · cases r with
    | done affected id => rfl
    | rows names cells e => rfl
    | error e => cases h
  · simp only [before, collect, h, List.head?_cons, Option.map_some, Option.getD_some]

/-- Results without an error are read with all their rows, in order. -/
theorem readAll_append {complete : List Result} (h : ∀ r ∈ complete, r.error? = none)
    (rest : List Result) : ∀ report,
    (before (complete ++ rest) report).readAll =
      (before rest (lastReport complete report)).readAll.withRows
        (complete.flatMap Result.rowsOf) := by
  induction complete with
  | nil => exact fun report => (Replies.withRows_nil _).symm
  | cons r complete ih =>
    intro report
    obtain ⟨hr, hcomplete⟩ := List.forall_mem_cons.mp h
    rw [List.cons_append, readAll_cons hr, ih hcomplete, Replies.withRows_withRows,
      lastReport_cons, List.flatMap_cons]

/-- Nothing is at hand behind the last result. -/
theorem readAll_nil (report : Affected) :
    (before [] report).readAll = ⟨[], none, none, report⟩ := readAll_of_isEmpty rfl

/-- An error in place of a result ends the reading and is kept back. -/
theorem readAll_at_error (e : ServerError) (rest : List Result) (report : Affected) :
    (before (.error e :: rest) report).readAll = ⟨[], none, some e, .none⟩ :=
  readAll_of_isEmpty rfl

/-- An error behind rows is passed on in place of the rows. -/
theorem readAll_at_cut (names : List (List UInt8)) (cells : List (List (Option (List UInt8))))
    (e : ServerError) (rest : List Result) (report : Affected) :
    (before (.rows names cells (some e) :: rest) report).readAll = ⟨[], some e, none, .none⟩ :=
  readAll_error rfl rfl

end Cursor

/-- Unless the first statement failed, the results are read. -/
theorem replies_append {complete : List Result} (h : ∀ r ∈ complete, r.error? = none)
    (rest : List Result) (hrest : complete ≠ [] ∨ ∀ e tail, rest ≠ .error e :: tail) :
    replies (complete ++ rest) =
      (Cursor.before rest (lastReport complete .none)).readAll.withRows
        (complete.flatMap Result.rowsOf) := by
  have hquery : query (complete ++ rest) = .ok (.before (complete ++ rest) .none) := by
    unfold query
    split
    · next e tail heq =>
      exfalso
      rcases List.append_eq_cons_iff.mp heq with ⟨hnil, hrest'⟩ | ⟨complete', hcons, -⟩
      · exact hrest.elim (fun hne => hne hnil) fun hne => hne e tail hrest'
      · have := h (.error e) (hcons ▸ List.mem_cons_self)
        cases this
    · rfl
  rw [replies, hquery]
  exact Cursor.readAll_append h rest .none

/-- What a request comes to whose results have no error, or up to the first that has one. Of results
    without an error every row is passed on once and in order, with the names of its columns and a
    value for each of its cells, and behind them the report of the last result if there was no row
    and the report is of changed rows. An error that cuts the rows of a result short is passed on
    behind the rows of the results before it, and so is one in place of the first result. One in
    place of a later result is kept back, and the next request fails with it. -/
theorem rows_passed_once {complete : List Result} (h : ∀ r ∈ complete, r.error? = none)
    (sql : String) (e : ServerError) (names : List (List UInt8))
    (cells : List (List (Option (List UInt8)))) :
    let rows := complete.flatMap Result.rowsOf
    let last := lastReport complete .none
    (⟨none⟩ : Connection).run sql complete =
      (rows.map (fun row => .ok (.row row)) ++
        if rows = [] ∧ 0 < last.rows then [.ok (.affected last)] else [], ⟨none⟩) ∧
    (⟨none⟩ : Connection).run sql (complete ++ [.rows names cells (some e)]) =
      (rows.map (fun row => .ok (.row row)) ++ [.error (runFailure sql e)], ⟨none⟩) ∧
    (⟨none⟩ : Connection).run sql [.error e] = ([.error (runFailure sql e)], ⟨none⟩) ∧
    (complete ≠ [] → (⟨none⟩ : Connection).run sql (complete ++ [.error e]) =
      (rows.map fun row => .ok (.row row), ⟨some e⟩)) ∧
    (∀ results, (⟨some e⟩ : Connection).run sql results =
      ([.error (runFailure sql e)], ⟨none⟩)) ∧
    ∀ error, (Result.rows names cells error).rowsOf =
      cells.map fun cs =>
        ⟨names.map Text.ofUtf8Lossy, cs.map fun c => c.elim Value.null Value.blob⟩ := by
  intro rows last
  refine ⟨?_, ?_, rfl, fun hne => ?_, fun _ => rfl, fun error => ?_⟩
  · have hreplies := replies_append h [] (.inr nofun)
    rw [List.append_nil, Cursor.readAll_nil] at hreplies
    simp [Connection.run, hreplies, Replies.answers, Replies.withRows, rows, last]
  · have hreplies := replies_append h [.rows names cells (some e)] (.inr nofun)
    rw [Cursor.readAll_at_cut] at hreplies
    simp [Connection.run, hreplies, Replies.answers, Replies.withRows, rows]
  · have hreplies := replies_append h [.error e] (.inl hne)
    rw [Cursor.readAll_at_error] at hreplies
    simp [Connection.run, hreplies, Replies.answers, Replies.withRows, rows, Affected.none]
  · have hcell (c : Option (List UInt8)) :
        (Sent.ofCell c).value = c.elim Value.null Value.blob := by cases c <;> rfl
    simp only [Result.rowsOf_rows, hcell]

/-- What the server reports of a table that it does not have. -/
def noTable : ServerError := ⟨1146, "42S02", "Table 'app.Logs' doesn't exist"⟩

/-- The results of a `USE`, of a select without rows, of one with two rows, and of an update. -/
def mixedResults : List Result :=
  [.done 0 0, .rows [[0x61]] [] none,
    .rows [[0x61], [0x62]] [[some [0x31], none], [none, some []]] none, .done 3 7]

/-- Two rows are passed on without a report, and behind them the error of a result with rows. -/
theorem rows_passed_once_mixed :
    (∀ r ∈ mixedResults, r.error? = none) ∧
    (⟨none⟩ : Connection).run "" mixedResults =
      ([.ok (.row ⟨["a", "b"], [.blob [0x31], .null]⟩),
        .ok (.row ⟨["a", "b"], [.null, .blob []]⟩)], ⟨none⟩) ∧
    (⟨none⟩ : Connection).run "" (mixedResults ++ [.rows [[0x61]] [[none]] (some noTable)]) =
      ([.ok (.row ⟨["a", "b"], [.blob [0x31], .null]⟩),
        .ok (.row ⟨["a", "b"], [.null, .blob []]⟩), .error (runFailure "" noTable)], ⟨none⟩) ∧
    mixedResults ≠ [] ∧
    (⟨none⟩ : Connection).run "" (mixedResults ++ [.error noTable]) =
      ([.ok (.row ⟨["a", "b"], [.blob [0x31], .null]⟩),
        .ok (.row ⟨["a", "b"], [.null, .blob []]⟩)], ⟨some noTable⟩) := by
  have hmixed : ∀ r ∈ mixedResults, r.error? = none := by
    simp [mixedResults, Result.error?]
  have hne : mixedResults ≠ [] := List.cons_ne_nil _ _
  obtain ⟨hrun, hcut, -, hlater, -⟩ := rows_passed_once hmixed "" noTable [[0x61]] [[none]]
  exact ⟨hmixed, hrun.trans rfl, hcut.trans rfl, hne, (hlater hne).trans rfl⟩

/-- An error in place of a later result ends what is passed on as if there was none. -/
theorem later_error_unreported :
    let results := [.done 0 0, .error noTable]
    results.filterMap Result.error? = [noTable] ∧
    ∀ f, .error f ∉
      ((⟨none⟩ : Connection).run "USE `app`;TRUNCATE TABLE `Logs`;" results).1 := by
  have hdone : ∀ r ∈ [Result.done 0 0], r.error? = none := List.forall_mem_singleton.mpr rfl
  have hreplies : replies [.done 0 0, .error noTable] =
      (Cursor.before [.error noTable] .none).readAll.withRows [] :=
    replies_append hdone _ (.inl (List.cons_ne_nil _ _))
  refine ⟨rfl, fun f => ?_⟩
  rw [Connection.run, hreplies, Cursor.readAll_at_error]
  exact List.not_mem_nil

end SqlBatch.MySql
