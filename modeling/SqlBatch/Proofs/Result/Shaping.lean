import Mathlib.Algebra.Ring.Nat
import SqlBatch.Result.Affected
/- What the items of a request come to. The rows and the reports among them have nothing to do
   with one another: the rows are kept as they are, and the reports are added up.
     1. `Affected.extend?_eq_some_iff`: reports one after another come to the exact sum of their
        changed rows and to the last identifier that there is, if 64 bits hold the sum.
     2. `shape_eq_some_iff`: what items come to.
     3. `shape_append_eq`: parts that are shaped on their own and then combined come to what the
        whole comes to.
     4. `shape_loses_nothing`: so it is with all items whose changed rows 64 bits can count. -/
namespace SqlBatch

/-! Items. -/

/-- The row of an item, if it is one. -/
def Item.row? : Item → Option Row
  | .row r => some r
  | .affected _ => none

/-- The report of an item, if it is one. -/
def Item.affected? : Item → Option Affected
  | .row _ => none
  | .affected a => some a

/-- The identifier that an item reports, if it reports one. -/
def Item.lastInsertId (item : Item) : Option UInt64 := item.affected?.bind Affected.lastInsertId

/-- How many changed rows an item reports. -/
def Item.changed : Item → Nat
  | .row _ => 0
  | .affected a => a.rows.toNat

/-- How many changed rows the items report together. -/
def changedRows : List Item → Nat
  | [] => 0
  | item :: rest => item.changed + changedRows rest

/-- Only reports have changed rows. -/
theorem changedRows_eq_sum (items : List Item) :
    changedRows items = ((items.filterMap Item.affected?).map fun a => a.rows.toNat).sum := by
  induction items with
  | nil => rfl
  | cons item rest ih =>
    cases item with
    | row r => exact (Nat.zero_add _).trans ih
    | affected a => exact congrArg (a.rows.toNat + ·) ih

/-- Only reports have identifiers. -/
theorem lastInsertId_eq (items : List Item) :
    items.filterMap Item.lastInsertId =
      (items.filterMap Item.affected?).filterMap Affected.lastInsertId :=
  List.filterMap_filterMap.symm

/-! Reports. -/

namespace Affected

/-- Two reports come to one exactly if 64 bits hold the sum. -/
theorem add?_eq_some_iff {a b c : Affected} :
    a.add? b = some c ↔
      c.rows.toNat = a.rows.toNat + b.rows.toNat ∧
      c.lastInsertId = b.lastInsertId.or a.lastInsertId := by
  have hsum : (a.rows + b.rows).toNat = (a.rows.toNat + b.rows.toNat) % UInt64.size :=
    UInt64.toNat_add a.rows b.rows
  have hc : c.rows.toNat < UInt64.size := c.rows.toNat_lt
  have hid : (b.lastInsertId <|> a.lastInsertId) = b.lastInsertId.or a.lastInsertId := by
    cases b.lastInsertId <;> rfl
  unfold add?
  split
  · next hfits =>
    rw [Nat.mod_eq_of_lt hfits] at hsum
    obtain ⟨rows, id⟩ := c
    simp only [Option.some.injEq, mk.injEq, ← UInt64.toNat_inj, hsum, hid, eq_comm]
  · next hfits =>
    simp only [reduceCtorEq, false_iff, not_and]
    intro hrows
    omega

/-- The last identifier is one of the reports behind the first, or else that of the first. -/
theorem getLast?_identifiers (b : Affected) (rest : List Affected) :
    ((b :: rest).filterMap lastInsertId).getLast? =
      (rest.filterMap lastInsertId).getLast?.or b.lastInsertId := by
  cases h : b.lastInsertId with
  | none => rw [List.filterMap_cons_none h, Option.or_none]
  | some id =>
    rw [List.filterMap_cons_some h, List.getLast?_cons]
    cases (rest.filterMap lastInsertId).getLast? <;> rfl

/-- Reports come to the sum of their changed rows, if 64 bits hold it, and to the last identifier
    that there is. -/
theorem extend?_eq_some_iff (reports : List Affected) :
    ∀ {a c : Affected}, a.extend? reports = some c ↔
      c.rows.toNat = a.rows.toNat + (reports.map fun b => b.rows.toNat).sum ∧
      c.lastInsertId = (reports.filterMap lastInsertId).getLast?.or a.lastInsertId := by
  induction reports with
  | nil =>
    intro a c
    obtain ⟨rows, id⟩ := c
    obtain ⟨rows', id'⟩ := a
    simp [extend?, ← UInt64.toNat_inj, eq_comm]
  | cons b rest ih =>
    intro a c
    have hbind : a.extend? (b :: rest) = some c ↔
        ∃ sum, a.add? b = some sum ∧ sum.extend? rest = some c := Option.bind_eq_some_iff
    rw [hbind, getLast?_identifiers, Option.or_assoc, List.map_cons, List.sum_cons]
    constructor
    · rintro ⟨sum, hadd, hrest⟩
      obtain ⟨hrows, hid⟩ := add?_eq_some_iff.mp hadd
      obtain ⟨hcrows, hcid⟩ := ih.mp hrest
      exact ⟨by omega, by rw [hcid, hid]⟩
    · rintro ⟨hcrows, hcid⟩
      -- The sum of the first two fits, since the sum of all does.
      have hfits : a.rows.toNat + b.rows.toNat < UInt64.size := by
        have hc : c.rows.toNat < UInt64.size := c.rows.toNat_lt
        omega
      have hsum : (a.rows + b.rows).toNat = a.rows.toNat + b.rows.toNat := by
        rw [UInt64.toNat_add]
        exact Nat.mod_eq_of_lt hfits
      refine ⟨⟨a.rows + b.rows, b.lastInsertId.or a.lastInsertId⟩, ?_, ?_⟩
      · exact add?_eq_some_iff.mpr ⟨hsum, rfl⟩
      · refine ih.mpr ⟨?_, hcid⟩
        rw [hsum]
        omega

theorem extend?_singleton (a b : Affected) : a.extend? [b] = a.add? b := by
  rw [extend?]
  cases a.add? b <;> rfl

/-- Reports are added one by one as they are added once they were added up. -/
theorem extend?_added_up (a : Affected) (reports : List Affected) :
    a.extend? reports = (Affected.none.extend? reports).bind fun sum => a.extend? [sum] := by
  apply Option.ext
  intro c
  simp only [Option.bind_eq_some_iff, extend?_singleton, add?_eq_some_iff]
  have hnone : Affected.none.rows.toNat = 0 := rfl
  constructor
  · intro h
    obtain ⟨hrows, hid⟩ := (extend?_eq_some_iff reports).mp h
    have hfits : (reports.map fun b => b.rows.toNat).sum < UInt64.size := by
      have hc : c.rows.toNat < UInt64.size := c.rows.toNat_lt
      omega
    have hsum := UInt64.toNat_ofNat_of_lt' hfits
    refine ⟨⟨.ofNat (reports.map fun b => b.rows.toNat).sum,
      (reports.filterMap lastInsertId).getLast?⟩, ?_, ?_, hid⟩
    · exact (extend?_eq_some_iff reports).mpr ⟨by rw [hsum, hnone, Nat.zero_add],
        (Option.or_none).symm⟩
    · rw [hsum]
      exact hrows
  · rintro ⟨sum, hsum, hrows, hid⟩
    obtain ⟨hsrows, hsid⟩ := (extend?_eq_some_iff reports).mp hsum
    refine (extend?_eq_some_iff reports).mpr ⟨by omega, ?_⟩
    rw [hid, hsid]
    exact congrArg (·.or a.lastInsertId) Option.or_none

end Affected

/-! Sequences of items. -/

/-- Rows and reports are shaped apart. -/
theorem shapeFrom_eq (items : List Item) :
    ∀ s : Shaped, shapeFrom s items =
      (s.affected.extend? (items.filterMap Item.affected?)).map fun sum =>
        ⟨s.rows ++ items.filterMap Item.row?, sum⟩ := by
  induction items with
  | nil =>
    intro s
    simp [shapeFrom, Affected.extend?]
  | cons item rest ih =>
    intro s
    cases item with
    | row r =>
      have hreports : (Item.row r :: rest).filterMap Item.affected? =
          rest.filterMap Item.affected? := rfl
      simp [shapeFrom, Shaped.add?, ih, hreports, Item.row?]
    | affected a =>
      simp only [shapeFrom, Shaped.add?, Affected.extend?, Item.affected?, Item.row?,
        List.filterMap_cons]
      cases s.affected.add? a with
      | none => rfl
      | some sum => exact ih _

/-- Items come to their rows, the sum of their changed rows, if 64 bits hold it, and the last
    identifier that there is. -/
theorem shape_eq_some_iff {items : List Item} {s : Shaped} :
    shape items = some s ↔
      s.rows = items.filterMap Item.row? ∧ s.affected.rows.toNat = changedRows items ∧
      s.affected.lastInsertId = (items.filterMap Item.lastInsertId).getLast? := by
  obtain ⟨rows, affected⟩ := s
  have hsum : Affected.none.extend? (items.filterMap Item.affected?) = some affected ↔
      affected.rows.toNat = changedRows items ∧
      affected.lastInsertId = (items.filterMap Item.lastInsertId).getLast? := by
    rw [Affected.extend?_eq_some_iff, ← changedRows_eq_sum, ← lastInsertId_eq]
    simp [Affected.none]
  rw [← hsum, shape, shapeFrom_eq, Option.map_eq_some_iff]
  constructor
  · rintro ⟨sum, h, he⟩
    cases he
    exact ⟨rfl, h⟩
  · rintro ⟨rfl, h⟩
    exact ⟨affected, h, rfl⟩

/-- Items come to something exactly if 64 bits hold the sum of their changed rows. -/
theorem shape_isSome_iff (items : List Item) :
    (shape items).isSome ↔ changedRows items < UInt64.size := by
  rw [Option.isSome_iff_exists]
  constructor
  · rintro ⟨s, hs⟩
    rw [← (shape_eq_some_iff.mp hs).2.1]
    exact s.affected.rows.toNat_lt
  · intro hfits
    refine ⟨⟨items.filterMap Item.row?, .ofNat (changedRows items),
      (items.filterMap Item.lastInsertId).getLast?⟩, shape_eq_some_iff.mpr ⟨rfl, ?_, rfl⟩⟩
    exact UInt64.toNat_ofNat_of_lt' hfits

/-- Two parts combined: the rows of both, and the report of the first with that of the second. -/
def Shaped.append? (a b : Shaped) : Option Shaped :=
  (a.affected.extend? [b.affected]).map fun sum => ⟨a.rows ++ b.rows, sum⟩

/-- Parts that are shaped and then combined come to what the whole comes to. -/
theorem shape_append_eq (xs ys : List Item) :
    shape (xs ++ ys) = (shape xs).bind fun a => (shape ys).bind a.append? := by
  rw [shape_append]
  congr 1
  funext a
  rw [shapeFrom_eq, Affected.extend?_added_up, shape, shapeFrom_eq]
  simp only [Option.map_bind, Option.bind_map]
  rfl

/-- Items whose changed rows 64 bits can count come to their rows in order, to the exact sum of
    their changed rows, and to the last identifier that any of them reports. However they are
    split, the parts come to something each, and combined to the same. -/
theorem shape_loses_nothing (items : List Item) (h : changedRows items < 2 ^ 64) :
    ∃ s, shape items = some s ∧
      s.rows = items.filterMap Item.row? ∧
      s.affected.rows.toNat = changedRows items ∧
      s.affected.lastInsertId = (items.filterMap Item.lastInsertId).getLast? ∧
      ∀ xs ys, items = xs ++ ys →
        ∃ a b, shape xs = some a ∧ shape ys = some b ∧ a.append? b = some s := by
  obtain ⟨s, hs⟩ := Option.isSome_iff_exists.mp ((shape_isSome_iff items).mpr h)
  obtain ⟨hrows, hsum, hid⟩ := shape_eq_some_iff.mp hs
  refine ⟨s, hs, hrows, hsum, hid, ?_⟩
  rintro xs ys rfl
  rw [shape_append_eq, Option.bind_eq_some_iff] at hs
  obtain ⟨a, ha, hb⟩ := hs
  obtain ⟨b, hb, hs⟩ := Option.bind_eq_some_iff.mp hb
  exact ⟨a, b, ha, hb, hs⟩

/-- Two rows among reports that come to the greatest number of 64 bits. Not the last report, and not
    the first, has the last identifier. -/
def interleaved : List Item :=
  [.affected ⟨1, some 3⟩, .row ⟨["a"], [.null]⟩, .affected ⟨0xFFFFFFFFFFFFFFFE, some 7⟩,
    .row ⟨[], []⟩, .affected ⟨0, none⟩]

theorem shape_loses_nothing_interleaved :
    changedRows interleaved < 2 ^ 64 ∧
    ∃ s, shape interleaved = some s ∧ s.rows = [⟨["a"], [.null]⟩, ⟨[], []⟩] ∧
      s.affected.rows.toNat = 2 ^ 64 - 1 ∧ s.affected.lastInsertId = some 7 ∧
      ∃ a b, shape (interleaved.take 2) = some a ∧ shape (interleaved.drop 2) = some b ∧
        a.append? b = some s := by
  have hfits : changedRows interleaved < 2 ^ 64 := by decide
  obtain ⟨s, hs, hrows, hsum, hid, hsplit⟩ := shape_loses_nothing interleaved hfits
  exact ⟨hfits, s, hs, hrows, hsum, hid, hsplit _ _ (List.take_append_drop 2 interleaved).symm⟩

end SqlBatch
