import SqlBatch.Text.Separated
/- Which separators are written between items that may write nothing. A separator is written in
   front of an item, when it is not known yet whether the item writes anything.
     1. `separated_eq`: of any items those that are not empty stand with one separator between each
        two, and one more is left at the end if the last of all is empty and another is not.
     2. `items_joined`: so it is in every buffer, whatever it held before.
     3. `separator_left_over`: the separator at the end. -/
namespace SqlBatch.Text

/-- The texts that are not empty. -/
def filled (texts : List String) : List String := texts.filter (· ≠ "")

/-- The last of the texts is empty, and another one is not. -/
def EndsEmpty (texts : List String) : Prop := texts.getLast? = some "" ∧ filled texts ≠ []

instance (texts : List String) : Decidable (EndsEmpty texts) :=
  inferInstanceAs (Decidable (_ ∧ _))

theorem filled_cons_empty (rest : List String) : filled ("" :: rest) = filled rest := by
  simp [filled]

theorem filled_cons_of_ne {item : String} (h : item ≠ "") (rest : List String) :
    filled (item :: rest) = item :: filled rest := by
  simp [filled, h]

/-- The last of texts that are all empty is empty. -/
theorem getLast?_of_filled_eq_nil {texts : List String} (hne : texts ≠ [])
    (h : filled texts = []) : texts.getLast? = some "" := by
  obtain ⟨last, hlast⟩ := Option.ne_none_iff_exists'.mp (mt List.getLast?_eq_none_iff.mp hne)
  have hempty : ∀ t ∈ texts, t = "" := by simpa [filled] using h
  rw [hlast, hempty last (List.mem_of_getLast? hlast)]

/-- In front of others an empty text makes no difference. -/
theorem endsEmpty_cons_empty {rest : List String} (hrest : rest ≠ []) :
    EndsEmpty ("" :: rest) ↔ EndsEmpty rest := by
  rw [EndsEmpty, EndsEmpty, List.getLast?_cons_of_ne_nil hrest, filled_cons_empty]

/-- Behind a text that is not empty the last one decides. -/
theorem endsEmpty_cons_of_ne {item : String} {rest : List String} (hitem : item ≠ "")
    (hrest : rest ≠ []) : EndsEmpty (item :: rest) ↔ rest.getLast? = some "" := by
  rw [EndsEmpty, List.getLast?_cons_of_ne_nil hrest, filled_cons_of_ne hitem]
  exact and_iff_left (List.cons_ne_nil _ _)

theorem separated_singleton_eq (separator item : String) :
    separated separator [item] =
      separator.intercalate (filled [item]) ++ if EndsEmpty [item] then separator else "" := by
  by_cases hitem : item = ""
  · subst hitem
    rfl
  · have hends : ¬ EndsEmpty [item] := fun h => hitem (by simpa using h.1)
    rw [filled_cons_of_ne hitem, if_neg hends, String.append_empty]
    exact String.intercalate_singleton.symm

/-- Items that are not empty have one separator between each two, and one is left at the end if
    the last item is empty and another is not. -/
theorem separated_eq (separator : String) (items : List String) :
    separated separator items =
      separator.intercalate (filled items) ++ if EndsEmpty items then separator else "" := by
  induction items with
  | nil => rfl
  | cons item rest ih =>
    by_cases hrest : rest = []
    · subst hrest
      exact separated_singleton_eq separator item
    rw [separated_cons_of_ne_nil separator item hrest, ih]
    by_cases hitem : item = ""
    · subst hitem
      simp only [filled_cons_empty, endsEmpty_cons_empty hrest, if_true, String.empty_append]
    have hends := endsEmpty_cons_of_ne hitem hrest
    rw [if_neg hitem, filled_cons_of_ne hitem]
    cases hfilled : filled rest with
    | nil =>
      -- Nothing more is written, and the separator behind the item is left.
      have hnot : ¬ EndsEmpty rest := fun h => h.2 hfilled
      rw [if_pos (hends.mpr (getLast?_of_filled_eq_nil hrest hfilled)), if_neg hnot]
      simp
    | cons next more =>
      have hrest : EndsEmpty rest ↔ rest.getLast? = some "" :=
        and_iff_left (hfilled ▸ List.cons_ne_nil _ _)
      simp only [hends, hrest, String.intercalate_cons_cons, String.append_assoc]

section

variable {α : Type} {write : String → α → String} {text : α → String}

/-- Items that each append a text to a buffer, whatever it holds, append together the texts that are
    not empty, in order and with one separator between each two. Behind them one separator more is
    left if the last text is empty and another is not, and otherwise nothing. -/
theorem items_joined (separator : String) (hwrite : ∀ out a, write out a = out ++ text a)
    (items : List α) : ∃ appended,
      (∀ out, writeSeparated separator write out items = out ++ appended) ∧
      appended = separator.intercalate (filled (items.map text)) ++
        if EndsEmpty (items.map text) then separator else "" := by
  refine ⟨separated separator (items.map text), fun out => ?_, separated_eq _ _⟩
  exact writeSeparated_eq separator hwrite out items

end

/-- Empty items in front of others, between them and behind them. -/
theorem items_joined_gaps :
    (∀ out a : String, out ++ a = out ++ id a) ∧
    writeSeparated ", " (· ++ ·) ";" ["", "a", "", "", "b", "c"] = ";a, b, c" ∧
    writeSeparated ", " (· ++ ·) ";" ["", "a", "", "", "b", "", ""] = ";a, b, " := by
  have hwrite : ∀ out a : String, out ++ a = out ++ id a := fun _ _ => rfl
  obtain ⟨appended, hfilled, rfl⟩ := items_joined ", " hwrite ["", "a", "", "", "b", "c"]
  obtain ⟨appended, hempty, rfl⟩ := items_joined ", " hwrite ["", "a", "", "", "b", "", ""]
  exact ⟨hwrite, (hfilled ";").trans (by decide), (hempty ";").trans (by decide)⟩

/-- Behind the only item that writes something there is a separator. -/
theorem separator_left_over :
    writeSeparated "," (· ++ ·) "" ["a", ""] = "a," ∧
    writeSeparated "," (· ++ ·) "" ["a", ""] ≠ ",".intercalate (filled ["a", ""]) := by
  decide

end SqlBatch.Text
