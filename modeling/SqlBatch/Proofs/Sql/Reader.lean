import Mathlib.Data.List.Basic
import SqlBatch.Sql.Statement
/- Readers of texts. A reader takes a part from the front of a text and leaves what follows it. What
   may follow a part is given by what it begins with.
     1. `Reads`: wherever the text stands and goes on as it may, it is taken whole and no character
        more, and gives the value.
     2. `Reads.bind`, `Reads.repeated`, `Reads.items`: what is composed of texts that are read is
        read by the readers composed in the same way.
     3. `ReadsFrom.part`, `ReadsFrom.repeated`: so is what begins with parts that may be missing,
        as each is told by its keyword.
     4. `quoted_flatMap`: what stands between quotes, if every character of it is read back.
     5. `Reads.parse`: the whole of such a text is read as its value.
     6. `parse_bind`, `parse_last`: what is read of a text to its end, where nothing follows. -/
namespace SqlBatch.Sql

open Text (separated)

/-- A reader takes a part from the front of a text and leaves the rest, or refuses the text. -/
abbrev Reader := StateT (List Char) Option

namespace Reader

variable {α β : Type}

/-- What the whole of a text is read as. -/
def parse (r : Reader α) (text : String) : Option α :=
  match r.run text.toList with
  | some (a, []) => some a
  | _ => none

/-- Takes the keyword. -/
def expect (keyword : String) : Reader Unit := fun cs =>
  (cs.dropPrefix? keyword.toList).map fun rest => ((), rest)

/-- Takes the first keyword that the text begins with, and gives what it stands for. -/
def oneOf (keywords : List (String × α)) : Reader α := fun cs =>
  keywords.findSome? fun k => (cs.dropPrefix? k.1.toList).map fun rest => (k.2, rest)

/-- Takes all characters up to the first that is not of the kind. -/
def span (kind : Char → Bool) : Reader (List Char) := fun cs =>
  some (cs.takeWhile kind, cs.dropWhile kind)

/-- Takes the keyword and what the reader takes behind it, if the text begins with the keyword. -/
def maybe (keyword : String) (r : Reader α) : Reader (Option α) := fun cs =>
  match cs.dropPrefix? keyword.toList with
  | none => some (none, cs)
  | some rest => (r rest).map fun p => (some p.1, p.2)

/-- Takes the keyword and what the reader takes behind it, as often as the keyword stands there. -/
def repeated (keyword : String) (r : Reader α) : Reader (List α) := fun cs =>
  match cs.dropPrefix? keyword.toList with
  | none => some ([], cs)
  | some rest =>
    match r rest with
    | none => none
    | some (a, rest) =>
      if rest.length < cs.length then
        (repeated keyword r rest).map fun p => (a :: p.1, p.2)
      else none
termination_by cs => cs.length

/-- Takes what the reader takes, once or more often, with the separator between. -/
def items (separator : String) (r : Reader α) : Reader (List α) := do
  let a ← r
  let as ← repeated separator r
  return a :: as

/-- Takes what stands in front of the closing quote, and the quote. A quote that is written twice is
    one of the characters, and if there are escapes, a backslash makes another character of the
    one behind it. -/
def quoted (quote : Char) (escapes : List (Char × Char)) : Reader (List Char)
  | [] => none
  | [c] => if c = quote then some ([], []) else none
  | c :: d :: cs =>
    if c = quote then
      if d = quote then (quoted quote escapes cs).map fun p => (quote :: p.1, p.2)
      else some ([], d :: cs)
    else if c = '\\' ∧ escapes ≠ [] then do
      let e ← escapes.lookup d
      let (es, rest) ← quoted quote escapes cs
      return (e :: es, rest)
    else (quoted quote escapes (d :: cs)).map fun p => (c :: p.1, p.2)

/-- Characters of the kind, in front of one that is not, or of nothing. -/
theorem span_append {kind : Char → Bool} {cs rest : List Char} (hcs : cs.all kind = true)
    (hrest : rest.head?.all (fun c => !kind c) = true) :
    span kind (cs ++ rest) = some (cs, rest) := by
  have hspan : rest.takeWhile kind = [] ∧ rest.dropWhile kind = rest := by
    cases rest with
    | nil => simp
    | cons c cs =>
      have hc : kind c = false := by simpa using hrest
      simp [hc]
  have hcs := List.all_eq_true.mp hcs
  simp only [span, List.takeWhile_append_of_pos hcs, List.dropWhile_append_of_pos hcs,
    hspan, List.append_nil]

/-- Behind what the first reader takes the second goes on. -/
theorem bind_of_eq {r : Reader α} {f : α → Reader β} {cs rest : List Char} {a : α}
    (h : r cs = some (a, rest)) : (r >>= f) cs = f a rest := by
  show (r cs).bind (fun p => f p.1 p.2) = _
  rw [h, Option.bind_some]

end Reader

/-! What a text may go on with. -/

/-- The text begins with one of the openings. -/
def Before (openings : List String) (cs : List Char) : Prop :=
  ∃ o ∈ openings, o.toList <+: cs

/-- One of the openings is what the keyword begins with. -/
def opens (openings : List String) (keyword : String) : Bool :=
  openings.any fun o => o.toList.isPrefixOf keyword.toList

/-- No text begins both with the keyword and with one of the openings. -/
def apart (keyword : String) (openings : List String) : Bool :=
  openings.all fun o =>
    !o.toList.isPrefixOf keyword.toList && !keyword.toList.isPrefixOf o.toList

section Before

variable {os ps : List String} {keyword : String} {cs : List Char}

theorem before_of_opens (h : opens os keyword = true) (cs : List Char) :
    Before os (keyword.toList ++ cs) := by
  obtain ⟨o, ho, hpre⟩ := List.any_eq_true.mp h
  exact ⟨o, ho, (List.isPrefixOf_iff_prefix.mp hpre).trans (List.prefix_append _ _)⟩

/-- What begins with the keyword begins with one of the openings, if the keyword does. -/
theorem Before.mono (h : Before os cs) (hos : os.all (opens ps) = true) : Before ps cs := by
  obtain ⟨o, ho, rest, rfl⟩ := h
  exact before_of_opens (List.all_eq_true.mp hos o ho) rest

theorem Before.cons (h : Before os cs) (o : String) : Before (o :: os) cs := by
  obtain ⟨p, hp, hpre⟩ := h
  exact ⟨p, List.mem_cons_of_mem _ hp, hpre⟩

/-- In front of it there may be a part that is told by its keyword. -/
theorem Before.part {γ : Type} {text : γ → String} {o : Option γ} (h : Before os cs)
    (htext : ∀ c ∈ o, ∃ body, " " ++ text c = keyword ++ body) :
    Before (keyword :: os) ((Sql.part text o).toList ++ cs) := by
  cases o with
  | none => exact h.cons keyword
  | some c =>
    obtain ⟨body, hbody⟩ := htext c rfl
    show Before _ ((" " ++ text c).toList ++ cs)
    rw [hbody, String.toList_append, List.append_assoc]
    exact before_of_opens (by simp [opens]) _

/-- In front of it there may be parts that are all told by the keyword. -/
theorem Before.joined {γ : Type} {text : γ → String} {as : List γ} (h : Before os cs)
    (htext : ∀ a ∈ as, ∃ body, text a = keyword ++ body) :
    Before (keyword :: os) ((String.join (as.map text)).toList ++ cs) := by
  cases as with
  | nil => exact h.cons keyword
  | cons a as =>
    obtain ⟨body, hbody⟩ := htext a List.mem_cons_self
    rw [List.map_cons, String.join_cons, hbody, String.toList_append, String.toList_append,
      List.append_assoc, List.append_assoc]
    exact before_of_opens (by simp [opens]) _

/-- What every opening begins with, the text begins with. -/
theorem Before.head {kind : Char → Bool} (h : Before os cs)
    (hos : (os.all fun o => o.toList.head?.any kind) = true) : cs.head?.any kind = true := by
  obtain ⟨o, ho, rest, rfl⟩ := h
  have ho := List.all_eq_true.mp hos o ho
  cases hchars : o.toList with
  | nil => simp [hchars] at ho
  | cons c cs => simpa [hchars] using ho

/-- It does not begin with a character with which no opening begins. -/
theorem Before.head?_ne {c : Char} (h : Before os cs)
    (hos : (os.all fun o => o.toList.head?.any (· ≠ c)) = true) : cs.head? ≠ some c := by
  intro hc
  simpa [hc] using h.head hos

/-- Of two keywords that stand apart a text begins with one at most. -/
theorem dropPrefix?_of_apart (h : apart keyword os = true) (hcs : Before os cs) :
    cs.dropPrefix? keyword.toList = none := by
  obtain ⟨o, ho, hpre⟩ := hcs
  have hapart := List.all_eq_true.mp h o ho
  simp only [Bool.and_eq_true, Bool.not_eq_true', Bool.eq_false_iff, ne_eq,
    List.isPrefixOf_iff_prefix] at hapart
  rw [Option.eq_none_iff_forall_not_mem]
  intro rest hrest
  obtain ⟨front, hcs, hfront⟩ := List.dropPrefix?_eq_some_iff.mp hrest
  have hkeyword : keyword.toList <+: cs := by
    rw [hcs, beq_iff_eq.mp hfront]
    exact List.prefix_append _ _
  rcases Nat.le_total o.toList.length keyword.toList.length with hle | hle
  · exact hapart.1 (List.prefix_of_prefix_length_le hpre hkeyword hle)
  · exact hapart.2 (List.prefix_of_prefix_length_le hkeyword hpre hle)

theorem dropPrefix?_self (keyword : String) (cs : List Char) :
    (keyword.toList ++ cs).dropPrefix? keyword.toList = some cs :=
  List.dropPrefix?_append_of_beq _ (beq_self_eq_true _)

end Before

/-- Items that all wrote something stand one behind the other, each but the first behind the
    separator. -/
theorem separated_eq_join (separator item : String) (rest : List String)
    (h : ∀ i ∈ item :: rest, i ≠ "") :
    separated separator (item :: rest) =
      item ++ String.join (rest.map fun i => separator ++ i) := by
  induction rest generalizing item with
  | nil => simp
  | cons next rest ih =>
    rw [Text.separated_cons_of_ne separator (h item List.mem_cons_self),
      ih next fun i hi => h i (List.mem_cons_of_mem _ hi), List.map_cons, String.join_cons]
    simp only [String.append_assoc]

/-- Items that follow others stand each behind the separator. -/
theorem separated_append (separator : String) {items : List String} (hitems : items ≠ [])
    (rest : List String) (h : ∀ i ∈ items ++ rest, i ≠ "") :
    separated separator (items ++ rest) =
      separated separator items ++ String.join (rest.map fun i => separator ++ i) := by
  obtain ⟨item, items, rfl⟩ := List.exists_cons_of_ne_nil hitems
  rw [List.cons_append] at h ⊢
  rw [separated_eq_join _ _ _ h, separated_eq_join _ _ _ fun i hi =>
    h i (List.mem_append_left rest hi), List.map_append, String.join_append, String.append_assoc]

/-! What is read. -/

/-- Wherever the text goes on with one of the openings, the reader takes it whole and no character
    more, and gives the value. -/
def Reads {α : Type} (r : Reader α) (text : String) (a : α) (next : List String) : Prop :=
  ∀ rest, Before next rest → r (text.toList ++ rest) = some (a, rest)

/-- The text begins with the keyword, and what stands behind it is read. -/
def ReadsBehind {α : Type} (keyword : String) (r : Reader α) (text : String) (a : α)
    (next : List String) : Prop :=
  ∃ body, text = keyword ++ body ∧ Reads r body a next

namespace Reads

open Reader

variable {α β : Type} {r : Reader α} {a : α} {b : β} {s t keyword : String}
  {mid next : List String}

/-- A text that is read is what the whole of it is read as. -/
theorem parse (h : Reads r s a [""]) : r.parse s = some a := by
  have hr := h [] ⟨"", List.mem_singleton.mpr rfl, List.nil_prefix⟩
  rw [List.append_nil] at hr
  simp [Reader.parse, StateT.run, hr]

theorem mono (h : Reads r s a mid) (hnext : next.all (opens mid) = true) : Reads r s a next :=
  fun rest hrest => h rest (hrest.mono hnext)

theorem pure (a : α) (next : List String) : Reads (pure a) "" a next := fun _ _ => rfl

theorem bind {f : α → Reader β} (hr : Reads r s a mid) (hf : Reads (f a) t b next)
    (h : ∀ rest, Before next rest → Before mid (t.toList ++ rest)) :
    Reads (r >>= f) (s ++ t) b next := by
  intro rest hrest
  rw [String.toList_append, List.append_assoc, bind_of_eq (hr _ (h rest hrest))]
  exact hf rest hrest

/-- What is read last, and then made into a value. -/
theorem last {f : α → Reader β} (hr : Reads r s a next) (hf : ∀ cs, f a cs = some (b, cs)) :
    Reads (r >>= f) s b next := by
  intro rest hrest
  rw [bind_of_eq (hr rest hrest)]
  exact hf rest

/-- What is read in front of a keyword. -/
theorem before {f : α → Reader β} (hr : Reads r s a mid) (hkeyword : opens mid keyword = true)
    (hf : Reads (f a) (keyword ++ t) b next) : Reads (r >>= f) (s ++ (keyword ++ t)) b next := by
  refine hr.bind hf fun rest _ => ?_
  rw [String.toList_append, List.append_assoc]
  exact before_of_opens hkeyword _

theorem expect (keyword : String) (next : List String) :
    Reads (expect keyword) keyword () next := by
  intro rest _
  simp only [Reader.expect, dropPrefix?_self, Option.map_some]

/-- What is read behind a keyword. -/
theorem behind {f : Unit → Reader β} (hf : Reads (f ()) t b next) :
    Reads (Reader.expect keyword >>= f) (keyword ++ t) b next := by
  refine (Reads.expect keyword [""]).bind hf fun rest _ => ?_
  exact ⟨"", List.mem_singleton.mpr rfl, List.nil_prefix⟩

/-- A keyword of a list in which every two stand apart. -/
theorem oneOf {keywords : List (String × α)} (h : (keyword, a) ∈ keywords)
    (hapart : keywords.Pairwise fun k l => apart k.1 [l.1] = true) (next : List String) :
    Reads (oneOf keywords) keyword a next := by
  intro rest _
  induction keywords with
  | nil => cases h
  | cons k keywords ih =>
    rw [List.pairwise_cons] at hapart
    simp only [Reader.oneOf, List.findSome?_cons]
    rcases List.mem_cons.mp h with rfl | h
    · rw [dropPrefix?_self, Option.map_some]
    · rw [dropPrefix?_of_apart (hapart.1 _ h) (before_of_opens (by simp [opens]) rest)]
      exact ih h hapart.2

/-- What is read behind such a keyword. -/
theorem choice {f : α → Reader β} {keywords : List (String × α)} (h : (keyword, a) ∈ keywords)
    (hapart : keywords.Pairwise fun k l => apart k.1 [l.1] = true) (hf : Reads (f a) t b next) :
    Reads (Reader.oneOf keywords >>= f) (keyword ++ t) b next :=
  (oneOf h hapart [""]).bind hf fun _ _ => ⟨"", List.mem_singleton.mpr rfl, List.nil_prefix⟩

/-- Characters of the kind, in front of one that is not. -/
theorem span {kind : Char → Bool} (hs : s.toList.all kind = true)
    (hnext : (next.all fun o => o.toList.head?.any fun c => !kind c) = true) :
    Reads (span kind) s s.toList next := by
  intro rest hrest
  have hhead := hrest.head hnext
  refine span_append hs ?_
  cases rest with
  | nil => rfl
  | cons c cs => simpa using hhead

/-! Parts that may be missing, and parts that stand there several times. -/

section Parts

variable {γ : Type} {text body : γ → String} {value : γ → α}

theorem maybe_none (r : Reader α) (hapart : apart keyword next = true) :
    Reads (maybe keyword r) "" none next := by
  intro rest hrest
  show maybe keyword r rest = _
  simp only [maybe, dropPrefix?_of_apart hapart hrest]

theorem maybe_some (h : ReadsBehind keyword r s a next) :
    Reads (maybe keyword r) s (some a) next := by
  obtain ⟨body, rfl, hr⟩ := h
  intro rest hrest
  rw [String.toList_append, List.append_assoc]
  simp only [maybe, dropPrefix?_self, hr rest hrest, Option.map_some]

/-- A part that may be missing is told by its keyword. -/
theorem part {o : Option γ} (hr : ∀ c ∈ o, ReadsBehind keyword r (" " ++ text c) (value c) next)
    (hapart : apart keyword next = true) :
    Reads (maybe keyword r) (Sql.part text o) (o.map value) next := by
  cases o with
  | none => exact maybe_none r hapart
  | some c => exact maybe_some (hr c rfl)

/-- Parts that stand one behind the other, each told by the keyword. -/
theorem repeated {cs : List γ}
    (hr : ∀ c ∈ cs, ReadsBehind keyword r (text c) (value c) (keyword :: next))
    (hkeyword : keyword ≠ "") (hapart : apart keyword next = true) :
    Reads (repeated keyword r) (String.join (cs.map text)) (cs.map value) next := by
  intro rest hrest
  -- Behind a part there is the keyword of the next one, or what all of them go on with.
  induction cs with
  | nil =>
    show Reader.repeated keyword r rest = _
    rw [Reader.repeated, dropPrefix?_of_apart hapart hrest]
    rfl
  | cons c cs ih =>
    have htail : ∀ d ∈ cs, ReadsBehind keyword r (text d) (value d) (keyword :: next) :=
      fun d hd => hr d (List.mem_cons_of_mem _ hd)
    have hrest' := hrest.joined fun d hd => (htail d hd).imp fun _ h => h.1
    have hpos : 0 < keyword.toList.length :=
      List.length_pos_of_ne_nil fun h => hkeyword (String.toList_eq_nil_iff.mp h)
    obtain ⟨body, hbody, hread⟩ := hr c List.mem_cons_self
    rw [List.map_cons, String.join_cons, hbody, String.toList_append, String.toList_append,
      List.append_assoc, List.append_assoc, Reader.repeated, dropPrefix?_self]
    simp only [hread _ hrest', ih htail]
    -- A keyword was taken, so that the text is shorter.
    rw [if_pos (by simp only [List.length_append]; omega)]
    rfl

/-- A text that is read is not empty, if the reader refuses something that it may go on with. -/
theorem ne_empty {cs : List Char} (hr : Reads r s a next) (hcs : Before next cs)
    (hrefuse : r cs = none) : s ≠ "" := by
  rintro rfl
  have h := hr cs hcs
  rw [String.toList_empty, List.nil_append, hrefuse] at h
  cases h

/-- Items between separators, if an item does not begin with one. -/
theorem items {cs : List γ} {separator : String} (hcs : cs ≠ [])
    (hr : ∀ c ∈ cs, Reads r (body c) (value c) (separator :: next))
    (hrefuse : r separator.toList = none) (hseparator : separator ≠ "")
    (hapart : apart separator next = true) :
    Reads (items separator r) (separated separator (cs.map body)) (cs.map value) next := by
  have hbody : ∀ c ∈ cs, body c ≠ "" := fun c hc =>
    (hr c hc).ne_empty ⟨separator, List.mem_cons_self, List.prefix_rfl⟩ hrefuse
  obtain ⟨c, cs, rfl⟩ := List.exists_cons_of_ne_nil hcs
  have hrest : ∀ d ∈ cs, ReadsBehind separator r (separator ++ body d) (value d)
      (separator :: next) :=
    fun d hd => ⟨body d, rfl, hr d (List.mem_cons_of_mem _ hd)⟩
  rw [List.map_cons, separated_eq_join, List.map_map]
  · refine (hr c List.mem_cons_self).bind ?_ fun rest h => ?_
    · exact (repeated hrest hseparator hapart).last fun _ => rfl
    · exact h.joined fun d hd => (hrest d hd).imp fun _ h => h.1
  · intro i hi
    rw [← List.map_cons, List.mem_map] at hi
    obtain ⟨d, hd, rfl⟩ := hi
    exact hbody d hd

end Parts

end Reads

/-- The text is read, and begins with one of the openings. -/
structure ReadsFrom {α : Type} (openings : List String) (r : Reader α) (text : String) (a : α)
    (next : List String) : Prop where
  reads : Reads r text a next
  begins : ∀ rest, Before next rest → Before openings (text.toList ++ rest)

/-- What is read in front of a text that begins as it must. -/
theorem Reads.followed {α β : Type} {r : Reader α} {f : α → Reader β} {a : α} {b : β}
    {s t : String} {mid next : List String} (hr : Reads r s a mid)
    (hf : ReadsFrom mid (f a) t b next) : Reads (r >>= f) (s ++ t) b next :=
  hr.bind hf.reads hf.begins

namespace ReadsFrom

open Reader

variable {α β γ : Type} {r : Reader α} {b : β} {t keyword : String} {mid next : List String}
  {text : γ → String} {value : γ → α}

theorem expect {f : Unit → Reader β} (hf : Reads (f ()) t b next) :
    ReadsFrom [keyword] (Reader.expect keyword >>= f) (keyword ++ t) b next := by
  refine ⟨.behind hf, fun rest _ => ?_⟩
  rw [String.toList_append, List.append_assoc]
  exact before_of_opens (by simp [opens]) _

/-- In front of a text there may be a part, if it is told by its keyword. -/
theorem part {f : Option α → Reader β} {o : Option γ}
    (hr : ∀ c ∈ o, ReadsBehind keyword r (" " ++ text c) (value c) mid)
    (hapart : apart keyword mid = true) (hf : ReadsFrom mid (f (o.map value)) t b next) :
    ReadsFrom (keyword :: mid) (maybe keyword r >>= f) (Sql.part text o ++ t) b next := by
  refine ⟨(Reads.part hr hapart).followed hf, fun rest hrest => ?_⟩
  rw [String.toList_append, List.append_assoc]
  exact (hf.begins rest hrest).part fun c hc => (hr c hc).imp fun _ h => h.1

/-- There may be several, if all are told by the keyword. -/
theorem repeated {f : List α → Reader β} {cs : List γ}
    (hr : ∀ c ∈ cs, ReadsBehind keyword r (text c) (value c) (keyword :: mid))
    (hkeyword : keyword ≠ "") (hapart : apart keyword mid = true)
    (hf : ReadsFrom mid (f (cs.map value)) t b next) :
    ReadsFrom (keyword :: mid) (Reader.repeated keyword r >>= f)
      (String.join (cs.map text) ++ t) b next := by
  refine ⟨(Reads.repeated hr hkeyword hapart).followed hf, fun rest hrest => ?_⟩
  rw [String.toList_append, List.append_assoc]
  exact (hf.begins rest hrest).joined fun c hc => (hr c hc).imp fun _ h => h.1

end ReadsFrom

/-! What stands at the end of a text. -/

namespace Reader

variable {α β : Type} {r : Reader α} {a : α} {s t keyword : String}

/-- A text is read as a value if nothing of it is left. -/
theorem parse_eq_some_iff : r.parse t = some a ↔ r t.toList = some (a, []) := by
  simp only [parse, StateT.run]
  split
  · next h => simp [h]
  · next hleft => exact ⟨nofun, fun h => absurd h (hleft a)⟩

/-- Behind what was taken in front of the rest, the rest is read. -/
theorem parse_bind {f : α → Reader β} (h : r (s.toList ++ t.toList) = some (a, t.toList)) :
    (r >>= f).parse (s ++ t) = (f a).parse t := by
  simp only [parse, StateT.run, String.toList_append, bind_of_eq h]

theorem parse_expect (f : Unit → Reader β) :
    (expect keyword >>= f).parse (keyword ++ t) = (f ()).parse t :=
  parse_bind (by simp only [expect, dropPrefix?_self, Option.map_some])

/-- A keyword alone. -/
theorem maybe_pure (keyword : String) (cs : List Char) :
    maybe keyword (pure ()) (keyword.toList ++ cs) = some (some (), cs) := by
  simp only [maybe, dropPrefix?_self]
  rfl

/-- A part that is missing, though others may follow. -/
theorem parse_maybe_none {f : Option α → Reader β}
    (h : t.toList.dropPrefix? keyword.toList = none) :
    (maybe keyword r >>= f).parse t = (f none).parse t := by
  have hmaybe : maybe keyword r ("".toList ++ t.toList) = some (none, t.toList) := by
    rw [String.toList_empty, List.nil_append]
    simp only [maybe, h]
  have hbind := parse_bind (f := f) hmaybe
  rwa [String.empty_append] at hbind

/-- Behind what goes to the end there is nothing to be read. -/
theorem parse_last {f : α → Reader β} (h : r.parse t = some a) :
    (r >>= f).parse t = (f a).parse "" := by
  have hr : r (t.toList ++ "".toList) = some (a, "".toList) := by
    rw [String.toList_empty, List.append_nil]
    exact parse_eq_some_iff.mp h
  have hbind := parse_bind (f := f) hr
  rwa [String.append_empty] at hbind

/-- A part that goes to the end. -/
theorem parse_maybe_some (h : r.parse t = some a) :
    (maybe keyword r).parse (keyword ++ t) = some (some a) := by
  rw [parse_eq_some_iff, String.toList_append]
  simp only [maybe, dropPrefix?_self, parse_eq_some_iff.mp h, Option.map_some]

end Reader

/-! What stands between quotes. -/

section Quoted

variable {quote : Char} {escapes : List (Char × Char)} {c : Char} {cs : List Char}

open Reader

theorem quoted_end (h : cs.head? ≠ some quote) :
    quoted quote escapes (quote :: cs) = some ([], cs) := by
  cases cs with
  | nil => simp [quoted]
  | cons d cs =>
    have hd : d ≠ quote := fun e => h (by simp [e])
    simp [quoted, hd]

theorem quoted_doubled :
    quoted quote escapes (quote :: quote :: cs) =
      (quoted quote escapes cs).map fun p => (quote :: p.1, p.2) := by
  simp [quoted]

theorem quoted_escaped {d : Char} (hquote : quote ≠ '\\') (hd : escapes.lookup d = some c) :
    quoted quote escapes ('\\' :: d :: cs) =
      (quoted quote escapes cs).map fun p => (c :: p.1, p.2) := by
  have hne : escapes ≠ [] := by
    rintro rfl
    cases hd
  simp only [quoted, hquote.symm, if_false, ne_eq, hne, not_false_eq_true, and_self, if_true, hd]
  cases quoted quote escapes cs <;> rfl

theorem quoted_cons (hc : c ≠ quote) (hescape : c ≠ '\\' ∨ escapes = []) :
    quoted quote escapes (c :: cs) =
      (quoted quote escapes cs).map fun p => (c :: p.1, p.2) := by
  have hplain : ¬ (c = '\\' ∧ escapes ≠ []) := by
    rintro ⟨hbackslash, hne⟩
    exact hescape.elim (fun h => h hbackslash) hne
  cases cs with
  | nil => simp [quoted, hc]
  | cons d cs => simp only [quoted, hc, hplain, if_false]

/-- What was written for each character is read as that character, and the first quote that is not
    doubled ends it. -/
theorem quoted_flatMap {f : Char → List Char}
    (hf : ∀ c rest, quoted quote escapes (f c ++ rest) =
      (quoted quote escapes rest).map fun p => (c :: p.1, p.2))
    {rest : List Char} (hrest : rest.head? ≠ some quote) (cs : List Char) :
    quoted quote escapes (cs.flatMap f ++ quote :: rest) = some (cs, rest) := by
  induction cs with
  | nil => exact quoted_end hrest
  | cons c cs ih => rw [List.flatMap_cons, List.append_assoc, hf, ih, Option.map_some]

/-- What stands between quotes, where no third one follows. -/
theorem Reads.quoted {f : Char → List Char}
    (hf : ∀ c rest, quoted quote escapes (f c ++ rest) =
      (quoted quote escapes rest).map fun p => (c :: p.1, p.2))
    {next : List String} (hnext : (next.all fun o => o.toList.head?.any (· ≠ quote)) = true)
    (cs : List Char) :
    Reads (quoted quote escapes) (String.ofList (cs.flatMap f) ++ String.ofList [quote]) cs
      next := by
  intro rest hrest
  rw [String.toList_append, String.toList_ofList, String.toList_ofList, List.append_assoc]
  exact quoted_flatMap hf (hrest.head?_ne hnext) cs

end Quoted

end SqlBatch.Sql
