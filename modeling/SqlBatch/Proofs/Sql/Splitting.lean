import SqlBatch.Text.Separated
/- How the statements of a text are told apart. The text is read character by character, and cut
   behind every semicolon that stands neither between quotes nor in a comment.
     1. `Sealed`: a text in which nothing is cut, and behind which the reading stands where it stood
        before. `Sealed.append`, `sealed_separated`: what is composed of such texts is one.
     2. `sealed_of_plain`, `Reading.through_dash`, `Reading.through_quoted`: a word, what follows a
        sign, and what stands between quotes.
     3. `split_join`: sealed texts that are each closed by a semicolon are told apart. -/
namespace SqlBatch.Sql

open Text (separated)

/-- Where the reading of a text stands. -/
inductive Reading where
  /-- Outside of quotes and comments. -/
  | bare
  /-- Outside, behind a dash. -/
  | dash
  /-- Outside, behind two dashes. -/
  | dashes
  /-- Outside, behind a slash. -/
  | slash
  /-- Between quotes. -/
  | quoted (quote : Char)
  /-- Between quotes, behind a backslash. -/
  | escaped (quote : Char)
  /-- In a comment that ends with the line. -/
  | line
  /-- In a comment that an asterisk and a slash end. -/
  | block
  /-- In such a comment, behind an asterisk. -/
  | star
  deriving DecidableEq, Repr

namespace Reading

/-- A semicolon that stands here closes a statement. -/
def isOutside : Reading → Bool
  | .bare | .dash | .dashes | .slash => true
  | _ => false

/-- Where a character leads that stands outside of quotes and comments. -/
def start (c : Char) : Reading :=
  if c = '\'' || c = '"' || c = '`' then .quoted c
  else if c = '#' then .line
  else if c = '-' then .dash
  else if c = '/' then .slash
  else .bare

/-- Where a character leads. Two dashes begin a comment if a blank follows them. A backslash escapes
    what follows it, but not between backticks. A quote that is written twice ends what is quoted
    and at once begins it again. -/
def next : Reading → Char → Reading
  | .bare, c => start c
  | .dash, c => if c = '-' then .dashes else start c
  | .dashes, c => if c = ' ' then .line else if c = '-' then .dashes else start c
  | .slash, c => if c = '*' then .block else start c
  | .quoted q, c =>
    if c = q then .bare else if c = '\\' && q ≠ '`' then .escaped q else .quoted q
  | .escaped q, _ => .quoted q
  | .line, c => if c = '\n' then .bare else .line
  | .block, c => if c = '*' then .star else .block
  | .star, c => if c = '/' then .bare else if c = '*' then .star else .block

/-- The text is cut behind the character. -/
def cuts (r : Reading) (c : Char) : Bool := r.isOutside && c = ';'

/-- Where a text leads in which nothing is cut. -/
def through (r : Reading) : List Char → Option Reading
  | [] => some r
  | c :: cs => if r.cuts c then none else (r.next c).through cs

/-- The pieces that a text is cut into. What follows the last cut is a piece of its own. -/
def pieces (r : Reading) : List Char → List (List Char)
  | [] => []
  | c :: cs =>
    if r.cuts c then [c] :: pieces .bare cs
    else
      match (r.next c).pieces cs with
      | [] => [[c]]
      | piece :: rest => (c :: piece) :: rest

theorem through_append (r : Reading) (cs ds : List Char) :
    r.through (cs ++ ds) = (r.through cs).bind fun r' => r'.through ds := by
  induction cs generalizing r with
  | nil => rfl
  | cons c cs ih =>
    simp only [List.cons_append, through]
    split
    · rfl
    · exact ih _

/-- The first piece ends with the first semicolon behind which the text is cut. -/
theorem pieces_of_through {r r' : Reading} {cs : List Char} (h : r.through cs = some r')
    (hr : r'.isOutside = true) (ds : List Char) :
    r.pieces (cs ++ ';' :: ds) = (cs ++ [';']) :: pieces .bare ds := by
  induction cs generalizing r with
  | nil =>
    cases h
    simp [pieces, cuts, hr]
  | cons c cs ih =>
    simp only [through] at h
    split at h
    · cases h
    · next hc => simp only [List.cons_append, pieces, hc, ih h, Bool.false_eq_true, if_false]

end Reading

/-- The statements of a text. -/
def split (text : String) : List String :=
  (Reading.pieces .bare text.toList).map String.ofList

/-- Nothing is cut in the text, and behind it the reading stands where it stood before. -/
def Sealed (text : String) : Prop := Reading.through .bare text.toList = some .bare

/-! What is composed of sealed texts. -/

section Sealed

variable {a b : String}

theorem sealed_empty : Sealed "" := rfl

theorem Sealed.append (ha : Sealed a) (hb : Sealed b) : Sealed (a ++ b) := by
  unfold Sealed at *
  rw [String.toList_append, Reading.through_append, ha]
  exact hb

theorem sealed_separated {separator : String} {items : List String} (hs : Sealed separator)
    (h : ∀ item ∈ items, Sealed item) : Sealed (separated separator items) := by
  fun_induction separated separator items with
  | case1 => exact sealed_empty
  | case2 item => exact h item (List.mem_singleton.mpr rfl)
  | case3 item rest hrest ih =>
    refine ((h item List.mem_cons_self).append ?_).append
      (ih fun x hx => h x (List.mem_cons_of_mem _ hx))
    split
    · exact sealed_empty
    · exact hs

theorem sealed_join {items : List String} (h : ∀ item ∈ items, Sealed item) :
    Sealed (String.join items) := by
  induction items with
  | nil => exact sealed_empty
  | cons item items ih =>
    rw [String.join_cons]
    exact (h item List.mem_cons_self).append (ih fun x hx => h x (List.mem_cons_of_mem _ hx))

end Sealed

/-! Texts that are sealed. -/

/-- The characters that outside of quotes and comments can begin one, or close a statement. -/
def specialChars : List Char := ['\'', '"', '`', '#', '-', '/', ';']

/-- The character is not one of them. -/
def isPlain (c : Char) : Bool := !specialChars.contains c

/-- The characters of a kind are plain, if none of the special ones is of that kind. -/
theorem isPlain_of_kind {kind : Char → Bool} (hkind : specialChars.any kind = false) {c : Char}
    (h : kind c = true) : isPlain c = true := by
  cases hc : isPlain c with
  | true => rfl
  | false =>
    have hmem : c ∈ specialChars := by simpa [isPlain] using hc
    exact absurd h (List.any_eq_false.mp hkind c hmem)

namespace Reading

variable {r : Reading} {c : Char} {cs : List Char}

theorem start_of_plain (h : isPlain c = true) : start c = .bare := by
  simp only [isPlain, specialChars, List.contains_cons, List.contains_nil, Bool.or_false,
    Bool.not_eq_true', Bool.or_eq_false_iff, beq_eq_false_iff_ne] at h
  simp [start, h]

theorem cuts_of_ne (r : Reading) (h : c ≠ ';') : r.cuts c = false := by
  simp [cuts, h]

theorem cuts_of_plain (r : Reading) (h : isPlain c = true) : r.cuts c = false := by
  refine cuts_of_ne r ?_
  rintro rfl
  cases h

theorem through_cons_plain (h : isPlain c = true) (cs : List Char) :
    through .bare (c :: cs) = through .bare cs := by
  simp only [through, cuts_of_plain _ h, next, start_of_plain h, Bool.false_eq_true, if_false]

theorem through_plain (h : ∀ c ∈ cs, isPlain c = true) : through .bare cs = some .bare := by
  induction cs with
  | nil => rfl
  | cons c cs ih =>
    rw [through_cons_plain (h c List.mem_cons_self)]
    exact ih fun x hx => h x (List.mem_cons_of_mem _ hx)

/-- A single dash begins no comment. -/
theorem through_dash (h : isPlain c = true) (cs : List Char) :
    through .bare ('-' :: c :: cs) = through .bare (c :: cs) := by
  have hdash : c ≠ '-' := by
    rintro rfl
    cases h
  rw [through_cons_plain h]
  have hstart : next .bare '-' = .dash := rfl
  have hnext : next .dash c = .bare := by simp [next, hdash, start_of_plain h]
  simp only [through, cuts_of_plain _ h, hstart, hnext]
  rfl

theorem through_flatMap {f : Char → List Char} (h : ∀ c, r.through (f c) = some r)
    (cs : List Char) : r.through (cs.flatMap f) = some r := by
  induction cs with
  | nil => rfl
  | cons c cs ih =>
    rw [List.flatMap_cons, through_append, h]
    exact ih

/-- What is written between quotes, if no part of it ends them. -/
theorem through_quoted {quote : Char} (hquote : start quote = .quoted quote) (hc : quote ≠ ';')
    (h : through (.quoted quote) cs = some (.quoted quote)) :
    through .bare (quote :: (cs ++ [quote])) = some .bare := by
  have hopen : cuts .bare quote = false := cuts_of_ne _ hc
  have hclosed : through (.quoted quote) [quote] = some .bare := by
    simp [through, cuts, isOutside, next]
  simp only [through, hopen, next, hquote, Bool.false_eq_true, if_false, through_append, h]
  exact hclosed

end Reading

/-- A text of which no character is special. -/
theorem sealed_of_plain {text : String} (h : text.toList.all isPlain = true) : Sealed text :=
  Reading.through_plain (List.all_eq_true.mp h)

/-- Such a text may follow a sealed one. -/
theorem Sealed.word {a b : String} (ha : Sealed a) (hb : b.toList.all isPlain = true) :
    Sealed (a ++ b) :=
  ha.append (sealed_of_plain hb)

/-! Statements one after another. -/

/-- The text of a statement that is closed by its last character, and by no other. -/
def Closed (text : String) : Prop := ∃ body, Sealed body ∧ text = body ++ ";"

/-- Such a text is cut off behind its last character, whatever follows it. -/
theorem Closed.split_append {text : String} (h : Closed text) (rest : String) :
    split (text ++ rest) = text :: split rest := by
  obtain ⟨body, hbody, rfl⟩ := h
  have hsplit : (body ++ ";" ++ rest).toList = body.toList ++ ';' :: rest.toList := by simp
  rw [split, hsplit, Reading.pieces_of_through hbody rfl, List.map_cons]
  congr 1
  rw [← String.toList_inj]
  simp

/-- Such texts are told apart wherever they stand one after another. -/
theorem split_join {texts : List String} (h : ∀ text ∈ texts, Closed text) :
    split (String.join texts) = texts := by
  induction texts with
  | nil => rfl
  | cons text texts ih =>
    have htext : Closed text := h text List.mem_cons_self
    rw [String.join_cons, htext.split_append, ih fun x hx => h x (List.mem_cons_of_mem _ hx)]

end SqlBatch.Sql
