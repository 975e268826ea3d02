import SqlBatch.Proofs.Sql.Reader
/- What the literals of a statement stand for. A literal is read by its first characters: a quote
   begins a string, and anything else is the longest word that can stand outside of quotes.
     1. `reads_string`: between single quotes every text is read back, character by character.
     2. `integer?_toString`, `bytesOfHexChars?_flatMap`: so are the digits of numbers and of bytes.
        Doubles are told from integers, and are known by their spelling.
     3. `reads_literal`: the literal of a value is read as what the value holds.
     4. `literal_decodes`: whatever follows it in a statement is left. -/
namespace SqlBatch

namespace Sql

/-- What a literal stands for. -/
inductive Content where
  | null
  | boolean (value : Bool)
  | integer (value : Int)
  /-- A number with a point or an exponent, as it is spelled. -/
  | decimal (spelling : String)
  | text (value : String)
  | bytes (value : List UInt8)
  /-- The text of a document, cast to the server's own type. -/
  | document (text : String)
  | lastInsertId
  | variable (name : String)
  deriving DecidableEq

end Sql

/-- What the literal of a value stands for. The dialects differ on documents alone. -/
def Value.content (d : Dialect) : Value → Sql.Content
  | .null => .null
  | .boolean b => .boolean b
  | .signed n => .integer n.toInt
  | .unsigned n => .integer n.toNat
  | .float x => if x.isFinite then .decimal (Sql.numberLayout.text x) else .null
  | .text s => .text s
  | .blob bytes => .bytes bytes
  | .json doc =>
    match d with
    | .generic => .text doc.render
    | .mysql => .document doc.render
  | .lastInsertId => .lastInsertId
  | .variable name => .variable name.text

namespace Sql

/-! Strings. -/

/-- The characters that stand behind a backslash, and those that they are read as. -/
def escapes : List (Char × Char) :=
  [('0', '\x00'), ('b', '\x08'), ('t', '\t'), ('n', '\n'), ('r', '\r'), ('Z', '\x1a'),
    ('"', '"'), ('\'', '\''), ('\\', '\\')]

/-- Takes a string between single quotes. -/
def Reader.string : Reader String := do
  expect "'"
  let cs ← quoted '\'' escapes
  return String.ofList cs

/-- What is written for a character in a string is read as the character. -/
theorem quoted_escapeChar (c : Char) (rest : List Char) :
    Reader.quoted '\'' escapes (escapeChar c ++ rest) =
      (Reader.quoted '\'' escapes rest).map fun p => (c :: p.1, p.2) := by
  have hescape {p e : Char} {cs : List Char} (he : escapes.lookup e = some p)
      (h : c ≠ p → Reader.quoted '\'' escapes (cs ++ rest) =
        (Reader.quoted '\'' escapes rest).map fun p => (c :: p.1, p.2)) :
      Reader.quoted '\'' escapes ((if c = p then ['\\', e] else cs) ++ rest) =
        (Reader.quoted '\'' escapes rest).map fun p => (c :: p.1, p.2) := by
    split
    · next hc =>
      subst hc
      exact quoted_escaped (by decide) he
    · next hc => exact h hc
  unfold escapeChar
  repeat refine hescape rfl fun _ => ?_
  next hquote hbackslash => exact quoted_cons hquote (.inl hbackslash)

theorem reads_string (s : String) {next : List String}
    (hnext : (next.all fun o => o.toList.head?.any (· ≠ '\'')) = true) :
    Reads Reader.string (string s) s next := by
  rw [string, String.append_assoc]
  refine Reads.behind ((Reads.quoted quoted_escapeChar hnext s.toList).last fun cs => ?_)
  rw [String.ofList_toList]
  rfl

/-! Numbers. -/

/-- The number that decimal digits spell. -/
def natural? (ds : List Char) : Option Nat :=
  if ds ≠ [] ∧ ds.all Char.isDigit then some (Nat.ofDigitChars 10 ds 0) else none

/-- The number that decimal digits spell, behind a minus if it is negative. -/
def integer? : List Char → Option Int
  | '-' :: ds => (natural? ds).map fun n : Nat => -(n : Int)
  | ds => (natural? ds).map Int.ofNat

theorem isDigit_toString (n : Nat) : (toString n).toList.all Char.isDigit = true := by
  rw [Nat.toString_eq_ofList_toDigits, String.toList_ofList, List.all_eq_true]
  exact fun c hc => Nat.isDigit_of_mem_toDigits (by decide) (by decide) hc

theorem natural?_toString (n : Nat) : natural? (toString n).toList = some n := by
  have hdigits := isDigit_toString n
  rw [Nat.toString_eq_ofList_toDigits, String.toList_ofList] at hdigits ⊢
  rw [natural?, if_pos ⟨Nat.toDigits_ne_nil, hdigits⟩,
    Nat.ofDigitChars_toDigits (by decide) (by decide)]

theorem integer?_of_natural? {ds : List Char} {n : Nat} (h : natural? ds = some n) :
    integer? ds = some (n : Int) := by
  unfold integer?
  split
  · simp [natural?] at h
  · rw [h]
    rfl

theorem integer?_toString (n : Int) : integer? (toString n).toList = some n := by
  cases n with
  | ofNat n => exact integer?_of_natural? (natural?_toString n)
  | negSucc n =>
    rw [toList_negSucc, integer?, natural?_toString, Option.map_some]
    rfl

/-! Bytes. -/

theorem hexValue?_hexDigit {n : Nat} (h : n < 16) : Text.hexValue? (Text.hexDigit n) = some n := by
  have hall : ∀ n < 16, Text.hexValue? (Text.hexDigit n) = some n := by decide
  exact hall n h

theorem bytesOfHexChars?_flatMap (bytes : List UInt8) :
    Text.bytesOfHexChars? (bytes.flatMap Text.hexByte) = some bytes := by
  induction bytes with
  | nil => rfl
  | cons byte bytes ih =>
    have hlt := byte.toNat_lt
    have hhigh := hexValue?_hexDigit (n := byte.toNat / 16) (by omega)
    have hlow := hexValue?_hexDigit (n := byte.toNat % 16) (by omega)
    have hbyte : UInt8.ofNat (16 * (byte.toNat / 16) + byte.toNat % 16) = byte := by
      rw [Nat.div_add_mod, UInt8.ofNat_toNat]
    rw [List.flatMap_cons, Text.hexByte]
    simp only [List.cons_append, List.nil_append, Text.bytesOfHexChars?, hhigh, hlow, ih,
      Option.bind_eq_bind, Option.bind_some, hbyte]
    rfl

/-! Words. -/

/-- A character that words outside of quotes are made of. -/
def isBare (c : Char) : Bool :=
  c.isAlphanum || ['_', '$', '.', '@', '-', '+'].contains c

/-- The words that are literals by themselves. -/
def keywords : List (String × Content) :=
  [("NULL", .null), ("true", .boolean true), ("false", .boolean false)]

/-- A character that numbers with a point or an exponent are made of. -/
def isNumeral (c : Char) : Bool := c.isDigit || ['.', 'e', '-', '+'].contains c

/-- What a word stands for. -/
def Content.ofWord? (word : List Char) : Option Content :=
  match integer? word with
  | some n => some (.integer n)
  | none =>
    match word with
    | [] => none
    | '@' :: _ => some (.variable (String.ofList word))
    | '0' :: 'x' :: digits => (Text.bytesOfHexChars? digits).map .bytes
    | _ =>
      if word.all isNumeral then some (.decimal (String.ofList word))
      else keywords.lookup (String.ofList word)

/-- Takes what goes on a literal that begins with the word. -/
def Content.readBehind (word : List Char) : Reader Content :=
  match String.ofList word with
  | "" => do
    let s ← Reader.string
    return .text s
  | "X" => do
    let digits ← Reader.string
    let bytes ← Text.bytesOfHex? digits
    return .bytes bytes
  | "LAST_INSERT_ID" => do
    Reader.expect "()"
    return .lastInsertId
  | "CAST" => do
    Reader.expect "("
    let s ← Reader.string
    Reader.expect " AS JSON)"
    return .document s
  | _ => Content.ofWord? word

/-- Takes a literal. -/
def Content.read : Reader Content := do
  let word ← Reader.span isBare
  Content.readBehind word

/-! Literals. -/

/-- What a literal may be followed by. -/
def stops : List String := [" ", ",", ")", ";"]

/-- A word that is a literal by itself begins no other one. -/
theorem readBehind_of_word {word : List Char} {c : Content} (h : Content.ofWord? word = some c) :
    Content.readBehind word = pure c := by
  have hword {keyword : String} (hk : Content.ofWord? keyword.toList = none) :
      String.ofList word ≠ keyword := by
    rintro rfl
    rw [String.toList_ofList, h] at hk
    cases hk
  unfold Content.readBehind
  split
  · next heq => exact absurd heq (hword rfl)
  · next heq => exact absurd heq (hword rfl)
  · next heq => exact absurd heq (hword rfl)
  · next heq => exact absurd heq (hword rfl)
  · rw [h]
    rfl

theorem reads_word {w : String} {c : Content} (hw : w.toList.all isBare = true)
    (hc : Content.ofWord? w.toList = some c) : Reads Content.read w c stops := by
  refine (Reads.span hw rfl).last fun cs => ?_
  rw [readBehind_of_word hc]
  rfl

/-- A literal that goes on behind the word that it begins with. -/
theorem reads_behind {w keyword t : String} {c : Content} (hw : w.toList.all isBare = true)
    (hkeyword : keyword.toList.head?.any (fun c => !isBare c) = true)
    (ht : Reads (Content.readBehind w.toList) (keyword ++ t) c stops) :
    Reads Content.read (w ++ (keyword ++ t)) c stops := by
  have hword : Reads (Reader.span isBare) w w.toList [keyword] :=
    Reads.span hw (by simpa using hkeyword)
  exact hword.before (by simp [opens]) ht

theorem reads_text (s : String) : Reads Content.read (string s) (.text s) stops := by
  have htext : string s = "" ++ ("'" ++ (String.ofList (s.toList.flatMap escapeChar) ++ "'")) := by
    rw [string, String.append_assoc, String.empty_append]
  rw [htext]
  refine reads_behind rfl rfl ?_
  rw [← String.append_assoc]
  exact (reads_string s rfl).last fun _ => rfl

/-- A document is a string that is cast. -/
theorem reads_document (s : String) :
    Reads Content.read ("CAST(" ++ string s ++ " AS JSON)") (.document s) stops := by
  have htext : "CAST(" ++ string s ++ " AS JSON)" =
      "CAST" ++ ("(" ++ (string s ++ (" AS JSON)" ++ ""))) := by
    simp only [← String.append_assoc, String.append_empty]
    rfl
  rw [htext]
  have hstring : Reads Reader.string (string s) s [" "] := reads_string s rfl
  refine reads_behind rfl rfl (.behind (hstring.before rfl (.behind ?_)))
  exact .pure _ _

theorem ofWord?_of_integer? {word : List Char} {n : Int} (h : integer? word = some n) :
    Content.ofWord? word = some (.integer n) := by
  unfold Content.ofWord?
  rw [h]

theorem isBare_of_isNumeral {c : Char} (h : isNumeral c = true) : isBare c = true := by
  simp only [isNumeral, Bool.or_eq_true, List.contains_iff_mem] at h
  rcases h with h | h
  · simp [isBare, Char.isAlphanum, h]
  · have hmarks : ∀ c ∈ ['.', 'e', '-', '+'], isBare c = true := List.all_eq_true.mp rfl
    exact hmarks c h

theorem isNumeral_toString (n : Nat) : (toString n).toList.all isNumeral = true := by
  rw [List.all_eq_true]
  intro c hc
  have hdigit := List.all_eq_true.mp (isDigit_toString n) c hc
  simp [isNumeral, hdigit]

theorem isNumeral_int (n : Int) : (toString n).toList.all isNumeral = true := by
  cases n with
  | ofNat n => exact isNumeral_toString n
  | negSucc n =>
    rw [toList_negSucc, List.all_cons, isNumeral_toString]
    rfl

theorem reads_integer (n : Int) : Reads Content.read (toString n) (.integer n) stops := by
  refine reads_word ?_ (ofWord?_of_integer? (integer?_toString n))
  exact List.all_eq_true.mpr fun c hc =>
    isBare_of_isNumeral (List.all_eq_true.mp (isNumeral_int n) c hc)

/-! Doubles. -/

theorem integer?_of_mem {ds : List Char} {c : Char} (hc : c ∈ ds) (hdigit : c.isDigit = false)
    (hminus : c ≠ '-') : integer? ds = none := by
  have hnatural {ds : List Char} (hc : c ∈ ds) : natural? ds = none := by
    refine if_neg fun h => ?_
    rw [List.all_eq_true.mp h.2 c hc] at hdigit
    cases hdigit
  unfold integer?
  split
  · next ds =>
    rw [hnatural ((List.mem_cons.mp hc).resolve_left hminus)]
    rfl
  · rw [hnatural hc]
    rfl

/-- A number is not spelled without a point or an exponent. -/
theorem mem_spell (layout : NumberLayout) (ds : List Char) (e : Int) :
    ∃ c ∈ layout.spell ds e, c = '.' ∨ c = 'e' := by
  simp only [NumberLayout.spell]
  split
  · refine ⟨'.', ?_, .inl rfl⟩
    split
    · simp
    · split <;> simp
  · exact ⟨'e', by simp, .inr rfl⟩

theorem isNumeral_spell (layout : NumberLayout) {ds : List Char} (hds : ds.all isNumeral = true)
    (e : Int) : (layout.spell ds e).all isNumeral = true := by
  have hchars : ∀ c ∈ ds, isNumeral c = true := List.all_eq_true.mp hds
  have htake (n : Nat) : (ds.take n).all isNumeral = true :=
    List.all_eq_true.mpr fun c hc => hchars c (List.mem_of_mem_take hc)
  have hdrop (n : Nat) : ('.' :: ds.drop n).all isNumeral = true :=
    List.all_eq_true.mpr (List.forall_mem_cons.mpr
      ⟨rfl, fun c hc => hchars c (List.mem_of_mem_drop hc)⟩)
  have hzeros (n : Nat) : (List.replicate n '0').all isNumeral = true :=
    List.all_eq_true.mpr fun c hc => List.eq_of_mem_replicate hc ▸ rfl
  simp only [NumberLayout.spell]
  split
  · split
    · rw [List.all_cons, List.all_cons, List.all_append, hzeros, hds]
      rfl
    · split
      · rw [List.all_append, List.all_append, hds, hzeros]
        rfl
      · rw [List.all_append, htake, hdrop]
        rfl
  · have hfraction : (if ds.length ≤ 1 then [] else '.' :: ds.drop 1).all isNumeral = true := by
      split
      · rfl
      · exact hdrop 1
    have hsign : (if e < 0 then ['-'] else if layout.plus then ['+'] else []).all isNumeral =
        true := by
      split
      · rfl
      · split <;> rfl
    rw [List.all_append, List.all_append, List.all_cons, List.all_append, htake, hfraction, hsign,
      isNumeral_toString]
    rfl

/-- The text of a double is made of the characters of numbers, and one of them is no digit. -/
theorem isNumeral_text (layout : NumberLayout) (x : Binary64) :
    (layout.text x).toList.all isNumeral = true ∧
      ∃ c ∈ (layout.text x).toList, c = '.' ∨ c = 'e' := by
  have hsign : (if x.isNegative then ['-'] else []).all isNumeral = true := by split <;> rfl
  simp only [NumberLayout.text]
  split
  · rw [String.toList_ofList, List.all_append, hsign]
    exact ⟨rfl, '.', by simp, .inl rfl⟩
  · obtain ⟨c, hc, hmark⟩ := mem_spell layout (toString x.shortest.digits).toList
      (x.shortest.exponent + (toString x.shortest.digits).toList.length - 1)
    rw [String.toList_ofList, List.all_append, hsign, isNumeral_spell layout (isNumeral_toString _)]
    exact ⟨rfl, c, List.mem_append_right _ hc, hmark⟩

theorem ofWord?_of_isNumeral {word : List Char} (hword : word.all isNumeral = true)
    (hmark : ∃ c ∈ word, c = '.' ∨ c = 'e') :
    Content.ofWord? word = some (.decimal (String.ofList word)) := by
  -- A point or an exponent is in no integer, and nothing else in a variable or in bytes.
  have hinteger : integer? word = none := by
    obtain ⟨c, hc, rfl | rfl⟩ := hmark
    · exact integer?_of_mem hc rfl (by decide)
    · exact integer?_of_mem hc rfl (by decide)
  simp only [Content.ofWord?, hinteger]
  split
  · simp at hmark
  · cases hword
  · cases hword
  · exact if_pos hword

theorem reads_float (x : Binary64) :
    Reads Content.read (float x) (if x.isFinite then .decimal (numberLayout.text x) else .null)
      stops := by
  unfold float
  split
  · obtain ⟨hchars, hmark⟩ := isNumeral_text numberLayout x
    refine reads_word (List.all_eq_true.mpr fun c hc => ?_) ?_
    · exact isBare_of_isNumeral (List.all_eq_true.mp hchars c hc)
    · rw [ofWord?_of_isNumeral hchars hmark, String.ofList_toList]
  · exact reads_word rfl rfl

theorem isBare_hexDigit {n : Nat} (h : n < 16) : isBare (Text.hexDigit n) = true := by
  have hall : ∀ n < 16, isBare (Text.hexDigit n) = true := by decide
  exact hall n h

/-- Bytes are read from pairs of digits, and no bytes from nothing between quotes. -/
theorem reads_blob (bytes : List UInt8) : Reads Content.read (blob bytes) (.bytes bytes) stops := by
  unfold blob
  split
  · next hbytes =>
    subst hbytes
    have hstring : Reads Reader.string ("'" ++ "'") "" stops := by
      have htext : string "" = "'" ++ "'" := by simp [string]
      exact htext ▸ reads_string "" rfl
    have htext : "X''" = "X" ++ ("'" ++ "'") := rfl
    rw [htext]
    exact reads_behind rfl rfl (hstring.last fun _ => rfl)
  · have htext : ("0x" ++ Text.hex bytes).toList = '0' :: 'x' :: bytes.flatMap Text.hexByte := by
      simp [Text.hex]
    refine reads_word ?_ ?_
    · rw [htext, List.all_cons, List.all_cons, List.all_flatMap, List.all_eq_true.mpr]
      · rfl
      · intro byte _
        have hlt := byte.toNat_lt
        simp only [Text.hexByte, List.all_cons, List.all_nil, Bool.and_true, Bool.and_eq_true]
        exact ⟨isBare_hexDigit (by omega), isBare_hexDigit (by omega)⟩
    · rw [htext]
      show (Text.bytesOfHexChars? _).map Content.bytes = _
      rw [bytesOfHexChars?_flatMap]
      rfl

theorem reads_variable (name : VariableName) :
    Reads Content.read name.text (.variable name.text) stops := by
  have hvalid := name.valid
  unfold isVariableName at hvalid
  split at hvalid
  · next c cs hname =>
    refine reads_word ?_ ?_
    · rw [hname, List.all_cons, List.all_eq_true.mpr]
      · rfl
      · intro x hx
        have hx := List.all_eq_true.mp hvalid x hx
        simp only [isVariableChar, Bool.or_eq_true, decide_eq_true_eq] at hx
        rcases hx with ((hx | rfl) | rfl) | rfl
        · simp [isBare, hx]
        · rfl
        · rfl
        · rfl
    · rw [hname]
      show some (Content.variable (String.ofList ('@' :: c :: cs))) = _
      rw [← hname, String.ofList_toList]
  · cases hvalid

/-- The literal of a value is read as what the value holds. -/
theorem reads_literal (d : Dialect) (v : Value) :
    Reads Content.read (literal d v) (v.content d) stops := by
  cases v with
  | null =>
    show Reads Content.read "NULL" .null stops
    exact reads_word rfl rfl
  | boolean b =>
    cases b with
    | false =>
      show Reads Content.read "false" (.boolean false) stops
      exact reads_word rfl rfl
    | true =>
      show Reads Content.read "true" (.boolean true) stops
      exact reads_word rfl rfl
  | signed n => exact reads_integer n.toInt
  | unsigned n => exact reads_integer n.toNat
  | float x => exact reads_float x
  | text s => exact reads_text s
  | blob bytes => exact reads_blob bytes
  | json doc =>
    cases d with
    | generic => exact reads_text doc.render
    | mysql => exact reads_document doc.render
  | lastInsertId =>
    have htext : "LAST_INSERT_ID()" = "LAST_INSERT_ID" ++ ("()" ++ "") := rfl
    show Reads Content.read "LAST_INSERT_ID()" _ _
    rw [htext]
    exact reads_behind rfl rfl (.behind (.pure _ _))
  | «variable» name => exact reads_variable name

/-- From a statement that goes on with a blank, a comma, a parenthesis or the semicolon, the literal
    of a value is taken as what the value holds, and the rest of the statement is left. -/
theorem literal_decodes (d : Dialect) (v : Value) (c : Char) (hc : c ∈ [' ', ',', ')', ';'])
    (cs : List Char) :
    Content.read ((literal d v).toList ++ c :: cs) = some (v.content d, c :: cs) := by
  refine reads_literal d v (c :: cs) ⟨String.ofList [c], ?_, ?_⟩
  · simp only [List.mem_cons, List.not_mem_nil, or_false] at hc
    rcases hc with rfl | rfl | rfl | rfl <;> decide
  · rw [String.toList_ofList]
    exact List.prefix_append [c] cs

/-- A text with a quote, a comma, a control character and a backslash, as one of two values. -/
theorem literal_decodes_quotes :
    Content.read ((literal .generic (.text "it's, \x1a\\")).toList ++ ",'x')".toList) =
      some (.text "it's, \x1a\\", ",'x')".toList) :=
  literal_decodes .generic (.text "it's, \x1a\\") ',' (by decide) "'x')".toList

end Sql

end SqlBatch
