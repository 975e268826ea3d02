import SqlBatch.Proofs.Session.Flattening
import SqlBatch.Proofs.Sql.Content
import SqlBatch.Proofs.Sql.Framing
/- Assignments to targets that are written as they are. A name is accepted if it is not blank and
   has no semicolon, but it may hold quotes and comments.
     1. `sealed_of_isQuiet`: a name that begins no comment and closes its quotes leaves the reading
        outside of both. One that closes its comments does so too.
     2. `Reading.pieces_of_through_all`: a text in which nothing is cut runs on into what follows.
     3. `set_keeps_to_statement`: an assignment to a name that leaves the reading outside of both is
        cut off behind its semicolon, whatever follows, and its value is read as one literal. One to
        any other name is not cut off there.
     4. `accepted_of_variableName`: the names that values may have as variables are of the first
        kind.
     5. `Program.requests_told_apart`: so that what is sent is read as it was queued, if all
        names that are assigned to are of that kind. -/
namespace SqlBatch.Sql

namespace Reading

/-- In a comment, or behind the two dashes that begin one if any kind of blank follows. -/
def comments : Reading → Bool
  | .dashes | .line | .block | .star => true
  | _ => false

/-- The text begins no comment and closes every quote. -/
def quiet (r : Reading) : List Char → Bool
  | [] => r.isOutside
  | c :: cs => !(r.next c).comments && (r.next c).quiet cs

/-- If between quotes, then between those that there are. -/
def Proper : Reading → Prop
  | .quoted q | .escaped q => q ∈ ['\'', '"', '`']
  | _ => True

variable {r r' : Reading} {cs ds : List Char}

theorem quiet_of_plain (h : ∀ c ∈ cs, isPlain c = true) : quiet .bare cs = true := by
  induction cs with
  | nil => rfl
  | cons c cs ih =>
    obtain ⟨hc, hcs⟩ := List.forall_mem_cons.mp h
    simp only [quiet, next, start_of_plain hc, ih hcs]
    rfl

theorem through_of_quiet (hquiet : r.quiet cs = true) (hr : r.comments = false) (hcs : ';' ∉ cs) :
    ∃ r', r.through cs = some r' ∧ r'.isOutside = true ∧ r'.comments = false := by
  induction cs generalizing r with
  | nil => exact ⟨r, rfl, hquiet, hr⟩
  | cons c cs ih =>
    simp only [List.mem_cons, not_or] at hcs
    simp only [quiet, Bool.and_eq_true, Bool.not_eq_true'] at hquiet
    have hcut : r.cuts c = false := cuts_of_ne r (Ne.symm hcs.1)
    obtain ⟨r', hthrough, hr'⟩ := ih hquiet.2 hquiet.1 hcs.2
    refine ⟨r', ?_, hr'⟩
    simp only [through, hcut, Bool.false_eq_true, if_false]
    exact hthrough

/-- A blank leads back from where a comment could have begun. -/
theorem next_blank_of_outside (hout : r.isOutside = true) (hr : r.comments = false) :
    r.next ' ' = .bare := by
  cases r with
  | bare | dash | slash => rfl
  | dashes => cases hr
  | _ => cases hout

theorem proper_start (c : Char) : (start c).Proper := by
  unfold start Proper
  grind

theorem Proper.next (hr : r.Proper) (c : Char) : (r.next c).Proper := by
  have hstart := proper_start c
  cases r <;> grind [Reading.next, Proper]

theorem Proper.through (hr : r.Proper) (h : r.through cs = some r') : r'.Proper := by
  induction cs generalizing r with
  | nil =>
    cases h
    exact hr
  | cons c cs ih =>
    simp only [Reading.through] at h
    split at h
    · cases h
    · exact ih (hr.next c) h

/-- Without a semicolon nothing is cut. -/
theorem through_of_not_mem (r : Reading) (hcs : ';' ∉ cs) : ∃ r', r.through cs = some r' := by
  induction cs generalizing r with
  | nil => exact ⟨r, rfl⟩
  | cons c cs ih =>
    simp only [List.mem_cons, not_or] at hcs
    have hcut : r.cuts c = false := cuts_of_ne r (Ne.symm hcs.1)
    simp only [Reading.through, hcut, Bool.false_eq_true, if_false]
    exact ih (r.next c) hcs.2

/-- Quotes and comments that a blank leaves open are not closed by null, and no semicolon that
    follows it closes a statement. -/
theorem Proper.through_null (hr : r.Proper) (hopen : r.next ' ' ≠ .bare) :
    ∃ r', (r.next ' ').through "= NULL;".toList = some r' := by
  have hquotes {q : Char} (hq : q ∈ ['\'', '"', '`']) :
      ∃ r', (quoted q).through "= NULL;".toList = some r' := by
    simp only [List.mem_cons, List.not_mem_nil, or_false] at hq
    rcases hq with rfl | rfl | rfl <;> exact ⟨_, rfl⟩
  cases r with
  | bare | dash | slash => exact absurd rfl hopen
  | dashes | line | block | star => exact ⟨_, rfl⟩
  | quoted q =>
    have hq : (quoted q).next ' ' = quoted q := by
      have hne : ' ' ≠ q := by
        rintro rfl
        simp [Proper] at hr
      simp [Reading.next, hne]
    rw [hq]
    exact hquotes hr
  | escaped q => exact hquotes hr

/-- A text in which nothing is cut runs on into what follows it. -/
theorem pieces_of_through_all (h : r.through cs = some r') (hds : ds ≠ []) :
    ∃ c piece rest, r.pieces (cs ++ ds) = (cs ++ c :: piece) :: rest := by
  induction cs generalizing r with
  | nil =>
    obtain ⟨d, ds, rfl⟩ := List.exists_cons_of_ne_nil hds
    simp only [List.nil_append, pieces]
    split
    · exact ⟨d, [], _, rfl⟩
    · split
      · exact ⟨d, [], _, rfl⟩
      · exact ⟨d, _, _, rfl⟩
  | cons c cs ih =>
    simp only [Reading.through] at h
    split at h
    · cases h
    · next hc =>
      obtain ⟨d, piece, rest, hrest⟩ := ih h
      exact ⟨d, piece, rest, by simp only [List.cons_append, pieces, hc, hrest]; rfl⟩

end Reading

/-! Names. -/

/-- The name begins no comment and closes its quotes. -/
def isQuiet (name : String) : Bool := Reading.quiet .bare name.toList

theorem not_mem_of_isSetTarget {name : String} (h : Program.isSetTarget name = true) :
    ';' ∉ name.toList := by
  simp only [Program.isSetTarget, Bool.and_eq_true, Bool.not_eq_true'] at h
  intro hmem
  have hcontains : name.toList.contains ';' = true := List.contains_iff_mem.mpr hmem
  rw [hcontains] at h
  exact nomatch h.2

theorem sealed_of_isQuiet {name : String} (htarget : Program.isSetTarget name = true)
    (hquiet : isQuiet name = true) : Sealed (name ++ " ") := by
  obtain ⟨r, hthrough, hout, hr⟩ :=
    Reading.through_of_quiet hquiet rfl (not_mem_of_isSetTarget htarget)
  have hblank : r.through [' '] = some (r.next ' ') := by
    simp [Reading.through, Reading.cuts]
  rw [Sealed, String.toList_append, Reading.through_append, hthrough]
  show r.through [' '] = _
  rw [hblank, Reading.next_blank_of_outside hout hr]

/-- The converse does not hold: a comment may be closed. -/
example : isQuiet "@a /* b */" = false ∧ Sealed ("@a /* b */" ++ " ") := ⟨rfl, rfl⟩

/-- The names that values may have as variables. -/
theorem accepted_of_variableName {name : String} (h : isVariableName name = true) :
    Program.isSetTarget name = true ∧ isQuiet name = true := by
  have hplain := isPlain_of_variableName h
  refine ⟨?_, Reading.quiet_of_plain hplain⟩
  have hsemicolon : ';' ∉ name.toList := fun hmem => nomatch hplain ';' hmem
  have hblank : Text.dropBlankEnds name.toList ≠ [] := by
    intro hnil
    unfold isVariableName at h
    split at h
    · next c cs hname =>
      rw [Text.dropBlankEnds_eq_nil_iff, hname] at hnil
      exact nomatch hnil '@' List.mem_cons_self
    · cases h
  simp [Program.isSetTarget, hsemicolon, hblank]

/-! Assignments. -/

/-- What stands in front of the value. -/
def assigned (name : String) : String := "SET " ++ name ++ " = "

theorem sealed_assigned {name : String} (h : Sealed (name ++ " ")) : Sealed (assigned name) := by
  have htext : assigned name = "SET " ++ (name ++ " ") ++ "= " := by
    simp only [assigned, ← String.toList_inj, String.toList_append, List.append_assoc]
    rfl
  rw [htext]
  exact .word (.append (sealed_of_plain rfl) h) rfl

theorem closed_set {name : String} (h : Sealed (name ++ " ")) (d : Dialect) (v : Value) :
    Closed (statement d (.set name v)) :=
  ⟨_, (sealed_assigned h).append (sealed_literal d v), rfl⟩

/-- An assignment to a name that leaves quotes or a comment open runs on into what follows it. -/
theorem split_of_open {name : String} (htarget : Program.isSetTarget name = true)
    (hopen : ¬ Sealed (name ++ " ")) (d : Dialect) {rest : String} (hrest : rest ≠ "")
    (pieces : List String) :
    split (statement d (.set name .null) ++ rest) ≠ statement d (.set name .null) :: pieces := by
  obtain ⟨r, hname⟩ := Reading.through_of_not_mem .bare (not_mem_of_isSetTarget htarget)
  have hblank : r.next ' ' ≠ .bare := by
    intro hbare
    refine hopen ?_
    rw [Sealed, String.toList_append, Reading.through_append, hname]
    simp [Reading.through, Reading.cuts, hbare]
  have hproper : r.Proper := Reading.Proper.through (r := .bare) trivial hname
  obtain ⟨r', hnull⟩ := hproper.through_null hblank
  have htext : (statement d (.set name .null)).toList =
      "SET ".toList ++ (name.toList ++ ' ' :: "= NULL;".toList) := by
    show ("SET " ++ name ++ " = " ++ "NULL" ++ ";").toList = _
    simp
  have hthrough : Reading.through .bare (statement d (.set name .null)).toList = some r' := by
    rw [htext, Reading.through_append]
    show Reading.through .bare _ = _
    rw [Reading.through_append, hname]
    simpa [Reading.through, Reading.cuts] using hnull
  have hne : rest.toList ≠ [] := fun hnil => hrest (String.toList_eq_nil_iff.mp hnil)
  obtain ⟨c, piece, more, hpieces⟩ := Reading.pieces_of_through_all hthrough hne
  rw [split, String.toList_append, hpieces, List.map_cons]
  intro heq
  have hhead := congrArg String.toList (List.cons.inj heq).1
  rw [String.toList_ofList] at hhead
  exact List.cons_ne_nil c piece (List.append_right_eq_self.mp hhead)

/-- What an accepted assignment queues is cut off behind its final semicolon, whatever follows it,
    and its value is read as one literal, if the name leaves the reading outside of quotes and
    comments, as it does if it begins no comment and closes its quotes. If the name leaves quotes or
    a comment open, the assignment of null is not cut off there. -/
theorem set_keeps_to_statement {name : String} (htarget : Program.isSetTarget name = true) :
    (∀ (μ : Type) (v : Value), (Program.set name v : Program μ Unit) = .queued (.set name v)) ∧
    (isQuiet name = true → Sealed (name ++ " ")) ∧
    (Sealed (name ++ " ") → ∀ (d : Dialect) (v : Value) (rest : String),
      split (statement d (.set name v) ++ rest) = statement d (.set name v) :: split rest ∧
      ∃ front, statement d (.set name v) = front ++ literal d v ++ ";" ∧ Sealed front ∧
        Sealed (literal d v) ∧
        Content.read ((literal d v).toList ++ ';' :: rest.toList) =
          some (v.content d, ';' :: rest.toList)) ∧
    (¬ Sealed (name ++ " ") → ∀ (d : Dialect) (rest : String), rest ≠ "" → ∀ pieces,
      split (statement d (.set name .null) ++ rest) ≠ statement d (.set name .null) :: pieces) := by
  refine ⟨fun μ v => if_pos htarget, sealed_of_isQuiet htarget, fun hname d v rest => ?_,
    fun hopen d rest hrest pieces => ?_⟩
  · have hread : Content.read ((literal d v).toList ++ ';' :: rest.toList) =
        some (v.content d, ';' :: rest.toList) := by
      refine reads_literal d v _ ⟨";", by decide, ?_⟩
      exact List.prefix_append [';'] rest.toList
    exact ⟨(closed_set hname d v).split_append rest, assigned name, rfl, sealed_assigned hname,
      sealed_literal d v, hread⟩
  · exact split_of_open htarget hopen d hrest pieces

/-- A name with quotes in it, and a value with a quote and a semicolon. -/
theorem set_keeps_to_statement_quotes :
    Program.isSetTarget "@`x y`" = true ∧ isQuiet "@`x y`" = true ∧
    split ("SET @`x y` = '\\';#';" ++ "UNLOCK TABLES;") =
      ["SET @`x y` = '\\';#';", "UNLOCK TABLES;"] := by
  have htarget : Program.isSetTarget "@`x y`" = true := by decide
  have hquiet : isQuiet "@`x y`" = true := by decide
  obtain ⟨-, hsealed, hkeeps, -⟩ := set_keeps_to_statement htarget
  have h := (hkeeps (hsealed hquiet) .generic (.text "';#") "UNLOCK TABLES;").1
  have hrest : split "UNLOCK TABLES;" = ["UNLOCK TABLES;"] := by decide +kernel
  rw [hrest] at h
  exact ⟨htarget, hquiet, h⟩

/-- A name that begins a comment is accepted, and what follows the assignment is part of the
    comment. -/
theorem set_breaks_out :
    Program.isSetTarget "@a = 1 #" = true ∧
    statement .generic (.set "@a = 1 #" (.signed 2)) = "SET @a = 1 # = 2;" ∧
    statement .generic (.truncate keyTable) = "TRUNCATE TABLE `keys`;" ∧
    split ("SET @a = 1 # = 2;" ++ "TRUNCATE TABLE `keys`;") =
      ["SET @a = 1 # = 2;TRUNCATE TABLE `keys`;"] :=
  ⟨by decide, by decide +kernel, by decide +kernel, by decide +kernel⟩

end SqlBatch.Sql

namespace SqlBatch

/-! Requests. -/

/-- What is written as it is, is a name that leaves the reading outside of quotes and comments,
    counts rows or sums a column up. -/
def Statement.Contained : Statement → Prop
  | .set name _ => Sql.Sealed (name ++ " ")
  | st => st.Composed

theorem Statement.Contained.closed {st : Statement} (h : st.Contained) (d : Dialect) :
    Sql.Closed (Sql.statement d st) := by
  cases st with
  | set name v => exact Sql.closed_set h d v
  | _ => exact Sql.closed_statement d h

/-- The names of variables are such names. -/
theorem Statement.Composed.contained {st : Statement} (h : st.Composed) : st.Contained := by
  cases st with
  | set name v =>
    obtain ⟨htarget, hquiet⟩ := Sql.accepted_of_variableName h
    exact Sql.sealed_of_isQuiet htarget hquiet
  | _ => exact h

/-- What a run sends is told apart as it was queued, if all of that is contained. -/
theorem Program.requests_told_apart {σ μ α : Type} {b : Backend σ} {config : Config} {server : σ}
    (p : Program μ α) {before after : List (Event μ)} {request : Request} {done : Bool}
    (hlog : (p.run b ⟨.start config, server⟩).events = before ++ Event.run request done :: after)
    (h : ∀ st ∈ queuedStatements before, st.Contained) :
    Sql.split (request.text b.dialect) = request.all.map (Sql.statement b.dialect) :=
  p.requests_framed hlog fun st hst => (h st hst).closed b.dialect

end SqlBatch
