import SqlBatch.Proofs.Result.Shaping
import SqlBatch.Proofs.Session.Client
import SqlBatch.Proofs.Session.Flattening
/- What the answers of a server can do to a session. A call returns if the changed rows that an
   answer reports can be counted in 64 bits, and if the row that a count or a sum looks at has a
   value under the label that is looked up.
     1. `Response.outcome_cases`: everything ends with an answer exactly when it is carried out and
        its reports are too many for 64 bits.
     2. `Program.Steady`: what ends everything nowhere, as long as it is told rows that can be read.
        `Program.Written.steady`: so it is with all that is written with the calls.
     3. `calls_end_on_regular_answers`: every call returns on a server that gives regular answers.
     4. `count_aborted_iff`: which answers a count does not return on. -/
namespace SqlBatch

variable {σ μ α β : Type}

/-! Answers. -/

/-- The first of the rows has a value under each label that a call looks up, if it has the label. -/
def Readable (rows : List Row) : Prop :=
  ∀ row, rows.head? = some row →
    row.cell Program.countLabel ≠ .missing ∧ row.cell Program.sumLabel ≠ .missing

/-- A row that has a value for each of its labels misses none. -/
theorem Row.cell_ne_missing {r : Row} (h : r.labels.length ≤ r.values.length) (label : String) :
    r.cell label ≠ .missing := by
  intro hm
  obtain ⟨i, hi, hle⟩ := (r.cell_eq_missing_iff label).mp hm
  have hlt : i < r.labels.length := (List.idxOf?_eq_some_iff.mp hi).1
  omega

theorem readable_of_complete {rows : List Row}
    (h : ∀ row ∈ rows, row.labels.length ≤ row.values.length) : Readable rows := by
  intro row hrow
  have hcomplete := h row (List.mem_of_head? hrow)
  exact ⟨Row.cell_ne_missing hcomplete _, Row.cell_ne_missing hcomplete _⟩

/-- The rows of the answer can be read and its reports fit into 64 bits, unless it is a failure. -/
structure Response.Regular (r : Response) : Prop where
  readable : r.failure = none → Readable (r.items.filterMap Item.row?)
  bounded : r.failure = none → changedRows r.items < UInt64.size

/-- An answer is a failure, or it reports too many changed rows and ends everything, or it brings
    its rows. -/
theorem Response.outcome_cases (r : Response) :
    (∃ e, r.failure = some e ∧ r.outcome = .finished (.error e)) ∨
    (r.failure = none ∧ UInt64.size ≤ changedRows r.items ∧ r.outcome = .aborted) ∨
    (r.failure = none ∧ changedRows r.items < UInt64.size ∧
      ∃ shaped, shaped.rows = r.items.filterMap Item.row? ∧
        r.outcome = .finished (.ok shaped)) := by
  have hshape := shape_isSome_iff r.items
  unfold Response.outcome
  cases r.failure with
  | some e => exact .inl ⟨e, rfl, rfl⟩
  | none =>
    cases hs : shape r.items with
    | none =>
      rw [hs] at hshape
      have hmany : ¬ changedRows r.items < UInt64.size := by
        intro hlt
        exact Bool.false_ne_true (hshape.mpr hlt)
      exact .inr (.inl ⟨rfl, Nat.le_of_not_lt hmany, rfl⟩)
    | some shaped =>
      rw [hs] at hshape
      exact .inr (.inr ⟨rfl, hshape.mp rfl, shaped, (shape_eq_some_iff.mp hs).1, rfl⟩)

/-- What a scope returned can be read. -/
def ReadableRows (r : Except Failure (Batched β)) : Prop :=
  ∀ batched, r = .ok batched → Readable batched.rows

theorem readableRows_error (e : Failure) : ReadableRows (β := β) (.error e) :=
  fun _ h => nomatch h

/-- A regular answer is a failure, or rows that can be read. -/
theorem Response.Regular.outcome {r : Response} (h : r.Regular) :
    ∃ q, r.outcome = .finished q ∧ ∀ shaped, q = .ok shaped → Readable shaped.rows := by
  rcases r.outcome_cases with ⟨e, -, ho⟩ | ⟨hnone, hmany, -⟩ | ⟨hnone, -, shaped, hrows, ho⟩
  · exact ⟨.error e, ho, fun _ hq => nomatch hq⟩
  · have := h.bounded hnone
    omega
  · refine ⟨.ok shaped, ho, ?_⟩
    intro _ hq
    cases hq
    rw [hrows]
    exact h.readable hnone

/-- The answer to a request behind a log. -/
def Backend.answer (b : Backend σ) (config : Config) (server : σ) (before : List (Event μ))
    (request : Request) : Response :=
  (b.run (request.text b.dialect) (before.foldl (b.serve config) server)).1

/-- The answers to the requests of a log that goes on behind the past are regular. -/
def Backend.AnswersRegular (b : Backend σ) (config : Config) (server : σ)
    (past es : List (Event μ)) : Prop :=
  ∀ before request done after, es = before ++ .run request done :: after →
    (b.answer config server (past ++ before) request).Regular

section AnswersRegular

variable {b : Backend σ} {config : Config} {server : σ} {past es fs : List (Event μ)}

theorem Backend.AnswersRegular.left (h : b.AnswersRegular config server past (es ++ fs)) :
    b.AnswersRegular config server past es := by
  rintro before request done after rfl
  exact h before request done (after ++ fs) (by simp)

theorem Backend.AnswersRegular.right (h : b.AnswersRegular config server past (es ++ fs)) :
    b.AnswersRegular config server (past ++ es) fs := by
  rintro before request done after rfl
  rw [List.append_assoc]
  exact h (es ++ before) request done after (by simp)

end AnswersRegular

/-! Programs. -/

namespace Program

/-- The program ends everything nowhere, as long as it is told rows that can be read. -/
def Steady (p : Program μ α) : Prop := p.Meets ⟨fun _ => True, False, ReadableRows⟩

theorem steady_firstValue {label : String} (hl : label = countLabel ∨ label = sumLabel)
    {rows : List Row} (h : Readable rows) : (firstValue (μ := μ) label rows).Steady := by
  have hcell : ∀ row, rows.head? = some row → row.cell label ≠ .missing := by
    intro row hrow
    obtain ⟨hcount, hsum⟩ := h row hrow
    rcases hl with rfl | rfl
    · exact hcount
    · exact hsum
  rcases firstValue_cases (μ := μ) label rows with ⟨⟨row, hrow, hmissing⟩, -⟩ | ⟨-, value, hv⟩
  · exact absurd hmissing (hcell row hrow)
  · rw [hv]
    trivial

/-- What goes on with rows that can be read goes on with those of a read. -/
theorem steady_read (d : Bool) (st : Statement) {f : List Row → Program μ α}
    (hf : ∀ rows, Readable rows → (f rows).Steady) : ((read d st).bind f).Steady := by
  refine ⟨⟨trivial, trivial⟩, fun r hr => ?_⟩
  cases r with
  | ok batched => exact hf batched.rows (hr batched rfl)
  | error e => trivial

theorem steady_deliver (c : Call α) (st : Statement) : (c.deliver st : Program μ α).Steady := by
  cases c with
  | count t f =>
    refine steady_read false st fun rows hrows => ?_
    refine Meets.bind (steady_firstValue (.inl rfl) hrows) fun value => ?_
    cases value.asNat? <;> trivial
  | sum t c j f => exact steady_read false st fun rows hrows => steady_firstValue (.inr rfl) hrows
  | select q => exact ⟨⟨trivial, trivial⟩, fun _ _ => trivial⟩
  | unionSelect d q => exact ⟨⟨trivial, trivial⟩, fun _ _ => trivial⟩
  | _ => exact ⟨trivial, trivial⟩

theorem Written.steady {p : Program μ α} (hp : p.Written) : p.Steady :=
  hp.meets fun c st _ => steady_deliver c st

end Program

/-! Runs. -/

section Runs

variable {b : Backend σ} {config : Config} {server : σ} {past : List (Event μ)} {w w₁ : World σ}

/-- A scope whose request gets a regular answer settles, and returns rows that can be read. -/
theorem settle_finished {s : Sending} {r : Except Failure β} {o : Outcome (Batched β)}
    {gs : List (Event μ)} (hw : Reached b config server past .operating w)
    (hset : w.settle b s r = (o, w₁, gs)) (h : b.AnswersRegular config server past gs) :
    ∃ r', o = .finished r' ∧ ReadableRows r' := by
  cases r with
  | error e =>
    cases hset
    exact ⟨.error e, rfl, readableRows_error e⟩
  | ok value =>
    simp only [World.settle] at hset
    split at hset
    · cases hc : w.session.connected with
      | true =>
        rcases hb : b.run (w.session.request.text b.dialect) w.server with ⟨response, server'⟩
        rw [flush_connected hc hb] at hset
        have hanswer (hgs : gs = [.run w.session.request response.failure.isNone]) :
            response.Regular := by
          have hregular := h [] w.session.request response.failure.isNone [] hgs
          rwa [Backend.answer, List.append_nil, ← hw.server_eq.2, hb] at hregular
        cases ho : response.outcome with
        | finished q =>
          rw [ho] at hset
          cases hset
          obtain ⟨q', hq', hrows⟩ := (hanswer rfl).outcome
          rw [ho] at hq'
          cases hq'
          refine ⟨_, rfl, fun batched he => ?_⟩
          cases q with
          | ok shaped =>
            cases he
            exact hrows shaped rfl
          | error e => cases he
        | aborted =>
          rw [ho] at hset
          cases hset
          obtain ⟨q, hq, -⟩ := (hanswer rfl).outcome
          rw [ho] at hq
          cases hq
      | false =>
        simp only [World.flush, hc, Bool.false_eq_true, if_false] at hset
        cases hset
        exact ⟨_, rfl, readableRows_error _⟩
    · cases hset
      refine ⟨_, rfl, fun batched he => ?_⟩
      cases he
      intro row hrow
      cases hrow

theorem Program.Steady.finished {p : Program μ α} (hp : p.Steady)
    (hw : Reached b config server past .operating w)
    (h : b.AnswersRegular config server past (p.run b w).events) :
    ∃ r, (p.run b w).outcome = .finished r := by
  induction p generalizing past w with
  | done r => exact ⟨r, rfl⟩
  | abort => exact hp.elim
  | queue st next ih => exact ih hp.2 (hw.step (.queue st w)) h.right
  | useDatabase db next ih => exact ih hp (hw.step (.useDatabase db w)) h.right
  | observe next ih => exact ih _ (hp _) hw h
  | mark m next ih => exact ih hp (hw.step (.mark m w)) h.right
  | scope d s op next ihop ih =>
    have hran := run_scope b d s op next w
    generalize (Program.scope d s op next).run b w = ran at h hran ⊢
    have hstepwise := op.stepwise b config server
    cases hran with
    | refused he =>
      exact ih _ (hp.2 _ (readableRows_error _)) (hw.step (enter_refused past he).1) h.right
    | stopped he ho =>
      obtain ⟨r, hr⟩ := ihop hp.1 (hw.step (enter_opened past he).1) (by rw [ho]; exact h.right)
      rw [ho] at hr
      cases hr
    | overrun he ho hset =>
      have hgs := h.right
      rw [← List.append_assoc] at hgs
      obtain ⟨r, hr, -⟩ := settle_finished (scope_ran hstepwise hw he ho).1 hset hgs
      cases hr
    | left he ho hset hl =>
      have hgs := h.left.left.right
      rw [← List.append_assoc] at hgs
      obtain ⟨r, hr, hrows⟩ := settle_finished (scope_ran hstepwise hw he ho).1 hset hgs
      cases hr
      exact ih _ (hp.2 _ hrows) (scope_left hstepwise hw he ho hset hl).1 h.right

end Runs

/-- Every call of a program returns, whatever the server fails at, as long as it reports no more
    changed rows for one request than 64 bits can count, and sends no first row that has the label
    of a count or of a sum and no value under it. -/
theorem calls_end_on_regular_answers {b : Backend σ} {config : Config} {server : σ}
    {p : Program μ α} (hp : p.Written)
    (hregular : b.AnswersRegular config server [] (p.run b ⟨.start config, server⟩).events) :
    ∃ r, (p.run b ⟨.start config, server⟩).outcome = .finished r :=
  hp.steady.finished .start hregular

/-- A server that answers every request with a count and with as many changed rows as 64 bits can
    count. -/
def generous : Backend Unit where
  dialect := .generic
  connect _ _ := (.ok (), ())
  run _ _ :=
    (⟨[.row ⟨[Program.countLabel], [.signed 2]⟩, .affected ⟨0xFFFFFFFFFFFFFFFF, none⟩], none⟩, ())
  destroy _ := (.ok (), ())

/-- Rows are counted, and a batch deletes them. -/
def countAndTruncate : Program Unit Nat := do
  let n ← Program.count keyTable none
  let _ ← Program.batch false (Program.truncate keyTable)
  return n

theorem calls_end_on_regular_answers_generous :
    ∃ r, (countAndTruncate.run generous
      ⟨.start ⟨"mock://localhost/app", some "app"⟩, ()⟩).outcome = .finished r := by
  refine calls_end_on_regular_answers ?_ ?_
  · refine (Program.written_call (.count keyTable none)).bind fun n => ?_
    exact (Program.written_batch false (Program.written_call (.truncate keyTable))).bind
      fun _ => .done _
  · intro before request done after _
    refine ⟨fun _ row hrow => ?_, fun _ => ?_⟩
    · cases hrow
      exact ⟨nofun, nofun⟩
    · simp [Backend.answer, generous, changedRows, Item.changed, UInt64.size]

/-- The first scope of a session whose operation queues one statement sends it, and ends everything
    if the answer does. Else it goes on with what the answer brought. -/
theorem outcome_scope_start {b : Backend σ} {config : Config} {server made : σ}
    (hconn : b.connect config server = (.ok (), made)) (d : Bool) (s : Sending) {st : Statement}
    {answer : Response}
    (hanswer : (b.run (Request.text b.dialect ⟨config.database, [st]⟩) made).1 = answer)
    (next : Except Failure (Batched Unit) → Program μ α) :
    let ran := (Program.scope d s (Program.queued st) next).run b ⟨.start config, server⟩
    (answer.outcome = .aborted → ran.outcome = .aborted) ∧
      ∀ r, answer.outcome = .finished r → ∃ w, ran.outcome =
        ((next (r.map fun shaped => ⟨shaped.rows, shaped.affected, ()⟩)).run b w).outcome := by
  let entered : Session := { Session.start config with connected := true, depth := 1 }
  let waiting : Session := entered.queue st
  have he : World.enter (μ := μ) b ⟨.start config, server⟩ =
      (.ok (), ⟨entered, made⟩, [.connect config.url true, .opened 0]) := by
    simp [World.enter, Session.start, hconn, entered]
  have ho : (Program.queued (μ := μ) st).run b ⟨entered, made⟩ =
      ⟨.finished (.ok ()), ⟨waiting, made⟩, [.queued st config.database]⟩ := rfl
  rcases hb : b.run (waiting.request.text b.dialect) made with ⟨response, server'⟩
  have hresponse : response = answer := (congrArg Prod.fst hb).symm.trans hanswer
  have hsends : World.sends s waiting = true := by
    simp [World.sends, waiting, entered, Session.queue]
  simp only [Program.run, he, ho, World.settle, hsends, if_true,
    flush_connected (w := ⟨waiting, made⟩) rfl hb, hresponse]
  constructor
  · intro haborted
    rw [haborted]
  · intro r hr
    rw [hr]
    exact ⟨_, rfl⟩

/-- To look a value up, and to end with what it is, ends everything exactly when it is missing. -/
theorem Program.firstValue_bind_aborted_iff {f : Value → Program μ α}
    (hf : ∀ value, ∃ r, f value = .done r) (label : String) (rows : List Row) (b : Backend σ)
    (w : World σ) :
    (((firstValue label rows).bind f).run b w).outcome = .aborted ↔
      ∃ row, rows.head? = some row ∧ row.cell label = .missing := by
  rcases firstValue_cases (μ := μ) label rows with ⟨hmissing, hv⟩ | ⟨hcell, value, hv⟩
  · rw [hv]
    exact iff_of_true rfl hmissing
  · obtain ⟨r, hr⟩ := hf value
    rw [hv]
    show ((f value).run b w).outcome = _ ↔ _
    rw [hr]
    constructor
    · intro hfinished
      cases hfinished
    · rintro ⟨row, hrow, hmissing⟩
      exact absurd hmissing (hcell row hrow)

/-- A count that is the first call of a session ends everything exactly when the answer is carried
    out and reports too many changed rows, or its first row has the label and no value under it. -/
theorem count_aborted_iff {b : Backend σ} {config : Config} {server made : σ}
    (hconn : b.connect config server = (.ok (), made)) (t : Table) (f : Option Filter)
    {answer : Response}
    (hanswer : (b.run (Request.text b.dialect ⟨config.database, [.select
      { table := t, columns := .ofText Program.countLabel, filter := f }]⟩) made).1 = answer) :
    ((Program.count (μ := μ) t f).run b ⟨.start config, server⟩).outcome = .aborted ↔
      answer.failure = none ∧ (UInt64.size ≤ changedRows answer.items ∨
        ∃ row, (answer.items.filterMap Item.row?).head? = some row ∧
          row.cell Program.countLabel = .missing) := by
  obtain ⟨g, hg, hcount⟩ : ∃ g : Value → Program μ Nat, (∀ value, ∃ r, g value = .done r) ∧
      Program.count t f = .scope false .always (Program.queued (.select
          { table := t, columns := .ofText Program.countLabel, filter := f }))
        fun r => (Program.done (r.map (·.rows))).bind fun rows =>
          (Program.firstValue Program.countLabel rows).bind g := by
    refine ⟨_, ?_, rfl⟩
    intro value
    cases value.asNat? <;> exact ⟨_, rfl⟩
  rw [hcount]
  obtain ⟨haborts, hgoes⟩ := outcome_scope_start (μ := μ) hconn false .always hanswer _
  rcases answer.outcome_cases with
    ⟨e, hfailure, ho⟩ | ⟨hnone, hmany, ho⟩ | ⟨hnone, hfew, shaped, hrows, ho⟩
  · obtain ⟨w, hran⟩ := hgoes _ ho
    rw [hran, hfailure]
    constructor
    · intro haborted
      cases haborted
    · rintro ⟨hnone, -⟩
      cases hnone
  · exact iff_of_true (haborts ho) ⟨hnone, .inl hmany⟩
  · obtain ⟨w, hran⟩ := hgoes _ ho
    have hmany : ¬ UInt64.size ≤ changedRows answer.items := Nat.not_le.mpr hfew
    rw [hran, ← hrows, and_iff_right hnone, or_iff_right hmany]
    exact Program.firstValue_bind_aborted_iff hg _ shaped.rows b w

/-- The first row of a count has the label and no value, or two reports of one request are too many
    for 64 bits: everything ends. -/
theorem answers_end_everything :
    (Program.count (μ := Unit) keyTable none).Written ∧
    ((Program.count (μ := Unit) keyTable none).run (Script.backend .generic)
      ⟨.start ⟨"mock://localhost/app", some "app"⟩,
        ⟨[], [], [⟨[.row ⟨["COUNT(*)"], []⟩], none⟩]⟩⟩).outcome = .aborted ∧
    ((Program.count (μ := Unit) keyTable none).run (Script.backend .generic)
      ⟨.start ⟨"mock://localhost/app", some "app"⟩,
        ⟨[], [], [⟨[.affected ⟨0xFFFFFFFFFFFFFFFF, none⟩, .affected ⟨1, none⟩], none⟩]⟩⟩).outcome =
      .aborted := by
  refine ⟨Program.written_call (.count keyTable none), ?_, ?_⟩
  · exact (count_aborted_iff rfl keyTable none rfl).mpr ⟨rfl, .inr ⟨_, rfl, by rfl⟩⟩
  · refine (count_aborted_iff rfl keyTable none rfl).mpr ⟨rfl, .inl ?_⟩
    show UInt64.size ≤ changedRows [.affected ⟨0xFFFFFFFFFFFFFFFF, none⟩, .affected ⟨1, none⟩]
    simp [changedRows, Item.changed, UInt64.size]

end SqlBatch
