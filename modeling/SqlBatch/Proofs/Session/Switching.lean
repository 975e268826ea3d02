import SqlBatch.Proofs.Session.Channel
import SqlBatch.Proofs.Session.Client
/- Programs that select no database but by being told to use it. A session selects a database in two
   ways: the first request on a connection begins with it, and later it is a statement that is
   queued when the database changes.
     1. `Call.selects_eq_none`, `Program.Written.plain`: what a session can be asked to do queues no
        such statement of its own.
     2. `Program.Plain.switched`: the moments of a plain program are reached by steps of which only
        a change of the database queues one.
     3. `Switched.unselected`: until the first request is sent on a connection none waits. -/
namespace SqlBatch

variable {σ μ α β : Type}

/-- The database that a statement selects. -/
def Statement.selects : Statement → Option String
  | .use name => some name
  | _ => none

/-- The database that is selected after statements, if one of them selects any. -/
def selected (sts : List Statement) : Option String := (sts.filterMap (·.selects)).getLast?

theorem selected_append (sts sts' : List Statement) :
    selected (sts ++ sts') = (selected sts').or (selected sts) := by
  rw [selected, List.filterMap_append, List.getLast?_append]
  rfl

theorem selected_eq_none {sts : List Statement} (h : ∀ st ∈ sts, st.selects = none) :
    selected sts = none := by
  rw [selected, List.filterMap_eq_nil_iff.mpr h]
  rfl

theorem selected_concat_use (sts : List Statement) (db : String) :
    selected (sts ++ [Statement.use db]) = some db := by
  rw [selected_append]
  rfl

/-- Statements that select nothing leave the database as it was. -/
theorem selected_append_of_none {sts : List Statement} (sts' : List Statement)
    (h : ∀ st ∈ sts, st.selects = none) : selected (sts' ++ sts) = selected sts' := by
  rw [selected_append, selected_eq_none h]
  rfl

/-- The statement that a call makes selects no database. -/
theorem Call.selects_eq_none {c : Call α} {st : Statement} (h : c.statement = .ok st) :
    st.selects = none := by
  cases c with
  | insert t vs | replace t vs | update t vs f =>
    simp only [statement] at h
    generalize checkAssignments _ t vs = checked at h
    cases checked with
    | error e => cases h
    | ok u =>
      cases h
      rfl
  | set | lockTables | createDatabase | unionSelect =>
    simp only [statement, Program.lockStatement] at h
    split at h <;> cases h
    rfl
  | _ =>
    cases h
    rfl

/-- A statement that selects a database was queued. -/
def Event.switches : Event μ → Bool
  | .queued st _ => st.selects.isSome
  | _ => false

/-- Nothing was queued or sent, and no connection made. -/
def Event.quiet : Event μ → Bool
  | .queued .. => false
  | .run .. => false
  | e => !e.connects

namespace Program

/-- None of the statements that the program queues selects a database. -/
def Plain : {α : Type} → Program μ α → Prop
  | _, .done _ => True
  | _, .abort => True
  | _, .queue st next => st.selects = none ∧ next.Plain
  | _, .useDatabase _ next => next.Plain
  | _, .observe next => ∀ v, (next v).Plain
  | _, .mark _ next => next.Plain
  | _, .scope _ _ op next => op.Plain ∧ ∀ r, (next r).Plain

theorem Queues.plain {p : Program μ α} (hp : p.Queues fun st => st.selects = none) : p.Plain := by
  induction p with
  | done r => trivial
  | abort => trivial
  | queue st next ih => exact ⟨hp.1, ih hp.2⟩
  | useDatabase db next ih => exact ih hp
  | observe next ih => exact fun v => ih v (hp v)
  | mark m next ih => exact ih hp
  | scope d s op next ihop ih => exact ⟨ihop hp.1, fun r => ih r (hp.2 r trivial)⟩

/-- What is written with the calls of a session queues no such statement: to use a database is not
    to queue one. -/
theorem Written.plain {p : Program μ α} (hp : p.Written) : p.Plain :=
  (hp.queues fun _ _ h => Call.selects_eq_none h).plain

end Program

/-! Plain programs as paths of steps. -/

/-- The moments that are reached by steps of which none but a change of the database queues a
    statement that selects one. -/
inductive Switched (b : Backend σ) (config : Config) (server : σ) :
    List (Event μ) → Stage → World σ → Prop where
  | start : Switched b config server [] .operating ⟨.start config, server⟩
  | step {past es : List (Event μ)} {g g' : Stage} {w w' : World σ} :
      Switched b config server past g w → Step b past g w es g' w' →
      (∀ e ∈ es, e.switches = false) → Switched b config server (past ++ es) g' w'
  | useDatabase {past : List (Event μ)} {w : World σ} (db : String) :
      Switched b config server past .operating w →
      Switched b config server
        (past ++ if w.session.needsUse db then [.queued (.use db) (some db)] else []) .operating
        (w.put (w.session.useDatabase db))

section Paths

variable {b : Backend σ} {config : Config} {server : σ} {past es : List (Event μ)} {g : Stage}
  {w w₁ w' : World σ}

theorem Switched.reached (h : Switched b config server past g w) :
    Reached b config server past g w := by
  induction h with
  | start => exact .start
  | step _ hs _ ih => exact ih.step hs
  | useDatabase db _ ih => exact ih.step (.useDatabase db _)

/-- No part of a scope queues anything. -/
theorem enter_not_switches {r : Except Failure Unit} (h : w.enter b = (r, w₁, es)) :
    ∀ e ∈ es, e.switches = false := by
  cases r with
  | error e => rcases enter_refused_log h with rfl | rfl <;> simp [Event.switches]
  | ok u => rcases enter_log h with rfl | rfl <;> simp [Event.switches]

theorem settle_not_switches {s : Sending} {r : Except Failure β} {o : Outcome (Batched β)}
    (h : w.settle b s r = (o, w₁, es)) : ∀ e ∈ es, e.switches = false := by
  rcases settle_log h with rfl | ⟨-, done, rfl⟩ <;> simp [Event.switches]

theorem leave_not_switches {d failed : Bool} {epoch : UInt64}
    (h : w.leave b d epoch failed = (w₁, es)) : ∀ e ∈ es, e.switches = false := by
  cases leave_step [] h with
  | leaveLast => split <;> simp [Event.switches]
  | _ => simp [Event.switches]

/-- The moments of a plain program are reached by such steps. -/
theorem Program.Plain.switched {p : Program μ α} (hp : p.Plain)
    (hw : Switched b config server past .operating w) (h : p.Passes b w es g w') :
    Switched b config server (past ++ es) g w' := by
  induction p generalizing past w es g w' with
  | done r =>
    cases h
    rwa [List.append_nil]
  | abort =>
    cases h
    rwa [List.append_nil]
  | queue st next ih =>
    cases h with
    | here => rwa [List.append_nil]
    | queue h =>
      have hst := hw.step (.queue st w) (by simp [Event.switches, hp.1])
      simpa using ih hp.2 hst h
  | useDatabase db next ih =>
    cases h with
    | here => rwa [List.append_nil]
    | useDatabase h =>
      rw [← List.append_assoc]
      exact ih hp (hw.useDatabase db) h
  | observe next ih =>
    cases h with
    | here => rwa [List.append_nil]
    | observe h => exact ih _ (hp _) hw h
  | mark m next ih =>
    cases h with
    | here => rwa [List.append_nil]
    | mark h =>
      have hm := hw.step (.mark m w) (by simp [Event.switches])
      simpa using ih hp hm h
  | scope d s op next ihop ih =>
    have hsettled {w₁ w₂ w₃ : World σ} {r r'} {es fs gs : List (Event μ)}
        (he : w.enter b = (.ok (), w₁, es)) (ho : op.run b w₁ = ⟨.finished r, w₂, fs⟩)
        (hset : w₂.settle b s r = (.finished r', w₃, gs)) :
        Switched b config server (past ++ (es ++ fs ++ gs))
          (.leaving w₁.session.epoch (!r'.isOk)) w₃ := by
      -- The end of the operation is one of its moments, and there the scope settles.
      have hend : op.Passes b w₁ fs .operating w₂ := by
        have hpasses := op.passes_end b w₁ (r := r) (by rw [ho])
        rwa [ho] at hpasses
      have h₁ := hw.step (enter_opened past he).1 (enter_not_switches he)
      have htop := (scope_ran (Program.stepwise b config server op) hw.reached he ho).2
      have h₃ := (ihop hp.1 h₁ hend).step (settled_step htop hset) (settle_not_switches hset)
      simpa only [List.append_assoc] using h₃
    cases h with
    | here => rwa [List.append_nil]
    | refused he h =>
      have h₁ := hw.step (enter_refused past he).1 (enter_not_switches he)
      rw [← List.append_assoc]
      exact ih _ (hp.2 _) h₁ h
    | inside he h =>
      have h₁ := hw.step (enter_opened past he).1 (enter_not_switches he)
      rw [← List.append_assoc]
      exact ihop hp.1 h₁ h
    | settled he ho hset =>
      exact hsettled he ho hset
    | left he ho hset hl h =>
      have h₄ := (hsettled he ho hset).step (leave_step _ hl) (leave_not_switches hl)
      rw [List.append_assoc] at h₄
      rw [← List.append_assoc]
      exact ih _ (hp.2 _) h₄ h

end Paths

/-! What a step does to the choice of a database. -/

/-- Two sessions stand alike towards the server: they have the same connection, and are meant for
    the same database. -/
structure Session.Alike (s s' : Session) : Prop where
  connected : s'.connected = s.connected
  fresh : s'.fresh = s.fresh
  database : s'.database = s.database

/-- What the steps of a plain program do. -/
inductive Effect (g g' : Stage) (w w' : World σ) : List (Event μ) → Prop where
  | queue {st : Statement} :
      st.selects = none → w.session.Alike w'.session →
      Effect g g' w w' [.queued st w.session.database]
  /-- The database is changed, and that has to be sent or not. -/
  | switch (db : String) :
      w'.session = w.session.useDatabase db →
      Effect g g' w w'
        (if w.session.needsUse db then [.queued (.use db) (some db)] else [])
  /-- Nothing, or what waits is dropped. -/
  | keep {es : List (Event μ)} :
      (∀ e ∈ es, e.quiet = true) → w.session.Alike w'.session → Effect g g' w w' es
  | connect {url : String} {epoch : UInt64} :
      w.session.connected = false → w'.session.fresh = true →
      w'.session.database = w.session.database →
      Effect g g' w w' [.connect url true, .opened epoch]
  | send {done : Bool} :
      g = .operating → w.session.connected = true → w'.session.connected = true →
      w'.session.fresh = false → w'.session.database = w.session.database →
      Effect g g' w w' [.run w.session.request done]
  /-- The connection is given up. -/
  | giveUp {es : List (Event μ)} :
      (∀ e ∈ es, e.quiet = true) → g' = .operating → w'.session.connected = false →
      w'.session.pending = [] → w'.session.database = w.session.database →
      Effect g g' w w' es

section Effects

variable {b : Backend σ} {config : Config} {server : σ} {past es : List (Event μ)} {g g' : Stage}
  {w w' : World σ}

theorem Step.effect (hs : Step b past g w es g' w') (hes : ∀ e ∈ es, e.switches = false) :
    Effect g g' w w' es := by
  cases hs with
  | queue st =>
    have hst : st.selects = none := by simpa [Event.switches] using hes
    exact .queue hst ⟨rfl, rfl, rfl⟩
  | useDatabase db => exact .switch db rfl
  | connect ho hc hb => exact .connect hc rfl rfl
  | send ho hc hp hb => exact .send rfl hc hc rfl rfl
  | fail | keep | strand => exact .keep (by simp) ⟨rfl, rfl, rfl⟩
  | leaveLast he hd =>
    refine .giveUp ?_ rfl rfl rfl rfl
    split <;> simp [Event.quiet, Event.connects]
  -- What is left refuses, opens or leaves a scope, whose connection stays.
  | _ => exact .keep (by simp [Event.quiet, Event.connects]) ⟨rfl, rfl, rfl⟩

/-- What holds of a session that did nothing yet, and is kept by all that a step of a plain program
    can do, holds at all its moments. -/
theorem Switched.induct {motive : List (Event μ) → World σ → Prop}
    (start : motive [] ⟨.start config, server⟩)
    (step : ∀ {past es : List (Event μ)} {g g' : Stage} {w w' : World σ},
      Switched b config server past g w → Switched b config server (past ++ es) g' w' →
      Effect g g' w w' es → motive past w → motive (past ++ es) w')
    (h : Switched b config server past g w) : motive past w := by
  induction h with
  | start => exact start
  | step h hs hes ih => exact step h (h.step hs hes) (hs.effect hes) ih
  | useDatabase db h ih => exact step h (h.useDatabase db) (.switch db rfl) ih

end Effects

/-! What events leave as it was. -/

section Quiet

variable {past es : List (Event μ)} {e : Event μ}

theorem not_switches_of_quiet (h : e.quiet = true) : e.switches = false := by
  cases e <;> first | rfl | cases h

theorem not_connects_of_quiet (h : e.quiet = true) : e.connects = false := by
  cases e with
  | queued st db => rfl
  | connect url made => simpa [Event.quiet] using h
  | _ => rfl

theorem requests_of_quiet (h : ∀ e ∈ es, e.quiet = true) : requests es = [] := by
  refine List.filterMap_eq_nil_iff.mpr fun e he => ?_
  have hq := h e he
  cases e <;> first | rfl | cases hq

theorem lastRequests_append_quiet (h : ∀ e ∈ es, e.quiet = true) :
    lastRequests (past ++ es) = lastRequests past := by
  rw [lastRequests_append past fun e he => not_connects_of_quiet (h e he), requests_of_quiet h,
    List.append_nil]

/-- Unless a scope has failed and dropped what waited. -/
theorem channel_append_quiet (hquiet : ∀ e ∈ es, e.quiet = true)
    (hclean : ∀ e ∈ es, e.fails = false) : channel (past ++ es) = channel past := by
  rw [channel_append]
  apply List.foldlRecOn (motive := fun c => c = channel past) es Channel.after rfl
  intro c hc e he
  have hq := hquiet e he
  have hnot := hclean e he
  cases e with
  | queued st db => cases hq
  | run request done => cases hq
  | connect url made =>
    cases made with
    | true => cases hq
    | false => exact hc
  | refused => cases hnot
  | closed failed =>
    cases failed with
    | true => cases hnot
    | false => exact hc
  | _ => exact hc

/-- None of the statements that wait selects a database, if none did and none was queued. -/
theorem waiting_selects_none (hes : ∀ e ∈ es, e.switches = false)
    (h : ∀ x ∈ (channel past).waiting, x.statement.selects = none) :
    ∀ x ∈ (channel (past ++ es)).waiting, x.statement.selects = none := by
  rw [channel_append]
  apply List.foldlRecOn (motive := fun c => ∀ x ∈ c.waiting, x.statement.selects = none) es
    Channel.after h
  intro c hc e he x hx
  rcases Channel.mem_waiting_after hx with hx | ⟨st, db, rfl, rfl⟩
  · exact hc x hx
  · have hst := hes _ he
    simpa [Event.switches] using hst

end Quiet

/-! Until a request is sent. -/

section Unsent

variable {b : Backend σ} {config : Config} {server : σ} {past es : List (Event μ)} {g g' : Stage}
  {w w' : World σ}

theorem Session.useDatabase_connected (s : Session) (db : String) :
    (s.useDatabase db).connected = s.connected := by
  unfold useDatabase
  split <;> rfl

theorem Session.useDatabase_fresh (s : Session) (db : String) :
    (s.useDatabase db).fresh = s.fresh := by
  unfold useDatabase
  split <;> rfl

/-- A change of the database has to be sent only on a connection on which a request was sent. -/
theorem Session.sent_of_needsUse {s : Session} {db : String} (h : s.needsUse db = true) :
    s.connected = true ∧ s.fresh = false := by
  simp only [needsUse, Bool.and_eq_true, Bool.not_eq_true'] at h
  exact h.1

/-- No request was sent on the connection, or there is none. -/
def Session.Unsent (s : Session) : Prop := s.connected = false ∨ s.fresh = true

/-- A change that has not to be sent leaves the session meant for the same database. -/
theorem Session.database_of_not_needsUse {s : Session} {db : String} (hsent : ¬ s.Unsent)
    (h : ¬ s.needsUse db = true) : s.database = some db := by
  simp only [Unsent, not_or, Bool.not_eq_false, Bool.not_eq_true] at hsent
  simpa [needsUse, hsent] using h

/-- As long as no request was sent on the connection the session is fresh. -/
theorem Reached.fresh_iff (h : Reached b config server past g w)
    (hc : w.session.connected = true) : w.session.fresh = true ↔ lastRequests past = [] := by
  induction h with
  | start => cases hc
  | @step past es g g' w w' hr hs ih =>
    have hkeep (hconn : w'.session.connected = w.session.connected)
        (hfresh : w'.session.fresh = w.session.fresh) (hes : ∀ e ∈ es, e.connects = false)
        (hreq : requests es = []) :
        w'.session.fresh = true ↔ lastRequests (past ++ es) = [] := by
      rw [hfresh, lastRequests_append past hes, hreq, List.append_nil]
      exact ih (hconn ▸ hc)
    cases hs with
    | useDatabase db =>
      apply hkeep (Session.useDatabase_connected _ _) (Session.useDatabase_fresh _ _)
      · split <;> simp [Event.connects]
      · split <;> rfl
    | connect =>
      rw [← List.singleton_append, ← List.append_assoc, lastRequests_concat, lastRequests_concat]
      simp
    | send => simp
    | leaveLast => cases hc
    | _ => exact hkeep rfl rfl (by simp [Event.connects]) rfl

/-- What waits before the first request on a connection selects no database, and that request is
    the first one. -/
structure Unselected (past : List (Event μ)) (s : Session) : Prop where
  waiting : s.Unsent → ∀ x ∈ (channel past).waiting, x.statement.selects = none
  first : s.connected = true → (s.fresh = true ↔ lastRequests past = [])

theorem Unselected.effect (h : Unselected past w.session)
    (hnext : Reached b config server (past ++ es) g' w') (he : Effect g g' w w' es) :
    Unselected (past ++ es) w'.session := by
  refine ⟨fun hun => ?_, hnext.fresh_iff⟩
  cases he with
  | queue hst halike =>
    apply waiting_selects_none (by simp [Event.switches, hst])
    apply h.waiting
    rwa [Session.Unsent, ← halike.connected, ← halike.fresh]
  | switch db hs =>
    rw [hs, Session.Unsent, Session.useDatabase_connected, Session.useDatabase_fresh] at hun
    cases hneeds : w.session.needsUse db with
    | true =>
      -- A request was sent already, so that the statement may wait.
      obtain ⟨hconn, hsent⟩ := Session.sent_of_needsUse hneeds
      simp [hconn, hsent] at hun
    | false =>
      rw [if_neg Bool.false_ne_true, List.append_nil]
      exact h.waiting hun
  | keep hquiet halike =>
    apply waiting_selects_none fun e he => not_switches_of_quiet (hquiet e he)
    apply h.waiting
    rwa [Session.Unsent, ← halike.connected, ← halike.fresh]
  | connect hc hf hd => exact waiting_selects_none (by simp [Event.switches]) (h.waiting (.inl hc))
  | send hg hc hc' hf hd => simp [Session.Unsent, hc', hf] at hun
  | giveUp hquiet hg hc hp hd =>
    -- The next connection begins with nothing that was queued for this one.
    have hnone := hnext.waiting_eq (by simp [hg])
    rw [hp, List.map_eq_nil_iff] at hnone
    simp [hnone]

theorem Switched.unselected (h : Switched b config server past g w) :
    Unselected past w.session := by
  apply h.induct (motive := fun past w => Unselected past w.session)
  · exact ⟨fun _ => by simp [channel, Channel.empty], fun hc => by cases hc⟩
  · intro past es g g' w w' _ hnext he ih
    exact ih.effect hnext.reached he

/-- A request selects the database that the session is meant for, if what was carried out on the
    connection and what waits would. -/
theorem Switched.selected_request {sts : List Statement}
    (h : Switched b config server past .operating w) (hc : w.session.connected = true)
    (hfirst : lastRequests past = [] → sts = [])
    (hsent : ¬ w.session.Unsent →
      selected (sts ++ (channel past).waiting.map (·.statement)) = w.session.database) :
    selected (sts ++ w.session.request.all) = w.session.database := by
  have hwaiting := h.reached.waiting_eq (by simp)
  cases hfresh : w.session.fresh with
  | true =>
    have hnone : ∀ st ∈ w.session.pending, st.selects = none := by
      intro st hst
      rw [← hwaiting] at hst
      obtain ⟨x, hx, rfl⟩ := List.mem_map.mp hst
      exact h.unselected.waiting (.inr hfresh) x hx
    have hall : w.session.request.all =
        (w.session.database.map Statement.use).toList ++ w.session.pending := by
      simp [Session.request, Request.all, hfresh]
    rw [hfirst ((h.unselected.first hc).mp hfresh), List.nil_append, hall,
      selected_append_of_none _ hnone]
    cases w.session.database <;> rfl
  | false =>
    have hall : w.session.request.all = w.session.pending := by
      simp [Session.request, Request.all, hfresh]
    have hboth : ¬ w.session.Unsent := by simp [Session.Unsent, hc, hfresh]
    rw [hall, ← hwaiting, hsent hboth]

end Unsent

end SqlBatch
