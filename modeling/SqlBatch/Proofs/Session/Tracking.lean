import SqlBatch.Proofs.Session.Locks
import SqlBatch.Proofs.Session.Switching
/- The database that a session takes for selected, when calls fail. A request that fails stops at the
   statement that failed, and a scope that fails drops what waits. Either can lose the selection of a
   database that the session relies on.
     1. `Tracked.effect`: what a step of a plain program does not lose the server comes to.
     2. `database_tracked`: once a request was sent on a connection, carrying out what waits selects
        the database that the session is meant for, unless such a selection was lost.
     3. `selection_dropped_unnoticed`: the session does not notice the loss. -/
namespace SqlBatch

variable {σ μ α : Type}

/-- What is carried out of the request that is sent as the given one, when requests that fail stop
    after so many statements. -/
def Request.carried (stops : Nat → Nat) (n : Nat) (r : Request) (done : Bool) : List Statement :=
  if done then r.all else r.all.take (stops n)

/-- What was carried out. -/
structure Execution where
  /-- How many requests were sent. -/
  sent : Nat
  /-- What the connection that was made last has carried out. -/
  carried : List Statement

/-- What was carried out after one more event. -/
def Execution.after (stops : Nat → Nat) (x : Execution) : Event μ → Execution
  | .connect _ true => { x with carried := [] }
  | .run request done =>
    { sent := x.sent + 1, carried := x.carried ++ request.carried stops x.sent done }
  | _ => x

def execution (stops : Nat → Nat) (past : List (Event μ)) : Execution :=
  past.foldl (Execution.after stops) ⟨0, []⟩

/-- The event loses a statement that selects a database: it waits when a scope fails, or a request
    that fails stops before it. -/
inductive LosesSelection (stops : Nat → Nat) (past : List (Event μ)) : Event μ → Prop where
  | dropped {e : Event μ} {x : Entry} :
      e.fails = true → x ∈ (channel past).waiting → x.statement.selects ≠ none →
      LosesSelection stops past e
  | cut {request : Request} {st : Statement} :
      st ∈ request.all.drop (stops (execution stops past).sent) → st.selects ≠ none →
      LosesSelection stops past (.run request false)

/-- A statement that selects a database was lost on the connection, and since then none was
    queued. -/
def SelectionLost (stops : Nat → Nat) (past : List (Event μ)) : Prop :=
  ∃ before e after, past = before ++ e :: after ∧ LosesSelection stops before e ∧
    ∀ f ∈ after, f.connects = false ∧ f.switches = false

/-- What is carried out and what waits come to the database that the session is meant for. -/
def Tracked (stops : Nat → Nat) (past : List (Event μ)) (s : Session) : Prop :=
  ¬ s.Unsent → selected ((execution stops past).carried ++ (channel past).waiting.map (·.statement)) =
    s.database ∨ SelectionLost stops past

section Execution

variable {stops : Nat → Nat} {past es : List (Event μ)} {e : Event μ}

@[simp] theorem execution_concat (stops : Nat → Nat) (past : List (Event μ)) (e : Event μ) :
    execution stops (past ++ [e]) = (execution stops past).after stops e := by
  simp only [execution, List.foldl_append, List.foldl_cons, List.foldl_nil]

/-- Nothing is carried out on a connection on which nothing was sent. -/
theorem carried_eq_nil (h : lastRequests past = []) : (execution stops past).carried = [] := by
  induction past using List.reverseRecOn with
  | nil => rfl
  | append_singleton past e ih =>
    rw [lastRequests_concat] at h
    rw [execution_concat]
    cases e with
    | connect url made =>
      cases made with
      | true => rfl
      | false => exact ih h
    | run request done => simp at h
    | _ => exact ih h

theorem carried_quiet (he : e.quiet = true) :
    (execution stops (past ++ [e])).carried = (execution stops past).carried := by
  rw [execution_concat]
  cases e with
  | connect url made =>
    cases made with
    | true => cases he
    | false => rfl
  | run request done => cases he
  | _ => rfl

/-- What is lost stays lost. -/
theorem SelectionLost.concat (h : SelectionLost stops past) (hc : e.connects = false)
    (hs : e.switches = false) : SelectionLost stops (past ++ [e]) := by
  obtain ⟨before, e', after, rfl, hlose, hafter⟩ := h
  refine ⟨before, e', after ++ [e], by simp, hlose, ?_⟩
  intro f hf
  rcases List.mem_append.mp hf with hf | hf
  · exact hafter f hf
  · rw [List.mem_singleton.mp hf]
    exact ⟨hc, hs⟩

end Execution

namespace Tracked

variable {stops : Nat → Nat} {past es : List (Event μ)} {s s' : Session}

theorem of_unsent (h : s.Unsent) : Tracked stops past s := fun hsent => absurd h hsent

/-- Only how the session stands towards the server matters. -/
theorem alike (h : Tracked stops past s) (halike : s.Alike s') : Tracked stops past s' := by
  intro hsent
  rw [Session.Unsent, halike.connected, halike.fresh] at hsent
  rw [halike.database]
  exact h hsent

/-- A scope that fails drops what waits. If that selects a database the selection is lost. -/
theorem keep_one {e : Event μ} (h : Tracked stops past s) (he : e.quiet = true) :
    Tracked stops (past ++ [e]) s := by
  intro hsent
  rcases h hsent with hselected | hlost
  · rw [carried_quiet he]
    by_cases hfails : e.fails = true
    · by_cases hdrops : ∃ x ∈ (channel past).waiting, x.statement.selects ≠ none
      · obtain ⟨x, hx, hne⟩ := hdrops
        exact .inr ⟨past, e, [], rfl, .dropped hfails hx hne, by simp⟩
      · left
        have hempties : e.empties = true := by cases e <;> first | rfl | exact hfails
        have hnone : ∀ st ∈ (channel past).waiting.map (·.statement), st.selects = none := by
          intro st hst
          obtain ⟨x, hx, rfl⟩ := List.mem_map.mp hst
          by_contra hne
          exact hdrops ⟨x, hx, hne⟩
        rw [selected_append_of_none _ hnone] at hselected
        rw [channel_concat, Channel.waiting_of_empties hempties, List.map_nil, List.append_nil]
        exact hselected
    · -- No scope has failed, and all waits that waited.
      left
      rw [channel_append_quiet (by simpa using he) (by simpa using hfails)]
      exact hselected
  · exact .inr (hlost.concat (not_connects_of_quiet he) (not_switches_of_quiet he))

theorem keep (h : Tracked stops past s) (hquiet : ∀ e ∈ es, e.quiet = true) :
    Tracked stops (past ++ es) s := by
  induction es using List.reverseRecOn with
  | nil => rwa [List.append_nil]
  | append_singleton es e ih =>
    rw [← List.append_assoc]
    exact (ih fun f hf => hquiet f (List.mem_append_left _ hf)).keep_one (hquiet e (by simp))

theorem queue {st : Statement} (h : Tracked stops past s) (hst : st.selects = none)
    (db : Option String) : Tracked stops (past ++ [.queued st db]) s := by
  intro hsent
  rcases h hsent with hselected | hlost
  · left
    have hone : ∀ st' ∈ [st], st'.selects = none := by simpa using hst
    calc selected ((execution stops (past ++ [.queued st db])).carried ++
          (channel (past ++ [.queued st db])).waiting.map (·.statement))
        = selected ((execution stops past).carried ++
            (channel past).waiting.map (·.statement) ++ [st]) := by
          rw [execution_concat, channel_concat, List.append_assoc]
          simp [Execution.after, Channel.after]
      _ = s.database := by rw [selected_append_of_none _ hone, hselected]
  · exact .inr (hlost.concat rfl (by simp [Event.switches, hst]))

theorem switch {db : String} (h : Tracked stops past s) :
    Tracked stops (past ++ if s.needsUse db then [.queued (.use db) (some db)] else [])
      (s.useDatabase db) := by
  intro hsent
  rw [Session.Unsent, Session.useDatabase_connected, Session.useDatabase_fresh] at hsent
  split
  · -- The selection that is queued makes up for all that was lost before.
    left
    rw [execution_concat, channel_concat]
    simp only [Execution.after, Channel.after, List.map_append, ← List.append_assoc]
    exact selected_concat_use _ db
  · next hneeds =>
    rw [List.append_nil]
    rcases h hsent with hselected | hlost
    · left
      rw [hselected]
      exact Session.database_of_not_needsUse hsent hneeds
    · exact .inr hlost

/-- A request that stops early loses a selection that it comes to after it stopped. -/
theorem sent {request : Request} (done : Bool)
    (h : selected ((execution stops past).carried ++ request.all) = s.database) :
    Tracked stops (past ++ [Event.run request done]) s := by
  intro _
  have hwaiting : (channel (past ++ [Event.run request done])).waiting.map (·.statement) = [] := by
    rw [channel_concat]
    rfl
  rw [hwaiting, List.append_nil, execution_concat]
  cases done with
  | true => exact .inl h
  | false =>
    by_cases hcut : ∃ st ∈ request.all.drop (stops (execution stops past).sent),
        st.selects ≠ none
    · obtain ⟨st, hst, hne⟩ := hcut
      exact .inr ⟨past, _, [], rfl, .cut hst hne, by simp⟩
    · -- What was not carried out would have selected nothing.
      left
      have hnone : ∀ st ∈ request.all.drop (stops (execution stops past).sent),
          st.selects = none := by
        intro st hst
        by_contra hne
        exact hcut ⟨st, hst, hne⟩
      rw [← h, ← List.take_append_drop (stops (execution stops past).sent) request.all,
        ← List.append_assoc, selected_append_of_none _ hnone]
      simp [Execution.after, Request.carried]

end Tracked

section Paths

variable {b : Backend σ} {config : Config} {server : σ} {past es : List (Event μ)} {g g' : Stage}
  {w w' : World σ} {stops : Nat → Nat}

/-- A request selects the database that the session is meant for, unless a selection was lost. -/
theorem Switched.request_selects (hw : Switched b config server past .operating w)
    (hc : w.session.connected = true) (h : Tracked stops past w.session) :
    selected ((execution stops past).carried ++ w.session.request.all) = w.session.database ∨
      SelectionLost stops past := by
  by_cases hlost : SelectionLost stops past
  · exact .inr hlost
  · left
    apply hw.selected_request hc carried_eq_nil
    intro hsent
    exact (h hsent).resolve_right hlost

theorem Tracked.effect (h : Tracked stops past w.session)
    (hw : Switched b config server past g w) (he : Effect g g' w w' es) :
    Tracked stops (past ++ es) w'.session := by
  cases he with
  | queue hst halike => exact (h.queue hst _).alike halike
  | switch db hs =>
    rw [hs]
    exact h.switch
  | keep hquiet halike => exact (h.keep hquiet).alike halike
  | connect hc hf hd => exact .of_unsent (.inr hf)
  | send hg hc hc' hf hd =>
    subst hg
    rcases hw.request_selects hc h with hselected | hlost
    · rw [← hd] at hselected
      exact .sent _ hselected
    · exact fun _ => .inr (hlost.concat rfl rfl)
  | giveUp hquiet hg hc hp hd => exact .of_unsent (.inl hc)

theorem Switched.tracked (stops : Nat → Nat) (h : Switched b config server past g w) :
    Tracked stops past w.session := by
  apply h.induct (motive := fun past w => Tracked stops past w.session)
  · exact .of_unsent (.inl rfl)
  · intro past es g g' w w' hw _ he ih
    exact ih.effect hw he

/-- At every moment of a plain program at which a request was sent on the connection, carrying out
    what waits would leave selected the database that the session is meant for, wherever requests
    that failed have stopped, unless a selection was lost and no other one was queued since. And
    every request leaves that database selected, so that those of its statements that no selection
    follows run in it, unless a selection was lost. -/
theorem database_tracked {p : Program μ α} (hp : p.Plain) (stops : Nat → Nat)
    (h : p.Passes b ⟨.start config, server⟩ past g w) :
    (w.session.connected = true → w.session.fresh = false →
      selected ((execution stops past).carried ++ w.session.pending) = w.session.database ∨
        SelectionLost stops past) ∧
    ∀ before request done after, past = before ++ .run request done :: after →
      ∃ w', p.Passes b ⟨.start config, server⟩ before .operating w' ∧
        request = w'.session.request ∧
        (SelectionLost stops before ∨
          ∀ pre post, request.all = pre ++ post → (∀ st ∈ post, st.selects = none) →
            selected ((execution stops before).carried ++ pre) = w'.session.database) := by
  have hswitched : ∀ {past g w}, p.Passes b ⟨.start config, server⟩ past g w →
      Switched b config server past g w := by
    intro past g w h
    simpa using hp.switched .start h
  refine ⟨?_, ?_⟩
  · intro hc hf
    have hw := hswitched h
    rw [← hw.reached.waiting_of_connected hc]
    exact hw.tracked stops (by simp [Session.Unsent, hc, hf])
  · rintro before request done after rfl
    obtain ⟨rest, hrest⟩ := h.isPrefix
    have hlog : (p.run b ⟨.start config, server⟩).events =
        before ++ .run request done :: (after ++ rest) := by rw [← hrest]; simp
    obtain ⟨w', hpasses, hc, rfl⟩ := p.run_sends _ hlog
    have hw' := hswitched hpasses
    refine ⟨w', hpasses, rfl, ?_⟩
    rcases hw'.request_selects hc (hw'.tracked stops) with hselected | hlost
    · right
      intro pre post hsplit hnone
      rw [← hselected, hsplit, ← List.append_assoc, selected_append_of_none _ hnone]
    · exact .inl hlost

end Paths

/-- In a batch, after a first request, something is done. -/
def afterReading (op : Program Unit Unit) : Program Unit Unit :=
  .scope false .outermost (reading op) fun _ => .done (.ok ())

theorem written_afterReading {op : Program Unit Unit} (h : op.Written) :
    (afterReading op).Written :=
  .batch false (written_reading h) fun _ => .done (.ok ())

/-- A nested batch that fails drops a statement. That one selects no database, and the one that was
    selected still is. -/
theorem database_tracked_after_drop :
    ∃ past w, (afterReading (.queue (.truncate keyTable) (failing (.done (.ok ()))))).Passes
        (Script.backend .generic) untouched past .operating w ∧
      (∃ e ∈ past, e.fails = true) ∧ w.session.connected = true ∧ w.session.fresh = false ∧
      w.session.database = some "app" ∧
      selected ((execution (fun _ => 0) past).carried ++ w.session.pending) = some "app" := by
  have hplain : (afterReading (.queue (.truncate keyTable) (failing (.done (.ok ()))))).Plain :=
    (written_afterReading <| .call (.truncate keyTable) fun _ =>
      written_failing (.done (.ok ()))).plain
  have hmoment : (afterReading (.queue (.truncate keyTable) (failing (.done (.ok ()))))).Passes
      (Script.backend .generic) untouched _ .operating _ :=
    .inside rfl (.left rfl rfl rfl rfl (.queue (.left rfl rfl rfl rfl (.here _ _))))
  have hpasses : (afterReading (.queue (.truncate keyTable) (failing (.done (.ok ()))))).Passes
      (Script.backend .generic) untouched
      [.connect "mock://localhost/app" true, .opened 0,
        .opened 0, .queued (.select { table := keyTable }) (some "app"),
        .run ⟨some "app", [.select { table := keyTable }]⟩ true, .closed false,
        .queued (.truncate keyTable) (some "app"), .opened 0, .closed true] .operating
      ⟨{ untouched.session with connected := true, depth := 1, fresh := false }, ⟨[], [], []⟩⟩ :=
    hmoment
  refine ⟨_, _, hpasses, ⟨.closed true, by simp, rfl⟩, rfl, rfl, rfl, ?_⟩
  rcases (database_tracked hplain (fun _ => 0) hpasses).1 rfl rfl with hselected | hlost
  · exact hselected
  · -- Nothing that was queued selects a database, so that no such statement was lost.
    obtain ⟨before, e, after, hsplit, hlose, -⟩ := hlost
    cases hlose with
    | dropped _ hx hne =>
      have hnone : ∀ f ∈ before ++ e :: after, f.switches = false := by
        rw [← hsplit]
        decide
      have hwaiting : ∀ x ∈ (channel ([] ++ before)).waiting, x.statement.selects = none :=
        waiting_selects_none (fun f hf => hnone f (List.mem_append_left _ hf))
          (by simp [channel, Channel.empty])
      exact absurd (hwaiting _ hx) hne
    | @cut request _ _ _ =>
      have hmem : Event.run request false ∈ before ++ .run request false :: after := by simp
      rw [← hsplit] at hmem
      simp at hmem

/-- A nested batch that fails drops the selection of a database that the session is meant for, and
    what is queued after it is carried out in the other one. -/
theorem selection_dropped_unnoticed :
    (afterReading (.useDatabase "other" (failing truncating))).Plain ∧
    ∃ past w after, (afterReading (.useDatabase "other" (failing truncating))).Passes
        (Script.backend .generic) untouched past .operating w ∧
      w.session.connected = true ∧ w.session.fresh = false ∧
      w.session.database = some "other" ∧ w.session.pending = [.truncate keyTable] ∧
      (∀ stops, selected ((execution stops past).carried ++ w.session.pending) = some "app") ∧
      ((afterReading (.useDatabase "other" (failing truncating))).run (Script.backend .generic)
        untouched).events = past ++ .run ⟨none, [.truncate keyTable]⟩ true :: after := by
  have hplain : (afterReading (.useDatabase "other" (failing truncating))).Plain :=
    (written_afterReading <| .use "other" fun _ => written_failing written_truncating).plain
  have hpasses : (afterReading (.useDatabase "other" (failing truncating))).Passes
      (Script.backend .generic) untouched _ .operating _ :=
    .inside rfl (.left rfl rfl rfl rfl (.useDatabase (.left rfl rfl rfl rfl
      (.queue (.here _ _)))))
  have hrun : ((afterReading (.useDatabase "other" (failing truncating))).run
      (Script.backend .generic) untouched).events =
      [.connect "mock://localhost/app" true, .opened 0,
        .opened 0, .queued (.select { table := keyTable }) (some "app"),
        .run ⟨some "app", [.select { table := keyTable }]⟩ true, .closed false,
        .queued (.use "other") (some "other"), .opened 0, .closed true,
        .queued (.truncate keyTable) (some "other")] ++
      .run ⟨none, [.truncate keyTable]⟩ true :: [.destroy, .closed false] := by
    simp only [afterReading, reading, failing, truncating, Program.run]
    rfl
  exact ⟨hplain, _, _, _, hpasses, rfl, rfl, rfl, rfl, fun stops => rfl, hrun⟩

end SqlBatch
