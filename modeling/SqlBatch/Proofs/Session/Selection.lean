import SqlBatch.Proofs.Session.Locks
import SqlBatch.Proofs.Session.Switching
/- The database that a statement runs in. As long as nothing fails, a statement that was queued while
   the session was meant for a database runs when that one is selected. Only the first request on a
   connection runs in the database that the session is meant for when the request is sent.
     1. `Placed.effect`: every step of a plain program that fails in nothing keeps that.
     2. `statements_run_where_meant`: every request of a run carries its statements to where they
        were meant for. -/
namespace SqlBatch

variable {σ μ α : Type}

/-- All that the connection that was made last was sent, in order. -/
def conversation (past : List (Event μ)) : List Statement := (lastRequests past).flatMap (·.all)

/-- Where what waits stands, towards what the connection was sent. -/
structure Placed (past : List (Event μ)) (s : Session) : Prop where
  /-- A session that was meant for a database always is meant for one. -/
  named : ∀ x ∈ (channel past).waiting, x.meant.isSome = true → s.database.isSome = true
  selects : ¬ s.Unsent →
    selected (conversation past ++ (channel past).waiting.map (·.statement)) = s.database
  meant : ¬ s.Unsent → ∀ pre x post, (channel past).waiting = pre ++ x :: post →
    x.statement.selects = none → selected (conversation past ++ pre.map (·.statement)) = x.meant

/-- An element of a list with one more at its end is that one, or an element of the list. -/
theorem mem_split_concat {δ : Type} {before after es : List δ} {a e : δ}
    (h : es ++ [a] = before ++ e :: after) :
    (∃ rest, es = before ++ e :: rest) ∨ before = es ∧ e = a := by
  rcases mem_split h with hold | ⟨rest, rfl, hnew⟩
  · exact .inl hold
  · right
    cases rest with
    | nil =>
      rw [List.nil_append, List.cons.injEq] at hnew
      exact ⟨List.append_nil _, hnew.1.symm⟩
    | cons a' rest => simp at hnew

namespace Placed

variable {past : List (Event μ)} {s s' : Session}

/-- One more statement waits, and it stands where it was meant to. -/
theorem queue {st : Statement} {db : Option String} (h : Placed past s)
    (hnamed : db.isSome = true → s'.database.isSome = true)
    (hstays : s.database.isSome = true → s'.database.isSome = true)
    (hun : ¬ s'.Unsent → ¬ s.Unsent)
    (hselects : ¬ s'.Unsent → (selected [st]).or s.database = s'.database)
    (hmeant : st.selects = none → db = s.database) :
    Placed (past ++ [Event.queued st db]) s' := by
  have hwaiting : (channel (past ++ [Event.queued st db])).waiting =
      (channel past).waiting ++ [⟨(channel past).queued, st, db⟩] := by
    rw [channel_concat]
    rfl
  have hconv : conversation (past ++ [Event.queued st db]) = conversation past := by
    simp [conversation]
  refine ⟨?_, ?_, ?_⟩
  · intro x hx hsome
    rw [hwaiting] at hx
    rcases List.mem_append.mp hx with hx | hx
    · exact hstays (h.named x hx hsome)
    · rw [List.mem_singleton.mp hx] at hsome
      exact hnamed hsome
  · intro hsent
    calc selected (conversation (past ++ [Event.queued st db]) ++
          (channel (past ++ [Event.queued st db])).waiting.map (·.statement))
        = selected (conversation past ++ (channel past).waiting.map (·.statement) ++ [st]) := by
          rw [hconv, hwaiting, List.map_append, List.append_assoc]
          rfl
      _ = (selected [st]).or s.database := by rw [selected_append, h.selects (hun hsent)]
      _ = s'.database := hselects hsent
  · intro hsent pre x post hsplit hx
    rw [hwaiting] at hsplit
    rw [hconv]
    rcases mem_split_concat hsplit with ⟨rest, hold⟩ | ⟨rfl, rfl⟩
    -- Before the new statement stands all that waited, and that leads to the session's database.
    · exact h.meant (hun hsent) pre x rest hold hx
    · rw [h.selects (hun hsent), hmeant hx]

/-- Nothing waits when a request has been sent. -/
theorem sent {request : Request} {done : Bool}
    (h : selected (conversation past ++ request.all) = s.database) :
    Placed (past ++ [Event.run request done]) s := by
  have hwaiting : (channel (past ++ [Event.run request done])).waiting = [] := by
    rw [channel_concat]
    rfl
  refine ⟨?_, ?_, ?_⟩
  · intro x hx
    rw [hwaiting] at hx
    cases hx
  · intro _
    rw [hwaiting, ← h]
    simp [conversation]
  · intro _ pre x post hsplit
    rw [hwaiting] at hsplit
    simp at hsplit

/-- What waits stands where it did, as long as the session stands alike. -/
theorem keep {es : List (Event μ)} (h : Placed past s) (hquiet : ∀ e ∈ es, e.quiet = true)
    (hclean : ∀ e ∈ es, e.fails = false) (halike : s.Alike s') : Placed (past ++ es) s' := by
  have hun : ¬ s'.Unsent → ¬ s.Unsent := by
    rw [Session.Unsent, halike.connected, halike.fresh]
    exact id
  have hconv : conversation (past ++ es) = conversation past := by
    rw [conversation, lastRequests_append_quiet hquiet, conversation]
  refine ⟨?_, ?_, ?_⟩
  · rw [channel_append_quiet hquiet hclean, halike.database]
    exact h.named
  · rw [channel_append_quiet hquiet hclean, hconv, halike.database]
    exact fun hsent => h.selects (hun hsent)
  · rw [channel_append_quiet hquiet hclean, hconv]
    exact fun hsent => h.meant (hun hsent)

/-- Until a request is sent nothing is selected. -/
theorem of_unsent (hun : s.Unsent)
    (hnamed : ∀ x ∈ (channel past).waiting, x.meant.isSome = true → s.database.isSome = true) :
    Placed past s :=
  ⟨hnamed, fun hsent => absurd hun hsent, fun hsent => absurd hun hsent⟩

theorem switch {db : String} (h : Placed past s) :
    Placed (past ++ if s.needsUse db then [.queued (.use db) (some db)] else [])
      (s.useDatabase db) := by
  have hun : ¬ (s.useDatabase db).Unsent → ¬ s.Unsent := by
    rw [Session.Unsent, Session.useDatabase_connected, Session.useDatabase_fresh]
    exact id
  split
  · exact h.queue (fun _ => rfl) (fun _ => rfl) hun (fun _ => rfl) (fun hst => by cases hst)
  · next hneeds =>
    rw [List.append_nil]
    refine ⟨fun _ _ _ => rfl, fun hsent => ?_, fun hsent => h.meant (hun hsent)⟩
    rw [h.selects (hun hsent)]
    exact Session.database_of_not_needsUse (hun hsent) hneeds

end Placed

section Paths

variable {b : Backend σ} {config : Config} {server : σ} {past es : List (Event μ)} {g g' : Stage}
  {w w' : World σ}

/-- Every step of a plain program that fails in nothing keeps what waits where it was meant to
    stand. -/
theorem Placed.effect (h : Placed past w.session) (hw : Switched b config server past g w)
    (hw' : Switched b config server (past ++ es) g' w') (hclean : ∀ e ∈ es, e.fails = false)
    (he : Effect g g' w w' es) : Placed (past ++ es) w'.session := by
  cases he with
  | @queue st hst halike =>
    have hnone : selected [st] = none := selected_eq_none (by simpa using hst)
    apply h.queue
    · rw [halike.database]
      exact id
    · rw [halike.database]
      exact id
    · rw [Session.Unsent, halike.connected, halike.fresh]
      exact id
    · intro _
      rw [hnone, halike.database]
      rfl
    · intro _
      rfl
  | switch db hs =>
    rw [hs]
    exact h.switch
  | keep hquiet halike => exact h.keep hquiet hclean halike
  | @connect url epoch hc hf hd =>
    have hwaiting : (channel (past ++ [Event.connect url true, .opened epoch])).waiting =
        (channel past).waiting := by
      rw [← List.singleton_append, ← List.append_assoc, channel_concat, channel_concat]
      rfl
    apply Placed.of_unsent (.inr hf)
    rw [hwaiting, hd]
    exact h.named
  | send hg hc hc' hf hd =>
    apply Placed.sent
    rw [hd]
    subst hg
    apply hw.selected_request hc
    · intro hnil
      rw [conversation, hnil]
      rfl
    · exact h.selects
  | giveUp hquiet hg hc hp hd =>
    apply Placed.of_unsent (.inl hc)
    rw [channel_append_quiet hquiet hclean, hd]
    exact h.named

theorem Switched.placed (h : Switched b config server past g w)
    (hclean : ∀ e ∈ past, e.fails = false) : Placed past w.session := by
  revert hclean
  apply h.induct (motive := fun past w => (∀ e ∈ past, e.fails = false) → Placed past w.session)
  · exact fun _ => .of_unsent (.inl rfl) (by simp [channel, Channel.empty])
  · intro past es g g' w w' hw hw' he ih hclean
    have hpast := ih fun e hmem => hclean e (List.mem_append_left _ hmem)
    exact hpast.effect hw hw' (fun e hmem => hclean e (List.mem_append_right _ hmem)) he

/-- As long as no scope has failed, every request of a plain program carries each of its statements
    to where it was meant for: when its turn comes, the database that was selected last on the
    connection is the one that the session was meant for when the statement was queued. In the first
    request on a connection it is the one that the session is meant for when the request is sent.
    This leaves out the statements that select a database, and those that were queued while there was
    none. -/
theorem statements_run_where_meant {p : Program μ α} {before after : List (Event μ)}
    {request : Request} {done : Bool} (hp : p.Plain)
    (hlog : (p.run b ⟨.start config, server⟩).events = before ++ .run request done :: after)
    (hclean : ∀ e ∈ before, e.fails = false) :
    ∃ w, p.Passes b ⟨.start config, server⟩ before .operating w ∧ request = w.session.request ∧
      request.statements = (channel before).waiting.map (·.statement) ∧
      ∀ pre x post d, (channel before).waiting = pre ++ x :: post → x.statement.selects = none →
        x.meant = some d →
        selected (conversation before ++ (request.database.map Statement.use).toList ++
            pre.map (·.statement)) =
          (if lastRequests before = [] then w.session.database else some d) ∧
        w.session.database.isSome = true := by
  obtain ⟨w, hpasses, hconn, rfl⟩ := p.run_sends _ hlog
  have hw : Switched b config server before .operating w := by
    simpa using hp.switched .start hpasses
  have hplaced := hw.placed hclean
  have hwaiting := hw.reached.waiting_eq (by simp)
  refine ⟨w, hpasses, rfl, hwaiting.symm, ?_⟩
  intro pre x post d hsplit hx hmeant
  have hmem : x ∈ (channel before).waiting := by
    rw [hsplit]
    simp
  have hsome := hplaced.named x hmem (by rw [hmeant]; rfl)
  refine ⟨?_, hsome⟩
  have hfirst := hw.unselected.first hconn
  cases hfresh : w.session.fresh with
  | true =>
    -- Only what the first request begins with selects a database.
    have hnone : ∀ st ∈ pre.map (·.statement), st.selects = none := by
      intro st hst
      obtain ⟨y, hy, rfl⟩ := List.mem_map.mp hst
      apply hw.unselected.waiting (.inr hfresh)
      rw [hsplit]
      exact List.mem_append_left _ hy
    have hdb : w.session.request.database = w.session.database := by
      rw [Session.request, hfresh]
      rfl
    rw [if_pos (hfirst.mp hfresh), selected_append_of_none _ hnone, conversation,
      hfirst.mp hfresh, hdb]
    cases w.session.database <;> rfl
  | false =>
    -- A later request begins with its first statement.
    have hsent : ¬ w.session.Unsent := by simp [Session.Unsent, hconn, hfresh]
    have hdb : w.session.request.database = none := by
      rw [Session.request, hfresh]
      rfl
    have hlater : lastRequests before ≠ [] := fun hnil => by
      rw [hfirst.mpr hnil] at hfresh
      cases hfresh
    rw [if_neg hlater, ← hmeant, ← hplaced.meant hsent pre x post hsplit hx, hdb]
    simp

end Paths

/-- Behind a first request rows are deleted, and then something is done in another database. -/
def switchingLater : Program Unit Unit :=
  .scope false .outermost
    (reading (.queue (.truncate keyTable) <| .useDatabase "other" <|
      .queue (.createDatabase "b") (.done (.ok ()))))
    fun _ => .done (.ok ())

theorem written_switchingLater : switchingLater.Written :=
  .batch false
    (written_reading <| .call (.truncate keyTable) fun _ => .use "other" fun _ =>
      .call (.createDatabase "b") fun _ => .done (.ok ()))
    fun _ => .done (.ok ())

/-- The rows are deleted where they were meant to be, although the database was changed before the
    request was sent, and what was queued after the change runs in the other one. -/
theorem statements_run_where_meant_switching :
    ∃ before after, (switchingLater.run (Script.backend .generic) untouched).events =
        before ++ .run ⟨none, [.truncate keyTable, .use "other", .createDatabase "b"]⟩ true :: after ∧
      selected (conversation before) = some "app" ∧
      selected (conversation before ++ [.truncate keyTable, .use "other"]) = some "other" := by
  have hlog : (switchingLater.run (Script.backend .generic) untouched).events =
      [.connect "mock://localhost/app" true, .opened 0, .opened 0,
        .queued (.select { table := keyTable }) (some "app"),
        .run ⟨some "app", [.select { table := keyTable }]⟩ true, .closed false,
        .queued (.truncate keyTable) (some "app"), .queued (.use "other") (some "other"),
        .queued (.createDatabase "b") (some "other")] ++
      .run ⟨none, [.truncate keyTable, .use "other", .createDatabase "b"]⟩ true ::
        [.destroy, .closed false] := by
    simp only [switchingLater, reading, Program.run]
    rfl
  obtain ⟨w, -, -, -, hall⟩ :=
    statements_run_where_meant written_switchingLater.plain hlog (by decide)
  refine ⟨_, _, hlog, ?_, ?_⟩
  · have hrows := (hall [] ⟨1, .truncate keyTable, some "app"⟩ _ "app" rfl rfl rfl).1
    simpa using hrows.trans (if_neg (List.cons_ne_nil _ _))
  · have hother := (hall
      [⟨1, .truncate keyTable, some "app"⟩, ⟨2, .use "other", some "other"⟩]
      ⟨3, .createDatabase "b", some "other"⟩ [] "other" rfl rfl rfl).1
    simpa using hother.trans (if_neg (List.cons_ne_nil _ _))

/-- Rows are deleted, and the database is changed before any request is sent. -/
def switchingFirst : Program Unit Unit :=
  .queue (.truncate keyTable) <| .useDatabase "other" <|
    .scope false .outermost (.done (α := Unit) (.ok ())) fun _ => .done (.ok ())

theorem written_switchingFirst : switchingFirst.Written :=
  .call (.truncate keyTable) fun _ => .use "other" fun _ =>
    .batch false (.done (α := Unit) (.ok ())) fun _ => .done (.ok ())

/-- A statement of the first request runs in the database that the session is meant for when the
    request is sent, although another one was meant. -/
theorem runs_elsewhere_in_first_request :
    switchingFirst.Plain ∧
    ∃ before request after, (switchingFirst.run (Script.backend .generic) untouched).events =
        before ++ .run request true :: after ∧
      (∀ e ∈ before ++ .run request true :: after, e.fails = false) ∧
      (channel before).waiting = [⟨0, .truncate keyTable, some "app"⟩] ∧
      request.statements = [.truncate keyTable] ∧
      selected (conversation before ++ (request.database.map Statement.use).toList) =
        some "other" := by
  have hlog : (switchingFirst.run (Script.backend .generic) untouched).events =
      [.queued (.truncate keyTable) (some "app"), .connect "mock://localhost/app" true,
        .opened 0] ++ .run ⟨some "other", [.truncate keyTable]⟩ true ::
        [.destroy, .closed false] := by
    simp only [switchingFirst, Program.run]
    rfl
  exact ⟨written_switchingFirst.plain, _, _, _, hlog, by decide, rfl, rfl, rfl⟩

end SqlBatch
