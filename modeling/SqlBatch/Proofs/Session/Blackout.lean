import SqlBatch.Proofs.Session.Locks
import SqlBatch.Proofs.Session.Switching
/- What follows when a nested scope has given the connection up. The scopes around it go on without
   one, and none is made for them until the outermost of them has returned.
     1. `Blackout.dark`, `Blackout.refused`: until then nothing reaches the server, and every scope
        is refused.
     2. `Blackout.not_sent`: what is queued until then is never sent.
     3. `Program.first_request`: the next outermost call asks for a connection of its own, and its
        first request selects the database.
     4. `Blackout.dropped`: what is queued until then is dropped by a scope that fails, which is the
        outermost one unless a failure in it was swallowed before. -/
namespace SqlBatch

variable {σ μ α β γ : Type}

/-- Scopes are open, and all of them have outlived their connection. -/
structure Stranded (past : List (Event μ)) : Prop where
  some_open : openScopes past ≠ []
  outlived : ∀ o ∈ openScopes past, o.outlived = true

theorem Stranded.congr {past past' : List (Event μ)} (h : Stranded past)
    (hopen : openScopes past' = openScopes past) : Stranded past' where
  some_open := by rw [hopen]; exact h.some_open
  outlived := by rw [hopen]; exact h.outlived

/-- They stay so as long as no scope is opened and the last one is not closed. -/
theorem Stranded.concat {past : List (Event μ)} {e : Event μ} (h : Stranded past)
    (he : e.opens = false) (hopen : openScopes (past ++ [e]) ≠ []) : Stranded (past ++ [e]) where
  some_open := hopen
  outlived := by
    rw [openScopes_append]
    intro o ho
    cases e with
    | opened epoch => cases he
    | closed failed => exact h.outlived o (List.mem_of_mem_tail ho)
    | destroy =>
      obtain ⟨x, -, rfl⟩ := List.mem_map.mp ho
      rfl
    | _ => exact h.outlived o ho

/-- They are when a scope in them has given their connection up. -/
theorem Stranded.of_destroy {past : List (Event μ)} {failed : Bool}
    (hopen : openScopes (past ++ [Event.destroy, .closed failed]) ≠ []) :
    Stranded (past ++ [Event.destroy, .closed failed]) where
  some_open := hopen
  outlived := by
    rw [openScopes_append]
    intro o ho
    obtain ⟨x, -, rfl⟩ := List.mem_map.mp (List.mem_of_mem_tail ho)
    rfl

/-- The event neither reaches the server nor opens a scope. -/
def Event.dark (e : Event μ) : Bool := !e.onWire && !e.opens

section Steps

variable {b : Backend σ} {config : Config} {server : σ} {past pre post : List (Event μ)}
  {w w' : World σ} {g g' : Stage} {e : Event μ}

/-- Scopes that have outlived their connection are counted as orphans. -/
theorem Stranded.counted (h : Stranded past) (hr : Reached b config server past g w) :
    0 < w.session.orphans ∧ w.session.connected = false ∧
      ∀ o ∈ openScopes past, o.epoch ≠ w.session.epoch := by
  obtain ⟨o, os, hopen⟩ := List.exists_cons_of_ne_nil h.some_open
  have hout := h.outlived
  have hcount := counted_of_reached hr
  rw [hopen] at hcount hout ⊢
  cases hcount with
  | sharing _ _ _ hall =>
    have hgone := hout o List.mem_cons_self
    rw [hall o List.mem_cons_self] at hgone
    cases hgone
  | orphaned hpos _ _ hc hall => exact ⟨hpos, hc, fun o ho => (hall o ho).1⟩

theorem split_one {x : Event μ} (h : pre ++ e :: post = [x]) : pre = [] ∧ e = x := by
  rcases List.append_eq_cons_iff.mp h with ⟨rfl, h⟩ | ⟨rest, -, h⟩
  · exact ⟨rfl, (List.cons.inj h).1⟩
  · simp at h

theorem split_two {x y : Event μ} (h : pre ++ e :: post = [x, y]) :
    (pre = [] ∧ e = x) ∨ (pre = [x] ∧ e = y) := by
  rcases List.append_eq_cons_iff.mp h with ⟨rfl, hone⟩ | ⟨rest, rfl, hrest⟩
  · exact .inl ⟨rfl, (List.cons.inj hone).1⟩
  · obtain ⟨rfl, rfl⟩ := split_one hrest.symm
    exact .inr ⟨rfl, rfl⟩

/-- No step reaches the server or opens a scope when all open scopes have outlived their
    connection. -/
theorem Step.dark (hr : Reached b config server past g w)
    (hs : Step b past g w (pre ++ e :: post) g' w') (h : Stranded (past ++ pre)) :
    e.dark = true := by
  -- No step begins here that would do so.
  have hnone (hp : openScopes (past ++ pre) = openScopes past) :
      w.session.orphans ≠ 0 ∧ w.session.connected ≠ true ∧
        ∀ epoch failed, g = .leaving epoch failed → epoch ≠ w.session.epoch := by
    obtain ⟨hpos, hc, hepoch⟩ := (h.congr hp.symm).counted hr
    refine ⟨by omega, by simp [hc], fun epoch failed hg => ?_⟩
    obtain ⟨o, os, hopen, rfl⟩ := hr.leavesInnermost epoch failed hg
    exact hepoch o (by simp [hopen])
  generalize hes : pre ++ e :: post = es at hs
  cases hs with
  | queue | mark | refuse | leaveOrphan | leaveShared =>
    obtain ⟨-, rfl⟩ := split_one hes
    rfl
  | useDatabase db =>
    split at hes
    · obtain ⟨-, rfl⟩ := split_one hes
      rfl
    · simp at hes
  | miss ho hc hb =>
    rcases split_two hes with ⟨rfl, -⟩ | ⟨-, rfl⟩
    · exact absurd ho (hnone (by simp)).1
    · rfl
  | connect ho hc hb =>
    rcases split_two hes with ⟨rfl, -⟩ | ⟨rfl, -⟩
    · exact absurd ho (hnone (by simp)).1
    · exact absurd ho (hnone (by simp [openScopes_append, opensAfter])).1
  | join ho hc =>
    obtain ⟨rfl, -⟩ := split_one hes
    exact absurd ho (hnone (by simp)).1
  | fail | keep | strand => simp at hes
  | send ho hc hp hb =>
    obtain ⟨rfl, -⟩ := split_one hes
    exact absurd hc (hnone (by simp)).2.1
  | leaveLast he hd =>
    split at hes
    · rcases split_two hes with ⟨rfl, -⟩ | ⟨-, rfl⟩
      · exact absurd he ((hnone (by simp)).2.2 _ _ rfl)
      · rfl
    · obtain ⟨-, rfl⟩ := split_one hes
      rfl

/-- Nor does a request with which everything ends. -/
theorem Program.run_dark (p : Program μ α) {before after : List (Event μ)}
    (hlog : (p.run b ⟨.start config, server⟩).events = before ++ e :: after)
    (h : Stranded before) : e.dark = true := by
  rcases p.passes_beyond _ hlog with ⟨rest, g, w', hp⟩ | ⟨request, done, rfl⟩
  · obtain ⟨past₁, g₁, w₁, pre, post, g₂, w₂, hr, hs, rfl⟩ := hp.reached.caused rfl
    exact hs.dark hr h
  · obtain ⟨w₀, hp, hc, -⟩ := p.run_sends _ hlog
    exact absurd hc (by simp [(h.counted hp.reached).2.1])

end Steps

/-! The period without a connection. -/

/-- Up to some event of a run the open scopes have outlived their connection, and through the events
    that follow one of them is open, except after the last of these events. -/
structure Blackout (b : Backend σ) (config : Config) (server : σ) (p : Program μ α)
    (past during : List (Event μ)) : Prop where
  place : past ++ during <+: (p.run b ⟨.start config, server⟩).events
  stranded : Stranded past
  some_open : ∀ l, l <+: during → l ≠ during → openScopes (past ++ l) ≠ []

namespace Blackout

variable {b : Backend σ} {config : Config} {server : σ} {p : Program μ α}
  {past during l : List (Event μ)} {w : World σ}

theorem run_split (h : Blackout b config server p past during) {e : Event μ}
    (hl : l ++ [e] <+: during) :
    ∃ after, (p.run b ⟨.start config, server⟩).events = past ++ l ++ e :: after := by
  obtain ⟨rest, rfl⟩ := hl
  obtain ⟨after, hafter⟩ := h.place
  exact ⟨rest ++ after, by rw [← hafter]; simp⟩

/-- All that time no scope is open that has not outlived its connection. -/
theorem stranded_after (h : Blackout b config server p past during) (hl : l <+: during)
    (hne : l ≠ during) : Stranded (past ++ l) := by
  induction l using List.reverseRecOn with
  | nil =>
    rw [List.append_nil]
    exact h.stranded
  | append_singleton l e ih =>
    have hbefore : Stranded (past ++ l) := by
      refine ih ((List.prefix_append l [e]).trans hl) ?_
      rintro rfl
      have hlen := hl.length_le
      rw [List.length_append, List.length_singleton] at hlen
      omega
    obtain ⟨after, hafter⟩ := h.run_split hl
    have he := p.run_dark hafter hbefore
    simp only [Event.dark, Bool.and_eq_true, Bool.not_eq_true'] at he
    rw [← List.append_assoc]
    refine hbefore.concat he.2 ?_
    rw [List.append_assoc]
    exact h.some_open _ hl hne

/-- Nothing reaches the server, and no scope is opened. -/
theorem dark (h : Blackout b config server p past during) : ∀ e ∈ during, e.dark = true := by
  intro e he
  obtain ⟨front, back, rfl⟩ := List.append_of_mem he
  have hl : front ++ [e] <+: front ++ e :: back := ⟨back, by simp⟩
  obtain ⟨after, hafter⟩ := h.run_split hl
  exact p.run_dark hafter (h.stranded_after (List.prefix_append _ _) (by simp))

/-- Every scope is refused. -/
theorem refused (h : Blackout b config server p past during) (hl : l <+: during)
    (hne : l ≠ during) {d : Bool} {s : Sending} {op : Program μ β}
    {next : Except Failure (Batched β) → Program μ γ}
    (hcomes : p.Comes b ⟨.start config, server⟩ (past ++ l) (.scope d s op next) w) :
    (Program.scope d s op next).run b w =
      ((next (.error .orphanedScope)).run b (w.put w.session.cleared)).after [.refused] := by
  have hpos := ((h.stranded_after hl hne).counted hcomes.passes.reached).1
  simp only [Program.run, World.enter, hpos, if_true]

/-- When no scope is open any more the period is over, and nothing waits. -/
theorem ended (h : Blackout b config server p past during)
    (hplace : past ++ l <+: (p.run b ⟨.start config, server⟩).events)
    (hnone : openScopes (past ++ l) = []) :
    ∃ k, k <+: l ∧ during <+: k ∧ ∀ i, (ledger (past ++ k)).fate? i ≠ some .pending := by
  obtain ⟨front, failed, back, rfl, hclosed⟩ := closed_of_openScopes h.stranded.some_open hnone
  have hk : front ++ [Event.closed failed] <+: front ++ Event.closed failed :: back :=
    ⟨back, by simp⟩
  refine ⟨_, hk, ?_, ?_⟩
  · have hkplace := ((List.prefix_append_right_inj past).mpr hk).trans hplace
    rcases List.prefix_or_prefix_of_prefix h.place hkplace with hle | hle
    · exact (List.prefix_append_right_inj past).mp hle
    · rw [List.prefix_append_right_inj] at hle
      by_cases heq : front ++ [Event.closed failed] = during
      · rw [heq]
      · exact absurd hclosed (h.some_open _ hle heq)
  · obtain ⟨after, hlog⟩ := hplace
    have hsplit : (p.run b ⟨.start config, server⟩).events =
        past ++ front ++ Event.closed failed :: (back ++ after) := by
      rw [← hlog]
      simp
    rcases p.passes_beyond _ hsplit with ⟨rest, g, w', hp⟩ | ⟨_, _, he⟩
    · rw [← List.append_assoc] at hclosed ⊢
      have hempty := hp.reached.waiting_of_closed rfl hclosed
      apply Ledger.fate?_ne_of_having
      rw [← waiting_eq_pending, hempty]
      rfl
    · cases he

/-- What is queued is never sent. -/
theorem not_sent (h : Blackout b config server p past during) {log : List (Event μ)} {i : Nat}
    (hlog : log <+: (p.run b ⟨.start config, server⟩).events)
    (hlo : (queuedStatements past).length ≤ i)
    (hhi : i < (queuedStatements (past ++ during)).length) :
    (ledger log).fate? i ≠ some .sent := by
  have hnone {log : List (Event μ)} {fate : Fate} (hle : (queuedStatements log).length ≤ i) :
      (ledger log).fate? i ≠ some fate := by
    rw [← length_ledger] at hle
    simp [Ledger.fate?, List.getElem?_eq_none hle]
  intro hsent
  rcases List.prefix_or_prefix_of_prefix hlog ((List.prefix_append _ _).trans h.place) with
    ⟨rest, rfl⟩ | ⟨rest, rfl⟩
  · refine hnone (Nat.le_trans ?_ hlo) hsent
    rw [queuedStatements_append, List.length_append]
    exact Nat.le_add_right _ _
  · rcases fate?_append hsent with hold | ⟨hf, -⟩ | ⟨front, e, back, rfl, hwait, hmeets⟩
    · exact hnone hlo hold
    · cases hf
    · rcases hmeets with ⟨-, request, done, rfl⟩ | ⟨hf, -⟩
      · have hplace : past ++ (front ++ [Event.run request done]) <+:
            (p.run b ⟨.start config, server⟩).events := by
          refine List.IsPrefix.trans ?_ hlog
          rw [List.prefix_append_right_inj]
          exact ⟨back, by simp⟩
        -- The period goes on until the request, or it was over before and nothing waited then.
        by_cases hopen : ∀ k, k <+: front → openScopes (past ++ k) ≠ []
        · have hlonger : Blackout b config server p past (front ++ [Event.run request done]) := by
            refine ⟨hplace, h.stranded, fun k hk hne => ?_⟩
            rcases List.prefix_concat_iff.mp hk with rfl | hk
            · exact absurd rfl hne
            · exact hopen k hk
          have := hlonger.dark (.run request done) (by simp)
          cases this
        · push Not at hopen
          obtain ⟨k, ⟨more, rfl⟩, hk⟩ := hopen
          have hkplace : past ++ k <+: (p.run b ⟨.start config, server⟩).events := by
            refine List.IsPrefix.trans ?_ hplace
            rw [List.prefix_append_right_inj]
            exact ⟨more ++ [Event.run request done], by simp⟩
          obtain ⟨k', ⟨more', rfl⟩, ⟨between, rfl⟩, hmet⟩ := h.ended hkplace hk
          refine hmet i (fate?_pending (more' ++ more) ?_ (by simpa using hwait))
          rw [← List.append_assoc, queuedStatements_append, List.length_append]
          omega
      · cases hf

/-- When no scope is open any more it has been dropped. -/
theorem dropped (h : Blackout b config server p past during)
    (hnone : openScopes (past ++ during) = []) {i : Nat} (hlo : (queuedStatements past).length ≤ i)
    (hhi : i < (queuedStatements (past ++ during)).length) :
    (ledger (past ++ during)).fate? i = some .dropped := by
  obtain ⟨k, hk, hduring, hmet⟩ := h.ended h.place hnone
  rw [hk.eq_of_length_le hduring.length_le] at hmet
  obtain ⟨fate, hfate⟩ := exists_fate? hhi
  cases fate with
  | pending => exact absurd hfate (hmet i)
  | sent => exact absurd hfate (h.not_sent h.place hlo hhi)
  | dropped => exact hfate

/-- It was dropped by a scope that failed after it was queued. -/
theorem dropped_by {mid rest : List (Event μ)} {st : Statement} {db : Option String}
    (h : Blackout b config server p past (mid ++ Event.queued st db :: rest))
    (hnone : openScopes (past ++ (mid ++ Event.queued st db :: rest)) = []) :
    ∃ before e after, rest = before ++ e :: after ∧ e.fails = true ∧
      (ledger (past ++ mid ++ Event.queued st db :: before)).fate?
        (queuedStatements (past ++ mid)).length = some .pending := by
  generalize hi : (queuedStatements (past ++ mid)).length = i
  have hsplit (l : List (Event μ)) :
      past ++ mid ++ Event.queued st db :: l = past ++ mid ++ [Event.queued st db] ++ l := by simp
  rw [← List.append_assoc, hsplit] at hnone
  have hwaits : (ledger (past ++ mid ++ [Event.queued st db])).fate? i = some .pending := by
    rw [← length_ledger] at hi
    subst hi
    simp [ledger_append, Ledger.account, Ledger.fate?]
  have hdropped :
      (ledger (past ++ mid ++ [Event.queued st db] ++ rest)).fate? i = some .dropped := by
    have hlo : (queuedStatements past).length ≤ i := by
      rw [← hi, queuedStatements_append, List.length_append]
      exact Nat.le_add_right _ _
    have hhi : i < (queuedStatements (past ++ mid ++ [Event.queued st db] ++ rest)).length := by
      rw [queuedStatements_append, queuedStatements_append (past ++ mid), List.length_append,
        List.length_append, hi]
      exact Nat.lt_of_lt_of_le (Nat.lt_succ_self i) (Nat.le_add_right _ _)
    have hall := h.dropped (by rwa [← List.append_assoc, hsplit]) hlo
      (by rwa [← List.append_assoc, hsplit])
    rwa [← List.append_assoc, hsplit] at hall
  rcases fate?_append hdropped with hold | ⟨hf, -⟩ | ⟨before, e, after, rfl, hwait, hmeets⟩
  · rw [hwaits] at hold
    cases hold
  · cases hf
  · rcases hmeets with ⟨hf, -⟩ | ⟨-, he⟩
    · cases hf
    · exact ⟨before, e, after, rfl, he, by rw [hsplit]; exact hwait⟩

end Blackout

/-! The call of the outermost scope. -/

section Calls

variable {b : Backend σ} {config : Config} {server : σ} {p : Program μ α}
  {past front rest : List (Event μ)} {d failed : Bool} {s : Sending} {op : Program μ β}
  {next : Except Failure (Batched β) → Program μ γ} {w w' : World σ}

/-- The log of a scope that a run comes to stands where the run comes to it. -/
theorem Program.Comes.isPrefix_scope
    (h : p.Comes b ⟨.start config, server⟩ past (.scope d s op next) w) :
    past ++ ((Program.scope d s op .done).run b w).events <+:
      (p.run b ⟨.start config, server⟩).events := by
  obtain ⟨more, hmore, -⟩ := Program.run_scope_events b d s op next w
  refine List.IsPrefix.trans ?_ h.isPrefix
  rw [List.prefix_append_right_inj, hmore]
  exact List.prefix_append _ _

theorem Reached.getLast?_ne_destroy {g : Stage} (h : Reached b config server past g w) :
    past.getLast? ≠ some .destroy := by
  induction h with
  | start => simp
  | step _ hs ih =>
    cases hs with
    | useDatabase db => split <;> simp [ih]
    | leaveLast => split <;> simp
    | fail | keep | strand => simpa using ih
    | _ => simp

/-- A scope that gives up the connection of scopes around it has failed. -/
theorem Reached.failed_of_destroy {g : Stage} {after : List (Event μ)}
    (h : Reached b config server (past ++ [Event.destroy] ++ Event.closed failed :: after) g w)
    (hopen : openScopes (past ++ [Event.destroy, .closed failed]) ≠ []) : failed = true := by
  obtain ⟨past₁, g₁, w₁, pre, post, g₂, w₂, hr, hs, hbefore⟩ := h.caused rfl
  generalize hes : pre ++ Event.closed failed :: post = es at hs
  cases hs with
  | leaveOrphan | leaveShared =>
    obtain ⟨rfl, -⟩ := split_one hes
    rw [List.append_nil] at hbefore
    exact absurd (by rw [← hbefore]; simp) hr.getLast?_ne_destroy
  | leaveLast he hlast =>
    obtain ⟨o, os, hscopes, rfl⟩ := hr.leavesInnermost _ _ rfl
    have hcount := counted_of_reached hr
    rw [hscopes] at hcount
    obtain ⟨-, hlen, hc, -⟩ := hcount.of_epoch_eq he
    rw [if_pos hc] at hes
    rcases split_two hes with ⟨-, he'⟩ | ⟨rfl, he'⟩
    · cases he'
    · obtain rfl := Event.closed.inj he'
      obtain rfl := List.append_cancel_right hbefore
      cases failed with
      | true => rfl
      | false =>
        -- It would have been the only scope that was open.
        have hdepth := hlast rfl
        obtain rfl : os = [] := List.eq_nil_of_length_eq_zero (by omega)
        simp [openScopes_append, hscopes, opensAfter] at hopen
  | miss | connect =>
    rcases split_two hes with ⟨-, he⟩ | ⟨-, he⟩
    · cases he
    · cases he
  | useDatabase db =>
    split at hes
    · cases (split_one hes).2
    · simp at hes
  | fail | keep | strand => simp at hes
  | _ => cases (split_one hes).2

/-- The call of an outermost scope asks for a connection, and the first request in it selects the
    database that the session is meant for then, if it is meant for one. -/
theorem Program.first_request
    (hcall : p.Comes b ⟨.start config, server⟩ past (.scope d s op next) w)
    (houter : openScopes past = []) :
    ∃ made tail,
      ((Program.scope d s op .done).run b w).events = .connect config.url made :: tail ∧
      ∀ before request done after, tail = before ++ Event.run request done :: after →
        requests before = [] →
        ∃ w₀, p.Passes b ⟨.start config, server⟩ (past ++ Event.connect config.url made :: before)
            .operating w₀ ∧
          request.all = (w₀.session.database.map Statement.use).toList ++ w₀.session.pending := by
  have hr := hcall.passes.reached
  have hrest := hr.atRest houter
  obtain ⟨made, tail, hlog, hmade⟩ : ∃ made tail,
      ((Program.scope d s op .done).run b w).events = .connect config.url made :: tail ∧
        (made = false → tail = [.refused]) := by
    rcases hc : b.connect w.session.config w.server with ⟨e | _, server'⟩
    · have he : w.enter (μ := μ) b = (.error e, ⟨w.session.cleared, server'⟩,
          [.connect w.session.config.url false, .refused]) := by
        simp [World.enter, hrest.orphans, hrest.connected, hc]
      refine ⟨false, [.refused], ?_, fun _ => rfl⟩
      simp only [run, he, Ran.after, hr.server_eq.1, List.append_nil]
    · have he : w.enter (μ := μ) b = (.ok (),
          ⟨{ w.session with connected := true, fresh := true, depth := w.session.depth + 1 },
            server'⟩, [.connect w.session.config.url true, .opened w.session.epoch]) := by
        simp [World.enter, hrest.orphans, hrest.connected, hc]
      obtain ⟨rest, hlog⟩ := prefix_run_scope d s .done he
      rw [hr.server_eq.1] at hlog
      exact ⟨true, _, hlog.symm, fun h => by cases h⟩
  refine ⟨made, tail, hlog, ?_⟩
  rintro before request done after rfl hfirst
  obtain ⟨more, hmore⟩ := hcall.isPrefix_scope
  have hsplit : (p.run b ⟨.start config, server⟩).events =
      past ++ Event.connect config.url made :: before ++
        Event.run request done :: (after ++ more) := by
    rw [← hmore, hlog]
    simp
  obtain ⟨w₀, hp, hc, rfl⟩ := p.run_sends _ hsplit
  refine ⟨w₀, hp, ?_⟩
  cases made with
  | false => cases (split_one (hmade rfl)).2
  | true =>
    have hnone : lastRequests (past ++ Event.connect config.url true :: before) = [] := by
      rw [List.append_cons]
      exact lastRequests_eq_nil (by simp) hfirst
    simp [Session.request, Request.all, (hp.reached.fresh_iff hc).mpr hnone]

/-- The period begins when a scope of an outermost call has given the connection up, and ends with
    the call. -/
theorem Program.Comes.blackout
    (hcall : p.Comes b ⟨.start config, server⟩ past (.scope d s op next) w)
    (hlog : ((Program.scope d s op .done).run b w).events =
      front ++ Event.destroy :: .closed failed :: rest) (hrest : rest ≠ []) :
    failed = true ∧
      Blackout b config server p (past ++ front ++ [Event.destroy, .closed failed]) rest := by
  have hsplit (l : List (Event μ)) : past ++ (front ++ Event.destroy :: .closed failed :: l) =
      past ++ front ++ [Event.destroy, .closed failed] ++ l := by simp
  have hplace := hcall.isPrefix_scope
  have hscope := Program.scopeLog (b := b) (fun w => op.keepsOpen_run b w) d s w
  rw [hlog] at hplace hscope
  rw [hsplit] at hplace
  have hopen (l : List (Event μ)) (hl : l <+: rest) (hne : l ≠ rest) :
      openScopes (past ++ front ++ [Event.destroy, .closed failed] ++ l) ≠ [] := by
    rw [← hsplit]
    refine hscope.openScopes_ne_nil ?_ (by simpa using hne) (by simp)
    obtain ⟨more, rfl⟩ := hl
    exact ⟨more, by simp⟩
  have hstart := hopen [] List.nil_prefix hrest.symm
  rw [List.append_nil] at hstart
  refine ⟨?_, hplace, .of_destroy hstart, hopen⟩
  obtain ⟨more, hmore⟩ := hplace
  have hclosed : (p.run b ⟨.start config, server⟩).events =
      past ++ front ++ [Event.destroy] ++ Event.closed failed :: (rest ++ more) := by
    rw [← hmore]
    simp
  rcases p.passes_beyond _ hclosed with ⟨after, g, w', hp⟩ | ⟨_, _, he⟩
  · exact hp.reached.failed_of_destroy hstart
  · cases he

/-- When in the call of a scope, the outermost one included, another one has given the connection
    up, that one has failed, and until the call returns nothing reaches the server and no scope is
    opened. Every scope, that of a read included, that the run comes to in that period is refused,
    without its operation. What is queued in the period is never sent. Every call of an outermost
    scope asks for a connection of its own, and if a request is sent on it the first one selects the
    database that the session is meant for. -/
theorem blackout_after_teardown
    (hcall : p.Comes b ⟨.start config, server⟩ past (.scope d s op next) w)
    (hlog : ((Program.scope d s op .done).run b w).events =
      front ++ Event.destroy :: .closed failed :: rest) (hrest : rest ≠ []) :
    failed = true ∧
    (∀ e ∈ rest, e.onWire = false ∧ e.opens = false) ∧
    (∀ l, l <+: rest → l ≠ rest →
      ∀ (β' γ' : Type) (d' : Bool) (s' : Sending) (op' : Program μ β')
        (next' : Except Failure (Batched β') → Program μ γ') (w' : World σ),
        p.Comes b ⟨.start config, server⟩ (past ++ front ++ [Event.destroy, .closed failed] ++ l)
          (.scope d' s' op' next') w' →
        (Program.scope d' s' op' next').run b w' =
          ((next' (.error .orphanedScope)).run b (w'.put w'.session.cleared)).after [.refused]) ∧
    (∀ log, log <+: (p.run b ⟨.start config, server⟩).events →
      ∀ i, (queuedStatements (past ++ front)).length ≤ i →
        i < (queuedStatements (past ++ front ++ rest)).length → (ledger log).fate? i ≠ some .sent) ∧
    ∀ (β' γ' : Type) (d' : Bool) (s' : Sending) (op' : Program μ β')
      (next' : Except Failure (Batched β') → Program μ γ') (past' : List (Event μ)) (w' : World σ),
      p.Comes b ⟨.start config, server⟩ past' (.scope d' s' op' next') w' → openScopes past' = [] →
      ∃ made tail,
        ((Program.scope d' s' op' .done).run b w').events = .connect config.url made :: tail ∧
        ∀ before request done after, tail = before ++ Event.run request done :: after →
          requests before = [] →
          ∃ w₀, p.Passes b ⟨.start config, server⟩
              (past' ++ Event.connect config.url made :: before) .operating w₀ ∧
            request.all =
              (w₀.session.database.map Statement.use).toList ++ w₀.session.pending := by
  obtain ⟨hfailed, hblackout⟩ := hcall.blackout hlog hrest
  refine ⟨hfailed, fun e he => ?_, ?_, ?_, ?_⟩
  · simpa [Event.dark] using hblackout.dark e he
  · intro l hl hne β' γ' d' s' op' next' w' hcomes
    exact hblackout.refused hl hne hcomes
  · intro log hprefix i hlo hhi
    have hqueued (l : List (Event μ)) :
        queuedStatements (past ++ front ++ [Event.destroy, .closed failed] ++ l) =
          queuedStatements (past ++ front ++ l) := by
      simp only [queuedStatements_append, List.append_assoc]
      rfl
    refine hblackout.not_sent hprefix ?_ (by rwa [hqueued])
    have hnone := hqueued []
    rw [List.append_nil, List.append_nil] at hnone
    rwa [hnone]
  · intro β' γ' d' s' op' next' past' w' hcomes hnone
    exact Program.first_request hcomes hnone

end Calls

/-- A nested batch fails and gives the connection up, and its failure is swallowed. -/
def tearing (next : Program Unit Unit) : Program Unit Unit :=
  .scope true .outermost (.done (α := Unit) (.error .orphanedScope)) fun _ => next

/-- The rows are not deleted, and the request of the next batch selects the database. -/
theorem blackout_after_teardown_truncating :
    ∃ log w', (Program.scope false .outermost (tearing truncating) fun _ =>
        reading (.done (.ok ()))).Passes (Script.backend .generic) untouched log .operating w' ∧
      log = [.connect "mock://localhost/app" true, .opened 0, .opened 0, .destroy, .closed true,
        .queued (.truncate keyTable) (some "app"), .closed true,
        .connect "mock://localhost/app" true, .opened 1,
        .queued (.select { table := keyTable }) (some "app"),
        .run ⟨some "app", [.select { table := keyTable }]⟩ true, .destroy, .closed false] ∧
      (ledger log).fate? 0 ≠ some .sent := by
  have hown : ((Program.scope false .outermost (tearing truncating) .done).run
      (Script.backend .generic) untouched).events =
      [Event.connect "mock://localhost/app" true, .opened 0, .opened 0] ++
        Event.destroy :: .closed true ::
          [.queued (.truncate keyTable) (some "app"), .closed true] := by
    simp only [tearing, truncating, Program.run]
    rfl
  have hrun : (Program.scope false .outermost (tearing truncating) fun _ =>
      reading (.done (.ok ()))).run (Script.backend .generic) untouched =
      ⟨.finished (.ok ()), ⟨{ untouched.session with epoch := 2 }, ⟨[], [], []⟩⟩,
        [.connect "mock://localhost/app" true, .opened 0, .opened 0, .destroy, .closed true,
          .queued (.truncate keyTable) (some "app"), .closed true,
          .connect "mock://localhost/app" true, .opened 1,
          .queued (.select { table := keyTable }) (some "app"),
          .run ⟨some "app", [.select { table := keyTable }]⟩ true, .destroy, .closed false]⟩ := by
    simp only [tearing, truncating, reading, Program.run]
    rfl
  have hlog := (Program.scope false .outermost (tearing truncating) fun _ =>
    reading (.done (.ok ()))).passes_end (Script.backend .generic) untouched (r := .ok ())
    (by rw [hrun])
  obtain ⟨-, -, -, hsent, -⟩ := blackout_after_teardown (.here _ _) hown (List.cons_ne_nil _ _)
  have hnot := hsent _ hlog.isPrefix 0 (by decide) (by decide)
  rw [hrun] at hlog hnot
  exact ⟨_, _, hlog, rfl, hnot⟩

/-! What is reported. -/

section Reported

variable {b : Backend σ} {config : Config} {server : σ} {p : Program μ α}
  {past front mid rest : List (Event μ)} {d failed : Bool} {s : Sending} {op : Program μ β}
  {next : Except Failure (Batched β) → Program μ γ} {w w' : World σ}
  {r : Except Failure (Batched β)} {st : Statement} {db : Option String}

/-- No scope is open when the call of an outermost one has returned. -/
theorem Program.Comes.openScopes_returned {es : List (Event μ)}
    (hcall : p.Comes b ⟨.start config, server⟩ past (.scope d s op next) w)
    (houter : openScopes past = [])
    (hrun : (Program.scope d s op .done).run b w = ⟨.finished r, w', es⟩) :
    openScopes (past ++ es) = [] := by
  have hopen := (Program.stepwise b config server _ _ _ _ _ _ hcall.passes.reached hrun).2
  rw [openEpochs, openEpochs, houter] at hopen
  exact List.map_eq_nil_iff.mp hopen

/-- What is queued in the call of an outermost scope after the connection was given up makes the
    call return a failure, unless a scope in it, refused or orphaned, fails before it returns and
    drops what was queued. -/
theorem stranded_statements_reported
    (hcall : p.Comes b ⟨.start config, server⟩ past (.scope d s op next) w)
    (houter : openScopes past = [])
    (hrun : (Program.scope d s op .done).run b w =
      ⟨.finished r, w',
        front ++ Event.destroy :: .closed failed :: (mid ++ Event.queued st db :: rest)⟩) :
    r.isOk = false ∨
    ∃ before e after, rest = before ++ e :: after ∧ after ≠ [] ∧ e.fails = true ∧
      (ledger (past ++ front ++ Event.destroy :: .closed failed :: mid ++
          Event.queued st db :: before)).fate?
        (queuedStatements (past ++ front ++ Event.destroy :: .closed failed :: mid)).length =
          some .pending := by
  obtain ⟨-, hblackout⟩ := hcall.blackout (by rw [hrun]) (by simp)
  have hnone := hcall.openScopes_returned houter hrun
  obtain ⟨before, e, after, rfl, he, hwait⟩ := hblackout.dropped_by (by simpa using hnone)
  by_cases hafter : after = []
  · -- The scope that failed is the outermost one.
    subst hafter
    obtain ⟨front', e', hlast, -, hfails⟩ := Program.run_scope_last b d s op hrun
    have hsplit :
        front ++ Event.destroy :: .closed failed :: (mid ++ Event.queued st db :: before) ++ [e] =
          front' ++ [e'] := by
      rw [← hlast]
      simp
    obtain ⟨-, hone⟩ := List.append_inj' hsplit rfl
    rw [← (List.cons.inj hone).1, he] at hfails
    left
    cases hok : r.isOk with
    | true => simp [hok] at hfails
    | false => rfl
  · exact .inr ⟨before, e, after, rfl, hafter, he, by simpa using hwait⟩

end Reported

/-- The rows that should have been deleted make the batch fail. -/
theorem stranded_statements_reported_truncating :
    ∃ (r : Except Failure (Batched Unit)) (w' : World Script) (es : List (Event Unit)),
      (Program.scope false .outermost (tearing truncating) .done).run (Script.backend .generic)
        untouched = ⟨.finished r, w', es⟩ ∧ r.isOk = false := by
  have hrun : (Program.scope false .outermost (tearing truncating) .done).run
      (Script.backend .generic) untouched =
      ⟨.finished (.error .orphanedStatements),
        ⟨{ untouched.session with epoch := 1 }, ⟨[], [], []⟩⟩,
        [Event.connect "mock://localhost/app" true, .opened 0, .opened 0] ++
          Event.destroy :: .closed true ::
            ([] ++ Event.queued (.truncate keyTable) (some "app") :: [.closed true])⟩ := by
    simp only [tearing, truncating, Program.run]
    rfl
  have hcall : (Program.scope false .outermost (tearing truncating) .done).Comes
      (Script.backend .generic) untouched [] (.scope false .outermost (tearing truncating) .done)
      untouched := .here _ _
  refine ⟨_, _, _, hrun, ?_⟩
  rcases stranded_statements_reported hcall rfl hrun with
    hfailed | ⟨before, e, after, hsplit, hafter, -⟩
  · exact hfailed
  · -- Nothing but the end of the batch follows.
    have hlen := congrArg List.length hsplit
    have hpos := List.length_pos_of_ne_nil hafter
    simp only [List.length_append, List.length_cons, List.length_nil] at hlen
    omega

/-- A batch that is refused drops what was queued, and when that failure is swallowed the batch
    around it returns no failure at all. -/
theorem dropped_unreported :
    ∃ w' es, (Program.scope false .outermost
        (tearing (.queue (.truncate keyTable) (failing (.done (.ok ()))))) .done).run
          (Script.backend .generic) untouched = ⟨.finished (.ok ⟨[], .none, ()⟩), w', es⟩ ∧
      es = [.connect "mock://localhost/app" true, .opened 0, .opened 0, .destroy, .closed true,
        .queued (.truncate keyTable) (some "app"), .refused, .closed false] ∧
      (ledger es).fate? 0 = some .dropped := by
  refine ⟨⟨{ untouched.session with epoch := 1 }, ⟨[], [], []⟩⟩, _, ?_, rfl, rfl⟩
  simp only [tearing, failing, Program.run]
  rfl

end SqlBatch
