import SqlBatch.Proofs.Session.Moment
/- A session as a system of steps. A step leads from one moment to the next, and a
   run is a path of steps: what every step keeps holds at every moment.
     1. `enter_refused`, `enter_opened`, `settle_step`, `leave_step`: what the parts
        of a scope do is a step each.
     2. `Program.stepwise`: a run is a path of steps, and leaves open the scopes that
        were open before it.
     3. `reached_of_passes`: every moment of a run is reached by steps.
     4. `Reached.caused`: every event of a past was caused by one of the steps. -/
namespace SqlBatch

variable {σ μ α β : Type}

/-- One step of a session that has a past: the events it causes, and where it leads. -/
inductive Step (b : Backend σ) (past : List (Event μ)) :
    Stage → World σ → List (Event μ) → Stage → World σ → Prop where
  | queue (st : Statement) (w : World σ) :
      Step b past .operating w [.queued st w.session.database] .operating
        (w.put (w.session.queue st))
  | useDatabase (db : String) (w : World σ) :
      Step b past .operating w
        (if w.session.needsUse db then [.queued (.use db) (some db)] else []) .operating
        (w.put (w.session.useDatabase db))
  | mark (m : μ) (w : World σ) : Step b past .operating w [.mark m w.session] .operating w
  /-- A scope among orphans is refused. -/
  | refuse {w : World σ} :
      0 < w.session.orphans →
      Step b past .operating w [.refused] .operating (w.put w.session.cleared)
  /-- A first scope is refused, since no connection can be made. -/
  | miss {w : World σ} {e : Failure} {server : σ} :
      w.session.orphans = 0 → w.session.connected = false →
      b.connect w.session.config w.server = (.error e, server) →
      Step b past .operating w [.connect w.session.config.url false, .refused] .operating
        ⟨w.session.cleared, server⟩
  /-- A first scope is opened on a connection of its own. -/
  | connect {w : World σ} {server : σ} :
      w.session.orphans = 0 → w.session.connected = false →
      b.connect w.session.config w.server = (.ok (), server) →
      Step b past .operating w
        [.connect w.session.config.url true, .opened w.session.epoch] .operating
        ⟨{ w.session with connected := true, fresh := true, depth := w.session.depth + 1 },
          server⟩
  /-- A scope is opened on the connection of the scopes around it. -/
  | join {w : World σ} :
      w.session.orphans = 0 → w.session.connected = true →
      Step b past .operating w [.opened w.session.epoch] .operating
        (w.put { w.session with depth := w.session.depth + 1 })
  /-- The operation of the innermost scope failed. -/
  | fail {w : World σ} {o : OpenScope} {os : List OpenScope} :
      openScopes past = o :: os →
      Step b past .operating w [] (.leaving o.epoch true) w
  /-- The innermost scope has nothing to send, or is not the one to send it. -/
  | keep {w : World σ} {o : OpenScope} {os : List OpenScope} :
      openScopes past = o :: os →
      (w.session.depth ≤ 1 → w.session.pending = []) →
      Step b past .operating w [] (.leaving o.epoch false) w
  /-- The innermost scope has to send, but its connection is gone. -/
  | strand {w : World σ} {o : OpenScope} {os : List OpenScope} :
      openScopes past = o :: os →
      w.session.connected = false → w.session.pending ≠ [] →
      Step b past .operating w [] (.leaving o.epoch true) (w.put w.session.cleared)
  | send {w : World σ} {o : OpenScope} {os : List OpenScope} {response : Response} {server : σ} :
      openScopes past = o :: os →
      w.session.connected = true → w.session.pending ≠ [] →
      b.run (w.session.request.text b.dialect) w.server = (response, server) →
      Step b past .operating w [.run w.session.request response.failure.isNone]
        (.leaving o.epoch response.failure.isSome)
        ⟨{ w.session with fresh := false, pending := [] }, server⟩
  /-- An orphan is left. -/
  | leaveOrphan {w : World σ} {epoch : UInt64} {failed : Bool} :
      epoch ≠ w.session.epoch →
      Step b past (.leaving epoch failed) w [.closed failed] .operating
        (w.put { w.session with
          orphans := w.session.orphans - 1
          pending := if failed then [] else w.session.pending })
  /-- A scope is left whose connection stays. -/
  | leaveShared {w : World σ} {epoch : UInt64} {failed : Bool} :
      epoch = w.session.epoch → w.session.depth - 1 ≠ 0 →
      Step b past (.leaving epoch failed) w [.closed failed] .operating
        (w.put { w.session with
          depth := w.session.depth - 1
          pending := if failed then [] else w.session.pending })
  /-- A scope is left together with its connection. A scope that did not fail is the last one. -/
  | leaveLast {w : World σ} {epoch : UInt64} {failed : Bool} :
      epoch = w.session.epoch → (failed = false → w.session.depth - 1 = 0) →
      Step b past (.leaving epoch failed) w
        ((if w.session.connected then [.destroy] else []) ++ [.closed failed]) .operating
        ⟨{ w.session with
            connected := false
            depth := 0
            orphans := w.session.depth - 1
            epoch := w.session.epoch + 1
            fresh := true
            pending := [] },
          if w.session.connected then (b.destroy w.server).2 else w.server⟩

/-- The moments that steps lead to from a session that did nothing yet. -/
inductive Reached (b : Backend σ) (config : Config) (server : σ) :
    List (Event μ) → Stage → World σ → Prop where
  | start : Reached b config server [] .operating ⟨.start config, server⟩
  | step {past es : List (Event μ)} {g g' : Stage} {w w' : World σ} :
      Reached b config server past g w → Step b past g w es g' w' →
      Reached b config server (past ++ es) g' w'

/-! The parts of a scope as steps. -/

variable {b : Backend σ} {past es : List (Event μ)} {w w₁ : World σ}

theorem enter_refused {e : Failure} (past : List (Event μ)) (h : w.enter b = (.error e, w₁, es)) :
    Step b past .operating w es .operating w₁ ∧ openScopes (past ++ es) = openScopes past ∧
      ∃ front, es = front ++ [Event.refused] := by
  simp only [World.enter] at h
  split at h
  · next ho =>
    simp only [Prod.mk.injEq] at h
    obtain ⟨-, rfl, rfl⟩ := h
    exact ⟨.refuse ho, by simp [openScopes_append, opensAfter], [], rfl⟩
  · next ho =>
    have ho : w.session.orphans = 0 := by omega
    split at h
    · simp at h
    · next hc =>
      split at h
      · simp at h
      · next hb =>
        simp only [Prod.mk.injEq] at h
        obtain ⟨-, rfl, rfl⟩ := h
        exact ⟨.miss ho (by simpa using hc) hb, by simp [openScopes_append, opensAfter],
          [.connect w.session.config.url false], rfl⟩

/-- A scope that is opened is the innermost one, entered in the epoch that it saves. -/
theorem enter_opened (past : List (Event μ)) (h : w.enter b = (.ok (), w₁, es)) :
    Step b past .operating w es .operating w₁ ∧
      openScopes (past ++ es) = ⟨w₁.session.epoch, false⟩ :: openScopes past := by
  simp only [World.enter] at h
  split at h
  · simp at h
  · next ho =>
    have ho : w.session.orphans = 0 := by omega
    split at h
    · next hc =>
      simp only [Prod.mk.injEq] at h
      obtain ⟨-, rfl, rfl⟩ := h
      exact ⟨.join ho hc, by simp [openScopes_append, opensAfter, World.put]⟩
    · next hc =>
      split at h
      · next hb =>
        simp only [Prod.mk.injEq] at h
        obtain ⟨-, rfl, rfl⟩ := h
        exact ⟨.connect ho (by simpa using hc) hb, by simp [openScopes_append, opensAfter]⟩
      · simp at h

/-- What a request comes to by what it brought. -/
def Response.outcome (response : Response) : Outcome Shaped :=
  match response.failure with
  | some e => .finished (.error e)
  | none =>
    match shape response.items with
    | some shaped => .finished (.ok shaped)
    | none => .aborted

theorem flush_connected {response : Response} {server : σ} (hc : w.session.connected = true)
    (hb : b.run (w.session.request.text b.dialect) w.server = (response, server)) :
    w.flush (μ := μ) b =
      (response.outcome, ⟨{ w.session with fresh := false, pending := [] }, server⟩,
        [.run w.session.request response.failure.isNone]) := by
  simp only [World.flush, hc, if_true, hb, Response.outcome]
  cases response.failure with
  | some e => rfl
  | none => cases shape response.items <;> rfl

theorem Response.isSome_failure {response : Response} {r : Except Failure Shaped}
    (h : response.outcome = .finished r) : response.failure.isSome = !r.isOk := by
  unfold Response.outcome at h
  split at h
  · next e he => cases h; rw [he]; rfl
  · next he =>
    split at h
    · cases h; rw [he]; rfl
    · cases h

theorem settle_step {s : Sending} {r : Except Failure β} {r' : Except Failure (Batched β)}
    {o : OpenScope} {os : List OpenScope} (ho : openScopes past = o :: os)
    (h : w.settle b s r = (.finished r', w₁, es)) :
    Step b past .operating w es (.leaving o.epoch (!r'.isOk)) w₁ := by
  cases r with
  | error e =>
    simp only [World.settle, Prod.mk.injEq, Outcome.finished.injEq] at h
    obtain ⟨rfl, rfl, rfl⟩ := h
    exact .fail ho
  | ok value =>
    simp only [World.settle] at h
    split at h
    · next hs =>
      have hp : w.session.pending ≠ [] := by
        simp only [World.sends, Bool.and_eq_true, Bool.not_eq_true'] at hs
        simpa using hs.2
      split at h
      · next q w₂ fs hf =>
        simp only [Prod.mk.injEq, Outcome.finished.injEq] at h
        obtain ⟨rfl, rfl, rfl⟩ := h
        have hq : (q.map fun s => (⟨s.rows, s.affected, value⟩ : Batched β)).isOk = q.isOk := by
          cases q <;> rfl
        rw [hq]
        cases hc : w.session.connected with
        | true =>
          rcases hb : b.run (w.session.request.text b.dialect) w.server with ⟨response, server⟩
          rw [flush_connected hc hb] at hf
          simp only [Prod.mk.injEq] at hf
          obtain ⟨hr, rfl, rfl⟩ := hf
          rw [← Response.isSome_failure hr]
          exact .send ho hc hp hb
        | false =>
          simp only [World.flush, hc, Bool.false_eq_true, if_false, Prod.mk.injEq,
            Outcome.finished.injEq] at hf
          obtain ⟨rfl, rfl, rfl⟩ := hf
          exact .strand ho hc hp
      · simp at h
    · next hs =>
      simp only [Prod.mk.injEq, Outcome.finished.injEq] at h
      obtain ⟨rfl, rfl, rfl⟩ := h
      refine .keep ho fun hd => ?_
      simpa [World.sends, hd] using hs

theorem leave_step {d : Bool} {epoch : UInt64} {failed : Bool} (past : List (Event μ))
    (h : w.leave b d epoch failed = (w₁, es)) :
    Step b past (.leaving epoch failed) w es .operating w₁ := by
  have hs : (if failed then w.session.cleared else w.session) =
      { w.session with pending := if failed then [] else w.session.pending } := by
    cases failed <;> rfl
  simp only [World.leave, hs] at h
  split at h
  · next he =>
    simp only [Prod.mk.injEq] at h
    obtain ⟨rfl, rfl⟩ := h
    exact .leaveOrphan he
  · next he =>
    have he : epoch = w.session.epoch := by simpa using he
    split at h
    · next hl =>
      have hf : failed = false → w.session.depth - 1 = 0 := by
        rintro rfl
        simpa using hl
      simp only [World.giveUp, World.put] at h
      have hstep : Step b past (.leaving epoch failed) w _ .operating _ := .leaveLast he hf
      cases hc : w.session.connected <;> simp only [hc] at h <;> cases h <;>
        simpa [hc] using hstep
    · next hl =>
      simp only [Prod.mk.injEq] at h
      obtain ⟨rfl, rfl⟩ := h
      exact .leaveShared he (by simp at hl; omega)

/-! The open scopes along a run. -/

theorem Step.settle_open {epoch : UInt64} {failed : Bool}
    (h : Step b past .operating w es (.leaving epoch failed) w₁) :
    openScopes (past ++ es) = openScopes past := by
  rw [openScopes_append]
  cases h <;> rfl

theorem Step.leave_open {epoch : UInt64} {failed : Bool}
    (h : Step b past (.leaving epoch failed) w es .operating w₁) :
    openEpochs (past ++ es) = (openEpochs past).tail := by
  simp only [openEpochs, openScopes_append]
  cases h with
  | leaveOrphan => exact List.map_tail
  | leaveShared => exact List.map_tail
  | leaveLast =>
    split
    · simp [opensAfter, List.map_tail, Function.comp_def]
    · exact List.map_tail

theorem Step.leave_closed {epoch : UInt64} {failed : Bool}
    (h : Step b past (.leaving epoch failed) w es .operating w₁) :
    ∃ front, es = front ++ [Event.closed failed] := by
  cases h with
  | leaveOrphan => exact ⟨[], rfl⟩
  | leaveShared => exact ⟨[], rfl⟩
  | leaveLast => exact ⟨_, rfl⟩

/-- What a scope returns is the last thing in its log. -/
theorem Program.run_scope_last (b : Backend σ) (d : Bool) (s : Sending) (op : Program μ β)
    {w w' : World σ} {r : Except Failure (Batched β)} {es : List (Event μ)}
    (h : (Program.scope d s op .done).run b w = ⟨.finished r, w', es⟩) :
    ∃ front e, es = front ++ [e] ∧ e.returns = true ∧ e.fails = !r.isOk := by
  have hran := run_scope b d s op .done w
  rw [h] at hran
  generalize hR : (⟨.finished r, w', es⟩ : Ran σ _ _) = R at hran
  cases hran with
  | refused he =>
    obtain ⟨-, -, front, rfl⟩ := enter_refused [] he
    simp only [run, Ran.after, List.append_nil, Ran.mk.injEq, Outcome.finished.injEq] at hR
    obtain ⟨rfl, rfl, rfl⟩ := hR
    exact ⟨front, .refused, rfl, rfl, rfl⟩
  | stopped | overrun => cases hR
  | left he ho hset hl =>
    obtain ⟨front, rfl⟩ := (leave_step [] hl).leave_closed
    simp only [run, Ran.after, List.append_nil, Ran.mk.injEq, Outcome.finished.injEq] at hR
    obtain ⟨rfl, rfl, rfl⟩ := hR
    refine ⟨_, .closed _, (List.append_assoc ..).symm, rfl, ?_⟩
    cases r.isOk <;> rfl

/-! Runs as paths of steps. -/

/-- Steps lead from every moment before a program to the moment at its end, where the same scopes
    are open. -/
def Program.Stepwise (b : Backend σ) (config : Config) (server : σ) (p : Program μ α) : Prop :=
  ∀ (past es : List (Event μ)) (w w' : World σ) (r : Except Failure α),
    Reached b config server past .operating w → p.run b w = ⟨.finished r, w', es⟩ →
    Reached b config server (past ++ es) .operating w' ∧ openEpochs (past ++ es) = openEpochs past

section Scope

variable {config : Config} {server : σ} {op : Program μ β} {s : Sending} {d : Bool}
  {w₂ w₃ w₄ : World σ} {r : Except Failure β} {r' : Except Failure (Batched β)}
  {fs gs hs : List (Event μ)}

/-- When the operation of a scope has ended, the scope is the innermost open one. -/
theorem scope_ran (hop : op.Stepwise b config server)
    (hw : Reached b config server past .operating w) (he : w.enter b = (.ok (), w₁, es))
    (ho : op.run b w₁ = ⟨.finished r, w₂, fs⟩) :
    Reached b config server (past ++ es ++ fs) .operating w₂ ∧
      openEpochs (past ++ es ++ fs) = w₁.session.epoch :: openEpochs past := by
  obtain ⟨hstep, hopen⟩ := enter_opened past he
  obtain ⟨h₂, hopen₂⟩ := hop _ _ _ _ _ (hw.step hstep) ho
  refine ⟨h₂, ?_⟩
  -- The operation left the stack as it found it, so the scope's own epoch is on top of it.
  rw [hopen₂, openEpochs, hopen]
  rfl

theorem settled_step {epoch : UInt64} {epochs : List UInt64}
    (hopen : openEpochs past = epoch :: epochs) (hset : w.settle b s r = (.finished r', w₁, gs)) :
    Step b past .operating w gs (.leaving epoch (!r'.isOk)) w₁ := by
  obtain ⟨o, os, ho, rfl, -⟩ := List.map_eq_cons_iff.mp hopen
  exact settle_step ho hset

theorem scope_settled (hop : op.Stepwise b config server)
    (hw : Reached b config server past .operating w) (he : w.enter b = (.ok (), w₁, es))
    (ho : op.run b w₁ = ⟨.finished r, w₂, fs⟩) (hset : w₂.settle b s r = (.finished r', w₃, gs)) :
    Reached b config server (past ++ (es ++ fs ++ gs)) (.leaving w₁.session.epoch (!r'.isOk)) w₃ ∧
      openEpochs (past ++ (es ++ fs ++ gs)) = w₁.session.epoch :: openEpochs past := by
  obtain ⟨h₂, htop⟩ := scope_ran hop hw he ho
  have h₃ := settled_step htop hset
  simp only [← List.append_assoc]
  exact ⟨h₂.step h₃, by rw [openEpochs, h₃.settle_open]; exact htop⟩

theorem scope_left (hop : op.Stepwise b config server)
    (hw : Reached b config server past .operating w) (he : w.enter b = (.ok (), w₁, es))
    (ho : op.run b w₁ = ⟨.finished r, w₂, fs⟩) (hset : w₂.settle b s r = (.finished r', w₃, gs))
    (hl : w₃.leave b d w₁.session.epoch (!r'.isOk) = (w₄, hs)) :
    Reached b config server (past ++ (es ++ fs ++ gs ++ hs)) .operating w₄ ∧
      openEpochs (past ++ (es ++ fs ++ gs ++ hs)) = openEpochs past := by
  obtain ⟨h₃, hopen₃⟩ := scope_settled hop hw he ho hset
  have hleave := leave_step (past ++ (es ++ fs ++ gs)) hl
  rw [← List.append_assoc, hleave.leave_open, hopen₃]
  exact ⟨h₃.step hleave, rfl⟩

end Scope

theorem Program.stepwise (b : Backend σ) (config : Config) (server : σ) (p : Program μ α) :
    p.Stepwise b config server := by
  induction p with
  | done r =>
    intro past es w w' r' hw hr
    cases hr
    simpa using hw
  | abort => intro past es w w' r' hw hr; cases hr
  | queue st next ih =>
    intro past es w w' r' hw hr
    obtain ⟨fs, hn, rfl⟩ := Ran.after_eq hr
    obtain ⟨h₁, h₂⟩ := ih _ _ _ _ _ (hw.step (.queue st w)) hn
    rw [← List.append_assoc]
    refine ⟨h₁, h₂.trans ?_⟩
    simp [openEpochs, openScopes_append, opensAfter]
  | useDatabase db next ih =>
    intro past es w w' r' hw hr
    obtain ⟨fs, hn, rfl⟩ := Ran.after_eq hr
    obtain ⟨h₁, h₂⟩ := ih _ _ _ _ _ (hw.step (.useDatabase db w)) hn
    rw [← List.append_assoc]
    refine ⟨h₁, h₂.trans ?_⟩
    rw [openEpochs, openScopes_append]
    split <;> rfl
  | observe next ih =>
    intro past es w w' r' hw hr
    exact ih _ _ _ _ _ _ hw hr
  | mark m next ih =>
    intro past es w w' r' hw hr
    obtain ⟨fs, hn, rfl⟩ := Ran.after_eq hr
    obtain ⟨h₁, h₂⟩ := ih _ _ _ _ _ (hw.step (.mark m w)) hn
    rw [← List.append_assoc]
    refine ⟨h₁, h₂.trans ?_⟩
    simp [openEpochs, openScopes_append, opensAfter]
  | scope d s op next ihop ih =>
    intro past es w w' r' hw hr
    have hran := run_scope b d s op next w
    rw [hr] at hran
    generalize hR : (⟨.finished r', w', es⟩ : Ran σ _ _) = R at hran
    cases hran with
    | refused he =>
      -- A refused scope was never open.
      obtain ⟨fs, hn, rfl⟩ := Ran.after_eq hR.symm
      obtain ⟨hstep, hopen, -⟩ := enter_refused past he
      obtain ⟨h₁, h₂⟩ := ih _ _ _ _ _ _ (hw.step hstep) hn
      rw [← List.append_assoc]
      exact ⟨h₁, h₂.trans (by rw [openEpochs, hopen, openEpochs])⟩
    | stopped | overrun => cases hR
    | left he ho hset hl =>
      obtain ⟨fs, hn, rfl⟩ := Ran.after_eq hR.symm
      obtain ⟨hw₄, hopen⟩ := scope_left ihop hw he ho hset hl
      obtain ⟨h₁, h₂⟩ := ih _ _ _ _ _ _ hw₄ hn
      rw [← List.append_assoc]
      exact ⟨h₁, h₂.trans hopen⟩

/-- Every moment of a run is reached by steps. -/
theorem reached_of_passes {config : Config} {server : σ} {p : Program μ α} {g : Stage}
    (h : p.Passes b w es g w₁) (hw : Reached b config server past .operating w) :
    Reached b config server (past ++ es) g w₁ := by
  induction h generalizing past with
  | here p w => simpa using hw
  | queue _ ih => simpa using ih (hw.step (.queue _ _))
  | useDatabase _ ih => simpa using ih (hw.step (.useDatabase _ _))
  | observe _ ih => exact ih hw
  | mark _ ih => simpa using ih (hw.step (.mark _ _))
  | refused he _ ih => simpa using ih (hw.step (enter_refused _ he).1)
  | inside he _ ih => simpa using ih (hw.step (enter_opened _ he).1)
  | settled he ho hset => exact (scope_settled (Program.stepwise b config server _) hw he ho hset).1
  | left he ho hset hl _ ih =>
    have hw₄ := (scope_left (Program.stepwise b config server _) hw he ho hset hl).1
    simpa using ih hw₄

/-- Every moment of a run from a session that did nothing yet is reached by steps. -/
theorem Program.Passes.reached {config : Config} {server : σ} {p : Program μ α} {g : Stage}
    (h : p.Passes b ⟨.start config, server⟩ past g w) : Reached b config server past g w := by
  have hr := reached_of_passes h .start
  rwa [List.nil_append] at hr

/-! Where events and stages come from. -/

/-- The server after an event that it takes part in. -/
def Backend.serve (b : Backend σ) (config : Config) (server : σ) : Event μ → σ
  | .connect .. => (b.connect config server).2
  | .run request _ => (b.run (request.text b.dialect) server).2
  | .destroy => (b.destroy server).2
  | _ => server

/-- A scope that is left next is the innermost open one. -/
def LeavesInnermost (past : List (Event μ)) (g : Stage) : Prop :=
  ∀ epoch failed, g = .leaving epoch failed → ∃ o os, openScopes past = o :: os ∧ o.epoch = epoch

section Reached

variable {config : Config} {server : σ} {g : Stage}

/-- Every event of a past was caused by a step from a moment before it. -/
theorem Reached.caused {before after : List (Event μ)} {e : Event μ}
    (h : Reached b config server past g w) (hp : past = before ++ e :: after) :
    ∃ past₁ g₁ w₁ pre post g₂ w₂, Reached b config server past₁ g₁ w₁ ∧
      Step b past₁ g₁ w₁ (pre ++ e :: post) g₂ w₂ ∧ before = past₁ ++ pre := by
  induction h generalizing after with
  | start => simp at hp
  | @step past es g g' w w' hr hs ih =>
    rcases List.append_eq_append_iff.mp hp with ⟨pre, rfl, rfl⟩ | ⟨rest, rfl, hrest⟩
    · exact ⟨_, _, _, _, _, _, _, hr, hs, rfl⟩
    · cases rest with
      | nil =>
        rw [List.append_nil] at hr hs
        rw [List.nil_append] at hrest
        subst hrest
        exact ⟨_, _, _, [], _, _, _, hr, hs, by simp⟩
      | cons e' rest =>
        simp only [List.cons_append, List.cons.injEq] at hrest
        obtain ⟨rfl, -⟩ := hrest
        exact ih rfl

theorem Reached.leavesInnermost (h : Reached b config server past g w) :
    LeavesInnermost past g := by
  rintro epoch failed rfl
  cases h with
  | step _ hs =>
    -- Only the end of an operation leads to this stage, and no event but a request goes with it.
    rw [openScopes_append]
    cases hs with
    | fail ho => exact ⟨_, _, ho, rfl⟩
    | keep ho => exact ⟨_, _, ho, rfl⟩
    | strand ho => exact ⟨_, _, ho, rfl⟩
    | send ho => exact ⟨_, _, ho, rfl⟩

/-- The server is where the connections, requests and destructions of the past have brought it. -/
theorem Reached.server_eq (h : Reached b config server past g w) :
    w.session.config = config ∧ w.server = past.foldl (b.serve config) server := by
  induction h with
  | start => exact ⟨rfl, rfl⟩
  | step _ hs ih =>
    obtain ⟨hconf, hserver⟩ := ih
    rw [List.foldl_append, ← hserver]
    cases hs with
    | useDatabase db =>
      simp only [Session.useDatabase, World.put]
      split
      · exact ⟨hconf, rfl⟩
      · exact ⟨hconf, rfl⟩
    | miss ho hc hb => exact ⟨hconf, by simp [Backend.serve, ← hconf, hb]⟩
    | connect ho hc hb => exact ⟨hconf, by simp [Backend.serve, ← hconf, hb]⟩
    | send ho hc hp hb => exact ⟨hconf, by simp [Backend.serve, hb]⟩
    | leaveLast he hd => exact ⟨hconf, by split <;> rfl⟩
    | _ => exact ⟨hconf, rfl⟩

end Reached

end SqlBatch
