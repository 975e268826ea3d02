import Mathlib.Data.List.Infix
import SqlBatch.Proofs.Session.Counters
import SqlBatch.Proofs.Session.Delivery
/- The life of a connection. Each call of an outermost scope makes one attempt to
   connect, and a connection that is made is destroyed once before that call
   returns, whatever fails in between.
     1. `Lived.step`: every step keeps the trace a concatenation of such lives.
     2. `connection_lifecycle`: at every moment of every run what reached the server
        is one whole block for each outermost call that returned, and the begun block
        of the call that did not. A session with no scope open is at rest, and
        nothing waits when an outermost call returns. What destroying a connection
        comes to changes nothing. -/
namespace SqlBatch

variable {σ μ α : Type}

/-- What reaches the server while a connection is there. -/
def served (url : String) (runs : List (Request × Bool)) : List (Event μ) :=
  .connect url true :: runs.map fun r => .run r.1 r.2

/-- What reaches the server in one call of an outermost scope: it could not connect, or it
    connected, sent requests, and destroyed the connection. -/
inductive Block : List (Event μ) → Prop where
  | missed (url : String) : Block [.connect url false]
  | served (url : String) (runs : List (Request × Bool)) : Block (served url runs ++ [.destroy])

/-- The last thing that happened is that a call of an outermost scope returned. -/
def endsOutermost (past : List (Event μ)) : Bool :=
  past.getLast?.any (·.returns) && (openScopes past).isEmpty

/-- How many calls of outermost scopes returned. -/
def outermostReturns (past : List (Event μ)) : Nat := past.inits.countP endsOutermost

/-- What reached the server or came from it. -/
def wire (past : List (Event μ)) : List (Event μ) := past.filter (·.onWire)

theorem wire_append (past es : List (Event μ)) : wire (past ++ es) = wire past ++ wire es :=
  List.filter_append ..

@[simp] theorem endsOutermost_concat (past : List (Event μ)) (e : Event μ) :
    endsOutermost (past ++ [e]) = (e.returns && (opensAfter (openScopes past) e).isEmpty) := by
  simp [endsOutermost, openScopes_append]

@[simp] theorem outermostReturns_concat (past : List (Event μ)) (e : Event μ) :
    outermostReturns (past ++ [e]) =
      outermostReturns past +
        if e.returns && (opensAfter (openScopes past) e).isEmpty then 1 else 0 := by
  simp [outermostReturns, List.inits_append, List.countP_append, List.countP_singleton]

theorem outermostReturns_pair (past : List (Event μ)) (e e' : Event μ) (he : e.returns = false) :
    outermostReturns (past ++ [e, e']) =
      outermostReturns past +
        if e'.returns && (opensAfter (opensAfter (openScopes past) e) e').isEmpty then 1
        else 0 := by
  rw [← List.singleton_append, ← List.append_assoc, outermostReturns_concat,
    outermostReturns_concat, he]
  simp [openScopes_append]

/-- What reached the server is whole blocks, and after them the one that goes on while there is a
    connection. The blocks are those of the outermost calls that returned, and of the one that has
    outlived its connection, if one has. -/
inductive Lived (past : List (Event μ)) (s : Session) : Prop where
  | idle (blocks : List (List (Event μ))) :
      s.connected = false → s.fresh = true → wire past = blocks.flatten → (∀ k ∈ blocks, Block k) →
      blocks.length = outermostReturns past + (if (openScopes past).isEmpty then 0 else 1) →
      Lived past s
  | serving (blocks : List (List (Event μ))) (url : String) (runs : List (Request × Bool)) :
      s.connected = true → wire past = blocks.flatten ++ served url runs →
      (∀ k ∈ blocks, Block k) → blocks.length = outermostReturns past → Lived past s

namespace Lived

variable {b : Backend σ} {past es : List (Event μ)} {w w' : World σ} {g g' : Stage}
  {s s' : Session}

/-- A step that does not reach the server, and with which no outermost call begins or returns. -/
theorem pass (h : Lived past s) (hw : wire es = [])
    (hr : outermostReturns (past ++ es) = outermostReturns past)
    (ho : (openScopes (past ++ es)).isEmpty = (openScopes past).isEmpty ∨ s.connected = true)
    (hc : s'.connected = s.connected) (hf : s'.fresh = s.fresh) : Lived (past ++ es) s' := by
  cases h with
  | idle blocks h₁ h₂ h₃ h₄ h₅ =>
    rcases ho with ho | ho
    · exact .idle blocks (hc.trans h₁) (hf.trans h₂) (by rw [wire_append, hw, List.append_nil, h₃])
        h₄ (by rw [hr, ho, h₅])
    · rw [h₁] at ho
      cases ho
  | serving blocks url runs h₁ h₂ h₃ h₄ =>
    exact .serving blocks url runs (hc.trans h₁) (by rw [wire_append, hw, List.append_nil, h₂]) h₃
      (h₄.trans hr.symm)

theorem step (h : Lived past w.session) (hcount : Counted (openScopes past) w.session)
    (htop : LeavesInnermost past g)
    (hs : Step b past g w es g' w') : Lived (past ++ es) w'.session := by
  cases hs with
  | queue st =>
    exact h.pass rfl (by simp [Event.returns]) (.inl (by simp [openScopes_append, opensAfter])) rfl
      rfl
  | useDatabase db =>
    simp only [Session.useDatabase, World.put]
    split
    · exact h.pass rfl (by simp [Event.returns]) (.inl (by simp [openScopes_append, opensAfter]))
        rfl rfl
    · exact h.pass rfl (by simp) (.inl (by simp)) rfl rfl
  | mark m =>
    exact h.pass rfl (by simp [Event.returns]) (.inl (by simp [openScopes_append, opensAfter])) rfl
      rfl
  | refuse ho =>
    have hne : (openScopes past).isEmpty = false := hcount.isEmpty_eq_false ho
    exact h.pass rfl (by simp [opensAfter, hne]) (.inl (by simp [openScopes_append, opensAfter]))
      rfl rfl
  | miss ho hc hb =>
    -- No scope is open, so that this is the whole call of an outermost scope.
    have hnil := hcount.eq_nil ho hc
    cases h with
    | idle blocks _ hf hw hblock hlen =>
      refine .idle (blocks ++ [[.connect w.session.config.url false]]) hc hf ?_ ?_ ?_
      · rw [wire_append, hw]
        simp [wire, Event.onWire]
      · simpa [or_imp, forall_and] using ⟨hblock, .missed _⟩
      · rw [outermostReturns_pair _ _ _ rfl]
        simp [hlen, hnil, openScopes_append, opensAfter, Event.returns]
    | serving _ _ _ hconn => rw [hc] at hconn; cases hconn
  | connect ho hc hb =>
    have hnil := hcount.eq_nil ho hc
    cases h with
    | idle blocks _ hf hw hblock hlen =>
      refine .serving blocks w.session.config.url [] rfl ?_ hblock ?_
      · rw [wire_append, hw]
        simp [wire, Event.onWire, served]
      · rw [outermostReturns_pair _ _ _ rfl]
        simp [hlen, hnil, Event.returns]
    | serving _ _ _ hconn => rw [hc] at hconn; cases hconn
  | join ho hc =>
    exact h.pass rfl (by simp [Event.returns]) (.inr hc) rfl rfl
  | fail ho => exact h.pass rfl (by simp) (.inl (by simp)) rfl rfl
  | keep ho hp => exact h.pass rfl (by simp) (.inl (by simp)) rfl rfl
  | strand ho hc hp => exact h.pass rfl (by simp) (.inl (by simp)) rfl rfl
  | @send _ _ _ response _ ho hc hp hb =>
    cases h with
    | idle _ hconn => rw [hc] at hconn; cases hconn
    | serving blocks url runs _ hw hblock hlen =>
      refine .serving blocks url (runs ++ [(w.session.request, response.failure.isNone)]) hc ?_
        hblock ?_
      · rw [wire_append, hw]
        simp [wire, Event.onWire, served]
      · simp [hlen, Event.returns]
  | leaveOrphan he =>
    obtain ⟨o, os, hopen, rfl⟩ := htop _ _ rfl
    rw [hopen] at hcount
    obtain ⟨-, -, hc, -⟩ := hcount.of_epoch_ne he
    cases h with
    | idle blocks _ hf hw hblock hlen =>
      -- The block of the call was whole before. Now the call returns, if no other scope is open.
      refine .idle blocks hc hf (by rw [wire_append, hw]; simp [wire, Event.onWire]) hblock ?_
      rw [outermostReturns_concat, openScopes_append, hlen, hopen]
      cases os <;> simp [opensAfter, Event.returns]
    | serving _ _ _ hconn => rw [hc] at hconn; cases hconn
  | leaveShared he hd =>
    obtain ⟨o, os, hopen, rfl⟩ := htop _ _ rfl
    rw [hopen] at hcount
    obtain ⟨-, hlen, hc, -⟩ := hcount.of_epoch_eq he
    have hne : os ≠ [] := by
      rintro rfl
      simp [hlen] at hd
    exact h.pass rfl (by simp [hopen, opensAfter, hne]) (.inr hc) rfl rfl
  | leaveLast he hd =>
    obtain ⟨o, os, hopen, rfl⟩ := htop _ _ rfl
    rw [hopen] at hcount
    obtain ⟨-, -, hc, -⟩ := hcount.of_epoch_eq he
    cases h with
    | idle _ hconn => rw [hc] at hconn; cases hconn
    | serving blocks url runs _ hw hblock hlen =>
      -- The destruction makes the block whole, whether the call returns now or goes on.
      simp only [hc, if_true, List.singleton_append]
      refine .idle (blocks ++ [served url runs ++ [Event.destroy]]) rfl rfl ?_ ?_ ?_
      · rw [wire_append, hw]
        simp [wire, Event.onWire]
      · simpa [or_imp, forall_and] using ⟨hblock, .served _ _⟩
      · rw [outermostReturns_pair _ _ _ rfl, openScopes_append, hopen]
        cases os <;> simp [hlen, opensAfter, Event.returns]

end Lived

/-- The session stands as if no scope had ever been opened. -/
structure Session.AtRest (s : Session) : Prop where
  connected : s.connected = false
  depth : s.depth = 0
  orphans : s.orphans = 0
  fresh : s.fresh = true

section Runs

variable {b : Backend σ} {config : Config} {server : σ} {past : List (Event μ)} {w : World σ}
  {g : Stage}

theorem lived_of_reached (h : Reached b config server past g w) : Lived past w.session := by
  induction h with
  | start => exact .idle [] rfl rfl rfl (by simp) rfl
  | step hr hs ih =>
    exact ih.step (counted_of_reached hr) hr.leavesInnermost hs

/-- With no scope open the session is at rest. -/
theorem Reached.atRest (h : Reached b config server past g w) (ho : openScopes past = []) :
    w.session.AtRest := by
  have hcount := counted_of_reached h
  rw [ho] at hcount
  cases hcount with
  | sharing horphans hdepth hconn _ =>
    have hc : w.session.connected = false := by simpa [hdepth] using hconn
    cases lived_of_reached h with
    | idle _ _ hfresh => exact ⟨hc, hdepth, horphans, hfresh⟩
    | serving _ _ _ hc' => rw [hc] at hc'; cases hc'
  | orphaned hpos hlen => simp [hlen] at hpos

/-- Nothing waits when a call of an outermost scope returns. -/
theorem Reached.returned_empty (h : Reached b config server past g w) (hg : g = .operating)
    (he : endsOutermost past = true) : w.session.pending = [] := by
  induction h with
  | start => cases he
  | @step past es g g' w w' hr hs ih =>
    have hcount := counted_of_reached hr
    cases hs with
    | useDatabase db =>
      simp only [Session.useDatabase, World.put]
      split at he
      · simp [Event.returns] at he
      · next hn =>
        rw [List.append_nil] at he
        simpa only [hn, Bool.false_eq_true, if_false] using ih rfl he
    | refuse ho => rfl
    | miss ho hc hb => rfl
    | connect ho hc hb =>
      rw [← List.singleton_append, ← List.append_assoc, endsOutermost_concat] at he
      cases he
    | leaveOrphan hne =>
      obtain ⟨o, os, hopen, rfl⟩ := hr.leavesInnermost _ _ rfl
      rw [hopen] at hcount
      obtain ⟨-, hdepth, -⟩ := hcount.of_epoch_ne hne
      simp only [World.put]
      split
      · rfl
      · next hf =>
        exact (awaited_of_reached hr).settled _ (by rw [Bool.eq_false_iff.mpr hf]) (by omega)
    | leaveShared heq hd =>
      obtain ⟨o, os, hopen, rfl⟩ := hr.leavesInnermost _ _ rfl
      rw [hopen] at hcount
      obtain ⟨-, hlen, -⟩ := hcount.of_epoch_eq heq
      -- Another scope shares the connection, so that this one is not an outermost one.
      have hne : os ≠ [] := by
        rintro rfl
        simp [hlen] at hd
      simp [hopen, opensAfter, hne] at he
    | leaveLast heq hd => rfl
    | fail | keep | strand | send => cases hg
    | _ => simp [Event.returns] at he

end Runs

/-! What a connection comes to when it is destroyed. -/

/-- The backend whose destructions come to something else. -/
def Backend.destroying (b : Backend σ) (answer : σ → Except Failure Unit) : Backend σ :=
  { b with destroy := fun server => (answer server, (b.destroy server).2) }

theorem World.settle_destroying (b : Backend σ) (answer : σ → Except Failure Unit) (s : Sending)
    (w : World σ) (r : Except Failure α) :
    w.settle (μ := μ) (b.destroying answer) s r = w.settle b s r := by
  cases r with
  | error e => rfl
  | ok value => rfl

/-- What destroying a connection comes to changes nothing in any run. -/
theorem Program.run_destroying (b : Backend σ) (answer : σ → Except Failure Unit)
    (p : Program μ α) (w : World σ) : p.run (b.destroying answer) w = p.run b w := by
  induction p generalizing w with
  | done r => rfl
  | abort => rfl
  | queue st next ih => simp only [run, ih]
  | useDatabase db next ih => simp only [run, ih]
  | observe next ih => simp only [run, ih]
  | mark m next ih => simp only [run, ih]
  | scope d s op next hop ih =>
    have henter : w.enter (μ := μ) (b.destroying answer) = w.enter b := rfl
    have hleave (epoch : UInt64) (failed : Bool) (w : World σ) :
        w.leave (μ := μ) (b.destroying answer) d epoch failed = w.leave b d epoch failed := rfl
    simp only [run, hop, ih, henter, World.settle_destroying, hleave]

/-- At every moment of every run what reached the server, or came from it, is a sequence of whole
    blocks and then the block that goes on while there is a connection. Each call of an outermost
    scope that returned has one of the blocks, and so has the call that goes on with its connection
    gone. With no scope open the session is at rest, and when the call of an outermost scope has
    just returned nothing waits either. What a destruction comes to changes nothing, in whatever
    state a run starts. -/
theorem connection_lifecycle (b : Backend σ) (config : Config) (server : σ) (p : Program μ α) :
    (∀ past g w, p.Passes b ⟨.start config, server⟩ past g w →
      w.server = past.foldl (b.serve config) server ∧
      (∃ (blocks : List (List (Event μ))) (current : List (Event μ)),
        wire past = blocks.flatten ++ current ∧ (∀ k ∈ blocks, Block k) ∧
        if w.session.connected then
          (∃ url runs, current = served url runs) ∧ blocks.length = outermostReturns past
        else
          current = [] ∧
            blocks.length = outermostReturns past + if (openScopes past).isEmpty then 0 else 1) ∧
      (openScopes past = [] → w.session.AtRest) ∧
      (g = .operating → endsOutermost past = true →
        w.session.AtRest ∧ w.session.pending = [])) ∧
    ∀ (answer : σ → Except Failure Unit) (w : World σ),
      p.run (b.destroying answer) w = p.run b w := by
  refine ⟨fun past g w h => ?_, fun answer w => p.run_destroying b answer w⟩
  have hr := h.reached
  refine ⟨hr.server_eq.2, ?_, hr.atRest, fun hg he => ⟨hr.atRest ?_, hr.returned_empty hg he⟩⟩
  · cases lived_of_reached hr with
    | idle blocks hc _ hw hblock hlen =>
      exact ⟨blocks, [], by rw [List.append_nil, hw], hblock, by simp [hc, hlen]⟩
    | serving blocks url runs hc hw hblock hlen =>
      exact ⟨blocks, served url runs, hw, hblock, by simp [hc, hlen]⟩
  · simp only [endsOutermost, Bool.and_eq_true, List.isEmpty_iff] at he
    exact he.2

/-- A scope that outlives its connection, and after it one that cannot connect. -/
def strandedThenMissed : Program Unit Unit :=
  .scope false .outermost
    (.scope true .outermost
      (.queue (.createDatabase "a") (.done (α := Unit) (.error .orphanedScope))) fun _ =>
        .queue (.createDatabase "b") (.done (.ok ())))
    fun _ => .scope false .always (.queue (.createDatabase "c") (.done (.ok ()))) fun _ =>
      .done (.ok ())

/-- The first call has one block, although its connection was gone before it ended, and the second
    one has a block of a failed connection. The failed destruction is not noticed. -/
theorem connection_lifecycle_stranded :
    ∃ (past : List (Event Unit)) (w : World Script),
      strandedThenMissed.Passes (Script.backend .generic)
        ⟨.start ⟨"mock://localhost/app", some "app"⟩,
          ⟨[none, some .orphanedScope], [some .orphanedScope], []⟩⟩ past .operating w ∧
      wire past =
        [.connect "mock://localhost/app" true, .destroy, .connect "mock://localhost/app" false] ∧
      outermostReturns past = 2 ∧ w.session.AtRest ∧ w.session.pending = [] := by
  have h := strandedThenMissed.passes_end (Script.backend .generic)
    ⟨.start ⟨"mock://localhost/app", some "app"⟩,
      ⟨[none, some .orphanedScope], [some .orphanedScope], []⟩⟩ (r := .ok ())
    (by simp only [strandedThenMissed, Program.run]; rfl)
  have hreturn := ((connection_lifecycle _ _ _ _).1 _ _ _ h).2.2.2 rfl
    (by simp only [strandedThenMissed, Program.run]; rfl)
  refine ⟨_, _, h, ?_, ?_, hreturn⟩
  · simp only [strandedThenMissed, Program.run]
    rfl
  · simp only [strandedThenMissed, Program.run]
    rfl

end SqlBatch
