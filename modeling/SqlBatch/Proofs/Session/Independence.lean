import SqlBatch.Proofs.Session.Course
import SqlBatch.Proofs.Session.Lifecycle
/- What is left of a session's history. With no scope open two sessions can differ in nothing but
   the database, what waits, and the number of the epoch, and that number tells a scope only whether
   it is an orphan.
     1. `Mirrors.enter`, `Mirrors.settle`, `Mirrors.leave`: what the parts of a scope do when the
        epochs are counted from another number.
     2. `Mirrors.run`, `Mirrors.comes`: so it is with runs, and with all that they come to.
     3. `history_independent`: whatever the histories of two sessions were, every program runs alike
        in both if the database and what waits are the same. -/
namespace SqlBatch

variable {σ τ μ α β γ : Type}

/-- The session with its epochs counted from another number. -/
def Session.shift (δ : UInt64) (s : Session) : Session := { s with epoch := s.epoch + δ }

/-- The event of such a session. -/
def Event.shift (δ : UInt64) : Event μ → Event μ
  | .opened epoch => .opened (epoch + δ)
  | .mark m s => .mark m (s.shift δ)
  | e => e

/-- The session without the number of its epoch. -/
def Session.epochless (s : Session) : Session := { s with epoch := 0 }

/-- The event without the number of an epoch. -/
def Event.epochless : Event μ → Event μ
  | .opened _ => .opened 0
  | .mark m s => .mark m s.epochless
  | e => e

namespace Session

variable (δ : UInt64) (s : Session)

@[simp] theorem shift_queue (st : Statement) : (s.shift δ).queue st = (s.queue st).shift δ := rfl

@[simp] theorem shift_needsUse (db : String) : (s.shift δ).needsUse db = s.needsUse db := rfl

@[simp] theorem shift_view : (s.shift δ).view = s.view := rfl

@[simp] theorem shift_useDatabase (db : String) :
    (s.shift δ).useDatabase db = (s.useDatabase db).shift δ := by
  unfold useDatabase
  rw [shift_needsUse]
  split <;> rfl

end Session

@[simp] theorem Event.epochless_shift (δ : UInt64) (e : Event μ) :
    (e.shift δ).epochless = e.epochless := by
  cases e <;> rfl

/-- What reaches the server does not tell the epoch. -/
theorem wire_map_shift (δ : UInt64) (es : List (Event μ)) : wire (es.map (.shift δ)) = wire es := by
  have honWire : (Event.onWire ∘ Event.shift (μ := μ) δ) = Event.onWire := by
    funext e
    cases e <;> rfl
  have hsame : ∀ e ∈ es.filter (·.onWire), e.shift δ = id e := by
    intro e he
    have hwire := (List.mem_filter.mp he).2
    cases e <;> first | rfl | cases hwire
  calc wire (es.map (.shift δ)) = (es.filter (Event.onWire ∘ Event.shift δ)).map (.shift δ) :=
        List.filter_map
    _ = (es.filter (·.onWire)).map (.shift δ) := by rw [honWire]
    _ = wire es := by rw [List.map_congr_left hsame, List.map_id]; rfl

/-- From related states on two backends give the same answers. -/
structure Backend.Agrees (b : Backend σ) (b' : Backend τ) (R : σ → τ → Prop) : Prop where
  dialect : b'.dialect = b.dialect
  connect {x : σ} {y : τ} (config : Config) : R x y →
    (b'.connect config y).1 = (b.connect config x).1 ∧
      R (b.connect config x).2 (b'.connect config y).2
  run {x : σ} {y : τ} (text : String) : R x y →
    (b'.run text y).1 = (b.run text x).1 ∧ R (b.run text x).2 (b'.run text y).2
  destroy {x : σ} {y : τ} : R x y → R (b.destroy x).2 (b'.destroy y).2

namespace Backend.Agrees

variable {b : Backend σ} {b' : Backend τ} {R : σ → τ → Prop}

theorem symm (h : b.Agrees b' R) : b'.Agrees b fun y x => R x y where
  dialect := h.dialect.symm
  connect config hR := ⟨(h.connect config hR).1.symm, (h.connect config hR).2⟩
  run text hR := ⟨(h.run text hR).1.symm, (h.run text hR).2⟩
  destroy hR := h.destroy hR

/-- A backend agrees with itself. -/
theorem refl (b : Backend σ) : b.Agrees b Eq where
  dialect := rfl
  connect _ hR := by rw [hR]; exact ⟨rfl, rfl⟩
  run _ hR := by rw [hR]; exact ⟨rfl, rfl⟩
  destroy hR := by rw [hR]

end Backend.Agrees

/-- Two worlds stand alike, but for the number from which epochs are counted. -/
structure Mirrors (R : σ → τ → Prop) (δ : UInt64) (w : World σ) (w' : World τ) : Prop where
  session : w'.session = w.session.shift δ
  server : R w.server w'.server

namespace Mirrors

variable {b : Backend σ} {b' : Backend τ} {R : σ → τ → Prop} {δ : UInt64} {w w₁ : World σ}
  {w' : World τ} {es : List (Event μ)}

theorem put (h : Mirrors R δ w w') {s s' : Session} (hs : s' = s.shift δ) :
    Mirrors R δ (w.put s) (w'.put s') := ⟨hs, h.server⟩

theorem queue (h : Mirrors R δ w w') (st : Statement) :
    Mirrors R δ (w.put (w.session.queue st)) (w'.put (w'.session.queue st)) :=
  h.put (by rw [h.session, Session.shift_queue])

theorem useDatabase (h : Mirrors R δ w w') (db : String) :
    Mirrors R δ (w.put (w.session.useDatabase db)) (w'.put (w'.session.useDatabase db)) :=
  h.put (by rw [h.session, Session.shift_useDatabase])

theorem view (h : Mirrors R δ w w') : w'.session.view = w.session.view := by
  rw [h.session, Session.shift_view]

theorem database (h : Mirrors R δ w w') : w'.session.database = w.session.database :=
  congrArg View.database h.view

theorem epoch (h : Mirrors R δ w w') : w'.session.epoch = w.session.epoch + δ := by
  rw [h.session]
  rfl

theorem needsUse (h : Mirrors R δ w w') (db : String) :
    w'.session.needsUse db = w.session.needsUse db := by
  rw [h.session, Session.shift_needsUse]

theorem enter {r : Except Failure Unit} (hb : b.Agrees b' R) (h : Mirrors R δ w w')
    (he : w.enter b = (r, w₁, es)) :
    ∃ w₁', w'.enter b' = (r, w₁', es.map (.shift δ)) ∧ Mirrors R δ w₁ w₁' := by
  obtain ⟨s, x⟩ := w
  obtain ⟨s', y⟩ := w'
  obtain ⟨rfl, hR⟩ := h
  simp only [World.enter] at he ⊢
  split at he
  · next ho =>
    cases he
    rw [if_pos (show 0 < (s.shift δ).orphans from ho)]
    exact ⟨_, rfl, rfl, hR⟩
  · next ho =>
    rw [if_neg (show ¬ 0 < (s.shift δ).orphans from ho)]
    split at he
    · next hc =>
      cases he
      rw [if_pos (show (s.shift δ).connected = true from hc)]
      exact ⟨_, rfl, rfl, hR⟩
    · next hc =>
      rw [if_neg (show ¬ (s.shift δ).connected = true from hc)]
      obtain ⟨hanswer, hnext⟩ := hb.connect s.config hR
      rcases hx : b.connect s.config x with ⟨answer, x₁⟩
      rcases hy : b'.connect s.config y with ⟨answer', y₁⟩
      simp only [hx, hy] at hanswer hnext he
      subst hanswer
      rw [show b'.connect (s.shift δ).config y = (answer', y₁) from hy]
      cases answer' with
      | ok _ => cases he; exact ⟨_, rfl, rfl, hnext⟩
      | error e => cases he; exact ⟨_, rfl, rfl, hnext⟩

theorem flush {o : Outcome Shaped} (hb : b.Agrees b' R) (h : Mirrors R δ w w')
    (hf : w.flush b = (o, w₁, es)) :
    ∃ w₁', w'.flush b' = (o, w₁', es.map (.shift δ)) ∧ Mirrors R δ w₁ w₁' := by
  obtain ⟨s, x⟩ := w
  obtain ⟨s', y⟩ := w'
  obtain ⟨rfl, hR⟩ := h
  cases hc : s.connected with
  | true =>
    obtain ⟨hanswer, hnext⟩ := hb.run (s.request.text b.dialect) hR
    rcases hx : b.run (s.request.text b.dialect) x with ⟨response, x₁⟩
    rcases hy : b'.run (s.request.text b.dialect) y with ⟨response', y₁⟩
    simp only [hx, hy] at hanswer hnext
    subst hanswer
    rw [← hb.dialect] at hy
    have hflush : (⟨s, x⟩ : World σ).flush (μ := μ) b = _ := flush_connected hc hx
    rw [hflush] at hf
    cases hf
    exact ⟨_, flush_connected (w := ⟨s.shift δ, y⟩) hc hy, rfl, hnext⟩
  | false =>
    have hc' : (s.shift δ).connected = false := hc
    simp only [World.flush, hc, hc', Bool.false_eq_true, if_false] at hf ⊢
    cases hf
    exact ⟨_, rfl, rfl, hR⟩

theorem settle {s : Sending} {r : Except Failure β} {o : Outcome (Batched β)}
    (hb : b.Agrees b' R) (h : Mirrors R δ w w') (hset : w.settle b s r = (o, w₁, es)) :
    ∃ w₁', w'.settle b' s r = (o, w₁', es.map (.shift δ)) ∧ Mirrors R δ w₁ w₁' := by
  cases r with
  | error e =>
    cases hset
    exact ⟨_, rfl, h⟩
  | ok value =>
    have hsends : World.sends s w'.session = World.sends s w.session := by
      rw [h.session]
      rfl
    simp only [World.settle, hsends] at hset ⊢
    cases hs : World.sends s w.session with
    | false =>
      simp only [hs, Bool.false_eq_true, if_false] at hset ⊢
      cases hset
      exact ⟨_, rfl, h⟩
    | true =>
      simp only [hs, if_true] at hset ⊢
      rcases hf : w.flush (μ := μ) b with ⟨o₁, w₂, fs⟩
      obtain ⟨w₂', hf', h₂⟩ := h.flush hb hf
      rw [hf] at hset
      rw [hf']
      cases o₁ with
      | finished r => cases hset; exact ⟨_, rfl, h₂⟩
      | aborted => cases hset; exact ⟨_, rfl, h₂⟩

theorem giveUp (hb : b.Agrees b' R) (h : Mirrors R δ w w') (hg : w.giveUp b = (w₁, es)) :
    ∃ w₁', w'.giveUp b' = (w₁', es.map (.shift δ)) ∧ Mirrors R δ w₁ w₁' := by
  obtain ⟨s, x⟩ := w
  obtain ⟨s', y⟩ := w'
  obtain ⟨rfl, hR⟩ := h
  -- The next epoch has the next number in both.
  have hnext : s.epoch + δ + 1 = s.epoch + 1 + δ := by
    rw [UInt64.add_assoc, UInt64.add_comm δ, ← UInt64.add_assoc]
  cases hc : s.connected with
  | true =>
    have hc' : (s.shift δ).connected = true := hc
    simp only [World.giveUp, hc, hc', if_true] at hg ⊢
    cases hg
    refine ⟨_, rfl, ?_, hb.destroy hR⟩
    simp only [Session.shift, hnext]
  | false =>
    have hc' : (s.shift δ).connected = false := hc
    simp only [World.giveUp, hc, hc', Bool.false_eq_true, if_false] at hg ⊢
    cases hg
    refine ⟨_, rfl, ?_, hR⟩
    simp only [Session.shift, World.put, hnext]

theorem leave {d failed : Bool} {epoch : UInt64} (hb : b.Agrees b' R) (h : Mirrors R δ w w')
    (hl : w.leave b d epoch failed = (w₁, es)) :
    ∃ w₁', w'.leave b' d (epoch + δ) failed = (w₁', es.map (.shift δ)) ∧ Mirrors R δ w₁ w₁' := by
  have hs : (if failed then w'.session.cleared else w'.session) =
      (if failed then w.session.cleared else w.session).shift δ := by
    rw [h.session]
    split <;> rfl
  simp only [World.leave, hs] at hl ⊢
  generalize (if failed then w.session.cleared else w.session) = s at hl ⊢
  have hepoch : epoch + δ ≠ (s.shift δ).epoch ↔ epoch ≠ s.epoch :=
    not_congr (UInt64.add_left_inj δ)
  split at hl
  · next he =>
    rw [if_pos (hepoch.mpr he)]
    cases hl
    exact ⟨_, rfl, h.put rfl⟩
  · next he =>
    rw [if_neg (mt hepoch.mp he)]
    have hdepth : (s.shift δ).depth = s.depth := rfl
    rw [hdepth]
    split at hl
    · next hlast =>
      rw [if_pos hlast]
      rcases hg : World.giveUp (μ := μ) b (w.put { s with depth := s.depth - 1 }) with ⟨w₂, fs⟩
      obtain ⟨w₂', hg', h₂⟩ := (h.put rfl).giveUp hb hg
      rw [hg] at hl
      cases hl
      have hgiven : World.giveUp (μ := μ) b' (w'.put { s.shift δ with depth := s.depth - 1 }) =
          (w₂', fs.map (.shift δ)) := hg'
      rw [hgiven, List.map_append]
      exact ⟨w₂', rfl, h₂⟩
    · next hlast =>
      rw [if_neg hlast]
      cases hl
      exact ⟨_, rfl, h.put rfl⟩

theorem run (hb : b.Agrees b' R) (p : Program μ α) (h : Mirrors R δ w w') :
    ∃ w₁', p.run b' w' = ⟨(p.run b w).outcome, w₁', (p.run b w).events.map (.shift δ)⟩ ∧
      Mirrors R δ (p.run b w).world w₁' := by
  induction p generalizing w w' with
  | done r => exact ⟨w', rfl, h⟩
  | abort => exact ⟨w', rfl, h⟩
  | queue st next ih =>
    obtain ⟨v, hrun, hv⟩ := ih (h.queue st)
    refine ⟨v, ?_, hv⟩
    simp only [Program.run, hrun, Ran.after, h.database]
    rfl
  | useDatabase db next ih =>
    obtain ⟨v, hrun, hv⟩ := ih (h.useDatabase db)
    refine ⟨v, ?_, hv⟩
    simp only [Program.run, hrun, Ran.after, h.needsUse, List.map_append]
    split <;> rfl
  | observe next ih =>
    obtain ⟨v, hrun, hv⟩ := ih w.session.view h
    refine ⟨v, ?_, hv⟩
    simp only [Program.run, h.view, hrun]
  | mark m next ih =>
    obtain ⟨v, hrun, hv⟩ := ih h
    refine ⟨v, ?_, hv⟩
    simp only [Program.run, hrun, Ran.after, h.session]
    rfl
  | scope d s op next ihop ih =>
    rcases he : w.enter (μ := μ) b with ⟨e | _, w₁, es⟩
    · obtain ⟨w₁', he', h₁⟩ := h.enter hb he
      obtain ⟨v, hrun, hv⟩ := ih (.error e) h₁
      simp only [Program.run, he, he', hrun, Ran.after, List.map_append]
      exact ⟨v, rfl, hv⟩
    · obtain ⟨w₁', he', h₁⟩ := h.enter hb he
      obtain ⟨w₂', ho', h₂⟩ := ihop h₁
      rcases ho : op.run b w₁ with ⟨o, w₂, fs⟩
      rw [ho] at ho' h₂
      simp only [Program.run, he, he', ho, ho']
      cases o with
      | aborted => exact ⟨w₂', by rw [List.map_append], h₂⟩
      | finished r =>
        rcases hset : w₂.settle (μ := μ) b s r with ⟨o, w₃, gs⟩
        obtain ⟨w₃', hset', h₃⟩ := h₂.settle hb hset
        simp only [hset, hset']
        cases o with
        | aborted => exact ⟨w₃', by simp only [List.map_append], h₃⟩
        | finished r' =>
          rcases hl : w₃.leave (μ := μ) b d w₁.session.epoch (!r'.isOk) with ⟨w₄, hs⟩
          obtain ⟨w₄', hl', h₄⟩ := h₃.leave hb hl
          obtain ⟨v, hrun, hv⟩ := ih r' h₄
          rw [← h₁.epoch] at hl'
          simp only [hl, hl', hrun, Ran.after, List.map_append]
          exact ⟨v, rfl, hv⟩

theorem comes {p : Program μ α} {q : Program μ γ} {past : List (Event μ)} {v : World σ}
    (hb : b.Agrees b' R) (h : Mirrors R δ w w') (hc : p.Comes b w past q v) :
    ∃ v', p.Comes b' w' (past.map (.shift δ)) q v' ∧ Mirrors R δ v v' := by
  induction hc generalizing w' with
  | here p w => exact ⟨w', .here p w', h⟩
  | queue _ ih =>
    obtain ⟨v', hc', hv⟩ := ih (h.queue _)
    refine ⟨v', ?_, hv⟩
    have hqueue := Program.Comes.queue hc'
    rwa [h.database] at hqueue
  | useDatabase _ ih =>
    obtain ⟨v', hc', hv⟩ := ih (h.useDatabase _)
    refine ⟨v', ?_, hv⟩
    have huse := Program.Comes.useDatabase hc'
    rw [h.needsUse] at huse
    rw [List.map_append, apply_ite (List.map _)]
    exact huse
  | observe _ ih =>
    obtain ⟨v', hc', hv⟩ := ih h
    rw [← h.view] at hc'
    exact ⟨v', .observe hc', hv⟩
  | @mark _ _ m _ _ _ _ _ _ ih =>
    obtain ⟨v', hc', hv⟩ := ih h
    have hmark := Program.Comes.mark (m := m) hc'
    rw [h.session] at hmark
    exact ⟨v', hmark, hv⟩
  | refused he _ ih =>
    obtain ⟨w₁', he', h₁⟩ := h.enter hb he
    obtain ⟨v', hc', hv⟩ := ih h₁
    rw [List.map_append]
    exact ⟨v', .refused he' hc', hv⟩
  | inside he _ ih =>
    obtain ⟨w₁', he', h₁⟩ := h.enter hb he
    obtain ⟨v', hc', hv⟩ := ih h₁
    rw [List.map_append]
    exact ⟨v', .inside he' hc', hv⟩
  | @left _ _ _ _ _ op _ _ _ _ _ _ _ _ _ _ _ _ _ _ _ he ho hset hl _ ih =>
    obtain ⟨w₁', he', h₁⟩ := h.enter hb he
    obtain ⟨w₂', ho', h₂⟩ := h₁.run hb op
    rw [ho] at ho' h₂
    obtain ⟨w₃', hset', h₃⟩ := h₂.settle hb hset
    obtain ⟨w₄', hl', h₄⟩ := h₃.leave hb hl
    obtain ⟨v', hc', hv⟩ := ih h₄
    rw [← h₁.epoch] at hl'
    simp only [List.map_append]
    exact ⟨v', .left he' ho' hset' hl' hc', hv⟩

end Mirrors

/-- Every moment at which a run of a program from a world comes to another one has its like in the
    run from another world: what happened before is the same but for the number of the epoch, and an
    operation sees the same of its session. -/
def Program.Followed (b : Backend σ) (w : World σ) (b' : Backend τ) (w' : World τ)
    (p : Program μ α) : Prop :=
  ∀ (γ : Type) (q : Program μ γ) (past : List (Event μ)) (v : World σ), p.Comes b w past q v →
    ∃ past' v', p.Comes b' w' past' q v' ∧
      past'.map (·.epochless) = past.map (·.epochless) ∧ v'.session.view = v.session.view

section Independence

variable {ν ν' : Type} {b₁ : Backend σ} {b₂ : Backend τ} {R : σ → τ → Prop} {config : Config}
  {server₁ : σ} {server₂ : τ} {p₁ : Program ν α} {p₂ : Program ν' β} {past₁ : List (Event ν)}
  {past₂ : List (Event ν')} {w₁ : World σ} {w₂ : World τ}

theorem map_epochless_shift (δ : UInt64) (es : List (Event μ)) :
    (es.map (Event.shift δ)).map (·.epochless) = es.map (·.epochless) := by
  simp only [List.map_map, Function.comp_def, Event.epochless_shift]

theorem Mirrors.followed {δ : UInt64} (hb : b₁.Agrees b₂ R) (h : Mirrors R δ w₁ w₂)
    (p : Program μ α) : p.Followed b₁ w₁ b₂ w₂ := by
  intro γ q past v hc
  obtain ⟨v', hc', hv⟩ := h.comes hb hc
  exact ⟨_, v', hc', map_epochless_shift δ past, hv.view⟩

/-- Two sessions at rest differ in nothing but the database, what waits and the epoch. -/
theorem Session.AtRest.shift_eq {s s' : Session} (h : s.AtRest) (h' : s'.AtRest)
    (hconfig : s'.config = s.config) (hdatabase : s'.database = s.database)
    (hpending : s'.pending = s.pending) : s' = s.shift (s'.epoch - s.epoch) := by
  obtain ⟨hc, hd, ho, hf⟩ := h
  obtain ⟨hc', hd', ho', hf'⟩ := h'
  obtain ⟨config', connected', depth', orphans', epoch', fresh', database', pending'⟩ := s'
  simp only at hc' hd' ho' hf' hconfig hdatabase hpending
  simp only [Session.shift, hc, hd, ho, hf, hc', hd', ho', hf', hconfig, hdatabase, hpending,
    UInt64.add_comm s.epoch, UInt64.sub_add_cancel]

/-- So at two moments with no scope open, whatever happened before them. -/
theorem mirrors_of_atRest
    (h₁ : p₁.Passes b₁ ⟨.start config, server₁⟩ past₁ .operating w₁) (ho₁ : openScopes past₁ = [])
    (h₂ : p₂.Passes b₂ ⟨.start config, server₂⟩ past₂ .operating w₂) (ho₂ : openScopes past₂ = [])
    (hserver : R w₁.server w₂.server) (hdatabase : w₂.session.database = w₁.session.database)
    (hpending : w₂.session.pending = w₁.session.pending) :
    Mirrors R (w₂.session.epoch - w₁.session.epoch) w₁ w₂ where
  session := by
    have hr₁ := h₁.reached
    have hr₂ := h₂.reached
    exact (hr₁.atRest ho₁).shift_eq (hr₂.atRest ho₂)
      (hr₂.server_eq.1.trans hr₁.server_eq.1.symm) hdatabase hpending
  server := hserver

/-- Take two moments of two runs, from sessions with the same configuration that did nothing yet,
    at which no scope is open and the database and what waits are the same, and let the servers
    answer alike from there on. Then every program runs from both to the same outcome, with the same
    events but for the numbers of epochs, those that reach the server being the same, and it passes
    in both through the same course, with the same sight of the session all along. -/
theorem history_independent (hb : b₁.Agrees b₂ R)
    (h₁ : p₁.Passes b₁ ⟨.start config, server₁⟩ past₁ .operating w₁) (ho₁ : openScopes past₁ = [])
    (h₂ : p₂.Passes b₂ ⟨.start config, server₂⟩ past₂ .operating w₂) (ho₂ : openScopes past₂ = [])
    (hserver : R w₁.server w₂.server) (hdatabase : w₂.session.database = w₁.session.database)
    (hpending : w₂.session.pending = w₁.session.pending) (p : Program μ γ) :
    (p.run b₂ w₂).outcome = (p.run b₁ w₁).outcome ∧
    wire (p.run b₂ w₂).events = wire (p.run b₁ w₁).events ∧
    (p.run b₂ w₂).events.map (·.epochless) = (p.run b₁ w₁).events.map (·.epochless) ∧
    (p.run b₂ w₂).world.session.view = (p.run b₁ w₁).world.session.view ∧
    p.Followed b₁ w₁ b₂ w₂ ∧ p.Followed b₂ w₂ b₁ w₁ := by
  have hmirrors := mirrors_of_atRest h₁ ho₁ h₂ ho₂ hserver hdatabase hpending
  have hback : Mirrors (fun y x => R x y) _ w₂ w₁ :=
    mirrors_of_atRest h₂ ho₂ h₁ ho₁ hserver hdatabase.symm hpending.symm
  obtain ⟨v, hrun, hv⟩ := hmirrors.run hb p
  refine ⟨?_, ?_, ?_, ?_, hmirrors.followed hb p, hback.followed hb.symm p⟩
  · rw [hrun]
  · rw [hrun, wire_map_shift]
  · rw [hrun, map_epochless_shift]
  · rw [hrun]
    exact hv.view

end Independence

/-- A session that has been through a scope that outlived its connection, and through a connection
    that could not be made, is in another epoch than one that did nothing, and goes on like it. -/
theorem history_independent_stranded :
    ∃ (past : List (Event Unit)) (w : World Script),
      strandedThenMissed.Passes (Script.backend .generic)
        ⟨.start ⟨"mock://localhost/app", some "app"⟩,
          ⟨[none, some .orphanedScope], [some .orphanedScope], []⟩⟩ past .operating w ∧
      w.session.epoch = 1 ∧
      wire (interrupted.run (Script.backend .generic) w).events =
        wire (interrupted.run (Script.backend .generic)
          ⟨.start ⟨"mock://localhost/app", some "app"⟩, ⟨[], [], []⟩⟩).events := by
  have hrun : strandedThenMissed.run (Script.backend .generic)
      ⟨.start ⟨"mock://localhost/app", some "app"⟩,
        ⟨[none, some .orphanedScope], [some .orphanedScope], []⟩⟩ =
      ⟨.finished (.ok ()),
        ⟨{ Session.start ⟨"mock://localhost/app", some "app"⟩ with epoch := 1 }, ⟨[], [], []⟩⟩,
        [.connect "mock://localhost/app" true, .opened 0, .opened 0,
          .queued (.createDatabase "a") (some "app"), .destroy, .closed true,
          .queued (.createDatabase "b") (some "app"), .closed true,
          .connect "mock://localhost/app" false, .refused]⟩ := by
    simp only [strandedThenMissed, Program.run]
    rfl
  have hend := strandedThenMissed.passes_end (Script.backend .generic)
    ⟨.start ⟨"mock://localhost/app", some "app"⟩,
      ⟨[none, some .orphanedScope], [some .orphanedScope], []⟩⟩ (r := .ok ()) (by rw [hrun])
  rw [hrun] at hend
  have hstart : interrupted.Passes (Script.backend .generic)
      ⟨.start ⟨"mock://localhost/app", some "app"⟩, ⟨[], [], []⟩⟩ [] .operating _ := .here _ _
  have halike := history_independent (.refl (Script.backend .generic)) hstart rfl hend rfl rfl rfl
    rfl interrupted
  exact ⟨_, _, hend, rfl, halike.2.1⟩

end SqlBatch
