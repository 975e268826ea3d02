import SqlBatch.Session.Scope
/- Running a program: what it comes to, the world after it, and what happened on
   the way.
     1. `run_bind`: a program that goes on runs like its first part, and then like
        what that part leads to.
   Correspondence:
     `scope` ↔ `Program.run` of `Program.scope`
     a panic ↔ `Outcome.aborted` -/
namespace SqlBatch

/-- A run of a program. -/
structure Ran (σ μ α : Type) where
  outcome : Outcome α
  world : World σ
  events : List (Event μ)

namespace Ran

variable {σ μ α β : Type}

/-- The run with events that came before it. -/
def after (events : List (Event μ)) (r : Ran σ μ α) : Ran σ μ α :=
  { r with events := events ++ r.events }

/-- The run, and after it the one that its result leads to. -/
def andThen (r : Ran σ μ α) (f : α → World σ → Ran σ μ β) : Ran σ μ β :=
  match r.outcome with
  | .finished (.ok a) => (f a r.world).after r.events
  | .finished (.error e) => ⟨.finished (.error e), r.world, r.events⟩
  | .aborted => ⟨.aborted, r.world, r.events⟩

theorem andThen_after (es : List (Event μ)) (r : Ran σ μ α) (f : α → World σ → Ran σ μ β) :
    (r.after es).andThen f = (r.andThen f).after es := by
  obtain ⟨outcome, w, events⟩ := r
  cases outcome with
  | aborted => rfl
  | finished r =>
    cases r with
    | ok a => simp [andThen, after]
    | error e => rfl

end Ran

namespace Program

variable {σ μ α β : Type}

/-- The run of a program. -/
def run (b : Backend σ) : {α : Type} → Program μ α → World σ → Ran σ μ α
  | _, .done r, w => ⟨.finished r, w, []⟩
  | _, .abort, w => ⟨.aborted, w, []⟩
  | _, .queue st next, w =>
    (next.run b (w.put (w.session.queue st))).after [.queued st w.session.database]
  | _, .useDatabase db next, w =>
    (next.run b (w.put (w.session.useDatabase db))).after
      (if w.session.needsUse db then [.queued (.use db) (some db)] else [])
  | _, .observe next, w => (next w.session.view).run b w
  | _, .mark m next, w => (next.run b w).after [.mark m w.session]
  | _, .scope destroyOnError sending operation next, w =>
    match w.enter b with
    | (.error e, w, es) => ((next (.error e)).run b w).after es
    | (.ok _, entered, es) =>
      let ran := operation.run b entered
      match ran.outcome with
      | .aborted => ⟨.aborted, ran.world, es ++ ran.events⟩
      | .finished r =>
        match ran.world.settle b sending r with
        | (.aborted, w, fs) => ⟨.aborted, w, es ++ ran.events ++ fs⟩
        | (.finished r, w, fs) =>
          let (w, gs) := w.leave b destroyOnError entered.session.epoch (!r.isOk)
          ((next r).run b w).after (es ++ ran.events ++ fs ++ gs)

/-- What comes first happens first, and what comes second starts from the world that it left. -/
theorem run_bind (b : Backend σ) (p : Program μ α) (f : α → Program μ β) (w : World σ) :
    (p.bind f).run b w = (p.run b w).andThen fun a w => (f a).run b w := by
  induction p generalizing w with
  | done r => cases r <;> rfl
  | abort => rfl
  | queue st next ih => simp only [bind, run, ih, Ran.andThen_after]
  | useDatabase db next ih => simp only [bind, run, ih, Ran.andThen_after]
  | observe next ih => simp only [bind, run, ih]
  | mark m next ih => simp only [bind, run, ih, Ran.andThen_after]
  | scope d s op next _ ih =>
    simp only [bind, run]
    split
    · rw [ih, Ran.andThen_after]
    · split
      · rfl
      · split
        · rfl
        · rw [ih, Ran.andThen_after]

end Program

end SqlBatch
