import SqlBatch.Session.Run
/- The moments of a run. A run passes through worlds: one before each action of an
   operation, one at its end, and one when a scope has settled and is left next.
   What happened up to a moment is its past, and the past tells which scopes are
   open and which of them have outlived their connection.
     1. `run_scope`: the run of a scope, by what became of the scope.
     2. `passes_end`: a run that ends passes through its end. -/
namespace SqlBatch

variable {σ μ α β : Type}

/-- Where a run stands. -/
inductive Stage where
  /-- An operation goes on from here, or what is around all scopes. -/
  | operating
  /-- The innermost scope, entered in the given epoch, has settled and is left next. -/
  | leaving (epoch : UInt64) (failed : Bool)

/-- The run of a program from a world passes through another one, after the events of its past. -/
inductive Program.Passes (b : Backend σ) :
    {α : Type} → Program μ α → World σ → List (Event μ) → Stage → World σ → Prop where
  | here {α : Type} (p : Program μ α) (w : World σ) : Passes b p w [] .operating w
  | queue {α : Type} {st : Statement} {next : Program μ α} {w w' : World σ}
      {past : List (Event μ)} {g : Stage} :
      Passes b next (w.put (w.session.queue st)) past g w' →
      Passes b (.queue st next) w (.queued st w.session.database :: past) g w'
  | useDatabase {α : Type} {db : String} {next : Program μ α} {w w' : World σ}
      {past : List (Event μ)} {g : Stage} :
      Passes b next (w.put (w.session.useDatabase db)) past g w' →
      Passes b (.useDatabase db next) w
        ((if w.session.needsUse db then [.queued (.use db) (some db)] else []) ++ past) g w'
  | observe {α : Type} {next : View → Program μ α} {w w' : World σ} {past : List (Event μ)}
      {g : Stage} :
      Passes b (next w.session.view) w past g w' → Passes b (.observe next) w past g w'
  | mark {α : Type} {m : μ} {next : Program μ α} {w w' : World σ} {past : List (Event μ)}
      {g : Stage} :
      Passes b next w past g w' → Passes b (.mark m next) w (.mark m w.session :: past) g w'
  /-- After a scope that was refused. -/
  | refused {α β : Type} {d : Bool} {s : Sending} {op : Program μ β}
      {next : Except Failure (Batched β) → Program μ α} {w w₁ w' : World σ} {e : Failure}
      {es past : List (Event μ)} {g : Stage} :
      w.enter b = (.error e, w₁, es) → Passes b (next (.error e)) w₁ past g w' →
      Passes b (.scope d s op next) w (es ++ past) g w'
  /-- In the operation of a scope. -/
  | inside {α β : Type} {d : Bool} {s : Sending} {op : Program μ β}
      {next : Except Failure (Batched β) → Program μ α} {w w₁ w' : World σ}
      {es past : List (Event μ)} {g : Stage} :
      w.enter b = (.ok (), w₁, es) → Passes b op w₁ past g w' →
      Passes b (.scope d s op next) w (es ++ past) g w'
  /-- When a scope has settled. -/
  | settled {α β : Type} {d : Bool} {s : Sending} {op : Program μ β}
      {next : Except Failure (Batched β) → Program μ α} {w w₁ w₂ w₃ : World σ}
      {r : Except Failure β} {r' : Except Failure (Batched β)} {es fs gs : List (Event μ)} :
      w.enter b = (.ok (), w₁, es) → op.run b w₁ = ⟨.finished r, w₂, fs⟩ →
      w₂.settle b s r = (.finished r', w₃, gs) →
      Passes b (.scope d s op next) w (es ++ fs ++ gs)
        (.leaving w₁.session.epoch (!r'.isOk)) w₃
  /-- After a scope that was left. -/
  | left {α β : Type} {d : Bool} {s : Sending} {op : Program μ β}
      {next : Except Failure (Batched β) → Program μ α} {w w₁ w₂ w₃ w₄ w' : World σ}
      {r : Except Failure β} {r' : Except Failure (Batched β)} {es fs gs hs past : List (Event μ)}
      {g : Stage} :
      w.enter b = (.ok (), w₁, es) → op.run b w₁ = ⟨.finished r, w₂, fs⟩ →
      w₂.settle b s r = (.finished r', w₃, gs) →
      w₃.leave b d w₁.session.epoch (!r'.isOk) = (w₄, hs) →
      Passes b (next r') w₄ past g w' →
      Passes b (.scope d s op next) w (es ++ fs ++ gs ++ hs ++ past) g w'

/-! The run of a scope, by what became of it. -/

/-- What the run of a scope and of what follows it can be: the scope is refused, or it is left, or
    everything ends in between, with its operation or with its request. -/
inductive Program.ScopeRan (b : Backend σ) (d : Bool) (s : Sending) (op : Program μ β)
    (next : Except Failure (Batched β) → Program μ α) (w : World σ) : Ran σ μ α → Prop where
  | refused {e : Failure} {w₁ : World σ} {es : List (Event μ)} :
      w.enter b = (.error e, w₁, es) →
      ScopeRan b d s op next w (((next (.error e)).run b w₁).after es)
  | stopped {w₁ w₂ : World σ} {es fs : List (Event μ)} :
      w.enter b = (.ok (), w₁, es) → op.run b w₁ = ⟨.aborted, w₂, fs⟩ →
      ScopeRan b d s op next w ⟨.aborted, w₂, es ++ fs⟩
  | overrun {w₁ w₂ w₃ : World σ} {r : Except Failure β} {es fs gs : List (Event μ)} :
      w.enter b = (.ok (), w₁, es) → op.run b w₁ = ⟨.finished r, w₂, fs⟩ →
      w₂.settle b s r = (.aborted, w₃, gs) →
      ScopeRan b d s op next w ⟨.aborted, w₃, es ++ fs ++ gs⟩
  | left {w₁ w₂ w₃ w₄ : World σ} {r : Except Failure β} {r' : Except Failure (Batched β)}
      {es fs gs hs : List (Event μ)} :
      w.enter b = (.ok (), w₁, es) → op.run b w₁ = ⟨.finished r, w₂, fs⟩ →
      w₂.settle b s r = (.finished r', w₃, gs) →
      w₃.leave b d w₁.session.epoch (!r'.isOk) = (w₄, hs) →
      ScopeRan b d s op next w (((next r').run b w₄).after (es ++ fs ++ gs ++ hs))

theorem Program.run_scope (b : Backend σ) (d : Bool) (s : Sending) (op : Program μ β)
    (next : Except Failure (Batched β) → Program μ α) (w : World σ) :
    ScopeRan b d s op next w ((Program.scope d s op next).run b w) := by
  rcases he : w.enter (μ := μ) b with ⟨e | _, w₁, es⟩
  · simp only [Program.run, he]
    exact .refused he
  · rcases ho : op.run b w₁ with ⟨o, w₂, fs⟩
    cases o with
    | aborted =>
      simp only [Program.run, he, ho]
      exact .stopped he ho
    | finished r =>
      rcases hset : w₂.settle (μ := μ) b s r with ⟨o', w₃, gs⟩
      cases o' with
      | aborted =>
        simp only [Program.run, he, ho, hset]
        exact .overrun he ho hset
      | finished r' =>
        simp only [Program.run, he, ho, hset]
        exact .left he ho hset rfl

theorem Program.run_scope_left {b : Backend σ} {d : Bool} {s : Sending} {op : Program μ β}
    (next : Except Failure (Batched β) → Program μ α) {w w₁ w₂ w₃ w₄ : World σ}
    {r : Except Failure β} {r' : Except Failure (Batched β)} {es fs gs hs : List (Event μ)}
    (he : w.enter b = (.ok (), w₁, es)) (ho : op.run b w₁ = ⟨.finished r, w₂, fs⟩)
    (hset : w₂.settle b s r = (.finished r', w₃, gs))
    (hl : w₃.leave b d w₁.session.epoch (!r'.isOk) = (w₄, hs)) :
    (Program.scope d s op next).run b w =
      ((next r').run b w₄).after (es ++ fs ++ gs ++ hs) := by
  simp only [Program.run, he, ho, hset, hl]

theorem Ran.after_eq {ran : Ran σ μ α} {o : Outcome α} {w : World σ} {es fs : List (Event μ)}
    (h : ran.after es = ⟨o, w, fs⟩) : ∃ gs, ran = ⟨o, w, gs⟩ ∧ fs = es ++ gs := by
  obtain ⟨o', w', gs⟩ := ran
  simp only [Ran.after, Ran.mk.injEq] at h
  obtain ⟨rfl, rfl, rfl⟩ := h
  exact ⟨gs, rfl, rfl⟩

/-- A run that ends passes through its end. -/
theorem Program.passes_end (b : Backend σ) (p : Program μ α) (w : World σ) {r : Except Failure α}
    (h : (p.run b w).outcome = .finished r) :
    p.Passes b w (p.run b w).events .operating (p.run b w).world := by
  induction p generalizing w with
  | done r => exact .here _ _
  | abort => cases h
  | queue st next ih => exact .queue (ih _ h)
  | useDatabase db next ih => exact .useDatabase (ih _ h)
  | observe next ih => exact .observe (ih _ _ h)
  | mark m next ih => exact .mark (ih _ h)
  | scope d s op next _ ih =>
    have hran := run_scope b d s op next w
    generalize (Program.scope d s op next).run b w = ran at h hran ⊢
    cases hran with
    | refused he => exact .refused he (ih _ _ h)
    | stopped | overrun => cases h
    | left he ho hs hl => exact .left he ho hs hl (ih _ _ h)

/-! What the log says. -/

/-- A call of a scope returned. -/
def Event.returns : Event μ → Bool
  | .refused | .closed _ => true
  | _ => false

/-- A call of a scope returned a failure. -/
def Event.fails : Event μ → Bool
  | .refused | .closed true => true
  | _ => false

/-- A scope was opened. -/
def Event.opens : Event μ → Bool
  | .opened _ => true
  | _ => false

/-- A scope that was opened was closed. -/
def Event.closes : Event μ → Bool
  | .closed _ => true
  | _ => false

/-- A scope that is open. -/
structure OpenScope where
  /-- The epoch in which it was entered. -/
  epoch : UInt64
  /-- Its connection was destroyed since. -/
  outlived : Bool
  deriving DecidableEq, Repr

/-- The open scopes after one more event, the innermost first. -/
def opensAfter (scopes : List OpenScope) : Event μ → List OpenScope
  | .opened epoch => ⟨epoch, false⟩ :: scopes
  | .closed _ => scopes.tail
  | .destroy => scopes.map fun o => { o with outlived := true }
  | _ => scopes

/-- The scopes that were opened and not closed yet, the innermost first. -/
def openScopes (past : List (Event μ)) : List OpenScope := past.foldl opensAfter []

theorem openScopes_append (past es : List (Event μ)) :
    openScopes (past ++ es) = es.foldl opensAfter (openScopes past) := by
  simp only [openScopes, List.foldl_append]

/-- The epochs that the open scopes saved when they were entered. -/
def openEpochs (past : List (Event μ)) : List UInt64 := (openScopes past).map (·.epoch)

end SqlBatch
