import SqlBatch.Proofs.Session.Step
/- The course of a run. The moments of a run follow one another, and the past of each is how the
   log of the whole run begins.
     1. `Program.Passes.isPrefix`, `Program.Comes.isPrefix`: the past of a moment, and the log of a
        program that a run comes to, are where they belong in the log of the run.
     2. `Program.run_sends`: a request is sent at a moment of the run, and is what waits then.
     3. `Program.logs_run`: all that happens belongs to the past of a moment, but for a request with
        which everything ends.
     4. `Program.scopeLog`, `Program.keepsOpen_run`: a scope is open from its first event to its
        last, and a run closes no scope but those that it opened. -/
namespace SqlBatch

variable {σ μ α β γ : Type}

/-- The run of a program from a world comes to a program that goes on from another world, after the
    events of its past. The one that it comes to is the rest of an operation. -/
inductive Program.Comes (b : Backend σ) :
    {α γ : Type} → Program μ α → World σ → List (Event μ) → Program μ γ → World σ → Prop where
  | here {α : Type} (p : Program μ α) (w : World σ) : Comes b p w [] p w
  | queue {α γ : Type} {st : Statement} {next : Program μ α} {q : Program μ γ} {w w' : World σ}
      {past : List (Event μ)} :
      Comes b next (w.put (w.session.queue st)) past q w' →
      Comes b (.queue st next) w (.queued st w.session.database :: past) q w'
  | useDatabase {α γ : Type} {db : String} {next : Program μ α} {q : Program μ γ} {w w' : World σ}
      {past : List (Event μ)} :
      Comes b next (w.put (w.session.useDatabase db)) past q w' →
      Comes b (.useDatabase db next) w
        ((if w.session.needsUse db then [.queued (.use db) (some db)] else []) ++ past) q w'
  | observe {α γ : Type} {next : View → Program μ α} {q : Program μ γ} {w w' : World σ}
      {past : List (Event μ)} :
      Comes b (next w.session.view) w past q w' → Comes b (.observe next) w past q w'
  | mark {α γ : Type} {m : μ} {next : Program μ α} {q : Program μ γ} {w w' : World σ}
      {past : List (Event μ)} :
      Comes b next w past q w' → Comes b (.mark m next) w (.mark m w.session :: past) q w'
  /-- After a scope that was refused. -/
  | refused {α β γ : Type} {d : Bool} {s : Sending} {op : Program μ β}
      {next : Except Failure (Batched β) → Program μ α} {q : Program μ γ} {w w₁ w' : World σ}
      {e : Failure} {es past : List (Event μ)} :
      w.enter b = (.error e, w₁, es) → Comes b (next (.error e)) w₁ past q w' →
      Comes b (.scope d s op next) w (es ++ past) q w'
  /-- In the operation of a scope. -/
  | inside {α β γ : Type} {d : Bool} {s : Sending} {op : Program μ β}
      {next : Except Failure (Batched β) → Program μ α} {q : Program μ γ} {w w₁ w' : World σ}
      {es past : List (Event μ)} :
      w.enter b = (.ok (), w₁, es) → Comes b op w₁ past q w' →
      Comes b (.scope d s op next) w (es ++ past) q w'
  /-- After a scope that was left. -/
  | left {α β γ : Type} {d : Bool} {s : Sending} {op : Program μ β}
      {next : Except Failure (Batched β) → Program μ α} {q : Program μ γ}
      {w w₁ w₂ w₃ w₄ w' : World σ} {r : Except Failure β} {r' : Except Failure (Batched β)}
      {es fs gs hs past : List (Event μ)} :
      w.enter b = (.ok (), w₁, es) → op.run b w₁ = ⟨.finished r, w₂, fs⟩ →
      w₂.settle b s r = (.finished r', w₃, gs) →
      w₃.leave b d w₁.session.epoch (!r'.isOk) = (w₄, hs) →
      Comes b (next r') w₄ past q w' →
      Comes b (.scope d s op next) w (es ++ fs ++ gs ++ hs ++ past) q w'

/-- The run of a program comes to a call of another one, with whose result, a failure included, it
    goes on. -/
def Program.Calls (b : Backend σ) (p : Program μ α) (w : World σ) (past : List (Event μ))
    (call : Program μ β) (w' : World σ) : Prop :=
  ∃ (γ : Type) (next : Except Failure β → Program μ γ),
    p.Comes b w past (call.attempt.bind next) w'

/-- To go on only with a result is to go on with whatever comes, and to end in a failure again. -/
theorem Program.bind_eq_attempt (p : Program μ α) (f : α → Program μ β) :
    p.bind f = p.attempt.bind fun r => match r with
      | .ok a => f a
      | .error e => .done (.error e) := by
  induction p with
  | done r => cases r <;> rfl
  | abort => rfl
  | queue st next ih => simp only [bind, attempt, ih]
  | useDatabase db next ih => simp only [bind, attempt, ih]
  | scope d s op next _ ih => simp only [bind, attempt, ih]
  | observe next ih => simp only [bind, attempt, ih]
  | mark m next ih => simp only [bind, attempt, ih]

/-! Where events stand in the log. -/

section Order

variable {b : Backend σ} {w w₁ w' : World σ} {past es : List (Event μ)}

/-- The log of a scope begins with that of its operation. -/
theorem Program.prefix_run_scope {op : Program μ β} (d : Bool) (s : Sending)
    (next : Except Failure (Batched β) → Program μ α) (he : w.enter b = (.ok (), w₁, es)) :
    es ++ (op.run b w₁).events <+: ((Program.scope d s op next).run b w).events := by
  simp only [run, he]
  split
  · exact List.prefix_rfl
  · split
    · exact List.prefix_append _ _
    · simp only [Ran.after, List.append_assoc]
      apply (List.prefix_append_right_inj _).mpr
      exact List.prefix_append _ _

/-- The past of a moment is how the log of the run begins. -/
theorem Program.Passes.isPrefix {p : Program μ α} {g : Stage} (h : p.Passes b w past g w') :
    past <+: (p.run b w).events := by
  induction h with
  | here p w => exact List.nil_prefix
  | queue _ ih => exact (List.prefix_append_right_inj [_]).mpr ih
  | useDatabase _ ih => exact (List.prefix_append_right_inj _).mpr ih
  | observe _ ih => exact ih
  | mark _ ih => exact (List.prefix_append_right_inj [_]).mpr ih
  | refused he _ ih =>
    simp only [run, he]
    exact (List.prefix_append_right_inj _).mpr ih
  | inside he _ ih =>
    exact ((List.prefix_append_right_inj _).mpr ih).trans (prefix_run_scope _ _ _ he)
  | @settled _ _ d _ _ next _ w₁ _ w₃ _ r' _ _ _ he ho hset =>
    rcases hl : w₃.leave (μ := μ) b d w₁.session.epoch (!r'.isOk) with ⟨w₄, hs⟩
    rw [run_scope_left next he ho hset hl]
    simp only [Ran.after, List.append_assoc, List.prefix_append_right_inj]
    exact List.prefix_append _ _
  | @left _ _ _ _ _ next _ _ _ _ _ _ _ _ _ _ _ _ _ _ he ho hset hl _ ih =>
    rw [run_scope_left next he ho hset hl]
    exact (List.prefix_append_right_inj _).mpr ih

/-- The log of a program that a run comes to is part of the log of the run. -/
theorem Program.Comes.isPrefix {p : Program μ α} {q : Program μ γ}
    (h : p.Comes b w past q w') : past ++ (q.run b w').events <+: (p.run b w).events := by
  induction h with
  | here p w => exact List.prefix_rfl
  | queue _ ih => exact (List.prefix_append_right_inj [_]).mpr ih
  | useDatabase _ ih =>
    rw [List.append_assoc]
    exact (List.prefix_append_right_inj _).mpr ih
  | observe _ ih => exact ih
  | mark _ ih => exact (List.prefix_append_right_inj [_]).mpr ih
  | refused he _ ih =>
    simp only [run, he, List.append_assoc]
    exact (List.prefix_append_right_inj _).mpr ih
  | inside he _ ih =>
    rw [List.append_assoc]
    exact ((List.prefix_append_right_inj _).mpr ih).trans (prefix_run_scope _ _ _ he)
  | @left _ _ _ _ _ _ next _ _ _ _ _ _ _ _ _ _ _ _ _ _ he ho hset hl _ ih =>
    rw [run_scope_left next he ho hset hl, List.append_assoc]
    exact (List.prefix_append_right_inj _).mpr ih

/-- Where a run comes to a program is one of its moments. -/
theorem Program.Comes.passes {p : Program μ α} {q : Program μ γ} (h : p.Comes b w past q w') :
    p.Passes b w past .operating w' := by
  induction h with
  | here p w => exact .here _ _
  | queue _ ih => exact .queue ih
  | useDatabase _ ih => exact .useDatabase ih
  | observe _ ih => exact .observe ih
  | mark _ ih => exact .mark ih
  | refused he _ ih => exact .refused he ih
  | inside he _ ih => exact .inside he ih
  | left he ho hset hl _ ih => exact .left he ho hset hl ih

end Order

/-! Where requests are sent. -/

/-- An element of two lists, one after the other, is one of the first or one of the second. -/
theorem mem_split {δ : Type} {before after es fs : List δ} {e : δ}
    (h : es ++ fs = before ++ e :: after) :
    (∃ rest, es = before ++ e :: rest) ∨ ∃ rest, before = es ++ rest ∧ fs = rest ++ e :: after := by
  rcases List.append_eq_append_iff.mp h with ⟨rest, hbefore, hfs⟩ | ⟨rest, hes, hrest⟩
  · exact .inr ⟨rest, hbefore, hfs⟩
  · cases rest with
    | nil =>
      rw [List.append_nil] at hes
      refine .inr ⟨[], by rw [hes, List.append_nil], ?_⟩
      simpa using hrest.symm
    | cons e' rest =>
      rw [List.cons_append, List.cons.injEq] at hrest
      obtain ⟨rfl, -⟩ := hrest
      exact .inl ⟨rest, hes⟩

/-- An event that the first of two logs has not is one of the second. -/
theorem mem_split_of_not_mem {before after es fs : List (Event μ)} {e : Event μ}
    (h : es ++ fs = before ++ e :: after) (he : e ∉ es) :
    ∃ rest, before = es ++ rest ∧ fs = rest ++ e :: after := by
  rcases mem_split h with ⟨rest, rfl⟩ | hrest
  · exact absurd (by simp) he
  · exact hrest

section Requests

variable {b : Backend σ} {w w₁ : World σ} {es before after : List (Event μ)} {request : Request}
  {done : Bool}

theorem run_notMem_enter {r : Except Failure Unit} (h : w.enter b = (r, w₁, es)) :
    .run request done ∉ es := by
  intro hm
  cases r with
  | error e => cases (enter_refused [] h).1 <;> simp at hm
  | ok _ => cases (enter_opened [] h).1 <;> simp at hm

theorem run_notMem_leave {d failed : Bool} {epoch : UInt64}
    (h : w.leave b d epoch failed = (w₁, es)) : .run request done ∉ es := by
  intro hm
  cases leave_step [] h with
  | leaveLast => split at hm <;> simp at hm
  | _ => simp at hm

/-- A scope that settles sends nothing, or what waits. -/
theorem settle_log {s : Sending} {r : Except Failure β} {o : Outcome (Batched β)}
    (h : w.settle b s r = (o, w₁, es)) :
    es = [] ∨ w.session.connected = true ∧ ∃ done, es = [.run w.session.request done] := by
  cases r with
  | error e =>
    simp only [World.settle, Prod.mk.injEq] at h
    exact .inl h.2.2.symm
  | ok value =>
    cases hc : w.session.connected with
    | true =>
      rcases hb : b.run (w.session.request.text b.dialect) w.server with ⟨response, server⟩
      simp only [World.settle, flush_connected (μ := μ) hc hb] at h
      split at h
      · refine .inr ⟨rfl, response.failure.isNone, ?_⟩
        split at h <;> simp_all
      · simp only [Prod.mk.injEq] at h
        exact .inl h.2.2.symm
    | false =>
      simp only [World.settle, World.flush, hc] at h
      refine .inl ?_
      split at h <;> simp_all

theorem settle_sends {s : Sending} {r : Except Failure β} {o : Outcome (Batched β)}
    (h : w.settle b s r = (o, w₁, before ++ Event.run request done :: after)) :
    before = [] ∧ w.session.connected = true ∧ request = w.session.request := by
  rcases settle_log h with hnone | ⟨hc, done', hone⟩
  · simp at hnone
  · simp only [List.append_eq_singleton_iff, List.cons.injEq, Event.run.injEq, reduceCtorEq,
      and_false, or_false] at hone
    exact ⟨hone.1, hc, hone.2.1.1⟩

/-- A request is sent at a moment of the run, when there is a connection, and is what waits then. -/
theorem Program.run_sends (p : Program μ α) (w : World σ) {before after : List (Event μ)}
    (h : (p.run b w).events = before ++ Event.run request done :: after) :
    ∃ w₀, p.Passes b w before .operating w₀ ∧ w₀.session.connected = true ∧
      request = w₀.session.request := by
  -- By induction on the program: the request splits the log, and the part that it falls into tells
  -- which part of the program has sent it.
  induction p generalizing w before after with
  | done r => simp [run] at h
  | abort => simp [run] at h
  | queue st next ih =>
    have hnot : .run request done ∉ [Event.queued (μ := μ) st w.session.database] := by simp
    obtain ⟨rest, rfl, hrest⟩ := mem_split_of_not_mem h hnot
    obtain ⟨w₀, hp, hw₀⟩ := ih _ hrest
    exact ⟨w₀, .queue hp, hw₀⟩
  | useDatabase db next ih =>
    obtain ⟨rest, rfl, hrest⟩ := mem_split_of_not_mem h (by split <;> simp)
    obtain ⟨w₀, hp, hw₀⟩ := ih _ hrest
    exact ⟨w₀, .useDatabase hp, hw₀⟩
  | observe next ih =>
    obtain ⟨w₀, hp, hw₀⟩ := ih _ _ h
    exact ⟨w₀, .observe hp, hw₀⟩
  | mark m next ih =>
    have hnot : .run request done ∉ [Event.mark m w.session] := by simp
    obtain ⟨rest, rfl, hrest⟩ := mem_split_of_not_mem h hnot
    obtain ⟨w₀, hp, hw₀⟩ := ih _ hrest
    exact ⟨w₀, .mark hp, hw₀⟩
  | scope d s op next ihop ih =>
    rcases he : w.enter (μ := μ) b with ⟨_ | _, w₁, es⟩
    · simp only [run, he] at h
      obtain ⟨rest, rfl, hrest⟩ := mem_split_of_not_mem h (run_notMem_enter he)
      obtain ⟨w₀, hp, hw₀⟩ := ih _ _ hrest
      exact ⟨w₀, .refused he hp, hw₀⟩
    · rcases ho : op.run b w₁ with ⟨o, w₂, fs⟩
      -- A request of the operation is sent at one of its moments.
      have hinside {gs : List (Event μ)}
          (hes : es ++ (fs ++ gs) = before ++ Event.run request done :: after) :
          (∃ w₀, (Program.scope d s op next).Passes b w before .operating w₀ ∧
            w₀.session.connected = true ∧ request = w₀.session.request) ∨
          ∃ rest, before = es ++ (fs ++ rest) ∧ gs = rest ++ Event.run request done :: after := by
        obtain ⟨rest, rfl, hrest⟩ := mem_split_of_not_mem hes (run_notMem_enter he)
        rcases mem_split hrest with ⟨rest', hop⟩ | ⟨rest', rfl, hgs⟩
        · obtain ⟨w₀, hp, hw₀⟩ := ihop w₁ (by rw [ho]; exact hop)
          exact .inl ⟨w₀, .inside he hp, hw₀⟩
        · exact .inr ⟨rest', rfl, hgs⟩
      simp only [run, he, ho] at h
      cases o with
      | aborted =>
        have hes : es ++ (fs ++ []) = before ++ Event.run request done :: after := by simpa using h
        rcases hinside hes with hfound | ⟨rest, -, hnone⟩
        · exact hfound
        · simp at hnone
      | finished r =>
        have hend : op.Passes b w₁ fs .operating w₂ := by
          have hpasses := op.passes_end b w₁ (r := r) (by rw [ho])
          rwa [ho] at hpasses
        rcases hset : w₂.settle (μ := μ) b s r with ⟨o', w₃, gs⟩
        -- The scope's own request is sent when its operation has ended.
        have hown {rest rest' : List (Event μ)} (hgs : gs = rest ++ Event.run request done :: rest')
            (hbefore : before = es ++ (fs ++ rest)) :
            ∃ w₀, (Program.scope d s op next).Passes b w before .operating w₀ ∧
              w₀.session.connected = true ∧ request = w₀.session.request := by
          subst hgs
          obtain ⟨rfl, hsend⟩ := settle_sends hset
          rw [hbefore, List.append_nil]
          exact ⟨w₂, .inside he hend, hsend⟩
        simp only [hset] at h
        cases o' with
        | aborted =>
          rcases hinside (by simpa using h) with hfound | ⟨rest, hbefore, hgs⟩
          · exact hfound
          · exact hown hgs hbefore
        | finished r' =>
          rcases hl : w₃.leave (μ := μ) b d w₁.session.epoch (!r'.isOk) with ⟨w₄, hs⟩
          simp only [hl, Ran.after, List.append_assoc] at h
          rcases hinside h with hfound | ⟨rest, hbefore, hgs⟩
          · exact hfound
          · rcases mem_split hgs with ⟨rest', hgs'⟩ | ⟨rest', rfl, hrest⟩
            · exact hown hgs' hbefore
            · obtain ⟨rest'', rfl, hnext⟩ := mem_split_of_not_mem hrest (run_notMem_leave hl)
              obtain ⟨w₀, hp, hw₀⟩ := ih _ _ hnext
              rw [hbefore]
              simp only [← List.append_assoc]
              exact ⟨w₀, .left he ho hset hl hp, hw₀⟩

/-- The log is the past of a moment of a run, or a request follows with which everything ended. -/
def Program.Logs (b : Backend σ) (p : Program μ α) (w : World σ) (log : List (Event μ)) : Prop :=
  ∃ past g w', p.Passes b w past g w' ∧
    (log = past ∨ ∃ request done, log = past ++ [.run request done])

/-- A log goes on behind the events that come before it, if the pasts of the moments do. -/
theorem Program.Logs.behind {p : Program μ α} {q : Program μ β} {log : List (Event μ)}
    (es : List (Event μ))
    (hmoment : ∀ {past g w'}, p.Passes b w₁ past g w' → q.Passes b w (es ++ past) g w')
    (h : p.Logs b w₁ log) : q.Logs b w (es ++ log) := by
  obtain ⟨past, g, w', hp, rfl | ⟨request, done, rfl⟩⟩ := h
  · exact ⟨_, g, w', hmoment hp, .inl rfl⟩
  · exact ⟨_, g, w', hmoment hp, .inr ⟨request, done, (List.append_assoc ..).symm⟩⟩

theorem Program.logs_run (b : Backend σ) (p : Program μ α) (w : World σ) :
    p.Logs b w (p.run b w).events := by
  induction p generalizing w with
  | done r => exact ⟨_, _, _, .here _ _, .inl rfl⟩
  | abort => exact ⟨_, _, _, .here _ _, .inl rfl⟩
  | queue st next ih => exact (ih _).behind [_] .queue
  | useDatabase db next ih => exact (ih _).behind _ .useDatabase
  | observe next ih =>
    obtain ⟨past, g, w', hp, hlog⟩ := ih w.session.view w
    exact ⟨past, g, w', .observe hp, hlog⟩
  | mark m next ih => exact (ih _).behind [_] .mark
  | scope d s op next ihop ih =>
    rcases he : w.enter (μ := μ) b with ⟨_ | _, w₁, es⟩
    · simp only [run, he]
      exact (ih _ _).behind _ (.refused he)
    · rcases ho : op.run b w₁ with ⟨o, w₂, fs⟩
      have hop := ihop w₁
      rw [ho] at hop
      simp only [run, he, ho]
      cases o with
      | aborted => exact hop.behind _ (.inside he)
      | finished r =>
        rcases hset : w₂.settle (μ := μ) b s r with ⟨o', w₃, gs⟩
        simp only [hset]
        cases o' with
        | aborted =>
          have hend : op.Passes b w₁ fs .operating w₂ := by
            have hpasses := op.passes_end b w₁ (r := r) (by rw [ho])
            rwa [ho] at hpasses
          rcases settle_log hset with rfl | ⟨-, done, rfl⟩
          · exact ⟨_, _, _, .inside he hend, .inl (List.append_nil _)⟩
          · exact ⟨_, _, _, .inside he hend, .inr ⟨_, done, rfl⟩⟩
        | finished r' =>
          rcases hl : w₃.leave (μ := μ) b d w₁.session.epoch (!r'.isOk) with ⟨w₄, hs⟩
          simp only [hl]
          exact (ih _ _).behind _ (.left he ho hset hl)

/-- So every event belongs to the past of a moment, unless it is such a request. -/
theorem Program.passes_beyond (p : Program μ α) (w : World σ) {e : Event μ}
    (h : (p.run b w).events = before ++ e :: after) :
    (∃ rest g w', p.Passes b w (before ++ e :: rest) g w') ∨
      ∃ request done, e = .run request done := by
  obtain ⟨past, g, w', hp, hlog⟩ := p.logs_run b w
  rw [h] at hlog
  rcases hlog with rfl | ⟨request, done, hlog⟩
  · exact .inl ⟨after, g, w', hp⟩
  · rcases mem_split hlog.symm with ⟨rest, rfl⟩ | ⟨rest, rfl, hone⟩
    · exact .inl ⟨rest, g, w', hp⟩
    · simp only [List.singleton_eq_append_iff, List.cons.injEq, reduceCtorEq, and_false,
        or_false] at hone
      exact .inr ⟨request, done, hone.2.1⟩

end Requests

/-! Which scopes a run closes. -/

/-- However many scopes are open before the events, as many are open all the way through them. -/
def KeepsOpen (es : List (Event μ)) : Prop :=
  ∀ (scopes : List OpenScope) (fs : List (Event μ)), fs <+: es →
    scopes.length ≤ (fs.foldl opensAfter scopes).length

namespace KeepsOpen

variable {es fs : List (Event μ)}

/-- What begins a log of two parts begins the first part, or is all of it and begins the other. -/
theorem prefix_cases {l : List (Event μ)} (h : l <+: es ++ fs) :
    l <+: es ∨ ∃ rest, l = es ++ rest ∧ rest <+: fs := by
  rcases List.prefix_or_prefix_of_prefix h (List.prefix_append es fs) with hes | ⟨rest, rfl⟩
  · exact .inl hes
  · exact .inr ⟨rest, rfl, (List.prefix_append_right_inj es).mp h⟩

theorem nil : KeepsOpen ([] : List (Event μ)) := by
  intro scopes l hl
  rw [List.prefix_nil.mp hl]
  exact Nat.le_refl _

theorem append (hes : KeepsOpen es) (hfs : KeepsOpen fs) : KeepsOpen (es ++ fs) := by
  intro scopes l hl
  rcases prefix_cases hl with hl | ⟨rest, rfl, hrest⟩
  · exact hes scopes l hl
  · rw [List.foldl_append]
    exact Nat.le_trans (hes scopes es List.prefix_rfl) (hfs _ rest hrest)

/-- Events that close nothing. -/
theorem of_not_closes (h : ∀ e ∈ es, e.closes = false) : KeepsOpen es := by
  induction es with
  | nil => exact nil
  | cons e es ih =>
    have hone : KeepsOpen [e] := by
      intro scopes l hl
      rcases List.prefix_cons_iff.mp hl with rfl | ⟨rest, rfl, hrest⟩
      · exact Nat.le_refl _
      · rw [List.prefix_nil.mp hrest]
        have he := h e List.mem_cons_self
        cases e <;> simp [opensAfter, Event.closes] at he ⊢
    exact hone.append (ih fun e' he' => h e' (List.mem_cons_of_mem _ he'))

/-- A scope that was opened may be closed. -/
theorem around (hes : KeepsOpen es) (epoch : UInt64) (failed : Bool) :
    KeepsOpen (.opened epoch :: es ++ [Event.closed failed]) := by
  have hone : KeepsOpen [Event.opened (μ := μ) epoch] := .of_not_closes (by simp [Event.closes])
  have hopened : KeepsOpen (.opened epoch :: es) := hone.append hes
  intro scopes l hl
  rcases List.prefix_concat_iff.mp hl with rfl | hl
  · -- One more scope is open all the way through the events in between.
    have hmore := hes (⟨epoch, false⟩ :: scopes) es List.prefix_rfl
    simp only [List.foldl_append, List.foldl_cons, List.foldl_nil, opensAfter, List.length_tail,
      List.length_cons] at hmore ⊢
    omega
  · exact hopened scopes l hl

/-- Where a scope is open before such events, one is open all the way through them. -/
theorem openScopes_ne_nil {past : List (Event μ)} (hes : KeepsOpen es) (hopen : openScopes past ≠ [])
    (h : fs <+: es) : openScopes (past ++ fs) ≠ [] := by
  rw [openScopes_append]
  intro hnil
  have hle := hes (openScopes past) fs h
  rw [hnil] at hle
  exact hopen (List.eq_nil_of_length_eq_zero (Nat.le_zero.mp hle))

end KeepsOpen

section Runs

variable {b : Backend σ} {w w₁ : World σ} {es : List (Event μ)}

/-- A scope that is opened is opened by the last event of its entering, and at most a connection is
    made before. -/
theorem enter_log (h : w.enter b = (.ok (), w₁, es)) :
    es = [.opened w₁.session.epoch] ∨
      es = [.connect w.session.config.url true, .opened w₁.session.epoch] := by
  simp only [World.enter] at h
  split at h
  · simp at h
  · split at h
    · simp only [Prod.mk.injEq] at h
      obtain ⟨-, rfl, rfl⟩ := h
      exact .inl rfl
    · split at h
      · simp only [Prod.mk.injEq] at h
        obtain ⟨-, rfl, rfl⟩ := h
        exact .inr rfl
      · simp at h

theorem enter_refused_log {e : Failure} (h : w.enter b = (.error e, w₁, es)) :
    es = [.refused] ∨ es = [.connect w.session.config.url false, .refused] := by
  simp only [World.enter] at h
  split at h
  · simp only [Prod.mk.injEq] at h
    exact .inl h.2.2.symm
  · split at h
    · simp at h
    · split at h
      · simp at h
      · simp only [Prod.mk.injEq] at h
        exact .inr h.2.2.symm

/-- A scope that is left is closed by the last event of its leaving, and no other one is. -/
theorem leave_log {d failed : Bool} {epoch : UInt64} (h : w.leave b d epoch failed = (w₁, es)) :
    ∃ front, es = front ++ [Event.closed failed] ∧ ∀ e ∈ front, e.closes = false := by
  cases leave_step [] h with
  | leaveOrphan => exact ⟨[], rfl, by simp⟩
  | leaveShared => exact ⟨[], rfl, by simp⟩
  | leaveLast => exact ⟨_, rfl, by split <;> simp [Event.closes]⟩

theorem settle_not_closes {s : Sending} {r : Except Failure β} {o : Outcome (Batched β)}
    (h : w.settle b s r = (o, w₁, es)) : ∀ e ∈ es, e.closes = false := by
  rcases settle_log h with rfl | ⟨-, done, rfl⟩ <;> simp [Event.closes]

/-- The log of a scope is its own, and behind it that of what it leads to. -/
theorem Program.run_scope_events (b : Backend σ) (d : Bool) (s : Sending) (op : Program μ β)
    (next : Except Failure (Batched β) → Program μ α) (w : World σ) :
    ∃ rest, ((Program.scope d s op next).run b w).events =
        ((Program.scope d s op .done).run b w).events ++ rest ∧
      (rest = [] ∨ ∃ r w', rest = ((next r).run b w').events) := by
  rcases he : w.enter (μ := μ) b with ⟨e | _, w₁, es⟩
  · exact ⟨((next (.error e)).run b w₁).events, by simp [run, he, Ran.after], .inr ⟨_, _, rfl⟩⟩
  · rcases ho : op.run b w₁ with ⟨o, w₂, fs⟩
    cases o with
    | aborted => exact ⟨[], by simp [run, he, ho], .inl rfl⟩
    | finished r =>
      rcases hset : w₂.settle (μ := μ) b s r with ⟨o', w₃, gs⟩
      cases o' with
      | aborted => exact ⟨[], by simp [run, he, ho, hset], .inl rfl⟩
      | finished r' =>
        let w₄ := (w₃.leave (μ := μ) b d w₁.session.epoch (!r'.isOk)).1
        exact ⟨((next r').run b w₄).events, by simp [run, he, ho, hset, Ran.after, w₄],
          .inr ⟨_, _, rfl⟩⟩

/-- What the log of a scope is: the scope is refused, or it is opened and closed again, unless
    everything ended before. -/
inductive ScopeLog : List (Event μ) → Prop where
  | refused {es : List (Event μ)} : (∀ e ∈ es, e.closes = false ∧ e ≠ .destroy) → ScopeLog es
  | opened {front body : List (Event μ)} {epoch : UInt64} :
      (∀ e ∈ front, e.closes = false ∧ e ≠ .destroy) → KeepsOpen body →
      ScopeLog (front ++ .opened epoch :: body)
  | closed {front body : List (Event μ)} {epoch : UInt64} {failed : Bool} :
      (∀ e ∈ front, e.closes = false ∧ e ≠ .destroy) → KeepsOpen body →
      ScopeLog (front ++ (.opened epoch :: body ++ [.closed failed]))

theorem ScopeLog.keepsOpen (h : ScopeLog es) : KeepsOpen es := by
  cases h with
  | refused h => exact .of_not_closes fun e he => (h e he).1
  | opened h hbody =>
    have hone (epoch : UInt64) : KeepsOpen [Event.opened (μ := μ) epoch] :=
      .of_not_closes (by simp [Event.closes])
    exact (KeepsOpen.of_not_closes fun e he => (h e he).1).append ((hone _).append hbody)
  | closed h hbody =>
    exact (KeepsOpen.of_not_closes fun e he => (h e he).1).append (hbody.around _ _)

/-- Before its end, but behind a destruction, a scope is open. -/
theorem ScopeLog.openScopes_ne_nil {l past : List (Event μ)} (h : ScopeLog es) (hl : l <+: es)
    (hne : l ≠ es) (hmem : .destroy ∈ l) : openScopes (past ++ l) ≠ [] := by
  have hopen {front body rest : List (Event μ)} {epoch : UInt64} (hbody : KeepsOpen body)
      (hrest : rest <+: body) :
      openScopes (past ++ (front ++ Event.opened epoch :: rest)) ≠ [] := by
    have hstart : openScopes (past ++ (front ++ [Event.opened epoch])) ≠ [] := by
      rw [← List.append_assoc, openScopes_append]
      simp [opensAfter]
    have := hbody.openScopes_ne_nil hstart hrest
    simpa using this
  -- Nothing is destroyed before the scope is opened.
  have hbehind {front es' : List (Event μ)} {epoch : UInt64}
      (hfront : ∀ e ∈ front, e.closes = false ∧ e ≠ .destroy)
      (hl : l <+: front ++ Event.opened epoch :: es') :
      ∃ rest, l = front ++ Event.opened epoch :: rest ∧ rest <+: es' := by
    rcases KeepsOpen.prefix_cases hl with hl | ⟨l', rfl, hl'⟩
    · exact absurd rfl (hfront _ (hl.subset hmem)).2
    · rcases List.prefix_cons_iff.mp hl' with rfl | ⟨rest, rfl, hrest⟩
      · rw [List.append_nil] at hmem
        exact absurd rfl (hfront _ hmem).2
      · exact ⟨rest, rfl, hrest⟩
  cases h with
  | refused h => exact absurd rfl (h _ (hl.subset hmem)).2
  | opened hfront hbody =>
    obtain ⟨rest, rfl, hrest⟩ := hbehind hfront hl
    exact hopen hbody hrest
  | closed hfront hbody =>
    obtain ⟨rest, rfl, hrest⟩ := hbehind hfront hl
    rcases List.prefix_concat_iff.mp hrest with rfl | hrest
    · exact absurd rfl hne
    · exact hopen hbody hrest

/-- So is the log of a scope, if its operation closes no scope but those that it opened. -/
theorem Program.scopeLog {op : Program μ β} (hop : ∀ w, KeepsOpen (op.run b w).events) (d : Bool)
    (s : Sending) (w : World σ) : ScopeLog ((Program.scope d s op .done).run b w).events := by
  rcases he : w.enter (μ := μ) b with ⟨_ | _, w₁, es⟩
  · simp only [run, he, Ran.after, List.append_nil]
    refine .refused ?_
    rcases enter_refused_log he with rfl | rfl <;> simp [Event.closes]
  · obtain ⟨front, rfl, hfront⟩ : ∃ front, es = front ++ [Event.opened w₁.session.epoch] ∧
        ∀ e ∈ front, e.closes = false ∧ e ≠ .destroy := by
      rcases enter_log he with rfl | rfl
      · exact ⟨[], rfl, by simp⟩
      · exact ⟨[_], rfl, by simp [Event.closes]⟩
    have hbody := hop w₁
    rcases ho : op.run b w₁ with ⟨o, w₂, fs⟩
    rw [ho] at hbody
    simp only [run, he, ho]
    cases o with
    | aborted =>
      rw [List.append_assoc]
      exact .opened hfront hbody
    | finished r =>
      rcases hset : w₂.settle (μ := μ) b s r with ⟨o', w₃, gs⟩
      have hsettled := hbody.append (.of_not_closes (settle_not_closes hset))
      simp only [hset]
      cases o' with
      | aborted =>
        have hall : ScopeLog (front ++ Event.opened w₁.session.epoch :: (fs ++ gs)) :=
          .opened hfront hsettled
        simpa using hall
      | finished r' =>
        rcases hl : w₃.leave (μ := μ) b d w₁.session.epoch (!r'.isOk) with ⟨w₄, hs⟩
        obtain ⟨back, rfl, hback⟩ := leave_log hl
        have hall : ScopeLog (front ++ (.opened w₁.session.epoch :: (fs ++ gs ++ back) ++
            [Event.closed (!r'.isOk)])) := .closed hfront (hsettled.append (.of_not_closes hback))
        simpa [Ran.after, hl] using hall

/-- A run closes no scope but those that it opened. -/
theorem Program.keepsOpen_run (b : Backend σ) (p : Program μ α) (w : World σ) :
    KeepsOpen (p.run b w).events := by
  -- Logs that keep scopes open go one after another, and only a scope closes what it opened.
  induction p generalizing w with
  | done r => exact .nil
  | abort => exact .nil
  | queue st next ih =>
    have hone : KeepsOpen [.queued (μ := μ) st w.session.database] :=
      .of_not_closes (by simp [Event.closes])
    exact hone.append (ih _)
  | useDatabase db next ih =>
    exact (KeepsOpen.of_not_closes (by split <;> simp [Event.closes])).append (ih _)
  | observe next ih => exact ih _ _
  | mark m next ih =>
    have hone : KeepsOpen [.mark m w.session] := .of_not_closes (by simp [Event.closes])
    exact hone.append (ih _)
  | scope d s op next ihop ih =>
    have hown := (Program.scopeLog ihop d s w).keepsOpen
    obtain ⟨rest, hlog, hrest⟩ := run_scope_events b d s op next w
    rw [hlog]
    rcases hrest with rfl | ⟨r, w', rfl⟩
    · exact hown.append .nil
    · exact hown.append (ih r w')

end Runs

end SqlBatch
