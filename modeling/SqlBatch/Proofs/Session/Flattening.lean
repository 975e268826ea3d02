import SqlBatch.Proofs.Session.Delivery
import SqlBatch.Proofs.Session.Lifecycle
import SqlBatch.Proofs.Session.Linear
/- Nested scopes are flattened. A run in which no scope fails sends what the line
   of its statements sends.
     1. `Program.run_of_linear`, `Program.linear_of_run`: below an outermost scope the
        runs without failures are exactly those that the line describes.
     2. `nested_scopes_flatten`: what an outermost call without failures sends and
        returns is what its flattened program sends and returns on the line. -/
namespace SqlBatch

variable {σ μ α β : Type}

/-- The world of a session at a depth that shares a connection on which the line was sent. -/
def Line.world (l : Line σ) (config : Config) (epoch : UInt64) (n : Nat) : World σ where
  session :=
    { config := config
      connected := true
      depth := n
      orphans := 0
      epoch := epoch
      fresh := l.sent.isEmpty
      database := l.database
      pending := l.waiting }
  server := l.server

/-- The events lead from one line to another without a failure: they send the requests that the
    other one has more, and what waits and was queued is what waits and was sent. -/
structure Carried (l : Line σ) (es : List (Event μ)) (l' : Line σ) : Prop where
  clean : ∀ e ∈ es, e.fails = false
  sent : l'.sent = l.sent ++ requests es
  waiting : l.waiting ++ queuedStatements es =
    (requests es).flatMap (·.statements) ++ l'.waiting
  /-- Only the first request on the line selects a database. -/
  selects : (∀ q ∈ l.sent.tail, q.database = none) → ∀ q ∈ l'.sent.tail, q.database = none

namespace Carried

variable {l l' l'' : Line σ} {es fs : List (Event μ)}

/-- Events that neither queue nor send. -/
theorem idle (l : Line σ) (es : List (Event μ)) (hclean : ∀ e ∈ es, e.fails = false)
    (hreq : requests es = []) (hq : queuedStatements es = []) : Carried l es l where
  clean := hclean
  sent := by rw [hreq, List.append_nil]
  waiting := by rw [hreq, hq, List.append_nil]; rfl
  selects := id

theorem trans (h : Carried l es l') (h' : Carried l' fs l'') : Carried l (es ++ fs) l'' where
  clean e he := by
    rcases List.mem_append.mp he with he | he
    · exact h.clean e he
    · exact h'.clean e he
  sent := by rw [h'.sent, h.sent, requests_append, List.append_assoc]
  waiting := by
    calc l.waiting ++ queuedStatements (es ++ fs)
        = (l.waiting ++ queuedStatements es) ++ queuedStatements fs := by
          rw [queuedStatements_append, List.append_assoc]
      _ = (requests es).flatMap (·.statements) ++ (l'.waiting ++ queuedStatements fs) := by
          rw [h.waiting, List.append_assoc]
      _ = (requests (es ++ fs)).flatMap (·.statements) ++ l''.waiting := by
          rw [h'.waiting, requests_append, List.flatMap_append, List.append_assoc]
  selects hl := h'.selects (h.selects hl)

theorem queue (l : Line σ) (st : Statement) (db : Option String) :
    Carried (μ := μ) l [.queued st db] (l.queue st) where
  clean := by simp [Event.fails]
  sent := by simp [requests, Line.queue]
  waiting := by simp [requests, queuedStatements, Line.queue]
  selects := id

theorem send (l : Line σ) (server : σ) :
    Carried (μ := μ) l [.run l.request true] (l.cut server) where
  clean := by simp [Event.fails]
  sent := rfl
  waiting := by simp [requests, queuedStatements, Line.request, Line.cut]
  selects hl q hq := by
    unfold Line.cut at hq
    cases hsent : l.sent with
    | nil => simp [hsent] at hq
    | cons first rest =>
      rw [hsent] at hl hq
      rcases List.mem_append.mp hq with hq | hq
      · exact hl q hq
      · rw [List.mem_singleton.mp hq, Line.request, hsent]
        rfl

theorem useDatabase (l : Line σ) (db : String) :
    Carried (μ := μ) l (if l.needsUse db then [.queued (.use db) (some db)] else [])
      (l.useDatabase db) := by
  unfold Line.useDatabase
  split
  · have h := Carried.queue (μ := μ) l (.use db) (some db)
    exact ⟨h.clean, h.sent, h.waiting, h.selects⟩
  · have h := Carried.idle (μ := μ) l [] (by simp) rfl rfl
    exact ⟨h.clean, h.sent, h.waiting, h.selects⟩

end Carried

/-! A scope below another one, on the line. -/

section Scope

variable {b : Backend σ} {l l' : Line σ} {config : Config} {epoch : UInt64} {n : Nat}

theorem Line.world_enter :
    (l.world config epoch n).enter (μ := μ) b =
      (.ok (), l.world config epoch (n + 1), [.opened epoch]) := rfl

theorem Line.world_needsUse (l : Line σ) (db : String) :
    (l.world config epoch n).session.needsUse db = l.needsUse db := rfl

theorem Line.world_useDatabase (l : Line σ) (db : String) :
    (l.world config epoch n).put ((l.world config epoch n).session.useDatabase db) =
      (l.useDatabase db).world config epoch n := by
  unfold Session.useDatabase Line.useDatabase
  by_cases hneeds : l.needsUse db = true
  · rw [if_pos hneeds, if_pos ((l.world_needsUse db).trans hneeds)]
    rfl
  · rw [if_neg hneeds, if_neg (by rwa [Line.world_needsUse])]
    rfl

/-- A scope that did not fail and is not the last one leaves the connection to the others. -/
theorem Line.world_leave (l : Line σ) (config : Config) (epoch : UInt64) (hn : 0 < n) (d : Bool) :
    (l.world config epoch (n + 1)).leave (μ := μ) b d epoch false =
      (l.world config epoch n, [.closed false]) := by
  have hne : n ≠ 0 := by omega
  simp [World.leave, Line.world, World.put, hne]

theorem Line.world_flush {response : Response} {server : σ}
    (hb : b.run (l.request.text b.dialect) l.server = (response, server)) :
    (l.world config epoch n).flush (μ := μ) b =
      (response.outcome, (l.cut server).world config epoch n,
        [.run l.request response.failure.isNone]) := by
  have hcut : (l.cut server).world config epoch n =
      ⟨{ (l.world config epoch n).session with fresh := false, pending := [] }, server⟩ := by
    simp [Line.world, Line.cut]
  rw [hcut]
  exact flush_connected rfl hb

theorem Line.world_sends (l : Line σ) (config : Config) (epoch : UInt64) (s : Sending) :
    World.sends s (l.world config epoch n).session =
      ((n ≤ 1 || s = .always) && !l.waiting.isEmpty) := rfl

/-- The scope settles as the line is closed. -/
theorem Line.world_settle (l : Line σ) (config : Config) (epoch : UInt64) {s : Sending}
    {shaped : Shaped} (value : α)
    (h : l.close b (n ≤ 1 || s = .always) = some (shaped, l')) :
    ∃ es, (l.world config epoch n).settle (μ := μ) b s (.ok value) =
        (.finished (.ok ⟨shaped.rows, shaped.affected, value⟩), l'.world config epoch n, es) ∧
      Carried l es l' := by
  unfold Line.close at h
  split at h
  · next hsends =>
    rw [← l.world_sends config epoch] at hsends
    rcases hb : b.run (l.request.text b.dialect) l.server with ⟨response, server⟩
    simp only [World.settle, hsends, if_true, Line.world_flush hb]
    simp only [Line.send, hb] at h
    split at h
    · next ho =>
      simp only [Option.some.injEq, Prod.mk.injEq] at h
      obtain ⟨rfl, rfl⟩ := h
      have hdone : response.failure.isNone = true := by
        rw [← Option.not_isSome, Response.isSome_failure ho]
        rfl
      rw [ho, hdone]
      exact ⟨_, rfl, .send l server⟩
    · cases h
  · next hsends =>
    cases h
    rw [World.settle, if_neg (by rwa [Line.world_sends])]
    exact ⟨[], rfl, .idle _ [] (by simp) rfl rfl⟩

/-- A nested scope cuts the line only if it always sends. -/
theorem Line.close_nested (l : Line σ) (hn : 0 < n) (s : Sending) :
    l.close b (n + 1 ≤ 1 || s = .always) = l.close b (s = .always) := by
  have hdeep : ¬ n + 1 ≤ 1 := by omega
  rw [decide_eq_false hdeep, Bool.false_or]

theorem Line.close_of_settle {s : Sending} {value : α} {r : Batched α} {w' : World σ}
    {es : List (Event μ)}
    (h : (l.world config epoch n).settle b s (.ok value) = (.finished (.ok r), w', es)) :
    ∃ shaped l', l.close b (n ≤ 1 || s = .always) = some (shaped, l') := by
  unfold Line.close
  split
  · next hsends =>
    rw [← l.world_sends config epoch] at hsends
    rcases hb : b.run (l.request.text b.dialect) l.server with ⟨response, server⟩
    simp only [World.settle, hsends, if_true, Line.world_flush hb] at h
    cases ho : response.outcome with
    | aborted => simp [ho] at h
    | finished r' =>
      cases r' with
      | error e => simp [ho, Except.map] at h
      | ok shaped => exact ⟨shaped, l.cut server, by simp only [Line.send, hb, ho]⟩
  · exact ⟨_, _, rfl⟩

end Scope

section Runs

variable {b : Backend σ} {config : Config} {epoch : UInt64}

/-- Below an outermost scope a program runs as the line describes. -/
theorem Program.run_of_linear (p : Program μ α) (config : Config) (epoch : UInt64) {n : Nat}
    {l l' : Line σ} {a : α} (hn : 0 < n) (h : p.linear b n l = some (a, l')) :
    ∃ es, p.run b (l.world config epoch n) =
        ⟨.finished (.ok a), l'.world config epoch n, es⟩ ∧ Carried l es l' := by
  induction p generalizing n l l' with
  | done r =>
    cases r with
    | error e => cases h
    | ok a' =>
      cases h
      exact ⟨[], rfl, .idle l [] (by simp) rfl rfl⟩
  | abort => cases h
  | queue st next ih =>
    obtain ⟨es, hrun, hcarried⟩ := ih hn h
    refine ⟨.queued st l.database :: es, ?_, (Carried.queue l st l.database).trans hcarried⟩
    have hw : (l.world config epoch n).put ((l.world config epoch n).session.queue st) =
        (l.queue st).world config epoch n := rfl
    rw [run, hw, hrun]
    rfl
  | useDatabase db next ih =>
    obtain ⟨es, hrun, hcarried⟩ := ih hn h
    refine ⟨_, ?_, (Carried.useDatabase l db).trans hcarried⟩
    rw [run, Line.world_useDatabase, hrun]
    rfl
  | observe next ih => exact ih _ hn h
  | mark m next ih =>
    obtain ⟨es, hrun, hcarried⟩ := ih hn h
    have hmark := Carried.idle l [.mark m (l.world config epoch n).session]
      (by simp [Event.fails]) rfl rfl
    refine ⟨_, ?_, hmark.trans hcarried⟩
    rw [run, hrun]
    rfl
  | scope d s op next ihop ih =>
    simp only [linear, Option.bind_eq_some_iff] at h
    obtain ⟨⟨v, l₁⟩, hop, ⟨shaped, l₂⟩, hclose, hnext⟩ := h
    obtain ⟨es, hrun, hes⟩ := ihop (show 0 < n + 1 by omega) hop
    obtain ⟨fs, hsettle, hfs⟩ := Line.world_settle l₁ config epoch v
      ((l₁.close_nested hn s).trans hclose)
    obtain ⟨gs, hrun', hgs⟩ := ih _ hn hnext
    have henter := Carried.idle (μ := μ) l [.opened epoch] (by simp [Event.fails]) rfl rfl
    have hleave := Carried.idle (μ := μ) l₂ [.closed false] (by simp [Event.fails]) rfl rfl
    refine ⟨_, ?_, (((henter.trans hes).trans hfs).trans hleave).trans hgs⟩
    have hscope := run_scope_left next Line.world_enter hrun hsettle
      (l₂.world_leave config epoch hn d)
    exact hscope.trans (congrArg (Ran.after _) hrun')

/-- A scope that is left without a failure settled without one. -/
theorem settled_of_clean {w w₁ w₂ : World σ} {d : Bool} {s : Sending} {r : Except Failure α}
    {r' : Except Failure (Batched α)} {epoch : UInt64} {es fs : List (Event μ)}
    (hset : w.settle b s r = (.finished r', w₁, es))
    (hl : w₁.leave b d epoch (!r'.isOk) = (w₂, fs)) (hclean : ∀ e ∈ fs, e.fails = false) :
    ∃ value batched, r = .ok value ∧ r' = .ok batched := by
  obtain ⟨front, rfl⟩ := (leave_step [] hl).leave_closed
  have hclosed : Event.fails (μ := μ) (.closed (!r'.isOk)) = false := hclean _ (by simp)
  cases r' with
  | error e => cases hclosed
  | ok batched =>
    cases r with
    | error e => cases hset
    | ok value => exact ⟨value, batched, rfl, rfl⟩

/-- If the line describes the operation of a scope that is left without a failure, it describes what
    the scope sends and returns as well. -/
theorem Line.world_left {op : Program μ β} {l : Line σ} {n : Nat} {d : Bool} {s : Sending}
    {r : Except Failure β} {r' : Except Failure (Batched β)} {w₂ w₃ w₄ : World σ}
    {fs gs hs : List (Event μ)} (hn : 0 < n)
    (hop : ∀ v, r = .ok v → ∃ l₁, op.linear b n l = some (v, l₁))
    (ho : op.run b (l.world config epoch n) = ⟨.finished r, w₂, fs⟩)
    (hset : w₂.settle b s r = (.finished r', w₃, gs))
    (hl : w₃.leave b d epoch (!r'.isOk) = (w₄, hs)) (hclean : ∀ e ∈ hs, e.fails = false) :
    ∃ v l₁ shaped l₂, op.linear b n l = some (v, l₁) ∧
      l₁.close b (n ≤ 1 || s = .always) = some (shaped, l₂) ∧
      r' = .ok ⟨shaped.rows, shaped.affected, v⟩ ∧ w₃ = l₂.world config epoch n := by
  obtain ⟨v, batched, rfl, rfl⟩ := settled_of_clean hset hl hclean
  obtain ⟨l₁, hlinear⟩ := hop v rfl
  obtain ⟨_, hrun, -⟩ := op.run_of_linear config epoch hn hlinear
  rw [ho] at hrun
  cases hrun
  obtain ⟨shaped, l₂, hclose⟩ := Line.close_of_settle hset
  obtain ⟨_, hsettle, -⟩ := Line.world_settle (μ := μ) l₁ config epoch v hclose
  rw [hset] at hsettle
  cases hsettle
  exact ⟨v, l₁, shaped, l₂, hlinear, hclose, rfl, rfl⟩

/-- Below an outermost scope the line describes every run without failures. -/
theorem Program.linear_of_run (p : Program μ α) {n : Nat} {l : Line σ} {a : α} {w' : World σ}
    {es : List (Event μ)} (hn : 0 < n)
    (h : p.run b (l.world config epoch n) = ⟨.finished (.ok a), w', es⟩)
    (hclean : ∀ e ∈ es, e.fails = false) : ∃ l', p.linear b n l = some (a, l') := by
  induction p generalizing n l w' es with
  | done r =>
    cases h
    exact ⟨l, rfl⟩
  | abort => cases h
  | queue st next ih =>
    obtain ⟨fs, hrun, rfl⟩ := Ran.after_eq h
    exact ih hn hrun fun e he => hclean e (List.mem_append_right _ he)
  | useDatabase db next ih =>
    obtain ⟨fs, hrun, rfl⟩ := Ran.after_eq h
    rw [Line.world_useDatabase] at hrun
    exact ih hn hrun fun e he => hclean e (List.mem_append_right _ he)
  | observe next ih => exact ih _ hn h hclean
  | mark m next ih =>
    obtain ⟨fs, hrun, rfl⟩ := Ran.after_eq h
    exact ih hn hrun fun e he => hclean e (List.mem_append_right _ he)
  | scope d s op next ihop ih =>
    have hran := run_scope b d s op next (l.world config epoch n)
    rw [h] at hran
    generalize hR : (⟨.finished (.ok a), w', es⟩ : Ran σ _ _) = R at hran
    cases hran with
    | refused he => rw [Line.world_enter] at he; cases he
    | stopped | overrun => cases hR
    | @left w₁ w₂ w₃ w₄ r r' es₁ fs gs hs he ho hset hl =>
      obtain ⟨rest, hrun, rfl⟩ := Ran.after_eq hR.symm
      rw [Line.world_enter] at he
      cases he
      simp only [List.mem_append, or_imp, forall_and] at hclean
      obtain ⟨⟨⟨⟨-, hfs⟩, -⟩, hhs⟩, hrest⟩ := hclean
      obtain ⟨v, l₁, shaped, l₂, hop, hclose, rfl, rfl⟩ := Line.world_left
        (show 0 < n + 1 by omega) (fun v hv => ihop (show 0 < n + 1 by omega) (hv ▸ ho) hfs) ho hset
        hl hhs
      -- The scope is not the last one, so what follows it is on the same line.
      have hleave := l₂.world_leave (μ := μ) (b := b) config epoch hn d
      obtain ⟨rfl, rfl⟩ := Prod.ext_iff.mp (hl.symm.trans hleave)
      obtain ⟨l', hnext⟩ := ih _ hn hrun hrest
      rw [l₁.close_nested hn s] at hclose
      exact ⟨l', by simp only [linear, hop, hclose, hnext, Option.bind_some]⟩

end Runs

/-! An outermost scope. -/

/-- The line of an outermost scope: it begins with what waited before. -/
def Line.start (s : Session) (server : σ) : Line σ := ⟨s.database, s.pending, [], server⟩

/-- The world when the connection on which the line was sent is given up. -/
def Line.left (b : Backend σ) (l : Line σ) (config : Config) (epoch : UInt64) : World σ where
  session :=
    { config := config
      connected := false
      depth := 0
      orphans := 0
      epoch := epoch + 1
      fresh := true
      database := l.database
      pending := [] }
  server := (b.destroy l.server).2

section Outermost

variable {b : Backend σ} {w w' : World σ} {server : σ} {d : Bool} {s : Sending}
  {op : Program μ β}

theorem Session.AtRest.enter (h : w.session.AtRest)
    (hconn : b.connect w.session.config w.server = (.ok (), server)) :
    w.enter (μ := μ) b =
      (.ok (), (Line.start w.session server).world w.session.config w.session.epoch 1,
        [.connect w.session.config.url true, .opened w.session.epoch]) := by
  simp [World.enter, h.orphans, h.connected, h.depth, hconn, Line.world, Line.start]

theorem Line.world_leaveLast (l : Line σ) (config : Config) (epoch : UInt64) :
    (l.world config epoch 1).leave (μ := μ) b d epoch false =
      (l.left b config epoch, [.destroy, .closed false]) := by
  simp [World.leave, World.giveUp, Line.world, Line.left, World.put]

theorem Line.close_last (l : Line σ) (s : Sending) :
    l.close b ((1 : Nat) ≤ 1 || s = .always) = l.close b true := by
  rw [decide_eq_true (Nat.le_refl 1), Bool.true_or]

/-- Nothing waits on a line that was cut. -/
theorem Line.close_waiting {l l' : Line σ} {shaped : Shaped}
    (h : l.close b true = some (shaped, l')) : l'.waiting = [] := by
  unfold Line.close at h
  split at h
  · simp only [Line.send] at h
    split at h
    · cases h
      rfl
    · cases h
  · next hempty =>
    cases h
    simpa using hempty

/-- An outermost scope runs as its line describes. -/
theorem Session.AtRest.run_of_linear (h : w.session.AtRest) (op : Program μ β)
    (hconn : b.connect w.session.config w.server = (.ok (), server)) {v : β} {l l' : Line σ}
    {shaped : Shaped} (hop : op.linear b 1 (.start w.session server) = some (v, l))
    (hclose : l.close b true = some (shaped, l')) (d : Bool) (s : Sending) :
    ∃ es, (Program.scope d s op .done).run b w =
        ⟨.finished (.ok ⟨shaped.rows, shaped.affected, v⟩),
          l'.left b w.session.config w.session.epoch, es⟩ ∧
      Carried (.start w.session server) es l' := by
  obtain ⟨es, hrun, hes⟩ := op.run_of_linear w.session.config w.session.epoch Nat.one_pos hop
  obtain ⟨fs, hsettle, hfs⟩ := Line.world_settle l w.session.config w.session.epoch v
    ((l.close_last s).trans hclose)
  have henter := Carried.idle (μ := μ) (.start w.session server)
    [.connect w.session.config.url true, .opened w.session.epoch] (by simp [Event.fails]) rfl rfl
  have hleave := Carried.idle (μ := μ) l' [.destroy, .closed false] (by simp [Event.fails]) rfl rfl
  refine ⟨_, ?_, ((henter.trans hes).trans hfs).trans hleave⟩
  have hscope := Program.run_scope_left .done (h.enter hconn) hrun hsettle
    (l'.world_leaveLast w.session.config w.session.epoch (d := d))
  rw [hscope, Program.run, Ran.after, List.append_nil]

/-- The line describes every run of an outermost scope without failures. -/
theorem Session.AtRest.linear_of_run (h : w.session.AtRest) {r : Batched β} {es : List (Event μ)}
    (hrun : (Program.scope d s op .done).run b w = ⟨.finished (.ok r), w', es⟩)
    (hclean : ∀ e ∈ es, e.fails = false) :
    ∃ server v l shaped l', b.connect w.session.config w.server = (.ok (), server) ∧
      op.linear b 1 (.start w.session server) = some (v, l) ∧
      l.close b true = some (shaped, l') := by
  have hran := Program.run_scope b d s op .done w
  rw [hrun] at hran
  generalize hR : (⟨.finished (.ok r), w', es⟩ : Ran σ _ _) = R at hran
  cases hran with
  | refused he => cases hR
  | stopped | overrun => cases hR
  | @left w₁ w₂ w₃ w₄ r₁ r₂ es₁ fs gs hs he ho hset hl =>
    obtain ⟨rest, hdone, rfl⟩ := Ran.after_eq hR.symm
    simp only [List.mem_append, or_imp, forall_and] at hclean
    obtain ⟨⟨⟨⟨-, hfs⟩, -⟩, hhs⟩, -⟩ := hclean
    rcases hconn : b.connect w.session.config w.server with ⟨made, server⟩
    cases made with
    | error e => simp [World.enter, h.orphans, h.connected, hconn] at he
    | ok =>
      rw [h.enter hconn] at he
      cases he
      obtain ⟨v, l, shaped, l', hop, hclose, rfl, -⟩ := Line.world_left Nat.one_pos
        (fun v hv => op.linear_of_run Nat.one_pos (hv ▸ ho) hfs) ho hset hl hhs
      rw [l.close_last s] at hclose
      exact ⟨server, v, l, shaped, l', rfl, hop, hclose⟩

/-- A call of an outermost scope in which nothing fails makes one connection, and on it the requests
    into which the line of its statements is cut. The line begins with what waited before the call.
    It is cut behind each read, and the last segment is sent if there is one; the call returns what
    that brought. All statements are sent in the order in which they were queued, and only the first
    request selects a database. The same requests are sent, and the same is returned, by the
    flattened program, in which every nested batch is its operation, and every nested one that locks
    tables is the lock, its operation and the unlock. A read returns the rows of its own request. -/
theorem nested_scopes_flatten {config : Config} {past es : List (Event μ)} {p : Program μ α}
    (h : p.Passes b ⟨.start config, server⟩ past .operating w) (hopen : openScopes past = [])
    (d : Bool) (s : Sending) (op : Program μ β) {r : Batched β}
    (hrun : (Program.scope d s op .done).run b w = ⟨.finished (.ok r), w', es⟩)
    (hclean : ∀ e ∈ es, e.fails = false) :
    (∃ (made : σ) (line last : Line σ) (shaped : Shaped),
      b.connect w.session.config w.server = (.ok (), made) ∧
      op.linear b 1 (.start w.session made) = some (r.value, line) ∧
      line.close b true = some (shaped, last) ∧
      r.rows = shaped.rows ∧ r.affected = shaped.affected ∧
      requests es = last.sent ∧ w' = last.left b w.session.config w.session.epoch) ∧
    (requests es).flatMap (·.statements) = w.session.pending ++ queuedStatements es ∧
    (∀ q ∈ (requests es).tail, q.database = none) ∧
    (op.flat 0).IsFlat ∧
    (∃ fs, (Program.scope d s (op.flat 0) .done).run b w = ⟨.finished (.ok r), w', fs⟩ ∧
      (∀ e ∈ fs, e.fails = false) ∧ requests fs = requests es ∧
      queuedStatements fs = queuedStatements es) ∧
    (∀ (γ : Type) (d : Bool) (body : Program μ γ) (n : Nat),
      (Program.batch d body).flat n =
        (body.flat (n + 1)).bind fun value => .done (.ok ⟨[], .none, value⟩)) ∧
    (∀ (γ : Type) (tables : List Table) (body : Program μ γ) (n : Nat),
      (Program.lockedBatch tables body).flat n = (do
        let lock ← Program.ofChecked (Program.lockStatement (tables.map fun t => (t, .write)))
        Program.queued lock
        let value ← body.flat (n + 1)
        Program.unlockTables
        return ⟨[], .none, value⟩)) ∧
    (∀ (γ : Type) (d : Bool) (body : Program μ γ) (n : Nat) (l : Line σ),
      (Program.batch d body).linear b n l =
        (body.linear b (n + 1) l).map fun (value, l) => (⟨[], .none, value⟩, l)) ∧
    ∀ (d : Bool) (st : Statement) (n : Nat) (l : Line σ),
      (Program.read (μ := μ) d st).linear b n l =
        ((l.queue st).send b).map fun (shaped, l) => (shaped.rows, l) := by
  have hr := h.reached
  have hrest := hr.atRest hopen
  obtain ⟨made, v, line, shaped, last, hconn, hop, hclose⟩ := hrest.linear_of_run hrun hclean
  obtain ⟨_, hrun', hes⟩ := hrest.run_of_linear op hconn hop hclose d s
  rw [hrun] at hrun'
  cases hrun'
  have hflat : (op.flat 0).linear b 1 (.start w.session made) = some (v, line) := by
    rw [Program.linear_flat, hop]
  obtain ⟨fs, hrun', hfs⟩ := hrest.run_of_linear (op.flat 0) hconn hflat hclose d s
  have hsent : requests es = last.sent := by simpa [Line.start] using hes.sent.symm
  have hsent' : requests fs = last.sent := by simpa [Line.start] using hfs.sent.symm
  have hlast : last.waiting = [] := Line.close_waiting hclose
  have hline : w.session.pending ++ queuedStatements es = last.sent.flatMap (·.statements) := by
    simpa [Line.start, hlast, hsent] using hes.waiting
  have hline' : w.session.pending ++ queuedStatements fs = last.sent.flatMap (·.statements) := by
    simpa [Line.start, hlast, hsent'] using hfs.waiting
  refine ⟨⟨made, line, last, shaped, hconn, hop, hclose, rfl, rfl, hsent, rfl⟩, ?_, ?_,
    Program.isFlat_flat op 0, ⟨fs, hrun', hfs.clean, hsent'.trans hsent.symm, ?_⟩,
    fun γ d body n => rfl, fun γ tables body n => Program.flat_lockedBatch tables body n,
    fun γ d body n l => Program.linear_batch b d body n l,
    fun d st n l => Program.linear_read b d st n l⟩
  · rw [hsent, hline]
  · rw [hsent]
    exact hes.selects (by simp [Line.start])
  · exact List.append_cancel_left (hline'.trans hline.symm)

end Outermost

/-- A table with one column. -/
def keyTable : Table where
  name := "keys"
  columns := [⟨"key", "keys", .int, .primaryKey, by decide, by decide⟩]
  named := by decide
  nonempty := by decide
  formed := ⟨by decide, by decide, by decide⟩

/-- A batch that locks a table, a batch and a read in it, and behind them another database. -/
def nested : Program Unit (List Row) := do
  Program.queued (.createDatabase "b")
  let inner ← Program.lockedBatch [keyTable] do
    let read ← Program.batch false do
      Program.queued (.createDatabase "c")
      Program.read false (.createDatabase "d")
    Program.use "other"
    Program.queued (.createDatabase "e")
    return read.value
  return inner.value

/-- A server that answers the first request with a row. -/
def rowServer : Script := ⟨[], [], [⟨[.row ⟨["n"], [.null]⟩], none⟩]⟩

/-- The read cuts the line once, behind all that was queued before it, and the rest is sent at the
    end. The row that the read brought is handed out through the scopes around it. -/
theorem nested_scopes_flatten_nested :
    ∃ (es : List (Event Unit)) (w' : World Script) (r : Batched (List Row)),
      (Program.scope false .outermost nested .done).run (Script.backend .generic)
        ⟨(Session.start ⟨"mock://localhost/app", some "app"⟩).queue (.createDatabase "a"),
          rowServer⟩ = ⟨.finished (.ok r), w', es⟩ ∧
      requests es =
        [⟨some "app", [.createDatabase "a", .createDatabase "b", .lockTables [(keyTable, .write)],
          .createDatabase "c", .createDatabase "d"]⟩,
        ⟨none, [.use "other", .createDatabase "e", .unlockTables]⟩] ∧
      r.rows = [] ∧ r.value = [⟨["n"], [.null]⟩] ∧
      ∃ fs, (Program.scope false .outermost (nested.flat 0) .done).run (Script.backend .generic)
          ⟨(Session.start ⟨"mock://localhost/app", some "app"⟩).queue (.createDatabase "a"),
            rowServer⟩ = ⟨.finished (.ok r), w', fs⟩ ∧
        requests fs = requests es := by
  have hpast : Program.Passes (Script.backend .generic)
      (Program.queued (μ := Unit) (.createDatabase "a"))
      ⟨.start ⟨"mock://localhost/app", some "app"⟩, rowServer⟩ _ .operating _ :=
    .queue (.here _ _)
  have hrest : ((Session.start ⟨"mock://localhost/app", some "app"⟩).queue
      (.createDatabase "a")).AtRest := ⟨rfl, rfl, rfl, rfl⟩
  obtain ⟨es, hrun, hes⟩ := Session.AtRest.run_of_linear (b := Script.backend .generic)
    (w := ⟨_, rowServer⟩) hrest nested rfl rfl rfl false .outermost
  obtain ⟨-, -, -, -, ⟨fs, hflat, -, hreq, -⟩, -⟩ :=
    nested_scopes_flatten hpast rfl false .outermost nested hrun hes.clean
  exact ⟨es, _, _, hrun, hes.sent.symm, rfl, rfl, fs, hflat, hreq⟩

end SqlBatch
