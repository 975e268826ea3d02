import SqlBatch.Proofs.Session.Channel
import SqlBatch.Proofs.Session.Client
import SqlBatch.Proofs.Session.Flattening
/- Batches that lock tables. The lock and the unlock are statements like all others: they wait with
   them, and a scope that fails drops them with whatever else waits.
     1. `locked_statements_follow_lock`: what the operation of such a batch queues is received
        behind the lock, on the same connection, unless one of its scopes failed before the lock
        was sent.
     2. `unlock_precedes_later_statements`: what is queued when the batch has returned is received
        behind the unlock, unless a scope fails before the unlock is sent. -/
namespace SqlBatch

variable {σ μ α β : Type}

/-- The statement that a batch begins with which locks tables. -/
def writeLock (tables : List Table) : Statement := .lockTables (tables.map fun t => (t, .write))

namespace Program

/-- What runs in the scope of a batch that locks tables. -/
def locked (tables : List Table) (op : Program μ β) : Program μ β :=
  .queue (writeLock tables) (op.bind fun value => .queue .unlockTables (.done (.ok value)))

variable {b : Backend σ} {tables : List Table} {op : Program μ β}

theorem lockedBatch_eq (h : tables ≠ []) (op : Program μ β) :
    lockedBatch tables op = .scope true .outermost (locked tables op) .done := by
  have hlock : lockStatement (tables.map fun t => (t, .write)) = .ok (writeLock tables) := by
    simp [lockStatement, h, writeLock]
  simp only [lockedBatch, hlock]
  rfl

theorem lockedBatch_nil (op : Program μ β) :
    lockedBatch [] op = .done (.error (.argument .noLocks)) := rfl

/-- The log of a program that goes on begins with the log of its first part. -/
theorem prefix_run_bind (p : Program μ α) (f : α → Program μ β) (w : World σ) :
    (p.run b w).events <+: ((p.bind f).run b w).events := by
  rw [run_bind, Ran.andThen]
  split
  · exact List.prefix_append _ _
  · exact List.prefix_rfl
  · exact List.prefix_rfl

/-- To go on whatever comes of a program changes nothing in it. -/
theorem run_attempt_events (b : Backend σ) (p : Program μ α) (w : World σ) :
    (p.attempt.run b w).events = (p.run b w).events := by
  induction p generalizing w with
  | done r => rfl
  | abort => rfl
  | queue st next ih => simp only [attempt, run, Ran.after, ih]
  | useDatabase db next ih => simp only [attempt, run, Ran.after, ih]
  | observe next ih => simp only [attempt, run, ih]
  | mark m next ih => simp only [attempt, run, Ran.after, ih]
  | scope d s op next _ ih =>
    simp only [attempt, run]
    split
    · simp only [Ran.after, ih]
    · split
      · rfl
      · split
        · rfl
        · simp only [Ran.after, ih]

end Program

section Calls

variable {b : Backend σ} {config : Config} {server : σ} {p : Program μ α} {op : Program μ β}
  {tables : List Table} {past es log : List (Event μ)} {w w₁ w' : World σ} {g : Stage}

/-- The log of a call is part of the log of the run. -/
theorem Program.Calls.isPrefix_call (h : p.Calls b w' past op w) :
    past ++ (op.run b w).events <+: (p.run b w').events := by
  obtain ⟨γ, next, hcomes⟩ := h
  refine List.IsPrefix.trans ?_ hcomes.isPrefix
  rw [List.prefix_append_right_inj, ← run_attempt_events]
  exact prefix_run_bind op.attempt next w

/-- The lock and what the operation does stand one after the other in the log of the run. -/
theorem Program.Calls.isPrefix_locked (h : p.Calls b w' past (lockedBatch tables op) w)
    (htables : tables ≠ []) (he : w.enter b = (.ok (), w₁, es)) :
    past ++ es ++ [Event.queued (writeLock tables) w₁.session.database] ++
      (op.run b (w₁.put (w₁.session.queue (writeLock tables)))).events <+: (p.run b w').events := by
  refine List.IsPrefix.trans ?_ h.isPrefix_call
  rw [lockedBatch_eq htables, List.append_assoc, List.append_assoc, List.prefix_append_right_inj]
  refine List.IsPrefix.trans ?_ (prefix_run_scope true .outermost _ he)
  rw [List.prefix_append_right_inj]
  exact (List.prefix_append_right_inj [_]).mpr (prefix_run_bind op _ _)

/-- When the lock has been queued a scope is open, and the lock waits. -/
theorem lock_waits (tables : List Table) (past : List (Event μ)) (he : w.enter b = (.ok (), w₁, es)) :
    openScopes (past ++ es ++ [Event.queued (writeLock tables) w₁.session.database]) ≠ [] ∧
    (channel (past ++ es ++ [Event.queued (writeLock tables) w₁.session.database])).queued =
      (queuedStatements past).length + 1 ∧
    ⟨(queuedStatements past).length, writeLock tables, w₁.session.database⟩ ∈
      (channel (past ++ es ++ [Event.queued (writeLock tables) w₁.session.database])).waiting := by
  have hqueued : (channel (past ++ es)).queued = (queuedStatements past).length := by
    rw [queued_channel_append, queued_channel]
    rcases enter_log he with rfl | rfl <;> rfl
  refine ⟨?_, ?_, ?_⟩
  · rw [openScopes_append, (enter_opened past he).2]
    simp [opensAfter]
  · rw [channel_concat, ← hqueued]
    rfl
  · rw [channel_concat, ← hqueued]
    exact List.mem_append_right _ (List.mem_singleton.mpr rfl)

/-- No connection is made while a scope is open. -/
theorem Reached.no_connect_while {before fs : List (Event μ)}
    (h : Reached b config server past g w) (hp : before ++ fs <+: past)
    (hopen : ∀ l, l <+: fs → openScopes (before ++ l) ≠ []) : ∀ e ∈ fs, e.connects = false := by
  intro e he
  cases e with
  | connect url made =>
    cases made with
    | false => rfl
    | true =>
      exfalso
      obtain ⟨front, back, rfl⟩ := List.append_of_mem he
      obtain ⟨after, rfl⟩ := hp
      have hsplit : before ++ (front ++ Event.connect url true :: back) ++ after =
          before ++ front ++ Event.connect url true :: (back ++ after) := by simp
      exact hopen front (List.prefix_append _ _) (h.connect_alone hsplit)
  | _ => rfl

/-- What the operation of a batch that locks tables has queued, and the connection has received, is
    received behind the lock, unless one of the scopes in the operation fails while the lock still
    waits, and it is queued after that. -/
theorem locked_statements_follow_lock
    (hcall : p.Calls b ⟨.start config, server⟩ past (Program.lockedBatch tables op) w)
    (htables : tables ≠ []) (hentered : w.enter b = (.ok (), w₁, es)) {ran : Ran σ μ β}
    (hran : op.run b (w₁.put (w₁.session.queue (writeLock tables))) = ran)
    (hlog : p.Passes b ⟨.start config, server⟩ log g w') :
    past ++ es ++ [.queued (writeLock tables) w₁.session.database] ++ ran.events <+:
      (p.run b ⟨.start config, server⟩).events ∧
    log <+: (p.run b ⟨.start config, server⟩).events ∧
    (channel log).received.map (·.statement) = (lastRequests log).flatMap (·.statements) ∧
    ∀ x ∈ (channel log).received, (queuedStatements past).length < x.number →
      x.number ≤ (queuedStatements past).length + (queuedStatements ran.events).length →
      (∃ y, y.number = (queuedStatements past).length ∧ y.statement = writeLock tables ∧
        [y, x].Sublist (channel log).received) ∨
      ∃ front e back, ran.events = front ++ e :: back ∧ (∀ f ∈ front, f.empties = false) ∧
        e.fails = true ∧
        (queuedStatements past).length + (queuedStatements front).length < x.number := by
  have hplace := hcall.isPrefix_locked htables hentered
  rw [hran] at hplace
  have hr := hlog.reached
  refine ⟨hplace, hlog.isPrefix, hr.received_eq, fun x hx hlo hhi => ?_⟩
  obtain ⟨hopen, hqueued, hwait⟩ := lock_waits tables past hentered
  generalize past ++ es ++ [.queued (writeLock tables) w₁.session.database] = start at *
  have hkeeps : KeepsOpen ran.events := by
    rw [← hran]
    exact op.keepsOpen_run b _
  have hbelow := (numbered_channel log).below x (List.mem_append_left _ hx)
  -- The log goes on behind the lock, at least up to where the statement was queued.
  obtain ⟨own, rest, rfl, hown, hqueuedx⟩ : ∃ own rest, log = start ++ (own ++ rest) ∧
      own <+: ran.events ∧ x.number < (channel (start ++ own)).queued := by
    rcases List.prefix_or_prefix_of_prefix hlog.isPrefix hplace with hle | ⟨rest, rfl⟩
    · rcases KeepsOpen.prefix_cases hle with ⟨rest, hstart⟩ | ⟨own, rfl, hown⟩
      · have hmono := queued_channel_le log rest
        rw [hstart] at hmono
        omega
      · exact ⟨own, [], by simp, hown, hbelow⟩
    · refine ⟨ran.events, rest, List.append_assoc .., List.prefix_rfl, ?_⟩
      rw [queued_channel_append, hqueued]
      omega
  have hnew : ∀ e ∈ own ++ rest, e.connects = false := by
    intro e he
    rcases List.mem_append.mp he with he | he
    · have hp : start ++ own <+: start ++ (own ++ rest) := by
        rw [← List.append_assoc]
        exact List.prefix_append _ _
      refine hr.no_connect_while hp (fun l hl => ?_) e he
      exact hkeeps.openScopes_ne_nil hopen (hl.trans hown)
    · exact hr.no_connect_after (List.append_assoc start own rest).symm
        (hkeeps.openScopes_ne_nil hopen hown) (List.mem_append_left _ hx) hqueuedx e he
  rcases received_behind hnew hwait hx hlo with hbehind | ⟨front, e, back, hsplit, hfront, he, hle⟩
  · exact .inl ⟨_, rfl, rfl, hbehind⟩
  · right
    rcases mem_split hsplit with ⟨back', rfl⟩ | ⟨front', rfl, -⟩
    · obtain ⟨more, hmore⟩ := hown
      refine ⟨front, e, back' ++ more, by rw [← hmore]; simp, hfront, he, ?_⟩
      rw [queued_channel_append, hqueued] at hle
      omega
    · -- The scope would have failed after the statement was queued.
      have hmono := queued_channel_le (start ++ own) front'
      rw [List.append_assoc] at hmono
      omega

end Calls

/-- A session that did nothing yet, with a server for which no answers are laid down. -/
def untouched : World Script := ⟨.start ⟨"mock://localhost/app", some "app"⟩, ⟨[], [], []⟩⟩

/-- Rows are read. -/
def reading (next : Program Unit Unit) : Program Unit Unit :=
  .scope false .always (.queue (.select { table := keyTable }) (.done (.ok ()))) fun _ => next

theorem written_reading {next : Program Unit Unit} (h : next.Written) : (reading next).Written :=
  .call (.select { table := keyTable }) fun _ => h

/-- Rows are deleted. -/
def truncating : Program Unit Unit := .queue (.truncate keyTable) (.done (.ok ()))

theorem written_truncating : truncating.Written := Program.written_call (.truncate keyTable)

/-- A nested batch fails, and its failure is swallowed. -/
def failing (next : Program Unit Unit) : Program Unit Unit :=
  .scope false .outermost (.done (α := Unit) (.error .orphanedScope)) fun _ => next

theorem written_failing {next : Program Unit Unit} (h : next.Written) : (failing next).Written :=
  .batch false (.done (α := Unit) (.error .orphanedScope)) fun _ => h

/-- A batch locks a table, whatever comes of it. -/
def locking (op next : Program Unit Unit) : Program Unit Unit :=
  (Program.lockedBatch [keyTable] op).attempt.bind fun _ => next

theorem locking_eq (op next : Program Unit Unit) :
    locking op next = .scope true .outermost (.locked [keyTable] op) fun _ => next := rfl

/-- The rows are deleted behind the lock, which the read has sent before. -/
theorem locked_statements_follow_lock_reading :
    ∃ log w', (locking (reading truncating) (.done (.ok ()))).Passes (Script.backend .generic)
        untouched log .operating w' ∧
      ∃ y x, y.number = 0 ∧ y.statement = writeLock [keyTable] ∧
        x.statement = .truncate keyTable ∧ [y, x].Sublist (channel log).received := by
  have hcall : (locking (reading truncating) (.done (.ok ()))).Calls (Script.backend .generic)
      untouched [] (Program.lockedBatch [keyTable] (reading truncating)) untouched :=
    ⟨_, _, .here _ _⟩
  have hop : (reading truncating).run (Script.backend .generic)
      ⟨{ untouched.session with
          connected := true, depth := 1, pending := [writeLock [keyTable]] }, ⟨[], [], []⟩⟩ =
      ⟨.finished (.ok ()),
        ⟨{ untouched.session with
            connected := true, depth := 1, fresh := false, pending := [.truncate keyTable] },
          ⟨[], [], []⟩⟩,
        [.opened 0, .queued (.select { table := keyTable }) (some "app"),
          .run ⟨some "app", [writeLock [keyTable], .select { table := keyTable }]⟩ true,
          .closed false, .queued (.truncate keyTable) (some "app")]⟩ := by
    simp only [reading, truncating, Program.run]
    rfl
  have hrun : (locking (reading truncating) (.done (.ok ()))).run (Script.backend .generic)
      untouched =
      ⟨.finished (.ok ()), ⟨{ untouched.session with epoch := 1 }, ⟨[], [], []⟩⟩,
        [.connect "mock://localhost/app" true, .opened 0,
          .queued (writeLock [keyTable]) (some "app"), .opened 0,
          .queued (.select { table := keyTable }) (some "app"),
          .run ⟨some "app", [writeLock [keyTable], .select { table := keyTable }]⟩ true,
          .closed false, .queued (.truncate keyTable) (some "app"),
          .queued .unlockTables (some "app"),
          .run ⟨none, [.truncate keyTable, .unlockTables]⟩ true, .destroy, .closed false]⟩ := by
    simp only [locking_eq, reading, truncating, Program.locked, Program.bind, Program.run]
    rfl
  have hlog := (locking (reading truncating) (.done (.ok ()))).passes_end
    (Script.backend .generic) untouched (r := .ok ()) (by rw [hrun])
  rw [hrun] at hlog
  obtain ⟨-, -, -, hall⟩ :=
    locked_statements_follow_lock hcall (List.cons_ne_nil _ _) rfl hop hlog
  rcases hall ⟨2, .truncate keyTable, some "app"⟩ (.tail _ (.tail _ (.head _))) (by decide)
    (by decide) with ⟨y, hnumber, hlock, hsub⟩ | ⟨front, e, back, hsplit, -, he, -⟩
  · exact ⟨_, _, hlog, y, _, hnumber, hlock, rfl, hsub⟩
  · have hnone : ∀ f ∈ front ++ e :: back, f.fails = false := by
      rw [← hsplit]
      decide
    rw [hnone e (by simp)] at he
    cases he

/-- A nested batch that fails drops the lock, and what the operation queues after it is received
    without. -/
theorem received_without_lock :
    ∃ log w', (locking (failing truncating) (.done (.ok ()))).Passes (Script.backend .generic)
        untouched log .operating w' ∧
      log = [.connect "mock://localhost/app" true, .opened 0,
        .queued (writeLock [keyTable]) (some "app"), .opened 0, .closed true,
        .queued (.truncate keyTable) (some "app"), .queued .unlockTables (some "app"),
        .run ⟨some "app", [.truncate keyTable, .unlockTables]⟩ true, .destroy, .closed false] ∧
      (channel log).received.map (·.statement) = [.truncate keyTable, .unlockTables] := by
  have hrun : (locking (failing truncating) (.done (.ok ()))).run (Script.backend .generic)
      untouched =
      ⟨.finished (.ok ()), ⟨{ untouched.session with epoch := 1 }, ⟨[], [], []⟩⟩,
        [.connect "mock://localhost/app" true, .opened 0,
          .queued (writeLock [keyTable]) (some "app"), .opened 0, .closed true,
          .queued (.truncate keyTable) (some "app"), .queued .unlockTables (some "app"),
          .run ⟨some "app", [.truncate keyTable, .unlockTables]⟩ true, .destroy,
          .closed false]⟩ := by
    simp only [locking_eq, failing, truncating, Program.locked, Program.bind, Program.run]
    rfl
  have hlog := (locking (failing truncating) (.done (.ok ()))).passes_end
    (Script.backend .generic) untouched (r := .ok ()) (by rw [hrun])
  rw [hrun] at hlog
  exact ⟨_, _, hlog, rfl, rfl⟩

/-! What is queued when the batch has returned. -/

section Returned

variable {b : Backend σ} {config : Config} {server : σ} {p : Program μ α} {op : Program μ β}
  {tables : List Table} {past es log : List (Event μ)} {w w₁ w' : World σ} {g : Stage}

/-- A scope that settles queues nothing, and fails in nothing that its log says. -/
theorem settle_quiet {s : Sending} {r : Except Failure β} {o : Outcome (Batched β)}
    (h : w.settle b s r = (o, w₁, es)) :
    (∀ e ∈ es, e.fails = false) ∧ queuedStatements es = [] := by
  refine ⟨?_, queuedStatements_settle h⟩
  rcases settle_log h with rfl | ⟨-, done, rfl⟩
  · simp
  · simp [Event.fails]

/-- Nor does a scope that is left without a failure. -/
theorem leave_quiet {d : Bool} {epoch : UInt64} (h : w.leave b d epoch false = (w₁, es)) :
    (∀ e ∈ es, e.fails = false) ∧ queuedStatements es = [] := by
  refine ⟨?_, queuedStatements_leave h⟩
  cases leave_step [] h with
  | leaveOrphan => simp [Event.fails]
  | leaveShared => simp [Event.fails]
  | leaveLast => split <;> simp [Event.fails]

/-- The log of a batch that locks tables and succeeds: when its operation has ended it queues the
    unlock, and after that at most sends a request and is left. -/
theorem Program.lockedBatch_log {r : Batched β}
    (h : (lockedBatch tables op).run b w = ⟨.finished (.ok r), w', log⟩) :
    ∃ w₁ es body db tail, w.enter (μ := μ) b = (.ok (), w₁, es) ∧
      log = es ++ [Event.queued (writeLock tables) w₁.session.database] ++ body ++
        Event.queued .unlockTables db :: tail ∧
      KeepsOpen body ∧ (∀ e ∈ tail, e.fails = false) ∧ queuedStatements tail = [] := by
  have htables : tables ≠ [] := by
    rintro rfl
    rw [lockedBatch_nil] at h
    cases h
  rw [lockedBatch_eq htables] at h
  have hran := run_scope b true .outermost (locked tables op) .done w
  rw [h] at hran
  generalize hR : (⟨.finished (.ok r), w', log⟩ : Ran σ _ _) = R at hran
  cases hran with
  | refused he => cases hR
  | stopped | overrun => cases hR
  | @left w₁ w₂ w₃ w₄ r₁ r₂ es fs gs hs he ho hset hl =>
    simp only [run, Ran.after, List.append_nil, Ran.mk.injEq, Outcome.finished.injEq] at hR
    obtain ⟨rfl, rfl, rfl⟩ := hR
    cases r₁ with
    | error e => cases hset
    | ok value =>
      simp only [locked, run, run_bind] at ho
      obtain ⟨fs', hop, rfl⟩ := Ran.after_eq ho
      rcases hbody : op.run b (w₁.put (w₁.session.queue (writeLock tables))) with ⟨o, w₅, body⟩
      have hkeeps : KeepsOpen body := by
        have := op.keepsOpen_run b (w₁.put (w₁.session.queue (writeLock tables)))
        rwa [hbody] at this
      rw [hbody] at hop
      cases o with
      | aborted => cases hop
      | finished q =>
        cases q with
        | error e => cases hop
        | ok value' =>
          simp only [Ran.andThen, Ran.after, Ran.mk.injEq] at hop
          obtain ⟨-, -, rfl⟩ := hop
          obtain ⟨hgs, hgs'⟩ := settle_quiet hset
          obtain ⟨hhs, hhs'⟩ := leave_quiet hl
          refine ⟨w₁, es, body, w₅.session.database, gs ++ hs, he, by simp, hkeeps, ?_, ?_⟩
          · intro e he
            rcases List.mem_append.mp he with he | he
            · exact hgs e he
            · exact hhs e he
          · rw [queuedStatements_append, hgs', hhs']
            rfl

/-- When the operation of such a batch has ended the unlock waits, and the scope is still open. -/
theorem Program.lockedBatch_waits {r : Batched β} (past : List (Event μ))
    (h : (lockedBatch tables op).run b w = ⟨.finished (.ok r), w', es⟩) :
    ∃ front tail, es = front ++ tail ∧ openScopes (past ++ front) ≠ [] ∧
      (queuedStatements (past ++ front))[(queuedStatements past).length]? =
        some (writeLock tables) ∧
      (∃ v ∈ (channel (past ++ front)).waiting,
        v.number + 1 = (queuedStatements (past ++ es)).length ∧ v.statement = .unlockTables) ∧
      (∀ e ∈ tail, e.fails = false) ∧ queuedStatements tail = [] := by
  obtain ⟨w₁, entered, body, db, tail, hentered, rfl, hkeeps, hclean, hnone⟩ := lockedBatch_log h
  obtain ⟨hopen, -, hwait⟩ := lock_waits tables past hentered
  have hlock := statement_of_number _ _ (List.mem_append_right _ hwait)
  have hkeeps' : KeepsOpen (body ++ [Event.queued (μ := μ) .unlockTables db]) :=
    hkeeps.append (.of_not_closes (by simp [Event.closes]))
  have hopen' := hkeeps'.openScopes_ne_nil hopen List.prefix_rfl
  have hfront : past ++ (entered ++ [Event.queued (writeLock tables) w₁.session.database] ++ body ++
        [Event.queued .unlockTables db]) =
      past ++ entered ++ [Event.queued (writeLock tables) w₁.session.database] ++
        (body ++ [Event.queued .unlockTables db]) := by simp
  refine ⟨_, tail, List.append_cons .., ?_, ?_, ?_, hclean, hnone⟩
  · rw [hfront]
    exact hopen'
  · rw [hfront, queuedStatements_append, List.getElem?_append_left]
    · exact hlock
    · exact (List.getElem?_eq_some_iff.mp hlock).1
  · -- The unlock is the last statement that the call queues.
    have hall : (queuedStatements (past ++ (entered ++
          [Event.queued (writeLock tables) w₁.session.database] ++ body ++
            Event.queued .unlockTables db :: tail))).length =
        (channel (past ++ (entered ++
          [Event.queued (writeLock tables) w₁.session.database] ++ body ++
            [Event.queued .unlockTables db]))).queued := by
      rw [List.append_cons, ← List.append_assoc past, queuedStatements_append, hnone,
        List.append_nil, queued_channel]
    rw [hall, ← List.append_assoc, channel_concat]
    exact ⟨_, List.mem_append_right _ (List.mem_singleton.mpr rfl), rfl, rfl⟩

/-- A log without requests, as far as the queue is not emptied. -/
theorem requests_of_not_empties (h : ∀ e ∈ es, e.empties = false) : requests es = [] := by
  refine List.filterMap_eq_nil_iff.mpr fun e he => ?_
  have hne := h e he
  cases e <;> first | rfl | cases hne

/-- When a batch that locks tables has returned without a failure, and the connection has received
    its lock, then what was queued since is received behind its unlock. Or nothing was sent since
    the return, or a scope failed while the unlock waited. With no scope open the connection is
    gone. -/
theorem unlock_precedes_later_statements {r : Batched β} {rest : List (Event μ)}
    (hcall : p.Calls b ⟨.start config, server⟩ past (Program.lockedBatch tables op) w)
    (hok : (Program.lockedBatch tables op).run b w = ⟨.finished (.ok r), w₁, es⟩)
    (hlog : p.Passes b ⟨.start config, server⟩ (past ++ es ++ rest) g w')
    (hsent : ∃ y ∈ (channel (past ++ es ++ rest)).received,
      y.number = (queuedStatements past).length) :
    past ++ es <+: (p.run b ⟨.start config, server⟩).events ∧
    (channel (past ++ es ++ rest)).received.map (·.statement) =
      (lastRequests (past ++ es ++ rest)).flatMap (·.statements) ∧
    (queuedStatements (past ++ es))[(queuedStatements past).length]? =
      some (writeLock tables) ∧
    (openScopes (past ++ es ++ rest) = [] → w'.session.connected = false) ∧
    ((∃ v ∈ (channel (past ++ es ++ rest)).received,
        v.number + 1 = (queuedStatements (past ++ es)).length ∧ v.statement = .unlockTables ∧
        ∀ x ∈ (channel (past ++ es ++ rest)).received, v.number < x.number →
          [v, x].Sublist (channel (past ++ es ++ rest)).received) ∨
      requests rest = [] ∨
      ∃ front e back, rest = front ++ e :: back ∧ (∀ f ∈ front, f.empties = false) ∧
        e.fails = true ∧ requests back ≠ []) := by
  have hr := hlog.reached
  have hplace := hcall.isPrefix_call
  rw [hok] at hplace
  obtain ⟨front, tail, rfl, hopen, hlock, ⟨v, hv, hlast, hunlock⟩, hclean, -⟩ :=
    Program.lockedBatch_waits past hok
  have hfirst := (List.getElem?_eq_some_iff.mp hlock).1
  refine ⟨hplace, hr.received_eq, ?_, fun ho => (hr.atRest ho).connected, ?_⟩
  · rw [← List.append_assoc, queuedStatements_append, List.getElem?_append_left hfirst]
    exact hlock
  obtain ⟨y, hy, hnumber⟩ := hsent
  have hlt : y.number < (channel (past ++ front)).queued := by
    rw [hnumber, queued_channel]
    exact hfirst
  have hsplit : past ++ (front ++ tail) ++ rest = past ++ front ++ (tail ++ rest) := by simp
  rw [hsplit] at hr hy ⊢
  have hnew := hr.no_connect_after rfl hopen (List.mem_append_left _ hy) hlt
  rcases fate_of_waiting hnew hv with ⟨hkept, -⟩ | hreceived |
    ⟨before, e, after, hrest, hbefore, he, -⟩
  · exact .inr (.inl (requests_of_not_empties fun e he => hkept e (List.mem_append_right _ he)))
  · exact .inl ⟨v, hreceived, hlast, hunlock,
      fun x hx hlt => (numbered_channel _).received_in_order hreceived hx hlt⟩
  · -- The call itself has not failed, so that the scope that failed was left after it.
    have hnot : e ∉ tail := by
      intro hmem
      have := hclean e hmem
      rw [he] at this
      cases this
    obtain ⟨mid, rfl, rfl⟩ := mem_split_of_not_mem hrest hnot
    have hmid : ∀ f ∈ mid, f.empties = false :=
      fun f hf => hbefore f (List.mem_append_right _ hf)
    right
    by_cases hafter : requests after = []
    · left
      have hone : requests [e] = [] := by cases e <;> first | rfl | cases he
      rw [← List.singleton_append, requests_append, requests_append, hafter, hone,
        requests_of_not_empties hmid]
      rfl
    · exact .inr ⟨mid, e, after, rfl, hmid, he, hafter⟩

end Returned

/-- In a batch, another one locks a table and reads from it. -/
def lockingInside (next : Program Unit Unit) : Program Unit Unit :=
  .scope false .outermost (locking (reading (.done (.ok ()))) next) fun _ => .done (.ok ())

/-- The read sends the lock before the batch that locks returns. The unlock is sent when the batch
    around it ends, ahead of what was queued in between. -/
theorem unlock_precedes_later_statements_truncating :
    ∃ log w', (lockingInside truncating).Passes (Script.backend .generic) untouched log .operating
        w' ∧
      ∃ v x, v.number = 2 ∧ v.statement = .unlockTables ∧
        x.statement = .truncate keyTable ∧ [v, x].Sublist (channel log).received := by
  have hcall : (lockingInside truncating).Calls (Script.backend .generic) untouched _
      (Program.lockedBatch [keyTable] (reading (.done (.ok ())))) _ :=
    ⟨_, _, .inside rfl (.here _ _)⟩
  have hok : (Program.lockedBatch [keyTable] (reading (.done (.ok ())))).run
      (Script.backend .generic)
      ⟨{ untouched.session with connected := true, depth := 1 }, ⟨[], [], []⟩⟩ =
      ⟨.finished (.ok ⟨[], .none, ()⟩),
        ⟨{ untouched.session with
            connected := true, depth := 1, fresh := false, pending := [.unlockTables] },
          ⟨[], [], []⟩⟩,
        [.opened 0, .queued (writeLock [keyTable]) (some "app"), .opened 0,
          .queued (.select { table := keyTable }) (some "app"),
          .run ⟨some "app", [writeLock [keyTable], .select { table := keyTable }]⟩ true,
          .closed false, .queued .unlockTables (some "app"), .closed false]⟩ := by
    simp only [Program.lockedBatch_eq (List.cons_ne_nil keyTable []), reading, Program.locked,
      Program.bind, Program.run]
    rfl
  have hrun : (lockingInside truncating).run (Script.backend .generic) untouched =
      ⟨.finished (.ok ()), ⟨{ untouched.session with epoch := 1 }, ⟨[], [], []⟩⟩,
        [.connect "mock://localhost/app" true, .opened 0] ++
          [.opened 0, .queued (writeLock [keyTable]) (some "app"), .opened 0,
            .queued (.select { table := keyTable }) (some "app"),
            .run ⟨some "app", [writeLock [keyTable], .select { table := keyTable }]⟩ true,
            .closed false, .queued .unlockTables (some "app"), .closed false] ++
          [.queued (.truncate keyTable) (some "app"),
            .run ⟨none, [.unlockTables, .truncate keyTable]⟩ true, .destroy, .closed false]⟩ := by
    simp only [lockingInside, locking_eq, reading, truncating, Program.locked, Program.bind,
      Program.run]
    rfl
  have hlog := (lockingInside truncating).passes_end (Script.backend .generic) untouched
    (r := .ok ()) (by rw [hrun])
  rw [hrun] at hlog
  obtain ⟨-, -, -, -, hout⟩ := unlock_precedes_later_statements hcall hok hlog
    ⟨⟨0, writeLock [keyTable], some "app"⟩, .head _, rfl⟩
  rcases hout with ⟨v, -, hnumber, hunlock, hall⟩ | hnone | ⟨front, e, back, hsplit, -, he, -⟩
  · have hv : v.number = 2 := Nat.succ.inj hnumber
    refine ⟨_, _, hlog, v, ⟨3, .truncate keyTable, some "app"⟩, hv, hunlock, rfl, hall _ ?_ ?_⟩
    · exact .tail _ (.tail _ (.tail _ (.head _)))
    · rw [hv]
      decide
  · cases hnone
  · have hnone : ∀ f ∈ front ++ e :: back, f.fails = false := by
      rw [← hsplit]
      decide
    rw [hnone e (by simp)] at he
    cases he

/-- A nested batch that fails drops the unlock, and what is queued after it is received while the
    table is still locked. -/
theorem received_without_unlock :
    ∃ log w', (lockingInside (failing truncating)).Passes (Script.backend .generic) untouched log
        .operating w' ∧
      log = [.connect "mock://localhost/app" true, .opened 0,
        .opened 0, .queued (writeLock [keyTable]) (some "app"), .opened 0,
        .queued (.select { table := keyTable }) (some "app"),
        .run ⟨some "app", [writeLock [keyTable], .select { table := keyTable }]⟩ true,
        .closed false, .queued .unlockTables (some "app"), .closed false,
        .opened 0, .closed true, .queued (.truncate keyTable) (some "app"),
        .run ⟨none, [.truncate keyTable]⟩ true, .destroy, .closed false] ∧
      (channel log).received.map (·.statement) =
        [writeLock [keyTable], .select { table := keyTable }, .truncate keyTable] := by
  have hrun : (lockingInside (failing truncating)).run (Script.backend .generic) untouched =
      ⟨.finished (.ok ()), ⟨{ untouched.session with epoch := 1 }, ⟨[], [], []⟩⟩,
        [.connect "mock://localhost/app" true, .opened 0,
          .opened 0, .queued (writeLock [keyTable]) (some "app"), .opened 0,
          .queued (.select { table := keyTable }) (some "app"),
          .run ⟨some "app", [writeLock [keyTable], .select { table := keyTable }]⟩ true,
          .closed false, .queued .unlockTables (some "app"), .closed false,
          .opened 0, .closed true, .queued (.truncate keyTable) (some "app"),
          .run ⟨none, [.truncate keyTable]⟩ true, .destroy, .closed false]⟩ := by
    simp only [lockingInside, locking_eq, reading, failing, truncating, Program.locked,
      Program.bind, Program.run]
    rfl
  have hlog := (lockingInside (failing truncating)).passes_end (Script.backend .generic) untouched
    (r := .ok ()) (by rw [hrun])
  rw [hrun] at hlog
  exact ⟨_, _, hlog, rfl, rfl⟩

end SqlBatch
