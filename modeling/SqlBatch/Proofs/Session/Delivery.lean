import Mathlib.Data.List.Induction
import SqlBatch.Proofs.Session.Step
import SqlBatch.Session.Scripted
/- What becomes of the statements that are queued. The log of a run is read as a
   ledger: every statement waits when it is queued, is sent with the next request,
   and is dropped when a scope returns a failure while it waits.
     1. `Awaited.step`: every step keeps the ledger and the session in agreement.
     2. `every_statement_sent_pending_or_dropped`: at every moment of every run the
        statements that wait in the session are those that wait in the ledger, and
        the requests carried the ones that were sent, each once and in the order in
        which they were queued. So nothing is lost as long as no scope fails. -/
namespace SqlBatch

variable {σ μ α : Type}

/-- What has become of a statement that was queued. -/
inductive Fate where
  | pending
  | sent
  | dropped
  deriving DecidableEq, Repr

/-- All statements that were queued, in order, each with its fate. -/
abbrev Ledger := List (Statement × Fate)

namespace Ledger

/-- What waits meets a fate. -/
def resolve (fate : Fate) (l : Ledger) : Ledger :=
  l.map fun e => if e.2 = .pending then (e.1, fate) else e

/-- The statements that met a fate. -/
def having (fate : Fate) (l : Ledger) : List Statement :=
  (l.filter fun e => e.2 = fate).map (·.1)

/-- The statements that were not dropped. -/
def undropped (l : Ledger) : List Statement :=
  (l.filter fun e => e.2 ≠ .dropped).map (·.1)

/-- The ledger after an event. -/
def account (l : Ledger) : Event μ → Ledger
  | .queued st _ => l ++ [(st, .pending)]
  | .run .. => l.resolve .sent
  | .refused => l.resolve .dropped
  | .closed true => l.resolve .dropped
  | _ => l

end Ledger

/-- The ledger that a log is read as. -/
def ledger (past : List (Event μ)) : Ledger := past.foldl Ledger.account []

/-- All statements that were queued. -/
def queuedStatements (past : List (Event μ)) : List Statement :=
  past.filterMap fun | .queued st _ => some st | _ => none

/-- All requests that were sent. -/
def requests (past : List (Event μ)) : List Request :=
  past.filterMap fun | .run request _ => some request | _ => none

theorem ledger_append (past es : List (Event μ)) :
    ledger (past ++ es) = es.foldl Ledger.account (ledger past) := by
  simp only [ledger, List.foldl_append]

theorem requests_append (past es : List (Event μ)) :
    requests (past ++ es) = requests past ++ requests es := by
  simp only [requests, List.filterMap_append]

theorem queuedStatements_append (past es : List (Event μ)) :
    queuedStatements (past ++ es) = queuedStatements past ++ queuedStatements es := by
  simp only [queuedStatements, List.filterMap_append]

namespace Ledger

variable (l : Ledger)

/-- The fate of the statement that was queued as the given one. -/
def fate? (l : Ledger) (i : Nat) : Option Fate := l[i]?.map (·.2)

/-- A fate that a statement has after an event it had before, or it is queued by the event, or it
    waited and meets it. -/
theorem fate?_after {e : Event μ} {i : Nat} {fate : Fate}
    (h : (account l e).fate? i = some fate) :
    l.fate? i = some fate ∨ (fate = .pending ∧ l.length ≤ i) ∨
      (l.fate? i = some .pending ∧
        ((fate = .sent ∧ ∃ request done, e = .run request done) ∨
          (fate = .dropped ∧ e.fails = true))) := by
  -- What waits meets a fate, and all else keeps its own.
  have hresolve {f : Fate} (h : (l.resolve f).fate? i = some fate) :
      l.fate? i = some fate ∨ (l.fate? i = some .pending ∧ fate = f) := by
    simp only [fate?, resolve, List.getElem?_map, Option.map_map, Option.map_eq_some_iff,
      Function.comp] at h ⊢
    obtain ⟨x, hx, hf⟩ := h
    split at hf
    · next hp => exact .inr ⟨⟨x, hx, hp⟩, hf.symm⟩
    · exact .inl ⟨x, hx, hf⟩
  cases e with
  | queued st db =>
    by_cases hi : i < l.length
    · left
      simpa [fate?, account, List.getElem?_append_left hi] using h
    · right
      left
      have hle := Nat.le_of_not_lt hi
      simp only [fate?, account, List.getElem?_append_right hle, Option.map_eq_some_iff] at h
      obtain ⟨x, hx, hf⟩ := h
      rw [List.mem_singleton.mp (List.mem_of_getElem? hx)] at hf
      exact ⟨hf.symm, hle⟩
  | run request done =>
    rcases hresolve h with h | ⟨h, hf⟩
    · exact .inl h
    · exact .inr (.inr ⟨h, .inl ⟨hf, request, done, rfl⟩⟩)
  | refused =>
    rcases hresolve h with h | ⟨h, hf⟩
    · exact .inl h
    · exact .inr (.inr ⟨h, .inr ⟨hf, rfl⟩⟩)
  | closed failed =>
    cases failed with
    | true =>
      rcases hresolve h with h | ⟨h, hf⟩
      · exact .inl h
      · exact .inr (.inr ⟨h, .inr ⟨hf, rfl⟩⟩)
    | false => exact .inl h
  | _ => exact .inl h

/-- Only a scope that returns a failure drops a statement. -/
theorem fate?_account {e : Event μ} (he : e.fails = false) (i : Nat)
    (h : (account l e).fate? i = some .dropped) : l.fate? i = some .dropped := by
  rcases fate?_after l h with h | ⟨hf, -⟩ | ⟨-, ⟨hf, -⟩ | ⟨-, hfails⟩⟩
  · exact h
  · cases hf
  · cases hf
  · rw [he] at hfails
    cases hfails

theorem fate?_ne_of_having {fate : Fate} (h : l.having fate = []) (i : Nat) :
    l.fate? i ≠ some fate := by
  intro hi
  obtain ⟨x, hx, hf⟩ := Option.map_eq_some_iff.mp hi
  rw [having, List.map_eq_nil_iff, List.filter_eq_nil_iff] at h
  exact h x (List.mem_of_getElem? hx) (by simpa using hf)

theorem map_fst_resolve (fate : Fate) : (l.resolve fate).map (·.1) = l.map (·.1) := by
  simp only [resolve, List.map_map]
  refine List.map_congr_left fun e _ => ?_
  simp only [Function.comp]
  split <;> rfl

@[simp] theorem having_append (fate : Fate) (l' : Ledger) :
    having fate (l ++ l') = l.having fate ++ l'.having fate := by
  simp only [having, List.filter_append, List.map_append]

@[simp] theorem undropped_append (l' : Ledger) :
    undropped (l ++ l') = l.undropped ++ l'.undropped := by
  simp only [undropped, List.filter_append, List.map_append]

@[simp] theorem pending_resolve {fate : Fate} (h : fate ≠ .pending) :
    (l.resolve fate).having .pending = [] := by
  rw [having, List.map_eq_nil_iff, List.filter_eq_nil_iff]
  intro e he
  obtain ⟨e, -, rfl⟩ := List.mem_map.mp he
  split
  · simpa using h
  · next hp => simpa using hp

/-- A request sends what was not dropped before it, after what was sent already. -/
@[simp] theorem sent_resolve_sent : (l.resolve .sent).having .sent = l.undropped := by
  induction l with
  | nil => rfl
  | cons e l ih =>
    obtain ⟨st, f⟩ := e
    cases f <;> simp_all [resolve, having, undropped]

@[simp] theorem undropped_resolve_sent : (l.resolve .sent).undropped = l.undropped := by
  induction l with
  | nil => rfl
  | cons e l ih =>
    obtain ⟨st, f⟩ := e
    cases f <;> simp_all [resolve, undropped]

@[simp] theorem sent_resolve_dropped : (l.resolve .dropped).having .sent = l.having .sent := by
  induction l with
  | nil => rfl
  | cons e l ih =>
    obtain ⟨st, f⟩ := e
    cases f <;> simp_all [resolve, having]

@[simp] theorem undropped_resolve_dropped : (l.resolve .dropped).undropped = l.having .sent := by
  induction l with
  | nil => rfl
  | cons e l ih =>
    obtain ⟨st, f⟩ := e
    cases f <;> simp_all [resolve, having, undropped]

end Ledger

/-- The ledger of a past agrees with the requests that were sent and with what waits. -/
structure Awaited (past : List (Event μ)) (g : Stage) (s : Session) : Prop where
  sent : (ledger past).having .sent = (requests past).flatMap (·.statements)
  ordered : (ledger past).undropped =
    (ledger past).having .sent ++ (ledger past).having .pending
  /-- A scope that is left with a failure is about to drop what waits. -/
  waiting : (∀ epoch, g ≠ .leaving epoch true) → (ledger past).having .pending = s.pending
  /-- A last scope that is left without a failure has sent everything. -/
  settled : ∀ epoch, g = .leaving epoch false → s.depth ≤ 1 → s.pending = []

namespace Awaited

variable {b : Backend σ} {past es : List (Event μ)} {w w' : World σ} {g g' : Stage}

/-- A step that queues nothing, sends nothing and drops nothing. -/
theorem idle {s s' : Session} (h : Awaited past g s) (hl : ledger (past ++ es) = ledger past)
    (hreq : requests es = [])
    (hw : (∀ epoch, g' ≠ .leaving epoch true) → (ledger past).having .pending = s'.pending)
    (hset : ∀ epoch, g' = .leaving epoch false → s'.depth ≤ 1 → s'.pending = []) :
    Awaited (past ++ es) g' s' where
  sent := by rw [hl, requests_append, hreq, List.append_nil]; exact h.sent
  ordered := by rw [hl]; exact h.ordered
  waiting := by rw [hl]; exact hw
  settled := hset

/-- An idle step from one moment of an operation to the next. -/
theorem pass {s s' : Session} (h : Awaited past .operating s)
    (hl : ledger (past ++ es) = ledger past) (hreq : requests es = [])
    (hp : s'.pending = s.pending) : Awaited (past ++ es) .operating s' :=
  h.idle hl hreq (fun _ => by rw [hp]; exact h.waiting (by simp)) (fun _ he => by cases he)

theorem queue {s s' : Session} {st : Statement} {db : Option String}
    (h : Awaited past .operating s) (hp : s'.pending = s.pending ++ [st]) :
    Awaited (past ++ [.queued st db]) .operating s' := by
  have hl : ledger (past ++ [.queued st db]) = ledger past ++ [(st, .pending)] := by
    simp [ledger_append, Ledger.account]
  have hsent : Ledger.having .sent [(st, .pending)] = [] := rfl
  have hpend : Ledger.having .pending [(st, .pending)] = [st] := rfl
  have hund : Ledger.undropped [(st, .pending)] = [st] := rfl
  refine ⟨?_, ?_, fun _ => ?_, fun _ he => by cases he⟩
  · simp only [hl, Ledger.having_append, hsent, List.append_nil, requests_append]
    simpa [requests] using h.sent
  · simp only [hl, Ledger.having_append, Ledger.undropped_append, hsent, hpend, hund, h.ordered,
      List.append_nil, List.append_assoc]
  · rw [hl, Ledger.having_append, hpend, h.waiting (by simp), hp]

/-- A step that drops what waits. -/
theorem drop {s s' : Session} (h : Awaited past g s)
    (hl : ledger (past ++ es) = (ledger past).resolve .dropped)
    (hreq : requests es = []) (hp : s'.pending = []) : Awaited (past ++ es) .operating s' where
  sent := by rw [hl, requests_append, hreq, List.append_nil, Ledger.sent_resolve_dropped, h.sent]
  ordered := by simp [hl]
  waiting _ := by simp [hl, hp]
  settled _ he := by cases he

theorem send {s s' : Session} {done : Bool} {epoch : UInt64} (h : Awaited past .operating s)
    (hp : s'.pending = []) :
    Awaited (past ++ [.run s.request done]) (.leaving epoch (!done)) s' := by
  have hl : ledger (past ++ [.run s.request done]) = (ledger past).resolve .sent := by
    simp [ledger_append, Ledger.account]
  have hwait := h.waiting (by simp)
  refine ⟨?_, ?_, fun _ => by simp [hl, hp], fun _ _ _ => hp⟩
  · have hreq : requests [Event.run (μ := μ) s.request done] = [s.request] := rfl
    rw [hl, Ledger.sent_resolve_sent, h.ordered, requests_append, hreq, List.flatMap_append,
      ← h.sent, hwait, List.flatMap_singleton]
    rfl
  · rw [hl, Ledger.undropped_resolve_sent, Ledger.sent_resolve_sent,
      Ledger.pending_resolve _ (by simp), List.append_nil]

theorem step (h : Awaited past g w.session) (hs : Step b past g w es g' w') :
    Awaited (past ++ es) g' w'.session := by
  cases hs with
  | queue st => exact h.queue rfl
  | useDatabase db =>
    simp only [Session.useDatabase, World.put]
    split
    · exact h.queue rfl
    · exact h.pass (by rw [List.append_nil]) rfl rfl
  | mark m => exact h.pass (by simp [ledger_append, Ledger.account]) rfl rfl
  | refuse ho => exact h.drop (by simp [ledger_append, Ledger.account]) rfl rfl
  | miss ho hc hb => exact h.drop (by simp [ledger_append, Ledger.account]) rfl rfl
  | connect ho hc hb => exact h.pass (by simp [ledger_append, Ledger.account]) rfl rfl
  | join ho hc => exact h.pass (by simp [ledger_append, Ledger.account]) rfl rfl
  | fail ho =>
    exact h.idle (by rw [List.append_nil]) rfl (fun hne => absurd rfl (hne _))
      (fun _ he => by cases he)
  | keep ho hp =>
    exact h.idle (by rw [List.append_nil]) rfl (fun _ => h.waiting (by simp)) (fun _ _ => hp)
  | strand ho hc hp =>
    exact h.idle (by rw [List.append_nil]) rfl (fun hne => absurd rfl (hne _))
      (fun _ he => by cases he)
  | @send _ _ _ response _ ho hc hp hb =>
    rw [show response.failure.isSome = !response.failure.isNone by
      cases response.failure <;> rfl]
    exact h.send rfl
  | @leaveOrphan _ epoch failed he =>
    cases failed with
    | true => exact h.drop (by simp [ledger_append, Ledger.account]) rfl rfl
    | false =>
      exact h.idle (by simp [ledger_append, Ledger.account]) rfl (fun _ => h.waiting (by simp))
        (fun _ he => by cases he)
  | @leaveShared _ epoch failed he hd =>
    cases failed with
    | true => exact h.drop (by simp [ledger_append, Ledger.account]) rfl rfl
    | false =>
      exact h.idle (by simp [ledger_append, Ledger.account]) rfl (fun _ => h.waiting (by simp))
        (fun _ he => by cases he)
  | @leaveLast _ epoch failed he hd =>
    cases failed with
    | true =>
      exact h.drop (by split <;> simp [ledger_append, Ledger.account]) (by split <;> rfl) rfl
    | false =>
      -- The last scope sent what waited, so that giving the connection up drops nothing.
      have hnone : w.session.pending = [] := h.settled epoch rfl (by have := hd rfl; omega)
      refine h.idle (by split <;> simp [ledger_append, Ledger.account]) (by split <;> rfl)
        (fun _ => ?_) (fun _ he => by cases he)
      rw [h.waiting (by simp), hnone]

end Awaited

theorem ledger_map_fst (past : List (Event μ)) :
    (ledger past).map (·.1) = queuedStatements past := by
  induction past using List.reverseRecOn with
  | nil => rfl
  | append_singleton past e ih =>
    rw [ledger_append, queuedStatements, List.filterMap_append, ← queuedStatements, ← ih]
    cases e with
    | queued st db => simp [Ledger.account]
    | run request done => simp [Ledger.account, Ledger.map_fst_resolve]
    | refused => simp [Ledger.account, Ledger.map_fst_resolve]
    | closed failed => cases failed <;> simp [Ledger.account, Ledger.map_fst_resolve]
    | _ => simp [Ledger.account]

theorem length_ledger (past : List (Event μ)) :
    (ledger past).length = (queuedStatements past).length := by
  rw [← ledger_map_fst, List.length_map]

/-- Whatever was queued has a fate. -/
theorem exists_fate? {past : List (Event μ)} {i : Nat} (hi : i < (queuedStatements past).length) :
    ∃ fate, (ledger past).fate? i = some fate := by
  rw [← length_ledger] at hi
  exact ⟨_, by rw [Ledger.fate?, List.getElem?_eq_getElem hi]; rfl⟩

/-- A fate that a statement has at the end of a log it had before, or it was queued since, or it
    waited and met it. -/
theorem fate?_append {past es : List (Event μ)} {i : Nat} {fate : Fate}
    (h : (ledger (past ++ es)).fate? i = some fate) :
    (ledger past).fate? i = some fate ∨ (fate = .pending ∧ (ledger past).length ≤ i) ∨
      ∃ front e back, es = front ++ e :: back ∧ (ledger (past ++ front)).fate? i = some .pending ∧
        ((fate = .sent ∧ ∃ request done, e = .run request done) ∨
          (fate = .dropped ∧ e.fails = true)) := by
  induction es using List.reverseRecOn with
  | nil =>
    rw [List.append_nil] at h
    exact .inl h
  | append_singleton es e ih =>
    rw [← List.append_assoc, ledger_append] at h
    rcases Ledger.fate?_after _ h with h | ⟨hf, hle⟩ | ⟨hwait, hmeets⟩
    · rcases ih h with h | h | ⟨front, e', back, rfl, hrest⟩
      · exact .inl h
      · exact .inr (.inl h)
      · exact .inr (.inr ⟨front, e', back ++ [e], by simp, hrest⟩)
    · refine .inr (.inl ⟨hf, Nat.le_trans ?_ hle⟩)
      simp only [length_ledger, queuedStatements_append, List.length_append]
      exact Nat.le_add_right _ _
    · exact .inr (.inr ⟨es, e, [], rfl, hwait, hmeets⟩)

/-- A statement that waits now has waited since it was queued. -/
theorem fate?_pending {past : List (Event μ)} (es : List (Event μ)) {i : Nat}
    (hi : i < (queuedStatements past).length)
    (h : (ledger (past ++ es)).fate? i = some .pending) :
    (ledger past).fate? i = some .pending := by
  rcases fate?_append h with h | ⟨-, hle⟩ | ⟨_, _, _, -, -, ⟨hf, -⟩ | ⟨hf, -⟩⟩
  · exact h
  · rw [length_ledger] at hle
    omega
  · cases hf
  · cases hf

/-- As long as no scope returned a failure nothing was dropped. -/
theorem fate?_ne_dropped {past : List (Event μ)} (h : ∀ e ∈ past, e.fails = false) (i : Nat) :
    (ledger past).fate? i ≠ some .dropped := by
  induction past using List.reverseRecOn with
  | nil => simp [ledger, Ledger.fate?]
  | append_singleton past e ih =>
    intro hd
    rw [ledger_append] at hd
    refine ih (fun e he => h e (List.mem_append_left _ he)) ?_
    exact Ledger.fate?_account _ (h e (by simp)) i hd

section Runs

variable {b : Backend σ} {config : Config} {server : σ} {past es : List (Event μ)} {w w' : World σ}
  {g g' : Stage}

theorem awaited_of_reached (h : Reached b config server past g w) : Awaited past g w.session := by
  induction h with
  | start => exact ⟨rfl, rfl, fun _ => rfl, fun _ he => by cases he⟩
  | step _ hs ih => exact ih.step hs

theorem Step.of_run {pre post : List (Event μ)} {request : Request} {done : Bool}
    (h : Step b past g w (pre ++ Event.run request done :: post) g' w') :
    pre = [] ∧ g = .operating ∧ request = w.session.request := by
  generalize hes : pre ++ Event.run request done :: post = es at h
  cases h with
  | send ho hc hp hb =>
    simp [List.append_eq_cons_iff] at hes
    exact ⟨hes.1, rfl, hes.2.1.1⟩
  | useDatabase db => split at hes <;> simp [List.append_eq_cons_iff] at hes
  | leaveLast he hd =>
    split at hes <;> simp [List.append_eq_cons_iff, List.cons_eq_append_iff] at hes
  | _ => simp [List.append_eq_cons_iff, List.cons_eq_append_iff] at hes

/-- A request carries all that waited before it. -/
theorem Reached.run_carries {before after : List (Event μ)} {request : Request} {done : Bool}
    (h : Reached b config server past g w) (hp : past = before ++ Event.run request done :: after) :
    request.statements = (ledger before).having .pending := by
  obtain ⟨past₁, g₁, w₁, pre, post, g₂, w₂, hr, hs, rfl⟩ := h.caused hp
  obtain ⟨rfl, rfl, rfl⟩ := hs.of_run
  rw [List.append_nil, (awaited_of_reached hr).waiting (by simp)]
  rfl

/-- At every moment of every run each statement that was queued is sent, pending or dropped. The
    requests that brought the server where it is carried exactly the sent ones, each request all
    that was pending before it, so that each is in one request and all are in the order in which
    they were queued. The pending ones come after the sent ones, and are those that wait in the
    session unless a scope has failed and is left next. Only a scope that returned a failure has
    dropped any. -/
theorem every_statement_sent_pending_or_dropped {p : Program μ α}
    (h : p.Passes b ⟨.start config, server⟩ past g w) :
    (ledger past).map (·.1) = queuedStatements past ∧
    w.server = past.foldl (b.serve config) server ∧
    (ledger past).having .sent = (requests past).flatMap (·.statements) ∧
    (∀ before request done after, past = before ++ .run request done :: after →
      request.statements = (ledger before).having .pending) ∧
    ((∀ epoch, g ≠ .leaving epoch true) → (ledger past).having .pending = w.session.pending) ∧
    (ledger past).undropped =
      (ledger past).having .sent ++ (ledger past).having .pending ∧
    (∀ before e after i, past = before ++ e :: after →
      (ledger before).fate? i ≠ some .dropped →
      (ledger (before ++ [e])).fate? i = some .dropped → e.fails = true) ∧
    ((∀ e ∈ past, e.fails = false) → ∀ i, (ledger past).fate? i ≠ some .dropped) := by
  have hr := h.reached
  have hawait := awaited_of_reached hr
  refine ⟨ledger_map_fst past, hr.server_eq.2, hawait.sent,
    fun before request done after hp => hr.run_carries hp, hawait.waiting,
    hawait.ordered, ?_, fate?_ne_dropped⟩
  intro before e after i _ hkept hdropped
  by_contra he
  rw [ledger_append] at hdropped
  exact hkept (Ledger.fate?_account _ (by simpa using he) i hdropped)

end Runs

/-- A scope with a read in it and after that a scope that fails, and statements everywhere. -/
def interrupted : Program Unit Unit :=
  .queue (.createDatabase "a") <|
    .scope false .outermost
      (.scope false .always (.queue (.createDatabase "b") (.done (.ok ()))) fun _ =>
        .queue (.createDatabase "c") <|
          .scope false .outermost
            (.queue (.createDatabase "d") (.done (α := Unit) (.error .orphanedScope))) fun _ =>
              .queue (.createDatabase "e") (.done (.ok ())))
      fun _ => .queue (.createDatabase "f") (.done (.ok ()))

/-- A read sends what was queued before it, also around its scope. A nested scope that fails drops
    what waits since then, also what was queued around it. -/
theorem every_statement_sent_pending_or_dropped_interrupted :
    ∃ (past : List (Event Unit)) (w : World Script),
      interrupted.Passes (Script.backend .generic)
        ⟨.start ⟨"mock://localhost/app", some "app"⟩, ⟨[], [], []⟩⟩ past .operating w ∧
      ledger past =
        [(.createDatabase "a", .sent), (.createDatabase "b", .sent),
          (.createDatabase "c", .dropped), (.createDatabase "d", .dropped),
          (.createDatabase "e", .sent), (.createDatabase "f", .pending)] ∧
      (ledger past).having .pending = w.session.pending := by
  have h := interrupted.passes_end (Script.backend .generic)
    ⟨.start ⟨"mock://localhost/app", some "app"⟩, ⟨[], [], []⟩⟩ (r := .ok ())
    (by simp only [interrupted, Program.run]; rfl)
  refine ⟨_, _, h, ?_, (every_statement_sent_pending_or_dropped h).2.2.2.2.1 (by simp)⟩
  simp only [interrupted, Program.run]
  rfl

end SqlBatch
