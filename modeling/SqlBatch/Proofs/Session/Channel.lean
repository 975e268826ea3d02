import SqlBatch.Proofs.Session.Lifecycle
/- What a connection receives. The log is read as a channel: every statement gets a number when it
   is queued, waits, and is received by the connection that is there when a request is sent. A new
   connection has received nothing.
     1. `numbered_channel`: statements are received in the order in which they were queued.
     2. `fate_of_waiting`, `received_behind`: what waits goes on waiting, is received, or is dropped
        by a scope that fails, and what was queued later is not received before it.
     3. `Reached.no_connect_after`: a statement that is queued while a scope is open is received on
        no later connection.
     4. `Reached.received_eq`: what the channel says is what the requests carried. -/
namespace SqlBatch

variable {σ μ : Type}

/-- A statement that was queued. -/
structure Entry where
  /-- How many statements were queued before it. -/
  number : Nat
  statement : Statement
  /-- The database that it was meant for. -/
  meant : Option String

/-- The queue, and the connection that was made last. -/
structure Channel where
  /-- How many statements were queued. -/
  queued : Nat
  /-- The statements that wait. -/
  waiting : List Entry
  /-- The statements that the connection received. -/
  received : List Entry

namespace Channel

/-- Nothing was queued, and no connection made. -/
def empty : Channel := ⟨0, [], []⟩

/-- What the connection received, and behind it what waits. -/
def all (c : Channel) : List Entry := c.received ++ c.waiting

/-- The channel after an event. -/
def after (c : Channel) : Event μ → Channel
  | .queued st db =>
    { c with queued := c.queued + 1, waiting := c.waiting ++ [⟨c.queued, st, db⟩] }
  | .connect _ true => { c with received := [] }
  | .run .. => { c with waiting := [], received := c.all }
  | .refused => { c with waiting := [] }
  | .closed true => { c with waiting := [] }
  | _ => c

end Channel

/-- The channel that a log is read as. -/
def channel (past : List (Event μ)) : Channel := past.foldl Channel.after .empty

/-- The requests that the connection received that was made last. -/
def lastRequests (past : List (Event μ)) : List Request :=
  past.foldl (fun rs e => match e with
    | .connect _ true => []
    | .run request _ => rs ++ [request]
    | _ => rs) []

/-- Nothing waits after the event. -/
def Event.empties : Event μ → Bool
  | .run .. => true
  | e => e.fails

/-- A connection was made. -/
def Event.connects : Event μ → Bool
  | .connect _ made => made
  | _ => false

theorem channel_append (past es : List (Event μ)) :
    channel (past ++ es) = es.foldl Channel.after (channel past) := by
  simp only [channel, List.foldl_append]

@[simp] theorem channel_concat (past : List (Event μ)) (e : Event μ) :
    channel (past ++ [e]) = (channel past).after e := by
  simp only [channel_append, List.foldl_cons, List.foldl_nil]

theorem queued_channel (past : List (Event μ)) :
    (channel past).queued = (queuedStatements past).length := by
  induction past using List.reverseRecOn with
  | nil => rfl
  | append_singleton past e ih =>
    rw [channel_concat, queuedStatements, List.filterMap_append, List.length_append,
      ← queuedStatements, ← ih]
    cases e with
    | connect url made => cases made <;> rfl
    | closed failed => cases failed <;> rfl
    | _ => rfl

theorem queued_channel_append (past es : List (Event μ)) :
    (channel (past ++ es)).queued = (channel past).queued + (queuedStatements es).length := by
  simp only [queued_channel, queuedStatements, List.filterMap_append, List.length_append]

/-! The order in which statements are received. -/

/-- Every statement of the channel has a greater number than those before it. -/
structure Numbered (c : Channel) : Prop where
  sorted : c.all.Pairwise (·.number < ·.number)
  below : ∀ x ∈ c.all, x.number < c.queued

namespace Numbered

variable {c : Channel} {x y : Entry}

theorem sublist {c' : Channel} (h : Numbered c) (hall : c'.all.Sublist c.all)
    (hqueued : c.queued = c'.queued) : Numbered c' where
  sorted := h.sorted.sublist hall
  below x hx := by
    rw [← hqueued]
    exact h.below x (hall.subset hx)

theorem after (h : Numbered c) (e : Event μ) : Numbered (c.after e) := by
  -- A new statement goes to the end with the next number. All other events leave some of the
  -- statements in their order.
  have hdrop : (c.received ++ []).Sublist c.all := List.Sublist.append_left (List.nil_sublist _) _
  cases e with
  | queued st db =>
    have hall : (c.after (.queued (μ := μ) st db)).all = c.all ++ [⟨c.queued, st, db⟩] := by
      simp [Channel.after, Channel.all]
    refine ⟨?_, ?_⟩
    · rw [hall, List.pairwise_append]
      refine ⟨h.sorted, List.pairwise_singleton _ _, ?_⟩
      intro x hx y hy
      rw [List.mem_singleton.mp hy]
      exact h.below x hx
    · intro x hx
      rw [hall, List.mem_append, List.mem_singleton] at hx
      show x.number < c.queued + 1
      rcases hx with hx | rfl
      · have := h.below x hx
        omega
      · exact Nat.lt_succ_self _
  | connect url made =>
    cases made with
    | true => exact h.sublist (List.sublist_append_right _ _) rfl
    | false => exact h
  | run request done => exact h.sublist (by simp [Channel.after, Channel.all]) rfl
  | refused => exact h.sublist hdrop rfl
  | closed failed =>
    cases failed with
    | true => exact h.sublist hdrop rfl
    | false => exact h
  | _ => exact h

/-- What was received was queued before what waits. -/
theorem received_lt_waiting (h : Numbered c) (hx : x ∈ c.received) (hy : y ∈ c.waiting) :
    x.number < y.number :=
  (List.pairwise_append.mp h.sorted).2.2 x hx y hy

/-- Of two statements that were received the one that was queued first was received first. -/
theorem received_in_order (h : Numbered c) (hx : x ∈ c.received) (hy : y ∈ c.received)
    (hlt : x.number < y.number) : [x, y].Sublist c.received := by
  have hsorted := (List.pairwise_append.mp h.sorted).1
  obtain ⟨front, back, hsplit⟩ := List.append_of_mem hx
  rw [hsplit] at hy hsorted ⊢
  have hback : y ∈ back := by
    rcases List.mem_append.mp hy with hy | hy
    · have := (List.pairwise_append.mp hsorted).2.2 y hy x List.mem_cons_self
      omega
    · rcases List.mem_cons.mp hy with rfl | hy
      · omega
      · exact hy
  apply List.Sublist.trans _ (List.sublist_append_right front (x :: back))
  exact (List.singleton_sublist.mpr hback).cons_cons x

end Numbered

theorem numbered_channel (past : List (Event μ)) : Numbered (channel past) := by
  induction past using List.reverseRecOn with
  | nil => exact ⟨List.Pairwise.nil, by simp [channel, Channel.empty, Channel.all]⟩
  | append_singleton past e ih =>
    rw [channel_concat]
    exact ih.after e

/-! What becomes of a statement that waits. -/

namespace Channel

variable {c : Channel} {e : Event μ} {x : Entry}

/-- What waits has waited before, or is queued by the event. -/
theorem mem_waiting_after (h : x ∈ (c.after e).waiting) :
    x ∈ c.waiting ∨ ∃ st db, e = .queued st db ∧ x = ⟨c.queued, st, db⟩ := by
  cases e with
  | queued st db =>
    rcases List.mem_append.mp h with h | h
    · exact .inl h
    · exact .inr ⟨st, db, rfl, List.mem_singleton.mp h⟩
  | connect url made => cases made <;> exact .inl h
  | run request done => cases h
  | refused => cases h
  | closed failed =>
    cases failed with
    | true => cases h
    | false => exact .inl h
  | _ => exact .inl h

theorem mem_received_after (h : x ∈ (c.after e).received) : x ∈ c.all := by
  cases e with
  | connect url made =>
    cases made with
    | true => cases h
    | false => exact List.mem_append_left _ h
  | run request done => exact h
  | closed failed => cases failed <;> exact List.mem_append_left _ h
  | _ => exact List.mem_append_left _ h

theorem waiting_of_empties (he : e.empties = true) : (c.after e).waiting = [] := by
  cases e with
  | run request done => rfl
  | refused => rfl
  | closed failed =>
    cases failed with
    | true => rfl
    | false => cases he
  | _ => cases he

theorem mem_waiting_of_not_empties (he : e.empties = false) (h : x ∈ c.waiting) :
    x ∈ (c.after e).waiting := by
  cases e with
  | queued st db => exact List.mem_append_left _ h
  | connect url made => cases made <;> exact h
  | run request done => cases he
  | refused => cases he
  | closed failed =>
    cases failed with
    | true => cases he
    | false => exact h
  | _ => exact h

theorem mem_received_of_not_connects (he : e.connects = false) (h : x ∈ c.received) :
    x ∈ (c.after e).received := by
  cases e with
  | connect url made =>
    cases made with
    | true => cases he
    | false => exact h
  | run request done => exact List.mem_append_left _ h
  | closed failed => cases failed <;> exact h
  | _ => exact h

theorem received_of_fails (he : e.fails = true) : (c.after e).received = c.received := by
  cases e with
  | refused => rfl
  | closed failed =>
    cases failed with
    | true => rfl
    | false => cases he
  | _ => cases he

end Channel

section Fates

variable {past es : List (Event μ)} {x : Entry} {e : Event μ}

theorem queued_channel_le (past es : List (Event μ)) :
    (channel past).queued ≤ (channel (past ++ es)).queued := by
  rw [queued_channel_append]
  exact Nat.le_add_right _ _

/-- What waits has waited before, or was queued since. -/
theorem mem_waiting_append (h : x ∈ (channel (past ++ es)).waiting) :
    x ∈ (channel past).waiting ∨ (channel past).queued ≤ x.number := by
  induction es using List.reverseRecOn with
  | nil =>
    rw [List.append_nil] at h
    exact .inl h
  | append_singleton es e ih =>
    rw [← List.append_assoc, channel_concat] at h
    rcases Channel.mem_waiting_after h with h | ⟨st, db, -, rfl⟩
    · exact ih h
    · exact .inr (queued_channel_le past es)

/-- What the connection received or waits it had received before, or it waited, or was queued
    since. -/
theorem mem_all_append (h : x ∈ (channel (past ++ es)).all) :
    x ∈ (channel past).all ∨ (channel past).queued ≤ x.number := by
  induction es using List.reverseRecOn with
  | nil =>
    rw [List.append_nil] at h
    exact .inl h
  | append_singleton es e ih =>
    rw [← List.append_assoc, channel_concat] at h
    rcases List.mem_append.mp h with h | h
    · exact ih (Channel.mem_received_after h)
    · rcases Channel.mem_waiting_after h with h | ⟨st, db, -, rfl⟩
      · exact ih (List.mem_append_right _ h)
      · exact .inr (queued_channel_le past es)

/-- A statement waits as long as nothing empties the queue. -/
theorem mem_waiting_of_not_empties (hes : ∀ e ∈ es, e.empties = false)
    (h : x ∈ (channel past).waiting) : x ∈ (channel (past ++ es)).waiting := by
  rw [channel_append]
  apply List.foldlRecOn (motive := fun c => x ∈ c.waiting) es Channel.after h
  intro c hc e he
  exact Channel.mem_waiting_of_not_empties (hes e he) hc

/-- What a connection received it has received as long as no other one is made. -/
theorem mem_received_of_not_connects (hes : ∀ e ∈ es, e.connects = false)
    (h : x ∈ (channel past).received) : x ∈ (channel (past ++ es)).received := by
  rw [channel_append]
  apply List.foldlRecOn (motive := fun c => x ∈ c.received) es Channel.after h
  intro c hc e he
  exact Channel.mem_received_of_not_connects (hes e he) hc

/-- Once nothing has waited, a connection that was made after that received nothing older. -/
theorem queued_le_of_connects {before after : List (Event μ)} {url : String}
    (hnone : ∀ y ∈ (channel (past ++ before)).waiting, (channel past).queued ≤ y.number)
    (h : x ∈ (channel (past ++ (before ++ Event.connect url true :: after))).all) :
    (channel past).queued ≤ x.number := by
  have hsplit : past ++ (before ++ Event.connect url true :: after) =
      past ++ before ++ [Event.connect url true] ++ after := by simp
  rw [hsplit] at h
  rcases mem_all_append h with h | h
  · -- The connection itself has received nothing yet.
    rw [channel_concat] at h
    exact hnone x h
  · refine Nat.le_trans ?_ h
    rw [List.append_assoc]
    exact queued_channel_le _ _

/-- The queue is not emptied, or there is a first event that empties it. -/
theorem first_empties (es : List (Event μ)) :
    (∀ e ∈ es, e.empties = false) ∨ ∃ front e back, es = front ++ e :: back ∧
      (∀ f ∈ front, f.empties = false) ∧ e.empties = true := by
  induction es with
  | nil => exact .inl (by simp)
  | cons e es ih =>
    cases he : e.empties with
    | true => exact .inr ⟨[], e, es, rfl, by simp, he⟩
    | false =>
      rcases ih with h | ⟨front, e', back, rfl, hfront, he'⟩
      · refine .inl fun f hf => ?_
        rcases List.mem_cons.mp hf with rfl | hf
        · exact he
        · exact h f hf
      · refine .inr ⟨e :: front, e', back, rfl, fun f hf => ?_, he'⟩
        rcases List.mem_cons.mp hf with rfl | hf
        · exact he
        · exact hfront f hf

/-- What becomes of a statement that waits, as long as no other connection is made: it goes on
    waiting, the connection receives it, or a scope fails first. -/
theorem fate_of_waiting (hnew : ∀ e ∈ es, e.connects = false) (h : x ∈ (channel past).waiting) :
    ((∀ e ∈ es, e.empties = false) ∧ x ∈ (channel (past ++ es)).waiting) ∨
    x ∈ (channel (past ++ es)).received ∨
    ∃ front e back, es = front ++ e :: back ∧ (∀ f ∈ front, f.empties = false) ∧
      e.fails = true ∧ x ∈ (channel (past ++ front)).waiting := by
  rcases first_empties es with hes | ⟨front, e, back, rfl, hfront, he⟩
  · exact .inl ⟨hes, mem_waiting_of_not_empties hes h⟩
  · have hwait := mem_waiting_of_not_empties hfront h
    cases e with
    | run request done =>
      right
      left
      have hsent : x ∈ (channel (past ++ front ++ [Event.run request done])).received := by
        rw [channel_concat]
        exact List.mem_append_right _ hwait
      rw [List.append_cons, ← List.append_assoc, ← List.append_assoc]
      exact mem_received_of_not_connects (fun e he => hnew e (by simp [he])) hsent
    | refused => exact .inr (.inr ⟨front, _, back, rfl, hfront, he, hwait⟩)
    | closed failed => exact .inr (.inr ⟨front, _, back, rfl, hfront, he, hwait⟩)
    | _ => cases he

/-- When a scope fails all is dropped that waits, so that what is received later and was queued
    after something that was dropped was queued after the failure. -/
theorem queued_le_of_dropped {y : Entry} {back : List (Event μ)} (he : e.fails = true)
    (hy : y ∈ (channel past).waiting) (hx : x ∈ (channel (past ++ e :: back)).received)
    (hlt : y.number < x.number) : (channel past).queued ≤ x.number := by
  rw [List.append_cons] at hx
  rcases mem_all_append (List.mem_append_left _ hx) with hall | hlater
  · rw [channel_concat] at hall
    rcases List.mem_append.mp hall with hreceived | hwaiting
    · -- It would have been received before what was dropped, although it was queued after it.
      rw [Channel.received_of_fails he] at hreceived
      have := (numbered_channel past).received_lt_waiting hreceived hy
      omega
    · have hempties : e.empties = true := by cases e <;> first | rfl | exact he
      rw [Channel.waiting_of_empties hempties] at hwaiting
      cases hwaiting
  · exact Nat.le_trans (queued_channel_le _ _) hlater

/-- What is received and was queued after something that waited is received behind that on the same
    connection, unless it was queued after a scope failed first. -/
theorem received_behind {y : Entry} (hnew : ∀ e ∈ es, e.connects = false)
    (hy : y ∈ (channel past).waiting) (hx : x ∈ (channel (past ++ es)).received)
    (hlt : y.number < x.number) :
    [y, x].Sublist (channel (past ++ es)).received ∨
    ∃ front e back, es = front ++ e :: back ∧ (∀ f ∈ front, f.empties = false) ∧
      e.fails = true ∧ (channel (past ++ front)).queued ≤ x.number := by
  rcases fate_of_waiting hnew hy with ⟨-, hwait⟩ | hsent | ⟨front, e, back, rfl, hfront, he, hwait⟩
  · -- What waits was queued after all that was received.
    have := (numbered_channel _).received_lt_waiting hx hwait
    omega
  · exact .inl ((numbered_channel _).received_in_order hsent hx hlt)
  · refine .inr ⟨front, e, back, rfl, hfront, he, ?_⟩
    rw [← List.append_assoc] at hx
    exact queued_le_of_dropped he hwait hx hlt

end Fates

/-! What the channel says of the session, its requests and its log. -/

/-- A number is a place among all statements that were queued. -/
theorem statement_of_number (past : List (Event μ)) :
    ∀ x ∈ (channel past).all, (queuedStatements past)[x.number]? = some x.statement := by
  induction past using List.reverseRecOn with
  | nil => simp [channel, Channel.empty, Channel.all]
  | append_singleton past e ih =>
    intro x hx
    rw [channel_concat] at hx
    have hold : x ∈ (channel past).all →
        (queuedStatements (past ++ [e]))[x.number]? = some x.statement := by
      intro hmem
      have hlt := (numbered_channel past).below x hmem
      rw [queued_channel] at hlt
      rw [queuedStatements, List.filterMap_append, ← queuedStatements,
        List.getElem?_append_left hlt]
      exact ih x hmem
    rcases List.mem_append.mp hx with hx | hx
    · exact hold (Channel.mem_received_after hx)
    · rcases Channel.mem_waiting_after hx with hx | ⟨st, db, rfl, rfl⟩
      · exact hold (List.mem_append_right _ hx)
      · simp [queued_channel, queuedStatements]

theorem waiting_eq_pending (past : List (Event μ)) :
    (channel past).waiting.map (·.statement) = (ledger past).having .pending := by
  induction past using List.reverseRecOn with
  | nil => rfl
  | append_singleton past e ih =>
    rw [channel_concat, ledger_append]
    cases e with
    | queued st db => simp [Channel.after, Ledger.account, ih, Ledger.having]
    | connect url made => cases made <;> exact ih
    | run request done => simp [Channel.after, Ledger.account]
    | refused => simp [Channel.after, Ledger.account]
    | closed failed =>
      cases failed with
      | true => simp [Channel.after, Ledger.account]
      | false => exact ih
    | _ => exact ih

@[simp] theorem lastRequests_concat (past : List (Event μ)) (e : Event μ) :
    lastRequests (past ++ [e]) = match e with
      | .connect _ true => []
      | .run request _ => lastRequests past ++ [request]
      | _ => lastRequests past := by
  simp only [lastRequests, List.foldl_append, List.foldl_cons, List.foldl_nil]

/-- As long as no other connection is made. -/
theorem lastRequests_append {es : List (Event μ)} (past : List (Event μ))
    (h : ∀ e ∈ es, e.connects = false) :
    lastRequests (past ++ es) = lastRequests past ++ requests es := by
  induction es using List.reverseRecOn with
  | nil => simp [requests]
  | append_singleton es e ih =>
    have hone := ih fun e he => h e (List.mem_append_left _ he)
    have he := h e (by simp)
    rw [← List.append_assoc, lastRequests_concat, hone, requests_append]
    cases e with
    | connect url made =>
      cases made with
      | true => cases he
      | false => simp [requests]
    | run request done => simp [requests]
    | _ => simp [requests]

/-- As long as none is sent the connection has received none, and neither has another one. -/
theorem lastRequests_eq_nil {past es : List (Event μ)} (h : lastRequests past = [])
    (hes : requests es = []) : lastRequests (past ++ es) = [] := by
  induction es using List.reverseRecOn with
  | nil => rwa [List.append_nil]
  | append_singleton es e ih =>
    rw [requests_append, List.append_eq_nil_iff] at hes
    rw [← List.append_assoc, lastRequests_concat, ih hes.1]
    cases e with
    | run request done => cases hes.2
    | connect url made => cases made <;> rfl
    | _ => rfl

theorem received_eq_of_carried (past : List (Event μ))
    (h : ∀ before request done after, past = before ++ Event.run request done :: after →
      request.statements = (channel before).waiting.map (·.statement)) :
    (channel past).received.map (·.statement) = (lastRequests past).flatMap (·.statements) := by
  induction past using List.reverseRecOn with
  | nil => rfl
  | append_singleton past e ih =>
    have hpast := ih fun before request done after hp =>
      h before request done (after ++ [e]) (by rw [hp]; simp)
    rw [channel_concat, lastRequests_concat]
    cases e with
    | connect url made =>
      cases made with
      | true => rfl
      | false => exact hpast
    | run request done =>
      have hsent := h past request done [] rfl
      simp only [Channel.after, Channel.all, List.map_append, List.flatMap_append,
        List.flatMap_singleton, hpast, hsent]
    | closed failed => cases failed <;> exact hpast
    | _ => exact hpast

/-- Only closing the last open scope leaves none open. -/
theorem closed_of_openScopes {before after : List (Event μ)} (hopen : openScopes before ≠ [])
    (hnone : openScopes (before ++ after) = []) :
    ∃ front failed back, after = front ++ Event.closed failed :: back ∧
      openScopes (before ++ (front ++ [Event.closed failed])) = [] := by
  induction after generalizing before with
  | nil =>
    rw [List.append_nil] at hnone
    exact absurd hnone hopen
  | cons e after ih =>
    by_cases hone : openScopes (before ++ [e]) = []
    · cases e with
      | closed failed => exact ⟨[], failed, after, rfl, hone⟩
      | _ => simp [openScopes_append, opensAfter, hopen] at hone
    · rw [List.append_cons] at hnone
      obtain ⟨front, failed, back, rfl, hlast⟩ := ih hone hnone
      refine ⟨e :: front, failed, back, rfl, ?_⟩
      simpa using hlast

section Reached

variable {b : Backend σ} {config : Config} {server : σ} {past : List (Event μ)} {g : Stage}
  {w : World σ} {x : Entry}

/-- The statements that wait are those of the session, unless it has failed and drops them next. -/
theorem Reached.waiting_eq (h : Reached b config server past g w)
    (hg : ∀ epoch, g ≠ .leaving epoch true) :
    (channel past).waiting.map (·.statement) = w.session.pending := by
  rw [waiting_eq_pending]
  exact (awaited_of_reached h).waiting hg

/-- As long as there is a connection, they are the statements of the session at every moment. -/
theorem Reached.waiting_of_connected (h : Reached b config server past g w)
    (hc : w.session.connected = true) :
    (channel past).waiting.map (·.statement) = w.session.pending := by
  by_cases hg : ∃ epoch, g = .leaving epoch true
  · obtain ⟨epoch, hg⟩ := hg
    cases h with
    | start => cases hg
    | step hr hs =>
      -- An operation has failed, or a request: the one has changed nothing, the other sent all.
      cases hs with
      | fail ho =>
        rw [List.append_nil]
        exact hr.waiting_eq (by simp)
      | strand ho hc' =>
        have hnone : (Session.cleared _).connected = true := hc
        rw [Session.cleared, hc'] at hnone
        cases hnone
      | send =>
        rw [channel_concat]
        rfl
      | _ => cases hg
  · exact h.waiting_eq fun epoch hne => hg ⟨epoch, hne⟩

/-- What the connection received is what its requests carried. -/
theorem Reached.received_eq (h : Reached b config server past g w) :
    (channel past).received.map (·.statement) = (lastRequests past).flatMap (·.statements) := by
  refine received_eq_of_carried past fun before request done after hp => ?_
  rw [h.run_carries hp, waiting_eq_pending]

theorem Step.of_closed {es pre post : List (Event μ)} {g' : Stage} {w' : World σ} {failed : Bool}
    (h : Step b past g w es g' w') (hes : es = pre ++ Event.closed failed :: post) :
    post = [] ∧ g' = .operating := by
  cases h with
  | leaveOrphan he =>
    simp [List.cons_eq_append_iff] at hes
    exact ⟨hes.2.2, rfl⟩
  | leaveShared he hd =>
    simp [List.cons_eq_append_iff] at hes
    exact ⟨hes.2.2, rfl⟩
  | leaveLast he hd =>
    split at hes <;> simp [List.cons_eq_append_iff] at hes
    · exact ⟨hes.2.2, rfl⟩
    · exact ⟨hes.2.2, rfl⟩
  | useDatabase db => split at hes <;> simp [List.cons_eq_append_iff] at hes
  | _ => simp [List.cons_eq_append_iff] at hes

/-- Nothing waits when the last scope has been closed. -/
theorem Reached.waiting_of_closed {before after : List (Event μ)} {failed : Bool}
    (h : Reached b config server past g w) (hp : past = before ++ Event.closed failed :: after)
    (hnone : openScopes (before ++ [Event.closed failed]) = []) :
    (channel (before ++ [Event.closed failed])).waiting = [] := by
  obtain ⟨past₁, g₁, w₁, pre, post, g₂, w₂, hr, hs, rfl⟩ := h.caused hp
  obtain ⟨rfl, rfl⟩ := hs.of_closed rfl
  have hclosed := hr.step hs
  rw [← List.append_assoc] at hclosed
  have hend : endsOutermost (past₁ ++ pre ++ [Event.closed failed]) = true := by
    rw [endsOutermost, hnone]
    simp [Event.returns]
  have hwait := hclosed.waiting_eq (by simp)
  rw [hclosed.returned_empty rfl hend] at hwait
  exact List.map_eq_nil_iff.mp hwait

/-- A statement that was queued while a scope was open is received on no connection that is made
    later. -/
theorem Reached.no_connect_after {before after : List (Event μ)}
    (h : Reached b config server past g w) (hp : past = before ++ after)
    (hopen : openScopes before ≠ []) (hx : x ∈ (channel past).all)
    (hlt : x.number < (channel before).queued) : ∀ e ∈ after, e.connects = false := by
  intro e he
  cases e with
  | connect url made =>
    cases made with
    | false => rfl
    | true =>
      exfalso
      obtain ⟨front, back, rfl⟩ := List.append_of_mem he
      have hsplit : past = before ++ front ++ Event.connect url true :: back := by
        rw [hp, List.append_assoc]
      -- No scope is open when a connection is made, so that the last one was closed in between, and
      -- then nothing waited.
      have hnone := h.connect_alone hsplit
      obtain ⟨front₁, failed, front₂, rfl, hlast⟩ := closed_of_openScopes hopen hnone
      have hclosed : past = before ++ front₁ ++
          Event.closed failed :: (front₂ ++ Event.connect url true :: back) := by
        rw [hp]
        simp
      have hempty := h.waiting_of_closed hclosed (by simpa using hlast)
      rw [List.append_assoc] at hempty
      -- What waits when the connection is made was queued after the scopes were closed.
      have hlater : ∀ y ∈ (channel (before ++ (front₁ ++ [Event.closed failed]) ++ front₂)).waiting,
          (channel (before ++ (front₁ ++ [Event.closed failed]))).queued ≤ y.number := by
        intro y hy
        rcases mem_waiting_append hy with hy | hy
        · rw [hempty] at hy
          cases hy
        · exact hy
      have hx : x ∈ (channel (before ++ (front₁ ++ [Event.closed failed]) ++
          (front₂ ++ Event.connect url true :: back))).all := by
        rw [hp] at hx
        simpa using hx
      have hle := queued_le_of_connects hlater hx
      have hmono := queued_channel_le before (front₁ ++ [Event.closed failed])
      omega
  | _ => rfl

end Reached

end SqlBatch
