import SqlBatch.Proofs.Session.Step
import SqlBatch.Session.Scripted
/- The counters of a session. At every moment the open scopes either all share the
   connection or are all orphans, and the session counts them as such.
     1. `Counted.step`: every step keeps the counters right.
     2. `counters_match_open_scopes`: at every moment of every run the two counters
        together number the open scopes, the connection is there exactly while one
        of them shares it, and the epoch tells the orphans from the others, however
        often it has wrapped. So leaving a scope never counts below zero, and a
        connection is asked for only when no scope is open. -/
namespace SqlBatch

variable {σ μ α : Type}

/-- The session counts the given scopes as the open ones. -/
inductive Counted (scopes : List OpenScope) (s : Session) : Prop where
  /-- They share the connection, if there are any. -/
  | sharing :
      s.orphans = 0 → s.depth = scopes.length → (s.connected = true ↔ 0 < s.depth) →
      (∀ o ∈ scopes, o = ⟨s.epoch, false⟩) → Counted scopes s
  /-- They are orphans. -/
  | orphaned :
      0 < s.orphans → s.orphans = scopes.length → s.depth = 0 → s.connected = false →
      (∀ o ∈ scopes, o.epoch ≠ s.epoch ∧ o.outlived = true) → Counted scopes s

namespace Counted

variable {scopes : List OpenScope} {s s' : Session}

/-- Only the counters matter. -/
theorem congr (h : Counted scopes s) (hd : s'.depth = s.depth) (ho : s'.orphans = s.orphans)
    (hc : s'.connected = s.connected) (he : s'.epoch = s.epoch) : Counted scopes s' := by
  cases h with
  | sharing h₁ h₂ h₃ h₄ =>
    exact .sharing (ho.trans h₁) (hd.trans h₂) (by rw [hc, hd]; exact h₃) (by rw [he]; exact h₄)
  | orphaned h₁ h₂ h₃ h₄ h₅ =>
    exact .orphaned (ho ▸ h₁) (ho.trans h₂) (hd.trans h₃) (hc.trans h₄) (by rw [he]; exact h₅)

/-- Orphans, of which there may be none. -/
theorem of_orphans (ho : s.orphans = scopes.length) (hd : s.depth = 0) (hc : s.connected = false)
    (h : ∀ o ∈ scopes, o.epoch ≠ s.epoch ∧ o.outlived = true) : Counted scopes s := by
  cases scopes with
  | nil => exact .sharing ho hd (by simp [hc, hd]) (by simp)
  | cons o os => exact .orphaned (by simp [ho]) ho hd hc h

theorem of_connected (h : Counted scopes s) (hc : s.connected = true) :
    s.orphans = 0 ∧ s.depth = scopes.length ∧ 0 < s.depth ∧ ∀ o ∈ scopes, o = ⟨s.epoch, false⟩ := by
  cases h with
  | sharing h₁ h₂ h₃ h₄ => exact ⟨h₁, h₂, h₃.mp hc, h₄⟩
  | orphaned _ _ _ h₄ => rw [hc] at h₄; cases h₄

/-- If the innermost scope saved another epoch, all open scopes are orphans. -/
theorem of_epoch_ne {o : OpenScope} {os : List OpenScope} (h : Counted (o :: os) s)
    (he : o.epoch ≠ s.epoch) :
    s.orphans = os.length + 1 ∧ s.depth = 0 ∧ s.connected = false ∧
      ∀ x ∈ os, x.epoch ≠ s.epoch ∧ x.outlived = true := by
  cases h with
  | sharing _ _ _ h₄ => exact absurd (by rw [h₄ o List.mem_cons_self]) he
  | orphaned _ h₂ h₃ h₄ h₅ => exact ⟨h₂, h₃, h₄, fun x hx => h₅ x (List.mem_cons_of_mem _ hx)⟩

/-- If the innermost scope saved the current epoch, all open scopes share the connection. -/
theorem of_epoch_eq {o : OpenScope} {os : List OpenScope} (h : Counted (o :: os) s)
    (he : o.epoch = s.epoch) :
    s.orphans = 0 ∧ s.depth = os.length + 1 ∧ s.connected = true ∧
      ∀ x ∈ os, x = ⟨s.epoch, false⟩ := by
  cases h with
  | sharing h₁ h₂ h₃ h₄ =>
    exact ⟨h₁, h₂, h₃.mpr (by simp [h₂]), fun x hx => h₄ x (List.mem_cons_of_mem _ hx)⟩
  | orphaned _ _ _ _ h₅ => exact absurd he (h₅ o List.mem_cons_self).1

theorem eq_nil (h : Counted scopes s) (ho : s.orphans = 0) (hc : s.connected = false) :
    scopes = [] := by
  cases h with
  | sharing _ h₂ h₃ =>
    have hd : ¬ 0 < s.depth := by rw [← h₃, hc]; simp
    exact List.eq_nil_of_length_eq_zero (by omega)
  | orphaned h₁ => omega

theorem isEmpty_eq_false (h : Counted scopes s) (ho : 0 < s.orphans) : scopes.isEmpty = false := by
  cases h with
  | sharing h₁ => omega
  | orphaned _ h₂ =>
    cases scopes with
    | nil => simp at h₂; omega
    | cons => rfl

/-- The epoch of a scope tells whether it has outlived its connection. -/
theorem epoch_ne_iff (h : Counted scopes s) {o : OpenScope} (hm : o ∈ scopes) :
    o.epoch ≠ s.epoch ↔ o.outlived = true := by
  cases h with
  | sharing _ _ _ h₄ => simp [h₄ o hm]
  | orphaned _ _ _ _ h₅ => exact iff_of_true (h₅ o hm).1 (h₅ o hm).2

end Counted

/-- Giving a connection up begins an epoch that is not the one before it, wrapped or not. -/
theorem epoch_ne_succ (epoch : UInt64) : epoch ≠ epoch + 1 := by
  intro h
  have h := congrArg UInt64.toNat h
  have hlt := epoch.toNat_lt
  simp only [UInt64.toNat_add, UInt64.reduceToNat] at h
  omega

section Runs

variable {b : Backend σ} {past es : List (Event μ)} {w w' : World σ} {g g' : Stage}

theorem Counted.step (h : Counted (openScopes past) w.session)
    (htop : LeavesInnermost past g)
    (hs : Step b past g w es g' w') : Counted (openScopes (past ++ es)) w'.session := by
  rw [openScopes_append]
  cases hs with
  | queue st => exact h.congr rfl rfl rfl rfl
  | useDatabase db =>
    simp only [Session.useDatabase, World.put]
    split
    · exact h.congr rfl rfl rfl rfl
    · exact h.congr rfl rfl rfl rfl
  | mark m => exact h
  | refuse ho => exact h.congr rfl rfl rfl rfl
  | miss ho hc hb => exact h.congr rfl rfl rfl rfl
  | connect ho hc hb =>
    have hnil := h.eq_nil ho hc
    cases h with
    | sharing _ hd =>
      simp only [hnil, List.length_nil] at hd
      simp only [hnil]
      exact .sharing ho (by simp [hd, opensAfter]) (by simp) (by simp [opensAfter])
    | orphaned h₁ => omega
  | join ho hc =>
    -- The others have all saved the current epoch, and so does the new one.
    obtain ⟨-, hd, -, hall⟩ := h.of_connected hc
    exact .sharing ho (by simp [hd, opensAfter, World.put]) (by simp [hc, World.put])
      (by simpa [opensAfter, World.put] using hall)
  | fail ho => exact h
  | keep ho hp => exact h
  | strand ho hc hp => exact h.congr rfl rfl rfl rfl
  | send ho hc hp hb => exact h.congr rfl rfl rfl rfl
  | leaveOrphan he =>
    obtain ⟨o, os, hopen, rfl⟩ := htop _ _ rfl
    rw [hopen] at h ⊢
    obtain ⟨ho, hd, hc, hall⟩ := h.of_epoch_ne he
    exact .of_orphans (by simp [ho, opensAfter, World.put]) hd hc hall
  | leaveShared he hd =>
    obtain ⟨o, os, hopen, rfl⟩ := htop _ _ rfl
    rw [hopen] at h ⊢
    obtain ⟨ho, hlen, hc, hall⟩ := h.of_epoch_eq he
    refine .sharing ho (by simp [hlen, opensAfter, World.put]) ?_ hall
    exact iff_of_true hc (Nat.pos_of_ne_zero hd)
  | leaveLast he hd =>
    obtain ⟨o, os, hopen, rfl⟩ := htop _ _ rfl
    rw [hopen] at h ⊢
    obtain ⟨ho, hlen, hc, hall⟩ := h.of_epoch_eq he
    simp only [hc, if_true, List.singleton_append, List.foldl_cons, List.foldl_nil, opensAfter,
      List.map_cons, List.tail_cons]
    -- The scopes that stay open are orphans from here on: the epoch they saved is over.
    refine .of_orphans (by simp [hlen]) rfl rfl fun x hx => ?_
    obtain ⟨x, hm, rfl⟩ := List.mem_map.mp hx
    rw [hall x hm]
    exact ⟨epoch_ne_succ _, rfl⟩

theorem counted_of_reached {config : Config} {server : σ}
    (h : Reached b config server past g w) : Counted (openScopes past) w.session := by
  induction h with
  | start => exact .sharing rfl rfl (by simp [Session.start]) (by simp [openScopes])
  | step hr hs ih => exact ih.step hr.leavesInnermost hs

theorem Step.of_connect {pre post : List (Event μ)} {url : String} {made : Bool}
    (h : Step b past g w (pre ++ Event.connect url made :: post) g' w') :
    pre = [] ∧ w.session.orphans = 0 ∧ w.session.connected = false := by
  generalize hes : pre ++ Event.connect url made :: post = es at h
  cases h with
  | miss ho hc hb =>
    simp [List.append_eq_cons_iff, List.cons_eq_append_iff] at hes
    exact ⟨hes.1, ho, hc⟩
  | connect ho hc hb =>
    simp [List.append_eq_cons_iff, List.cons_eq_append_iff] at hes
    exact ⟨hes.1, ho, hc⟩
  | useDatabase db => split at hes <;> simp [List.append_eq_cons_iff] at hes
  | leaveLast he hd =>
    split at hes <;> simp [List.append_eq_cons_iff, List.cons_eq_append_iff] at hes
  | _ => simp [List.append_eq_cons_iff] at hes

/-- A connection is asked for only when no scope is open. -/
theorem Reached.connect_alone {config : Config} {server : σ} {before after : List (Event μ)}
    {url : String} {made : Bool} (h : Reached b config server past g w)
    (hp : past = before ++ Event.connect url made :: after) : openScopes before = [] := by
  obtain ⟨past₁, g₁, w₁, pre, post, g₂, w₂, hr, hs, rfl⟩ := h.caused hp
  obtain ⟨rfl, ho, hc⟩ := hs.of_connect
  rw [List.append_nil]
  exact (counted_of_reached hr).eq_nil ho hc

/-- The open scopes are as many as were opened and not closed. -/
theorem Reached.count_open {config : Config} {server : σ} (h : Reached b config server past g w) :
    past.countP (·.opens) = past.countP (·.closes) + (openScopes past).length := by
  induction h with
  | start => rfl
  | @step past es g g' w w' hr hs ih =>
    have hclose : ∀ epoch failed, g = .leaving epoch failed → 0 < (openScopes past).length := by
      intro epoch failed hg
      obtain ⟨o, os, ho, -⟩ := hr.leavesInnermost epoch failed hg
      simp [ho]
    rw [openScopes_append, List.countP_append, List.countP_append, ih]
    cases hs with
    | useDatabase db => split <;> simp [opensAfter, Event.opens, Event.closes]
    | leaveOrphan | leaveShared =>
      have := hclose _ _ rfl
      simp [opensAfter, Event.opens, Event.closes]
      omega
    | leaveLast =>
      have := hclose _ _ rfl
      split <;> simp [opensAfter, Event.opens, Event.closes] <;> omega
    | _ => simp [opensAfter, Event.opens, Event.closes] <;> omega

/-- At every moment of every run the open scopes are those that were opened and not closed, they are
    counted as sharing the connection or as orphans but never as both, and there is a connection
    exactly while one shares it. The orphans are the open scopes whose connection was destroyed,
    and those are the ones that saved another epoch than the current one. A scope that is left is
    the innermost one, and the counter that it counts down is not zero. No connection is asked for
    while a scope is open. -/
theorem counters_match_open_scopes {config : Config} {server : σ} {p : Program μ α}
    (h : p.Passes b ⟨.start config, server⟩ past g w) :
    past.countP (·.opens) = past.countP (·.closes) + (openScopes past).length ∧
    w.session.depth + w.session.orphans = (openScopes past).length ∧
    (w.session.depth = 0 ∨ w.session.orphans = 0) ∧
    (w.session.connected = true ↔ 0 < w.session.depth) ∧
    w.session.orphans = ((openScopes past).filter (·.outlived)).length ∧
    (∀ o ∈ openScopes past, o.epoch ≠ w.session.epoch ↔ o.outlived = true) ∧
    (∀ epoch failed, g = .leaving epoch failed → ∃ o os, openScopes past = o :: os ∧
      o.epoch = epoch ∧ (epoch ≠ w.session.epoch ↔ o.outlived = true) ∧
      if epoch ≠ w.session.epoch then 0 < w.session.orphans else 0 < w.session.depth) ∧
    (∀ before url made after, past = before ++ .connect url made :: after →
      openScopes before = []) := by
  have hr := h.reached
  have hcount := counted_of_reached hr
  refine ⟨hr.count_open, ?_, ?_, ?_, ?_, fun o hm => hcount.epoch_ne_iff hm, ?_,
    fun before url made after hp => hr.connect_alone hp⟩
  · cases hcount <;> omega
  · cases hcount <;> omega
  · cases hcount with
    | sharing _ _ hc _ => exact hc
    | orphaned _ _ hd hc _ => simp [hd, hc]
  · cases hcount with
    | sharing ho _ _ hall =>
      have hnone : (openScopes past).filter (·.outlived) = [] :=
        List.filter_eq_nil_iff.mpr fun o hm => by simp [hall o hm]
      rw [hnone, ho, List.length_nil]
    | orphaned _ hlen _ _ hall =>
      rw [List.filter_eq_self.mpr fun o hm => (hall o hm).2, hlen]
  · rintro epoch failed rfl
    obtain ⟨o, os, hopen, rfl⟩ := hr.leavesInnermost _ _ rfl
    have hiff := hcount.epoch_ne_iff (hopen ▸ List.mem_cons_self)
    refine ⟨o, os, hopen, rfl, hiff, ?_⟩
    rw [hopen] at hcount
    cases hcount with
    | sharing _ hlen _ hall => simp [hall o List.mem_cons_self, hlen]
    | orphaned hpos _ _ _ hall => simpa [(hall o List.mem_cons_self).1] using hpos

end Runs

/-- Inside a scope whose nested scope failed and gave the connection up, the outer scope is the one
    orphan, and its epoch is not the current one. -/
theorem counters_match_open_scopes_of_orphan :
    ∃ (past : List (Event Unit)) (w : World Script),
      Program.Passes (Script.backend .generic)
        (.scope false .outermost
          (.scope true .outermost (.done (α := Unit) (.error .orphanedScope)) fun _ =>
            .done (.ok ()))
          fun _ => .done (.ok ()))
        ⟨.start ⟨"mock://localhost/app", some "app"⟩, ⟨[], [], []⟩⟩ past .operating w ∧
      openScopes past = [⟨0, true⟩] ∧ w.session.epoch = 1 ∧ w.session.orphans = 1 ∧
      w.session.depth + w.session.orphans = (openScopes past).length := by
  have h : Program.Passes (μ := Unit) (Script.backend .generic)
      (.scope false .outermost
        (.scope true .outermost (.done (α := Unit) (.error .orphanedScope)) fun _ => .done (.ok ()))
        fun _ => .done (.ok ()))
      ⟨.start ⟨"mock://localhost/app", some "app"⟩, ⟨[], [], []⟩⟩ _ .operating _ :=
    .inside rfl (.left rfl rfl rfl rfl (.here _ _))
  exact ⟨_, _, h, rfl, rfl, rfl, (counters_match_open_scopes h).2.1⟩

end SqlBatch
