import SqlBatch.Session.Program
/- The life of a scope: it is entered, its operation runs, what waits is sent if
   the scope sends, and the scope is left. Each of these is a step on the world
   that returns the events it caused.
   Correspondence:
     `scope`, before the operation ↔ `World.enter`
     `scope`, behind it            ↔ `World.settle`, then `World.leave`
     `flush`                       ↔ `World.flush`
     `teardown`                    ↔ `World.giveUp` -/
namespace SqlBatch

/-- What a program came to. -/
inductive Outcome (α : Type) where
  | finished (result : Except Failure α)
  | aborted

namespace World

variable {σ μ : Type}

/-- The world with another session. -/
def put (w : World σ) (s : Session) : World σ := { w with session := s }

/-- A scope is entered: an orphan's is refused, and the first one needs a connection. A refusal
    drops what waits. -/
def enter (b : Backend σ) (w : World σ) : Except Failure Unit × World σ × List (Event μ) :=
  let s := w.session
  if 0 < s.orphans then (.error .orphanedScope, w.put s.cleared, [.refused])
  else if s.connected then (.ok (), w.put { s with depth := s.depth + 1 }, [.opened s.epoch])
  else
    match b.connect s.config w.server with
    | (.ok _, server) =>
      (.ok (), ⟨{ s with connected := true, fresh := true, depth := s.depth + 1 }, server⟩,
        [.connect s.config.url true, .opened s.epoch])
    | (.error e, server) =>
      (.error e, ⟨s.cleared, server⟩, [.connect s.config.url false, .refused])

/-- Everything that waits is sent as one request. Too many changed rows abort. -/
def flush (b : Backend σ) (w : World σ) : Outcome Shaped × World σ × List (Event μ) :=
  let s := w.session
  if s.connected then
    let (response, server) := b.run (s.request.text b.dialect) w.server
    let w : World σ := ⟨{ s with fresh := false, pending := [] }, server⟩
    let outcome :=
      match response.failure, shape response.items with
      | some e, _ => .finished (.error e)
      | none, some shaped => .finished (.ok shaped)
      | none, none => .aborted
    (outcome, w, [.run s.request response.failure.isNone])
  else (.finished (.error .orphanedStatements), w.put s.cleared, [])

/-- The scope sends at its end: something waits, and its time has come. -/
def sends (sending : Sending) (s : Session) : Bool :=
  (s.depth ≤ 1 || sending = .always) && !s.pending.isEmpty

/-- What a scope comes to when its operation has ended. -/
def settle {β : Type} (b : Backend σ) (sending : Sending) (w : World σ) :
    Except Failure β → Outcome (Batched β) × World σ × List (Event μ)
  | .error e => (.finished (.error e), w, [])
  | .ok value =>
    if sends sending w.session then
      match w.flush b with
      | (.finished r, w, es) => (.finished (r.map fun s => ⟨s.rows, s.affected, value⟩), w, es)
      | (.aborted, w, es) => (.aborted, w, es)
    else (.finished (.ok ⟨[], .none, value⟩), w, [])

/-- The connection is given up: the scopes still open become orphans. Whether the server agrees
    changes nothing. -/
def giveUp (b : Backend σ) (w : World σ) : World σ × List (Event μ) :=
  let s := w.session
  let given : Session :=
    { s with
      connected := false, depth := 0, orphans := s.depth, epoch := s.epoch + 1, fresh := true,
      pending := [] }
  if s.connected then (⟨given, (b.destroy w.server).2⟩, [.destroy]) else (w.put given, [])

/-- A scope that was entered in the given epoch is left. A failed one drops what waits. The last
    one gives the connection up, and so does a failed one that was told to. -/
def leave (b : Backend σ) (destroyOnError : Bool) (epoch : UInt64) (failed : Bool) (w : World σ) :
    World σ × List (Event μ) :=
  let s := if failed then w.session.cleared else w.session
  if epoch ≠ s.epoch then (w.put { s with orphans := s.orphans - 1 }, [.closed failed])
  else
    let s := { s with depth := s.depth - 1 }
    if s.depth = 0 || (failed && destroyOnError) then
      let (w, es) := (w.put s).giveUp b
      (w, es ++ [.closed failed])
    else (w.put s, [.closed failed])

end World

end SqlBatch
