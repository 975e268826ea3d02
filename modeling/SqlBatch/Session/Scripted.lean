import SqlBatch.Session.Run
/- A server whose answers are laid down beforehand. Each connection, each
   destruction and each request uses up the next answer of its own list; once a
   list is used up, connections and destructions succeed and requests bring
   nothing.
   Correspondence:
     the scripted `Driver` and `Connection` ↔ `Script`, `Script.backend` -/
namespace SqlBatch

/-- The answers that are left. -/
structure Script where
  /-- What connecting fails with, if it does. -/
  connects : List (Option Failure)
  /-- What destroying fails with, if it does. -/
  destroys : List (Option Failure)
  responses : List Response

namespace Script

/-- The next answer of a list. -/
def next : List (Option Failure) → Except Failure Unit × List (Option Failure)
  | [] => (.ok (), [])
  | none :: rest => (.ok (), rest)
  | some e :: rest => (.error e, rest)

/-- The response made of results up to the first failure. -/
def response : List (Except Failure Item) → Response
  | [] => ⟨[], none⟩
  | .error e :: _ => ⟨[], some e⟩
  | .ok item :: rest => { response rest with items := item :: (response rest).items }

/-- The server that answers by the script. -/
def backend (d : Dialect) : Backend Script where
  dialect := d
  connect _ s := let (r, rest) := next s.connects; (r, { s with connects := rest })
  run _ s :=
    match s.responses with
    | [] => (⟨[], none⟩, s)
    | r :: rest => (r, { s with responses := rest })
  destroy s := let (r, rest) := next s.destroys; (r, { s with destroys := rest })

end Script

/-- The events that reach the server or come from it. -/
def Event.onWire {μ : Type} : Event μ → Bool
  | .connect .. | .run .. | .destroy => true
  | _ => false

end SqlBatch
