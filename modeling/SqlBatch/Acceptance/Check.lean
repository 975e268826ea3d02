import SqlBatch.Session.Calls
/- The checks of an acceptance run. A check that fails ends the whole run at once,
   with the scopes that are open left as they are. -/
namespace SqlBatch.Acceptance

variable {μ α : Type}

/-- What has to hold. -/
def require (holds : Prop) [Decidable holds] : Program μ Unit :=
  if holds then pure () else .abort

/-- The result of an operation that has to succeed. -/
def succeed (operation : Program μ α) : Program μ α :=
  operation.attempt.bind fun
    | .ok a => pure a
    | .error _ => .abort

/-- What a definition that has to be accepted defines. -/
def accepted : Except ArgumentError α → Program μ α
  | .ok a => pure a
  | .error _ => .abort

/-- What can be seen of the session. -/
def view : Program μ View := .observe pure

/-- The value of a row under a label, none without that label. A label has to have its value. -/
def valueAt? (label : String) (r : Row) : Program μ (Option Value) :=
  match r.cell label with
  | .value v => pure (some v)
  | .unlabelled => pure none
  | .missing => .abort

/-- The text of a row under a label. -/
def textAt? (label : String) (r : Row) : Program μ (Option String) :=
  return (← valueAt? label r).bind Value.asText?

/-- The integer of a row under a label. -/
def intAt? (label : String) (r : Row) : Program μ (Option Int) :=
  return (← valueAt? label r).bind Value.asInt?

/-- The filter of rows whose column has the text. -/
def isText (c : Column) (text : String) : Filter := .single (.equals c (.text text))

end SqlBatch.Acceptance
