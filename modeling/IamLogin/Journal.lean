import IamLogin.Failure.Basic
import IamLogin.Http.Message
import IamLogin.Log.Event

/-!
# What a login does to the world

Apart from its result, a login can be told by what it does: it looks up a credential, reads the
clock, sends requests, hands an assertion over and reports events. The journal holds these effects
in the order in which they happen. An `Action` has a result or fails, and in either case has made
its entries in the journal; what a party outside answers may depend on how often it was asked
before, which the journal tells.
-/

namespace IamLogin

/-- The services that requests are sent to. -/
inductive Service where
  /-- The service that signs claims. -/
  | iam
  /-- The vault. -/
  | vault
deriving DecidableEq, Repr

/-- What others can see of an action. -/
inductive Effect where
  /-- The supplier was asked for a credential. -/
  | inquiry
  /-- A lookup was made for a credential. -/
  | lookup
  /-- The clock was read. -/
  | clockRead
  /-- A request was sent. -/
  | request (service : Service) (request : Request)
  /-- An assertion was handed over to a login transport of the caller's own. -/
  | handover (method assertion mount role : Text)
  /-- An event was reported. -/
  | event (event : Event)
deriving DecidableEq, Repr

/-- Effects in the order in which they happened. -/
abbrev Journal := List Effect

namespace Journal

/-- The requests sent to a service. -/
def requestsTo (service : Service) (journal : Journal) : List Request :=
  journal.filterMap fun
    | .request s r => if s = service then some r else none
    | _ => none

/-- The lookups made. -/
def lookups (journal : Journal) : Nat := journal.count .lookup

/-- The readings of the clock. -/
def clockReads (journal : Journal) : Nat := journal.count .clockRead

/-- The events reported. -/
def events (journal : Journal) : List Event :=
  journal.filterMap fun
    | .event e => some e
    | _ => none

end Journal

/-- A computation that leaves entries in the journal and has a result or fails. -/
abbrev Action (α : Type) := ExceptT Failure (StateM Journal) α

namespace Action

variable {α : Type}

/-- Make an entry in the journal. -/
def record (effect : Effect) : Action Unit := modify (· ++ [effect])

/-- Report an event. -/
def report (event : Event) : Action Unit := record (.event event)

/-- The result of something that has no effects. -/
def ofExcept : Except Failure α → Action α
  | .ok value => pure value
  | .error failure => throw failure

/-- Run an action after what is in a journal: its result, and the journal with its entries. -/
def after (action : Action α) (journal : Journal) : Except Failure α × Journal :=
  (ExceptT.run action).run journal

/-- Run an action on an empty journal. -/
def perform (action : Action α) : Except Failure α × Journal := action.after []

end Action

end IamLogin
