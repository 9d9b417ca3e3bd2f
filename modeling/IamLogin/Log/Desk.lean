import IamLogin.Log.Line
import IamLogin.Log.Threshold

/-!
# Where log lines are written

The log desk of a process decides which events become lines. The first configuration sets the least
level for good, even one that is refused; the last one says which service lines are about. A handle
takes over that service when it is first used after a configuration, and keeps it from then on.
Without any configuration nothing is written.
-/

namespace IamLogin.Log

/-- A handle to write through. -/
structure Handle where
  /-- The name of its logger. -/
  logger : String
  /-- The service that its lines are about, once it has been used. -/
  service : Option String := none
deriving DecidableEq, Repr

/-- The log desk of a process. -/
structure Desk where
  /-- The number of the least level, once it is set. -/
  threshold : Option Nat := none
  /-- The service of the last configuration. -/
  service : Option String := none
  /-- Fields that every line has. -/
  context : Json.Members := []
  /-- The handles, by the names under which they are kept. -/
  handles : Entries String Handle := []

namespace Desk

/-- Configure the desk. -/
def configure (d : Desk) (service level : String) : Except Failure Unit × Desk :=
  match d.threshold with
  | some _ => (.ok (), { d with service := some service })
  | none => match Log.threshold level with
    | .ok n => (.ok (), { d with threshold := some n, service := some service })
    | .error failure => (.error failure, { d with threshold := some defaultThreshold })

/-- Get a handle for a logger. A logger without a name is the one at the root. -/
def openHandle (d : Desk) (key logger : String) : Desk :=
  let logger := if logger.isEmpty then "root" else logger
  { d with handles := Entries.put key { logger } d.handles }

/-- Bind fields that every line has. -/
def bind (d : Desk) (fields : Json.Members) : Desk :=
  { d with context := fields.foldl (fun context f => Entries.put f.1 f.2 context) d.context }

/-- Why a field cannot have its name: the name is that of something else that is handed over with
the event. -/
def takenField? (level : Level) (fields : Json.Members) : Option Failure :=
  let own (f : Text × Json) : Bool := f.1 = Text.ofString "event" ∨ f.1 = Text.ofString "self"
  match fields.find? own with
  | some (name, _) => some (.takenField level.name ((Text.toString? name).getD ""))
  | none =>
    if (Json.member? "method_name" fields).isSome then
      some (.takenField "_proxy_to_logger" "method_name")
    else none

/-- The line for an entry, if the desk lets it through. -/
def lineFor (d : Desk) (handle : Handle) (entry : Entry) (time : String) : Option String := do
  let least ← d.threshold
  let service ← handle.service
  if entry.level.severity < least then none
  else some (line { logger := handle.logger, service, context := d.context, time } entry)

/-- Write an entry through a handle at a time: the line that is written, if any. -/
def emit (d : Desk) (key : String) (entry : Entry) (time : String) :
    Except Failure (Option String) × Desk :=
  match Entries.get? key d.handles with
  | none => (.ok none, d)
  | some handle =>
    let handle := { handle with service := handle.service.or d.service }
    let d := { d with handles := Entries.put key handle d.handles }
    match takenField? entry.level entry.fields with
    | some failure => (.error failure, d)
    | none => (.ok (d.lineFor handle entry time), d)

/-- Write an event of a login through the handle of the part that reports it. -/
def publish (d : Desk) (event : Event) (time : String) : Option String × Desk :=
  let key := event.emitter.loggerName
  let d := if (Entries.get? key d.handles).isSome then d else d.openHandle key key
  match d.emit key (.ofEvent event) time with
  | (.ok line, d) => (line, d)
  | (.error _, d) => (none, d)

/-- Write events one after the other: the lines that are written. -/
def publishAll (d : Desk) (events : List Event) (time : String) : List String × Desk :=
  events.foldl (fun (lines, d) event =>
    let (line, d) := d.publish event time
    (lines ++ line.toList, d)) ([], d)

end Desk

end IamLogin.Log
