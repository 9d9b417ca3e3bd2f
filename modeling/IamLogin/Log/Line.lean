import IamLogin.Json.Writer
import IamLogin.Log.Event

/-!
# Log lines

An event is written as one line of JSON. Its fields come first, then its text, then the fields of
the context that it does not have itself, then its level, its logger and the time, which replace
fields of these names, and at last the service, which does not. Secrets are masked by their names.
-/

namespace IamLogin.Log

/-- What stands in the place of a secret. -/
def mask : String := "***"

/-- The names of the fields that hold secrets. -/
def secretNames : List String :=
  ["token", "client_token", "access_token", "jwt", "signed_jwt", "assertion"]

/-- Whether a field holds a secret. -/
def isSecret (name : Text) : Bool := (secretNames.map Text.ofString).contains name

/-- Fields with every secret masked. -/
def redact (fields : Json.Members) : Json.Members :=
  fields.map fun f => (f.1, if isSecret f.1 then Json.ofString mask else f.2)

/-- What is to be logged. -/
structure Entry where
  /-- The level. -/
  level : Level
  /-- The text. -/
  text : String
  /-- The fields. -/
  fields : Json.Members

/-- An event as it is to be logged. -/
def Entry.ofEvent (e : Event) : Entry :=
  { level := e.level
    text := e.name
    fields := e.fields.map fun f => (Text.ofString f.1, Json.ofText? f.2) }

/-- What a line says besides its entry. -/
structure Setting where
  /-- The name of the logger. -/
  logger : String
  /-- The service that the line is about. -/
  service : String
  /-- Fields that every line has. -/
  context : Json.Members
  /-- The time. -/
  time : String

/-- The members of a line. -/
def members (setting : Setting) (entry : Entry) : Json.Members :=
  let put (name value : String) : Json.Members → Json.Members :=
    Entries.put (Text.ofString name) (Json.ofString value)
  let own := put "event" entry.text entry.fields
  let all := setting.context.foldl (fun fields f => Entries.putNew f.1 f.2 fields) own
  let placed := put "logger" setting.logger (put "level" entry.level.name all)
  let masked := redact (put "timestamp" setting.time placed)
  let whole := Entries.putNew (Text.ofString "service") (Json.ofString setting.service) masked
  Entries.erase (Text.ofString "exc_info") whole

/-- A line. -/
def line (setting : Setting) (entry : Entry) : String :=
  Json.render .line (.obj (members setting entry))

/-- Masking keeps the names of the fields. -/
theorem keys_redact (fields : Json.Members) :
    Entries.keys (redact fields) = Entries.keys fields := by
  simp [redact, Entries.keys, Function.comp_def]

/-- A secret that is masked is masked. -/
theorem redact_redact (fields : Json.Members) : redact (redact fields) = redact fields := by
  simp only [redact, List.map_map]
  congr 1
  funext f
  by_cases h : isSecret f.1 <;> simp [h]

end IamLogin.Log
