import IamLogin.Settings.Basic

/-!
# The settings of a process

A process has an environment that changes, and keeps the settings that it once made of it until it
is told to forget them. Settings that could not be made are not kept, and settings made with
keywords are made anew each time.
-/

namespace IamLogin

/-- An environment, and the settings kept from it. -/
structure SettingsStore where
  /-- The environment as it is now. -/
  environment : Environment := []
  /-- The settings that are kept. -/
  kept : Option Settings := none

namespace SettingsStore

/-- One thing done to a store. -/
inductive Step where
  /-- Set a variable. A variable that is set already keeps its place. -/
  | set (name value : Text)
  /-- Remove a variable. -/
  | unset (name : Text)
  /-- Forget the settings that are kept. -/
  | clear
  /-- Ask for the settings of the process. -/
  | get
  /-- Make settings with keywords. -/
  | make (keywords : Json.Members)

/-- The settings of the process, and the store that keeps them. -/
def current (s : SettingsStore) : Except Failure Settings × SettingsStore :=
  match s.kept with
  | some settings => (.ok settings, s)
  | none => match Settings.read [] s.environment with
    | .ok settings => (.ok settings, { s with kept := some settings })
    | .error failure => (.error failure, s)

/-- What a step answers, if it does, and the store after it. -/
def step (s : SettingsStore) : Step → Option (Except Failure Settings) × SettingsStore
  | .set name value => (none, { s with environment := Entries.put name value s.environment })
  | .unset name => (none, { s with environment := Entries.erase name s.environment })
  | .clear => (none, { s with kept := none })
  | .get =>
    let (answer, s) := s.current
    (some answer, s)
  | .make keywords => (some (Settings.read keywords s.environment), s)

/-- What steps answer, one after the other. -/
def run (s : SettingsStore) : List Step → List (Except Failure Settings)
  | [] => []
  | first :: rest =>
    let (answer, s) := s.step first
    answer.toList ++ s.run rest

end SettingsStore

end IamLogin
