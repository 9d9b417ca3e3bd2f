import IamLogin.Proofs.Course

/-!
# Runs of a session

A session is asked for tokens and for signed claims any number of times and in any order, and goes
on whatever comes of a call. A run keeps every call with its result, what the journal held before it
and what the call entered, so that a statement about all calls of a run covers every history that a
session can have.
-/

namespace IamLogin

/-- What a session can be asked for. -/
inductive Call where
  /-- A token. -/
  | login
  /-- A signed claim. -/
  | sign
deriving DecidableEq, Repr

/-- What a call gives. -/
inductive Answer where
  /-- A token. -/
  | token (token : Token)
  /-- A signed claim. -/
  | assertion (assertion : String)
deriving DecidableEq, Repr

/-- A call that was made. -/
structure Made where
  /-- What was asked for. -/
  call : Call
  /-- The journal before the call. -/
  before : Journal
  /-- What the call gave. -/
  result : Except Failure Answer
  /-- What the call entered in the journal. -/
  entries : Journal

/-- The journal after a call. -/
def Made.after (m : Made) : Journal := m.before ++ m.entries

namespace Session

/-- The action of a call. -/
def call (s : Session) : Call → Action Answer
  | .login => Answer.token <$> s.login
  | .sign => Answer.assertion <$> s.signedClaim

/-- Make a call after what is in a journal. -/
def make (s : Session) (before : Journal) (call : Call) : Made :=
  let (result, after) := (s.call call).after before
  { call, before, result, entries := after.drop before.length }

/-- Make calls one after the other, each after the journal that the one before it left. -/
def run (s : Session) : Journal → List Call → List Made
  | _, [] => []
  | before, call :: rest =>
    let made := s.make before call
    made :: s.run made.after rest

/-- How a call can go. -/
inductive Goes (s : Session) : Made → Prop
  /-- A claim is signed, or not. -/
  | sign {before : Journal} {result : Except Failure String} {entries : Journal} :
    s.Signing before result entries →
    Goes s ⟨.sign, before, result.map .assertion, entries⟩
  /-- A login goes its steps and reports how they ended. -/
  | login {before : Journal} {result : Except Failure Token} {entries : Journal} :
    s.Steps before result entries →
    Goes s ⟨.login, before, (result.mapError explain).map .token,
      entries ++ [.event (lastEvent s.options result)]⟩

/-- A signing call gives what having the claim signed gives. -/
theorem call_sign_after {s : Session} {before : Journal} {result : Except Failure String}
    {entries : Journal} (h : s.signedClaim.after before = (result, before ++ entries)) :
    (s.call .sign).after before = (result.map .assertion, before ++ entries) := by
  rw [Session.call, Action.after_map, h]

/-- A login gives what its steps give, explained, and reports how they ended. -/
theorem call_login_after {s : Session} {before : Journal} {result : Except Failure Token}
    {entries : Journal} (h : s.attempt.after before = (result, before ++ entries)) :
    (s.call .login).after before = ((result.mapError explain).map .token,
      before ++ (entries ++ [.event (lastEvent s.options result)])) := by
  rw [Session.call, Action.after_map, login_after, h, List.append_assoc]

/-- What a call makes of its action, which only adds to the journal. -/
theorem make_of_after {s : Session} {before : Journal} {call : Call}
    {result : Except Failure Answer} {entries : Journal}
    (h : (s.call call).after before = (result, before ++ entries)) :
    s.make before call = ⟨call, before, result, entries⟩ := by
  simp [make, h]

/-- A call keeps the journal before it, and goes one of these ways. -/
theorem make_goes (s : Session) (before : Journal) (call : Call) :
    (s.call call).after before = ((s.make before call).result, (s.make before call).after) ∧
      s.Goes (s.make before call) := by
  cases call with
  | sign =>
    obtain ⟨result, entries, hafter, hsigning⟩ := s.exists_signing before
    rw [make_of_after (call_sign_after hafter)]
    exact ⟨call_sign_after hafter, .sign hsigning⟩
  | login =>
    obtain ⟨result, entries, hafter, hsteps⟩ := s.exists_attempt before
    rw [make_of_after (call_login_after hafter)]
    exact ⟨call_login_after hafter, .login hsteps⟩

/-- A run has the calls that were asked for. -/
theorem run_calls (s : Session) (before : Journal) (calls : List Call) :
    (s.run before calls).map Made.call = calls := by
  induction calls generalizing before with
  | nil => rfl
  | cons call rest ih =>
    simp only [run, List.map_cons, ih]
    rfl

/-- Every call of a run is made after the journal that it keeps. -/
theorem eq_make_of_mem_run {s : Session} {before : Journal} {calls : List Call} {made : Made}
    (h : made ∈ s.run before calls) : made = s.make made.before made.call := by
  induction calls generalizing before with
  | nil => simp [run] at h
  | cons call rest ih =>
    rcases List.mem_cons.mp h with rfl | h
    · rfl
    · exact ih h

/-- Every call of a run goes one of the ways a call can go. -/
theorem goes_of_mem_run {s : Session} {before : Journal} {calls : List Call} {made : Made}
    (h : made ∈ s.run before calls) : s.Goes made := by
  rw [eq_make_of_mem_run h]
  exact (s.make_goes made.before made.call).2

end Session

end IamLogin
