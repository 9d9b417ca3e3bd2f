import IamLogin.Field.Problem

/-!
# Checked values

Several fields are checked side by side, and all the issues are reported, in the order of the
fields. `Checked` is a value or the list of issues that keep it from being one; combining two of
them keeps the issues of both, where a chain of steps would stop at the first.
-/

namespace IamLogin

/-- A value, or the issues with it. -/
inductive Checked (α : Type) where
  /-- The value passed. -/
  | valid (value : α)
  /-- These are the issues. -/
  | invalid (issues : List Issue)

namespace Checked

variable {α β : Type}

/-- Apply a function to a value that passed. -/
def map (f : α → β) : Checked α → Checked β
  | valid value => valid (f value)
  | invalid issues => invalid issues

/-- Apply a checked function to a checked value; the issues of both are kept. -/
def seq : Checked (α → β) → Checked α → Checked β
  | valid f, valid value => valid (f value)
  | valid _, invalid issues => invalid issues
  | invalid issues, valid _ => invalid issues
  | invalid issues, invalid more => invalid (issues ++ more)

instance : Applicative Checked where
  pure := valid
  map f x := map f x
  seq f x := seq f (x ())

/-- The issues of a checked value. -/
def issues : Checked α → List Issue
  | valid _ => []
  | invalid issues => issues

/-- The result of checking one field. -/
def ofField (place : List Text) : Except Problem α → Checked α
  | .ok value => valid value
  | .error problem => invalid [⟨place, problem⟩]

/-- Issues that were found beside a value spoil it. -/
def alongside (more : List Issue) : Checked α → Checked α
  | valid value => if more.isEmpty then valid value else invalid more
  | invalid issues => invalid (issues ++ more)

/-- The issues of a function come before those of its argument. -/
theorem issues_seq (f : Checked (α → β)) (x : Checked α) :
    (f <*> x).issues = f.issues ++ x.issues := by
  cases f <;> cases x <;> simp [Seq.seq, seq, issues]

end Checked

end IamLogin
