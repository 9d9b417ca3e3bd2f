import IamLogin.Options

/-!
# Claims

A claim says who logs in, at which role it is directed and when it expires. It is signed as a JSON
text whose members stand in this order, so the same claim always gives the same text.
-/

namespace IamLogin

/-- A claim. -/
structure Claims where
  /-- The account that logs in. -/
  subject : Text
  /-- What the claim is directed at. -/
  audience : Text
  /-- When the claim expires, in seconds since the epoch. -/
  expiry : Int
deriving DecidableEq, Repr

namespace Claims

/-- What a claim for a role is directed at. -/
def audienceFor (role : Text) : Text := Text.ofString "vault/" ++ role

/-- The claim of an account at a moment: it expires after the validity, counted in whole seconds. -/
def make (role : Text) (validity : Duration) (account : Text) (now : Moment) : Claims :=
  { subject := account
    audience := audienceFor role
    expiry := now.timestamp + validity.wholeSeconds }

/-- The members of a claim in order. -/
def members (c : Claims) : Json.Members := [
  (Text.ofString "sub", .str c.subject),
  (Text.ofString "aud", .str c.audience),
  (Text.ofString "exp", .int c.expiry)]

/-- The text of members that are to be signed. -/
def payload (members : Json.Members) : Except Failure String :=
  (Json.write .payload (.obj members)).mapError .unwritable

end Claims

end IamLogin
