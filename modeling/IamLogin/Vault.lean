import IamLogin.Field.Reading
import IamLogin.Http.Client
import IamLogin.Json.Bytes

/-!
# The vault

The vault exchanges a signed assertion for a token. The exchange is a post under the mount path of
the login method. An answer with an error status is a refusal, with the reasons that the vault
gives or else with its status; the body of any other answer has to hold the token.
-/

namespace IamLogin

/-- The right to use the vault for a while. -/
structure Token where
  /-- The secret that gives the right. -/
  secret : Text
  /-- Whether the right can be renewed. -/
  renewable : Bool
  /-- For how long it is given. -/
  lease : Duration
deriving DecidableEq, Repr

namespace Token

/-- A token as it is shown, without its secret. -/
def inspect (t : Token) : String :=
  "LoginToken(renewable=" ++ (if t.renewable then "True" else "False") ++
    ", lease_duration=" ++ t.lease.inspect ++ ")"

end Token

/-- What the vault says about a token, with the lease in seconds. -/
structure Grant where
  /-- The secret. -/
  secret : Text
  /-- Whether the right can be renewed. -/
  renewable : Bool
  /-- For how many seconds it is given. -/
  leaseSeconds : Int
deriving DecidableEq, Repr

namespace Grant

/-- The grant in the members of the part of an answer that is about it. -/
def check (members : Json.Members) : Checked Grant :=
  Grant.mk
    <$> Field.required "client_token" Field.text members
    <*> Field.optional "renewable" false Field.bool members
    <*> Field.optional "lease_duration" 0 Field.integer members

/-- The grant in the body of an answer. -/
def ofResponse (answer : Response) : Except Failure Grant := do
  let value ← (Json.readBytes answer.body).mapError .badBody
  let checked : Checked Grant := match value.members? with
    | none => .invalid [⟨[], .notObject⟩]
    | some members => match Json.member? "auth" members with
      | none => .invalid [⟨[Text.ofString "auth"], .missing⟩]
      | some (.obj auth) => check auth
      | some _ => .invalid [⟨[Text.ofString "auth"], .notObject⟩]
  match checked with
  | .valid grant => return grant
  | .invalid issues => throw (.invalid .answer issues)

/-- The token that a grant gives. -/
def token (g : Grant) : Except Failure Token := do
  let lease ← (Duration.ofSeconds g.leaseSeconds).mapError .badDuration
  return { secret := g.secret, renewable := g.renewable, lease }

end Grant

/-- A vault. -/
structure Vault where
  /-- Its address. -/
  address : Text
  /-- The part of the vault that is meant, if it has parts. -/
  space : Option Text
  /-- How it reacts. -/
  endpoint : Endpoint

namespace Vault

/-- What is posted to exchange an assertion. -/
def posting (v : Vault) (assertion mount role : Text) : Posting :=
  { address := v.address
    path := Text.ofString "/v1/auth/" ++ mount ++ Text.ofString "/login"
    accept := "*/*"
    headers := match v.space with
      | none => []
      | some space => if space.isEmpty then [] else [("x-vault-namespace", space)]
    body := [("role", role), ("jwt", assertion)] }

/-- The status of an answer in words. -/
def statusLine (answer : Response) : String :=
  let line := "HTTP " ++ Decimal.text answer.status.code ++ " " ++ answer.reason
  String.ofList (trimBoth isBlank line.toList)

/-- The reasons in an error body: a list of them that is not empty. -/
def reasons? (body : Json) : Option (List Json) :=
  match body.members?.bind (Json.member? "errors") with
  | some (.arr (first :: more)) => some (first :: more)
  | _ => none

/-- What the vault says about a refusal. A body that is no JSON says nothing. -/
def refusal (answer : Response) : Except Failure Text := do
  let body ← match Json.readBytes answer.body with
    | .ok body => pure body
    | .error fault =>
      if (Failure.badBody fault).kind.isValue then pure .null else throw (.badBody fault)
  match reasons? body with
  | some reasons => return List.intercalate (Text.ofString "; ") (reasons.map Json.display)
  | none => return Text.ofString (statusLine answer)

/-- The grant in an answer, or the refusal. -/
def readAnswer (method : Text) (answer : Response) : Except Failure Grant := do
  if answer.status.isError then throw (.vaultRefused method (← refusal answer))
  Grant.ofResponse answer

/-- A failure during the exchange, as it is reported. -/
def explain (method : Text) (failure : Failure) : Failure :=
  if failure.kind.isHttp then .vaultFailed method failure
  else if failure.kind.isValue then .vaultMalformed method failure
  else failure

/-- Exchange an assertion for a token. -/
def exchange (v : Vault) (method assertion mount role : Text) : Action Token := do
  let ask : Action Grant := do
    let answer ← (v.posting assertion mount role).send .vault v.endpoint
    Action.ofExcept (readAnswer method answer)
  let grant ← tryCatch ask fun failure => throw (explain method failure)
  Action.report (.exchanged method mount)
  Action.ofExcept grant.token

end Vault

end IamLogin
