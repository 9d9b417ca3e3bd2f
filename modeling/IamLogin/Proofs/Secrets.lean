import IamLogin.Proofs.Fields
import IamLogin.Proofs.LogView

/-!
# Where the secrets go

Three things are secret in a login: the access token of the credential, the assertion that the signer
makes, and what the vault says, be it a token or the reasons of a refusal. Each goes into one place and
decides nothing else: the token into a header, the assertion into a body, the words of the vault into a
token or the wording of a failure. What each step makes of two inputs that differ in secrets is alike.
-/

namespace IamLogin

/-! ## Credentials -/

/-- A credential without its token. -/
def Credential.withoutToken (c : Credential) : Credential := { c with token := none }

/-- Whether an accessor looks past the token of a credential. -/
def Accessor.IgnoresToken (accessor : Accessor) : Prop :=
  ∀ c, accessor (some c) = accessor (some c.withoutToken)

namespace Accessor

variable {accessor : Accessor} {credential credential' : Option Credential}

/-- An accessor that ignores the token reads the same of credentials that differ in it. -/
theorem IgnoresToken.eq (h : accessor.IgnoresToken)
    (hcredential : credential.map Credential.withoutToken =
      credential'.map Credential.withoutToken) :
    accessor credential = accessor credential' := by
  cases credential with
  | none =>
    cases credential' with
    | none => rfl
    | some c' => cases hcredential
  | some c =>
    cases credential' with
    | none => cases hcredential
    | some c' =>
      injection hcredential with heq
      rw [h c, h c', heq]

/-- Only the part that is the token tells the token. -/
theorem part_ignoresToken {name : String} (h : name ≠ "token") : (part name).IgnoresToken := by
  intro c
  have hpart : c.part? name = c.withoutToken.part? name := by
    unfold Credential.part?
    split
    · rfl
    · rfl
    · rfl
    · exact absurd rfl h
    · rfl
  unfold part
  simp only [hpart]

end Accessor

/-- An id does not depend on the token. -/
theorem Subject.resolve_eq (subject : Subject) {given : Option Accessor}
    (hgiven : ∀ accessor, given = some accessor → accessor.IgnoresToken)
    {credential credential' : Option Credential}
    (hcredential : credential.map Credential.withoutToken =
      credential'.map Credential.withoutToken) :
    subject.resolve given credential = subject.resolve given credential' := by
  have hignores : (given.getD subject.fromCredential).IgnoresToken := by
    cases given with
    | some accessor => exact hgiven accessor rfl
    | none =>
      cases subject with
      | project => exact Accessor.part_ignoresToken (by decide)
      | account => exact Accessor.part_ignoresToken (by decide)
  unfold resolve
  rw [hignores.eq hcredential]

/-! ## Requests -/

namespace Posting

/-- Where a request goes depends on neither body nor headers, and of these it only matters whether they
can be sent. -/
theorem request_alike {p p' : Posting} (haddress : p.address = p'.address)
    (hpath : p.path = p'.path) (haccept : p.accept = p'.accept)
    (hheaders : p.headers.all (fun h => isSendable h.2) =
      p'.headers.all fun h => isSendable h.2) (hbody : p.isWritable = p'.isWritable) :
    Alike Eq (fun r r' => ∃ url, r = p.requestTo url ∧ r' = p'.requestTo url) p.request
      p'.request := by
  have hurl : p.url = p'.url := by
    unfold url
    rw [haddress, hpath]
  have hnamed : ∀ url, (p.named url).all (fun h => isSendable h.2) =
      (p'.named url).all fun h => isSendable h.2 := by
    intro url
    unfold named
    simp only [List.all_append, List.all_cons, List.all_nil, isSendable_text, hheaders, haccept]
  rw [request_eq, request_eq, hurl]
  cases p'.url with
  | error failure => exact .error rfl
  | ok url =>
    rw [except_ok_bind, except_ok_bind, hnamed, hbody]
    split
    · split
      · exact .ok ⟨url, rfl, rfl⟩
      · exact .error rfl
    · exact .error rfl

end Posting

namespace Signer

/-- A claim is sent to the same place, whatever the token. -/
theorem posting_request_alike {s s' : Signer} (haddress : s.address = s'.address)
    (resource : Text) (payload : String) {token token' : Option Text}
    (htoken : ∀ text, token = some text → Posting.isSendable text = true)
    (htoken' : ∀ text, token' = some text → Posting.isSendable text = true) :
    Alike Eq (fun r r' => ∃ url, r = (s.posting resource payload token).requestTo url ∧
        r' = (s'.posting resource payload token').requestTo url)
      (s.posting resource payload token).request (s'.posting resource payload token').request := by
  have hbearer : ∀ text, Posting.isSendable text = true →
      Posting.isSendable (Text.ofString "Bearer " ++ text) = true := by
    intro text htext
    rw [Posting.isSendable, List.all_append]
    exact Bool.and_eq_true_iff.mpr ⟨by decide, htext⟩
  have hall : ∀ (s : Signer) (token : Option Text),
      (∀ text, token = some text → Posting.isSendable text = true) →
      (s.posting resource payload token).headers.all (fun h => Posting.isSendable h.2) = true := by
    intro s token htoken
    cases token with
    | none => rfl
    | some text =>
      simp only [posting]
      split
      · rfl
      · simp only [List.all_cons, List.all_nil, Bool.and_true]
        exact hbearer text (htoken text rfl)
  have hplace : (s.posting resource payload token).address =
      (s'.posting resource payload token').address := haddress
  exact Posting.request_alike hplace rfl rfl (by rw [hall s token htoken, hall s' token' htoken']) rfl

end Signer

/-- An assertion is sent to the same place, whatever it is. -/
theorem Vault.posting_request_alike {v v' : Vault} (haddress : v.address = v'.address)
    (hspace : v.space = v'.space) (assertion assertion' : String) (mount role : Text) :
    Alike Failure.SameKind (fun r r' => r.url = r'.url)
      (v.posting assertion mount role).request (v'.posting assertion' mount role).request := by
  have hplace : (v.posting assertion mount role).address =
      (v'.posting assertion' mount role).address := haddress
  have hheaders : (v.posting assertion mount role).headers =
      (v'.posting assertion' mount role).headers := by
    simp only [posting, hspace]
  have hbody : (v.posting assertion mount role).isWritable =
      (v'.posting assertion' mount role).isWritable := by
    simp only [Posting.isWritable, posting, List.all_cons, Text.toChars?_ofString, Option.isSome_some]
  refine (Posting.request_alike hplace rfl rfl (by rw [hheaders]) hbody).mono ?_ ?_
  · rintro failure _ rfl
    exact .refl failure
  · rintro _ _ ⟨url, rfl, rfl⟩
    rfl

/-! ## Answers -/

/-- Whether members differ at most in the text under a name, which is of one sort in both. -/
structure Json.DifferAt (name : String) (sort : Text → Prop) (members members' : Json.Members) :
    Prop where
  /-- The other members agree. -/
  others : ∀ other, other ≠ name → Json.member? other members = Json.member? other members'
  /-- There is a text in the one. -/
  left : ∃ text, sort text ∧ Json.member? name members = some (.str text)
  /-- There is a text in the other. -/
  right : ∃ text, sort text ∧ Json.member? name members' = some (.str text)

/-- Whether a text can be an assertion: it is not empty, and has no lone half. -/
def Signature.IsAssertion (text : Text) : Prop :=
  ∃ assertion, assertion ≠ "" ∧ text = Text.ofString assertion

/-- Whether two answers of the signer differ in the assertion at most. -/
structure Signature.AnswersAlike (a a' : Response) : Prop where
  /-- They end the request in the same way. -/
  status : a.status = a'.status
  /-- Nothing differs before the bodies. -/
  headers : a.headers = a'.headers
  /-- The bodies are the same, or objects that differ in the assertion at most. -/
  body : a.body = a'.body ∨ ∃ members members',
    Json.readBytes a.body = .ok (.obj members) ∧ Json.readBytes a'.body = .ok (.obj members') ∧
      Json.DifferAt "signedJwt" Signature.IsAssertion members members'

/-- Whether two answers of the vault differ at most in the token that they give or in the reasons
that they give for a refusal. -/
structure Grant.AnswersAlike (a a' : Response) : Prop where
  /-- They end the request in the same way. -/
  status : a.status = a'.status
  /-- Nothing differs before the bodies. -/
  headers : a.headers = a'.headers
  /-- The bodies are the same, or those of refusals that are not nested too deeply, or what they say
  about the token differs in its secret at most. -/
  body : a.body = a'.body ∨
    (a.status.isError = true ∧ (∀ container, Json.readBytes a.body ≠ .error (.tooDeep container)) ∧
      ∀ container, Json.readBytes a'.body ≠ .error (.tooDeep container)) ∨
    ∃ members members' auth auth',
      Json.readBytes a.body = .ok (.obj members) ∧ Json.readBytes a'.body = .ok (.obj members') ∧
      Json.member? "auth" members = some (.obj auth) ∧
      Json.member? "auth" members' = some (.obj auth') ∧
      Json.DifferAt "client_token" (fun _ => True) auth auth'

namespace Signature

/-- The signature in members with an assertion that is no more than a text. -/
theorem check_eq {members : Json.Members} {text : String} (htext : text ≠ "")
    (hmember : Json.member? "signedJwt" members = some (Json.ofString text)) :
    check members = Checked.map (fun keyId => ⟨keyId, text⟩)
      (Field.allow "keyId" none Field.text?
        ((Json.member? "keyId" members).or (Json.member? "key_id" members))) := by
  have hassertion : Field.need "signedJwt" Field.nonemptyText
      ((Json.member? "signedJwt" members).or (Json.member? "signed_jwt" members)) =
        .valid text := by
    rw [hmember, Option.some_or, Field.need, Field.nonemptyText_eq_ok_iff.mpr ⟨htext, rfl⟩]
    rfl
  unfold check
  simp only [hassertion]
  cases Field.allow "keyId" none Field.text?
    ((Json.member? "keyId" members).or (Json.member? "key_id" members)) <;> rfl

/-- The signature in a good answer whose body is an object. -/
theorem ofResponse_eq {answer : Response} (hstatus : answer.status.isSuccess = true)
    {members : Json.Members} (hread : Json.readBytes answer.body = .ok (.obj members)) :
    ofResponse answer = match check members with
      | .valid signature => .ok signature
      | .invalid issues => .error (.invalid .answer issues) := by
  unfold ofResponse
  rw [hstatus, hread]
  change (match check members with
    | .valid signature => Pure.pure signature
    | .invalid issues => throw (Failure.invalid .answer issues)) = _
  cases check members <;> rfl

/-- Answers that differ in the assertion at most name the same key. -/
theorem ofResponse_alike {a a' : Response} (h : AnswersAlike a a') :
    Alike Failure.SameKind (fun signature signature' => signature.keyId = signature'.keyId)
      (ofResponse a) (ofResponse a') := by
  have hrefl : ∀ outcome : Except Failure Signature, Alike Failure.SameKind
      (fun signature signature' => signature.keyId = signature'.keyId) outcome outcome := by
    intro outcome
    refine .refl Failure.SameKind.refl ?_ outcome
    intro signature
    rfl
  cases hstatus : a.status.isSuccess with
  | false =>
    have hbad : ∀ answer : Response, answer.status = a.status →
        ofResponse answer = .error (.badStatus a.status) := by
      intro answer heq
      unfold ofResponse
      rw [heq, hstatus]
      rfl
    rw [hbad a rfl, hbad a' h.status.symm]
    exact hrefl _
  | true =>
    have hstatus' : a'.status.isSuccess = true := by rw [← h.status, hstatus]
    rcases h.body with hbody | ⟨members, members', hread, hread', hdiffer⟩
    · have heq : ofResponse a = ofResponse a' := by
        unfold ofResponse
        rw [h.status, hbody]
      rw [heq]
      exact hrefl _
    · obtain ⟨_, ⟨text, htext, rfl⟩, hmember⟩ := hdiffer.left
      obtain ⟨_, ⟨text', htext', rfl⟩, hmember'⟩ := hdiffer.right
      rw [ofResponse_eq hstatus hread, ofResponse_eq hstatus' hread', check_eq htext hmember,
        check_eq htext' hmember', hdiffer.others "keyId" (by decide),
        hdiffer.others "key_id" (by decide)]
      cases Field.allow "keyId" none Field.text?
          ((Json.member? "keyId" members').or (Json.member? "key_id" members')) with
      | valid keyId => exact .ok rfl
      | invalid issues => exact .error (.refl _)

end Signature

/-- What an answer that refuses says of its reasons: they are shown if there are any, and the status if
not, unless its body is nested too deeply. -/
theorem Vault.refusal_eq {answer : Response}
    (h : ∀ container, Json.readBytes answer.body ≠ .error (.tooDeep container)) :
    refusal answer = .ok (((Json.readBytes answer.body).toOption.bind reasons?).elim
      (Text.ofString (statusLine answer)) fun reasons =>
        List.intercalate (Text.ofString "; ") (reasons.map Json.display)) := by
  unfold refusal
  cases hread : Json.readBytes answer.body with
  | ok body =>
    cases hreasons : reasons? body <;>
      simp [hreasons, Except.toOption, pure, Except.pure]
  | error fault =>
    -- a body that is no JSON is taken for one without reasons
    have hvalue : (Failure.badBody fault).kind.isValue = true := by
      cases fault with
      | tooDeep container => exact absurd hread (h container)
      | _ => rfl
    have hnull : reasons? .null = none := rfl
    simp [hvalue, hnull, Except.toOption, pure, Except.pure]

namespace Grant

/-- The grant in members with a secret that is a text. -/
theorem check_eq {members : Json.Members} {text : Text}
    (hmember : Json.member? "client_token" members = some (.str text)) :
    check members = Grant.mk text
      <$> Field.optional "renewable" false Field.bool members
      <*> Field.optional "lease_duration" 0 Field.integer members := by
  have hsecret : Field.required "client_token" Field.text members = .valid text := by
    rw [Field.required, hmember]
    rfl
  unfold check
  rw [hsecret]
  cases Field.optional "renewable" false Field.bool members <;> rfl

/-- The grant in an answer whose part about it is an object. -/
theorem ofResponse_eq {answer : Response} {members auth : Json.Members}
    (hread : Json.readBytes answer.body = .ok (.obj members))
    (hauth : Json.member? "auth" members = some (.obj auth)) :
    ofResponse answer = match check auth with
      | .valid grant => .ok grant
      | .invalid issues => .error (.invalid .answer issues) := by
  unfold ofResponse
  rw [hread]
  simp only [mapError_ok, except_ok_bind, Json.members?, hauth]
  rfl

/-- What is said about tokens is read alike if it differs in the secret at most. -/
theorem check_alike {auth auth' : Json.Members}
    (h : Json.DifferAt "client_token" (fun _ => True) auth auth') :
    (∃ issues, check auth = .invalid issues ∧ check auth' = .invalid issues) ∨
      ∃ grant grant', check auth = .valid grant ∧ check auth' = .valid grant' ∧
        grant.leaseSeconds = grant'.leaseSeconds := by
  obtain ⟨text, -, hmember⟩ := h.left
  obtain ⟨text', -, hmember'⟩ := h.right
  have hrenewable : Field.optional "renewable" false Field.bool auth =
      Field.optional "renewable" false Field.bool auth' := by
    rw [Field.optional, Field.optional, h.others "renewable" (by decide)]
  have hlease : Field.optional "lease_duration" 0 Field.integer auth =
      Field.optional "lease_duration" 0 Field.integer auth' := by
    rw [Field.optional, Field.optional, h.others "lease_duration" (by decide)]
  rw [check_eq hmember, check_eq hmember', hrenewable, hlease]
  cases Field.optional "renewable" false Field.bool auth' with
  | valid renewable =>
    cases Field.optional "lease_duration" 0 Field.integer auth' with
    | valid lease => exact .inr ⟨_, _, rfl, rfl, rfl⟩
    | invalid issues => exact .inl ⟨_, rfl, rfl⟩
  | invalid issues =>
    cases Field.optional "lease_duration" 0 Field.integer auth' with
    | valid lease => exact .inl ⟨_, rfl, rfl⟩
    | invalid more => exact .inl ⟨_, rfl, rfl⟩

end Grant

namespace Vault

/-- What is read from a refusal. -/
theorem readAnswer_eq_of_isError (method : Text) {answer : Response}
    (herror : answer.status.isError = true)
    (h : ∀ container, Json.readBytes answer.body ≠ .error (.tooDeep container)) :
    ∃ reasons, readAnswer method answer = .error (.vaultRefused method reasons) := by
  obtain ⟨reasons, hreasons⟩ : ∃ reasons, refusal answer = .ok reasons := ⟨_, refusal_eq h⟩
  refine ⟨reasons, ?_⟩
  unfold readAnswer
  rw [herror, hreasons]
  rfl

/-- What is read from any other answer. -/
theorem readAnswer_eq_of_not_isError (method : Text) {answer : Response}
    (herror : answer.status.isError = false) :
    readAnswer method answer = Grant.ofResponse answer := by
  unfold readAnswer
  rw [herror]
  rfl

/-- The nesting stops the reading of an answer, whatever its status. -/
theorem readAnswer_of_tooDeep (method : Text) {answer : Response} {container : Json.Container}
    (h : Json.readBytes answer.body = .error (.tooDeep container)) :
    readAnswer method answer = .error (.badBody (.tooDeep container)) := by
  unfold readAnswer refusal Grant.ofResponse
  rw [h]
  cases answer.status.isError <;> rfl

/-- Answers that differ in what is secret are read alike: both are refusals, or their leases are of
one length. -/
theorem readAnswer_alike (method : Text) {a a' : Response} (h : Grant.AnswersAlike a a') :
    Alike Failure.SameKind (fun grant grant' => grant.leaseSeconds = grant'.leaseSeconds)
      (readAnswer method a) (readAnswer method a') := by
  have hrefused : a.status.isError = true →
      (∀ container, Json.readBytes a.body ≠ .error (.tooDeep container)) →
      (∀ container, Json.readBytes a'.body ≠ .error (.tooDeep container)) →
      Alike Failure.SameKind (fun grant grant' : Grant => grant.leaseSeconds = grant'.leaseSeconds)
        (readAnswer method a) (readAnswer method a') := by
    intro herror hshallow hshallow'
    obtain ⟨reasons, hread⟩ := readAnswer_eq_of_isError method herror hshallow
    obtain ⟨reasons', hread'⟩ := readAnswer_eq_of_isError method (h.status ▸ herror) hshallow'
    rw [hread, hread']
    exact .error rfl
  rcases h.body with hbody | ⟨herror, hshallow, hshallow'⟩ |
    ⟨members, members', auth, auth', hread, hread', hauth, hauth', hdiffer⟩
  · cases herror : a.status.isError with
    | true =>
      by_cases hdeep : ∃ container, Json.readBytes a.body = .error (.tooDeep container)
      · -- the nesting stops both readings before they come to the phrase
        obtain ⟨container, hdeep⟩ := hdeep
        rw [readAnswer_of_tooDeep method hdeep, readAnswer_of_tooDeep method (hbody ▸ hdeep)]
        exact .error rfl
      · have hshallow := not_exists.mp hdeep
        exact hrefused herror hshallow (hbody ▸ hshallow)
    | false =>
      have hsame : Grant.ofResponse a = Grant.ofResponse a' := by
        unfold Grant.ofResponse
        rw [hbody]
      rw [readAnswer_eq_of_not_isError method herror,
        readAnswer_eq_of_not_isError method (h.status ▸ herror), hsame]
      refine .refl Failure.SameKind.refl ?_ _
      intro grant
      rfl
  · exact hrefused herror hshallow hshallow'
  · cases herror : a.status.isError with
    | true =>
      refine hrefused herror ?_ ?_
      · intro container hdeep
        rw [hread] at hdeep
        cases hdeep
      · intro container hdeep
        rw [hread'] at hdeep
        cases hdeep
    | false =>
      rw [readAnswer_eq_of_not_isError method herror,
        readAnswer_eq_of_not_isError method (h.status ▸ herror), Grant.ofResponse_eq hread hauth,
        Grant.ofResponse_eq hread' hauth']
      rcases Grant.check_alike hdiffer with ⟨issues, hcheck, hcheck'⟩ |
        ⟨grant, grant', hcheck, hcheck', hlease⟩
      · rw [hcheck, hcheck']
        exact .error rfl
      · rw [hcheck, hcheck']
        exact .ok hlease

end Vault

/-- Grants with leases of one length give tokens, or both do not. -/
theorem Grant.token_alike {grant grant' : Grant} (h : grant.leaseSeconds = grant'.leaseSeconds) :
    Alike Failure.SameKind (fun _ _ => True) grant.token grant'.token := by
  unfold token
  rw [h]
  cases Duration.ofSeconds grant'.leaseSeconds with
  | ok lease => exact .ok trivial
  | error fault => exact .error rfl

end IamLogin
