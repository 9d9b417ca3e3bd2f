import IamLogin.Proofs.Json.RoundTrip
import IamLogin.Proofs.Twins

/-!
# What the log keeps to itself

Two sessions that differ in nothing but secrets report the same events, whatever calls are made of them
and however those end. The requests of the two runs differ, and so do the wordings of their failures; but
step by step the runs look the same to whoever reads the log, and so does what comes after.
-/

namespace IamLogin

/-- Whether two signers differ in nothing but the assertions that they make. -/
structure Signer.DifferInSecrets (s s' : Signer) : Prop where
  /-- They are asked under one address. -/
  address : s.address = s'.address
  /-- To the same text they give answers that differ in the assertion at most. -/
  endpoint : Endpoint.Alike Failure.SameKind (fun r r' => r.url = r'.url ∧ r.body = r'.body)
    Signature.AnswersAlike s.endpoint s'.endpoint

/-- Whether two vaults differ in nothing but what they say. -/
structure Vault.DifferInSecrets (v v' : Vault) : Prop where
  /-- They are asked under one address. -/
  address : v.address = v'.address
  /-- The same part of them is meant. -/
  space : v.space = v'.space
  /-- Whatever assertion is sent to one place, they give answers that differ in secrets at most. -/
  endpoint : Endpoint.Alike Failure.SameKind (fun r r' => r.url = r'.url) Grant.AnswersAlike
    v.endpoint v'.endpoint

/-- Whether two transports differ in nothing but what is secret. -/
inductive Transport.DifferInSecrets : Transport → Transport → Prop
  /-- Two vaults. -/
  | vault {v v' : Vault} : v.DifferInSecrets v' → DifferInSecrets (.vault v) (.vault v')
  /-- Two transports of the callers' own, which fail in the same way. -/
  | custom {handover handover' : Handover} :
    (∀ earlier method assertion assertion' mount role,
      Alike Failure.SameKind (fun _ _ => True) (handover earlier method assertion mount role)
        (handover' earlier method assertion' mount role)) →
    DifferInSecrets (.custom handover) (.custom handover')

/-- Whether two sessions differ in nothing but what is secret. -/
structure Session.DifferInSecrets (s t : Session) : Prop where
  /-- The options are the same. -/
  options : s.options.withoutSupplier = t.options.withoutSupplier
  /-- The accessors look past the token. -/
  accessors : ∀ accessor, s.options.project = some accessor ∨ s.options.account = some accessor →
    accessor.IgnoresToken
  /-- The credentials differ in the token at most. -/
  credential : s.credential.map Credential.withoutToken = t.credential.map Credential.withoutToken
  /-- The tokens can stand in a header. -/
  tokens : ∀ token, s.credential.bind Credential.token = some token ∨
    t.credential.bind Credential.token = some token → Posting.isSendable token = true
  /-- The clock of the system shows the same. -/
  systemTime : s.systemTime = t.systemTime
  /-- The signers differ in assertions at most. -/
  signer : s.signer.DifferInSecrets t.signer
  /-- The transports differ in secrets at most. -/
  transport : s.transport.DifferInSecrets t.transport

/-! ## Steps -/

/-- Having members signed looks the same whatever the token and the assertion. -/
theorem Signer.DifferInSecrets.sign_coupled {s s' : Signer} (h : s.DifferInSecrets s')
    (project account : Text) (claims : Json.Members) {token token' : Option Text}
    (htoken : ∀ text, token = some text → Posting.isSendable text = true)
    (htoken' : ∀ text, token' = some text → Posting.isSendable text = true) :
    Coupled logView (fun _ _ => True) (s.sign project account claims token)
      (s'.sign project account claims token') := by
  have hrequest : ∀ payload, Alike Failure.SameKind (fun r r' => r.url = r'.url ∧ r.body = r'.body)
      (s.posting (resource project account) payload token).request
      (s'.posting (resource project account) payload token').request := by
    intro payload
    refine (posting_request_alike h.address _ payload htoken htoken').mono ?_ ?_
    · rintro failure _ rfl
      exact .refl failure
    · rintro _ _ ⟨url, rfl, rfl⟩
      exact ⟨rfl, rfl⟩
  have hanswered := fun payload => Coupled.send logView_counts .iam (hrequest payload)
    (fun _ _ hrequests => ⟨hrequests.1, rfl⟩) h.endpoint
    fun _ _ hanswers => ⟨hanswers.status, hanswers.headers⟩
  have hasked : ∀ payload, Coupled logView
      (fun signature signature' : Signature => signature.keyId = signature'.keyId)
      ((s.posting (resource project account) payload token).send .iam s.endpoint >>= fun answer =>
        Action.ofExcept (Signature.ofResponse answer))
      ((s'.posting (resource project account) payload token').send .iam s'.endpoint >>= fun answer =>
        Action.ofExcept (Signature.ofResponse answer)) := fun payload =>
    .bind (hanswered payload) fun _ _ hanswers => .ofExcept (Signature.ofResponse_alike hanswers)
  have hpayload : Coupled logView Eq (Action.ofExcept (Claims.payload claims))
      (Action.ofExcept (Claims.payload claims)) :=
    .ofExcept (.refl Failure.SameKind.refl (fun _ => rfl) _)
  unfold sign
  refine .bind hpayload fun payload _ hsame => ?_
  subst hsame
  refine .bind (.tryCatch (hasked payload) fun failure failure' hkind => ?_)
    fun signature signature' hkey => ?_
  · exact .throw (hkind.signer_explain _)
  · rw [hkey]
    exact .bind (.report _) fun _ _ _ => .pure trivial

/-- An exchange looks the same whatever the assertion and what the vault says. -/
theorem Vault.DifferInSecrets.exchange_coupled {v v' : Vault} (h : v.DifferInSecrets v')
    (method : Text) (assertion assertion' : String) (mount role : Text) :
    Coupled logView (fun _ _ => True) (v.exchange method assertion mount role)
      (v'.exchange method assertion' mount role) := by
  have hanswered := Coupled.send logView_counts .vault
    (posting_request_alike h.address h.space assertion assertion' mount role)
    (fun _ _ hrequests => ⟨hrequests, rfl⟩) h.endpoint
    fun _ _ hanswers => ⟨hanswers.status, hanswers.headers⟩
  have hasked : Coupled logView
      (fun grant grant' : Grant => grant.leaseSeconds = grant'.leaseSeconds)
      ((v.posting assertion mount role).send .vault v.endpoint >>= fun answer =>
        Action.ofExcept (readAnswer method answer))
      ((v'.posting assertion' mount role).send .vault v'.endpoint >>= fun answer =>
        Action.ofExcept (readAnswer method answer)) :=
    .bind hanswered fun _ _ hanswers => .ofExcept (readAnswer_alike method hanswers)
  unfold exchange
  refine .bind (.tryCatch hasked fun failure failure' hkind => ?_) fun grant grant' hlease => ?_
  · exact .throw (hkind.vault_explain method)
  · exact .bind (.report _) fun _ _ _ => .ofExcept (Grant.token_alike hlease)

/-- Transports that differ in secrets look the same. -/
theorem Transport.DifferInSecrets.exchange_coupled {t t' : Transport} (h : t.DifferInSecrets t')
    (method : Text) (assertion assertion' : String) (mount role : Text) :
    Coupled logView (fun _ _ => True) (t.exchange method assertion mount role)
      (t'.exchange method assertion' mount role) := by
  cases h with
  | vault h => exact h.exchange_coupled method assertion assertion' mount role
  | custom hhandover =>
    refine .bind .get fun before before' hbefore => ?_
    refine .bind (.record rfl) fun _ _ _ => ?_
    have hearlier : Transport.handovers before = Transport.handovers before' := by
      rw [Journal.handovers_eq, Journal.handovers_eq]
      exact congrArg (List.count _) hbefore
    rw [hearlier]
    exact .ofExcept (hhandover _ method assertion assertion' mount role)

namespace Session.DifferInSecrets

variable {s t : Session}

/-- Such sessions are twins. -/
theorem twins (h : s.DifferInSecrets t) : s.Twins t :=
  ⟨h.options, h.accessors, h.credential, h.systemTime⟩

/-- Having a claim signed looks the same. -/
theorem signedClaim_coupled (h : s.DifferInSecrets t) :
    Coupled logView (fun _ _ => True) s.signedClaim t.signedClaim :=
  h.twins.signedClaim_coupled logView_counts fun project account claims =>
    h.signer.sign_coupled project account claims (fun token htoken => h.tokens token (.inl htoken))
      fun token htoken => h.tokens token (.inr htoken)

/-- Logging in looks the same. -/
theorem login_coupled (h : s.DifferInSecrets t) :
    Coupled logView (fun _ _ => True) s.login t.login := by
  refine h.twins.login_coupled h.signedClaim_coupled ?_ ?_
  · intro assertion assertion' _ mount role
    exact h.transport.exchange_coupled methodName assertion assertion' mount role
  · intro failure failure' hkind
    exact ⟨Failure.SameKind.failureEvent_eq hkind t.options, Failure.SameKind.session_explain hkind⟩

/-- Every call looks the same. -/
theorem call_coupled (h : s.DifferInSecrets t) (call : Call) :
    Coupled logView (fun _ _ => True) (s.call call) (t.call call) := by
  cases call with
  | login => exact .map h.login_coupled fun _ _ _ => trivial
  | sign => exact .map h.signedClaim_coupled fun _ _ _ => trivial

/-- A call after journals that look the same makes entries that look the same. -/
theorem make_glimpses (h : s.DifferInSecrets t) {before before' : Journal}
    (hbefore : before.map Effect.glimpse = before'.map Effect.glimpse) (call : Call) :
    (s.make before call).entries.map Effect.glimpse =
      (t.make before' call).entries.map Effect.glimpse := by
  have hmade : (s.make before call).Coupled logView (fun _ _ => True) (t.make before' call) :=
    make_coupled (h.call_coupled call) hbefore
  exact hmade.entries

/-- Runs after journals that look the same report the same events in each of their calls. -/
theorem run_events (h : s.DifferInSecrets t) {before before' : Journal}
    (hbefore : before.map Effect.glimpse = before'.map Effect.glimpse) (calls : List Call) :
    (s.run before calls).map (fun made => made.entries.events) =
      (t.run before' calls).map fun made => made.entries.events := by
  induction calls generalizing before before' with
  | nil => rfl
  | cons call rest ih =>
    have hentries := h.make_glimpses hbefore call
    have hafter : (s.make before call).after.map Effect.glimpse =
        (t.make before' call).after.map Effect.glimpse := by
      unfold Made.after
      rw [List.map_append, List.map_append, hentries]
      exact congrArg (· ++ _) hbefore
    simp only [run, List.map_cons]
    rw [ih hafter, Journal.events_eq hentries]

end Session.DifferInSecrets

/-! ## Sessions that hold secrets -/

namespace Json

/-- An object with one member. -/
theorem Legible.single {room : Nat} (name : String) {v : Json} (h : Legible room v) :
    Legible (room + 1) (.ofMembers [(name, v)]) := by
  refine .obj ?_ (by simp [Entries.keys]) ?_
  · intro member hmember
    cases List.mem_singleton.mp hmember
    exact Text.isJoined_ofString name
  · intro member hmember
    cases List.mem_singleton.mp hmember
    exact h

/-- Members that are one text under one name differ in that text at most. -/
theorem DifferAt.single (name : String) {sort : Text → Prop} {text text' : Text} (h : sort text)
    (h' : sort text') :
    DifferAt name sort [(Text.ofString name, .str text)] [(Text.ofString name, .str text')] where
  others other hother := by
    have hname : ¬ Text.ofString name = Text.ofString other :=
      fun heq => hother (Text.ofString_injective heq).symm
    simp only [member?, Entries.get?, if_neg hname]
  left := ⟨text, h, by simp only [member?, Entries.get?, if_pos]⟩
  right := ⟨text', h', by simp only [member?, Entries.get?, if_pos]⟩

end Json

namespace Response

/-- An answer with a value in its body. -/
def holding (code : Nat) (v : Json) : Response where
  status := ⟨code⟩
  headers := []
  body := Utf8.encode (Json.render .body v).toList

/-- The value in the body is read as it is. -/
theorem readBytes_holding (code : Nat) {v : Json} (h : Json.Legible Json.Reader.depthLimit v) :
    Json.readBytes (holding code v).body = .ok v :=
  Json.readBytes_render Json.Style.body_separates h

/-- An answer with an assertion. -/
def signed (assertion : String) : Response :=
  holding 200 (.ofMembers [("signedJwt", Json.ofString assertion)])

/-- An answer with the secret of a token. -/
def granted (secret : String) : Response :=
  holding 200 (.ofMembers [("auth", .ofMembers [("client_token", Json.ofString secret)])])

/-- A refusal with a reason. -/
def refused (reason : String) : Response :=
  holding 403 (.ofMembers [("errors", .arr [Json.ofString reason])])

/-- Two answers that differ in the signature are alike. -/
theorem signed_alike {assertion assertion' : String} (h : assertion ≠ "") (h' : assertion' ≠ "") :
    Signature.AnswersAlike (signed assertion) (signed assertion') := by
  have hread : ∀ text, Json.readBytes (signed text).body =
      .ok (.obj [(Text.ofString "signedJwt", Json.ofString text)]) := by
    intro text
    exact readBytes_holding 200 (.single "signedJwt" (.ofString text))
  exact ⟨rfl, rfl, .inr ⟨_, _, hread assertion, hread assertion',
    .single "signedJwt" ⟨assertion, h, rfl⟩ ⟨assertion', h', rfl⟩⟩⟩

/-- Two answers that differ in the token are alike. -/
theorem granted_alike (secret secret' : String) :
    Grant.AnswersAlike (granted secret) (granted secret') := by
  have hread : ∀ text, Json.readBytes (granted text).body =
      .ok (.obj [(Text.ofString "auth",
        .obj [(Text.ofString "client_token", Json.ofString text)])]) := by
    intro text
    exact readBytes_holding 200 (.single "auth" (.single "client_token" (.ofString text)))
  have hauth : ∀ auth, Json.member? "auth" [(Text.ofString "auth", auth)] = some auth := by
    intro auth
    simp only [Json.member?, Entries.get?, if_pos]
  exact ⟨rfl, rfl, .inr (.inr ⟨_, _, _, _, hread secret, hread secret', hauth _, hauth _,
    .single "client_token" trivial trivial⟩)⟩

/-- Two refusals that differ in the reason are alike. -/
theorem refused_alike (reason reason' : String) :
    Grant.AnswersAlike (refused reason) (refused reason') := by
  have hshallow : ∀ text container,
      Json.readBytes (refused text).body ≠ .error (.tooDeep container) := by
    intro text container hdeep
    have hreasons : ∀ item ∈ [Json.ofString text], Json.Legible 988 item := by
      intro item hitem
      cases List.mem_singleton.mp hitem
      exact .ofString text
    rw [refused, readBytes_holding 403 (.single "errors" (.arr hreasons))] at hdeep
    cases hdeep
  exact ⟨rfl, rfl, .inr (.inl ⟨rfl, hshallow reason, hshallow reason'⟩)⟩

end Response

namespace Session

/-- A session with these secrets: the vault gives a token once and refuses from then on. -/
def holding (token assertion secret reason : String) : Session where
  options :=
    { role := "role", supplier := none, mountPath := "gcp", validity := ⟨900000000⟩
      account := none, project := none, clock := .system }
  credential := some ⟨"account", "project", none, some token⟩
  signer :=
    { address := "https://iam.example"
      endpoint := fun _ _ => .ok (.signed assertion) }
  transport := .vault
    { address := "https://vault.example", space := none
      endpoint := fun earlier _ =>
        if earlier = 0 then .ok (.granted secret) else .ok (.refused reason) }
  systemTime := fun _ => ⟨1970, 1, 1, 0, 0, 0, 0, none⟩

/-- Two of these sessions differ in nothing but their secrets. -/
theorem holding_differInSecrets {token token' assertion assertion' : String}
    (secret secret' reason reason' : String) (htoken : Posting.isSendable token = true)
    (htoken' : Posting.isSendable token' = true) (hassertion : assertion ≠ "")
    (hassertion' : assertion' ≠ "") :
    (holding token assertion secret reason).DifferInSecrets
      (holding token' assertion' secret' reason') where
  options := rfl
  accessors := by
    rintro accessor (hgiven | hgiven) <;> cases hgiven
  credential := rfl
  tokens := by
    rintro text (hgiven | hgiven) <;> cases hgiven
    · exact htoken
    · exact htoken'
  systemTime := rfl
  signer := ⟨rfl, fun _ _ _ _ => .ok (Response.signed_alike hassertion hassertion')⟩
  transport := by
    refine .vault ⟨rfl, rfl, ?_⟩
    intro earlier r r' _
    by_cases hfirst : earlier = 0
    · simp only [if_pos hfirst]
      exact .ok (Response.granted_alike secret secret')
    · simp only [if_neg hfirst]
      exact .ok (Response.refused_alike reason reason')

/-- A login and a refused one look the same whatever the secrets. -/
theorem run_events_holding :
    (holding "token" "assertion" "secret" "reason").DifferInSecrets
        (holding "other token" "other assertion" "other secret" "other reason") ∧
      ((holding "token" "assertion" "secret" "reason").run [] [.login, .login]).map
          (fun made => made.entries.events) =
        [[.signed "projects/project/serviceAccounts/account" none, .exchanged "GCP-IAM" "gcp",
            .succeeded "gcp" "role"],
          [.signed "projects/project/serviceAccounts/account" none, .failed "gcp" "role" none]] ∧
      ((holding "token" "assertion" "secret" "reason").run [] [.login, .login]).map
          (fun made => made.entries.events) =
        ((holding "other token" "other assertion" "other secret" "other reason").run []
          [.login, .login]).map fun made => made.entries.events := by
  have hdiffer : (holding "token" "assertion" "secret" "reason").DifferInSecrets
      (holding "other token" "other assertion" "other secret" "other reason") :=
    holding_differInSecrets "secret" "other secret" "reason" "other reason" (by decide) (by decide)
      (by decide) (by decide)
  refine ⟨hdiffer, by decide +kernel, ?_⟩
  exact hdiffer.run_events rfl [.login, .login]

end Session

end IamLogin
