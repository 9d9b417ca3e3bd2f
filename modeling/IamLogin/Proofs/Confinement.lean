import IamLogin.Proofs.Opening
import IamLogin.Proofs.Secrecy
import IamLogin.Proofs.Url.Authority

/-!
# Where the access token goes

The access token of a credential stands in the authorization header of the requests to the signer and
nowhere else. Two sessions that differ in nothing but the token, with signers that do not look at that
header, give the same results, ask the vault the same, and ask the signer the same but for that header.
What stands in the header is the token, unless it is empty or missing, or the address of the signer
names a user of its own.
-/

namespace IamLogin

/-! ## Requests without authorization -/

namespace Request

/-- A request without its authorization headers. -/
def withoutAuthorization (r : Request) : Request :=
  { r with headers := Entries.erase "authorization" r.headers }

/-- The values of the authorization headers of a request. -/
def authorizations (r : Request) : List Text :=
  (r.headers.filter fun h => h.1 = "authorization").map Prod.snd

/-- Whether the one authorization header of a request has a token, or there is none if the token is
missing or empty. -/
structure Bears (r : Request) (token : Option Text) : Prop where
  /-- A token that is not empty stands in the header. -/
  present : ∀ text, token = some text → text ≠ [] →
    r.authorizations = [Text.ofString "Bearer " ++ text]
  /-- Without such a token there is no header. -/
  absent : token = none ∨ token = some [] → r.authorizations = []

/-- Without the authorization headers a request still goes where it goes. -/
theorem url_eq {r r' : Request} (h : r.withoutAuthorization = r'.withoutAuthorization) :
    r.url = r'.url := by
  have hurl := congrArg Request.url h
  exact hurl

end Request

/-- An effect without the authorization headers of a request to the signer. -/
def Effect.withoutAuthorization : Effect → Effect
  | .request .iam r => .request .iam r.withoutAuthorization
  | effect => effect

/-- The view of whoever sees everything but the authorization headers of the requests to the signer. -/
def openView : View where
  Sight := Effect
  look := Effect.withoutAuthorization
  failures := Eq

/-- An effect is glimpsed without the contents of requests. -/
theorem Effect.glimpse_withoutAuthorization (effect : Effect) :
    effect.withoutAuthorization.glimpse = effect.glimpse := by
  cases effect with
  | request service r => cases service <;> rfl
  | _ => rfl

namespace Journal

variable {before before' : Journal}

/-- What looks the same looks the same at a glimpse. -/
theorem glimpses_eq
    (h : before.map Effect.withoutAuthorization = before'.map Effect.withoutAuthorization) :
    before.map Effect.glimpse = before'.map Effect.glimpse := by
  have hread : ∀ journal : Journal, journal.map Effect.glimpse =
      (journal.map Effect.withoutAuthorization).map Effect.glimpse := by
    intro journal
    rw [List.map_map]
    exact List.map_congr_left fun effect _ => effect.glimpse_withoutAuthorization.symm
  rw [hread, hread before', h]

/-- The requests to the vault are seen whole. -/
theorem requestsTo_vault_eq
    (h : before.map Effect.withoutAuthorization = before'.map Effect.withoutAuthorization) :
    before.requestsTo .vault = before'.requestsTo .vault := by
  have hread : ∀ journal : Journal, journal.requestsTo .vault =
      requestsTo .vault (journal.map Effect.withoutAuthorization) := by
    intro journal
    rw [requestsTo, requestsTo, List.filterMap_map]
    refine List.filterMap_congr fun effect _ => ?_
    cases effect with
    | request service r => cases service <;> rfl
    | _ => rfl
  rw [hread, hread before', h]

/-- The requests to the signer are seen without their authorization headers. -/
theorem requestsTo_iam_eq
    (h : before.map Effect.withoutAuthorization = before'.map Effect.withoutAuthorization) :
    (before.requestsTo .iam).map Request.withoutAuthorization =
      (before'.requestsTo .iam).map Request.withoutAuthorization := by
  have hread : ∀ journal : Journal,
      (journal.requestsTo .iam).map Request.withoutAuthorization =
        requestsTo .iam (journal.map Effect.withoutAuthorization) := by
    intro journal
    rw [requestsTo, requestsTo, List.filterMap_map, List.map_filterMap]
    refine List.filterMap_congr fun effect _ => ?_
    cases effect with
    | request service r => cases service <;> rfl
    | _ => rfl
  rw [hread, hread, h]

end Journal

/-- The open view shows how often each thing was done. -/
theorem openView_counts : openView.Counts where
  requestsTo h := logView_counts.requestsTo (Journal.glimpses_eq h)
  clockReads h := logView_counts.clockReads (Journal.glimpses_eq h)
  refl _ := rfl

/-! ## What is posted -/

namespace Posting

variable {p p' : Posting}

/-- Postings that differ in authorization headers at most make requests that differ in these at
most. -/
theorem requestTo_withoutAuthorization (haccept : p.accept = p'.accept) (hbody : p.body = p'.body)
    (hheaders : Entries.erase "authorization" p.headers = Entries.erase "authorization" p'.headers)
    (url : Url) :
    (p.requestTo url).withoutAuthorization = (p'.requestTo url).withoutAuthorization := by
  have hcontent : p.content = p'.content := by
    unfold content
    rw [hbody]
  have hnamed : Entries.erase "authorization" (p.named url) =
      Entries.erase "authorization" (p'.named url) := by
    simp only [named, Entries.erase_append, hheaders, haccept, hcontent]
  have hput : ∀ p : Posting, Entries.erase "authorization" (p.requestTo url).headers =
      Entries.erase "authorization" (p.named url) := by
    intro p
    simp only [requestTo]
    split
    · rfl
    · exact Entries.erase_put ..
  simp only [Request.withoutAuthorization, hput, hnamed]
  simp only [requestTo, hcontent]

/-- Where nobody is named in the URL, the authorization headers of a request are those of the
posting. -/
theorem authorizations_requestTo {url : Url} (h : basicAuthorization? url = none) :
    (p.requestTo url).authorizations =
      (p.headers.filter fun header => header.1 = "authorization").map Prod.snd := by
  have hhost : (if url.host.isEmpty = true then [] else [("host", Text.ofChars url.netloc)]).filter
      (fun header : String × Text => header.1 = "authorization") = [] := by
    split <;> rfl
  simp only [Request.authorizations, requestTo, h, named, List.filter_append, hhost]
  simp

end Posting

namespace Signer

/-- The requests of a signer differ in the authorization header at most if the tokens do. -/
theorem requestTo_withoutAuthorization (s s' : Signer) (resource : Text) (payload : String)
    (token token' : Option Text) (url : Url) :
    ((s.posting resource payload token).requestTo url).withoutAuthorization =
      ((s'.posting resource payload token').requestTo url).withoutAuthorization := by
  have hheaders : ∀ (s : Signer) (token : Option Text),
      Entries.erase "authorization" (s.posting resource payload token).headers = [] := by
    intro s token
    cases token with
    | none => rfl
    | some text =>
      simp only [posting]
      split <;> rfl
  have hsame : Entries.erase "authorization" (s.posting resource payload token).headers =
      Entries.erase "authorization" (s'.posting resource payload token').headers := by
    rw [hheaders, hheaders]
  refine Posting.requestTo_withoutAuthorization ?_ ?_ hsame url <;> rfl

/-- Whether the address of a signer names no user. -/
def NamesNobody (s : Signer) : Prop :=
  ∀ base, Posting.base s.address = .ok base → base.userinfo = []

/-- Under an address that names nobody, a request has the token in its authorization header. -/
theorem bears_of_request {s : Signer} {resource : Text} {payload : String} {token : Option Text}
    (haddress : s.NamesNobody) {request : Request}
    (h : (s.posting resource payload token).request = .ok request) : request.Bears token := by
  obtain ⟨url, hurl, -, -, rfl⟩ := Posting.request_eq_ok.mp h
  obtain ⟨base, hbase, hplace⟩ := except_bind_eq_ok.mp hurl
  obtain ⟨address, -, hread⟩ := Posting.exists_chars_of_base hbase
  obtain ⟨way, hway, hunder⟩ := Posting.exists_chars_of_place hplace
  obtain ⟨rest, rfl⟩ : ∃ rest, way = '/' :: 'v' :: rest := by
    have hfront : ∃ more, (s.posting resource payload token).path = .char '/' :: .char 'v' :: more :=
      ⟨_, rfl⟩
    obtain ⟨more, hmore⟩ := hfront
    rw [hway] at hmore
    obtain ⟨_, _, rfl, hslash, htail⟩ := List.map_eq_cons_iff.mp hmore
    obtain ⟨_, rest, rfl, hletter, -⟩ := List.map_eq_cons_iff.mp htail
    rw [Symbol.char.inj hslash, Symbol.char.inj hletter]
    exact ⟨rest, rfl⟩
  have hnobody : Posting.basicAuthorization? url = none :=
    Posting.basicAuthorization?_eq_none
      (Url.userinfo_under hread (haddress base hbase) (by decide) rest hunder)
  constructor
  · rintro text rfl htext
    rw [Posting.authorizations_requestTo hnobody]
    have hempty : text.isEmpty = false := by
      rw [← Bool.not_eq_true, List.isEmpty_iff]
      exact htext
    simp [posting, hempty]
  · intro habsent
    rw [Posting.authorizations_requestTo hnobody]
    rcases habsent with rfl | rfl <;> rfl

end Signer

/-! ## Sessions -/

/-- Whether two calls that were made are the same but for the authorization headers of the requests to
the signer. -/
structure Made.SameButAuthorization (made made' : Made) : Prop where
  /-- They asked for the same. -/
  call : made.call = made'.call
  /-- They gave the same, or failed in the same way with the same failures behind. -/
  result : made.result = made'.result
  /-- They sent the same to the vault. -/
  vault : made.entries.requestsTo .vault = made'.entries.requestsTo .vault
  /-- They sent the same to the signer but for the authorization headers. -/
  iam : (made.entries.requestsTo .iam).map Request.withoutAuthorization =
    (made'.entries.requestsTo .iam).map Request.withoutAuthorization
  /-- In everything else they did the same. -/
  entries : made.entries.map Effect.withoutAuthorization =
    made'.entries.map Effect.withoutAuthorization

/-- Whether two sessions differ in nothing but the token, and the signer does not look at it. -/
structure Session.DifferInToken (s t : Session) : Prop where
  /-- The options and the clocks are the same, and so are the credentials but for the token. -/
  twins : s.Twins t
  /-- The tokens can stand in a header. -/
  tokens : ∀ token, s.credential.bind Credential.token = some token ∨
    t.credential.bind Credential.token = some token → Posting.isSendable token = true
  /-- The signers are asked under one address. -/
  address : s.signer.address = t.signer.address
  /-- The signers answer in the same way whatever stands in the authorization header. -/
  endpoint : ∀ earlier r r', r.withoutAuthorization = r'.withoutAuthorization →
    s.signer.endpoint earlier r = t.signer.endpoint earlier r'
  /-- The transports are the same. -/
  transport : s.transport = t.transport

/-- An exchange of one assertion goes the same way after journals that look the same. -/
theorem Transport.exchange_coupled (t : Transport) (method assertion mount role : Text) :
    Coupled openView Eq (t.exchange method assertion mount role)
      (t.exchange method assertion mount role) := by
  cases t with
  | vault v =>
    have hanswered : Coupled openView Eq
        ((v.posting assertion mount role).send .vault v.endpoint)
        ((v.posting assertion mount role).send .vault v.endpoint) := by
      refine Coupled.send openView_counts .vault .rfl ?_ ?_ ?_
      · rintro r _ rfl
        exact ⟨rfl, rfl⟩
      · rintro earlier r _ rfl
        exact .rfl
      · rintro answer _ rfl
        exact ⟨rfl, rfl⟩
    have hasked : Coupled openView Eq
        ((v.posting assertion mount role).send .vault v.endpoint >>= fun answer =>
          Action.ofExcept (Vault.readAnswer method answer))
        ((v.posting assertion mount role).send .vault v.endpoint >>= fun answer =>
          Action.ofExcept (Vault.readAnswer method answer)) := by
      refine .bind hanswered ?_
      rintro answer _ rfl
      exact .ofExcept .rfl
    simp only [exchange, Vault.exchange]
    refine .bind (.tryCatch hasked ?_) ?_
    · rintro failure _ rfl
      exact .throw rfl
    · rintro grant _ rfl
      exact .bind (.report _) fun _ _ _ => .ofExcept .rfl
  | custom handover =>
    refine .bind .get fun before before' hbefore => ?_
    refine .bind (.record rfl) fun _ _ _ => ?_
    have hearlier : handovers before = handovers before' := by
      rw [Journal.handovers_eq, Journal.handovers_eq, Journal.glimpses_eq hbefore]
    rw [hearlier]
    exact .ofExcept .rfl

namespace Session.DifferInToken

variable {s t : Session}

/-- Having members signed goes the same way whatever the token. -/
theorem sign_coupled (h : s.DifferInToken t) (project account : Text) (claims : Json.Members) :
    Coupled openView Eq
      (s.signer.sign project account claims (s.credential.bind Credential.token))
      (t.signer.sign project account claims (t.credential.bind Credential.token)) := by
  have hrequest : ∀ payload, Alike Eq (fun r r' => r.withoutAuthorization = r'.withoutAuthorization)
      (s.signer.posting (Signer.resource project account) payload
        (s.credential.bind Credential.token)).request
      (t.signer.posting (Signer.resource project account) payload
        (t.credential.bind Credential.token)).request := by
    intro payload
    refine (Signer.posting_request_alike h.address _ payload
      (fun token htoken => h.tokens token (.inl htoken))
      fun token htoken => h.tokens token (.inr htoken)).mono (fun _ _ => id) ?_
    rintro _ _ ⟨url, rfl, rfl⟩
    exact Signer.requestTo_withoutAuthorization ..
  have hanswered : ∀ payload, Coupled openView Eq
      ((s.signer.posting (Signer.resource project account) payload
        (s.credential.bind Credential.token)).send .iam s.signer.endpoint)
      ((t.signer.posting (Signer.resource project account) payload
        (t.credential.bind Credential.token)).send .iam t.signer.endpoint) := by
    intro payload
    refine Coupled.send openView_counts .iam (hrequest payload) ?_ ?_ ?_
    · intro r r' hsame
      exact ⟨Request.url_eq hsame, congrArg (Effect.request .iam) hsame⟩
    · intro earlier r r' hsame
      rw [h.endpoint earlier r r' hsame]
      exact .rfl
    · rintro answer _ rfl
      exact ⟨rfl, rfl⟩
  have hasked : ∀ payload, Coupled openView Eq
      ((s.signer.posting (Signer.resource project account) payload
          (s.credential.bind Credential.token)).send .iam s.signer.endpoint >>= fun answer =>
        Action.ofExcept (Signature.ofResponse answer))
      ((t.signer.posting (Signer.resource project account) payload
          (t.credential.bind Credential.token)).send .iam t.signer.endpoint >>= fun answer =>
        Action.ofExcept (Signature.ofResponse answer)) := by
    intro payload
    refine .bind (hanswered payload) ?_
    rintro answer _ rfl
    exact .ofExcept .rfl
  simp only [Signer.sign]
  refine .bind (.ofExcept .rfl) fun payload _ hsame => ?_
  subst hsame
  refine .bind (.tryCatch (hasked payload) ?_) ?_
  · rintro failure _ rfl
    exact .throw rfl
  · rintro signature _ rfl
    exact .bind (.report _) fun _ _ _ => .pure rfl

/-- Having a claim signed goes the same way. -/
theorem signedClaim_coupled (h : s.DifferInToken t) :
    Coupled openView Eq s.signedClaim t.signedClaim :=
  h.twins.signedClaim_coupled openView_counts h.sign_coupled

/-- Logging in goes the same way. -/
theorem login_coupled (h : s.DifferInToken t) : Coupled openView Eq s.login t.login := by
  refine h.twins.login_coupled h.signedClaim_coupled ?_ ?_
  · rintro assertion _ rfl mount role
    rw [h.transport]
    exact t.transport.exchange_coupled methodName assertion mount role
  · rintro failure _ rfl
    exact ⟨rfl, rfl⟩

/-- Every call goes the same way. -/
theorem call_coupled (h : s.DifferInToken t) (call : Call) :
    Coupled openView Eq (s.call call) (t.call call) := by
  cases call with
  | login => exact .map h.login_coupled fun _ _ htoken => congrArg Answer.token htoken
  | sign => exact .map h.signedClaim_coupled fun _ _ hassertion => congrArg Answer.assertion hassertion

end Session.DifferInToken

/-- Calls that look the same are the same but for the authorization headers. -/
theorem Made.Coupled.sameButAuthorization {made made' : Made}
    (h : made.Coupled openView Eq made') : made.SameButAuthorization made' where
  call := h.call
  result := h.result.eq
  vault := Journal.requestsTo_vault_eq h.entries
  iam := Journal.requestsTo_iam_eq h.entries
  entries := h.entries

namespace Session

/-- Where nobody is named in the address of the signer, its requests bear the token. -/
theorem bears_of_mem_run {s : Session} (haddress : s.signer.NamesNobody) {before : Journal}
    {calls : List Call} {made : Made} (hmade : made ∈ s.run before calls) {request : Request}
    (hmem : request ∈ made.entries.requestsTo .iam) :
    request.Bears (s.credential.bind Credential.token) := by
  obtain ⟨project, account, now, -, -, hrequest⟩ := (goes_of_mem_run hmade).asks hmem
  obtain ⟨payload, -, hposted⟩ := Signer.request_eq_ok_iff.mp hrequest
  exact Signer.bears_of_request haddress hposted

/-- Runs of sessions that differ in nothing but the token are the same, call by call, but for the
authorization headers of the requests to the signer; and these have the token, if nobody is named in the
address of the signer. -/
theorem run_confined {s t : Session} (h : s.DifferInToken t) (before : Journal)
    (calls : List Call) :
    List.Forall₂ Made.SameButAuthorization (s.run before calls) (t.run before calls) ∧
      (s.signer.NamesNobody →
        (∀ made ∈ s.run before calls, ∀ request ∈ made.entries.requestsTo .iam,
          request.Bears (s.credential.bind Credential.token)) ∧
        ∀ made ∈ t.run before calls, ∀ request ∈ made.entries.requestsTo .iam,
          request.Bears (t.credential.bind Credential.token)) := by
  refine ⟨?_, fun haddress => ⟨?_, ?_⟩⟩
  · exact (run_coupled h.call_coupled rfl calls).imp fun _ _ hmade => hmade.sameButAuthorization
  · intro made hmade request hmem
    exact bears_of_mem_run haddress hmade hmem
  · intro made hmade request hmem
    have haddress' : t.signer.NamesNobody := by
      unfold Signer.NamesNobody at haddress ⊢
      rwa [← h.address]
    exact bears_of_mem_run haddress' hmade hmem

/-- The address of the signer names nobody. -/
theorem holding_namesNobody (token assertion secret reason : String) :
    (holding token assertion secret reason).signer.NamesNobody := by
  intro base h
  have hread : ((Posting.base (Text.ofString "https://iam.example")).toOption.map Url.userinfo) =
      some [] := by decide +kernel
  have hbase : Posting.base (Text.ofString "https://iam.example") = .ok base := h
  rw [hbase] at hread
  exact Option.some.inj hread

/-- A token and an empty one differ in the authorization header of the request, and in nothing else. -/
theorem run_confined_holding :
    (holding "token" "assertion" "secret" "reason").DifferInToken
        (holding "" "assertion" "secret" "reason") ∧
      List.Forall₂ Made.SameButAuthorization
        ((holding "token" "assertion" "secret" "reason").run [] [.sign])
        ((holding "" "assertion" "secret" "reason").run [] [.sign]) ∧
      (∀ made ∈ (holding "token" "assertion" "secret" "reason").run [] [.sign],
        ∀ request ∈ made.entries.requestsTo .iam, request.authorizations = [Text.ofString "Bearer token"]) ∧
      (∀ made ∈ (holding "" "assertion" "secret" "reason").run [] [.sign],
        ∀ request ∈ made.entries.requestsTo .iam, request.authorizations = []) ∧
      ((holding "token" "assertion" "secret" "reason").run [] [.sign]).map
        (fun made => (made.entries.requestsTo .iam).length) = [1] := by
  have hdiffer : (holding "token" "assertion" "secret" "reason").DifferInToken
      (holding "" "assertion" "secret" "reason") := by
    refine ⟨?_, ?_, rfl, fun _ _ _ _ => rfl, rfl⟩
    · exact (holding_differInSecrets "secret" "secret" "reason" "reason" (by decide) (by decide)
        (by decide) (by decide)).twins
    · rintro text (hgiven | hgiven) <;> cases hgiven <;> decide
  obtain ⟨hsame, hbears⟩ := run_confined hdiffer [] [.sign]
  obtain ⟨htoken, hempty⟩ := hbears (holding_namesNobody _ _ _ _)
  refine ⟨hdiffer, hsame, ?_, ?_, by decide +kernel⟩
  · intro made hmade request hmem
    exact (htoken made hmade request hmem).present (Text.ofString "token") rfl (by decide)
  · intro made hmade request hmem
    exact (hempty made hmade request hmem).absent (.inr rfl)

end Session

end IamLogin
