import IamLogin.Proofs.Json.RoundTrip
import IamLogin.Proofs.MountPath
import IamLogin.Proofs.Order
import IamLogin.Proofs.SigningTarget
import IamLogin.Proofs.Time.Timestamp

/-!
# What stands in the requests of a login

A claim is written twice: as a text in ASCII, and that text once more as a string in the body of the
request for a signature. Whoever reads the body and then the string in it gets the claim back, of the
account that was found out, directed at the role of the options, and expiring after the time that the
clock showed in this call. What the signer answers goes to the vault in the same way. So a claim can be
told from the text that was sent, and claims that differ are never sent as the same text.
-/

namespace IamLogin

/-! ## Claims as texts -/

namespace Claims

variable {c : Claims}

/-- A claim whose texts are joined and whose expiry has no more digits than are converted is legible. -/
theorem legible_members (hsubject : c.subject.IsJoined) (haudience : c.audience.IsJoined)
    (h : (Decimal.ofNat c.expiry.natAbs).length ≤ Json.Reader.digitLimit) :
    Json.Legible Json.Reader.depthLimit (.obj c.members) := by
  refine .obj ?_ ?_ ?_
  · intro member hmember
    simp only [members, List.mem_cons, List.not_mem_nil, or_false] at hmember
    rcases hmember with rfl | rfl | rfl <;> exact Text.isJoined_ofString _
  · simp only [Entries.keys, members, List.map_cons, List.map_nil]
    decide
  · intro member hmember
    simp only [members, List.mem_cons, List.not_mem_nil, or_false] at hmember
    rcases hmember with rfl | rfl | rfl
    · exact .str hsubject
    · exact .str haudience
    · exact .int h

/-- Members have a text exactly if nothing keeps them from being written. -/
theorem payload_eq_ok_iff {members : Json.Members} {text : String} :
    payload members = .ok text ↔
      Json.Writer.fault? Json.Reader.depthLimit (.obj members) = none ∧
        Json.render .payload (.obj members) = text := by
  unfold payload Json.write
  cases Json.Writer.fault? Json.Reader.depthLimit (.obj members) <;> simp [Except.mapError]

/-- A claim can be written exactly if its expiry has no more digits than are converted. -/
theorem fault?_members : Json.Writer.fault? Json.Reader.depthLimit (.obj c.members) = none ↔
    (Decimal.ofNat c.expiry.natAbs).length ≤ Json.Reader.digitLimit := by
  simp [Json.Writer.fault?, Json.Writer.membersFault?, members, Json.Reader.depthLimit]

/-- A claim for a moment that exists and with a validity within the limit can be written. -/
theorem exists_payload_make (role account : Text) {validity : Duration} {now : Moment}
    (hnow : now.isValid = true) (hvalidity : validity.IsValid) :
    ∃ text, payload (make role validity account now).members = .ok text :=
  ⟨_, payload_eq_ok_iff.mpr
    ⟨fault?_members.mpr (Moment.digits_expiry_le hnow hvalidity (Nat.le_refl _)), rfl⟩⟩

/-- The text of a claim is read as the claim. -/
theorem readBytes_payload (hsubject : c.subject.IsJoined) (haudience : c.audience.IsJoined)
    {text : String} (h : payload c.members = .ok text) :
    Json.readBytes (Utf8.encode text.toList) = .ok (.obj c.members) := by
  obtain ⟨hfault, rfl⟩ := payload_eq_ok_iff.mp h
  exact Json.readBytes_render Json.Style.payload_separates
    (legible_members hsubject haudience (fault?_members.mp hfault))

/-- The text of a claim is printable ASCII. -/
theorem printable_payload (hsubject : c.subject.IsJoined) (haudience : c.audience.IsJoined)
    {text : String} (h : payload c.members = .ok text) :
    ∀ d ∈ text.toList, 0x20 ≤ d.toNat ∧ d.toNat ≤ 0x7E := by
  intro d hd
  obtain ⟨hfault, rfl⟩ := payload_eq_ok_iff.mp h
  rw [Json.render, String.toList_ofList] at hd
  have hwritten := Json.Writer.isWritten_of_mem_value Json.Style.payload_separates
    (legible_members hsubject haudience (fault?_members.mp hfault)) hd
  exact ⟨hwritten.1, hwritten.2 rfl⟩

/-- A claim can be told from its members. -/
theorem members_injective {c d : Claims} (h : c.members = d.members) : c = d := by
  simp only [members, List.cons.injEq, Prod.mk.injEq, true_and, and_true] at h
  obtain ⟨hsubject, haudience, hexpiry⟩ := h
  cases c
  cases d
  simp only [mk.injEq]
  exact ⟨Json.str.inj hsubject, Json.str.inj haudience, Json.int.inj hexpiry⟩

/-- What a claim is directed at tells the role. -/
theorem audienceFor_injective {role other : Text} (h : audienceFor role = audienceFor other) :
    role = other :=
  List.append_cancel_left h

end Claims

/-! ## Bodies -/

/-- A body of texts under different names is read from its bytes as the object that was posted. -/
theorem Posting.readBytes_of_request {p : Posting} {request : Request} (h : p.request = .ok request)
    (hnames : (p.body.map Prod.fst).Nodup) :
    Json.readBytes (Utf8.encode request.body.toList) =
      .ok (.ofMembers (p.body.map fun m => (m.1, .str m.2))) := by
  obtain ⟨_, _, _, hwritable, rfl⟩ := request_eq_ok.mp h
  have hmembers : Json.ofMembers (p.body.map fun m => (m.1, .str m.2)) =
      .obj (p.body.map fun m => (Text.ofString m.1, .str m.2)) := by
    rw [Json.ofMembers, List.map_map]
    rfl
  change Json.readBytes (Utf8.encode (Json.render .body _).toList) = _
  rw [hmembers]
  refine Json.readBytes_render Json.Style.body_separates (.obj ?_ ?_ ?_)
  · intro member hmember
    obtain ⟨_, _, rfl⟩ := List.mem_map.mp hmember
    exact Text.isJoined_ofString _
  · rw [List.Nodup, List.pairwise_map] at hnames
    rw [Entries.keys, List.map_map, List.Nodup, List.pairwise_map]
    exact hnames.imp fun hne heq => hne (Text.ofString_injective heq)
  · intro member hmember
    obtain ⟨m, hm, rfl⟩ := List.mem_map.mp hmember
    -- what can be written has no lone halves, so none are joined
    obtain ⟨cs, hcs⟩ := Text.isSome_toChars?_iff.mp (List.all_eq_true.mp hwritable m hm)
    rw [hcs]
    exact .str (Text.isJoined_ofChars cs)

/-! ## Logins -/

/-- What the signer answered stands behind a signature that came of a request. -/
theorem Signer.exists_answer {s : Signer} {earlier : Nat} {request : Request}
    {signature : Signature} (h : s.outcome earlier request = .ok signature) :
    ∃ answer, s.endpoint earlier request = .ok answer ∧
      Signature.ofResponse answer = .ok signature := by
  obtain ⟨answer, houtcome, hsignature⟩ := except_bind_eq_ok.mp h
  obtain ⟨given, hgiven, houtcome⟩ := except_bind_eq_ok.mp houtcome
  obtain ⟨_, _, houtcome⟩ := except_bind_eq_ok.mp houtcome
  cases houtcome
  exact ⟨answer, hgiven, hsignature⟩

/-- An exchange that asks the vault begins with the request. -/
theorem Transport.Course.exists_request {t : Transport} {method assertion mount role : Text}
    {before : Journal} {result : Except Failure Token} {entries : Journal}
    (h : t.Course method assertion mount role before result entries) {request : Request}
    (hsent : .request .vault request ∈ entries) :
    ∃ v : Vault, (v.posting assertion mount role).request = .ok request ∧
      ∃ later, entries = .request .vault request :: later := by
  cases h with
  | @vault v _ _ _ _ _ _ _ h =>
    cases h with
    | unsent _ => cases hsent
    | refused hrequest _ =>
      cases List.mem_singleton.mp hsent
      exact ⟨v, hrequest, [], rfl⟩
    | granted hrequest _ =>
      rcases List.mem_cons.mp hsent with heq | hsent
      · cases heq
        exact ⟨v, hrequest, _, rfl⟩
      · cases List.mem_singleton.mp hsent
  | custom => cases List.mem_singleton.mp hsent

/-- What goes over the wire in a login. -/
structure Wire where
  /-- The account that logs in. -/
  account : String
  /-- The role that it logs in as. -/
  role : String
  /-- What the clock showed. -/
  now : Moment
  /-- The text of the claim. -/
  payload : String
  /-- What the signer answered. -/
  assertion : String
  /-- The request for a signature. -/
  iam : Request
  /-- The request for a token. -/
  vault : Request

namespace Session

/-- What the requests of a call carry. -/
structure Carries (s : Session) (made : Made) (w : Wire) : Prop where
  /-- The account was found out, and is not empty. -/
  account : s.options.accountId s.credential = .ok (Text.ofString w.account) ∧ w.account ≠ ""
  /-- The role is that of the options. -/
  role : s.options.role = Text.ofString w.role
  /-- The time was read in this call. -/
  now : s.reading made.before.clockReads = .ok w.now
  /-- The requests were made after that, one for the signer and one for the vault. -/
  sent : ∃ event later, made.entries =
    .clockRead :: .request .iam w.iam :: .event event :: .request .vault w.vault :: later
  /-- The signer was asked in the name of the account. -/
  asked : ∃ project, s.options.projectId s.credential = .ok project ∧
    s.signer.request (Signer.resource project (Text.ofString w.account))
      (s.claimsAt (Text.ofString w.account) w.now).members
      (s.credential.bind Credential.token) = .ok w.iam
  /-- The request for a signature carries the payload and nothing else. -/
  iamBody : Json.readBytes (Utf8.encode w.iam.body.toList) =
    .ok (.ofMembers [("payload", Json.ofString w.payload)])
  /-- The payload is printable ASCII. -/
  printable : ∀ c ∈ w.payload.toList, 0x20 ≤ c.toNat ∧ c.toNat ≤ 0x7E
  /-- The payload is the claim. -/
  claims : Json.readBytes (Utf8.encode w.payload.toList) =
    .ok (.ofMembers [("sub", Json.ofString w.account),
      ("aud", Json.ofString ("vault/" ++ w.role)),
      ("exp", .int (w.now.timestamp + s.options.validity.wholeSeconds))])
  /-- The assertion is what the signer answered. -/
  answered : ∃ answer signature,
    s.signer.endpoint (made.before.requestsTo .iam).length w.iam = .ok answer ∧
      Signature.ofResponse answer = .ok signature ∧ signature.assertion = w.assertion
  /-- The request for a token carries the role and the assertion and nothing else. -/
  vaultBody : Json.readBytes (Utf8.encode w.vault.body.toList) =
    .ok (.ofMembers [("role", Json.ofString w.role), ("jwt", Json.ofString w.assertion)])

/-- The members of the claim of an account. -/
theorem members_claimsAt {s : Session} {role : String} (h : s.options.role = Text.ofString role)
    (account : String) (now : Moment) :
    Json.obj (s.claimsAt (Text.ofString account) now).members =
      .ofMembers [("sub", Json.ofString account), ("aud", Json.ofString ("vault/" ++ role)),
        ("exp", .int (now.timestamp + s.options.validity.wholeSeconds))] := by
  simp only [claimsAt, Claims.make, Claims.audienceFor, Claims.members, h, ← Text.ofString_append]
  rfl

/-- A payload tells the account, the role and the expiry. -/
theorem Carries.injective {s s' : Session} {made made' : Made} {w w' : Wire}
    (h : s.Carries made w) (h' : s'.Carries made' w') (hpayload : w'.payload = w.payload) :
    w'.account = w.account ∧ s'.options.role = s.options.role ∧
      w'.now.timestamp + s'.options.validity.wholeSeconds =
        w.now.timestamp + s.options.validity.wholeSeconds := by
  have hread := h'.claims
  rw [hpayload, h.claims, ← members_claimsAt h.role, ← members_claimsAt h'.role] at hread
  injection hread with hread
  injection hread with hread
  injection Claims.members_injective hread with haccount haudience hexpiry
  exact ⟨(Text.ofString_injective haccount).symm, (Claims.audienceFor_injective haudience).symm,
    hexpiry.symm⟩

/-- Before the vault is asked, the ids, the time and the signature are there, and nothing else was asked
for. -/
theorem Goes.reaches_vault {s : Session} {made : Made} (h : s.Goes made) {vault : Request}
    (hsent : .request .vault vault ∈ made.entries) :
    ∃ (v : Vault) (project account : Text) (now : Moment) (iam : Request)
      (signature : Signature) (later : Journal),
      s.options.projectId s.credential = .ok project ∧
      s.options.accountId s.credential = .ok account ∧
      s.reading made.before.clockReads = .ok now ∧
      s.signer.request (Signer.resource project account) (s.claimsAt account now).members
        (s.credential.bind Credential.token) = .ok iam ∧
      s.signer.outcome (made.before.requestsTo .iam).length iam = .ok signature ∧
      (v.posting signature.assertion s.options.mountPath s.options.role).request = .ok vault ∧
      made.entries = .clockRead :: .request .iam iam ::
        .event (.signed (Signer.resource project account) signature.keyId) ::
        .request .vault vault :: later := by
  cases h with
  | sign h =>
    have hno := h.isUse_eq_false _ hsent
    cases hno
  | @login before result entries h =>
    rcases List.mem_append.mp hsent with hsteps | hlast
    · cases h with
      | unsigned h =>
        have hno := h.isUse_eq_false _ hsteps
        cases hno
      | @exchanged _ signing _ exchange hsigning hexchange =>
        rcases List.mem_append.mp hsteps with hbefore | hafter
        · have hno := hsigning.isUse_eq_false _ hbefore
          cases hno
        · obtain ⟨v, hvault, rest, rfl⟩ := hexchange.exists_request hafter
          cases hsigning with
          | asked hproject haccount hnow hcourse =>
            cases hcourse with
            | signed hrequest houtcome =>
              exact ⟨v, _, _, _, _, _, _, hproject, haccount, hnow, hrequest, houtcome, hvault, rfl⟩
    · cases List.mem_singleton.mp hlast

/-- In a call of a run that asks the vault for a token, the requests carry the claim, and what the
signer made of it, to their ends. From the payload alone it can be told who logs in, as what and until
when. -/
theorem run_carries {s : Session} {before : Journal} {calls : List Call}
    {made : Made} (hmade : made ∈ s.run before calls) {vault : Request}
    (hsent : .request .vault vault ∈ made.entries) :
    ∃ w : Wire, w.vault = vault ∧ s.Carries made w ∧
      ∀ (s' : Session) (made' : Made) (w' : Wire), s'.Carries made' w' → w'.payload = w.payload →
        w'.account = w.account ∧ s'.options.role = s.options.role ∧
          w'.now.timestamp + s'.options.validity.wholeSeconds =
            w.now.timestamp + s.options.validity.wholeSeconds := by
  obtain ⟨v, project, account, now, iam, signature, later, hproject, haccount, hnow, hiam, hsigned,
    hvault, hentries⟩ := (goes_of_mem_run hmade).reaches_vault hsent
  obtain ⟨answer, hanswer, hsignature⟩ := Signer.exists_answer hsigned
  obtain ⟨payload, hpayload, hposted⟩ := Signer.request_eq_ok_iff.mp hiam
  -- what was sent had no lone halves in it
  obtain ⟨_, hurl, -⟩ := Posting.request_eq_ok.mp hposted
  obtain ⟨account, rfl⟩ := (Signer.isWhole_ids_of_url hurl).2.exists_ofString
  obtain ⟨_, -, -, hwritable, -⟩ := Posting.request_eq_ok.mp hvault
  obtain ⟨role, hrole⟩ := (Vault.isWritable_posting_iff.mp hwritable).1.exists_ofString
  have hsubject : (s.claimsAt (Text.ofString account) now).subject.IsJoined :=
    Text.isJoined_ofString account
  have haudience : (s.claimsAt (Text.ofString account) now).audience.IsJoined := by
    change Text.IsJoined (Text.ofString "vault/" ++ s.options.role)
    rw [hrole, ← Text.ofString_append]
    exact Text.isJoined_ofString _
  let w : Wire := ⟨account, role, now, payload, signature.assertion, iam, vault⟩
  have hcarries : s.Carries made w :=
    { account := by
        refine ⟨haccount, ?_⟩
        rintro rfl
        exact Subject.resolve_ne_empty haccount rfl
      role := hrole
      now := hnow
      sent := ⟨_, later, hentries⟩
      asked := ⟨project, hproject, hiam⟩
      iamBody := Posting.readBytes_of_request hposted (List.nodup_singleton _)
      printable := Claims.printable_payload hsubject haudience hpayload
      claims := by
        rw [← members_claimsAt hrole]
        exact Claims.readBytes_payload hsubject haudience hpayload
      answered := ⟨answer, signature, hanswer, hsignature, rfl⟩
      vaultBody := by
        have hread := Posting.readBytes_of_request hvault (by decide : ["role", "jwt"].Nodup)
        simp only [Vault.posting, hrole] at hread
        exact hread }
  exact ⟨w, rfl, hcarries, fun s' made' w' => hcarries.injective⟩

/-- A session whose services grant what they are asked for. -/
def granted : Session where
  options :=
    { role := "role \"r\"", supplier := none, mountPath := "gcp", validity := ⟨900000000⟩
      account := some (Accessor.constant (some "a\\b"))
      project := some (Accessor.constant (some "p")), clock := .system }
  credential := none
  signer :=
    { address := "https://iam.example"
      endpoint := fun _ _ => .ok
        { status := ⟨200⟩, headers := []
          body := Utf8.encode
            (Json.render .body (.ofMembers [("signedJwt", Json.ofString "jwt")])).toList } }
  transport := .vault
    { address := "https://vault.example", space := none, endpoint := fun _ _ => .error .badHeader }
  systemTime := fun _ => ⟨1970, 1, 1, 0, 0, 0, 0, none⟩

/-- The request for a token that it makes. -/
def grantedRequest : Request where
  url :=
    { scheme := "https".toList, userinfo := [], host := "vault.example".toList, port := none
      path := "/v1/auth/gcp/login".toList, query := none, fragment := none }
  headers := [("accept", "*/*"), ("content-length", "33"), ("content-type", "application/json"),
    ("host", "vault.example")]
  body := Json.render .body
    (.ofMembers [("role", Json.ofString "role \"r\""), ("jwt", Json.ofString "jwt")])

/-- Quotes and backslashes come through. -/
theorem run_carries_granted :
    Effect.request .vault grantedRequest ∈ (granted.make [] .login).entries ∧
      ∃ w : Wire, w.vault = grantedRequest ∧ granted.Carries (granted.make [] .login) w ∧
        ∀ (s' : Session) (made' : Made) (w' : Wire), s'.Carries made' w' →
          w'.payload = w.payload → w'.account = w.account ∧
            s'.options.role = granted.options.role ∧
              w'.now.timestamp + s'.options.validity.wholeSeconds =
                w.now.timestamp + granted.options.validity.wholeSeconds := by
  have hsent : Effect.request .vault grantedRequest ∈ (granted.make [] .login).entries := by
    decide +kernel
  exact ⟨hsent, run_carries (show _ ∈ granted.run [] [.login] from List.mem_cons_self) hsent⟩

end Session

end IamLogin
