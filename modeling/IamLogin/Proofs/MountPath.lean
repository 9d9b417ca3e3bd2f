import IamLogin.Proofs.Course
import IamLogin.Proofs.Posting
import IamLogin.Proofs.Url.Server

/-!
# How the mount path reaches the vault

The mount path of the login method stands in the middle of the path that the vault is asked for. It is
escaped, joined to the address of the vault, and escaped again, and what arrives is the path as it was
given: an escape is not escaped once more, and no segment is taken for a direction. That is so for every
mount path of segments with names, in whatever characters, as long as none of them ends the path or begins
an escape. Such paths can be told apart from the URLs that are asked for.
-/

namespace IamLogin

/-- A mount path of segments with names, without characters that have a meaning of their own in a URL.
A lone half has none. -/
structure IsPlainMount (mount : Text) : Prop where
  /-- No query, fragment or escape begins in it. -/
  no_marks : .char '?' ∉ mount ∧ .char '#' ∉ mount ∧ .char '%' ∉ mount
  /-- No control character stands in it. -/
  no_control : ∀ c, .char c ∈ mount → 0x20 ≤ c.toNat ∧ c.toNat ≠ 0x7F
  /-- No segment is empty or names a directory by dots. -/
  named : ∀ segment ∈ pieces (.char '/') mount,
    segment ≠ [] ∧ segment ≠ [.char '.'] ∧ segment ≠ [.char '.', .char '.']

namespace Vault

/-- The path that is asked for to log in by a method. -/
def loginPath (mount : List Char) : List Char := "/v1/auth/".toList ++ mount ++ "/login".toList

/-- How the path begins. -/
theorem loginPath_eq_cons (mount : List Char) :
    loginPath mount = '/' :: 'v' :: ("1/auth/".toList ++ mount ++ "/login".toList) := by
  have hfront : "/v1/auth/".toList = '/' :: 'v' :: "1/auth/".toList := by decide
  unfold loginPath
  rw [hfront]
  rfl

/-- Different mount paths make different paths. -/
theorem loginPath_injective {mount other : List Char} (h : loginPath mount = loginPath other) :
    mount = other :=
  List.append_cancel_left (List.append_cancel_right h)

/-- A mount path that is taken as it is written. Its segments may be empty. -/
structure IsVerbatim (mount : List Char) : Prop where
  /-- No query, fragment or escape begins in it. -/
  no_marks : '?' ∉ mount ∧ '#' ∉ mount ∧ '%' ∉ mount
  /-- No control character stands in it. -/
  no_control : ∀ c ∈ mount, 0x20 ≤ c.toNat ∧ c.toNat ≠ 0x7F
  /-- No segment names a directory by dots. -/
  no_dots : ∀ segment ∈ pieces '/' mount, segment ≠ ['.'] ∧ segment ≠ ['.', '.']

/-- A plain mount path is taken as it is written. -/
theorem isVerbatim_of_isPlainMount {mount : List Char} (h : IsPlainMount (Text.ofChars mount)) :
    IsVerbatim mount := by
  have hmem : ∀ c, c ∈ mount → Symbol.char c ∈ Text.ofChars mount := fun c => List.mem_map_of_mem
  have hpieces : pieces (.char '/') (Text.ofChars mount) = (pieces '/' mount).map Text.ofChars :=
    pieces_map fun c _ => by simp
  refine ⟨⟨mt (hmem _) h.no_marks.1, mt (hmem _) h.no_marks.2.1, mt (hmem _) h.no_marks.2.2⟩,
    fun c hc => h.no_control c (hmem c hc), fun segment hsegment => ?_⟩
  have hnamed := h.named (Text.ofChars segment) (hpieces ▸ List.mem_map_of_mem hsegment)
  constructor
  · rintro rfl
    exact hnamed.2.1 rfl
  · rintro rfl
    exact hnamed.2.2 rfl

/-- The path is then taken as it is written. -/
theorem IsVerbatim.isLiteral {mount : List Char} (h : IsVerbatim mount) :
    Url.IsLiteral (loginPath mount) := by
  have hmem : ∀ c, c ∉ mount → c ∉ "/v1/auth/".toList → c ∉ "/login".toList →
      c ∉ loginPath mount := by
    intro c hc hfront hback
    unfold loginPath
    simp only [List.mem_append, hc, hfront, hback, or_self, not_false_eq_true]
  obtain ⟨hquery, hfragment, hescape⟩ := h.no_marks
  refine ⟨hmem '?' hquery (by decide) (by decide), hmem '#' hfragment (by decide) (by decide),
    Percent.hasEscape_of_not_mem (hmem '%' hescape (by decide) (by decide)), ?_⟩
  have hparts : loginPath mount =
      "/v1/auth".toList ++ '/' :: (mount ++ '/' :: "login".toList) := by
    have hfront : "/v1/auth/".toList = "/v1/auth".toList ++ ['/'] := by decide
    have hback : "/login".toList = '/' :: "login".toList := by decide
    unfold loginPath
    rw [hfront, hback]
    simp
  have hends : (∀ segment ∈ pieces '/' "/v1/auth".toList, Url.isDots segment = false) ∧
      ∀ segment ∈ pieces '/' "login".toList, Url.isDots segment = false := by decide
  have hmiddle : ∀ segment ∈ pieces '/' mount, Url.isDots segment = false :=
    fun segment hsegment => decide_eq_false (not_or.mpr (h.no_dots segment hsegment))
  rw [hparts, pieces_append_cons, pieces_append_cons, List.forall_mem_append, List.forall_mem_append]
  exact ⟨hends.1, hmiddle, hends.2⟩

/-- No control character stands in the path. -/
theorem IsVerbatim.not_isControl {mount : List Char} (h : IsVerbatim mount) :
    ∀ c ∈ loginPath mount, ¬ Url.isControl c := by
  have hends : ∀ c ∈ "/v1/auth/".toList ++ "/login".toList, ¬ Url.isControl c :=
    List.all_iff_forall_prop.mp (by decide)
  intro c hc
  unfold loginPath at hc
  simp only [List.mem_append] at hc
  rcases hc with (hc | hc) | hc
  · exact hends c (List.mem_append_left _ hc)
  · obtain ⟨hlow, hdelete⟩ := h.no_control c hc
    rintro (hlt | rfl)
    · omega
    · exact hdelete rfl
  · exact hends c (List.mem_append_right _ hc)

/-- What arrives under a server is the path as it was given. -/
theorem IsVerbatim.decode_path {mount : List Char} (h : IsVerbatim mount) (server : Url.Server) :
    Percent.decode (server.url (loginPath mount)).path = Utf8.encode (loginPath mount) := by
  have hpath : (server.url (loginPath mount)).path =
      Percent.encode Percent.inPath (loginPath mount) := rfl
  rw [hpath, Url.decode_encode_inPath, Percent.decode_eq_encode h.isLiteral.no_escape]

/-- A request that is sent while an assertion is exchanged under a mount path. -/
def Sends (v : Vault) (mount : Text) (request : Request) : Prop :=
  ∃ method assertion role before, ∃ entries : Journal,
    ((v.exchange method assertion mount role).after before).2 = before ++ entries ∧
      request ∈ entries.requestsTo .vault

variable {v : Vault} {assertion mount role : Text} {way : List Char}
  {server : Url.Server} {slashes : Nat}

/-- The path of a posting is that of the mount path. -/
theorem posting_path (v : Vault) (assertion : Text) (way : List Char) (role : Text) :
    (v.posting assertion (Text.ofChars way) role).path = Text.ofChars (loginPath way) := by
  unfold loginPath posting Text.ofString
  simp only [Text.ofChars_append]

/-- A mount path that is asked for is whole. -/
theorem isWhole_mount_of_url {url : Url} (h : (v.posting assertion mount role).url = .ok url) :
    mount.IsWhole := by
  obtain ⟨base, -, hplace⟩ := except_bind_eq_ok.mp h
  obtain ⟨cs, hpath, -⟩ := Posting.exists_chars_of_place hplace
  exact (Text.isWhole_append.mp (Text.isWhole_append.mp ⟨cs, hpath⟩).1).2

/-- The path of such a mount path is asked for exactly if it is short enough. -/
theorem IsVerbatim.posting_url_eq_ok_iff (h : IsVerbatim way)
    (haddress : v.address = Text.ofChars (server.written ++ List.replicate slashes '/')) {url : Url} :
    (v.posting assertion (Text.ofChars way) role).url = .ok url ↔
      server.Fits (loginPath way) ∧ server.url (loginPath way) = url := by
  have hposting : (v.posting assertion (Text.ofChars way) role).address = v.address := rfl
  have hliteral := h.isLiteral
  have hcontrol := h.not_isControl
  have hparts := loginPath_eq_cons way
  rw [Posting.url, posting_path, hposting, haddress]
  simp only [Posting.base_ofChars, Posting.place_ofChars]
  rw [hparts] at hliteral hcontrol ⊢
  rw [← @Url.Server.under_eq_ok_iff server _ slashes rfl _ (by decide) (by decide) _ hliteral hcontrol]
  simp only [except_bind_eq_ok, mapError_eq_ok]

/-- Whether the name of the part of the vault that is meant can stand in a header. -/
def HasSendableSpace (v : Vault) : Prop :=
  ∀ space, v.space = some space → Posting.isSendable space = true

/-- Whether the headers of such a request can be sent is up to the name of the part of the vault. -/
theorem named_all_iff (path : List Char) :
    ((v.posting assertion mount role).named (server.url path)).all
      (fun h => Posting.isSendable h.2) = true ↔ v.HasSendableSpace := by
  have htype : Posting.isSendable (Text.ofString "application/json") = true := by decide +kernel
  have hlength := Posting.isSendable_text
    (Utf8.encode (v.posting assertion mount role).content.toList).length
  have hhost : Posting.isSendable (Text.ofChars (server.url path).netloc) = true := by
    rw [Posting.isSendable, Text.ofChars, List.all_map, List.all_eq_true]
    intro c hc
    rw [server.netloc_url] at hc
    have hvisible := Url.isVisible_withPort server.isHost.again.1
      (Url.isPort_portDigits _ server.isPort) hc
    rw [Percent.isVisible, decide_eq_true_eq] at hvisible
    change decide (c.toNat < 0x80) = true
    rw [decide_eq_true_eq]
    omega
  have hhosts : (if (server.url path).host.isEmpty = true then []
      else [("host", Text.ofChars (server.url path).netloc)]).all
        (fun h => Posting.isSendable h.2) = true := by
    split
    · rfl
    · rw [List.all_cons, hhost]
      rfl
  have hspace : ((v.posting assertion mount role).headers.all fun h => Posting.isSendable h.2) = true ↔
      v.HasSendableSpace := by
    unfold HasSendableSpace posting
    cases v.space with
    | none => simp
    | some space =>
      by_cases hempty : space = []
      · subst hempty
        refine ⟨fun _ _ h => ?_, fun _ => rfl⟩
        obtain rfl := Option.some.inj h
        rfl
      · simp [hempty]
  have haccept : Posting.isSendable (Text.ofString (v.posting assertion mount role).accept) = true :=
    show Posting.isSendable (Text.ofString "*/*") = true by decide +kernel
  simp only [Posting.named, List.all_append, List.all_cons, List.all_nil, hhosts, hlength, htype,
    haccept, Bool.and_true, Bool.true_and, ← hspace]

/-- The body of a posting can be written exactly if role and assertion are whole. -/
theorem isWritable_posting_iff :
    (v.posting assertion mount role).isWritable = true ↔ role.IsWhole ∧ assertion.IsWhole := by
  rw [← Text.isSome_toChars?_iff, ← Text.isSome_toChars?_iff]
  simp [Posting.isWritable, posting]

/-- What it takes for an exchange under a mount path to be asked for. -/
structure CanAsk (v : Vault) (server : Url.Server) (assertion : Text) (way : List Char) (role : Text) :
    Prop where
  /-- The path is short enough. -/
  fits : server.Fits (loginPath way)
  /-- The name of the part of the vault can be sent. -/
  space : v.HasSendableSpace
  /-- So can the role and the assertion. -/
  body : role.IsWhole ∧ assertion.IsWhole

/-- A request is made for a plain mount path exactly if it can be asked for. -/
theorem posting_request_eq_ok_iff
    (haddress : v.address = Text.ofChars (server.written ++ List.replicate slashes '/'))
    (hmount : IsPlainMount mount) {request : Request} :
    (v.posting assertion mount role).request = .ok request ↔
      ∃ way, mount = Text.ofChars way ∧ v.CanAsk server assertion way role ∧
        (v.posting assertion mount role).requestTo (server.url (loginPath way)) = request := by
  simp only [Posting.request_eq_ok, isWritable_posting_iff]
  constructor
  · rintro ⟨url, hurl, hheaders, hrole, hrequest⟩
    obtain ⟨way, rfl⟩ := isWhole_mount_of_url hurl
    obtain ⟨hfits, rfl⟩ :=
      ((isVerbatim_of_isPlainMount hmount).posting_url_eq_ok_iff haddress).mp hurl
    exact ⟨way, rfl, ⟨hfits, (named_all_iff _).mp hheaders, hrole⟩, hrequest⟩
  · rintro ⟨way, rfl, ⟨hfits, hspace, hrole⟩, hrequest⟩
    exact ⟨_, ((isVerbatim_of_isPlainMount hmount).posting_url_eq_ok_iff haddress).mpr ⟨hfits, rfl⟩,
      (named_all_iff _).mpr hspace, hrole, hrequest⟩

/-- What is sent in an exchange is the request for the vault, if there is one. -/
theorem Course.requestsTo_eq {method : Text} {earlier : Nat} {result : Except Failure Token}
    {entries : Journal} (h : v.Course method assertion mount role earlier result entries) :
    entries.requestsTo .iam = [] ∧
      entries.requestsTo .vault = (v.posting assertion mount role).request.toOption.toList := by
  cases h with
  | unsent hrequest =>
    rw [hrequest]
    exact ⟨rfl, rfl⟩
  | refused hrequest =>
    rw [hrequest]
    exact ⟨rfl, rfl⟩
  | granted hrequest =>
    rw [hrequest]
    exact ⟨rfl, rfl⟩

/-- A request that is sent is the request for the vault. -/
theorem Sends.exists_posting {request : Request} (h : v.Sends mount request) :
    ∃ assertion role, (v.posting assertion mount role).request = .ok request := by
  obtain ⟨method, assertion, role, before, entries, hafter, hsent⟩ := h
  obtain ⟨result, steps, hsteps, hcourse⟩ := v.exists_course method assertion mount role before
  rw [hsteps] at hafter
  obtain rfl := List.append_cancel_left hafter
  rw [hcourse.requestsTo_eq.2, Option.mem_toList] at hsent
  exact ⟨assertion, role, toOption_eq_some.mp hsent⟩

/-- An exchange under a plain mount path asks the vault for the path with this mount path, and for
nothing else, as far as it can be asked for. No other such mount path leads to the same URL. -/
theorem exchange_reaches_mount (v : Vault) {server : Url.Server} {slashes : Nat}
    (haddress : v.address = Text.ofChars (server.written ++ List.replicate slashes '/'))
    {mount : Text} (hmount : IsPlainMount mount) (method assertion : String) (role : Text)
    (before : Journal) :
    ∃ result, ∃ entries : Journal,
      (v.exchange method assertion mount role).after before = (result, before ++ entries) ∧
      entries.requestsTo .iam = [] ∧
      (∀ way, mount = Text.ofChars way → v.CanAsk server assertion way role →
        ∃ request, entries.requestsTo .vault = [request] ∧
          Percent.decode request.url.path = Utf8.encode (loginPath way) ∧
          request.url.query = none ∧
          ∀ other otherRequest, IsPlainMount other → v.Sends other otherRequest →
            otherRequest.url = request.url → other = mount) ∧
      ((¬ ∃ way, mount = Text.ofChars way ∧ v.CanAsk server assertion way role) →
        entries.requestsTo .vault = []) := by
  obtain ⟨result, entries, hafter, hcourse⟩ := v.exists_course method assertion mount role before
  obtain ⟨hiam, hvault⟩ := hcourse.requestsTo_eq
  have hdecode : ∀ {way}, IsPlainMount (Text.ofChars way) →
      Percent.decode (server.url (loginPath way)).path = Utf8.encode (loginPath way) :=
    fun h => (isVerbatim_of_isPlainMount h).decode_path server
  refine ⟨result, entries, hafter, hiam, fun way hway hasked => ?_, fun hnot => ?_⟩
  · subst hway
    have hrequest : (v.posting assertion (Text.ofChars way) role).request = .ok _ :=
      (posting_request_eq_ok_iff haddress hmount).mpr ⟨way, rfl, hasked, rfl⟩
    rw [hrequest] at hvault
    refine ⟨_, hvault, hdecode hmount, rfl, fun other otherRequest hother hsends hurl => ?_⟩
    obtain ⟨otherAssertion, otherRole, hposting⟩ := hsends.exists_posting
    obtain ⟨otherWay, rfl, -, rfl⟩ := (posting_request_eq_ok_iff haddress hother).mp hposting
    have hbytes : Utf8.encode (loginPath otherWay) = Utf8.encode (loginPath way) := by
      rw [← hdecode hother, ← hdecode hmount]
      exact congrArg (fun url => Percent.decode url.path) hurl
    rw [loginPath_injective (Utf8.encode_injective hbytes)]
  · cases hrequest : (v.posting assertion mount role).request with
    | error failure =>
      rw [hrequest] at hvault
      exact hvault
    | ok request =>
      obtain ⟨way, hway, hasked, -⟩ := (posting_request_eq_ok_iff haddress hmount).mp hrequest
      exact absurd ⟨way, hway, hasked⟩ hnot

/-- A vault that does not answer. -/
def silent : Vault where
  address := "https://Vault.example:08200//"
  space := some "team"
  endpoint := fun _ _ => .error (.raised .connect "no route")

/-- Its address in parts. -/
def silentServer : Url.Server where
  letter := 'h'
  rest := "ttps".toList
  host := "Vault.example".toList
  sent := "Vault.example".toList.map Char.toLower
  port := "08200".toList
  isAlpha := by decide
  inScheme := List.all_eq_true.mp (by decide +kernel)
  isHost := .name (by decide) (List.all_eq_true.mp (by decide +kernel)) (by decide +kernel)
  isPort := ⟨List.all_eq_true.mp (by decide +kernel), by decide⟩

/-- Its parts are those of its address. -/
theorem address_silent :
    silent.address = Text.ofChars (silentServer.written ++ List.replicate 2 '/') := by
  decide +kernel

/-- Blanks and letters of any script reach the vault. -/
theorem exchange_reaches_mount_silent :
    silent.address = Text.ofChars (silentServer.written ++ List.replicate 2 '/') ∧
      IsPlainMount "gcp/Müller & co" ∧
      silent.CanAsk silentServer "jwt" "gcp/Müller & co".toList "role" ∧
      ∃ request,
        Journal.requestsTo .vault
          ((silent.exchange "GCP-IAM" "jwt" "gcp/Müller & co" "role").after []).2 = [request] ∧
        Percent.decode request.url.path = Utf8.encode "/v1/auth/gcp/Müller & co/login".toList ∧
        request.url.query = none := by
  have hmount : IsPlainMount "gcp/Müller & co" := by
    refine ⟨by decide, fun c hc => ?_, by decide +kernel⟩
    have hall : ∀ c ∈ "gcp/Müller & co".toList, 0x20 ≤ c.toNat ∧ c.toNat ≠ 0x7F :=
      List.all_iff_forall_prop.mp (by decide +kernel)
    obtain ⟨d, hd, heq⟩ := List.mem_map.mp hc
    obtain rfl := Symbol.char.inj heq
    exact hall d hd
  have hasked : silent.CanAsk silentServer "jwt" "gcp/Müller & co".toList "role" := by
    refine ⟨⟨by decide +kernel, by decide +kernel⟩, ?_, Text.isWhole_ofString "role",
      Text.isWhole_ofString "jwt"⟩
    rintro _ ⟨⟩
    decide +kernel
  obtain ⟨result, entries, hafter, -, hfits, -⟩ :=
    exchange_reaches_mount silent address_silent hmount "GCP-IAM" "jwt" "role" []
  obtain ⟨request, hvault, hpath, hquery, -⟩ := hfits _ rfl hasked
  refine ⟨address_silent, hmount, hasked, request, ?_, hpath, hquery⟩
  rw [hafter]
  exact hvault

end Vault

end IamLogin
