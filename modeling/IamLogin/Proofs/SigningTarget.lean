import IamLogin.Proofs.Course
import IamLogin.Proofs.Posting
import IamLogin.Proofs.Url.Base

/-!
# Which account is asked to sign

The ids of project and account are put into the path of the request as they are. Nothing keeps them
from holding what has a meaning of its own in a URL, and then the request names something else: the
rest of the path becomes a query or is left out, an escape is read as another character, and dot
segments climb out of the project. These are all the ways; any other ids name themselves.
-/

namespace IamLogin

/-! ## Segments of the path -/

/-- Text without separators goes to the last of the pieces before it. -/
theorem exists_pieces_append {separator : Char} {ds : List Char} (h : separator ∉ ds)
    (cs : List Char) :
    ∃ last, pieces separator (cs ++ ds) = (pieces separator cs).dropLast ++ [last ++ ds] := by
  induction cs with
  | nil =>
    refine ⟨[], ?_⟩
    rw [List.nil_append, pieces_eq_splitOn, List.splitOn_eq_singleton h]
    rfl
  | cons c rest ih =>
    obtain ⟨last, hlast⟩ := ih
    by_cases hc : c = separator
    · subst hc
      refine ⟨last, ?_⟩
      rw [List.cons_append, pieces_separator_cons, pieces_separator_cons, hlast,
        List.dropLast_cons_of_ne_nil (pieces_ne_nil c rest), List.cons_append]
    · have hnot : separator ∉ [c] := by simpa using Ne.symm hc
      have hcons : ∀ es : List Char, c :: es = [c] ++ es := fun es => rfl
      rw [List.cons_append, hcons, hcons rest, pieces_append_of_not_mem hnot,
        pieces_append_of_not_mem hnot, hlast]
      cases pieces separator rest with
      | nil => exact ⟨c :: last, rfl⟩
      | cons p ps =>
        cases ps with
        | nil => exact ⟨c :: last, rfl⟩
        | cons q qs => exact ⟨last, rfl⟩

namespace Url

/-- A directory is named by one point or two. -/
theorem length_le_of_isDots {segment : List Char} (h : isDots segment = true) :
    segment.length ≤ 2 := by
  simp only [isDots, decide_eq_true_eq] at h
  rcases h with rfl | rfl <;> decide

end Url

namespace Signer

/-- What the two ids must be for the path to name them: neither ends the path or has an escape, and
the segments of both are names. What follows the last slash of the account is a name in any case,
because the method is joined to it. -/
structure NamesItself (project account : List Char) : Prop where
  /-- No query begins in an id. -/
  no_query : '?' ∉ project ∧ '?' ∉ account
  /-- No fragment begins in an id. -/
  no_fragment : '#' ∉ project ∧ '#' ∉ account
  /-- No escape stands in an id. -/
  no_escape : Percent.hasEscape project = false ∧ Percent.hasEscape account = false
  /-- No dot segment stands in an id. -/
  no_dots : ∀ segment ∈ pieces '/' project ++ (pieces '/' account).dropLast,
    Url.isDots segment = false

/-- The path under which members are signed in the name of an account. -/
def path (project account : List Char) : List Char :=
  "/v1/projects/".toList ++ project ++ "/serviceAccounts/".toList ++ account ++ ":signJwt".toList

variable (project account : List Char)

/-- This is the path of the posting. -/
theorem posting_path (s : Signer) (payload : String) (token : Option Text) :
    (s.posting (resource (Text.ofChars project) (Text.ofChars account)) payload token).path =
      Text.ofChars (path project account) := by
  have hfront : "/v1/projects/".toList = "/v1/".toList ++ "projects/".toList := by decide
  unfold path posting resource Text.ofString
  rw [hfront]
  simp only [Text.ofChars_append, List.append_assoc]

/-- The path in its parts between the ids. -/
theorem path_eq :
    path project account = "/v1/projects".toList ++ '/' :: (project ++
      '/' :: ("serviceAccounts".toList ++ '/' :: (account ++ ":signJwt".toList))) := by
  have hfront : "/v1/projects/".toList = "/v1/projects".toList ++ ['/'] := by decide
  have hmiddle : "/serviceAccounts/".toList = '/' :: ("serviceAccounts".toList ++ ['/']) := by
    decide
  unfold path
  rw [hfront, hmiddle]
  simp

/-- The escapes of the path are those of the ids. -/
theorem hasEscape_path :
    Percent.hasEscape (path project account) =
      (Percent.hasEscape project || Percent.hasEscape account) := by
  have hslash : ∀ cs ds : List Char, Percent.hasEscape (cs ++ '/' :: ds) =
      (Percent.hasEscape cs || Percent.hasEscape ds) :=
    fun cs ds => Percent.hasEscape_append rfl cs
  have hmethod : Percent.hasEscape ":signJwt".toList = false := by decide
  have hfront : Percent.hasEscape "/v1/projects".toList = false := by decide
  have hmiddle : Percent.hasEscape "serviceAccounts".toList = false := by decide
  have hcolon : ":signJwt".toList.head?.any Percent.isHex = false := by decide
  rw [path_eq, hslash, hfront, hslash, hslash, hmiddle, Percent.hasEscape_append hcolon, hmethod,
    Bool.false_or, Bool.false_or, Bool.or_false]

/-- The segments of the path that are dot segments are those of the ids. -/
theorem isDots_path_iff :
    (∀ segment ∈ pieces '/' (path project account), Url.isDots segment = false) ↔
      ∀ segment ∈ pieces '/' project ++ (pieces '/' account).dropLast,
        Url.isDots segment = false := by
  obtain ⟨last, hlast⟩ :=
    exists_pieces_append (show '/' ∉ ":signJwt".toList by decide) account
  have hmethod : Url.isDots (last ++ ":signJwt".toList) = false := by
    rw [← Bool.not_eq_true]
    intro h
    have hlength := Url.length_le_of_isDots h
    have hmethod : ":signJwt".toList.length = 8 := by decide
    rw [List.length_append, hmethod] at hlength
    omega
  have hfront : ∀ segment ∈ pieces '/' "/v1/projects".toList, Url.isDots segment = false := by
    decide
  have hmiddle : ∀ segment ∈ pieces '/' "serviceAccounts".toList, Url.isDots segment = false := by
    decide
  simp only [path_eq, pieces_append_cons, hlast, List.forall_mem_append, List.forall_mem_singleton,
    hmethod, and_true]
  exact ⟨fun h => ⟨h.2.1, h.2.2.2⟩, fun h => ⟨hfront, h.1, hmiddle, h.2⟩⟩

/-- The path is taken as it is written exactly if the ids name themselves. -/
theorem isLiteral_path_iff :
    Url.IsLiteral (path project account) ↔ NamesItself project account := by
  have hmem : ∀ c, c ∉ "/v1/projects/".toList → c ∉ "/serviceAccounts/".toList →
      c ∉ ":signJwt".toList →
      (c ∉ path project account ↔ c ∉ project ∧ c ∉ account) := by
    intro c hfront hmiddle hmethod
    unfold path
    simp only [List.mem_append, hfront, hmiddle, hmethod, false_or, or_false, not_or]
  have hescape : Percent.hasEscape (path project account) = false ↔
      Percent.hasEscape project = false ∧ Percent.hasEscape account = false := by
    rw [hasEscape_path, Bool.or_eq_false_iff]
  constructor
  · rintro ⟨hquery, hfragment, hno_escape, hdots⟩
    exact ⟨(hmem '?' (by decide) (by decide) (by decide)).mp hquery,
      (hmem '#' (by decide) (by decide) (by decide)).mp hfragment, hescape.mp hno_escape,
      (isDots_path_iff project account).mp hdots⟩
  · rintro ⟨hquery, hfragment, hno_escape, hdots⟩
    exact ⟨(hmem '?' (by decide) (by decide) (by decide)).mpr hquery,
      (hmem '#' (by decide) (by decide) (by decide)).mpr hfragment, hescape.mpr hno_escape,
      (isDots_path_iff project account).mpr hdots⟩

/-! ## The request -/

/-- What is sent while having members signed is the request for the signer. -/
theorem request_of_sign (s : Signer) (project account : Text) (claims : Json.Members)
    (token : Option Text) {journal entries : Journal}
    (hafter : ((s.sign project account claims token).after journal).2 = journal ++ entries)
    {service : Service} {request : Request} (hsent : .request service request ∈ entries) :
    service = .iam ∧
      s.request (resource project account) claims token = .ok request := by
  obtain ⟨result, steps, hsteps, hcourse⟩ :=
    s.exists_course project account claims token journal
  rw [hsteps] at hafter
  obtain rfl := List.append_cancel_left hafter
  cases hcourse with
  | unwritten _ => cases hsent
  | unsent _ _ => cases hsent
  | refused hrequest =>
    cases List.mem_singleton.mp hsent
    exact ⟨rfl, hrequest⟩
  | signed hrequest =>
    rcases List.mem_cons.mp hsent with heq | hsent
    · cases heq
      exact ⟨rfl, hrequest⟩
    · cases List.mem_singleton.mp hsent

/-- Ids that are asked for have no lone half. -/
theorem isWhole_ids_of_url {s : Signer} {project account : Text} {payload : String}
    {token : Option Text} {url : Url}
    (h : (s.posting (resource project account) payload token).url = .ok url) :
    project.IsWhole ∧ account.IsWhole := by
  obtain ⟨base, -, hplace⟩ := except_bind_eq_ok.mp h
  obtain ⟨cs, hpath, -⟩ := Posting.exists_chars_of_place hplace
  obtain ⟨hfront, -⟩ := Text.isWhole_append.mp ⟨cs, hpath⟩
  obtain ⟨hfront, haccount⟩ := Text.isWhole_append.mp (Text.isWhole_append.mp hfront).2
  exact ⟨(Text.isWhole_append.mp (Text.isWhole_append.mp hfront).1).2, haccount⟩

/-- A request for a signature that is sent to an origin is for two ids without lone halves, and it asks
for the path of the two, without a query, exactly if they name themselves. -/
theorem sign_asks_path_iff (s : Signer) {address : List Char}
    (haddress : s.address = Text.ofChars address) (horigin : Url.IsOrigin address)
    (project account : Text) (claims : Json.Members) (token : Option Text)
    {journal entries : Journal}
    (hafter : ((s.sign project account claims token).after journal).2 = journal ++ entries)
    {service : Service} {request : Request} (hsent : .request service request ∈ entries) :
    ∃ p a, project = Text.ofChars p ∧ account = Text.ofChars a ∧
      ((Percent.decode request.url.path = Utf8.encode (path p a) ∧ request.url.query = none) ↔
        NamesItself p a) := by
  obtain ⟨-, hrequest⟩ := request_of_sign s project account claims token hafter hsent
  obtain ⟨payload, -, hposted⟩ := request_eq_ok_iff.mp hrequest
  obtain ⟨url, hurl, -, -, rfl⟩ := Posting.request_eq_ok.mp hposted
  obtain ⟨⟨p, rfl⟩, ⟨a, rfl⟩⟩ := isWhole_ids_of_url hurl
  refine ⟨p, a, rfl, rfl, ?_⟩
  have hposting : (s.posting (resource (Text.ofChars p) (Text.ofChars a)) payload token).address =
      s.address := rfl
  obtain ⟨base, hbase, hunder⟩ := except_bind_eq_ok.mp hurl
  rw [hposting, haddress, Posting.base_ofChars, mapError_eq_ok] at hbase
  rw [posting_path, Posting.place_ofChars, mapError_eq_ok] at hunder
  obtain ⟨rest, hrest⟩ : ∃ rest, path p a = '/' :: 'v' :: rest := by
    have hfront : "/v1/projects".toList = '/' :: 'v' :: "1/projects".toList := by decide
    rw [path_eq, hfront]
    exact ⟨_, rfl⟩
  rw [hrest] at hunder
  rw [← isLiteral_path_iff, hrest]
  exact Url.under_origin_iff horigin hbase (by decide) (by decide) rest hunder

/-- A signer that does not answer. -/
def silent : Signer where
  address := "https://iam.example"
  endpoint := fun _ _ => .error (.raised .connect "no route")

/-- A request to it to sign nothing. -/
def silentRequest (path : String) (query : Option String) : Request where
  url :=
    { scheme := "https".toList, userinfo := [], host := "iam.example".toList, port := none
      path := path.toList, query := query.map String.toList, fragment := none }
  headers := [("accept", "application/json"), ("content-length", "16"),
    ("content-type", "application/json"), ("host", "iam.example")]
  body := "\x7b\"payload\":\"\x7b\x7d\"\x7d"

/-- Its address is an origin. -/
theorem isOrigin_silent : Url.IsOrigin "https://iam.example".toList := by
  have hparts : "https://iam.example".toList =
      'h' :: "ttps".toList ++ "://".toList ++ "iam.example".toList ++ List.replicate 0 '/' := by
    decide
  rw [hparts]
  exact .intro 0 (by decide) (by simp [Url.inScheme]) (by decide) (by simp) (by simp) (by simp)

/-- An account like any other names itself. -/
theorem sign_asks_path_iff_silent :
    ((silent.sign "p" "a@b" [] none).after []).2 = [] ++
        [.request .iam (silentRequest "/v1/projects/p/serviceAccounts/a@b:signJwt" none)] ∧
      ((Percent.decode (silentRequest "/v1/projects/p/serviceAccounts/a@b:signJwt" none).url.path =
          Utf8.encode (path "p".toList "a@b".toList) ∧
        (silentRequest "/v1/projects/p/serviceAccounts/a@b:signJwt" none).url.query = none) ↔
        NamesItself "p".toList "a@b".toList) := by
  have hafter : ((silent.sign "p" "a@b" [] none).after []).2 = [] ++
      [.request .iam (silentRequest "/v1/projects/p/serviceAccounts/a@b:signJwt" none)] := by
    decide +kernel
  obtain ⟨p, a, hproject, haccount, hasks⟩ := sign_asks_path_iff silent rfl isOrigin_silent "p" "a@b"
    [] none hafter (List.mem_singleton.mpr rfl)
  obtain rfl := Text.ofChars_injective hproject
  obtain rfl := Text.ofChars_injective haccount
  exact ⟨hafter, hasks⟩

/-- A question mark in an account makes the rest of it a query, so that a shorter account is named,
without a method. -/
theorem sign_asks_query_silent :
    ((silent.sign "p" "a?b" [] none).after []).2 =
        [.request .iam (silentRequest "/v1/projects/p/serviceAccounts/a" (some "b:signJwt"))] ∧
      ¬ (Percent.decode
            (silentRequest "/v1/projects/p/serviceAccounts/a" (some "b:signJwt")).url.path =
          Utf8.encode (path "p".toList "a?b".toList) ∧
        (silentRequest "/v1/projects/p/serviceAccounts/a" (some "b:signJwt")).url.query = none) := by
  refine ⟨by decide +kernel, ?_⟩
  rintro ⟨-, hquery⟩
  cases hquery

end Signer

end IamLogin
