import IamLogin.Proofs.Url.Host

/-!
# What is asked of a server

An address that names a server has a scheme, a host and perhaps a port. Its parts are read three times
until something is asked for under it: once as they are written, and again from the text of what was read
before. None of these readings changes what is asked, so whether a path can be asked for is a matter of
lengths alone.
-/

namespace IamLogin.Url

/-! ## Checks -/

/-- Whether a character is one that no URL is given with. -/
def isControl (c : Char) : Prop := c.toNat < 0x20 ∨ c = '\x7F'

instance (c : Char) : Decidable (isControl c) := inferInstanceAs (Decidable (_ ∨ _))

/-- No control character is found where there is none. -/
theorem firstControl?_eq_none {cs : List Char} (h : ∀ c ∈ cs, ¬ isControl c) :
    firstControl? cs = none := by
  have hdrop : cs.dropWhile (fun c => !decide (c.toNat < 0x20 ∨ c = '\x7F')) = [] := by
    rw [List.dropWhile_eq_nil_iff]
    intro c hc
    rw [Bool.not_eq_true', decide_eq_false_iff_not]
    exact h c hc
  simp only [firstControl?, hdrop]

/-- What is visible is no control character. -/
theorem not_isControl_of_isVisible {c : Char} (h : Percent.isVisible c = true) : ¬ isControl c := by
  rw [Percent.isVisible, decide_eq_true_eq] at h
  rintro (hc | rfl)
  · omega
  · exact absurd h (by decide)

/-- Nothing is wrong with a text that is short enough and free of control characters. -/
theorem wholeFault?_eq_none {cs : List Char} (hlength : cs.length ≤ lengthLimit)
    (hcontrol : ∀ c ∈ cs, ¬ isControl c) : wholeFault? cs = none := by
  rw [wholeFault?, if_neg (by omega), firstControl?_eq_none hcontrol]
  rfl

/-- Such a text is a URL if its pieces are. -/
theorem ofChars_eq {cs : List Char} (hlength : cs.length ≤ lengthLimit)
    (hcontrol : ∀ c ∈ cs, ¬ isControl c) : ofChars cs = ofPieces (Pieces.ofChars cs) := by
  rw [ofChars, wholeFault?_eq_none hlength hcontrol]

/-- So is a part of a URL right. -/
theorem Part.fault?_eq_none (part : Part) {cs : List Char} (hlength : cs.length ≤ lengthLimit)
    (hcontrol : ∀ c ∈ cs, ¬ isControl c) : part.fault? cs = none := by
  rw [Part.fault?, if_neg (by omega), firstControl?_eq_none hcontrol]
  rfl

/-- Pieces are checked again one by one. -/
theorem Pieces.fault?_eq_none {p : Pieces} (hscheme : Part.scheme.fault? p.scheme = none)
    (hauthority : Part.authority.fault? p.authority = none) (hpath : Part.path.fault? p.path = none)
    (hquery : p.query = none) (hfragment : p.fragment = none) : p.fault? = none := by
  simp only [fault?, hscheme, hauthority, hpath, hquery, hfragment]
  rfl

/-- Pieces that are checked again make a URL only if the path is not too long. -/
theorem length_path_of_rebuild {p : Pieces} {url : Url} (h : rebuild p = .ok url) :
    p.path.length ≤ lengthLimit := by
  by_contra hlong
  have hfault : Part.path.fault? p.path = some (.partTooLong .path) := if_pos (by omega)
  have hnone : p.fault? ≠ none := by
    intro hnone
    have hpath := List.findSome?_eq_none_iff.mp hnone (Part.path.fault? p.path) (by simp)
    rw [hfault] at hpath
    cases hpath
  unfold rebuild at h
  split at h
  · cases h
  · case h_2 heq => exact hnone heq

/-- Pieces of a host make a URL. -/
theorem ofPieces_withPort {scheme host sent digits path : List Char} (hhost : IsHost host sent)
    (hport : IsPort digits) (hpath : path = [] ∨ path.head? = some '/') :
    ofPieces { scheme, authority := withPort host digits, path, query := none, fragment := none } =
      .ok { scheme := scheme.map Char.toLower, userinfo := [], host := sent
            port := portIn scheme digits, path := Percent.encode Percent.inPath (normalPath path)
            query := none, fragment := none } := by
  have hauthority : sent.isEmpty = false := by simpa using hhost.sent_ne_nil
  have hrooted : ¬ (path ≠ [] ∧ path.head? ≠ some '/') := by
    rintro ⟨hne, hhead⟩
    exact hpath.elim hne hhead
  unfold ofPieces
  simp only [hhost.cutHost_eq hport, hhost.normalHost_eq, normalPort_eq scheme hport, except_ok_bind,
    hauthority, checkPath]
  simp [hrooted]

/-! ## Servers -/

/-- A server as an address names it. -/
structure Server where
  /-- The first letter of the scheme. -/
  letter : Char
  /-- The scheme after its first letter. -/
  rest : List Char
  /-- The host as it is written. -/
  host : List Char
  /-- The host as it is sent. -/
  sent : List Char
  /-- The digits of the port, if it is named. -/
  port : List Char
  /-- A scheme begins with a letter. -/
  isAlpha : letter.isAlpha = true
  /-- The rest of a scheme is of letters, digits and a few signs. -/
  inScheme : ∀ c ∈ rest, inScheme c = true
  /-- The host is one. -/
  isHost : IsHost host sent
  /-- The port is one. -/
  isPort : IsPort port

namespace Server

variable (s : Server)

/-- The scheme as it is written. -/
def scheme : List Char := s.letter :: s.rest

/-- The address of a server, but for the slashes that can follow it. -/
def written : List Char := s.scheme ++ "://".toList ++ withPort s.host s.port

/-- The base under which a server is asked. -/
def base : Url where
  scheme := s.scheme.map Char.toLower
  userinfo := []
  host := s.sent
  port := portIn s.scheme s.port
  path := []
  query := none
  fragment := none

/-- The URL under which a server is asked for a path. -/
def url (path : List Char) : Url :=
  { s.base with
    port := portIn (s.scheme.map Char.toLower) s.port
    path := Percent.encode Percent.inPath path }

/-- A scheme stays within the characters of a host. -/
theorem inHost_scheme : ∀ c ∈ s.scheme, Percent.inHost c = true := by
  have halphanum : ∀ {c : Char}, c.isAlphanum = true → Percent.inHost c = true :=
    fun h => decide_eq_true (.inl h)
  intro c hc
  rcases List.mem_cons.mp hc with rfl | hc
  · exact halphanum (by simp [Char.isAlphanum, s.isAlpha])
  · have hinside := s.inScheme c hc
    simp only [Url.inScheme, decide_eq_true_eq] at hinside
    rcases hinside with h | rfl | rfl | rfl
    · exact halphanum h
    · decide
    · decide
    · decide

/-- A server is written in visible characters. -/
theorem isVisible_written : ∀ c ∈ s.written, Percent.isVisible c = true := by
  have hmiddle : ∀ c ∈ "://".toList, Percent.isVisible c = true := List.all_eq_true.mp (by decide)
  intro c hc
  rcases List.mem_append.mp hc with hc | hc
  · rcases List.mem_append.mp hc with hc | hc
    · exact isVisible_of_inHost (s.inHost_scheme c hc)
    · exact hmiddle c hc
  · exact isVisible_withPort s.isHost s.isPort hc

/-- A server has an authority. -/
theorem authority_ne_nil : withPort s.host s.port ≠ [] :=
  List.append_ne_nil_of_left_ne_nil s.isHost.ne_nil _

/-- The authority does not end before it is over. -/
theorem not_mem_authority : ∀ c ∈ ['/', '?', '#'], c ∉ withPort s.host s.port := by
  have hends : ∀ c ∈ ['/', '?', '#'], Percent.inHost c = false ∧ c ∉ ['[', ']', ':'] :=
    List.all_iff_forall_prop.mp (by decide)
  intro c hc hmem
  obtain ⟨hhost, hbrackets⟩ := hends c hc
  rcases inHost_of_mem_withPort s.isHost s.isPort hmem with h | h
  · rw [hhost] at h
    cases h
  · exact hbrackets h

/-- The slashes that follow an address are no part of it. -/
theorem trimEnd_address {address : List Char} {slashes : Nat}
    (haddress : address = s.written ++ List.replicate slashes '/') :
    trimEnd (· = '/') address = s.written := by
  rw [haddress]
  exact trimEnd_append_replicate (s.not_mem_authority '/' (by simp)) s.authority_ne_nil _ slashes

/-- The address of a server is its base. -/
theorem ofChars_written (hlength : s.written.length ≤ lengthLimit) : ofChars s.written = .ok s.base := by
  have hpieces : Pieces.ofChars s.written =
      { scheme := s.scheme, authority := withPort s.host s.port, path := [], query := none
        fragment := none } :=
    pieces_of_origin s.isAlpha s.inScheme (s.not_mem_authority '/' (by simp))
      (s.not_mem_authority '?' (by simp)) (s.not_mem_authority '#' (by simp))
  have hcontrol : ∀ c ∈ s.written, ¬ isControl c :=
    fun c hc => not_isControl_of_isVisible (s.isVisible_written c hc)
  rw [ofChars_eq hlength hcontrol, hpieces, ofPieces_withPort s.isHost s.isPort (.inl rfl)]
  rfl

/-- An address can be taken for a base exactly if it is not too long, however many slashes follow it. -/
theorem asBase_eq_ok_iff {address : List Char} {slashes : Nat}
    (haddress : address = s.written ++ List.replicate slashes '/') {base : Url} :
    asBase address = .ok base ↔ s.written.length ≤ lengthLimit ∧ s.base = base := by
  rw [asBase, s.trimEnd_address haddress]
  by_cases hlength : s.written.length ≤ lengthLimit
  · rw [s.ofChars_written hlength, except_ok_bind]
    have hroot : s.base.target.getLast? = some '/' := rfl
    rw [if_pos hroot]
    simp [hlength, pure, Except.pure]
  · rw [ofChars, wholeFault?, if_pos (by omega)]
    simp [hlength]

/-- The authority of the base is written as a host and a port. -/
theorem authority_base :
    s.base.authority = withPort (bracketed s.sent) (portDigits (portIn s.scheme s.port)) :=
  netloc_eq rfl

/-- So is that of a URL. -/
theorem netloc_url (path : List Char) : (s.url path).netloc =
    withPort (bracketed s.sent) (portDigits (portIn (s.scheme.map Char.toLower) s.port)) :=
  netloc_eq rfl

/-- It is no longer than the address. -/
theorem authority_base_length_le : s.base.authority.length ≤ s.written.length := by
  have hport := length_portDigits_le s.scheme s.isPort
  have hnone : s.port = [] → portDigits (portIn s.scheme s.port) = [] := by
    intro h
    rw [h] at hport ⊢
    exact List.eq_nil_of_length_eq_zero (Nat.le_zero.mp hport)
  rw [authority_base, length_withPort, s.isHost.again.2, written, List.length_append, length_withPort]
  by_cases h : s.port = []
  · rw [hnone h, h, if_pos rfl]
    omega
  · rw [if_neg h]
    split <;> omega

/-- Whether a path under a server is short enough to be asked for. -/
structure Fits (path : List Char) : Prop where
  /-- The address is not too long. -/
  address : s.written.length ≤ lengthLimit
  /-- Nor is the path when it is escaped. -/
  path : (Percent.encode Percent.inPath path).length ≤ lengthLimit

/-- A path in front of which there is nothing makes a URL. -/
theorem ofPieces_path {c : Char} (hc : c ≠ '/') (rest : List Char) :
    ∃ relative, ofPieces { scheme := [], authority := [], path := '/' :: c :: rest, query := none
                           fragment := none } = .ok relative := by
  have hcheck : checkPath false false ('/' :: c :: rest) = .ok () := by simp [checkPath, hc]
  have hcut : cutHost [] = ([], [], []) := rfl
  have hhost : normalHost [] = .ok [] := rfl
  have hport : normalPort [] [] = .ok none := rfl
  unfold ofPieces
  simp only [hcut, hhost, hport, except_ok_bind, List.map_nil, List.isEmpty_nil, Percent.encode_nil,
    Option.isSome_none, Bool.not_true, Bool.or_false, hcheck]
  exact ⟨_, rfl⟩

/-- The pieces of the text of what a server is asked for. -/
def asked (path : List Char) : Pieces where
  scheme := s.base.scheme
  authority := s.base.authority
  path := Percent.encode Percent.inPath path
  query := none
  fragment := none

/-- They pass the checks if the path is short enough. -/
theorem fault?_asked {path : List Char} (hfits : s.Fits path) : (s.asked path).fault? = none := by
  have hlower : s.base.scheme.length = s.scheme.length := List.length_map _
  have hwritten : s.scheme.length ≤ s.written.length := by
    rw [written, List.length_append, List.length_append]
    omega
  have hscheme : Part.scheme.fault? s.base.scheme = none := by
    refine Part.fault?_eq_none _ ?_ fun d hd => ?_
    · rw [hlower]
      exact hwritten.trans hfits.address
    · exact not_isControl_of_isVisible (isVisible_of_inHost (inHost_map_toLower s.inHost_scheme d hd))
  have hauthority : Part.authority.fault? s.base.authority = none := by
    refine Part.fault?_eq_none _ (s.authority_base_length_le.trans hfits.address) fun d hd => ?_
    rw [authority_base] at hd
    exact not_isControl_of_isVisible
      (isVisible_withPort s.isHost.again.1 (isPort_portDigits s.scheme s.isPort) hd)
  have hpath : Part.path.fault? (Percent.encode Percent.inPath path) = none :=
    Part.fault?_eq_none _ hfits.path fun d hd =>
      not_isControl_of_isVisible (isVisible_of_inPath (inPath_of_mem_encode hd))
  exact Pieces.fault?_eq_none hscheme hauthority hpath rfl rfl

/-- They are those of the URL: what was made ready for sending stays as it is. -/
theorem ofPieces_asked {path : List Char} (hliteral : IsLiteral path) (hrooted : path.head? = some '/') :
    ofPieces (s.asked path) = .ok (s.url path) := by
  have hroot : (Percent.encode Percent.inPath path).head? = some '/' := by
    obtain ⟨rest, rfl⟩ := List.head?_eq_some_iff.mp hrooted
    rw [Percent.encode_cons_of_plain (by decide)]
    rfl
  have hlower : s.base.scheme.map Char.toLower = s.base.scheme := by
    simp only [base, List.map_map, Function.comp_def, toLower_toLower]
  have hport : portIn s.base.scheme (portDigits (portIn s.scheme s.port)) =
      portIn s.base.scheme s.port := portIn_portDigits s.scheme s.port
  have hpath : Percent.encode Percent.inPath (normalPath (Percent.encode Percent.inPath path)) =
      Percent.encode Percent.inPath path := sentPath_eq hliteral.no_dots
  rw [asked, authority_base, ofPieces_withPort s.isHost.again.1 (isPort_portDigits s.scheme s.isPort)
    (.inr hroot), hlower, hport, hpath]
  rfl

/-- A short path that is taken as it is written is asked for in its escaped form. -/
theorem under_base {c : Char} (hc : c ≠ '/') (hplain : Percent.inPath c = true) {rest : List Char}
    (hliteral : IsLiteral ('/' :: c :: rest)) (hcontrol : ∀ d ∈ '/' :: c :: rest, ¬ isControl d)
    (hfits : s.Fits ('/' :: c :: rest)) :
    under s.base ('/' :: c :: rest) = .ok (s.url ('/' :: c :: rest)) := by
  have hlength : ('/' :: c :: rest).length ≤ lengthLimit :=
    (Percent.length_le_encode _).trans hfits.path
  obtain ⟨relative, hrelative⟩ : ∃ relative, ofChars ('/' :: c :: rest) = .ok relative := by
    rw [ofChars_eq hlength hcontrol, pieces_of_path hc, cutFirst_of_not_mem hliteral.no_fragment,
      cutFirst_of_not_mem hliteral.no_query]
    exact ofPieces_path hc rest
  rw [under_eq rfl rfl hc hplain, hrelative, except_ok_bind, cutFirst_of_not_mem hliteral.no_fragment,
    cutFirst_of_not_mem hliteral.no_query, ← s.ofPieces_asked hliteral rfl]
  have hfault := s.fault?_asked hfits
  change rebuild (s.asked ('/' :: c :: rest)) = ofPieces (s.asked ('/' :: c :: rest))
  rw [rebuild, hfault]

/-- A path that is taken as it is written can be asked for under a server exactly if it is short enough. -/
theorem under_eq_ok_iff {address : List Char} {slashes : Nat}
    (haddress : address = s.written ++ List.replicate slashes '/') {c : Char} (hc : c ≠ '/')
    (hplain : Percent.inPath c = true) {rest : List Char} (hliteral : IsLiteral ('/' :: c :: rest))
    (hcontrol : ∀ d ∈ '/' :: c :: rest, ¬ isControl d) {url : Url} :
    (asBase address >>= fun base => under base ('/' :: c :: rest)) = .ok url ↔
      s.Fits ('/' :: c :: rest) ∧ s.url ('/' :: c :: rest) = url := by
  simp only [except_bind_eq_ok, s.asBase_eq_ok_iff haddress]
  constructor
  · rintro ⟨_, ⟨hlength, rfl⟩, hunder⟩
    have hpath : (Percent.encode Percent.inPath ('/' :: c :: rest)).length ≤ lengthLimit := by
      have hrebuild := hunder
      rw [under_eq rfl rfl hc hplain, cutFirst_of_not_mem hliteral.no_fragment,
        cutFirst_of_not_mem hliteral.no_query] at hrebuild
      obtain ⟨_, -, hrebuild⟩ := except_bind_eq_ok.mp hrebuild
      exact length_path_of_rebuild hrebuild
    have hfits : s.Fits ('/' :: c :: rest) := ⟨hlength, hpath⟩
    rw [s.under_base hc hplain hliteral hcontrol hfits] at hunder
    exact ⟨hfits, Except.ok.inj hunder⟩
  · rintro ⟨hfits, rfl⟩
    exact ⟨s.base, ⟨hfits.address, rfl⟩, s.under_base hc hplain hliteral hcontrol hfits⟩

end Server

end IamLogin.Url
