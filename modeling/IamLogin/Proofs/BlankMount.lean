import IamLogin.Proofs.MountPath
import IamLogin.Proofs.Wiring

/-!
# Blank mount paths

A role of blanks is refused, but of a mount path only the slashes at its ends are taken away, and what is
left is refused only if it is empty. So options keep whatever else there is in the mount path: a name with
the blanks around it, and blanks without a name as well. The vault is asked for the one as for the other. No
character of a mount path that is taken as it is written gets lost on its way into the URL, so the URL has a
blank mount segment exactly if the mount path that was given is blank.
-/

namespace IamLogin

/-- What satisfies a condition that an end character does not is kept between the ends. -/
theorem IsTrimmed.exists_mem_iff {α : Type} {c : α} {whole middle : List α}
    (h : IsTrimmed c whole middle) {p : α → Prop} (hend : ¬ p c) :
    (∃ d ∈ middle, p d) ↔ ∃ d ∈ whole, p d := by
  obtain ⟨⟨before, after, rfl⟩, -, -⟩ := h
  constructor
  · rintro ⟨d, hd, hp⟩
    exact ⟨d, List.mem_append_left _ (List.mem_append_right _ hd), hp⟩
  · rintro ⟨d, hd, hp⟩
    have hnot : ∀ n, d ∉ List.replicate n c := by
      intro n hmem
      rw [List.eq_of_mem_replicate hmem] at hp
      exact hend hp
    rcases List.mem_append.mp hd with hd | hd
    · exact ⟨d, (List.mem_append.mp hd).resolve_left (hnot before), hp⟩
    · exact absurd hd (hnot after)

/-! ## Options -/

/-- Whether a mount path has something in it that is neither blank nor a slash. -/
def NamesMount (mount : Text) : Prop := ∃ s ∈ mount, s.isBlank = false ∧ s ≠ .char '/'

/-- A mount path of blanks, perhaps with slashes between them. -/
structure IsBlankMount (mount : Text) : Prop where
  /-- It begins with a blank. -/
  front : ∃ s, mount.head? = some s ∧ s.isBlank = true
  /-- It ends with a blank. -/
  back : ∃ s, mount.getLast? = some s ∧ s.isBlank = true
  /-- There is nothing else in it. -/
  between : ∀ s ∈ mount, s.isBlank = true ∨ s = .char '/'

/-- A mount path that names nothing is made of blanks and slashes. -/
theorem not_namesMount_iff {mount : Text} :
    ¬ NamesMount mount ↔ ∀ s ∈ mount, s.isBlank = true ∨ s = .char '/' := by
  simp only [NamesMount, not_exists, not_and, not_not, Bool.eq_false_iff, ne_eq]
  exact forall₂_congr fun s _ => or_iff_not_imp_left.symm

/-- Whether a URL is that of a login under a mount path that names nothing. -/
def Url.HasBlankMount (url : Url) : Prop :=
  ∃ mount, ¬ NamesMount (Text.ofChars mount) ∧
    Percent.decode url.path = Utf8.encode (Vault.loginPath mount)

/-- A mount path that is taken as it is written can be told from the URL. -/
theorem Url.Server.hasBlankMount_url_iff (server : Url.Server) {mount : List Char}
    (h : Vault.IsVerbatim mount) :
    (server.url (Vault.loginPath mount)).HasBlankMount ↔ ¬ NamesMount (Text.ofChars mount) := by
  constructor
  · rintro ⟨other, hother, hdecode⟩
    rw [h.decode_path server] at hdecode
    rwa [Vault.loginPath_injective (Utf8.encode_injective hdecode)]
  · exact fun hmount => ⟨mount, hmount, h.decode_path server⟩

/-- Whether options have kept as much of a mount path as tells whether it is blank. -/
structure Options.KeepsMount (o : Options) (path : Text) : Prop where
  /-- There is a name in what is left exactly if there was one. -/
  names_iff : NamesMount o.mountPath ↔ NamesMount path
  /-- If there was none, blanks are left. -/
  blank : ¬ NamesMount path → IsBlankMount o.mountPath
  /-- The URL of a login has a blank mount segment exactly if there was none. -/
  url : ∀ {v : Vault} {server : Url.Server} {slashes : Nat},
    v.address = Text.ofChars (server.written ++ List.replicate slashes '/') →
    ∀ {mount : List Char}, o.mountPath = Text.ofChars mount → Vault.IsVerbatim mount →
    ∀ {assertion : String} {url : Url}, (v.posting assertion o.mountPath o.role).url = .ok url →
      (url.HasBlankMount ↔ ¬ NamesMount path)

/-- What is left of a mount path after trimming is blank if the whole is. -/
theorem isBlankMount_of_isTrimmed {path mount : Text} (h : IsTrimmed (.char '/') path mount)
    (hne : mount ≠ []) (hpath : ¬ NamesMount path) : IsBlankMount mount := by
  have hbetween : ∀ s ∈ mount, s.isBlank = true ∨ s = .char '/' := by
    rw [← not_namesMount_iff]
    exact fun hmount => hpath ((h.exists_mem_iff (by simp)).mp hmount)
  refine ⟨⟨_, List.head?_eq_some_head hne, ?_⟩, ⟨_, List.getLast?_eq_some_getLast hne, ?_⟩, hbetween⟩
  · refine (hbetween _ (List.head_mem hne)).resolve_right fun hslash => h.front ?_
    rw [List.head?_eq_some_head hne, hslash]
  · refine (hbetween _ (List.getLast_mem hne)).resolve_right fun hslash => h.back ?_
    rw [List.getLast?_eq_some_getLast hne, hslash]

namespace Draft

/-- Options that are built keep the mount path that was written last. -/
theorem exists_keepsMount {history : List Change} {o : Options}
    (h : (applyAll {} history).build = .ok o) :
    ∃ path, Slot.mountPath.last history = some path ∧ o.KeepsMount path := by
  obtain ⟨hmet, hcarries⟩ := ((build_iff history).1 o).mp h
  obtain ⟨path, hpath, htrimmed⟩ := hcarries.mountPath
  obtain ⟨text, htext, c, hc, hslash⟩ := hmet .mountPath
  obtain rfl : path = text := Option.some.inj (hpath.symm.trans htext)
  have hnames : NamesMount o.mountPath ↔ NamesMount path := htrimmed.exists_mem_iff (by simp)
  have hne : o.mountPath ≠ [] := by
    intro hempty
    obtain ⟨d, hd, -⟩ := (htrimmed.exists_mem_iff (p := (· ≠ .char '/')) (by simp)).mpr ⟨c, hc, hslash⟩
    rw [hempty] at hd
    cases hd
  refine ⟨path, hpath, hnames, isBlankMount_of_isTrimmed htrimmed hne, ?_⟩
  intro v server slashes haddress mount hmount hverbatim assertion url hurl
  rw [hmount] at hurl
  obtain ⟨-, rfl⟩ := (hverbatim.posting_url_eq_ok_iff haddress).mp hurl
  rw [server.hasBlankMount_url_iff hverbatim, ← hmount, hnames]

end Draft

/-- So do options that are made of settings. -/
theorem Setup.keepsMount_of_options {settings : Settings} {supplier : Option Supplier} {o : Options}
    (h : options settings supplier = .ok o) : o.KeepsMount settings.mountPath := by
  cases hvalidity : Duration.ofSeconds settings.validitySeconds with
  | error fault =>
    rw [options_of_fault hvalidity] at h
    cases h
  | ok validity =>
    rw [options_of_ofSeconds hvalidity] at h
    obtain ⟨path, hpath, hkeeps⟩ := Draft.exists_keepsMount h
    rw [last_changes] at hpath
    obtain rfl : settings.mountPath = path := Option.some.inj hpath
    exact hkeeps

namespace Draft

/-- Whatever was written to a draft and whatever settings there are: what is built of them has a mount path
with a name exactly if the mount path written last, or that of the settings, has one. If not, it has a
mount path of blanks all the same. A mount path that is taken as it is written reaches the vault in the URL
of a login, so that this has a blank mount segment exactly if the mount path that was given is blank. -/
theorem build_keepsMount (history : List Change) (settings : Settings) (supplier : Option Supplier) :
    (∀ o, (applyAll {} history).build = .ok o →
      ∃ path, Slot.mountPath.last history = some path ∧ o.KeepsMount path) ∧
    ∀ o, Setup.options settings supplier = .ok o → o.KeepsMount settings.mountPath :=
  ⟨fun _ => exists_keepsMount, fun _ => Setup.keepsMount_of_options⟩

/-- A draft with all that is needed, under a mount path. -/
def mounted (path : Text) : List Change :=
  [.role (some "role"), .accountId (some "account"), .projectId (some "project"),
    .mountPath (some path)]

/-- Settings with all that is needed, under a mount path. -/
def mountedSettings (path : Text) : Settings where
  serviceName := "vault-gcp-auth"
  logLevel := "INFO"
  vaultAddress := "http://127.0.0.1:8200"
  vaultNamespace := none
  mountPath := path
  role := "role"
  validitySeconds := 900
  accountId := some "account"
  projectId := some "project"
  signerAddress := Signer.defaultAddress
  timeoutSeconds := Double.ofInt 10

/-- A name among blanks and slashes is kept, with the blanks around it, and so are blanks without a name. -/
theorem build_keepsMount_amongBlanks :
    (∃ o, (applyAll {} (mounted "// gcp /")).build = .ok o ∧ o.mountPath = " gcp " ∧
      NamesMount o.mountPath) ∧
    ∃ o, Setup.options (mountedSettings "/ / /") none = .ok o ∧ IsBlankMount o.mountPath := by
  obtain ⟨hdrafted, hset⟩ := build_keepsMount (mounted "// gcp /") (mountedSettings "/ / /") none
  constructor
  · refine ⟨_, rfl, by decide +kernel, ?_⟩
    obtain ⟨path, hpath, hkeeps⟩ := hdrafted _ rfl
    obtain rfl : Text.ofString "// gcp /" = path := Option.some.inj hpath
    exact hkeeps.names_iff.mpr ⟨.char 'g', by decide, by decide, by decide⟩
  · have hblank : ¬ NamesMount "/ / /" := not_namesMount_iff.mpr (by decide)
    exact ⟨_, rfl, (hset _ rfl).blank hblank⟩

/-- Options are built with a mount path that is a single blank, and the vault is asked under it. -/
theorem build_blankMount :
    ∃ o, (applyAll {} (mounted " ")).build = .ok o ∧ o.mountPath = " " ∧ ¬ NamesMount o.mountPath ∧
      ∃ url, (Vault.silent.posting "jwt" o.mountPath o.role).url = .ok url ∧ url.HasBlankMount := by
  have hbuild : (applyAll {} (mounted " ")).build = .ok {
      role := "role", supplier := none, mountPath := " ", validity := defaultValidity
      account := some (.constant (some "account")), project := some (.constant (some "project"))
      clock := .system } := rfl
  have hblank : ¬ NamesMount " " := not_namesMount_iff.mpr (by decide)
  have hverbatim : Vault.IsVerbatim " ".toList := ⟨by decide, by simp, by decide⟩
  have hfits : Vault.silentServer.Fits (Vault.loginPath " ".toList) :=
    ⟨by decide +kernel, by decide +kernel⟩
  exact ⟨_, hbuild, rfl, hblank, _,
    (hverbatim.posting_url_eq_ok_iff Vault.address_silent).mpr ⟨hfits, rfl⟩,
    (Vault.silentServer.hasBlankMount_url_iff hverbatim).mpr hblank⟩

end Draft

end IamLogin
