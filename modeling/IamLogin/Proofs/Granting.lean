import IamLogin.Proofs.Exchange
import IamLogin.Proofs.Json.Grammar

/-!
# What a success of the vault gives

A success whose body is an object with a part about a token gives this token, however the body is spelled
and whatever else it says. The lease is as many seconds as are said, split into days and the seconds beyond
them; only the days of it can be negative.
-/

namespace IamLogin

/-- Seconds in reach make a duration of that length. -/
theorem Duration.ofSeconds_eq_ok {n : Int} (h : InReach n) : ofSeconds n = .ok (ofParts 0 n 0) := by
  obtain ⟨duration, hduration⟩ := exists_ofSeconds_iff.mpr h
  rw [hduration]
  unfold ofSeconds at hduration
  dsimp only at hduration
  split at hduration
  · cases hduration
  split at hduration
  · cases hduration
  · obtain rfl := Except.ok.inj hduration
    simp only [ofParts, Int.zero_mul, Int.zero_add, Int.add_zero]

/-- The parts of a duration of whole seconds. -/
theorem Duration.parts_ofSeconds (n : Int) :
    (ofParts 0 n 0).days = n / 86400 ∧ (ofParts 0 n 0).seconds = n % 86400 ∧
      (ofParts 0 n 0).microseconds = 0 := by
  have hmicros : (ofParts 0 n 0).micros = n * 1000000 := by
    simp only [ofParts, microsPerSecond, Int.zero_mul, Int.zero_add, Int.add_zero]
  have hwhole : (ofParts 0 n 0).wholeSeconds = n := by
    rw [wholeSeconds, hmicros]
    exact Int.mul_fdiv_cancel n (by decide)
  refine ⟨?_, ?_, ?_⟩
  · rw [days, hwhole]
    exact Int.fdiv_eq_ediv_of_nonneg n (by decide)
  · rw [seconds, hwhole]
    exact Int.fmod_eq_emod_of_nonneg n (by decide)
  · rw [microseconds, hmicros]
    exact Int.mul_fmod_left n 1000000

namespace Grant

/-- Whether the part of an answer about a token says this much: its secret, and whether it can be renewed
and for how many seconds it is given, unless these are left open. -/
structure IsSaid (secret : Text) (renewable? : Option Bool) (seconds? : Option Int)
    (auth : Json.Members) : Prop where
  /-- The secret is a text. -/
  secret : Json.member? "client_token" auth = some (.str secret)
  /-- Whether it can be renewed is a truth value. -/
  renewable : Json.member? "renewable" auth = renewable?.map .bool
  /-- The seconds are an integer. -/
  seconds : Json.member? "lease_duration" auth = seconds?.map .int

/-- What is said passes the check. What is left open is false or zero. -/
theorem IsSaid.check_eq {secret : Text} {renewable? : Option Bool} {seconds? : Option Int}
    {auth : Json.Members} (h : IsSaid secret renewable? seconds? auth) :
    check auth = .valid ⟨secret, renewable?.getD false, seconds?.getD 0⟩ := by
  rw [Grant.check_eq h.secret, Field.optional, Field.optional, h.renewable, h.seconds]
  cases renewable? <;> cases seconds? <;> rfl

end Grant

namespace Vault

/-- A success that can be taken in and says what a token is gives it: whatever text its body is, whatever
else is said in it, and for every secret and every number of seconds that a duration can have. -/
theorem exchange_gives (v : Vault) (method assertion mount role : Text) (before : Journal)
    {request : Request} {answer : Response}
    (hrequest : (v.posting assertion mount role).request = .ok request)
    (hanswer : v.endpoint (before.requestsTo .vault).length request = .ok answer)
    (htake : request.CanTake answer) (hsuccess : answer.status.isSuccess = true)
    {members auth : Json.Members} (hbody : Json.Encodes answer.body (.obj members))
    (hauth : Json.member? "auth" members = some (.obj auth)) {secret : Text}
    {renewable? : Option Bool} {seconds? : Option Int}
    (hsaid : Grant.IsSaid secret renewable? seconds? auth)
    (hreach : Duration.InReach (seconds?.getD 0)) :
    ∃ lease : Duration,
      ((v.exchange method assertion mount role).after before).1 =
        .ok ⟨secret, renewable?.getD false, lease⟩ ∧
      lease.days = seconds?.getD 0 / 86400 ∧ lease.seconds = seconds?.getD 0 % 86400 ∧
      lease.microseconds = 0 := by
  refine ⟨.ofParts 0 (seconds?.getD 0) 0, ?_, Duration.parts_ofSeconds _⟩
  obtain ⟨entries, hafter, -⟩ := v.exchange_after method assertion mount role before
  have hread : readAnswer method answer =
      .ok ⟨secret, renewable?.getD false, seconds?.getD 0⟩ := by
    rw [readAnswer_eq_of_not_isError method (Status.isError_eq_false_of_isSuccess hsuccess),
      Grant.ofResponse_eq (Json.readBytes_of_encodes hbody) hauth, hsaid.check_eq]
  rw [hafter, given, asked, Posting.ask_of_answer hrequest hanswer,
    htake.checkResponse_of_isSuccess hsuccess, except_ok_bind, hread, mapError_ok, except_ok_bind,
    Grant.token, Duration.ofSeconds_eq_ok hreach]
  rfl

end Vault

namespace Json

/-- A member with a name that needs no escape and without blanks. -/
def plainMember (name : String) (chars : List Char) (value : Json) : Reader.Member :=
  ⟨[], name.toList, Text.ofString name, [], [], chars, value, []⟩

/-- An object of two such members. -/
theorem spells_two {room : Nat} {name name' : String} {cs cs' : List Char} {v v' : Json}
    (hname : name.toList.all needsNoEscape = true) (hname' : name'.toList.all needsNoEscape = true)
    (h : Spells room cs v) (h' : Spells room cs' v') :
    Spells (room + 1)
      ('{' :: ((plainMember name cs v).spelled ++ ',' :: ((plainMember name' cs' v').spelled ++ ['}'])))
      (.obj (Entries.ofList [(Text.ofString name, v), (Text.ofString name', v')])) := by
  have hboth : ∀ {P : Reader.Member → Prop}, P (plainMember name cs v) →
      P (plainMember name' cs' v') → ∀ m ∈ [plainMember name cs v, plainMember name' cs' v'], P m :=
    fun hfirst hsecond => List.forall_mem_cons.mpr ⟨hfirst, List.forall_mem_singleton.mpr hsecond⟩
  have hspaced : ∀ m ∈ [plainMember name cs v, plainMember name' cs' v'], m.IsSpaced :=
    hboth ⟨nofun, nofun, nofun, nofun⟩ ⟨nofun, nofun, nofun, nofun⟩
  have hnames : ∀ m ∈ [plainMember name cs v, plainMember name' cs' v'],
      SpellsText m.nameChars m.name :=
    hboth (spellsText_ofChars hname) (spellsText_ofChars hname')
  have hvalues : ∀ m ∈ [plainMember name cs v, plainMember name' cs' v'],
      Spells room m.chars m.value := hboth h h'
  exact .object hspaced hnames hvalues

end Json

namespace Vault

/-- An answer that spells a token in its own way, among other things. -/
def verbose : Response where
  status := ⟨203⟩
  headers := [("content-type", "application/json")]
  body := Utf8.encode (" \x7b\"warnings\":[ ],\"auth\":\x7b\"lease_duration\":-90061," ++
    "\"client_token\":\"\\u00E9\\t\"\x7d\x7d\n").toList

/-- What its body spells. -/
theorem encodes_verbose : Json.Encodes verbose.body (.obj
    [(Text.ofString "warnings", .arr []),
      (Text.ofString "auth", .obj [(Text.ofString "lease_duration", .int (-90061)),
        (Text.ofString "client_token", Json.ofString "é\t")])]) := by
  have hgaps : ∀ c : Char, Json.Reader.isGap (.char c) = true → Json.Reader.AreGaps [c] :=
    fun c hc => List.forall_mem_singleton.mpr hc
  have hdigits : Decimal.AreDigits "90061".toList := List.all_eq_true.mp (by decide +kernel)
  have hlease : Json.Spells 988 ("-90061".toList) (.int (-90061)) :=
    @Json.Spells.number 988 "90061".toList _ true
      (.integer (.inr ⟨hdigits, by decide, by decide⟩) (by decide))
  have hcode : Json.Reader.CodeEscape "\\u00E9".toList 0xE9 :=
    @Json.Reader.CodeEscape.mk '0' '0' 'E' '9' 0 0 14 9 rfl rfl rfl rfl
  have hletter : ('t', '\t') ∈ Json.letters := by simp [Json.letters]
  have htoken : Json.Spells 988 ('"' :: ("\\u00E9\\t".toList ++ ['"'])) (Json.ofString "é\t") :=
    .text (.code hcode rfl (fun hhigh => absurd hhigh (by decide)) (.letter hletter .nil))
  have hauth := Json.spells_two
    (show "lease_duration".toList.all Json.needsNoEscape = true by decide +kernel)
    (show "client_token".toList.all Json.needsNoEscape = true by decide +kernel) hlease htoken
  have hwarnings : Json.Spells 989 ('[' :: ([' '] ++ [']'])) (.arr []) := .emptyList (hgaps ' ' rfl)
  have hbody := Json.spells_two
    (show "warnings".toList.all Json.needsNoEscape = true by decide +kernel)
    (show "auth".toList.all Json.needsNoEscape = true by decide +kernel) hwarnings hauth
  exact ⟨[' '], _, ['\n'], hgaps ' ' rfl, hbody, hgaps '\n' rfl, by decide +kernel⟩

/-- What is left open is false, and below zero only the days are negative. -/
theorem exchange_gives_verbose : ∃ request,
    ((answering verbose).posting "jwt" "gcp" "role").request = .ok request ∧
      (answering verbose).endpoint 0 request = .ok verbose ∧ request.CanTake verbose ∧
      ∃ lease : Duration,
        (((answering verbose).exchange "GCP-IAM" "jwt" "gcp" "role").after []).1 =
          .ok ⟨"é\t", false, lease⟩ ∧
        lease.days = -2 ∧ lease.seconds = 82739 ∧ lease.microseconds = 0 := by
  obtain ⟨request, hrequest, horigin⟩ := toOption_map_eq_some.mp (show
    ((answering verbose).posting "jwt" "gcp" "role").request.toOption.map
      (fun request => request.checkOrigin.toOption) = some (some ()) by decide +kernel)
  have htake : request.CanTake verbose :=
    ⟨by decide +kernel, toOption_eq_some.mp horigin⟩
  have hsaid : Grant.IsSaid "é\t" none (some (-90061))
      [(Text.ofString "lease_duration", .int (-90061)),
        (Text.ofString "client_token", Json.ofString "é\t")] := ⟨rfl, rfl, rfl⟩
  have hreach : Duration.InReach ((some (-90061)).getD 0) := by
    unfold Duration.InReach
    decide
  exact ⟨request, hrequest, rfl, htake, exchange_gives (answering verbose) "GCP-IAM" "jwt" "gcp" "role"
    [] hrequest rfl htake rfl encodes_verbose rfl hsaid hreach⟩

end Vault

end IamLogin
