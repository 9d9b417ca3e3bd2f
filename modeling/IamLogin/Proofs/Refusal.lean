import IamLogin.Proofs.Exchange
import IamLogin.Proofs.Json.Notation

/-!
# What a refusal says

A vault that answers with an error status refuses, and the failure that comes of it tells the caller why.
If the body is an object with a list of errors, these are shown one after the other, whatever values they
are; in any other case the status is named instead. Which of the two it is takes a reading of the body,
and every way in which that reading can fail leads to the second: a body that is empty, is no text or no
JSON, or has another shape is as good as one that says nothing. Whatever the body says, it is not looked
at for a grant.
-/

namespace IamLogin

/-- A text has an end of characters that satisfy `p`, and what stands before it does not end with one. -/
theorem exists_append_end (p : Char → Bool) (cs : List Char) : ∃ kept ending, cs = kept ++ ending ∧
    (∀ c ∈ ending, p c = true) ∧ ∀ c, kept.getLast? = some c → p c = false := by
  induction cs using List.reverseRecOn with
  | nil => exact ⟨[], [], rfl, List.forall_mem_nil _, nofun⟩
  | append_singleton front c ih =>
    cases hc : p c with
    | false =>
      refine ⟨front ++ [c], [], (List.append_nil _).symm, List.forall_mem_nil _, fun d hd => ?_⟩
      rw [List.getLast?_concat] at hd
      obtain rfl := Option.some.inj hd
      exact hc
    | true =>
      obtain ⟨kept, ending, rfl, hending, hend⟩ := ih
      exact ⟨kept, ending ++ [c], List.append_assoc .., List.forall_mem_append.mpr
        ⟨hending, List.forall_mem_singleton.mpr hc⟩, hend⟩

/-- No phrase that goes with a code ends with a blank. -/
theorem Status.isBlank_getLast?_reason {s : Status} {c : Char}
    (h : s.reason.toList.getLast? = some c) : isBlank c = false := by
  have hends : s.reason.toList.getLast?.all (fun c => !isBlank c) = true := by
    unfold reason
    split <;> decide +kernel
  rw [h] at hends
  simpa using hends

namespace Vault

/-- The words for a status are its code and its phrase, if there is one, without the blanks at the end
of it. -/
theorem statusLine_eq {answer : Response} {phrase blanks : List Char}
    (hreason : answer.reason.toList = phrase ++ blanks) (hblanks : ∀ c ∈ blanks, isBlank c = true)
    (hend : ∀ c, phrase.getLast? = some c → isBlank c = false) :
    statusLine answer = "HTTP " ++ Decimal.text answer.status.code ++
      (if phrase = [] then "" else " " ++ String.ofList phrase) := by
  obtain ⟨head, hhead⟩ : ∃ head, head = "HTTP ".toList ++ Decimal.ofNat answer.status.code := ⟨_, rfl⟩
  have hcode : (Decimal.text answer.status.code).toList = Decimal.ofNat answer.status.code :=
    String.toList_ofList
  have htext : ("HTTP " ++ Decimal.text answer.status.code).toList = head := by
    rw [hhead, String.toList_append, hcode]
  have hfront : ∀ rest c, (head ++ rest).head? = some c → isBlank c = false := by
    intro rest c hc
    obtain rfl : 'H' = c := by
      rw [hhead] at hc
      exact Option.some.inj hc
    decide
  have hnothing : ∀ c ∈ ([] : List Char), isBlank c = true := List.forall_mem_nil _
  have hline : ("HTTP " ++ Decimal.text answer.status.code ++ " " ++ answer.reason).toList =
      head ++ [' '] ++ (phrase ++ blanks) := by
    rw [String.toList_append, String.toList_append, htext, hreason]
    rfl
  rw [statusLine, hline]
  by_cases hphrase : phrase = []
  · -- the blank behind the code goes with the others
    have hback : ∀ c, head.getLast? = some c → isBlank c = false := by
      intro c hc
      rw [hhead, List.getLast?_append_of_ne_nil _ (Decimal.ofNat_ne_nil _)] at hc
      exact Decimal.isBlank_of_isDigit (Decimal.isDigit_of_mem_ofNat (List.mem_of_getLast? hc))
    have hafter : ∀ c ∈ ' ' :: blanks, isBlank c = true :=
      List.forall_mem_cons.mpr ⟨by decide, hblanks⟩
    have htrim := trimBoth_append_append hnothing hafter (by simpa using hfront []) hback
    rw [List.nil_append] at htrim
    rw [if_pos hphrase, hphrase, String.append_empty, List.nil_append, List.append_assoc,
      List.singleton_append, htrim, ← htext, String.ofList_toList]
  · have hback : ∀ c, (head ++ [' '] ++ phrase).getLast? = some c → isBlank c = false := by
      intro c hc
      rw [List.getLast?_append_of_ne_nil _ hphrase] at hc
      exact hend c hc
    have htrim := trimBoth_append_append hnothing hblanks
      (by simpa using hfront ([' '] ++ phrase)) hback
    rw [List.nil_append] at htrim
    rw [if_neg hphrase, ← List.append_assoc, htrim, String.ofList_append, String.ofList_append,
      ← htext, String.ofList_toList, String.append_assoc]

/-! ## What the body says -/

/-- Whether the body of an answer gives reasons. -/
structure GivesReasons (answer : Response) (reasons : List Json) : Prop where
  /-- It is an object with a list of errors, and these are the reasons. -/
  body : ∃ members, Json.readBytes answer.body = .ok (.obj members) ∧
    Json.member? "errors" members = some (.arr reasons)
  /-- The list is not empty. -/
  ne_nil : reasons ≠ []

/-- What the words of an answer are when it refuses. -/
inductive Says (answer : Response) : Text → Prop
  /-- The reasons as they are displayed, all of them and in their order. -/
  | reasons {reasons : List Json} {shown : List Text} :
    GivesReasons answer reasons → List.Forall₂ Json.Displays reasons shown →
    Says answer (List.intercalate (Text.ofString "; ") shown)
  /-- The status with its phrase, if there are no reasons. Blanks at the end of the phrase go. -/
  | status {phrase blanks : List Char} :
    (∀ reasons, ¬ GivesReasons answer reasons) →
    answer.reason.toList = phrase ++ blanks → (∀ c ∈ blanks, isBlank c = true) →
    (∀ c, phrase.getLast? = some c → isBlank c = false) →
    Says answer (Text.ofString ("HTTP " ++ Decimal.text answer.status.code ++
      (if phrase = [] then "" else " " ++ String.ofList phrase)))

/-- Where no phrase came with the status, it is the one that goes with the code. -/
theorem says_code {answer : Response} (hphrase : answer.phrase = none)
    (hnone : ∀ reasons, ¬ GivesReasons answer reasons) :
    Says answer (Text.ofString ("HTTP " ++ Decimal.text answer.status.code ++
      (if answer.status.reason = "" then "" else " " ++ answer.status.reason))) := by
  have hreason : answer.reason = answer.status.reason := by
    rw [Response.reason, hphrase]
  have hsays := @Says.status answer answer.status.reason.toList [] hnone
    (by rw [hreason, List.append_nil]) (List.forall_mem_nil _)
    fun c hc => Status.isBlank_getLast?_reason hc
  simpa only [String.toList_eq_nil_iff, String.ofList_toList] using hsays

/-- The reasons in a body are the errors in it. -/
theorem reasons?_eq_some_iff {body : Json} {reasons : List Json} :
    reasons? body = some reasons ↔
      (∃ members, body = .obj members ∧ Json.member? "errors" members = some (.arr reasons)) ∧
        reasons ≠ [] := by
  unfold reasons?
  constructor
  · intro h
    split at h
    · case h_1 first more hfound =>
      obtain rfl := Option.some.inj h
      obtain ⟨members, hmembers, herrors⟩ := Option.bind_eq_some_iff.mp hfound
      cases body with
      | obj list =>
        obtain rfl : list = members := Option.some.inj hmembers
        exact ⟨⟨list, rfl, herrors⟩, List.cons_ne_nil _ _⟩
      | _ => cases hmembers
    · cases h
  · rintro ⟨⟨members, rfl, herrors⟩, hne⟩
    rw [Json.members?, Option.bind_some, herrors]
    cases reasons with
    | nil => exact absurd rfl hne
    | cons first more => rfl

/-- The reasons that an answer gives are those in its body. -/
theorem givesReasons_iff {answer : Response} {reasons : List Json} :
    GivesReasons answer reasons ↔ (Json.readBytes answer.body).toOption.bind reasons? = some reasons := by
  simp only [Option.bind_eq_some_iff, toOption_eq_some, reasons?_eq_some_iff]
  constructor
  · rintro ⟨⟨members, hread, herrors⟩, hne⟩
    exact ⟨_, hread, ⟨members, rfl, herrors⟩, hne⟩
  · rintro ⟨_, hread, ⟨members, rfl, herrors⟩, hne⟩
    exact ⟨⟨members, hread, herrors⟩, hne⟩

/-- An answer that refuses has words. -/
theorem exists_says (answer : Response) : ∃ words, Says answer words := by
  by_cases h : ∃ reasons, GivesReasons answer reasons
  · obtain ⟨reasons, hreasons⟩ := h
    exact ⟨_, .reasons hreasons (Json.forall₂_displays_iff.mpr rfl)⟩
  · obtain ⟨phrase, blanks, hreason, hblanks, hend⟩ :=
      exists_append_end isBlank answer.reason.toList
    exact ⟨_, .status (not_exists.mp h) hreason hblanks hend⟩

/-- What is read from a refusal are its words, and nothing else is. -/
theorem refusal_eq_ok_iff {answer : Response} {words : Text}
    (hshallow : ∀ container, Json.readBytes answer.body ≠ .error (.tooDeep container)) :
    refusal answer = .ok words ↔ Says answer words := by
  have hread : ∀ {said}, Says answer said → refusal answer = .ok said := by
    intro said hsaid
    rw [refusal_eq hshallow]
    cases hsaid with
    | reasons hreasons hshown =>
      rw [givesReasons_iff.mp hreasons, Json.forall₂_displays_iff.mp hshown, Option.elim_some]
    | status hnone hreason hblanks hend =>
      have hnothing : (Json.readBytes answer.body).toOption.bind reasons? = none :=
        Option.eq_none_iff_forall_ne_some.mpr fun reasons h => hnone reasons (givesReasons_iff.mpr h)
      rw [hnothing, Option.elim_none, statusLine_eq hreason hblanks hend]
  refine ⟨fun h => ?_, hread⟩
  obtain ⟨said, hsaid⟩ := exists_says answer
  obtain rfl : words = said := Except.ok.inj (h.symm.trans (hread hsaid))
  exact hsaid

/-- An exchange that is answered with an error status fails to log in, for no other failure: the message
names the method and what the answer says, and an answer says one thing. -/
theorem exchange_refused (v : Vault) (method assertion mount role : Text) (before : Journal)
    {request : Request} {answer : Response}
    (hrequest : (v.posting assertion mount role).request = .ok request)
    (hanswer : v.endpoint (before.requestsTo .vault).length request = .ok answer)
    (htake : request.CanTake answer) (herror : answer.status.isError = true)
    (hshallow : ∀ container, Json.readBytes answer.body ≠ .error (.tooDeep container)) :
    ∃ failure words,
      (v.exchange method assertion mount role).after before =
        (.error failure, before ++ [.request .vault request]) ∧
      failure.kind = .authentication ∧ failure.cause? = none ∧
      failure.message = Text.ofString "Cannot login using " ++ method ++ Text.ofString ": " ++ words ∧
      Says answer words ∧ ∀ other, Says answer other → other = words := by
  obtain ⟨words, hwords⟩ := exists_says answer
  have hrefusal := (refusal_eq_ok_iff hshallow).mpr hwords
  have hunique : ∀ other, Says answer other → other = words := fun other hother =>
    Except.ok.inj (((refusal_eq_ok_iff hshallow).mpr hother).symm.trans hrefusal)
  have hread : readAnswer method answer = .error (.vaultRefused method words) := by
    rw [readAnswer, herror, hrefusal]
    rfl
  have hchecked := htake.checkResponse_of_not_isRedirect (Status.isRedirect_eq_false_of_isError herror)
  have houtcome : v.outcome method (before.requestsTo .vault).length request =
      .error (.vaultRefused method words) := by
    rw [outcome, Request.outcome, hanswer, except_ok_bind, hchecked]
    exact hread
  obtain ⟨result, entries, hafter, hcourse⟩ := v.exists_course method assertion mount role before
  refine ⟨.vaultRefused method words, words, ?_, rfl, rfl, rfl, hwords, hunique⟩
  cases hcourse with
  | unsent hunsent =>
    rw [hrequest] at hunsent
    cases hunsent
  | granted hsent hgranted =>
    obtain rfl := Except.ok.inj (hrequest.symm.trans hsent)
    rw [houtcome] at hgranted
    cases hgranted
  | refused hsent hrefused =>
    obtain rfl := Except.ok.inj (hrequest.symm.trans hsent)
    obtain rfl := Except.error.inj (houtcome.symm.trans hrefused)
    exact hafter

/-- A refusal with two reasons, a text that ends in a half and an object. -/
def sealed : Response where
  status := ⟨503⟩
  headers := [("content-type", "application/json")]
  body := Utf8.encode ("\x7b\"auth\":\x7b\"client_token\":\"t\"\x7d," ++
    "\"errors\":[\"Vault is sealed\\ud800\",\x7b\"hint\":[null,\"it's\",1e1]\x7d]\x7d").toList

/-- What it says. -/
def sealedWords : Text :=
  Text.ofString "Vault is sealed" ++ [.half .first] ++
    Text.ofString "; \x7b'hint': [None, \"it's\", 10.0]\x7d"

/-- Its reasons are shown, and its token is not taken. -/
theorem exchange_refused_sealed : ∃ request failure,
    ((answering sealed).posting "jwt" "gcp" "role").request = .ok request ∧
      (answering sealed).endpoint 0 request = .ok sealed ∧ request.CanTake sealed ∧
      sealed.status.isError = true ∧
      (∀ container, Json.readBytes sealed.body ≠ .error (.tooDeep container)) ∧
      ((answering sealed).exchange "GCP-IAM" "jwt" "gcp" "role").after [] =
        (.error failure, [] ++ [.request .vault request]) ∧
      failure.kind = .authentication ∧ failure.cause? = none ∧
      failure.message = Text.ofString "Cannot login using GCP-IAM: " ++ sealedWords := by
  obtain ⟨request, hrequest, horigin⟩ := toOption_map_eq_some.mp (show
    ((answering sealed).posting "jwt" "gcp" "role").request.toOption.map
      (fun request => request.checkOrigin.toOption) = some (some ()) by decide +kernel)
  have htake : request.CanTake sealed := ⟨by decide +kernel, toOption_eq_some.mp horigin⟩
  have hread : (Json.readBytes sealed.body).toOption.isSome = true := by decide +kernel
  have hshallow : ∀ container, Json.readBytes sealed.body ≠ .error (.tooDeep container) := by
    intro container hdeep
    rw [hdeep] at hread
    cases hread
  have hwords : Says sealed sealedWords :=
    (refusal_eq_ok_iff hshallow).mp (toOption_eq_some.mp (by decide +kernel))
  obtain ⟨failure, words, hafter, hkind, hcause, hmessage, -, hunique⟩ :=
    exchange_refused (answering sealed) "GCP-IAM" "jwt" "gcp" "role" [] hrequest rfl htake rfl hshallow
  rw [← hunique _ hwords] at hmessage
  exact ⟨request, failure, hrequest, rfl, htake, rfl, hshallow, hafter, hkind, hcause, hmessage⟩

end Vault

end IamLogin
