import IamLogin.Proofs.Action

/-!
# What a posting becomes

The URL of a request is made from the address and the path of the posting alone, and its body from
the body alone. The headers decide only whether the request is made, and so do the lone halves in the
path and the body: a request has none.
-/

namespace IamLogin

variable {ε ε' α : Type}

/-- A failure that is only put in other words leaves a success alone. -/
theorem mapError_eq_ok {explain : ε → ε'} {result : Except ε α} {value : α} :
    result.mapError explain = .ok value ↔ result = .ok value := by
  cases result <;> simp

namespace Posting

/-- A string can stand in a header if it is ASCII. -/
theorem isSendable_ofString (s : String) :
    isSendable (Text.ofString s) = s.toList.all fun c => c.toNat < 0x80 := by
  rw [isSendable, Text.ofString, Text.ofChars, List.all_map]
  rfl

/-- A numeral can stand in a header. -/
theorem isSendable_text (n : Nat) : isSendable (Text.ofString (Decimal.text n)) = true := by
  rw [isSendable_ofString, Decimal.text, String.toList_ofList, List.all_eq_true]
  intro c hc
  have hcode := Decimal.isDigit_iff.mp (Decimal.isDigit_of_mem_ofNat hc)
  rw [decide_eq_true_eq]
  omega

/-- The URL of a posting. -/
def url (p : Posting) : Except Failure Url := do
  place (← base p.address) p.path

/-- What is read by its characters, and fails if it has a lone half, is read exactly if it has none and
its characters are. -/
theorem read_eq_ok {t : Text} {read : List Char → Except Failure Url} {broken : Failure} {url : Url} :
    (match t.toChars? with
      | some cs => read cs
      | none => .error broken) = .ok url ↔ ∃ cs, t = Text.ofChars cs ∧ read cs = .ok url := by
  constructor
  · intro h
    cases ht : t.toChars? with
    | some cs =>
      rw [ht] at h
      exact ⟨cs, Text.toChars?_eq_some ht, h⟩
    | none =>
      rw [ht] at h
      cases h
  · rintro ⟨cs, rfl, h⟩
    rw [Text.toChars?_ofChars]
    exact h

/-- An address without lone halves is a base by its characters. -/
theorem base_ofChars (cs : List Char) :
    base (Text.ofChars cs) = (Url.asBase cs).mapError .badUrl := by
  rw [base, Text.toChars?_ofChars]

/-- Only an address without lone halves is a base. -/
theorem exists_chars_of_base {address : Text} {url : Url} (h : base address = .ok url) :
    ∃ cs, address = Text.ofChars cs ∧ Url.asBase cs = .ok url := by
  obtain ⟨cs, hcs, hread⟩ := read_eq_ok.mp h
  exact ⟨cs, hcs, mapError_eq_ok.mp hread⟩

/-- A path without lone halves stands under a base by its characters. -/
theorem place_ofChars (base : Url) (cs : List Char) :
    place base (Text.ofChars cs) = (Url.under base cs).mapError .badUrl := by
  rw [place, Text.toChars?_ofChars]

/-- Only a path without lone halves stands under a base. -/
theorem exists_chars_of_place {base url : Url} {path : Text} (h : place base path = .ok url) :
    ∃ cs, path = Text.ofChars cs ∧ Url.under base cs = .ok url := by
  obtain ⟨cs, hcs, hread⟩ := read_eq_ok.mp h
  exact ⟨cs, hcs, mapError_eq_ok.mp hread⟩

/-- The headers of a posting to a URL. -/
def named (p : Posting) (url : Url) : Entries String Text :=
  [("accept", Text.ofString p.accept)] ++ p.headers ++
    [("content-length", Text.ofString (Decimal.text (Utf8.encode p.content.toList).length)),
      ("content-type", Text.ofString "application/json")] ++
    (if url.host.isEmpty then [] else [("host", Text.ofChars url.netloc)])

/-- The request of a posting to a URL. -/
def requestTo (p : Posting) (url : Url) : Request where
  url := url
  headers := match basicAuthorization? url with
    | none => p.named url
    | some authorization => Entries.put "authorization" (Text.ofString authorization) (p.named url)
  body := p.content

/-- Whether no text of the body has a lone half. -/
def isWritable (p : Posting) : Bool := p.body.all fun m => m.2.toChars?.isSome

/-- A request is made if the posting has a URL and its headers and its body can be sent. -/
theorem request_eq (p : Posting) :
    p.request = p.url >>= fun url =>
      if (p.named url).all (fun h => isSendable h.2) = true then
        if p.isWritable = true then .ok (p.requestTo url) else .error .loneHalf
      else .error .badHeader := by
  unfold request url
  cases base p.address with
  | error fault => rfl
  | ok base =>
    cases hurl : place base p.path with
    | error fault => simp only [except_ok_bind, hurl, except_error_bind]
    | ok url =>
      simp only [hurl, except_ok_bind]
      change (do
        if !(p.named url).all fun h => isSendable h.2 then throw Failure.badHeader
        if !p.isWritable then throw Failure.loneHalf
        return p.requestTo url) = _
      cases (p.named url).all fun h => isSendable h.2 with
      | false => rfl
      | true => cases p.isWritable <;> rfl

/-- What it takes for a request to be made. -/
theorem request_eq_ok {p : Posting} {request : Request} :
    p.request = .ok request ↔ ∃ url, p.url = .ok url ∧
      (p.named url).all (fun h => isSendable h.2) = true ∧ p.isWritable = true ∧
      p.requestTo url = request := by
  rw [request_eq, except_bind_eq_ok]
  refine exists_congr fun url => and_congr_right fun _ => ?_
  split
  · case isTrue h =>
    split
    · case isTrue hbody => simp only [h, hbody, true_and, Except.ok.injEq]
    · case isFalse hbody => simp only [hbody, false_and, and_false, reduceCtorEq]
  · case isFalse h => simp only [h, false_and, reduceCtorEq]

/-- The body of a request is the body of the posting. -/
theorem body_of_request {p : Posting} {request : Request} (h : p.request = .ok request) :
    request.body = p.content := by
  obtain ⟨_, _, _, _, rfl⟩ := request_eq_ok.mp h
  rfl

end Posting

end IamLogin
