import IamLogin.Url.Reader

/-!
# References

A reference names a place by itself, or relative to a base. The rules of reading one are looser than
those of a URL that is asked: no part is checked or escaped, and the only texts that are refused are
those in which brackets stand in an authority but not around an address. Where the last segment of
a path ends in a semicolon and parameters, these are a part of their own.

The main operation takes two texts, a base and a reference, to the text of the place that the
reference names from there.
-/

namespace IamLogin

/-- A reference in its parts. An absent part is empty. -/
structure Reference where
  /-- The scheme, in lower case. -/
  scheme : List Char
  /-- What follows two slashes. -/
  authority : List Char
  /-- The path without its parameters. -/
  path : List Char
  /-- What follows a semicolon in the last segment of the path. -/
  params : List Char
  /-- What follows a question mark. -/
  query : List Char
  /-- What follows a number sign. -/
  fragment : List Char
deriving DecidableEq, Repr

namespace Reference

/-- The schemes whose places form a tree below an authority, so that a reference can be relative.
A reference without a scheme is of that kind too. -/
def treeSchemes : List String := [
  "", "ftp", "http", "gopher", "nntp", "imap", "wais", "file", "https", "shttp", "mms",
  "prospero", "rtsp", "rtsps", "rtspu", "sftp", "svn", "svn+ssh", "ws", "wss"]

/-- The schemes whose paths can end in parameters. -/
def paramSchemes : List String := [
  "", "ftp", "hdl", "prospero", "http", "imap", "https", "shttp", "rtsp", "rtsps", "rtspu", "sip",
  "sips", "mms", "sftp", "tel"]

/-! ## Reading -/

/-- Whether a text can stand in brackets: an address of the newer kind, or one of a kind to come,
which is marked by a letter, a number and a point. -/
def isBracketable : List Char → Bool
  | 'v' :: rest => match cutFirst '.' rest with
    | (number, some (_ :: _)) => !number.isEmpty && number.all fun c => (Hex.value? c).isSome
    | _ => false
  | address => Address.isVersion6 address

/-- Whether brackets in an authority stand around an address. -/
def hasGoodBrackets (authority : List Char) : Bool :=
  match authority.contains '[', authority.contains ']' with
  | false, false => true
  | true, true =>
    isBracketable (((cutFirst '[' authority).2.getD []).takeWhile (· ≠ ']'))
  | _, _ => false

/-- A path without the parameters of its last segment, and these. -/
def cutParams (path : List Char) : List Char × List Char :=
  let (front, last) := match cutLast? '/' path with
    | some (front, last) => (front ++ ['/'], last)
    | none => ([], path)
  let (last, params) := cutFirst ';' last
  (front ++ last, params.getD [])

/-- The scheme that a text names, or else the implied one, and what is left of the text. -/
def cutScheme (implied cs : List Char) : List Char × List Char :=
  match Url.cutScheme cs with
  | ([], _) => (implied, cs)
  | (scheme, rest) => (scheme.map Char.toLower, rest)

/-- The reference in a text, with an implied scheme unless it names one. -/
def ofChars? (implied cs : List Char) : Option Reference :=
  let (scheme, rest) := cutScheme implied cs
  let (authority, rest) := Url.cutAuthority rest
  let (rest, fragment) := cutFirst '#' rest
  let (path, query) := cutFirst '?' rest
  let (path, params) :=
    if paramSchemes.contains (String.ofList scheme) then cutParams path else (path, [])
  if hasGoodBrackets authority then
    some { scheme, authority, path, params, query := query.getD [], fragment := fragment.getD [] }
  else none

/-! ## Writing -/

/-- Whether the places of a scheme form a tree below an authority. -/
def isTree (r : Reference) : Bool := treeSchemes.contains (String.ofList r.scheme)

/-- A reference as text. The two slashes of an authority are written even where it is empty, if the
scheme calls for one or the path would be taken for one. -/
def chars (r : Reference) : List Char :=
  let path := if r.params.isEmpty then r.path else r.path ++ ';' :: r.params
  let showsAuthority :=
    !r.authority.isEmpty || (!r.scheme.isEmpty && r.isTree) || path.take 2 == ['/', '/']
  let rooted := if path.isEmpty || path.head? == some '/' then path else '/' :: path
  (if r.scheme.isEmpty then [] else r.scheme ++ [':']) ++
    (if showsAuthority then '/' :: '/' :: (r.authority ++ rooted) else path) ++
    (if r.query.isEmpty then [] else '?' :: r.query) ++
    (if r.fragment.isEmpty then [] else '#' :: r.fragment)

/-! ## Resolving -/

/-- Segments without the empty ones, but for the first and the last. -/
def dropInnerEmpty : List (List Char) → List (List Char)
  | [] => []
  | first :: rest => first :: (rest.dropLast.filter (· ≠ []) ++ rest.getLast?.toList)

/-- The segments of a path that starts from the directory of a base, unless it starts from the
root. -/
def segmentsFrom (base path : List Char) : List (List Char) :=
  if path.head? = some '/' then pieces '/' path
  else
    let parts := pieces '/' base
    let directory := if parts.getLast? = some [] then parts else parts.dropLast
    dropInnerEmpty (directory ++ pieces '/' path)

/-- Segments with `.` dropped and `..` taking back the segment before it, if there is one. Either
of them at the end leaves an empty segment, as it names a directory. -/
def resolveDots (segments : List (List Char)) : List (List Char) :=
  let done := segments.foldl (fun done segment =>
    if segment = ['.', '.'] then done.drop 1
    else if segment = ['.'] then done
    else segment :: done) []
  let endsInDots := segments.getLast? = some ['.'] ∨ segments.getLast? = some ['.', '.']
  (if endsInDots then [] :: done else done).reverse

/-- The path that a path names from a base. It is never empty. -/
def pathFrom (base path : List Char) : List Char :=
  let path := joinPieces '/' (resolveDots (segmentsFrom base path))
  if path.isEmpty then ['/'] else path

/-- The place that a reference names from a base of the same scheme. It takes from the base what
stands before its own first part. -/
def place (base r : Reference) : Reference :=
  if !r.authority.isEmpty then r
  else if r.path.isEmpty && r.params.isEmpty then
    { base with
      query := if r.query.isEmpty then base.query else r.query
      fragment := r.fragment }
  else { r with authority := base.authority, path := pathFrom base.path r.path }

/-- The text of the place that a reference names from a base; `none` if one of the two is refused. A
reference of another scheme, or of one without relative references, stays as it is. -/
def resolve? (base cs : List Char) : Option (List Char) :=
  if base.isEmpty then some cs
  else if cs.isEmpty then some base
  else do
    let base ← ofChars? [] base
    let r ← ofChars? base.scheme cs
    return if r.scheme = base.scheme ∧ r.isTree then (base.place r).chars else cs

/-! ## Origins -/

/-- A text without the mark that can announce a URL. -/
def dropMark : List Char → List Char
  | 'U' :: 'R' :: 'L' :: ':' :: rest => rest
  | cs => cs

/-- Whether a text begins with a name and a colon. Without them nothing can be said about how a
place would be reached. -/
def beginsWithName (cs : List Char) : Bool :=
  let front := cs.takeWhile fun c => c ≠ '/' ∧ c ≠ ':'
  !front.isEmpty && (cs.drop front.length).head? == some ':'

example : resolve? "http://h/a/b?q".toList "../c;p".toList = some "http://h/c;p".toList := by cbv
example : resolve? "http://h/a/b?q".toList "#f".toList = some "http://h/a/b?q#f".toList := by cbv
example : resolve? "http://h/a".toList "//[::1".toList = none := by cbv
example : resolve? "x:y".toList "/z".toList = some "/z".toList := by cbv

end Reference

end IamLogin
