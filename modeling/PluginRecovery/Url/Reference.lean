import PluginRecovery.Url.Authority

/-!
Reading addresses, absolute ones and those relative to another. A text is first cut into its
scheme, its body, its query and its fragment; what the body means depends on the scheme and on the
address it is relative to.
-/

set_option autoImplicit false
set_option relaxedAutoImplicit false

namespace PluginRecovery.Url

open PluginRecovery.Text

/-- A text cut at the signs that divide an address. -/
structure Reference where
  scheme : Option String
  body : List Char
  query : Option (List Char)
  fragment : Option (List Char)

/-- The text that counts: without blanks and controls around it, and without tabs and line breaks
anywhere. -/
def essential (text : List Char) : List Char :=
  let outer (c : Char) : Bool := c ≤ ' '
  let trimmed := ((text.dropWhile outer).reverse.dropWhile outer).reverse
  trimmed.filter fun c => c != '\t' && c != '\n' && c != '\r'

/-- The scheme that a text begins with, in lower case, and what follows its colon. -/
def splitScheme? (text : List Char) : Option (String × List Char) :=
  let name := text.takeWhile fun c => c.isAlphanum || c == '+' || c == '-' || c == '.'
  match name, text.drop name.length with
  | first :: _, ':' :: rest =>
    if first.isAlpha then some (String.ofList (name.map Char.toLower), rest) else none
  | _, _ => none

/-- The parts before and after the first `sign`. -/
def splitAtSign (sign : Char) (text : List Char) : List Char × Option (List Char) :=
  match text.dropWhile (· != sign) with
  | [] => (text, none)
  | _ :: rest => (text.takeWhile (· != sign), some rest)

def Reference.ofText (text : List Char) : Reference :=
  let whole := essential text
  let (scheme, rest) :=
    match splitScheme? whole with
    | some (scheme, rest) => (some scheme, rest)
    | none => (none, whole)
  let (before, fragment) := splitAtSign '#' rest
  let (body, query) := splitAtSign '?' before
  { scheme, body, query, fragment }

/-- The query that is written, encoded. -/
def Reference.queryText (r : Reference) (scheme : String) : Option String :=
  r.query.map fun query => String.ofList (percentEncode (inQuery (isSpecial scheme)) query)

/-- The fragment that is written, encoded. -/
def Reference.fragmentText (r : Reference) : Option String :=
  r.fragment.map fun fragment => String.ofList (percentEncode inFragment fragment)

/-- The address whose authority and path are written in `text`. -/
def withAuthority (scheme : String) (r : Reference) (text : List Char) : Except UrlError Url := do
  let inHost (c : Char) : Bool := !isSlash (isSpecial scheme) c
  let authority ← authority? scheme (text.takeWhile inHost)
  return {
    scheme
    username := authority.username
    password := authority.password
    host := some authority.host
    port := authority.port
    path := rootPath scheme (text.dropWhile inHost)
    query := r.queryText scheme
    fragment := r.fragmentText }

/-- The address relative to `base` whose body is not empty and begins with no slash: its path goes
on from the last segment of the other. -/
def siblingOf (base : Url) (r : Reference) : Url :=
  let file := base.scheme == "file"
  let before := (shorten file (base.path.list.map String.toList).reverse).reverse
  { base with
    path := pathFrom base.scheme (before.map String.ofList) r.body
    query := r.queryText base.scheme
    fragment := r.fragmentText }

def samePath (base : Url) (r : Reference) : Url :=
  { base with
    query := if r.query.isSome then r.queryText base.scheme else base.query
    fragment := r.fragmentText }

/-- The address relative to `base`, which is no file's. Exactly two slashes begin an authority; a
backslash among them lets any number of slashes do so. -/
def relative (base : Url) (r : Reference) : Except UrlError Url :=
  let slash := isSlash (isSpecial base.scheme)
  match r.body with
  | [] => .ok (samePath base r)
  | [c] => .ok (if slash c then rooted else siblingOf base r)
  | c :: d :: rest =>
    if !slash c then .ok (siblingOf base r)
    else if !slash d then .ok rooted
    else withAuthority base.scheme r (if c == '/' && d == '/' then rest else rest.dropWhile slash)
where
  /-- The address whose path begins at the root. -/
  rooted : Url :=
    { base with
      path := rootPath base.scheme r.body
      query := r.queryText base.scheme
      fragment := r.fragmentText }

def startsWithDrive (body : List Char) : Bool :=
  isDrive (body.take 2) && ((body.drop 2).head?.all (isSlash true))

def fileAt (r : Reference) (host : Host) (path : UrlPath) : Url :=
  { scheme := "file"
    host := some host
    path
    query := r.queryText "file"
    fragment := r.fragmentText }

/-- A file's address that begins with one slash: host and drive come from `base` unless a drive is
written. -/
def rootedFile (base : Option Url) (r : Reference) : Url :=
  let inherited := if startsWithDrive (r.body.drop 1) then none else base
  let drive := (inherited.bind fun base => base.path.list.head?).filter fun first =>
    isDrive first.toList
  match drive with
  | some drive => fileAt r (.name "") (pathFrom "file" [drive] (r.body.drop 1))
  | none =>
    fileAt r ((inherited.bind (·.host)).getD (.name "")) (rootPath "file" r.body)

/-- The address of a file, relative to another when there is one. -/
def fileUrl (base : Option Url) (r : Reference) : Except UrlError Url :=
  let slash := isSlash true
  let inHost (c : Char) : Bool := !slash c
  match r.body with
  | [] =>
    match base with
    | some base => .ok (samePath base r)
    | none => .ok (fileAt r (.name "") (rootPath "file" []))
  | c :: rest =>
    if slash c then
      match rest with
      | d :: more =>
        if !slash d then .ok (rootedFile base r)
        else if isDrive (more.takeWhile inHost) then
          .ok (fileAt r (.name "") (rootPath "file" more))
        else do
          return fileAt r (← fileHost? (more.takeWhile inHost))
            (rootPath "file" (more.dropWhile inHost))
      | [] => .ok (rootedFile base r)
    else
      match base with
      | some base =>
        if startsWithDrive r.body then .ok (fileAt r (.name "") (rootPath "file" r.body))
        else .ok (siblingOf base r)
      | none => .ok (fileAt r (.name "") (rootPath "file" r.body))

def plainUrl (scheme : String) (r : Reference) : Except UrlError Url :=
  match r.body with
  | '/' :: '/' :: rest => withAuthority scheme r rest
  | '/' :: _ =>
    .ok {
      scheme
      path := rootPath scheme r.body
      query := r.queryText scheme
      fragment := r.fragmentText }
  | body =>
    .ok {
      scheme
      path := .flat (String.ofList (percentEncode isPlain body))
      query := r.queryText scheme
      fragment := r.fragmentText }

/-- The address with a special scheme that is no file's: all slashes before the host are left out,
and less than two after the scheme of `base` make it relative. -/
def specialUrl (base : Option Url) (scheme : String) (r : Reference) : Except UrlError Url :=
  let slash := isSlash true
  match base with
  | some base =>
    if base.scheme == scheme && (r.body.takeWhile slash).length < 2 then relative base r
    else withAuthority scheme r (r.body.dropWhile slash)
  | none => withAuthority scheme r (r.body.dropWhile slash)

/-- The address that a text without a scheme names. To one without segments only a fragment can be
relative. -/
def relativeUrl (base : Url) (r : Reference) : Except UrlError Url :=
  match base.path with
  | .flat _ =>
    if r.body.isEmpty && r.query.isNone && r.fragment.isSome then .ok (samePath base r)
    else .error .relativeToFlatBase
  | .segments _ => if base.scheme == "file" then fileUrl (some base) r else relative base r

/-- The address that a reference names. -/
def ofReference (base : Option Url) (r : Reference) : Except UrlError Url :=
  match r.scheme, base with
  | some "file", _ => fileUrl (base.filter (·.scheme == "file")) r
  | some scheme, _ => if isSpecial scheme then specialUrl base scheme r else plainUrl scheme r
  | none, some base => relativeUrl base r
  | none, none => .error .relativeWithoutBase

/-- Read an absolute address. -/
def read? (text : String) : Except UrlError Url :=
  ofReference none (Reference.ofText text.toList)

/-- Read an address relative to another. -/
def join (base : Url) (text : String) : Except UrlError Url :=
  ofReference (some base) (Reference.ofText text.toList)

end PluginRecovery.Url
