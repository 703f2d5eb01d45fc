import PklHost.Url.Path

/-!
# Reading URLs

`Url.parse` reads an absolute URL. Blanks and control characters at the ends, and tabs and line
breaks anywhere, are no part of it. What stands after the scheme depends on the scheme's class: special
schemes have an authority behind any number of slashes of either kind, other schemes have one behind
exactly two slashes, a path behind one and an opaque path otherwise.
-/

namespace PklHost.Url

/-! ## Pieces of the text -/

/-- The text without what is no part of a URL. -/
def significant (s : String) : List Char :=
  let trimmed := (s.toList.dropWhile fun c => c.toNat ≤ 0x20).reverse.dropWhile
    (fun c => c.toNat ≤ 0x20) |>.reverse
  trimmed.filter fun c => c != '\t' && c != '\n' && c != '\r'

def isSchemeChar (c : Char) : Bool :=
  c.isAlphanum || c == '+' || c == '-' || c == '.'

/-- The scheme, in lower case, and what stands after its colon. -/
def splitScheme? (cs : List Char) : Option (String × List Char) :=
  match cs.head? with
  | none => none
  | some first =>
    if first.isAlpha then
      match cs.dropWhile isSchemeChar with
      | ':' :: rest => some (String.ofList ((cs.takeWhile isSchemeChar).map Char.toLower), rest)
      | _ => none
    else none

/-- Before and after the first character that satisfies `stop`. -/
def cutAt (stop : Char → Bool) (cs : List Char) : List Char × List Char :=
  (cs.takeWhile fun c => !stop c, cs.dropWhile fun c => !stop c)

/-- The end of an authority. -/
def endsAuthority (c : SchemeClass) (ch : Char) : Bool :=
  ch == '/' || ch == '?' || ch == '#' || (c.isSpecial && ch == '\\')

/-- The end of a path. -/
def endsPath (ch : Char) : Bool :=
  ch == '?' || ch == '#'

/-- The query and the fragment. -/
def queryAndFragment (c : SchemeClass) (cs : List Char) : Option String × Option String :=
  let fragment : List Char → Option String
    | '#' :: rest => some (String.ofList (encodeChars inFragmentSet rest))
    | _ => none
  match cs with
  | '?' :: rest =>
    let (query, rest) := cutAt (· == '#') rest
    let inSet := if c.isSpecial then inSpecialQuerySet else inQuerySet
    (some (String.ofList (encodeChars inSet query)), fragment rest)
  | rest => (none, fragment rest)

/-! ## The authority -/

/-- The part of an authority before its last at sign, if it has one, and the part after it. -/
def splitUserinfo (cs : List Char) : Option (List Char) × List Char :=
  match cs.reverse.dropWhile (· != '@') with
  | [] => (none, cs)
  | _ :: before => (some before.reverse, (cs.reverse.takeWhile (· != '@')).reverse)

/-- User and password, encoded, with the separating sign; an empty password is left out. -/
def userinfoText (cs : List Char) : String :=
  let (user, rest) := cutAt (· == ':') cs
  let password := rest.drop 1
  let text := encodeChars inUserinfoSet user ++
    (if password.isEmpty then [] else ':' :: encodeChars inUserinfoSet password)
  if text.isEmpty then "" else String.ofList (text ++ ['@'])

/-- The host of an authority, up to a colon outside brackets, and what follows it. -/
def splitHost (inBrackets : Bool) : List Char → List Char × List Char
  | [] => ([], [])
  | c :: cs =>
    if c == ':' && !inBrackets then ([], c :: cs)
    else
      let (host, rest) := splitHost (if c == '[' then true else if c == ']' then false else inBrackets) cs
      (c :: host, rest)

/-- A port: digits up to 65535, and what follows them. No digits are no port. -/
def portOf (cs : List Char) : Except Fault (Option Nat × List Char) :=
  let (digits, rest) := (cs.takeWhile Char.isDigit, cs.dropWhile Char.isDigit)
  match digitsValue? 10 digits with
  | none => .error .port
  | some port =>
    if 65535 < port then .error .port
    else
      let port := if digits.isEmpty then none else some port
      match rest with
      | [] => .ok (port, rest)
      | c :: _ =>
        if c == '/' || c == '\\' || c == '?' || c == '#' then .ok (port, rest) else .error .port

/-- An authority, from the text after its slashes to the end of the URL, and the text after it. -/
def authorityOf (c : SchemeClass) (cs : List Char) :
    Except Fault (Authority × List Char) := do
  let (inside, after) := cutAt (endsAuthority c) cs
  let (userinfo?, hostAndPort) := splitUserinfo inside
  if userinfo? = some [] && hostAndPort.isEmpty && !after.isEmpty then throw .emptyHost
  let userinfo := userinfoText (userinfo?.getD [])
  let (hostChars, rest) := splitHost false hostAndPort
  let host ←
    if c.isSpecial then
      if hostChars.isEmpty then throw .emptyHost else some <$> specialHost hostChars
    else opaqueHost hostChars
  if host.isNone && !rest.isEmpty then throw .emptyHost
  let (port, after) ←
    match rest with
    | [] => pure (none, after)
    | _ :: digits => portOf (digits ++ after)
  if host.isNone && !userinfo.isEmpty then throw .emptyHost
  let port := match c with
    | .special default => if port = some default then none else port
    | _ => port
  return ({ userinfo, host, port }, after)

/-! ## The three classes -/

/-- The rest of a URL from its path on. -/
def withPath (scheme : String) (c : SchemeClass) (authority : Option Authority)
    (path rest : List Char) : Url :=
  let (query, fragment) := queryAndFragment c rest
  ⟨scheme, authority, String.ofList path, query, fragment⟩

/-- A URL whose authority comes next. -/
def afterSlashes (scheme : String) (c : SchemeClass) (cs : List Char) : Except Fault Url := do
  let (authority, rest) ← authorityOf c cs
  let (path, rest) := cutAt endsPath rest
  let path :=
    match path with
    | [] => if c.isSpecial then ['/'] else []
    | first :: more =>
      if first == '/' || (c.isSpecial && first == '\\') then pathOf c more else pathOf c (first :: more)
  return withPath scheme c (some authority) path rest

/-- A URL of another scheme. -/
def otherUrl (scheme : String) (cs : List Char) : Except Fault Url :=
  match cs with
  | '/' :: '/' :: rest => afterSlashes scheme .other rest
  | '/' :: rest =>
    let (path, rest) := cutAt endsPath rest
    .ok (withPath scheme .other none (pathOf .other path) rest)
  | _ =>
    let (path, rest) := cutAt endsPath cs
    .ok (withPath scheme .other none (encodeChars isControl path) rest)

def isSlash (c : Char) : Bool := c == '/' || c == '\\'

/-- The host of a file URL, and whether the text is its host and not the drive of its path. -/
def fileHost (cs : List Char) : Except Fault (Option Host) := do
  if cs.isEmpty then return none
  let host ← specialHost cs
  return if host = .domain "localhost" then none else some host

/-- A file URL from its host and its path. A drive in the path takes the place of the host. -/
def fileUrl (host : Option Host) (path rest : List Char) : Url :=
  let host := if (segmentsOf .file path).drive then none else host
  withPath "file" .file (some { host }) (pathOf .file path) rest

/-- A file URL. -/
def fileOf (cs : List Char) : Except Fault Url := do
  match cs with
  | a :: b :: rest =>
    if isSlash a && isSlash b then
      let (hostChars, after) := cutAt (endsAuthority .file) rest
      let (host, pathAndRest) ←
        if isDriveLetter hostChars then pure (none, rest)
        else do pure (← fileHost hostChars, if after.head?.any isSlash then after.drop 1 else after)
      let (path, rest) := cutAt endsPath pathAndRest
      return fileUrl host path rest
    else
      let (path, rest) := cutAt endsPath (if isSlash a then b :: rest else cs)
      return fileUrl none path rest
  | _ =>
    let (path, rest) := cutAt endsPath (if cs.head?.any isSlash then cs.drop 1 else cs)
    return fileUrl none path rest

/-- The URL of a text. -/
def parse (s : String) : Except Fault Url :=
  match splitScheme? (significant s) with
  | none => .error .relative
  | some (scheme, rest) =>
    match SchemeClass.of scheme with
    | .file => fileOf rest
    | .special port => afterSlashes scheme (.special port) (rest.dropWhile isSlash)
    | .other => otherUrl scheme rest

end PklHost.Url
