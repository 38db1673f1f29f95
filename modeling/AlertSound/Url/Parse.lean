import AlertSound.Url.Path
import AlertSound.Text.Decimal

/-!
Reading a URL. The web schemes take any number of slashes or backslashes before
the host and have a default port; `file` may have no host; every other scheme
has an authority only after two slashes. There is no base URL, so a text without
a scheme is refused.
-/
namespace AlertSound.Url

inductive SchemeKind where
  | file
  | web (port : Nat)
  | other
  deriving DecidableEq

def schemeKind (scheme : String) : SchemeKind :=
  if scheme = "file" then .file
  else if scheme = "http" || scheme = "ws" then .web 80
  else if scheme = "https" || scheme = "wss" then .web 443
  else if scheme = "ftp" then .web 21
  else .other

def SchemeKind.isInternet : SchemeKind → Bool
  | .other => false
  | _ => true

/-- Controls and spaces at either end are not part of a URL. -/
def trimControls (cs : List Char) : List Char :=
  let edge (c : Char) : Bool := c.toNat ≤ 0x20
  ((cs.dropWhile edge).reverse.dropWhile edge).reverse

def isSchemeCharacter (c : Char) : Bool :=
  isAsciiLetter c || c.isDigit || c == '+' || c == '-' || c == '.'

/-- The scheme, and the text after its colon. -/
def splitScheme (cs : List Char) : Except Error (String × List Char) :=
  match cs.span fun c => isBreak c || isSchemeCharacter c with
  | (scheme, ':' :: rest) =>
    match withoutBreaks scheme with
    | letter :: name =>
      if isAsciiLetter letter then .ok (String.ofList ((letter :: name).map Char.toLower), rest)
      else .error .noScheme
    | [] => .error .noScheme
  | _ => .error .noScheme

def startsTail (c : Char) : Bool := c == '?' || c == '#'

def isUserEscaped (c : Char) : Bool := isPathEscaped c || "/:;=@[\\]^|".toList.contains c

def endsAuthority (backslash : Bool) (c : Char) : Bool :=
  c == '/' || startsTail c || (backslash && c == '\\')

/-- The text before and after the last `@`. -/
def splitLastAt (cs : List Char) : Option (List Char × List Char) :=
  match cs.reverse.span (· != '@') with
  | (back, '@' :: front) => some (front.reverse, back.reverse)
  | _ => none

/-- User name and password, and the text that starts with the host. -/
def splitUser (backslash : Bool) (cs : List Char) :
    Except Error (String × String × List Char) :=
  let (region, rest) := cs.span fun c => !endsAuthority backslash c
  match splitLastAt region with
  | none => .ok ("", "", cs)
  | some ([], back) =>
    if back.isEmpty && !rest.isEmpty then .error .emptyHost else .ok ("", "", back ++ rest)
  | some (user, back) =>
    let (name, password) := user.span (· != ':')
    let escape (text : List Char) := String.ofList (Text.percentEncode isUserEscaped text)
    .ok (escape name, escape (password.drop 1), back ++ rest)

/-- The host ends at a colon outside brackets or where the authority ends. -/
def splitHost (backslash : Bool) (inBrackets : Bool) : List Char → List Char × List Char
  | [] => ([], [])
  | c :: cs =>
    if (c == ':' && !inBrackets) || endsAuthority backslash c then ([], c :: cs)
    else
      let inside := c == '[' || (inBrackets && c != ']')
      let (host, rest) := splitHost backslash inside cs
      (c :: host, rest)

/-- The port at the front; digits have to reach the end of the authority. -/
def splitPort (ordinary : Option Nat) (cs : List Char) : Except Error (Option Nat × List Char) :=
  match cs with
  | ':' :: rest =>
    let (digits, after) := rest.span Char.isDigit
    let number := digits.foldl (fun n c => 10 * n + (c.toNat - '0'.toNat)) 0
    if 65535 < number then .error .badPort
    else if !(after.head?.all (endsAuthority true)) then .error .badPort
    else .ok (if digits.isEmpty || some number == ordinary then none else some number, after)
  | _ => .ok (none, cs)

def parseAuthority (kind : SchemeKind) (cs : List Char) : Except Error (Authority × List Char) := do
  let backslash := kind.isInternet
  let (username, password, cs) ← splitUser backslash cs
  let (host, cs) := splitHost backslash false cs
  match kind, host with
  | .other, [] =>
    if cs.head? == some ':' || !username.isEmpty || !password.isEmpty then .error .emptyHost
    else .ok (.blank, cs)
  | .other, _ =>
    let host ← anyHost host
    let (port, cs) ← splitPort none cs
    return (.named { username, password, host, port }, cs)
  | _, [] => .error .emptyHost
  | kind, _ =>
    let host ← internetHost host
    let ordinary := match kind with
      | .web port => some port
      | _ => none
    let (port, cs) ← splitPort ordinary cs
    return (.named { username, password, host, port }, cs)

def isSlash (c : Char) : Bool := c == '/' || c == '\\'

def splitTail (cs : List Char) : List Char × List Char := cs.span fun c => !startsTail c

structure Front where
  authority : Authority
  path : Path
  tail : List Char

/-- A `file` path; a drive letter at its start takes the place of any host. -/
def fileFront (authority : Authority) (cs : List Char) : Front :=
  let (raw, tail) := splitTail cs
  let pieces := pieces true raw
  { authority := if meetsDrive [] pieces then .blank else authority
    path := .ofSegments (resolvePieces true pieces)
    tail := withoutBreaks tail }

/-- What follows the slash at the front, over breaks, if there is one. -/
def afterSlash? (cs : List Char) : Option (List Char) :=
  match cs.dropWhile isBreak with
  | c :: rest => if isSlash c then some rest else none
  | [] => none

/-- The text may hold breaks: in a path their place can matter. -/
def parseFile (cs : List Char) : Except Error Front :=
  match afterSlash? cs with
  | none => .ok (fileFront .blank cs)
  | some rooted =>
    match afterSlash? rooted with
    | none => .ok (fileFront .blank rooted)
    | some rest =>
      let (region, after) := rest.span fun c => !endsAuthority true c
      let host := withoutBreaks region
      if isDriveLetter host then .ok (fileFront .blank rest)
      else if host.isEmpty then .ok (fileFront .blank after)
      else do
        let host ← internetHost host
        if host = .name "localhost" then return fileFront .blank after
        else
          let site : Site := { username := "", password := "", host, port := none }
          return fileFront (.named site) (if after.head?.any isSlash then after.drop 1 else after)

def parseWeb (kind : SchemeKind) (cs : List Char) : Except Error Front := do
  let (authority, after) ← parseAuthority kind (cs.dropWhile isSlash)
  let (raw, tail) := splitTail after
  let raw := if raw.head?.any isSlash then raw.drop 1 else raw
  return { authority, path := .ofSegments (resolvePieces false (pieces true raw)), tail }

def parseOther (cs : List Char) : Except Error Front :=
  let rooted (raw : List Char) : Path := .ofSegments (resolvePieces false (pieces false raw))
  match cs with
  | '/' :: '/' :: rest => do
    let (authority, after) ← parseAuthority .other rest
    let (raw, tail) := splitTail after
    let path := match raw with
      | [] => .rooted []
      | '/' :: raw => rooted raw
      | raw => rooted raw
    return { authority, path, tail }
  | '/' :: rest =>
    let (raw, tail) := splitTail rest
    .ok { authority := .absent, path := rooted raw, tail }
  | _ =>
    let (raw, tail) := splitTail cs
    let text := String.ofList (Text.percentEncode isControl raw)
    .ok { authority := .absent, path := .plain text, tail }

def isQueryEscaped (kind : SchemeKind) (c : Char) : Bool :=
  isControl c || " \"#<>".toList.contains c || (kind.isInternet && c == '\'')

/-- Query and fragment, from the text that starts with the mark of the first of them. -/
def parseTail (kind : SchemeKind) (cs : List Char) : Option String × Option String :=
  let (front, back) := cs.span (· != '#')
  let query := match front with
    | '?' :: text => some (String.ofList (Text.percentEncode (isQueryEscaped kind) text))
    | _ => none
  let fragment := match back with
    | '#' :: text => some (String.ofList (Text.percentEncode isFragmentEscaped text))
    | _ => none
  (query, fragment)

def parse (s : String) : Except Error Url := do
  let (scheme, rest) ← splitScheme (trimControls s.toList)
  let kind := schemeKind scheme
  let front ← match kind with
    | .file => parseFile rest
    | .web _ => parseWeb kind (withoutBreaks rest)
    | .other => parseOther (withoutBreaks rest)
  let (query, fragment) := parseTail kind front.tail
  return { scheme, authority := front.authority, path := front.path, query, fragment }

/-- The same URL with these names as its path. Dot segments among them are resolved. -/
def withNames (url : Url) (names : List String) : Url :=
  { url with path := .ofSegments (resolvePieces (url.scheme == "file")
      (names.map fun name => .plain name.toList)) }

end AlertSound.Url
