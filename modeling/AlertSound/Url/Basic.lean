import AlertSound.Text.Percent

/-!
URLs taken apart: scheme, authority, path, query and fragment, each already
escaped the way it is written. Writing a URL puts the parts together again and
adds nothing but separators.
-/
namespace AlertSound

inductive Url.Host where
  | name (text : String)
  | ipv4 (address : Nat)
  | ipv6 (groups : List Nat)
  deriving DecidableEq

/-- A host with what is written around it. A port that is the default of the
scheme is left out. -/
structure Url.Site where
  username : String
  password : String
  host : Url.Host
  port : Option Nat
  deriving DecidableEq

/-- `absent` has no `//` at all; after `blank` comes the path at once. -/
inductive Url.Authority where
  | absent
  | blank
  | named (site : Url.Site)
  deriving DecidableEq

/-- A rooted path is its segments, each written after a slash; `plain` text is
the path of a URL such as `mailto:` that has no hierarchy. -/
inductive Url.Path where
  | rooted (segments : List String)
  | plain (text : String)
  deriving DecidableEq

structure Url where
  scheme : String
  authority : Url.Authority
  path : Url.Path
  query : Option String
  fragment : Option String
  deriving DecidableEq

namespace Url

/-- The length of the run of zero groups that starts at each position. -/
def zeroRuns : List Nat → List Nat
  | [] => []
  | 0 :: rest => ((zeroRuns rest).headD 0 + 1) :: zeroRuns rest
  | _ :: rest => 0 :: zeroRuns rest

/-- Where the first longest run of at least two zero groups starts, and its length. -/
def zeroRun (groups : List Nat) : Nat × Nat :=
  let runs := zeroRuns groups
  let best := runs.foldl max 0
  (runs.idxOf best, if best < 2 then 0 else best)

def groupsText (groups : List Nat) : List Char :=
  (groups.map (Nat.toDigits 16)).intersperse [':'] |>.flatten

def ipv6Text (groups : List Nat) : String :=
  let (start, length) := zeroRun groups
  let body :=
    if length = 0 then groupsText groups
    else groupsText (groups.take start) ++ "::".toList ++ groupsText (groups.drop (start + length))
  String.ofList ('[' :: body ++ [']'])

def ipv4Text (address : Nat) : String :=
  ".".intercalate ([24, 16, 8, 0].map fun shift => toString (address / Nat.pow 2 shift % 256))

def Host.text : Host → String
  | .name text => text
  | .ipv4 address => ipv4Text address
  | .ipv6 groups => ipv6Text groups

def Site.userText (site : Site) : String :=
  if site.username.isEmpty && site.password.isEmpty then ""
  else if site.password.isEmpty then site.username ++ "@"
  else site.username ++ ":" ++ site.password ++ "@"

def Site.text (site : Site) : String :=
  site.userText ++ site.host.text ++
    match site.port with
    | none => ""
    | some port => ":" ++ toString port

def Path.text : Path → String
  | .rooted segments => String.join (segments.map ("/" ++ ·))
  | .plain text => text

/-- Without an authority a path may not begin with two slashes, for they would
be read as one; a dot segment is put in front of it. -/
def Path.guardText : Path → String
  | .rooted ("" :: _ :: _) => "/."
  | _ => ""

def frontText : Authority → Path → String
  | .absent, path => path.guardText ++ path.text
  | .blank, path => "//" ++ path.text
  | .named site, path => "//" ++ site.text ++ path.text

def tailText (mark : String) : Option String → String
  | none => ""
  | some text => mark ++ text

def toText (url : Url) : String :=
  url.scheme ++ ":" ++ frontText url.authority url.path ++ tailText "?" url.query ++
    tailText "#" url.fragment

def site? (url : Url) : Option Site :=
  match url.authority with
  | .named site => some site
  | _ => none

def hostText? (url : Url) : Option String := url.site?.map fun site => site.host.text

def segments? (url : Url) : Option (List String) :=
  match url.path with
  | .rooted [] => some [""]
  | .rooted segments => some segments
  | .plain _ => none

end Url
end AlertSound
