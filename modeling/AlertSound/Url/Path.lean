import AlertSound.Url.Host

/-!
Paths as lists of segments. Reading a path resolves its dot segments: `.` names
the segment list so far and `..` drops its last entry, unless that begins with a
drive. A dot segment at the end leaves an empty segment, so that the path ends in
a slash.
-/
namespace AlertSound.Url

/-- How many dots a segment of dots only has; a dot may be written `%2e`. -/
def dotCount? : List Char → Option Nat
  | [] => some 0
  | '.' :: rest | '%' :: '2' :: 'e' :: rest | '%' :: '2' :: 'E' :: rest =>
    (dotCount? rest).map (· + 1)
  | _ :: _ => none

def isHere (segment : List Char) : Bool := dotCount? segment == some 1

def isParent (segment : List Char) : Bool := dotCount? segment == some 2

def isAsciiLetter (c : Char) : Bool := ('a' ≤ c && c ≤ 'z') || ('A' ≤ c && c ≤ 'Z')

def isDriveLetter : List Char → Bool
  | [letter, mark] => isAsciiLetter letter && (mark == ':' || mark == '|')
  | _ => false

def isFragmentEscaped (c : Char) : Bool := isControl c || " \"<>`".toList.contains c

def isPathEscaped (c : Char) : Bool := isFragmentEscaped c || "#?\x7b\x7d".toList.contains c

/-- Beside what a path escapes, whatever could end a segment or start an escape. -/
def isNameEscaped (c : Char) : Bool := isPathEscaped c || "/%\\".toList.contains c

/-- A drive letter at the end of the segment or before a backslash, which only
separates segments in the schemes of the internet. -/
def beginsWithDrive : List Char → Bool
  | letter :: mark :: rest =>
    isDriveLetter [letter, mark] && (rest.isEmpty || rest.head? == some '\\')
  | _ => false

def dropParent (stack : List (List Char)) : List (List Char) :=
  match stack.getLast? with
  | some last => if beginsWithDrive last then stack else stack.dropLast
  | none => stack

/-- The first segment of a `file` path writes a drive letter with a colon. -/
def firstOfFile (isFile : Bool) (stack : List (List Char)) (segment : List Char) : List Char :=
  if isFile && stack.isEmpty && isDriveLetter segment then segment.take 1 ++ [':'] else segment

/-- What stands between two separators. In a `parted` one a line break or tab
follows a drive letter and colon. -/
inductive Piece where
  | plain (text : List Char)
  | parted (drive rest : List Char)

def Piece.text : Piece → List Char
  | .plain text => text
  | .parted drive rest => drive ++ rest

/-- At the start of a `file` path a parted piece stands for two segments, of which
the second is taken as it is, dots or not. -/
def partedAtStart (isFile : Bool) (stack : List (List Char)) (piece : Piece) :
    Option (List (List Char)) :=
  match piece with
  | .parted drive rest => if isFile && stack.isEmpty then some [drive, rest] else none
  | .plain _ => none

/-- One piece with a slash after it. -/
def stepPiece (isFile : Bool) (stack : List (List Char)) (piece : Piece) : List (List Char) :=
  match partedAtStart isFile stack piece with
  | some segments => segments
  | none =>
    if isParent piece.text then dropParent stack
    else if isHere piece.text then stack
    else stack ++ [firstOfFile isFile stack piece.text]

def lastPiece (isFile : Bool) (stack : List (List Char)) (piece : Piece) : List (List Char) :=
  match partedAtStart isFile stack piece with
  | some segments => segments
  | none =>
    if isParent piece.text then dropParent stack ++ [[]]
    else if isHere piece.text then stack ++ [[]]
    else stack ++ [firstOfFile isFile stack piece.text]

def resolveFrom (isFile : Bool) (stack : List (List Char)) : List Piece → List (List Char)
  | [] => stack
  | [piece] => lastPiece isFile stack piece
  | piece :: rest => resolveFrom isFile (stepPiece isFile stack piece) rest

/-- Whether a piece is read as the drive letter that begins a `file` path. -/
def meetsDrive (stack : List (List Char)) : List Piece → Bool
  | [] => false
  | piece :: rest =>
    (stack.isEmpty && isDriveLetter piece.text) || meetsDrive (stepPiece true stack piece) rest

/-- A `file` path does not begin with an empty segment unless it is the root. -/
def trimRoot (segments : List (List Char)) : List (List Char) :=
  match segments.dropWhile List.isEmpty with
  | [] => [[]]
  | kept => kept

def resolvePieces (isFile : Bool) (pieces : List Piece) : List (List Char) :=
  let resolved := resolveFrom isFile [] pieces
  if isFile then trimRoot resolved else resolved

def Path.ofSegments (segments : List (List Char)) : Path :=
  .rooted (segments.map String.ofList)

/-- Tabs and line breaks are no part of a URL. -/
def isBreak (c : Char) : Bool := c == '\t' || c == '\n' || c == '\r'

def withoutBreaks (cs : List Char) : List Char := cs.filter (!isBreak ·)

/-- The drive letter before the first break, and what follows that break. -/
def splitDrive? (raw : List Char) : Option (List Char × List Char) :=
  match raw.dropWhile isBreak with
  | letter :: rest =>
    match rest.dropWhile isBreak with
    | ':' :: mark :: rest =>
      let rest := withoutBreaks rest
      if isAsciiLetter letter && isBreak mark && !rest.isEmpty then some ([letter, ':'], rest)
      else none
    | _ => none
  | [] => none

def Piece.ofRaw (raw : List Char) : Piece :=
  let escape := Text.percentEncode isPathEscaped
  match splitDrive? raw with
  | some (drive, rest) => .parted drive (escape rest)
  | none => .plain (escape (withoutBreaks raw))

/-- The raw text after the root slash. -/
def pieces (backslash : Bool) (raw : List Char) : List Piece :=
  (splitAll (fun c => c == '/' || (backslash && c == '\\')) raw).map Piece.ofRaw

/-- The names of a file path, without empty ones and `.`; `..` is kept. -/
def fileNames (path : List UInt8) : List (List UInt8) :=
  (splitAll (· == '/'.toUInt8) path).filter fun name => !name.isEmpty && name != ['.'.toUInt8]

/-- The `file` URL of an absolute path. -/
def ofFilePath? (path : List UInt8) : Option Url :=
  if path.head? == some '/'.toUInt8 then
    let names := (fileNames path).map fun name =>
      String.ofList (Text.percentEncodeBytes isNameEscaped name)
    some {
      scheme := "file"
      authority := .blank
      path := .rooted (if names.isEmpty then [""] else names)
      query := none
      fragment := none }
  else none

/-- A path of a drive letter alone stands for the drive's root. -/
def closeDrive (path : List UInt8) : List UInt8 :=
  match path.reverse with
  | mark :: letter :: _ :: _ =>
    if isDriveLetter [Char.ofNat letter.toNat, Char.ofNat mark.toNat] then
      path ++ ['/'.toUInt8]
    else path
  | _ => path

/-- The path that a `file` URL on this machine names. -/
def filePath? (url : Url) : Option (List UInt8) :=
  match url.hostText?.filter (· != "localhost"), url.segments? with
  | none, some segments =>
    some (closeDrive (segments.flatMap fun segment =>
      '/'.toUInt8 :: Text.percentDecode segment.toList))
  | _, _ => none

end AlertSound.Url
