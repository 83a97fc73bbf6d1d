import ShardedView.Http.Form
import ShardedView.Http.Host

/-!
URLs of the scheme `http`: reading them leniently, adding path segments and
query pairs, and writing them.
-/

namespace ShardedView.Http

/-- A URL. Its parts are percent-encoded already. -/
structure Url where
  /-- A name and password with the at sign behind them, or nothing. -/
  credentials : List Char
  host : List Char
  /-- None for the port number 80. -/
  portNumber : Option Nat
  /-- The segments of the path; none stand for the path `/`. -/
  segments : List (List Char)
  query : Option (List Char)
  fragment : Option (List Char)
  deriving DecidableEq, Repr

namespace Url

/-- The host and the port number if it is not 80: the name of the server. -/
def server (url : Url) : List Char :=
  match url.portNumber with
  | none => url.host
  | some number => url.host ++ ':' :: Digits.ofNat number

def path (url : Url) : List Char :=
  '/' :: ['/'].intercalate url.segments

def target (url : Url) : List Char :=
  url.path ++
    match url.query with
    | none => []
    | some query => '?' :: query

def chars (url : Url) : List Char :=
  ['h', 't', 't', 'p', ':', '/', '/'] ++ url.credentials ++ url.server ++ url.target ++
    match url.fragment with
    | none => []
    | some fragment => '#' :: fragment

def text (url : Url) : String :=
  String.ofList url.chars

def isDropped (char : Char) : Bool :=
  char = '\t' || char = '\n' || char = '\r'

/-- A segment that stands for the same place, as written or encoded. -/
def isSingleDot (segment : List Char) : Bool :=
  let lower := segment.map Char.toLower
  lower = ['.'] || lower = ['%', '2', 'e']

/-- A segment that stands for the place above, as written or encoded. -/
def isDoubleDot (segment : List Char) : Bool :=
  let lower := segment.map Char.toLower
  lower = ['.', '.'] || lower = ['.', '%', '2', 'e'] || lower = ['%', '2', 'e', '.'] ||
    lower = ['%', '2', 'e', '%', '2', 'e']

/-- A segment that names a drive, such as `c:`. -/
def isDrive : List Char → Bool
  | [letter, mark] => letter.isAlpha && (mark = ':' || mark = '|')
  | _ => false

/-- The place above a path. A drive has none but itself. -/
def above (path : List (List Char)) : List (List Char) :=
  if path.getLast?.any isDrive then path else path.dropLast

/-- Adds an encoded segment to a path. Dots are resolved; if nothing follows, an
empty segment remains in their place. -/
def addResolved (isLast : Bool) (path : List (List Char)) (segment : List Char) :
    List (List Char) :=
  if isDoubleDot segment then if isLast then above path ++ [[]] else above path
  else if isSingleDot segment then if isLast then path ++ [[]] else path
  else path ++ [segment]

def resolve (path : List (List Char)) : List (List Char) → List (List Char)
  | [] => path
  | [last] => addResolved true path last
  | segment :: rest => resolve (addResolved false path segment) rest

def splitSegments : List Char → List (List Char)
  | [] => [[]]
  | char :: rest =>
    match splitSegments rest with
    | [] => [[char]]
    | segment :: later =>
      if char = '/' || char = '\\' then [] :: segment :: later
      else (char :: segment) :: later

def endsAuthority (char : Char) : Bool :=
  char ∈ ['/', '\\', '?', '#']

/-- Splits at the last at sign, if there is one. -/
def splitCredentials (authority : List Char) : Option (List Char) × List Char :=
  if '@' ∈ authority then
    let reversed := authority.reverse
    (some ((reversed.dropWhile (· ≠ '@')).drop 1).reverse,
      (reversed.takeWhile (· ≠ '@')).reverse)
  else (none, authority)

/-- A name and password in their normal form: nothing is written for an empty
one. -/
def normalizeCredentials (written : List Char) : List Char :=
  let encode := Percent.encode Percent.isReservedInCredentials
  let name := encode (written.takeWhile (· ≠ ':'))
  let password := encode ((written.dropWhile (· ≠ ':')).drop 1)
  if name.isEmpty && password.isEmpty then []
  else name ++ (if password.isEmpty then [] else ':' :: password) ++ ['@']

def splitHost (bracketed : Bool) : List Char → List Char × Option (List Char)
  | [] => ([], none)
  | char :: rest =>
    if char = ':' && !bracketed then ([], some rest)
    else
      let inside := char = '[' || (bracketed && char ≠ ']')
      let (host, portNumber) := splitHost inside rest
      (char :: host, portNumber)

/-- Reads a port number; an empty one and 80 need not be written. -/
def readPortNumber (digits : List Char) : Except UrlFault (Option Nat) :=
  if !digits.all Digits.isDigit then .error .portNumber
  else
    let value := Digits.valueFrom 0 digits
    if 65535 < value then .error .portNumber
    else if digits.isEmpty || value = 80 then .ok none
    else .ok (some value)

def ofRemainder (written : List Char) : Except UrlFault Url := do
  let written := (written.filter (!isDropped ·)).dropWhile (· ∈ ['/', '\\'])
  let authority := written.takeWhile (!endsAuthority ·)
  let rest := written.dropWhile (!endsAuthority ·)
  let (credentials, server) := splitCredentials authority
  let (host, digits) := splitHost false server
  let host ← Host.normalize host
  let portNumber ← readPortNumber (digits.getD [])
  let path := rest.takeWhile (· ∉ ['?', '#'])
  let rest := rest.drop path.length
  let query := rest.takeWhile (· ≠ '#')
  let fragment := rest.dropWhile (· ≠ '#')
  return {
    credentials := (credentials.map normalizeCredentials).getD []
    host
    portNumber
    segments :=
      resolve [] ((splitSegments (path.drop 1)).map (Percent.encode Percent.isReservedInPath))
    query :=
      if query.isEmpty then none
      else some (Percent.encode Percent.isReservedInQuery (query.drop 1))
    fragment :=
      if fragment.isEmpty then none
      else some (Percent.encode Percent.isReservedInFragment (fragment.drop 1)) }

/-- Adds a text as one segment of the path. Dots alone add nothing, and the path
`/` has no segments to begin with. -/
def addSegment (url : Url) (segment : String) : Url :=
  if segment = "." ∨ segment = ".." then url
  else
    let path := if url.segments = [[]] then [] else url.segments
    let encoded :=
      Percent.encode Percent.isReservedInSegment (segment.toList.filter (!isDropped ·))
    { url with segments := addResolved true path encoded }

/-- Adds texts as segments of the path, in place of an empty one at its end. -/
def addSegments (url : Url) (segments : List String) : Url :=
  let path := if url.segments.getLast? = some [] then url.segments.dropLast else url.segments
  segments.foldl addSegment { url with segments := path }

def addQuery (url : Url) (pairs : List (String × String)) : Url :=
  let added := Form.encodePairs pairs
  let query :=
    match url.query with
    | none => added
    | some query => if query.isEmpty then added else query ++ '&' :: added
  { url with query := some query }

end Url

end ShardedView.Http
