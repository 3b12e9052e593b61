import Footage.Url.Basic
import Footage.Url.Host

/-!
# Reading URLs

A text is read as a URL, alone or relative to a base. Reading brings every part into its normal
form: schemes and domains in lower case, dot segments resolved, default ports left out, and
characters that a part may not hold encoded.
-/

namespace Footage.Url

open Text

/-- Whether a character is dropped wherever it stands. -/
def isDropped (c : Char) : Bool :=
  c == '\t' || c == '\n' || c == '\r'

/-- Whether a character is dropped at the two ends of a URL. -/
def isEdge (c : Char) : Bool :=
  c.toNat ≤ 0x20

/-- The text without controls and spaces at its ends and without line breaks and tabs. -/
def cleaned (text : List Char) : List Char :=
  (((text.dropWhile isEdge).reverse.dropWhile isEdge).reverse).filter fun c => !isDropped c

/-- Whether a character separates segments. In special URLs a backslash does, too. -/
def isSeparator (special : Bool) (c : Char) : Bool :=
  c == '/' || (special && c == '\\')

/-- Whether a character starts the query or the fragment. -/
def startsTail (c : Char) : Bool :=
  c == '?' || c == '#'

/-- Takes the scheme and its colon off the front of a text. -/
def takeScheme? (text : List Char) : Option (String × List Char) :=
  let isPart (c : Char) : Bool := c.isAlphanum || c == '+' || c == '-' || c == '.'
  match text with
  | c :: _ =>
    match c.isAlpha, text.dropWhile isPart with
    | true, ':' :: rest => some (String.ofList ((text.takeWhile isPart).map Char.toLower), rest)
    | _, _ => none
  | [] => none

/-- The query and the fragment in a text that starts with their marks or is empty. -/
def readTail (special : Bool) (text : List Char) : Option String × Option String :=
  let query := (text.takeWhile (· ≠ '#'))
  let fragment := text.dropWhile (· ≠ '#')
  ((match query with
    | _ :: query =>
      some (String.ofList (percentEncode (if special then inSpecialQuerySet else inQuerySet) query))
    | [] => none),
    match fragment with
    | _ :: fragment => some (String.ofList (percentEncode inFragmentSet fragment))
    | [] => none)

/-- Whether a segment stands for the segment before it. -/
def isDoubleDot (segment : List Char) : Bool :=
  segment.map Char.toLower ∈
    ["..".toList, "%2e%2e".toList, "%2e.".toList, ".%2e".toList]

/-- Whether a segment stands for nothing. -/
def isSingleDot (segment : List Char) : Bool :=
  segment.map Char.toLower ∈ [".".toList, "%2e".toList]

/-- Whether a segment is a drive letter with its colon, or with a bar in place of it. -/
def isDrive : List Char → Bool
  | [c, mark] => c.isAlpha && (mark == ':' || mark == '|')
  | _ => false

/-- The segments without the last one. A drive letter at the root of a file path stays. -/
def shorten (isFile : Bool) (segments : List String) : List String :=
  match segments with
  | [drive] => if isFile && isDrive drive.toList then segments else []
  | _ => segments.dropLast

/-- The segments with another one at their end. -/
def addSegment (isFile : Bool) (segments : List String) (segment : List Char) : List String :=
  match isFile && segments.isEmpty && isDrive segment, segment with
  | true, c :: _ => [String.ofList [c, ':']]
  | _, _ => segments ++ [String.ofList segment]

/-- Adds encoded segments to those of a path, resolving dots. A path that ends in dots ends in a
slash. -/
def resolve (isFile : Bool) (segments : List String) : List (List Char) → List String
  | [] => segments
  | [segment] =>
    if isDoubleDot segment then shorten isFile segments ++ [""]
    else if isSingleDot segment then segments ++ [""]
    else addSegment isFile segments segment
  | segment :: next :: rest =>
    if isDoubleDot segment then resolve isFile (shorten isFile segments) (next :: rest)
    else if isSingleDot segment then resolve isFile segments (next :: rest)
    else resolve isFile (addSegment isFile segments segment) (next :: rest)

/-- The encoded segments of a written path, without its leading slash. -/
def splitPath (special : Bool) (path : List Char) : List (List Char) :=
  (path.splitOnP (isSeparator special)).map (percentEncode inPathSet)

/-- The segments of a file path: there are no empty ones at its start. -/
def fileSegments (segments : List String) : List String :=
  match segments.dropWhile String.isEmpty with
  | [] => [""]
  | segments => segments

/-- The URL of a front with the path, query and fragment in a text. The path continues the given
segments. -/
def withPath (scheme : String) (authority : Option Authority) (segments : List String)
    (text : List Char) : Url :=
  let special := isSpecialScheme scheme
  let isFile := scheme == "file"
  let path := text.takeWhile fun c => !startsTail c
  let (query, fragment) := readTail special (text.dropWhile fun c => !startsTail c)
  let segments := resolve isFile segments (splitPath special path)
  { scheme, authority
    path := .segments (if isFile then fileSegments segments else segments)
    query, fragment }

/-- The URL of a front with an absolute path, which a special URL has even if the text gives
none. -/
def withAbsolutePath (scheme : String) (authority : Option Authority) (text : List Char) : Url :=
  let special := isSpecialScheme scheme
  match text with
  | c :: rest =>
    if isSeparator special c then withPath scheme authority [] rest
    else if special || !startsTail c then withPath scheme authority [] text
    else
      let (query, fragment) := readTail special text
      { scheme, authority, path := .segments [], query, fragment }
  | [] =>
    { scheme, authority, path := .segments (if special then [""] else [])
      query := none, fragment := none }

/-- Splits the user information off an authority, at its last at sign. -/
def splitUser (text : List Char) : Option (List Char) × List Char :=
  if '@' ∈ text then
    let host := (text.reverse.takeWhile (· ≠ '@')).reverse
    (some (text.take (text.length - host.length - 1)), host)
  else (none, text)

/-- Splits the port off a host, at the first colon outside brackets. -/
def splitPort (inBrackets : Bool) : List Char → List Char × List Char
  | [] => ([], [])
  | c :: rest =>
    if c = ':' ∧ ¬inBrackets then ([], c :: rest)
    else
      let inside := if c = '[' then true else if c = ']' then false else inBrackets
      let (host, port) := splitPort inside rest
      (c :: host, port)

/-- Reads a port after its colon. The default port of the scheme is left out. -/
def readPort (scheme : String) (text : List Char) : Except Error (Option Nat) :=
  match text with
  | [] | [_] => .ok none
  | _ :: digits =>
    if digits.all Char.isDigit then
      let port := digitsValue digits
      if port ≤ 65535 then .ok (if defaultPort? scheme = some port then none else some port)
      else .error .badPort
    else .error .badPort

/-- Reads what stands between the two slashes and the path. -/
def readAuthority (scheme : String) (text : List Char) (next : Option Char) :
    Except Error Authority := do
  let special := isSpecialScheme scheme
  let (user, text) := splitUser text
  if user = some [] ∧ text.isEmpty ∧ next.isSome then throw .emptyHost
  let user := user.getD []
  let username := percentEncode inUserinfoSet (user.takeWhile (· ≠ ':'))
  let password := percentEncode inUserinfoSet ((user.dropWhile (· ≠ ':')).drop 1)
  let (hostText, portText) := splitPort false text
  if special ∧ hostText.isEmpty then throw .emptyHost
  let host ← if special then readDomain hostText else readPlainHost hostText
  if host.isEmpty ∧ ¬(portText.isEmpty ∧ username.isEmpty ∧ password.isEmpty) then
    throw .emptyHost
  let port ← readPort scheme portText
  return {
    username := String.ofList username
    password := String.ofList password
    host := String.ofList host
    port }

/-- Reads the part of a URL after the two slashes. -/
def readAfterSlashes (scheme : String) (text : List Char) : Except Error Url := do
  let ends (c : Char) : Bool := isSeparator (isSpecialScheme scheme) c || startsTail c
  let rest := text.dropWhile fun c => !ends c
  let authority ← readAuthority scheme (text.takeWhile fun c => !ends c) rest.head?
  return withAbsolutePath scheme (some authority) rest

/-- The base with the fragment in a text that starts with its mark. -/
def withFragment (base : Url) (text : List Char) : Url :=
  { base with fragment := (readTail false text).2 }

/-- Reads a URL of the scheme of its base, relative to the base. -/
def readRelative (base : Url) (text : List Char) : Except Error Url :=
  let special := isSpecialScheme base.scheme
  match text with
  | [] => .ok { base with fragment := none }
  | '#' :: _ => .ok (base.withFragment text)
  | '?' :: _ =>
    let (query, fragment) := readTail special text
    .ok { base with query, fragment }
  | c :: rest =>
    if c = '/' ∨ c = '\\' then
      match text with
      | '/' :: '/' :: rest => readAfterSlashes base.scheme rest
      | _ =>
        let slashes := text.takeWhile (isSeparator true)
        if 2 ≤ slashes.length then readAfterSlashes base.scheme (text.drop slashes.length)
        else .ok (withPath base.scheme base.authority [] rest)
    else
      match base.path with
      | .segments segments => .ok (withPath base.scheme base.authority segments.dropLast text)
      | .bare _ => .error .relativeToBare

/-- Reads the host of a file URL. The local host is no host. -/
def readFileHost (text : List Char) : Except Error (List Char) := do
  if text.isEmpty then return []
  let host ← readDomain text
  return if host = "localhost".toList then [] else host

/-- Whether a drive letter stands at the start of a text as a segment of its own. -/
def startsWithDrive (text : List Char) : Bool :=
  isDrive (text.take 2) &&
    (text.drop 2).head?.all fun c => isSeparator true c || startsTail c

/-- A file URL with the given host. -/
def fileHost (host : List Char) : Option Authority :=
  some { host := String.ofList host }

/-- Reads a file URL after its two slashes. -/
def readFileAfterSlashes (text : List Char) : Except Error Url := do
  let hostText := text.takeWhile fun c => !(isSeparator true c || startsTail c)
  if isDrive hostText then return withPath "file" (fileHost []) [] text
  let host ← readFileHost hostText
  return withAbsolutePath "file" (fileHost host) (text.drop hostText.length)

/-- Reads an absolute path of a file URL, after its slash. It keeps the drive of the base, or else
the host of the base. -/
def readFilePath (base : Option Url) (text : List Char) : Url :=
  let start := if startsWithDrive text then none else base
  match start with
  | some ⟨_, authority, .segments (drive :: _), _, _⟩ =>
    if isDrive drive.toList then withPath "file" (fileHost []) [drive] text
    else withPath "file" authority [] text
  | _ => withPath "file" (fileHost []) [] text

/-- Reads the part of a file URL after its scheme, relative to a file URL if there is one. -/
def readFile (base : Option Url) (text : List Char) : Except Error Url :=
  match text, base with
  | [], some base => .ok { base with fragment := none }
  | [], none => .ok (withPath "file" (fileHost []) [] [])
  | c :: rest, base =>
    if isSeparator true c then
      match rest with
      | d :: rest' =>
        if isSeparator true d then readFileAfterSlashes rest' else .ok (readFilePath base rest)
      | [] => .ok (readFilePath base rest)
    else
      match base with
      | none => .ok (withPath "file" (fileHost []) [] text)
      | some base =>
        if startsTail c then readRelative base text
        else if startsWithDrive text then .ok (withPath "file" (fileHost []) [] text)
        else
          match base.path with
          | .segments segments =>
            .ok (withPath "file" base.authority (shorten true segments) text)
          | .bare _ => .error .relativeToBare

/-- Reads the part of a URL with an ordinary scheme after the scheme. -/
def readPlain (scheme : String) (text : List Char) : Except Error Url :=
  match text with
  | '/' :: '/' :: rest => readAfterSlashes scheme rest
  | '/' :: rest => .ok (withPath scheme none [] rest)
  | _ =>
    let path := text.takeWhile fun c => !startsTail c
    let (query, fragment) := readTail false (text.dropWhile fun c => !startsTail c)
    .ok {
      scheme, authority := none
      path := .bare (String.ofList (percentEncode isUnwritable path))
      query, fragment }

/-- Reads a cleaned text, relative to a base if there is one. -/
def readCleaned (base : Option Url) (text : List Char) : Except Error Url :=
  match takeScheme? text with
  | some (scheme, rest) =>
    if scheme = "file" then
      readFile (base.filter fun base => base.scheme = "file") rest
    else if isSpecialScheme scheme then
      let slashes := rest.takeWhile (isSeparator true)
      match base with
      | some base =>
        if slashes.length < 2 ∧ base.scheme = scheme then readRelative base rest
        else readAfterSlashes scheme (rest.drop slashes.length)
      | none => readAfterSlashes scheme (rest.drop slashes.length)
    else readPlain scheme rest
  | none =>
    match base with
    | none => .error .relativeWithoutBase
    | some base =>
      if text.head? = some '#' then .ok (base.withFragment text)
      else if base.isBare then .error .relativeToBare
      else if base.scheme = "file" then readFile (some base) text
      else readRelative base text

/-- Reads an absolute URL. -/
def read (text : List Char) : Except Error Url :=
  readCleaned none (cleaned text)

/-- Reads a URL relative to a base. -/
def join (base : Url) (text : List Char) : Except Error Url :=
  readCleaned (some base) (cleaned text)

/-- Reads an absolute URL, if the text is one. -/
def read? (text : String) : Option Url :=
  (read text.toList).toOption

/-- Reads a URL relative to a base, if the text is one. -/
def join? (base : Url) (text : String) : Option Url :=
  (base.join text.toList).toOption

/-- The URL with segments added at the end of its path, in place of an empty last segment. Dots
add no segment. -/
def extendPath (url : Url) (labels : List String) : Url :=
  match url.path with
  | .bare _ => url
  | .segments segments =>
    let special := isSpecialScheme url.scheme
    let encode (label : String) : List Char :=
      percentEncode (if special then inSpecialSegmentSet else inSegmentSet)
        (label.toList.filter fun c => !isDropped c)
    let add (segments : List String) (label : String) : List String :=
      if label = "." ∨ label = ".." then segments
      else resolve (url.scheme == "file") (if segments = [""] then [] else segments) [encode label]
    let start := if segments.getLast? = some "" then segments.dropLast else segments
    { url with path := .segments (labels.foldl add (if start.isEmpty then segments else start)) }

end Footage.Url
