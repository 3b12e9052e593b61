import Footage.Url.Query

/-!
# URLs

A URL in its normal form: every part is held as it is written. A URL with an authority or with a
leading slash has a path of segments; any other URL has a bare path, relative to which no other
URL can be read.
-/

namespace Footage

open Text

namespace Url

/-- What stands between the two slashes and the path. -/
structure Authority where
  username : String := ""
  password : String := ""
  host : String := ""
  port : Option Nat := none
  deriving DecidableEq, Repr

/-- The path of a URL. The path of no segments is empty; the path of one empty segment is a
slash. -/
inductive Path where
  | bare (text : String)
  | segments (segments : List String)
  deriving DecidableEq, Repr

end Url

/-- A URL. -/
structure Url where
  scheme : String
  authority : Option Url.Authority
  path : Url.Path
  query : Option String
  fragment : Option String
  deriving DecidableEq, Repr

namespace Url

/-- The schemes whose URLs always have an authority and a path. -/
def specialSchemes : List String := ["http", "https", "ws", "wss", "ftp", "file"]

/-- Whether a scheme is special. -/
def isSpecialScheme (scheme : String) : Bool :=
  scheme ∈ specialSchemes

/-- The port that the URLs of a scheme leave out. -/
def defaultPort? : String → Option Nat
  | "http" | "ws" => some 80
  | "https" | "wss" => some 443
  | "ftp" => some 21
  | _ => none

/-- User name and password with the sign that ends them. -/
def Authority.writeUser (authority : Authority) : List Char :=
  if authority.username.isEmpty && authority.password.isEmpty then []
  else
    authority.username.toList ++
      (if authority.password.isEmpty then [] else ':' :: authority.password.toList) ++ ['@']

/-- The authority as it is written, with its slashes. -/
def Authority.write (authority : Authority) : List Char :=
  '/' :: '/' :: (authority.writeUser ++ authority.host.toList ++
    match authority.port with
    | some port => ':' :: Nat.toDigits 10 port
    | none => [])

/-- The path as it is written. -/
def Path.write : Path → List Char
  | .bare text => text.toList
  | .segments list => list.flatMap fun segment => '/' :: segment.toList

/-- The URL without its query and its fragment. A path that starts like an authority is kept
apart from the scheme by a point. -/
def writeFront (url : Url) : List Char :=
  let guard := match url.authority, url.path with
    | none, .segments ("" :: _ :: _) => ['/', '.']
    | _, _ => []
  url.scheme.toList ++ ':' :: ((url.authority.map Authority.write).getD [] ++ guard ++
    url.path.write)

/-- The URL as it is written. -/
def write (url : Url) : List Char :=
  url.writeFront ++
    (match url.query with
    | some query => '?' :: query.toList
    | none => []) ++
    match url.fragment with
    | some fragment => '#' :: fragment.toList
    | none => []

/-- The text of the URL. -/
def text (url : Url) : String :=
  String.ofList url.write

/-- The host, if the URL has one. -/
def host? (url : Url) : Option String :=
  match url.authority with
  | some authority => if authority.host.isEmpty then none else some authority.host
  | none => none

/-- Whether no other URL can be read relative to this one. -/
def isBare (url : Url) : Bool :=
  match url.path with
  | .bare _ => true
  | .segments _ => false

/-- The segments of the path, if it has any. -/
def segments? (url : Url) : Option (List String) :=
  match url.path with
  | .bare _ | .segments [] => none
  | .segments segments => some segments

/-- The pairs of the query. -/
def queryPairs (url : Url) : List Pair :=
  decodePairs (url.query.getD "").toList

/-- The URL with a query of the given pairs. -/
def withQueryPairs (url : Url) (pairs : List Pair) : Url :=
  { url with query := some (String.ofList (encodePairs pairs)) }

end Url

end Footage
