import Footage.Failure
import Footage.Feed.Basic
import Footage.Url.Reader

/-!
# Requests to feeds

What a caller wants from a feed, and the address of the first page that answers it.
-/

namespace Footage

open Calendar Text

/-- What a caller wants from a feed. -/
structure Request where
  /-- Only posts with these labels. -/
  labels : List String := []
  /-- Only posts from this moment on. -/
  start : Option Moment := none
  /-- Only posts until this moment. -/
  finish : Option Moment := none
  /-- The number of posts on a page; the feed's own choice if it is zero. -/
  pageSize : Nat := 0

namespace Request

/-- The segments of the path that name the labels. -/
def segments (request : Request) : FeedKind → List String
  | .html =>
    "search" :: if request.labels.isEmpty then [] else "label" :: request.labels
  | .json => if request.labels.isEmpty then [] else "-" :: request.labels
  | .forum => []

/-- The pairs of the query. -/
def pairs (request : Request) (kind : FeedKind) : List Url.Pair :=
  let moment (m : Moment) := String.ofList m.writeSeconds
  (if kind = .json then [("alt", "json")] else []) ++
    (if request.pageSize = 0 then []
      else [("max-results", String.ofList (decimal request.pageSize))]) ++
    (request.finish.map fun m => ("updated-max", moment m)).toList ++
    (request.start.map fun m => ("updated-min", moment m)).toList ++
    if request.start.isSome || request.finish.isSome then [("orderby", "updated")] else []

/-- The address of the first page. A forum starts at its base whatever the request. -/
def address (request : Request) (base : Url) (kind : FeedKind) : Except Failure Url :=
  if kind = .forum then .ok base
  else if base.isBare then .error (.badUrl base.text)
  else
    let pairs := request.pairs kind
    let extended := base.extendPath (request.segments kind)
    .ok (if pairs.isEmpty then { extended with query := none } else extended.withQueryPairs pairs)

end Request

end Footage
