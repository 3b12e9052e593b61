import Footage.Extraction
import Footage.Feed.Basic
import Footage.Scan

/-!
# Snapshots

What a harvest brought in: the documents of posts, from which events are still to be extracted, or
events.
-/

namespace Footage

open Calendar

/-- The items of a harvest, in the order of the feed. -/
inductive Items where
  | documents (posts : List Post)
  | events (events : List Event)

/-- The result of a harvest. -/
structure Snapshot where
  kits : List KitSet
  items : Items
  stop : Stop
  /-- The number of pages of the feed. -/
  fetches : Nat

namespace Snapshot

/-- The number of items. -/
def size (snapshot : Snapshot) : Nat :=
  match snapshot.items with
  | .documents posts => posts.length
  | .events events => events.length

/-- Whether there are no items. -/
def isEmpty (snapshot : Snapshot) : Bool :=
  snapshot.size == 0

/-- What is extracted from each item. -/
def events (snapshot : Snapshot) (today : Day) : List (Except Failure Event) :=
  match snapshot.items with
  | .documents posts => posts.map fun post => KitSet.extractAny snapshot.kits today post.content
  | .events events => events.map .ok

/-- The events among some results. Failures are left out, unless the rules are at fault. -/
def successes : List (Except Failure Event) → Except Failure (List Event)
  | [] => .ok []
  | .ok event :: rest => (successes rest).map (event :: ·)
  | .error failure :: rest => if failure.isConfiguration then .error failure else successes rest

/-- All events that can be extracted. -/
def extractAll (snapshot : Snapshot) (today : Day) : Except Failure (List Event) :=
  successes (snapshot.events today)

end Snapshot

end Footage
