import Footage.DataSource
import Footage.Feed.Forum
import Footage.Feed.Json
import Footage.Feed.Request
import Footage.Snapshot

/-!
# Harvests

A harvest reads a data source through a fetcher. The posts of a blog are gathered as they are. The
events that a forum lists are completed with the sources from the pages they link to; an event
whose page cannot be read is left out.
-/

namespace Footage

open Calendar

/-- What a harvest is made with. -/
structure Harvester where
  source : DataSource
  fetcher : Fetcher
  settings : Settings
  /-- The events that the caller has already. -/
  known : Event → Bool
  now : Moment

namespace Harvester

variable (harvester : Harvester)

/-- The current day. -/
def today : Day :=
  harvester.now.day

/-- Scans the pages of a blog that a reader reads. -/
def scanBlog (read : Url → String → Except Failure (Page Post)) (threshold : Option Moment)
    (budget : Nat) (start : Url) : Crawl Snapshot := do
  let route : Route Post := {
    fetcher := harvester.fetcher
    read := fun url body => .ofExcept (read url body)
    published := Post.published
    threshold
    now := harvester.now }
  let scan ← route.scan budget start
  return ⟨harvester.source.kits, .documents scan.entries, scan.stop, scan.fetches⟩

/-- The event that a page describes. -/
def readEvent (url : Url) : Crawl Event := do
  let body ← Crawl.fetch harvester.fetcher url
  .ofExcept (KitSet.extractAny harvester.source.kits harvester.today body)

/-- The event of a listing with the sources from the page that it links to. -/
def complete (item : ListItem) : Crawl (Option Event) := do
  let details ← (harvester.readEvent item.link).attempt
  return details.map fun details => (item.event.addSources details.sources).withContainers

/-- The items of a listing that are to be completed. -/
def wanted (items : List ListItem) : List ListItem :=
  items.filter fun item => item.event.isResolved && !harvester.known item.event

/-- Reads a page of a forum. -/
def readListing (kit : ListKit) (url : Url) (body : String) : Crawl (Page Event) := do
  let items ← Crawl.ofExcept (kit.items harvester.today url body)
  let events ← (harvester.wanted items).mapM harvester.complete
  return ⟨events.filterMap id, url.nextPage?⟩

/-- Scans the pages of a forum. -/
def scanForum (kit : ListKit) (threshold : Option Moment) (start : Url) : Crawl Snapshot := do
  let route : Route Event := {
    fetcher := harvester.fetcher
    read := harvester.readListing kit
    published := fun event => some event.date
    threshold
    now := harvester.now }
  let scan ← route.scan harvester.settings.scrapeSteps start
  return ⟨harvester.source.kits, .events scan.entries, scan.stop, scan.fetches⟩

/-- Harvests the source. The start of the request takes precedence over the threshold of the
settings. -/
def snapshot (request : Request) : Crawl Snapshot := do
  Crawl.ofExcept harvester.settings.check
  let source := harvester.source
  let start ← Crawl.ofExcept (request.address source.base source.feed)
  let threshold := request.start <|> harvester.settings.threshold
  match source.feed, source.list with
  | .html, _ => harvester.scanBlog Page.ofHtml threshold harvester.settings.maxScanSteps start
  | .json, _ => harvester.scanBlog Page.ofJson threshold harvester.settings.maxScanSteps start
  | .forum, some kit => harvester.scanForum kit threshold start
  | .forum, none =>
    .ofExcept (.error (.misconfigured (.reported (source.name ++ " has no list kit"))))

/-- Harvests one page: a page of a blog without those that follow it, or the page of one event. -/
def snapshotPage (url : Url) : Crawl Snapshot :=
  match harvester.source.feed with
  | .html => harvester.scanBlog Page.ofHtml none 1 url
  | .json => harvester.scanBlog Page.ofJson none 1 url
  | .forum => do
    let event ← harvester.readEvent url
    return ⟨harvester.source.kits, .events [event.withContainers], .stepLimit, 1⟩

end Harvester

end Footage
