import Footage.Document
import Footage.Event.Assembly
import Footage.Kit.Source

/-!
# Extracting events from documents

The kits of a set are applied to the text of a document: the event kit once, each source kit as
often as it matches. The videos that the document links to are packed by part, and the packs are
given to the sources in order.
-/

namespace Footage

open Calendar Markup

/-- The number of characters of a document that a failure quotes. -/
def excerptLength : Nat := 128

/-- The start of a text. A text that is cut has its underscores left out. -/
def excerpt (text : String) : String :=
  let chars := text.toList
  if chars.length < excerptLength then text
  else String.ofList ((chars.filter (· ≠ '_')).take excerptLength ++ "...".toList)

/-- The text of a sibling in which a label may stand. -/
def labelText? : Node → Option String
  | .text text => some text
  | .element name attributes children =>
    some (String.ofList (Node.element name attributes children).innerText)
  | .comment _ => none

namespace SourceKit

/-- The part that the nearest of the siblings before a link names. -/
def partOf (kit : SourceKit) (link : Focus) : Part :=
  (link.here.before.findSome? fun node => (labelText? node).bind kit.part?).getD .default

/-- The video that a link leads to, if it leads to one. -/
def video? (kit : SourceKit) (link : Focus) : Option VideoFile := do
  let address ← link.node.attribute? "href"
  if kit.isVideoLink address then
    return ⟨kit.partOf link, ← Url.read? address⟩
  else none

/-- The videos that a document links to, in its order. -/
def videos (kit : SourceKit) (document : Document) : List VideoFile :=
  document.links.filterMap kit.video?

/-- The sources in a document, each with its pack, and the warnings about them. -/
def sources (kit : SourceKit) (document : Document) :
    Except Failure (List VideoSource × List Warning) := do
  let described ← (kit.kit.records document.text).mapM VideoSource.ofRecord
  let sources ←
    VideoSource.withPacks (Pack.ofFiles (kit.videos document)) (described.map Prod.fst)
  return (sources, described.flatMap Prod.snd)

end SourceKit

namespace KitSet

/-- The event that a document describes, without its sources. -/
def bareEvent (kits : KitSet) (today : Day) (document : Document) : Except Failure Event :=
  match kits.event.kit.first? document.text with
  | some record => Event.ofRecord today record
  | none =>
    .error (.unmatched kits.event.kit.pattern.source (excerpt document.text))

/-- An event with the sources that one kit finds in a document. -/
def addSources (document : Document) (event : Event) (kit : SourceKit) :
    Except Failure Event := do
  let (sources, warnings) ← kit.sources document
  let event := event.addSources sources
  return { event with warnings := event.warnings ++ warnings }

/-- The event that a document describes, with its sources. -/
def extract (kits : KitSet) (today : Day) (document : Document) : Except Failure Event := do
  kits.sources.foldlM (addSources document) (← kits.bareEvent today document)

/-- The event that the first fitting kit set extracts from a document. A misconfigured set ends
the search. If none fits, the last failure counts. -/
def extractFirst (today : Day) (document : Document) :
    List KitSet → Option Failure → Except Failure Event
  | [], none => .error (.misconfigured .noKitSets)
  | [], some failure => .error failure
  | kits :: rest, _ =>
    match kits.extract today document with
    | .ok event => .ok event
    | .error failure =>
      if failure.isConfiguration then .error failure
      else extractFirst today document rest (some failure)

/-- The event that the first fitting kit set extracts from the document of a text. -/
def extractAny (kits : List KitSet) (today : Day) (text : String) : Except Failure Event :=
  extractFirst today (.ofText text) kits none

end KitSet

end Footage
