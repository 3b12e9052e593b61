import Footage.Extraction
import Footage.Markup.Selector.Basic

/-!
# Listings of events

A listing announces events by links. The text of each link describes one event, and the link leads
to the page that describes it in full.
-/

namespace Footage

open Calendar Markup

/-- A kit for listings: which links announce events, and how their texts are read. -/
structure ListKit where
  links : Selector
  event : EventKit

/-- An event that a listing announces, with the page that describes it. -/
structure ListItem where
  event : Event
  link : Url

namespace ListKit

/-- The item that a link announces. Links that do not match, or lead nowhere, announce none. -/
def item? (kit : ListKit) (today : Day) (page : Url) (link : Focus) :
    Except Failure (Option ListItem) :=
  match kit.event.kit.first? (String.ofList link.node.flatten),
    (link.node.attribute? "href").bind page.join? with
  | some record, some link => (Event.ofRecord today record).map fun event => some ⟨event, link⟩
  | _, _ => .ok none

/-- The items of a listing, in its order. -/
def items (kit : ListKit) (today : Day) (page : Url) (text : String) :
    Except Failure (List ListItem) := do
  let items ← (kit.links.select (readDocument text.toList)).mapM (kit.item? today page)
  return items.filterMap id

end ListKit

end Footage
