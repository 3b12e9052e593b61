import Footage.Feed.Html
import Footage.Json.Decode
import Footage.Json.Reader

/-!
# Pages of a blog as JSON

A page is an object whose member `feed` holds entries and links. Links have a relation to the
page or entry that holds them: `next` leads to the next page, `alternate` to an entry.
-/

namespace Footage

open Calendar

namespace Page

/-- A link with its relation. -/
structure Link where
  relation : String
  address : String

namespace Link

/-- Decodes a link. -/
def ofJson? (json : Json) : Option Link := do
  let member ← Json.record? ["rel", "href"] 2 json
  return ⟨← (← member "rel").text?, ← (← member "href").text?⟩

/-- Decodes the links of a record. -/
def listOfJson? (json : Option Json) : Option (List Link) :=
  Json.orElse? [] (Json.list? ofJson?) json

/-- The address of the first link with a relation. -/
def address? (relation : String) (links : List Link) : Option String :=
  (links.find? fun link => link.relation = relation).map address

end Link

/-- Decodes a text in its wrapping. -/
def wrappedText? (json : Json) : Option String := do
  let member ← Json.record? ["$t"] 1 json
  (← member "$t").text?

/-- Decodes an entry. -/
def postOfJson? (page : Url) (json : Json) : Option Post := do
  let member ← Json.record? ["published", "content", "link"] 0 json
  let published ← Json.optional? wrappedText? (member "published")
  let content ← Json.optional? wrappedText? (member "content")
  let links ← Link.listOfJson? (member "link")
  return {
    published := published.bind fun stamp => readStamp? stamp.toList
    content := content.getD ""
    link := (Link.address? "alternate" links).bind page.join? }

/-- Decodes the entries and the links of a page. -/
def contentsOfJson? (page : Url) (json : Json) : Option (List Post × List Link) := do
  let outer ← Json.record? ["feed"] 1 json
  let member ← Json.record? ["entry", "link"] 0 (← outer "feed")
  let posts ← Json.orElse? [] (Json.list? (postOfJson? page)) (member "entry")
  return (posts, ← Link.listOfJson? (member "link"))

/-- Reads a page of a blog as JSON. -/
def ofJson (page : Url) (text : String) : Except Failure (Page Post) :=
  match (Json.read? text.toList).bind (contentsOfJson? page) with
  | none => .error .badJson
  | some (posts, links) => do
    return ⟨posts, ← (Link.address? "next" links).mapM (follow "next link" page)⟩

end Page

end Footage
