import Footage.Calendar.Moment
import Footage.Url.Basic

/-!
# Feeds

A feed is read page by page. A page of a blog holds the documents of its posts and links to the
page with the older ones; a page of a forum lists events and is followed by the page with the next
number.
-/

namespace Footage

open Calendar

/-- How the pages of a feed are written. -/
inductive FeedKind where
  /-- The rendered pages of a blog. -/
  | html
  /-- The pages of a blog as JSON. -/
  | json
  /-- The listing pages of a forum. -/
  | forum
  deriving DecidableEq, Repr

namespace FeedKind

/-- All kinds of feeds. -/
def all : List FeedKind := [html, json, forum]

/-- The name of a kind in data sources. -/
def key : FeedKind → String
  | html => "blogger_html"
  | json => "blogger_json"
  | forum => "forum"

/-- The kind with a name. -/
def ofKey? (key : String) : Option FeedKind :=
  all.find? fun kind => kind.key = key

/-- Whether each page links to the next one. -/
def followsLinks : FeedKind → Bool
  | html | json => true
  | forum => false

end FeedKind

/-- A post of a blog. -/
structure Post where
  /-- When the post was published, if the page says so. -/
  published : Option Moment
  /-- The document of the post. -/
  content : String
  /-- Where the post can be read on its own. -/
  link : Option Url
  deriving DecidableEq

/-- A page of a feed: its entries, and the page after it. -/
structure Page (α : Type) where
  entries : List α
  next : Option Url

end Footage
