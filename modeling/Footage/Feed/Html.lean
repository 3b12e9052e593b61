import Footage.Calendar.Stamp
import Footage.Failure
import Footage.Feed.Basic
import Footage.Markup.Reader
import Footage.Markup.Selector.Basic
import Footage.Markup.Writer
import Footage.Url.Reader

/-!
# Rendered pages of a blog

Posts stand in boxes of their own. The content of a post is the first box directly in an entry,
else the first entry, else the whole box of the post.
-/

namespace Footage

open Calendar Markup

namespace Post

/-- The selector of elements that meet some conditions. -/
def elements (conditions : List Simple) : Selector :=
  [[(.descendant, conditions)]]

/-- The boxes of posts. -/
def boxes : Selector :=
  elements [.name "div", .className "post-outer"]

/-- The dates of publication. -/
def dates : Selector :=
  elements [.name "abbr", .className "published", .present "title"]

/-- The entries of posts. -/
def entries : Selector :=
  elements [.name "div", .className "entry-content"]

/-- The boxes directly in an entry. -/
def entryBoxes : Selector :=
  [[(.descendant, [.name "div"]), (.child, [.name "div", .className "entry-content"])]]

/-- The addresses of posts. -/
def addresses : Selector :=
  elements [.name "meta", .value "itemprop" .equal "url" false, .present "content"]

/-- The links to pages with older posts. -/
def olderLinks : Selector :=
  elements [.name "a", .className "blog-pager-older-link", .present "href"]

/-- An attribute of the first element that a selector picks in a box. -/
def firstAttribute? (selector : Selector) (key : String) (box : Focus) : Option String :=
  (selector.selectIn box).head?.bind fun found => found.node.attribute? key

/-- The post in a box. -/
def ofBox (page : Url) (box : Focus) : Post :=
  let content := (entryBoxes.selectIn box).head? <|> (entries.selectIn box).head?
  { published := (firstAttribute? dates "title" box).bind fun stamp => readStamp? stamp.toList
    content := String.ofList ((content.getD box).node.write false)
    link := (firstAttribute? addresses "content" box).bind page.join? }

end Post

namespace Page

/-- The page that a link leads to. -/
def follow (description : String) (page : Url) (link : String) : Except Failure Url :=
  match page.join link.toList with
  | .ok next => .ok next
  | .error error =>
    .error (.badFeed (description ++ " '" ++ link ++ "': " ++ error.message))

/-- Reads a rendered page of a blog. -/
def ofHtml (page : Url) (text : String) : Except Failure (Page Post) := do
  let nodes := readDocument text.toList
  let older := (Post.olderLinks.select nodes).head?.bind fun link => link.node.attribute? "href"
  let next ← older.mapM (follow "older-posts link" page)
  return ⟨(Post.boxes.select nodes).map (Post.ofBox page), next⟩

end Page

end Footage
