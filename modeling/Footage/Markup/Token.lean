import Footage.Markup.Name

/-!
# Tokens of markup

What markup consists of: tags, characters, comments and the document type.
-/

namespace Footage.Markup

/-- A start tag. -/
structure Tag where
  name : String
  attributes : List Attribute := []
  selfClosing : Bool := false
  deriving DecidableEq, Repr

/-- The value of an attribute. -/
def Tag.attribute? (tag : Tag) (name : String) : Option String :=
  (tag.attributes.find? fun item => item.name == name).map Attribute.value

/-- A piece of markup. -/
inductive Token where
  | start (tag : Tag)
  | finish (name : String)
  | char (c : Char)
  | comment (text : String)
  /-- A document type. It may ask for the layout rules of old documents. -/
  | doctype (old : Bool)
  | done
  deriving DecidableEq, Repr

/-- The white space that separates the parts of a tag. -/
def isTagSpace (c : Char) : Bool :=
  c == ' ' || c == '\t' || c == '\n' || c == '\x0c' || c == '\r'

/-- How the scripts in a document may hide their end tags. -/
inductive ScriptPhase where
  | plain
  /-- After the start of a comment, and after so many hyphens, up to two. -/
  | escaped (hyphens : Nat)
  /-- After the start of a script in a comment, and after so many hyphens, up to two. -/
  | doubled (hyphens : Nat)
  deriving DecidableEq, Repr

/-- How the text that follows is read. -/
inductive TextMode where
  | data
  /-- Text with character references but without tags, up to a given end tag. -/
  | escapable (name : String)
  /-- Text without character references and tags, up to a given end tag. -/
  | raw (name : String)
  | script (phase : ScriptPhase)
  | plaintext
  deriving DecidableEq, Repr

end Footage.Markup
