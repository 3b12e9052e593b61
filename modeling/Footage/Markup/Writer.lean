import Footage.Markup.Tree

/-!
# Writing documents

The text of an element with its tags. Attributes are written in the order of their texts.
-/

namespace Footage.Markup

/-- The elements that have no content and no end tag. -/
def voidNames : List String :=
  ["area", "base", "basefont", "bgsound", "br", "col", "embed", "frame", "hr", "img", "input",
    "keygen", "link", "meta", "param", "source", "track", "wbr"]

/-- The elements whose text is written as it is. -/
def literalNames : List String :=
  ["style", "script", "xmp", "iframe", "noembed", "noframes", "plaintext"]

/-- A character as it is written in a text. -/
def writeTextChar (c : Char) : List Char :=
  if c = '&' then "&amp;".toList
  else if c.toNat = 0xA0 then "&nbsp;".toList
  else if c = '<' then "&lt;".toList
  else if c = '>' then "&gt;".toList
  else [c]

/-- A character as it is written in a value. -/
def writeValueChar (c : Char) : List Char :=
  if c = '&' then "&amp;".toList
  else if c.toNat = 0xA0 then "&nbsp;".toList
  else if c = '"' then "&quot;".toList
  else [c]

/-- An attribute with a blank before it. -/
def Attribute.write (item : Attribute) : String :=
  String.ofList
    (' ' :: (item.name.toList ++ '=' :: '"' :: (item.value.toList.flatMap writeValueChar ++ ['"'])))

/-- The attributes of a tag. -/
def writeAttributes (attributes : List Attribute) : List Char :=
  ((attributes.map Attribute.write).mergeSort fun a b => !(decide (b < a))).flatMap String.toList

namespace Node

mutual

/-- The text of a node. The first argument tells whether text is written as it is. -/
def write (literal : Bool) : Node → List Char
  | element name attributes children =>
    let start := '<' :: (name.name.toList ++ writeAttributes attributes ++ ['>'])
    if name.isIn voidNames then start
    else
      start ++ writeAll (name.isIn literalNames) children ++
        '<' :: '/' :: (name.name.toList ++ ['>'])
  | .text chars => if literal then chars.toList else chars.toList.flatMap writeTextChar
  | .comment chars => "<!--".toList ++ chars.toList ++ "-->".toList

/-- The text of some nodes. -/
def writeAll (literal : Bool) : List Node → List Char
  | [] => []
  | node :: nodes => node.write literal ++ writeAll literal nodes

end

end Node

end Footage.Markup
