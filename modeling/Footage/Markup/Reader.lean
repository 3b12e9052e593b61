import Footage.Markup.Construction

/-!
# Reading documents

Every text is a document: the reader completes what is missing and puts up with what is wrong.
-/

namespace Footage.Markup

/-- The nodes of the document that a text describes. -/
def readDocument (text : List Char) : List Node :=
  let text := plainLines text
  let (_, b) := (Build.readText (text.length + 1) .data text).run {}
  b.arena.documentNodes

end Footage.Markup
