import Footage.Markup.Token
import Footage.Text.Substring

/-!
# Document types

The declaration at the start of a document. Its identifiers decide whether the document is laid
out by the rules of old documents.
-/

namespace Footage.Markup

open Text

/-- What a document type declares. -/
structure Doctype where
  name : String := ""
  publicId : Option String := none
  systemId : Option String := none
  /-- The declaration is incomplete or malformed. -/
  broken : Bool := false
  deriving DecidableEq, Repr

namespace Doctype

/-- The public identifiers of old documents. -/
def oldPublicIds : List String :=
  ["-//w3o//dtd w3 html strict 3.0//en//", "-/w3c/dtd html 4.0 transitional/en", "html"]

/-- The starts of the public identifiers of old documents. -/
def oldPublicStarts : List String :=
  ["-//advasoft ltd//dtd html 3.0 aswedit + extensions//",
    "-//as//dtd html 3.0 aswedit + extensions//",
    "-//ietf//dtd html 2.0 level 1//", "-//ietf//dtd html 2.0 level 2//",
    "-//ietf//dtd html 2.0 strict level 1//", "-//ietf//dtd html 2.0 strict level 2//",
    "-//ietf//dtd html 2.0 strict//", "-//ietf//dtd html 2.0//", "-//ietf//dtd html 2.1e//",
    "-//ietf//dtd html 3.0//", "-//ietf//dtd html 3.2 final//", "-//ietf//dtd html 3.2//",
    "-//ietf//dtd html 3//", "-//ietf//dtd html level 0//", "-//ietf//dtd html level 1//",
    "-//ietf//dtd html level 2//", "-//ietf//dtd html level 3//",
    "-//ietf//dtd html strict level 0//", "-//ietf//dtd html strict level 1//",
    "-//ietf//dtd html strict level 2//", "-//ietf//dtd html strict level 3//",
    "-//ietf//dtd html strict//", "-//ietf//dtd html//",
    "-//metrius//dtd metrius presentational//",
    "-//microsoft//dtd internet explorer 2.0 html strict//",
    "-//microsoft//dtd internet explorer 2.0 html//",
    "-//microsoft//dtd internet explorer 2.0 tables//",
    "-//microsoft//dtd internet explorer 3.0 html strict//",
    "-//microsoft//dtd internet explorer 3.0 html//",
    "-//microsoft//dtd internet explorer 3.0 tables//",
    "-//netscape comm. corp.//dtd html//", "-//netscape comm. corp.//dtd strict html//",
    "-//o'reilly and associates//dtd html 2.0//",
    "-//o'reilly and associates//dtd html extended 1.0//",
    "-//o'reilly and associates//dtd html extended relaxed 1.0//",
    "-//softquad software//dtd hotmetal pro 6.0::19990601::extensions to html 4.0//",
    "-//softquad//dtd hotmetal pro 4.0::19971010::extensions to html 4.0//",
    "-//spyglass//dtd html 2.0 extended//", "-//sq//dtd html 2.0 hotmetal + extensions//",
    "-//sun microsystems corp.//dtd hotjava html//",
    "-//sun microsystems corp.//dtd hotjava strict html//",
    "-//w3c//dtd html 3 1995-03-24//", "-//w3c//dtd html 3.2 draft//",
    "-//w3c//dtd html 3.2 final//", "-//w3c//dtd html 3.2//", "-//w3c//dtd html 3.2s draft//",
    "-//w3c//dtd html 4.0 frameset//", "-//w3c//dtd html 4.0 transitional//",
    "-//w3c//dtd html experimental 19960712//", "-//w3c//dtd html experimental 970421//",
    "-//w3c//dtd w3 html//", "-//w3o//dtd w3 html 3.0//", "-//webtechs//dtd mozilla html 2.0//",
    "-//webtechs//dtd mozilla html//"]

/-- The starts of public identifiers that belong to old documents unless a system identifier
follows. -/
def oldAloneStarts : List String :=
  ["-//w3c//dtd html 4.01 frameset//", "-//w3c//dtd html 4.01 transitional//"]

/-- The system identifier of old documents. -/
def oldSystemId : String :=
  "http:" ++ "//www.ibm.com/data/dtd/v11/ibmxhtml1-transitional.dtd"

/-- Whether a text has one of some starts. -/
def startsWithAny (starts : List String) (text : String) : Bool :=
  starts.any fun start => start.toList.isPrefixOf text.toList

/-- Whether the document is laid out by the rules of old documents. -/
def isOld (doctype : Doctype) : Bool :=
  let publicId := doctype.publicId.map String.toLower
  let systemId := doctype.systemId.map String.toLower
  doctype.broken || doctype.name != "html" ||
    publicId.any (fun id => oldPublicIds.contains id || startsWithAny oldPublicStarts id) ||
    systemId == some oldSystemId ||
    (systemId.isNone && publicId.any (startsWithAny oldAloneStarts))

/-- A text with the null characters replaced. -/
def replaceNull (text : List Char) : List Char :=
  text.map fun c => if c = '\x00' then Char.ofNat 0xFFFD else c

/-- Goes past the end of a declaration. -/
def skipToEnd (text : List Char) : List Char :=
  (text.dropWhile (· ≠ '>')).drop 1

/-- A declaration that goes wrong where the text starts. -/
def spoil (doctype : Doctype) (text : List Char) : Doctype × List Char :=
  ({ doctype with broken := true }, skipToEnd text)

/-- Takes an identifier in quotes. It ends the declaration if it has no end. -/
def takeQuoted (text : List Char) : Option (String × Option (List Char)) :=
  match text with
  | quote :: rest =>
    if quote = '"' ∨ quote = '\'' then
      let body := rest.takeWhile fun c => c ≠ quote ∧ c ≠ '>'
      let id := String.ofList (replaceNull body)
      match rest.drop body.length with
      | c :: rest => some (id, if c = quote then some rest else none)
      | [] => some (id, none)
    else none
  | [] => none

/-- Takes what follows the system identifier. -/
def takeTail (doctype : Doctype) (text : List Char) : Doctype × List Char :=
  match text.dropWhile isTagSpace with
  | [] => ({ doctype with broken := true }, [])
  | rest => (doctype, skipToEnd rest)

/-- Takes the system identifier and what follows it. -/
def takeSystem (optional : Bool) (doctype : Doctype) (text : List Char) : Doctype × List Char :=
  let text := text.dropWhile isTagSpace
  match takeQuoted text with
  | some (id, some rest) => takeTail { doctype with systemId := some id } rest
  | some (id, none) => { doctype with systemId := some id }.spoil text
  | none =>
    match text with
    | '>' :: rest => ({ doctype with broken := doctype.broken || !optional }, rest)
    | _ => doctype.spoil text

/-- Takes the public identifier and what follows it. -/
def takePublic (doctype : Doctype) (text : List Char) : Doctype × List Char :=
  let text := text.dropWhile isTagSpace
  match takeQuoted text with
  | some (id, some rest) => takeSystem true { doctype with publicId := some id } rest
  | some (id, none) => { doctype with publicId := some id }.spoil text
  | none => doctype.spoil text

/-- Takes a document type after its keyword. -/
def take (text : List Char) : Doctype × List Char :=
  let text := text.dropWhile isTagSpace
  let written := text.takeWhile fun c => !isTagSpace c && c ≠ '>'
  let doctype : Doctype := { name := String.ofList (replaceNull (written.map Char.toLower)) }
  let rest := (text.drop written.length).dropWhile isTagSpace
  let keyword := (rest.take 6).map Char.toLower
  match rest with
  | [] => ({ doctype with broken := true }, [])
  | '>' :: rest => ({ doctype with broken := written.isEmpty }, rest)
  | _ =>
    if keyword = "public".toList then takePublic doctype (rest.drop 6)
    else if keyword = "system".toList then takeSystem false doctype (rest.drop 6)
    else doctype.spoil rest

end Doctype

end Footage.Markup
