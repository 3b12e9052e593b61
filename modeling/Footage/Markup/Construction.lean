import Footage.Markup.Adoption
import Footage.Markup.Scanner

/-!
# Tree construction

The rules by which each token changes the document, one function for each place in it. Tokens are
never refused: what stands in the wrong place is moved, ignored or completed.
-/

namespace Footage.Markup.Build

/-- Nothing more happens to the token. -/
def done : Build Next := return .done

/-- Reads the token again by other rules. -/
def readAgain (mode : Mode) (token : Token) : Build Next := do
  switch mode
  return .again token

/-- Whether a token is white space. -/
def isSpace : Token → Bool
  | .char c => isTagSpace c
  | _ => false

/-- The mode for the innermost of the open elements that decides it. -/
def modeFor (b : Builder) : List Nat → Mode
  | [] => .inBody
  | id :: outer =>
    let name := b.arena.name id
    if name.space ≠ .html then modeFor b outer
    else
      match name.name with
      | "select" =>
        match outer.find? fun id => (b.arena.name id).isIn ["template", "table"] with
        | some id => if (b.arena.name id).is "table" then .inSelectInTable else .inSelect
        | none => .inSelect
      | "td" | "th" => if outer.isEmpty then modeFor b outer else .inCell
      | "tr" => .inRow
      | "tbody" | "thead" | "tfoot" => .inTableBody
      | "caption" => .inCaption
      | "colgroup" => .inColumnGroup
      | "table" => .inTable
      | "template" => b.templates.headD .inBody
      | "head" => if outer.isEmpty then modeFor b outer else .inHead
      | "body" => .inBody
      | "frameset" => .inFrameset
      | "html" => if b.head.isSome then .afterHead else .beforeHead
      | _ => modeFor b outer

/-- Returns to the mode for the open elements. -/
def resetMode : Build Unit :=
  modify fun b => { b with mode := modeFor b b.opened }

/-! ## Content of the head -/

/-- The elements without content that belong into the head. -/
def headEmpty : List String := ["base", "basefont", "bgsound", "link", "meta"]

/-- The elements that belong into the head wherever they stand. -/
def headNames : List String :=
  headEmpty ++ ["noframes", "script", "style", "template", "title"]

/-- Reads the start of an element that belongs into the head. -/
def startInHead (tag : Tag) : Build Next :=
  if headEmpty.contains tag.name then do
    insertEmpty tag
    done
  else if tag.name == "title" then openText tag (.escapable "title")
  else if tag.name == "script" then openText tag (.script .plain)
  else if tag.name == "template" then do
    openTag tag
    pushMarker
    forbidFrames
    switch .inTemplate
    modify fun b => { b with templates := .inTemplate :: b.templates }
    done
  else openText tag (.raw tag.name)

/-- Closes a template. -/
def endTemplate : Build Next := do
  if ← hasOpen "template" then
    popWhile (·.isIn Name.impliedByTemplate)
    popThroughNamed "template"
    clearToMarker
    modify fun b => { b with templates := b.templates.tail }
    resetMode
  done

/-- Adds the attributes of a second start tag of the outermost element. -/
def startHtml (tag : Tag) : Build Next := do
  unless ← hasOpen "template" do
    let id ← root
    onArena fun arena => arena.addAttributes id tag.attributes
  done

/-! ## Places before the body -/

/-- The end tags that open the elements before them. -/
def openingEnds : List String := ["body", "html", "br"]

/-- Reads a token before the outermost element. -/
def beforeHtml (token : Token) : Build Next :=
  let other : Build Next := do
    openRoot []
    readAgain .beforeHead token
  match token with
  | .comment text => do
    appendComment 0 text
    done
  | .start tag =>
    if tag.name == "html" then do
      openRoot tag.attributes
      switch .beforeHead
      done
    else other
  | .finish name => if (openingEnds ++ ["head"]).contains name then other else done
  | _ => if isSpace token then done else other

/-- Reads a token before everything. -/
def initial (token : Token) : Build Next :=
  match token with
  | .comment text => do
    appendComment 0 text
    done
  | _ =>
    if isSpace token then done
    else do
      modify fun b => { b with old := true }
      readAgain .beforeHtml token

/-- Opens the head. -/
def openHead (tag : Tag) : Build Unit := do
  let id ← insert .html tag
  modify fun b => { b with head := some id, mode := .inHead }

/-- Reads a token before the head. -/
def beforeHead (token : Token) : Build Next :=
  let other : Build Next := do
    openHead { name := "head" }
    return .again token
  match token with
  | .comment text => do
    insertComment text
    done
  | .start tag =>
    if tag.name == "html" then startHtml tag
    else if tag.name == "head" then do
      openHead tag
      done
    else other
  | .finish name => if (openingEnds ++ ["head"]).contains name then other else done
  | _ => if isSpace token then done else other

/-- Reads a token in the head. -/
def inHead (token : Token) : Build Next :=
  let other : Build Next := do
    pop
    readAgain .afterHead token
  match token with
  | .comment text => do
    insertComment text
    done
  | .start tag =>
    if tag.name == "html" then startHtml tag
    else if headNames.contains tag.name || tag.name == "noscript" then startInHead tag
    else if tag.name == "head" then done
    else other
  | .finish name =>
    if name == "head" then do
      pop
      switch .afterHead
      done
    else if openingEnds.contains name then other
    else if name == "template" then endTemplate
    else done
  | .char c =>
    if isSpace token then do
      insertChar c
      done
    else other
  | _ => other

/-- Reads a token between the head and the body. -/
def afterHead (token : Token) : Build Next :=
  let other : Build Next := do
    openName "body"
    readAgain .inBody token
  match token with
  | .comment text => do
    insertComment text
    done
  | .start tag =>
    if tag.name == "html" then startHtml tag
    else if tag.name == "body" then do
      openTag tag
      forbidFrames
      switch .inBody
      done
    else if tag.name == "frameset" then do
      openTag tag
      switch .inFrameset
      done
    else if headNames.contains tag.name then do
      let head := (← get).head.getD 0
      push head
      let next ← startInHead tag
      unopen head
      return next
    else if tag.name == "head" then done
    else other
  | .finish name =>
    if name == "template" then endTemplate
    else if openingEnds.contains name then other
    else done
  | .char c =>
    if isSpace token then do
      insertChar c
      done
    else other
  | _ => other

/-! ## The body -/

/-- Reads a character in the body. -/
def charInBody (c : Char) : Build Next := do
  if c = '\x00' then done
  else
    reconstruct
    unless isTagSpace c do forbidFrames
    insertChar c
    done

/-- Ends the document, closing the templates that are still open. -/
def endInBody : Build Next := do
  if (← get).templates.isEmpty || !(← hasOpen "template") then done
  else
    popThroughNamed "template"
    clearToMarker
    modify fun b => { b with templates := b.templates.tail }
    resetMode
    return .again .done

/-- Starts a list item or an entry of a description list, ending the one before it. -/
def startItem (closes : List String) (tag : Tag) : Build Next := do
  forbidFrames
  let b ← get
  let rec find : List Nat → Option String
    | [] => none
    | id :: rest =>
      let name := b.arena.name id
      if name.isIn closes then some name.name
      else if name.isIn Name.special && !name.isIn ["address", "div", "p"] then none
      else find rest
  match find b.opened with
  | some name => close name
  | none => pure ()
  closeParagraph
  openTag tag
  done

/-- Starts an element of a drawing or a formula. -/
def startForeign (space : Space) (tag : Tag) : Build Next := do
  if tag.selfClosing then discard (insertClosed space tag) else discard (insert space tag)
  done

/-- Whether a tag starts an invisible input. -/
def isHidden (tag : Tag) : Bool :=
  (tag.attribute? "type").any fun value => value.toLower == "hidden"

/-- The names of attributes in drawings that are not in lower case. -/
def drawingAttributes : List String :=
  ["attributeName", "attributeType", "baseFrequency", "baseProfile", "calcMode", "clipPathUnits",
    "diffuseConstant", "edgeMode", "filterUnits", "glyphRef", "gradientTransform",
    "gradientUnits", "kernelMatrix", "kernelUnitLength", "keyPoints", "keySplines", "keyTimes",
    "lengthAdjust", "limitingConeAngle", "markerHeight", "markerUnits", "markerWidth",
    "maskContentUnits", "maskUnits", "numOctaves", "pathLength", "patternContentUnits",
    "patternTransform", "patternUnits", "pointsAtX", "pointsAtY", "pointsAtZ", "preserveAlpha",
    "preserveAspectRatio", "primitiveUnits", "refX", "refY", "repeatCount", "repeatDur",
    "requiredExtensions", "requiredFeatures", "specularConstant", "specularExponent",
    "spreadMethod", "startOffset", "stdDeviation", "stitchTiles", "surfaceScale",
    "systemLanguage", "tableValues", "targetX", "targetY", "textLength", "viewBox", "viewTarget",
    "xChannelSelector", "yChannelSelector", "zoomAndPan"]

/-- The names of elements in drawings that are not in lower case. -/
def drawingElements : List String :=
  ["altGlyph", "altGlyphDef", "altGlyphItem", "animateColor", "animateMotion", "animateTransform",
    "clipPath", "feBlend", "feColorMatrix", "feComponentTransfer", "feComposite",
    "feConvolveMatrix", "feDiffuseLighting", "feDisplacementMap", "feDistantLight",
    "feDropShadow", "feFlood", "feFuncA", "feFuncB", "feFuncG", "feFuncR", "feGaussianBlur",
    "feImage", "feMerge", "feMergeNode", "feMorphology", "feOffset", "fePointLight",
    "feSpecularLighting", "feSpotLight", "feTile", "feTurbulence", "foreignObject", "glyphRef",
    "linearGradient", "radialGradient", "textPath"]

/-- The name in a list that is equal to a name in lower case, or the name itself. -/
def properCase (names : List String) (name : String) : String :=
  (names.find? fun other => other.toLower == name).getD name

/-- A tag with the names of its attributes in their proper case. -/
def adjustAttributes (space : Space) (tag : Tag) : Tag :=
  let names := match space with
    | .svg => drawingAttributes
    | .math => ["definitionURL"]
    | .html => []
  { tag with attributes := tag.attributes.map fun item =>
      { item with name := properCase names item.name } }

/-- The elements that a formatted text may hold and that are closed by name. -/
def objects : List String := ["applet", "marquee", "object"]

/-- The parts of tables. -/
def tableParts : List String :=
  ["caption", "col", "colgroup", "tbody", "td", "tfoot", "th", "thead", "tr"]

/-- Reads a start tag in the body. -/
def startInBody (tag : Tag) : Build Next := do
  let name := tag.name
  let inText (names : List String) : Bool := names.contains name
  if name == "html" then startHtml tag
  else if inText headNames then startInHead tag
  else if name == "body" then
    match ← body? with
    | some id =>
      unless ← hasOpen "template" do
        forbidFrames
        onArena fun arena => arena.addAttributes id tag.attributes
    | none => pure ()
    done
  else if name == "frameset" then
    match ← body?, (← get).framesAllowed with
    | some id, true =>
      onArena fun arena => arena.detach id
      modify fun b => { b with opened := [b.opened.getLastD 0] }
      openTag tag
      switch .inFrameset
    | _, _ => pure ()
    done
  else if inText Name.blocks || name == "p" then
    closeParagraph
    openTag tag
    done
  else if inText Name.headings then
    closeParagraph
    if (← currentName).isIn Name.headings then pop
    openTag tag
    done
  else if inText ["pre", "listing"] then
    closeParagraph
    openTag tag
    modify fun b => { b with dropsLine := true }
    forbidFrames
    done
  else if name == "form" then
    let inTemplate ← hasOpen "template"
    if (← get).form.isNone || inTemplate then
      closeParagraph
      let id ← insert .html tag
      unless inTemplate do modify fun b => { b with form := some id }
    done
  else if name == "li" then startItem ["li"] tag
  else if inText ["dd", "dt"] then startItem ["dd", "dt"] tag
  else if name == "plaintext" then
    closeParagraph
    openTag tag
    return .scan .plaintext
  else if name == "button" then
    if ← inScopeNamed Name.isScope "button" then
      closeImplied
      popThroughNamed "button"
    reconstruct
    openTag tag
    forbidFrames
    done
  else if name == "a" then
    endOpenLink
    reconstruct
    openFormatting tag
    done
  else if name == "nobr" then
    reconstruct
    if ← inScopeNamed Name.isScope "nobr" then
      endFormatting "nobr"
      reconstruct
    openFormatting tag
    done
  else if inText Name.formatting then
    reconstruct
    openFormatting tag
    done
  else if inText objects then
    reconstruct
    openTag tag
    pushMarker
    forbidFrames
    done
  else if name == "table" then
    unless (← get).old do closeParagraph
    openTag tag
    forbidFrames
    switch .inTable
    done
  else if inText ["area", "br", "embed", "img", "keygen", "wbr", "input"] then
    reconstruct
    insertEmpty tag
    unless name == "input" && isHidden tag do forbidFrames
    done
  else if inText ["param", "source", "track"] then
    insertEmpty tag
    done
  else if name == "hr" then
    closeParagraph
    insertEmpty tag
    forbidFrames
    done
  else if name == "image" then return .again (.start { tag with name := "img" })
  else if name == "textarea" then
    modify fun b => { b with dropsLine := true }
    forbidFrames
    openText tag (.escapable name)
  else if name == "xmp" then
    closeParagraph
    reconstruct
    forbidFrames
    openText tag (.raw name)
  else if name == "iframe" then
    forbidFrames
    openText tag (.raw name)
  else if inText ["noembed", "noscript"] then openText tag (.raw name)
  else if name == "select" then
    reconstruct
    openTag tag
    forbidFrames
    let mode := (← get).mode
    switch (if [.inTable, .inCaption, .inTableBody, .inRow, .inCell].contains mode then
      .inSelectInTable else .inSelect)
    done
  else if inText ["optgroup", "option"] then
    if ← currentIs "option" then pop
    reconstruct
    openTag tag
    done
  else if inText ["rb", "rtc"] then
    if ← inScopeNamed Name.isScope "ruby" then closeImplied
    openTag tag
    done
  else if inText ["rp", "rt"] then
    if ← inScopeNamed Name.isScope "ruby" then closeImpliedExcept "rtc"
    openTag tag
    done
  else if name == "math" then startForeign .math (adjustAttributes .math tag)
  else if name == "svg" then startForeign .svg (adjustAttributes .svg tag)
  else if inText tableParts || inText ["frame", "head"] then done
  else
    reconstruct
    openTag tag
    done

/-- Ends a form. -/
def endForm : Build Next := do
  if ← hasOpen "template" then
    if ← inScopeNamed Name.isScope "form" then
      closeImplied
      popThroughNamed "form"
  else
    let form := (← get).form
    modify fun b => { b with form := none }
    match form with
    | some id =>
      if ← inScope Name.isScope fun other _ => other = id then
        closeImplied
        unopen id
    | none => pure ()
  done

/-- Reads an end tag in the body. -/
def endTagInBody (name : String) : Build Next := do
  let inText (names : List String) : Bool := names.contains name
  if name == "template" then endTemplate
  else if name == "body" then
    if ← inScopeNamed Name.isScope "body" then switch .afterBody
    done
  else if name == "html" then
    if ← inScopeNamed Name.isScope "body" then readAgain .afterBody (.finish name) else done
  else if inText Name.blocks || inText ["button", "listing", "pre"] then
    if ← inScopeNamed Name.isScope name then close name
    done
  else if name == "form" then endForm
  else if name == "p" then
    unless ← inScopeNamed Name.isButtonScope "p" do openName "p"
    close "p"
    done
  else if name == "li" then
    if ← inScopeNamed Name.isListScope name then close name
    done
  else if inText ["dd", "dt"] then
    if ← inScopeNamed Name.isScope name then close name
    done
  else if inText Name.headings then
    if ← inScope Name.isScope fun _ other => other.isIn Name.headings then
      closeImplied
      popThrough (·.isIn Name.headings)
    done
  else if inText Name.formatting then
    endFormatting name
    done
  else if inText objects then
    if ← inScopeNamed Name.isScope name then
      close name
      clearToMarker
    done
  else if name == "br" then return .again (.start { name })
  else
    endOrdinary name
    done

/-- Reads a token in the body. -/
def inBody (token : Token) : Build Next :=
  match token with
  | .char c => charInBody c
  | .comment text => do
    insertComment text
    done
  | .start tag => startInBody tag
  | .finish name => endTagInBody name
  | .doctype _ => done
  | .done => endInBody

/-- Reads the content of an element that is text. -/
def inText (token : Token) : Build Next := do
  match token with
  | .char c =>
    insertChar c
    done
  | .finish _ =>
    pop
    switch (← get).outer
    done
  | .done =>
    pop
    readAgain (← get).outer token
  | _ => done

/-! ## Tables -/

/-- Reads a token that does not belong into a table as in the body, but puts it before the
table. -/
def foster (token : Token) : Build Next := do
  modify fun b => { b with fostering := true }
  let next ← inBody token
  modify fun b => { b with fostering := false }
  return next

/-- Closes elements up to one with a name that passes a test. -/
def clearTo (names : List String) : Build Unit :=
  popWhile fun name => !name.isIn names

/-- Closes elements up to the table. -/
def clearToTable : Build Unit :=
  clearTo ["html", "table", "template"]

/-- Closes elements up to a group of rows. -/
def clearToBody : Build Unit :=
  clearTo ["tbody", "tfoot", "thead", "template", "html"]

/-- Closes elements up to a row. -/
def clearToRow : Build Unit :=
  clearTo ["tr", "template", "html"]

/-- Reads a token in a table. -/
def inTable (token : Token) : Build Next := do
  match token with
  | .char _ =>
    if (← currentName).isIn fosterNames then
      modify fun b => { b with outer := b.mode }
      readAgain .inTableText token
    else foster token
  | .comment text =>
    insertComment text
    done
  | .start tag =>
    let name := tag.name
    if name == "caption" then
      clearToTable
      pushMarker
      openTag tag
      switch .inCaption
      done
    else if name == "colgroup" then
      clearToTable
      openTag tag
      switch .inColumnGroup
      done
    else if name == "col" then
      clearToTable
      openName "colgroup"
      readAgain .inColumnGroup token
    else if ["tbody", "tfoot", "thead"].contains name then
      clearToTable
      openTag tag
      switch .inTableBody
      done
    else if ["td", "th", "tr"].contains name then
      clearToTable
      openName "tbody"
      readAgain .inTableBody token
    else if name == "table" then
      if ← inScopeNamed Name.isTableScope "table" then
        popThroughNamed "table"
        resetMode
        return .again token
      else done
    else if ["style", "script", "template"].contains name then startInHead tag
    else if name == "input" && isHidden tag then
      insertEmpty tag
      done
    else if name == "form" then
      if !(← hasOpen "template") && (← get).form.isNone then
        let id ← insertClosed .html tag
        modify fun b => { b with form := some id }
      done
    else foster token
  | .finish name =>
    if name == "table" then
      if ← inScopeNamed Name.isTableScope "table" then
        popThroughNamed "table"
        resetMode
      done
    else if (["body", "html"] ++ tableParts).contains name then done
    else if name == "template" then endTemplate
    else foster token
  | .done => inBody token
  | .doctype _ => done

/-- Reads text in a table. White space stays in the table and all other text goes before it. -/
def inTableText (token : Token) : Build Next := do
  match token with
  | .char c =>
    unless c = '\x00' do modify fun b => { b with pending := c :: b.pending }
    done
  | _ =>
    let pending := (← get).pending.reverse
    modify fun b => { b with pending := [] }
    for c in pending do
      if pending.all isTagSpace then insertChar c else discard (foster (.char c))
    readAgain (← get).outer token

/-- Reads a token in the caption of a table. -/
def inCaption (token : Token) : Build Next := do
  let leave (next : Build Next) : Build Next := do
    if ← inScopeNamed Name.isTableScope "caption" then
      closeImplied
      popThroughNamed "caption"
      clearToMarker
      switch .inTable
      next
    else done
  match token with
  | .start tag => if tableParts.contains tag.name then leave (return .again token) else inBody token
  | .finish name =>
    if name == "caption" then leave done
    else if name == "table" then leave (return .again token)
    else if (["body", "html"] ++ tableParts).contains name then done
    else inBody token
  | _ => inBody token

/-- Reads a token in a group of columns. -/
def inColumnGroup (token : Token) : Build Next := do
  let other : Build Next := do
    if ← currentIs "colgroup" then
      pop
      readAgain .inTable token
    else done
  match token with
  | .char c =>
    if isSpace token then
      insertChar c
      done
    else other
  | .comment text =>
    insertComment text
    done
  | .start tag =>
    if tag.name == "html" then startHtml tag
    else if tag.name == "col" then
      insertEmpty tag
      done
    else if tag.name == "template" then startInHead tag
    else other
  | .finish name =>
    if name == "colgroup" then
      if ← currentIs "colgroup" then
        pop
        switch .inTable
      done
    else if name == "col" then done
    else if name == "template" then endTemplate
    else other
  | .done => inBody token
  | .doctype _ => done

/-- Reads a token in a group of rows. -/
def inTableBody (token : Token) : Build Next := do
  let leave : Build Next := do
    if ← inScope Name.isTableScope fun _ name => name.isIn ["table", "tbody", "tfoot"] then
      clearToBody
      pop
      readAgain .inTable token
    else done
  match token with
  | .start tag =>
    if tag.name == "tr" then
      clearToBody
      openTag tag
      switch .inRow
      done
    else if ["th", "td"].contains tag.name then
      clearToBody
      openName "tr"
      readAgain .inRow token
    else if tableParts.contains tag.name then leave
    else inTable token
  | .finish name =>
    if ["tbody", "tfoot", "thead"].contains name then
      if ← inScopeNamed Name.isTableScope name then
        clearToBody
        pop
        switch .inTable
      done
    else if name == "table" then leave
    else if (["body", "html"] ++ tableParts).contains name then done
    else inTable token
  | _ => inTable token

/-- Reads a token in a row. -/
def inRow (token : Token) : Build Next := do
  let leave (next : Build Next) : Build Next := do
    if ← inScopeNamed Name.isTableScope "tr" then
      clearToRow
      pop
      switch .inTableBody
      next
    else done
  match token with
  | .start tag =>
    if ["th", "td"].contains tag.name then
      clearToRow
      openTag tag
      switch .inCell
      pushMarker
      done
    else if tableParts.contains tag.name then leave (return .again token)
    else inTable token
  | .finish name =>
    if name == "tr" then leave done
    else if name == "table" then leave (return .again token)
    else if ["tbody", "tfoot", "thead"].contains name then
      if ← inScopeNamed Name.isTableScope name then leave (return .again token) else done
    else if (["body", "html"] ++ tableParts).contains name then done
    else inTable token
  | _ => inTable token

/-- Closes the open cell. -/
def closeCell : Build Unit := do
  closeImplied
  popThrough (·.isIn ["td", "th"])
  clearToMarker

/-- Reads a token in a cell. -/
def inCell (token : Token) : Build Next := do
  match token with
  | .start tag =>
    if tableParts.contains tag.name then
      if ← inScope Name.isTableScope fun _ name => name.isIn ["td", "th"] then
        closeCell
        readAgain .inRow token
      else done
    else inBody token
  | .finish name =>
    if ["td", "th"].contains name then
      if ← inScopeNamed Name.isTableScope name then
        closeImplied
        popThroughNamed name
        clearToMarker
        switch .inRow
      done
    else if ["table", "tbody", "tfoot", "thead", "tr"].contains name then
      if ← inScopeNamed Name.isTableScope name then
        closeCell
        readAgain .inRow token
      else done
    else if (["body", "html"] ++ tableParts).contains name then done
    else inBody token
  | _ => inBody token

/-! ## Selections and templates -/

/-- Reads a token in a selection. -/
def inSelect (token : Token) : Build Next := do
  match token with
  | .char c =>
    unless c = '\x00' do insertChar c
    done
  | .comment text =>
    insertComment text
    done
  | .start tag =>
    let name := tag.name
    if name == "html" then startHtml tag
    else if name == "option" then
      if ← currentIs "option" then pop
      openTag tag
      done
    else if name == "optgroup" then
      if ← currentIs "option" then pop
      if ← currentIs "optgroup" then pop
      openTag tag
      done
    else if ["select", "input", "keygen", "textarea"].contains name then
      if ← inScopeNamed Name.isSelectScope "select" then
        popThroughNamed "select"
        resetMode
        if name == "select" then done else return .again token
      else done
    else if ["script", "template"].contains name then startInHead tag
    else done
  | .finish name =>
    if name == "optgroup" then
      let b ← get
      match b.opened with
      | id :: outer :: _ =>
        if (b.arena.name id).is "option" && (b.arena.name outer).is "optgroup" then pop
      | _ => pure ()
      if ← currentIs "optgroup" then pop
      done
    else if name == "option" then
      if ← currentIs "option" then pop
      done
    else if name == "select" then
      if ← inScopeNamed Name.isSelectScope "select" then
        popThroughNamed "select"
        resetMode
      done
    else if name == "template" then endTemplate
    else done
  | .done => inBody token
  | .doctype _ => done

/-- Reads a token in a selection in a table. -/
def inSelectInTable (token : Token) : Build Next := do
  let parts := ["caption", "table", "tbody", "tfoot", "thead", "tr", "td", "th"]
  let leave : Build Next := do
    popThroughNamed "select"
    resetMode
    return .again token
  match token with
  | .start tag => if parts.contains tag.name then leave else inSelect token
  | .finish name =>
    if parts.contains name then
      if ← inScopeNamed Name.isTableScope name then leave else done
    else inSelect token
  | _ => inSelect token

/-- Reads a token in a template. Its first element decides how the others are read. -/
def inTemplate (token : Token) : Build Next := do
  let settle (mode : Mode) : Build Next := do
    modify fun b => { b with templates := mode :: b.templates.tail }
    readAgain mode token
  match token with
  | .start tag =>
    let name := tag.name
    if headNames.contains name then startInHead tag
    else if ["caption", "colgroup", "tbody", "tfoot", "thead"].contains name then settle .inTable
    else if name == "col" then settle .inColumnGroup
    else if name == "tr" then settle .inTableBody
    else if ["td", "th"].contains name then settle .inRow
    else settle .inBody
  | .finish name => if name == "template" then endTemplate else done
  | _ => inBody token

/-! ## Places after the body -/

/-- Reads a token after the body. -/
def afterBody (token : Token) : Build Next := do
  match token with
  | .comment text =>
    appendComment (← root) text
    done
  | .done => done
  | .finish "html" =>
    switch .afterAfterBody
    done
  | .start tag => if tag.name == "html" then startHtml tag else readAgain .inBody token
  | _ => if isSpace token then inBody token else readAgain .inBody token

/-- Reads a token after everything. -/
def afterAfterBody (token : Token) : Build Next := do
  match token with
  | .comment text =>
    appendComment 0 text
    done
  | .done => done
  | .start tag => if tag.name == "html" then startHtml tag else readAgain .inBody token
  | _ => if isSpace token then inBody token else readAgain .inBody token

/-- Reads a token in a set of frames. -/
def inFrameset (token : Token) : Build Next := do
  match token with
  | .char c =>
    if isSpace token then insertChar c
    done
  | .comment text =>
    insertComment text
    done
  | .start tag =>
    if tag.name == "html" then startHtml tag
    else if tag.name == "frameset" then
      openTag tag
      done
    else if tag.name == "frame" then
      insertEmpty tag
      done
    else if tag.name == "noframes" then startInHead tag
    else done
  | .finish "frameset" =>
    unless (← get).opened.length = 1 do
      pop
      unless ← currentIs "frameset" do switch .afterFrameset
    done
  | _ => done

/-- Reads a token after the frames. -/
def afterFrameset (token : Token) : Build Next := do
  match token with
  | .char c =>
    if isSpace token then insertChar c
    done
  | .comment text =>
    insertComment text
    done
  | .start tag =>
    if tag.name == "html" then startHtml tag
    else if tag.name == "noframes" then startInHead tag
    else done
  | .finish "html" =>
    switch .afterAfterFrameset
    done
  | _ => done

/-- Reads a token after everything in a document of frames. -/
def afterAfterFrameset (token : Token) : Build Next := do
  match token with
  | .comment text =>
    appendComment 0 text
    done
  | .start tag =>
    if tag.name == "html" then startHtml tag
    else if tag.name == "noframes" then startInHead tag
    else done
  | _ => if isSpace token then inBody token else done

/-! ## Drawings and formulas -/

/-- Reads a token by the rules of the current mode. -/
def byMode (token : Token) : Build Next := do
  match (← get).mode with
  | .initial => initial token
  | .beforeHtml => beforeHtml token
  | .beforeHead => beforeHead token
  | .inHead => inHead token
  | .afterHead => afterHead token
  | .inBody => inBody token
  | .text => inText token
  | .inTable => inTable token
  | .inTableText => inTableText token
  | .inCaption => inCaption token
  | .inColumnGroup => inColumnGroup token
  | .inTableBody => inTableBody token
  | .inRow => inRow token
  | .inCell => inCell token
  | .inSelect => inSelect token
  | .inSelectInTable => inSelectInTable token
  | .inTemplate => inTemplate token
  | .afterBody => afterBody token
  | .inFrameset => inFrameset token
  | .afterFrameset => afterFrameset token
  | .afterAfterBody => afterAfterBody token
  | .afterAfterFrameset => afterAfterFrameset token

/-- Whether a token is read by the rules of drawings and formulas. -/
def isForeign (b : Builder) (token : Token) : Bool :=
  match b.opened, token with
  | [], _ | _, .done => false
  | id :: _, _ =>
    let name := b.arena.name id
    if name.space = .html then false
    else
      match token with
      | .char _ => !(name.isMathText || name.isDrawingText)
      | .start tag =>
        !((name.isMathText && !(["mglyph", "malignmark"].contains tag.name)) ||
          name.isDrawingText ||
          (name = ⟨.math, "annotation-xml"⟩ && tag.name == "svg"))
      | _ => true

/-- Leaves a drawing or formula because of an end tag: the innermost element of that name is
closed, unless an element of HTML comes first. -/
def endForeign (name : String) : Bool → List Nat → Build Next
  | _, [] | _, [_] => done
  | first, id :: outer => do
    let other ← nameOf id
    if !first && other.space = .html then byMode (.finish name)
    else if other.name.toLower == name then
      modify fun b => { b with opened := outer }
      done
    else endForeign name false outer

/-- Reads a token in a drawing or formula. -/
def inForeign (token : Token) : Build Next := do
  let leave : Build Next := do
    popWhile fun name => !(name.space = .html || name.isMathText || name.isDrawingText)
    byMode token
  match token with
  | .char c =>
    unless isTagSpace c do forbidFrames
    insertChar (if c = '\x00' then Char.ofNat 0xFFFD else c)
    done
  | .comment text =>
    insertComment text
    done
  | .start tag =>
    let isFont := tag.name == "font" &&
      ["color", "face", "size"].any fun name => (tag.attribute? name).isSome
    if Name.breakout.contains tag.name || isFont then leave
    else
      let space := (← currentName).space
      let tag := adjustAttributes space tag
      startForeign space <|
        if space = .svg then { tag with name := properCase drawingElements tag.name } else tag
  | .finish name =>
    if ["br", "p"].contains name then leave else endForeign name true (← get).opened
  | _ => done

/-- Reads a token and, if need be, reads it again. The first argument bounds how often. Gives the
mode in which the text that follows is scanned, if that changes. -/
def readToken : Nat → Token → Build (Option TextMode)
  | 0, _ => return none
  | fuel + 1, token => do
    match ← (if isForeign (← get) token then inForeign token else byMode token) with
    | .done => return none
    | .again token => readToken fuel token
    | .scan mode => return some mode

/-- Reads a token of the text. -/
def read (token : Token) : Build (Option TextMode) := do
  let b ← get
  set { b with dropsLine := false }
  match token with
  | .doctype old =>
    if b.mode = .initial then modify fun b => { b with old, mode := .beforeHtml }
    return none
  | .char '\n' =>
    if b.dropsLine then return none else readToken (2 * b.opened.length + 64) token
  | _ => readToken (2 * b.opened.length + 64) token

/-- Reads tokens until one of them changes the scanning mode. No more tokens follow that one. -/
def readAll (mode : TextMode) : List Token → Build TextMode
  | [] => return mode
  | token :: tokens => do
    let change ← read token
    readAll (change.getD mode) tokens

/-- Builds the document of a text. The first argument bounds the number of steps. -/
def readText : Nat → TextMode → List Char → Build Unit
  | 0, _, _ => return
  | _, _, [] => discard (read .done)
  | fuel + 1, mode, text => do
    let b ← get
    let foreign := match b.opened with
      | id :: _ => (b.arena.name id).space ≠ .html
      | [] => false
    let ((tokens, rest), mode) := cut foreign mode text
    readText fuel (← readAll mode tokens) rest

end Footage.Markup.Build
