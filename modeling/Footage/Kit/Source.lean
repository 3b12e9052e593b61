import Footage.Kit.Basic
import Footage.Part

/-!
# Kits for events and their sources

A kit set describes the pages of one layout: a kit for the event, and for each kind of video
source a kit that also recognises the links to its videos and the labels of their parts.
-/

namespace Footage

/-- A kit for the events of pages. -/
structure EventKit where
  kit : Kit

namespace EventKit

/-- Compiles a kit with the standard parsers, with any compiler for its pattern. -/
def compileWith (compiler : Pattern.Compiler) (pattern : String) (mapping : Mapping) :
    Except Failure EventKit :=
  (Kit.compileWith compiler .standard .event pattern mapping).map EventKit.mk

/-- Compiles a kit with the standard parsers. -/
def compile : String → Mapping → Except Failure EventKit :=
  compileWith Pattern.ofText?

end EventKit

/-- A kit for the video sources of pages. -/
structure SourceKit where
  kit : Kit
  /-- The pattern of links to videos. -/
  videoUrl : Pattern
  /-- The pattern of labels of parts. Its first group is the label. -/
  partLabel : Pattern

namespace SourceKit

/-- The pattern of labels of parts in kits that give none. -/
def standardPartLabel : String :=
  "(?i)\\b(pre\\w*|1st|first|2nd|second|extra[- ]?time|penalt\\w*|post\\w*|trophy)"

/-- Compiles a pattern. -/
def pattern (compiler : Pattern.Compiler) (source : String) : Except Failure Pattern :=
  match compiler source with
  | some pattern => .ok pattern
  | none => .error .badPattern

/-- Compiles a kit with the standard parsers, with any compiler for its patterns. -/
def compileWith (compiler : Pattern.Compiler) (source : String) (mapping : Mapping)
    (videoUrl : String) (partLabel : Option String) : Except Failure SourceKit := do
  let kit ← Kit.compileWith compiler .standard .source source mapping
  let videoUrl ← pattern compiler videoUrl
  let partLabel ← pattern compiler (partLabel.getD standardPartLabel)
  if partLabel.groupCount = 0 then
    throw (.misconfigured (.noPartGroup partLabel.source))
  return { kit, videoUrl, partLabel }

/-- Compiles a kit with the standard parsers. -/
def compile : String → Mapping → String → Option String → Except Failure SourceKit :=
  compileWith Pattern.ofText?

/-- Whether a link leads to a video. -/
def isVideoLink (kit : SourceKit) (link : String) : Bool :=
  kit.videoUrl.isIn link

/-- The part that the first label in a text names. -/
def part? (kit : SourceKit) (text : String) : Option Part := do
  let found ← kit.partLabel.first? text
  let label ← found.captured? 1
  Part.ofLabel? label.toList

end SourceKit

/-- The kits for pages of one layout. -/
structure KitSet where
  event : EventKit
  sources : List SourceKit

end Footage
