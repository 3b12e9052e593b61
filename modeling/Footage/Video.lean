import Footage.Part
import Footage.Resolution
import Footage.Url.Reader

/-!
# Videos

A video file belongs to one part of a broadcast. A pack gathers at most one file for each part,
and a source describes one version of a broadcast by its technical data and its packs.
-/

namespace Footage

/-- A video of one part of a broadcast. -/
structure VideoFile where
  part : Part
  url : Url
  deriving DecidableEq, Repr

/-- A set of video files, filed by part. -/
@[ext]
structure Pack where
  file? : Part → Option VideoFile

namespace Pack

/-- The pack without files. -/
def empty : Pack := ⟨fun _ => none⟩

/-- Whether a part is still free. -/
def accepts (pack : Pack) (part : Part) : Bool :=
  (pack.file? part).isNone

/-- The pack with a file under a part, in place of the one that may have been there. -/
def set (pack : Pack) (part : Part) (file : VideoFile) : Pack :=
  ⟨fun other => if other = part then some file else pack.file? other⟩

/-- The pack with a file under its own part, if that part is free. -/
def put? (pack : Pack) (file : VideoFile) : Option Pack :=
  if pack.accepts file.part then some (pack.set file.part file) else none

/-- The parts that have files, in broadcast order. -/
def parts (pack : Pack) : List Part :=
  Part.all.filter fun part => !pack.accepts part

/-- The files in the broadcast order of their parts. -/
def files (pack : Pack) : List VideoFile :=
  Part.all.filterMap pack.file?

/-- The number of files. -/
def size (pack : Pack) : Nat :=
  pack.files.length

/-- Whether the pack has no files. -/
def isEmpty (pack : Pack) : Bool :=
  pack.files.isEmpty

/-- Puts a file into the first pack that has its part free, or else into a new pack at the
end. -/
def insert (file : VideoFile) : List Pack → List Pack
  | [] => [empty.set file.part file]
  | pack :: packs =>
    match pack.put? file with
    | some pack => pack :: packs
    | none => pack :: insert file packs

/-- The packs of a sequence of files, put in one after the other. -/
def ofFiles (files : List VideoFile) : List Pack :=
  files.foldl (fun packs file => insert file packs) []

end Pack

/-- One version of a broadcast. -/
@[ext]
structure VideoSource where
  channel : Option String := none
  source : Option String := none
  approximateDuration : Option String := none
  languages : Option String := none
  mediaContainer : Option String := none
  videoCodec : Option String := none
  audioCodec : Option String := none
  resolution : Resolution := .standard
  audioChannels : UInt32 := 0
  videoBitrate : UInt64 := 0
  audioBitrate : UInt64 := 0
  filesize : UInt64 := 0
  framerate : UInt32 := 0
  packs : List Pack := []

namespace VideoSource

/-- The URL of the first file of the first pack that has one. -/
def firstUrl? (source : VideoSource) : Option Url :=
  (source.packs.flatMap Pack.files).head?.map VideoFile.url

/-- The ASCII letters and digits after the last point of a file name, in upper case. -/
def extension? (name : String) : Option String :=
  if '.' ∈ name.toList then
    let suffix := (name.toList.reverse.takeWhile (· ≠ '.')).reverse
    if !suffix.isEmpty && suffix.all Char.isAlphanum then
      some (String.ofList (suffix.map Char.toUpper))
    else none
  else none

/-- The container that the first video's file name states. -/
def statedContainer? (source : VideoSource) : Option String := do
  let url ← source.firstUrl?
  let segments ← url.segments?
  let name ← segments.getLast?
  extension? name

/-- The source with a missing container filled in from the file name of its first video. -/
def withContainer (source : VideoSource) : VideoSource :=
  match source.mediaContainer with
  | some _ => source
  | none => { source with mediaContainer := source.statedContainer? }

end VideoSource

end Footage
