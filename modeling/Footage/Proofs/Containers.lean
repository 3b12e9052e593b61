import Footage.Event.Basic
import Footage.Proofs.Packing
import Mathlib.Data.List.Forall2

/-!
# Containers

The container of a version may be missing on a page. It is then taken from the file name of the
first video, if the name has an extension. Nothing else of the event is changed, a container that is
known is never replaced, and filling in twice is filling in once.

## Main definitions

* `VideoSource.HasFirst`: the first file of a source in the order of its packs and of the broadcast.
* `VideoSource.IsExtensionOf`, `Url.HasExtension` and `VideoSource.States`: the container that the
  name of this file states.
* `VideoSource.IsFilledAs` and `Event.FillsGaps`: what filling in changes.

## Main results

* `VideoSource.statedContainer?_eq_some_iff`: the container that is found is the one that is stated.
* `VideoSource.isFilledAs_withContainer`: one source.
* `VideoSource.withContainer_mapUrls`: only the path of the URL matters.
* `Event.withContainers_fillsGaps`: all of this together.
-/

namespace Footage

/-! ## The first file -/

namespace Pack

variable {pack : Pack} {file : VideoFile}

/-- The file of the first part of the broadcast that has one in this pack. -/
def HasFirst (pack : Pack) (file : VideoFile) : Prop :=
  ∃ before part after, Part.all = before ++ part :: after ∧
    pack.file? part = some file ∧ ∀ earlier ∈ before, pack.file? earlier = none

theorem head?_files_eq_some_iff : pack.files.head? = some file ↔ pack.HasFirst file := by
  rw [files, List.head?_filterMap, List.findSome?_eq_some_iff]
  rfl

/-- The pack with its URLs changed. -/
def mapUrls (change : Url → Url) (pack : Pack) : Pack :=
  ⟨fun part => (pack.file? part).map fun file => { file with url := change file.url }⟩

theorem files_mapUrls (change : Url → Url) (pack : Pack) :
    (pack.mapUrls change).files =
      pack.files.map fun file => { file with url := change file.url } :=
  List.map_filterMap.symm

end Pack

namespace VideoSource

variable {source : VideoSource} {file : VideoFile} {container : String}

/-- The first file of the first pack that has one. -/
def HasFirst (source : VideoSource) (file : VideoFile) : Prop :=
  ∃ before pack after, source.packs = before ++ pack :: after ∧
    pack.HasFirst file ∧ ∀ earlier ∈ before, earlier.files = []

theorem head?_files_eq_some_iff :
    (source.packs.flatMap Pack.files).head? = some file ↔ source.HasFirst file := by
  simp only [List.head?_flatMap, List.findSome?_eq_some_iff, Pack.head?_files_eq_some_iff,
    List.head?_eq_none_iff]
  rfl

end VideoSource

/-! ## Extensions -/

namespace VideoSource

variable {name container : String}

/-- What stands behind the last point of a name is not empty, consists of ASCII letters and digits,
and is the container in upper case. -/
def IsExtensionOf (container name : String) : Prop :=
  ∃ front suffix, name.toList = front ++ '.' :: suffix ∧ '.' ∉ suffix ∧ suffix ≠ [] ∧
    (∀ c ∈ suffix, c.isAlphanum = true) ∧ container = String.ofList (suffix.map Char.toUpper)

/-- What is taken from the end of a name up to a point is what stands behind its last point. -/
theorem takeWhile_behind_point {front suffix : List Char} (h : '.' ∉ suffix) :
    (((front ++ '.' :: suffix).reverse.takeWhile (· ≠ '.')).reverse) = suffix := by
  have hsuffix : ∀ c ∈ suffix.reverse, decide (c ≠ '.') = true := by
    intro c hc
    rw [decide_eq_true_eq]
    rintro rfl
    exact h (List.mem_reverse.1 hc)
  rw [List.reverse_append, List.reverse_cons, List.append_assoc,
    List.takeWhile_append_of_pos hsuffix]
  simp

theorem extension?_eq_some_iff :
    extension? name = some container ↔ IsExtensionOf container name := by
  constructor
  · intro h
    rw [extension?, Option.ite_none_right_eq_some] at h
    obtain ⟨hpoint, h⟩ := h
    -- The last point is the first one from the end.
    obtain ⟨behind, rest, hreverse, hbehind⟩ :=
      List.eq_append_cons_of_mem (List.mem_reverse.2 hpoint)
    have hname : name.toList = rest.reverse ++ '.' :: behind.reverse := by
      simpa using congrArg List.reverse hreverse
    have hsuffix : '.' ∉ behind.reverse := by simpa using hbehind
    rw [hname, takeWhile_behind_point hsuffix, Option.ite_none_right_eq_some, Bool.and_eq_true,
      List.all_eq_true, Option.some_inj] at h
    exact ⟨_, _, hname, hsuffix, by simpa using h.1.1, h.1.2, h.2.symm⟩
  · rintro ⟨front, suffix, hname, hsuffix, hne, halphanum, rfl⟩
    have hall : suffix.all Char.isAlphanum = true := List.all_eq_true.2 halphanum
    rw [extension?, hname, takeWhile_behind_point hsuffix]
    simp [hne, hall]

example : extension? "match.part1.mkv" = some "MKV" := by decide

end VideoSource

namespace Url

variable {url : Url} {container : String}

/-- The last segment of the path has an extension. -/
def HasExtension (url : Url) (container : String) : Prop :=
  ∃ segments name, url.path = .segments (segments ++ [name]) ∧
    VideoSource.IsExtensionOf container name

/-- A URL has the segments of its path, if there are any. -/
theorem segments?_eq_some_iff {segments : List String} :
    url.segments? = some segments ↔ url.path = .segments segments ∧ segments ≠ [] := by
  unfold segments?
  cases url.path with
  | bare text => simp
  | segments list =>
    cases list with
    | nil => simp +contextual [eq_comm]
    | cons name names => simp +contextual [eq_comm]

/-- The extension of the last segment of the path is the extension of the URL. -/
theorem bind_segments?_eq_some_iff :
    (url.segments?.bind fun segments => segments.getLast?.bind VideoSource.extension?) =
      some container ↔ url.HasExtension container := by
  simp only [Option.bind_eq_some_iff, List.getLast?_eq_some_iff, VideoSource.extension?_eq_some_iff,
    segments?_eq_some_iff]
  constructor
  · rintro ⟨_, ⟨hpath, -⟩, name, ⟨segments, rfl⟩, hname⟩
    exact ⟨segments, name, hpath, hname⟩
  · rintro ⟨segments, name, hpath, hname⟩
    exact ⟨_, ⟨hpath, by simp⟩, name, ⟨segments, rfl⟩, hname⟩

end Url

/-! ## Sources -/

namespace VideoSource

variable {source : VideoSource} {container : String}

/-- The extension of the first file's name is the container that a source states. -/
def States (source : VideoSource) (container : String) : Prop :=
  ∃ file, source.HasFirst file ∧ file.url.HasExtension container

theorem statedContainer?_eq_some_iff :
    source.statedContainer? = some container ↔ source.States container := by
  have hstated : source.statedContainer? = source.firstUrl?.bind fun url =>
      url.segments?.bind fun segments => segments.getLast?.bind extension? := rfl
  rw [hstated, Option.bind_eq_some_iff]
  simp only [Url.bind_segments?_eq_some_iff, firstUrl?, Option.map_eq_some_iff,
    head?_files_eq_some_iff]
  constructor
  · rintro ⟨_, ⟨file, hfirst, rfl⟩, hextension⟩
    exact ⟨file, hfirst, hextension⟩
  · rintro ⟨file, hfirst, hextension⟩
    exact ⟨_, ⟨file, hfirst, rfl⟩, hextension⟩

/-- What filling in makes of a source. -/
structure IsFilledAs (source result : VideoSource) : Prop where
  /-- A known container stays. -/
  known : ∀ container, source.mediaContainer = some container →
    result.mediaContainer = some container
  /-- A missing one becomes the one that is stated, and is still missing if none is. -/
  missing : source.mediaContainer = none → ∀ container,
    result.mediaContainer = some container ↔ source.States container
  /-- Everything else is as before. -/
  others : { result with mediaContainer := source.mediaContainer } = source

/-- A container that is known goes before the one that is stated. -/
theorem withContainer_eq (source : VideoSource) : source.withContainer =
    { source with mediaContainer := source.mediaContainer.or source.statedContainer? } := by
  cases source with
  | mk _ _ _ _ container =>
    cases container <;> rfl

theorem isFilledAs_withContainer (source : VideoSource) :
    source.IsFilledAs source.withContainer := by
  rw [withContainer_eq]
  refine ⟨fun container h => ?_, fun h container => ?_, rfl⟩
  · rw [h]
    rfl
  · rw [h]
    exact statedContainer?_eq_some_iff

/-- Filling in again finds what was found before. -/
theorem withContainer_withContainer (source : VideoSource) :
    source.withContainer.withContainer = source.withContainer := by
  have hstated : source.withContainer.statedContainer? = source.statedContainer? := by
    rw [withContainer_eq]
    rfl
  rw [withContainer_eq source.withContainer, hstated, withContainer_eq, Option.or_assoc,
    Option.or_self]

/-- The source with the URLs of its files changed. -/
def mapUrls (change : Url → Url) (source : VideoSource) : VideoSource :=
  { source with packs := source.packs.map (Pack.mapUrls change) }

theorem firstUrl?_mapUrls (change : Url → Url) (source : VideoSource) :
    (source.mapUrls change).firstUrl? = source.firstUrl?.map change := by
  -- The change leaves every file in its pack and under its part.
  have hfiles : (source.mapUrls change).packs.flatMap Pack.files =
      (source.packs.flatMap Pack.files).map fun file => { file with url := change file.url } := by
    simp only [mapUrls, List.flatMap_map, Pack.files_mapUrls, List.map_flatMap]
  rw [firstUrl?, hfiles, List.head?_map, Option.map_map, firstUrl?, Option.map_map]
  rfl

/-- Filling in reads nothing of a URL but the path. -/
theorem withContainer_mapUrls {change : Url → Url} (h : ∀ url, (change url).path = url.path)
    (source : VideoSource) :
    (source.mapUrls change).withContainer = source.withContainer.mapUrls change := by
  have hsegments : ∀ url, (change url).segments? = url.segments? := by
    intro url
    rw [Url.segments?, h, Url.segments?]
  have hstated : (source.mapUrls change).statedContainer? = source.statedContainer? := by
    simp only [statedContainer?, firstUrl?_mapUrls, Option.bind_eq_bind, Option.bind_map]
    simp only [Function.comp_def, hsegments]
  rw [withContainer_eq, hstated, withContainer_eq]
  rfl

end VideoSource

/-! ## Events -/

namespace Event

/-- The event with the URLs of its files changed. -/
def mapUrls (change : Url → Url) (event : Event) : Event :=
  { event with sources := event.sources.map (VideoSource.mapUrls change) }

/-- What filling in makes of an event. -/
structure FillsGaps (event : Event) : Prop where
  /-- The containers of the sources are filled in, one by one. -/
  sources : List.Forall₂ VideoSource.IsFilledAs event.sources event.withContainers.sources
  /-- Everything else is as before. -/
  others : { event.withContainers with sources := event.sources } = event
  /-- Filling in twice is filling in once. -/
  again : event.withContainers.withContainers = event.withContainers
  /-- Queries, fragments and everything else but the paths of the URLs do not matter. -/
  urls : ∀ change : Url → Url, (∀ url, (change url).path = url.path) →
    (event.mapUrls change).withContainers = event.withContainers.mapUrls change

theorem withContainers_fillsGaps (event : Event) : event.FillsGaps where
  sources := by
    rw [withContainers, List.forall₂_map_right_iff, List.forall₂_same]
    exact fun source _ => source.isFilledAs_withContainer
  others := rfl
  again := by
    simp only [withContainers, List.map_map, Function.comp_def,
      VideoSource.withContainer_withContainer]
  urls change h := by
    simp only [withContainers, mapUrls, List.map_map, Function.comp_def,
      VideoSource.withContainer_mapUrls h]

end Event

end Footage
