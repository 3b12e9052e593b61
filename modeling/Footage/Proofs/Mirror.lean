import Footage.Proofs.Extraction
import Footage.Proofs.Readings

/-!
# What extracted events mirror

The sources of an extracted event stand for the matches of the source kits, and its warnings for
what these matches and the one of the event kit leave open. Nothing is swapped between matches, and
no warning is lost or made up.

## Main definitions

* `Sighting` and `KitSet.sightings`: the matches of the source kits of a set in a document.
* `KitSet.Mirrors`: the sources and the warnings of an event are those of the matches.

## Main results

* `SourceKit.mirrors_of_sources`: what one kit adds mirrors its matches.
* `KitSet.mirrors_of_foldlM`: so does what all kits add, by induction on the kits.
* `KitSet.extract_mirrors`: an extracted event mirrors the matches in its document.
-/

namespace Footage

open Calendar

/-- A match of the pattern of a source kit. -/
structure Sighting where
  kit : SourceKit
  found : Pattern.Match

/-- What a sighting says about the fields of its source. -/
def Sighting.readings (sighting : Sighting) : Record :=
  sighting.kit.kit.readings sighting.found

/-- The text that a sighting captures for a field. -/
def Sighting.captured? (sighting : Sighting) (field : Field) : Option String :=
  (sighting.kit.kit.groupOf? field).bind sighting.found.captured?

/-- A source holds what a sighting says. -/
def Sighting.Describes (sighting : Sighting) (video : VideoSource) : Prop :=
  video.Holds sighting.readings

/-- The warnings about the resolutions that some sightings leave open. -/
def Sighting.warnings (sightings : List Sighting) : List Warning :=
  sightings.filterMap fun sighting => sighting.readings.missing? .resolution

/-- The sightings of a kit in a document, in the order of the text. -/
def SourceKit.sightings (kit : SourceKit) (document : Document) : List Sighting :=
  (kit.matchesIn document).map (Sighting.mk kit)

namespace KitSet

/-- The sightings of the kits of a set in a document, kit by kit. -/
def sightings (kits : KitSet) (document : Document) : List Sighting :=
  kits.sources.flatMap fun kit => kit.sightings document

/-- The sources of an event hold what the sightings say, one by one. Its warnings are those about
the date, the season and the fixture, which the match of the event kit leaves open, and those about
the resolutions that the sightings leave open. -/
structure Mirrors (kits : KitSet) (document : Document) (event : Event) : Prop where
  sources : List.Forall₂ Sighting.Describes (kits.sightings document) event.sources
  warnings : ∃ found, kits.event.kit.pattern.first? document.text = some found ∧
    event.warnings =
      [Field.date, .season, .fixture].filterMap (kits.event.kit.readings found).missing? ++
        Sighting.warnings (kits.sightings document)

end KitSet

/-- Sources are given packs only if there are as many of both. -/
theorem VideoSource.withPacks_eq_ok_iff {packs : List Pack} {sources given : List VideoSource} :
    withPacks packs sources = .ok given ↔ packs.length = sources.length ∧
      given = sources.zipWith (fun source pack => { source with packs := source.packs ++ [pack] })
        packs := by
  rw [withPacks]
  split
  next hlength => simp [hlength, eq_comm]
  next hlength => simp [hlength]

namespace SourceKit

variable {kit : SourceKit} {document : Document}

/-- What some sources hold is not changed by the packs that they are given. -/
theorem forall₂_describes_zipWith {sightings : List Sighting} {sources : List VideoSource}
    (h : List.Forall₂ Sighting.Describes sightings sources) {packs : List Pack}
    (hlength : packs.length = sources.length) :
    List.Forall₂ Sighting.Describes sightings
      (sources.zipWith (fun source pack => { source with packs := source.packs ++ [pack] })
        packs) := by
  induction h generalizing packs with
  | nil => simp
  | cons hvideo _ ih =>
    cases packs with
    | nil => cases hlength
    | cons pack packs => exact .cons (hvideo.withPacks _) (ih (Nat.succ.inj hlength))

/-- The sources that a kit finds hold what its sightings say, and the warnings are about the
resolutions that these leave open. -/
theorem mirrors_of_sources (hkit : kit.kit.BindsOnce) {sources : List VideoSource}
    {warnings : List Warning} (h : kit.sources document = .ok (sources, warnings)) :
    List.Forall₂ Sighting.Describes (kit.sightings document) sources ∧
      warnings = Sighting.warnings (kit.sightings document) := by
  rw [SourceKit.sources] at h
  obtain ⟨described, hdescribed, h⟩ := Except.bind_eq_ok_iff.1 h
  obtain ⟨given, hgiven, h⟩ := Except.bind_eq_ok_iff.1 h
  cases h
  -- Each match describes one source, with the warning about it.
  have hforall : List.Forall₂ (fun sighting (video : VideoSource × List Warning) =>
      sighting.Describes video.1 ∧
        (sighting.readings.missing? .resolution).toList = video.2)
      (kit.sightings document) described := by
    rw [Except.mapM_eq_ok_iff, Kit.records, List.forall₂_map_left_iff] at hdescribed
    rw [sightings, List.forall₂_map_left_iff]
    refine hdescribed.imp fun found video hvideo => ?_
    rw [hkit.record_eq] at hvideo
    obtain ⟨hholds, hwarnings⟩ := VideoSource.holds_of_ofRecord hvideo
    exact ⟨hholds, hwarnings.symm⟩
  obtain ⟨hlength, rfl⟩ := VideoSource.withPacks_eq_ok_iff.1 hgiven
  constructor
  · refine forall₂_describes_zipWith ?_ hlength
    rw [List.forall₂_map_right_iff]
    exact hforall.imp fun _ _ => And.left
  · have hwarnings : (kit.sightings document).map
        (fun sighting => (sighting.readings.missing? .resolution).toList) =
          described.map Prod.snd := by
      rw [← List.forall₂_eq_eq_eq, List.forall₂_map_left_iff, List.forall₂_map_right_iff]
      exact hforall.imp fun _ _ => And.right
    rw [Sighting.warnings, List.filterMap_eq_flatMap_toList, List.flatMap_def, List.flatMap_def,
      hwarnings]

end SourceKit

namespace KitSet

variable {kits : KitSet} {today : Day} {document : Document} {event : Event}

/-- All kits of the set bind each field once. -/
structure BindsOnce (kits : KitSet) : Prop where
  event : kits.event.kit.BindsOnce
  sources : ∀ kit ∈ kits.sources, kit.kit.BindsOnce

/-- A compiled kit set binds each field once. -/
theorem IsCompiled.bindsOnce (h : kits.IsCompiled) : kits.BindsOnce where
  event := h.event.bindsOnce
  sources kit hkit := (h.sources kit hkit).bindsOnce

/-- What kits add to an event, one after the other, mirrors their sightings. -/
theorem mirrors_of_foldlM {sourceKits : List SourceKit}
    (hkits : ∀ kit ∈ sourceKits, kit.kit.BindsOnce) {last : Event}
    (h : sourceKits.foldlM (addSources document) event = .ok last) :
    ∃ sources, last.sources = event.sources ++ sources ∧
      List.Forall₂ Sighting.Describes
        (sourceKits.flatMap fun kit => kit.sightings document) sources ∧
      last.warnings = event.warnings ++
        Sighting.warnings (sourceKits.flatMap fun kit => kit.sightings document) := by
  -- Each kit appends to the event, so that the later ones start from an event with more sources.
  induction sourceKits generalizing event with
  | nil =>
    cases h
    exact ⟨[], by simp, .nil, by simp [Sighting.warnings]⟩
  | cons kit rest ih =>
    obtain ⟨hkit, hrest⟩ := List.forall_mem_cons.1 hkits
    rw [List.foldlM_cons] at h
    obtain ⟨next, hnext, hlast⟩ := Except.bind_eq_ok_iff.1 h
    obtain ⟨⟨added, warnings⟩, hadded, hnext⟩ := Except.bind_eq_ok_iff.1 hnext
    cases hnext
    obtain ⟨hholds, rfl⟩ := SourceKit.mirrors_of_sources hkit hadded
    obtain ⟨sources, hsources, hforall, hwarnings⟩ := ih hrest hlast
    refine ⟨added ++ sources, ?_, ?_, ?_⟩
    · rw [hsources]
      simp [Event.addSources]
    · rw [List.flatMap_cons]
      exact List.rel_append hholds hforall
    · rw [hwarnings]
      simp [Event.addSources, Sighting.warnings]

/-- An event that is extracted mirrors the matches in its document. -/
theorem BindsOnce.mirrors (hkits : kits.BindsOnce)
    (h : kits.extract today document = .ok event) : kits.Mirrors document event := by
  obtain ⟨bare, hbare, hevent⟩ := Except.bind_eq_ok_iff.1 h
  obtain ⟨sources, hsources, hforall, hwarnings⟩ := mirrors_of_foldlM hkits.sources hevent
  -- The event is made of the first match of its kit before any source is added.
  rw [bareEvent, Kit.first?] at hbare
  cases hfound : kits.event.kit.pattern.first? document.text with
  | none =>
    rw [hfound] at hbare
    cases hbare
  | some found =>
    rw [hfound] at hbare
    have hholds := Event.holds_of_ofRecord hbare
    rw [hkits.event.record_eq] at hholds
    constructor
    · rw [hsources, hholds.sources, List.nil_append]
      exact hforall
    · exact ⟨found, hfound, by
        rw [hwarnings, hholds.warnings, ← Record.filterMap_missing?, sightings]⟩

/-- An event that a compiled kit set extracts from a document mirrors the matches in it. The source
of each match of a source kit holds what the match says, field by field, and defaults where it says
nothing. The warnings are, in order, those about the date, the season and the fixture that the match
of the event kit leaves open, and those about the resolutions that the other matches leave open,
each with the captured text that could not be read, if there is one. -/
theorem extract_mirrors {description : KitSetDescription} (hkits : compile description = .ok kits)
    (h : kits.extract today document = .ok event) : kits.Mirrors document event :=
  (isCompiled_of_compile hkits).bindsOnce.mirrors h

/-- Kits for pages that name two teams and the channels, with picture, bit rate and frame rate. -/
def ratesDescription : KitSetDescription where
  event := ⟨"([A-Z]) v ([A-Z])", [(1, .homeTeam), (2, .awayTeam)]⟩
  sources := [⟨⟨"On ([A-Z]): ([0-9a-z]+) ([0-9a-z]+) ([0-9]+)",
    [(1, .channel), (2, .resolution), (3, .videoBitrate), (4, .framerate)]⟩,
    "^https:", some "(first|second)"⟩]

/-- A page with two channels. The picture and the bit rate of the second one cannot be read, and its
frame rate does not fit in 32 bits. -/
def ratesPage : Document :=
  .ofText ("<p>A v B</p><p>On X: 720p 8000k 50</p><p>On Y: good high 4294967296</p>" ++
    "<a href=https://v/1>1</a><a href=https://v/2>2</a>")

/-- The sources of the page with two channels, as they are extracted. -/
def ratesSources (event : Event) : List (Resolution × UInt64 × UInt32) :=
  event.sources.map fun video => (video.resolution, video.videoBitrate, video.framerate)

set_option maxRecDepth 100000 in
/-- What is extracted from the page with two channels. -/
theorem exists_extract_rates : ∃ kits today event second,
    compile ratesDescription = .ok kits ∧ kits.extract today ratesPage = .ok event ∧
    ratesSources event = [(.hd, 8000, 50), (.standard, 0, 0)] ∧
    event.warnings = [⟨.date, none⟩, ⟨.season, none⟩, ⟨.fixture, none⟩,
      ⟨.resolution, some "good"⟩] ∧
    second ∈ kits.sightings ratesPage ∧ second.captured? .videoBitrate = some "high" ∧
    second.readings.value? .videoBitrate = none ∧
    second.captured? .framerate = some "4294967296" ∧
    second.readings.value? .framerate = some (.integer 4294967296) := by
  have hsample : (compile ratesDescription).toOption.any (fun kits =>
      (kits.extract ⟨2024, 8, 1, by decide⟩ ratesPage).toOption.any fun event =>
        (kits.sightings ratesPage).any fun second =>
          decide (ratesSources event = [(.hd, 8000, 50), (.standard, 0, 0)] ∧
            event.warnings = [⟨.date, none⟩, ⟨.season, none⟩, ⟨.fixture, none⟩,
              ⟨.resolution, some "good"⟩] ∧
            second.captured? .videoBitrate = some "high" ∧
            second.readings.value? .videoBitrate = none ∧
            second.captured? .framerate = some "4294967296" ∧
            second.readings.value? .framerate = some (.integer 4294967296))) = true := by
    decide +kernel
  obtain ⟨kits, hkits, hsample⟩ := (Option.any_eq_true _ _).1 hsample
  obtain ⟨event, hevent, hsample⟩ := (Option.any_eq_true _ _).1 hsample
  obtain ⟨second, hmem, hsample⟩ := List.any_eq_true.1 hsample
  rw [Except.toOption_eq_some_iff] at hkits hevent
  obtain ⟨hsources, hwarnings, hsecond⟩ := of_decide_eq_true hsample
  exact ⟨kits, _, event, second, hkits, hevent, hsources, hwarnings, hmem, hsecond⟩

/-- The second channel takes the standard resolution, of which a warning tells, and no rates. -/
theorem rates_mirrors : ∃ kits today event, compile ratesDescription = .ok kits ∧
    kits.extract today ratesPage = .ok event ∧ kits.Mirrors ratesPage event ∧
    ratesSources event = [(.hd, 8000, 50), (.standard, 0, 0)] ∧
    event.warnings = [⟨.date, none⟩, ⟨.season, none⟩, ⟨.fixture, none⟩,
      ⟨.resolution, some "good"⟩] := by
  obtain ⟨kits, today, event, -, hkits, hevent, hsources, hwarnings, -⟩ := exists_extract_rates
  exact ⟨kits, today, event, hkits, hevent, extract_mirrors hkits hevent, hsources, hwarnings⟩

end KitSet

end Footage
