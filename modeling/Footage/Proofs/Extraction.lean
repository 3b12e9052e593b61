import Footage.Proofs.Assembly
import Footage.Proofs.Packing

/-!
# What extraction finds

A kit set extracts an event from a document if its event kit matches the text and each of its
source kits describes as many sources as there are packs of videos. This module derives when that
is so, and what the sources are, from the packing of videos and the kinds of values.

## Main definitions

* `SourceKit.Correlates`: the pattern of a kit matches as often as videos of the kit share one part.
* `SourceKit.Finds`: what the sources are that a kit finds.
* `KitSet.Extracts`: the ways in which an extraction ends.

## Main results

* `SourceKit.exists_finds` and `SourceKit.sources_of_not_correlates`: a kit finds its sources
  exactly if it correlates.
* `KitSet.exists_foldlM_addSources` and `KitSet.foldlM_addSources_of_first_mismatch`: the kits of a
  set add their sources in order, up to the first that does not correlate.
* `KitSet.extract_iff_correlates`: when extraction succeeds, what it finds, and how it fails.
-/

namespace Footage

open Calendar Markup

namespace SourceKit

variable {kit : SourceKit} {document : Document}

/-- The matches of the kit's pattern in a document. -/
def matchesIn (kit : SourceKit) (document : Document) : List Pattern.Match :=
  kit.kit.pattern.matchesIn document.text

/-- The largest number of the kit's videos that share one part. -/
def packCount (kit : SourceKit) (document : Document) : Nat :=
  VideoFile.mostOfOnePart (kit.videos document)

/-- The pattern matches as often as videos of the kit share one part. -/
def Correlates (kit : SourceKit) (document : Document) : Prop :=
  (kit.matchesIn document).length = kit.packCount document

instance (kit : SourceKit) (document : Document) : Decidable (kit.Correlates document) :=
  inferInstanceAs (Decidable (_ = _))

/-- A source holds what a match says, and one pack. -/
def Describes (kit : SourceKit) (found : Pattern.Match × Pack) (source : VideoSource) : Prop :=
  ∃ bare warnings, VideoSource.ofRecord (kit.kit.record found.1) = .ok (bare, warnings) ∧
    source = { bare with packs := [found.2] }

/-- Some sources are those of a kit in a document, with some packs of its videos. -/
structure Finds (kit : SourceKit) (document : Document) (packs : List Pack)
    (sources : List VideoSource) : Prop where
  /-- There is a pack for each match. -/
  length : packs.length = (kit.matchesIn document).length
  /-- The sources stand in the order of the matches, each with the pack at its place. -/
  describes : List.Forall₂ kit.Describes ((kit.matchesIn document).zip packs) sources
  /-- No pack is empty. -/
  nonempty : ∀ pack ∈ packs, pack.files ≠ []
  /-- Each video stands under its own part. -/
  part : ∀ pack ∈ packs, pack.IsFiled
  /-- Each of the kit's videos stands once in the packs, and nothing else does. -/
  files : (packs.flatMap Pack.files).Perm (kit.videos document)
  /-- The video of a part in a pack is the one with the pack's number among those of this part. -/
  place : ∀ i part, Pack.fileAt? packs i part =
    ((kit.videos document).filter fun file => file.part = part)[i]?

/-- Each match of a well-kinded kit describes a source without packs. -/
theorem exists_described (hkit : kit.kit.WellKinded) (document : Document) :
    ∃ described, (kit.kit.records document.text).mapM VideoSource.ofRecord = .ok described ∧
      List.Forall₂ (fun found source => VideoSource.ofRecord (kit.kit.record found) = .ok source ∧
        source.1.packs = []) (kit.matchesIn document) described := by
  -- The steps all succeed, so that the list of their values can be written down at once.
  choose! value hvalue hpacks using fun found : Pattern.Match =>
    VideoSource.exists_ofRecord (hkit.record found)
  refine ⟨(kit.matchesIn document).map value, ?_, ?_⟩
  · rw [Except.mapM_eq_ok_iff, Kit.records, List.forall₂_map_left_iff, List.forall₂_map_right_iff]
    exact List.forall₂_same.2 fun found _ => hvalue found
  · exact List.forall₂_map_right_iff.2 (List.forall₂_same.2 fun found _ =>
      ⟨hvalue found, hpacks found⟩)

/-- Sources without packs that are given packs hold one pack each. -/
theorem describes_zipWith {found : List Pattern.Match}
    {described : List (VideoSource × List Warning)} (packs : List Pack)
    (h : List.Forall₂ (fun found source =>
      VideoSource.ofRecord (kit.kit.record found) = .ok source ∧ source.1.packs = [])
      found described) :
    List.Forall₂ kit.Describes (found.zip packs)
      ((described.map Prod.fst).zipWith
        (fun source pack => { source with packs := source.packs ++ [pack] }) packs) := by
  induction h generalizing packs with
  | nil => simp
  | cons hsource _ ih =>
    obtain ⟨hrecord, hpacks⟩ := hsource
    cases packs with
    | nil => simp
    | cons pack packs =>
      refine .cons ⟨_, _, hrecord, ?_⟩ (ih packs)
      simp [hpacks]

/-- A well-kinded kit that correlates finds its sources. -/
theorem exists_finds (hkit : kit.kit.WellKinded) (h : kit.Correlates document) :
    ∃ packs sources warnings,
      kit.sources document = .ok (sources, warnings) ∧ kit.Finds document packs sources := by
  obtain ⟨described, hdescribed, hforall⟩ := exists_described hkit document
  -- There are as many packs as videos that share a part, and one description for each match.
  have hlength : (Pack.ofFiles (kit.videos document)).length = described.length := by
    rw [Pack.length_ofFiles, ← hforall.length_eq]
    exact h.symm
  have hsources : kit.sources document = .ok
      ((described.map Prod.fst).zipWith
        (fun source pack => { source with packs := source.packs ++ [pack] })
        (Pack.ofFiles (kit.videos document)), described.flatMap Prod.snd) := by
    rw [sources, hdescribed, Except.ok_bind, VideoSource.withPacks, List.length_map,
      if_pos hlength]
    rfl
  exact ⟨_, _, _, hsources,
    { length := hlength.trans hforall.length_eq.symm
      describes := describes_zipWith _ hforall
      nonempty := Pack.files_ne_nil_of_mem_ofFiles _
      part := fun _ => Pack.isFiled_of_mem_ofFiles
      files := Pack.ofFiles_perm _
      place := Pack.fileAt?_ofFiles _ }⟩

/-- A well-kinded kit that does not correlate fails with both numbers. -/
theorem sources_of_not_correlates (hkit : kit.kit.WellKinded) (h : ¬kit.Correlates document) :
    kit.sources document =
      .error (.uncorrelated (kit.packCount document) (kit.matchesIn document).length) := by
  obtain ⟨described, hdescribed, hforall⟩ := exists_described hkit document
  have hlength : (Pack.ofFiles (kit.videos document)).length ≠ described.length := by
    rw [Pack.length_ofFiles, ← hforall.length_eq]
    exact fun heq => h heq.symm
  rw [sources, hdescribed, Except.ok_bind, VideoSource.withPacks, List.length_map, if_neg hlength,
    Except.error_bind, Pack.length_ofFiles, ← hforall.length_eq]
  rfl

end SourceKit

namespace KitSet

variable {kits : KitSet} {today : Day} {document : Document}

/-- A kit that correlates adds the sources that it finds to an event, and warnings. -/
theorem exists_addSources {kit : SourceKit} (hkit : kit.kit.WellKinded)
    (h : kit.Correlates document) (event : Event) :
    ∃ packs sources next, addSources document event kit = .ok next ∧
      kit.Finds document packs sources ∧
      next = { event with sources := event.sources ++ sources, warnings := next.warnings } := by
  obtain ⟨packs, sources, warnings, hsources, hfinds⟩ := SourceKit.exists_finds hkit h
  have hadd : addSources document event kit = .ok { event.addSources sources with
      warnings := (event.addSources sources).warnings ++ warnings } := by
    rw [addSources, hsources]
    rfl
  exact ⟨packs, sources, _, hadd, hfinds, rfl⟩

/-- Kits that all correlate add the sources that they find, in order. -/
theorem exists_foldlM_addSources {sourceKits : List SourceKit}
    (hkits : ∀ kit ∈ sourceKits, kit.kit.WellKinded)
    (h : ∀ kit ∈ sourceKits, kit.Correlates document) (event : Event) :
    ∃ found last, sourceKits.foldlM (addSources document) event = .ok last ∧
      List.Forall₂ (fun kit sources => ∃ packs, kit.Finds document packs sources) sourceKits found ∧
      last = { event with
        sources := event.sources ++ found.flatten, warnings := last.warnings } := by
  induction sourceKits generalizing event with
  | nil => exact ⟨[], event, rfl, .nil, by simp⟩
  | cons kit rest ih =>
    obtain ⟨hkit, hrest⟩ := List.forall_mem_cons.1 hkits
    obtain ⟨hcorrelates, hothers⟩ := List.forall_mem_cons.1 h
    obtain ⟨packs, sources, next, hnext, hfinds, heq⟩ := exists_addSources hkit hcorrelates event
    obtain ⟨found, last, hlast, hfound, hlasteq⟩ := ih hrest hothers next
    refine ⟨sources :: found, last, ?_, .cons ⟨packs, hfinds⟩ hfound, ?_⟩
    · rw [List.foldlM_cons, hnext, Except.ok_bind, hlast]
    · rw [hlasteq, heq]
      simp

/-- The first kit that does not correlate fails the kits with both of its numbers. -/
theorem foldlM_addSources_of_first_mismatch {before after : List SourceKit} {kit : SourceKit}
    (hkits : ∀ other ∈ before ++ kit :: after, other.kit.WellKinded)
    (hbefore : ∀ other ∈ before, other.Correlates document) (h : ¬kit.Correlates document)
    (event : Event) :
    (before ++ kit :: after).foldlM (addSources document) event =
      .error (.uncorrelated (kit.packCount document) (kit.matchesIn document).length) := by
  obtain ⟨hfirst, hrest⟩ := List.forall_mem_append.1 hkits
  obtain ⟨hkit, -⟩ := List.forall_mem_cons.1 hrest
  obtain ⟨found, next, hnext, -, -⟩ := exists_foldlM_addSources hfirst hbefore event
  rw [List.foldlM_append, hnext, Except.ok_bind, List.foldlM_cons, addSources,
    SourceKit.sources_of_not_correlates hkit h, Except.error_bind, Except.error_bind]

/-- Among kits of which not all correlate there is a first one that does not. -/
theorem exists_first_mismatch {sourceKits : List SourceKit}
    (h : ¬∀ kit ∈ sourceKits, kit.Correlates document) :
    ∃ before kit after, sourceKits = before ++ kit :: after ∧
      (∀ other ∈ before, other.Correlates document) ∧ ¬kit.Correlates document := by
  induction sourceKits with
  | nil => exact absurd (List.forall_mem_nil _) h
  | cons first rest ih =>
    by_cases hfirst : first.Correlates document
    · -- The first kit is not to blame, so another one is.
      have hrest : ¬∀ kit ∈ rest, kit.Correlates document := fun hrest =>
        h (List.forall_mem_cons.2 ⟨hfirst, hrest⟩)
      obtain ⟨before, kit, after, rfl, hbefore, hkit⟩ := ih hrest
      exact ⟨first :: before, kit, after, rfl, List.forall_mem_cons.2 ⟨hfirst, hbefore⟩, hkit⟩
    · exact ⟨[], first, rest, rfl, List.forall_mem_nil _, hfirst⟩

/-- The event of a well-kinded kit set has no sources yet, and exists exactly if the pattern for
events matches. -/
theorem exists_bareEvent (hkits : kits.WellKinded) (today : Day)
    (h : kits.event.kit.pattern.isIn document.text = true) :
    ∃ event, kits.bareEvent today document = .ok event ∧ event.sources = [] := by
  obtain ⟨found, hfound⟩ := Option.isSome_iff_exists.1 h
  rw [bareEvent, Kit.first?, hfound]
  exact Event.exists_ofRecord (hkits.event.record found) today

/-- Without a match there is no event. -/
theorem bareEvent_of_not_isIn (today : Day)
    (h : kits.event.kit.pattern.isIn document.text = false) :
    kits.bareEvent today document =
      .error (.unmatched kits.event.kit.pattern.source (excerpt document.text)) := by
  have hnone : kits.event.kit.pattern.first? document.text = none := by
    simpa [Pattern.isIn] using h
  rw [bareEvent, Kit.first?, hnone]
  rfl

/-- How an extraction ends. -/
inductive Extracts (kits : KitSet) (today : Day) (document : Document) :
    Except Failure Event → Prop
  /-- The pattern for events has no match. -/
  | unmatched (hevent : kits.event.kit.pattern.isIn document.text = false) :
      Extracts kits today document
        (.error (.unmatched kits.event.kit.pattern.source (excerpt document.text)))
  /-- A kit does not correlate, and is the first. -/
  | uncorrelated (before after : List SourceKit) (kit : SourceKit)
      (hevent : kits.event.kit.pattern.isIn document.text = true)
      (hsources : kits.sources = before ++ kit :: after)
      (hbefore : ∀ other ∈ before, other.Correlates document)
      (hkit : ¬kit.Correlates document) :
      Extracts kits today document
        (.error (.uncorrelated (kit.packCount document) (kit.matchesIn document).length))
  /-- All kits correlate. The event has the sources that they find, kit by kit. -/
  | found (bare event : Event) (found : List (List VideoSource))
      (hevent : kits.event.kit.pattern.isIn document.text = true)
      (hcorrelates : ∀ kit ∈ kits.sources, kit.Correlates document)
      (hbare : kits.bareEvent today document = .ok bare)
      (hfound : List.Forall₂ (fun kit sources => ∃ packs, kit.Finds document packs sources)
        kits.sources found)
      (heq : event = { bare with sources := found.flatten, warnings := event.warnings }) :
      Extracts kits today document (.ok event)

/-- A well-kinded kit set extracts in one of the three ways. -/
theorem WellKinded.extracts (hkits : kits.WellKinded) (today : Day) (document : Document) :
    kits.Extracts today document (kits.extract today document) := by
  cases hevent : kits.event.kit.pattern.isIn document.text with
  | false =>
    rw [extract, bareEvent_of_not_isIn today hevent, Except.error_bind]
    exact .unmatched hevent
  | true =>
    obtain ⟨bare, hbare, hnone⟩ := exists_bareEvent hkits today hevent
    rw [extract, hbare, Except.ok_bind]
    -- The values have the kinds of their fields, so that nothing but a mismatch is left to fail.
    by_cases hall : ∀ kit ∈ kits.sources, kit.Correlates document
    · obtain ⟨found, event, hfold, hfound, heq⟩ :=
        exists_foldlM_addSources hkits.sources hall bare
      rw [hfold]
      rw [hnone, List.nil_append] at heq
      exact .found bare event found hevent hall hbare hfound heq
    · obtain ⟨before, kit, after, hsources, hbefore, hkit⟩ := exists_first_mismatch hall
      have hwell := hkits.sources
      rw [hsources] at hwell ⊢
      rw [foldlM_addSources_of_first_mismatch hwell hbefore hkit]
      exact .uncorrelated before after kit hevent hsources hbefore hkit

/-- Kits for pages that name two teams and the channels on which the halves were shown. -/
def halvesDescription : KitSetDescription where
  event := ⟨"([A-Z]) v ([A-Z])", [(1, .homeTeam), (2, .awayTeam)]⟩
  sources := [⟨⟨"Channel: ([A-Z])", [(1, .channel)]⟩, "^https:", some "(first|second)"⟩]

end KitSet

end Footage
