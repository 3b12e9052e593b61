import Footage.Extraction
import Footage.Proofs.Label.Standard
import Footage.Proofs.Outcome
import Mathlib.Data.List.ReduceOption

/-!
# Labels before links

A video has the part that is found in the texts before its link. The search goes back from text to
text, but it reads each text from its start, and passes it if its first label names no part. So the
part that is found need not be the one that the last label before the link names.

## Main definitions

* `SourceKit.labels`: what the labels in a text name.
* `SourceKit.lastNamed`: the part that the last label before a link names.
* `SourceKit.ReadsFirstLabels`: which label the part of a link is taken from.

## Main results

* `SourceKit.part?_eq_firstNamed?`: the part that a text names is that of its first label.
* `SourceKit.readsFirstLabels`: the part of each link, and when the last label names it.
-/

namespace Footage

open Markup

/-- The first match in a text is the first one of all its matches. -/
theorem Pattern.head?_matchesIn (pattern : Pattern) (text : String) :
    (pattern.matchesIn text).head? = pattern.first? text := by
  rw [matchesIn, matchesFrom, first?]
  cases pattern.findFrom? text.toList.toArray 0 with
  | none => rfl
  | some found => simp

/-- No label names the part of the videos without one. -/
theorem Part.ofLabel?_ne_default (label : List Char) : Part.ofLabel? label ≠ some .default := by
  intro h
  obtain ⟨entry, hfind, hpart⟩ := Option.map_eq_some_iff.1 h
  have hnamed : ∀ entry ∈ vocabulary, entry.2 ≠ .default := by decide
  exact hnamed entry (List.mem_of_find?_eq_some hfind) hpart

/-- The texts before a node in which labels may stand, in the order of the document. -/
def Markup.Focus.textsBefore (link : Focus) : List String :=
  link.here.before.reverse.filterMap labelText?

namespace SourceKit

variable {kit : SourceKit} {link : Focus} {text : String} {texts : List String} {part : Part}

/-! ## Labels in a text -/

/-- What the labels in a text name, in their order. A label may name no part. -/
def labels (kit : SourceKit) (text : String) : List (Option Part) :=
  (kit.partLabel.matchesIn text).map fun found =>
    (found.captured? 1).bind fun label => Part.ofLabel? label.toList

/-- The parts that the labels in a text name, in their order. -/
def named (kit : SourceKit) (text : String) : List Part :=
  (kit.labels text).reduceOption

/-- The part that the first label in a text names. -/
def firstNamed? (kit : SourceKit) (text : String) : Option Part :=
  (kit.labels text).head?.join

theorem mem_named_iff : part ∈ kit.named text ↔ some part ∈ kit.labels text :=
  List.reduceOption_mem_iff

/-- The search in a text ends at its first label, whether or not this label names a part. -/
theorem part?_eq_firstNamed? : kit.part? text = kit.firstNamed? text := by
  rw [part?, firstNamed?, labels, List.head?_map, Pattern.head?_matchesIn]
  cases kit.partLabel.first? text <;> rfl

theorem ne_default_of_mem_named (h : part ∈ kit.named text) : part ≠ .default := by
  rintro rfl
  obtain ⟨found, -, hfound⟩ := List.mem_map.1 (mem_named_iff.1 h)
  obtain ⟨label, -, hlabel⟩ := Option.bind_eq_some_iff.1 hfound
  exact Part.ofLabel?_ne_default _ hlabel

theorem firstNamed?_of_named_eq_nil (h : kit.named text = []) : kit.firstNamed? text = none := by
  cases hfirst : kit.firstNamed? text with
  | none => rfl
  | some part =>
    have hmem : part ∈ kit.named text :=
      mem_named_iff.2 (List.mem_of_mem_head? (Option.join_eq_some_iff.1 hfirst))
    simp [h] at hmem

/-! ## Labels in the texts before a link -/

/-- The part that the last label in some texts names, of those that name one. -/
def lastNamed? (kit : SourceKit) (texts : List String) : Option Part :=
  (texts.flatMap kit.named).getLast?

/-- The part that is found in some texts: the last of those that their first labels name. -/
def found? (kit : SourceKit) (texts : List String) : Option Part :=
  (texts.filterMap kit.firstNamed?).getLast?

/-- The part of a link that is filed under the last label before it. -/
def lastNamed (kit : SourceKit) (link : Focus) : Part :=
  (kit.lastNamed? link.textsBefore).getD .default

/-- The last label that names a part stands in the last text that has one. -/
theorem lastNamed?_eq_some_iff :
    kit.lastNamed? texts = some part ↔ ∃ earlier text later, texts = earlier ++ text :: later ∧
      (∀ other ∈ later, kit.named other = []) ∧ (kit.named text).getLast? = some part := by
  rw [lastNamed?, List.getLast?_flatMap, List.findSome?_eq_some_iff]
  -- The search goes backwards, so that both sides of the text change places.
  constructor
  · rintro ⟨later, text, earlier, htexts, hlast, hlater⟩
    refine ⟨earlier.reverse, text, later.reverse, ?_, ?_, hlast⟩
    · rw [← List.reverse_reverse texts, htexts]
      simp
    · intro other hother
      exact List.getLast?_eq_none_iff.1 (hlater other (List.mem_reverse.1 hother))
  · rintro ⟨earlier, text, later, rfl, hlater, hlast⟩
    refine ⟨later.reverse, text, earlier.reverse, by simp, hlast, ?_⟩
    intro other hother
    exact List.getLast?_eq_none_iff.2 (hlater other (List.mem_reverse.1 hother))

/-- What is found in some texts does not depend on those after the last one with a part. -/
theorem found?_append_cons {earlier later : List String}
    (hlater : ∀ other ∈ later, kit.named other = []) :
    kit.found? (earlier ++ text :: later) = (kit.firstNamed? text).or (kit.found? earlier) := by
  have hnone : later.filterMap kit.firstNamed? = [] := by
    rw [List.filterMap_eq_nil_iff]
    exact fun other hother => firstNamed?_of_named_eq_nil (hlater other hother)
  rw [found?, found?, List.filterMap_append, List.filterMap_cons, hnone]
  cases kit.firstNamed? text <;> simp

theorem found?_eq_none_of_lastNamed? (h : kit.lastNamed? texts = none) :
    kit.found? texts = none := by
  rw [lastNamed?, List.getLast?_eq_none_iff, List.flatMap_eq_nil_iff] at h
  rw [found?, List.getLast?_eq_none_iff, List.filterMap_eq_nil_iff]
  exact fun text htext => firstNamed?_of_named_eq_nil (h text htext)

/-- Going back from node to node finds what is found in their texts. -/
theorem partOf_eq_found? : kit.partOf link = (kit.found? link.textsBefore).getD .default := by
  have hfirst : kit.part? = kit.firstNamed? := funext fun _ => part?_eq_firstNamed?
  rw [partOf, hfirst, found?, Focus.textsBefore, List.filterMap_filterMap, List.getLast?_filterMap,
    List.reverse_reverse]

/-- Which label the part of a link is taken from. -/
structure ReadsFirstLabels (kit : SourceKit) (link : Focus) : Prop where
  /-- It is the last of the parts that the first labels of the texts before the link name. -/
  partOf : kit.partOf link = (kit.found? link.textsBefore).getD .default
  /-- The last label before the link names it exactly if the first label of the same text does, or
  names nothing while the part is found in the texts before this one. -/
  eq_lastNamed_iff : kit.partOf link = kit.lastNamed link ↔
    ∀ earlier text later, link.textsBefore = earlier ++ text :: later →
      (∀ other ∈ later, kit.named other = []) → ∀ part, (kit.named text).getLast? = some part →
        kit.firstNamed? text = some part ∨
          kit.firstNamed? text = none ∧ kit.found? earlier = some part

/-- A link has the part of the last label before it exactly if this part is found. -/
theorem partOf_eq_lastNamed_iff : kit.partOf link = kit.lastNamed link ↔
    ∀ part, kit.lastNamed? link.textsBefore = some part →
      kit.found? link.textsBefore = some part := by
  rw [partOf_eq_found?, lastNamed]
  cases hlast : kit.lastNamed? link.textsBefore with
  | none => simp [found?_eq_none_of_lastNamed? hlast]
  | some last =>
    -- No label names the default part, so that this part is not found by default.
    obtain ⟨-, text, -, -, -, hmem⟩ := lastNamed?_eq_some_iff.1 hlast
    have hdefault : last ≠ .default := ne_default_of_mem_named (List.mem_of_getLast? hmem)
    cases kit.found? link.textsBefore with
    | none => simp [Ne.symm hdefault]
    | some part => simp

/-- Each text before a link is read up to its first label only. -/
theorem readsFirstLabels (kit : SourceKit) (link : Focus) : kit.ReadsFirstLabels link where
  partOf := partOf_eq_found?
  eq_lastNamed_iff := by
    rw [partOf_eq_lastNamed_iff]
    constructor
    · intro h earlier text later htexts hlater part hpart
      have hfound := h part (lastNamed?_eq_some_iff.2 ⟨earlier, text, later, htexts, hlater, hpart⟩)
      rwa [htexts, found?_append_cons hlater, Option.or_eq_some_iff] at hfound
    · intro h part hpart
      obtain ⟨earlier, text, later, htexts, hlater, hlast⟩ := lastNamed?_eq_some_iff.1 hpart
      rw [htexts, found?_append_cons hlater, Option.or_eq_some_iff]
      exact h earlier text later htexts hlater part hlast

/-- The text before the link on a page where only the second half can be watched. -/
def offlineText : String := "1st Half: offline, 2nd Half: "

/-- A page with the labels of both halves before the link to the second one. -/
def offlinePage : Document :=
  .ofText ("<p>" ++ offlineText ++ "<a href=https://v/1>x</a></p>")

/-- A kit without a pattern of its own for labels finds those of both halves. -/
theorem exists_labels_offlineText : ∃ kit,
    compile "Channel: ([A-Z])" [(1, .channel)] "^https:" none = .ok kit ∧
      kit.labels offlineText = [some .firstHalf, some .secondHalf] := by
  rw [compile_none]
  generalize hcompiled : (do
    let kit ← Kit.compile .standard .source "Channel: ([A-Z])" [(1, .channel)]
    let videoUrl ← pattern Pattern.ofText? "^https:"
    return ({ kit, videoUrl, partLabel := .standardLabel } : SourceKit)) = compiled
  have hlabels : compiled.toOption.any (fun kit =>
      kit.labels offlineText == [some .firstHalf, some .secondHalf]) = true := by
    rw [← hcompiled]
    decide +kernel
  obtain ⟨kit, hkit, hlabels⟩ := Except.exists_of_any_toOption hlabels
  exact ⟨kit, hkit, beq_iff_eq.1 hlabels⟩

/-- The link of the page has this text before it. -/
theorem exists_link_offlinePage :
    ∃ link ∈ offlinePage.links, link.textsBefore = [offlineText] := by
  have hlink : (offlinePage.links.any fun link => link.textsBefore == [offlineText]) = true := by
    decide +kernel
  simpa using hlink

/-- The video of the second half stands under the first half. -/
theorem offline_partOf_ne_lastNamed : ∃ kit,
    compile "Channel: ([A-Z])" [(1, .channel)] "^https:" none = .ok kit ∧
      ∃ link ∈ offlinePage.links, link.textsBefore = [offlineText] ∧
        kit.labels offlineText = [some .firstHalf, some .secondHalf] ∧
        kit.partOf link = .firstHalf ∧ kit.lastNamed link = .secondHalf := by
  obtain ⟨kit, hkit, hlabels⟩ := exists_labels_offlineText
  obtain ⟨link, hlink, htexts⟩ := exists_link_offlinePage
  refine ⟨kit, hkit, link, hlink, htexts, hlabels, ?_, ?_⟩
  · simp [partOf_eq_found?, found?, htexts, firstNamed?, hlabels]
  · simp [lastNamed, lastNamed?, htexts, named, hlabels, List.reduceOption]

end SourceKit

end Footage
