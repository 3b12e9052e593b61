import Footage.Proofs.Extraction

/-!
# The kit set that fits

The kit sets of a source are tried on a document one after the other. A set settles the search if it
extracts an event, or if it is misconfigured. The outcome is that of the first set that settles the
search, and if there is none, that of the last set. All facts about the search follow from this.

## Main definitions

* `KitSet.settles`: whether a set settles the search for an event in a document.
* `KitSet.decisive?`: the set whose outcome is that of the search.
* `KitSet.Ends`: the ways in which the search ends.

## Main results

* `KitSet.extractFirst_eq`: the outcome of the search is that of the decisive set.
* `KitSet.extractAny_eq_ok_iff`: an event is found by the first set that settles the search.
* `KitSet.extractAny_eq_iff_ends`: how the search ends, and which sets do not change its event.
-/

namespace Footage

open Calendar

namespace KitSet

variable {kits : KitSet} {sets : List KitSet} {today : Day} {document : Document} {event : Event}

/-- Whether a set settles the search for an event in a document: it extracts one, or fails for a
misconfiguration. -/
def settles (today : Day) (document : Document) (kits : KitSet) : Bool :=
  match kits.extract today document with
  | .ok _ => true
  | .error failure => failure.isConfiguration

/-- A set that extracts an event settles the search. -/
theorem settles_of_extract (h : kits.extract today document = .ok event) :
    kits.settles today document = true := by
  simp [settles, h]

/-- The search goes on after a set that fails for the document. -/
theorem settles_eq_false_iff : kits.settles today document = false ↔
    ∃ failure, kits.extract today document = .error failure ∧ failure.isConfiguration = false := by
  rw [settles]
  cases kits.extract today document <;> simp

/-- A set whose pattern for events is not in a document does not settle the search. -/
theorem settles_of_not_isIn (h : kits.event.kit.pattern.isIn document.text = false) :
    kits.settles today document = false := by
  rw [settles, extract, bareEvent_of_not_isIn today h]
  rfl

/-! ## The decisive set -/

/-- The set whose outcome is that of the search: the first that settles it, or else the last. -/
def decisive? (today : Day) (document : Document) (sets : List KitSet) : Option KitSet :=
  (sets.find? (settles today document)).or sets.getLast?

/-- A first set that settles the search is decisive. -/
theorem decisive?_cons_of_settles (h : kits.settles today document = true) :
    decisive? today document (kits :: sets) = some kits := by
  simp [decisive?, h]

/-- A first set that does not settle the search is decisive only if there is no other set. -/
theorem decisive?_cons_of_not_settles (h : kits.settles today document = false) :
    decisive? today document (kits :: sets) = (decisive? today document sets).or (some kits) := by
  rw [decisive?, decisive?, List.find?_cons_of_neg (by simp [h]), List.getLast?_cons]
  cases sets.find? (settles today document) with
  | some other => rfl
  | none => cases sets.getLast? <;> rfl

/-- A decisive set is one of the sets. -/
theorem mem_of_decisive? (h : decisive? today document sets = some kits) : kits ∈ sets := by
  rcases Option.or_eq_some_iff.1 h with hfirst | ⟨-, hlast⟩
  · exact List.mem_of_find?_eq_some hfirst
  · exact List.mem_of_getLast? hlast

/-- The outcome of the search is that of the decisive set. Without sets, the failure that counts so
far stands. -/
theorem extractFirst_eq (sets : List KitSet) (last : Option Failure) :
    extractFirst today document sets last =
      (decisive? today document sets).elim (.error (last.getD (.misconfigured .noKitSets)))
        fun kits => kits.extract today document := by
  -- Induction on the sets. The failure that counts so far is any, since it changes with each set.
  induction sets generalizing last with
  | nil => cases last <;> rfl
  | cons kits rest ih =>
    rw [extractFirst]
    cases hsettles : kits.settles today document with
    | true =>
      rw [decisive?_cons_of_settles hsettles, Option.elim_some]
      rw [settles] at hsettles
      split at hsettles
      next event hextract => rw [hextract]
      next failure hextract =>
        rw [hextract]
        exact if_pos hsettles
    | false =>
      -- The failure of this set counts until another set is tried.
      obtain ⟨failure, hextract, hdata⟩ := settles_eq_false_iff.1 hsettles
      rw [decisive?_cons_of_not_settles hsettles, hextract]
      simp only [hdata, Bool.false_eq_true, if_false]
      rw [ih]
      cases decisive? today document rest with
      | some other => rfl
      | none => exact hextract.symm

variable {text : String}

theorem extractAny_eq (sets : List KitSet) (today : Day) (text : String) :
    extractAny sets today text =
      (decisive? today (.ofText text) sets).elim (.error (.misconfigured .noKitSets))
        fun kits => kits.extract today (.ofText text) :=
  extractFirst_eq sets none

/-- The outcome of the search is that of one of the sets, if there are any. -/
theorem exists_extractAny_eq (h : sets ≠ []) (today : Day) (text : String) :
    ∃ kits ∈ sets, extractAny sets today text = kits.extract today (.ofText text) := by
  rw [extractAny_eq]
  cases hdecisive : decisive? today (.ofText text) sets with
  | some kits => exact ⟨kits, mem_of_decisive? hdecisive, rfl⟩
  | none =>
    have hlast := (Option.or_eq_none_iff.1 hdecisive).2
    exact absurd (List.getLast?_eq_none_iff.1 hlast) h

/-- An event is found exactly if the first set that settles the search extracts it. -/
theorem extractAny_eq_ok_iff : extractAny sets today text = .ok event ↔
    ∃ kits, sets.find? (settles today (.ofText text)) = some kits ∧
      kits.extract today (.ofText text) = .ok event := by
  rw [extractAny_eq, decisive?]
  cases hfind : sets.find? (settles today (.ofText text)) with
  | some kits => simp
  | none =>
    -- No set settles the search, so that the last one, if there is one, extracts no event.
    constructor
    · intro h
      cases hlast : sets.getLast? with
      | none => simp [hlast] at h
      | some last =>
        rw [hlast] at h
        have hmem := List.mem_of_getLast? hlast
        exact absurd (settles_of_extract h) (List.find?_eq_none.1 hfind last hmem)
    · rintro ⟨_, ⟨⟩, _⟩

/-- An event that is found is extracted with one of the sets. -/
theorem exists_extract_of_extractAny (h : extractAny sets today text = .ok event) :
    ∃ kits ∈ sets, kits.extract today (.ofText text) = .ok event := by
  obtain ⟨kits, hfind, hextract⟩ := extractAny_eq_ok_iff.1 h
  exact ⟨kits, List.mem_of_find?_eq_some hfind, hextract⟩

/-! ## How the search ends -/

/-- How the search for an event ends. -/
inductive Ends (today : Day) (document : Document) : List KitSet → Except Failure Event → Prop
  /-- A set settles the search, and is the first. -/
  | settled (before after : List KitSet) (kits : KitSet)
      (hbefore : ∀ other ∈ before, other.settles today document = false)
      (hkits : kits.settles today document = true) :
      Ends today document (before ++ kits :: after) (kits.extract today document)
  /-- No set settles the search, so that the last one counts. -/
  | exhausted (before : List KitSet) (last : KitSet)
      (hsets : ∀ kits ∈ before ++ [last], kits.settles today document = false) :
      Ends today document (before ++ [last]) (last.extract today document)
  /-- There are no sets. -/
  | unconfigured : Ends today document [] (.error (.misconfigured .noKitSets))

/-- The search ends in one of the three ways. -/
theorem ends_extractAny (sets : List KitSet) (today : Day) (text : String) :
    Ends today (.ofText text) sets (extractAny sets today text) := by
  rw [extractAny_eq, decisive?]
  cases hfind : sets.find? (settles today (.ofText text)) with
  | some kits =>
    obtain ⟨hkits, before, after, rfl, hbefore⟩ := List.find?_eq_some_iff_append.1 hfind
    exact .settled before after kits (by simpa using hbefore) hkits
  | none =>
    -- The last set counts, so the list is taken apart from its end.
    rcases List.eq_nil_or_concat sets with rfl | ⟨before, last, rfl⟩
    · exact .unconfigured
    · rw [List.concat_eq_append, List.getLast?_concat]
      exact .exhausted before last (by simpa using List.find?_eq_none.1 hfind)

/-- The search ends in one way only. -/
theorem Ends.extractAny_eq {outcome : Except Failure Event}
    (h : Ends today (.ofText text) sets outcome) : extractAny sets today text = outcome := by
  rw [KitSet.extractAny_eq, decisive?]
  cases h with
  | settled before after kits hbefore hkits =>
    have hfind : (before ++ kits :: after).find? (settles today (.ofText text)) = some kits :=
      List.find?_eq_some_iff_append.2 ⟨hkits, before, after, rfl, by simpa using hbefore⟩
    rw [hfind]
    rfl
  | exhausted before last hsets =>
    have hfind : (before ++ [last]).find? (settles today (.ofText text)) = none :=
      List.find?_eq_none.2 fun kits hmem => by simp [hsets kits hmem]
    rw [hfind, List.getLast?_concat]
    rfl
  | unconfigured => rfl

/-- Further sets at the end do not change an event that is found. -/
theorem extractAny_append (h : extractAny sets today text = .ok event) (more : List KitSet) :
    extractAny (sets ++ more) today text = .ok event := by
  obtain ⟨kits, hfind, hextract⟩ := extractAny_eq_ok_iff.1 h
  refine extractAny_eq_ok_iff.2 ⟨kits, ?_, hextract⟩
  rw [List.find?_append, hfind]
  rfl

/-- A set that does not settle the search does not change which event is found, wherever it
stands. -/
theorem extractAny_insert_iff {before after : List KitSet}
    (h : kits.settles today (.ofText text) = false) :
    extractAny (before ++ kits :: after) today text = .ok event ↔
      extractAny (before ++ after) today text = .ok event := by
  rw [extractAny_eq_ok_iff, extractAny_eq_ok_iff, List.find?_append, List.find?_append,
    List.find?_cons_of_neg (by simp [h])]

/-- The search has the outcome of the first set that extracts an event or is misconfigured. If all
sets fail for the document, the search has the failure of the last one, and without sets it fails
for a misconfiguration. An event that is found is still found if sets are added at the end. It makes
no difference to the event if a set is put in, wherever this is, whose pattern for events is not in
the document. -/
theorem extractAny_eq_iff_ends (sets : List KitSet) (today : Day) (text : String) :
    (∀ outcome, extractAny sets today text = outcome ↔
        Ends today (.ofText text) sets outcome) ∧
      (∀ event, extractAny sets today text = .ok event →
        ∀ more, extractAny (sets ++ more) today text = .ok event) ∧
      ∀ before after, sets = before ++ after → ∀ kits : KitSet,
        kits.event.kit.pattern.isIn (Document.ofText text).text = false →
        ∀ event, extractAny (before ++ kits :: after) today text = .ok event ↔
          extractAny sets today text = .ok event := by
  refine ⟨fun outcome => ⟨?_, Ends.extractAny_eq⟩, fun event h => extractAny_append h, ?_⟩
  · rintro rfl
    exact ends_extractAny sets today text
  · rintro before after rfl kits hkits event
    exact extractAny_insert_iff (settles_of_not_isIn hkits)

end KitSet

end Footage
