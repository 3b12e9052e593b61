import Footage.Proofs.Acceptance
import Footage.Proofs.Forum
import Footage.Proofs.Mirror

/-!
# Defaults that warnings tell of

A default can be told from a value that a page states only if a warning says so. Of the fields of
sources, the resolution is the only one whose defaults leave warnings, and these reach the event if
it is extracted from the page of its sources. The numbers that a source takes for texts that cannot
be used are not told from those that a page states, and neither are the resolutions of sources that
complete the event of a listing.

## Main definitions

* `Sighting.Loses`: a text is captured for a number of a source and cannot be used.
* `KitSet.Shows`: the resolutions of an event come from a document, and its warnings tell of each
  default among them.
* `Harvester.Describes`: the page at an address describes an event.
* `Harvester.IsReadFrom`: an event in the snapshot of one page comes from a document.
* `Harvester.IsWanted`: the listing announces an item that is to be completed.

## Main results

* `KitSet.Mirrors.field_of_mem_warnings`: the fields that warnings are about.
* `KitSet.lost_numbers`: numbers that are lost, of which no warning tells.
* `KitSet.Mirrors.shows`: the events that are extracted show their defaults.
* `Harvester.IsWanted.shows_iff_of_describes`: a completed event shows its defaults exactly if it
  has none.
* `Harvester.shows_iff`: the events of all paths.
-/

namespace Footage

open Calendar

/-! ## The fields of warnings -/

/-- No warning about missing fields is about another field. -/
theorem Record.countP_missing? {fields : List Field} {field : Field} (h : field ∉ fields)
    (record : Record) :
    (fields.filterMap record.missing?).countP (fun warning => warning.field = field) = 0 := by
  refine List.countP_eq_zero.2 fun warning hwarning heq => ?_
  obtain ⟨other, hother, hmissing⟩ := List.mem_filterMap.1 hwarning
  have hfield : other = field := (field_of_missing? hmissing).symm.trans (of_decide_eq_true heq)
  exact h (hfield ▸ hother)

namespace KitSet

variable {kits : KitSet} {today : Day} {document : Document} {event : Event}

/-- The fields that the warnings of an extracted event are about. -/
theorem Mirrors.field_of_mem_warnings (h : kits.Mirrors document event) {warning : Warning}
    (hwarning : warning ∈ event.warnings) :
    warning.field ∈ [Field.date, .season, .fixture, .resolution] := by
  obtain ⟨found, -, hwarnings⟩ := h.warnings
  rw [hwarnings] at hwarning
  rcases List.mem_append.1 hwarning with hevent | hsource
  · obtain ⟨field, hfield, hmissing⟩ := List.mem_filterMap.1 hevent
    rw [Record.field_of_missing? hmissing]
    exact List.mem_append_left [.resolution] hfield
  · obtain ⟨sighting, -, hmissing⟩ := List.mem_filterMap.1 hsource
    rw [Record.field_of_missing? hmissing]
    simp

end KitSet

/-! ## Numbers -/

/-- The field holds a number of a source. -/
def Field.IsNumeric (field : Field) : Prop :=
  field.kind = .integer ∨ field.kind = .channels

/-- Whether a field holds a number is decidable. -/
instance (field : Field) : Decidable field.IsNumeric :=
  inferInstanceAs (Decidable (_ ∨ _))

/-- A field that takes its default has the default. -/
theorem Takes.eq_default {α : Type} {make : α → Value} {default value : α} {read : Option Value}
    (h : Takes make default read value) (hnone : read = none) : value = default := by
  cases h with
  | read => cases hnone
  | default => rfl

namespace VideoSource

/-- The number that a source holds for a field. -/
def number? (video : VideoSource) : Field → Option Nat
  | .audioChannels => some video.audioChannels.toNat
  | .videoBitrate => some video.videoBitrate.toNat
  | .audioBitrate => some video.audioBitrate.toNat
  | .filesize => some video.filesize.toNat
  | .framerate => some video.framerate.toNat
  | _ => none

/-- A source has the number zero where a record has none. -/
theorem Holds.number?_eq_zero {video : VideoSource} {record : Record} (h : video.Holds record)
    {field : Field} (hfield : field.IsNumeric) (hnone : record.value? field = none) :
    video.number? field = some 0 := by
  -- The number is the default of its field, which is zero for all five of them.
  cases field
  case audioChannels => rw [number?, h.audioChannels.eq_default hnone]; rfl
  case videoBitrate => rw [number?, h.videoBitrate.eq_default hnone]; rfl
  case audioBitrate => rw [number?, h.audioBitrate.eq_default hnone]; rfl
  case filesize => rw [number?, h.filesize.eq_default hnone]; rfl
  case framerate =>
    obtain ⟨rate, hrate, hframerate⟩ := h.framerate
    rw [number?, hframerate, hrate.eq_default hnone]
    rfl
  all_goals exact absurd hfield (by decide)

/-- A source has the frame rate zero where that of a record does not fit in 32 bits. -/
theorem Holds.framerate_eq_zero {video : VideoSource} {record : Record} (h : video.Holds record)
    {rate : UInt64} (hrate : record.value? .framerate = some (.integer rate))
    (hlarge : UInt32.size ≤ rate.toNat) : video.number? .framerate = some 0 := by
  obtain ⟨held, hheld, hframerate⟩ := h.framerate
  rw [hrate] at hheld
  cases hheld
  rw [number?, hframerate, if_neg (Nat.not_lt.2 hlarge)]

end VideoSource

/-- A text is captured for a number of a source and cannot be used: no number is read from it, or
the number is a frame rate that does not fit in 32 bits. -/
structure Sighting.Loses (sighting : Sighting) (field : Field) (raw : String) : Prop where
  isNumeric : field.IsNumeric
  captured : sighting.captured? field = some raw
  unusable : sighting.readings.value? field = none ∨ field = .framerate ∧
    ∃ rate, sighting.readings.value? .framerate = some (.integer rate) ∧ UInt32.size ≤ rate.toNat

/-- A source holds zero for a number that is lost. -/
theorem Sighting.Loses.number?_eq_zero {sighting : Sighting} {field : Field} {raw : String}
    (h : sighting.Loses field raw) {video : VideoSource} (hvideo : sighting.Describes video) :
    video.number? field = some 0 := by
  rcases h.unusable with hnone | ⟨rfl, rate, hrate, hlarge⟩
  · exact hvideo.number?_eq_zero h.isNumeric hnone
  · exact hvideo.framerate_eq_zero hrate hlarge

namespace KitSet

variable {kits : KitSet} {today : Day} {document : Document} {event : Event}

/-- No warning of an extracted event is about a number. -/
theorem Mirrors.not_isNumeric (h : kits.Mirrors document event) :
    ∀ warning ∈ event.warnings, ¬warning.field.IsNumeric := by
  intro warning hwarning
  have hall : ∀ field ∈ [Field.date, .season, .fixture, .resolution], ¬field.IsNumeric := by decide
  exact hall warning.field (h.field_of_mem_warnings hwarning)

/-- Numbers are lost without a warning. The source of a match from which a number is lost holds zero
in its place. No warning of an extracted event is about a number, so that warnings tell of all
numbers that are lost exactly if none is. -/
theorem lost_numbers {description : KitSetDescription} (hkits : compile description = .ok kits)
    (h : kits.extract today document = .ok event) :
    List.Forall₂ (fun sighting video => ∀ field raw, sighting.Loses field raw →
        video.number? field = some 0) (kits.sightings document) event.sources ∧
      (∀ warning ∈ event.warnings, ¬warning.field.IsNumeric) ∧
      ((∀ sighting ∈ kits.sightings document, ∀ field raw, sighting.Loses field raw →
          ⟨field, some raw⟩ ∈ event.warnings) ↔
        ∀ sighting ∈ kits.sightings document, ∀ field raw, ¬sighting.Loses field raw) := by
  have hmirrors := (isCompiled_of_compile hkits).bindsOnce.mirrors h
  refine ⟨hmirrors.sources.imp fun sighting video hvideo field raw hloses => ?_,
    hmirrors.not_isNumeric, fun hwarned sighting hsighting field raw hloses => ?_,
    fun hnone sighting hsighting field raw hloses => ?_⟩
  · exact hloses.number?_eq_zero hvideo
  · have hwarning := hwarned sighting hsighting field raw hloses
    exact hmirrors.not_isNumeric _ hwarning hloses.isNumeric
  · exact absurd hloses (hnone sighting hsighting field raw)

/-- Not all numbers that are lost from the page with two channels leave warnings. -/
theorem rates_lost : ∃ kits today event, compile ratesDescription = .ok kits ∧
    kits.extract today ratesPage = .ok event ∧
    ¬∀ sighting ∈ kits.sightings ratesPage, ∀ field raw, sighting.Loses field raw →
      ⟨field, some raw⟩ ∈ event.warnings := by
  obtain ⟨kits, today, event, second, hkits, hevent, -, -, hmem, hcaptured, hnone, -⟩ :=
    exists_extract_rates
  obtain ⟨-, -, hiff⟩ := lost_numbers hkits hevent
  refine ⟨kits, today, event, hkits, hevent, fun hwarned => ?_⟩
  exact hiff.1 hwarned second hmem .videoBitrate "high" ⟨.inl rfl, hcaptured, .inl hnone⟩

/-- The bit rate of the second channel cannot be read, and its frame rate does not fit in 32 bits.
Its source holds zero for both, but there are no warnings about them. -/
theorem rates_unwarned : ∃ kits today event second, compile ratesDescription = .ok kits ∧
    kits.extract today ratesPage = .ok event ∧ second ∈ kits.sightings ratesPage ∧
    second.Loses .videoBitrate "high" ∧ second.Loses .framerate "4294967296" ∧
    event.sources.map (·.number? .videoBitrate) = [some 8000, some 0] ∧
    event.sources.map (·.number? .framerate) = [some 50, some 0] ∧
    ⟨.videoBitrate, some "high"⟩ ∉ event.warnings ∧
    ⟨.framerate, some "4294967296"⟩ ∉ event.warnings := by
  obtain ⟨kits, today, event, second, hkits, hevent, hsources, hwarnings, hmem, hrate, hnone,
    hframerate, hvalue⟩ := exists_extract_rates
  have hrates : event.sources.map (·.number? .videoBitrate) =
      (ratesSources event).map fun rates => some rates.2.1.toNat := by
    simp [ratesSources, VideoSource.number?]
  have hframerates : event.sources.map (·.number? .framerate) =
      (ratesSources event).map fun rates => some rates.2.2.toNat := by
    simp [ratesSources, VideoSource.number?]
  rw [hsources] at hrates hframerates
  have hlarge : UInt32.size ≤ (4294967296 : UInt64).toNat := by decide
  refine ⟨kits, today, event, second, hkits, hevent, hmem, ⟨.inl rfl, hrate, .inl hnone⟩,
    ⟨.inl rfl, hframerate, .inr ⟨rfl, _, hvalue, hlarge⟩⟩, hrates, hframerates, ?_, ?_⟩
  · simp [hwarnings]
  · simp [hwarnings]

end KitSet

/-! ## Resolutions -/

/-- The number of warnings about a field. -/
def Event.warningCount (event : Event) (field : Field) : Nat :=
  event.warnings.countP fun warning => warning.field = field

/-- An event that is made of a record has no warning about a resolution. -/
theorem Event.warningCount_of_ofRecord {today : Day} {record : Record} {event : Event}
    (h : ofRecord today record = .ok event) : event.warningCount .resolution = 0 := by
  rw [warningCount, (holds_of_ofRecord h).warnings, ← Record.filterMap_missing?]
  exact Record.countP_missing? (by decide) record

/-- Filling in the container of a source does not change its resolution. -/
theorem VideoSource.resolution_withContainer (video : VideoSource) :
    video.withContainer.resolution = video.resolution := by
  rw [withContainer]
  split <;> rfl

/-- A sighting leaves a resolution open exactly if there is a warning about it. -/
theorem Sighting.countP_warnings (sightings : List Sighting) :
    (warnings sightings).countP (fun warning => warning.field = .resolution) =
      sightings.countP fun sighting => (sighting.readings.value? .resolution).isNone := by
  rw [warnings, List.countP_filterMap]
  refine List.countP_congr fun sighting _ => ?_
  rw [Record.missing?]
  cases sighting.readings.value? .resolution <;> simp

namespace KitSet

variable {kits : KitSet} {today : Day} {document : Document} {event : Event}

/-- The number of sightings in a document that leave the resolution open. -/
def defaultCount (kits : KitSet) (document : Document) : Nat :=
  (kits.sightings document).countP fun sighting =>
    (sighting.readings.value? .resolution).isNone

/-- The sources of an event stand for the sightings in a document, one by one. Each has the
resolution that its sighting states, or the default. -/
def Supplies (kits : KitSet) (document : Document) (event : Event) : Prop :=
  List.Forall₂ (fun sighting (video : VideoSource) =>
    Takes .resolution .standard (sighting.readings.value? .resolution) video.resolution)
    (kits.sightings document) event.sources

/-- The sources of an event stand for the sightings in a document, and there are as many warnings
about resolutions as sources whose resolution is the default. -/
structure Shows (kits : KitSet) (document : Document) (event : Event) : Prop where
  supplies : kits.Supplies document event
  count : event.warningCount .resolution = kits.defaultCount document

/-- An event that mirrors a document shows its defaults. -/
theorem Mirrors.shows (h : kits.Mirrors document event) : kits.Shows document event where
  supplies := h.sources.imp fun _ _ hvideo => hvideo.resolution
  count := by
    obtain ⟨found, -, hwarnings⟩ := h.warnings
    have hevent : ([Field.date, .season, .fixture].filterMap
        (kits.event.kit.readings found).missing?).countP
          (fun warning => warning.field = .resolution) = 0 :=
      Record.countP_missing? (by decide) _
    rw [Event.warningCount, hwarnings, List.countP_append, hevent, Sighting.countP_warnings,
      Nat.zero_add, defaultCount]

/-- An event that a compiled kit set extracts shows its defaults. -/
theorem IsCompiled.shows (hkits : kits.IsCompiled) (h : kits.extract today document = .ok event) :
    kits.Shows document event :=
  (hkits.bindsOnce.mirrors h).shows

/-- Filling in containers does not change the resolutions of the sources. -/
theorem Supplies.withContainers (h : kits.Supplies document event) :
    kits.Supplies document event.withContainers := by
  refine List.forall₂_map_right_iff.2 (h.imp fun sighting video hvideo => ?_)
  rw [VideoSource.resolution_withContainer]
  exact hvideo

end KitSet

/-! ## Harvests -/

/-- The event of an item of a listing is made of a record. -/
theorem ListKit.exists_ofRecord {kit : ListKit} {today : Day} {page : Url} {text : String}
    {items : List ListItem} (h : kit.items today page text = .ok items) {item : ListItem}
    (hitem : item ∈ items) : ∃ record, Event.ofRecord today record = .ok item.event := by
  rw [ListKit.items] at h
  obtain ⟨found, hfound, heq⟩ := Except.bind_eq_ok_iff.1 h
  cases heq
  have hmem : some item ∈ found := by simpa using hitem
  obtain ⟨link, -, hlink⟩ := Except.exists_mem_of_mapM_eq_ok hfound hmem
  rw [item?] at hlink
  split at hlink
  next record _ _ _ =>
    obtain ⟨event, hevent, heq⟩ := Except.map_eq_ok_iff.1 hlink
    cases heq
    exact ⟨record, hevent⟩
  · cases hlink

namespace Harvester

variable (harvester : Harvester)

/-- The page at an address is the document in which a kit set of the source finds an event. -/
structure Describes (url : Url) (kits : KitSet) (document : Document) (details : Event) :
    Prop where
  mem : kits ∈ harvester.source.kits
  page : ∃ body, harvester.fetcher url = .ok body ∧ document = .ofText body
  details : kits.extract harvester.today document = .ok details

/-- A page of the listing announces the item, which is to be completed. -/
def IsWanted (item : ListItem) : Prop :=
  ∃ kit listing, harvester.source.list = some kit ∧ harvester.Lists kit listing ∧
    item ∈ harvester.awaited listing.items

variable {harvester}

/-- The event of an item of the listing is made of a record. -/
theorem IsWanted.exists_ofRecord {item : ListItem} (h : harvester.IsWanted item) :
    ∃ record, Event.ofRecord harvester.today record = .ok item.event := by
  obtain ⟨kit, listing, -, hlists, hitem⟩ := h
  obtain ⟨body, -, hread⟩ := hlists.items
  exact ListKit.exists_ofRecord hread (List.mem_of_mem_filter hitem)

/-- The event of a page is the one that the page describes. -/
theorem exists_describes_of_readEvent {url : Url} {details : Event}
    (h : (harvester.readEvent url).result = .ok details) :
    ∃ kits document, harvester.Describes url kits document details := by
  rw [result_readEvent] at h
  obtain ⟨body, hbody, hextract⟩ := Except.bind_eq_ok_iff.1 h
  obtain ⟨kits, hkits, hdetails⟩ := KitSet.exists_extract_of_extractAny hextract
  exact ⟨kits, .ofText body, hkits, ⟨body, hbody, rfl⟩, hdetails⟩

/-- What a page describes shows its defaults if the kits of the source are compiled. -/
theorem Describes.shows (hsource : ∀ kits ∈ harvester.source.kits, kits.IsCompiled) {url : Url}
    {kits : KitSet} {document : Document} {details : Event}
    (h : harvester.Describes url kits document details) : kits.Shows document details :=
  (hsource kits h.mem).shows h.details

/-- An event that is completed is the one of its item, with the sources of the event that the page
of the item describes. -/
theorem exists_describes_of_completed? {item : ListItem} {event : Event}
    (h : harvester.completed? item = some event) :
    ∃ kits document details, harvester.Describes item.link kits document details ∧
      event = (item.event.addSources details.sources).withContainers := by
  obtain ⟨details, hdetails, rfl⟩ := Option.map_eq_some_iff.1 h
  rw [details?, Except.toOption_eq_some_iff, ← result_readEvent] at hdetails
  obtain ⟨kits, document, hdescribes⟩ := exists_describes_of_readEvent hdetails
  exact ⟨kits, document, details, hdescribes, rfl⟩

/-- A completed event has the sources of the page that its item links to, but none of the warnings
about them. -/
theorem IsWanted.shows_iff_of_describes (hsource : ∀ kits ∈ harvester.source.kits, kits.IsCompiled)
    {item : ListItem} (hitem : harvester.IsWanted item) {kits : KitSet} {document : Document}
    {details : Event} (h : harvester.Describes item.link kits document details) :
    kits.Supplies document (item.event.addSources details.sources).withContainers ∧
      (kits.Shows document (item.event.addSources details.sources).withContainers ↔
        kits.defaultCount document = 0) := by
  obtain ⟨record, hrecord⟩ := hitem.exists_ofRecord
  have hnone := (Event.holds_of_ofRecord hrecord).sources
  have hsupplies : kits.Supplies document (item.event.addSources details.sources) := by
    rw [KitSet.Supplies, Event.addSources, hnone, List.nil_append]
    exact (h.shows hsource).supplies
  -- The warnings are those of the listing, which states no resolutions.
  have hcount :
      (item.event.addSources details.sources).withContainers.warningCount .resolution = 0 := by
    change item.event.warningCount .resolution = 0
    exact Event.warningCount_of_ofRecord hrecord
  refine ⟨hsupplies.withContainers, fun hshows => ?_, fun hzero => ⟨hsupplies.withContainers, ?_⟩⟩
  · rw [← hshows.count, hcount]
  · rw [hcount, hzero]

variable (harvester) in
/-- How an event of the snapshot of one page is read from a document with a kit set: from a post on
a page of a blog, or from the page itself if it describes an event. -/
inductive IsReadFrom (url : Url) (snapshot : Snapshot) (today : Day) (kits : KitSet) :
    Document → Event → Prop
  | post (posts : List Post) (post : Post) (event : Event)
      (hitems : snapshot.items = .documents posts) (hpost : post ∈ posts)
      (hextract : kits.extract today (.ofText post.content) = .ok event) :
      IsReadFrom url snapshot today kits (.ofText post.content) event
  | page (document : Document) (details : Event)
      (hitems : snapshot.items = .events [details.withContainers])
      (hdescribes : harvester.Describes url kits document details) :
      IsReadFrom url snapshot today kits document details.withContainers

/-- The snapshot of one page of a blog holds posts, and that of one page of a forum an event that
the page describes. -/
theorem items_of_snapshotPage {url : Url} {snapshot : Snapshot}
    (h : (harvester.snapshotPage url).result = .ok snapshot) :
    (∃ posts, snapshot.items = .documents posts) ∨
      ∃ kits document details, harvester.Describes url kits document details ∧
        snapshot.items = .events [details.withContainers] := by
  have hblog : ∀ {read}, (harvester.scanBlog read none 1 url).result = .ok snapshot →
      ∃ posts, snapshot.items = .documents posts := by
    intro read hscan
    rw [scanBlog_eq] at hscan
    obtain ⟨scan, -, rfl⟩ := Except.map_eq_ok_iff.1 hscan
    exact ⟨scan.entries, rfl⟩
  rw [snapshotPage] at h
  -- The posts of a blog come from a scan with one step, the event of a forum from the page itself.
  split at h
  · exact .inl (hblog h)
  · exact .inl (hblog h)
  · rw [Crawl.result_bind] at h
    obtain ⟨details, hdetails, heq⟩ := Except.bind_eq_ok_iff.1 h
    cases heq
    obtain ⟨kits, document, hdescribes⟩ := exists_describes_of_readEvent hdetails
    exact .inr ⟨kits, document, details, hdescribes, rfl⟩

/-- The events of the snapshot of one page are read with the kits of the source. -/
theorem exists_isReadFrom {url : Url} {snapshot : Snapshot}
    (h : (harvester.snapshotPage url).result = .ok snapshot) {today : Day} {event : Event}
    (hevent : .ok event ∈ snapshot.events today) :
    ∃ kits ∈ harvester.source.kits, ∃ document,
      harvester.IsReadFrom url snapshot today kits document event := by
  rcases items_of_snapshotPage h with
    ⟨posts, hitems⟩ | ⟨kits, document, details, hdescribes, hitems⟩
  · rw [Snapshot.events, hitems, kits_of_snapshotPage h] at hevent
    obtain ⟨post, hpost, hextract⟩ := List.mem_map.1 hevent
    obtain ⟨kits, hmem, hextract⟩ := KitSet.exists_extract_of_extractAny hextract
    exact ⟨kits, hmem, _, .post posts post event hitems hpost hextract⟩
  · rw [Snapshot.events, hitems] at hevent
    obtain rfl : event = details.withContainers := by simpa using hevent
    exact ⟨kits, hdescribes.mem, document, .page document details hitems hdescribes⟩

/-- An event that is read from a document shows its defaults. -/
theorem IsReadFrom.shows (hsource : ∀ kits ∈ harvester.source.kits, kits.IsCompiled) {url : Url}
    {snapshot : Snapshot} {today : Day} {kits : KitSet} (hkits : kits ∈ harvester.source.kits)
    {document : Document} {event : Event}
    (h : harvester.IsReadFrom url snapshot today kits document event) :
    kits.Shows document event := by
  cases h with
  | post posts post event hitems hpost hextract =>
    exact (hsource kits hkits).shows hextract
  | page document details hitems hdescribes =>
    have hshows := hdescribes.shows hsource
    exact ⟨hshows.supplies.withContainers, hshows.count⟩

/-- Each event of the harvest of a forum is that of an item of the listing, with the sources of the
event that the page of the item describes. -/
theorem MayHarvest.exists_describes (hfeed : harvester.source.feed = .forum) {request : Request}
    {crawl : Crawl Snapshot} {snapshot : Snapshot} (hrun : harvester.MayHarvest request crawl)
    (hsnapshot : crawl.result = .ok snapshot) {today : Day} {event : Event}
    (hevent : .ok event ∈ snapshot.events today) :
    ∃ item kits document details, harvester.IsWanted item ∧
      harvester.Describes item.link kits document details ∧
      event = (item.event.addSources details.sources).withContainers := by
  obtain ⟨kit, hlist, scan, hscan, rfl⟩ := hrun.exists_mayScanForum hfeed hsnapshot
  obtain ⟨found, hfound, rfl⟩ := Except.map_eq_ok_iff.1 hsnapshot
  obtain ⟨listings, hlists, -, hentries, -⟩ := exists_listings hscan hfound
  have hentry : event ∈ found.entries := by
    simpa [Snapshot.events, ofEvents] using hevent
  rw [hentries] at hentry
  obtain ⟨listing, hlisting, hcompleted⟩ := List.mem_flatMap.1 hentry
  obtain ⟨item, hitem, hevent⟩ := List.mem_filterMap.1 hcompleted
  obtain ⟨kits, document, details, hdescribes, heq⟩ := exists_describes_of_completed? hevent
  exact ⟨item, kits, document, details, ⟨kit, listing, hlist, hlists listing hlisting, hitem⟩,
    hdescribes, heq⟩

/-- The defaults among the resolutions of events are visible, except in events of listings. An event
that is extracted, from whatever document, has one warning for each source whose resolution is the
default, and so do the events of the harvest of one page. An event in the harvest of a forum has the
sources of the page that completes it without the warnings about them, so that its defaults are
visible only if there are none. -/
theorem shows_iff (hsource : ∀ kits ∈ harvester.source.kits, kits.IsCompiled) :
    (∀ kits ∈ harvester.source.kits, ∀ today document event,
      kits.extract today document = .ok event → kits.Shows document event) ∧
    (∀ url snapshot today event, (harvester.snapshotPage url).result = .ok snapshot →
      .ok event ∈ snapshot.events today →
        ∃ kits ∈ harvester.source.kits, ∃ document,
          harvester.IsReadFrom url snapshot today kits document event ∧
          kits.Shows document event) ∧
    ∀ request crawl snapshot today event, harvester.source.feed = .forum →
      harvester.MayHarvest request crawl → crawl.result = .ok snapshot →
      .ok event ∈ snapshot.events today →
        ∃ item kits document details, harvester.IsWanted item ∧
          harvester.Describes item.link kits document details ∧
          event = (item.event.addSources details.sources).withContainers ∧
          kits.Supplies document event ∧
          (kits.Shows document event ↔ kits.defaultCount document = 0) := by
  refine ⟨fun kits hkits today document event hextract => ?_,
    fun url snapshot today event hsnapshot hevent => ?_,
    fun request crawl snapshot today event hfeed hrun hsnapshot hevent => ?_⟩
  · exact (hsource kits hkits).shows hextract
  · obtain ⟨kits, hkits, document, hread⟩ := exists_isReadFrom hsnapshot hevent
    exact ⟨kits, hkits, document, hread, hread.shows hsource hkits⟩
  · -- The warnings of the page that completes an event stay behind on it.
    obtain ⟨item, kits, document, details, hitem, hdescribes, rfl⟩ :=
      hrun.exists_describes hfeed hsnapshot hevent
    obtain ⟨hsupplies, hiff⟩ := hitem.shows_iff_of_describes hsource hdescribes
    exact ⟨item, kits, document, details, hitem, hdescribes, rfl, hsupplies, hiff⟩

/-- A forum that lists cup matches, whose pages name the channels. -/
def channelsDescription : SourceDescription :=
  { cupDescription with kits := [KitSet.halvesDescription] }

/-- The page of a match that was shown on one channel. It does not say in which resolution. -/
def channelText : String :=
  "<p>A v B</p><p>Channel: X</p><a href=https://v/1>1</a>"

/-- The harvest of a forum with one match, which was shown on one channel. -/
def ofChannelSite (source : DataSource) : Harvester :=
  { ofCupSite source with
    fetcher := fun url =>
      match url.pageNumber? with
      | some 1 => .ok "<a href=b>A v B Cup 01/08/2024</a>"
      | some _ => .ok ""
      | none => .ok channelText }

set_option maxRecDepth 100000 in
/-- The harvest returns the match with its one source, and without a warning about a resolution. -/
theorem exists_harvest_channel : ∃ source link kits details snapshot today event,
    DataSource.compile channelsDescription = .ok source ∧ source.feed = .forum ∧
    (ofChannelSite source).Describes link kits (.ofText channelText) details ∧
    ((ofChannelSite source).snapshot {}).result = .ok snapshot ∧
    .ok event ∈ snapshot.events today ∧ event.sources.length = 1 ∧
    event.warningCount .resolution = 0 ∧ details.warningCount .resolution = 1 ∧
    kits.defaultCount (.ofText channelText) = 1 := by
  have hsample : (DataSource.compile channelsDescription).toOption.any (fun source =>
      source.feed == .forum && (Url.read? "http://a/b").any fun link =>
        ((ofChannelSite source).fetcher link).toOption == some channelText &&
        source.kits.any fun kits => (kits.extract (ofChannelSite source).today
          (.ofText channelText)).toOption.any fun details =>
            details.warningCount .resolution == 1 &&
            kits.defaultCount (.ofText channelText) == 1 &&
            ((ofChannelSite source).snapshot {}).result.toOption.any fun snapshot =>
              (snapshot.events (ofChannelSite source).today).any fun outcome =>
                outcome.toOption.any fun event =>
                  event.sources.length == 1 && event.warningCount .resolution == 0) = true := by
    decide +kernel
  obtain ⟨source, hsource, hsample⟩ := (Option.any_eq_true _ _).1 hsample
  obtain ⟨hfeed, hsample⟩ := Bool.and_eq_true_iff.1 hsample
  obtain ⟨link, hlink, hsample⟩ := (Option.any_eq_true _ _).1 hsample
  obtain ⟨hbody, hsample⟩ := Bool.and_eq_true_iff.1 hsample
  obtain ⟨kits, hkits, hsample⟩ := List.any_eq_true.1 hsample
  obtain ⟨details, hdetails, hsample⟩ := (Option.any_eq_true _ _).1 hsample
  obtain ⟨hcounts, hsample⟩ := Bool.and_eq_true_iff.1 hsample
  obtain ⟨snapshot, hsnapshot, hsample⟩ := (Option.any_eq_true _ _).1 hsample
  obtain ⟨outcome, hmem, hsample⟩ := List.any_eq_true.1 hsample
  obtain ⟨event, hevent, hcounted⟩ := (Option.any_eq_true _ _).1 hsample
  rw [Except.toOption_eq_some_iff] at hsource hdetails hsnapshot hevent
  rw [beq_iff_eq, Except.toOption_eq_some_iff] at hbody
  simp only [Bool.and_eq_true, beq_iff_eq] at hfeed hcounts hcounted
  subst hevent
  exact ⟨source, link, kits, details, snapshot, _, event, hsource, hfeed,
    ⟨hkits, ⟨_, hbody, rfl⟩, hdetails⟩, hsnapshot, hmem, hcounted.1, hcounted.2, hcounts.1,
    hcounts.2⟩

/-- The match that the harvest returns has the one source of its page, and shows its default only if
there was none. -/
theorem channel_shows_iff : ∃ source snapshot today event,
    DataSource.compile channelsDescription = .ok source ∧
    ((ofChannelSite source).snapshot {}).result = .ok snapshot ∧
    .ok event ∈ snapshot.events today ∧
    ∃ item kits document details, (ofChannelSite source).IsWanted item ∧
      (ofChannelSite source).Describes item.link kits document details ∧
      kits.Shows document details ∧ kits.Supplies document event ∧
      (kits.Shows document event ↔ kits.defaultCount document = 0) := by
  obtain ⟨source, -, -, -, snapshot, today, event, hsource, hfeed, -, hsnapshot, hevent, -⟩ :=
    exists_harvest_channel
  obtain ⟨hextracted, -, hforum⟩ :=
    @shows_iff (ofChannelSite source) (DataSource.isCompiled_of_compile hsource)
  obtain ⟨item, kits, document, details, hitem, hdescribes, -, hsupplies, hiff⟩ :=
    hforum {} _ snapshot today event hfeed (mayHarvest_snapshot {}) hsnapshot hevent
  exact ⟨source, snapshot, today, event, hsource, hsnapshot, hevent, item, kits, document, details,
    hitem, hdescribes, hextracted kits hdescribes.mem _ document details hdescribes.details,
    hsupplies, hiff⟩

/-- The one source of the match has the default. The event of its page has a warning about it, and
the event that the harvest returns has none. -/
theorem channel_unshown : ∃ source link kits details snapshot today event,
    DataSource.compile channelsDescription = .ok source ∧
    (ofChannelSite source).Describes link kits (.ofText channelText) details ∧
    ((ofChannelSite source).snapshot {}).result = .ok snapshot ∧
    .ok event ∈ snapshot.events today ∧ event.sources.length = 1 ∧
    kits.defaultCount (.ofText channelText) = 1 ∧ details.warningCount .resolution = 1 ∧
    event.warningCount .resolution = 0 ∧ ¬kits.Shows (.ofText channelText) event := by
  obtain ⟨source, link, kits, details, snapshot, today, event, hsource, -, hdescribes, hsnapshot,
    hmem, hlength, hevent, hdetails, hdefault⟩ := exists_harvest_channel
  refine ⟨source, link, kits, details, snapshot, today, event, hsource, hdescribes, hsnapshot, hmem,
    hlength, hdefault, hdetails, hevent, fun hshows => ?_⟩
  have hcount := hshows.count
  rw [hevent, hdefault] at hcount
  cases hcount

end Harvester

end Footage
