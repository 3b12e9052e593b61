import Footage.Proofs.Fallback
import Footage.Proofs.Runs

/-!
# Harvests of accepted sources

Whatever is wrong with the rules of a data source is found when the source is loaded, by whatever
compiler of patterns. A source that is accepted has kits, all of which keep to the kinds of fields.
A harvest of it may still fail, but never for a fault of the rules, and all events that can be
extracted from what it brings in are extracted.

## Main definitions

* `DataSource.WellFormed`: what loading a source guarantees.
* `Snapshot.YieldsAll`: which events are extracted from a snapshot.

## Main results

* `DataSource.wellFormed_of_read`: every source that is accepted is well-formed.
* `KitSet.faultless_extractAny`: well-kinded kit sets, at least one, extract without fault.
* `Route.faultless_scanFrom`: a scan of pages that are read without fault has none.
* `Snapshot.yieldsAll`: from a snapshot with well-kinded kits all events are extracted that can be.
* `Harvester.accepted_faultless`: the whole harvest of an accepted source.
-/

namespace Footage

open Calendar Markup

/-! ## Extraction -/

namespace KitSet

variable {kits : KitSet} {today : Day} {document : Document}

/-- A well-kinded kit set fails only for what a page holds. -/
theorem WellKinded.faultless_extract (h : kits.WellKinded) (today : Day) (document : Document) :
    Faultless (kits.extract today document) := by
  have hextracts := h.extracts today document
  generalize kits.extract today document = outcome at hextracts
  cases hextracts with
  | unmatched => exact Faultless.error_iff.2 rfl
  | uncorrelated => exact Faultless.error_iff.2 rfl
  | found bare event => exact Faultless.ok event

/-- Well-kinded kit sets, at least one, extract without fault. -/
theorem faultless_extractAny {sets : List KitSet} (hsets : ∀ kits ∈ sets, kits.WellKinded)
    (hsome : sets ≠ []) (today : Day) (text : String) :
    Faultless (extractAny sets today text) := by
  obtain ⟨kits, hkits, heq⟩ := exists_extractAny_eq hsome today text
  rw [heq]
  exact (hsets kits hkits).faultless_extract today (.ofText text)

end KitSet

/-! ## Accepted sources -/

/-- A compiled kit for listings keeps to the kinds of fields. -/
theorem ListKit.wellKinded_of_compile {compiler : Pattern.Compiler} {links pattern : String}
    {mapping : Mapping} {kit : ListKit} (h : compileWith compiler links pattern mapping = .ok kit) :
    kit.event.kit.WellKinded := by
  unfold compileWith at h
  split at h
  · cases h
  · obtain ⟨event, hevent, rfl⟩ := Except.map_eq_ok_iff.1 h
    exact (EventKit.isCompiled_of_compile hevent).wellKinded

/-- The links of a well-kinded kit for listings are always read. -/
theorem ListKit.exists_items {kit : ListKit} (h : kit.event.kit.WellKinded) (today : Day)
    (page : Url) (text : String) : ∃ items, kit.items today page text = .ok items := by
  have hitem : ∀ link, ∃ item, kit.item? today page link = .ok item := by
    intro link
    rw [item?]
    split
    next record _ hrecord _ =>
      obtain ⟨found, -, rfl⟩ := Option.map_eq_some_iff.1 hrecord
      obtain ⟨event, hevent, -⟩ := Event.exists_ofRecord (h.record found) today
      exact ⟨_, by rw [hevent]; rfl⟩
    next => exact ⟨none, rfl⟩
  choose item hitem using hitem
  have hall : (kit.links.select (readDocument text.toList)).mapM (kit.item? today page) =
      .ok ((kit.links.select (readDocument text.toList)).map item) :=
    Except.mapM_eq_ok_map fun link _ => hitem link
  exact ⟨_, by rw [items, hall, Except.ok_bind]; rfl⟩

namespace DataSource

/-- The rules of a source can be used: there are kit sets, all kits keep to the kinds of fields, and
a forum has a kit for its listing. -/
structure WellFormed (source : DataSource) : Prop where
  nonempty : source.kits ≠ []
  kits : ∀ kits ∈ source.kits, kits.WellKinded
  list : ∀ kit, source.list = some kit → kit.event.kit.WellKinded
  forum : source.feed = .forum → ∃ kit, source.list = some kit

/-- Whatever a kit of the source makes of a match describes an event or a video source, since no
look-up meets a value of another kind. -/
structure Readable (source : DataSource) : Prop where
  event : ∀ kits ∈ source.kits, ∀ found today,
    ∃ event, Event.ofRecord today (kits.event.kit.record found) = .ok event
  sources : ∀ kits ∈ source.kits, ∀ kit ∈ kits.sources, ∀ found,
    ∃ described, VideoSource.ofRecord (kit.kit.record found) = .ok described
  list : ∀ kit, source.list = some kit → ∀ found today,
    ∃ event, Event.ofRecord today (kit.event.kit.record found) = .ok event

/-- The records of a well-formed source are readable. -/
theorem WellFormed.readable {source : DataSource} (h : source.WellFormed) : source.Readable where
  event kits hkits found today := by
    have hrecord := (h.kits kits hkits).event.record found
    obtain ⟨event, hevent, -⟩ := Event.exists_ofRecord hrecord today
    exact ⟨event, hevent⟩
  sources kits hkits kit hkit found := by
    have hrecord := ((h.kits kits hkits).sources kit hkit).record found
    obtain ⟨described, hdescribed, -⟩ := VideoSource.exists_ofRecord hrecord
    exact ⟨described, hdescribed⟩
  list kit hkit found today := by
    have hrecord := (h.list kit hkit).record found
    obtain ⟨event, hevent, -⟩ := Event.exists_ofRecord hrecord today
    exact ⟨event, hevent⟩

variable {compiler : Pattern.Compiler}

/-- Compiling a source compiles its kit sets, of which there is at least one, and its kit for
listings, which a forum must have. -/
theorem of_compile {description : SourceDescription} {source : DataSource}
    (h : compileWith compiler description = .ok source) :
    description.kits ≠ [] ∧ description.kits.mapM (KitSet.compileWith compiler) = .ok source.kits ∧
      (description.list.mapM fun list =>
        ListKit.compileWith compiler list.links list.event.pattern list.event.mapping) =
          .ok source.list ∧
      (source.feed = .forum → source.list.isSome) := by
  rw [compileWith] at h
  -- A check that fails ends the compilation, so that each of them has been passed.
  split at h
  swap
  · cases h
  rw [pure_bind] at h
  split at h
  · cases h
  next hnonempty =>
  obtain ⟨kits, hkits, h⟩ := Except.bind_eq_ok_iff.1 h
  obtain ⟨list, hlist, h⟩ := Except.bind_eq_ok_iff.1 h
  split at h
  · cases h
  next hforum =>
  obtain ⟨-, -, h⟩ := Except.bind_eq_ok_iff.1 h
  obtain ⟨-, -, h⟩ := Except.bind_eq_ok_iff.1 h
  obtain ⟨-, -, h⟩ := Except.bind_eq_ok_iff.1 h
  cases h
  refine ⟨fun hnil => hnonempty (List.isEmpty_iff.2 hnil), hkits, hlist, fun hfeed => ?_⟩
  cases list with
  | none => exact absurd ⟨hfeed, rfl⟩ hforum
  | some kit => rfl

/-- All kit sets of a compiled source are compiled. -/
theorem isCompiled_of_compile {description : SourceDescription} {source : DataSource}
    (h : compileWith compiler description = .ok source) :
    ∀ kits ∈ source.kits, kits.IsCompiled := by
  obtain ⟨-, hkits, -⟩ := of_compile h
  intro kits hmem
  obtain ⟨description, -, hcompile⟩ := Except.exists_mem_of_mapM_eq_ok hkits hmem
  exact KitSet.isCompiled_of_compile hcompile

/-- A source that is accepted is the one that its description compiles to. -/
theorem exists_compile_of_read {text : String} {source : DataSource}
    (h : readWith compiler text = .ok source) :
    ∃ description, compileWith compiler description = .ok source := by
  rw [readWith] at h
  split at h
  next description _ => exact ⟨description, h⟩
  · cases h

/-- Every source that is accepted is well-formed. -/
theorem wellFormed_of_read {text : String} {source : DataSource}
    (h : readWith compiler text = .ok source) : source.WellFormed := by
  obtain ⟨description, hcompile⟩ := exists_compile_of_read h
  obtain ⟨hnonempty, hkits, hlist, hforum⟩ := of_compile hcompile
  refine ⟨?_, ?_, ?_, fun hfeed => Option.isSome_iff_exists.1 (hforum hfeed)⟩
  · intro hnil
    rw [hnil] at hkits
    have hlength := (Except.mapM_eq_ok_iff.1 hkits).length_eq
    exact hnonempty (List.length_eq_zero_iff.1 hlength)
  · exact fun kits hkits => (isCompiled_of_compile hcompile kits hkits).wellKinded
  · intro kit hkit
    rw [hkit] at hlist
    cases hdescription : description.list with
    | none => rw [hdescription] at hlist; cases hlist
    | some listing =>
      rw [hdescription] at hlist
      obtain ⟨compiled, hcompiled, heq⟩ := Except.bind_eq_ok_iff.1 hlist
      cases heq
      exact ListKit.wellKinded_of_compile hcompiled

end DataSource

/-! ## Pages -/

/-- The first address of a request is at fault, if at all, for the base of the source. -/
theorem Request.faultless_address (request : Request) (base : Url) (kind : FeedKind) :
    Faultless (request.address base kind) := by
  rw [address]
  split_ifs
  · exact Faultless.ok _
  · exact Faultless.error_iff.2 rfl
  · exact Faultless.ok _

namespace Page

/-- A link that leads nowhere is a fault of the page. -/
theorem faultless_mapM_follow (description : String) (page : Url) (link : Option String) :
    Faultless (link.mapM (follow description page)) := by
  cases link with
  | none => exact Faultless.ok none
  | some link =>
    refine Faultless.bind ?_ fun _ _ => Faultless.ok _
    rw [follow]
    split
    · exact Faultless.ok _
    · exact Faultless.error_iff.2 rfl

/-- Whatever is wrong with a rendered page of a blog is no fault of the rules. -/
theorem faultless_ofHtml (page : Url) (text : String) : Faultless (ofHtml page text) :=
  (faultless_mapM_follow _ _ _).bind fun _ _ => Faultless.ok _

/-- Whatever is wrong with a page of a blog as JSON is no fault of the rules. -/
theorem faultless_ofJson (page : Url) (text : String) : Faultless (ofJson page text) := by
  rw [ofJson]
  split
  · exact Faultless.error_iff.2 rfl
  · exact (faultless_mapM_follow _ _ _).bind fun _ _ => Faultless.ok _

end Page

namespace Route

variable {α : Type} {route : Route α}

/-- A scan of pages that are visited without fault has none. -/
theorem MayScan.faultless {mayVisit : Url → Crawl (Page α) → Prop} {more : Nat} {url : Url}
    {crawl : Crawl (Scan α)} (h : route.MayScan mayVisit more url crawl)
    (hvisit : ∀ url visit, mayVisit url visit → Faultless visit.result) :
    Faultless crawl.result := by
  induction h with
  | failed hmay hfailure => exact Faultless.error_iff.2 (hvisit _ _ hmay _ hfailure)
  | last => exact Faultless.ok _
  | next _ _ _ _ _ ih => exact ih.map _

end Route

/-! ## Snapshots -/

namespace Snapshot

/-- The events among outcomes without faults are those of the successes, in order. -/
theorem successes_eq {outcomes : List (Except Failure Event)}
    (h : ∀ outcome ∈ outcomes, Faultless outcome) :
    successes outcomes = .ok (outcomes.filterMap Except.toOption) := by
  induction outcomes with
  | nil => rfl
  | cons outcome rest ih =>
    obtain ⟨houtcome, hrest⟩ := List.forall_mem_cons.1 h
    cases outcome with
    | ok event =>
      rw [successes, ih hrest]
      rfl
    | error failure =>
      have hfailure := Faultless.error_iff.1 houtcome
      rw [successes, hfailure, ih hrest]
      rfl

/-- The events that are extracted from a snapshot are, in the order of its items, those of the posts
from whose contents one of some kit sets extracts an event. The events among the items are extracted
as they are. -/
structure YieldsAll (snapshot : Snapshot) (sets : List KitSet) (today : Day) : Prop where
  documents : ∀ posts, snapshot.items = .documents posts →
    snapshot.extractAll today =
      .ok (posts.filterMap fun post => (KitSet.extractAny sets today post.content).toOption)
  events : ∀ events, snapshot.items = .events events → snapshot.extractAll today = .ok events

/-- All events are extracted that can be, in the order of the items, if the kits can be used. -/
theorem yieldsAll {snapshot : Snapshot} (hkits : ∀ kits ∈ snapshot.kits, kits.WellKinded)
    (hnonempty : snapshot.kits ≠ []) (today : Day) : snapshot.YieldsAll snapshot.kits today where
  documents posts hposts := by
    -- A failure that is at fault would end the extraction, and any other one drops its post.
    have hfaultless : ∀ outcome ∈ snapshot.events today, Faultless outcome := by
      rw [Snapshot.events, hposts]
      intro outcome houtcome
      obtain ⟨post, -, rfl⟩ := List.mem_map.1 houtcome
      exact KitSet.faultless_extractAny hkits hnonempty today post.content
    rw [extractAll, successes_eq hfaultless, Snapshot.events, hposts, List.filterMap_map]
    rfl
  events events hevents := by
    have hfaultless : ∀ outcome ∈ snapshot.events today, Faultless outcome := by
      rw [Snapshot.events, hevents]
      intro outcome houtcome
      obtain ⟨event, -, rfl⟩ := List.mem_map.1 houtcome
      exact Faultless.ok event
    rw [extractAll, successes_eq hfaultless, Snapshot.events, hevents, List.filterMap_map]
    exact congrArg _ List.filterMap_some

end Snapshot

/-! ## Harvests -/

namespace Harvester

variable {harvester : Harvester}

/-- The pages of a blog are scanned without fault. -/
theorem faultless_scanBlog (hfetcher : ∀ url, Faultless (harvester.fetcher url))
    {read : Url → String → Except Failure (Page Post)}
    (hread : ∀ url body, Faultless (read url body)) (threshold : Option Moment) (budget : Nat)
    (start : Url) : Faultless (harvester.scanBlog read threshold budget start).result := by
  rw [scanBlog_eq]
  refine Faultless.map _ ((Route.mayScan_visit_iff.2 rfl).faultless ?_)
  rintro url _ rfl
  rw [blogRoute, Route.result_visit_ofReader]
  exact (hfetcher url).bind fun body _ => hread url body

/-- The page of an event is read without fault. -/
theorem faultless_readEvent (hfetcher : ∀ url, Faultless (harvester.fetcher url))
    (hsource : harvester.source.WellFormed) (url : Url) :
    Faultless (harvester.readEvent url).result := by
  rw [readEvent, Crawl.result_bind]
  exact (hfetcher url).bind fun body _ =>
    KitSet.faultless_extractAny hsource.kits hsource.nonempty _ body

/-- An event that is listed is completed or left out, without fault. -/
theorem faultless_complete (hfetcher : ∀ url, Faultless (harvester.fetcher url))
    (hsource : harvester.source.WellFormed) (item : ListItem) :
    Faultless (harvester.complete item).result := by
  rw [complete, Crawl.result_bind,
    Crawl.result_attempt_of_faultless (faultless_readEvent hfetcher hsource item.link)]
  exact Faultless.ok _

/-- The pages of a forum are visited without fault, in whatever order events are completed. -/
theorem MayVisit.faultless (hfetcher : ∀ url, Faultless (harvester.fetcher url))
    (hsource : harvester.source.WellFormed) {kit : ListKit} (hkit : kit.event.kit.WellKinded)
    {url : Url} {visit : Crawl (Page Event)} (h : harvester.MayVisit kit url visit) :
    Faultless visit.result := by
  cases h with
  | failed failure hfetch => exact Faultless.error_iff.2 (hfetcher url failure hfetch)
  | read body reading hfetch hreading =>
    cases hreading with
    | failed failure hitems =>
      -- The kit is well-kinded, so that it always reads the items.
      obtain ⟨items, hok⟩ := ListKit.exists_items hkit harvester.today url body
      rw [hok] at hitems
      cases hitems
    | read items run hitems hrun =>
      refine Faultless.map _ (hrun.faultless fun crawl hcrawl => ?_)
      obtain ⟨item, -, rfl⟩ := List.mem_map.1 hcrawl
      exact faultless_complete hfetcher hsource item

/-- No run of the harvest of a well-formed source is at fault for a rule. -/
theorem MayHarvest.faultless (hfetcher : ∀ url, Faultless (harvester.fetcher url))
    (hsource : harvester.source.WellFormed) (hcheck : harvester.settings.check = .ok ())
    {request : Request} {crawl : Crawl Snapshot} (h : harvester.MayHarvest request crawl) :
    Faultless crawl.result := by
  by_cases hfeed : harvester.source.feed = .forum
  · obtain ⟨kit, hlist⟩ := hsource.forum hfeed
    obtain ⟨scan, hscan, rfl⟩ := (mayHarvest_iff_of_forum hcheck hfeed hlist).1 h
    refine Faultless.map _ (hscan.faultless fun url visit hvisit => ?_)
    exact hvisit.faultless hfetcher hsource (hsource.list kit hlist)
  · rw [h.eq_snapshot hfeed, Harvester.snapshot, hcheck, Crawl.ofExcept_ok_bind, Crawl.result_bind]
    refine (request.faultless_address _ _).bind fun start _ => ?_
    cases hkind : harvester.source.feed with
    | html => exact faultless_scanBlog hfetcher Page.faultless_ofHtml _ _ _
    | json => exact faultless_scanBlog hfetcher Page.faultless_ofJson _ _ _
    | forum => exact absurd hkind hfeed

/-- The harvest of one page of a well-formed source is at fault for no rule. -/
theorem faultless_snapshotPage (hfetcher : ∀ url, Faultless (harvester.fetcher url))
    (hsource : harvester.source.WellFormed) (url : Url) :
    Faultless (harvester.snapshotPage url).result := by
  rw [snapshotPage]
  cases harvester.source.feed with
  | html => exact faultless_scanBlog hfetcher Page.faultless_ofHtml _ _ _
  | json => exact faultless_scanBlog hfetcher Page.faultless_ofJson _ _ _
  | forum =>
    rw [Crawl.result_bind]
    exact (faultless_readEvent hfetcher hsource url).bind fun _ _ => Faultless.ok _

/-- A blog is scanned with the kits of the source. -/
theorem kits_of_scanBlog {read : Url → String → Except Failure (Page Post)}
    {threshold : Option Moment} {budget : Nat} {start : Url} {snapshot : Snapshot}
    (h : (harvester.scanBlog read threshold budget start).result = .ok snapshot) :
    snapshot.kits = harvester.source.kits := by
  rw [scanBlog_eq] at h
  obtain ⟨scan, -, rfl⟩ := Except.map_eq_ok_iff.1 h
  rfl

/-- The snapshot of a harvest has the kits of the source. -/
theorem MayHarvest.kits_eq {request : Request} {crawl : Crawl Snapshot} {snapshot : Snapshot}
    (h : harvester.MayHarvest request crawl) (hsnapshot : crawl.result = .ok snapshot) :
    snapshot.kits = harvester.source.kits := by
  by_cases hfeed : harvester.source.feed = .forum
  · obtain ⟨kit, -, scan, -, rfl⟩ := h.exists_mayScanForum hfeed hsnapshot
    obtain ⟨events, -, rfl⟩ := Except.map_eq_ok_iff.1 hsnapshot
    rfl
  · -- A blog has one run. What precedes its scan gives the first address, and no kits.
    rw [h.eq_snapshot hfeed, Harvester.snapshot, Crawl.result_bind] at hsnapshot
    obtain ⟨_, -, hsnapshot⟩ := Except.bind_eq_ok_iff.1 hsnapshot
    rw [Crawl.result_bind] at hsnapshot
    obtain ⟨start, -, hsnapshot⟩ := Except.bind_eq_ok_iff.1 hsnapshot
    cases hkind : harvester.source.feed with
    | html =>
      rw [hkind] at hsnapshot
      exact kits_of_scanBlog hsnapshot
    | json =>
      rw [hkind] at hsnapshot
      exact kits_of_scanBlog hsnapshot
    | forum => exact absurd hkind hfeed

/-- The snapshot of one page has the kits of the source. -/
theorem kits_of_snapshotPage {url : Url} {snapshot : Snapshot}
    (h : (harvester.snapshotPage url).result = .ok snapshot) :
    snapshot.kits = harvester.source.kits := by
  rw [snapshotPage] at h
  split at h
  · exact kits_of_scanBlog h
  · exact kits_of_scanBlog h
  · rw [Crawl.result_bind] at h
    obtain ⟨event, -, h⟩ := Except.bind_eq_ok_iff.1 h
    cases h
    rfl

/-- The rules of a source are at fault only when it is loaded. No run of the harvest of an accepted
source fails for a fault of the rules, unless the fetcher reports one, and exactly the events that
the kits of the source can extract from what it brings in are extracted, in order. No look-up meets
a value of another kind, and there is always a kit set to extract with. -/
theorem accepted_faultless {compiler : Pattern.Compiler} {text : String}
    (hread : DataSource.readWith compiler text = .ok harvester.source)
    (hfetcher : ∀ url, Faultless (harvester.fetcher url))
    (hscan : 1 ≤ harvester.settings.maxScanSteps) (hscrape : 1 ≤ harvester.settings.scrapeSteps)
    (hworkers : 1 ≤ harvester.settings.workers) (request : Request) (url : Url) :
    harvester.source.Readable ∧ harvester.source.kits ≠ [] ∧
      harvester.MayHarvest request (harvester.snapshot request) ∧
      ∀ crawl, harvester.MayHarvest request crawl ∨ crawl = harvester.snapshotPage url →
        Faultless crawl.result ∧
          ∀ snapshot, crawl.result = .ok snapshot →
            ∀ today, snapshot.YieldsAll harvester.source.kits today := by
  have hsource := DataSource.wellFormed_of_read hread
  have hcheck := Settings.check_eq_ok_iff.2 ⟨hscan, hscrape, hworkers⟩
  refine ⟨hsource.readable, hsource.nonempty, mayHarvest_snapshot request,
    fun crawl hcrawl => ⟨?_, fun snapshot hsnapshot => ?_⟩⟩
  · rcases hcrawl with hrun | rfl
    · exact hrun.faultless hfetcher hsource hcheck
    · exact faultless_snapshotPage hfetcher hsource url
  · -- What is extracted depends on the kits that the crawl hands on, which are those of the source.
    have hkits : snapshot.kits = harvester.source.kits := by
      rcases hcrawl with hrun | rfl
      · exact hrun.kits_eq hsnapshot
      · exact kits_of_snapshotPage hsnapshot
    rw [← hkits]
    exact Snapshot.yieldsAll (hkits ▸ hsource.kits) (hkits ▸ hsource.nonempty)

/-- A description of a blog. -/
def blogText : String :=
  "base_uri: http://a/\nfeed: blogger_html\n" ++
    "kit_sets:\n- event:\n    pattern: ([A-Z]) v ([A-Z])\n" ++
    "    fields:\n      1: home_team\n      2: away_team\n"

/-- The harvest of a blog with one page, on which the second of three posts announces no match. -/
def ofBlog (source : DataSource) : Harvester where
  source
  fetcher _ := .ok ("<div class=post-outer>A v B</div><div class=post-outer>No match</div>" ++
    "<div class=post-outer>C v D</div>")
  settings := {}
  known _ := false
  now := .startOf ⟨2024, 8, 1, by decide⟩

set_option maxRecDepth 100000 in
/-- The blog is accepted. Its harvest is at fault for no rule and brings in three posts, from the
first and the last of which the matches are extracted, in this order. -/
theorem accepted_blog : ∃ source snapshot posts first last,
    DataSource.read blogText = .ok source ∧
    ((ofBlog source).snapshot {}).result = .ok snapshot ∧
    snapshot.items = .documents posts ∧ posts.length = 3 ∧
    snapshot.extractAll (ofBlog source).today = .ok [first, last] ∧
    (first.homeTeam, first.awayTeam) = (some ⟨"A"⟩, some ⟨"B"⟩) ∧
    (last.homeTeam, last.awayTeam) = (some ⟨"C"⟩, some ⟨"D"⟩) ∧
    Faultless ((ofBlog source).snapshotPage source.base).result := by
  have hsample : (DataSource.read blogText).toOption.any (fun source =>
      ((ofBlog source).snapshot {}).result.toOption.any fun snapshot =>
        ((snapshot.events (ofBlog source).today).map fun outcome =>
          outcome.toOption.map fun event => (event.homeTeam, event.awayTeam)) ==
          [some (some ⟨"A"⟩, some ⟨"B"⟩), none, some (some ⟨"C"⟩, some ⟨"D"⟩)]) = true := by
    decide +kernel
  obtain ⟨source, hsource, hsample⟩ := Except.exists_of_any_toOption hsample
  obtain ⟨snapshot, hsnapshot, hsample⟩ := Except.exists_of_any_toOption hsample
  obtain ⟨-, -, hrun, hall⟩ := @accepted_faultless (ofBlog source) Pattern.ofText? blogText hsource
    (fun _ => Faultless.ok _) (by simp [ofBlog]) (by simp [ofBlog]) (by simp [ofBlog]) {}
    source.base
  have hyields := (hall _ (.inl hrun)).2 snapshot hsnapshot (ofBlog source).today
  have hkits : snapshot.kits = (ofBlog source).source.kits := hrun.kits_eq hsnapshot
  rw [Snapshot.events, beq_iff_eq] at hsample
  cases hitems : snapshot.items with
  | events events => simp [hitems, Except.toOption, List.map_eq_cons_iff] at hsample
  | documents posts =>
    simp only [hitems, List.map_map, hkits] at hsample
    -- Each post is told by the teams that are extracted from it, if there are any.
    obtain ⟨top, rest, rfl, htop, hsample⟩ := List.map_eq_cons_iff.1 hsample
    obtain ⟨middle, rest, rfl, hmiddle, hsample⟩ := List.map_eq_cons_iff.1 hsample
    obtain ⟨bottom, rest, rfl, hbottom, hsample⟩ := List.map_eq_cons_iff.1 hsample
    obtain rfl := List.map_eq_nil_iff.1 hsample
    obtain ⟨first, hfirst, hfirstTeams⟩ := Option.map_eq_some_iff.1 htop
    obtain ⟨last, hlast, hlastTeams⟩ := Option.map_eq_some_iff.1 hbottom
    have hnone := Option.map_eq_none_iff.1 hmiddle
    refine ⟨source, snapshot, _, first, last, hsource, hsnapshot, hitems, rfl, ?_, hfirstTeams,
      hlastTeams, (hall _ (.inr rfl)).1⟩
    rw [hyields.documents _ hitems]
    simp [hfirst, hnone, hlast]

end Harvester

end Footage
