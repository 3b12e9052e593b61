import Footage.Proofs.Forum

/-!
# Harvests that leave an item out

The page of an item may be gone, or may describe no event. Then the item is left out of the harvest
of its forum. What becomes of the rest depends on what the scan sees: it is handed the events that
were completed, so that a page whose events are all left out counts as empty, and the last event
that reaches back past the threshold counts no more once it is left out.

## Main definitions

* `Harvester.answering`: the harvester where one request gets another answer.
* `Harvester.Omits`: an answer that leaves out the items that link to it.
* `Harvester.Spares`: a page that is the same reason to stop without the items that link to an
  address.
* `Harvester.OnlyOmits`: a run in which only the events of these items are missing.

## Main results

* `Route.stopAt?_eq_iff_of_subset`: which of the entries of a page matter to a scan.
* `Harvester.Walks.result_eq`: the pages of a walk determine the result of every scan.
* `Harvester.Walks.compare`: two walks with different answers go through the same pages, and stop
  for the same reason only if all pages are spared.
* `Harvester.onlyOmits_iff_spares`: the harvests of a forum with and without the items.
-/

namespace Footage

open Calendar

namespace Route

variable {α : Type} {route : Route α} {mayVisit : Url → Crawl (Page α) → Prop} {more : Nat}
  {url next : Url} {page : Page α} {crawl : Crawl (Scan α)}

/-- Of the reasons to stop with a page, those that lie in its entries come first. -/
theorem stopAt?_eq_filter (more : Nat) (page : Page α) :
    route.stopAt? page.entries = (route.lastStop? more page).filter fun stop => stop.rank < 2 := by
  rw [lastStop?]
  cases hstop : route.stopAt? page.entries with
  | none =>
    -- The step limit and the end of the feed rank behind the reasons in the entries.
    by_cases hmore : more = 0
    · rw [if_pos hmore]
      rfl
    · cases page.next <;> simp [hmore, Option.filter, Stop.rank]
  | some stop =>
    rw [stopAt?] at hstop
    split at hstop
    · obtain rfl := Option.some.inj hstop
      rfl
    split at hstop
    · obtain rfl := Option.some.inj hstop
      rfl
    · cases hstop

/-- A scan treats two pages that are followed by the same one alike exactly if their entries are the
same reason to stop. -/
theorem lastStop?_eq_lastStop?_iff {entries others : List α} {next : Option Url} :
    route.lastStop? more ⟨entries, next⟩ = route.lastStop? more ⟨others, next⟩ ↔
      route.stopAt? entries = route.stopAt? others := by
  constructor
  · intro h
    exact (stopAt?_eq_filter more ⟨entries, next⟩).trans
      ((congrArg _ h).trans (stopAt?_eq_filter more ⟨others, next⟩).symm)
  · intro h
    simp only [lastStop?, h]

/-- Some of the entries of a page are the same reason to stop as all of them exactly if some are
left where there were any, and if they reach back past the threshold where all of them do. -/
theorem stopAt?_eq_iff_of_subset {left all : List α} (h : left ⊆ all) :
    route.stopAt? left = route.stopAt? all ↔
      (all ≠ [] → left ≠ []) ∧ (route.IsPast all → route.IsPast left) := by
  have hreach : route.reachesBack left = true → route.reachesBack all = true := by
    cases hthreshold : route.threshold with
    | none => simp [reachesBack, hthreshold]
    | some threshold =>
      simp only [reachesBack, hthreshold, Option.any_some, List.any_eq_true]
      rintro ⟨entry, hentry, hbefore⟩
      exact ⟨entry, h hentry, hbefore⟩
  rw [← reachesBack_iff, ← reachesBack_iff]
  -- An empty page ends the scan before the threshold is looked at.
  by_cases hall : all = []
  · obtain rfl : left = [] := List.subset_nil.1 (hall ▸ h)
    simp [hall]
  by_cases hleft : left = []
  · simp [stopAt?, hall, hleft]
  cases hback : route.reachesBack left with
  | true => simp [stopAt?, hall, hleft, hback, hreach hback]
  | false => simp [stopAt?, hall, hleft, hback]

/-- A scan ends with a page that every visit reads and that ends it. -/
theorem MayScan.result_of_last (h : route.MayScan mayVisit more url crawl)
    (hpage : ∀ visit, mayVisit url visit → visit.result = .ok page) {stop : Stop}
    (hstop : route.lastStop? more page = some stop) :
    crawl.result = .ok ⟨page.entries, stop, 1⟩ := by
  cases h with
  | failed hvisit hfailure =>
    rw [hpage _ hvisit] at hfailure
    cases hfailure
  | last hvisit hread hother =>
    obtain rfl := Except.ok.inj ((hpage _ hvisit).symm.trans hread)
    obtain rfl := Option.some.inj (hstop.symm.trans hother)
    rfl
  | next hvisit hread hgo =>
    obtain rfl := Except.ok.inj ((hpage _ hvisit).symm.trans hread)
    rw [hstop] at hgo
    cases hgo

/-- A scan goes on after a page that every visit reads and that does not end it. -/
theorem MayScan.exists_of_next (h : route.MayScan mayVisit (more + 1) url crawl)
    (hpage : ∀ visit, mayVisit url visit → visit.result = .ok page)
    (hgo : route.lastStop? (more + 1) page = none) (hnext : page.next = some next) :
    ∃ rest, route.MayScan mayVisit more next rest ∧
      crawl.result = rest.result.map (Scan.after page.entries) := by
  cases h with
  | failed hvisit hfailure =>
    rw [hpage _ hvisit] at hfailure
    cases hfailure
  | last hvisit hread hstop =>
    obtain rfl := Except.ok.inj ((hpage _ hvisit).symm.trans hread)
    rw [hgo] at hstop
    cases hstop
  | next hvisit hread _ hurl hrest =>
    obtain rfl := Except.ok.inj ((hpage _ hvisit).symm.trans hread)
    obtain rfl := Option.some.inj (hnext.symm.trans hurl)
    exact ⟨_, hrest, rfl⟩

end Route

namespace Harvester

variable (harvester : Harvester)

/-- The harvester where the requests for one address get another answer. -/
def answering (link : Url) (answer : Except Failure String) : Harvester :=
  { harvester with fetcher := Function.update harvester.fetcher link answer }

/-- An answer to the request for the page of an event leaves its item out: the page cannot be
fetched, or no event is extracted from it, and this is no fault of the rules. -/
def Omits (answer : Except Failure String) : Prop :=
  ∃ failure, answer >>= KitSet.extractAny harvester.source.kits harvester.today = .error failure ∧
    failure.isConfiguration = false

/-- The events that come of a page of a listing, without those whose items link to an address. -/
def completedWithout (link : Url) (listing : Listing) : List Event :=
  ((harvester.awaited listing.items).filter fun item => item.link ≠ link).filterMap
    harvester.completed?

/-- A page of a listing that is the same reason to stop without the items that link to an address:
it keeps an event if it had any, and it still reaches back past the threshold if it did. -/
structure Spares (kit : ListKit) (threshold : Option Moment) (link : Url) (listing : Listing) :
    Prop where
  ne_nil : harvester.completed listing ≠ [] → harvester.completedWithout link listing ≠ []
  isPast : (harvester.forumRoute kit threshold).IsPast (harvester.completed listing) →
    (harvester.forumRoute kit threshold).IsPast (harvester.completedWithout link listing)

/-- Two pages of a listing are at the same address, and the same requests were made for their
items. -/
def Listing.IsAlike (other listing : Listing) : Prop :=
  other.url = listing.url ∧ other.requests.Perm listing.requests

/-- A run of a harvest that goes through some pages of a listing returns a snapshot, but for the
events of the items that link to an address. -/
structure OnlyOmits (link : Url) (listings : List Listing) (snapshot : Snapshot)
    (run : Crawl Snapshot) : Prop where
  /-- The run succeeds with as many pages of the listing, stops for the same reason and returns the
  events of the other items in the same order. -/
  result : run.result = .ok { snapshot with
    items := .events (listings.flatMap (harvester.completedWithout link)) }
  /-- The run goes through the same pages, and makes the same requests for the items of each. -/
  pages : ∃ others : List Listing, List.Forall₂ Listing.IsAlike others listings ∧
    run.fetched = others.flatMap fun listing => listing.url :: listing.requests

variable {harvester} {kit : ListKit} {threshold : Option Moment} {listing : Listing}

/-- A page that can be read gives its events to every visit. -/
theorem Reads.result_eq (h : harvester.Reads kit listing) {visit : Crawl (Page Event)}
    (hvisit : harvester.MayVisit kit listing.url visit) :
    visit.result = .ok (harvester.page listing) := by
  obtain ⟨body, hfetch, hitems⟩ := h.items
  obtain ⟨_, hfailed⟩ | ⟨other, reading, hother, hreading⟩ := hvisit
  · rw [hfetch] at hfailed
    cases hfailed
  obtain rfl : body = other := Except.ok.inj (hfetch.symm.trans hother)
  obtain ⟨_, hfailed⟩ | ⟨items, run, hread, hrun⟩ := hreading
  · rw [hitems] at hfailed
    cases hfailed
  obtain rfl : listing.items = items := Except.ok.inj (hitems.symm.trans hread)
  -- Each worker's crawl has a result, whatever the others do.
  have hresult : run.result = .ok ((harvester.awaited listing.items).map harvester.completed?) := by
    rw [wanted_eq_awaited] at hrun
    refine hrun.eq_ok_iff.2 ?_
    rw [List.map_map, List.map_map]
    exact List.map_congr_left fun item hitem => result_complete (h.faultless item hitem)
  rw [hresult]
  simp [Except.map, page, completed]

namespace Walks

variable {more : Nat} {first : Listing} {rest : List Listing} {stop : Stop}

/-- Every scan from the first page of a walk goes through its pages, gathers their events and stops
for the same reason. -/
theorem result_eq (h : harvester.Walks kit threshold more first rest stop)
    {crawl : Crawl (Scan Event)}
    (hscan : (harvester.forumRoute kit threshold).MayScan (harvester.MayVisit kit) more first.url
      crawl) :
    crawl.result = .ok ⟨(first :: rest).flatMap harvester.completed, stop, rest.length + 1⟩ := by
  induction h generalizing crawl with
  | last hreads hstop =>
    rw [hscan.result_of_last (fun _ => hreads.result_eq) hstop]
    simp [page]
  | next hreads hgo hnext hrest ih =>
    obtain ⟨rest, hscan, hresult⟩ := hscan.exists_of_next (fun _ => hreads.result_eq) hgo hnext
    rw [hresult, ih hscan]
    simp [Except.map, Scan.after, page]

end Walks

section Answering

variable {link : Url} {answer : Except Failure String}

/-- The requests for the other addresses get the same answers. -/
theorem fetcher_answering_of_ne {url : Url} (h : url ≠ link) :
    (harvester.answering link answer).fetcher url = harvester.fetcher url := by
  rw [answering]
  exact Function.update_of_ne h _ _

/-- The page of an event gets the other answer exactly if it is the one at the address. -/
theorem result_readEvent_answering (url : Url) :
    ((harvester.answering link answer).readEvent url).result =
      if url = link then answer >>= KitSet.extractAny harvester.source.kits harvester.today
      else (harvester.readEvent url).result := by
  rw [result_readEvent]
  split
  next h =>
    have hanswer : (harvester.answering link answer).fetcher link = answer := by
      rw [answering]
      exact Function.update_self _ _ _
    rw [h, hanswer]
    rfl
  next h =>
    rw [fetcher_answering_of_ne h, result_readEvent]
    rfl

/-- Items that link to a page without an event are left out, and no others. -/
theorem completed_answering (h : harvester.Omits answer) (listing : Listing) :
    (harvester.answering link answer).completed listing =
      harvester.completedWithout link listing := by
  obtain ⟨failure, hfailure, -⟩ := h
  rw [completedWithout, List.filterMap_filter]
  refine List.filterMap_congr fun item _ => ?_
  -- What an item is completed with is what comes of reading its page.
  have hdetails : ∀ harvester : Harvester, harvester.completed? item =
      (harvester.readEvent item.link).result.toOption.map fun details =>
        { item.event with
          sources := (item.event.sources ++ details.sources).map VideoSource.withContainer } :=
    fun harvester => by rw [result_readEvent]; rfl
  rw [hdetails, hdetails, result_readEvent_answering]
  split
  next hlink => simp [hlink, hfailure, Except.toOption]
  next hlink => simp [hlink]

/-- A page of a listing can still be read if another page gets an answer that leaves out its
items. -/
theorem Reads.answering (h : harvester.Reads kit listing) (homits : harvester.Omits answer)
    (hurl : listing.url ≠ link) : (harvester.answering link answer).Reads kit listing where
  items := by
    obtain ⟨body, hfetch, hitems⟩ := h.items
    exact ⟨body, (fetcher_answering_of_ne hurl).trans hfetch, hitems⟩
  requests := h.requests
  faultless item hitem := by
    rw [result_readEvent_answering]
    split
    · obtain ⟨failure, hfailure, hconfiguration⟩ := homits
      simpa [hfailure] using hconfiguration
    · exact h.faultless item hitem

/-- Without the items that link to an address, no event is added and none changes its place. -/
theorem completedWithout_sublist (link : Url) (listing : Listing) :
    (harvester.completedWithout link listing).Sublist (harvester.completed listing) :=
  List.filter_sublist.filterMap _

/-- A scan treats a page of a listing as before exactly if it is spared. -/
theorem lastStop?_answering_iff (homits : harvester.Omits answer) (more : Nat) :
    ((harvester.answering link answer).forumRoute kit threshold).lastStop? more
        ((harvester.answering link answer).page listing) =
      (harvester.forumRoute kit threshold).lastStop? more (harvester.page listing) ↔
      harvester.Spares kit threshold link listing := by
  -- The reason to stop depends on the threshold and on the entries, but not on the fetcher.
  change (harvester.forumRoute kit threshold).lastStop? more
    ⟨(harvester.answering link answer).completed listing, listing.url.nextPage?⟩ =
      (harvester.forumRoute kit threshold).lastStop? more ⟨_, listing.url.nextPage?⟩ ↔ _
  rw [completed_answering homits, Route.lastStop?_eq_lastStop?_iff,
    Route.stopAt?_eq_iff_of_subset (completedWithout_sublist link listing).subset]
  exact ⟨fun ⟨hne, hpast⟩ => ⟨hne, hpast⟩, fun ⟨hne, hpast⟩ => ⟨hne, hpast⟩⟩

/-- A page of a listing has the same items for the other answer, and the same requests are made for
them. -/
theorem Lists.same_items (h : harvester.Lists kit listing) {other : Listing}
    (hother : (harvester.answering link answer).Lists kit other) (hurl : listing.url ≠ link)
    (hsame : other.url = listing.url) :
    other.items = listing.items ∧ other.requests.Perm listing.requests := by
  obtain ⟨body, hfetch, hitems⟩ := h.items
  obtain ⟨page, hfetched, hread⟩ := hother.items
  rw [hsame] at hfetched hread
  rw [fetcher_answering_of_ne hurl] at hfetched
  obtain rfl := Except.ok.inj (hfetch.symm.trans hfetched)
  have hsame : other.items = listing.items := Except.ok.inj (hread.symm.trans hitems)
  refine ⟨hsame, hother.requests.trans ?_⟩
  rw [hsame]
  exact h.requests.symm

/-- What a page gives to a scan depends on its address and on its items. -/
theorem page_eq {other : Listing} (hurl : other.url = listing.url)
    (hitems : other.items = listing.items) : harvester.page other = harvester.page listing := by
  rw [page, page, completed, completed, hurl, hitems]

namespace Walks

variable {more : Nat} {first : Listing} {rest : List Listing} {stop : Stop}

/-- If all pages of a walk are spared, the walk is one for the other answer too. -/
theorem answering (h : harvester.Walks kit threshold more first rest stop)
    (homits : harvester.Omits answer) (hurls : ∀ listing ∈ first :: rest, listing.url ≠ link)
    (hspares : ∀ listing ∈ first :: rest, harvester.Spares kit threshold link listing) :
    (harvester.answering link answer).Walks kit threshold more first rest stop := by
  -- A spared page is the same reason to stop, or none, as before.
  induction h with
  | last hreads hstop =>
    rw [← (lastStop?_answering_iff homits _).2 (hspares _ List.mem_cons_self)] at hstop
    exact .last (hreads.answering homits (hurls _ List.mem_cons_self)) hstop
  | next hreads hgo hnext hrest ih =>
    obtain ⟨hurl, hurls⟩ := List.forall_mem_cons.1 hurls
    obtain ⟨hspared, hspares⟩ := List.forall_mem_cons.1 hspares
    rw [← (lastStop?_answering_iff homits _).2 hspared] at hgo
    exact .next (hreads.answering homits hurl) hgo hnext (ih hurls hspares)

/-- If the pages before a page are spared, and no event is left on this one, then a walk for the
other answer ends with it. -/
theorem exists_answering_exhausted (h : harvester.Walks kit threshold more first rest stop)
    (homits : harvester.Omits answer) (hurls : ∀ listing ∈ first :: rest, listing.url ≠ link)
    {before after : List Listing} {listing : Listing}
    (hsplit : first :: rest = before ++ listing :: after)
    (hspares : ∀ listing ∈ before, harvester.Spares kit threshold link listing)
    (hempty : harvester.completedWithout link listing = []) :
    ∃ pages, first :: pages = before ++ [listing] ∧
      (harvester.answering link answer).Walks kit threshold more first pages .exhausted := by
  have hstop : ∀ more, ((harvester.answering link answer).forumRoute kit threshold).lastStop? more
      ((harvester.answering link answer).page listing) = some .exhausted := by
    intro more
    simp [Route.lastStop?, Route.stopAt?, page, completed_answering homits, hempty]
  -- The pages before are walked as they were, by induction on their number.
  induction before generalizing more first rest with
  | nil =>
    obtain ⟨rfl, -⟩ := List.cons.inj hsplit
    have hreads := (h.reads _ List.mem_cons_self).answering homits (hurls _ List.mem_cons_self)
    exact ⟨[], rfl, .last hreads (hstop more)⟩
  | cons earlier before ih =>
    obtain ⟨rfl, htail⟩ := List.cons.inj hsplit
    cases h with
    | last => simp at htail
    | next hreads hgo hnext hrest =>
      obtain ⟨hurl, hurls⟩ := List.forall_mem_cons.1 hurls
      obtain ⟨hspared, hspares⟩ := List.forall_mem_cons.1 hspares
      obtain ⟨pages, hpages, hwalks⟩ := ih hrest hurls htail hspares
      rw [← (lastStop?_answering_iff homits _).2 hspared] at hgo
      refine ⟨_ :: pages, by rw [hpages]; rfl, ?_⟩
      exact .next (hreads.answering homits hurl) hgo hnext hwalks

/-- Two walks from one page through as many pages, with either answer, go through the same pages. If
they stop for the same reason, then all pages are spared. -/
theorem compare {others : List Listing} {other : Listing} {reason : Stop}
    (h : harvester.Walks kit threshold more first rest stop)
    (hother : (harvester.answering link answer).Walks kit threshold more other others reason)
    (homits : harvester.Omits answer) (hurls : ∀ listing ∈ first :: rest, listing.url ≠ link)
    (hfirst : other.url = first.url) (hlength : others.length = rest.length) :
    List.Forall₂ Listing.IsAlike (other :: others) (first :: rest) ∧
      (reason = stop →
        ∀ listing ∈ first :: rest, harvester.Spares kit threshold link listing) := by
  -- Both walks find the same items on a page, and each goes on from it or stops with it, so that
  -- the two reasons are compared page by page.
  induction h generalizing other others with
  | last hreads hstop =>
    obtain rfl := List.length_eq_zero_iff.1 hlength
    obtain ⟨hothers, hreason⟩ := hother
    obtain ⟨hitems, hrequests⟩ :=
      hreads.same_items hothers.toLists (hurls _ List.mem_cons_self) hfirst
    rw [page_eq hfirst hitems] at hreason
    refine ⟨.cons ⟨hfirst, hrequests⟩ .nil, ?_⟩
    rintro rfl
    exact List.forall_mem_cons.2
      ⟨(lastStop?_answering_iff homits _).1 (hreason.trans hstop.symm), by simp⟩
  | next hreads hgo hnext hrest ih =>
    obtain _ | ⟨hothers, hgoes, hurl, hwalks⟩ := hother
    · simp at hlength
    obtain ⟨hfirst', hurls⟩ := List.forall_mem_cons.1 hurls
    obtain ⟨hitems, hrequests⟩ := hreads.same_items hothers.toLists hfirst' hfirst
    rw [page_eq hfirst hitems] at hgoes
    have hnexts := Option.some.inj ((hfirst ▸ hurl).symm.trans hnext)
    obtain ⟨hpages, hspares⟩ := ih hwalks hurls hnexts (Nat.succ.inj hlength)
    refine ⟨.cons ⟨hfirst, hrequests⟩ hpages, fun hreason => ?_⟩
    exact List.forall_mem_cons.2
      ⟨(lastStop?_answering_iff homits _).1 (hgoes.trans hgo.symm), hspares hreason⟩

section Scans

variable {again : Crawl (Scan Event)}
  (h : harvester.Walks kit threshold more first rest stop) (homits : harvester.Omits answer)
  (hurls : ∀ listing ∈ first :: rest, listing.url ≠ link)
  (hagain : ((harvester.answering link answer).forumRoute kit threshold).MayScan
    ((harvester.answering link answer).MayVisit kit) more first.url again)

include h homits hurls hagain

/-- If a scan with the other answer stops for the same reason after as many pages, then all pages
are spared. -/
theorem spares_of_result {scan : Scan Event} (hscan : again.result = .ok scan)
    (hstop : scan.stop = stop) (hfetches : scan.fetches = rest.length + 1) :
    ∀ listing ∈ first :: rest, harvester.Spares kit threshold link listing := by
  obtain ⟨other, others, hfirst, hwalks, -, hlength, -⟩ := exists_walks hagain hscan
  refine (h.compare hwalks homits hurls hfirst ?_).2 hstop
  exact Nat.succ.inj (hlength.symm.trans hfetches)

/-- If all pages are spared, then a scan with the other answer goes through the same pages, and only
the events of the items that link to the address are missing. -/
theorem result_of_spares
    (hspares : ∀ listing ∈ first :: rest, harvester.Spares kit threshold link listing) :
    again.result = .ok ⟨(first :: rest).flatMap (harvester.completedWithout link), stop,
        rest.length + 1⟩ ∧
      ∃ others : List Listing, List.Forall₂ Listing.IsAlike others (first :: rest) ∧
        again.fetched = others.flatMap fun listing => listing.url :: listing.requests := by
  have hresult := (h.answering homits hurls hspares).result_eq hagain
  obtain ⟨other, others, hfirst, hwalks, -, hlength, hfetched⟩ := exists_walks hagain hresult
  have hpages := (h.compare hwalks homits hurls hfirst (Nat.succ.inj hlength).symm).1
  rw [List.flatMap_congr fun listing _ => completed_answering homits listing] at hresult
  exact ⟨hresult, other :: others, hpages, hfetched⟩

/-- If the pages before a page are spared, and no event is left on this one, then a scan with the
other answer ends with it. -/
theorem result_of_exhausted {before after : List Listing} {listing : Listing}
    (hsplit : first :: rest = before ++ listing :: after)
    (hspares : ∀ listing ∈ before, harvester.Spares kit threshold link listing)
    (hempty : harvester.completedWithout link listing = []) :
    again.result = .ok ⟨before.flatMap (harvester.completedWithout link), .exhausted,
      before.length + 1⟩ := by
  obtain ⟨pages, hpages, hwalks⟩ :=
    h.exists_answering_exhausted homits hurls hsplit hspares hempty
  have hresult := hwalks.result_eq hagain
  have hlength : pages.length + 1 = before.length + 1 := by
    rw [← List.length_cons, hpages, List.length_append, List.length_singleton]
  rw [hresult, hpages, hlength,
    List.flatMap_congr fun listing _ => completed_answering homits listing, List.flatMap_append,
    List.flatMap_singleton, hempty, List.append_nil]

end Scans

end Walks

end Answering

/-- A harvest that succeeds has settings that pass the check. -/
theorem MayHarvest.check_eq_ok {request : Request} {crawl : Crawl Snapshot} {snapshot : Snapshot}
    (h : harvester.MayHarvest request crawl) (hsnapshot : crawl.result = .ok snapshot) :
    harvester.settings.check = .ok () := by
  cases hcheck : harvester.settings.check with
  | ok => rfl
  | error failure =>
    rw [MayHarvest, hcheck] at h
    rw [h, Harvester.snapshot, hcheck, Crawl.bind_of_error (Crawl.result_ofExcept _)] at hsnapshot
    cases hsnapshot

/-- Where a run of the harvest of a forum succeeds, let the page that some items link to get an
answer that leaves these items out; it is no page of the listing. Then nothing else changes, however
the harvest runs, exactly if each page of the listing is spared: it keeps an event if it had any,
and still reaches back past the threshold if it did. The first page on which no event is left ends
the harvest, which then returns what it has from the pages before. -/
theorem onlyOmits_iff_spares (hfeed : harvester.source.feed = .forum) {request : Request}
    {crawl : Crawl Snapshot} {snapshot : Snapshot} (hrun : harvester.MayHarvest request crawl)
    (hsnapshot : crawl.result = .ok snapshot) :
    ∃ (kit : ListKit) (listings : List Listing), harvester.source.list = some kit ∧
      (∀ listing ∈ listings, harvester.Lists kit listing) ∧
      listings.map (some ·.url) =
        (List.range snapshot.fetches).map (Url.pageAfter? · harvester.source.base) ∧
      snapshot.items = .events (listings.flatMap harvester.completed) ∧
      crawl.fetched = listings.flatMap (fun listing => listing.url :: listing.requests) ∧
      ∀ (link : Url) (answer : Except Failure String), harvester.Omits answer →
        (∀ listing ∈ listings, listing.url ≠ link) →
        ∀ other, (harvester.answering link answer).MayHarvest request other →
          let threshold := request.start <|> harvester.settings.threshold
          (harvester.OnlyOmits link listings snapshot other ↔
            ∀ listing ∈ listings, harvester.Spares kit threshold link listing) ∧
          ∀ before listing after, listings = before ++ listing :: after →
            (∀ earlier ∈ before, harvester.Spares kit threshold link earlier) →
            harvester.completedWithout link listing = [] →
            other.result = .ok { snapshot with
              items := .events (before.flatMap (harvester.completedWithout link))
              stop := .exhausted
              fetches := before.length + 1 } := by
  have hcheck := hrun.check_eq_ok hsnapshot
  obtain ⟨kit, hlist, scan, hscan, rfl⟩ := hrun.exists_mayScanForum hfeed hsnapshot
  obtain ⟨events, hevents, rfl⟩ := Except.map_eq_ok_iff.1 hsnapshot
  obtain ⟨first, rest, hfirst, hwalks, hentries, hfetches, hfetched⟩ := exists_walks hscan hevents
  have hlists : ∀ listing ∈ first :: rest, harvester.Lists kit listing :=
    fun listing hlisting => (hwalks.reads listing hlisting).toLists
  refine ⟨kit, first :: rest, hlist, hlists, ?_, ?_, hfetched, ?_⟩
  · rw [hwalks.map_url, hfirst, ofEvents, hfetches]
  · rw [ofEvents, hentries]
  intro link answer homits hurls other hother threshold
  -- The other run is a scan from the same page, with the same threshold and as many steps.
  obtain ⟨again, hagain, rfl⟩ : ∃ again,
      ((harvester.answering link answer).forumRoute kit threshold).MayScan
        ((harvester.answering link answer).MayVisit kit) (harvester.settings.scrapeSteps - 1)
        first.url again ∧
      other = ⟨again.fetched, again.result.map harvester.ofEvents⟩ := by
    rw [hfirst]
    exact (@mayHarvest_iff_of_forum (harvester.answering link answer) _ _ kit hcheck hfeed
      hlist).1 hother
  refine ⟨⟨fun honly => ?_, fun hspares => ?_⟩,
    fun before listing after hsplit hspares hempty => ?_⟩
  · obtain ⟨events', hresult, hsame⟩ := Except.map_eq_ok_iff.1 honly.result
    obtain ⟨-, -, hstop, hfetches'⟩ := Snapshot.mk.inj hsame
    exact hwalks.spares_of_result homits hurls hagain hresult hstop (hfetches'.trans hfetches)
  · obtain ⟨hresult, hpages⟩ := hwalks.result_of_spares homits hurls hagain hspares
    refine ⟨?_, hpages⟩
    rw [hresult, ofEvents, hfetches]
    rfl
  · change again.result.map _ = _
    rw [hwalks.result_of_exhausted homits hurls hagain hsplit hspares hempty]
    rfl

/-- The harvest of a forum with two pages. All other pages describe an event. -/
def ofCupPages (source : DataSource) (settings : Settings) (first : String)
    (second : Except Failure String) : Harvester :=
  { ofCupSite source with
    settings
    fetcher := fun url =>
      match url.pageNumber? with
      | some 1 => .ok first
      | some _ => second
      | none => .ok "A" }

/-- The answer for a page that is gone. -/
def gone : Except Failure String :=
  .error (.status "http://a/b" 404)

/-- A page that is gone leaves its items out. -/
theorem omits_gone : harvester.Omits gone :=
  ⟨_, rfl, rfl⟩

/-- What a harvest counts if it succeeds: why it stopped, the pages of the listing and the
events. -/
def counts (crawl : Crawl Snapshot) : Option (Stop × Nat × Nat) :=
  crawl.result.toOption.map fun snapshot => (snapshot.stop, snapshot.fetches, snapshot.size)

/-- A forum whose first page lists two matches, and whose second page is empty. -/
def ofTwoMatches (source : DataSource) : Harvester :=
  ofCupPages source {} "<a href=b>A v B Cup 01/08/2024</a><a href=c>C v D Cup 01/08/2024</a>"
    (.ok "")

set_option maxRecDepth 100000 in
/-- Of two matches on a page, one is left if the page of the other one is gone, and the harvest
still goes on to the second page. -/
theorem two_matches_onlyOmits_iff : ∃ source link snapshot,
    DataSource.compile cupDescription = .ok source ∧ Url.read? "http://a/b" = some link ∧
    ((ofTwoMatches source).snapshot {}).result = .ok snapshot ∧
    counts (((ofTwoMatches source).answering link gone).snapshot {}) = some (.exhausted, 2, 1) ∧
    ∃ (kit : ListKit) (listings : List Listing), source.list = some kit ∧
      listings.map (some ·.url) = (List.range 2).map (Url.pageAfter? · source.base) ∧
      snapshot.items = .events (listings.flatMap (ofTwoMatches source).completed) ∧
      ((ofTwoMatches source).OnlyOmits link listings snapshot
          (((ofTwoMatches source).answering link gone).snapshot {}) ↔
        ∀ listing ∈ listings, (ofTwoMatches source).Spares kit none link listing) := by
  have hsample : (DataSource.compile cupDescription).toOption.any (fun source =>
      (Url.read? "http://a/b").any fun link =>
        source.feed == .forum &&
        ((List.range 2).map (Url.pageAfter? · source.base)).all (· != some link) &&
        counts (((ofTwoMatches source).answering link gone).snapshot {}) ==
          some (.exhausted, 2, 1) &&
        ((ofTwoMatches source).snapshot {}).result.toOption.any (·.fetches == 2)) = true := by
    decide +kernel
  obtain ⟨source, hsource, hsample⟩ := (Option.any_eq_true _ _).1 hsample
  obtain ⟨link, hlink, hsample⟩ := (Option.any_eq_true _ _).1 hsample
  simp only [Bool.and_eq_true, beq_iff_eq] at hsample
  obtain ⟨⟨⟨hfeed, hpages⟩, hcounts⟩, hsample⟩ := hsample
  obtain ⟨snapshot, hsnapshot, hfetches⟩ := (Option.any_eq_true _ _).1 hsample
  rw [Except.toOption_eq_some_iff] at hsource hsnapshot
  obtain ⟨kit, listings, hlist, -, hurls, hitems, -, hcompare⟩ :=
    @onlyOmits_iff_spares (ofTwoMatches source) hfeed _ _ _ (mayHarvest_snapshot {}) hsnapshot
  -- The two pages that are fetched are known, and the link leads to neither.
  rw [beq_iff_eq.1 hfetches] at hurls
  have hlinks : ∀ listing ∈ listings, listing.url ≠ link := by
    rintro listing hlisting rfl
    have hmem : some listing.url ∈ (List.range 2).map (Url.pageAfter? · source.base) :=
      hurls ▸ List.mem_map.2 ⟨listing, hlisting, rfl⟩
    simpa using List.all_eq_true.1 hpages _ hmem
  exact ⟨source, link, snapshot, hsource, hlink, hsnapshot, hcounts, kit, listings, hlist, hurls,
    hitems, (hcompare link gone omits_gone hlinks _ (mayHarvest_snapshot {})).1⟩

/-- A forum with one match on each of two pages, which are all that may be fetched. -/
def ofLoneMatches (source : DataSource) : Harvester :=
  ofCupPages source { scrapeSteps := 2 } "<a href=b>A v B Cup 01/08/2024</a>"
    (.ok "<a href=c>C v D Cup 01/08/2024</a>")

/-- A forum with one match before the threshold and one match after it, whose second page is
gone. -/
def ofEarlyMatch (source : DataSource) : Harvester :=
  ofCupPages source { threshold := some (ofCupSite source).now }
    "<a href=b>A v B Cup 01/08/2024</a><a href=c>C v D Cup 03/08/2024</a>" gone

/-- A forum with a match that links to the second page of the listing. -/
def ofLinkedPage (source : DataSource) : Harvester :=
  ofCupPages source {}
    "<a href='?page=2'>A v B Cup 01/08/2024</a><a href=c>C v D Cup 01/08/2024</a>" (.ok "A")

set_option maxRecDepth 100000 in
/-- More than the item may be lost with its page. The only event of a page takes those of the later
pages with it. Without the only event before the threshold, the scan goes on to a page that fails.
An item may also link to a page of the listing. -/
theorem harvests_of_gone_pages : ∃ source link next,
    DataSource.compile cupDescription = .ok source ∧ source.feed = .forum ∧
    Url.read? "http://a/b" = some link ∧ Url.read? "http://a/?page=2" = some next ∧
    counts ((ofLoneMatches source).snapshot {}) = some (.stepLimit, 2, 2) ∧
    counts (((ofLoneMatches source).answering link gone).snapshot {}) = some (.exhausted, 1, 0) ∧
    counts ((ofEarlyMatch source).snapshot {}) = some (.thresholdReached, 1, 2) ∧
    counts (((ofEarlyMatch source).answering link gone).snapshot {}) = none ∧
    counts ((ofLinkedPage source).snapshot {}) = some (.exhausted, 2, 2) ∧
    counts (((ofLinkedPage source).answering next gone).snapshot {}) = none := by
  have hsample : (DataSource.compile cupDescription).toOption.any (fun source =>
      (Url.read? "http://a/b").any fun link => (Url.read? "http://a/?page=2").any fun next =>
        decide (source.feed = .forum ∧
          counts ((ofLoneMatches source).snapshot {}) = some (.stepLimit, 2, 2) ∧
          counts (((ofLoneMatches source).answering link gone).snapshot {}) =
            some (.exhausted, 1, 0) ∧
          counts ((ofEarlyMatch source).snapshot {}) = some (.thresholdReached, 1, 2) ∧
          counts (((ofEarlyMatch source).answering link gone).snapshot {}) = none ∧
          counts ((ofLinkedPage source).snapshot {}) = some (.exhausted, 2, 2) ∧
          counts (((ofLinkedPage source).answering next gone).snapshot {}) = none)) = true := by
    decide +kernel
  obtain ⟨source, hsource, hsample⟩ := (Option.any_eq_true _ _).1 hsample
  obtain ⟨link, hlink, hsample⟩ := (Option.any_eq_true _ _).1 hsample
  obtain ⟨next, hnext, hsample⟩ := (Option.any_eq_true _ _).1 hsample
  obtain ⟨hfeed, hcounts⟩ := of_decide_eq_true hsample
  exact ⟨source, link, next, Except.toOption_eq_some_iff.1 hsource, hfeed, hlink, hnext, hcounts⟩

end Harvester

end Footage
