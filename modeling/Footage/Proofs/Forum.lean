import Footage.Proofs.Runs

/-!
# Harvests of forums

What a harvest of a forum returns and fetches is dictated by the listing: by which events the pages
announce, which of them are awaited, and what the pages say that they link to. The order in which
the workers complete the events plays no part in it.

## Main definitions

* `Url.pageAfter?`: the addresses of the pages of a listing.
* `ListItem.IsAwaited` and `Harvester.awaited`: the items whose events are to be completed.
* `Harvester.completed?`: a listed event with the sources from the page that it links to.
* `Harvester.Listing` and `Harvester.Lists`: a page of a listing with the requests for its events.
* `Harvester.Reads`: a page of a listing on which no fault of the rules shows.
* `Harvester.Walks`: the pages of a listing that a scan goes through.

## Main results

* `Harvester.wanted_eq_awaited`: the items that a harvest goes on with are those that are awaited.
* `Harvester.MayVisit.exists_reads`: a page that is visited lists the completed events, and each
  event that is awaited takes one request.
* `Harvester.exists_walks`: so do all pages of a scan, by induction on the scan.
* `Harvester.forum_harvest`: the harvest of a forum.
-/

namespace Footage

open Calendar

/-- The address of the page that comes a number of pages after another one, if there is one. -/
def Url.pageAfter? : Nat → Url → Option Url
  | 0, url => some url
  | i + 1, url => url.nextPage?.bind (pageAfter? i)

namespace ListItem

/-- The event of an item is to be completed: its competition was read, no default took the place of
its date, and it is not known yet. -/
structure IsAwaited (item : ListItem) (known : Event → Bool) : Prop where
  competition : item.event.competition ≠ none
  date : ∀ warning ∈ item.event.warnings, warning.field ≠ .date
  unknown : known item.event = false

/-- An item is awaited if three tests turn out well. -/
theorem isAwaited_iff {item : ListItem} {known : Event → Bool} : item.IsAwaited known ↔
    item.event.competition.isSome = true ∧
      (item.event.warnings.any fun warning => warning.field = .date) = false ∧
      known item.event = false := by
  constructor
  · rintro ⟨hcompetition, hdate, hunknown⟩
    exact ⟨Option.isSome_iff_ne_none.2 hcompetition, by simpa using hdate, hunknown⟩
  · rintro ⟨hcompetition, hdate, hunknown⟩
    exact ⟨Option.isSome_iff_ne_none.1 hcompetition, by simpa using hdate, hunknown⟩

/-- Whether an item is awaited is decidable. -/
instance (item : ListItem) (known : Event → Bool) : Decidable (item.IsAwaited known) :=
  decidable_of_iff _ isAwaited_iff.symm

end ListItem

namespace Harvester

variable (harvester : Harvester)

/-- The items that are awaited, in the order of the listing. -/
def awaited (items : List ListItem) : List ListItem :=
  items.filter fun item => item.IsAwaited harvester.known

/-- The items that a harvest goes on with are those that are awaited. -/
theorem wanted_eq_awaited (items : List ListItem) :
    harvester.wanted items = harvester.awaited items := by
  refine List.filter_congr fun item _ => ?_
  rw [Bool.eq_iff_iff, decide_eq_true_iff, ListItem.isAwaited_iff, Event.isResolved,
    Event.wasDefaulted]
  simp only [Bool.and_eq_true, Bool.not_eq_true', and_assoc]

/-- The event that the page of an item describes, if the page is fetched and describes one. -/
def details? (item : ListItem) : Option Event :=
  (harvester.fetcher item.link >>=
    KitSet.extractAny harvester.source.kits harvester.today).toOption

/-- The event of an item with the sources of its page, all with their containers. -/
def completed? (item : ListItem) : Option Event :=
  (harvester.details? item).map fun details =>
    { item.event with
      sources := (item.event.sources ++ details.sources).map VideoSource.withContainer }

/-- A page of a listing: its items, and the requests that were made for them in their order. -/
structure Listing where
  url : Url
  items : List ListItem
  requests : List Url

/-- The page lists such items, and there was one request for each item that is awaited. -/
structure Lists (kit : ListKit) (listing : Listing) : Prop where
  items : ∃ body, harvester.fetcher listing.url = .ok body ∧
    kit.items harvester.today listing.url body = .ok listing.items
  requests : listing.requests.Perm ((harvester.awaited listing.items).map ListItem.link)

/-- The events that come of a page of a listing. -/
def completed (listing : Listing) : List Event :=
  (harvester.awaited listing.items).filterMap harvester.completed?

/-- What a page of a listing gives to a scan. -/
def page (listing : Listing) : Page Event :=
  ⟨harvester.completed listing, listing.url.nextPage?⟩

/-- The page lists such items, and no fault of the rules shows on the pages of those that are
awaited. -/
structure Reads (kit : ListKit) (listing : Listing) : Prop extends harvester.Lists kit listing where
  faultless : ∀ item ∈ harvester.awaited listing.items,
    Faultless (harvester.readEvent item.link).result

variable {harvester} {kit : ListKit} {threshold : Option Moment}

/-- The page of an event takes one request. -/
theorem fetched_readEvent (url : Url) : (harvester.readEvent url).fetched = [url] := by
  rw [readEvent]
  cases hfetch : harvester.fetcher url with
  | ok body => rw [Crawl.fetch_bind_of_ok hfetch, Crawl.fetched_ofExcept]
  | error failure => rw [Crawl.fetch_bind_of_error hfetch]

/-- Completing an event takes one request. -/
theorem fetched_complete (item : ListItem) : (harvester.complete item).fetched = [item.link] := by
  rw [complete, Crawl.bind_pure_eq]
  exact fetched_readEvent item.link

/-- The result of reading the page of an event. -/
theorem result_readEvent (url : Url) :
    (harvester.readEvent url).result =
      harvester.fetcher url >>= KitSet.extractAny harvester.source.kits harvester.today := by
  rw [readEvent, Crawl.result_bind]
  rfl

/-- An event that is completed has the sources of its page, or is left out. -/
theorem eq_completed?_of_complete {item : ListItem} {event : Option Event}
    (h : (harvester.complete item).result = .ok event) : event = harvester.completed? item := by
  rw [complete, Crawl.bind_pure_eq] at h
  obtain ⟨details, hdetails, rfl⟩ := Except.map_eq_ok_iff.1 h
  rw [Crawl.eq_toOption_of_attempt hdetails, result_readEvent]
  rfl

/-- An event whose page shows no fault of the rules is completed or left out. -/
theorem result_complete {item : ListItem} (h : Faultless (harvester.readEvent item.link).result) :
    (harvester.complete item).result = .ok (harvester.completed? item) := by
  rw [complete, Crawl.bind_pure_eq, Crawl.result_attempt_of_faultless h, result_readEvent]
  rfl

/-- An event that is completed or left out has a page that shows no fault of the rules. -/
theorem faultless_readEvent_of_complete {item : ListItem} {event : Option Event}
    (h : (harvester.complete item).result = .ok event) :
    Faultless (harvester.readEvent item.link).result := by
  intro failure hfailure
  by_contra hconfiguration
  rw [complete, Crawl.bind_pure_eq] at h
  simp [Crawl.attempt, hfailure, hconfiguration, Except.map] at h

/-- A page that is visited with success can be read, and each event that is awaited takes one
request. -/
theorem MayVisit.exists_reads {url : Url} {visit : Crawl (Page Event)} {page : Page Event}
    (h : harvester.MayVisit kit url visit) (hpage : visit.result = .ok page) :
    ∃ listing, harvester.Reads kit listing ∧ listing.url = url ∧ page = harvester.page listing ∧
      visit.fetched = url :: listing.requests := by
  obtain _ | ⟨body, reading, hfetch, hreading⟩ := h
  · cases hpage
  obtain _ | ⟨items, run, hitems, hrun⟩ := hreading
  · cases hpage
  obtain ⟨events, hevents, rfl⟩ := Except.map_eq_ok_iff.1 hpage
  -- Each worker's crawl completes its own item, whatever the others do.
  rw [wanted_eq_awaited] at hrun
  have hresults := hrun.eq_ok_iff.1 hevents
  rw [List.map_map] at hresults
  have hfaultless : ∀ item ∈ harvester.awaited items,
      Faultless (harvester.readEvent item.link).result := by
    intro item hitem
    have hmem : (harvester.complete item).result ∈ events.map Except.ok := by
      rw [← hresults]
      exact List.mem_map_of_mem hitem
    obtain ⟨event, -, hevent⟩ := List.mem_map.1 hmem
    exact faultless_readEvent_of_complete hevent.symm
  have hcompleted : events = (harvester.awaited items).map harvester.completed? :=
    Except.eq_map_of_map_eq_ok (fun _ _ => eq_completed?_of_complete) hresults
  have hperm := hrun.perm hevents
  have hlinks : ((harvester.awaited items).map harvester.complete).flatMap Crawl.fetched =
      (harvester.awaited items).map ListItem.link := by
    simp [List.flatMap_map, fetched_complete, ← List.map_eq_flatMap]
  rw [hlinks] at hperm
  refine ⟨⟨url, items, run.fetched⟩, ⟨⟨⟨body, hfetch, hitems⟩, hperm⟩, hfaultless⟩, rfl, ?_, rfl⟩
  rw [hcompleted]
  simp [page, completed]

variable (harvester kit threshold) in
/-- A scan that may fetch `more` pages after the first one goes through some pages of a listing and
stops for a reason. -/
inductive Walks : Nat → Listing → List Listing → Stop → Prop
  /-- The scan stops at the page. -/
  | last {more : Nat} {listing : Listing} {stop : Stop} (hreads : harvester.Reads kit listing)
      (hstop : (harvester.forumRoute kit threshold).lastStop? more (harvester.page listing) =
        some stop) :
      Walks more listing [] stop
  /-- The scan goes on with the next page. -/
  | next {more : Nat} {listing next : Listing} {rest : List Listing} {stop : Stop}
      (hreads : harvester.Reads kit listing)
      (hgo : (harvester.forumRoute kit threshold).lastStop? (more + 1) (harvester.page listing) =
        none)
      (hnext : listing.url.nextPage? = some next.url) (hrest : Walks more next rest stop) :
      Walks (more + 1) listing (next :: rest) stop

/-- A scan that succeeds goes through the pages of a listing. -/
theorem exists_walks {more : Nat} {url : Url} {crawl : Crawl (Scan Event)} {scan : Scan Event}
    (h : (harvester.forumRoute kit threshold).MayScan (harvester.MayVisit kit) more url crawl)
    (hscan : crawl.result = .ok scan) :
    ∃ first rest, first.url = url ∧ harvester.Walks kit threshold more first rest scan.stop ∧
      scan.entries = (first :: rest).flatMap harvester.completed ∧
      scan.fetches = rest.length + 1 ∧
      crawl.fetched = (first :: rest).flatMap fun listing => listing.url :: listing.requests := by
  -- Each step of the scan is the visit of one page, which is a page of the listing.
  induction h generalizing scan with
  | failed => cases hscan
  | last hvisit hpage hstop =>
    obtain ⟨listing, hreads, rfl, rfl, hfetched⟩ := hvisit.exists_reads hpage
    cases hscan
    refine ⟨listing, [], rfl, .last hreads hstop, by simp [page], rfl, ?_⟩
    simpa using hfetched
  | next hvisit hpage hgo hnext hrest ih =>
    obtain ⟨listing, hreads, rfl, rfl, hfetched⟩ := hvisit.exists_reads hpage
    obtain ⟨rest, hresult, rfl⟩ := Except.map_eq_ok_iff.1 hscan
    obtain ⟨next, listings, rfl, hwalks, hentries, hfetches, hrequests⟩ := ih hresult
    refine ⟨listing, next :: listings, rfl, .next hreads hgo hnext hwalks, ?_, ?_, ?_⟩
    · simp [Scan.after, page, hentries]
    · rw [Scan.after, hfetches, List.length_cons]
    · simp [hfetched, hrequests]

namespace Walks

variable {more : Nat} {first : Listing} {rest : List Listing} {stop : Stop}

/-- The pages of a walk come one after the other. -/
theorem map_url (h : harvester.Walks kit threshold more first rest stop) :
    (first :: rest).map (some ·.url) =
      (List.range (rest.length + 1)).map (Url.pageAfter? · first.url) := by
  induction h with
  | last => rfl
  | next hreads hgo hnext hrest ih =>
    rw [List.map_cons, ih, List.length_cons, List.range_succ_eq_map (n := _ + 1), List.map_cons,
      List.map_map]
    simp [Url.pageAfter?, Function.comp_def, hnext]

/-- The pages of a walk can be read. -/
theorem reads (h : harvester.Walks kit threshold more first rest stop) :
    ∀ listing ∈ first :: rest, harvester.Reads kit listing := by
  induction h with
  | last hreads => simpa using hreads
  | next hreads _ _ _ ih => exact List.forall_mem_cons.2 ⟨hreads, ih⟩

end Walks

/-- The pages of a scan that succeeds are listed one after the other. -/
theorem exists_listings {more : Nat} {url : Url} {crawl : Crawl (Scan Event)} {scan : Scan Event}
    (h : (harvester.forumRoute kit threshold).MayScan (harvester.MayVisit kit) more url crawl)
    (hscan : crawl.result = .ok scan) :
    ∃ listings : List Listing, (∀ listing ∈ listings, harvester.Lists kit listing) ∧
      listings.map (some ·.url) = (List.range scan.fetches).map (Url.pageAfter? · url) ∧
      scan.entries = listings.flatMap harvester.completed ∧
      crawl.fetched = listings.flatMap fun listing => listing.url :: listing.requests := by
  obtain ⟨first, rest, rfl, hwalks, hentries, hfetches, hfetched⟩ := exists_walks h hscan
  refine ⟨first :: rest, fun listing hlisting => (hwalks.reads listing hlisting).toLists, ?_,
    hentries, hfetched⟩
  rw [hwalks.map_url, hfetches]

/-- A forum that lists cup matches. -/
def cupDescription : SourceDescription where
  name := none
  base := "http://a/?page=1"
  feed := .forum
  kits := [⟨⟨"A", []⟩, []⟩]
  list := some ⟨"a", "([A-Z]) v ([A-Z]) (Cup) ([0-9/]+)",
    [(1, .homeTeam), (2, .awayTeam), (3, .competition), (4, .date)]⟩
  maxScanSteps := none
  scrapeSteps := none
  workers := none

/-- The harvest of a forum whose first page lists one match, and whose next page is empty. -/
def ofCupSite (source : DataSource) : Harvester where
  source
  fetcher url :=
    match url.pageNumber? with
    | some 1 => .ok "<a href=b>A v B Cup 01/08/2024</a>"
    | some _ => .ok ""
    | none => .ok "A"
  settings := {}
  known _ := false
  now := .startOf ⟨2024, 8, 2, by decide⟩

/-- The home teams of the items of a listing, and which of the items are awaited. -/
def marks (known : Event → Bool) (items : List ListItem) : List (Option String × Bool) :=
  items.map fun item => (item.event.homeTeam.map Team.name, decide (item.IsAwaited known))

end Harvester

end Footage
