import Footage.Harvest
import Footage.Proofs.Pool
import Footage.Proofs.Scan.Step

/-!
# Runs of harvests

The events on a page of a forum are completed by a pool of workers, so that a harvest may run in
many ways. A run differs from another only in the order in which the workers make their requests
and, where the rules are at fault, in the failure that ends it.

## Main definitions

* `Route.MayScan`: the scans of a feed whose pages may be visited in various ways.
* `Harvester.MayReadListing`, `Harvester.MayVisit` and `Harvester.MayScanForum`: the ways in which
  workers complete the events of a page, of a page that is still to be fetched, and of a forum.
* `Harvester.MayHarvest`: the runs of a harvest.

## Main results

* `Route.mayScan_scanFrom`: the scan that visits pages in a given way is one of the scans.
* `Harvester.MayHarvest.exists_mayScanForum`: a run that harvests a forum is a scan of its listing.
* `Harvester.mayHarvest_snapshot`: the harvest with one request after the other is one of the runs.
-/

namespace Footage

open Calendar

namespace Route

variable {α : Type}

/-- A scan from a page on that fetches at most `more` further pages, where each page may be visited
in various ways. -/
inductive MayScan (route : Route α) (mayVisit : Url → Crawl (Page α) → Prop) :
    Nat → Url → Crawl (Scan α) → Prop
  /-- The page cannot be fetched or read. -/
  | failed {more : Nat} {url : Url} {visit : Crawl (Page α)} {failure : Failure}
      (hvisit : mayVisit url visit) (hfailure : visit.result = .error failure) :
      MayScan route mayVisit more url ⟨visit.fetched, .error failure⟩
  /-- The page is the last one. -/
  | last {more : Nat} {url : Url} {visit : Crawl (Page α)} {page : Page α} {stop : Stop}
      (hvisit : mayVisit url visit) (hpage : visit.result = .ok page)
      (hstop : route.lastStop? more page = some stop) :
      MayScan route mayVisit more url ⟨visit.fetched, .ok ⟨page.entries, stop, 1⟩⟩
  /-- The scan goes on with the next page. -/
  | next {more : Nat} {url next : Url} {visit : Crawl (Page α)} {page : Page α}
      {rest : Crawl (Scan α)} (hvisit : mayVisit url visit) (hpage : visit.result = .ok page)
      (hgo : route.lastStop? (more + 1) page = none) (hnext : page.next = some next)
      (hrest : MayScan route mayVisit more next rest) :
      MayScan route mayVisit (more + 1) url
        ⟨visit.fetched ++ rest.fetched, rest.result.map (Scan.after page.entries)⟩

/-- The scan that visits pages in a given way is one of the scans. -/
theorem mayScan_scanFrom {route : Route α} {mayVisit : Url → Crawl (Page α) → Prop}
    (hvisit : ∀ url, mayVisit url (route.visit url)) (more : Nat) (url : Url) :
    route.MayScan mayVisit more url (route.scanFrom more url) := by
  -- The three ways in which a scan deals with a page are the three constructors.
  induction more using Nat.strongRecOn generalizing url with
  | ind more ih =>
    cases hresult : (route.visit url).result with
    | error failure =>
      rw [route.scanFrom_of_error hresult]
      exact .failed (hvisit url) hresult
    | ok page =>
      cases hlast : route.lastStop? more page with
      | some stop =>
        rw [route.scanFrom_of_last hresult hlast]
        exact .last (hvisit url) hresult hlast
      | none =>
        obtain ⟨-, hmore, next, hnext⟩ := route.lastStop?_eq_none_iff.1 hlast
        obtain ⟨less, rfl⟩ := Nat.exists_eq_succ_of_ne_zero hmore
        rw [route.scanFrom_of_next hresult hlast hnext]
        exact .next (hvisit url) hresult hlast hnext (ih less (Nat.lt_succ_self less) next)

/-- Where pages are visited in one way only, there is no other scan. -/
theorem mayScan_visit_iff {route : Route α} {more : Nat} {url : Url} {crawl : Crawl (Scan α)} :
    route.MayScan (fun url visit => visit = route.visit url) more url crawl ↔
      crawl = route.scanFrom more url := by
  constructor
  · intro h
    induction h with
    | failed hvisit hfailure =>
      subst hvisit
      exact (route.scanFrom_of_error hfailure).symm
    | last hvisit hpage hstop =>
      subst hvisit
      exact (route.scanFrom_of_last hpage hstop).symm
    | next hvisit hpage hgo hnext _ ih =>
      subst hvisit ih
      exact (route.scanFrom_of_next hpage hgo hnext).symm
  · rintro rfl
    refine mayScan_scanFrom ?_ more url
    exact fun _ => rfl

end Route

/-- Settings pass the check exactly if none of their numbers is zero. -/
theorem Settings.check_eq_ok_iff {settings : Settings} :
    settings.check = .ok () ↔
      1 ≤ settings.maxScanSteps ∧ 1 ≤ settings.scrapeSteps ∧ 1 ≤ settings.workers := by
  have hbudget : ∀ name value, checkBudget name value = .ok () ↔ 1 ≤ value := by
    intro name value
    rw [checkBudget]
    split <;> simp <;> omega
  simp only [check, Except.bind_eq_ok_iff, hbudget, exists_const]

/-- A forum is read from its base on, whatever is requested. -/
theorem Request.address_forum (request : Request) (base : Url) :
    request.address base .forum = .ok base := by
  simp [address]

namespace Harvester

variable (harvester : Harvester)

/-- How the pages of a blog are scanned. -/
def blogRoute (read : Url → String → Except Failure (Page Post)) (threshold : Option Moment) :
    Route Post :=
  .ofReader harvester.fetcher read Post.published threshold harvester.now

/-- How the pages of a forum are scanned. -/
def forumRoute (kit : ListKit) (threshold : Option Moment) : Route Event where
  fetcher := harvester.fetcher
  read := harvester.readListing kit
  published event := some event.date
  threshold
  now := harvester.now

/-- The snapshot of a scan of posts. -/
def ofPosts (scan : Scan Post) : Snapshot :=
  ⟨harvester.source.kits, .documents scan.entries, scan.stop, scan.fetches⟩

/-- The snapshot of a scan of events. -/
def ofEvents (scan : Scan Event) : Snapshot :=
  ⟨harvester.source.kits, .events scan.entries, scan.stop, scan.fetches⟩

/-- The ways in which workers complete the events of a page of a forum. -/
inductive MayReadListing (kit : ListKit) (url : Url) (body : String) : Crawl (Page Event) → Prop
  | failed (failure : Failure) (hitems : kit.items harvester.today url body = .error failure) :
      MayReadListing kit url body ⟨[], .error failure⟩
  | read (items : List ListItem) (run : Crawl (List (Option Event)))
      (hitems : kit.items harvester.today url body = .ok items)
      (hrun : Pool.MayRun harvester.settings.workers
        ((harvester.wanted items).map harvester.complete) run) :
      MayReadListing kit url body
        ⟨run.fetched, run.result.map fun events => ⟨events.filterMap id, url.nextPage?⟩⟩

/-- The ways in which a page of a forum is fetched and its events are completed. -/
inductive MayVisit (kit : ListKit) (url : Url) : Crawl (Page Event) → Prop
  | failed (failure : Failure) (hfetch : harvester.fetcher url = .error failure) :
      MayVisit kit url ⟨[url], .error failure⟩
  | read (body : String) (reading : Crawl (Page Event)) (hfetch : harvester.fetcher url = .ok body)
      (hreading : harvester.MayReadListing kit url body reading) :
      MayVisit kit url ⟨url :: reading.fetched, reading.result⟩

/-- The ways in which a forum is scanned. -/
def MayScanForum (kit : ListKit) (threshold : Option Moment) (start : Url)
    (crawl : Crawl Snapshot) : Prop :=
  ∃ scan, (harvester.forumRoute kit threshold).MayScan (harvester.MayVisit kit)
      (harvester.settings.scrapeSteps - 1) start scan ∧
    crawl = ⟨scan.fetched, scan.result.map harvester.ofEvents⟩

/-- The runs of a harvest. Only forums are harvested by workers. -/
def MayHarvest (request : Request) (crawl : Crawl Snapshot) : Prop :=
  match harvester.settings.check, harvester.source.feed, harvester.source.list with
  | .ok (), .forum, some kit =>
    harvester.MayScanForum kit (request.start <|> harvester.settings.threshold)
      harvester.source.base crawl
  | _, _, _ => crawl = harvester.snapshot request

variable {harvester}

theorem scanBlog_eq (read : Url → String → Except Failure (Page Post))
    (threshold : Option Moment) (budget : Nat) (start : Url) :
    harvester.scanBlog read threshold budget start =
      ⟨((harvester.blogRoute read threshold).scan budget start).fetched,
        ((harvester.blogRoute read threshold).scan budget start).result.map harvester.ofPosts⟩ :=
  Crawl.bind_pure_eq _ harvester.ofPosts

theorem scanForum_eq (kit : ListKit) (threshold : Option Moment) (start : Url) :
    harvester.scanForum kit threshold start =
      ⟨((harvester.forumRoute kit threshold).scan harvester.settings.scrapeSteps start).fetched,
        ((harvester.forumRoute kit threshold).scan harvester.settings.scrapeSteps start).result.map
          harvester.ofEvents⟩ :=
  Crawl.bind_pure_eq _ harvester.ofEvents

/-- Only forums are harvested by workers. -/
theorem MayHarvest.eq_snapshot {request : Request} {crawl : Crawl Snapshot}
    (h : harvester.MayHarvest request crawl) (hfeed : harvester.source.feed ≠ .forum) :
    crawl = harvester.snapshot request := by
  rw [MayHarvest] at h
  split at h
  next _ hforum _ => exact absurd hforum hfeed
  next => exact h

/-- A forum is harvested by workers if the settings pass the check. -/
theorem mayHarvest_iff_of_forum {request : Request} {crawl : Crawl Snapshot} {kit : ListKit}
    (hcheck : harvester.settings.check = .ok ()) (hfeed : harvester.source.feed = .forum)
    (hlist : harvester.source.list = some kit) :
    harvester.MayHarvest request crawl ↔
      harvester.MayScanForum kit (request.start <|> harvester.settings.threshold)
        harvester.source.base crawl := by
  rw [MayHarvest, hcheck, hfeed, hlist]

/-- A run of the harvest of a forum that succeeds is a scan of its listing. -/
theorem MayHarvest.exists_mayScanForum {request : Request} {crawl : Crawl Snapshot}
    {snapshot : Snapshot} (h : harvester.MayHarvest request crawl)
    (hfeed : harvester.source.feed = .forum) (hsnapshot : crawl.result = .ok snapshot) :
    ∃ kit, harvester.source.list = some kit ∧
      harvester.MayScanForum kit (request.start <|> harvester.settings.threshold)
        harvester.source.base crawl := by
  rw [MayHarvest] at h
  split at h
  next kit _ _ hlist => exact ⟨kit, hlist, h⟩
  next hother =>
  subst h
  -- The settings do not pass the check, or there is no kit for the listing: the harvest fails.
  rw [Harvester.snapshot, Crawl.result_bind] at hsnapshot
  obtain ⟨_, hcheck, hsnapshot⟩ := Except.bind_eq_ok_iff.1 hsnapshot
  dsimp only at hsnapshot
  rw [hfeed, Request.address_forum, Crawl.ofExcept_ok_bind] at hsnapshot
  cases hlist : harvester.source.list with
  | none =>
    rw [hlist] at hsnapshot
    cases hsnapshot
  | some kit => exact absurd hlist (hother kit hcheck hfeed)

/-- Completing the events of a page one after the other is one of the ways to complete them. -/
theorem mayReadListing_readListing (hworkers : 1 ≤ harvester.settings.workers) (kit : ListKit)
    (url : Url) (body : String) :
    harvester.MayReadListing kit url body (harvester.readListing kit url body) := by
  rw [readListing]
  cases hitems : kit.items harvester.today url body with
  | error failure =>
    rw [Crawl.bind_of_error (Crawl.result_ofExcept _)]
    exact .failed failure hitems
  | ok items =>
    rw [Crawl.bind_of_ok (Crawl.result_ofExcept _), Crawl.bind_pure_eq]
    refine .read items _ hitems ?_
    have hrun := Pool.mayRun_mapM hworkers ((harvester.wanted items).map harvester.complete)
    rw [List.mapM_map] at hrun
    exact hrun

/-- Fetching a page and completing its events one after the other is one of the ways to visit it. -/
theorem mayVisit_visit (hworkers : 1 ≤ harvester.settings.workers) (kit : ListKit)
    (threshold : Option Moment) (url : Url) :
    harvester.MayVisit kit url ((harvester.forumRoute kit threshold).visit url) := by
  rw [Route.visit]
  cases hfetch : harvester.fetcher url with
  | error failure =>
    rw [forumRoute, Crawl.fetch_bind_of_error hfetch]
    exact .failed failure hfetch
  | ok body =>
    rw [forumRoute, Crawl.fetch_bind_of_ok hfetch]
    exact .read body _ hfetch (mayReadListing_readListing hworkers kit url body)

/-- The harvest with one request after the other is one of the runs. -/
theorem mayHarvest_snapshot (request : Request) :
    harvester.MayHarvest request (harvester.snapshot request) := by
  rw [MayHarvest]
  split
  next kit hcheck hfeed hlist =>
    -- One worker is enough for one request after the other.
    obtain ⟨-, -, hworkers⟩ := Settings.check_eq_ok_iff.1 hcheck
    rw [snapshot, hcheck, Crawl.ofExcept_ok_bind]
    dsimp only
    rw [hfeed, hlist, Request.address_forum, Crawl.ofExcept_ok_bind]
    refine ⟨_, Route.mayScan_scanFrom ?_ _ _, scanForum_eq _ _ _⟩
    exact mayVisit_visit hworkers kit _
  next => rfl

end Harvester

end Footage
