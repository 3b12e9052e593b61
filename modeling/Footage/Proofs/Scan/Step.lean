import Footage.Scan
import Footage.Proofs.Crawl
import Mathlib.Data.List.MinMax

/-!
# The steps of a scan

Each page that a scan visits either ends it or leads to the next page. This module states what
makes a page the last one, as conditions on the page and as the choice that the scan makes, and
unfolds a scan by one page.

## Main definitions

* `Stop.rank` and `Stop.IsFirst`: the order in which the reasons to stop are considered, and the
  first reason that applies.
* `Route.Applies`: the condition of each reason to stop.
* `Route.lastStop?`: the reason that a scan gives when it ends with a page.
* `Route.ofReader`: the route of a feed whose pages are read without further requests.

## Main results

* `Route.lastStop?_eq_some_iff`: the reason given is the first that applies.
* `Route.scanFrom_of_error`, `Route.scanFrom_of_last` and `Route.scanFrom_of_next`: the three ways
  in which a scan deals with a page.
-/

namespace Footage

open Calendar

namespace Stop

/-- The place of a reason to stop in the order in which the reasons are considered. -/
def rank : Stop → Nat
  | exhausted => 0
  | thresholdReached => 1
  | stepLimit => 2
  | endOfFeed => 3

/-- A reason to stop applies and none that is considered before it does. -/
def IsFirst (applies : Stop → Prop) (stop : Stop) : Prop :=
  applies stop ∧ ∀ other, other.rank < stop.rank → ¬applies other

/-- The first reason that applies, with the reasons before it written out. -/
theorem isFirst_iff {applies : Stop → Prop} {stop : Stop} :
    IsFirst applies stop ↔ applies stop ∧ (0 < stop.rank → ¬applies exhausted) ∧
      (1 < stop.rank → ¬applies thresholdReached) ∧ (2 < stop.rank → ¬applies stepLimit) := by
  constructor
  · intro h
    exact ⟨h.1, h.2 exhausted, h.2 thresholdReached, h.2 stepLimit⟩
  · rintro ⟨h, hexhausted, hthreshold, hlimit⟩
    refine ⟨h, fun other hother => ?_⟩
    cases other with
    | exhausted => exact hexhausted hother
    | thresholdReached => exact hthreshold hother
    | stepLimit => exact hlimit hother
    | endOfFeed => cases stop <;> simp [rank] at hother

end Stop

/-- The scan of a page that does not end it, together with the scan of what follows. -/
def Scan.after {α : Type} (entries : List α) (rest : Scan α) : Scan α :=
  ⟨entries ++ rest.entries, rest.stop, rest.fetches + 1⟩

namespace Route

variable {α : Type} (route : Route α)

/-- When an entry counts as published: now, if it does not say. -/
def time (entry : α) : Moment :=
  (route.published entry).getD route.now

/-- A moment is the earliest at which one of some entries counts as published. -/
def IsEarliest (entries : List α) (moment : Moment) : Prop :=
  moment ∈ entries.map route.time ∧ ∀ other ∈ entries.map route.time, ¬other.Before moment

/-- There is a threshold, and the earliest of some entries was published before it. -/
def IsPast (entries : List α) : Prop :=
  ∃ threshold earliest, route.threshold = some threshold ∧
    route.IsEarliest entries earliest ∧ earliest.Before threshold

/-- Whether a reason to stop applies to a page, which is the last of `count` fetched ones. -/
def Applies (budget count : Nat) (page : Page α) : Stop → Prop
  | .exhausted => page.entries = []
  | .thresholdReached => route.IsPast page.entries
  | .stepLimit => budget ≤ count
  | .endOfFeed => page.next = none

/-- Why a scan that may fetch `more` further pages ends with a page, if it does. -/
def lastStop? (more : Nat) (page : Page α) : Option Stop :=
  route.stopAt? page.entries <|>
    (if more = 0 then some .stepLimit else none) <|>
    if page.next.isNone then some .endOfFeed else none

/-- The route of a feed whose pages are read without further requests. -/
def ofReader (fetcher : Fetcher) (read : Url → String → Except Failure (Page α))
    (published : α → Option Moment) (threshold : Option Moment) (now : Moment) : Route α where
  fetcher
  read url body := .ofExcept (read url body)
  published
  threshold
  now

/-- Entries have an earliest time of publication. -/
theorem exists_isEarliest {entries : List α} (h : entries ≠ []) :
    ∃ moment, route.IsEarliest entries moment := by
  cases hleast : (entries.map route.time).argmin Moment.serial with
  | none => exact absurd (List.argmin_eq_none.1 hleast) (by simpa using h)
  | some moment =>
    refine ⟨moment, List.argmin_mem hleast, fun other hother => ?_⟩
    exact List.not_lt_of_mem_argmin hother hleast

/-- Entries reach back past the threshold exactly if the earliest of them was published before
it. -/
theorem reachesBack_iff (entries : List α) :
    route.reachesBack entries = true ↔ route.IsPast entries := by
  cases hthreshold : route.threshold with
  | none => simp [reachesBack, IsPast, hthreshold]
  | some threshold =>
    simp only [reachesBack, IsPast, hthreshold, Option.any_some, List.any_eq_true,
      decide_eq_true_eq, Option.some.injEq]
    constructor
    · rintro ⟨entry, hentry, hbefore⟩
      -- The earliest entry was published no later than the one found.
      obtain ⟨earliest, hearliest⟩ := route.exists_isEarliest (List.ne_nil_of_mem hentry)
      have hle : ¬(route.time entry).Before earliest :=
        hearliest.2 _ (List.mem_map_of_mem hentry)
      refine ⟨threshold, earliest, rfl, hearliest, ?_⟩
      exact lt_of_le_of_lt (not_lt.1 hle) hbefore
    · rintro ⟨_, earliest, rfl, ⟨hmem, -⟩, hbefore⟩
      obtain ⟨entry, hentry, rfl⟩ := List.mem_map.1 hmem
      exact ⟨entry, hentry, hbefore⟩

/-- One more page in the budget and one more page fetched make no difference. -/
theorem applies_succ_succ (budget count : Nat) (page : Page α) (stop : Stop) :
    route.Applies (budget + 1) (count + 1) page stop ↔ route.Applies budget count page stop := by
  cases stop <;> simp [Applies]

/-- A scan that may fetch `more` further pages ends with a page for the first reason that
applies. -/
theorem lastStop?_eq_some_iff {more : Nat} {page : Page α} {stop : Stop} :
    route.lastStop? more page = some stop ↔
      Stop.IsFirst (route.Applies (more + 1) 1 page) stop := by
  rw [Stop.isFirst_iff]
  -- The cases are split in the order in which the reasons are considered.
  by_cases hempty : page.entries = []
  · cases stop <;> simp [lastStop?, stopAt?, Applies, Stop.rank, hempty]
  by_cases hpast : route.IsPast page.entries
  · have hreach := (route.reachesBack_iff page.entries).2 hpast
    cases stop <;> simp [lastStop?, stopAt?, Applies, Stop.rank, hempty, hreach, hpast]
  have hreach : route.reachesBack page.entries = false :=
    Bool.eq_false_iff.2 fun h => hpast ((route.reachesBack_iff page.entries).1 h)
  by_cases hmore : more = 0
  · cases stop <;> simp [lastStop?, stopAt?, Applies, Stop.rank, hempty, hreach, hpast, hmore]
  · cases stop <;> cases page.next <;>
      simp [lastStop?, stopAt?, Applies, Stop.rank, hempty, hreach, hpast, hmore]

/-- A scan goes on after a page exactly if its entries are no reason to stop, it may fetch another
page, and there is one. -/
theorem lastStop?_eq_none_iff {more : Nat} {page : Page α} :
    route.lastStop? more page = none ↔
      route.stopAt? page.entries = none ∧ more ≠ 0 ∧ ∃ next, page.next = some next := by
  cases hstop : route.stopAt? page.entries <;> cases hnext : page.next <;>
    simp [lastStop?, hstop, hnext]

/-- A scan that goes on after a page has no reason to stop there. -/
theorem not_applies_of_lastStop?_eq_none {more : Nat} {page : Page α}
    (h : route.lastStop? more page = none) (stop : Stop) :
    ¬route.Applies (more + 1) 1 page stop := by
  obtain ⟨hstop, hmore, next, hnext⟩ := route.lastStop?_eq_none_iff.1 h
  rw [stopAt?] at hstop
  split at hstop
  · cases hstop
  next hempty =>
  split at hstop
  · cases hstop
  next hreach =>
  cases stop with
  | exhausted => simpa [Applies] using hempty
  | thresholdReached => exact fun hpast => hreach ((route.reachesBack_iff page.entries).2 hpast)
  | stepLimit => simpa [Applies] using hmore
  | endOfFeed => simp [Applies, hnext]

section ofReader

variable {fetcher : Fetcher} {read : Url → String → Except Failure (Page α)}
  {published : α → Option Moment} {threshold : Option Moment} {now : Moment}

/-- A page that is read without further requests takes one request. -/
theorem fetched_visit_ofReader (url : Url) :
    ((ofReader fetcher read published threshold now).visit url).fetched = [url] := by
  rw [visit, ofReader]
  cases hfetch : fetcher url with
  | ok body => rw [Crawl.fetch_bind_of_ok hfetch, Crawl.fetched_ofExcept]
  | error failure => rw [Crawl.fetch_bind_of_error hfetch]

/-- What comes of a page is what the reader reads from what the fetcher fetches. -/
theorem result_visit_ofReader (url : Url) :
    ((ofReader fetcher read published threshold now).visit url).result =
      fetcher url >>= read url := by
  rw [visit, Crawl.result_bind]
  rfl

end ofReader

/-- A page that cannot be fetched or read fails the scan. -/
theorem scanFrom_of_error {more : Nat} {url : Url} {failure : Failure}
    (h : (route.visit url).result = .error failure) :
    route.scanFrom more url = ⟨(route.visit url).fetched, .error failure⟩ := by
  cases more <;> exact Crawl.bind_of_error h _

/-- A page that ends the scan gives its entries. -/
theorem scanFrom_of_last {more : Nat} {url : Url} {page : Page α} {stop : Stop}
    (h : (route.visit url).result = .ok page) (hlast : route.lastStop? more page = some stop) :
    route.scanFrom more url = ⟨(route.visit url).fetched, .ok ⟨page.entries, stop, 1⟩⟩ := by
  -- The scan has two equations, as it looks for a next page only if it may go there.
  cases more with
  | zero =>
    have hstop : (route.stopAt? page.entries).getD .stepLimit = stop := by
      cases hstop : route.stopAt? page.entries <;> simpa [lastStop?, hstop] using hlast
    rw [scanFrom, Crawl.bind_of_ok h, hstop]
    simp
  | succ more =>
    rw [scanFrom, Crawl.bind_of_ok h]
    cases hstop : route.stopAt? page.entries with
    | some found =>
      have hfound : found = stop := by simpa [lastStop?, hstop] using hlast
      simp [hfound]
    | none =>
      cases hnext : page.next with
      | none =>
        have hend : Stop.endOfFeed = stop := by simpa [lastStop?, hstop, hnext] using hlast
        simp [hend]
      | some next => simp [lastStop?, hstop, hnext] at hlast

/-- A page that does not end the scan gives its entries, and the scan goes on with the next one. -/
theorem scanFrom_of_next {more : Nat} {url next : Url} {page : Page α}
    (h : (route.visit url).result = .ok page) (hgo : route.lastStop? (more + 1) page = none)
    (hnext : page.next = some next) :
    route.scanFrom (more + 1) url =
      ⟨(route.visit url).fetched ++ (route.scanFrom more next).fetched,
        (route.scanFrom more next).result.map (Scan.after page.entries)⟩ := by
  obtain ⟨hstop, -, -⟩ := route.lastStop?_eq_none_iff.1 hgo
  rw [scanFrom, Crawl.bind_of_ok h]
  simp only [hstop, hnext]
  cases hrest : (route.scanFrom more next).result with
  | ok rest =>
    rw [Crawl.bind_of_ok hrest]
    simp [Except.map, Scan.after]
  | error failure =>
    rw [Crawl.bind_of_error hrest]
    simp [Except.map]

end Route

end Footage
