import Footage.Feed.Forum
import Footage.Proofs.Scan.Step

/-!
# Longer scans extend shorter ones

A scan with a larger budget and an earlier threshold has fewer reasons to stop. It repeats what the
scan with the smaller budget and the later threshold does, and may then go on. What it meets there
is of no concern to the shorter scan.

## Main definitions

* `Route.withThreshold`: the scan of the same feed with another threshold.
* `Route.NoLater`: a threshold that comes no later than another one.
* `Route.IsStartOf`: one scan is the start of another.

## Main results

* `Route.applies_of_withThreshold`: each reason to stop of the longer scan is one of the shorter.
* `Route.isStartOf_scanFrom`: the shorter scan is the start of the longer, by induction on the
  number of further pages that it may fetch.
* `Route.scan_isStartOf_scan`: the same for scans with budgets.
-/

namespace Footage

open Calendar

namespace Route

variable {α : Type} (route : Route α)

/-- The route with another threshold. -/
def withThreshold (threshold : Option Moment) : Route α :=
  { route with threshold }

/-- A threshold comes no later than another one. Having none is the earliest of all. -/
def NoLater (earlier later : Option Moment) : Prop :=
  ∀ moment, earlier = some moment → ∃ limit, later = some limit ∧ ¬limit.Before moment

/-- A scan is the start of a longer one. -/
structure IsStartOf (short long : Crawl (Scan α)) : Prop where
  /-- The longer scan repeats the requests of the shorter before it makes others. -/
  fetched : short.fetched <+: long.fetched
  /-- If the longer scan succeeds, then so does the shorter, with no more pages and with the first
  of its entries. -/
  succeeded : ∀ last, long.result = .ok last → ∃ first, short.result = .ok first ∧
    first.fetches ≤ last.fetches ∧ first.entries <+: last.entries
  /-- Where the feed itself ends the shorter scan, the longer does not differ from it. -/
  identical : ∀ first, short.result = .ok first →
    first.stop = .exhausted ∨ first.stop = .endOfFeed → long = short

variable {route} {earlier : Option Moment}

@[simp]
theorem visit_withThreshold (url : Url) :
    (route.withThreshold earlier).visit url = route.visit url := rfl

/-- Entries that reach back past the earlier threshold reach back past the later one. -/
theorem isPast_of_withThreshold (h : NoLater earlier route.threshold) {entries : List α}
    (hpast : (route.withThreshold earlier).IsPast entries) : route.IsPast entries := by
  obtain ⟨moment, earliest, hmoment, hearliest, hbefore⟩ := hpast
  obtain ⟨limit, hlimit, hle⟩ := h moment hmoment
  exact ⟨limit, earliest, hlimit, hearliest, lt_of_lt_of_le hbefore (not_lt.1 hle)⟩

/-- Each reason to stop with the larger budget and the earlier threshold is a reason with the
smaller budget and the later threshold. -/
theorem applies_of_withThreshold (h : NoLater earlier route.threshold) {budget larger count : Nat}
    (hbudget : budget ≤ larger) {page : Page α} {stop : Stop}
    (hstop : (route.withThreshold earlier).Applies larger count page stop) :
    route.Applies budget count page stop := by
  cases stop with
  | exhausted => exact hstop
  | thresholdReached => exact isPast_of_withThreshold h hstop
  | stepLimit => exact hbudget.trans hstop
  | endOfFeed => exact hstop

/-- Where the shorter scan goes on, the longer does. -/
theorem lastStop?_withThreshold_eq_none (h : NoLater earlier route.threshold) {more larger : Nat}
    (hmore : more ≤ larger) {page : Page α} (hgo : route.lastStop? more page = none) :
    (route.withThreshold earlier).lastStop? larger page = none := by
  refine Option.eq_none_iff_forall_ne_some.2 fun stop hstop => ?_
  have happlies := (lastStop?_eq_some_iff _).1 hstop
  exact not_applies_of_lastStop?_eq_none _ hgo stop
    (applies_of_withThreshold h (Nat.succ_le_succ hmore) happlies.1)

/-- Where the feed itself ends the shorter scan, it ends the longer for the same reason. -/
theorem lastStop?_withThreshold_eq_some (h : NoLater earlier route.threshold) {more larger : Nat}
    (hmore : more ≤ larger) {page : Page α} {stop : Stop}
    (hfeed : stop = .exhausted ∨ stop = .endOfFeed)
    (hlast : route.lastStop? more page = some stop) :
    (route.withThreshold earlier).lastStop? larger page = some stop := by
  obtain ⟨happlies, hfirst⟩ := (lastStop?_eq_some_iff _).1 hlast
  refine (lastStop?_eq_some_iff _).2 ⟨?_, fun other hother hlonger => hfirst other hother ?_⟩
  · -- Neither reason depends on the budget or on the threshold.
    rcases hfeed with rfl | rfl
    · exact happlies
    · exact happlies
  · exact applies_of_withThreshold h (Nat.succ_le_succ hmore) hlonger

/-- A scan is the start of itself. -/
theorem IsStartOf.refl (crawl : Crawl (Scan α)) : IsStartOf crawl crawl where
  fetched := List.prefix_refl _
  succeeded last hlast := ⟨last, hlast, Nat.le_refl _, List.prefix_refl _⟩
  identical _ _ _ := rfl

/-- A page before both scans leaves the one the start of the other. -/
theorem IsStartOf.after {short long : Crawl (Scan α)} (h : IsStartOf short long)
    (fetched : List Url) (entries : List α) :
    IsStartOf ⟨fetched ++ short.fetched, short.result.map (Scan.after entries)⟩
      ⟨fetched ++ long.fetched, long.result.map (Scan.after entries)⟩ where
  fetched := (List.prefix_append_right_inj fetched).2 h.fetched
  succeeded last hlast := by
    obtain ⟨rest, hrest, rfl⟩ := Except.map_eq_ok_iff.1 hlast
    obtain ⟨first, hfirst, hfetches, hentries⟩ := h.succeeded rest hrest
    refine ⟨Scan.after entries first, Except.map_eq_ok_iff.2 ⟨first, hfirst, rfl⟩, ?_, ?_⟩
    · exact Nat.succ_le_succ hfetches
    · exact (List.prefix_append_right_inj entries).2 hentries
  identical first hfirst hstop := by
    obtain ⟨rest, hrest, rfl⟩ := Except.map_eq_ok_iff.1 hfirst
    rw [h.identical rest hrest hstop]

/-- A scan that ends with a page is the start of one that visits this page first. -/
theorem isStartOf_of_last (h : NoLater earlier route.threshold) {more larger : Nat}
    (hmore : more ≤ larger) {url : Url} {page : Page α} {stop : Stop}
    (hpage : (route.visit url).result = .ok page) (hlast : route.lastStop? more page = some stop) :
    IsStartOf (route.scanFrom more url) ((route.withThreshold earlier).scanFrom larger url) := by
  rw [route.scanFrom_of_last hpage hlast]
  cases hlong : (route.withThreshold earlier).lastStop? larger page with
  | some found =>
    rw [scanFrom_of_last (route.withThreshold earlier) hpage hlong, visit_withThreshold]
    refine ⟨List.prefix_refl _, ?_, ?_⟩
    · rintro _ ⟨rfl⟩
      exact ⟨_, rfl, Nat.le_refl _, List.prefix_refl _⟩
    · rintro _ ⟨rfl⟩ hfeed
      rw [lastStop?_withThreshold_eq_some h hmore hfeed hlast] at hlong
      cases hlong
      rfl
  | none =>
    obtain ⟨-, hlarger, next, hnext⟩ := (lastStop?_eq_none_iff _).1 hlong
    obtain ⟨less, rfl⟩ := Nat.exists_eq_succ_of_ne_zero hlarger
    rw [scanFrom_of_next (route.withThreshold earlier) hpage hlong hnext, visit_withThreshold]
    refine ⟨List.prefix_append _ _, ?_, ?_⟩
    · intro last hresult
      obtain ⟨rest, -, rfl⟩ := Except.map_eq_ok_iff.1 hresult
      exact ⟨_, rfl, Nat.succ_le_succ (Nat.zero_le _), List.prefix_append _ _⟩
    · -- The feed cannot end the shorter scan where the longer goes on.
      rintro _ ⟨rfl⟩ hfeed
      rw [lastStop?_withThreshold_eq_some h hmore hfeed hlast] at hlong
      cases hlong

/-- A scan from a page on with the smaller number of further pages and the later threshold is the
start of the one with the larger number and the earlier threshold. -/
theorem isStartOf_scanFrom (h : NoLater earlier route.threshold) {more larger : Nat}
    (hmore : more ≤ larger) (url : Url) :
    IsStartOf (route.scanFrom more url) ((route.withThreshold earlier).scanFrom larger url) := by
  -- The two scans visit the same pages until the shorter one ends.
  induction more using Nat.strongRecOn generalizing larger url with
  | ind more ih =>
    cases hresult : (route.visit url).result with
    | error failure =>
      rw [route.scanFrom_of_error hresult,
        scanFrom_of_error (route.withThreshold earlier) hresult]
      exact .refl _
    | ok page =>
      cases hlast : route.lastStop? more page with
      | some stop => exact isStartOf_of_last h hmore hresult hlast
      | none =>
        have hlong := lastStop?_withThreshold_eq_none h hmore hlast
        obtain ⟨-, hne, next, hnext⟩ := route.lastStop?_eq_none_iff.1 hlast
        obtain ⟨less, rfl⟩ := Nat.exists_eq_succ_of_ne_zero hne
        obtain ⟨fewer, rfl⟩ : ∃ fewer, larger = fewer + 1 :=
          Nat.exists_eq_succ_of_ne_zero (by omega)
        rw [route.scanFrom_of_next hresult hlast hnext,
          scanFrom_of_next (route.withThreshold earlier) hresult hlong hnext]
        exact (ih less (Nat.lt_succ_self less) (Nat.le_of_succ_le_succ hmore) next).after _ _

/-- The scan of a feed with the smaller budget and the later threshold is the start of the scan with
the larger budget and the earlier threshold. If the longer scan succeeds, then the shorter one
succeeds too, fetches no more pages and gathers the first of its entries; if the feed itself ends
the shorter scan, the longer has the same outcome. -/
theorem scan_isStartOf_scan (route : Route α) {earlier : Option Moment}
    (hthreshold : NoLater earlier route.threshold) {budget larger : Nat} (hbudget : budget ≤ larger)
    (start : Url) :
    IsStartOf (route.scan budget start) ((route.withThreshold earlier).scan larger start) :=
  isStartOf_scanFrom hthreshold (Nat.sub_le_sub_right hbudget 1) start

/-- A feed whose first two pages have an entry each, of the ninth and the seventh of a month, and
which is scanned back to the eighth. -/
def countdown : Route Moment where
  fetcher _ := .ok ""
  read url _ :=
    .ofExcept (.ok ⟨match url.pageNumber? with
      | some 1 => [.startOf ⟨2024, 1, 9, by decide⟩]
      | some 2 => [.startOf ⟨2024, 1, 7, by decide⟩]
      | _ => [], url.nextPage?⟩)
  published := some
  threshold := some (.startOf ⟨2024, 1, 8, by decide⟩)
  now := .startOf ⟨2024, 1, 10, by decide⟩

/-- The first page of the countdown. -/
def countdownStart : Url := ⟨"http", some ⟨"", "", "a", none⟩, .segments [""], some "page=1", none⟩

/-- The scan of the countdown back to the eighth ends with the second page. It is the start of the
scan back to the fifth, which goes on to the third page and finds it empty. -/
theorem countdown_isStartOf :
    let earlier := some (Moment.startOf ⟨2024, 1, 5, by decide⟩)
    NoLater earlier countdown.threshold ∧
      ∃ short long : Scan Moment, (countdown.scan 3 countdownStart).result = .ok short ∧
        ((countdown.withThreshold earlier).scan 7 countdownStart).result = .ok long ∧
        short.stop = .thresholdReached ∧ long.stop = .exhausted ∧ long.fetches = 3 ∧
        short.fetches ≤ long.fetches ∧ short.entries <+: long.entries := by
  intro earlier
  have hthreshold : NoLater earlier countdown.threshold := by
    intro moment hmoment
    obtain rfl := Option.some.inj hmoment
    exact ⟨_, rfl, by decide⟩
  have hshort : (countdown.scan 3 countdownStart).result.toOption.any
      (fun scan => scan.stop = .thresholdReached) = true := by
    decide +kernel
  have hlong : ((countdown.withThreshold earlier).scan 7 countdownStart).result.toOption.any
      (fun scan => scan.stop = .exhausted ∧ scan.fetches = 3) = true := by
    decide +kernel
  obtain ⟨long, hlong, hends⟩ := (Option.any_eq_true _ _).1 hlong
  rw [Except.toOption_eq_some_iff] at hlong
  obtain ⟨hstop, hfetches⟩ := of_decide_eq_true hends
  obtain ⟨short, hresult, hfewer, hprefix⟩ :=
    (scan_isStartOf_scan countdown hthreshold (by decide : 3 ≤ 7) countdownStart).succeeded long
      hlong
  rw [hresult] at hshort
  exact ⟨hthreshold, short, long, hresult, hlong, of_decide_eq_true hshort, hstop, hfetches,
    hfewer, hprefix⟩

end Route

end Footage
