import Footage.Proofs.Scan.Step
import Mathlib.Order.Bounds.Defs

/-!
# Scans follow the chain of pages

The pages of a feed form a chain: each page names the address of the next one. A scan walks along
the chain up to the first page with which it must end. This module states the chain and its end
without the scan, and shows that the scan is the walk along it.

## Main definitions

* `Route.address?`: the addresses of the chain.
* `Route.EndsAt`: a page with which a scan must end.
* `Route.IsScan`: a crawl is the walk along the chain up to the least page that ends it.

## Main results

* `Route.exists_isScan_scanFrom`: a scan is such a walk, by induction on the number of further
  pages that it may fetch.
* `Route.scan_ofReader_isScan`: the same for the scan of a feed with a budget, which always ends
  within it.
-/

namespace Footage

open Calendar

namespace Route

variable {α : Type} (route : Route α)

/-- What comes of fetching and reading the page at an address. -/
def outcome (url : Url) : Except Failure (Page α) :=
  (route.visit url).result

/-- The address of the page with a number, counted from zero: the start, and then the address that
each page names as its next one. -/
def address? (start : Url) : Nat → Option Url
  | 0 => some start
  | i + 1 => (address? start i).bind fun url => (route.outcome url).toOption.bind Page.next

/-- The page with a number, counted from zero, must end a scan: it cannot be fetched or read, or a
reason to stop applies to it. -/
def EndsAt (budget : Nat) (start : Url) (i : Nat) : Prop :=
  ∃ url, route.address? start i = some url ∧
    ((∃ failure, route.outcome url = .error failure) ∨
      ∃ page stop, route.outcome url = .ok page ∧ route.Applies budget (i + 1) page stop)

/-- A crawl is the walk along the chain of pages up to the page with the number `last`. -/
structure IsScan (budget : Nat) (start : Url) (last : Nat) (crawl : Crawl (Scan α)) : Prop where
  /-- No earlier page ends the walk. -/
  isLeast : IsLeast {i | route.EndsAt budget start i} last
  /-- The pages up to the last one are fetched in the order of the chain, and nothing else. -/
  fetched : crawl.fetched.map some = (List.range (last + 1)).map (route.address? start)
  /-- What is wrong with the last page is wrong with the walk. -/
  failed : ∀ url failure, route.address? start last = some url →
    route.outcome url = .error failure → crawl.result = .error failure
  /-- If the last page is read, then so are the others. The walk gathers the entries of all of
  them, and ends for the first reason that applies to the last page. -/
  succeeded : ∀ url page, route.address? start last = some url → route.outcome url = .ok page →
    ∃ (pages : List (Page α)) (stop : Stop), crawl.fetched.map route.outcome = pages.map .ok ∧
      Stop.IsFirst (route.Applies budget (last + 1) page) stop ∧
      crawl.result = .ok ⟨pages.flatMap Page.entries, stop, last + 1⟩

variable {route} {budget more : Nat} {start url next : Url} {page : Page α}

/-- The chain from a page is the page and the chain from the next one. -/
theorem address?_succ (hpage : route.outcome start = .ok page) (hnext : page.next = some next)
    (i : Nat) : route.address? start (i + 1) = route.address? next i := by
  induction i with
  | zero => simp [address?, hpage, hnext, Except.toOption]
  | succ i ih => rw [address?, ih, address?]

/-- The pages after the first one end a walk from the first page exactly if they end a walk with a
smaller budget from the second page. -/
theorem endsAt_succ (hpage : route.outcome start = .ok page) (hnext : page.next = some next)
    (i : Nat) : route.EndsAt (budget + 1) start (i + 1) ↔ route.EndsAt budget next i := by
  simp only [EndsAt, address?_succ hpage hnext, applies_succ_succ]

/-- A walk that ends with its first page. -/
private theorem isLeast_zero (h : route.EndsAt budget start 0) :
    IsLeast {i | route.EndsAt budget start i} 0 :=
  ⟨h, fun i _ => Nat.zero_le i⟩

/-- A walk that goes on after its first page ends where the walk from the second page does. -/
private theorem isLeast_succ {last : Nat} (hpage : route.outcome start = .ok page)
    (hnext : page.next = some next) (hgo : ¬route.EndsAt (budget + 1) start 0)
    (h : IsLeast {i | route.EndsAt budget next i} last) :
    IsLeast {i | route.EndsAt (budget + 1) start i} (last + 1) := by
  refine ⟨(endsAt_succ hpage hnext last).2 h.1, fun i hi => ?_⟩
  -- The first page is no end, and the others are those of the walk from the second page.
  cases i with
  | zero => exact absurd hi hgo
  | succ i => exact Nat.succ_le_succ (h.2 ((endsAt_succ hpage hnext i).1 hi))

/-- A page that cannot be fetched or read ends the walk at once. -/
theorem isScan_of_error {failure : Failure} (hvisit : (route.visit start).fetched = [start])
    (h : route.outcome start = .error failure) :
    route.IsScan budget start 0 ⟨(route.visit start).fetched, .error failure⟩ where
  isLeast := isLeast_zero ⟨start, rfl, .inl ⟨failure, h⟩⟩
  fetched := by simp [hvisit, address?]
  failed := by
    rintro url other ⟨rfl⟩ hother
    rw [h] at hother
    cases hother
    rfl
  succeeded := by
    rintro url page ⟨rfl⟩ hpage
    rw [h] at hpage
    cases hpage

/-- A page with a reason to stop ends the walk at once. -/
theorem isScan_of_last {stop : Stop} (hvisit : (route.visit start).fetched = [start])
    (h : route.outcome start = .ok page) (hstop : Stop.IsFirst (route.Applies budget 1 page) stop) :
    route.IsScan budget start 0 ⟨(route.visit start).fetched, .ok ⟨page.entries, stop, 1⟩⟩ where
  isLeast := isLeast_zero ⟨start, rfl, .inr ⟨page, stop, h, hstop.1⟩⟩
  fetched := by simp [hvisit, address?]
  failed := by
    rintro url failure ⟨rfl⟩ hfailure
    rw [h] at hfailure
    cases hfailure
  succeeded := by
    rintro url other ⟨rfl⟩ hother
    rw [h] at hother
    cases hother
    exact ⟨[page], stop, by simp [hvisit, h], hstop, by simp⟩

/-- A page without a reason to stop is the first page of a longer walk. -/
theorem isScan_of_next {last : Nat} {rest : Crawl (Scan α)}
    (hvisit : (route.visit start).fetched = [start]) (h : route.outcome start = .ok page)
    (hnext : page.next = some next) (hgo : ∀ stop, ¬route.Applies (budget + 1) 1 page stop)
    (hrest : route.IsScan budget next last rest) :
    route.IsScan (budget + 1) start (last + 1)
      ⟨(route.visit start).fetched ++ rest.fetched, rest.result.map (Scan.after page.entries)⟩ where
  isLeast := by
    refine isLeast_succ h hnext ?_ hrest.isLeast
    -- The first page is read and has no reason to stop.
    rintro ⟨url, ⟨rfl⟩, ⟨failure, hfailure⟩ | ⟨other, stop, hother, happlies⟩⟩
    · rw [h] at hfailure
      cases hfailure
    · rw [h] at hother
      cases hother
      exact hgo stop happlies
  fetched := by
    rw [List.range_succ_eq_map, List.map_cons, List.map_map, hvisit]
    have hchain : route.address? start ∘ Nat.succ = route.address? next :=
      funext (address?_succ h hnext)
    simp [hchain, hrest.fetched, address?]
  failed := by
    intro url failure hurl hfailure
    rw [address?_succ h hnext] at hurl
    rw [hrest.failed url failure hurl hfailure]
    rfl
  succeeded := by
    intro url other hurl hother
    rw [address?_succ h hnext] at hurl
    obtain ⟨pages, stop, hpages, hstop, hresult⟩ := hrest.succeeded url other hurl hother
    refine ⟨page :: pages, stop, by simp [hvisit, h, hpages], ?_, ?_⟩
    · simpa only [Stop.IsFirst, applies_succ_succ] using hstop
    · rw [hresult]
      simp [Except.map, Scan.after]

variable (route) in
/-- A scan is a walk along the chain of pages. -/
theorem exists_isScan_scanFrom (hvisit : ∀ url, (route.visit url).fetched = [url]) (more : Nat)
    (start : Url) :
    ∃ last ≤ more, route.IsScan (more + 1) start last (route.scanFrom more start) := by
  -- A page that does not end the scan leaves a scan from the next page with a smaller budget, whose
  -- chain is the rest of this one.
  induction more using Nat.strongRecOn generalizing start with
  | ind more ih =>
    cases hresult : (route.visit start).result with
    | error failure =>
      rw [route.scanFrom_of_error hresult]
      exact ⟨0, Nat.zero_le more, isScan_of_error (hvisit start) hresult⟩
    | ok page =>
      cases hlast : route.lastStop? more page with
      | some stop =>
        rw [route.scanFrom_of_last hresult hlast]
        have hstop := route.lastStop?_eq_some_iff.1 hlast
        exact ⟨0, Nat.zero_le more, isScan_of_last (hvisit start) hresult hstop⟩
      | none =>
        obtain ⟨-, hmore, next, hnext⟩ := route.lastStop?_eq_none_iff.1 hlast
        obtain ⟨less, rfl⟩ := Nat.exists_eq_succ_of_ne_zero hmore
        obtain ⟨last, hle, hrest⟩ := ih less (Nat.lt_succ_self less) next
        rw [route.scanFrom_of_next hresult hlast hnext]
        refine ⟨last + 1, Nat.succ_le_succ hle, ?_⟩
        exact isScan_of_next (hvisit start) hresult hnext
          (route.not_applies_of_lastStop?_eq_none hlast) hrest

/-- A budget of no pages is a budget of one page. -/
private theorem applies_max (budget count : Nat) (page : Page α) (stop : Stop) :
    route.Applies (max budget 1) (count + 1) page stop ↔
      route.Applies budget (count + 1) page stop := by
  cases stop with
  | stepLimit => simp only [Applies]; omega
  | _ => rfl

/-- A walk with a budget of one page is a walk with a budget of no pages. -/
private theorem IsScan.of_max {last : Nat} {crawl : Crawl (Scan α)}
    (h : route.IsScan (max budget 1) start last crawl) : route.IsScan budget start last crawl where
  isLeast := by simpa only [EndsAt, applies_max] using h.isLeast
  fetched := h.fetched
  failed := h.failed
  succeeded := by simpa only [Stop.IsFirst, applies_max] using h.succeeded

/-- The scan of a feed is the walk along its chain of pages up to the first page that must end it:
the page that cannot be fetched or read, has no entries, reaches back past the threshold, exhausts
the budget or has no next page. It fetches no more pages than the budget, but always one, even
where the addresses repeat. -/
theorem scan_ofReader_isScan (fetcher : Fetcher) (read : Url → String → Except Failure (Page α))
    (published : α → Option Moment) (threshold : Option Moment) (now : Moment) (budget : Nat)
    (start : Url) :
    let route := ofReader fetcher read published threshold now
    (∀ url, route.outcome url = fetcher url >>= read url) ∧
      (∃ last, route.IsScan budget start last (route.scan budget start)) ∧
      (route.scan budget start).fetched.length ≤ max budget 1 := by
  intro route
  have houtcome : ∀ url, route.outcome url = fetcher url >>= read url := result_visit_ofReader
  -- The scan treats a budget of no pages as one of one page, and so do the conditions.
  obtain ⟨last, hle, hscan⟩ :=
    route.exists_isScan_scanFrom fetched_visit_ofReader (budget - 1) start
  have hbudget : budget - 1 + 1 = max budget 1 := by omega
  rw [hbudget] at hscan
  refine ⟨houtcome, ⟨last, hscan.of_max⟩, ?_⟩
  have hlength := congrArg List.length hscan.fetched
  simp only [List.length_map, List.length_range] at hlength
  rw [scan, hlength]
  omega

end Route

end Footage
