import Footage.Feed.Forum
import Footage.Proofs.Address.Pairs
import Footage.Proofs.Forum
import Footage.Proofs.Stored.Digits

/-!
# Numbers of pages

The address of the next page of a listing has the next number and is otherwise the same. So the
pages are numbered without a gap, no address comes twice, and the numbers end where they would no
longer fit 64 bits.

## Main definitions

* `Url.Renumbers`: a URL that differs from another one in the number of the page only.
* `Url.CountsUp`: the pages after a URL, told by their numbers.

## Main results

* `Url.nextPage?_eq_some_iff` and `Url.nextPage?_eq_none_iff`: one step.
* `Url.pageAfter?_of_lt` and `Url.pageAfter?_of_le`: any number of steps.
* `Url.countsUp`: all of this together.
-/

namespace Footage

open Text

/-- What is read off the digits of a number is the number, if it lies below the limit. -/
theorem Text.readUnsigned?_decimal {limit n : Nat} (h : n < limit) :
    readUnsigned? limit (decimal n) = some n :=
  readUnsigned?_eq_some_iff.2 ⟨.plain (denotes_decimal n), h⟩

/-- What is read lies below the limit. -/
theorem Text.readUnsigned?_lt {limit n : Nat} {text : List Char}
    (h : readUnsigned? limit text = some n) : n < limit :=
  (readUnsigned?_eq_some_iff.1 h).2

namespace Url

/-- The value of a key in pairs of which the values of this key were replaced. -/
theorem lookup_map_replace (key value : String) (pairs : List Pair) :
    (pairs.map fun (other, old) => (other, if other = key then value else old)).lookup key =
      (pairs.lookup key).map fun _ => value := by
  induction pairs with
  | nil => rfl
  | cons pair pairs ih =>
    obtain ⟨other, old⟩ := pair
    rw [List.map_cons, List.lookup_cons, List.lookup_cons, ih]
    by_cases hkey : other = key
    · simp [hkey]
    · have hkey' : (key == other) = false := by simpa using Ne.symm hkey
      simp [hkey']

/-- A URL that has another number of a page in all places, and is otherwise the same. -/
structure Renumbers (page url : Url) (number : Nat) : Prop where
  scheme : page.scheme = url.scheme
  authority : page.authority = url.authority
  path : page.path = url.path
  fragment : page.fragment = url.fragment
  queryPairs : page.queryPairs = url.queryPairs.map fun (key, value) =>
    (key, if key = pageKey then String.ofList (decimal number) else value)

variable {url page next : Url} {n m : Nat}

/-! ## One step -/

theorem pageNumber?_eq_none_iff :
    url.pageNumber? = none ↔ ∀ pair ∈ url.queryPairs, pair.1 ≠ pageKey := by
  rw [pageNumber?, Option.map_eq_none_iff, List.lookup_eq_none_iff]
  simp only [bne_iff_ne, ne_comm]

theorem pageNumber?_eq_some_iff :
    url.pageNumber? = some n ↔ ∃ value, url.queryPairs.lookup pageKey = some value ∧
      (readUnsigned? UInt64.size value.toList).getD 0 = n := by
  rw [pageNumber?, Option.map_eq_some_iff]

/-- The number of a page fits 64 bits. -/
theorem pageNumber?_lt (h : url.pageNumber? = some n) : n < UInt64.size := by
  obtain ⟨value, -, rfl⟩ := pageNumber?_eq_some_iff.1 h
  cases hread : readUnsigned? UInt64.size value.toList with
  | none => exact Nat.two_pow_pos 64
  | some number => exact readUnsigned?_lt hread

/-- The next page has the next number, if this fits 64 bits. -/
theorem nextPage?_eq_some_iff :
    url.nextPage? = some next ↔ ∃ n, url.pageNumber? = some n ∧ n + 1 < UInt64.size ∧
      next = url.withQueryPairs (url.queryPairs.map fun (key, value) =>
        (key, if key = pageKey then String.ofList (decimal (n + 1)) else value)) := by
  rw [nextPage?]
  constructor
  · intro h
    obtain ⟨n, hnumber, hnext⟩ := Option.bind_eq_some_iff.1 h
    dsimp only at hnext
    split_ifs at hnext with hlt
    cases hnext
    exact ⟨n, hnumber, hlt, rfl⟩
  · rintro ⟨n, hnumber, hlt, rfl⟩
    simp [hnumber, hlt]

/-- There is no next page exactly if the page has no number or the last one that fits 64 bits. -/
theorem nextPage?_eq_none_iff :
    url.nextPage? = none ↔
      url.pageNumber? = none ∨ url.pageNumber? = some (UInt64.size - 1) := by
  constructor
  · intro h
    cases hnumber : url.pageNumber? with
    | none => exact .inl rfl
    | some n =>
      -- A number whose successor fits would have a next page, and none is larger than the last.
      have hsize := pageNumber?_lt hnumber
      have hlast : ¬n + 1 < UInt64.size := by
        intro hlt
        have hnext := nextPage?_eq_some_iff.2 ⟨n, hnumber, hlt, rfl⟩
        rw [h] at hnext
        cases hnext
      exact .inr (congrArg some (by omega))
  · intro h
    rw [Option.eq_none_iff_forall_not_mem]
    intro next hnext
    obtain ⟨n, hnumber, hlt, -⟩ := nextPage?_eq_some_iff.1 hnext
    rw [hnumber] at h
    simp only [reduceCtorEq, Option.some.injEq, false_or] at h
    omega

theorem renumbers_of_nextPage? (hnumber : url.pageNumber? = some n)
    (h : url.nextPage? = some next) : next.Renumbers url (n + 1) := by
  obtain ⟨m, hm, -, rfl⟩ := nextPage?_eq_some_iff.1 h
  rw [hnumber] at hm
  cases hm
  exact ⟨rfl, rfl, rfl, rfl, queryPairs_withQueryPairs url _⟩

/-- A page has the number that it was given. -/
theorem Renumbers.pageNumber? (h : page.Renumbers url m) (hnumber : url.pageNumber? = some n)
    (hm : m < UInt64.size) : page.pageNumber? = some m := by
  obtain ⟨value, hvalue, -⟩ := pageNumber?_eq_some_iff.1 hnumber
  rw [Url.pageNumber?, h.queryPairs, lookup_map_replace, hvalue]
  simp [readUnsigned?_decimal hm]

/-- Of two numbers that are given one after the other, the later one counts. -/
theorem Renumbers.trans (hnext : next.Renumbers page m) (hpage : page.Renumbers url n) :
    next.Renumbers url m where
  scheme := hnext.scheme.trans hpage.scheme
  authority := hnext.authority.trans hpage.authority
  path := hnext.path.trans hpage.path
  fragment := hnext.fragment.trans hpage.fragment
  queryPairs := by
    rw [hnext.queryPairs, hpage.queryPairs, List.map_map]
    refine List.map_congr_left fun pair _ => ?_
    by_cases hkey : pair.1 = pageKey <;> simp [hkey]

/-! ## Any number of steps -/

/-- The numbers of the pages grow by one, as long as they fit 64 bits. -/
theorem pageAfter?_of_lt (hnumber : url.pageNumber? = some n) {k : Nat}
    (hk : n + k < UInt64.size) :
    ∃ page, pageAfter? k url = some page ∧ page.pageNumber? = some (n + k) ∧
      (0 < k → page.Renumbers url (n + k)) := by
  induction k generalizing url n with
  | zero => exact ⟨url, rfl, hnumber, fun h => absurd h (lt_irrefl 0)⟩
  | succ k ih =>
    -- The first step leads to the next number, from which there are fewer steps to go.
    have hlt : n + 1 < UInt64.size := by omega
    have hnext := nextPage?_eq_some_iff.2 ⟨n, hnumber, hlt, rfl⟩
    have hrenumbers := renumbers_of_nextPage? hnumber hnext
    obtain ⟨page, hpage, hpageNumber, hrest⟩ :=
      ih (hrenumbers.pageNumber? hnumber hlt) (by omega)
    have hsum : n + 1 + k = n + (k + 1) := by omega
    rw [hsum] at hpageNumber hrest
    refine ⟨page, by rw [pageAfter?, hnext, Option.bind_some, hpage], hpageNumber, fun _ => ?_⟩
    -- What the later steps change, the first one has changed before.
    rcases Nat.eq_zero_or_pos k with rfl | hpos
    · cases hpage
      exact hrenumbers
    · exact (hrest hpos).trans hrenumbers

/-- Where the numbers would no longer fit 64 bits, there are no more pages. -/
theorem pageAfter?_of_le (hnumber : url.pageNumber? = some n) {k : Nat}
    (hk : UInt64.size ≤ n + k) : pageAfter? k url = none := by
  induction k generalizing url n with
  | zero => exact absurd (pageNumber?_lt hnumber) (by omega)
  | succ k ih =>
    rw [pageAfter?]
    cases hnext : url.nextPage? with
    | none => rfl
    | some next =>
      obtain ⟨m, hm, hlt, -⟩ := nextPage?_eq_some_iff.1 hnext
      rw [hnumber] at hm
      cases hm
      have hnextNumber := (renumbers_of_nextPage? hnumber hnext).pageNumber? hnumber hlt
      exact ih hnextNumber (by omega)

theorem isSome_pageAfter?_iff (hnumber : url.pageNumber? = some n) {k : Nat} :
    (pageAfter? k url).isSome = true ↔ n + k < UInt64.size := by
  constructor
  · intro h
    by_contra hnot
    rw [pageAfter?_of_le hnumber (not_lt.1 hnot)] at h
    cases h
  · intro h
    obtain ⟨page, hpage, -⟩ := pageAfter?_of_lt hnumber h
    rw [hpage, Option.isSome_some]

/-- A page that comes a number of pages later has the number that is greater by as much, and is
otherwise the same. -/
theorem pageNumber?_of_pageAfter? (hnumber : url.pageNumber? = some n) {k : Nat}
    (h : pageAfter? k url = some page) :
    page.pageNumber? = some (n + k) ∧ (0 < k → page.Renumbers url (n + k)) := by
  have hlt := (isSome_pageAfter?_iff hnumber).1 (Option.isSome_of_mem h)
  obtain ⟨other, hother, hlater⟩ := pageAfter?_of_lt hnumber hlt
  rw [h] at hother
  cases hother
  exact hlater

/-- A page without a number is the only one. -/
theorem pageAfter?_of_none (hnumber : url.pageNumber? = none) {k : Nat} (hk : 0 < k) :
    pageAfter? k url = none := by
  obtain ⟨k, rfl⟩ := Nat.exists_eq_succ_of_ne_zero (Nat.ne_of_gt hk)
  rw [pageAfter?, nextPage?_eq_none_iff.2 (.inl hnumber), Option.bind_none]

/-- The pages after a URL, told by their numbers. The number of the URL itself is the value of the
first key for it, or zero where this value is no number below `2 ^ 64`. -/
structure CountsUp (url : Url) : Prop where
  /-- There is no next page exactly if no key is there or the first one has the last number. -/
  ends_iff : url.nextPage? = none ↔
    (∀ pair ∈ url.queryPairs, pair.1 ≠ "page") ∨
      ∃ value, url.queryPairs.lookup "page" = some value ∧
        readUnsigned? (2 ^ 64) value.toList = some (2 ^ 64 - 1)
  /-- Otherwise the next page has the next number in all places and is otherwise the same. -/
  next : ∀ next, url.nextPage? = some next →
    ∃ value, url.queryPairs.lookup "page" = some value ∧
      next.Renumbers url ((readUnsigned? (2 ^ 64) value.toList).getD 0 + 1)
  /-- The page that comes a number of pages later has the number that is greater by as much, and is
  otherwise the same. -/
  after : ∀ value, url.queryPairs.lookup "page" = some value →
    ∀ k page, pageAfter? k url = some page →
      page.pageNumber? = some ((readUnsigned? (2 ^ 64) value.toList).getD 0 + k) ∧
        (0 < k → page.Renumbers url ((readUnsigned? (2 ^ 64) value.toList).getD 0 + k))
  /-- The pages last until the numbers no longer fit. -/
  exists_iff : ∀ value, url.queryPairs.lookup "page" = some value →
    ∀ k, (pageAfter? k url).isSome = true ↔
      (readUnsigned? (2 ^ 64) value.toList).getD 0 + k < 2 ^ 64
  /-- No address comes twice. -/
  distinct : ∀ i j page, i < j → pageAfter? i url = some page → pageAfter? j url ≠ some page
  /-- The pages come to an end. -/
  ends : ∃ k, pageAfter? k url = none

/-- The pages after a URL are numbered without a gap. No address comes twice, and the pages come to
an end where the numbers no longer fit 64 bits. -/
theorem countsUp (url : Url) : url.CountsUp where
  ends_iff := by
    rw [nextPage?_eq_none_iff, pageNumber?_eq_none_iff, pageNumber?_eq_some_iff]
    refine or_congr Iff.rfl (exists_congr fun value => and_congr Iff.rfl ?_)
    -- The last number is not the one that stands for an unreadable value.
    cases readUnsigned? UInt64.size value.toList with
    | none => decide
    | some number => simp
  next next hnext := by
    obtain ⟨n, hnumber, -, -⟩ := nextPage?_eq_some_iff.1 hnext
    have hrenumbers := renumbers_of_nextPage? hnumber hnext
    obtain ⟨value, hvalue, rfl⟩ := pageNumber?_eq_some_iff.1 hnumber
    exact ⟨value, hvalue, hrenumbers⟩
  after value hvalue k page hpage := by
    have hnumber := pageNumber?_eq_some_iff.2 ⟨value, hvalue, rfl⟩
    exact pageNumber?_of_pageAfter? hnumber hpage
  exists_iff value hvalue k := by
    have hnumber := pageNumber?_eq_some_iff.2 ⟨value, hvalue, rfl⟩
    exact isSome_pageAfter?_iff hnumber
  distinct i j page hij hi hj := by
    cases hnumber : url.pageNumber? with
    | none =>
      rw [pageAfter?_of_none hnumber (Nat.zero_lt_of_lt hij)] at hj
      cases hj
    | some n =>
      -- One page has one number, and the numbers of the two pages differ.
      have hnumbers := (pageNumber?_of_pageAfter? hnumber hi).1.symm.trans
        (pageNumber?_of_pageAfter? hnumber hj).1
      rw [Option.some.injEq] at hnumbers
      omega
  ends := by
    cases hnumber : url.pageNumber? with
    | none => exact ⟨1, pageAfter?_of_none hnumber Nat.one_pos⟩
    | some n => exact ⟨UInt64.size, pageAfter?_of_le hnumber (Nat.le_add_left _ _)⟩

/-- The keys around the number stay as they are, and a second number follows the first. -/
example :
    let url : Url := ⟨"http", some ⟨"", "", "a", none⟩, .segments ["f"],
      some "q=a%26b+c&page=7&&page&=", some "top"⟩
    url.nextPage?.map Url.text = some "http://a/f?q=a%26b+c&page=8&page=8&=#top" := by
  decide +kernel

end Url

end Footage
