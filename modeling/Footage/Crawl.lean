import Footage.Failure
import Footage.Url.Basic

/-!
# Crawls

A computation that fetches pages comes with the addresses that it fetched, in order, whether or not
it succeeds. The first failure ends it.
-/

namespace Footage

/-- What answers requests: the body of a page, or the reason why there is none. -/
abbrev Fetcher := Url → Except Failure String

/-- A computation that fetches pages. -/
structure Crawl (α : Type) where
  /-- The addresses that were fetched, in order. -/
  fetched : List Url
  result : Except Failure α

namespace Crawl

variable {α β : Type}

/-- A computation that fetches nothing. -/
def ofExcept (result : Except Failure α) : Crawl α :=
  ⟨[], result⟩

/-- Goes on with the result of a computation, unless that failed. -/
def bind (crawl : Crawl α) (next : α → Crawl β) : Crawl β :=
  match crawl.result with
  | .ok value =>
    let rest := next value
    ⟨crawl.fetched ++ rest.fetched, rest.result⟩
  | .error failure => ⟨crawl.fetched, .error failure⟩

instance : Monad Crawl where
  pure value := ofExcept (.ok value)
  bind := bind

/-- Fetches a page. -/
def fetch (fetcher : Fetcher) (url : Url) : Crawl String :=
  ⟨[url], fetcher url⟩

/-- Goes on without a result if a computation failed, unless the rules are at fault. -/
def attempt (crawl : Crawl α) : Crawl (Option α) where
  fetched := crawl.fetched
  result :=
    match crawl.result with
    | .ok value => .ok (some value)
    | .error failure => if failure.isConfiguration then .error failure else .ok none

end Crawl

end Footage
