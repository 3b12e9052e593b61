import Footage.Crawl
import Footage.Proofs.Outcome

/-!
# Laws of crawls

What a crawl fetches and what it results in, read off its steps. Crawls form a lawful monad: a
step after a success adds its own requests, and a step after a failure is not taken.

* `Crawl.bind_of_ok` and `Crawl.bind_of_error`: the two ways in which a crawl goes on.
* `Crawl.fetch_bind_of_ok` and `Crawl.fetch_bind_of_error`: the same for the fetching of a page.
* `Crawl.result_bind`: the result of a crawl is what its steps result in, whatever they fetch.
* `Crawl.eq_toOption_of_attempt` and `Crawl.result_attempt_of_faultless`: the result of an attempt.
-/

namespace Footage.Crawl

variable {α β : Type}

attribute [ext] Crawl

@[simp]
theorem result_pure (value : α) : (pure value : Crawl α).result = .ok value := rfl

@[simp]
theorem fetched_pure (value : α) : (pure value : Crawl α).fetched = [] := rfl

@[simp]
theorem result_ofExcept (outcome : Except Failure α) : (ofExcept outcome).result = outcome := rfl

@[simp]
theorem fetched_ofExcept (outcome : Except Failure α) : (ofExcept outcome).fetched = [] := rfl

/-- After a success the next step adds its requests and gives the result. -/
theorem bind_of_ok {crawl : Crawl α} {value : α} (h : crawl.result = .ok value)
    (next : α → Crawl β) :
    crawl >>= next = ⟨crawl.fetched ++ (next value).fetched, (next value).result⟩ := by
  change Crawl.bind crawl next = _
  rw [Crawl.bind, h]

/-- After a failure nothing is fetched. -/
theorem bind_of_error {crawl : Crawl α} {failure : Failure} (h : crawl.result = .error failure)
    (next : α → Crawl β) : crawl >>= next = ⟨crawl.fetched, .error failure⟩ := by
  change Crawl.bind crawl next = _
  rw [Crawl.bind, h]

/-- A page that is fetched is gone on with. -/
theorem fetch_bind_of_ok {fetcher : Fetcher} {url : Url} {body : String}
    (h : fetcher url = .ok body) (next : String → Crawl β) :
    fetch fetcher url >>= next = ⟨url :: (next body).fetched, (next body).result⟩ :=
  bind_of_ok h next

/-- After a page that cannot be fetched no other page is. -/
theorem fetch_bind_of_error {fetcher : Fetcher} {url : Url} {failure : Failure}
    (h : fetcher url = .error failure) (next : String → Crawl β) :
    fetch fetcher url >>= next = ⟨[url], .error failure⟩ :=
  bind_of_error h next

/-- What is known already is not fetched. -/
@[simp]
theorem ofExcept_ok_bind (value : α) (next : α → Crawl β) :
    ofExcept (.ok value) >>= next = next value := by
  rw [bind_of_ok (result_ofExcept _)]
  rfl

/-- The result of two steps is that of their results. -/
@[simp]
theorem result_bind (crawl : Crawl α) (next : α → Crawl β) :
    (crawl >>= next).result = crawl.result >>= fun value => (next value).result := by
  cases h : crawl.result with
  | ok value => rw [bind_of_ok h, Except.ok_bind]
  | error failure => rw [bind_of_error h, Except.error_bind]

/-- A crawl whose value is changed makes the same requests. -/
theorem bind_pure_eq (crawl : Crawl α) (f : α → β) :
    (do return f (← crawl)) = ⟨crawl.fetched, crawl.result.map f⟩ := by
  cases hresult : crawl.result with
  | ok value =>
    rw [bind_of_ok hresult]
    simp [Except.map]
  | error failure =>
    rw [bind_of_error hresult]
    rfl

instance : LawfulMonad Crawl :=
  LawfulMonad.mk' Crawl
    (by
      intro α crawl
      change crawl >>= pure = crawl
      cases h : crawl.result with
      | ok value => ext1 <;> simp [bind_of_ok h, h]
      | error failure => ext1 <;> simp [bind_of_error h, h])
    (by
      intro α β value next
      rw [bind_of_ok (result_pure value)]
      rfl)
    (by
      intro α β γ crawl next last
      cases h : crawl.result with
      | ok value =>
        cases hnext : (next value).result with
        | ok middle =>
          have hboth : (crawl >>= next).result = .ok middle := by simp [h, hnext]
          rw [bind_of_ok hboth, bind_of_ok h, bind_of_ok h, bind_of_ok hnext]
          simp
        | error failure =>
          have hboth : (crawl >>= next).result = .error failure := by simp [h, hnext]
          rw [bind_of_error hboth, bind_of_ok h, bind_of_ok h, bind_of_error hnext]
      | error failure =>
        have hboth : (crawl >>= next).result = .error failure := by simp [h]
        rw [bind_of_error hboth, bind_of_error h, bind_of_error h])

/-- An attempt that succeeds has the value of the crawl, if there is one. -/
theorem eq_toOption_of_attempt {crawl : Crawl α} {value : Option α}
    (h : crawl.attempt.result = .ok value) : value = crawl.result.toOption := by
  cases hresult : crawl.result with
  | ok found =>
    have hvalue : some found = value := by simpa [attempt, hresult] using h
    exact hvalue.symm
  | error failure =>
    cases hfailure : failure.isConfiguration with
    | false =>
      have hvalue : none = value := by simpa [attempt, hresult, hfailure] using h
      exact hvalue.symm
    | true => simp [attempt, hresult, hfailure] at h

/-- The attempt of a crawl that is no fault of the rules has its value, if there is one. -/
theorem result_attempt_of_faultless {crawl : Crawl α} (h : Faultless crawl.result) :
    crawl.attempt.result = .ok crawl.result.toOption := by
  cases hresult : crawl.result with
  | ok value => simp [attempt, hresult, Except.toOption]
  | error failure =>
    have hfailure : failure.isConfiguration = false := h failure hresult
    simp [attempt, hresult, hfailure, Except.toOption]

end Footage.Crawl
