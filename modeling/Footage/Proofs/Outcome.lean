import Footage.Failure
import Mathlib.Data.List.Forall2

/-!
# Outcomes

Computations that may fail, one after the other and over lists, and the failures that are no fault
of the rules.

* `Except.bind_eq_ok_iff` and `Except.mapM_eq_ok_iff`: a sequence of steps succeeds exactly if each
  step does, and the results are those of the steps in order.
* `Except.forM_eq_ok_iff` and `Except.forM_eq_error_iff`: checks over a list pass exactly if each of
  them does, and fail with the first that does not.
* `Faultless`: an outcome that is no misconfiguration. `Faultless.bind` and `Faultless.map`
  carry it through sequences of steps.
* `Option.mapM_eq_some_iff`: steps over a list of which each may find nothing.
-/

namespace Except

variable {ε α β : Type}

/-- A step after a success goes on with its value. -/
@[simp]
theorem ok_bind (value : α) (next : α → Except ε β) : (.ok value >>= next) = next value := rfl

/-- A step after a failure is not taken. -/
@[simp]
theorem error_bind (failure : ε) (next : α → Except ε β) :
    ((.error failure : Except ε α) >>= next) = .error failure := rfl

/-- What is thrown is a failure. -/
@[simp]
theorem throw_eq_error (failure : ε) : (throw failure : Except ε α) = .error failure := rfl

/-- Two steps succeed exactly if the first does and the second does with its value. -/
theorem bind_eq_ok_iff {first : Except ε α} {next : α → Except ε β} {result : β} :
    (first >>= next) = .ok result ↔ ∃ value, first = .ok value ∧ next value = .ok result := by
  cases first with
  | ok value => simp
  | error failure => simp

/-- A changed value comes from a value. -/
theorem map_eq_ok_iff {outcome : Except ε α} {f : α → β} {result : β} :
    outcome.map f = .ok result ↔ ∃ value, outcome = .ok value ∧ f value = result := by
  cases outcome with
  | ok value => simp [Except.map]
  | error failure => simp [Except.map]

/-- A failure has no value to be changed. -/
theorem map_eq_error_iff {outcome : Except ε α} {f : α → β} {failure : ε} :
    outcome.map f = .error failure ↔ outcome = .error failure := by
  cases outcome <;> simp [Except.map]

/-- An outcome that is no success is a failure. -/
theorem exists_eq_error_iff {outcome : Except ε α} :
    (∃ failure, outcome = .error failure) ↔ ¬∃ value, outcome = .ok value := by
  cases outcome <;> simp

/-- The value of an outcome is that of a success. -/
theorem toOption_eq_some_iff {outcome : Except ε α} {value : α} :
    outcome.toOption = some value ↔ outcome = .ok value := by
  cases outcome <;> simp [Except.toOption]

/-- An outcome whose value passes a test is a success. -/
theorem exists_of_any_toOption {outcome : Except ε α} {test : α → Bool}
    (h : outcome.toOption.any test = true) :
    ∃ value, outcome = .ok value ∧ test value = true := by
  obtain ⟨value, hvalue, htest⟩ := (Option.any_eq_true _ _).1 h
  exact ⟨value, toOption_eq_some_iff.1 hvalue, htest⟩

/-- Steps over a list succeed exactly if each of them does, and their results stand in the order
of the list. -/
theorem mapM_eq_ok_iff {step : α → Except ε β} {items : List α} {results : List β} :
    items.mapM step = .ok results ↔
      List.Forall₂ (fun item result => step item = .ok result) items results := by
  induction items generalizing results with
  | nil => cases results <;> simp [pure, Except.pure]
  | cons item items ih =>
    rw [List.mapM_cons]
    simp only [bind_eq_ok_iff, ih]
    constructor
    · rintro ⟨result, hresult, rest, hrest, hcons⟩
      cases hcons
      exact .cons hresult hrest
    · rintro (_ | ⟨hresult, hrest⟩)
      exact ⟨_, hresult, _, hrest, rfl⟩

/-- Each result of steps over a list comes from an item. -/
theorem exists_mem_of_mapM_eq_ok {step : α → Except ε β} {items : List α} {results : List β}
    (h : items.mapM step = .ok results) {result : β} (hresult : result ∈ results) :
    ∃ item ∈ items, step item = .ok result := by
  obtain ⟨i, hi, rfl⟩ := List.getElem_of_mem hresult
  have hforall := mapM_eq_ok_iff.1 h
  have hlength : i < items.length := hforall.length_eq ▸ hi
  exact ⟨items[i], List.getElem_mem hlength, hforall.get hlength hi⟩

/-- Steps over a list that all succeed give the values of the steps in order. -/
theorem mapM_eq_ok_map {step : α → Except ε β} {value : α → β} {items : List α}
    (hstep : ∀ item ∈ items, step item = .ok (value item)) :
    items.mapM step = .ok (items.map value) := by
  rw [mapM_eq_ok_iff, List.forall₂_map_right_iff, List.forall₂_same]
  exact hstep

/-- Outcomes that are all successes have the values that each of them can have. -/
theorem eq_map_of_map_eq_ok {step : α → Except ε β} {value : α → β} {items : List α}
    {results : List β} (hstep : ∀ item result, step item = .ok result → result = value item)
    (h : items.map step = results.map .ok) : results = items.map value := by
  induction items generalizing results with
  | nil => simpa using h.symm
  | cons item items ih =>
    cases results with
    | nil => simp at h
    | cons result results =>
      obtain ⟨hresult, hrest⟩ := List.cons.inj h
      rw [List.map_cons, hstep item result hresult, ih hrest]

/-- Checks over a list pass exactly if each of them does. -/
theorem forM_eq_ok_iff {check : α → Except ε Unit} {items : List α} :
    forM items check = .ok () ↔ ∀ item ∈ items, check item = .ok () := by
  induction items with
  | nil => simp [pure, Except.pure]
  | cons item items ih =>
    rw [List.forM_cons, bind_eq_ok_iff, List.forall_mem_cons, ← ih]
    exact ⟨fun ⟨_, hitem, hrest⟩ => ⟨hitem, hrest⟩, fun ⟨hitem, hrest⟩ => ⟨(), hitem, hrest⟩⟩

/-- Checks over a list fail with the first of them that does not pass. -/
theorem forM_eq_error_iff {check : α → Except ε Unit} {items : List α} {failure : ε} :
    forM items check = .error failure ↔
      ∃ before item after, items = before ++ item :: after ∧
        (∀ other ∈ before, check other = .ok ()) ∧ check item = .error failure := by
  constructor
  · -- Induction on the checks that are left: the first of them fails, or another one does.
    intro h
    induction items with
    | nil => cases h
    | cons item items ih =>
      rw [List.forM_cons] at h
      cases hitem : check item with
      | error cause =>
        rw [hitem] at h
        cases h
        exact ⟨[], item, items, rfl, List.forall_mem_nil _, hitem⟩
      | ok value =>
        rw [hitem, ok_bind] at h
        obtain ⟨before, found, after, rfl, hbefore, hfound⟩ := ih h
        exact ⟨item :: before, found, after, rfl, List.forall_mem_cons.2 ⟨hitem, hbefore⟩, hfound⟩
  · -- The checks before the one that fails all pass, and those after it are not made.
    rintro ⟨before, item, after, rfl, hbefore, hitem⟩
    rw [List.forM_append, forM_eq_ok_iff.2 hbefore, ok_bind, List.forM_cons, hitem, error_bind]

end Except

/-- Steps that may find nothing find the values of a list exactly if each finds its value. -/
theorem Option.mapM_eq_some_iff {α β : Type} {step : α → Option β} {items : List α}
    {results : List β} : items.mapM step = some results ↔
      List.Forall₂ (fun item result => step item = some result) items results := by
  induction items generalizing results with
  | nil => cases results <;> simp
  | cons item items ih =>
    simp only [List.mapM_cons, Option.bind_eq_bind, Option.bind_eq_some_iff, ih]
    constructor
    · rintro ⟨result, hresult, rest, hrest, hcons⟩
      cases hcons
      exact .cons hresult hrest
    · rintro (_ | ⟨hresult, hrest⟩)
      exact ⟨_, hresult, _, hrest, rfl⟩

namespace Footage

variable {α β : Type}

/-- The outcome is no fault of the rules: if it is a failure, it comes from the pages, the network
or the arguments of a call. -/
def Faultless (outcome : Except Failure α) : Prop :=
  ∀ failure, outcome = .error failure → failure.isConfiguration = false

namespace Faultless

/-- A success is no fault of the rules. -/
@[simp]
theorem ok (value : α) : Faultless (.ok value) := by
  intro failure hfailure
  cases hfailure

/-- A failure is no fault of the rules unless it is a misconfiguration. -/
@[simp]
theorem error_iff {failure : Failure} :
    Faultless (.error failure : Except Failure α) ↔ failure.isConfiguration = false := by
  constructor
  · intro h
    exact h failure rfl
  · rintro h _ ⟨rfl⟩
    exact h

/-- What is done after a faultless step stays faultless if each continuation is. -/
theorem bind {first : Except Failure α} {next : α → Except Failure β} (hfirst : Faultless first)
    (hnext : ∀ value, first = .ok value → Faultless (next value)) : Faultless (first >>= next) := by
  cases first with
  | ok value => exact hnext value rfl
  | error failure => simpa using hfirst

/-- A changed value is still no fault of the rules. -/
theorem map {outcome : Except Failure α} (f : α → β) (h : Faultless outcome) :
    Faultless (outcome.map f) := by
  cases outcome with
  | ok value => exact ok (f value)
  | error failure => simpa [Except.map] using h

end Faultless

end Footage
