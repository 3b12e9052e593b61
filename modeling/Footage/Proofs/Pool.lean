import Footage.Proofs.Crawl
import Mathlib.Logic.Relation

/-!
# Worker pools

A pool of workers takes on crawls and runs them side by side, one request at a time and in any
order. When a crawl fails the others may be abandoned. The results of a pool that succeeds, and the
requests that it makes, do not depend on the order.

## Main definitions

* `Task`, `Pool`, `Task.Step` and `Pool.Step`: the states of a pool and its steps.
* `Pool.MayRun`: a crawl is one in which a pool may run some crawls.

## Main results

* `Pool.Step.map_result` and `Pool.Step.perm`: what one step preserves.
* `Pool.MayRun.eq_ok_iff` and `Pool.MayRun.perm`: a pool succeeds exactly if all crawls do, with
  their values in order, and then makes the requests of all crawls.
* `Pool.mayRun_mapM`: running the crawls one after the other is one way to run them.
-/

namespace Footage

/-- How far a pool is with a crawl. -/
inductive Task (α : Type) where
  /-- No worker has taken it on. -/
  | waiting (crawl : Crawl α)
  /-- A worker still has to make some requests. -/
  | running (pending : List Url) (result : Except Failure α)
  | done (result : Except Failure α)

namespace Task

variable {α : Type}

/-- The result that the task has or is going to have. -/
def result : Task α → Except Failure α
  | waiting crawl => crawl.result
  | running _ result => result
  | done result => result

/-- The requests that are still to be made. -/
def pending : Task α → List Url
  | waiting crawl => crawl.fetched
  | running pending _ => pending
  | done _ => []

/-- Whether a worker is at the task. -/
def isRunning : Task α → Bool
  | running _ _ => true
  | _ => false

/-- A worker takes on a task, makes its next request or finishes it. -/
inductive Step : Task α → List Url → Task α → Prop
  | start (crawl : Crawl α) : Step (waiting crawl) [] (running crawl.fetched crawl.result)
  | fetch (url : Url) (pending : List Url) (result : Except Failure α) :
      Step (running (url :: pending) result) [url] (running pending result)
  | finish (result : Except Failure α) : Step (running [] result) [] (done result)

/-- A step does not change what the result is going to be. -/
theorem Step.result_eq {task next : Task α} {urls : List Url} (h : Step task urls next) :
    next.result = task.result := by
  cases h <;> rfl

/-- A step makes the requests that come first among those that are still to be made. -/
theorem Step.pending_eq {task next : Task α} {urls : List Url} (h : Step task urls next) :
    task.pending = urls ++ next.pending := by
  cases h <;> rfl

end Task

/-- The tasks of a pool, in the order in which they were given to it, and the requests that were
made. -/
structure Pool (α : Type) where
  tasks : List (Task α)
  fetched : List Url

namespace Pool

variable {α : Type} {workers : Nat}

/-- A pool with crawls that no worker has taken on. -/
def start (crawls : List (Crawl α)) : Pool α :=
  ⟨crawls.map .waiting, []⟩

/-- One task takes a step. No more tasks may run than there are workers. -/
inductive Step (workers : Nat) : Pool α → Pool α → Prop
  | step {task next : Task α} {urls : List Url} (before after : List (Task α)) (fetched : List Url)
      (h : Task.Step task urls next)
      (hworkers : (before ++ next :: after).countP Task.isRunning ≤ workers) :
      Step workers ⟨before ++ task :: after, fetched⟩ ⟨before ++ next :: after, fetched ++ urls⟩

/-- What a pool that has stopped results in. It stops when all tasks have succeeded, or when one has
failed and no worker is at another. -/
inductive Returns (pool : Pool α) : Except Failure (List α) → Prop
  | succeeded (values : List α) (h : pool.tasks = values.map fun value => .done (.ok value)) :
      Returns pool (.ok values)
  | failed (failure : Failure) (h : .done (.error failure) ∈ pool.tasks)
      (hidle : ∀ task ∈ pool.tasks, task.isRunning = false) : Returns pool (.error failure)

/-- A pool may run some crawls in such a way. -/
def MayRun (workers : Nat) (crawls : List (Crawl α)) (crawl : Crawl (List α)) : Prop :=
  ∃ pool, Relation.ReflTransGen (Step workers) (start crawls) pool ∧
    pool.Returns crawl.result ∧ pool.fetched = crawl.fetched

/-- A step does not change what the results are going to be. -/
theorem Step.map_result {pool next : Pool α} (h : Step workers pool next) :
    next.tasks.map Task.result = pool.tasks.map Task.result := by
  obtain ⟨before, after, fetched, hstep, -⟩ := h
  simp [hstep.result_eq]

/-- A step makes requests that were still to be made. -/
theorem Step.perm {pool next : Pool α} (h : Step workers pool next) :
    (next.fetched ++ next.tasks.flatMap Task.pending).Perm
      (pool.fetched ++ pool.tasks.flatMap Task.pending) := by
  obtain @⟨task, next, urls, before, after, fetched, hstep, -⟩ := h
  simp only [List.flatMap_append, List.flatMap_cons, hstep.pending_eq, List.append_assoc]
  refine List.Perm.append_left fetched ?_
  -- The requests move from their task to the front, past those of the tasks before it.
  rw [← List.append_assoc urls, ← List.append_assoc _ urls]
  exact List.perm_append_comm.append_right _

/-- No run changes what the results are going to be. -/
theorem map_result_of_reflTransGen {pool last : Pool α}
    (h : Relation.ReflTransGen (Step workers) pool last) :
    last.tasks.map Task.result = pool.tasks.map Task.result := by
  induction h with
  | refl => rfl
  | tail _ hstep ih => rw [hstep.map_result, ih]

/-- Every run makes requests that were still to be made. -/
theorem perm_of_reflTransGen {pool last : Pool α}
    (h : Relation.ReflTransGen (Step workers) pool last) :
    (last.fetched ++ last.tasks.flatMap Task.pending).Perm
      (pool.fetched ++ pool.tasks.flatMap Task.pending) := by
  induction h with
  | refl => exact .refl _
  | tail _ hstep ih => exact hstep.perm.trans ih

namespace MayRun

variable {crawls : List (Crawl α)} {crawl : Crawl (List α)}

/-- The failure of a pool is that of a crawl. -/
theorem exists_error (h : MayRun workers crawls crawl) {failure : Failure}
    (hfailure : crawl.result = .error failure) :
    ∃ failed ∈ crawls, failed.result = .error failure := by
  obtain ⟨pool, hrun, hreturns, -⟩ := h
  rw [hfailure] at hreturns
  obtain _ | ⟨_, hfailed, -⟩ := hreturns
  have hresults := map_result_of_reflTransGen hrun
  have hmem : .error failure ∈ pool.tasks.map Task.result :=
    List.mem_map.2 ⟨_, hfailed, rfl⟩
  rw [hresults, start, List.map_map] at hmem
  exact List.mem_map.1 hmem

/-- A pool that runs crawls without faults has none. -/
theorem faultless (h : MayRun workers crawls crawl)
    (hcrawls : ∀ crawl ∈ crawls, Faultless crawl.result) : Faultless crawl.result := by
  intro failure hfailure
  obtain ⟨failed, hfailed, hresult⟩ := h.exists_error hfailure
  exact hcrawls failed hfailed failure hresult

/-- A pool succeeds exactly if all crawls do. The values are those of the crawls, in their order. -/
theorem eq_ok_iff (h : MayRun workers crawls crawl) {values : List α} :
    crawl.result = .ok values ↔ crawls.map Crawl.result = values.map .ok := by
  have hok : ∀ values, crawl.result = .ok values → crawls.map Crawl.result = values.map .ok := by
    intro values hvalues
    obtain ⟨pool, hrun, hreturns, -⟩ := h
    rw [hvalues] at hreturns
    obtain ⟨_, htasks⟩ | _ := hreturns
    have hresults := map_result_of_reflTransGen hrun
    rw [htasks, start, List.map_map, List.map_map] at hresults
    exact hresults.symm
  refine ⟨hok values, fun hvalues => ?_⟩
  -- If all crawls succeed, the pool cannot have stopped for a failure.
  cases hresult : crawl.result with
  | ok others =>
    have hothers := (hok others hresult).symm.trans hvalues
    rw [List.map_injective_iff.2 (fun _ _ => Except.ok.inj) hothers]
  | error failure =>
    obtain ⟨failed, hfailed, hfailure⟩ := h.exists_error hresult
    have hmem : .error failure ∈ values.map Except.ok := by
      rw [← hvalues, ← hfailure]
      exact List.mem_map_of_mem hfailed
    simp at hmem

/-- A pool that succeeds makes the requests of all crawls, in some order. -/
theorem perm (h : MayRun workers crawls crawl) {values : List α}
    (hvalues : crawl.result = .ok values) :
    crawl.fetched.Perm (crawls.flatMap Crawl.fetched) := by
  obtain ⟨pool, hrun, hreturns, hfetched⟩ := h
  rw [hvalues] at hreturns
  obtain ⟨_, htasks⟩ | _ := hreturns
  have hperm := perm_of_reflTransGen hrun
  -- At the start all requests of the crawls are pending, at the end none is.
  have hstart : (start crawls).tasks.flatMap Task.pending = crawls.flatMap Crawl.fetched := by
    simp [start, List.flatMap_map, Task.pending]
  have hend : pool.tasks.flatMap Task.pending = [] := by
    simp [htasks, Task.pending]
  rw [hstart, hend, List.append_nil, hfetched] at hperm
  exact hperm

end MayRun

/-! ## One crawl after the other -/

/-- At most one task runs where the others are idle. -/
private theorem countP_isRunning_le {before after : List (Task α)}
    (hbefore : ∀ task ∈ before, task.isRunning = false)
    (hafter : ∀ task ∈ after, task.isRunning = false) (hworkers : 1 ≤ workers) (task : Task α) :
    (before ++ task :: after).countP Task.isRunning ≤ workers := by
  rw [List.countP_append, List.countP_cons, List.countP_eq_zero.2 (by simpa using hbefore),
    List.countP_eq_zero.2 (by simpa using hafter)]
  split <;> omega

/-- A worker that has taken on a task makes its requests in order. -/
private theorem reflTransGen_running {before after : List (Task α)}
    (hbefore : ∀ task ∈ before, task.isRunning = false)
    (hafter : ∀ task ∈ after, task.isRunning = false) (hworkers : 1 ≤ workers)
    (pending fetched : List Url) (result : Except Failure α) :
    Relation.ReflTransGen (Step workers) ⟨before ++ .running pending result :: after, fetched⟩
      ⟨before ++ .done result :: after, fetched ++ pending⟩ := by
  have hidle := countP_isRunning_le hbefore hafter hworkers
  induction pending generalizing fetched with
  | nil => exact .single (.step before after fetched (.finish result) (hidle _))
  | cons url pending ih =>
    have hstep : Step workers ⟨before ++ .running (url :: pending) result :: after, fetched⟩
        ⟨before ++ .running pending result :: after, fetched ++ [url]⟩ :=
      .step before after fetched (.fetch url pending result) (hidle _)
    have hrest := ih (fetched ++ [url])
    rw [List.append_assoc, List.singleton_append] at hrest
    exact .head hstep hrest

/-- One worker can take on a task and finish it while the others are idle. -/
private theorem reflTransGen_waiting {before after : List (Task α)}
    (hbefore : ∀ task ∈ before, task.isRunning = false)
    (hafter : ∀ task ∈ after, task.isRunning = false) (hworkers : 1 ≤ workers)
    (crawl : Crawl α) (fetched : List Url) :
    Relation.ReflTransGen (Step workers) ⟨before ++ .waiting crawl :: after, fetched⟩
      ⟨before ++ .done crawl.result :: after, fetched ++ crawl.fetched⟩ := by
  have hstep := Step.step before after fetched (.start crawl)
    (countP_isRunning_le hbefore hafter hworkers _)
  rw [List.append_nil] at hstep
  exact .head hstep (reflTransGen_running hbefore hafter hworkers _ _ _)

/-- Where some tasks have succeeded, the crawls of the others can be run one after the other. -/
private theorem exists_reflTransGen_mapM (hworkers : 1 ≤ workers) (values : List α)
    (crawls : List (Crawl α)) (fetched : List Url) :
    ∃ pool : Pool α, Relation.ReflTransGen (Step workers)
        ⟨values.map (fun value => .done (.ok value)) ++ crawls.map .waiting, fetched⟩ pool ∧
      pool.Returns ((crawls.mapM id).result.map (values ++ ·)) ∧
      pool.fetched = fetched ++ (crawls.mapM id).fetched := by
  induction crawls generalizing values fetched with
  | nil =>
    refine ⟨_, .refl, ?_, ?_⟩
    · exact .succeeded (values ++ []) (by simp)
    · simp
  | cons crawl crawls ih =>
    have hdone : ∀ task ∈ values.map fun value => Task.done (.ok value),
        task.isRunning = false := by
      simp [Task.isRunning]
    have hwaiting : ∀ task ∈ crawls.map Task.waiting, task.isRunning = false := by
      simp [Task.isRunning]
    have hrun := reflTransGen_waiting hdone hwaiting hworkers crawl fetched
    rw [List.mapM_cons, List.map_cons]
    -- The first crawl is run by itself, and then the rest from where it leaves the pool.
    cases hcrawl : crawl.result with
    | error failure =>
      -- The crawls after one that failed are abandoned.
      have hcrawl' : (id crawl).result = .error failure := hcrawl
      rw [hcrawl] at hrun
      refine ⟨_, hrun, ?_, ?_⟩
      · rw [Crawl.bind_of_error hcrawl']
        refine .failed failure (by simp) fun task htask => ?_
        rcases List.mem_append.1 htask with htask | htask
        · exact hdone task htask
        rcases List.mem_cons.1 htask with rfl | htask
        · rfl
        · exact hwaiting task htask
      · rw [Crawl.bind_of_error hcrawl']
        rfl
    | ok value =>
      have hcrawl' : (id crawl).result = .ok value := hcrawl
      obtain ⟨pool, hrest, hreturns, hfetched⟩ := ih (values ++ [value]) (fetched ++ crawl.fetched)
      rw [List.map_append, List.append_assoc, List.map_singleton, List.singleton_append, ← hcrawl]
        at hrest
      refine ⟨pool, hrun.trans hrest, ?_, ?_⟩
      · rw [Crawl.bind_of_ok hcrawl', Crawl.result_bind]
        cases hcrawls : (crawls.mapM id).result <;>
          simpa [hcrawls, Except.map] using hreturns
      · rw [hfetched, Crawl.bind_of_ok hcrawl', List.append_assoc]
        cases hcrawls : (crawls.mapM id).result with
        | ok rest => simp [Crawl.bind_of_ok hcrawls]
        | error failure => simp [Crawl.bind_of_error hcrawls]

/-- Running the crawls one after the other is one way to run them. -/
theorem mayRun_mapM (hworkers : 1 ≤ workers) (crawls : List (Crawl α)) :
    MayRun workers crawls (crawls.mapM id) := by
  obtain ⟨pool, hrun, hreturns, hfetched⟩ := exists_reflTransGen_mapM hworkers [] crawls []
  refine ⟨pool, hrun, ?_, hfetched⟩
  cases hresult : (crawls.mapM id).result <;> simpa [hresult, Except.map] using hreturns

end Pool

end Footage
