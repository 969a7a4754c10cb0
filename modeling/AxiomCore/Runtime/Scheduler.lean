import AxiomCore.Lib.Run

/-!
# The work-stealing scheduler

Each worker has a queue of its own, with one deque for each priority, and there is a global queue for
units that no worker suits. A worker that asks for work gets the last unit of its own queue, else the
last one of the global queue, else the first one of another worker's queue.

- `units_push`, `units_take`: what an operation does to the multiset of units that wait in a queue.
  The scheduler is then a multiset of waiting units (`Scheduler.units`), to which `schedule` adds one
  and from which `get_work` takes one (`units_schedule`, `getWork_cases`).

Source: `axiom-runtime/src/scheduler.rs`.
-/

namespace AxiomCore

open Lib List Function

/-! ## Work units -/

/-- Source: `axiom-runtime/src/executor.rs`, `TaskPriority`. -/
inductive TaskPriority where
  | low
  | normal
  | high
  | critical
  deriving DecidableEq

namespace TaskPriority

def toNat : TaskPriority → Nat
  | .low => 0
  | .normal => 1
  | .high => 2
  | .critical => 3

/-- The order in which the deques are looked at. -/
def highestFirst : List TaskPriority := [.critical, .high, .normal, .low]

lemma mem_highestFirst (p : TaskPriority) : p ∈ highestFirst := by cases p <;> decide

lemma pairwise_highestFirst : highestFirst.Pairwise fun p p' => p'.toNat < p.toNat := by decide

end TaskPriority

inductive AffinityHint where
  | any
  | preferWorker (id : Nat)
  | requireWorker (id : Nat)
  | preferGpu
  | preferNuma (node : UInt8)

/-- Source: `axiom-runtime/src/executor.rs`, `Task`. -/
structure Task (α : Type*) where
  /-- Its name, its handler and the like. -/
  body : α
  priority : TaskPriority

structure WorkUnit (α : Type*) where
  task : Task α
  affinity : AffinityHint

/-! ## Queues -/

inductive DequeEnd where
  | back
  | front

/-- `VecDeque::pop_back` and `VecDeque::pop_front`. -/
def DequeEnd.take {β : Type*} : DequeEnd → List β → Option (β × List β)
  | .back, l => l.getLast?.map fun b => (b, l.dropLast)
  | .front, [] => none
  | .front, b :: l => some (b, l)

lemma DequeEnd.coe_of_take {β : Type*} {e : DequeEnd} {l rest : List β} {b : β}
    (h : e.take l = some (b, rest)) : (l : Multiset β) = b ::ₘ (rest : Multiset β) := by
  cases e with
  | back =>
    obtain ⟨last, hlast, heq⟩ := Option.map_eq_some_iff.mp h
    obtain ⟨rfl, rfl⟩ := Prod.mk.inj heq
    have hconcat := dropLast_append_getLast? last hlast
    rw [← hconcat, dropLast_concat, Multiset.cons_coe, Multiset.coe_eq_coe]
    exact perm_append_singleton last l.dropLast
  | front =>
    cases l with
    | nil => cases h
    | cons a l =>
      cases h
      exact (Multiset.cons_coe _ _).symm

lemma DequeEnd.eq_nil_of_take {β : Type*} {e : DequeEnd} {l : List β} (h : e.take l = none) :
    l = [] := by
  cases e with
  | back => exact getLast?_eq_none_iff.mp (Option.map_eq_none_iff.mp h)
  | front =>
    cases l with
    | nil => rfl
    | cons a l => cases h

/-- One deque for each priority, and a counter. -/
structure WorkQueue (α : Type*) where
  queues : TaskPriority → List (WorkUnit α)
  len : Nat
  counted : len = (TaskPriority.highestFirst.map fun p => (queues p).length).sum
  placed : ∀ p, ∀ w ∈ queues p, w.task.priority = p

namespace WorkQueue

variable {α : Type*}

def new : WorkQueue α := ⟨fun _ => [], 0, rfl, nofun⟩

variable (queues : TaskPriority → List (WorkUnit α))

lemma sum_length_update (p : TaskPriority) (l : List (WorkUnit α)) :
    (TaskPriority.highestFirst.map fun p' => (update queues p l p').length).sum +
        (queues p).length =
      (TaskPriority.highestFirst.map fun p' => (queues p').length).sum + l.length := by
  cases p <;> simp [TaskPriority.highestFirst, update_apply] <;> omega

def push (q : WorkQueue α) (work : WorkUnit α) : WorkQueue α where
  queues := update q.queues work.task.priority
    (q.queues work.task.priority ++ [work])
  len := q.len + 1
  counted := by
    have hsum := sum_length_update q.queues work.task.priority
      (q.queues work.task.priority ++ [work])
    have hcounted := q.counted
    rw [length_append, length_singleton] at hsum
    omega
  placed p w hw := by
    by_cases hp : p = work.task.priority
    · subst hp
      rw [update_self] at hw
      rcases mem_append.mp hw with hold | hnew
      · exact q.placed _ w hold
      · rw [mem_singleton.mp hnew]
    · rw [update_of_ne hp] at hw
      exact q.placed p w hw

def takeAt (q : WorkQueue α) (e : DequeEnd) (p : TaskPriority) :
    Option (WorkUnit α × WorkQueue α) :=
  match h : e.take (q.queues p) with
  | none => none
  | some (work, rest) =>
    some (work, {
      queues := update q.queues p rest
      len := q.len - 1
      counted := by
        have hsum := sum_length_update q.queues p rest
        have hcard := congrArg Multiset.card (DequeEnd.coe_of_take h)
        rw [Multiset.card_cons, Multiset.coe_card, Multiset.coe_card] at hcard
        have hcounted := q.counted
        omega
      placed := by
        intro p' w hw
        by_cases hp : p' = p
        · subst hp
          rw [update_self] at hw
          apply q.placed p' w
          rw [← Multiset.mem_coe, DequeEnd.coe_of_take h]
          exact Multiset.mem_cons_of_mem (Multiset.mem_coe.mpr hw)
        · rw [update_of_ne hp] at hw
          exact q.placed p' w hw })

def takeFrom (q : WorkQueue α) (e : DequeEnd) :
    List TaskPriority → Option (WorkUnit α × WorkQueue α)
  | [] => none
  | p :: ps =>
    match q.takeAt e p with
    | some taken => some taken
    | none => q.takeFrom e ps

def pop (q : WorkQueue α) : Option (WorkUnit α × WorkQueue α) :=
  q.takeFrom .back TaskPriority.highestFirst

def steal (q : WorkQueue α) : Option (WorkUnit α × WorkQueue α) :=
  q.takeFrom .front TaskPriority.highestFirst

/-! ### The units that wait -/

def units (q : WorkQueue α) : Multiset (WorkUnit α) := ↑(TaskPriority.highestFirst.flatMap q.queues)

variable {q q' : WorkQueue α} {e : DequeEnd} {p : TaskPriority} {work : WorkUnit α}

variable {w : WorkUnit α} {ps : List TaskPriority}

lemma mem_units : w ∈ q.units ↔ ∃ p, w ∈ q.queues p := by
  rw [units, Multiset.mem_coe, mem_flatMap]
  constructor
  · rintro ⟨p, -, hw⟩
    exact ⟨p, hw⟩
  · rintro ⟨p, hw⟩
    exact ⟨p, p.mem_highestFirst, hw⟩

lemma card_units (q : WorkQueue α) : q.units.card = q.len := by
  rw [units, Multiset.coe_card, length_flatMap, q.counted]

lemma units_update (p : TaskPriority) (l : List (WorkUnit α)) :
    (TaskPriority.highestFirst.flatMap (update queues p l) : Multiset (WorkUnit α)) +
        queues p =
      (TaskPriority.highestFirst.flatMap queues : Multiset (WorkUnit α)) + l := by
  cases p <;>
    simp only [TaskPriority.highestFirst, flatMap_cons, flatMap_nil, ← Multiset.coe_add,
      update_apply, reduceCtorEq, if_true, if_false, append_nil] <;>
    abel

lemma units_push (q : WorkQueue α) (work : WorkUnit α) :
    (q.push work).units = work ::ₘ q.units := by
  have hupdate := units_update q.queues work.task.priority (q.queues work.task.priority ++ [work])
  rw [← Multiset.coe_add, ← add_assoc, add_right_comm] at hupdate
  have hsum := add_right_cancel hupdate
  rw [Multiset.coe_singleton, add_comm, Multiset.singleton_add] at hsum
  exact hsum

lemma takeAt_eq_some
    (h : q.takeAt e p = some (work, q')) :
    ∃ rest, e.take (q.queues p) = some (work, rest) ∧
      q'.queues = update q.queues p rest := by
  unfold takeAt at h
  split at h
  · cases h
  next work' rest htake =>
  cases h
  exact ⟨rest, htake, rfl⟩

lemma takeAt_eq_none
    (h : q.takeAt e p = none) : q.queues p = [] := by
  unfold takeAt at h
  split at h
  · next htake => exact DequeEnd.eq_nil_of_take htake
  · cases h

lemma units_takeAt
    (h : q.takeAt e p = some (work, q')) : q.units = work ::ₘ q'.units := by
  obtain ⟨rest, htake, hqueues⟩ := takeAt_eq_some h
  have hupdate := units_update q.queues p rest
  rw [← hqueues, DequeEnd.coe_of_take htake, ← Multiset.singleton_add, ← add_assoc] at hupdate
  have hsum := add_right_cancel hupdate
  rw [add_comm, Multiset.singleton_add] at hsum
  exact hsum.symm

lemma takeFrom_eq_some
    (hps : ps.Pairwise fun p p' => p'.toNat < p.toNat)
    (h : q.takeFrom e ps = some (work, q')) :
    q.units = work ::ₘ q'.units ∧
      ∀ p ∈ ps, ∀ w ∈ q.queues p, w.task.priority.toNat ≤ work.task.priority.toNat := by
  induction ps with
  | nil => cases h
  | cons p ps ih =>
    obtain ⟨hhead, htail⟩ := pairwise_cons.mp hps
    unfold takeFrom at h
    split at h
    · next taken htake =>
      cases h
      obtain ⟨rest, hdeque, -⟩ := takeAt_eq_some htake
      have hmem : work ∈ q.queues p := by
        rw [← Multiset.mem_coe, DequeEnd.coe_of_take hdeque]
        exact Multiset.mem_cons_self _ _
      refine ⟨units_takeAt htake, fun p' hp' w hw => ?_⟩
      rw [q.placed p work hmem, q.placed p' w hw]
      rcases mem_cons.mp hp' with rfl | hlater
      · exact Nat.le_refl _
      · exact Nat.le_of_lt (hhead p' hlater)
    · next hnone =>
      obtain ⟨hunits, hhighest⟩ := ih htail h
      refine ⟨hunits, fun p' hp' w hw => ?_⟩
      rcases mem_cons.mp hp' with rfl | hlater
      · rw [takeAt_eq_none hnone] at hw
        cases hw
      · exact hhighest p' hlater w hw

lemma takeFrom_eq_none
    (h : q.takeFrom e ps = none) : ∀ p ∈ ps, q.queues p = [] := by
  induction ps with
  | nil => exact nofun
  | cons p ps ih =>
    unfold takeFrom at h
    split at h
    · cases h
    next hnone =>
    intro p' hp'
    rcases mem_cons.mp hp' with rfl | hlater
    · exact takeAt_eq_none hnone
    · exact ih h p' hlater

lemma units_take
    (h : q.takeFrom e TaskPriority.highestFirst = some (work, q')) :
    q.units = work ::ₘ q'.units :=
  (takeFrom_eq_some TaskPriority.pairwise_highestFirst h).1

lemma units_eq_zero
    (h : q.takeFrom e TaskPriority.highestFirst = none) : q.units = 0 := by
  rw [Multiset.eq_zero_iff_forall_notMem]
  intro w hw
  obtain ⟨p, hp⟩ := mem_units.mp hw
  rw [takeFrom_eq_none h p p.mem_highestFirst] at hp
  cases hp

lemma highest_of_pop (h : q.pop = some (work, q'))
    (hw : w ∈ q.units) : w.task.priority.toNat ≤ work.task.priority.toNat := by
  obtain ⟨p, hp⟩ := mem_units.mp hw
  exact (takeFrom_eq_some TaskPriority.pairwise_highestFirst h).2 p p.mem_highestFirst w hp

end WorkQueue

open WorkQueue

/-! ## Workers -/

inductive WorkerState where
  | running
  | idle
  | stealing
  | stopping

structure Worker (α : Type*) where
  queue : WorkQueue α
  state : WorkerState
  tasksStolen : Nat
  tasksStolenFrom : Nat
  numaNode : Option UInt8
  hasGpu : Bool

namespace Worker

variable {α : Type*}

/-- `Worker::new` with `with_numa` and `with_gpu`. -/
def new (numaNode : Option UInt8) (hasGpu : Bool) : Worker α :=
  ⟨.new, .idle, 0, 0, numaNode, hasGpu⟩

def schedule (worker : Worker α) (work : WorkUnit α) : Worker α :=
  { worker with queue := worker.queue.push work }

def nextWork (worker : Worker α) : Option (WorkUnit α × Worker α) :=
  worker.queue.pop.map fun (work, queue) => (work, { worker with queue := queue })

def allowSteal (worker : Worker α) : Option (WorkUnit α × Worker α) :=
  worker.queue.steal.map fun (work, queue) =>
    (work, { worker with queue := queue, tasksStolenFrom := worker.tasksStolenFrom + 1 })

def setState (worker : Worker α) (state : WorkerState) : Worker α := { worker with state := state }

def recordSteal (worker : Worker α) : Worker α :=
  { worker with tasksStolen := worker.tasksStolen + 1 }

end Worker

/-! ## The scheduler -/

structure Scheduler (α : Type*) where
  workers : List (Worker α)
  globalQueue : WorkQueue α
  nextWorker : UInt64
  totalScheduled : UInt64

namespace Scheduler

variable {α : Type*}

/-- `Scheduler::new` and `configure_worker`: one worker for each NUMA node and GPU given. -/
def new (workers : List (Option UInt8 × Bool)) : Scheduler α :=
  ⟨workers.map fun (numaNode, hasGpu) => .new numaNode hasGpu, .new, 0, 0⟩

def toWorker (s : Scheduler α) (i : Nat) (work : WorkUnit α) : Scheduler α :=
  { s with workers := s.workers.modify i (·.schedule work) }

def toGlobal (s : Scheduler α) (work : WorkUnit α) : Scheduler α :=
  { s with globalQueue := s.globalQueue.push work }

def toNamed (s : Scheduler α) (i : Nat) (work : WorkUnit α) : Scheduler α :=
  if i < s.workers.length then s.toWorker i work else s.toGlobal work

def toFirst (s : Scheduler α) (suits : Worker α → Bool) (work : WorkUnit α) : Scheduler α :=
  match s.workers.findIdx? suits with
  | some i => s.toWorker i work
  | none => s.toGlobal work

def schedule (s : Scheduler α) (work : WorkUnit α) : Scheduler α :=
  let s := { s with totalScheduled := s.totalScheduled + 1 }
  match work.affinity with
  | .any =>
    { s with nextWorker := s.nextWorker + 1 }.toWorker (s.nextWorker.toNat % s.workers.length)
      work
  | .preferWorker id => s.toNamed id work
  | .requireWorker id => s.toNamed id work
  | .preferGpu => s.toFirst (·.hasGpu) work
  | .preferNuma node => s.toFirst (fun worker => worker.numaNode = some node) work

def stealFrom (workers : List (Worker α)) (i : Nat) :
    List Nat → Option (WorkUnit α × List (Worker α))
  | [] => none
  | offset :: offsets =>
    let victim := (i + offset) % workers.length
    match workers[victim]?.bind Worker.allowSteal with
    | some (work, robbed) =>
      some (work, (workers.set victim robbed).modify i fun worker =>
        worker.recordSteal.setState .running)
    | none => stealFrom workers i offsets

def getWork (s : Scheduler α) (i : Nat) : Option (WorkUnit α) × Scheduler α :=
  match s.workers[i]? with
  | none => (none, s)
  | some worker =>
    match worker.nextWork with
    | some (work, worker) => (some work, { s with workers := s.workers.set i worker })
    | none =>
      match s.globalQueue.pop with
      | some (work, queue) => (some work, { s with globalQueue := queue })
      | none =>
        let stealing := s.workers.modify i (·.setState .stealing)
        match stealFrom stealing i (List.range' 1 (s.workers.length - 1)) with
        | some (work, workers) => (some work, { s with workers := workers })
        | none => (none, { s with workers := stealing.modify i (·.setState .idle) })

def pendingWork (s : Scheduler α) : Nat :=
  (s.workers.map (·.queue.len)).sum + s.globalQueue.len

/-! ### The units that wait -/

def queued (workers : List (Worker α)) : Multiset (WorkUnit α) :=
  (workers.map (·.queue.units)).sum

def units (s : Scheduler α) : Multiset (WorkUnit α) := queued s.workers + s.globalQueue.units

variable (s : Scheduler α)

lemma card_units : s.units.card = s.pendingWork := by
  rw [units, queued, Multiset.card_add, pendingWork, WorkQueue.card_units]
  congr 1
  induction s.workers with
  | nil => rfl
  | cons worker workers ih =>
    rw [map_cons, sum_cons, Multiset.card_add, ih, map_cons, sum_cons,
      WorkQueue.card_units]

variable {workers : List (Worker α)} {i : Nat} {worker : Worker α}

lemma queued_set
    (h : workers[i]? = some worker) (worker' : Worker α) :
    queued (workers.set i worker') + worker.queue.units =
      queued workers + worker'.queue.units :=
  sum_map_set_add h worker' (·.queue.units)

lemma queued_modify (i : Nat) {f : Worker α → Worker α}
    (hf : ∀ worker, (f worker).queue = worker.queue) :
    queued (workers.modify i f) = queued workers := by
  induction workers generalizing i with
  | nil => simp [queued]
  | cons worker workers ih =>
    cases i with
    | zero => simp [queued, hf]
    | succ i =>
      have hrest := ih i
      simp only [queued, modify_succ_cons, map_cons, sum_cons] at hrest ⊢
      rw [hrest]

variable {work : WorkUnit α} {offsets : List Nat}

lemma queued_set_of_eq {worker' : Worker α}
    (h : workers[i]? = some worker)
    (hunits : worker.queue.units = work ::ₘ worker'.queue.units) :
    queued workers = work ::ₘ queued (workers.set i worker') := by
  have hset := queued_set h worker'
  rw [hunits, ← Multiset.singleton_add, ← add_assoc] at hset
  have hsum := add_right_cancel hset
  rw [add_comm, Multiset.singleton_add] at hsum
  exact hsum.symm

lemma units_toWorker (hi : i < s.workers.length) (work : WorkUnit α) :
    (s.toWorker i work).units = work ::ₘ s.units := by
  have hset : s.workers.modify i (·.schedule work) =
      s.workers.set i (s.workers[i].schedule work) := by
    rw [modify_eq_set_getElem?, getElem?_eq_getElem hi]
    rfl
  have hqueued := queued_set (getElem?_eq_getElem hi) (s.workers[i].schedule work)
  have hpush : (s.workers[i].schedule work).queue.units = work ::ₘ s.workers[i].queue.units :=
    units_push _ work
  rw [hpush, ← Multiset.singleton_add, ← add_assoc] at hqueued
  have hsum := add_right_cancel hqueued
  rw [toWorker, units, units, hset, hsum, add_right_comm, add_comm, Multiset.singleton_add]

lemma units_toGlobal (work : WorkUnit α) : (s.toGlobal work).units = work ::ₘ s.units := by
  rw [toGlobal, units, units, units_push, Multiset.add_cons]

lemma units_toNamed (i : Nat) (work : WorkUnit α) :
    (s.toNamed i work).units = work ::ₘ s.units := by
  unfold toNamed
  split_ifs with hi
  · exact s.units_toWorker hi work
  · exact s.units_toGlobal work

lemma units_toFirst (suits : Worker α → Bool) (work : WorkUnit α) :
    (s.toFirst suits work).units = work ::ₘ s.units := by
  unfold toFirst
  split
  · next i hfind =>
    obtain ⟨hi, -⟩ := findIdx?_eq_some_iff_getElem.mp hfind
    exact s.units_toWorker hi work
  · exact s.units_toGlobal work

lemma units_schedule {s : Scheduler α} (hworkers : s.workers ≠ []) (work : WorkUnit α) :
    (s.schedule work).units = work ::ₘ s.units := by
  unfold schedule
  cases work.affinity with
  | any =>
    have hpos : 0 < s.workers.length := length_pos_of_ne_nil hworkers
    exact units_toWorker _ (Nat.mod_lt _ hpos) work
  | preferWorker id => exact units_toNamed _ id work
  | requireWorker id => exact units_toNamed _ id work
  | preferGpu => exact units_toFirst _ _ work
  | preferNuma node => exact units_toFirst _ _ work

lemma length_schedule (work : WorkUnit α) :
    (s.schedule work).workers.length = s.workers.length := by
  have hnamed (s : Scheduler α) (i : Nat) :
      (s.toNamed i work).workers.length = s.workers.length := by
    unfold toNamed
    split_ifs
    · exact length_modify ..
    · rfl
  have hfirst (s : Scheduler α) (suits : Worker α → Bool) :
      (s.toFirst suits work).workers.length = s.workers.length := by
    unfold toFirst
    split
    · exact length_modify ..
    · rfl
  unfold schedule
  cases work.affinity with
  | any => exact length_modify ..
  | preferWorker id => exact hnamed _ id
  | requireWorker id => exact hnamed _ id
  | preferGpu => exact hfirst _ _
  | preferNuma node => exact hfirst _ _

lemma stealFrom_eq_some {workers' : List (Worker α)}
    (h : stealFrom workers i offsets = some (work, workers')) :
    queued workers = work ::ₘ queued workers' ∧ workers'.length = workers.length := by
  induction offsets with
  | nil => cases h
  | cons offset offsets ih =>
    unfold stealFrom at h
    dsimp only at h
    split at h
    · next stolen robbed hsteal =>
      cases h
      obtain ⟨victim, hvictim, hallowed⟩ := Option.bind_eq_some_iff.mp hsteal
      obtain ⟨⟨stolen', queue⟩, htake, heq⟩ := Option.map_eq_some_iff.mp hallowed
      cases heq
      refine ⟨?_, by rw [length_modify, length_set]⟩
      rw [queued_modify (f := (·.recordSteal.setState .running)) i fun _ => rfl]
      apply queued_set_of_eq hvictim
      exact units_take htake
    · exact ih h

lemma stealFrom_eq_none
    (h : stealFrom workers i offsets = none) :
    ∀ offset ∈ offsets, ∀ worker, workers[(i + offset) % workers.length]? = some worker →
      worker.queue.units = 0 := by
  induction offsets with
  | nil => exact nofun
  | cons offset offsets ih =>
    unfold stealFrom at h
    dsimp only at h
    split at h
    · cases h
    next hnone =>
    intro offset' hoffset worker hworker
    rcases mem_cons.mp hoffset with rfl | hlater
    · have hallowed := Option.bind_eq_none_iff.mp hnone worker hworker
      exact units_eq_zero (Option.map_eq_none_iff.mp hallowed)
    · exact ih h offset' hlater worker hworker

lemma exists_offset {j n : Nat} (hi : i < n) (hj : j < n) (hij : j ≠ i) :
    ∃ offset ∈ List.range' 1 (n - 1), (i + offset) % n = j := by
  rcases Nat.lt_or_ge i j with hlt | hge
  · refine ⟨j - i, List.mem_range'_1.mpr (by omega), ?_⟩
    rw [show i + (j - i) = j by omega, Nat.mod_eq_of_lt hj]
  · refine ⟨n - i + j, List.mem_range'_1.mpr (by omega), ?_⟩
    rw [show i + (n - i + j) = j + n by omega, Nat.add_mod_right, Nat.mod_eq_of_lt hj]

lemma queued_eq_zero
    (h : ∀ (j : Nat) (worker : Worker α), workers[j]? = some worker → worker.queue.units = 0) :
    queued workers = 0 := by
  apply sum_eq_zero
  intro units hunits
  obtain ⟨worker, hworker, rfl⟩ := mem_map.mp hunits
  obtain ⟨j, hj⟩ := mem_iff_getElem?.mp hworker
  exact h j worker hj

lemma getWork_cases (hworker : s.workers[i]? = some worker) :
    (∃ work, (s.getWork i).1 = some work ∧ s.units = work ::ₘ (s.getWork i).2.units) ∨
      (s.getWork i).1 = none ∧ s.units = 0 ∧ (s.getWork i).2.units = 0 := by
  have hi : i < s.workers.length := (List.getElem?_eq_some_iff.mp hworker).1
  unfold getWork
  simp only [hworker]
  split
  · next work worker' hnext =>
    obtain ⟨⟨work', queue⟩, hpop, heq⟩ := Option.map_eq_some_iff.mp hnext
    obtain ⟨rfl, rfl⟩ := Prod.mk.inj heq
    have hunits : worker.queue.units =
        work' ::ₘ ({ worker with queue := queue } : Worker α).queue.units :=
      units_take hpop
    refine .inl ⟨work', rfl, ?_⟩
    rw [units, units, queued_set_of_eq hworker hunits, Multiset.cons_add]
  · next hown =>
    split
    · next work queue hpop =>
      refine .inl ⟨work, rfl, ?_⟩
      rw [units, units, units_take hpop, Multiset.add_cons]
    next hglobal =>
    have hglobal' : s.globalQueue.units = 0 := units_eq_zero hglobal
    split
    · next work workers hsteal =>
      obtain ⟨hqueued, -⟩ := stealFrom_eq_some hsteal
      rw [queued_modify (f := (·.setState .stealing)) i fun _ => rfl] at hqueued
      refine .inl ⟨work, rfl, ?_⟩
      rw [units, units, hqueued, Multiset.cons_add]
    · next hsteal =>
      have hothers := stealFrom_eq_none hsteal
      rw [length_modify] at hothers
      have hqueued : queued s.workers = 0 := by
        apply queued_eq_zero
        intro j other hother
        have hj : j < s.workers.length := (List.getElem?_eq_some_iff.mp hother).1
        by_cases hij : j = i
        · subst hij
          cases hworker.symm.trans hother
          exact units_eq_zero (Option.map_eq_none_iff.mp hown)
        obtain ⟨offset, hoffset, rfl⟩ := exists_offset hi hj hij
        refine hothers offset hoffset other ?_
        rw [getElem?_modify_ne _ _ (Ne.symm hij)]
        exact hother
      refine .inr ⟨rfl, ?_, ?_⟩
      · rw [units, hqueued, hglobal', add_zero]
      · rw [units, queued_modify (f := (·.setState .idle)) i fun _ => rfl,
          queued_modify (f := (·.setState .stealing)) i fun _ => rfl, hqueued, hglobal', add_zero]

lemma length_getWork (i : Nat) : (s.getWork i).2.workers.length = s.workers.length := by
  unfold getWork
  split
  · rfl
  split
  · exact length_set ..
  split
  · rfl
  dsimp only
  split
  · next hsteal =>
    rw [(stealFrom_eq_some hsteal).2, length_modify]
  · rw [length_modify, length_modify]

end Scheduler

open Scheduler

/-! ## Runs -/

inductive SchedulerEvent (α : Type*) where
  | schedule (work : WorkUnit α)
  | getWork (worker : Nat)

structure SchedulerRun (α : Type*) where
  scheduler : Scheduler α
  scheduled : List (WorkUnit α)
  /-- The units that were handed out, with the caller. -/
  handedOut : List (Nat × WorkUnit α)

namespace SchedulerRun

variable {α : Type*}

def start (workers : List (Option UInt8 × Bool)) : SchedulerRun α := ⟨.new workers, [], []⟩

def step (r : SchedulerRun α) : SchedulerEvent α → SchedulerRun α
  | .schedule work =>
    { r with scheduler := r.scheduler.schedule work, scheduled := r.scheduled ++ [work] }
  | .getWork worker =>
    { r with
      scheduler := (r.scheduler.getWork worker).2
      handedOut := r.handedOut ++ ((r.scheduler.getWork worker).1.map (worker, ·)).toList }

structure Conserved (n : Nat) (r : SchedulerRun α) : Prop where
  workers : r.scheduler.workers.length = n
  units : (r.scheduled : Multiset (WorkUnit α)) =
    ↑(r.handedOut.map (·.2)) + r.scheduler.units
  callers : ∀ given ∈ r.handedOut, given.1 < n

variable {n : Nat} {r : SchedulerRun α}

lemma Conserved.schedule (h : Conserved n r) (hn : 0 < n)
    (work : WorkUnit α) : Conserved n (r.step (.schedule work)) where
  workers := (length_schedule ..).trans h.workers
  units := by
    have hworkers : r.scheduler.workers ≠ [] := by
      apply ne_nil_of_length_pos
      rw [h.workers]
      exact hn
    simp only [step]
    rw [units_schedule hworkers, ← Multiset.coe_add, h.units, Multiset.coe_singleton,
      Multiset.add_cons, ← Multiset.singleton_add, add_comm]
  callers := h.callers

lemma Conserved.getWork (h : Conserved n r) (i : Nat) :
    Conserved n (r.step (.getWork i)) := by
  have hlength := (length_getWork r.scheduler i).trans h.workers
  rcases hworker : r.scheduler.workers[i]? with _ | worker
  · have hnone : r.scheduler.getWork i = (none, r.scheduler) := by
      simp only [Scheduler.getWork, hworker]
    have hsame : r.step (.getWork i) = r := by
      simp [step, hnone]
    rw [hsame]
    exact h
  · have hi : i < n := h.workers ▸ (List.getElem?_eq_some_iff.mp hworker).1
    rcases r.scheduler.getWork_cases hworker with ⟨work, hsome, hunits⟩ | ⟨hnone, hunits, hafter⟩
    · refine ⟨hlength, ?_, ?_⟩
      · simp only [step, hsome, Option.map_some, Option.toList_some, map_append, map_cons,
          map_nil]
        rw [h.units, hunits, ← Multiset.coe_add, Multiset.coe_singleton, Multiset.add_cons,
          add_assoc, Multiset.singleton_add, Multiset.add_cons]
      · intro given hgiven
        simp only [step, hsome, Option.map_some, Option.toList_some] at hgiven
        rcases mem_append.mp hgiven with hold | hnew
        · exact h.callers given hold
        · rw [mem_singleton.mp hnew]
          exact hi
    · refine ⟨hlength, ?_, ?_⟩
      · simp only [step, hnone, Option.map_none, Option.toList_none, append_nil]
        rw [h.units, hunits, hafter]
      · simp only [step, hnone, Option.map_none, Option.toList_none, append_nil]
        exact h.callers

lemma conserved_start (workers : List (Option UInt8 × Bool)) :
    Conserved workers.length (start workers : SchedulerRun α) where
  workers := length_map ..
  units := by
    have hqueued : queued (start workers : SchedulerRun α).scheduler.workers = 0 := by
      apply queued_eq_zero
      intro j worker hworker
      simp only [start, Scheduler.new, getElem?_map, Option.map_eq_some_iff] at hworker
      obtain ⟨⟨numaNode, hasGpu⟩, -, rfl⟩ := hworker
      rfl
    rw [Scheduler.units, hqueued]
    rfl
  callers := nofun

end SchedulerRun

/-- **Nothing is lost, nothing is handed out twice.** After any calls on a scheduler with workers:
each unit was handed out at most as often as it was scheduled, to workers that exist, and
`pending_work` is the difference. A worker that asks gets nothing only if nothing is pending; if its
own queue has a unit, it gets one from there, of the highest priority in that queue. -/
theorem work_conserved {α : Type*} (workers : List (Option UInt8 × Bool)) (hworkers : workers ≠ [])
    (events : List (SchedulerEvent α)) :
    let r := run SchedulerRun.step (.start workers) events
    (r.handedOut.map (·.2) : Multiset (WorkUnit α)) ≤ r.scheduled ∧
      (∀ given ∈ r.handedOut, given.1 < workers.length) ∧
      r.scheduler.pendingWork + r.handedOut.length = r.scheduled.length ∧
      (∀ i < workers.length, (r.scheduler.getWork i).1 = none → r.scheduler.pendingWork = 0) ∧
      ∀ i worker, r.scheduler.workers[i]? = some worker → worker.queue.units ≠ 0 →
        ∃ work ∈ worker.queue.units, (r.scheduler.getWork i).1 = some work ∧
          ∀ other ∈ worker.queue.units, other.task.priority.toNat ≤ work.task.priority.toNat := by
  intro r
  have hconserved : SchedulerRun.Conserved workers.length r := by
    apply run_invariant _ (SchedulerRun.conserved_start workers) events
    intro r e h
    cases e with
    | schedule work => exact h.schedule (length_pos_of_ne_nil hworkers) work
    | getWork i => exact h.getWork i
  refine ⟨?_, hconserved.callers, ?_, fun i hi hnone => ?_, fun i worker hworker hunits => ?_⟩
  · rw [hconserved.units]
    exact Multiset.le_add_right _ _
  · have hcard := congrArg Multiset.card hconserved.units
    rw [Multiset.card_add, Scheduler.card_units, Multiset.coe_card, Multiset.coe_card,
      length_map] at hcard
    omega
  · rw [← hconserved.workers] at hi
    rw [← Scheduler.card_units]
    rcases r.scheduler.getWork_cases (getElem?_eq_getElem hi) with
      ⟨work, hsome, -⟩ | ⟨-, hzero, -⟩
    · rw [hnone] at hsome
      cases hsome
    · rw [hzero, Multiset.card_zero]
  · rcases hpop : worker.queue.pop with _ | ⟨work, queue⟩
    · exact absurd (units_eq_zero hpop) hunits
    refine ⟨work, ?_, ?_, fun other hother => highest_of_pop hpop hother⟩
    · rw [units_take hpop]
      exact Multiset.mem_cons_self _ _
    · simp only [Scheduler.getWork, hworker, Worker.nextWork, hpop, Option.map_some]

theorem work_conserved_stolen :
    let events : List (SchedulerEvent Nat) :=
      [.schedule ⟨⟨7, .high⟩, .preferWorker 0⟩, .getWork 1]
    let r := run SchedulerRun.step (.start [(none, false), (none, true)]) events
    r.handedOut.map (·.1) = [1] ∧ r.scheduler.pendingWork + r.handedOut.length = 1 := by
  intro events r
  obtain ⟨-, -, hpending, -⟩ :=
    work_conserved [(none, false), (none, true)] (cons_ne_nil _ _) events
  refine ⟨by decide +kernel, hpending.trans ?_⟩
  rfl

end AxiomCore
