import ReactorC.Platform.ZephyrSleep

/-!
# Platform/ZephyrThreads — interrupt locking, the atomics and the worker threads

`lf_critical_section_enter` saves the key `irq_lock()` returns in the one global `_lf_irq_mask`, and
`lf_critical_section_exit` hands that global back to `irq_unlock`.  The atomics of the threaded
build are each one such section around the arithmetic.  A section entered inside another
overwrites the outer key with one that records interrupts as off, so from then on no exit turns
them back on.

* `nested_section_locks_out` — an atomic operation inside a critical section leaves the section
  flag cleared while the caller's section is still open, and `LockedOut`: no later sequence of
  critical-section entries and exits re-enables interrupts (`lockedOut_run`);
* `threadCreateRun_slots` — `lf_thread_create` hands out the slots `0, 1, …` of its thread and stack
  arrays once each, and refuses every thread past `NUMBER_OF_WORKERS`.
-/

namespace ReactorC.Zephyr

/-! ## Interrupt locking -/

/-- The state the critical sections move: `_lf_in_critical_section`, `_lf_irq_mask`, and whether
the CPU takes interrupts.  `Platform` of `Platform/ZephyrSleep` keeps only the flag, all the sleep
reads. -/
structure Irq where
  inCriticalSection : Bool
  irqMask : Bool
  enabled : Bool
  deriving DecidableEq, Repr

namespace Irq

/-- Zephyr's `irq_lock()` (not under `src/`), as its documentation gives it: interrupts off, and a
key that records whether they were on. -/
def irqLock (s : Irq) : Bool × Irq := (s.enabled, { s with enabled := false })

/-- Zephyr's `irq_unlock(key)` (not under `src/`): the interrupt state the key records. -/
def irqUnlock (key : Bool) (s : Irq) : Irq := { s with enabled := key }

/-- `lf_critical_section_enter()`. -/
def lfCriticalSectionEnter (s : Irq) : Irq :=
  let s := { s with inCriticalSection := true }
  let (key, s) := s.irqLock
  { s with irqMask := key }

/-- `lf_critical_section_exit()`. -/
def lfCriticalSectionExit (s : Irq) : Irq :=
  irqUnlock s.irqMask { s with inCriticalSection := false }

@[simp] theorem lfCriticalSectionEnter_eq (s : Irq) :
    s.lfCriticalSectionEnter = ⟨true, s.enabled, false⟩ := rfl

@[simp] theorem lfCriticalSectionExit_eq (s : Irq) :
    s.lfCriticalSectionExit = ⟨false, s.irqMask, s.irqMask⟩ := rfl

/-- The two moves of the critical-section functions. -/
inductive Op
  | enter
  | exit
  deriving DecidableEq, Repr

/-- A sequence of calls of `lf_critical_section_enter` and `lf_critical_section_exit`. -/
def run : Irq → List Op → Irq
  | s, [] => s
  | s, .enter :: ops => run s.lfCriticalSectionEnter ops
  | s, .exit :: ops => run s.lfCriticalSectionExit ops

/-- Interrupts are off and the saved key says so: the state a nested entry leaves. -/
def LockedOut (s : Irq) : Prop := s.enabled = false ∧ s.irqMask = false

theorem lockedOut_enter {s : Irq} (h : s.LockedOut) : s.lfCriticalSectionEnter.LockedOut :=
  ⟨rfl, h.1⟩

theorem lockedOut_exit {s : Irq} (h : s.LockedOut) : s.lfCriticalSectionExit.LockedOut :=
  ⟨h.2, h.2⟩

/-- **Once locked out, always locked out**: no sequence of critical-section entries and exits
turns interrupts back on. -/
theorem lockedOut_run {s : Irq} (h : s.LockedOut) : ∀ ops, (s.run ops).LockedOut ∧
    (s.run ops).enabled = false
  | [] => ⟨h, h.1⟩
  | .enter :: ops => lockedOut_run (lockedOut_enter h) ops
  | .exit :: ops => lockedOut_run (lockedOut_exit h) ops

end Irq

/-! ## The atomics

`_zephyr_atomic_fetch_add`, `_zephyr_atomic_add_fetch` and the two compare-and-swaps each enter a
critical section, do their arithmetic on `*ptr`, and leave it: `atomically` with their own
operation. -/

/-- A critical section around `op`, which maps `*ptr` to the result and the new `*ptr`. -/
def atomically {α β : Type} (op : α → β × α) (x : α) (s : Irq) : β × α × Irq :=
  ((op x).1, (op x).2, s.lfCriticalSectionEnter.lfCriticalSectionExit)

/-- `*ptr + value` on `int`s, as the machine adds them: modulo `2^32`, read back in two's
complement. -/
def addInt32 (a b : Int) : Int := (a + b + 2 ^ 31) % 2 ^ 32 - 2 ^ 31

/-- `_zephyr_atomic_fetch_add(ptr, value)`, `*ptr` being `x`: the old value. -/
def zephyrAtomicFetchAdd (x value : Int) (s : Irq) : Int × Int × Irq :=
  atomically (fun x => (x, addInt32 x value)) x s

/-- `_zephyr_atomic_add_fetch(ptr, value)`: the new value. -/
def zephyrAtomicAddFetch (x value : Int) (s : Irq) : Int × Int × Irq :=
  atomically (fun x => (addInt32 x value, addInt32 x value)) x s

/-- `_zephyr_bool_compare_and_swap(ptr, value, newval)`: whether it swapped. -/
def zephyrBoolCompareAndSwap (x value newval : Bool) (s : Irq) : Bool × Bool × Irq :=
  atomically (fun x => if x = value then (true, newval) else (false, x)) x s

/-- `_zephyr_val_compare_and_swap(ptr, value, newval)`: whether it swapped, a `bool` like the
other compare-and-swap. -/
def zephyrValCompareAndSwap (x value newval : Int) (s : Irq) : Bool × Int × Irq :=
  atomically (fun x => if x = value then (true, newval) else (false, x)) x s

/-- **An atomic operation inside a critical section breaks it**: it clears the section flag while
the caller's section is open, and leaves the state `LockedOut`, so the caller's exit — and every
later entry and exit — leaves interrupts off. -/
theorem nested_section_locks_out {α β : Type} (op : α → β × α) (x : α) (s : Irq)
    (ops : List Irq.Op) :
    let inner := (atomically op x s.lfCriticalSectionEnter).2.2
    inner.inCriticalSection = false ∧ inner.LockedOut ∧
      (inner.lfCriticalSectionExit.run ops).enabled = false :=
  ⟨rfl, ⟨rfl, rfl⟩, (Irq.lockedOut_run (Irq.lockedOut_exit ⟨rfl, rfl⟩) ops).2⟩

/-! ## Worker threads -/

/-- `lf_thread_create(thread, lf_thread, arguments)` with its static `tid` at `tid`: the slot of
`threads` and `stacks` the new thread runs in, `none` for the `-1` returned once
`tid > NUMBER_OF_WORKERS - 1` (an `int` comparison), and the new `tid`. -/
def lfThreadCreate (numberOfWorkers tid : Nat) : Option Nat × Nat :=
  if (tid : Int) > (numberOfWorkers : Int) - 1 then (none, tid) else (some tid, tid + 1)

/-- `n` calls of `lf_thread_create` from `tid`: what each returns. -/
def threadCreateRun (numberOfWorkers : Nat) : Nat → Nat → List (Option Nat)
  | _, 0 => []
  | tid, n + 1 =>
    let (slot, tid) := lfThreadCreate numberOfWorkers tid
    slot :: threadCreateRun numberOfWorkers tid n

/-- **Each slot once, and no more than `NUMBER_OF_WORKERS`**: from `tid`, the calls get the slots
`tid, tid + 1, …` below `NUMBER_OF_WORKERS`, then `-1` each. -/
theorem threadCreateRun_slots (numberOfWorkers : Nat) :
    ∀ (n tid : Nat), tid ≤ numberOfWorkers →
      threadCreateRun numberOfWorkers tid n =
        (List.range' tid (min n (numberOfWorkers - tid))).map some ++
          List.replicate (n - (numberOfWorkers - tid)) none
  | 0, _, _ => by simp [threadCreateRun]
  | n + 1, tid, htid => by
    rw [threadCreateRun, lfThreadCreate]
    by_cases hfull : tid = numberOfWorkers
    · have h0 : numberOfWorkers - tid = 0 := by omega
      rw [if_pos (by omega)]
      dsimp only
      rw [threadCreateRun_slots numberOfWorkers n tid htid, h0]
      simp [List.replicate_succ]
    · rw [if_neg (by omega)]
      dsimp only
      rw [threadCreateRun_slots numberOfWorkers n (tid + 1) (by omega),
        show min (n + 1) (numberOfWorkers - tid) = min n (numberOfWorkers - (tid + 1)) + 1 by omega,
        show n + 1 - (numberOfWorkers - tid) = n - (numberOfWorkers - (tid + 1)) by omega,
        List.range'_succ, List.map_cons, List.cons_append]

/-- From the start, the slots are `0, …, NUMBER_OF_WORKERS - 1` at most, each once. -/
theorem threadCreateRun_nodup (numberOfWorkers n : Nat) :
    ((threadCreateRun numberOfWorkers 0 n).filterMap id).Nodup ∧
      ∀ slot ∈ (threadCreateRun numberOfWorkers 0 n).filterMap id, slot < numberOfWorkers := by
  have hslots : (threadCreateRun numberOfWorkers 0 n).filterMap id =
      List.range' 0 (min n numberOfWorkers) := by
    rw [threadCreateRun_slots numberOfWorkers n 0 (Nat.zero_le _)]
    simp [List.filterMap_append, List.filterMap_map]
  rw [hslots]
  exact ⟨List.nodup_range' 0 _, fun slot h => by rw [List.mem_range'_1] at h; omega⟩

end ReactorC.Zephyr
