import Mathlib

/-!
# Util/Semaphore — `lf_semaphore.c`, permit by permit

A semaphore is a `size_t` count behind a mutex and a condition variable.  `lf_semaphore_release`
adds to the count in one critical section; `lf_semaphore_acquire` and `lf_semaphore_wait` test
`count == 0` in a loop around `lf_cond_wait`, and each test — with the decrement that follows the
last one, in `acquire` — is one critical section.  Threads are numbered; each is idle or blocked
in one of the two loops (`Pc`), and `step` runs one critical section of one thread.

`permits_conserved`: over every interleaving, as long as the releases do not overflow `size_t`,
the count is the initial count plus what was released minus the acquires that returned — so no
acquire returns without a permit — and `lf_semaphore_wait` never moves the count.
-/

namespace ReactorC

namespace Semaphore

/-- `SIZE_MAX` for a `size_t` of `w` bits. -/
def sizeMax (w : Nat) : Nat := 2 ^ w - 1

/-- Where a thread stands with respect to the semaphore. -/
inductive Pc
  /-- In none of the semaphore's calls. -/
  | idle
  /-- Blocked in the loop of `lf_semaphore_acquire`. -/
  | acquiring
  /-- Blocked in the loop of `lf_semaphore_wait`. -/
  | waiting
  deriving DecidableEq, Repr

/-- The semaphore and its threads.  `released` and `acquired` count what the run has done so
far — permits released, acquires returned — and are read only by the statements. -/
structure Sys where
  /-- `semaphore->count`. -/
  count : Nat
  pc : Nat → Pc
  released : Nat
  acquired : Nat

/-- `lf_semaphore_new(count)`, with every thread idle. -/
def lfSemaphoreNew (count : Nat) : Sys := ⟨count, fun _ => .idle, 0, 0⟩

/-- Thread `t` moves to `p`. -/
def Sys.setPc (s : Sys) (t : Nat) (p : Pc) : Sys := { s with pc := Function.update s.pc t p }

@[simp] theorem Sys.setPc_count (s : Sys) (t : Nat) (p : Pc) : (s.setPc t p).count = s.count := rfl

@[simp] theorem Sys.setPc_released (s : Sys) (t : Nat) (p : Pc) :
    (s.setPc t p).released = s.released := rfl

@[simp] theorem Sys.setPc_acquired (s : Sys) (t : Nat) (p : Pc) :
    (s.setPc t p).acquired = s.acquired := rfl

/-- The critical section of `lf_semaphore_release(semaphore, i)`: `count += i`, in `size_t`. -/
def lfSemaphoreRelease (w : Nat) (s : Sys) (i : Nat) : Sys :=
  { s with count := (s.count + i) % 2 ^ w, released := s.released + i }

/-- One test of `while (semaphore->count == 0)` in `lf_semaphore_acquire` by thread `t`: block,
or leave the loop, `count--` and return. -/
def acquireTest (s : Sys) (t : Nat) : Sys :=
  if s.count = 0 then s.setPc t .acquiring
  else { s.setPc t .idle with count := s.count - 1, acquired := s.acquired + 1 }

/-- One test of `while (semaphore->count == 0)` in `lf_semaphore_wait` by thread `t`: block, or
return. -/
def waitTest (s : Sys) (t : Nat) : Sys :=
  if s.count = 0 then s.setPc t .waiting else s.setPc t .idle

/-- A critical section of one thread. -/
inductive Act
  /-- Thread `t` calls `lf_semaphore_release(semaphore, i)`. -/
  | release (t i : Nat)
  /-- Thread `t` calls `lf_semaphore_acquire(semaphore)`. -/
  | acquire (t : Nat)
  /-- Thread `t` calls `lf_semaphore_wait(semaphore)`. -/
  | wait (t : Nat)
  /-- `lf_cond_wait` returns in thread `t`, after a broadcast or spuriously. -/
  | wake (t : Nat)
  deriving DecidableEq, Repr

/-- One critical section, if its thread can run it: a call needs an idle thread, a wake-up a
blocked one. -/
def step (w : Nat) (s : Sys) : Act → Option Sys
  | .release t i => if s.pc t = .idle then some (lfSemaphoreRelease w s i) else none
  | .acquire t => if s.pc t = .idle then some (acquireTest s t) else none
  | .wait t => if s.pc t = .idle then some (waitTest s t) else none
  | .wake t => match s.pc t with
    | .acquiring => some (acquireTest s t)
    | .waiting => some (waitTest s t)
    | .idle => none

/-- The states some interleaving reaches from `lf_semaphore_new(c)`. -/
inductive Reachable (w c : Nat) : Sys → Prop
  | init : Reachable w c (lfSemaphoreNew c)
  | next {s s' : Sys} {a : Act} : Reachable w c s → step w s a = some s' → Reachable w c s'

/-! ## Each section keeps the count in step with the permits -/

@[simp] theorem waitTest_count (s : Sys) (t : Nat) : (waitTest s t).count = s.count := by
  unfold waitTest
  split <;> rfl

@[simp] theorem waitTest_released (s : Sys) (t : Nat) : (waitTest s t).released = s.released := by
  unfold waitTest
  split <;> rfl

@[simp] theorem waitTest_acquired (s : Sys) (t : Nat) : (waitTest s t).acquired = s.acquired := by
  unfold waitTest
  split <;> rfl

/-- An acquire test moves one permit from the count to the acquires, or nothing. -/
theorem acquireTest_balance (s : Sys) (t : Nat) :
    (acquireTest s t).count + (acquireTest s t).acquired = s.count + s.acquired ∧
      (acquireTest s t).released = s.released := by
  unfold acquireTest
  split
  · simp
  · simp only [Sys.setPc_acquired, Sys.setPc_released, and_true]
    omega

/-- Only a release moves `released`, and only up. -/
theorem step_released {w : Nat} {s s' : Sys} {a : Act} (h : step w s a = some s') :
    s.released ≤ s'.released := by
  cases a <;> simp only [step] at h <;> split at h <;> cases h
  all_goals simp [lfSemaphoreRelease, (acquireTest_balance s _).2]

/-- **One section.**  While the count plus what the section releases stays within `SIZE_MAX`,
every section keeps `count + acquired - released` fixed. -/
theorem step_balance {w : Nat} {s s' : Sys} {a : Act} (h : step w s a = some s')
    (hmax : s.count + s'.released ≤ sizeMax w + s.released) :
    s'.count + s'.acquired + s.released = s.count + s.acquired + s'.released := by
  cases a with
  | release t i =>
    simp only [step] at h
    split at h <;> cases h
    simp only [lfSemaphoreRelease, sizeMax] at hmax ⊢
    have hpos : 0 < 2 ^ w := Nat.two_pow_pos w
    rw [Nat.mod_eq_of_lt (by omega)]
    omega
  | acquire t =>
    simp only [step] at h
    split at h <;> cases h
    have := acquireTest_balance s t
    omega
  | wait t =>
    simp only [step] at h
    split at h <;> cases h
    simp
  | wake t =>
    simp only [step] at h
    split at h <;> cases h
    · have := acquireTest_balance s t
      omega
    · simp

theorem Reachable.balance {w c : Nat} {s : Sys} (hs : Reachable w c s)
    (hmax : c + s.released ≤ sizeMax w) : s.count + s.acquired = c + s.released := by
  induction hs with
  | init => rfl
  | next _ hstep ih =>
    have hle := step_released hstep
    have h₀ := ih (by omega)
    have := step_balance hstep (by omega)
    omega

/-- **Permit conservation.**  In every state an interleaving reaches from `lf_semaphore_new(c)`,
if `c` plus everything released stays within `SIZE_MAX`, the count is `c` plus the releases minus
the acquires that returned, so those acquires never outnumber the permits; and the sections of
`lf_semaphore_wait` — its call and its wake-ups — never move the count. -/
theorem permits_conserved (w c : Nat) {s : Sys} (hs : Reachable w c s)
    (hmax : c + s.released ≤ sizeMax w) :
    s.count + s.acquired = c + s.released ∧ s.acquired ≤ c + s.released ∧
      ∀ t s', (step w s (.wait t) = some s' ∨ s.pc t = .waiting ∧ step w s (.wake t) = some s') →
        s'.count = s.count := by
  have hbal := hs.balance hmax
  refine ⟨hbal, by omega, ?_⟩
  rintro t s' (h | ⟨hp, h⟩)
  · simp only [step] at h
    split at h <;> cases h
    simp
  · simp only [step, hp] at h
    cases h
    simp

/-- The witness: one permit, a release of two by thread `0`, then an acquire by thread `1`, on
a 64-bit `size_t`. -/
theorem permits_conserved_release_acquire :
    ∃ s, Reachable 64 1 s ∧ s.released = 2 ∧ s.acquired = 1 ∧
      s.count + s.acquired = 1 + s.released :=
  let hs := (Reachable.init.next (a := .release 0 2) rfl).next (a := .acquire 1) rfl
  ⟨_, hs, rfl, rfl, (permits_conserved 64 1 hs (by decide)).1⟩

end Semaphore

end ReactorC
