import Mathlib

/-!
# Federate/Coordination — the time-advance protocol around `__next_event_time`

The main thread asks the RTI for permission to advance in `__next_event_time(time)`, holding the
mutex; when it must wait it blocks in `pthread_cond_wait(&event_q_changed, &mutex)`, which
releases the mutex, and the other threads run: the RTI listener stores a TAG
(`handle_time_advance_grant`) or a stop request (`handle_incoming_stop_message`), and message
handlers and physical actions put events on `event_q`.  `Fed` is the state they share, `Main` the
main thread's place in the call, and `step` one atomic section of either side; an interleaving is
a list of `Act`s (`run`), and `Reachable` the states some interleaving reaches.

* `returned_sound` — whenever `__next_event_time(t)` returns `t` the RTI has granted at least `t`,
  and a return for an earlier local event is below `t`;
* `tag_follows_grants` — `__tag` is the last TAG received, compared with nothing, so it never
  falls while TAGs arrive in order — and falls with the first that does not (`tag_decreases`);
* `nextEventTime_stale_tag` — a TAG answering an earlier, interrupted NET is returned as it is,
  above the time asked for;
* `waiting_follows_net` — the main thread blocks only right after its NET for the time it waits
  for, and nothing else is sent to the RTI while it waits.
-/

namespace ReactorC

/-! ## State -/

/-- Modelled from the spec: `NEVER` (in `reactor.h`, not under `src/`) is `i64::MIN`. -/
def never : Int := -9223372036854775808

/-- The kinds of message `send_time` writes to the RTI. -/
inductive TimeMsg
  | nextEventTime
  | logicalTimeComplete
  | stop
  deriving DecidableEq, Repr

/-- Which `return` of `__next_event_time` was taken. -/
inductive Why
  /-- Neither upstream nor downstream federates: nothing to coordinate. -/
  | unconnected
  /-- `__tag >= time`: advance already granted. -/
  | granted
  /-- NET sent, and no upstream federate to wait for. -/
  | noUpstream
  /-- Woken with an event on `event_q` earlier than `time`. -/
  | earlierEvent
  /-- Woken with `__tag_pending` cleared: the loop exits and returns `__tag`. -/
  | tagArrived
  deriving DecidableEq, Repr

/-- Where the main thread stands with respect to `__next_event_time`. -/
inductive Main
  /-- Outside the call, not holding the mutex. -/
  | idle
  /-- Blocked in `pthread_cond_wait` inside `__next_event_time(time)`; the mutex is free. -/
  | waiting (time : Int)
  /-- `__next_event_time(time)` has returned `value`; the caller still holds the mutex. -/
  | returned (time value : Int) (why : Why)
  deriving DecidableEq, Repr

/-- The main thread is blocked in the wait. -/
def Main.isWaiting : Main → Bool
  | .waiting _ => true
  | _ => false

/-- The main thread holds the mutex, so no other thread can run a critical section. -/
def Main.holdsMutex : Main → Bool
  | .returned .. => true
  | _ => false

/-- `__fed_has_upstream` and `__fed_has_downstream`, fixed by `__initialize_trigger_objects`. -/
structure Deps where
  hasUpstream : Bool
  hasDownstream : Bool
  deriving DecidableEq, Repr

/-- The state shared under the mutex. -/
structure Fed where
  /-- `__tag`: the most recent TAG. -/
  tag : Int
  /-- `__tag_pending`: a NET is out and no TAG has answered it. -/
  tagPending : Bool
  /-- The times of the events on `event_q`. -/
  eventQ : List Int
  /-- `stop_requested`. -/
  stopRequested : Bool
  /-- What `send_time` has written to `rti_socket`, oldest first. -/
  toRti : List (TimeMsg × Int)
  main : Main
  deriving DecidableEq, Repr

/-- The state at start-up. -/
def Fed.init : Fed := ⟨never, false, [], false, [], .idle⟩

/-- `send_time(type, time)`. -/
def Fed.sendTime (s : Fed) (type : TimeMsg) (time : Int) : Fed :=
  { s with toRti := s.toRti ++ [(type, time)] }

/-- `return value;` from `__next_event_time(time)`. -/
def Fed.ret (s : Fed) (time value : Int) (why : Why) : Fed :=
  { s with main := .returned time value why }

@[simp] theorem Fed.sendTime_tag (s : Fed) (k : TimeMsg) (t : Int) : (s.sendTime k t).tag = s.tag :=
  rfl

@[simp] theorem Fed.sendTime_main (s : Fed) (k : TimeMsg) (t : Int) :
    (s.sendTime k t).main = s.main := rfl

@[simp] theorem Fed.ret_tag (s : Fed) (t r : Int) (w : Why) : (s.ret t r w).tag = s.tag := rfl

@[simp] theorem Fed.ret_main (s : Fed) (t r : Int) (w : Why) :
    (s.ret t r w).main = .returned t r w := rfl

/-! ## The main thread

`__next_event_time` in two pieces: the code up to its first `pthread_cond_wait`, and one pass of
the `while (__tag_pending)` loop after a wait returns. -/

/-- `__next_event_time(time)`, up to a `return` or the first `pthread_cond_wait`. -/
def nextEventTime (d : Deps) (time : Int) (s : Fed) : Fed :=
  if !d.hasDownstream && !d.hasUpstream then s.ret time time .unconnected
  else if s.tag ≥ time then s.ret time time .granted
  else
    let s := s.sendTime .nextEventTime time
    if !d.hasUpstream then s.ret time time .noUpstream
    else { s with tagPending := true, main := .waiting time }

/-- The loop of `__next_event_time(time)` once `pthread_cond_wait` returns — after a broadcast or
spuriously — with the mutex held again: return the head of `event_q` if it is earlier, keep
waiting if `__tag_pending` still holds, otherwise leave the loop and return `__tag`. -/
def wakeUp (time : Int) (s : Fed) : Fed :=
  if s.tagPending then
    match s.eventQ.min? with
    | some head => if head < time then s.ret time head .earlierEvent else s
    | none => s
  else s.ret time s.tag .tagArrived

/-- `__logical_time_complete(time)`. -/
def logicalTimeComplete (d : Deps) (time : Int) (s : Fed) : Fed :=
  if d.hasDownstream then s.sendTime .logicalTimeComplete time else s

/-- `__broadcast_stop()`, at logical time `currentTime`. -/
def broadcastStop (currentTime : Int) (s : Fed) : Fed :=
  s.sendTime .stop currentTime

@[simp] theorem nextEventTime_tag (d : Deps) (time : Int) (s : Fed) :
    (nextEventTime d time s).tag = s.tag := by
  unfold nextEventTime
  split_ifs <;> rfl

@[simp] theorem wakeUp_tag (time : Int) (s : Fed) : (wakeUp time s).tag = s.tag := by
  unfold wakeUp
  split
  · split
    · split <;> rfl
    · rfl
  · rfl

/-- What a return from the first part of the call can be. -/
theorem nextEventTime_returned {d : Deps} {time t r : Int} {s : Fed} {why : Why}
    (h : (nextEventTime d time s).main = .returned t r why) :
    t = time ∧ r = time ∧
      (why = .unconnected ∧ d.hasUpstream = false ∨ why = .granted ∧ time ≤ s.tag ∨
        why = .noUpstream ∧ d.hasUpstream = false) := by
  unfold nextEventTime at h
  split_ifs at h with h₁ h₂ h₃ <;> simp only [Fed.ret_main, Main.returned.injEq] at h
  · simp only [Bool.and_eq_true, Bool.not_eq_true'] at h₁
    exact ⟨h.1.symm, h.2.1.symm, .inl ⟨h.2.2.symm, h₁.2⟩⟩
  · exact ⟨h.1.symm, h.2.1.symm, .inr (.inl ⟨h.2.2.symm, h₂⟩)⟩
  · simp only [Bool.not_eq_true'] at h₃
    exact ⟨h.1.symm, h.2.1.symm, .inr (.inr ⟨h.2.2.symm, h₃⟩)⟩

/-- What a return from the loop can be. -/
theorem wakeUp_returned {time t r : Int} {s : Fed} {why : Why} (hm : s.main = .waiting time)
    (h : (wakeUp time s).main = .returned t r why) :
    t = time ∧ (why = .earlierEvent ∧ r < time ∨ why = .tagArrived ∧ r = s.tag) := by
  unfold wakeUp at h
  split at h
  · split at h
    · split at h
      · simp only [Fed.ret_main, Main.returned.injEq] at h
        obtain ⟨rfl, rfl, rfl⟩ := h
        exact ⟨rfl, .inl ⟨rfl, by assumption⟩⟩
      · simp [hm] at h
    · simp [hm] at h
  · simp only [Fed.ret_main, Main.returned.injEq] at h
    obtain ⟨rfl, rfl, rfl⟩ := h
    exact ⟨rfl, .inr ⟨rfl, rfl⟩⟩

/-- The call blocks only after it has sent its NET, and only with upstream federates. -/
theorem nextEventTime_waiting {d : Deps} {time t : Int} {s : Fed}
    (h : (nextEventTime d time s).main = .waiting t) :
    t = time ∧ d.hasUpstream = true ∧
      (nextEventTime d time s).toRti = s.toRti ++ [(.nextEventTime, time)] := by
  unfold nextEventTime at h ⊢
  split_ifs at h ⊢ with h₁ h₂ h₃ <;> simp only [Fed.ret_main, reduceCtorEq] at h
  simp only [Bool.not_eq_true', Bool.not_eq_false] at h₃
  exact ⟨(Main.waiting.inj h).symm, h₃, rfl⟩

/-- A wake-up either returns or leaves the state as it was. -/
theorem wakeUp_cases (time : Int) (s : Fed) :
    wakeUp time s = s ∨ ∃ v why, wakeUp time s = s.ret time v why := by
  unfold wakeUp
  split
  · split
    · split
      · exact .inr ⟨_, _, rfl⟩
      · exact .inl rfl
    · exact .inl rfl
  · exact .inr ⟨_, _, rfl⟩

/-- A wake-up that keeps the main thread blocked changes nothing. -/
theorem wakeUp_waiting {time t : Int} {s : Fed} (h : (wakeUp time s).main = .waiting t) :
    wakeUp time s = s := by
  rcases wakeUp_cases time s with h' | ⟨v, why, h'⟩
  · exact h'
  · rw [h', Fed.ret_main] at h
    cases h

/-! ## Interleavings

One `Act` is one atomic section.  The main thread's sections run when it is not blocked; the other
threads' run only while the main thread does not hold the mutex — while it is outside the call or
blocked in the wait. -/

/-- An atomic section of some thread. -/
inductive Act
  /-- Main thread: call `__next_event_time(time)`. -/
  | call (time : Int)
  /-- Main thread: `pthread_cond_wait` returns, after a broadcast or spuriously. -/
  | wake
  /-- Main thread: the caller of `__next_event_time` releases the mutex. -/
  | release
  /-- Main thread: `__logical_time_complete(time)`. -/
  | ltc (time : Int)
  /-- Main thread: `__broadcast_stop()` at logical time `time`. -/
  | broadcastStop (time : Int)
  /-- RTI listener: `handle_time_advance_grant` for a TAG `g`. -/
  | grant (g : Int)
  /-- RTI listener: `handle_incoming_stop_message`. -/
  | stop
  /-- A handler or a physical action puts an event at `time` on `event_q`. -/
  | schedule (time : Int)
  deriving DecidableEq, Repr

/-- The critical section of `handle_time_advance_grant`: the TAG is stored as it is. -/
def handleTimeAdvanceGrant (g : Int) (s : Fed) : Fed :=
  { s with tag := g, tagPending := false }

/-- The critical section of `handle_incoming_stop_message`. -/
def handleIncomingStopMessage (s : Fed) : Fed :=
  { s with stopRequested := true }

/-- What an atomic section does to the shared state. -/
def effect (d : Deps) (s : Fed) : Act → Fed
  | .call time => nextEventTime d time s
  | .wake => match s.main with
    | .waiting time => wakeUp time s
    | _ => s
  | .release => { s with main := .idle }
  | .ltc time => logicalTimeComplete d time s
  | .broadcastStop time => broadcastStop time s
  | .grant g => handleTimeAdvanceGrant g s
  | .stop => handleIncomingStopMessage s
  | .schedule time => { s with eventQ := time :: s.eventQ }

/-- Whether the thread of a section can run it, given where the main thread is. -/
def enabled (m : Main) : Act → Bool
  | .call _ | .ltc _ | .broadcastStop _ => !m.isWaiting
  | .wake => m.isWaiting
  | .release => m.holdsMutex
  | .grant _ | .stop | .schedule _ => !m.holdsMutex

/-- One atomic section, if its thread can run it now. -/
def step (d : Deps) (s : Fed) (a : Act) : Option Fed :=
  if enabled s.main a then some (effect d s a) else none

/-- Run atomic sections in order; `none` if one of them cannot run. -/
def run (d : Deps) : Fed → List Act → Option Fed
  | s, [] => some s
  | s, a :: as => (step d s a).bind (run d · as)

/-- The states some interleaving reaches from start-up. -/
inductive Reachable (d : Deps) : Fed → Prop
  | init : Reachable d Fed.init
  | next {s s' : Fed} {a : Act} : Reachable d s → step d s a = some s' → Reachable d s'

theorem step_eq_some {d : Deps} {s s' : Fed} {a : Act} :
    step d s a = some s' ↔ enabled s.main a = true ∧ effect d s a = s' := by
  unfold step
  split <;> simp [*]

@[simp] theorem run_nil (d : Deps) (s : Fed) : run d s [] = some s := rfl

theorem run_cons (d : Deps) (s : Fed) (a : Act) (as : List Act) :
    run d s (a :: as) = (step d s a).bind (run d · as) := rfl

/-- A run is a step followed by a run. -/
theorem run_cons_eq_some {d : Deps} {s s' : Fed} {a : Act} {as : List Act} :
    run d s (a :: as) = some s' ↔ ∃ s₁, step d s a = some s₁ ∧ run d s₁ as = some s' := by
  rw [run_cons]
  cases step d s a <;> simp

theorem Reachable.run {d : Deps} {s s' : Fed} {as : List Act} (hs : Reachable d s)
    (h : run d s as = some s') : Reachable d s' := by
  induction as generalizing s with
  | nil => cases h; exact hs
  | cons a as ih =>
    obtain ⟨s₁, hstep, hrun⟩ := run_cons_eq_some.mp h
    exact ih (hs.next hstep) hrun

/-! ## What a step does to `__tag` -/

/-- The TAG an action carries, if it is one. -/
def Act.grant? : Act → Option Int
  | .grant g => some g
  | _ => none

/-- **Only a TAG moves `__tag`**, and it moves it to the TAG, whatever it was before. -/
theorem effect_tag (d : Deps) (s : Fed) (a : Act) : (effect d s a).tag = a.grant?.getD s.tag := by
  cases a with
  | wake => simp only [effect]; split <;> simp [Act.grant?]
  | ltc => simp only [effect, logicalTimeComplete]; split <;> rfl
  | call => simp [effect, Act.grant?]
  | _ => rfl

/-- The TAGs a list of sections delivers, in order. -/
def grants (as : List Act) : List Int := as.filterMap Act.grant?

/-- `__tag` after a list of sections that started from `t`: the last TAG among them, else `t`. -/
def lastGrant (t : Int) : List Act → Int
  | [] => t
  | a :: as => lastGrant (a.grant?.getD t) as

theorem tag_of_run {d : Deps} {s s' : Fed} {as : List Act} (h : run d s as = some s') :
    s'.tag = lastGrant s.tag as := by
  induction as generalizing s with
  | nil => cases h; rfl
  | cons a as ih =>
    obtain ⟨s₁, hstep, hrun⟩ := run_cons_eq_some.mp h
    obtain ⟨-, rfl⟩ := step_eq_some.mp hstep
    rw [ih hrun, effect_tag, lastGrant]

/-- `__tag` is the last TAG delivered, whatever else the sections did. -/
theorem lastGrant_eq_getLastD (t : Int) (as : List Act) : lastGrant t as = (grants as).getLastD t := by
  induction as generalizing t with
  | nil => rfl
  | cons a as ih =>
    rw [lastGrant, ih]
    cases hg : a.grant? <;>
      simp only [grants, List.filterMap_cons, hg, Option.getD_none, Option.getD_some,
        List.getLastD_cons]

/-- TAGs in order from `t` leave `__tag` at or above `t`. -/
theorem le_lastGrant {t : Int} {as : List Act} (h : List.Chain (· ≤ ·) t (grants as)) :
    t ≤ lastGrant t as := by
  induction as generalizing t with
  | nil => exact Int.le_refl t
  | cons a as ih =>
    cases hg : a.grant? with
    | none =>
      rw [grants, List.filterMap_cons_none hg] at h
      simpa [lastGrant, hg] using ih h
    | some g =>
      rw [grants, List.filterMap_cons_some hg, List.chain_cons] at h
      simpa [lastGrant, hg] using Int.le_trans h.1 (ih h.2)

/-- TAGs in order over a whole run are in order from wherever a prefix left `__tag`. -/
theorem chain_lastGrant {t : Int} {as₁ as₂ : List Act}
    (h : List.Chain (· ≤ ·) t (grants (as₁ ++ as₂))) :
    List.Chain (· ≤ ·) (lastGrant t as₁) (grants as₂) := by
  induction as₁ generalizing t with
  | nil => exact h
  | cons a as₁ ih =>
    cases hg : a.grant? with
    | none =>
      rw [List.cons_append, grants, List.filterMap_cons_none hg] at h
      simpa [lastGrant, hg] using ih h
    | some g =>
      rw [List.cons_append, grants, List.filterMap_cons_some hg, List.chain_cons] at h
      simpa [lastGrant, hg] using ih h.2

/-- **`__tag` follows the TAGs.**  Along any run, `__tag` is the last TAG received — no step
compares a TAG with the current `__tag` — so it never decreases over a stretch of the run
exactly as long as the TAGs arrive in non-decreasing order from its value. -/
theorem tag_follows_grants (d : Deps) {s s₁ s₂ : Fed} {as₁ as₂ : List Act}
    (h₁ : run d s as₁ = some s₁) (h₂ : run d s₁ as₂ = some s₂) :
    s₁.tag = lastGrant s.tag as₁ ∧
      (List.Chain (· ≤ ·) s.tag (grants (as₁ ++ as₂)) → s₁.tag ≤ s₂.tag) := by
  have ht₁ := tag_of_run h₁
  refine ⟨ht₁, fun hc => ?_⟩
  rw [tag_of_run h₂, ht₁]
  exact le_lastGrant (chain_lastGrant hc)

/-- The witness: two TAGs in order after start-up. -/
theorem tag_follows_grants_init :
    (handleTimeAdvanceGrant 1 Fed.init).tag = lastGrant never [.grant 1] ∧
      (handleTimeAdvanceGrant 1 Fed.init).tag ≤
        (handleTimeAdvanceGrant 2 (handleTimeAdvanceGrant 1 Fed.init)).tag :=
  let h := @tag_follows_grants ⟨true, true⟩ Fed.init _ _ [.grant 1] [.grant 2] rfl rfl
  ⟨h.1, h.2 (.cons (by decide) (.cons (by decide) .nil))⟩

/-- **A lower TAG lowers `__tag`**: from a reachable state with `__tag = 10`,
`handle_time_advance_grant` stores a TAG of `5`; nothing rejects it. -/
theorem tag_decreases :
    ∃ s s', Reachable ⟨true, true⟩ s ∧ step ⟨true, true⟩ s (.grant 5) = some s' ∧
      s'.tag < s.tag :=
  ⟨_, _, Reachable.init.next (a := .grant 10) rfl, rfl, by decide⟩

/-! ## What a return promises

While the caller holds the mutex after a return, no other thread runs, so the state at a
`returned` place is the state at the moment of the return. -/

/-- Every return of `__next_event_time(t)` with `t` itself is backed by a TAG of at least `t`,
and a return for a local event is earlier than `t`. -/
def ReturnSound (s : Fed) : Prop :=
  ∀ t r why, s.main = .returned t r why → (r = t → t ≤ s.tag) ∧ (why = .earlierEvent → r < t)

theorem ReturnSound.of_main_tag {s s' : Fed} (hs : ReturnSound s) (hm : s'.main = s.main)
    (ht : s'.tag = s.tag) : ReturnSound s' := by
  intro t r why h
  rw [ht]
  exact hs t r why (hm ▸ h)

theorem ReturnSound.of_holdsMutex {s : Fed} (h : s.main.holdsMutex = false) : ReturnSound s := by
  intro t r why hm
  simp [hm, Main.holdsMutex] at h

/-- One step keeps returns sound, for a federate with upstream federates. -/
theorem step_returnSound {d : Deps} (hup : d.hasUpstream = true) {s s' : Fed} {a : Act}
    (hs : ReturnSound s) (h : step d s a = some s') : ReturnSound s' := by
  obtain ⟨hen, rfl⟩ := step_eq_some.mp h
  cases a with
  | call time =>
    intro t r why hm
    obtain ⟨rfl, rfl, hw⟩ := nextEventTime_returned hm
    rcases hw with ⟨-, hd⟩ | ⟨rfl, hle⟩ | ⟨-, hd⟩
    · simp [hup] at hd
    · simpa [effect] using hle
    · simp [hup] at hd
  | wake =>
    cases hm₀ : s.main <;> simp [enabled, hm₀, Main.isWaiting] at hen
    intro t r why hm
    simp only [effect, hm₀] at hm ⊢
    obtain ⟨rfl, ⟨rfl, hr⟩ | ⟨rfl, rfl⟩⟩ := wakeUp_returned hm₀ hm
    · exact ⟨fun h => by omega, fun _ => hr⟩
    · exact ⟨fun h => by simp [h], fun h => by cases h⟩
  | release => exact ReturnSound.of_holdsMutex rfl
  | ltc time =>
    exact hs.of_main_tag (by simp only [effect, logicalTimeComplete]; split <;> rfl)
      (by simp only [effect, logicalTimeComplete]; split <;> rfl)
  | broadcastStop time => exact hs.of_main_tag rfl rfl
  | grant g => exact ReturnSound.of_holdsMutex (by simpa [enabled] using hen)
  | stop => exact ReturnSound.of_holdsMutex (by simpa [enabled] using hen)
  | schedule time => exact ReturnSound.of_holdsMutex (by simpa [enabled] using hen)

theorem Reachable.returnSound {d : Deps} (hup : d.hasUpstream = true) {s : Fed}
    (hs : Reachable d s) : ReturnSound s := by
  induction hs with
  | init => exact ReturnSound.of_holdsMutex rfl
  | next _ hstep ih => exact step_returnSound hup ih hstep

/-- **Grant soundness.**  In every reachable state of a federate with upstream federates, if
`__next_event_time(t)` has just returned `t` then `__tag ≥ t` — the RTI granted `t` — and if it
returned for an earlier event on `event_q` it returned a time below `t`. -/
theorem returned_sound (d : Deps) (hup : d.hasUpstream = true) {s : Fed} (hs : Reachable d s)
    {t r : Int} {why : Why} (hret : s.main = .returned t r why) :
    (r = t → t ≤ s.tag) ∧ (why = .earlierEvent → r < t) :=
  hs.returnSound hup t r why hret

/-- The witness: a call for `1000` sends its NET and waits; an event at `1500` wakes it and it
waits again; the TAG of `1000` arrives, and the next wake-up returns `1000`. -/
theorem returned_sound_granted :
    ((1000 : Int) = 1000 → (1000 : Int) ≤ 1000) ∧
      (Why.tagArrived = .earlierEvent → (1000 : Int) < 1000) :=
  returned_sound ⟨true, false⟩ rfl
    (@Reachable.run _ Fed.init _ [.call 1000, .schedule 1500, .wake, .grant 1000, .wake] .init rfl)
    rfl

/-- **A stale TAG is returned above the time asked for.**  `__next_event_time(1000)` sends a NET
and waits; an event at `500` interrupts it and it returns `500` with `__tag_pending` still set;
the next call, `__next_event_time(500)`, sends a NET of `500` and waits; the RTI's answer to the
first NET, a TAG of `1000`, arrives; the call returns `__tag`, `1000`, not `min(500, 1000)`. -/
theorem nextEventTime_stale_tag :
    ∃ s, Reachable ⟨true, false⟩ s ∧ s.main = .returned 500 1000 .tagArrived ∧
      s.toRti = [(.nextEventTime, 1000), (.nextEventTime, 500)] :=
  ⟨_, @Reachable.run _ Fed.init _
    [.call 1000, .schedule 500, .wake, .call 500, .grant 1000, .wake] .init rfl, rfl, rfl⟩

/-! ## What the main thread waits for

The main thread blocks only right after `send_time(NEXT_EVENT_TIME, time)`, and while it is
blocked none of its sections runs: the other threads' sections send nothing to the RTI. -/

/-- A main thread blocked for `time` is in a federate with upstream federates, and the last
message it sent to the RTI is a NET for `time`. -/
def WaitsOnNet (d : Deps) (s : Fed) : Prop :=
  ∀ time, s.main = .waiting time →
    d.hasUpstream = true ∧ s.toRti.getLast? = some (.nextEventTime, time)

/-- One step keeps the main thread's wait on its NET. -/
theorem step_waitsOnNet {d : Deps} {s s' : Fed} {a : Act} (hs : WaitsOnNet d s)
    (h : step d s a = some s') : WaitsOnNet d s' := by
  obtain ⟨hen, rfl⟩ := step_eq_some.mp h
  intro time hm
  cases a with
  | call t =>
    obtain ⟨rfl, hup, hto⟩ := nextEventTime_waiting hm
    exact ⟨hup, by rw [effect, hto, List.getLast?_append_of_ne_nil _ (List.cons_ne_nil _ _)]; rfl⟩
  | wake =>
    have he : effect d s .wake = s := by
      cases hm₀ : s.main with
      | waiting t =>
        have hw : effect d s .wake = wakeUp t s := by simp only [effect, hm₀]
        rw [hw] at hm ⊢
        exact wakeUp_waiting hm
      | _ => simp only [effect, hm₀]
    rw [he] at hm ⊢
    exact hs time hm
  | release => cases hm
  | ltc t =>
    have hmain : (effect d s (.ltc t)).main = s.main := by
      simp only [effect, logicalTimeComplete]; split <;> rfl
    rw [hmain] at hm
    simp [enabled, hm, Main.isWaiting] at hen
  | broadcastStop t =>
    rw [show (effect d s (.broadcastStop t)).main = s.main from rfl] at hm
    simp [enabled, hm, Main.isWaiting] at hen
  | grant g => exact hs time hm
  | stop => exact hs time hm
  | schedule t => exact hs time hm

/-- Every reachable state keeps the wait on the NET. -/
theorem Reachable.waitsOnNet {d : Deps} {s : Fed} (hs : Reachable d s) : WaitsOnNet d s := by
  induction hs with
  | init => intro time h; cases h
  | next _ hstep ih => exact step_waitsOnNet ih hstep

/-- **The main thread waits only on its own NET.**  In every reachable state in which the main
thread is blocked in `__next_event_time(time)`, the federate has upstream federates and the last
message it sent to the RTI is the NET for `time`: no LTC, stop or other NET goes out while it
waits. -/
theorem waiting_follows_net (d : Deps) {s : Fed} (hs : Reachable d s) {time : Int}
    (hm : s.main = .waiting time) :
    d.hasUpstream = true ∧ s.toRti.getLast? = some (.nextEventTime, time) :=
  hs.waitsOnNet time hm

/-- The witness: from start-up, a call for `1000` with an upstream federate blocks after its
NET. -/
theorem waiting_follows_net_call :
    (⟨true, false⟩ : Deps).hasUpstream = true ∧
      (nextEventTime ⟨true, false⟩ 1000 Fed.init).toRti.getLast? = some (.nextEventTime, 1000) :=
  waiting_follows_net ⟨true, false⟩ (Reachable.init.next (a := .call 1000) rfl) rfl

end ReactorC
