import ReactorC.Platform.Zephyr

/-!
# Platform/ZephyrSleep — `lf_sleep_until` and `lf_sleep` on Zephyr

On Zephyr the runtime sleeps by busy-waiting on the physical clock of `Platform/Zephyr`:
`lf_sleep_until(wakeup)` leaves a critical section it was called in, then reads the clock until
it is at `wakeup` or an interrupt has called `lf_notify_of_event`.  An interleaving is the
sequence of passes of that wait, each a reading of the counter and whether an event was notified
during it.

* `lfSleepUntil_returns` — a sleep that returns has acknowledged every event and is back in the
  critical section it was called in; it returns `0` only once the clock reads `wakeup` with no
  event, and `-1` only after an event notified during its last pass or pending when it was called;
* `lfSleepUntil_notified` — an event notified during a pass of the wait ends it there, whatever
  the counter reads;
* `lfSleepUntil_hangs` — but with `f ≥ 2` no call of `lf_clock_gettime` returns more than
  `(2^64 - 1) / f`, so a sleep until a later instant never returns without an event, whatever
  the counter reads, and `lfSleepUntil_past_ceiling` — for such a sleep an event is the only way
  out, and it returns `-1`;
* `lfSleep_hangs_near_wrap` — and `lf_sleep(1 s)` started at the last tick before
  `TIMER_TICKS_TO_NS` wraps is such a sleep, on every run that gets there.
-/

namespace ReactorC.Zephyr

/-! ## The platform's globals -/

/-- The globals of `lf_zephyr_support.c` that the sleep reads and writes: the clock,
`_lf_async_event` and `_lf_in_critical_section`. -/
structure Platform where
  clock : Clock
  asyncEvent : Bool
  inCriticalSection : Bool
  deriving DecidableEq, Repr

/-- `lf_critical_section_enter()`, without the interrupt lock it takes. -/
def lfCriticalSectionEnter (s : Platform) : Platform := { s with inCriticalSection := true }

/-- `lf_critical_section_exit()`, without the interrupt unlock. -/
def lfCriticalSectionExit (s : Platform) : Platform := { s with inCriticalSection := false }

/-- `lf_notify_of_event()`. -/
def lfNotifyOfEvent (s : Platform) : Platform := { s with asyncEvent := true }

/-- `lf_ack_events()`. -/
def lfAckEvents (s : Platform) : Platform := { s with asyncEvent := false }

/-- What `now` holds after `lf_clock_gettime(&now)`: the time it stored, or what it held. -/
def Gettime.storedIn (now : Int) : Gettime → Int
  | .ok t => t
  | _ => now

/-! ## The sleep -/

/-- One pass of the wait of `lf_sleep_until`: `lf_clock_gettime(&now)` with the counter at tick
`T`, and `lf_notify_of_event()` from an interrupt if `notified`.  `now` and the globals after it.
`counter_get_value` is taken to succeed at every pass: its failure, after which `now` keeps the
value it had (the uninitialised one at the first pass, `Gettime.storedIn`), is left out. -/
def sleepPass (timerFreqHz : UInt32) (now : Int) (s : Platform) (T : Nat) (notified : Bool) :
    Int × Platform :=
  let r := lfClockGettime timerFreqHz true (.ok (UInt32.ofNat T)) s.clock
  let s := { s with clock := r.2 }
  (r.1.storedIn now, if notified then lfNotifyOfEvent s else s)

@[simp] theorem sleepPass_inCriticalSection (timerFreqHz : UInt32) (now : Int) (s : Platform)
    (T : Nat) (notified : Bool) :
    (sleepPass timerFreqHz now s T notified).2.inCriticalSection = s.inCriticalSection := by
  cases notified <;> rfl

@[simp] theorem sleepPass_clock (timerFreqHz : UInt32) (now : Int) (s : Platform) (T : Nat)
    (notified : Bool) :
    (sleepPass timerFreqHz now s T notified).2.clock =
      (lfClockGettime timerFreqHz true (.ok (UInt32.ofNat T)) s.clock).2 := by
  cases notified <;> rfl

@[simp] theorem sleepPass_asyncEvent (timerFreqHz : UInt32) (now : Int) (s : Platform) (T : Nat)
    (notified : Bool) :
    (sleepPass timerFreqHz now s T notified).2.asyncEvent = (s.asyncEvent || notified) := by
  cases notified <;> simp [sleepPass, lfNotifyOfEvent]

/-- `do { lf_clock_gettime(&now); } while ((now < wakeup) && !_lf_async_event);` over the passes
`waits`, each the tick the counter is read at and whether an event was notified during it.  `now`
and the globals when the loop ends — `none` while the passes last. -/
def sleepLoop (timerFreqHz : UInt32) (wakeup : Int) :
    Int → Platform → List (Nat × Bool) → Option (Int × Platform)
  | _, _, [] => none
  | now, s, (T, notified) :: waits =>
    let p := sleepPass timerFreqHz now s T notified
    if p.1 < wakeup ∧ ¬ p.2.asyncEvent then sleepLoop timerFreqHz wakeup p.1 p.2 waits
    else some (p.1, p.2)

/-- `lf_sleep_until(wakeup)` from the globals `s`, its uninitialised `now` holding `now₀`: the result
and the globals after it. -/
def lfSleepUntil (timerFreqHz : UInt32) (wakeup now₀ : Int) (s : Platform)
    (waits : List (Nat × Bool)) : Option (Int × Platform) :=
  let wasInCriticalSection := s.inCriticalSection
  let s := if wasInCriticalSection then lfCriticalSectionExit (lfAckEvents s) else s
  (sleepLoop timerFreqHz wakeup now₀ s waits).map fun (_, s) =>
    let s := if wasInCriticalSection then lfCriticalSectionEnter s else s
    if s.asyncEvent then (-1, lfAckEvents s) else (0, s)

/-- `lf_sleep(sleep_duration)`: the counter read at tick `T₀`, then a sleep until
`now + sleep_duration`, the sum taken exactly (its overflow is undefined in C).  `now₀` is what the
uninitialised locals `now` of both functions hold. -/
def lfSleep (timerFreqHz : UInt32) (sleepDuration now₀ : Int) (s : Platform) (T₀ : Nat)
    (waits : List (Nat × Bool)) : Option (Int × Platform) :=
  let r := lfClockGettime timerFreqHz true (.ok (UInt32.ofNat T₀)) s.clock
  let now := r.1.storedIn now₀
  lfSleepUntil timerFreqHz (now + sleepDuration) now₀ { s with clock := r.2 } waits

variable (f : UInt32)

/-- **How the wait ends**: at `wakeup` or with an event pending, never touching the critical
section flag. -/
theorem sleepLoop_some {wakeup : Int} :
    ∀ {now now' : Int} {s s' : Platform} (waits : List (Nat × Bool)),
      sleepLoop f wakeup now s waits = some (now', s') →
        s'.inCriticalSection = s.inCriticalSection ∧ (wakeup ≤ now' ∨ s'.asyncEvent = true)
  | _, _, _, _, [], h => by simp [sleepLoop] at h
  | now, now', s, s', (T, notified) :: waits, h => by
    rw [sleepLoop] at h
    split_ifs at h with hc
    · obtain ⟨h₁, h₂⟩ := sleepLoop_some waits h
      exact ⟨h₁.trans (sleepPass_inCriticalSection ..), h₂⟩
    · simp only [Option.some.injEq, Prod.mk.injEq] at h
      obtain ⟨rfl, rfl⟩ := h
      refine ⟨sleepPass_inCriticalSection .., ?_⟩
      by_contra hne
      obtain ⟨h₁, h₂⟩ := not_or.mp hne
      exact hc ⟨lt_of_not_le h₁, h₂⟩

/-- From a clock encoding `T₀`, a pass reading the counter at `T`, within a wrap of `T₀`, stores
`gettimeOf f T` in `now` and leaves a clock encoding `T`. -/
theorem sleepPass_encodes (now : Int) {s : Platform} {T₀ T : Nat} (hc : s.clock.Encodes T₀)
    (hT : WithinWrap T₀ T) (notified : Bool) :
    (sleepPass f now s T notified).1 = gettimeOf f T ∧
      (sleepPass f now s T notified).2.clock.Encodes T := by
  obtain ⟨c', hstep, hc'⟩ := lfClockGettime_step f hc hT
  exact ⟨by simp only [sleepPass, hstep, Gettime.storedIn], by rwa [sleepPass_clock, hstep]⟩

/-- **Where the wait stops**: from a clock encoding `T₀`, over readings each within a wrap of the
one before, the wait reads the passes up to a pass `T` and no further — every pass before it read
a time below `wakeup` with no event notified — and ends with the time read at `T` and the event
flag as that pass left it. -/
theorem sleepLoop_stops {wakeup : Int} :
    ∀ {now now' : Int} {s s' : Platform} {T₀ : Nat} (waits : List (Nat × Bool)),
      s.clock.Encodes T₀ → List.Chain WithinWrap T₀ (waits.map Prod.fst) →
      sleepLoop f wakeup now s waits = some (now', s') →
      ∃ pre T notified post, waits = pre ++ (T, notified) :: post ∧
        (∀ w ∈ pre, w.2 = false ∧ gettimeOf f w.1 < wakeup) ∧
        now' = gettimeOf f T ∧ s'.asyncEvent = (s.asyncEvent || notified)
  | _, _, _, _, _, [], _, _, h => by simp [sleepLoop] at h
  | now, now', s, s', _, (T, notified) :: waits, hc, .cons hT hchain, h => by
    obtain ⟨hnow, henc⟩ := sleepPass_encodes f now hc hT notified
    rw [sleepLoop] at h
    split_ifs at h with hgo
    · obtain ⟨pre, T', notified', post, rfl, hpre, hnow', hev⟩ := sleepLoop_stops waits henc hchain h
      have hquiet : s.asyncEvent = false ∧ notified = false := by
        simpa only [sleepPass_asyncEvent, Bool.not_eq_true, Bool.or_eq_false_iff] using hgo.2
      refine ⟨(T, notified) :: pre, T', notified', post, rfl, ?_, hnow', ?_⟩
      · rintro w (_ | ⟨_, hw⟩)
        · exact ⟨hquiet.2, hnow ▸ hgo.1⟩
        · exact hpre w hw
      · simp only [hev, sleepPass_asyncEvent, hquiet.1, hquiet.2, Bool.or_false]
    · obtain ⟨rfl, rfl⟩ := Prod.mk.inj (Option.some.inj h)
      exact ⟨[], T, notified, waits, rfl, fun _ h => absurd h (List.not_mem_nil _), hnow,
        sleepPass_asyncEvent ..⟩

/-- A pass during which an event is notified ends the wait, whatever the counter reads. -/
theorem sleepLoop_notified {wakeup now : Int} {s : Platform} {T : Nat} (waits : List (Nat × Bool)) :
    sleepLoop f wakeup now s ((T, true) :: waits) = some (sleepPass f now s T true) := by
  rw [sleepLoop, if_neg (fun h => by simp at h)]

/-- The wait reads no pass after the first one during which an event is notified, and ends by it. -/
theorem sleepLoop_append_notified (wakeup : Int) (T : Nat) (post : List (Nat × Bool)) :
    ∀ (now : Int) (s : Platform) (pre : List (Nat × Bool)),
      sleepLoop f wakeup now s (pre ++ (T, true) :: post) =
          sleepLoop f wakeup now s (pre ++ [(T, true)]) ∧
        (sleepLoop f wakeup now s (pre ++ [(T, true)])).isSome
  | now, s, [] => by simp [sleepLoop_notified]
  | now, s, (T', notified) :: pre => by
    simp only [List.cons_append, sleepLoop]
    split_ifs
    · exact sleepLoop_append_notified wakeup T post _ _ pre
    · exact ⟨rfl, rfl⟩

/-- **An event ends every sleep.**  Whatever the counter reads, and whatever `wakeup` is, a pass of
the wait of `lf_sleep_until` during which an interrupt calls `lf_notify_of_event` makes it
return, and what it returns depends on no later pass. -/
theorem lfSleepUntil_notified (wakeup now₀ : Int) (s : Platform) (pre post : List (Nat × Bool))
    (T : Nat) :
    lfSleepUntil f wakeup now₀ s (pre ++ (T, true) :: post) =
        lfSleepUntil f wakeup now₀ s (pre ++ [(T, true)]) ∧
      (lfSleepUntil f wakeup now₀ s (pre ++ [(T, true)])).isSome := by
  obtain ⟨h₁, h₂⟩ := sleepLoop_append_notified f wakeup T post now₀
    (if s.inCriticalSection then lfCriticalSectionExit (lfAckEvents s) else s) pre
  unfold lfSleepUntil
  dsimp only
  exact ⟨by rw [h₁], by simpa using h₂⟩

/-! ## The clock's ceiling -/

/-- **The clock's ceiling**: with `f ≥ 2` every successful read of `lf_clock_gettime` stores a
time, at most `(2^64 - 1) / f` — the quotient of a 64-bit product — whatever the clock's state. -/
theorem lfClockGettime_le_ceiling (hf : 2 ≤ f.toNat) (nowCycles : UInt32) (c : Clock) :
    ∃ t, (lfClockGettime f true (.ok nowCycles) c).1 = .ok t ∧ t ≤ ((2 ^ 64 - 1) / f.toNat : Nat) := by
  refine ⟨_, rfl, ?_⟩
  dsimp only
  set x := timerTicksToNs f (combineHiLo (if nowCycles < c.cyclesLowLast then c.cyclesHigh + 1
    else c.cyclesHigh) nowCycles)
  have hx : x.toNat ≤ (2 ^ 64 - 1) / f.toNat := by
    rw [toNat_timerTicksToNs]
    exact Nat.div_le_div_right (by omega)
  have hsign : x.toNat < 2 ^ 63 :=
    lt_of_le_of_lt hx ((Nat.div_lt_iff_lt_mul (by omega)).mpr (by omega))
  rw [instantOfUnsigned_of_lt hsign]
  exact_mod_cast hx

/-- With no event, a wait for an instant above the ceiling goes on through every pass. -/
theorem sleepLoop_hangs (hf : 2 ≤ f.toNat) {wakeup : Int}
    (hwake : ((2 ^ 64 - 1) / f.toNat : Nat) < wakeup) :
    ∀ (now : Int) (s : Platform) (waits : List (Nat × Bool)), s.asyncEvent = false →
      (∀ w ∈ waits, w.2 = false) → sleepLoop f wakeup now s waits = none
  | _, _, [], _, _ => rfl
  | now, s, (T, notified) :: waits, hs, hw => by
    obtain ⟨t, ht, hle⟩ := lfClockGettime_le_ceiling f hf (UInt32.ofNat T) s.clock
    have hn : notified = false := hw (T, notified) (List.mem_cons_self _ _)
    subst hn
    have h₁ : (sleepPass f now s T false).1 = t := by simp only [sleepPass, ht, Gettime.storedIn]
    have h₂ : (sleepPass f now s T false).2.asyncEvent = false := by simp [hs]
    rw [sleepLoop, if_pos ⟨by rw [h₁]; omega, by rw [h₂]; simp⟩, h₁]
    exact sleepLoop_hangs hf hwake t _ waits h₂ fun w hw' => hw w (List.mem_cons_of_mem _ hw')

/-- **A sleep past the ceiling hangs**: with `f ≥ 2`, `lf_sleep_until(wakeup)` for `wakeup` above
`(2^64 - 1) / f`, with no event pending outside a critical section and none notified, never
returns — for every sequence of counter readings. -/
theorem lfSleepUntil_hangs (hf : 2 ≤ f.toNat) {wakeup : Int}
    (hwake : ((2 ^ 64 - 1) / f.toNat : Nat) < wakeup) (now₀ : Int) {s : Platform}
    (hs : s.inCriticalSection = true ∨ s.asyncEvent = false) (waits : List (Nat × Bool))
    (hw : ∀ w ∈ waits, w.2 = false) :
    lfSleepUntil f wakeup now₀ s waits = none := by
  unfold lfSleepUntil
  dsimp only
  have hack : (if s.inCriticalSection then lfCriticalSectionExit (lfAckEvents s) else s).asyncEvent =
      false := by
    cases hin : s.inCriticalSection
    · simpa [hin] using hs
    · rfl
  rw [sleepLoop_hangs f hf hwake _ _ waits hack hw]
  rfl

/-- **`lf_sleep(1 s)` hangs before the product wraps.**  For every frequency `f` in `[2, 2^32)`,
a call of `lf_sleep(1000000000)` whose first reading is at tick `18446744073`, within a wrap of
the tick the clock encodes, sees `⌊18446744073 * 10^9 / f⌋` and sleeps until an instant above the
ceiling: with no event pending outside a critical section and none notified, it never returns,
whatever the counter reads next. -/
theorem lfSleep_hangs_near_wrap (hf : 2 ≤ f.toNat) {T : Nat} {s : Platform}
    (hc : s.clock.Encodes T) (hT : WithinWrap T 18446744073) (now₀ : Int)
    (hs : s.inCriticalSection = true ∨ s.asyncEvent = false) (waits : List (Nat × Bool))
    (hw : ∀ w ∈ waits, w.2 = false) :
    lfSleep f 1000000000 now₀ s 18446744073 waits = none := by
  have hflt := f.toNat_lt
  obtain ⟨c', hstep, -⟩ := lfClockGettime_step f hc hT
  have hnow : gettimeOf f 18446744073 = (18446744073 * 10 ^ 9 / f.toNat : Nat) :=
    gettimeOf_eq_div f (by norm_num) (by omega)
  have hgap : (2 ^ 64 - 1) / f.toNat < 18446744073 * 10 ^ 9 / f.toNat + 1000000000 := by
    rw [Nat.div_lt_iff_lt_mul (by omega), Nat.add_mul]
    have := Nat.lt_div_mul_add (a := 18446744073 * 10 ^ 9) (by omega : 0 < f.toNat)
    omega
  unfold lfSleep
  rw [hstep]
  exact lfSleepUntil_hangs f hf (by simp only [Gettime.storedIn, hnow]; omega) _
    (by simpa using hs) waits hw

/-- The witness: a 1 MHz timer whose clock encodes tick `18446744073`, and one more reading. -/
theorem lfSleep_hangs_near_wrap_mhz :
    2 ≤ (1000000 : UInt32).toNat ∧
      (⟨⟨4, 1266874889⟩, false, false⟩ : Platform).clock.Encodes 18446744073 ∧
      WithinWrap 18446744073 18446744073 ∧
      ((⟨⟨4, 1266874889⟩, false, false⟩ : Platform).inCriticalSection = true ∨
        (⟨⟨4, 1266874889⟩, false, false⟩ : Platform).asyncEvent = false) ∧
      (∀ w ∈ [((18446744074 : Nat), false)], w.2 = false) ∧
      lfSleep 1000000 1000000000 0 ⟨⟨4, 1266874889⟩, false, false⟩ 18446744073
        [(18446744074, false)] = none :=
  have hc : (⟨⟨4, 1266874889⟩, false, false⟩ : Platform).clock.Encodes 18446744073 :=
    show (4 : UInt32).toNat * 2 ^ 32 + (1266874889 : UInt32).toNat = 18446744073 % 2 ^ 64 by decide
  have hT : WithinWrap 18446744073 18446744073 := by decide
  have hw : ∀ w ∈ [((18446744074 : Nat), false)], w.2 = false := by decide
  ⟨by decide, hc, hT, .inr rfl, hw,
    lfSleep_hangs_near_wrap 1000000 (by decide) hc hT 0 (.inr rfl) _ hw⟩

/-- With `f ≥ 2` the wait ends at a time the clock stored, so at most the ceiling. -/
theorem sleepLoop_le_ceiling (hf : 2 ≤ f.toNat) {wakeup : Int} :
    ∀ {now now' : Int} {s s' : Platform} (waits : List (Nat × Bool)),
      sleepLoop f wakeup now s waits = some (now', s') → now' ≤ ((2 ^ 64 - 1) / f.toNat : Nat)
  | _, _, _, _, [], h => by simp [sleepLoop] at h
  | now, now', s, s', (T, notified) :: waits, h => by
    rw [sleepLoop] at h
    split_ifs at h
    · exact sleepLoop_le_ceiling hf waits h
    · obtain ⟨t, ht, hle⟩ := lfClockGettime_le_ceiling f hf (UInt32.ofNat T) s.clock
      simp only [Option.some.injEq, Prod.mk.injEq] at h
      rw [← h.1]
      simpa only [sleepPass, ht, Gettime.storedIn] using hle

/-- **Past the ceiling, only an event ends a sleep.**  With `f ≥ 2`, `lf_sleep_until(wakeup)` for
`wakeup` above `(2^64 - 1) / f`, with no event pending outside a critical section, returns on
exactly the sequences of passes during one of which an interrupt notified an event — and then it
returns `-1`, never the `0` of a sleep that reached its time. -/
theorem lfSleepUntil_past_ceiling (hf : 2 ≤ f.toNat) {wakeup : Int}
    (hwake : ((2 ^ 64 - 1) / f.toNat : Nat) < wakeup) (now₀ : Int) {s : Platform}
    (hs : s.inCriticalSection = true ∨ s.asyncEvent = false) (waits : List (Nat × Bool)) :
    ((lfSleepUntil f wakeup now₀ s waits).isSome ↔ ∃ w ∈ waits, w.2 = true) ∧
      ∀ r s', lfSleepUntil f wakeup now₀ s waits = some (r, s') → r = -1 := by
  refine ⟨⟨fun hsome => ?_, fun ⟨⟨T, notified⟩, hw, hn⟩ => ?_⟩, fun r s' h => ?_⟩
  · by_contra hno
    rw [lfSleepUntil_hangs f hf hwake now₀ hs waits
      (fun w hw => by simpa using fun h => hno ⟨w, hw, h⟩)] at hsome
    exact Bool.false_ne_true hsome
  · obtain ⟨pre, post, rfl⟩ := List.append_of_mem hw
    cases hn
    unfold lfSleepUntil
    dsimp only
    rw [(sleepLoop_append_notified f wakeup T post _ _ pre).1, Option.isSome_map']
    exact (sleepLoop_append_notified f wakeup T post _ _ pre).2
  · unfold lfSleepUntil at h
    obtain ⟨⟨now', t⟩, hloop, hres⟩ := Option.map_eq_some'.mp h
    have hev : t.asyncEvent = true :=
      ((sleepLoop_some f waits hloop).2.resolve_left
        (not_le.mpr (lt_of_le_of_lt (sleepLoop_le_ceiling f hf waits hloop) hwake)))
    have hback : (if s.inCriticalSection then lfCriticalSectionEnter t else t).asyncEvent = true := by
      split <;> exact hev
    dsimp only at hres
    rw [if_pos hback] at hres
    exact (Prod.mk.inj hres).1.symm

/-- The witness: a 1 MHz timer, a sleep until `2^64`, and an event during the second pass. -/
theorem lfSleepUntil_past_ceiling_mhz :
    2 ≤ (1000000 : UInt32).toNat ∧
      ((2 ^ 64 - 1) / (1000000 : UInt32).toNat : Nat) < (2 ^ 64 : Int) ∧
      ((⟨Clock.init, false, false⟩ : Platform).inCriticalSection = true ∨
        (⟨Clock.init, false, false⟩ : Platform).asyncEvent = false) ∧
      ((lfSleepUntil 1000000 (2 ^ 64) 0 ⟨Clock.init, false, false⟩ [(5, false), (6, true)]).isSome ↔
          ∃ w ∈ [(5, false), (6, true)], w.2 = true) ∧
        ∀ r s', lfSleepUntil 1000000 (2 ^ 64) 0 ⟨Clock.init, false, false⟩ [(5, false), (6, true)] =
          some (r, s') → r = -1 :=
  ⟨by decide, by decide, .inr rfl,
    lfSleepUntil_past_ceiling 1000000 (by decide) (by decide) 0 (.inr rfl) _⟩

end ReactorC.Zephyr
