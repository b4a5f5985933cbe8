import Mathlib

/-!
# Platform/Zephyr — the physical clock of `lf_zephyr_support.c`

On Zephyr the physical clock is a 32-bit hardware counter running at `_lf_timer_freq_hz`.
`lf_clock_gettime` widens it to 64 bits: it keeps a high word `_lf_time_cycles_high` and the last
reading `_lf_time_cycles_low_last`, counts a wrap whenever a reading is below the last one, joins
the words with `COMBINE_HI_LO`, and converts ticks to nanoseconds with `TIMER_TICKS_TO_NS`.  A run
is a sequence of calls reading the counter at tick counts `T₀ ≤ T₁ ≤ …` since it started.

* `gettimeRun_spaced` — when consecutive calls are fewer than `2^32` ticks apart the high word is
  reconstructed exactly: each call returns `gettimeOf f T`, the conversion of the 64-bit tick
  count `T mod 2^64`;
* `gettimeRun_eq_div` — while `T * 10^9` fits the 64-bit arithmetic that is `⌊T * 10^9 / f⌋`;
* `clock_goes_backwards` — but `TIMER_TICKS_TO_NS` multiplies in 64 bits: for every frequency
  there is a tick count, reached within `2^64 / 10^9` ticks, after which every run returns a wrong
  and smaller time.
-/

namespace ReactorC.Zephyr

/-! ## `lf_clock_gettime` -/

/-- The globals of the clock: `_lf_time_cycles_high` and `_lf_time_cycles_low_last`. -/
structure Clock where
  cyclesHigh : UInt32
  cyclesLowLast : UInt32
  deriving DecidableEq, Repr

/-- Both globals start at `0`. -/
def Clock.init : Clock := ⟨0, 0⟩

/-- `COMBINE_HI_LO(hi, lo)`: `(((uint64_t) hi) << 32) | ((uint64_t) lo)`. -/
def combineHiLo (hi lo : UInt32) : UInt64 := (hi.toUInt64 <<< 32) ||| lo.toUInt64

/-- `TIMER_TICKS_TO_NS(ticks)`: `((int64_t) ticks) * 1000000000ULL / _lf_timer_freq_hz`.  The
`int64_t` operand is converted to `unsigned long long` for the product, so the product and the
quotient are taken in 64-bit unsigned arithmetic; the conversions between `int64_t` and `uint64_t`
keep the 64 bits. -/
def timerTicksToNs (timerFreqHz : UInt32) (ticks : UInt64) : UInt64 :=
  ticks * 1000000000 / timerFreqHz.toUInt64

/-- The `instant_t` (`int64_t`) an `unsigned long long` converts to (two's complement). -/
def instantOfUnsigned (x : UInt64) : Int :=
  if x.toNat < 2 ^ 63 then x.toNat else x.toNat - 2 ^ 64

/-- How `lf_clock_gettime(t)` ends. -/
inductive Gettime
  /-- `t == NULL`: `errno = EFAULT` and `-1`. -/
  | efault
  /-- `counter_get_value` failed with this result, which is returned. -/
  | failed (res : Int)
  /-- `0`, with this time stored in `*t`. -/
  | ok (t : Int)
  deriving DecidableEq, Repr

/-- `lf_clock_gettime(t)` at frequency `timerFreqHz`: `tValid` says `t` is not `NULL`, and `read`
is what `counter_get_value` gives, the counter's value or its non-zero result. -/
def lfClockGettime (timerFreqHz : UInt32) (tValid : Bool) (read : Except Int UInt32) (c : Clock) :
    Gettime × Clock :=
  if ¬ tValid then (.efault, c)
  else
    match read with
    | .error res => (.failed res, c)
    | .ok nowCycles =>
      let cyclesHigh := if nowCycles < c.cyclesLowLast then c.cyclesHigh + 1 else c.cyclesHigh
      let cycles64 := combineHiLo cyclesHigh nowCycles
      (.ok (instantOfUnsigned (timerTicksToNs timerFreqHz cycles64)), ⟨cyclesHigh, nowCycles⟩)

/-- Calls of `lf_clock_gettime` with a valid `t`, reading the counter `ticks` ticks after it
started; the 32-bit counter then holds the count modulo `2^32`. -/
def gettimeRun (timerFreqHz : UInt32) : Clock → List Nat → List Gettime
  | _, [] => []
  | c, T :: ticks =>
    let r := lfClockGettime timerFreqHz true (.ok (UInt32.ofNat T)) c
    r.1 :: gettimeRun timerFreqHz r.2 ticks

/-! ## Arithmetic of the conversion -/

theorem toNat_combineHiLo (hi lo : UInt32) :
    (combineHiLo hi lo).toNat = hi.toNat * 2 ^ 32 + lo.toNat := by
  have hlo := lo.toNat_lt
  have hhi := hi.toNat_lt
  show ((hi.toUInt64.toBitVec <<< (32 % 64 : UInt64).toBitVec) ||| lo.toUInt64.toBitVec).toNat = _
  rw [BitVec.toNat_or, BitVec.shiftLeft_eq', BitVec.toNat_shiftLeft]
  show hi.toNat <<< 32 % 2 ^ 64 ||| lo.toNat = _
  rw [Nat.shiftLeft_eq, Nat.mod_eq_of_lt (by omega), Nat.mul_comm, ← Nat.mul_add_lt_is_or hlo]

theorem toNat_timerTicksToNs (timerFreqHz : UInt32) (ticks : UInt64) :
    (timerTicksToNs timerFreqHz ticks).toNat = ticks.toNat * 10 ^ 9 % 2 ^ 64 / timerFreqHz.toNat := by
  rw [timerTicksToNs, UInt64.toNat_div, UInt64.toNat_mul]
  rfl

theorem instantOfUnsigned_of_lt {x : UInt64} (h : x.toNat < 2 ^ 63) : instantOfUnsigned x = x.toNat :=
  if_pos h

theorem instantOfUnsigned_neg {x : UInt64} (h : 2 ^ 63 ≤ x.toNat) : instantOfUnsigned x < 0 := by
  rw [instantOfUnsigned, if_neg (by omega)]
  have := x.toNat_lt
  omega

/-! ## Runs -/

/-- The precondition the comment on `lf_clock_gettime` states ("This has to be called at least
once per 35minute to work"), between two calls: the later one reads the counter no earlier, and
fewer than `2^32` ticks — one wrap of the 32-bit counter — later. -/
def WithinWrap (T T' : Nat) : Prop := T ≤ T' ∧ T' < T + 2 ^ 32

instance : DecidableRel WithinWrap := fun _ _ => inferInstanceAs (Decidable (_ ∧ _))

/-- What the code computes for a call at `T` ticks: `TIMER_TICKS_TO_NS` of the 64-bit count, as an
`instant_t`. -/
def gettimeOf (timerFreqHz : UInt32) (T : Nat) : Int :=
  instantOfUnsigned (timerTicksToNs timerFreqHz (UInt64.ofNat T))

/-- **The clock's invariant**: its two words are the tick count modulo `2^64` — the low word the
last reading, the high word the wraps counted. -/
def Clock.Encodes (c : Clock) (T : Nat) : Prop :=
  c.cyclesHigh.toNat * 2 ^ 32 + c.cyclesLowLast.toNat = T % 2 ^ 64

theorem Clock.encodes_init : Clock.init.Encodes 0 := rfl

variable (f : UInt32)

/-- **One call**: from a clock encoding `T`, a reading at `T'` within a wrap of `T` returns
`gettimeOf f T'` and leaves a clock encoding `T'`.  A wrap of the low word is seen exactly when the
32-bit reading is below the last. -/
theorem lfClockGettime_step {c : Clock} {T T' : Nat} (hc : c.Encodes T) (h : WithinWrap T T') :
    ∃ c', lfClockGettime f true (.ok (UInt32.ofNat T')) c = (.ok (gettimeOf f T'), c') ∧
      c'.Encodes T' := by
  have hnow : (UInt32.ofNat T').toNat = T' % 2 ^ 32 := BitVec.toNat_ofNat _ _
  have hhi := c.cyclesHigh.toNat_lt
  have hlo := c.cyclesLowLast.toNat_lt
  have hcycles : ∀ hi : UInt32, Clock.Encodes ⟨hi, UInt32.ofNat T'⟩ T' →
      combineHiLo hi (UInt32.ofNat T') = UInt64.ofNat T' := fun hi he =>
    UInt64.toNat.inj (by rw [toNat_combineHiLo, he]; exact (BitVec.toNat_ofNat _ _).symm)
  have henc : Clock.Encodes ⟨if UInt32.ofNat T' < c.cyclesLowLast then c.cyclesHigh + 1
      else c.cyclesHigh, UInt32.ofNat T'⟩ T' := by
    unfold Clock.Encodes at hc ⊢
    unfold WithinWrap at h
    split_ifs with hwrap
    · -- the reading is below the last: the low word wrapped once
      have hwrap' : T' % 2 ^ 32 < c.cyclesLowLast.toNat := hnow ▸ hwrap
      rw [UInt32.toNat_add, hnow]
      show (c.cyclesHigh.toNat + 1) % 2 ^ 32 * 2 ^ 32 + T' % 2 ^ 32 = T' % 2 ^ 64
      omega
    · have hwrap' : ¬ T' % 2 ^ 32 < c.cyclesLowLast.toNat := hnow ▸ hwrap
      show c.cyclesHigh.toNat * 2 ^ 32 + (UInt32.ofNat T').toNat = T' % 2 ^ 64
      rw [hnow]
      omega
  exact ⟨_, by rw [lfClockGettime, if_neg (by simp)]; dsimp only; rw [hcycles _ henc]; rfl, henc⟩

/-- **The run lemma**: from a clock encoding `T`, calls each within a wrap of the one before
return the times `gettimeOf f` of their tick counts. -/
theorem gettimeRun_of_encodes :
    ∀ {c : Clock} {T : Nat} (ticks : List Nat), c.Encodes T → List.Chain WithinWrap T ticks →
      gettimeRun f c ticks = ticks.map (fun T => .ok (gettimeOf f T))
  | _, _, [], _, _ => rfl
  | _, _, T' :: ticks, hc, .cons h hchain => by
    obtain ⟨c', hstep, hc'⟩ := lfClockGettime_step f hc h
    rw [gettimeRun, hstep, List.map_cons, gettimeRun_of_encodes ticks hc' hchain]

/-- **The high word is reconstructed**: from the start of the counter, calls each fewer than
`2^32` ticks after the one before return the times of their tick counts modulo `2^64`. -/
theorem gettimeRun_spaced {ticks : List Nat} (h : List.Chain WithinWrap 0 ticks) :
    gettimeRun f Clock.init ticks = ticks.map (fun T => .ok (gettimeOf f T)) :=
  gettimeRun_of_encodes f ticks Clock.encodes_init h

/-- Every tick count is reached by calls within a wrap of each other. -/
theorem exists_chain_withinWrap (T : Nat) : ∃ ticks, List.Chain WithinWrap 0 (ticks ++ [T]) := by
  induction T using Nat.strong_induction_on with
  | _ T ih =>
    by_cases hT : T < 2 ^ 32
    · exact ⟨[], List.Chain.cons ⟨Nat.zero_le T, by omega⟩ .nil⟩
    · obtain ⟨ticks, hticks⟩ := ih (T - (2 ^ 32 - 1)) (by omega)
      refine ⟨ticks ++ [T - (2 ^ 32 - 1)], ?_⟩
      rw [List.append_assoc, List.singleton_append, List.chain_split]
      exact ⟨hticks, List.chain_singleton.mpr ⟨by omega, by omega⟩⟩

/-! ## Where the 64-bit product overflows -/

theorem toNat_timerTicksToNs_ofNat (T : Nat) :
    (timerTicksToNs f (UInt64.ofNat T)).toNat = T % 2 ^ 64 * 10 ^ 9 % 2 ^ 64 / f.toNat := by
  rw [toNat_timerTicksToNs]
  rfl

/-- **While `T * 10^9` fits, the time is `⌊T * 10^9 / f⌋`**: the product does not wrap, and the
quotient is below `2^63`, as `f ≥ 2` or `T * 10^9 < 2^63` gives. -/
theorem gettimeOf_eq_div {T : Nat} (hT : T * 10 ^ 9 < 2 ^ 64) (hsign : T * 10 ^ 9 < 2 ^ 63 * f.toNat) :
    gettimeOf f T = (T * 10 ^ 9 / f.toNat : Nat) := by
  have hpos : 0 < f.toNat := by omega
  have hticks : (timerTicksToNs f (UInt64.ofNat T)).toNat = T * 10 ^ 9 / f.toNat := by
    rw [toNat_timerTicksToNs_ofNat, Nat.mod_eq_of_lt (show T < 2 ^ 64 by omega), Nat.mod_eq_of_lt hT]
  rw [gettimeOf, instantOfUnsigned_of_lt (by rw [hticks]; exact (Nat.div_lt_iff_lt_mul hpos).mpr hsign),
    hticks]

/-- **Until the product overflows the clock is right**: calls within a wrap of each other, at
tick counts that keep `T * 10^9` below `2^64` and `2^63 * f`, return `⌊T * 10^9 / f⌋`. -/
theorem gettimeRun_eq_div {ticks : List Nat} (h : List.Chain WithinWrap 0 ticks)
    (hfit : ∀ T ∈ ticks, T * 10 ^ 9 < 2 ^ 64 ∧ T * 10 ^ 9 < 2 ^ 63 * f.toNat) :
    gettimeRun f Clock.init ticks = ticks.map (fun T => .ok ((T * 10 ^ 9 / f.toNat : Nat) : Int)) := by
  rw [gettimeRun_spaced f h]
  exact List.map_congr_left fun T hT => by rw [gettimeOf_eq_div f (hfit T hT).1 (hfit T hT).2]

/-- The witness: a 1 MHz timer read at ticks `5` and `10`. -/
theorem gettimeRun_eq_div_mhz :
    List.Chain WithinWrap 0 [5, 10] ∧
      (∀ T ∈ [5, 10], T * 10 ^ 9 < 2 ^ 64 ∧ T * 10 ^ 9 < 2 ^ 63 * (1000000 : UInt32).toNat) ∧
      gettimeRun 1000000 Clock.init [5, 10] =
        [5, 10].map (fun T => .ok ((T * 10 ^ 9 / (1000000 : UInt32).toNat : Nat) : Int)) :=
  have h : List.Chain WithinWrap 0 [5, 10] := .cons (by decide) (.cons (by decide) .nil)
  have hfit : ∀ T ∈ [5, 10], T * 10 ^ 9 < 2 ^ 64 ∧ T * 10 ^ 9 < 2 ^ 63 * (1000000 : UInt32).toNat :=
    by decide
  ⟨h, hfit, gettimeRun_eq_div 1000000 h hfit⟩

/-- **The clock goes backwards.**  For every frequency `f` in `[1, 2^32)` there is a tick count
`T`, with `T * 10^9` still below `2^64`, such that every run reading the counter at `T` and then at
`T + 1` — and there are such runs — returns `⌊T * 10^9 / f⌋` at `T`, then a smaller time that is
not `⌊(T + 1) * 10^9 / f⌋`.  For `f ≥ 2` the product `(T + 1) * 10^9` wraps past `2^64`; for
`f = 1` the quotient passes `2^63` first and turns negative as an `instant_t`. -/
theorem clock_goes_backwards (hf : 1 ≤ f.toNat) :
    ∃ T : Nat, T * 10 ^ 9 < 2 ^ 64 ∧ (∃ ticks, List.Chain WithinWrap 0 (ticks ++ [T, T + 1])) ∧
      ∀ ticks, List.Chain WithinWrap 0 (ticks ++ [T, T + 1]) →
        gettimeRun f Clock.init (ticks ++ [T, T + 1]) =
            ticks.map (fun T => .ok (gettimeOf f T)) ++
              [.ok ((T * 10 ^ 9 / f.toNat : Nat) : Int), .ok (gettimeOf f (T + 1))] ∧
          gettimeOf f (T + 1) < (T * 10 ^ 9 / f.toNat : Nat) ∧
          gettimeOf f (T + 1) ≠ ((T + 1) * 10 ^ 9 / f.toNat : Nat) := by
  have hrun : ∀ T, T * 10 ^ 9 < 2 ^ 64 → T * 10 ^ 9 < 2 ^ 63 * f.toNat →
      ∀ ticks, List.Chain WithinWrap 0 (ticks ++ [T, T + 1]) →
        gettimeRun f Clock.init (ticks ++ [T, T + 1]) =
          ticks.map (fun T => .ok (gettimeOf f T)) ++
            [.ok ((T * 10 ^ 9 / f.toNat : Nat) : Int), .ok (gettimeOf f (T + 1))] :=
    fun T hT hsign ticks h => by
      rw [gettimeRun_spaced f h, List.map_append, List.map_cons, List.map_cons, List.map_nil,
        gettimeOf_eq_div f hT hsign]
  have hexists : ∀ T, ∃ ticks, List.Chain WithinWrap 0 (ticks ++ [T, T + 1]) := fun T => by
    obtain ⟨ticks, h⟩ := exists_chain_withinWrap T
    exact ⟨ticks, List.chain_split.mpr ⟨h, List.chain_singleton.mpr ⟨by omega, by omega⟩⟩⟩
  by_cases h1 : f.toNat = 1
  · -- `f = 1`: at `9223372037` ticks the quotient is past `2^63`
    have hneg : gettimeOf f (9223372036 + 1) < 0 :=
      instantOfUnsigned_neg (by rw [toNat_timerTicksToNs_ofNat, h1]; norm_num)
    refine ⟨9223372036, by norm_num, hexists _, fun ticks h =>
      ⟨hrun _ (by norm_num) (by rw [h1]; norm_num) ticks h, ?_, ?_⟩⟩
    · exact lt_of_lt_of_le hneg (Nat.cast_nonneg _)
    · exact ne_of_lt (lt_of_lt_of_le hneg (Nat.cast_nonneg _))
  · -- `f ≥ 2`: at `18446744074` ticks the product wraps to `290448384`
    have hpos : 0 < f.toNat := by omega
    have hflt := f.toNat_lt
    have hsmall : 290448384 / f.toNat ≤ 290448384 := Nat.div_le_self _ _
    have hwrap : gettimeOf f (18446744073 + 1) = (290448384 / f.toNat : Nat) := by
      have hticks : (timerTicksToNs f (UInt64.ofNat (18446744073 + 1))).toNat = 290448384 / f.toNat := by
        rw [toNat_timerTicksToNs_ofNat]
        norm_num
      rw [gettimeOf, instantOfUnsigned_of_lt (by rw [hticks]; omega), hticks]
    have hbig : ∀ x, 18446744073 * 10 ^ 9 ≤ x → 4294967296 ≤ x / f.toNat := fun x hx =>
      (Nat.le_div_iff_mul_le hpos).mpr (by omega)
    have h₁ := hbig (18446744073 * 10 ^ 9) le_rfl
    have h₂ := hbig ((18446744073 + 1) * 10 ^ 9) (by norm_num)
    refine ⟨18446744073, by norm_num, hexists _, fun ticks h =>
      ⟨hrun _ (by norm_num) (by omega) ticks h, ?_, ?_⟩⟩ <;> rw [hwrap] <;> omega

/-- The witness: a 1 MHz timer. -/
theorem clock_goes_backwards_mhz :
    1 ≤ (1000000 : UInt32).toNat ∧
      ∃ T : Nat, T * 10 ^ 9 < 2 ^ 64 ∧ (∃ ticks, List.Chain WithinWrap 0 (ticks ++ [T, T + 1])) ∧
        ∀ ticks, List.Chain WithinWrap 0 (ticks ++ [T, T + 1]) →
          gettimeRun 1000000 Clock.init (ticks ++ [T, T + 1]) =
              ticks.map (fun T => .ok (gettimeOf 1000000 T)) ++
                [.ok ((T * 10 ^ 9 / (1000000 : UInt32).toNat : Nat) : Int),
                  .ok (gettimeOf 1000000 (T + 1))] ∧
            gettimeOf 1000000 (T + 1) < (T * 10 ^ 9 / (1000000 : UInt32).toNat : Nat) ∧
            gettimeOf 1000000 (T + 1) ≠ ((T + 1) * 10 ^ 9 / (1000000 : UInt32).toNat : Nat) :=
  ⟨by decide, clock_goes_backwards 1000000 (by decide)⟩

end ReactorC.Zephyr
