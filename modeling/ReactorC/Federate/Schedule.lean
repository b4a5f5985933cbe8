import ReactorC.Federate.Inbound

/-!
# Federate/Schedule — what the handlers hand to `__schedule`

A message handler ends in `schedule_value_already_locked(trigger, extra_delay, value, length)`,
which wraps `value` in the token `create_token(trigger->element_size)` returns, sets the token's
`length` to its last argument, and passes trigger, delay and token to `__schedule`.
`Delivery.scheduled` is that call for what a handler of `Federate/Inbound` delivers.

* `Msg.delivery_scheduled` — a message read whole is scheduled with its payload as the token's
  value and the payload's byte count as the token's `length`;
* `payload_token_counts_bytes` — so `length` counts bytes, not the elements its documentation
  speaks of: for an action whose elements are wider than a byte, `length * element_size` is not
  the payload's size.
-/

namespace ReactorC

/-- Modelled from the spec: a `token_t` (`create_token` is not under `src/`) as
`schedule_value_already_locked` leaves it — the element size of its trigger, the value, and the
`length`, which the documentation of `schedule_value_already_locked` calls "the length of the
array, if it is an array, or 1 for a scalar and 0 for no payload". -/
structure Token where
  elementSize : Nat
  value : List UInt8
  length : Int
  deriving DecidableEq, Repr

/-- Modelled from the spec: `create_token(element_size)`, a token with no value yet. -/
def createToken (elementSize : Nat) : Token := ⟨elementSize, [], 0⟩

/-- The arguments of a call of `__schedule` (not under `src/`). -/
structure ScheduleCall (τ : Type) where
  trigger : τ
  extraDelay : Delay
  token : Token
  deriving DecidableEq, Repr

variable {τ : Type}

/-- `schedule_value_already_locked(trigger, extra_delay, value, length)`: the call of `__schedule`
it makes; `elementSize` reads `trigger->element_size`. -/
def scheduleValueAlreadyLocked (elementSize : τ → Nat) (trigger : τ) (extraDelay : Delay)
    (value : List UInt8) (length : Int) : ScheduleCall τ :=
  let token := createToken (elementSize trigger)
  ⟨trigger, extraDelay, { token with value := value, length := length }⟩

/-- The call of `__schedule` a delivery's critical section makes: for a message, the handler's
`unsigned int` length passed as the `int` parameter `length`.  `none` for the other deliveries,
and for a null trigger, whose `element_size` the call would read through a null pointer. -/
def Delivery.scheduled (elementSize : τ → Nat) : Delivery τ → Option (ScheduleCall τ)
  | .schedule (some trigger) delay value length =>
    some (scheduleValueAlreadyLocked elementSize trigger delay value (intOfUnsigned length))
  | _ => none

/-- The payload of a message; the instants carry none. -/
def Msg.payload : Msg → List UInt8
  | .message _ _ payload | .timedMessage _ _ _ payload => payload
  | .timeAdvanceGrant _ | .stop _ => []

variable (f : Federate τ) (elementSize : τ → Nat)

/-- A scheduled delivery's token holds its value, and its length as an `int`. -/
theorem Delivery.scheduled_token {action : Option τ} {delay : Delay} {value : List UInt8}
    {length : UInt32} {call : ScheduleCall τ}
    (h : (Delivery.schedule action delay value length).scheduled elementSize = some call) :
    call.token = ⟨elementSize call.trigger, value, intOfUnsigned length⟩ := by
  cases action with
  | none => simp [Delivery.scheduled] at h
  | some trigger =>
    simp only [Delivery.scheduled, Option.some.injEq] at h
    subst h
    rfl

/-- **A message read whole is scheduled with its bytes**: the token holds the payload as its
value, and its byte count as its `length`. -/
theorem Msg.delivery_scheduled {m : Msg} (hm : m.Fits f) {call : ScheduleCall τ}
    (h : (m.delivery f).scheduled elementSize = some call) :
    call.token = ⟨elementSize call.trigger, m.payload, m.payload.length⟩ := by
  have hB := f.bufferSize_lt
  have hint : ∀ n : Nat, n < 2 ^ 31 → intOfUnsigned (UInt32.ofNat n) = n := fun n hn => by
    have hn' : (UInt32.ofNat n).toNat = n := UInt32.toNat_ofNat_of_lt (by unfold UInt32.size; omega)
    rw [intOfUnsigned_of_lt (by rw [hn']; exact hn), hn']
  cases m with
  | message port fed payload =>
    simp only [Msg.delivery] at h
    split_ifs at h
    · rw [Delivery.scheduled_token elementSize h, hint payload.length (by have := hm.2; omega)]
      rfl
    · simp [Delivery.scheduled] at h
  | timedMessage port fed ts payload =>
    rw [Delivery.scheduled_token elementSize h, hint payload.length hm.2]
    rfl
  | timeAdvanceGrant | stop => simp [Msg.delivery, Delivery.scheduled] at h

/-- **Payload tokens count bytes.**  For every frame that `listen_to_rti`'s handlers read whole
and schedule, the token `__schedule` receives holds the received payload and has `length` = its
byte count `L`.  For an action whose element size `e` is at least `2` and a non-empty payload,
that is neither `L / e` nor a `length` with `length * e = L`. -/
theorem payload_token_counts_bytes {m : Msg} (hm : m.Fits f) (rest : List UInt8) (e : StreamEnd)
    {call : ScheduleCall τ} (hcall : (m.delivery f).scheduled elementSize = some call) :
    dispatchRti f (m.kind f.codes) ⟨m.body ++ rest, e⟩ = .ok (m.delivery f, ⟨rest, e⟩) ∧
      call.token = ⟨elementSize call.trigger, m.payload, m.payload.length⟩ ∧
      (2 ≤ elementSize call.trigger → m.payload ≠ [] →
        call.token.length * elementSize call.trigger ≠ m.payload.length ∧
          call.token.length ≠ (m.payload.length / elementSize call.trigger : Nat)) := by
  have htok := m.delivery_scheduled f elementSize hm hcall
  refine ⟨dispatchRti_body f hm rest e, htok, fun he hne => ?_⟩
  have hL : 0 < m.payload.length := List.length_pos.mpr hne
  have hmul : m.payload.length * 2 ≤ m.payload.length * elementSize call.trigger :=
    Nat.mul_le_mul_left _ he
  have hdiv : m.payload.length / elementSize call.trigger < m.payload.length :=
    Nat.div_lt_self hL (by omega)
  rw [htok]
  dsimp only
  constructor
  · intro h
    have h' : m.payload.length * elementSize call.trigger = m.payload.length := by exact_mod_cast h
    omega
  · intro h
    have h' : m.payload.length = m.payload.length / elementSize call.trigger := by exact_mod_cast h
    omega

/-- The witness: a four-byte payload for port `0` of the sample federate, whose action holds
four-byte elements. -/
theorem payload_token_counts_bytes_int :
    (Msg.message 0 1 [1, 2, 3, 4]).Fits sampleFederate ∧
      ((Msg.message 0 1 [1, 2, 3, 4]).delivery sampleFederate).scheduled (fun _ => 4) =
        some ⟨0, .zero, ⟨4, [1, 2, 3, 4], 4⟩⟩ ∧
      (dispatchRti sampleFederate ((Msg.message 0 1 [1, 2, 3, 4]).kind sampleFederate.codes)
          ⟨(Msg.message 0 1 [1, 2, 3, 4]).body ++ [], .eof⟩ =
        .ok ((Msg.message 0 1 [1, 2, 3, 4]).delivery sampleFederate, ⟨[], .eof⟩) ∧
      (⟨0, .zero, ⟨4, [1, 2, 3, 4], 4⟩⟩ : ScheduleCall Nat).token =
        ⟨(fun _ => 4) (0 : Nat), (Msg.message 0 1 [1, 2, 3, 4]).payload,
          (Msg.message 0 1 [1, 2, 3, 4]).payload.length⟩ ∧
      (2 ≤ (fun _ => 4) (0 : Nat) → (Msg.message 0 1 [1, 2, 3, 4]).payload ≠ [] →
        (⟨0, .zero, ⟨4, [1, 2, 3, 4], 4⟩⟩ : ScheduleCall Nat).token.length * (fun _ => 4) (0 : Nat) ≠
            (Msg.message 0 1 [1, 2, 3, 4]).payload.length ∧
          (⟨0, .zero, ⟨4, [1, 2, 3, 4], 4⟩⟩ : ScheduleCall Nat).token.length ≠
            ((Msg.message 0 1 [1, 2, 3, 4]).payload.length / (fun _ => 4) (0 : Nat) : Nat))) :=
  have hm : (Msg.message 0 1 [1, 2, 3, 4]).Fits sampleFederate := by decide
  have hcall : ((Msg.message 0 1 [1, 2, 3, 4]).delivery sampleFederate).scheduled (fun _ => 4) =
      some ⟨0, .zero, ⟨4, [1, 2, 3, 4], 4⟩⟩ := by decide
  ⟨hm, hcall, payload_token_counts_bytes sampleFederate (fun _ => 4) hm [] .eof hcall⟩

end ReactorC
