import ReactorC.Federate.Connect

/-!
# Federate/Session — `synchronize_with_other_federates`, from the start time to the TAGs

Once connected to the RTI, a federate calls `synchronize_with_other_federates`: it takes the
start time `get_start_time_from_rti` agrees on as `current_time` and `start_time`, recomputes
`stop_time` when a duration was given, and creates the thread that runs `listen_to_rti` on what
the RTI sends next.  The session is the three stages of `Federate/Connect`, `Federate/Inbound` and
`Federate/Coordination` one after the other, each starting where the one before stopped reading.

* `synchronize_session` — on an RTI stream that answers the federate's `TIMESTAMP` and then
  carries frames the handlers read whole, the federate sends its clock, takes the RTI's start
  time, its listener hands on one delivery per frame, in order, and over every interleaving of
  the federate's sections that those deliveries drive `__tag` ends at the last TAG frame.
-/

namespace ReactorC

/-- The globals `synchronize_with_other_federates` sets. -/
structure StartTimes where
  currentTime : Int
  startTime : Int
  stopTime : Int
  deriving DecidableEq, Repr

variable {τ : Type} (f : Federate τ)

/-- `synchronize_with_other_federates()`, `TIMESTAMP` being `timestamp`, with
`get_physical_time()` returning `physicalTime`, and `duration` and `stop_time` holding `duration`
and `stopTime`.  The bytes sent to the RTI, and either the halt of `get_start_time_from_rti` or the
times set with what the thread running `listen_to_rti` does on the rest of the RTI's stream within
`fuel` passes.  `current_time + duration` is taken exactly: its overflow is undefined in C.
`wait_until(current_time)` and the physical start time read after it are left out. -/
def synchronizeWithOtherFederates (timestamp : UInt8) (physicalTime : UInt64)
    (markerWritten messageWritten : Bool) (duration stopTime : Int) (fuel : Nat) (rti : Inbox) :
    List UInt8 × Except Halt (StartTimes × List (Delivery τ) × Option Halt) :=
  let (sent, r) := getStartTimeFromRti f timestamp physicalTime markerWritten messageWritten rti
  (sent, r.map fun (t, rti) =>
    let currentTime := toInstant t
    (⟨currentTime, currentTime, if duration ≥ 0 then currentTime + duration else stopTime⟩,
      listenToRti f fuel rti))

/-- **A session from its start.**  Let the RTI answer the federate's `TIMESTAMP` with `TIMESTAMP`
and `encode_ll(T)`, then send frames the handlers read whole.  `synchronize_with_other_federates`
sends `TIMESTAMP` and `encode_ll` of the federate's clock, sets `current_time` and `start_time` to
the instant `T` stands for and `stop_time` to it plus the duration when one was given, and its
listener hands on one delivery per frame, in order, then goes on after the last frame.  Any run of
the federate's sections whose TAGs are those deliveries' — the main thread's sections interleaved
anywhere — leaves `__tag` at the instant of the last `TIME_ADVANCE_GRANT` frame, or where it was
if there was none. -/
theorem synchronize_session (timestamp : UInt8) (physicalTime T : UInt64) (duration stopTime : Int)
    {ms : List Msg} (hms : ∀ m ∈ ms, m.Fits f) (rest : List UInt8) (e : StreamEnd) (fuel : Nat) :
    synchronizeWithOtherFederates f timestamp physicalTime true true duration stopTime
        (ms.length + fuel) ⟨timestamp :: encodeLl T ++ (ms.flatMap (Msg.frame f.codes) ++ rest), e⟩ =
      (timestamp :: encodeLl physicalTime,
        .ok (⟨toInstant T, toInstant T,
            if duration ≥ 0 then toInstant T + duration else stopTime⟩,
          ms.map (Msg.delivery f) ++ (listenToRti f fuel ⟨rest, e⟩).1,
          (listenToRti f fuel ⟨rest, e⟩).2)) ∧
    ∀ {d : Deps} {s s' : Fed} {as : List Act}, run d s as = some s' →
      grants as = grants ((ms.map (Msg.delivery f)).filterMap Delivery.act?) →
      s'.tag = (ms.filterMap Msg.tagInstant?).getLastD s.tag := by
  refine ⟨?_, fun hrun hgrants => ?_⟩
  · rw [synchronizeWithOtherFederates, getStartTimeFromRti_reply]
    simp only [Except.map, listenToRti_frames f hms]
  · rw [tag_of_run hrun, lastGrant_eq_getLastD, hgrants, grants_deliveries]

/-- The witness: a start time of `9`, a duration of `1`, and one TAG frame. -/
theorem synchronize_session_grant :
    (∀ m ∈ [Msg.timeAdvanceGrant 5], m.Fits sampleFederate) ∧
    (synchronizeWithOtherFederates sampleFederate 2 7 true true 1 0
        ([Msg.timeAdvanceGrant 5].length + 0)
        ⟨2 :: encodeLl 9 ++ ([Msg.timeAdvanceGrant 5].flatMap (Msg.frame sampleFederate.codes) ++ []),
          .eof⟩ =
      (2 :: encodeLl 7,
        .ok (⟨toInstant 9, toInstant 9, if (1 : Int) ≥ 0 then toInstant 9 + 1 else 0⟩,
          [Msg.timeAdvanceGrant 5].map (Msg.delivery sampleFederate) ++
            (listenToRti sampleFederate 0 ⟨[], .eof⟩).1,
          (listenToRti sampleFederate 0 ⟨[], .eof⟩).2)) ∧
    ∀ {d : Deps} {s s' : Fed} {as : List Act}, run d s as = some s' →
      grants as = grants (([Msg.timeAdvanceGrant 5].map (Msg.delivery sampleFederate)).filterMap
        Delivery.act?) →
      s'.tag = ([Msg.timeAdvanceGrant 5].filterMap Msg.tagInstant?).getLastD s.tag) :=
  have hms : ∀ m ∈ [Msg.timeAdvanceGrant 5], m.Fits sampleFederate := by decide
  ⟨hms, synchronize_session sampleFederate 2 7 9 1 0 hms [] .eof 0⟩

end ReactorC
