import ReactorC.Federate.Wire
import ReactorC.Federate.Coordination

/-!
# Federate/Inbound — the listener threads and their message handlers

`listen_to_rti` reads one message-type byte and hands the socket to a handler, which reads the
rest of the message and ends in one critical section: `schedule_value_already_locked` for a
message, the TAG or stop-request sections of `Federate/Coordination` for the others.
`listen_to_federates` does the same on a peer socket.  A handler here returns what it hands to that
section (`Delivery`) and the socket it leaves for the next message.

* `listenToRti_frames` — a stream of frames the handlers accept whole is handled frame by frame:
  one delivery per frame, in order, each with all of its message;
* `listenToFederates_frames`, `listenToFederates_closed` — the same on a peer socket, whose
  listener spins without end once the peer has closed it;
* `sendMessageTimed_received` — what `send_message_timed` writes below `2^31` bytes is handed on
  whole at the other end;
* `oversize_payloads_break_framing` — a `MESSAGE` whose payload does not fit `BUFFER_SIZE` is
  handed on cut short and the rest of its payload is read as the next frames; and
  `send_message_timed` writes no payload behind a length field of `2^31`;
* `payload_guard_wraps` — for the nine length fields from `2^32 - 9` on, the unsigned sum in
  `handle_message`'s guard wraps, and the length it allocates and hands on stays above
  `BUFFER_SIZE - 9`.
-/

namespace ReactorC

/-! ## Handlers -/

/-- `ERROR_UNRECOGNIZED_MESSAGE_TYPE`. -/
def errorUnrecognizedMessageType : String := "ERROR Received from RTI an unrecognized message type"

/-- `ERROR_UNRECOGNIZED_P2P_MESSAGE_TYPE`. -/
def errorUnrecognizedP2pMessageType : String :=
  "ERROR Received from federate an unrecognized message type"

/-- The `instant_t` a `long long` bit pattern stands for. -/
def toInstant (x : UInt64) : Int :=
  if x.toNat < 2 ^ 63 then x.toNat else x.toNat - 2 ^ 64

/-- The extra delay a handler passes to `schedule_value_already_locked`. -/
inductive Delay
  /-- `0LL`. -/
  | zero
  /-- `timestamp - get_logical_time()`, computed inside the critical section. -/
  | untilTimestamp (timestamp : UInt64)
  deriving DecidableEq, Repr

/-- What a handler hands to its critical section. -/
inductive Delivery (τ : Type)
  /-- `schedule_value_already_locked(__action_for_port(port_id), delay, message_contents,
  length)`. -/
  | schedule (action : Option τ) (delay : Delay) (value : List UInt8) (length : UInt32)
  /-- `handle_message` drops a message meant for another federate. -/
  | drop (federateId : UInt16)
  /-- `handle_time_advance_grant`: the TAG for `handleTimeAdvanceGrant`. -/
  | grant (tag : UInt64)
  /-- `handle_incoming_stop_message`: the stop time, which `handleIncomingStopMessage` ignores. -/
  | stop (stopTime : UInt64)
  deriving DecidableEq, Repr

variable {τ : Type} (f : Federate τ)

/-- `handle_message(socket, buffer, header_size)`: read the rest of the header, cut a length that
does not fit `BUFFER_SIZE` down to `BUFFER_SIZE - header_size`, read that many payload bytes,
and drop the message if it is meant for another federate. -/
def handleMessage (headerSize : UInt32) (s : Inbox) : Except Halt (Delivery τ × Inbox) := do
  let (header, s) ← readFromSocket (intOfUnsigned (headerSize - 1)) s
  let h ← extractHeader f.host f.numberOfFederates header
  let length :=
    if h.length + headerSize > UInt32.ofNat f.bufferSize then UInt32.ofNat f.bufferSize - headerSize
    else h.length
  let (contents, s) ← readFromSocket (intOfUnsigned length) s
  if h.federateId ≠ f.myFedId then return (.drop h.federateId, s)
  return (.schedule (f.actionForPort h.portId.toNat) .zero contents length, s)

/-- `handle_timed_message(socket, buffer)`: a sixteen-byte header — `extract_header`'s eight,
then the timestamp — and `length` payload bytes. -/
def handleTimedMessage (s : Inbox) : Except Halt (Delivery τ × Inbox) := do
  let (header, s) ← readFromSocket 16 s
  let h ← extractHeader f.host f.numberOfFederates header
  let timestamp := extractLl f.host (header.drop 8)
  let (contents, s) ← readFromSocket (intOfUnsigned h.length) s
  return (.schedule (f.actionForPort h.portId.toNat) (.untilTimestamp timestamp) contents h.length,
    s)

/-- The socket half of `handle_time_advance_grant`: eight bytes into a union, swapped. -/
def readTimeAdvanceGrant (s : Inbox) : Except Halt (Delivery τ × Inbox) := do
  let (bytes, s) ← readFromSocket 8 s
  return (.grant (swapBytesIfBigEndianLl f.host (UInt64.ofNat (hostValue f.host bytes))), s)

/-- The socket half of `handle_incoming_stop_message`. -/
def readIncomingStopMessage (s : Inbox) : Except Halt (Delivery τ × Inbox) := do
  let (bytes, s) ← readFromSocket 8 s
  return (.stop (swapBytesIfBigEndianLl f.host (UInt64.ofNat (hostValue f.host bytes))), s)

/-- The `switch` of `listen_to_rti`. -/
def dispatchRti (kind : UInt8) (s : Inbox) : Except Halt (Delivery τ × Inbox) :=
  if kind = f.codes.message then handleMessage f 9 s
  else if kind = f.codes.timedMessage then handleTimedMessage f s
  else if kind = f.codes.timeAdvanceGrant then readTimeAdvanceGrant f s
  else if kind = f.codes.stop then readIncomingStopMessage f s
  else .error (.error errorUnrecognizedMessageType)

/-- The `switch` of `listen_to_federates`. -/
def dispatchPeer (kind : UInt8) (s : Inbox) : Except Halt (Delivery τ × Inbox) :=
  if kind = f.codes.p2pSendingFedId then handleMessage f 9 s
  else if kind = f.codes.p2pMessageTimed then handleTimedMessage f s
  else .error (.error errorUnrecognizedP2pMessageType)

/-- `listen_to_rti`, for at most `fuel` messages: what its handlers delivered, in order, and how
the thread stopped the process (`none` if the fuel ran out first). -/
def listenToRti : Nat → Inbox → List (Delivery τ) × Option Halt
  | 0, _ => ([], none)
  | fuel + 1, s =>
    match readFromSocket 1 s >>= fun (kind, s) => dispatchRti f (kind.headD 0) s with
    | .error h => ([], some h)
    | .ok (d, s) => let r := listenToRti fuel s; (d :: r.1, r.2)

/-- `listen_to_federates(fed_id)` on the socket accepted from `fed_id`, for at most `fuel` passes
of its loop; a read of zero bytes — EOF — goes round the loop again. -/
def listenToFederates (fedId : UInt16) : Nat → Inbox → List (Delivery τ) × Option Halt
  | 0, _ => ([], none)
  | fuel + 1, s =>
    let (n, kind, s) := readFromSocket2 1 s
    if n = 0 then listenToFederates fedId fuel s
    else if n < 0 then
      ([], some (.exit 1 ("P2P socket between federate " ++ toString f.myFedId ++ " and " ++
        toString fedId ++ " borken.")))
    else match dispatchPeer f (kind.headD 0) s with
      | .error h => ([], some h)
      | .ok (d, s) => let r := listenToFederates fedId fuel s; (d :: r.1, r.2)

/-! ## Frames the handlers accept whole -/

/-- What a handler hands on for a message it reads whole. -/
def Msg.delivery : Msg → Delivery τ
  | .message port fed payload =>
    if fed = f.myFedId then .schedule (f.actionForPort port.toNat) .zero payload
      (UInt32.ofNat payload.length)
    else .drop fed
  | .timedMessage port _ timestamp payload =>
    .schedule (f.actionForPort port.toNat) (.untilTimestamp timestamp) payload
      (UInt32.ofNat payload.length)
  | .timeAdvanceGrant tag => .grant tag
  | .stop stopTime => .stop stopTime

/-- A frame the handlers read whole: its destination passes `extract_header`'s assertion, a
`MESSAGE` fits `BUFFER_SIZE` with its header, and a payload length is a positive `int`. -/
def Msg.Fits : Msg → Prop
  | .message _ fed payload =>
    fed.toNat < f.numberOfFederates ∧ payload.length + 9 ≤ f.bufferSize
  | .timedMessage _ fed _ payload => fed.toNat < f.numberOfFederates ∧ payload.length < 2 ^ 31
  | .timeAdvanceGrant _ | .stop _ => True

instance (m : Msg) : Decidable (m.Fits f) :=
  match m with
  | .message .. | .timedMessage .. => inferInstanceAs (Decidable (_ ∧ _))
  | .timeAdvanceGrant _ | .stop _ => inferInstanceAs (Decidable True)

theorem readFromSocket_one (b : UInt8) (bs : List UInt8) (e : StreamEnd) :
    readFromSocket 1 ⟨b :: bs, e⟩ = .ok ([b], ⟨bs, e⟩) :=
  readFromSocket_append [b] rfl bs e

theorem uint32_lt_iff {a b : UInt32} : a < b ↔ a.toNat < b.toNat := Iff.rfl

/-- `handle_message` after a header whose destination `extract_header` accepts: the payload read
of the guarded length, then the delivery. -/
theorem handleMessage_header {port fed : UInt16} {len : UInt32}
    (hfed : fed.toNat < f.numberOfFederates) (body : List UInt8) (e : StreamEnd) :
    handleMessage f 9 ⟨headerBytes port fed len ++ body, e⟩ =
      let length :=
        if UInt32.ofNat f.bufferSize < len + 9 then UInt32.ofNat f.bufferSize - 9 else len
      (readFromSocket (intOfUnsigned length) ⟨body, e⟩).bind fun (contents, s) =>
        .ok (if fed = f.myFedId then .schedule (f.actionForPort port.toNat) .zero contents length
          else .drop fed, s) := by
  have hhdr := readFromSocket_append (headerBytes port fed len) (n := 8) (by simp) body e
  have hx := extractHeader_headerBytes f.host port len [] hfed
  rw [List.append_nil] at hx
  simp only [handleMessage, show intOfUnsigned (9 - 1) = 8 from rfl, hhdr, bind, Except.bind, hx,
    gt_iff_lt]
  cases readFromSocket _ _ with
  | error h => rfl
  | ok r => by_cases h : fed = f.myFedId <;> simp [h, pure, Except.pure]

/-- **`handle_message` after a header it accepts** reads `n` payload bytes — the header's length,
or `BUFFER_SIZE - 9` when that does not fit — and drops a message for another federate. -/
theorem handleMessage_headerBytes {port fed : UInt16} {len : UInt32} {body : List UInt8} {n : Nat}
    (hfed : fed.toNat < f.numberOfFederates) (hlen : len.toNat + 9 < 2 ^ 32)
    (hn : n = if f.bufferSize < len.toNat + 9 then f.bufferSize - 9 else len.toNat)
    (hbody : n ≤ body.length) (e : StreamEnd) :
    handleMessage f 9 ⟨headerBytes port fed len ++ body, e⟩ =
      .ok (if fed = f.myFedId then .schedule (f.actionForPort port.toNat) .zero (body.take n)
          (UInt32.ofNat n) else .drop fed, ⟨body.drop n, e⟩) := by
  have hB := f.bufferSize_lt
  have hB9 := f.bufferSize_ge
  have hBn : (UInt32.ofNat f.bufferSize).toNat = f.bufferSize :=
    UInt32.toNat_ofNat_of_lt (by unfold UInt32.size; omega)
  have hcond : UInt32.ofNat f.bufferSize < len + 9 ↔ f.bufferSize < len.toNat + 9 := by
    rw [uint32_lt_iff, UInt32.toNat_add, hBn, Nat.mod_eq_of_lt (by simpa using hlen)]
    rfl
  have hnlt : n < 2 ^ 31 := by split_ifs at hn <;> omega
  have hN : (UInt32.ofNat n).toNat = n := UInt32.toNat_ofNat_of_lt (by unfold UInt32.size; omega)
  have hcut : (if UInt32.ofNat f.bufferSize < len + 9 then UInt32.ofNat f.bufferSize - 9 else len)
      = UInt32.ofNat n := by
    apply UInt32.toNat.inj
    rw [hN]
    simp only [hcond]
    split_ifs at hn ⊢
    · rw [UInt32.toNat_sub_of_le _ _ (by show 9 ≤ (UInt32.ofNat f.bufferSize).toNat; omega), hBn]
      exact hn.symm
    · exact hn.symm
  have hint : intOfUnsigned (UInt32.ofNat n) = n := by
    rw [intOfUnsigned_of_lt (by omega), hN]
  rw [handleMessage_header f hfed]
  dsimp only
  rw [hcut, hint, readFromSocket_of_le (s := ⟨body, e⟩) hbody]
  rfl

/-- A `MESSAGE` that fits is read whole. -/
theorem handleMessage_fits {port fed : UInt16} {payload : List UInt8}
    (hm : (Msg.message port fed payload).Fits f) (rest : List UInt8) (e : StreamEnd) :
    handleMessage f 9 ⟨(Msg.message port fed payload).body ++ rest, e⟩ =
      .ok ((Msg.message port fed payload).delivery f, ⟨rest, e⟩) := by
  obtain ⟨hfed, hfit⟩ := hm
  have hB := f.bufferSize_lt
  have hL : (UInt32.ofNat payload.length).toNat = payload.length :=
    UInt32.toNat_ofNat_of_lt (by unfold UInt32.size; omega)
  rw [Msg.body, List.append_assoc, handleMessage_headerBytes f hfed (by omega)
    (by rw [hL, if_neg (by omega)]) (by simp) e]
  simp [Msg.delivery]

/-- **An oversize `MESSAGE` is cut short**: its payload is read up to `BUFFER_SIZE - 9` bytes,
and the rest of it is left on the socket. -/
theorem handleMessage_truncates (port : UInt16) {fed : UInt16} {payload : List UInt8}
    (hfed : fed.toNat < f.numberOfFederates) (hover : f.bufferSize < payload.length + 9)
    (hlen : payload.length + 9 < 2 ^ 32) (rest : List UInt8) (e : StreamEnd) :
    handleMessage f 9 ⟨(Msg.message port fed payload).body ++ rest, e⟩ =
      .ok (if fed = f.myFedId then .schedule (f.actionForPort port.toNat) .zero
          (payload.take (f.bufferSize - 9)) (UInt32.ofNat (f.bufferSize - 9)) else .drop fed,
        ⟨payload.drop (f.bufferSize - 9) ++ rest, e⟩) := by
  have hL : (UInt32.ofNat payload.length).toNat = payload.length :=
    UInt32.toNat_ofNat_of_lt (by unfold UInt32.size; omega)
  rw [Msg.body, List.append_assoc, handleMessage_headerBytes f hfed (by omega)
    (by rw [hL, if_pos hover]) (by simp; omega) e]
  simp [List.take_append_of_le_length (by omega : f.bufferSize - 9 ≤ payload.length),
    List.drop_append_of_le_length (by omega : f.bufferSize - 9 ≤ payload.length)]

/-- A `TIMED_MESSAGE` that fits is read whole. -/
theorem handleTimedMessage_fits {port fed : UInt16} {ts : UInt64} {payload : List UInt8}
    (hm : (Msg.timedMessage port fed ts payload).Fits f) (rest : List UInt8) (e : StreamEnd) :
    handleTimedMessage f ⟨(Msg.timedMessage port fed ts payload).body ++ rest, e⟩ =
      .ok ((Msg.timedMessage port fed ts payload).delivery f, ⟨rest, e⟩) := by
  obtain ⟨hfed, hlen⟩ := hm
  have hL : (UInt32.ofNat payload.length).toNat = payload.length :=
    UInt32.toNat_ofNat_of_lt (by unfold UInt32.size; omega)
  have hhdr := readFromSocket_append
    (headerBytes port fed (UInt32.ofNat payload.length) ++ encodeLl ts) (n := 16) (by simp)
    (payload ++ rest) e
  have hpay := readFromSocket_append payload (n := (UInt32.ofNat payload.length).toNat)
    (by rw [hL]) rest e
  have hts : (headerBytes port fed (UInt32.ofNat payload.length) ++ encodeLl ts).drop 8 =
      encodeLl ts ++ [] := by
    simp [List.drop_append_eq_append_drop]
  simp only [Msg.body, List.append_assoc] at hhdr ⊢
  simp only [handleTimedMessage, hhdr, bind, Except.bind, extractHeader_headerBytes _ _ _ _ hfed,
    hts, extractLl_encodeLl, intOfUnsigned_of_lt (hL ▸ hlen), hpay]
  rfl

/-- The eight bytes of a TAG are the instant encoded. -/
theorem readTimeAdvanceGrant_encodeLl (tag : UInt64) (rest : List UInt8) (e : StreamEnd) :
    readTimeAdvanceGrant (τ := τ) f ⟨encodeLl tag ++ rest, e⟩ =
      .ok (.grant tag, ⟨rest, e⟩) := by
  have h := extractLl_encodeLl f.host tag []
  rw [List.append_nil, ← extractLl_of_length _ (length_encodeLl tag)] at h
  simp only [readTimeAdvanceGrant, readFromSocket_append (encodeLl tag) (n := 8) (by simp),
    bind, Except.bind, h]
  rfl

theorem readIncomingStopMessage_encodeLl (stopTime : UInt64) (rest : List UInt8) (e : StreamEnd) :
    readIncomingStopMessage (τ := τ) f ⟨encodeLl stopTime ++ rest, e⟩ =
      .ok (.stop stopTime, ⟨rest, e⟩) := by
  have h := extractLl_encodeLl f.host stopTime []
  rw [List.append_nil, ← extractLl_of_length _ (length_encodeLl stopTime)] at h
  simp only [readIncomingStopMessage,
    readFromSocket_append (encodeLl stopTime) (n := 8) (by simp), bind, Except.bind, h]
  rfl

/-- **One frame, one handler.**  The `switch` of `listen_to_rti` sends a frame that fits to its
handler, which reads exactly the frame's body and hands on its message. -/
theorem dispatchRti_body {m : Msg} (hm : m.Fits f) (rest : List UInt8) (e : StreamEnd) :
    dispatchRti f (m.kind f.codes) ⟨m.body ++ rest, e⟩ = .ok (m.delivery f, ⟨rest, e⟩) := by
  obtain ⟨h₁, h₂, h₃, h₄, h₅, h₆⟩ := f.codes.kinds_ne
  cases m with
  | message => simp only [dispatchRti, Msg.kind, if_true, handleMessage_fits f hm]
  | timedMessage =>
    simp only [dispatchRti, Msg.kind, if_neg h₁, if_true, handleTimedMessage_fits f hm]
  | timeAdvanceGrant tag =>
    simp only [dispatchRti, Msg.kind, Msg.body, if_neg h₂, if_neg h₃, if_true,
      readTimeAdvanceGrant_encodeLl]
    rfl
  | stop stopTime =>
    simp only [dispatchRti, Msg.kind, Msg.body, if_neg h₄, if_neg h₅, if_neg h₆, if_true,
      readIncomingStopMessage_encodeLl]
    rfl

/-- A pass of the loop of `listen_to_rti` whose handler returns. -/
theorem listenToRti_cons {b : UInt8} {bs : List UInt8} {e : StreamEnd} {d : Delivery τ} {s : Inbox}
    (h : dispatchRti f b ⟨bs, e⟩ = .ok (d, s)) (fuel : Nat) :
    listenToRti f (fuel + 1) ⟨b :: bs, e⟩ =
      (d :: (listenToRti f fuel s).1, (listenToRti f fuel s).2) := by
  simp only [listenToRti, readFromSocket_one, bind, Except.bind, List.headD_cons, h]

/-- **Framing.**  On a socket carrying the frames of messages that fit, then anything, the loop
of `listen_to_rti` runs one handler per frame, in order, each handing on its whole message, and
goes on at the first byte after the last frame. -/
theorem listenToRti_frames {ms : List Msg} (hms : ∀ m ∈ ms, m.Fits f) (rest : List UInt8)
    (e : StreamEnd) (fuel : Nat) :
    listenToRti f (ms.length + fuel) ⟨ms.flatMap (Msg.frame f.codes) ++ rest, e⟩ =
      (ms.map (Msg.delivery f) ++ (listenToRti f fuel ⟨rest, e⟩).1,
        (listenToRti f fuel ⟨rest, e⟩).2) := by
  induction ms with
  | nil => simp
  | cons m ms ih =>
    have hm := hms m (List.mem_cons_self m ms)
    rw [List.length_cons, Nat.add_right_comm, List.flatMap_cons, List.append_assoc, Msg.frame,
      List.cons_append, listenToRti_cons f (dispatchRti_body f hm _ e),
      ih fun m' h' => hms m' (List.mem_cons_of_mem m h')]
    rfl

/-- **End to end.**  What `send_message_timed` writes for a `TIMED_MESSAGE` of fewer than `2^31`
bytes to a federate in range, `listen_to_rti` hands on whole: port, timestamp, and the `length`
payload bytes. -/
theorem sendMessageTimed_received {port fed : UInt16} {length : Nat} {message frame : List UInt8}
    {currentTime : UInt64} (hfed : fed.toNat < f.numberOfFederates) (hlen : length < 2 ^ 31)
    (hmsg : length ≤ message.length)
    (hsent : sendMessageTimed f.codes.timedMessage port.toNat fed.toNat length message currentTime =
      .ok frame) (rest : List UInt8) (e : StreamEnd) (fuel : Nat) :
    listenToRti f (fuel + 1) ⟨frame ++ rest, e⟩ =
      (.schedule (f.actionForPort port.toNat) (.untilTimestamp currentTime) (message.take length)
          (UInt32.ofNat length) :: (listenToRti f fuel ⟨rest, e⟩).1,
        (listenToRti f fuel ⟨rest, e⟩).2) := by
  have htake : (message.take length).length = length := List.length_take_of_le hmsg
  rw [sendMessageTimed_frame _ _ _ _ hlen hmsg, Except.ok.injEq] at hsent
  subst hsent
  have hfits :
      ∀ m ∈ [Msg.timedMessage port fed currentTime (message.take length)], m.Fits f := by
    simpa [Msg.Fits, htake] using ⟨hfed, hlen⟩
  have h := listenToRti_frames f hfits rest e fuel
  rw [Nat.add_comm] at h
  simpa [Msg.frame, Msg.kind, Msg.delivery, htake] using h

/-- The witness: a `TIMED_MESSAGE` of two bytes for port `0` of federate `1`, at time `9`. -/
theorem sendMessageTimed_received_two :
    (1 : UInt16).toNat < sampleFederate.numberOfFederates ∧ 2 < 2 ^ 31 ∧
      2 ≤ ([1, 2] : List UInt8).length ∧
      sendMessageTimed sampleFederate.codes.timedMessage (0 : UInt16).toNat (1 : UInt16).toNat 2
          [1, 2] 9 = .ok ((Msg.timedMessage 0 1 9 [1, 2]).frame sampleFederate.codes) ∧
      listenToRti sampleFederate (0 + 1)
          ⟨(Msg.timedMessage 0 1 9 [1, 2]).frame sampleFederate.codes ++ [], .eof⟩ =
        (.schedule (sampleFederate.actionForPort (0 : UInt16).toNat) (.untilTimestamp 9)
            (([1, 2] : List UInt8).take 2) (UInt32.ofNat 2) ::
            (listenToRti sampleFederate 0 ⟨[], .eof⟩).1,
          (listenToRti sampleFederate 0 ⟨[], .eof⟩).2) :=
  have hsent : sendMessageTimed sampleFederate.codes.timedMessage (0 : UInt16).toNat
      (1 : UInt16).toNat 2 [1, 2] 9 = .ok ((Msg.timedMessage 0 1 9 [1, 2]).frame sampleFederate.codes) :=
    rfl
  ⟨by decide, by norm_num, by decide, hsent,
    sendMessageTimed_received sampleFederate (by decide) (by norm_num) (by decide) hsent [] .eof 0⟩

/-! ## Peer sockets

`listen_to_federates` takes a plain message under `P2P_SENDING_FED_ID` and a timed one under
`P2P_TIMED_MESSAGE`, with the bodies `listen_to_rti` reads. -/

/-- The kind byte of a message on a peer socket. -/
def Msg.peerKind (c : RtiCodes) : Msg → UInt8
  | .timedMessage .. => c.p2pMessageTimed
  | _ => c.p2pSendingFedId

/-- The messages a peer sends: plain and timed ones. -/
def Msg.IsData : Msg → Prop
  | .message .. | .timedMessage .. => True
  | .timeAdvanceGrant _ | .stop _ => False

/-- The `switch` of `listen_to_federates` sends a data frame that fits to its handler. -/
theorem dispatchPeer_body {m : Msg} (hdata : m.IsData) (hm : m.Fits f) (rest : List UInt8)
    (e : StreamEnd) :
    dispatchPeer f (m.peerKind f.codes) ⟨m.body ++ rest, e⟩ = .ok (m.delivery f, ⟨rest, e⟩) := by
  cases m with
  | message => simp only [dispatchPeer, Msg.peerKind, if_true, handleMessage_fits f hm]
  | timedMessage =>
    simp only [dispatchPeer, Msg.peerKind, if_neg f.codes.p2p_ne.symm, if_true,
      handleTimedMessage_fits f hm]
  | timeAdvanceGrant | stop => exact hdata.elim

/-- A pass of the loop of `listen_to_federates` whose read returns a byte and whose handler
returns. -/
theorem listenToFederates_cons {b : UInt8} {bs : List UInt8} {e : StreamEnd} {d : Delivery τ}
    {s : Inbox} (h : dispatchPeer f b ⟨bs, e⟩ = .ok (d, s)) (fedId : UInt16) (fuel : Nat) :
    listenToFederates f fedId (fuel + 1) ⟨b :: bs, e⟩ =
      (d :: (listenToFederates f fedId fuel s).1, (listenToFederates f fedId fuel s).2) := by
  have hread := readFromSocket2_append [b] (n := 1) rfl (by decide) bs e
  rw [List.singleton_append] at hread
  simp [listenToFederates, hread, h]

/-- **Framing on a peer socket.**  On a socket carrying the frames of data messages that fit,
`listen_to_federates` runs one handler per frame, in order, each handing on its whole message. -/
theorem listenToFederates_frames {ms : List Msg} (hms : ∀ m ∈ ms, m.IsData ∧ m.Fits f)
    (fedId : UInt16) (rest : List UInt8) (e : StreamEnd) (fuel : Nat) :
    listenToFederates f fedId (ms.length + fuel)
        ⟨ms.flatMap (fun m => m.peerKind f.codes :: m.body) ++ rest, e⟩ =
      (ms.map (Msg.delivery f) ++ (listenToFederates f fedId fuel ⟨rest, e⟩).1,
        (listenToFederates f fedId fuel ⟨rest, e⟩).2) := by
  induction ms with
  | nil => simp
  | cons m ms ih =>
    obtain ⟨hdata, hm⟩ := hms m (List.mem_cons_self m ms)
    rw [List.length_cons, Nat.add_right_comm, List.flatMap_cons, List.append_assoc,
      List.cons_append, listenToFederates_cons f (dispatchPeer_body f hdata hm _ e),
      ih fun m' h' => hms m' (List.mem_cons_of_mem m h')]
    rfl

/-- **A closed peer socket leaves its listener spinning**: at the end of the stream
`read_from_socket2` returns `0`, which the loop takes for "nothing yet", so the thread neither
stops nor hands anything on, however long it runs. -/
theorem listenToFederates_eof (fedId : UInt16) (fuel : Nat) :
    listenToFederates f fedId fuel ⟨[], .eof⟩ = ([], none) := by
  induction fuel with
  | zero => rfl
  | succ fuel ih => simpa [listenToFederates, readFromSocket2] using ih

/-- **A closed peer socket is never let go.**  On a socket carrying data frames that fit, then
closed by the peer, `listen_to_federates` hands on one delivery per frame, in order, and then goes
round its loop for as many passes as it is given: it neither stops the process nor hands on
anything more. -/
theorem listenToFederates_closed {ms : List Msg} (hms : ∀ m ∈ ms, m.IsData ∧ m.Fits f)
    (fedId : UInt16) (fuel : Nat) :
    listenToFederates f fedId (ms.length + fuel)
        ⟨ms.flatMap (fun m => m.peerKind f.codes :: m.body), .eof⟩ =
      (ms.map (Msg.delivery f), none) := by
  have h := listenToFederates_frames f hms fedId [] .eof fuel
  rwa [List.append_nil, listenToFederates_eof, List.append_nil] at h

/-- The witness: one `MESSAGE` of two bytes to federate `1` on the socket from federate `0`, and
five passes after it. -/
theorem listenToFederates_closed_message :
    (∀ m ∈ [Msg.message 0 1 [1, 2]], m.IsData ∧ m.Fits sampleFederate) ∧
    listenToFederates sampleFederate 0 ([Msg.message 0 1 [1, 2]].length + 5)
        ⟨[Msg.message 0 1 [1, 2]].flatMap (fun m => m.peerKind sampleFederate.codes :: m.body),
          .eof⟩ =
      ([Msg.message 0 1 [1, 2]].map (Msg.delivery sampleFederate), none) :=
  have hms : ∀ m ∈ [Msg.message 0 1 [1, 2]], m.IsData ∧ m.Fits sampleFederate := fun m hm => by
    rw [List.mem_singleton] at hm
    subst hm
    exact ⟨trivial, by decide⟩
  ⟨hms, listenToFederates_closed sampleFederate hms 0 5⟩

/-- An oversize `MESSAGE` in the loop of `listen_to_rti`: handed on cut to `BUFFER_SIZE - 9`
bytes, with the loop going on inside its payload. -/
theorem listenToRti_truncates {port : UInt16} {payload : List UInt8}
    (hover : f.bufferSize < payload.length + 9) (hlen : payload.length + 9 < 2 ^ 32)
    (rest : List UInt8) (e : StreamEnd) (fuel : Nat) :
    listenToRti f (fuel + 1) ⟨(Msg.message port f.myFedId payload).frame f.codes ++ rest, e⟩ =
      (.schedule (f.actionForPort port.toNat) .zero (payload.take (f.bufferSize - 9))
          (UInt32.ofNat (f.bufferSize - 9)) ::
        (listenToRti f fuel ⟨payload.drop (f.bufferSize - 9) ++ rest, e⟩).1,
        (listenToRti f fuel ⟨payload.drop (f.bufferSize - 9) ++ rest, e⟩).2) := by
  have h := handleMessage_truncates f port f.myFedId_lt hover hlen rest e
  rw [if_pos rfl] at h
  exact listenToRti_cons f (by rw [Msg.kind, dispatchRti, if_pos rfl]; exact h) fuel

/-- **Oversize payloads break the framing**, at both ends.  A `MESSAGE` to this federate whose
payload does not fit `BUFFER_SIZE` with its header is handed to `schedule_value_already_locked`
cut to `BUFFER_SIZE - 9` bytes, and `listen_to_rti` reads the rest of the payload as the next
frames — its first byte as a kind byte.  And for every message, `send_message_timed` of `2^31`
bytes writes a header whose length field is `2^31` and no payload byte behind it. -/
theorem oversize_payloads_break_framing :
    (∀ (f : Federate τ) (port : UInt16) (payload rest : List UInt8) (e : StreamEnd) (fuel : Nat),
      f.bufferSize < payload.length + 9 → payload.length + 9 < 2 ^ 32 →
      listenToRti f (fuel + 1) ⟨(Msg.message port f.myFedId payload).frame f.codes ++ rest, e⟩ =
        (.schedule (f.actionForPort port.toNat) .zero (payload.take (f.bufferSize - 9))
            (UInt32.ofNat (f.bufferSize - 9)) ::
          (listenToRti f fuel ⟨payload.drop (f.bufferSize - 9) ++ rest, e⟩).1,
          (listenToRti f fuel ⟨payload.drop (f.bufferSize - 9) ++ rest, e⟩).2)) ∧
    ∀ (messageType : UInt8) (port fed : UInt16) (message : List UInt8) (currentTime : UInt64),
      sendMessageTimed messageType port.toNat fed.toNat (2 ^ 31) message currentTime =
        .ok (messageType :: (headerBytes port fed (2 ^ 31) ++ encodeLl currentTime)) :=
  ⟨fun f _ _ rest e fuel hover hlen => listenToRti_truncates f hover hlen rest e fuel,
    sendMessageTimed_two_pow_31⟩

/-- The witness: on the sample federate's seventeen-byte buffer, a `MESSAGE` to port `0` with nine
payload bytes is handed on with eight, and the ninth is read as the next kind byte. -/
theorem oversize_payloads_break_framing_sample :
    sampleFederate.bufferSize < (List.replicate 9 (7 : UInt8)).length + 9 ∧
      (List.replicate 9 (7 : UInt8)).length + 9 < 2 ^ 32 ∧
      listenToRti sampleFederate 2
          ⟨(Msg.message 0 sampleFederate.myFedId (List.replicate 9 7)).frame sampleFederate.codes, .eof⟩ =
        (.schedule (some 0) .zero (List.replicate 8 7) 8 ::
          (listenToRti sampleFederate 1 ⟨[7], .eof⟩).1,
          (listenToRti sampleFederate 1 ⟨[7], .eof⟩).2) :=
  ⟨by decide, by decide,
    (oversize_payloads_break_framing (τ := Nat)).1 sampleFederate 0 (List.replicate 9 7) [] .eof 1
      (by decide) (by decide)⟩

/-! ## The guard near `2^32`

`length + header_size > BUFFER_SIZE` is computed in `unsigned int`, and wraps for the nine
lengths from `2^32 - 9` on. -/

/-- **The length guard of `handle_message` wraps.**  For a length field `L ≥ 2^32 - 9` the sum
`L + 9` wraps below `BUFFER_SIZE`, so the guard keeps `L`, though `L + 9 > BUFFER_SIZE` in exact
arithmetic: `handle_message` calls `malloc` for, and hands on, a length above
`BUFFER_SIZE - 9`, with no payload byte, which `read_from_socket` skips as a negative `int`. -/
theorem payload_guard_wraps (f : Federate τ) (port : UInt16) {len : UInt32}
    (hlen : 2 ^ 32 - 9 ≤ len.toNat) (body : List UInt8) (e : StreamEnd) :
    handleMessage f 9 ⟨headerBytes port f.myFedId len ++ body, e⟩ =
        .ok (.schedule (f.actionForPort port.toNat) .zero [] len, ⟨body, e⟩) ∧
      f.bufferSize < len.toNat + 9 ∧ f.bufferSize - 9 < len.toNat := by
  have hB := f.bufferSize_lt
  have hB9 := f.bufferSize_ge
  have hlt := len.toNat_lt_size
  have hBn : (UInt32.ofNat f.bufferSize).toNat = f.bufferSize :=
    UInt32.toNat_ofNat_of_lt (by unfold UInt32.size; omega)
  unfold UInt32.size at hlt
  have h9 : (len + 9).toNat = len.toNat + 9 - 2 ^ 32 := by
    rw [UInt32.toNat_add]
    show (len.toNat + 9) % 4294967296 = _
    omega
  have hguard : ¬ UInt32.ofNat f.bufferSize < len + 9 := by
    rw [uint32_lt_iff, h9, hBn]
    omega
  have hread : readFromSocket (intOfUnsigned len) ⟨body, e⟩ = .ok ([], ⟨body, e⟩) := by
    have hneg : intOfUnsigned len = len.toNat - 2 ^ 32 := if_neg (by omega)
    have hzero : ((len.toNat : Int) - 2 ^ 32).toNat = 0 := by omega
    rw [hneg, readFromSocket, if_pos (by omega), hzero]
    rfl
  refine ⟨?_, by omega, by omega⟩
  rw [handleMessage_header f f.myFedId_lt]
  dsimp only
  rw [if_neg hguard, hread]
  simp [Except.bind]

/-- The witness: the largest length field, on the sample federate. -/
theorem payload_guard_wraps_max :
    2 ^ 32 - 9 ≤ (4294967295 : UInt32).toNat ∧
      handleMessage sampleFederate 9 ⟨headerBytes 0 sampleFederate.myFedId 4294967295, .eof⟩ =
          .ok (.schedule (sampleFederate.actionForPort 0) .zero [] 4294967295, ⟨[], .eof⟩) ∧
        sampleFederate.bufferSize < (4294967295 : UInt32).toNat + 9 ∧
        sampleFederate.bufferSize - 9 < (4294967295 : UInt32).toNat :=
  ⟨by decide, payload_guard_wraps sampleFederate 0 (by decide) [] .eof⟩

/-! ## Into the critical sections

A handler ends in a critical section.  `Delivery.act?` is the section of `Federate/Coordination`
it is, for the TAG and the stop request; `schedule_value_already_locked` and a dropped message
move no state that module keeps. -/

/-- The section of `Federate/Coordination` a delivery's critical section is. -/
def Delivery.act? : Delivery τ → Option Act
  | .grant tag => some (.grant (toInstant tag))
  | .stop _ => some .stop
  | .schedule .. | .drop _ => none

/-- The instant a frame carries as a TAG. -/
def Msg.tagInstant? : Msg → Option Int
  | .timeAdvanceGrant tag => some (toInstant tag)
  | _ => none

/-- The TAGs the handlers deliver are the TAG frames' instants, in order. -/
theorem grants_deliveries (ms : List Msg) :
    grants ((ms.map (Msg.delivery f)).filterMap Delivery.act?) = ms.filterMap Msg.tagInstant? := by
  induction ms with
  | nil => rfl
  | cons m ms ih =>
    cases m with
    | message port fed payload =>
      have h : (Msg.delivery f (.message port fed payload)).act? = none := by
        simp only [Msg.delivery]
        split <;> rfl
      simpa [h, Msg.tagInstant?] using ih
    | timedMessage => simpa [Msg.delivery, Delivery.act?, Msg.tagInstant?] using ih
    | timeAdvanceGrant tag =>
      simp [Msg.delivery, Delivery.act?, Msg.tagInstant?, grants, Act.grant?] at ih ⊢
      exact ih
    | stop => simpa [Msg.delivery, Delivery.act?, Msg.tagInstant?, grants, Act.grant?] using ih

end ReactorC
