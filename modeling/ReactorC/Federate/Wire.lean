import ReactorC.Util.Socket

/-!
# Federate/Wire — the frames on a federate's sockets

A message on the RTI socket or on a peer socket is a kind byte, then a body: for `MESSAGE` and
`TIMED_MESSAGE` the eight header bytes `extract_header` reads — port, destination federate,
payload length — then, for a timed message, the timestamp `extract_ll` reads, then the payload;
for `TIME_ADVANCE_GRANT` and `STOP` one instant.  `Msg.frame` lays a message out so, and the
handlers of `Federate/Inbound` read frames back.

`send_message_timed` writes these frames, and is exact only below `2^31` payload bytes:

* `sendMessageTimed_frame` — below `2^31` bytes it writes the frame of its message;
* `sendMessageTimed_two_pow_31` — at `2^31` bytes the length field says `2^31` and no payload
  byte follows, since `write_to_socket` takes its count as an `int`.
-/

namespace ReactorC

/-! ## What the federate is built with

The codes of `rti.h` and the constants the code generator fixes for one federate; none is under
`src/`, so both are parameters, with the facts the source relies on as fields. -/

/-- The message-type codes of `rti.h`.  The `switch` statements of `listen_to_rti` and
`listen_to_federates` compile only with distinct case labels. -/
structure RtiCodes where
  message : UInt8
  timedMessage : UInt8
  timeAdvanceGrant : UInt8
  stop : UInt8
  p2pSendingFedId : UInt8
  p2pMessageTimed : UInt8
  ack : UInt8
  reject : UInt8
  wrongServer : UInt8
  federationIdDoesNotMatch : UInt8
  rti_nodup : [message, timedMessage, timeAdvanceGrant, stop].Nodup
  p2p_ne : p2pSendingFedId ≠ p2pMessageTimed

/-- The four case labels of `listen_to_rti`, pairwise distinct. -/
theorem RtiCodes.kinds_ne (c : RtiCodes) :
    c.timedMessage ≠ c.message ∧ c.timeAdvanceGrant ≠ c.message ∧
      c.timeAdvanceGrant ≠ c.timedMessage ∧ c.stop ≠ c.message ∧ c.stop ≠ c.timedMessage ∧
      c.stop ≠ c.timeAdvanceGrant := by
  have h := c.rti_nodup
  simp only [List.nodup_cons, List.mem_cons, List.mem_singleton, not_or, List.not_mem_nil,
    not_false_eq_true, List.nodup_nil, and_true] at h
  exact ⟨Ne.symm h.1.1, Ne.symm h.1.2.1, Ne.symm h.2.1.1, Ne.symm h.1.2.2, Ne.symm h.2.1.2,
    Ne.symm h.2.2⟩

/-- What the generated program fixes for one federate.  `τ` is the type of its triggers. -/
structure Federate (τ : Type) where
  host : Endian
  codes : RtiCodes
  /-- `NUMBER_OF_FEDERATES`. -/
  numberOfFederates : Nat
  /-- `BUFFER_SIZE`. -/
  bufferSize : Nat
  /-- `__my_fed_id`, one of the federation's ids. -/
  myFedId : UInt16
  /-- `federation_id`, without its terminating NUL. -/
  federationId : List UInt8
  /-- `__action_for_port`: the trigger of a port, or null when the id is out of range. -/
  actionForPort : Nat → Option τ
  myFedId_lt : myFedId.toNat < numberOfFederates
  /-- The listeners' buffer holds a timed message's kind byte and sixteen header bytes. -/
  bufferSize_ge : 17 ≤ bufferSize
  /-- The listeners' stack buffer is smaller than the largest `int`. -/
  bufferSize_lt : bufferSize < 2 ^ 31

/-- A federate to instantiate the statements at: two federates, this one number `1`, a
seventeen-byte buffer, federation `"ab"`, and two input ports. -/
def sampleFederate : Federate Nat where
  host := .little
  codes := {
    message := 3, timedMessage := 5, timeAdvanceGrant := 7, stop := 9, p2pSendingFedId := 12,
    p2pMessageTimed := 13, ack := 255, reject := 0, wrongServer := 1, federationIdDoesNotMatch := 2,
    rti_nodup := by decide, p2p_ne := by decide }
  numberOfFederates := 2
  bufferSize := 17
  myFedId := 1
  federationId := [97, 98]
  actionForPort p := if p < 2 then some p else none
  myFedId_lt := by decide
  bufferSize_ge := by decide
  bufferSize_lt := by decide

/-! ## Frames -/

/-- The eight header bytes: port, destination federate, payload length. -/
def headerBytes (port federate : UInt16) (length : UInt32) : List UInt8 :=
  encodeUshort port ++ encodeUshort federate ++ encodeInt length

@[simp] theorem length_headerBytes (port federate : UInt16) (length : UInt32) :
    (headerBytes port federate length).length = 8 := by
  simp [headerBytes]

/-- **`extract_header` reads a header back**, on either host, when its destination passes the
assertion. -/
theorem extractHeader_headerBytes (e : Endian) {N : Nat} {fed : UInt16} (port : UInt16)
    (len : UInt32) (rest : List UInt8) (h : fed.toNat < N) :
    extractHeader e N (headerBytes port fed len ++ rest) = .ok ⟨port, fed, len⟩ := by
  have h2 : (headerBytes port fed len ++ rest).drop 2 =
      encodeUshort fed ++ (encodeInt len ++ rest) := by
    simp [headerBytes, List.drop_append_eq_append_drop]
  have h4 : (headerBytes port fed len ++ rest).drop 4 = encodeInt len ++ rest := by
    simp [headerBytes, List.drop_append_eq_append_drop]
  simp only [extractHeader, h2, h4, extractUshort_encodeUshort, extractInt_encodeInt, h, if_true]
  rw [headerBytes, List.append_assoc, List.append_assoc, extractUshort_encodeUshort]

/-- A message of the kinds `listen_to_rti` handles; `listen_to_federates` handles the first two. -/
inductive Msg
  | message (port federate : UInt16) (payload : List UInt8)
  | timedMessage (port federate : UInt16) (timestamp : UInt64) (payload : List UInt8)
  | timeAdvanceGrant (tag : UInt64)
  | stop (stopTime : UInt64)
  deriving DecidableEq, Repr

/-- The kind byte of a message on the RTI socket. -/
def Msg.kind (c : RtiCodes) : Msg → UInt8
  | .message .. => c.message
  | .timedMessage .. => c.timedMessage
  | .timeAdvanceGrant _ => c.timeAdvanceGrant
  | .stop _ => c.stop

/-- What follows the kind byte; the length field counts the payload. -/
def Msg.body : Msg → List UInt8
  | .message port fed payload => headerBytes port fed (UInt32.ofNat payload.length) ++ payload
  | .timedMessage port fed timestamp payload =>
    headerBytes port fed (UInt32.ofNat payload.length) ++ encodeLl timestamp ++ payload
  | .timeAdvanceGrant tag => encodeLl tag
  | .stop stopTime => encodeLl stopTime

/-- The frame of a message on the RTI socket. -/
def Msg.frame (c : RtiCodes) (m : Msg) : List UInt8 := m.kind c :: m.body

/-! ## `send_message_timed` -/

/-- `send_message_timed(socket, message_type, port, federate, length, message)`: the bytes its
two `write_to_socket` calls put on the socket — the seventeen-byte buffer, then as many bytes of
`message` as the `int` that `length` converts to (none when it is negative).  `currentTime` is the
bit pattern of `get_logical_time()`. -/
def sendMessageTimed (messageType : UInt8) (port federate length : Nat) (message : List UInt8)
    (currentTime : UInt64) : Except Halt (List UInt8) :=
  if port < 65536 then
    if federate < 65536 then
      .ok (messageType :: (headerBytes (UInt16.ofNat port) (UInt16.ofNat federate)
          (UInt32.ofNat length) ++ encodeLl currentTime) ++
        message.take (intOfUnsigned (UInt32.ofNat length)).toNat)
    else .error (.assertFailed "federate < 65536")
  else .error (.assertFailed "port < 65536")

theorem ushort_ofNat_toNat (x : UInt16) : UInt16.ofNat x.toNat = x :=
  UInt16.toNat.inj (UInt16.toNat_ofNat_of_lt x.toNat_lt_size)

/-- With port and federate in range the assertions pass. -/
theorem sendMessageTimed_eq (messageType : UInt8) (port fed : UInt16) (length : Nat)
    (message : List UInt8) (currentTime : UInt64) :
    sendMessageTimed messageType port.toNat fed.toNat length message currentTime =
      .ok (messageType :: (headerBytes port fed (UInt32.ofNat length) ++ encodeLl currentTime) ++
        message.take (intOfUnsigned (UInt32.ofNat length)).toNat) := by
  rw [sendMessageTimed, if_pos port.toNat_lt_size, if_pos fed.toNat_lt_size, ushort_ofNat_toNat,
    ushort_ofNat_toNat]

/-- **Below `2^31` payload bytes the sender writes the frame** of the timed message carrying the
first `length` bytes of `message`, its length field counting them. -/
theorem sendMessageTimed_frame (messageType : UInt8) (port fed : UInt16) {length : Nat}
    {message : List UInt8} (currentTime : UInt64) (hlen : length < 2 ^ 31)
    (hmsg : length ≤ message.length) :
    sendMessageTimed messageType port.toNat fed.toNat length message currentTime =
      .ok (messageType :: (Msg.timedMessage port fed currentTime (message.take length)).body) := by
  have hL : (UInt32.ofNat length).toNat = length :=
    UInt32.toNat_ofNat_of_lt (by unfold UInt32.size; omega)
  rw [sendMessageTimed_eq, intOfUnsigned_of_lt (by omega), hL]
  simp [Msg.body, hmsg]

/-- **At `2^31` payload bytes the length field and the payload part.**  The field holds `2^31`,
but `write_to_socket` receives `length` as the negative `int` `-2^31` and writes no payload
byte. -/
theorem sendMessageTimed_two_pow_31 (messageType : UInt8) (port fed : UInt16)
    (message : List UInt8) (currentTime : UInt64) :
    sendMessageTimed messageType port.toNat fed.toNat (2 ^ 31) message currentTime =
      .ok (messageType :: (headerBytes port fed (2 ^ 31) ++ encodeLl currentTime)) := by
  rw [sendMessageTimed_eq]
  simp [intOfUnsigned]
  rfl

end ReactorC
