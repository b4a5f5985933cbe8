import ReactorC.Federate.Inbound

/-!
# Federate/Peer — peer connections: the handshake and the socket table

`connect_to_federates` accepts sockets from peers, reads a handshake — `P2P_SENDING_FED_ID`, the
peer's id, the length of its federation id and the id — checks it, and on success records the
socket in `federate_sockets[id]` and starts `listen_to_federates(id)`, which reads that slot when
it starts.  `connect_to_federate(id)` writes the same slot with each socket it opens.  `Peers` is
what these threads share, and `Peers.step` runs one of their sections.

* `handshake_p2pHello` — the handshake `connect_to_federate` writes is accepted by every federate
  of the same federation, under the sender's id;
* `handshake_first_byte` — it is not the only one: any federation id with the same first byte
  passes, since `strncmp` is called with a count of `strnlen(...) != 0`;
* `peer_sockets_alias` — the inbound and the outbound socket of a peer share one slot, so the
  later of the two writes wins, in either order;
* `wire_ids_escape_bounds` — a peer's id and a message's port are used unchecked;
* `Peers.run_federateSockets_frame` — the frame of `Peers.step`: over any run, a slot changes only
  by a handshake accepted under its index or a socket opened for it.
-/

namespace ReactorC

/-! ## C strings

A C string is the bytes before its first NUL.  A byte past the end of a list reads as `0`: that is
the terminator of `federation_id`, and for the unterminated `remote_federation_id` it stands for
the byte past its buffer, which `strncmp` reads only when the peer announced an empty id. -/

/-- `strnlen(s, maxlen)`. -/
def strnlen : List UInt8 → Nat → Nat
  | [], _ | _, 0 => 0
  | b :: bs, n + 1 => if b = 0 then 0 else strnlen bs n + 1

/-- `strncmp(s1, s2, n)`: the difference of the first differing bytes, as unsigned chars, among
the first `n`, stopping at a NUL. -/
def strncmp : List UInt8 → List UInt8 → Nat → Int
  | _, _, 0 => 0
  | s1, s2, n + 1 =>
    if s1.headD 0 ≠ s2.headD 0 then (s1.headD 0).toNat - (s2.headD 0).toNat
    else if s1.headD 0 = 0 then 0
    else strncmp s1.tail s2.tail n

theorem strnlen_le_length (s : List UInt8) (n : Nat) : strnlen s n ≤ s.length := by
  induction s generalizing n with
  | nil => cases n <;> simp [strnlen]
  | cons b bs ih =>
    cases n with
    | zero => simp [strnlen]
    | succ n =>
      simp only [strnlen, List.length_cons]
      split
      · omega
      · have := ih n
        omega

theorem strnlen_le (s : List UInt8) (n : Nat) : strnlen s n ≤ n := by
  induction s generalizing n with
  | nil => simp [strnlen]
  | cons b bs ih =>
    cases n with
    | zero => simp [strnlen]
    | succ n =>
      simp only [strnlen]
      split
      · omega
      · have := ih n
        omega

/-- A one-byte `strncmp` of strings with the same first byte. -/
theorem strncmp_cons_one (c : UInt8) (s t : List UInt8) : strncmp (c :: s) (c :: t) 1 = 0 := by
  simp [strncmp]

/-! ## The handshake

One pass of the loop of `connect_to_federates` reads the first four bytes and the federation id
from a socket it accepted and decides.  A read that ends in an error makes it move on without an
answer; any other failure is answered with `REJECT` and a reason. -/

/-- How `connect_to_federates` leaves a handshake. -/
inductive Handshake
  /-- Recorded under the id in the header, and answered `ACK`. -/
  | accepted (remoteFedId : UInt16)
  /-- Answered `REJECT` with the reason, and closed. -/
  | rejected (reason : UInt8)
  /-- A read failed: no answer, nothing recorded. -/
  | abandoned
  deriving DecidableEq, Repr

variable {τ : Type} (f : Federate τ)

/-- The checks of `connect_to_federates` on a socket whose peer sends `s`. -/
def handshake (s : Inbox) : Handshake :=
  let (bytesRead, buffer, s) := readFromSocket2 4 s
  if bytesRead ≠ 4 ∨ buffer.headD 0 ≠ f.codes.p2pSendingFedId then
    if 0 ≤ bytesRead then .rejected f.codes.wrongServer else .abandoned
  else
    let federationIdLength := buffer.getD 3 0
    let (bytesRead, remoteFederationId, _) := readFromSocket2 federationIdLength.toNat s
    if bytesRead ≠ federationIdLength.toNat ∨
        strncmp f.federationId remoteFederationId
          (if strnlen f.federationId 255 ≠ 0 then 1 else 0) ≠ 0 then
      if 0 ≤ bytesRead then .rejected f.codes.federationIdDoesNotMatch else .abandoned
    else .accepted (extractUshort f.host (buffer.drop 1))

/-- The answer written on the socket. -/
def Handshake.response (c : RtiCodes) : Handshake → List UInt8
  | .accepted _ => [c.ack]
  | .rejected reason => [c.reject, reason]
  | .abandoned => []

/-- The first four bytes of a handshake. -/
def helloHeader (c : RtiCodes) (fedId : UInt16) (federationIdLength : UInt8) : List UInt8 :=
  c.p2pSendingFedId :: (encodeUshort fedId ++ [federationIdLength])

@[simp] theorem length_helloHeader (c : RtiCodes) (fedId : UInt16) (n : UInt8) :
    (helloHeader c fedId n).length = 4 := by
  simp [helloHeader]

/-- The handshake `connect_to_federate` writes for federate `fedId` of federation
`federationId`: the header with `strnlen(federation_id, 255)`, then that many bytes of the id. -/
def p2pHello (c : RtiCodes) (fedId : UInt16) (federationId : List UInt8) : List UInt8 :=
  helloHeader c fedId (UInt8.ofNat (strnlen federationId 255)) ++
    federationId.take (strnlen federationId 255)

/-- A well-formed header, then an id that passes the comparison, is accepted under the header's
id. -/
theorem handshake_accepts {fedId : UInt16} {remote : List UInt8} (hlen : remote.length < 256)
    (hcmp : strncmp f.federationId remote
      (if strnlen f.federationId 255 ≠ 0 then 1 else 0) = 0) (rest : List UInt8) (e : StreamEnd) :
    handshake f ⟨helloHeader f.codes fedId (UInt8.ofNat remote.length) ++ (remote ++ rest), e⟩ =
      .accepted fedId := by
  have hn : (UInt8.ofNat remote.length).toNat = remote.length := UInt8.toNat_ofNat_of_lt hlen
  have hhdr := readFromSocket2_append (helloHeader f.codes fedId (UInt8.ofNat remote.length))
    (n := 4) (by simp) (by omega) (remote ++ rest) e
  have hid : readFromSocket2 (remote.length : Int) ⟨remote ++ rest, e⟩ =
      ((remote.length : Int), remote, (⟨rest, e⟩ : Inbox)) := by
    rcases Nat.eq_zero_or_pos remote.length with h | h
    · rw [List.length_eq_zero.mp h]
      rfl
    · exact readFromSocket2_append remote rfl (by omega) rest e
  simp only [handshake, hhdr]
  simpa [helloHeader, hn, hid] using hcmp

/-- **The handshake of a peer of the same federation is accepted**, under the peer's id. -/
theorem handshake_p2pHello (fedId : UInt16) (rest : List UInt8) (e : StreamEnd) :
    handshake f ⟨p2pHello f.codes fedId f.federationId ++ rest, e⟩ = .accepted fedId := by
  have hlen : (f.federationId.take (strnlen f.federationId 255)).length =
      strnlen f.federationId 255 :=
    List.length_take_of_le (strnlen_le_length _ _)
  have hcmp : strncmp f.federationId (f.federationId.take (strnlen f.federationId 255))
      (if strnlen f.federationId 255 ≠ 0 then 1 else 0) = 0 := by
    split
    · next hne =>
      obtain ⟨c, cs, hc⟩ : ∃ c cs, f.federationId = c :: cs :=
        List.exists_cons_of_ne_nil (by rintro h; simp [h, strnlen] at hne)
      rw [hc] at hne ⊢
      rw [List.take_cons (Nat.pos_of_ne_zero hne), strncmp_cons_one]
    · rfl
  have h : handshake f ⟨helloHeader f.codes fedId _ ++ _, e⟩ = .accepted fedId :=
    handshake_accepts f (by have := strnlen_le f.federationId 255; omega) hcmp rest e
  rw [hlen] at h
  rwa [p2pHello, List.append_assoc]

/-- **Only the first byte of the federation id is compared.**  A federate whose federation id
starts with `c` accepts every handshake that announces an id starting with `c` — one that differs
later, or is a prefix of its own — and records it under the id in the header. -/
theorem handshake_first_byte {c : UInt8} {cs : List UInt8} (hfid : f.federationId = c :: cs)
    (fedId : UInt16) (remote : List UInt8) (hlen : remote.length < 255) (rest : List UInt8)
    (e : StreamEnd) :
    handshake f ⟨helloHeader f.codes fedId (UInt8.ofNat (c :: remote).length) ++
      ((c :: remote) ++ rest), e⟩ = .accepted fedId := by
  refine handshake_accepts f (by simp; omega) ?_ rest e
  rw [hfid]
  split
  · exact strncmp_cons_one c cs remote
  · rfl

/-- The witness: federation `"ab"` accepts a peer announcing `"ax"`. -/
theorem handshake_first_byte_sample :
    sampleFederate.federationId = 97 :: [98] ∧ [120].length < 255 ∧
      handshake sampleFederate ⟨helloHeader sampleFederate.codes 0 (UInt8.ofNat [97, 120].length) ++
        ([97, 120] ++ []), .eof⟩ = .accepted 0 :=
  ⟨rfl, by decide, handshake_first_byte sampleFederate rfl 0 [120] (by decide) [] .eof⟩

/-! ## The socket table

`federate_sockets` is one array for both directions: `connect_to_federates` records an inbound
socket from peer `id` at index `id`, and `connect_to_federate(id)` stores each outbound socket it
opens at the same index — the one `send_message_timed` is then called with.  A listener thread
reads its slot only once it runs.  The index is whatever `ushort` the handshake carried, so the
table is indexed by every `Nat`. -/

/-- What the peer-connection threads share. -/
structure Peers where
  /-- `federate_sockets`. -/
  federateSockets : Nat → Int
  /-- `received_federates` of `connect_to_federates`. -/
  receivedFederates : Nat
  /-- `connect_to_federates` is still in its loop. -/
  serving : Bool
  /-- The answers written, with the socket each went to. -/
  responses : List (Int × List UInt8)
  /-- The `listen_to_federates` threads created, oldest first: the id each was passed, and the
  socket it read from `federate_sockets` once it started. -/
  listeners : List (UInt16 × Option Int)

namespace Peers

/-- `federate_sockets[k] = socket`. -/
def setSocket (p : Peers) (k : Nat) (socket : Int) : Peers :=
  { p with federateSockets := Function.update p.federateSockets k socket }

@[simp] theorem setSocket_federateSockets (p : Peers) (k : Nat) (socket : Int) :
    (p.setSocket k socket).federateSockets = Function.update p.federateSockets k socket := rfl

@[simp] theorem setSocket_listeners (p : Peers) (k : Nat) (socket : Int) :
    (p.setSocket k socket).listeners = p.listeners := rfl

@[simp] theorem setSocket_serving (p : Peers) (k : Nat) (socket : Int) :
    (p.setSocket k socket).serving = p.serving := rfl

@[simp] theorem setSocket_receivedFederates (p : Peers) (k : Nat) (socket : Int) :
    (p.setSocket k socket).receivedFederates = p.receivedFederates := rfl

/-- One pass of the loop of `connect_to_federates` on the socket `accept` returned, whose peer
sends `s`: a negative socket ends the thread; an accepted handshake is recorded, answered `ACK`
and given a listener thread; a rejected one is answered. -/
def connectToFederatesPass (p : Peers) (socketId : Int) (s : Inbox) : Peers :=
  if socketId < 0 then { p with serving := false }
  else match handshake f s with
    | .accepted id =>
      { p.setSocket id.toNat socketId with
        responses := p.responses ++ [(socketId, (Handshake.accepted id).response f.codes)]
        listeners := p.listeners ++ [(id, none)]
        receivedFederates := p.receivedFederates + 1 }
    | .rejected reason =>
      { p with
        responses := p.responses ++ [(socketId, (Handshake.rejected reason).response f.codes)] }
    | .abandoned => p

/-- A section of one of the threads. -/
inductive Act
  /-- `accept` returns `socketId` to `connect_to_federates`; the peer will send `s`. -/
  | accept (socketId : Int) (s : Inbox)
  /-- `connect_to_federate(id)` runs `federate_sockets[id] = socket(...)`, which returned
  `socketId`. -/
  | socketOpened (id : UInt16) (socketId : Int)
  /-- The `k`-th listener thread starts and reads `federate_sockets[fed_id]`. -/
  | listenerStarted (k : Nat)

/-- One section, if its thread can run it: `connect_to_federates` loops while fewer than
`expected` peers are in, and a listener starts once. -/
def step (expected : Nat) (p : Peers) : Act → Option Peers
  | .accept socketId s =>
    if p.serving = true ∧ p.receivedFederates < expected then
      some (connectToFederatesPass f p socketId s)
    else none
  | .socketOpened id socketId => some (p.setSocket id.toNat socketId)
  | .listenerStarted k =>
    match p.listeners[k]? with
    | some (id, none) =>
      some { p with listeners := p.listeners.set k (id, some (p.federateSockets id.toNat)) }
    | _ => none

/-- A run of sections, one after the other. -/
def run (expected : Nat) : Peers → List Act → Option Peers
  | p, [] => some p
  | p, a :: as => (p.step f expected a).bind (run expected · as)

/-- Whether a section writes `federate_sockets[k]`. -/
def Act.Writes (k : Nat) : Act → Prop
  | .accept socketId s =>
    0 ≤ socketId ∧ ∃ id : UInt16, handshake f s = .accepted id ∧ id.toNat = k
  | .socketOpened id _ => id.toNat = k
  | .listenerStarted _ => False

/-- A section that does not write slot `k` leaves it. -/
theorem step_federateSockets {expected k : Nat} {p p' : Peers} {a : Act}
    (h : p.step f expected a = some p') (hw : ¬ a.Writes f k) :
    p'.federateSockets k = p.federateSockets k := by
  cases a with
  | accept socketId s =>
    simp only [step] at h
    split at h <;> cases h
    unfold connectToFederatesPass
    split
    · rfl
    · split
      · next hneg id hid =>
        exact Function.update_noteq (fun hk => hw ⟨by omega, id, hid, hk.symm⟩) _ _
      · rfl
      · rfl
  | socketOpened id socketId =>
    cases h
    exact Function.update_noteq (Ne.symm hw) _ _
  | listenerStarted j =>
    simp only [step] at h
    split at h <;> cases h
    rfl

/-- **Frame of the socket table.**  Over any run, a slot that no section writes — no handshake
accepted under its index, no socket opened for it — keeps its value. -/
theorem run_federateSockets_frame {expected k : Nat} {p p' : Peers} {as : List Act}
    (h : p.run f expected as = some p') (hw : ∀ a ∈ as, ¬ a.Writes f k) :
    p'.federateSockets k = p.federateSockets k := by
  induction as generalizing p with
  | nil => cases h; rfl
  | cons a as ih =>
    obtain ⟨q, hq, hrun⟩ := Option.bind_eq_some.mp h
    rw [ih hrun fun a' ha' => hw a' (List.mem_cons_of_mem a ha'),
      step_federateSockets f hq (hw a (List.mem_cons_self a as))]

/-- An accept whose handshake succeeds records the socket, answers `ACK` and creates a
listener. -/
theorem step_accept {expected : Nat} {p : Peers} {socketId : Int} {s : Inbox} {id : UInt16}
    (hserving : p.serving = true) (hlt : p.receivedFederates < expected) (hsock : 0 ≤ socketId)
    (hs : handshake f s = .accepted id) :
    p.step f expected (.accept socketId s) =
      some { p.setSocket id.toNat socketId with
        responses := p.responses ++ [(socketId, [f.codes.ack])]
        listeners := p.listeners ++ [(id, none)]
        receivedFederates := p.receivedFederates + 1 } := by
  simp only [step, hserving, hlt, and_self, if_true, connectToFederatesPass,
    if_neg (not_lt.mpr hsock), hs]
  rfl

/-- **Inbound and outbound sockets of a peer alias.**  Let a handshake from `j` be accepted on
socket `a`, and let `connect_to_federate(j)` open socket `b`.  If the accept comes first and `b`
is stored before `j`'s listener starts, the listener reads `b`, the outbound socket; if `b` is
stored first, the accept overwrites it, and `federate_sockets[j]` — the socket messages to `j`
are sent on — is `a`, the inbound one. -/
theorem peer_sockets_alias {expected : Nat} {p : Peers} {j : UInt16} {a b : Int} {s : Inbox}
    (hs : handshake f s = .accepted j) (ha : 0 ≤ a) (hserving : p.serving = true)
    (hlt : p.receivedFederates < expected) :
    (p.run f expected [.accept a s, .socketOpened j b, .listenerStarted p.listeners.length]).map
        (·.listeners.getLast?) = some (some (j, some b)) ∧
      (p.run f expected [.socketOpened j b, .accept a s]).map (·.federateSockets j.toNat) =
        some a := by
  constructor
  · rw [run, step_accept f hserving hlt ha hs]
    simp [run, step, setSocket]
  · have h := step_accept f (p := p.setSocket j.toNat b) (by simpa using hserving)
      (by simpa using hlt) ha hs
    rw [run, step, Option.some_bind, run, h]
    simp [run]

/-- The table before the threads start: `connect_to_federates` in its loop, nothing received. -/
def init (federateSockets : Nat → Int) : Peers := ⟨federateSockets, 0, true, [], []⟩

/-- The witness: federation `"ab"`, a handshake from federate `0` accepted on socket `4`, and
`connect_to_federate(0)` opening socket `5`. -/
theorem peer_sockets_alias_sample :
    handshake sampleFederate ⟨p2pHello sampleFederate.codes 0 sampleFederate.federationId, .eof⟩ =
        .accepted 0 ∧ (0 : Int) ≤ 4 ∧ (init fun _ => -1).serving = true ∧
      (init fun _ => -1).receivedFederates < 1 ∧
      ((init fun _ => -1).run sampleFederate 1
          [.accept 4 ⟨p2pHello sampleFederate.codes 0 sampleFederate.federationId, .eof⟩,
            .socketOpened 0 5, .listenerStarted (init fun _ => -1).listeners.length]).map
          (·.listeners.getLast?) = some (some (0, some 5)) ∧
      ((init fun _ => -1).run sampleFederate 1 [.socketOpened 0 5,
          .accept 4 ⟨p2pHello sampleFederate.codes 0 sampleFederate.federationId, .eof⟩]).map
          (·.federateSockets (0 : UInt16).toNat) = some 4 :=
  have hs : handshake sampleFederate
      ⟨p2pHello sampleFederate.codes 0 sampleFederate.federationId, .eof⟩ = .accepted 0 := by
    decide
  ⟨hs, by decide, rfl, by decide,
    peer_sockets_alias sampleFederate hs (by decide) rfl (by decide)⟩

end Peers

/-- **Ids from the wire are used unchecked.**  A handshake from a peer of the same federation is
recorded at `federate_sockets[id]` for every 16-bit `id` it announces, `NUMBER_OF_FEDERATES` and
above included; and `listen_to_rti` hands a `TIMED_MESSAGE` for a port whose trigger is null to
`schedule_value_already_locked` with that null trigger. -/
theorem wire_ids_escape_bounds :
    (∀ (f : Federate τ) (expected : Nat) (p : Peers) (id : UInt16) (socketId : Int)
        (rest : List UInt8) (e : StreamEnd),
      0 ≤ socketId → p.serving = true → p.receivedFederates < expected →
      (p.step f expected (.accept socketId ⟨p2pHello f.codes id f.federationId ++ rest, e⟩)).map
        (·.federateSockets id.toNat) = some socketId) ∧
    ∀ (f : Federate τ) (port fed : UInt16) (timestamp : UInt64) (payload rest : List UInt8)
        (e : StreamEnd) (fuel : Nat),
      f.actionForPort port.toNat = none → fed.toNat < f.numberOfFederates →
      payload.length < 2 ^ 31 →
      listenToRti f (fuel + 1)
          ⟨(Msg.timedMessage port fed timestamp payload).frame f.codes ++ rest, e⟩ =
        (.schedule none (.untilTimestamp timestamp) payload (UInt32.ofNat payload.length) ::
          (listenToRti f fuel ⟨rest, e⟩).1, (listenToRti f fuel ⟨rest, e⟩).2) := by
  refine ⟨fun f expected p id socketId rest e hsock hserving hlt => ?_,
    fun f port fed timestamp payload rest e fuel hnone hfed hlen => ?_⟩
  · rw [Peers.step_accept f hserving hlt hsock (handshake_p2pHello f id rest e)]
    simp
  · have h :=
      dispatchRti_body f (m := .timedMessage port fed timestamp payload) ⟨hfed, hlen⟩ rest e
    rw [Msg.delivery, hnone] at h
    exact listenToRti_cons f h fuel

/-- The witness: the sample federation has two federates, and a peer announcing id `65535` is
recorded at index `65535`; port `5` has no trigger. -/
theorem wire_ids_escape_bounds_sample :
    (0 : Int) ≤ 4 ∧ (Peers.init fun _ => -1).serving = true ∧
      (Peers.init fun _ => -1).receivedFederates < 1 ∧
      ((Peers.init fun _ => -1).step sampleFederate 1
          (.accept 4 ⟨p2pHello sampleFederate.codes 65535 sampleFederate.federationId ++ [], .eof⟩)).map
        (·.federateSockets (65535 : UInt16).toNat) = some 4 ∧
      sampleFederate.actionForPort (5 : UInt16).toNat = none ∧
      (0 : UInt16).toNat < sampleFederate.numberOfFederates ∧ [42].length < 2 ^ 31 ∧
      listenToRti sampleFederate 1
          ⟨(Msg.timedMessage 5 0 1000 [42]).frame sampleFederate.codes ++ [], .eof⟩ =
        (.schedule none (.untilTimestamp 1000) [42] (UInt32.ofNat [42].length) ::
          (listenToRti sampleFederate 0 ⟨[], .eof⟩).1, (listenToRti sampleFederate 0 ⟨[], .eof⟩).2) :=
  ⟨by decide, rfl, by decide,
    wire_ids_escape_bounds.1 sampleFederate 1 _ 65535 4 [] .eof (by decide) rfl (by decide),
    by decide, by decide, by decide,
    wire_ids_escape_bounds.2 sampleFederate 5 0 1000 [42] [] .eof 0 (by decide) (by decide)
      (by decide)⟩

end ReactorC
