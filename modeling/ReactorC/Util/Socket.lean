import ReactorC.Util.Bytes

/-!
# Util/Socket — reading a socket, halting, and `extract_header`

A socket is modelled at the level `util.c`'s read loop gives its callers: the bytes it will still
deliver, in order, and how the stream ends after them (`Inbox`).  `read_from_socket` hands back
exactly the bytes asked for or stops the process (`readFromSocket_append` is the one fact the
handlers need); `read_from_socket2`, which `federate.c` calls but `src/` does not define, is
modelled from the spec's `read_exact`.

`extract_header` completes the decoders of `Util/Bytes`; `extract_little_endian` states what all
of them read, on both host orders.
-/

namespace ReactorC

/-! ## Halting -/

/-- How a thread of the federate stops the process. -/
inductive Halt
  /-- `error(msg)` of `util.c`: `perror(msg)`, then `exit(1)`. -/
  | error (msg : String)
  /-- `fprintf(stderr, msg)`, then `exit(code)`. -/
  | exit (code : Nat) (msg : String)
  /-- An `assert` of the source fails: the process aborts. -/
  | assertFailed (expr : String)
  deriving DecidableEq, Repr

/-- `ERROR_DISCONNECTED`. -/
def errorDisconnected : String := "ERROR socket is not connected"

/-- `ERROR_EOF`. -/
def errorEof : String := "ERROR peer sent EOF"

/-! ## Sockets -/

/-- How a socket's byte stream ends. -/
inductive StreamEnd
  /-- `read` returns `0`. -/
  | eof
  /-- `read` returns a negative count. -/
  | disconnected
  deriving DecidableEq, Repr

/-- What a socket will still deliver: its bytes in order, then how the stream ends.  How the
kernel chunks them is invisible to the callers of the read loops, which reassemble. -/
structure Inbox where
  bytes : List UInt8
  final : StreamEnd
  deriving DecidableEq, Repr

/-- `read_from_socket(socket, num_bytes, buffer)` (`util.c`; `federate.c` calls a variant that also
takes an error-message format): loop until `num_bytes` bytes have arrived, stopping the process
with `ERROR_EOF` or `ERROR_DISCONNECTED` if the stream ends first.  A count `≤ 0` reads nothing. -/
def readFromSocket (numBytes : Int) (s : Inbox) : Except Halt (List UInt8 × Inbox) :=
  if numBytes ≤ s.bytes.length then
    .ok (s.bytes.take numBytes.toNat, { s with bytes := s.bytes.drop numBytes.toNat })
  else
    .error (.error (match s.final with
      | .eof => errorEof
      | .disconnected => errorDisconnected))

/-- Modelled from the spec: `read_from_socket2` (not under `src/`) is the spec's
`read_exact(socket, n) -> Ok | ShortRead(EOF) | Err`, returning the count read — `n` when all
`n` bytes arrived (`0` for `n ≤ 0`), `0` when the stream reached EOF first and `-1` on an error —
with the bytes it consumed.  EOF after part of the `n` bytes also returns `0`, the `ShortRead`
answer, where the spec's failure semantics make EOF in the middle of a message an error.  Of
the callers, only `connect_to_federates` tells the two apart: it answers a handshake cut short by
EOF with `REJECT`, and one cut by an error with nothing. -/
def readFromSocket2 (numBytes : Int) (s : Inbox) : Int × List UInt8 × Inbox :=
  if numBytes ≤ 0 then (0, [], s)
  else if numBytes ≤ s.bytes.length then
    (numBytes, s.bytes.take numBytes.toNat, { s with bytes := s.bytes.drop numBytes.toNat })
  else
    (match s.final with
      | .eof => 0
      | .disconnected => -1, s.bytes, { s with bytes := [] })

/-- **A read of exactly the bytes at the front** returns them and leaves the rest. -/
theorem readFromSocket_append (bs : List UInt8) {n : Int} (hn : n = bs.length)
    (rest : List UInt8) (e : StreamEnd) :
    readFromSocket n ⟨bs ++ rest, e⟩ = .ok (bs, ⟨rest, e⟩) := by
  subst hn
  simp [readFromSocket]

/-- A read of `n` bytes the socket holds takes the first `n`. -/
theorem readFromSocket_of_le {n : Nat} {s : Inbox} (h : n ≤ s.bytes.length) :
    readFromSocket n s = .ok (s.bytes.take n, { s with bytes := s.bytes.drop n }) := by
  rw [readFromSocket, if_pos (by exact_mod_cast h)]
  rfl

theorem readFromSocket2_append (bs : List UInt8) {n : Int} (hn : n = bs.length) (hpos : 0 < n)
    (rest : List UInt8) (e : StreamEnd) :
    readFromSocket2 n ⟨bs ++ rest, e⟩ = (n, bs, ⟨rest, e⟩) := by
  subst hn
  have hle : (bs.length : Int) ≤ (bs ++ rest).length := by simp
  rw [readFromSocket2, if_neg (by omega), if_pos hle]
  simp

/-- A positive count from `read_from_socket2` is the count asked for. -/
theorem readFromSocket2_pos_count {n : Int} {s : Inbox} (h : 0 < (readFromSocket2 n s).1) :
    (readFromSocket2 n s).1 = n := by
  unfold readFromSocket2 at h ⊢
  split_ifs at h ⊢
  · exact absurd h (lt_irrefl 0)
  · rfl
  · cases hf : s.final <;> simp only [hf] at h <;> omega

/-- `read_from_socket2` returns the count asked for only when it read that many bytes. -/
theorem readFromSocket2_eq_count {n : Int} {s : Inbox} (hpos : 0 < n)
    (h : (readFromSocket2 n s).1 = n) :
    n ≤ s.bytes.length ∧ readFromSocket2 n s = (n, s.bytes.take n.toNat,
      { s with bytes := s.bytes.drop n.toNat }) := by
  unfold readFromSocket2 at h ⊢
  rw [if_neg (by omega)] at h ⊢
  by_cases hle : n ≤ s.bytes.length
  · rw [if_pos hle]
    exact ⟨hle, rfl⟩
  · rw [if_neg hle] at h
    cases hf : s.final <;> simp only [hf] at h <;> omega

/-- `write_to_socket(socket, num_bytes, buffer)` (`util.c`), at the level its callers see: the bytes
go out, or the process stops with `ERROR_DISCONNECTED` or `ERROR_EOF` when a `write` returns a
negative count or `0` — `stop` says which, `none` when neither happens. -/
def writeToSocket (stop : Option StreamEnd) : Except Halt Unit :=
  match stop with
  | none => .ok ()
  | some .disconnected => .error (.error errorDisconnected)
  | some .eof => .error (.error errorEof)

/-- The `int` an `unsigned int` converts to (two's complement). -/
def intOfUnsigned (x : UInt32) : Int :=
  if x.toNat < 2 ^ 31 then x.toNat else x.toNat - 2 ^ 32

theorem intOfUnsigned_of_lt {x : UInt32} (h : x.toNat < 2 ^ 31) : intOfUnsigned x = x.toNat :=
  if_pos h

/-! ## `extract_header` -/

/-- The fields `extract_header` writes through its pointers. -/
structure Header where
  portId : UInt16
  federateId : UInt16
  length : UInt32
  deriving DecidableEq, Repr

/-- `extract_header(buffer, &port_id, &federate_id, &length)`: two bytes of port, two of
destination federate — asserted below `NUMBER_OF_FEDERATES` — and four of length. -/
def extractHeader (e : Endian) (numberOfFederates : Nat) (buffer : List UInt8) :
    Except Halt Header :=
  let federateId := extractUshort e (buffer.drop 2)
  if federateId.toNat < numberOfFederates then
    .ok ⟨extractUshort e buffer, federateId, extractInt e (buffer.drop 4)⟩
  else
    .error (.assertFailed "*federate_id < NUMBER_OF_FEDERATES")

end ReactorC
