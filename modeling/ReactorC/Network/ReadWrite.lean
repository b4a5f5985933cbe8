import ReactorC.Util.Socket

/-!
# Network/ReadWrite — the retrying read and write loops of `socket_common.c`

`read_from_socket` and `write_to_socket` move `num_bytes` bytes through a socket one system call
at a time, and go round again after `EAGAIN`, `EWOULDBLOCK` and `EINTR`.  Here the kernel is an
oracle: `o i` is what the `i`-th call does (`Outcome`), and the bytes are those of the stream,
or of the buffer, counted from where the call started.  Both functions run `runLoop`, the
`while (bytes < (ssize_t)num_bytes)` they share, each with its own pass.

* `read_exact` — with finitely many transient errors `read_from_socket` returns within
  `N + n + 1` passes: `0` with the next `n` stream bytes in the buffer, `1` at EOF, `-1` on a
  hard error or a closed socket; `read_from_socket_close_on_error` then marks the socket closed;
* `writeToSocket_exact` — the same holds of `write_to_socket` when the calls that accept no
  byte are finitely many too;
* `zero_writes_spin` — they need not be: a kernel that accepts nothing and reports no error keeps
  `write_to_socket` calling `write` for ever, since its loop has no branch for a count of `0`;
* `failOnError_only_write_returns` — `read_from_socket_fail_on_error` returns to its caller only
  with the whole read done, while without a format `write_to_socket_fail_on_error` also returns
  after a failed write, with the socket closed and the caller's mutex unlocked;
* `readFromSocket_negative_count`, `writeToSocket_negative_count`, `failOnError_negative_count` —
  a `num_bytes` of `2^63` or more is a negative `ssize_t`, so each of them reports success at once,
  having moved nothing: the bound `n < 2^63` of the results above is a real precondition.

`accept_socket` and `peek_from_socket`, each one test of `errno` against `EAGAIN` and
`EWOULDBLOCK`, close the module.
-/

namespace ReactorC.Network

/-! ## The kernel's answers -/

/-- The `errno` values the loops test, and the rest. -/
inductive Errno
  | eagain
  | ewouldblock
  | eintr
  /-- Any other value, `EBADF` among them. -/
  | other
  deriving DecidableEq, Repr

/-- `errno == EAGAIN || errno == EWOULDBLOCK || errno == EINTR`. -/
def Errno.isTransient : Errno → Bool
  | .eagain | .ewouldblock | .eintr => true
  | .other => false

/-- What the kernel does with one `read()` or `write()` call. -/
inductive Outcome
  /-- It moves as many of its `k` ready bytes as the call asks for and returns their count,
  leaving `errno` at `e`; a count of `0` is EOF for `read`. -/
  | moved (k : Nat) (e : Errno)
  /-- It returns `-1` and sets `errno` to `e`. -/
  | failed (e : Errno)
  deriving DecidableEq, Repr

/-- What the call returns when it asks for `count` bytes: never more than `count`. -/
def Outcome.ret (count : Nat) : Outcome → Int
  | .moved k _ => (min k count : Nat)
  | .failed _ => -1

/-- `errno` after the call. -/
def Outcome.errno : Outcome → Errno
  | .moved _ e | .failed e => e

/-- A failure that both loops retry. -/
def Outcome.isTransient : Outcome → Bool
  | .failed e => e.isTransient
  | .moved .. => false

/-- A failure that neither loop retries. -/
def Outcome.isHard : Outcome → Bool
  | .failed e => !e.isTransient
  | .moved .. => false

/-- The call returns `0`: EOF for `read`, no byte taken for `write`. -/
def Outcome.returnsZero : Outcome → Bool
  | .moved 0 _ => true
  | _ => false

/-! ## The loop both functions run -/

/-- `(ssize_t)num_bytes`: a `size_t` of `2^63` or more is a negative `ssize_t`. -/
def toSsize (n : Nat) : Int := if n < 2 ^ 63 then n else n - 2 ^ 64

theorem lt_of_lt_toSsize {m n : Nat} (h : (m : Int) < toSsize n) : m < n := by
  unfold toSsize at h
  split at h <;> omega

theorem lt_toSsize_iff {m n : Nat} (hn : n < 2 ^ 63) : (m : Int) < toSsize n ↔ m < n := by
  rw [toSsize, if_pos hn]
  exact Int.ofNat_lt

/-- The `count` bytes of `bytes` from index `start` on: what a call moves to `buffer + start`, or
from it. -/
def chunk (bytes : Nat → UInt8) (start count : Nat) : List UInt8 :=
  (List.range' start count).map bytes

@[simp] theorem length_chunk (bytes : Nat → UInt8) (start count : Nat) :
    (chunk bytes start count).length = count := by
  simp [chunk]

theorem chunk_append (bytes : Nat → UInt8) (start a m : Nat) :
    chunk bytes start a ++ chunk bytes (start + a) m = chunk bytes start (a + m) := by
  have h := List.range'_append start a m 1
  rw [Nat.one_mul, Nat.add_comm m a] at h
  rw [chunk, chunk, chunk, ← List.map_append, h]

/-- Where a loop stands: the system calls made, and the bytes moved so far — `bytes_read` or
`bytes_written` is their number. -/
structure Progress where
  calls : Nat
  moved : List UInt8
  deriving DecidableEq, Repr

/-- The loop before its first pass. -/
def Progress.start : Progress := ⟨0, []⟩

/-- How one pass of a loop ends: `continue`, or `return r`. -/
inductive Pass
  | next (p : Progress)
  | ret (r : Int) (p : Progress)
  deriving DecidableEq, Repr

/-- `while (bytes < (ssize_t)num_bytes) { pass } return 0;`, for at most `fuel` passes; `none`
when they run out. -/
def runLoop (numBytes : Nat) (pass : Progress → Pass) : Nat → Progress → Option (Int × Progress)
  | 0, _ => none
  | fuel + 1, p =>
    if (p.moved.length : Int) < toSsize numBytes then
      match pass p with
      | .next q => runLoop numBytes pass fuel q
      | .ret r q => some (r, q)
    else some (0, p)

section Loop

variable {numBytes : Nat} {pass : Progress → Pass}

/-- **What a loop can return**: `0` once the test fails, or what a pass returns, for a predicate
that each `continue` keeps. -/
theorem runLoop_some (Inv : Progress → Prop)
    (hnext : ∀ p q, Inv p → (p.moved.length : Int) < toSsize numBytes → pass p = .next q → Inv q)
    {fuel : Nat} {p q : Progress} {r : Int} (hp : Inv p)
    (h : runLoop numBytes pass fuel p = some (r, q)) :
    r = 0 ∧ ¬ (q.moved.length : Int) < toSsize numBytes ∧ Inv q ∨
      ∃ p', Inv p' ∧ (p'.moved.length : Int) < toSsize numBytes ∧ pass p' = .ret r q := by
  induction fuel generalizing p with
  | zero => simp [runLoop] at h
  | succ fuel ih =>
    rw [runLoop] at h
    split_ifs at h with hc
    · split at h
      · exact ih (hnext _ _ hp hc ‹_›) h
      · cases h
        exact .inr ⟨p, hp, hc, ‹_›⟩
    · cases h
      exact .inl ⟨rfl, hc, hp⟩

/-- **Enough fuel.**  If a pass that moves no byte can only be among the first `N` calls, the loop
returns within `N + n + 1` passes of its start. -/
theorem runLoop_isSome (N : Nat)
    (hpass : ∀ p q, (p.moved.length : Int) < toSsize numBytes → pass p = .next q →
      q.calls = p.calls + 1 ∧ q.moved.length ≤ numBytes ∧
        (p.moved.length < q.moved.length ∨ p.moved.length = q.moved.length ∧ p.calls < N)) :
    ∀ fuel p, N - p.calls + (numBytes - p.moved.length) < fuel →
      (runLoop numBytes pass fuel p).isSome
  | 0, _, h => absurd h (Nat.not_lt_zero _)
  | fuel + 1, p, h => by
    rw [runLoop]
    split_ifs with hc
    · split
      · rename_i q hq
        have hlt := lt_of_lt_toSsize hc
        obtain ⟨hcalls, hle, hmove⟩ := hpass p q hc hq
        exact runLoop_isSome N hpass fuel q (by omega)
      · rfl
    · rfl

/-- More fuel changes nothing once the loop has returned. -/
theorem runLoop_add {fuel : Nat} {p : Progress} {x : Int × Progress}
    (h : runLoop numBytes pass fuel p = some x) (k : Nat) :
    runLoop numBytes pass (fuel + k) p = some x := by
  induction fuel generalizing p with
  | zero => simp [runLoop] at h
  | succ fuel ih =>
    rw [Nat.add_right_comm, runLoop]
    rw [runLoop] at h
    split_ifs at h ⊢
    · split at h
      · exact ih h
      · exact h
    · exact h

/-- The result at any fuel past one that suffices. -/
theorem runLoop_of_le {fuel fuel' : Nat} {p : Progress} {x : Int × Progress}
    (h : runLoop numBytes pass fuel p = some x) (hle : fuel ≤ fuel') :
    runLoop numBytes pass fuel' p = some x := by
  obtain ⟨k, rfl⟩ := Nat.exists_eq_add_of_le hle
  exact runLoop_add h k

/-- **A loop that never returns**: if from some state every pass continues, to a state of the same
kind, with the test still true, no fuel is enough. -/
theorem runLoop_eq_none (Inv : Progress → Prop)
    (hspin : ∀ p, Inv p → (p.moved.length : Int) < toSsize numBytes ∧ ∃ q, pass p = .next q ∧ Inv q) :
    ∀ fuel p, Inv p → runLoop numBytes pass fuel p = none
  | 0, _, _ => rfl
  | fuel + 1, p, hp => by
    obtain ⟨hc, q, hq, hq'⟩ := hspin p hp
    rw [runLoop, if_pos hc, hq]
    exact runLoop_eq_none Inv hspin fuel q hq'

/-- **A loop with enough fuel has one result**: under the hypotheses of `runLoop_some` and
`runLoop_isSome`, from its start the loop returns the same `(r, p)` at every fuel from
`N + n + 1` on — `0` once all `n` bytes moved, or what a pass returns. -/
theorem runLoop_exact (Inv : Progress → Prop)
    (hnext : ∀ p q, Inv p → (p.moved.length : Int) < toSsize numBytes → pass p = .next q → Inv q)
    (N : Nat)
    (hpass : ∀ p q, (p.moved.length : Int) < toSsize numBytes → pass p = .next q →
      q.calls = p.calls + 1 ∧ q.moved.length ≤ numBytes ∧
        (p.moved.length < q.moved.length ∨ p.moved.length = q.moved.length ∧ p.calls < N))
    (hn : numBytes < 2 ^ 63) (hstart : Inv .start) :
    ∃ r p, (∀ fuel, N + numBytes + 1 ≤ fuel → runLoop numBytes pass fuel .start = some (r, p)) ∧
      (r = 0 ∧ numBytes ≤ p.moved.length ∧ Inv p ∨
        ∃ p', Inv p' ∧ p'.moved.length < numBytes ∧ pass p' = .ret r p) := by
  have hsome : (runLoop numBytes pass (N + numBytes + 1) .start).isSome :=
    runLoop_isSome N hpass (N + numBytes + 1) .start (by simp [Progress.start])
  obtain ⟨⟨r, p⟩, hrun⟩ := Option.isSome_iff_exists.mp hsome
  refine ⟨r, p, fun fuel hle => runLoop_of_le hrun hle, ?_⟩
  rcases runLoop_some Inv hnext hstart hrun with ⟨rfl, hc, hinv⟩ | ⟨p', hinv, hc, hret⟩
  · rw [lt_toSsize_iff hn] at hc
    exact .inl ⟨rfl, Nat.le_of_not_lt hc, hinv⟩
  · exact .inr ⟨p', hinv, lt_of_lt_toSsize hc, hret⟩

/-- **A count of `2^63` or more ends the loop at once**: `(ssize_t)num_bytes` is negative, so
the test `bytes < (ssize_t)num_bytes` fails before any pass, and the loop returns `0`. -/
theorem runLoop_negative_count (h₁ : 2 ^ 63 ≤ numBytes) (h₂ : numBytes < 2 ^ 64) (fuel : Nat) :
    runLoop numBytes pass (fuel + 1) .start = some (0, .start) := by
  have hneg : toSsize numBytes < 0 := by rw [toSsize, if_neg (by omega)]; omega
  rw [runLoop, if_neg (by simp only [Progress.start, List.length_nil]; omega)]

end Loop

/-! ## `read_from_socket` -/

/-- One pass of the loop of `read_from_socket(socket, num_bytes, buffer)`: `read` asks for the
`num_bytes - bytes_read` bytes still missing, `o` answers, and `stream` holds the bytes the socket
delivers, in order. -/
def readPass (o : Nat → Outcome) (stream : Nat → UInt8) (numBytes : Nat) (p : Progress) : Pass :=
  let more := (o p.calls).ret (numBytes - p.moved.length)
  if more < 0 ∧ (o p.calls).errno.isTransient then .next ⟨p.calls + 1, p.moved⟩
  else if more < 0 then .ret (-1) ⟨p.calls + 1, p.moved⟩
  else if more = 0 then .ret 1 ⟨p.calls + 1, p.moved⟩
  else .next ⟨p.calls + 1, p.moved ++ chunk stream p.moved.length more.toNat⟩

/-- `read_from_socket(socket, num_bytes, buffer)`: `-1` without a call on a closed socket, else the
loop from nothing read.  With the result come the calls made and the bytes put in `buffer`. -/
def readFromSocket (o : Nat → Outcome) (stream : Nat → UInt8) (socket : Int) (numBytes fuel : Nat) :
    Option (Int × Progress) :=
  if socket < 0 then some (-1, .start)
  else runLoop numBytes (readPass o stream numBytes) fuel .start

/-- `read_from_socket_close_on_error(&socket, num_bytes, buffer)`: its result and `socket` after
it — shut down, closed and set to `-1` once the read failed. -/
def readFromSocketCloseOnError (o : Nat → Outcome) (stream : Nat → UInt8) (socket : Int)
    (numBytes fuel : Nat) : Option (Int × Int × Progress) :=
  (readFromSocket o stream socket numBytes fuel).map fun (r, p) =>
    if r ≠ 0 then (-1, -1, p) else (0, socket, p)

section Read

variable {o : Nat → Outcome} {stream : Nat → UInt8} {numBytes : Nat} {p q : Progress}

theorem readPass_failed {e : Errno} (h : o p.calls = .failed e) :
    readPass o stream numBytes p =
      if e.isTransient then .next ⟨p.calls + 1, p.moved⟩ else .ret (-1) ⟨p.calls + 1, p.moved⟩ := by
  simp [readPass, h, Outcome.ret, Outcome.errno]

theorem readPass_moved {k : Nat} {e : Errno} (h : o p.calls = .moved k e)
    (hlt : p.moved.length < numBytes) :
    readPass o stream numBytes p =
      if k = 0 then .ret 1 ⟨p.calls + 1, p.moved⟩
      else .next ⟨p.calls + 1,
        p.moved ++ chunk stream p.moved.length (min k (numBytes - p.moved.length))⟩ := by
  have hneg : ¬ ((min k (numBytes - p.moved.length) : Nat) : Int) < 0 := by omega
  have hzero : ((min k (numBytes - p.moved.length) : Nat) : Int) = 0 ↔ k = 0 := by omega
  simp only [readPass, h, Outcome.ret, Outcome.errno, hneg, false_and, if_false, hzero,
    Int.toNat_natCast]

/-- **What a pass of `read_from_socket` can continue with**: a retry after a transient error, or
between `1` and the missing count of the stream's next bytes. -/
theorem readPass_next (hlt : p.moved.length < numBytes)
    (h : readPass o stream numBytes p = .next q) :
    q.calls = p.calls + 1 ∧ ((o p.calls).isTransient ∧ q.moved = p.moved ∨
      ∃ m, 0 < m ∧ m ≤ numBytes - p.moved.length ∧
        q.moved = p.moved ++ chunk stream p.moved.length m) := by
  cases ho : o p.calls with
  | failed e =>
    rw [readPass_failed ho] at h
    split_ifs at h with he
    cases h
    exact ⟨rfl, .inl ⟨he, rfl⟩⟩
  | moved k e =>
    rw [readPass_moved ho hlt] at h
    split_ifs at h with hk
    cases h
    exact ⟨rfl, .inr ⟨min k (numBytes - p.moved.length), by omega, by omega, rfl⟩⟩

/-- **How a pass of `read_from_socket` returns**: `1` on EOF, `-1` on a hard error. -/
theorem readPass_ret {r : Int} (hlt : p.moved.length < numBytes)
    (h : readPass o stream numBytes p = .ret r q) :
    q = ⟨p.calls + 1, p.moved⟩ ∧
      (r = 1 ∧ (o p.calls).returnsZero ∨ r = -1 ∧ (o p.calls).isHard) := by
  cases ho : o p.calls with
  | failed e =>
    rw [readPass_failed ho] at h
    split_ifs at h with he
    cases h
    exact ⟨rfl, .inr ⟨rfl, by simpa [Outcome.isHard] using he⟩⟩
  | moved k e =>
    rw [readPass_moved ho hlt] at h
    split_ifs at h with hk
    cases h
    exact ⟨rfl, .inl ⟨rfl, by simp [Outcome.returnsZero, hk]⟩⟩

/-- The buffer of `read_from_socket` holds the stream's first bytes, never more than `n`. -/
def ReadInv (stream : Nat → UInt8) (numBytes : Nat) (p : Progress) : Prop :=
  p.moved = chunk stream 0 p.moved.length ∧ p.moved.length ≤ numBytes

theorem readInv_next (hp : ReadInv stream numBytes p)
    (hc : (p.moved.length : Int) < toSsize numBytes) (h : readPass o stream numBytes p = .next q) :
    ReadInv stream numBytes q := by
  obtain ⟨-, ⟨-, hq⟩ | ⟨m, hm₀, hm, hq⟩⟩ := readPass_next (lt_of_lt_toSsize hc) h
  · rw [ReadInv, hq]
    exact hp
  · refine ⟨?_, by simp only [hq, List.length_append, length_chunk]; omega⟩
    have happ := chunk_append stream 0 p.moved.length m
    rw [Nat.zero_add] at happ
    rw [hq, List.length_append, length_chunk, ← happ, ← hp.1]

/-- **`read_from_socket` is exact.**  Whatever the kernel answers, provided the transient errors
are among its first `N` answers: `read_from_socket(socket, n, buffer)` returns within
`N + n + 1` passes, with the same result for any more fuel.  The buffer holds the stream's first
bytes and never more than `n` — each `read` asks for the missing count only.  The result is `0`
when all `n` have arrived, `1` when the last call returned EOF first, and `-1` on a closed socket,
with no call made, or when the last call failed for good; and
`read_from_socket_close_on_error` leaves the socket at `-1` whenever the result is not `0`.
A buffer of `n` bytes is a C object, so `n < 2^63`. -/
theorem read_exact (o : Nat → Outcome) (stream : Nat → UInt8) (socket : Int) {numBytes N : Nat}
    (hn : numBytes < 2 ^ 63) (hN : ∀ i, N ≤ i → (o i).isTransient = false) :
    ∃ r p, (∀ fuel, N + numBytes + 1 ≤ fuel →
        readFromSocket o stream socket numBytes fuel = some (r, p)) ∧
      p.moved = chunk stream 0 p.moved.length ∧ p.moved.length ≤ numBytes ∧
      (r = 0 ∧ p.moved.length = numBytes ∨
        r = 1 ∧ p.moved.length < numBytes ∧ (∃ c, p.calls = c + 1 ∧ (o c).returnsZero) ∨
        r = -1 ∧ (socket < 0 ∧ p.calls = 0 ∨
          p.moved.length < numBytes ∧ ∃ c, p.calls = c + 1 ∧ (o c).isHard)) ∧
      readFromSocketCloseOnError o stream socket numBytes (N + numBytes + 1) =
        some (if r = 0 then (0, socket, p) else (-1, -1, p)) := by
  have hclose : ∀ r p, readFromSocket o stream socket numBytes (N + numBytes + 1) = some (r, p) →
      readFromSocketCloseOnError o stream socket numBytes (N + numBytes + 1) =
        some (if r = 0 then (0, socket, p) else (-1, -1, p)) := by
    intro r p h
    rw [readFromSocketCloseOnError, h]
    by_cases hr : r = 0 <;> simp [hr]
  by_cases hs : socket < 0
  · refine ⟨-1, .start, fun fuel _ => by rw [readFromSocket, if_pos hs], rfl, by simp [Progress.start],
      .inr (.inr ⟨rfl, .inl ⟨hs, rfl⟩⟩), ?_⟩
    exact hclose _ _ (by rw [readFromSocket, if_pos hs])
  obtain ⟨r, p, hrun, hres⟩ := @runLoop_exact numBytes (readPass o stream numBytes)
    (ReadInv stream numBytes) (fun _ _ hp hc h => readInv_next hp hc h) N (fun p q hc h => by
      have hlt := lt_of_lt_toSsize hc
      obtain ⟨hcalls, ⟨htr, hq⟩ | ⟨m, hm, hm', hq⟩⟩ := readPass_next hlt h
      · refine ⟨hcalls, by rw [hq]; omega, .inr ⟨by rw [hq], ?_⟩⟩
        by_contra hge
        simp [hN _ (Nat.le_of_not_lt hge)] at htr
      · exact ⟨hcalls, by simp [hq]; omega, .inl (by simp [hq]; omega)⟩)
    hn ⟨rfl, Nat.zero_le _⟩
  have hread : ∀ fuel, N + numBytes + 1 ≤ fuel →
      readFromSocket o stream socket numBytes fuel = some (r, p) := fun fuel hle => by
    rw [readFromSocket, if_neg hs, hrun fuel hle]
  refine ⟨r, p, hread, ?_⟩
  rcases hres with ⟨rfl, hge, hinv⟩ | ⟨p', hinv, hlt, hret⟩
  · exact ⟨hinv.1, hinv.2, .inl ⟨rfl, by have := hinv.2; omega⟩, hclose _ _ (hread _ le_rfl)⟩
  · obtain ⟨rfl, h1 | h2⟩ := readPass_ret hlt hret
    · exact ⟨hinv.1, hinv.2, .inr (.inl ⟨h1.1, hlt, p'.calls, rfl, h1.2⟩),
        hclose _ _ (hread _ le_rfl)⟩
    · exact ⟨hinv.1, hinv.2, .inr (.inr ⟨h2.1, .inr ⟨hlt, p'.calls, rfl, h2.2⟩⟩),
        hclose _ _ (hread _ le_rfl)⟩

/-- The witness: four bytes asked for, an `EINTR` first, then a kernel with five bytes ready. -/
theorem read_exact_eintr :
    (4 : Nat) < 2 ^ 63 ∧
      (∀ i, 1 ≤ i → (if i = 0 then Outcome.failed .eintr else .moved 5 .other).isTransient = false) ∧
      ∃ r p, (∀ fuel, 1 + 4 + 1 ≤ fuel → readFromSocket
          (fun i => if i = 0 then .failed .eintr else .moved 5 .other) (fun _ => 7) 3 4 fuel =
            some (r, p)) ∧
        p.moved = chunk (fun _ => 7) 0 p.moved.length ∧ p.moved.length ≤ 4 ∧
        (r = 0 ∧ p.moved.length = 4 ∨
          r = 1 ∧ p.moved.length < 4 ∧ (∃ c, p.calls = c + 1 ∧
            (if c = 0 then Outcome.failed .eintr else .moved 5 .other).returnsZero) ∨
          r = -1 ∧ ((3 : Int) < 0 ∧ p.calls = 0 ∨ p.moved.length < 4 ∧ ∃ c, p.calls = c + 1 ∧
            (if c = 0 then Outcome.failed .eintr else .moved 5 .other).isHard)) ∧
        readFromSocketCloseOnError (fun i => if i = 0 then .failed .eintr else .moved 5 .other)
            (fun _ => 7) 3 4 (1 + 4 + 1) =
          some (if r = 0 then (0, 3, p) else (-1, -1, p)) :=
  have hN : ∀ i, 1 ≤ i →
      (if i = 0 then Outcome.failed .eintr else .moved 5 .other).isTransient = false :=
    fun i hi => by simp [show i ≠ 0 by omega, Outcome.isTransient]
  ⟨by norm_num, hN, read_exact _ (fun _ => 7) 3 (by norm_num) hN⟩

/-- **`read_from_socket` of `2^63` bytes or more reads nothing**: on an open socket it returns
`0`, the result of a whole read, having made no call and put no byte in the buffer — so
`read_exact` holds only for `n < 2^63`. -/
theorem readFromSocket_negative_count (o : Nat → Outcome) (stream : Nat → UInt8) {socket : Int}
    (hs : 0 ≤ socket) {numBytes : Nat} (h₁ : 2 ^ 63 ≤ numBytes) (h₂ : numBytes < 2 ^ 64)
    (fuel : Nat) : readFromSocket o stream socket numBytes (fuel + 1) = some (0, .start) := by
  rw [readFromSocket, if_neg (by omega), runLoop_negative_count h₁ h₂]

end Read

/-! ## `write_to_socket` -/

/-- One pass of the loop of `write_to_socket(socket, num_bytes, buffer)`: `write` offers the
`num_bytes - bytes_written` bytes still unsent from `buffer`.  Unlike the read loop it has no
branch for a count of `0`, which adds nothing and goes round again. -/
def writePass (o : Nat → Outcome) (buffer : Nat → UInt8) (numBytes : Nat) (p : Progress) : Pass :=
  let more := (o p.calls).ret (numBytes - p.moved.length)
  if more ≤ 0 ∧ (o p.calls).errno.isTransient then .next ⟨p.calls + 1, p.moved⟩
  else if more < 0 then .ret (-1) ⟨p.calls + 1, p.moved⟩
  else .next ⟨p.calls + 1, p.moved ++ chunk buffer p.moved.length more.toNat⟩

/-- `write_to_socket(socket, num_bytes, buffer)`: `-1` without a call on a closed socket, else the
loop from nothing written.  With the result come the calls made and the bytes the kernel took. -/
def writeToSocket (o : Nat → Outcome) (buffer : Nat → UInt8) (socket : Int) (numBytes fuel : Nat) :
    Option (Int × Progress) :=
  if socket < 0 then some (-1, .start)
  else runLoop numBytes (writePass o buffer numBytes) fuel .start

/-- `write_to_socket_close_on_error(&socket, num_bytes, buffer)`: the result of the write and
`socket` after it — shut down, closed and set to `-1` once the write failed. -/
def writeToSocketCloseOnError (o : Nat → Outcome) (buffer : Nat → UInt8) (socket : Int)
    (numBytes fuel : Nat) : Option (Int × Int × Progress) :=
  (writeToSocket o buffer socket numBytes fuel).map fun (r, p) =>
    if r ≠ 0 then (r, -1, p) else (r, socket, p)

section Write

variable {o : Nat → Outcome} {buffer : Nat → UInt8} {numBytes : Nat} {p q : Progress}

theorem writePass_failed {e : Errno} (h : o p.calls = .failed e) :
    writePass o buffer numBytes p =
      if e.isTransient then .next ⟨p.calls + 1, p.moved⟩ else .ret (-1) ⟨p.calls + 1, p.moved⟩ := by
  simp [writePass, h, Outcome.ret, Outcome.errno]

/-- A call that moves bytes — none among them — always continues the loop. -/
theorem writePass_moved {k : Nat} {e : Errno} (h : o p.calls = .moved k e) :
    writePass o buffer numBytes p =
      .next ⟨p.calls + 1,
        p.moved ++ chunk buffer p.moved.length (min k (numBytes - p.moved.length))⟩ := by
  have hneg : ¬ ((min k (numBytes - p.moved.length) : Nat) : Int) < 0 := by omega
  simp only [writePass, h, Outcome.ret, Outcome.errno, hneg, if_false, Int.toNat_natCast]
  split_ifs with h0
  · rw [show min k (numBytes - p.moved.length) = 0 by omega]
    simp [chunk]
  · rfl

/-- **What a pass of `write_to_socket` can continue with**: a retry after a transient error, or
the next bytes of `buffer`, as many as the call took — possibly none. -/
theorem writePass_next (h : writePass o buffer numBytes p = .next q) :
    q.calls = p.calls + 1 ∧ ((o p.calls).isTransient ∧ q.moved = p.moved ∨
      ∃ k e, o p.calls = .moved k e ∧
        q.moved = p.moved ++ chunk buffer p.moved.length (min k (numBytes - p.moved.length))) := by
  cases ho : o p.calls with
  | failed e =>
    rw [writePass_failed ho] at h
    split_ifs at h with he
    cases h
    exact ⟨rfl, .inl ⟨he, rfl⟩⟩
  | moved k e =>
    rw [writePass_moved ho] at h
    cases h
    exact ⟨rfl, .inr ⟨k, e, rfl, rfl⟩⟩

/-- **How a pass of `write_to_socket` returns**: only with `-1`, on a hard error. -/
theorem writePass_ret {r : Int} (h : writePass o buffer numBytes p = .ret r q) :
    r = -1 ∧ q = ⟨p.calls + 1, p.moved⟩ ∧ (o p.calls).isHard := by
  cases ho : o p.calls with
  | failed e =>
    rw [writePass_failed ho] at h
    split_ifs at h with he
    cases h
    exact ⟨rfl, rfl, by simpa [Outcome.isHard] using he⟩
  | moved k e =>
    rw [writePass_moved ho] at h
    cases h

/-- What `write_to_socket` has handed to the kernel is the front of `buffer`, never more than
`n` bytes. -/
def WriteInv (buffer : Nat → UInt8) (numBytes : Nat) (p : Progress) : Prop :=
  p.moved = chunk buffer 0 p.moved.length ∧ p.moved.length ≤ numBytes

theorem writeInv_next (hp : WriteInv buffer numBytes p)
    (hc : (p.moved.length : Int) < toSsize numBytes) (h : writePass o buffer numBytes p = .next q) :
    WriteInv buffer numBytes q := by
  have hlt := lt_of_lt_toSsize hc
  obtain ⟨-, ⟨-, hq⟩ | ⟨k, e, -, hq⟩⟩ := writePass_next h
  · rw [WriteInv, hq]
    exact hp
  · refine ⟨?_, by simp only [hq, List.length_append, length_chunk]; omega⟩
    have happ := chunk_append buffer 0 p.moved.length (min k (numBytes - p.moved.length))
    rw [Nat.zero_add] at happ
    rw [hq, List.length_append, length_chunk, ← happ, ← hp.1]

/-- **`write_to_socket` is exact when the kernel stalls finitely often**: if the transient errors
and the calls that take no byte are all among the first `N`, it returns within `N + n + 1`
passes — `0` once the kernel took the `n` bytes of `buffer`, in order, and `-1` on a closed socket
or a hard error, after which `write_to_socket_close_on_error` leaves the socket at `-1`. -/
theorem writeToSocket_exact (o : Nat → Outcome) (buffer : Nat → UInt8) (socket : Int)
    {numBytes N : Nat} (hn : numBytes < 2 ^ 63)
    (hN : ∀ i, N ≤ i → (o i).isTransient = false ∧ (o i).returnsZero = false) :
    ∃ r p, (∀ fuel, N + numBytes + 1 ≤ fuel →
        writeToSocket o buffer socket numBytes fuel = some (r, p)) ∧
      p.moved = chunk buffer 0 p.moved.length ∧
      (r = 0 ∧ p.moved.length = numBytes ∨
        r = -1 ∧ (socket < 0 ∧ p.calls = 0 ∨
          p.moved.length < numBytes ∧ ∃ c, p.calls = c + 1 ∧ (o c).isHard)) ∧
      writeToSocketCloseOnError o buffer socket numBytes (N + numBytes + 1) =
        some (r, if r = 0 then socket else -1, p) := by
  have hclose : ∀ r p, writeToSocket o buffer socket numBytes (N + numBytes + 1) = some (r, p) →
      writeToSocketCloseOnError o buffer socket numBytes (N + numBytes + 1) =
        some (r, if r = 0 then socket else -1, p) := by
    intro r p h
    rw [writeToSocketCloseOnError, h]
    by_cases hr : r = 0 <;> simp [hr]
  by_cases hs : socket < 0
  · exact ⟨-1, .start, fun fuel _ => by rw [writeToSocket, if_pos hs], rfl,
      .inr ⟨rfl, .inl ⟨hs, rfl⟩⟩, hclose _ _ (by rw [writeToSocket, if_pos hs])⟩
  obtain ⟨r, p, hrun, hres⟩ := @runLoop_exact numBytes (writePass o buffer numBytes)
    (WriteInv buffer numBytes) (fun _ _ hp hc h => writeInv_next hp hc h) N (fun p q hc h => by
      have hlt := lt_of_lt_toSsize hc
      obtain ⟨hcalls, ⟨htr, hq⟩ | ⟨k, e, ho, hq⟩⟩ := writePass_next h
      · refine ⟨hcalls, by rw [hq]; omega, .inr ⟨by rw [hq], ?_⟩⟩
        by_contra hge
        simp [(hN _ (Nat.le_of_not_lt hge)).1] at htr
      · refine ⟨hcalls, by simp only [hq, List.length_append, length_chunk]; omega, ?_⟩
        by_cases hk : k = 0
        · refine .inr ⟨by simp [hq, hk, chunk], ?_⟩
          by_contra hge
          have hz := (hN _ (Nat.le_of_not_lt hge)).2
          simp [ho, hk, Outcome.returnsZero] at hz
        · exact .inl (by simp only [hq, List.length_append, length_chunk]; omega))
    hn ⟨rfl, Nat.zero_le _⟩
  have hwrite : ∀ fuel, N + numBytes + 1 ≤ fuel →
      writeToSocket o buffer socket numBytes fuel = some (r, p) := fun fuel hle => by
    rw [writeToSocket, if_neg hs, hrun fuel hle]
  refine ⟨r, p, hwrite, ?_⟩
  rcases hres with ⟨rfl, hge, hinv⟩ | ⟨p', hinv, hlt, hret⟩
  · exact ⟨hinv.1, .inl ⟨rfl, by have := hinv.2; omega⟩, hclose _ _ (hwrite _ le_rfl)⟩
  · obtain ⟨rfl, rfl, hhard⟩ := writePass_ret hret
    exact ⟨hinv.1, .inr ⟨rfl, .inr ⟨hlt, p'.calls, rfl, hhard⟩⟩, hclose _ _ (hwrite _ le_rfl)⟩

/-- The witness: four bytes to write, and a kernel that takes five at every call. -/
theorem writeToSocket_exact_five :
    (4 : Nat) < 2 ^ 63 ∧
      (∀ i, 0 ≤ i → (Outcome.moved 5 .other).isTransient = false ∧
        (Outcome.moved 5 .other).returnsZero = false) ∧
      ∃ r p, (∀ fuel, 0 + 4 + 1 ≤ fuel →
          writeToSocket (fun _ => .moved 5 .other) (fun _ => 7) 3 4 fuel = some (r, p)) ∧
        p.moved = chunk (fun _ => 7) 0 p.moved.length ∧
        (r = 0 ∧ p.moved.length = 4 ∨
          r = -1 ∧ ((3 : Int) < 0 ∧ p.calls = 0 ∨
            p.moved.length < 4 ∧ ∃ c, p.calls = c + 1 ∧ (Outcome.moved 5 .other).isHard)) ∧
        writeToSocketCloseOnError (fun _ => .moved 5 .other) (fun _ => 7) 3 4 (0 + 4 + 1) =
          some (r, if r = 0 then 3 else -1, p) :=
  have hN : ∀ i, 0 ≤ i → (Outcome.moved 5 .other).isTransient = false ∧
      (Outcome.moved 5 .other).returnsZero = false := fun _ _ => ⟨rfl, rfl⟩
  ⟨by norm_num, hN, writeToSocket_exact _ (fun _ => 7) 3 (by norm_num : (4 : Nat) < 2 ^ 63) hN⟩

/-- **`write_to_socket` of `2^63` bytes or more writes nothing**: on an open socket it returns
`0`, the result of a whole write, having made no call — so `writeToSocket_exact` holds only for
`n < 2^63`. -/
theorem writeToSocket_negative_count (o : Nat → Outcome) (buffer : Nat → UInt8) {socket : Int}
    (hs : 0 ≤ socket) (h₁ : 2 ^ 63 ≤ numBytes) (h₂ : numBytes < 2 ^ 64) (fuel : Nat) :
    writeToSocket o buffer socket numBytes (fuel + 1) = some (0, .start) := by
  rw [writeToSocket, if_neg (by omega), runLoop_negative_count h₁ h₂]

/-- **Zero-byte writes spin.**  A kernel whose `write` takes no byte and returns `0`, whatever it
leaves in `errno`, makes no transient error; yet `write_to_socket` of a positive count on an open
socket never returns, with any fuel — neither `-1` nor anything else — and so neither does
`write_to_socket_close_on_error`. -/
theorem zero_writes_spin (buffer : Nat → UInt8) {o : Nat → Outcome} {socket : Int}
    {numBytes : Nat} (hzero : ∀ i, ∃ e, o i = .moved 0 e) (hs : 0 ≤ socket) (hpos : 0 < numBytes)
    (hn : numBytes < 2 ^ 63) :
    (∀ i, (o i).isTransient = false) ∧ ∀ fuel,
      writeToSocket o buffer socket numBytes fuel = none ∧
        writeToSocketCloseOnError o buffer socket numBytes fuel = none := by
  refine ⟨fun i => by obtain ⟨e, he⟩ := hzero i; rw [he]; rfl, fun fuel => ?_⟩
  have hloop : runLoop numBytes (writePass o buffer numBytes) fuel .start = none :=
    runLoop_eq_none (fun p => p.moved = []) (fun p hp => by
      obtain ⟨e, he⟩ := hzero p.calls
      refine ⟨by rw [hp, lt_toSsize_iff hn]; exact hpos, _, writePass_moved he, ?_⟩
      simp [hp, chunk]) fuel .start rfl
  have hw : writeToSocket o buffer socket numBytes fuel = none := by
    rw [writeToSocket, if_neg (by omega), hloop]
  exact ⟨hw, by rw [writeToSocketCloseOnError, hw]; rfl⟩

/-- The witness: one byte to write, and a kernel that takes none, with `errno` left at some
other value. -/
theorem zero_writes_spin_sample :
    (∀ _ : Nat, ∃ e, Outcome.moved 0 .other = Outcome.moved 0 e) ∧ (0 : Int) ≤ 3 ∧ 0 < 1 ∧
      1 < 2 ^ 63 ∧ (∀ _ : Nat, (Outcome.moved 0 .other).isTransient = false) ∧ ∀ fuel,
        writeToSocket (fun _ => .moved 0 .other) (fun _ => 0) 3 1 fuel = none ∧
          writeToSocketCloseOnError (fun _ => .moved 0 .other) (fun _ => 0) 3 1 fuel = none :=
  ⟨fun _ => ⟨.other, rfl⟩, by decide, by decide, by norm_num,
    zero_writes_spin (fun _ => 0) (fun _ => ⟨.other, rfl⟩) (by decide) (by decide) (by norm_num)⟩

end Write

/-! ## `read_from_socket_fail_on_error` and `write_to_socket_fail_on_error`

Both run their close-on-error function and, once it fails, unlock the caller's `mutex` if one was
given and report the failure with the caller's `format`.  Without a format they differ: the read
stops the process with `lf_print_error_system_failure`, the write prints with `lf_print_error`
and returns to its caller. -/

/-- How a failure is reported: `lf_print_error_system_failure`, which is not under `src/` and is
modelled from the spec as an exit with code `1`, or `lf_print_error`, which prints and returns. -/
inductive Report
  | fatal (halt : Halt)
  | printed (msg : String)
  deriving DecidableEq, Repr

/-- What a `*_fail_on_error` call leaves: `*socket`, the bytes it moved, whether it called
`LF_MUTEX_UNLOCK(mutex)`, and its report — `none` after a transfer that succeeded. -/
structure FailOnError where
  socket : Int
  progress : Progress
  unlocked : Bool
  report : Option Report
  deriving DecidableEq, Repr

/-- `lf_print_error_system_failure(format, args)` with the caller's format, or `onNullFormat`
without one; the arguments of the format are not modelled. -/
def failureReport (onNullFormat : Report) : Option String → Report
  | some format => .fatal (.exit 1 format)
  | none => onNullFormat

/-- The body the two functions share, given the result of their close-on-error call: `mutex`
says the caller passed one, `format` is the caller's format, and `onNullFormat` is what the
function reports without one. -/
def failOnError (onNullFormat : Report) (closeOnError : Option (Int × Int × Progress))
    (mutex : Bool) (format : Option String) : Option FailOnError :=
  closeOnError.map fun (r, socket, p) =>
    if r ≠ 0 then ⟨socket, p, mutex, some (failureReport onNullFormat format)⟩
    else ⟨socket, p, false, none⟩

/-- `read_from_socket_fail_on_error(&socket, num_bytes, buffer, mutex, format)`. -/
def readFromSocketFailOnError (o : Nat → Outcome) (stream : Nat → UInt8) (socket : Int)
    (numBytes : Nat) (mutex : Bool) (format : Option String) (fuel : Nat) : Option FailOnError :=
  failOnError (.fatal (.exit 1 "Failed to read from socket."))
    (readFromSocketCloseOnError o stream socket numBytes fuel) mutex format

/-- `write_to_socket_fail_on_error(&socket, num_bytes, buffer, mutex, format)`. -/
def writeToSocketFailOnError (o : Nat → Outcome) (buffer : Nat → UInt8) (socket : Int)
    (numBytes : Nat) (mutex : Bool) (format : Option String) (fuel : Nat) : Option FailOnError :=
  failOnError (.printed "Failed to write to socket. Closing it.")
    (writeToSocketCloseOnError o buffer socket numBytes fuel) mutex format

section FailOnError

variable {o : Nat → Outcome} {stream buffer : Nat → UInt8} {socket : Int} {numBytes : Nat}
  {fuel : Nat} {r : Int} {p : Progress}

/-- What the read wrapper does, in terms of the result `(r, p)` of `read_from_socket`. -/
theorem readFromSocketFailOnError_eq (mutex : Bool) (format : Option String) :
    readFromSocketFailOnError o stream socket numBytes mutex format fuel =
      (readFromSocket o stream socket numBytes fuel).map fun (r, p) =>
        if r ≠ 0 then
          ⟨-1, p, mutex, some (failureReport (.fatal (.exit 1 "Failed to read from socket.")) format)⟩
        else ⟨socket, p, false, none⟩ := by
  rw [readFromSocketFailOnError, failOnError, readFromSocketCloseOnError, Option.map_map]
  congr 1
  funext ⟨r, p⟩
  by_cases hr : r = 0 <;> simp [hr]

/-- What the write wrapper does, in terms of the result `(r, p)` of `write_to_socket`. -/
theorem writeToSocketFailOnError_eq (mutex : Bool) (format : Option String) :
    writeToSocketFailOnError o buffer socket numBytes mutex format fuel =
      (writeToSocket o buffer socket numBytes fuel).map fun (r, p) =>
        if r ≠ 0 then ⟨-1, p, mutex,
          some (failureReport (.printed "Failed to write to socket. Closing it.") format)⟩
        else ⟨socket, p, false, none⟩ := by
  rw [writeToSocketFailOnError, failOnError, writeToSocketCloseOnError, Option.map_map]
  congr 1
  funext ⟨r, p⟩
  by_cases hr : r = 0 <;> simp [hr]

/-- Whatever `read_from_socket` returns, its buffer holds the stream's first bytes, all `n` of
them when it returns `0`. -/
theorem readFromSocket_some (hn : numBytes < 2 ^ 63)
    (h : readFromSocket o stream socket numBytes fuel = some (r, p)) :
    ReadInv stream numBytes p ∧ (r = 0 → p.moved.length = numBytes) := by
  rw [readFromSocket] at h
  split_ifs at h
  · cases h
    exact ⟨⟨rfl, Nat.zero_le _⟩, by rintro ⟨⟩⟩
  rcases runLoop_some (ReadInv stream numBytes) (fun _ _ hp hc h => readInv_next hp hc h)
    ⟨rfl, Nat.zero_le _⟩ h with ⟨-, hc, hinv⟩ | ⟨p', hinv, hc, hret⟩
  · rw [lt_toSsize_iff hn] at hc
    exact ⟨hinv, fun _ => by have := hinv.2; omega⟩
  · obtain ⟨rfl, hr⟩ := readPass_ret (lt_of_lt_toSsize hc) hret
    exact ⟨hinv, fun h0 => by rcases hr with h | h <;> omega⟩

/-- Whatever `write_to_socket` returns, the kernel has taken the front of `buffer`, all `n`
bytes when it returns `0`. -/
theorem writeToSocket_some (hn : numBytes < 2 ^ 63)
    (h : writeToSocket o buffer socket numBytes fuel = some (r, p)) :
    WriteInv buffer numBytes p ∧ (r = 0 → p.moved.length = numBytes) := by
  rw [writeToSocket] at h
  split_ifs at h
  · cases h
    exact ⟨⟨rfl, Nat.zero_le _⟩, by rintro ⟨⟩⟩
  rcases runLoop_some (WriteInv buffer numBytes) (fun _ _ hp hc h => writeInv_next hp hc h)
    ⟨rfl, Nat.zero_le _⟩ h with ⟨-, hc, hinv⟩ | ⟨p', hinv, -, hret⟩
  · rw [lt_toSsize_iff hn] at hc
    exact ⟨hinv, fun _ => by have := hinv.2; omega⟩
  · obtain ⟨rfl, rfl, -⟩ := writePass_ret hret
    exact ⟨hinv, by rintro ⟨⟩⟩

/-- **Only the write returns after a failure.**  Whatever the kernel answers, a call of
`read_from_socket_fail_on_error` that returns to its caller has read all `n` bytes of the stream,
in order, and left the socket and the caller's mutex as they were; a failed read, with or without
a format, closes the socket, unlocks the mutex and stops the process.  Without a format,
`write_to_socket_fail_on_error` instead returns after a failed write too — the socket closed and
set to `-1`, the caller's mutex unlocked, and only the front of the buffer written. -/
theorem failOnError_only_write_returns (hn : numBytes < 2 ^ 63) (mutex : Bool) :
    (∀ format x, readFromSocketFailOnError o stream socket numBytes mutex format fuel = some x →
      x.report = none ∧ x.socket = socket ∧ x.unlocked = false ∧
          x.progress.moved = chunk stream 0 numBytes ∨
        x.socket = -1 ∧ x.unlocked = mutex ∧ ∃ halt, x.report = some (.fatal halt)) ∧
    ∀ x, writeToSocketFailOnError o buffer socket numBytes mutex none fuel = some x →
      x.report = none ∧ x.socket = socket ∧ x.unlocked = false ∧
          x.progress.moved = chunk buffer 0 numBytes ∨
        x.report = some (.printed "Failed to write to socket. Closing it.") ∧ x.socket = -1 ∧
          x.unlocked = mutex ∧ x.progress.moved = chunk buffer 0 x.progress.moved.length := by
  refine ⟨fun format x h => ?_, fun x h => ?_⟩
  · rw [readFromSocketFailOnError_eq] at h
    obtain ⟨⟨r, p⟩, hread, hx⟩ := Option.map_eq_some'.mp h
    obtain ⟨hinv, hall⟩ := readFromSocket_some hn hread
    dsimp only at hx
    split_ifs at hx with hr <;> subst hx
    · exact .inr ⟨rfl, rfl, by cases format <;> exact ⟨_, rfl⟩⟩
    · exact .inl ⟨rfl, rfl, rfl, by rw [← hall (not_not.mp hr)]; exact hinv.1⟩
  · rw [writeToSocketFailOnError_eq] at h
    obtain ⟨⟨r, p⟩, hwrite, hx⟩ := Option.map_eq_some'.mp h
    obtain ⟨hinv, hall⟩ := writeToSocket_some hn hwrite
    dsimp only at hx
    split_ifs at hx with hr <;> subst hx
    · exact .inr ⟨rfl, rfl, rfl, hinv.1⟩
    · exact .inl ⟨rfl, rfl, rfl, by rw [← hall (not_not.mp hr)]; exact hinv.1⟩

/-- The witness: one byte to move on socket `3`, a kernel that fails every call for good, and the
caller's mutex given. -/
theorem failOnError_only_write_returns_failed :
    (1 : Nat) < 2 ^ 63 ∧
    (∀ format x, readFromSocketFailOnError (fun _ => .failed .other) (fun _ => 7) 3 1 true format 2 =
        some x →
      x.report = none ∧ x.socket = 3 ∧ x.unlocked = false ∧ x.progress.moved = chunk (fun _ => 7) 0 1 ∨
        x.socket = -1 ∧ x.unlocked = true ∧ ∃ halt, x.report = some (.fatal halt)) ∧
    ∀ x, writeToSocketFailOnError (fun _ => .failed .other) (fun _ => 7) 3 1 true none 2 = some x →
      x.report = none ∧ x.socket = 3 ∧ x.unlocked = false ∧ x.progress.moved = chunk (fun _ => 7) 0 1 ∨
        x.report = some (.printed "Failed to write to socket. Closing it.") ∧ x.socket = -1 ∧
          x.unlocked = true ∧ x.progress.moved = chunk (fun _ => 7) 0 x.progress.moved.length :=
  ⟨by norm_num, failOnError_only_write_returns (by norm_num) true⟩

/-- **Both wrappers report success on a count of `2^63` or more**: on an open socket they return
to the caller with the socket and mutex untouched and nothing moved — so
`failOnError_only_write_returns` holds only for `n < 2^63`. -/
theorem failOnError_negative_count (hs : 0 ≤ socket) (h₁ : 2 ^ 63 ≤ numBytes)
    (h₂ : numBytes < 2 ^ 64) (mutex : Bool) (format : Option String) (fuel : Nat) :
    readFromSocketFailOnError o stream socket numBytes mutex format (fuel + 1) =
        some ⟨socket, .start, false, none⟩ ∧
      writeToSocketFailOnError o buffer socket numBytes mutex format (fuel + 1) =
        some ⟨socket, .start, false, none⟩ := by
  rw [readFromSocketFailOnError_eq, writeToSocketFailOnError_eq,
    readFromSocket_negative_count o stream hs h₁ h₂, writeToSocket_negative_count o buffer hs h₁ h₂]
  exact ⟨rfl, rfl⟩

end FailOnError

/-! ## `accept_socket` and `peek_from_socket`

Both compare `errno` with `EAGAIN` and `EWOULDBLOCK` as numbers, and POSIX lets the two macros be
one value, as on Linux, or two: `code` gives each `Errno` the number it has on the platform.  The
loops above only test `errno ==` each of them, which no choice of numbers changes. -/

/-- `errno != EAGAIN || errno != EWOULDBLOCK`, the test on which `accept_socket` gives up. -/
def acceptFatal (code : Errno → Int) (e : Errno) : Bool :=
  code e != code .eagain || code e != code .ewouldblock

/-- `accept_socket(socket, client_fd)`: call `accept` until it returns a descriptor, each entry of
`tries` being what one call returns — a descriptor, or `-1` with `errno`; `none` while `tries`
lasts.  A failure `acceptFatal` holds of ends in `lf_print_error_system_failure`, which is not
under `src/` and is modelled from the spec as a fatal exit, code `1` like
`lf_print_error_and_exit`. -/
def acceptSocket (code : Errno → Int) : List (Except Errno Nat) → Option (Except Halt Nat)
  | [] => none
  | .ok socketId :: _ => some (.ok socketId)
  | .error e :: tries =>
    if acceptFatal code e then some (.error (.exit 1 "RTI failed to accept the socket."))
    else acceptSocket code tries

/-- `peek_from_socket(socket, result)`: `recv` of one byte with `MSG_DONTWAIT | MSG_PEEK`, which
returns `o.ret 1`, turned into `0` when it fails with `errno` `EAGAIN` or `EWOULDBLOCK`. -/
def peekFromSocket (code : Errno → Int) (o : Outcome) : Int :=
  if o.ret 1 < 0 ∧ (code o.errno = code .eagain ∨ code o.errno = code .ewouldblock) then 0
  else o.ret 1

end ReactorC.Network
