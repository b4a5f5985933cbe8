import ReactorC.Federate.Peer

/-!
# Federate/Connect — the federate's start-up: connections, its server and the start time

`connect_to_rti` and `connect_to_federate` open a TCP connection in a `while (result < 0)`
loop.  `connect_to_rti` retries on a refused `connect`, moving through
`[STARTING_PORT, STARTING_PORT + PORT_RANGE_LIMIT]` when no port was given, and on a `REJECT` of
its `FED_ID` message.  `connect_to_federate` first asks the
RTI for the peer's port, then retries on a refused `connect` and on any answer to its handshake
but `ACK`.  What the system calls of one pass return is one entry of a list (`RtiTry`,
`PeerTry`), and `dialLoop` runs the passes, recording the ports `connect` is called on.

* `rti_connection_drifts` — `connect_to_rti` leaves the range: it tries
  `STARTING_PORT + PORT_RANGE_LIMIT + 1`, a `REJECT` moves even a given port on, and any answer
  but `REJECT` counts as accepted;
* `rejects_retry_forever` — a `REJECT` of either handshake is retried without counting a retry,
  so an RTI or a peer that keeps rejecting keeps the federate connecting for ever;
* `connectToRti_refused_bounded`, `connectToFederate_refused_bounded` — the retries that are
  counted are bounded: refused connects alone end `connect_to_rti` within
  `(CONNECT_NUM_RETRIES + 1) * (PORT_RANGE_LIMIT + 2)` passes and `connect_to_federate` within
  `CONNECT_NUM_RETRIES + 1`, both from `dialLoop_halts`;
* `createServer_port`, `createServer_ends` — the federate's own server: its `bind` scan ends
  within `PORT_RANGE_LIMIT + 2` binds on a port of `[STARTING_PORT, STARTING_PORT +
  PORT_RANGE_LIMIT + 1]` or the port given — the last one past the range, which a full range
  reaches (`createServer_past_range`);
* `getStartTimeFromRti_ok_iff` — `get_start_time_from_rti` takes a start time exactly from a
  whole `TIMESTAMP` reply, on either host, and stops the process on every other reply.
-/

namespace ReactorC

/-- The constants of the connection loops, not under `src/`: `STARTING_PORT`, `PORT_RANGE_LIMIT`
and `CONNECT_NUM_RETRIES`. -/
structure Retries where
  startingPort : Int
  portRangeLimit : Int
  connectNumRetries : Int

/-- The defaults the spec gives: `15045`, `16` and `5`. -/
def defaultRetries : Retries := ⟨15045, 16, 5⟩

/-- How one pass of a connection loop ends. -/
inductive Dial (σ : Type)
  /-- `continue`, from this state. -/
  | retry (s : σ)
  /-- The loop ends, connected on this port. -/
  | connected (port : Int)
  /-- The process stops. -/
  | halt (h : Halt)

/-- `while (result < 0) { pass }` over the passes `tries`; `dials s t` is the port the pass calls
`connect` on, if it gets that far.  The ports `connect` was called on, in order, and how the loop
ended — `none` while `tries` lasts. -/
def dialLoop {σ α : Type} (pass : σ → α → Dial σ) (dials : σ → α → Option Int) :
    σ → List α → List Int × Option (Except Halt Int)
  | _, [] => ([], none)
  | s, t :: ts =>
    match pass s t with
    | .retry s' =>
      let r := dialLoop pass dials s' ts
      ((dials s t).toList ++ r.1, r.2)
    | .connected port => ((dials s t).toList, some (.ok port))
    | .halt h => ((dials s t).toList, some (.error h))

theorem dialLoop_retry {σ α : Type} {pass : σ → α → Dial σ} {dials : σ → α → Option Int}
    {s s' : σ} {t : α} (h : pass s t = .retry s') (ts : List α) :
    dialLoop pass dials s (t :: ts) =
      ((dials s t).toList ++ (dialLoop pass dials s' ts).1, (dialLoop pass dials s' ts).2) := by
  rw [dialLoop, h]

theorem dialLoop_connected {σ α : Type} {pass : σ → α → Dial σ} {dials : σ → α → Option Int}
    {s : σ} {t : α} {port : Int} (h : pass s t = .connected port) (ts : List α) :
    dialLoop pass dials s (t :: ts) = ((dials s t).toList, some (.ok port)) := by
  rw [dialLoop, h]

/-- **`n` passes that go round again**: from the states `g 0, g 1, …`, each calling `connect` on
`port j`. -/
theorem dialLoop_replicate {σ α : Type} (pass : σ → α → Dial σ) (dials : σ → α → Option Int)
    (t : α) (ts : List α) :
    ∀ (n : Nat) (g : Nat → σ) (port : Nat → Int), (∀ j < n, pass (g j) t = .retry (g (j + 1))) →
      (∀ j < n, dials (g j) t = some (port j)) →
      dialLoop pass dials (g 0) (List.replicate n t ++ ts) =
        ((List.range n).map port ++ (dialLoop pass dials (g n) ts).1,
          (dialLoop pass dials (g n) ts).2)
  | 0, _, _, _, _ => by simp
  | n + 1, g, port, hpass, hdial => by
    rw [List.replicate_succ, List.cons_append, dialLoop_retry (hpass 0 (Nat.succ_pos n)),
      dialLoop_replicate pass dials t ts n (fun j => g (j + 1)) (fun j => port (j + 1))
        (fun j hj => hpass (j + 1) (by omega)) (fun j hj => hdial (j + 1) (by omega)),
      hdial 0 (Nat.succ_pos n), List.range_succ_eq_map, List.map_cons, List.map_map]
    rfl

/-- **A rank that every retry lowers bounds the loop**: if each pass `t` of `P` from a state of
`Inv` either goes round to a state of `Inv` of lower `rank` or halts with a `Q`, then more such passes
than the start state's rank end the loop with a halt that is a `Q`. -/
theorem dialLoop_halts {σ α : Type} (pass : σ → α → Dial σ) (dials : σ → α → Option Int)
    {P : α → Prop} (Inv : σ → Prop) (rank : σ → Nat) (Q : Halt → Prop)
    (hstep : ∀ s t, Inv s → P t →
      (∃ s', pass s t = .retry s' ∧ Inv s' ∧ rank s' < rank s) ∨ ∃ h, pass s t = .halt h ∧ Q h) :
    ∀ (tries : List α) (s : σ), Inv s → (∀ t ∈ tries, P t) → rank s < tries.length →
      ∃ h, (dialLoop pass dials s tries).2 = some (.error h) ∧ Q h
  | [], _, _, _, hlen => absurd hlen (Nat.not_lt_zero _)
  | t :: ts, s, hs, hP, hlen => by
    rcases hstep s t hs (hP t (List.mem_cons_self t ts)) with ⟨s', hpass, hs', hrank⟩ | ⟨h, hpass, hQ⟩
    · rw [dialLoop_retry hpass]
      exact dialLoop_halts pass dials Inv rank Q hstep ts s' hs'
        (fun u hu => hP u (List.mem_cons_of_mem t hu)) (by simp only [List.length_cons] at hlen; omega)
    · exact ⟨h, by rw [dialLoop, hpass], hQ⟩

/-- **A rank that every retry lowers ends the loop**, however each pass ends: more passes than the
start state's rank leave no run of the loop open. -/
theorem dialLoop_ends {σ α : Type} (pass : σ → α → Dial σ) (dials : σ → α → Option Int)
    (rank : σ → Nat) (hstep : ∀ s t s', pass s t = .retry s' → rank s' < rank s) :
    ∀ (tries : List α) (s : σ), rank s < tries.length → (dialLoop pass dials s tries).2.isSome
  | [], _, hlen => absurd hlen (Nat.not_lt_zero _)
  | t :: ts, s, hlen => by
    cases h : pass s t with
    | retry s' =>
      rw [dialLoop_retry h]
      exact dialLoop_ends pass dials rank hstep ts s'
        (by have := hstep s t s' h; simp only [List.length_cons] at hlen; omega)
    | connected port => rw [dialLoop_connected h]; rfl
    | halt e => rw [dialLoop, h]; rfl

/-- What holds of every state a run goes through holds of the port it ends connected on, when each
pass connects on a port of `Q`. -/
theorem dialLoop_connected_of_inv {σ α : Type} {pass : σ → α → Dial σ} {dials : σ → α → Option Int}
    (Inv : σ → Prop) (Q : Int → Prop) (hretry : ∀ s t s', Inv s → pass s t = .retry s' → Inv s')
    (hconn : ∀ s t p, Inv s → pass s t = .connected p → Q p) :
    ∀ (tries : List α) (s : σ) {p : Int}, Inv s → (dialLoop pass dials s tries).2 = some (.ok p) → Q p
  | [], _, _, _, h => by cases h
  | t :: ts, s, p, hs, hend => by
    cases h : pass s t with
    | retry s' =>
      rw [dialLoop_retry h] at hend
      exact dialLoop_connected_of_inv Inv Q hretry hconn ts s' (hretry s t s' hs h) hend
    | connected port =>
      rw [dialLoop_connected h] at hend
      cases hend
      exact hconn s t p hs h
    | halt e => rw [dialLoop, h] at hend; cases hend

/-- The last port `connect` was called on is, read through `g`, the port the loop ends connected on,
when each pass that connects dials its own port. -/
theorem dialLoop_last_dial {σ α : Type} {pass : σ → α → Dial σ} {dials : σ → α → Option Int}
    (g : Int → Int) (hconn : ∀ s t p, pass s t = .connected p → dials s t = some (g p)) :
    ∀ (tries : List α) (s : σ) {p : Int}, (dialLoop pass dials s tries).2 = some (.ok p) →
      (dialLoop pass dials s tries).1.getLast? = some (g p)
  | [], _, _, h => by cases h
  | t :: ts, s, p, hend => by
    cases h : pass s t with
    | retry s' =>
      rw [dialLoop_retry h] at hend ⊢
      rw [List.getLast?_append, dialLoop_last_dial g hconn ts s' hend]
      rfl
    | connected port =>
      rw [dialLoop_connected h] at hend ⊢
      cases hend
      rw [hconn s t p h]
      rfl
    | halt e => rw [dialLoop, h] at hend; cases hend

/-! ## `connect_to_rti` -/

/-- What the system calls of one pass of `connect_to_rti`'s loop return. -/
structure RtiTry where
  /-- `socket()` returns a descriptor. -/
  socketOk : Bool
  /-- `gethostbyname(hostname)` finds the host. -/
  hostFound : Bool
  /-- `connect()` returns `0`. -/
  connected : Bool
  /-- The `write` of the four bytes of `FED_ID`, id and length does not return a negative count. -/
  idWritten : Bool
  /-- The `write` of the federation id does not return a negative count. -/
  federationIdWritten : Bool
  /-- The byte in `response` after `read(rti_socket, &response, 1)`, whatever `read` returned. -/
  response : UInt8
  /-- The byte in `cause` after the second `read`, made after a `REJECT` only. -/
  cause : UInt8
  deriving DecidableEq, Repr

/-- A pass whose `connect` is refused. -/
def RtiTry.refused : RtiTry := ⟨true, true, false, true, true, 0, 0⟩

/-- A pass that connects and whose `FED_ID` the RTI answers with `response`, then `cause`. -/
def RtiTry.answered (response cause : UInt8) : RtiTry := ⟨true, true, true, true, true, response, cause⟩

/-- A pass that gets a socket and the host and whose `connect` is refused. -/
def RtiTry.IsRefused (t : RtiTry) : Prop := t.socketOk = true ∧ t.hostFound = true ∧ t.connected = false

/-- Where the loop of `connect_to_rti` stands: `port` and `count_retries`. -/
structure RtiDial where
  port : Int
  countRetries : Int
  deriving DecidableEq, Repr

variable {τ : Type} (f : Federate τ) (k : Retries)

/-- A pass of `connect_to_rti` calls `connect` on `port` once it has a socket and the host. -/
def rtiDials (s : RtiDial) (t : RtiTry) : Option Int :=
  if t.socketOk ∧ t.hostFound then some s.port else none

/-- One pass of the loop of `connect_to_rti(id, hostname, port)`. -/
def connectToRtiPass (hostname : String) (specificPortGiven : Bool) (s : RtiDial) (t : RtiTry) :
    Dial RtiDial :=
  if ¬ t.socketOk then .halt (.error "ERROR on federate creating socket to RTI")
  else if ¬ t.hostFound then .halt (.exit 1 ("ERROR, no such host for RTI: " ++ hostname ++ "\n"))
  else if ¬ t.connected ∧ ¬ specificPortGiven ∧ k.startingPort ≤ s.port ∧
      s.port ≤ k.startingPort + k.portRangeLimit then
    .retry { s with port := s.port + 1 }
  else if ¬ t.connected then
    if k.connectNumRetries < s.countRetries + 1 then
      .halt (.exit 2 ("Federate " ++ toString f.myFedId ++ " failed to connect to the RTI after " ++
        toString k.connectNumRetries ++ " retries. Giving up.\n"))
    else
      .retry ⟨if ¬ specificPortGiven ∧ s.port = k.startingPort + k.portRangeLimit + 1 then
          k.startingPort else s.port, s.countRetries + 1⟩
  else if ¬ t.idWritten then .halt (.error "ERROR sending federate ID to RTI")
  else if ¬ t.federationIdWritten then .halt (.error "ERROR sending federation ID to RTI")
  else if t.response = f.codes.reject then
    if t.cause = f.codes.federationIdDoesNotMatch ∨ t.cause = f.codes.wrongServer then
      .retry { s with port := s.port + 1 }
    else
      .halt (.exit 1 ("RTI Rejected FED_ID message with response (see rti.h): " ++
        toString t.response ++ ". Error code: " ++ toString t.cause ++ ". Federate quits.\n"))
  else .connected s.port

/-- `connect_to_rti(id, hostname, port)` over the passes `tries`: from `STARTING_PORT`, cycling,
when `port` is `0`, else from `port`.  The `FED_ID` message it writes is not modelled, so `id`
does not appear. -/
def connectToRti (hostname : String) (port : Int) (tries : List RtiTry) :
    List Int × Option (Except Halt Int) :=
  dialLoop (connectToRtiPass f k hostname (port != 0)) rtiDials
    ⟨if port = 0 then k.startingPort else port, 0⟩ tries

theorem connectToRtiPass_refused_cycling {hostname : String} {s : RtiDial}
    (h₁ : k.startingPort ≤ s.port) (h₂ : s.port ≤ k.startingPort + k.portRangeLimit) :
    connectToRtiPass f k hostname false s .refused = .retry { s with port := s.port + 1 } := by
  simp [connectToRtiPass, RtiTry.refused, h₁, h₂]

theorem connectToRtiPass_reject {hostname : String} {specificPortGiven : Bool} {s : RtiDial}
    {cause : UInt8} (hcause : cause = f.codes.federationIdDoesNotMatch ∨ cause = f.codes.wrongServer) :
    connectToRtiPass f k hostname specificPortGiven s (.answered f.codes.reject cause) =
      .retry { s with port := s.port + 1 } := by
  simp [connectToRtiPass, RtiTry.answered, hcause]

theorem connectToRtiPass_accept {hostname : String} {specificPortGiven : Bool} {s : RtiDial}
    {response cause : UInt8} (hresp : response ≠ f.codes.reject) :
    connectToRtiPass f k hostname specificPortGiven s (.answered response cause) = .connected s.port := by
  simp [connectToRtiPass, RtiTry.answered, hresp]

/-- A refused `connect` inside the range of a cycling scan moves to the next port. -/
theorem connectToRtiPass_refused_in_range {hostname : String} {s : RtiDial} {t : RtiTry}
    (ht : t.IsRefused) (h₁ : k.startingPort ≤ s.port) (h₂ : s.port ≤ k.startingPort + k.portRangeLimit) :
    connectToRtiPass f k hostname false s t = .retry { s with port := s.port + 1 } := by
  obtain ⟨h₃, h₄, h₅⟩ := ht
  simp [connectToRtiPass, h₁, h₂, h₃, h₄, h₅]

/-- Any other refused `connect` counts a retry: it exits with code `2` once
`CONNECT_NUM_RETRIES` retries have been counted, and otherwise goes round again, back to
`STARTING_PORT` from the port past the range of a cycling scan. -/
theorem connectToRtiPass_refused_counted (hostname : String) {specificPortGiven : Bool}
    {s : RtiDial} {t : RtiTry} (ht : t.IsRefused)
    (hout : ¬ (¬ specificPortGiven ∧ k.startingPort ≤ s.port ∧ s.port ≤ k.startingPort + k.portRangeLimit)) :
    (k.connectNumRetries < s.countRetries + 1 →
      ∃ msg, connectToRtiPass f k hostname specificPortGiven s t = .halt (.exit 2 msg)) ∧
    (s.countRetries + 1 ≤ k.connectNumRetries →
      connectToRtiPass f k hostname specificPortGiven s t =
        .retry ⟨if ¬ specificPortGiven ∧ s.port = k.startingPort + k.portRangeLimit + 1 then
          k.startingPort else s.port, s.countRetries + 1⟩) := by
  obtain ⟨h₃, h₄, h₅⟩ := ht
  have h₅' : ¬ t.connected = true := by simp [h₅]
  rw [connectToRtiPass, if_neg (not_not_intro h₃), if_neg (not_not_intro h₄),
    if_neg (fun h => hout h.2), if_pos h₅']
  exact ⟨fun hc => ⟨_, if_pos hc⟩, fun hc => if_neg (not_lt.mpr hc)⟩

/-- **Refused connects are counted**: an RTI that refuses every `connect` ends `connect_to_rti`,
with exit code `2`, within `(CONNECT_NUM_RETRIES + 1) * (PORT_RANGE_LIMIT + 2)` passes — a cycling
scan goes through the `PORT_RANGE_LIMIT + 2` ports from `STARTING_PORT` once per counted retry, a
given port is tried once per counted retry. -/
theorem connectToRti_refused_bounded (hostname : String) (hR : 0 ≤ k.portRangeLimit) (port : Int)
    (tries : List RtiTry) (hrefused : ∀ t ∈ tries, t.IsRefused)
    (hlen : (k.connectNumRetries.toNat + 1) * (k.portRangeLimit.toNat + 2) ≤ tries.length) :
    ∃ h, (connectToRti f k hostname port tries).2 = some (.error h) ∧ ∃ msg, h = .exit 2 msg := by
  have hR' := Int.toNat_of_nonneg hR
  have hmul : (k.connectNumRetries.toNat + 1) * (k.portRangeLimit.toNat + 2) =
      k.connectNumRetries.toNat * (k.portRangeLimit.toNat + 2) + k.portRangeLimit.toNat + 2 := by
    rw [Nat.succ_mul, Nat.add_assoc]
  by_cases hp : port = 0
  · -- the cycling scan: a round of `PORT_RANGE_LIMIT + 2` ports per counted retry
    rw [connectToRti, if_pos hp, hp, show ((0 : Int) != 0) = false from rfl]
    refine dialLoop_halts _ _
      (fun s => k.startingPort ≤ s.port ∧ s.port ≤ k.startingPort + k.portRangeLimit + 1)
      (fun s => (k.connectNumRetries - s.countRetries).toNat * (k.portRangeLimit.toNat + 2) +
        (k.startingPort + k.portRangeLimit + 1 - s.port).toNat) _
      (fun s t hs ht => ?_) tries _ ⟨le_refl _, by dsimp only; omega⟩ hrefused (by dsimp only; rw [sub_zero]; omega)
    by_cases hin : k.startingPort ≤ s.port ∧ s.port ≤ k.startingPort + k.portRangeLimit
    · exact .inl ⟨_, connectToRtiPass_refused_in_range f k ht hin.1 hin.2, by dsimp only; omega,
        by dsimp only; omega⟩
    have hport : s.port = k.startingPort + k.portRangeLimit + 1 := by omega
    have hout : ¬ (¬ (false = true) ∧ k.startingPort ≤ s.port ∧
        s.port ≤ k.startingPort + k.portRangeLimit) := by simpa using hin
    have hcount := connectToRtiPass_refused_counted f k hostname ht hout
    by_cases hc : k.connectNumRetries < s.countRetries + 1
    · exact .inr ⟨_, (hcount.1 hc).choose_spec, _, rfl⟩
    have hback : connectToRtiPass f k hostname false s t = .retry ⟨k.startingPort, s.countRetries + 1⟩ := by
      rw [hcount.2 (by omega), if_pos ⟨Bool.false_ne_true, hport⟩]
    have ha : (k.connectNumRetries - s.countRetries).toNat =
        (k.connectNumRetries - (s.countRetries + 1)).toNat + 1 := by omega
    refine .inl ⟨_, hback, ⟨le_refl _, by dsimp only; omega⟩, ?_⟩
    dsimp only
    rw [ha, hport, Nat.succ_mul]
    omega
  · -- a given port: one pass per counted retry
    rw [connectToRti, if_neg hp, show (port != 0) = true by simpa using hp]
    refine dialLoop_halts _ _ (fun _ => True) (fun s => (k.connectNumRetries - s.countRetries).toNat) _
      (fun s t _ ht => ?_) tries _ trivial hrefused (by
        have : k.connectNumRetries.toNat ≤ k.connectNumRetries.toNat * (k.portRangeLimit.toNat + 2) :=
          Nat.le_mul_of_pos_right _ (by omega)
        dsimp only; rw [sub_zero]; omega)
    have hout : ¬ (¬ (true = true) ∧ k.startingPort ≤ s.port ∧
        s.port ≤ k.startingPort + k.portRangeLimit) := by simp
    have hcount := connectToRtiPass_refused_counted f k hostname ht hout
    by_cases hc : k.connectNumRetries < s.countRetries + 1
    · exact .inr ⟨_, (hcount.1 hc).choose_spec, _, rfl⟩
    · exact .inl ⟨_, hcount.2 (by omega), trivial, by dsimp only; omega⟩

/-- The witness: the spec's defaults, no port given, and an RTI refusing all `108` connects. -/
theorem connectToRti_refused_bounded_default :
    (0 : Int) ≤ defaultRetries.portRangeLimit ∧
      (∀ t ∈ List.replicate 108 RtiTry.refused, t.IsRefused) ∧
      (defaultRetries.connectNumRetries.toNat + 1) * (defaultRetries.portRangeLimit.toNat + 2) ≤
        (List.replicate 108 RtiTry.refused).length ∧
      ∃ h, (connectToRti sampleFederate defaultRetries "rti" 0
          (List.replicate 108 RtiTry.refused)).2 = some (.error h) ∧ ∃ msg, h = .exit 2 msg :=
  have hrefused : ∀ t ∈ List.replicate 108 RtiTry.refused, t.IsRefused := fun t ht => by
    rw [List.eq_of_mem_replicate ht]
    exact ⟨rfl, rfl, rfl⟩
  ⟨by decide, hrefused, by decide,
    connectToRti_refused_bounded sampleFederate defaultRetries "rti" (by decide) 0 _ hrefused
      (by decide)⟩

/-- **`connect_to_rti` keeps neither to its ports nor to `ACK`.**  Cycling from `STARTING_PORT`,
after a refused `connect` on `STARTING_PORT + PORT_RANGE_LIMIT` it connects to the port past the
range, and returns connected there when the RTI listens on it.  Given a port, a `REJECT` for a
retry cause moves it on to the next port, where it returns connected.  And in both, an answer to
`FED_ID` that is not `REJECT` — `ACK` or any other byte — is taken as the RTI's acceptance. -/
theorem rti_connection_drifts (f : Federate τ) (k : Retries) (hostname : String)
    (hR : 0 ≤ k.portRangeLimit) {response : UInt8} (hresp : response ≠ f.codes.reject)
    (cause : UInt8) :
    connectToRti f k hostname 0
        (List.replicate (k.portRangeLimit.toNat + 1) .refused ++ [.answered response cause]) =
      ((List.range (k.portRangeLimit.toNat + 2)).map (fun j : Nat => k.startingPort + j),
        some (.ok (k.startingPort + k.portRangeLimit + 1))) ∧
    ∀ port, port ≠ 0 →
      connectToRti f k hostname port
          [.answered f.codes.reject f.codes.wrongServer, .answered response cause] =
        ([port, port + 1], some (.ok (port + 1))) := by
  refine ⟨?_, fun port hport => ?_⟩
  · have hR' := Int.toNat_of_nonneg hR
    have hcyc := dialLoop_replicate (connectToRtiPass f k hostname false) rtiDials .refused
      [.answered response cause] (k.portRangeLimit.toNat + 1)
      (fun j => ⟨k.startingPort + j, 0⟩) (fun j => k.startingPort + j)
      (fun j hj => by
        rw [connectToRtiPass_refused_cycling f k (by simp) (by simp; omega)]
        simp [add_assoc])
      (fun j _ => rfl)
    rw [connectToRti, if_pos rfl, show ((0 : Int) != 0) = false from rfl]
    simp only [Nat.cast_zero, add_zero] at hcyc
    have hlast : k.startingPort + ((k.portRangeLimit.toNat + 1 : Nat) : Int) =
        k.startingPort + k.portRangeLimit + 1 := by
      push_cast
      rw [hR', add_assoc]
    rw [hcyc, dialLoop_connected (connectToRtiPass_accept f k hresp),
      show k.portRangeLimit.toNat + 2 = k.portRangeLimit.toNat + 1 + 1 from rfl,
      List.range_succ (k.portRangeLimit.toNat + 1), List.map_append, List.map_singleton, hlast]
    rfl
  · rw [connectToRti, if_neg hport, show (port != 0) = true by simpa using hport,
      dialLoop_retry (connectToRtiPass_reject f k (.inr rfl)),
      dialLoop_connected (connectToRtiPass_accept f k hresp)]
    rfl

/-- The witness: the default constants and the sample federate, the RTI answering `1`. -/
theorem rti_connection_drifts_default :
    0 ≤ defaultRetries.portRangeLimit ∧ (1 : UInt8) ≠ sampleFederate.codes.reject ∧
    (connectToRti sampleFederate defaultRetries "localhost" 0
        (List.replicate (defaultRetries.portRangeLimit.toNat + 1) .refused ++ [.answered 1 0]) =
      ((List.range (defaultRetries.portRangeLimit.toNat + 2)).map
          (fun j : Nat => defaultRetries.startingPort + j),
        some (.ok (defaultRetries.startingPort + defaultRetries.portRangeLimit + 1))) ∧
    ∀ port, port ≠ 0 →
      connectToRti sampleFederate defaultRetries "localhost" port
          [.answered sampleFederate.codes.reject sampleFederate.codes.wrongServer, .answered 1 0] =
        ([port, port + 1], some (.ok (port + 1)))) :=
  ⟨by decide, by decide,
    rti_connection_drifts sampleFederate defaultRetries "localhost" (by decide) (by decide) 0⟩

/-! ## `connect_to_federate` -/

/-- What the system calls of one pass of the connect loop of `connect_to_federate` return, and
what the peer sends back on the connection. -/
structure PeerTry where
  /-- `socket()` returns a descriptor. -/
  socketOk : Bool
  /-- `connect()` returns `0`. -/
  connected : Bool
  /-- How `write_to_socket` of the handshake stops the process, `none` if it does not. -/
  helloStop : Option StreamEnd
  /-- What the peer sends on the new socket. -/
  reply : Inbox

/-- A pass that gets a socket and whose `connect` is refused. -/
def PeerTry.IsRefused (t : PeerTry) : Prop := t.socketOk = true ∧ t.connected = false

/-- A pass that connects, sends the handshake, and receives `reply`. -/
def PeerTry.answered (reply : List UInt8) : PeerTry := ⟨true, true, none, ⟨reply, .eof⟩⟩

/-- The first loop of `connect_to_federate(id)`: send `ADDRESS_QUERY` for `id` and read the RTI's
reply — the peer's port, the `int` `extract_int` reads, then its address — until the port is not
`-1`; `left` more `-1` replies are let through (`count_tries++ >= CONNECT_NUM_RETRIES`).  The
queries written are not modelled, only what the RTI's socket delivers. -/
def addressQuery (id : UInt16) : Nat → Inbox → Except Halt (Int × List UInt8 × Inbox)
  | left, rti =>
    match readFromSocket 4 rti with
    | .error h => .error h
    | .ok (reply, rti) =>
      match readFromSocket 4 rti with
      | .error h => .error h
      | .ok (hostIpAddr, rti) =>
        if intOfUnsigned (extractInt f.host reply) = -1 then
          match left with
          | 0 => .error (.exit 1 ("TIMEOUT on federate " ++ toString f.myFedId ++
              " obtaining IP/port for federate " ++ toString id ++ " from the RTI.\n"))
          | left + 1 => addressQuery id left rti
        else .ok (intOfUnsigned (extractInt f.host reply), hostIpAddr, rti)

/-- One pass of the connect loop of `connect_to_federate(id)` on `port`, from `count_retries`. -/
def connectToFederatePass (id : UInt16) (port : Int) (countRetries : Int) (t : PeerTry) : Dial Int :=
  if ¬ t.socketOk then
    .halt (.exit 1 ("ERROR on federate " ++ toString f.myFedId ++ " creating socket to federate " ++
      toString id ++ "\n"))
  else if ¬ t.connected then
    if k.connectNumRetries < countRetries + 1 then
      .halt (.exit 2 ("Federate " ++ toString f.myFedId ++ " failed to connect to federate " ++
        toString id ++ " after " ++ toString k.connectNumRetries ++ " retries. Giving up.\n"))
    else .retry (countRetries + 1)
  else
    match writeToSocket t.helloStop >>= fun _ => readFromSocket 1 t.reply with
    | .error h => .halt h
    | .ok (response, rest) =>
      if response.headD 0 ≠ f.codes.ack then
        match readFromSocket 1 rest with
        | .error h => .halt h
        | .ok _ => .retry countRetries
      else .connected port

/-- `connect_to_federate(id)`, the RTI's socket delivering `rti` and the passes of the connect loop
being `tries`, with `assert(port < 65536)` between the two loops. -/
def connectToFederate (id : UInt16) (rti : Inbox) (tries : List PeerTry) :
    List Int × Option (Except Halt Int) :=
  match addressQuery f id k.connectNumRetries.toNat rti with
  | .error h => ([], some (.error h))
  | .ok (port, _, _) =>
    if port < 65536 then
      dialLoop (connectToFederatePass f k id port) (fun _ t => if t.socketOk then some port else none)
        0 tries
    else ([], some (.error (.assertFailed "port < 65536")))

/-- A peer answering the handshake with anything but `ACK`, then an error code, sends the loop
round again, with `count_retries` as it was. -/
theorem connectToFederatePass_rejected {id : UInt16} {port countRetries : Int} {response : UInt8}
    (hresp : response ≠ f.codes.ack) (code : UInt8) :
    connectToFederatePass f k id port countRetries (.answered [response, code]) =
      .retry countRetries := by
  simp [connectToFederatePass, PeerTry.answered, writeToSocket, readFromSocket, bind,
    Except.bind, hresp]

/-- A refused `connect` counts a retry: an exit with code `2` once `CONNECT_NUM_RETRIES` retries
have been counted, another pass otherwise. -/
theorem connectToFederatePass_refused {id : UInt16} {port countRetries : Int} {t : PeerTry}
    (ht : t.IsRefused) :
    (k.connectNumRetries < countRetries + 1 →
      ∃ msg, connectToFederatePass f k id port countRetries t = .halt (.exit 2 msg)) ∧
    (countRetries + 1 ≤ k.connectNumRetries →
      connectToFederatePass f k id port countRetries t = .retry (countRetries + 1)) := by
  have h₂ : ¬ t.connected = true := by simp [ht.2]
  rw [connectToFederatePass, if_neg (not_not_intro ht.1), if_pos h₂]
  exact ⟨fun hc => ⟨_, if_pos hc⟩, fun hc => if_neg (not_lt.mpr hc)⟩

/-- **Refused connects are counted**: once the RTI has given a port, a peer that refuses every
`connect` ends `connect_to_federate`, with exit code `2`, within `CONNECT_NUM_RETRIES + 1`
passes. -/
theorem connectToFederate_refused_bounded (id : UInt16) {rti rest : Inbox} {port : Int}
    {hostIpAddr : List UInt8}
    (hq : addressQuery f id k.connectNumRetries.toNat rti = .ok (port, hostIpAddr, rest))
    (hport : port < 65536) (tries : List PeerTry) (hrefused : ∀ t ∈ tries, t.IsRefused)
    (hlen : k.connectNumRetries.toNat + 1 ≤ tries.length) :
    ∃ h, (connectToFederate f k id rti tries).2 = some (.error h) ∧ ∃ msg, h = .exit 2 msg := by
  rw [connectToFederate, hq]
  simp only [if_pos hport]
  refine dialLoop_halts _ _ (fun _ => True) (fun c => (k.connectNumRetries - c).toNat) _
    (fun c t _ ht => ?_) tries 0 trivial hrefused (by dsimp only; rw [sub_zero]; omega)
  by_cases hc : k.connectNumRetries < c + 1
  · exact .inr ⟨_, ((connectToFederatePass_refused f k ht).1 hc).choose_spec, _, rfl⟩
  · exact .inl ⟨_, (connectToFederatePass_refused f k ht).2 (by omega), trivial, by dsimp only; omega⟩

/-- The witness: the RTI gives port `15045` (`0x3AC5`) for federate `0`, which refuses all six
connects. -/
theorem connectToFederate_refused_bounded_default :
    addressQuery sampleFederate 0 defaultRetries.connectNumRetries.toNat
        ⟨[197, 58, 0, 0, 127, 0, 0, 1], .eof⟩ =
      .ok (15045, [127, 0, 0, 1], ⟨[], .eof⟩) ∧ (15045 : Int) < 65536 ∧
      (∀ t ∈ List.replicate 6 (⟨true, false, none, ⟨[], .eof⟩⟩ : PeerTry), t.IsRefused) ∧
      defaultRetries.connectNumRetries.toNat + 1 ≤
        (List.replicate 6 (⟨true, false, none, ⟨[], .eof⟩⟩ : PeerTry)).length ∧
      ∃ h, (connectToFederate sampleFederate defaultRetries 0
          ⟨[197, 58, 0, 0, 127, 0, 0, 1], .eof⟩
          (List.replicate 6 ⟨true, false, none, ⟨[], .eof⟩⟩)).2 = some (.error h) ∧
        ∃ msg, h = .exit 2 msg :=
  have hq : addressQuery sampleFederate 0 defaultRetries.connectNumRetries.toNat
      ⟨[197, 58, 0, 0, 127, 0, 0, 1], .eof⟩ = .ok (15045, [127, 0, 0, 1], ⟨[], .eof⟩) := rfl
  have hrefused : ∀ t ∈ List.replicate 6 (⟨true, false, none, ⟨[], .eof⟩⟩ : PeerTry),
      t.IsRefused := fun t ht => by
    rw [List.eq_of_mem_replicate ht]
    exact ⟨rfl, rfl⟩
  ⟨hq, by norm_num, hrefused, by decide,
    connectToFederate_refused_bounded sampleFederate defaultRetries 0 hq (by norm_num) _ hrefused
      (by decide)⟩

/-- **Rejections are retried for ever.**  Neither loop counts a rejected handshake as a retry.
An RTI that accepts every `connect` and answers each `FED_ID` with `REJECT` for a retry cause keeps
`connect_to_rti` connecting, one port further each time, through any number `n` of passes without
returning or exiting.  Likewise, once the RTI has given `connect_to_federate` a port, a peer that
accepts every `connect` and answers each handshake with anything but `ACK` keeps it connecting to
that port for as many passes as it likes.  No bound in `CONNECT_NUM_RETRIES` and
`PORT_RANGE_LIMIT` holds. -/
theorem rejects_retry_forever (f : Federate τ) (k : Retries) (hostname : String) (id : UInt16) :
    (∀ (port : Int) (n : Nat),
      connectToRti f k hostname port (List.replicate n (.answered f.codes.reject f.codes.wrongServer)) =
        ((List.range n).map (fun j : Nat => (if port = 0 then k.startingPort else port) + j),
          none)) ∧
    ∀ (rti : Inbox) (port : Int) (hostIpAddr : List UInt8) (rest : Inbox),
      addressQuery f id k.connectNumRetries.toNat rti = .ok (port, hostIpAddr, rest) → port < 65536 →
      ∀ (response code : UInt8), response ≠ f.codes.ack → ∀ n,
        connectToFederate f k id rti (List.replicate n (.answered [response, code])) =
          (List.replicate n port, none) := by
  refine ⟨fun port n => ?_, fun rti port hostIpAddr rest hq hport response code hresp n => ?_⟩
  · have h := dialLoop_replicate (connectToRtiPass f k hostname (port != 0)) rtiDials
      (.answered f.codes.reject f.codes.wrongServer) [] n
      (fun j => ⟨(if port = 0 then k.startingPort else port) + j, 0⟩)
      (fun j => (if port = 0 then k.startingPort else port) + j)
      (fun j _ => by rw [connectToRtiPass_reject f k (.inr rfl)]; simp [add_assoc])
      (fun j _ => rfl)
    simp only [Nat.cast_zero, add_zero, List.append_nil] at h
    rw [connectToRti, h, dialLoop, List.append_nil]
  · have h := dialLoop_replicate (connectToFederatePass f k id port)
      (fun _ t => if t.socketOk then some port else none) (.answered [response, code]) [] n
      (fun _ => 0) (fun _ => port) (fun j _ => connectToFederatePass_rejected f k hresp code)
      (fun j _ => rfl)
    rw [List.append_nil] at h
    rw [connectToFederate, hq]
    simp only [if_pos hport, h, List.map_const', List.length_range, dialLoop, List.append_nil]

/-- The witness: the RTI gives port `15046` for federate `1`, whose peer answers `0` three times,
and an RTI answering `REJECT` three times. -/
theorem rejects_retry_forever_sample :
    addressQuery sampleFederate 1 defaultRetries.connectNumRetries.toNat
        ⟨encodeInt 15046 ++ [127, 0, 0, 1], .eof⟩ = .ok (15046, [127, 0, 0, 1], ⟨[], .eof⟩) ∧
      (15046 : Int) < 65536 ∧ (0 : UInt8) ≠ sampleFederate.codes.ack ∧
      connectToFederate sampleFederate defaultRetries 1 ⟨encodeInt 15046 ++ [127, 0, 0, 1], .eof⟩
          (List.replicate 3 (.answered [0, 1])) = (List.replicate 3 15046, none) ∧
      connectToRti sampleFederate defaultRetries "localhost" 0
          (List.replicate 3 (.answered sampleFederate.codes.reject sampleFederate.codes.wrongServer)) =
        ((List.range 3).map (fun j : Nat => (if (0 : Int) = 0 then defaultRetries.startingPort else 0) + j),
          none) :=
  have h := rejects_retry_forever sampleFederate defaultRetries "localhost" 1
  have hq : addressQuery sampleFederate 1 defaultRetries.connectNumRetries.toNat
      ⟨encodeInt 15046 ++ [127, 0, 0, 1], .eof⟩ = .ok (15046, [127, 0, 0, 1], ⟨[], .eof⟩) := by
    rfl
  ⟨hq, by decide, by decide, h.2 _ _ _ _ hq (by decide) 0 1 (by decide) 3, h.1 0 3⟩

/-! ## `create_server`

The federate's own server socket, which its peers reach through the port `connect_to_federate`
asks the RTI for.  Its `bind` loop scans like `connect_to_rti`'s connect loop and stops at the same
port past the range; the port it binds is told to the RTI in an `ADDRESSAD` message. -/

/-- One `bind` of the scan of `create_server(specified_port, port, my_ID)`, on `port`; `bound` says
it returned `0`, which ends the scan there.  A failed `bind` moves to the next port while no port
was specified and `port` is in `[STARTING_PORT, STARTING_PORT + PORT_RANGE_LIMIT]`. -/
def createServerPass (specifiedPort myId port : Int) (bound : Bool) : Dial Int :=
  if bound then .connected port
  else if specifiedPort = 0 ∧ k.startingPort ≤ port ∧ port ≤ k.startingPort + k.portRangeLimit then
    .retry (port + 1)
  else if specifiedPort = 0 then
    .halt (.exit 1 ("ERROR on binding the socket for federate " ++ toString myId ++
      ". Cannot find a usable port. Consider increasing PORT_RANGE_LIMIT in federate.c"))
  else
    .halt (.exit 1 ("ERROR on binding socket for federate " ++ toString myId ++
      ". Specified port is not available. Consider leaving the port unspecified"))

/-- `create_server(specified_port, port, my_ID)` up to its `listen`, `socketOk` saying `socket()`
returned a descriptor and `binds` what its `bind`s return: the ports `bind` is given — through
`htons`, so modulo `2^16` — and the port the server listens on, `server_port`, from
`STARTING_PORT` when `port` is `0`.  The result of the `ADDRESSAD` write is only printed. -/
def createServer (specifiedPort port myId : Int) (socketOk : Bool) (binds : List Bool) :
    List Int × Option (Except Halt Int) :=
  if socketOk then
    dialLoop (createServerPass k specifiedPort myId) (fun port _ => some (port % 65536))
      (if port = 0 then k.startingPort else port) binds
  else ([], some (.error (.exit 1 ("ERROR on creating socket server for federate " ++
    toString myId))))

theorem createServerPass_retry {specifiedPort myId port port' : Int} {bound : Bool}
    (h : createServerPass k specifiedPort myId port bound = .retry port') :
    port' = port + 1 ∧ specifiedPort = 0 ∧ k.startingPort ≤ port ∧
      port ≤ k.startingPort + k.portRangeLimit := by
  unfold createServerPass at h
  split_ifs at h with hb hin
  cases h
  exact ⟨rfl, hin⟩

theorem createServerPass_connected {specifiedPort myId port p : Int} {bound : Bool}
    (h : createServerPass k specifiedPort myId port bound = .connected p) : p = port := by
  unfold createServerPass at h
  split_ifs at h
  cases h
  rfl

/-- **The scan ends**: `PORT_RANGE_LIMIT + 2` binds settle `create_server`, from any port — a scan
goes through `[STARTING_PORT, STARTING_PORT + PORT_RANGE_LIMIT + 1]` at most, a port outside it is
tried once. -/
theorem createServer_ends (specifiedPort port myId : Int) (socketOk : Bool) (binds : List Bool)
    (hlen : k.portRangeLimit.toNat + 2 ≤ binds.length) :
    (createServer k specifiedPort port myId socketOk binds).2.isSome := by
  unfold createServer
  cases socketOk
  · rfl
  · rw [if_pos rfl]
    refine dialLoop_ends _ _
      (fun p => if k.startingPort ≤ p then (k.startingPort + k.portRangeLimit + 1 - p).toNat else 0)
      (fun p _ p' h => ?_) binds _ (by dsimp only; split_ifs <;> omega)
    obtain ⟨rfl, -, h₁, h₂⟩ := createServerPass_retry k h
    simp only [if_pos h₁, if_pos (show k.startingPort ≤ p + 1 by omega)]
    omega

/-- The witness: no port given, and every `bind` refused. -/
theorem createServer_ends_default :
    defaultRetries.portRangeLimit.toNat + 2 ≤ (List.replicate 18 false).length ∧
      (createServer defaultRetries 0 0 1 true (List.replicate 18 false)).2.isSome :=
  ⟨by decide, createServer_ends defaultRetries 0 0 1 true _ (by decide)⟩

/-- **The port `create_server` listens on**: the port it starts from, or, when no port was
specified, one past it up to `STARTING_PORT + PORT_RANGE_LIMIT + 1` — one port past the range.
It is the last port `bind` was given, modulo `2^16`. -/
theorem createServer_port {specifiedPort port myId : Int} {socketOk : Bool} {binds : List Bool}
    {p : Int} (h : (createServer k specifiedPort port myId socketOk binds).2 = some (.ok p)) :
    (p = (if port = 0 then k.startingPort else port) ∨
      specifiedPort = 0 ∧ k.startingPort < p ∧ p ≤ k.startingPort + k.portRangeLimit + 1) ∧
    (createServer k specifiedPort port myId socketOk binds).1.getLast? = some (p % 65536) := by
  unfold createServer at h ⊢
  cases socketOk
  · cases h
  · rw [if_pos rfl] at h ⊢
    let I : Int → Prop := fun q => q = (if port = 0 then k.startingPort else port) ∨
      specifiedPort = 0 ∧ k.startingPort < q ∧ q ≤ k.startingPort + k.portRangeLimit + 1
    refine ⟨dialLoop_connected_of_inv I I (fun q _ q' _ hq => ?_)
        (fun q _ p' hq hc => by rw [createServerPass_connected k hc]; exact hq) binds _ (.inl rfl) h,
      dialLoop_last_dial (· % 65536) (fun q _ p' hc => by rw [createServerPass_connected k hc])
        binds _ h⟩
    obtain ⟨rfl, h₀, h₁, h₂⟩ := createServerPass_retry k hq
    exact .inr ⟨h₀, by omega, by omega⟩

/-- The witness: no port given, the first `bind` refused and the second taken. -/
theorem createServer_port_second :
    (createServer defaultRetries 0 0 1 true [false, true]).2 = some (.ok 15046) ∧
      ((15046 : Int) = (if (0 : Int) = 0 then defaultRetries.startingPort else 0) ∨
        (0 : Int) = 0 ∧ defaultRetries.startingPort < 15046 ∧
          15046 ≤ defaultRetries.startingPort + defaultRetries.portRangeLimit + 1) ∧
      (createServer defaultRetries 0 0 1 true [false, true]).1.getLast? = some (15046 % 65536) :=
  have h : (createServer defaultRetries 0 0 1 true [false, true]).2 = some (.ok 15046) := rfl
  ⟨h, createServer_port defaultRetries h⟩

/-- Scanning from `STARTING_PORT` with every port of the range taken, `create_server` binds and
listens on `STARTING_PORT + PORT_RANGE_LIMIT + 1`, the bound of `createServer_port`. -/
theorem createServer_past_range (myId : Int) (hR : 0 ≤ k.portRangeLimit) :
    createServer k 0 0 myId true (List.replicate (k.portRangeLimit.toNat + 1) false ++ [true]) =
      ((List.range (k.portRangeLimit.toNat + 2)).map (fun j : Nat => (k.startingPort + j) % 65536),
        some (.ok (k.startingPort + k.portRangeLimit + 1))) := by
  have hR' := Int.toNat_of_nonneg hR
  have hscan := dialLoop_replicate (createServerPass k 0 myId) (fun port _ => some (port % 65536))
    false [true] (k.portRangeLimit.toNat + 1) (fun j => k.startingPort + j)
    (fun j => (k.startingPort + j) % 65536)
    (fun j hj => by
      rw [createServerPass, if_neg Bool.false_ne_true, if_pos ⟨rfl, by simp, by simp; omega⟩]
      simp [add_assoc])
    (fun j _ => rfl)
  simp only [Nat.cast_zero, add_zero] at hscan
  have hlast : k.startingPort + ((k.portRangeLimit.toNat + 1 : Nat) : Int) =
      k.startingPort + k.portRangeLimit + 1 := by
    push_cast
    rw [hR', add_assoc]
  rw [createServer, if_pos rfl, if_pos rfl, hscan, hlast, dialLoop_connected (if_pos rfl),
    show k.portRangeLimit.toNat + 2 = k.portRangeLimit.toNat + 1 + 1 from rfl,
    List.range_succ (k.portRangeLimit.toNat + 1), List.map_append, List.map_singleton, hlast]
  rfl

/-- The witness: the spec's defaults, `PORT_RANGE_LIMIT + 1 = 17` ports taken. -/
theorem createServer_past_range_default :
    (0 : Int) ≤ defaultRetries.portRangeLimit ∧
      createServer defaultRetries 0 0 1 true
          (List.replicate (defaultRetries.portRangeLimit.toNat + 1) false ++ [true]) =
        ((List.range (defaultRetries.portRangeLimit.toNat + 2)).map
            (fun j : Nat => (defaultRetries.startingPort + j) % 65536),
          some (.ok (defaultRetries.startingPort + defaultRetries.portRangeLimit + 1))) :=
  ⟨by decide, createServer_past_range defaultRetries 1 (by decide)⟩

/-! ## `get_start_time_from_rti`

Once connected, the federate and the RTI agree on a start time: the federate sends its clock in a
`TIMESTAMP` message and reads the RTI's `TIMESTAMP` reply.  Neither the `write`s nor the read
is retried. -/

/-- `get_start_time_from_rti(my_physical_time)`, the code of `TIMESTAMP` being `timestamp`;
`markerWritten` and `messageWritten` say the two `write`s do not return a negative count.  The
bytes it sends to the RTI, and the start time it returns with the rest of the RTI's stream. -/
def getStartTimeFromRti (timestamp : UInt8) (myPhysicalTime : UInt64)
    (markerWritten messageWritten : Bool) (rti : Inbox) : List UInt8 × Except Halt (UInt64 × Inbox) :=
  if ¬ markerWritten then ([], .error (.error "ERROR sending message ID to RTI"))
  else if ¬ messageWritten then ([timestamp], .error (.error "ERROR sending message to RTI"))
  else
    let sent := timestamp :: hostBytes f.host 8 (swapBytesIfBigEndianLl f.host myPhysicalTime).toNat
    let (bytesRead, buffer, rti) := readFromSocket2 9 rti
    if bytesRead < 1 then (sent, .error (.error "ERROR reading TIMESTAMP message from RTI."))
    else if buffer.headD 0 ≠ timestamp then
      (sent, .error (.exit 1 ("ERROR: Federate expected a TIMESTAMP message from the RTI. Got " ++
        toString (buffer.headD 0) ++ " (see rti.h).\n")))
    else
      (sent, .ok (swapBytesIfBigEndianLl f.host (UInt64.ofNat (hostValue f.host (buffer.drop 1))), rti))

/-- A whole `TIMESTAMP` reply gives the federate its instant and leaves the rest of the stream. -/
theorem getStartTimeFromRti_reply (timestamp : UInt8) (myPhysicalTime t : UInt64)
    (rest : List UInt8) (e : StreamEnd) :
    getStartTimeFromRti f timestamp myPhysicalTime true true ⟨timestamp :: encodeLl t ++ rest, e⟩ =
      (timestamp :: encodeLl myPhysicalTime, .ok (t, ⟨rest, e⟩)) := by
  have ht := extractLl_encodeLl f.host t []
  rw [List.append_nil, ← extractLl_of_length _ (length_encodeLl t)] at ht
  rw [getStartTimeFromRti, if_neg (not_not_intro rfl), if_neg (not_not_intro rfl),
    readFromSocket2_append _ (n := 9) (by simp) (by norm_num), hostBytes_swapBytesIfBigEndianLl]
  dsimp only
  rw [if_neg (by norm_num), if_neg (by simp), List.drop_one, List.tail_cons, ht]

/-- A start time is taken only from a whole `TIMESTAMP` reply, after both `write`s went out. -/
theorem getStartTimeFromRti_ok {timestamp : UInt8} {myPhysicalTime t : UInt64}
    {markerWritten messageWritten : Bool} {rti rti' : Inbox}
    (h : (getStartTimeFromRti f timestamp myPhysicalTime markerWritten messageWritten rti).2 =
      .ok (t, rti')) :
    markerWritten = true ∧ messageWritten = true ∧
      rti = ⟨timestamp :: encodeLl t ++ rti'.bytes, rti'.final⟩ := by
  unfold getStartTimeFromRti at h
  split_ifs at h with h₁ h₂
  refine ⟨h₁, h₂, ?_⟩
  generalize hr : readFromSocket2 9 rti = r at h
  obtain ⟨bytesRead, buffer, rest⟩ := r
  dsimp only at h
  split_ifs at h with h₃ h₄
  have hcount := readFromSocket2_pos_count (n := 9) (s := rti) (by rw [hr]; dsimp only; omega)
  obtain ⟨hle, hread⟩ := readFromSocket2_eq_count (by norm_num) hcount
  rw [hr, show (9 : Int).toNat = 9 from rfl] at hread
  simp only [Prod.mk.injEq] at hread
  obtain ⟨-, rfl, rfl⟩ := hread
  simp only [Except.ok.injEq, Prod.mk.injEq] at h
  obtain ⟨rfl, rfl⟩ := h
  obtain ⟨_ | ⟨b, bs⟩, final⟩ := rti
  · simp at hle
  · have hb : b = timestamp := by simpa using h₄
    have hlen : (bs.take 8).length = 8 := by simp at hle ⊢; omega
    subst hb
    simp only [List.take_succ_cons, List.drop_succ_cons, List.drop_zero]
    rw [extractLl_of_length _ hlen, encodeLl_extractLl _ hlen, List.cons_append, List.take_append_drop]

/-- **The start time the federate takes**: `get_start_time_from_rti` returns `t` exactly when both
`write`s went out and the RTI's stream starts with `TIMESTAMP` and `encode_ll(t)`, and it leaves
the rest of the stream.  Every other reply — short, cut by EOF or an error, or of another kind —
stops the process. -/
theorem getStartTimeFromRti_ok_iff {timestamp : UInt8} {myPhysicalTime t : UInt64}
    {markerWritten messageWritten : Bool} {rti rti' : Inbox} :
    (getStartTimeFromRti f timestamp myPhysicalTime markerWritten messageWritten rti).2 =
        .ok (t, rti') ↔
      markerWritten = true ∧ messageWritten = true ∧
        rti = ⟨timestamp :: encodeLl t ++ rti'.bytes, rti'.final⟩ :=
  ⟨getStartTimeFromRti_ok f, fun ⟨h₁, h₂, h₃⟩ => by
    subst h₁ h₂ h₃
    rw [getStartTimeFromRti_reply]⟩

end ReactorC
