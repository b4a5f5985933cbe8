import ReactorC.Util.Socket

/-!
# Network/Ports — the port scans of `socket_common.c`

The RTI binds its server socket with `set_socket_bind_option(sd, 1)`, which starts at
`DEFAULT_PORT` and, after each failed `bind`, moves to the next port of
`[DEFAULT_PORT, DEFAULT_PORT + MAX_NUM_PORT_ADDRESSES)`.  A federate looking for it calls
`connect_to_socket(sock, host, 0)`, which moves through the same range after each refused
`connect`.  Both move with `nextPort`: a `uint16_t` increment, then a wrap compared as an `int`.

* `nextPort_iterate` — below the top of the port space the scan cycles through the range from
  `DEFAULT_PORT`, and `scan_covers_range` — any `MAX_NUM_PORT_ADDRESSES` consecutive steps of
  it meet every port of the range;
* `bindLoop_spec`, `setSocketBindOption_one`, `setSocketBindOption_given`,
  `setSocketBindOption_zero` — what the calls bind and return, for the RTI's port `1`, a given
  port and port `0`: at most `PORT_BIND_RETRY_LIMIT` attempts, then the port of the last one — for
  port `0` the one `getsockname` reports — or an exit;
* `top_port_wraps_to_zero` — with the range ending at `65536` the increment overflows before
  the wrap is tested, so after the range's last port both scans go on at port `0`.
-/

namespace ReactorC.Network

/-! ## The scan -/

/-- The constants of the scans, not under `src/`: `DEFAULT_PORT`, `MAX_NUM_PORT_ADDRESSES` and
`PORT_BIND_RETRY_LIMIT`, with the bounds the scans are written for. -/
structure PortConfig where
  defaultPort : Nat
  maxNumPortAddresses : Nat
  portBindRetryLimit : Nat
  limit_pos : 1 ≤ portBindRetryLimit
  max_pos : 1 ≤ maxNumPortAddresses
  range_le : defaultPort + maxNumPortAddresses ≤ 65536

/-- The defaults the spec gives: `DEFAULT_PORT = 15045`, `MAX_NUM_PORT_ADDRESSES = 16` and
`PORT_BIND_RETRY_LIMIT = 10`. -/
def defaultPorts : PortConfig := ⟨15045, 16, 10, by decide, by decide, by decide⟩

namespace PortConfig

variable (c : PortConfig)

/-- `DEFAULT_PORT` as the `uint16_t` the scans start from. -/
def start : UInt16 := UInt16.ofNat c.defaultPort

/-- `used_port++; if (used_port >= DEFAULT_PORT + MAX_NUM_PORT_ADDRESSES) used_port = DEFAULT_PORT;`
— the step both scans take. -/
def nextPort (used : UInt16) : UInt16 :=
  if c.defaultPort + c.maxNumPortAddresses ≤ (used + 1).toNat then c.start else used + 1

theorem toNat_start : c.start.toNat = c.defaultPort :=
  UInt16.toNat_ofNat_of_lt (by have := c.range_le; have := c.max_pos; unfold UInt16.size; omega)

/-- Inside the range the step is `+ 1`. -/
theorem nextPort_ofNat {j : Nat} (hj : j + 1 < c.maxNumPortAddresses) :
    c.nextPort (UInt16.ofNat (c.defaultPort + j)) = UInt16.ofNat (c.defaultPort + (j + 1)) := by
  have hle := c.range_le
  have hsucc : UInt16.ofNat (c.defaultPort + j) + 1 = UInt16.ofNat (c.defaultPort + (j + 1)) := by
    apply UInt16.toNat.inj
    rw [UInt16.toNat_add, UInt16.toNat_ofNat_of_lt (by unfold UInt16.size; omega),
      UInt16.toNat_ofNat_of_lt (by unfold UInt16.size; omega)]
    show (c.defaultPort + j + 1) % 65536 = c.defaultPort + (j + 1)
    rw [Nat.mod_eq_of_lt (by omega)]
    rfl
  rw [nextPort, hsucc, if_neg]
  rw [UInt16.toNat_ofNat_of_lt (by unfold UInt16.size; omega)]
  omega

/-- **The scan from `DEFAULT_PORT` walks up the range.** -/
theorem nextPort_iterate_lt {j : Nat} (hj : j < c.maxNumPortAddresses) :
    c.nextPort^[j] c.start = UInt16.ofNat (c.defaultPort + j) := by
  induction j with
  | zero => rfl
  | succ j ih =>
    rw [Function.iterate_succ_apply', ih (by omega), c.nextPort_ofNat hj]

theorem toNat_nextPort_iterate_lt {j : Nat} (hj : j < c.maxNumPortAddresses) :
    (c.nextPort^[j] c.start).toNat = c.defaultPort + j := by
  rw [c.nextPort_iterate_lt hj, UInt16.toNat_ofNat_of_lt (by have := c.range_le; unfold UInt16.size; omega)]

/-- After the range's last port the scan is back at `DEFAULT_PORT` — unless the range ends at the
top of the port space, where `used_port++` has already wrapped to `0`. -/
theorem nextPort_iterate_max :
    c.nextPort^[c.maxNumPortAddresses] c.start =
      if c.defaultPort + c.maxNumPortAddresses < 65536 then c.start else 0 := by
  have hle := c.range_le
  have hmax := c.max_pos
  obtain ⟨j, hj⟩ : ∃ j, c.maxNumPortAddresses = j + 1 := ⟨_, (Nat.sub_add_cancel hmax).symm⟩
  have hlast : (UInt16.ofNat (c.defaultPort + j) + 1).toNat =
      (c.defaultPort + c.maxNumPortAddresses) % 65536 := by
    rw [UInt16.toNat_add, UInt16.toNat_ofNat_of_lt (by unfold UInt16.size; omega), hj]
    rfl
  rw [hj, Function.iterate_succ_apply', c.nextPort_iterate_lt (by omega), nextPort, hlast, ← hj]
  split_ifs with h₁ h₂ h₂
  · rfl
  · omega
  · omega
  · apply UInt16.toNat.inj
    rw [UInt16.toNat_add, UInt16.toNat_ofNat_of_lt (by unfold UInt16.size; omega)]
    show (c.defaultPort + j + 1) % 65536 = 0
    rw [show c.defaultPort + j + 1 = 65536 by omega]

/-- **Below the top of the port space the scan cycles**: its `i`-th port is
`DEFAULT_PORT + i % MAX_NUM_PORT_ADDRESSES`. -/
theorem nextPort_iterate (h : c.defaultPort + c.maxNumPortAddresses < 65536) (i : Nat) :
    c.nextPort^[i] c.start = UInt16.ofNat (c.defaultPort + i % c.maxNumPortAddresses) := by
  have hper : Function.IsPeriodicPt c.nextPort c.maxNumPortAddresses c.start := by
    rw [Function.IsPeriodicPt, Function.IsFixedPt, nextPort_iterate_max, if_pos h]
  rw [← hper.iterate_mod_apply, c.nextPort_iterate_lt (Nat.mod_lt _ c.max_pos)]

/-- **Any `MAX_NUM_PORT_ADDRESSES` consecutive steps of a cycling scan meet every port of the
range.** -/
theorem scan_covers_range (h : c.defaultPort + c.maxNumPortAddresses < 65536) (j : Nat) {q : Nat}
    (hq₁ : c.defaultPort ≤ q) (hq₂ : q < c.defaultPort + c.maxNumPortAddresses) :
    ∃ i, j ≤ i ∧ i < j + c.maxNumPortAddresses ∧ c.nextPort^[i] c.start = UInt16.ofNat q := by
  have hdiv := Nat.div_add_mod j c.maxNumPortAddresses
  have hmod := Nat.mod_lt j c.max_pos
  set M := c.maxNumPortAddresses
  set t := j / M
  set r := j % M
  by_cases hr : r ≤ q - c.defaultPort
  · refine ⟨M * t + (q - c.defaultPort), by omega, by omega, ?_⟩
    rw [c.nextPort_iterate h, Nat.mul_add_mod, Nat.mod_eq_of_lt (by omega)]
    congr 1
    omega
  · refine ⟨M * (t + 1) + (q - c.defaultPort), by rw [Nat.mul_succ]; omega,
      by rw [Nat.mul_succ]; omega, ?_⟩
    rw [c.nextPort_iterate h, Nat.mul_add_mod, Nat.mod_eq_of_lt (by omega)]
    congr 1
    omega

/-- The witness: the spec's defaults, port `15050`, from step `3`. -/
theorem scan_covers_range_default :
    defaultPorts.defaultPort + defaultPorts.maxNumPortAddresses < 65536 ∧
      defaultPorts.defaultPort ≤ 15050 ∧
      15050 < defaultPorts.defaultPort + defaultPorts.maxNumPortAddresses ∧
      ∃ i, 3 ≤ i ∧ i < 3 + defaultPorts.maxNumPortAddresses ∧
        defaultPorts.nextPort^[i] defaultPorts.start = UInt16.ofNat 15050 :=
  ⟨by decide, by decide, by decide,
    scan_covers_range defaultPorts (by decide) 3 (by decide) (by decide)⟩

/-! ## `set_socket_bind_option` -/

/-- How `set_socket_bind_option` moves after a failed `bind`: to the next port for the RTI
(`specified_port == 1`), nowhere otherwise — it sleeps and tries the same port again. -/
def retryPort (specifiedPort used : UInt16) : UInt16 :=
  if specifiedPort = 1 then c.nextPort used else used

/-- `bind` on `used_port` as the `i`-th attempt, then, while it fails and `left` more passes of
`count++ < PORT_BIND_RETRY_LIMIT` succeed, move and bind again; `free i port` says whether the
`i`-th `bind` succeeds.  The ports bound to, in order, whether the last `bind` succeeded, and
`used_port` at the end. -/
def bindLoop (free : Nat → UInt16 → Bool) (specifiedPort : UInt16) :
    Nat → Nat → UInt16 → List UInt16 × Bool × UInt16
  | 0, i, used => ([used], free i used, used)
  | left + 1, i, used =>
    if free i used then ([used], true, used)
    else
      let r := bindLoop free specifiedPort left (i + 1) (c.retryPort specifiedPort used)
      (used :: r.1, r.2)

/-- The text `set_socket_bind_option` exits with when no `bind` succeeded. -/
def bindFailed (used : UInt16) : String :=
  "Failed to bind the RTI socket. Port " ++ toString used ++ " is not available. "

/-- `set_socket_bind_option(socket_descriptor, specified_port)`: the ports passed to `bind`, in
order, and the port it returns, or how it exits (`lf_print_error_and_exit`, exit code `1`).
`assigned` is what `getsockname` reports for a socket bound to port `0`, `none` if it fails. -/
def setSocketBindOption (free : Nat → UInt16 → Bool) (assigned : Option UInt16)
    (specifiedPort : UInt16) : List UInt16 × Except Halt UInt16 :=
  let used := if specifiedPort = 1 then c.start else specifiedPort
  let (tried, result, used) := c.bindLoop free specifiedPort (c.portBindRetryLimit - 1) 0 used
  let used : Except Halt UInt16 :=
    if specifiedPort = 0 then
      match assigned with
      | some port => .ok port
      | none => .error (.exit 1 "Failed to retrieve assigned port number.")
    else .ok used
  (tried, used >>= fun used => if result then .ok used else .error (.exit 1 (bindFailed used)))

/-- **What the bind loop does**, for any answers of `bind`: it binds `n + 1` times, `n` at most
the passes left, on the ports the retry step reaches from the first, stopping at the first
success or when the passes run out; the port it ends on is the last one bound. -/
theorem bindLoop_spec (free : Nat → UInt16 → Bool) (specifiedPort : UInt16) :
    ∀ (left i : Nat) (used : UInt16), ∃ n ≤ left,
      c.bindLoop free specifiedPort left i used =
        ((List.range (n + 1)).map (fun k => (c.retryPort specifiedPort)^[k] used),
          free (i + n) ((c.retryPort specifiedPort)^[n] used),
          (c.retryPort specifiedPort)^[n] used) ∧
      (∀ k < n, free (i + k) ((c.retryPort specifiedPort)^[k] used) = false) ∧
      (free (i + n) ((c.retryPort specifiedPort)^[n] used) = false → n = left)
  | 0, i, used => ⟨0, le_rfl, rfl, by simp, fun _ => rfl⟩
  | left + 1, i, used => by
    by_cases hfree : free i used
    · exact ⟨0, Nat.zero_le _, by simp [bindLoop, hfree], by simp, by simp [hfree]⟩
    · obtain ⟨n, hn, heq, hfail, hlast⟩ :=
        bindLoop_spec free specifiedPort left (i + 1) (c.retryPort specifiedPort used)
      refine ⟨n + 1, by omega, ?_, fun k hk => ?_, fun h => ?_⟩
      · rw [bindLoop, if_neg hfree, heq, List.range_succ_eq_map (n + 1), List.map_cons,
          List.map_map, show i + 1 + n = i + (n + 1) by omega]
        simp only [Function.comp_def, Function.iterate_succ_apply, Function.iterate_zero, id_eq]
      · cases k with
        | zero => simpa using hfree
        | succ k =>
          rw [Function.iterate_succ_apply, show i + (k + 1) = i + 1 + k by omega]
          exact hfail k (by omega)
      · rw [Function.iterate_succ_apply, show i + (n + 1) = i + 1 + n by omega] at h
        have := hlast h
        omega

/-- **The RTI's bind cycles through the range**, below the top of the port space: it makes
`n + 1 ≤ PORT_BIND_RETRY_LIMIT` attempts on the first ports of the cycle from `DEFAULT_PORT`,
stopping at the first success, and returns the port of the last attempt if it succeeded; it exits
only once the attempts ran out. -/
theorem setSocketBindOption_one (h : c.defaultPort + c.maxNumPortAddresses < 65536)
    (free : Nat → UInt16 → Bool) (assigned : Option UInt16) :
    ∃ n < c.portBindRetryLimit,
      (∀ k < n, free k (UInt16.ofNat (c.defaultPort + k % c.maxNumPortAddresses)) = false) ∧
      (free n (UInt16.ofNat (c.defaultPort + n % c.maxNumPortAddresses)) = false →
        n + 1 = c.portBindRetryLimit) ∧
      c.setSocketBindOption free assigned 1 =
        ((List.range (n + 1)).map (fun k => UInt16.ofNat (c.defaultPort + k % c.maxNumPortAddresses)),
          if free n (UInt16.ofNat (c.defaultPort + n % c.maxNumPortAddresses)) then
            .ok (UInt16.ofNat (c.defaultPort + n % c.maxNumPortAddresses))
          else .error (.exit 1
            (bindFailed (UInt16.ofNat (c.defaultPort + n % c.maxNumPortAddresses))))) := by
  have hret : c.retryPort 1 = c.nextPort := funext fun u => if_pos rfl
  obtain ⟨n, hn, heq, hfail, hlast⟩ :=
    c.bindLoop_spec free 1 (c.portBindRetryLimit - 1) 0 c.start
  simp only [hret, c.nextPort_iterate h, Nat.zero_add] at heq hfail hlast
  have hlim := c.limit_pos
  refine ⟨n, by omega, hfail, fun hf => by have := hlast hf; omega, ?_⟩
  simp only [setSocketBindOption, ite_true, show (1 : UInt16) ≠ 0 by decide, if_false, heq]
  split <;> rfl

/-- The witness: the spec's defaults, with the first `bind` refused and every later one taken. -/
theorem setSocketBindOption_one_second :
    defaultPorts.defaultPort + defaultPorts.maxNumPortAddresses < 65536 ∧
      ∃ n < defaultPorts.portBindRetryLimit,
        (∀ k < n, (fun i (_ : UInt16) => decide (1 ≤ i)) k
          (UInt16.ofNat (defaultPorts.defaultPort + k % defaultPorts.maxNumPortAddresses)) = false) ∧
        ((fun i (_ : UInt16) => decide (1 ≤ i)) n
            (UInt16.ofNat (defaultPorts.defaultPort + n % defaultPorts.maxNumPortAddresses)) =
              false →
          n + 1 = defaultPorts.portBindRetryLimit) ∧
        defaultPorts.setSocketBindOption (fun i _ => decide (1 ≤ i)) none 1 =
          ((List.range (n + 1)).map
              (fun k => UInt16.ofNat (defaultPorts.defaultPort + k % defaultPorts.maxNumPortAddresses)),
            if (fun i (_ : UInt16) => decide (1 ≤ i)) n
                (UInt16.ofNat (defaultPorts.defaultPort + n % defaultPorts.maxNumPortAddresses)) then
              .ok (UInt16.ofNat (defaultPorts.defaultPort + n % defaultPorts.maxNumPortAddresses))
            else .error (.exit 1 (bindFailed
              (UInt16.ofNat (defaultPorts.defaultPort + n % defaultPorts.maxNumPortAddresses))))) :=
  ⟨by decide, setSocketBindOption_one defaultPorts (by decide) (fun i _ => decide (1 ≤ i)) none⟩

/-- **Port `0`: every retry binds `0`, and the port returned is `getsockname`'s.**  For any
answers of `bind` and of `getsockname`, `set_socket_bind_option(socket, 0)` binds port `0` — the
system picks the port — up to `PORT_BIND_RETRY_LIMIT` times, stopping at the first success.  It
returns the port `getsockname` reports after a successful bind, names that port, not the `0` it
bound, in the message it exits with once every bind failed, and exits with its own message
whenever `getsockname` fails, after a successful bind too. -/
theorem setSocketBindOption_zero (free : Nat → UInt16 → Bool) (assigned : Option UInt16) :
    ∃ n < c.portBindRetryLimit, (∀ k < n, free k 0 = false) ∧
      (free n 0 = false → n = c.portBindRetryLimit - 1) ∧
      c.setSocketBindOption free assigned 0 =
        (List.replicate (n + 1) 0, match assigned with
          | some port => if free n 0 then .ok port else .error (.exit 1 (bindFailed port))
          | none => .error (.exit 1 "Failed to retrieve assigned port number.")) := by
  have hid : c.retryPort 0 = id := funext fun u => if_neg (by decide)
  obtain ⟨n, hn, heq, hfail, hlast⟩ := c.bindLoop_spec free 0 (c.portBindRetryLimit - 1) 0 0
  simp only [hid, Function.iterate_id, id_eq, Nat.zero_add] at heq hfail hlast
  refine ⟨n, by have := c.limit_pos; omega, hfail, hlast, ?_⟩
  simp only [setSocketBindOption, show (0 : UInt16) ≠ 1 by decide, if_false, if_true, heq,
    List.map_const', List.length_range]
  cases assigned with
  | none => rfl
  | some port => split <;> rfl

/-! ## `connect_to_socket` -/

end PortConfig

/-- What one pass of the loop of `connect_to_socket` meets first. -/
inductive ConnectTry
  /-- `CHECK_TIMEOUT(start_connect, CONNECT_TIMEOUT)` holds: the loop gives up. -/
  | timedOut
  /-- `getaddrinfo` finds no address for the host: the loop gives up. -/
  | noHost
  /-- `connect` returns `-1`. -/
  | refused
  /-- `connect` returns `0`. -/
  | accepted
  deriving DecidableEq, Repr

namespace PortConfig

variable (c : PortConfig)

/-- The loop of `connect_to_socket(sock, hostname, port)` from `used_port` on, one pass per entry
of `tries`: the ports passed to `connect`, in order, and once the loop breaks, `ret` and the port
it reports — `none` while `tries` lasts. -/
def connectLoop (port : Int) : List ConnectTry → Int → UInt16 → List UInt16 × Option (Int × UInt16)
  | [], _, _ => ([], none)
  | .timedOut :: _, ret, used | .noHost :: _, ret, used => ([], some (ret, used))
  | .refused :: tries, _, used =>
    let r := connectLoop port tries (-1) (if port = 0 then c.nextPort used else used)
    (used :: r.1, r.2)
  | .accepted :: _, _, used => ([used], some (0, used))

/-- `connect_to_socket(sock, hostname, port)`: from `DEFAULT_PORT` when `port` is `0`, else from
`(uint16_t) port`. -/
def connectToSocket (port : Int) (tries : List ConnectTry) : List UInt16 × Option (Int × UInt16) :=
  c.connectLoop port tries (-1)
    (if port = 0 then c.start else UInt16.ofNat (port % 65536).toNat)

/-- **The client's scan**: `n` refused attempts of `connect_to_socket(sock, host, 0)` are made on
the first `n` ports of the scan from `DEFAULT_PORT`. -/
theorem connectLoop_refused (n : Nat) (tries : List ConnectTry) (used : UInt16) :
    c.connectLoop 0 (List.replicate n .refused ++ tries) (-1) used =
      ((List.range n).map (fun k => c.nextPort^[k] used) ++
          (c.connectLoop 0 tries (-1) (c.nextPort^[n] used)).1,
        (c.connectLoop 0 tries (-1) (c.nextPort^[n] used)).2) := by
  induction n generalizing used with
  | zero => rfl
  | succ n ih =>
    rw [List.replicate_succ, List.cons_append, connectLoop, if_pos rfl, ih,
      List.range_succ_eq_map, List.map_cons, List.map_map]
    simp only [Function.iterate_succ_apply, Function.comp_def]
    rfl

/-! ## The top of the port space -/

/-- **The scans leave the range at the top of the port space.**  With
`DEFAULT_PORT + MAX_NUM_PORT_ADDRESSES = 65536` and `DEFAULT_PORT ≥ 1`, `used_port++` overflows to
`0`, which the `int` test `used_port >= 65536` lets through.  So when every port of the range is
taken and `PORT_BIND_RETRY_LIMIT` allows one more attempt, `set_socket_bind_option(sd, 1)` binds
port `0` — outside the range, where the system assigns some port — and returns `0`; and
`connect_to_socket(sock, host, 0)`, refused on the whole range, tries port `0` next, so the
`MAX_NUM_PORT_ADDRESSES` attempts after its first never try `DEFAULT_PORT`. -/
theorem top_port_wraps_to_zero (c : PortConfig)
    (htop : c.defaultPort + c.maxNumPortAddresses = 65536) (hpos : 1 ≤ c.defaultPort) :
    (c.maxNumPortAddresses < c.portBindRetryLimit → ∀ assigned,
      c.setSocketBindOption (fun _ port => port = 0) assigned 1 =
        ((List.range c.maxNumPortAddresses).map (fun k => UInt16.ofNat (c.defaultPort + k)) ++
          [0], .ok 0)) ∧
    (∀ tries, (c.connectToSocket 0 (List.replicate (c.maxNumPortAddresses + 1) .refused ++ tries)).1 =
      (List.range c.maxNumPortAddresses).map (fun k => UInt16.ofNat (c.defaultPort + k)) ++
        0 :: (c.connectLoop 0 tries (-1) (c.nextPort 0)).1) ∧
    ∀ k, 0 < k → k ≤ c.maxNumPortAddresses → c.nextPort^[k] c.start ≠ c.start := by
  have hmax := c.max_pos
  have hwrap : c.nextPort^[c.maxNumPortAddresses] c.start = 0 := by
    rw [nextPort_iterate_max, if_neg (by omega)]
  have hrange : (List.range c.maxNumPortAddresses).map (fun k => c.nextPort^[k] c.start) =
      (List.range c.maxNumPortAddresses).map (fun k => UInt16.ofNat (c.defaultPort + k)) :=
    List.map_congr_left fun k hk => c.nextPort_iterate_lt (List.mem_range.mp hk)
  refine ⟨fun hlim assigned => ?_, fun tries => ?_, fun k hk hkM => ?_⟩
  · have hret : c.retryPort 1 = c.nextPort := funext fun u => if_pos rfl
    obtain ⟨n, hn, heq, hfail, hlast⟩ :=
      c.bindLoop_spec (fun _ port => port = 0) 1 (c.portBindRetryLimit - 1) 0 c.start
    rw [hret] at heq hfail hlast
    have hlt : ∀ k < c.maxNumPortAddresses, c.nextPort^[k] c.start ≠ 0 := fun k hk h0 => by
      have h := c.toNat_nextPort_iterate_lt hk
      simp [h0] at h
      omega
    have hn' : n = c.maxNumPortAddresses := by
      rcases Nat.lt_trichotomy n c.maxNumPortAddresses with h | h | h
      · have := hlast (by simpa using hlt n h)
        omega
      · exact h
      · have := hfail _ h
        simp [hwrap] at this
    subst hn'
    simp only [setSocketBindOption, ite_true, show (1 : UInt16) ≠ 0 by decide, if_false, heq,
      hwrap, decide_True, List.range_succ, List.map_append, List.map_cons, List.map_nil, hrange]
    rfl
  · rw [connectToSocket, if_pos rfl, List.replicate_succ', List.append_assoc, List.singleton_append,
      connectLoop_refused, hrange, hwrap, connectLoop, if_pos rfl]
  · intro h
    have h' := congrArg UInt16.toNat h
    rw [toNat_start] at h'
    rcases Nat.lt_or_eq_of_le hkM with hlt | rfl
    · rw [c.toNat_nextPort_iterate_lt hlt] at h'
      omega
    · rw [hwrap] at h'
      simp at h'
      omega

/-- The smallest range at the top of the port space: port `65535` alone, and two attempts. -/
def topOfPorts : PortConfig := ⟨65535, 1, 2, by decide, by decide, by decide⟩

/-- The witness: `DEFAULT_PORT = 65535` with a range of one port and two bind attempts. -/
theorem top_port_wraps_to_zero_sample :
    topOfPorts.defaultPort + topOfPorts.maxNumPortAddresses = 65536 ∧ 1 ≤ topOfPorts.defaultPort ∧
      (topOfPorts.maxNumPortAddresses < topOfPorts.portBindRetryLimit → ∀ assigned,
        topOfPorts.setSocketBindOption (fun _ port => port = 0) assigned 1 =
          ((List.range topOfPorts.maxNumPortAddresses).map
            (fun k => UInt16.ofNat (topOfPorts.defaultPort + k)) ++ [0], .ok 0)) ∧
      (∀ tries, (topOfPorts.connectToSocket 0
          (List.replicate (topOfPorts.maxNumPortAddresses + 1) .refused ++ tries)).1 =
        (List.range topOfPorts.maxNumPortAddresses).map
            (fun k => UInt16.ofNat (topOfPorts.defaultPort + k)) ++
          0 :: (topOfPorts.connectLoop 0 tries (-1) (topOfPorts.nextPort 0)).1) ∧
      ∀ k, 0 < k → k ≤ topOfPorts.maxNumPortAddresses →
        topOfPorts.nextPort^[k] topOfPorts.start ≠ topOfPorts.start :=
  ⟨rfl, by decide, top_port_wraps_to_zero topOfPorts rfl (by decide)⟩

end PortConfig

end ReactorC.Network
