import Mathlib

/-!
# Util/Bytes — host memory, the byte swaps and the decoders of `util.c`

`util.c` moves integers between the wire and the host through unions: a `memcpy` puts wire bytes
into the union's `c[]` and the integer member reads them in *host* order, and
`swap_bytes_if_big_endian_*` reverses the bytes when the host is big-endian.  `hostValue` and
`hostBytes` make the union explicit for both host orders, so one statement covers every pair of
hosts.

* `swapBytesIfBigEndian_hostValue` — on either host, swapping a host-order reading gives the
  *little-endian* value of the bytes, so `extract_ushort`, `extract_int` and `extract_ll` decode
  little-endian;
* `hostBytes_swapBytesIfBigEndian` — on either host, the memory of a swapped value holds the
  little-endian bytes of the value, so what one host writes every host reads back
  (`startTime_round_trip`);
* `extractUshort_encodeUshort` and siblings — the encoders, which are not under `src/`, are the
  little-endian writers the decoders undo.
-/

namespace ReactorC

/-! ## Little-endian byte strings -/

/-- The value of bytes read least significant first. -/
def leValue : List UInt8 → Nat
  | [] => 0
  | b :: bs => b.toNat + 256 * leValue bs

/-- The `n` bytes of `x`, least significant first; bits above `8 * n` are dropped. -/
def leBytes : Nat → Nat → List UInt8
  | 0, _ => []
  | n + 1, x => UInt8.ofNat (x % 256) :: leBytes n (x / 256)

@[simp] theorem leValue_nil : leValue [] = 0 := rfl

@[simp] theorem leValue_cons (b : UInt8) (bs : List UInt8) :
    leValue (b :: bs) = b.toNat + 256 * leValue bs := rfl

@[simp] theorem leBytes_zero (x : Nat) : leBytes 0 x = [] := rfl

theorem leBytes_succ (n x : Nat) :
    leBytes (n + 1) x = UInt8.ofNat (x % 256) :: leBytes n (x / 256) := rfl

@[simp] theorem length_leBytes (n x : Nat) : (leBytes n x).length = n := by
  induction n generalizing x <;> simp [leBytes_succ, *]

@[simp] theorem byte_toNat_ofNat (x : Nat) : (UInt8.ofNat (x % 256)).toNat = x % 256 := by
  simp [UInt8.toNat, UInt8.ofNat]

theorem byte_ofNat_toNat (b : UInt8) : UInt8.ofNat b.toNat = b :=
  UInt8.toNat.inj (by simp [UInt8.toNat, UInt8.ofNat])

theorem leValue_lt (bs : List UInt8) : leValue bs < 256 ^ bs.length := by
  induction bs with
  | nil => simp
  | cons b bs ih =>
    have hb : b.toNat < 256 := b.toNat_lt_size
    simp only [leValue_cons, List.length_cons, Nat.pow_succ]
    omega

/-- Bytes of a value, read back: the value modulo the width. -/
theorem leValue_leBytes (n x : Nat) : leValue (leBytes n x) = x % 256 ^ n := by
  induction n generalizing x with
  | zero => simp [Nat.mod_one]
  | succ n ih =>
    rw [leBytes_succ, leValue_cons, ih, byte_toNat_ofNat, Nat.pow_succ', Nat.mod_mul]

/-- Value of bytes, written back: the same bytes. -/
theorem leBytes_leValue (bs : List UInt8) : leBytes bs.length (leValue bs) = bs := by
  induction bs with
  | nil => rfl
  | cons b bs ih =>
    have hb : b.toNat < 256 := b.toNat_lt_size
    have hmod : (b.toNat + 256 * leValue bs) % 256 = b.toNat := by omega
    have hdiv : (b.toNat + 256 * leValue bs) / 256 = leValue bs := by omega
    rw [List.length_cons, leBytes_succ, leValue_cons, hmod, hdiv, ih, byte_ofNat_toNat]

/-- The network-order (big-endian) value of bytes: the first byte most significant. -/
def beValue (bs : List UInt8) : Nat := leValue bs.reverse

/-! ## Host memory

The host order is the one thing a union exposes: `hostValue` is the integer member of a union whose
`c[]` holds the given bytes, `hostBytes` the `c[]` of a union whose integer member holds `x`. -/

/-- The byte order of the host, as `host_is_big_endian` finds it. -/
inductive Endian
  | little
  | big
  deriving DecidableEq, Repr

/-- The integer member of a union whose `c[]` holds `bs`. -/
def hostValue : Endian → List UInt8 → Nat
  | .little, bs => leValue bs
  | .big, bs => leValue bs.reverse

/-- The `c[]` of a union whose `n`-byte integer member holds `x`. -/
def hostBytes : Endian → Nat → Nat → List UInt8
  | .little, n, x => leBytes n x
  | .big, n, x => (leBytes n x).reverse

@[simp] theorem length_hostBytes (e : Endian) (n x : Nat) : (hostBytes e n x).length = n := by
  cases e <;> simp [hostBytes]

theorem hostValue_lt (e : Endian) (bs : List UInt8) : hostValue e bs < 256 ^ bs.length := by
  cases e
  · exact leValue_lt bs
  · simpa using leValue_lt bs.reverse

/-- A union read back through the member it was written by: the value modulo the width. -/
theorem hostValue_hostBytes (e : Endian) (n x : Nat) :
    hostValue e (hostBytes e n x) = x % 256 ^ n := by
  cases e <;> simp [hostValue, hostBytes, leValue_leBytes]

/-! ## `swap_bytes_if_big_endian_*`

The three swaps differ only in width.  On a big-endian host each writes `src` into the union,
exchanges `c[i]` with `c[n-1-i]` for `i < n / 2` — four exchanges for a `long long`, two for an
`int`, one for an `unsigned short` — which reverses `c[]`, and reads the integer back. -/

/-- `swap_bytes_if_big_endian_*` at width `n` bytes. -/
def swapBytesIfBigEndian (n : Nat) : Endian → Nat → Nat
  | .little, src => src
  | .big, src => hostValue .big (hostBytes .big n src).reverse

/-- `swap_bytes_if_big_endian_int`. -/
def swapBytesIfBigEndianInt (e : Endian) (src : UInt32) : UInt32 :=
  UInt32.ofNat (swapBytesIfBigEndian 4 e src.toNat)

/-- `swap_bytes_if_big_endian_ll`. -/
def swapBytesIfBigEndianLl (e : Endian) (src : UInt64) : UInt64 :=
  UInt64.ofNat (swapBytesIfBigEndian 8 e src.toNat)

/-- `swap_bytes_if_big_endian_ushort`. -/
def swapBytesIfBigEndianUshort (e : Endian) (src : UInt16) : UInt16 :=
  UInt16.ofNat (swapBytesIfBigEndian 2 e src.toNat)

/-- **Decoding.**  On either host, a host-order reading of `n` bytes, swapped, is their
little-endian value. -/
theorem swapBytesIfBigEndian_hostValue (e : Endian) {n : Nat} {bs : List UInt8}
    (hn : bs.length = n) : swapBytesIfBigEndian n e (hostValue e bs) = leValue bs := by
  subst hn
  cases e with
  | little => rfl
  | big =>
    have h : leBytes bs.length (leValue bs.reverse) = bs.reverse := by
      simpa using leBytes_leValue bs.reverse
    simp [swapBytesIfBigEndian, hostValue, hostBytes, h]

/-- **Encoding.**  On either host, the memory of a swapped value holds its `n` little-endian
bytes. -/
theorem hostBytes_swapBytesIfBigEndian (e : Endian) (n x : Nat) :
    hostBytes e n (swapBytesIfBigEndian n e x) = leBytes n x := by
  cases e with
  | little => rfl
  | big =>
    have h := leBytes_leValue (leBytes n x).reverse
    simp only [List.length_reverse, length_leBytes] at h
    simp [swapBytesIfBigEndian, hostValue, hostBytes, h]

/-- A swap stays within its width. -/
theorem swapBytesIfBigEndian_lt (e : Endian) {n x : Nat} (hx : x < 256 ^ n) :
    swapBytesIfBigEndian n e x < 256 ^ n := by
  cases e
  · exact hx
  · simpa using hostValue_lt .big (hostBytes .big n x).reverse

/-- **The swap is an involution** on both host orders: reading a swapped value back through the
union decodes it (`swapBytesIfBigEndian_hostValue`), and its memory is its little-endian bytes
(`hostBytes_swapBytesIfBigEndian`). -/
theorem swapBytesIfBigEndian_involutive (e : Endian) {n x : Nat} (hx : x < 256 ^ n) :
    swapBytesIfBigEndian n e (swapBytesIfBigEndian n e x) = x := by
  have hy := swapBytesIfBigEndian_lt e hx
  calc swapBytesIfBigEndian n e (swapBytesIfBigEndian n e x)
      = swapBytesIfBigEndian n e (hostValue e (hostBytes e n (swapBytesIfBigEndian n e x))) := by
        rw [hostValue_hostBytes, Nat.mod_eq_of_lt hy]
    _ = leValue (hostBytes e n (swapBytesIfBigEndian n e x)) :=
        swapBytesIfBigEndian_hostValue e (length_hostBytes e n _)
    _ = x := by rw [hostBytes_swapBytesIfBigEndian, leValue_leBytes, Nat.mod_eq_of_lt hx]

/-! ## `extract_*`

Each decoder `memcpy`s the first bytes of its argument into a union, reads the integer member and
swaps it.  `extract` is the three at width `n`; each member's value is `extract` at its width
(`toNat_extractInt` and siblings). -/

/-- `extract_*` at width `n` bytes, as a number. -/
def extract (n : Nat) (e : Endian) (bytes : List UInt8) : Nat :=
  swapBytesIfBigEndian n e (hostValue e (bytes.take n))

/-- `extract_int`. -/
def extractInt (e : Endian) (bytes : List UInt8) : UInt32 :=
  swapBytesIfBigEndianInt e (UInt32.ofNat (hostValue e (bytes.take 4)))

/-- `extract_ll`. -/
def extractLl (e : Endian) (bytes : List UInt8) : UInt64 :=
  swapBytesIfBigEndianLl e (UInt64.ofNat (hostValue e (bytes.take 8)))

/-- `extract_ushort`. -/
def extractUshort (e : Endian) (bytes : List UInt8) : UInt16 :=
  swapBytesIfBigEndianUshort e (UInt16.ofNat (hostValue e (bytes.take 2)))

/-- On either host, `extract` reads the first `n` bytes little-endian. -/
theorem extract_eq_leValue (e : Endian) {n : Nat} {bytes : List UInt8} (hn : n ≤ bytes.length) :
    extract n e bytes = leValue (bytes.take n) :=
  swapBytesIfBigEndian_hostValue e (by simp [hn])

theorem hostValue_take_lt (e : Endian) (n : Nat) (bytes : List UInt8) :
    hostValue e (bytes.take n) < 256 ^ n :=
  lt_of_lt_of_le (hostValue_lt e _)
    (Nat.pow_le_pow_right (by omega) (by simp))

theorem toNat_extractInt (e : Endian) (bytes : List UInt8) :
    (extractInt e bytes).toNat = extract 4 e bytes := by
  have h : hostValue e (bytes.take 4) < UInt32.size := by simpa using hostValue_take_lt e 4 bytes
  have h' : swapBytesIfBigEndian 4 e (hostValue e (bytes.take 4)) < UInt32.size := by
    simpa using swapBytesIfBigEndian_lt e (hostValue_take_lt e 4 bytes)
  simp only [extractInt, swapBytesIfBigEndianInt, extract]
  rw [UInt32.toNat_ofNat_of_lt h, UInt32.toNat_ofNat_of_lt h']

theorem toNat_extractLl (e : Endian) (bytes : List UInt8) :
    (extractLl e bytes).toNat = extract 8 e bytes := by
  have h : hostValue e (bytes.take 8) < UInt64.size := by simpa using hostValue_take_lt e 8 bytes
  have h' : swapBytesIfBigEndian 8 e (hostValue e (bytes.take 8)) < UInt64.size := by
    simpa using swapBytesIfBigEndian_lt e (hostValue_take_lt e 8 bytes)
  simp only [extractLl, swapBytesIfBigEndianLl, extract]
  rw [UInt64.toNat_ofNat_of_lt h, UInt64.toNat_ofNat_of_lt h']

theorem toNat_extractUshort (e : Endian) (bytes : List UInt8) :
    (extractUshort e bytes).toNat = extract 2 e bytes := by
  have h : hostValue e (bytes.take 2) < UInt16.size := by simpa using hostValue_take_lt e 2 bytes
  have h' : swapBytesIfBigEndian 2 e (hostValue e (bytes.take 2)) < UInt16.size := by
    simpa using swapBytesIfBigEndian_lt e (hostValue_take_lt e 2 bytes)
  simp only [extractUshort, swapBytesIfBigEndianUshort, extract]
  rw [UInt16.toNat_ofNat_of_lt h, UInt16.toNat_ofNat_of_lt h']

/-- `handle_time_advance_grant` and `handle_incoming_stop_message` read eight bytes into a union
and swap them themselves: that is `extract_ll` of the bytes. -/
theorem extractLl_of_length (e : Endian) {bytes : List UInt8} (h : bytes.length = 8) :
    swapBytesIfBigEndianLl e (UInt64.ofNat (hostValue e bytes)) = extractLl e bytes := by
  rw [extractLl, List.take_of_length_le (by omega)]

/-! ## `encode_*`

The encoders are not under `src/`.  The spec's codec asks `decode(encode(x)) == x`; against the
decoders above that fixes them to the little-endian bytes of `x`, on every host, which is also
what the comment in `send_message_timed` ("Send messages little endian") says. -/

/-- Modelled from the spec: `encode_ushort(x, bytes)`, the two bytes `extract_ushort` reads back
as `x`.  The byte order is the little-endian one of the NOTE in `send_message_timed` ("Send
messages little endian, not big endian"), against the big-endian wire the spec describes. -/
def encodeUshort (x : UInt16) : List UInt8 := leBytes 2 x.toNat

/-- Modelled from the spec: `encode_int(x, bytes)`, for the bit pattern `x` of an `int`, in the
little-endian order of the NOTE in `send_message_timed`, against the spec's big-endian wire. -/
def encodeInt (x : UInt32) : List UInt8 := leBytes 4 x.toNat

/-- Modelled from the spec: `encode_ll(x, bytes)`, for the bit pattern `x` of a `long long`, in
the little-endian order of the NOTE in `send_message_timed`, against the spec's big-endian
wire. -/
def encodeLl (x : UInt64) : List UInt8 := leBytes 8 x.toNat

@[simp] theorem length_encodeUshort (x : UInt16) : (encodeUshort x).length = 2 := length_leBytes _ _

@[simp] theorem length_encodeInt (x : UInt32) : (encodeInt x).length = 4 := length_leBytes _ _

@[simp] theorem length_encodeLl (x : UInt64) : (encodeLl x).length = 8 := length_leBytes _ _

/-- **Decoding undoes encoding**, on either host: `extract_ushort` of what `encode_ushort`
wrote. -/
@[simp] theorem extractUshort_encodeUshort (e : Endian) (x : UInt16) (rest : List UInt8) :
    extractUshort e (encodeUshort x ++ rest) = x := by
  apply UInt16.toNat.inj
  rw [toNat_extractUshort, extract_eq_leValue e (by simp), List.take_left' (length_encodeUshort _),
    encodeUshort, leValue_leBytes]
  exact Nat.mod_eq_of_lt x.toNat_lt_size

@[simp] theorem extractInt_encodeInt (e : Endian) (x : UInt32) (rest : List UInt8) :
    extractInt e (encodeInt x ++ rest) = x := by
  apply UInt32.toNat.inj
  rw [toNat_extractInt, extract_eq_leValue e (by simp), List.take_left' (length_encodeInt _),
    encodeInt, leValue_leBytes]
  exact Nat.mod_eq_of_lt x.toNat_lt_size

@[simp] theorem extractLl_encodeLl (e : Endian) (x : UInt64) (rest : List UInt8) :
    extractLl e (encodeLl x ++ rest) = x := by
  apply UInt64.toNat.inj
  rw [toNat_extractLl, extract_eq_leValue e (by simp), List.take_left' (length_encodeLl _),
    encodeLl, leValue_leBytes]
  exact Nat.mod_eq_of_lt x.toNat_lt_size

/-! ## Instants across hosts -/

theorem toNat_swapBytesIfBigEndianLl (e : Endian) (x : UInt64) :
    (swapBytesIfBigEndianLl e x).toNat = swapBytesIfBigEndian 8 e x.toNat := by
  have h : swapBytesIfBigEndian 8 e x.toNat < UInt64.size :=
    swapBytesIfBigEndian_lt e (show x.toNat < 256 ^ 8 from x.toNat_lt_size)
  unfold swapBytesIfBigEndianLl
  exact UInt64.toNat_ofNat_of_lt h

/-- The memory of `swap_bytes_if_big_endian_ll(x)`, on either host, is `encode_ll(x)`. -/
theorem hostBytes_swapBytesIfBigEndianLl (e : Endian) (x : UInt64) :
    hostBytes e 8 (swapBytesIfBigEndianLl e x).toNat = encodeLl x := by
  rw [toNat_swapBytesIfBigEndianLl, hostBytes_swapBytesIfBigEndian]
  rfl

/-- Eight bytes that `extract_ll` reads encode back to themselves. -/
theorem encodeLl_extractLl (e : Endian) {bs : List UInt8} (h : bs.length = 8) :
    encodeLl (extractLl e bs) = bs := by
  rw [encodeLl, toNat_extractLl, extract_eq_leValue e (by omega),
    List.take_of_length_le (by omega), ← h, leBytes_leValue]

/-- **Round trip of a 64-bit instant across hosts.**  The eight bytes `get_start_time_from_rti`
writes for `x` on the sender — the memory of `swap_bytes_if_big_endian_ll(x)` — read in the
receiver's host order and swapped there give `x` back, whichever the two host orders; and the
swap is an involution on each. -/
theorem startTime_round_trip (sender receiver : Endian) (x : UInt64) :
    swapBytesIfBigEndianLl receiver (UInt64.ofNat
        (hostValue receiver (hostBytes sender 8 (swapBytesIfBigEndianLl sender x).toNat))) = x ∧
      swapBytesIfBigEndianLl sender (swapBytesIfBigEndianLl sender x) = x := by
  have hx : x.toNat < 256 ^ 8 := x.toNat_lt_size
  have hwire : hostBytes sender 8 (swapBytesIfBigEndianLl sender x).toNat = leBytes 8 x.toNat :=
    hostBytes_swapBytesIfBigEndianLl sender x
  have hread : hostValue receiver (leBytes 8 x.toNat) < UInt64.size := by
    have h := hostValue_lt receiver (leBytes 8 x.toNat)
    rwa [length_leBytes] at h
  constructor
  · apply UInt64.toNat.inj
    rw [hwire, toNat_swapBytesIfBigEndianLl, UInt64.toNat_ofNat_of_lt hread,
      swapBytesIfBigEndian_hostValue receiver (length_leBytes 8 _), leValue_leBytes,
      Nat.mod_eq_of_lt hx]
  · apply UInt64.toNat.inj
    rw [toNat_swapBytesIfBigEndianLl, toNat_swapBytesIfBigEndianLl,
      swapBytesIfBigEndian_involutive sender hx]

end ReactorC
