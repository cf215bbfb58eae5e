import Mathlib.Data.List.GetD
import Mathlib.Logic.Function.Basic
import Mathlib.Tactic.Ring

/-! The integer codec and the payload reader (loop/bytebuffer.hpp).

A buffer the code writes through a bare pointer is a memory `Nat → UInt8`; a
payload it reads is a list, and a read past its end is a fault, because nothing
in the code checks it. -/
namespace OpenGrok

abbrev Bytes := List UInt8

/-- What ends the process: an exception that nothing catches, or a step the
language leaves undefined. -/
inductive Fault where
  /-- `std::out_of_range`, from `at` on a map. -/
  | outOfRange
  /-- `EmptyQueue::raise(READ)`. -/
  | emptyRead
  /-- `EmptyQueue::raise(WRITE)`. -/
  | emptyWrite
  | sysError
  | noObservers
  /-- A `BufferReader` reads what is not in its payload. -/
  | overrun
  /-- A write outside a buffer, or a step through a deleted object. -/
  | undefined
  /-- Observers removing one another deeper than the model follows. -/
  | nesting
  deriving DecidableEq, Repr

inductive Endianess where
  | BIG
  | LITTLE
  deriving DecidableEq, Repr

namespace ByteBuffer

/-- `int_to_bytes`, little endian: positions 0 to `sz - 1`, the low byte first. -/
def intToBytesLittle (sz : Nat) : Nat → Nat → (Nat → UInt8) → (Nat → UInt8)
  | 0, _, buffer => buffer
  | n + 1, integer, buffer =>
    intToBytesLittle sz n (integer >>> 8)
      (Function.update buffer (sz - (n + 1)) (UInt8.ofNat (integer &&& 0xff)))

/-- `int_to_bytes`, big endian: positions `sz` down to 1, as the loop has them. -/
def intToBytesBig : Nat → Nat → (Nat → UInt8) → (Nat → UInt8)
  | 0, _, buffer => buffer
  | pos + 1, integer, buffer =>
    intToBytesBig pos (integer >>> 8)
      (Function.update buffer (pos + 1) (UInt8.ofNat (integer &&& 0xff)))

/-- `int_to_bytes<IntegerType>` with `sz = sizeof(IntegerType)`. -/
def intToBytes (sz integer : Nat) (endianess : Endianess) (buffer : Nat → UInt8) : Nat → UInt8 :=
  match endianess with
  | .LITTLE => intToBytesLittle sz sz integer buffer
  | .BIG => intToBytesBig sz integer buffer

/-- The `while (pos != 0)` loop of `bytes_to_int`. -/
def bytesToIntLittle (sz : Nat) (buffer : Nat → UInt8) : Nat → Nat → Nat
  | 0, value => value
  | pos + 1, value =>
    bytesToIntLittle sz buffer pos ((value <<< 8 ||| (buffer pos).toNat) % 2 ^ (8 * sz))

/-- The `while (pos < sizeof(IntegerType))` loop of `bytes_to_int`, with `left` rounds to go. -/
def bytesToIntBig (sz : Nat) (buffer : Nat → UInt8) : Nat → Nat → Nat
  | 0, value => value
  | left + 1, value =>
    bytesToIntBig sz buffer left
      ((value <<< 8 ||| (buffer (sz - (left + 1))).toNat) % 2 ^ (8 * sz))

/-- `bytes_to_int<IntegerType>` with `sz = sizeof(IntegerType)`. -/
def bytesToInt (sz : Nat) (buffer : Nat → UInt8) (endianess : Endianess) : Nat :=
  if sz = 1 then (buffer 0).toNat
  else match endianess with
    | .LITTLE => bytesToIntLittle sz buffer (sz - 1) (buffer (sz - 1)).toNat
    | .BIG => bytesToIntBig sz buffer (sz - 1) (buffer 0).toNat

/-- A local buffer of `sz` bytes that `int_to_bytes` has filled, as every caller of
the server uses it (`LITTLE` is the default). -/
def encode (sz integer : Nat) : Bytes :=
  (List.range sz).map (intToBytes sz integer .LITTLE fun _ => 0)

end ByteBuffer

/-- `BufferReader`: the payload (`none` is the null pointer) and the offset. Every
reader of the server is little endian. -/
structure BufferReader where
  buffer : Option Bytes
  offset : Nat := 0
  endianess : Endianess := .LITTLE
  deriving DecidableEq, Repr

namespace BufferReader

/-- The bytes at the offset, if `size` of them are there. -/
def slice (reader : BufferReader) (size : Nat) : Except Fault Bytes :=
  match reader.buffer with
  | none => .error .overrun
  | some buffer =>
    if reader.offset + size ≤ buffer.length then .ok ((buffer.drop reader.offset).take size)
    else .error .overrun

/-- `read<T>` with `sz = sizeof(T)`. -/
def read (reader : BufferReader) (sz : Nat) : Except Fault (Nat × BufferReader) := do
  let bytes ← reader.slice sz
  let value := ByteBuffer.bytesToInt sz (fun i => bytes.getD i 0) reader.endianess
  return (value, { reader with offset := reader.offset + sz })

/-- `memcpy(buffer + offset, src, length)`. -/
def memcpy (reader : BufferReader) (src : Bytes) (length : Nat) : Except Fault BufferReader :=
  match reader.buffer with
  | none => .error .overrun
  | some buffer =>
    if reader.offset + length ≤ buffer.length ∧ length ≤ src.length then
      .ok { reader with buffer := some (buffer.take reader.offset ++ src.take length ++
        buffer.drop (reader.offset + length)) }
    else .error .overrun

/-- `read_buffer`. The copy goes from `dest` to the payload; what `dest` holds afterwards
is returned. -/
def readBuffer (reader : BufferReader) (dest : Bytes) (length : Nat) :
    Except Fault (Bytes × BufferReader) := do
  let reader ← reader.memcpy dest length
  return (dest, { reader with offset := reader.offset + length })

/-- `read_string<string_size_t>` with `sz = sizeof(string_size_t)`. -/
def readString (reader : BufferReader) (sz : Nat) : Except Fault (Bytes × BufferReader) := do
  let (size, reader) ← reader.read sz
  let str ← reader.slice size
  return (str, { reader with offset := reader.offset + size })

/-- `get_ptr`. A pointer is where it points in the payload. -/
def getPtr (reader : BufferReader) (size : Nat) : Nat × BufferReader :=
  (reader.offset, { reader with offset := reader.offset + size })

end BufferReader

/-! ### Little endian, as a value of a list of bytes -/

namespace ByteBuffer

/-- The number a list of bytes denotes, low byte first. -/
def value : Bytes → Nat
  | [] => 0
  | b :: rest => b.toNat + 256 * value rest

/-- The low `n` bytes of a number, low byte first. -/
def digits : Nat → Nat → Bytes
  | 0, _ => []
  | n + 1, integer => UInt8.ofNat (integer % 256) :: digits n (integer / 256)

@[simp] theorem digits_length (n integer : Nat) : (digits n integer).length = n := by
  induction n generalizing integer with
  | zero => rfl
  | succ n ih => rw [digits, List.length_cons, ih]

theorem value_digits (n integer : Nat) : value (digits n integer) = integer % 256 ^ n := by
  induction n generalizing integer with
  | zero => rw [digits, value, Nat.pow_zero, Nat.mod_one]
  | succ n ih =>
    have hb : (UInt8.ofNat (integer % 256)).toNat = integer % 256 := by
      rw [UInt8.toNat_ofNat']
      exact Nat.mod_eq_of_lt (Nat.mod_lt _ (by decide))
    rw [digits, value, ih, hb, Nat.pow_succ', Nat.mod_mul]

theorem value_lt (bytes : Bytes) : value bytes < 256 ^ bytes.length := by
  induction bytes with
  | nil => exact Nat.one_pos
  | cons b rest ih =>
    have hb : b.toNat < 256 := b.toNat_lt
    rw [value, List.length_cons, Nat.pow_succ]
    omega

/-- A byte after the others counts the most. -/
theorem value_concat (bytes : Bytes) (b : UInt8) :
    value (bytes ++ [b]) = value bytes + 256 ^ bytes.length * b.toNat := by
  induction bytes with
  | nil => simp [value]
  | cons c rest ih =>
    rw [List.cons_append, value, ih, value, List.length_cons, Nat.pow_succ]
    ring

theorem digits_value (bytes : Bytes) : digits bytes.length (value bytes) = bytes := by
  induction bytes with
  | nil => rfl
  | cons b rest ih =>
    have hb : b.toNat < 256 := b.toNat_lt
    have hlow : (b.toNat + 256 * value rest) % 256 = b.toNat := by omega
    have hhigh : (b.toNat + 256 * value rest) / 256 = value rest := by omega
    rw [List.length_cons, value, digits, hlow, hhigh, ih, UInt8.ofNat_toNat]

/-- The writing loop leaves the digits of the integer behind, and the rest alone. -/
theorem intToBytesLittle_apply (sz n integer : Nat) (buffer : Nat → UInt8) (hn : n ≤ sz) (i : Nat) :
    intToBytesLittle sz n integer buffer i =
      if sz - n ≤ i ∧ i < sz then (digits n integer).getD (i - (sz - n)) 0 else buffer i := by
  induction n generalizing integer buffer with
  | zero =>
    rw [intToBytesLittle, if_neg (by omega)]
  | succ n ih =>
    have hand : integer &&& 0xff = integer % 256 := Nat.and_two_pow_sub_one_eq_mod integer 8
    rw [intToBytesLittle, ih _ _ (by omega), Nat.shiftRight_eq_div_pow, hand]
    by_cases hfirst : i = sz - (n + 1)
    · subst hfirst
      rw [if_neg (by omega), Function.update_self, if_pos (by omega), Nat.sub_self]
      rfl
    · rw [Function.update_of_ne hfirst]
      by_cases hin : sz - n ≤ i ∧ i < sz
      · have hsub : i - (sz - (n + 1)) = i - (sz - n) + 1 := by omega
        rw [if_pos hin, if_pos (by omega), hsub, digits, List.getD_cons_succ]
      · rw [if_neg hin, if_neg (by omega)]

theorem encode_eq_digits (sz integer : Nat) : encode sz integer = digits sz integer := by
  apply List.ext_getElem
  · simp [encode]
  · intro i hi hd
    have hlt : i < sz := by simpa [encode] using hi
    simp only [encode, intToBytes, List.getElem_map, List.getElem_range]
    rw [intToBytesLittle_apply sz sz integer _ (Nat.le_refl sz), if_pos (by omega), Nat.sub_self,
      Nat.sub_zero]
    exact List.getD_eq_getElem _ _ hd

@[simp] theorem encode_length (sz integer : Nat) : (encode sz integer).length = sz := by
  simp [encode]

/-- Shifting in one byte below a value that leaves room for it. -/
private theorem shift_in (v b k : Nat) (hb : b < 256) (hv : v < 256 ^ k) :
    (v <<< 8 ||| b) = v * 256 + b ∧ v * 256 + b < 256 ^ (k + 1) := by
  have hb8 : b < 2 ^ 8 := hb
  refine ⟨?_, ?_⟩
  · rw [Nat.shiftLeft_eq, Nat.mul_comm, ← Nat.two_pow_add_eq_or_of_lt hb8]
  · rw [Nat.pow_succ]
    omega

/-- A value of `k` bytes fits a type of `sz` bytes. -/
private theorem fits_width {v k sz : Nat} (hv : v < 256 ^ k) (hk : k ≤ sz) : v < 2 ^ (8 * sz) := by
  have h256 : (2 : Nat) ^ (8 * sz) = 256 ^ sz := by rw [Nat.pow_mul]
  rw [h256]
  exact Nat.lt_of_lt_of_le hv (Nat.pow_le_pow_right (by decide) hk)

/-- The reading loop with `pos` bytes to go: what was read so far stays above them. -/
theorem bytesToIntLittle_eq (sz : Nat) (bytes : Bytes) (pos v : Nat)
    (hv : v < 256 ^ (sz - pos)) (hpos : pos ≤ sz) (hlen : pos ≤ bytes.length) :
    bytesToIntLittle sz (fun i => bytes.getD i 0) pos v = v * 256 ^ pos + value (bytes.take pos) := by
  induction pos generalizing v with
  | zero => simp [bytesToIntLittle, value]
  | succ pos ih =>
    have hb : (bytes.getD pos 0).toNat < 256 := (bytes.getD pos 0).toNat_lt
    obtain ⟨hor, hlt⟩ := shift_in v (bytes.getD pos 0).toNat (sz - (pos + 1)) hb hv
    have hexp : sz - (pos + 1) + 1 = sz - pos := by omega
    rw [hexp] at hlt
    have hfit := fits_width hlt (Nat.sub_le sz pos)
    have hin : pos < bytes.length := hlen
    have htake : value (bytes.take (pos + 1)) =
        value (bytes.take pos) + 256 ^ pos * (bytes.getD pos 0).toNat := by
      rw [List.take_succ_eq_append_getElem hin, value_concat, List.length_take,
        Nat.min_eq_left (by omega), List.getD_eq_getElem _ _ hin]
    rw [bytesToIntLittle, hor, Nat.mod_eq_of_lt hfit, ih _ hlt (by omega) (by omega), htake,
      Nat.pow_succ]
    ring

/-- Each step keeps as many bits as the type has. -/
theorem bytesToIntLittle_lt (sz : Nat) (buffer : Nat → UInt8) (pos : Nat) {v : Nat}
    (hv : v < 2 ^ (8 * sz)) : bytesToIntLittle sz buffer pos v < 2 ^ (8 * sz) := by
  induction pos generalizing v with
  | zero => exact hv
  | succ pos ih => exact ih (Nat.mod_lt _ (Nat.two_pow_pos _))

/-- Whatever is in the buffer. -/
theorem bytesToInt_four (buffer : Nat → UInt8) : bytesToInt 4 buffer .LITTLE < 2 ^ 32 := by
  have hlt := (buffer (4 - 1)).toNat_lt
  exact bytesToIntLittle_lt 4 buffer 3 (by omega)

/-- Decoding `sz` bytes gives the number they denote. -/
theorem bytesToInt_little (sz : Nat) (bytes : Bytes) (hsz : 0 < sz) (hlen : bytes.length = sz) :
    bytesToInt sz (fun i => bytes.getD i 0) .LITTLE = value bytes := by
  unfold bytesToInt
  split
  · next h1 =>
    obtain ⟨b, rfl⟩ := List.length_eq_one_iff.mp (hlen.trans h1)
    simp [value]
  · have hlast : (bytes.getD (sz - 1) 0).toNat < 256 ^ (sz - (sz - 1)) := by
      have hexp : sz - (sz - 1) = 1 := by omega
      rw [hexp]
      exact (bytes.getD (sz - 1) 0).toNat_lt
    have hv : value bytes = value (bytes.take (sz - 1) ++ [bytes.getD (sz - 1) 0]) := by
      have hlt : sz - 1 < bytes.length := by omega
      have hget : bytes.getD (sz - 1) 0 = bytes[sz - 1] := List.getD_eq_getElem _ _ hlt
      rw [hget, List.take_append_getElem, Nat.sub_add_cancel hsz, ← hlen, List.take_length]
    rw [bytesToIntLittle_eq sz bytes (sz - 1) _ hlast (by omega) (by omega), hv, value_concat,
      List.length_take, Nat.min_eq_left (by omega)]
    ring

/-- The big endian loop with `left` bytes to go. -/
theorem bytesToIntBig_eq (sz : Nat) (bytes : Bytes) (left v : Nat) (hlen : bytes.length = sz)
    (hv : v < 256 ^ (sz - left)) (hleft : left ≤ sz) :
    bytesToIntBig sz (fun i => bytes.getD i 0) left v =
      v * 256 ^ left + value (bytes.drop (sz - left)).reverse := by
  induction left generalizing v with
  | zero => simp [bytesToIntBig, value, ← hlen]
  | succ left ih =>
    have hin : sz - (left + 1) < bytes.length := by omega
    have hb : (bytes.getD (sz - (left + 1)) 0).toNat < 256 := UInt8.toNat_lt _
    obtain ⟨hor, hlt⟩ := shift_in v _ (sz - (left + 1)) hb hv
    have hexp : sz - (left + 1) + 1 = sz - left := by omega
    rw [hexp] at hlt
    have hdrop : value (bytes.drop (sz - (left + 1))).reverse =
        value (bytes.drop (sz - left)).reverse +
          256 ^ left * (bytes.getD (sz - (left + 1)) 0).toNat := by
      have hback : bytes.length - (sz - left) = left := by omega
      rw [List.drop_eq_getElem_cons hin, hexp, List.reverse_cons, value_concat,
        List.length_reverse, List.length_drop, hback, List.getD_eq_getElem _ _ hin]
    rw [bytesToIntBig, hor, Nat.mod_eq_of_lt (fits_width hlt (Nat.sub_le sz left)),
      ih _ hlt (by omega), hdrop, Nat.pow_succ]
    ring

/-- In big endian order the last byte is the low one. -/
theorem bytesToInt_big (sz : Nat) (bytes : Bytes) (hsz : 0 < sz) (hlen : bytes.length = sz) :
    bytesToInt sz (fun i => bytes.getD i 0) .BIG = value bytes.reverse := by
  unfold bytesToInt
  split
  · next h1 =>
    obtain ⟨b, rfl⟩ := List.length_eq_one_iff.mp (hlen.trans h1)
    simp [value]
  · have hexp : sz - (sz - 1) = 1 := by omega
    have hfirst : (bytes.getD 0 0).toNat < 256 ^ (sz - (sz - 1)) := by
      rw [hexp]
      exact (bytes.getD 0 0).toNat_lt
    rw [bytesToIntBig_eq sz bytes (sz - 1) _ hlen hfirst (by omega), hexp]
    obtain ⟨b, rest, rfl⟩ := List.exists_cons_of_length_pos (hlen ▸ hsz)
    have hrest : rest.length = sz - 1 := by simp at hlen; omega
    rw [List.drop_one, List.tail_cons, List.reverse_cons, value_concat, List.length_reverse, hrest]
    show b.toNat * 256 ^ (sz - 1) + _ = _
    ring

/-- The number a list of bytes denotes in an order. -/
def decoding : Endianess → Bytes → Nat
  | .LITTLE, bytes => value bytes
  | .BIG, bytes => value bytes.reverse

/-- The `sz` bytes of a number in an order. -/
def encoding : Endianess → Nat → Nat → Bytes
  | .LITTLE, sz, integer => digits sz integer
  | .BIG, sz, integer => (digits sz integer).reverse

theorem encoding_decoding (endianess : Endianess) (bytes : Bytes) :
    encoding endianess bytes.length (decoding endianess bytes) = bytes := by
  cases endianess with
  | LITTLE => exact digits_value bytes
  | BIG =>
    rw [encoding, decoding, ← List.length_reverse, digits_value, List.reverse_reverse]

theorem bytesToInt_eq_decoding {sz : Nat} {bytes : Bytes} (hsz : 0 < sz) (hlen : bytes.length = sz)
    (endianess : Endianess) :
    bytesToInt sz (fun i => bytes.getD i 0) endianess = decoding endianess bytes := by
  cases endianess with
  | LITTLE => exact bytesToInt_little sz bytes hsz hlen
  | BIG => exact bytesToInt_big sz bytes hsz hlen

end ByteBuffer

end OpenGrok
