import OpenGrok.Protocol.ByteBuffer

/-! The integer codec, in both byte orders.

`int_to_bytes` and `bytes_to_int` mirror each other in little endian order. In big
endian order the writing loop runs over positions `sz` to 1 where the reading
loop runs over 0 to `sz - 1`, so the first byte is left out and one past the last
is written. -/
namespace OpenGrok

open ByteBuffer

/-! ### What each direction touches -/

/-- Decoding looks at the `sz` bytes of the type only. -/
theorem bytesToIntLittle_congr (sz : Nat) (f g : Nat → UInt8) (pos v : Nat)
    (hfg : ∀ i < pos, f i = g i) :
    bytesToIntLittle sz f pos v = bytesToIntLittle sz g pos v := by
  induction pos generalizing v with
  | zero => rfl
  | succ pos ih =>
    rw [bytesToIntLittle, bytesToIntLittle, hfg pos (Nat.lt_succ_self pos)]
    exact ih _ fun i hi => hfg i (Nat.lt_succ_of_lt hi)

theorem bytesToInt_little_congr (sz : Nat) (f g : Nat → UInt8) (hsz : 0 < sz)
    (hfg : ∀ i < sz, f i = g i) : bytesToInt sz f .LITTLE = bytesToInt sz g .LITTLE := by
  have hlast := hfg (sz - 1) (by omega)
  unfold bytesToInt
  split
  · rw [hfg 0 hsz]
  · show bytesToIntLittle sz f (sz - 1) _ = bytesToIntLittle sz g (sz - 1) _
    rw [hlast]
    exact bytesToIntLittle_congr sz f g (sz - 1) _ fun i hi => hfg i (by omega)

/-- Little endian, the bytes of the type are the digits and the rest is left alone. -/
theorem intToBytes_little (sz integer : Nat) (buffer : Nat → UInt8) (i : Nat) :
    intToBytes sz integer .LITTLE buffer i =
      if i < sz then (digits sz integer).getD i 0 else buffer i := by
  show intToBytesLittle sz sz integer buffer i = _
  rw [intToBytesLittle_apply sz sz integer buffer (Nat.le_refl sz), Nat.sub_self, Nat.sub_zero]
  simp only [Nat.zero_le, true_and]

/-- The big endian loop never gets to position 0. -/
theorem intToBytesBig_first (pos integer : Nat) (buffer : Nat → UInt8) :
    intToBytesBig pos integer buffer 0 = buffer 0 := by
  induction pos generalizing integer buffer with
  | zero => rfl
  | succ pos ih =>
    rw [intToBytesBig, ih]
    exact Function.update_of_ne (Nat.succ_ne_zero pos).symm _ _

/-! ### The two as inverses -/

/-- What the codec of a type of `sz` bytes owes: `int_to_bytes` writes these bytes and
no other, and each direction undoes the other. -/
structure Inverse (sz : Nat) (endianess : Endianess) (integer : Nat) (bytes : Bytes) : Prop where
  /-- A byte of the type is written: what was there before does not matter. -/
  writes : ∀ before before' : Nat → UInt8, ∀ i < sz,
    intToBytes sz integer endianess before i = intToBytes sz integer endianess before' i
  /-- No byte outside is. -/
  frame : ∀ before : Nat → UInt8, ∀ i, sz ≤ i →
    intToBytes sz integer endianess before i = before i
  decodes : ∀ before : Nat → UInt8,
    bytesToInt sz (intToBytes sz integer endianess before) endianess = integer
  encodes : ∀ before : Nat → UInt8, (List.range sz).map
    (intToBytes sz (bytesToInt sz (fun i => bytes.getD i 0) endianess) endianess before) = bytes

theorem inverse_little {sz integer : Nat} {bytes : Bytes} (hsz : 0 < sz)
    (hint : integer < 256 ^ sz) (hlen : bytes.length = sz) :
    Inverse sz .LITTLE integer bytes where
  writes before before' i hi := by
    rw [intToBytes_little, intToBytes_little, if_pos hi, if_pos hi]
  frame before i hi := by
    rw [intToBytes_little, if_neg (Nat.not_lt.mpr hi)]
  decodes before := by
    have hfg : ∀ i < sz, intToBytes sz integer .LITTLE before i = (digits sz integer).getD i 0 :=
      fun i hi => by rw [intToBytes_little, if_pos hi]
    rw [bytesToInt_little_congr sz _ _ hsz hfg,
      bytesToInt_little sz _ hsz (digits_length sz integer), value_digits, Nat.mod_eq_of_lt hint]
  encodes before := by
    rw [bytesToInt_little sz bytes hsz hlen]
    have hdigits : digits sz (value bytes) = bytes := by
      have h := digits_value bytes
      rwa [hlen] at h
    apply List.ext_getElem
    · simp [hlen]
    · intro i hi hb
      have hlt : i < sz := hlen ▸ hb
      rw [List.getElem_map, List.getElem_range, intToBytes_little, if_pos hlt, hdigits]
      exact List.getD_eq_getElem _ _ hb

/-- **The codec is a bijection** of the values of a type and its bytes exactly when the
order is little endian. -/
theorem codec_inverse (sz : Nat) (hsz : 0 < sz) (endianess : Endianess) (integer : Nat)
    (hint : integer < 256 ^ sz) (bytes : Bytes) (hlen : bytes.length = sz) :
    Inverse sz endianess integer bytes ↔ endianess = .LITTLE := by
  constructor
  · intro h
    cases endianess with
    | LITTLE => rfl
    | BIG =>
      -- position 0 keeps whatever byte was there
      have hfirst := h.writes (fun _ => 0) (fun _ => 1) 0 hsz
      have h0 : intToBytes sz integer .BIG (fun _ => 0) 0 = 0 := intToBytesBig_first sz integer _
      have h1 : intToBytes sz integer .BIG (fun _ => 1) 0 = 1 := intToBytesBig_first sz integer _
      rw [h0, h1] at hfirst
      exact absurd hfirst (by decide)
  · intro h
    subst h
    exact inverse_little hsz hint hlen

theorem codec_inverse_port :
    Inverse 2 .LITTLE 0x1f90 [0x90, 0x1f] ↔ Endianess.LITTLE = .LITTLE :=
  codec_inverse 2 (by decide) .LITTLE 0x1f90 (by decide) [0x90, 0x1f] rfl

/-- A port of two bytes in big endian order: its low byte goes one past the buffer, and
what is read back has the buffer's old first byte. -/
theorem codec_inverse_fails :
    intToBytes 2 0x1f90 .BIG (fun _ => 0) 2 = 0x90 ∧
      bytesToInt 2 (intToBytes 2 0x1f90 .BIG fun _ => 0) .BIG = 0x001f ∧
      ¬ ∀ (sz : Nat), sz ∈ [1, 2, 4, 8] → ∀ (endianess : Endianess) (integer : Nat),
        integer < 256 ^ sz → ∀ bytes : Bytes, bytes.length = sz →
          Inverse sz endianess integer bytes := by
  have hpast : intToBytes 2 0x1f90 .BIG (fun _ => 0) 2 = 0x90 := by decide
  have hback : bytesToInt 2 (intToBytes 2 0x1f90 .BIG fun _ => 0) .BIG = 0x001f := by decide
  constructor
  · exact hpast
  constructor
  · exact hback
  · intro h
    have hinv := h 2 (by decide) .BIG 0x1f90 (by decide) [0x1f, 0x90] rfl
    have hdec := hinv.decodes fun _ => 0
    rw [hback] at hdec
    exact absurd hdec (by decide)

end OpenGrok
