import OpenGrok.Server.Event

/-! The frame parser without the world.

`decode` is what `on_received` makes of a read that is received to its end: another
read, a call of `process_message`, or an error reply. `onReceived_eq` says that this is
all it does. -/
namespace OpenGrok

/-- What `on_received` makes of what was read. -/
inductive Decoded where
  /-- Another read has to be received first. -/
  | more (state : PacketState) (length u64 : Nat)
  | message (type : UInt8) (length : Nat) (buffer : Option Bytes)
  | error (code : UInt8)
  deriving DecidableEq, Repr

namespace Decoded

/-- What the outside sees of it. -/
def reactions : Decoded → List Reaction
  | .more _ _ _ => []
  | .message type length buffer => [.message type length (buffer.getD [])]
  | .error code => [.error code]

/-- The read that is queued next: the state it is for, how much it waits for, and the meta bits. -/
def demand : Decoded → PacketState × Nat × Nat
  | .more state length u64 => (state, length, u64)
  | .message _ _ _ => (.typeGot, 2, 0)
  | .error _ => (.typeGot, 2, 0)

def Proper : Decoded → Prop
  | .more state length u64 => Asks state length u64
  | .message _ _ _ => True
  | .error code => code = decompressionError ∨ code = tooLongBuffer

theorem Proper.demand {d : Decoded} (h : d.Proper) :
    Asks d.demand.1 d.demand.2.1 d.demand.2.2 := by
  cases d with
  | more state length u64 => exact h
  | message type length buffer => exact asks_newMessage
  | error code => exact asks_newMessage

end Decoded

namespace FreeGrok
variable (env : Env) (os : Os)

/-- The payload of a frame whose first byte was `data`. -/
def decodePayload (data : UInt8) (length : Nat) (buffer : Bytes) : Decoded :=
  if grokIsCompressed data then
    match env.zstd.getFrameContentSize buffer with
    | .unknown | .error | .size 0 => .error decompressionError
    | .size buffSize =>
      if buffSize > maxDecompressedSize then .error tooLongBuffer
      else
        match env.zstd.decompress buffer buffSize with
        | none => .error decompressionError
        | some decBuf => .message (grokGetType data) buffSize (some (decBuf.take buffSize))
  else .message (grokGetType data) length (some buffer)

def decode (u64 : Nat) (buffer : Bytes) : PacketState → Decoded
  | .typeGot =>
    let data := buffer.getD 0 0
    let lengthChunk := buffer.getD 1 0
    if grokIsShort data then
      if lengthChunk = 0 then .message (grokGetType data) 0 none
      else .more .bufferGot lengthChunk.toNat (data.toNat <<< 32 ||| lengthChunk.toNat)
    else .more .headerGot 3 (data.toNat <<< 8 ||| lengthChunk.toNat)
  | .headerGot =>
    let data := UInt8.ofNat (u64 >>> 8)
    let lengthBuf := UInt8.ofNat (u64 &&& 0xff) :: buffer
    let length := ByteBuffer.bytesToInt 4 (fun i => lengthBuf.getD i 0) .LITTLE
    if length = 0 then .message (grokGetType data) 0 (some [])
    else .more .bufferGot length (data.toNat <<< 32 ||| length)
  | .bufferGot =>
    decodePayload env (UInt8.ofNat (u64 >>> 32)) (u64 &&& 0xffffffff) buffer

/-- What the handler does about it, the next read being queued last. -/
def react (fd : SockT) (w : World) : Decoded → Except Fault World
  | .more state length u64 => return Loop.recv fd length state u64 w
  | .message type length buffer => do
    let w ← processMessage env os type length fd buffer w
    return goNewMessage fd w
  | .error code => return goNewMessage fd (FStreamer.sendError env fd code w)

/-- **The handler is the parser**, and a reaction to what it found. -/
theorem onReceived_eq (fd : SockT) (state : PacketState) (length u64 : Nat) (buffer : Bytes)
    (w : World) :
    onReceived env os (.read fd state length u64 buffer) w =
      react env os fd w (decode env u64 buffer state) := by
  cases state with
  | typeGot =>
    simp only [onReceived, typeGot, decode]
    split
    · split <;> rfl
    · rfl
  | headerGot =>
    simp only [onReceived, headerGot, decode]
    split
    · next hzero => rw [hzero]; rfl
    · rfl
  | bufferGot =>
    simp only [onReceived, bufferGot, decode, decodePayload]
    split
    · cases env.zstd.getFrameContentSize buffer with
      | unknown => rfl
      | error => rfl
      | size n =>
        cases n with
        | zero => rfl
        | succ n =>
          by_cases hbig : n + 1 > maxDecompressedSize
          · simp only [hbig, if_true]
            rfl
          · simp only [hbig, if_false]
            cases env.zstd.decompress buffer (n + 1) <;> rfl
    · rfl

/-- A number in the low bits, with another above them. -/
theorem packed (high low bits : Nat) (h : low < 2 ^ bits) :
    (high <<< bits ||| low) >>> bits = high ∧ (high <<< bits ||| low) &&& (2 ^ bits - 1) = low := by
  have hor : high <<< bits ||| low = 2 ^ bits * high + low := by
    rw [Nat.shiftLeft_eq, Nat.mul_comm, Nat.two_pow_add_eq_or_of_lt h]
  rw [hor, Nat.shiftRight_eq_div_pow, Nat.and_two_pow_sub_one_eq_mod]
  constructor
  · rw [Nat.mul_add_div (Nat.two_pow_pos bits), Nat.div_eq_of_lt h, Nat.add_zero]
  · rw [Nat.mul_add_mod, Nat.mod_eq_of_lt h]

/-- A read that the parser asks for is as long as its state says, and only decompression fails. -/
theorem decode_proper (u64 : Nat) (buffer : Bytes) (state : PacketState) :
    (decode env u64 buffer state).Proper := by
  cases state with
  | typeGot =>
    simp only [decode]
    split
    · split
      · trivial
      · next hne =>
        have hlt := (buffer.getD 1 0).toNat_lt
        exact ⟨Nat.one_le_iff_ne_zero.mpr fun hzero => hne (UInt8.toNat_inj.mp hzero),
          (packed _ _ 32 (by omega)).2.symm⟩
    · exact ⟨by decide, rfl⟩
  | headerGot =>
    simp only [decode]
    split
    · trivial
    · next hne =>
      exact ⟨Nat.one_le_iff_ne_zero.mpr hne, (packed _ _ 32 (ByteBuffer.bytesToInt_four _)).2.symm⟩
  | bufferGot =>
    simp only [decode, decodePayload]
    split
    · split
      · exact .inl rfl
      · exact .inl rfl
      · exact .inl rfl
      · split
        · exact .inr rfl
        · split
          · exact .inl rfl
          · trivial
    · trivial

end FreeGrok

end OpenGrok
