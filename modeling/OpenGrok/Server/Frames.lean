import OpenGrok.Library.Reader
import OpenGrok.Server.Decode

/-! Frames.

`Frame.parse` says what a stream of bytes means: it takes one frame after the other off its
front, header, length and payload at once. The handler does not have the stream at once; its
states make a `Reader`, and `run_first` says that this reader finds the same frames. -/
namespace OpenGrok

/-! ### The format -/

namespace Frame

/-- What a payload is a reaction to: itself, or what it decompresses to. -/
def payload (z : Zstd) (data : UInt8) (bytes : Bytes) : Reaction :=
  if grokIsCompressed data then
    match z.getFrameContentSize bytes with
    | .size n =>
      if n = 0 then .error decompressionError
      else if n > maxDecompressedSize then .error tooLongBuffer
      else
        match z.decompress bytes n with
        | some content => .message (grokGetType data) n (content.take n)
        | none => .error decompressionError
    | _ => .error decompressionError
  else .message (grokGetType data) bytes.length bytes

/-- What comes after the header, and what follows the frame; `none` if the stream ends before
the frame does. -/
def body (z : Zstd) (data : UInt8) (length : Nat) (rest : Bytes) : Option (Reaction × Bytes) :=
  if length = 0 then some (.message (grokGetType data) 0 [], rest)
  else if rest.length < length then none
  else some (payload z data (rest.take length), rest.drop length)

/-- The first frame of a stream, and what follows it. -/
def first (z : Zstd) : Bytes → Option (Reaction × Bytes)
  | data :: lengthChunk :: rest =>
    if grokIsShort data then body z data lengthChunk.toNat rest
    else if rest.length < 3 then none
    else body z data (ByteBuffer.value (lengthChunk :: rest.take 3)) (rest.drop 3)
  | _ => none

theorem body_shorter {z : Zstd} {data : UInt8} {length : Nat} {rest rest' : Bytes}
    {reaction : Reaction} (h : body z data length rest = some (reaction, rest')) :
    rest'.length ≤ rest.length := by
  unfold body at h
  split at h
  · cases h
    exact Nat.le_refl _
  · split at h
    · cases h
    · cases h
      rw [List.length_drop]
      omega

theorem first_shorter {z : Zstd} {stream rest : Bytes} {reaction : Reaction}
    (h : first z stream = some (reaction, rest)) : rest.length < stream.length := by
  unfold first at h
  split at h
  · next data lengthChunk tail =>
    simp only [List.length_cons]
    split at h
    · have hle := body_shorter h
      omega
    · split at h
      · cases h
      · have hle := body_shorter h
        rw [List.length_drop] at hle
        omega
  · cases h

theorem first_short {z : Zstd} {data lengthChunk : UInt8} {rest : Bytes}
    (h : grokIsShort data = true) :
    first z (data :: lengthChunk :: rest) = body z data lengthChunk.toNat rest := by
  rw [first, if_pos h]

theorem first_long {z : Zstd} {data : UInt8} {digits rest : Bytes} (h : grokIsShort data = false)
    (hlen : digits.length = 4) :
    first z (data :: (digits ++ rest)) = body z data (ByteBuffer.value digits) rest := by
  match digits with
  | lengthChunk :: piece =>
    have hpiece : piece.length = 3 := by simpa using hlen
    have hlong : ¬(piece ++ rest).length < 3 := by
      rw [List.length_append]
      omega
    rw [List.cons_append, first, if_neg (by simp [h]), if_neg hlong, ← hpiece, List.take_left,
      List.drop_left]

/-- **What a stream means**: the reactions to its complete frames, in order. -/
def parse (z : Zstd) (stream : Bytes) : List Reaction :=
  match _h : first z stream with
  | some (reaction, rest) => reaction :: parse z rest
  | none => []
termination_by stream.length
decreasing_by exact first_shorter _h

/-- A complete frame is one reaction, and the next one starts right after it. -/
theorem parse_some {z : Zstd} {stream rest : Bytes} {reaction : Reaction}
    (h : first z stream = some (reaction, rest)) : parse z stream = reaction :: parse z rest := by
  rw [parse, h]

theorem parse_none {z : Zstd} {stream : Bytes} (h : first z stream = none) :
    parse z stream = [] := by
  rw [parse, h]

end Frame

/-! ### The handler's states as a reader -/

/-- A read that the handler waits for. -/
structure Demand where
  state : PacketState
  length : Nat
  u64 : Nat
  pos : 0 < length

/-- What `go_new_message` queues. -/
def Demand.newMessage : Demand := ⟨.typeGot, 2, 0, Nat.two_pos⟩

def Decoded.next (d : Decoded) (h : d.Proper) : Demand :=
  ⟨d.demand.1, d.demand.2.1, d.demand.2.2, h.demand.pos⟩

theorem Decoded.next_newMessage {d : Decoded} (h : d.Proper) (hd : d.demand = (.typeGot, 2, 0)) :
    d.next h = .newMessage := by
  simp [Decoded.next, Demand.newMessage, hd]

def frameReader (env : Env) : Reader Demand UInt8 Reaction where
  need d := d.length
  need_pos d := d.pos
  next d bytes :=
    let decoded := FreeGrok.decode env d.u64 bytes d.state
    (decoded.reactions, decoded.next (FreeGrok.decode_proper env d.u64 bytes d.state))

section
variable (env : Env)

theorem decodePayload_spec (data : UInt8) (bytes : Bytes) :
    (FreeGrok.decodePayload env data bytes.length bytes).reactions =
        [Frame.payload env.zstd data bytes] ∧
      (FreeGrok.decodePayload env data bytes.length bytes).demand = (.typeGot, 2, 0) := by
  unfold FreeGrok.decodePayload Frame.payload
  by_cases hc : grokIsCompressed data = true
  · simp only [hc, if_true]
    cases hsize : env.zstd.getFrameContentSize bytes with
    | error => exact ⟨rfl, rfl⟩
    | unknown => exact ⟨rfl, rfl⟩
    | size n =>
      cases n with
      | zero => exact ⟨rfl, rfl⟩
      | succ n =>
        by_cases hbig : n + 1 > maxDecompressedSize
        · simp only [hbig, if_true]
          exact ⟨rfl, rfl⟩
        · simp only [hbig, if_false]
          cases env.zstd.decompress bytes (n + 1) <;> exact ⟨rfl, rfl⟩
  · simp only [hc]
    exact ⟨rfl, rfl⟩

/-! ### What the states make of what they read -/

theorem decode_newMessage (data lengthChunk : UInt8) :
    FreeGrok.decode env Demand.newMessage.u64 [data, lengthChunk] Demand.newMessage.state =
      if grokIsShort data then
        if lengthChunk = 0 then .message (grokGetType data) 0 none
        else .more .bufferGot lengthChunk.toNat (data.toNat <<< 32 ||| lengthChunk.toNat)
      else .more .headerGot 3 (data.toNat <<< 8 ||| lengthChunk.toNat) := rfl

theorem decode_headerGot (data lengthChunk : UInt8) {buffer : Bytes} (h : buffer.length = 3) :
    FreeGrok.decode env (data.toNat <<< 8 ||| lengthChunk.toNat) buffer .headerGot =
      let length := ByteBuffer.value (lengthChunk :: buffer)
      if length = 0 then .message (grokGetType data) 0 (some [])
      else .more .bufferGot length (data.toNat <<< 32 ||| length) := by
  obtain ⟨hdata, hmask⟩ := FreeGrok.packed data.toNat lengthChunk.toNat 8 lengthChunk.toNat_lt
  have hmask : (data.toNat <<< 8 ||| lengthChunk.toNat) &&& 0xff = lengthChunk.toNat := hmask
  have hlen : (lengthChunk :: buffer).length = 4 := by
    rw [List.length_cons, h]
  simp only [FreeGrok.decode, hdata, hmask, UInt8.ofNat_toNat,
    ByteBuffer.bytesToInt_little 4 _ (Nat.succ_pos 3) hlen]

theorem decode_bufferGot (data : UInt8) {buffer : Bytes} (h : buffer.length < 2 ^ 32) :
    FreeGrok.decode env (data.toNat <<< 32 ||| buffer.length) buffer .bufferGot =
      FreeGrok.decodePayload env data buffer.length buffer := by
  obtain ⟨hdata, hmask⟩ := FreeGrok.packed data.toNat buffer.length 32 h
  have hmask : (data.toNat <<< 32 ||| buffer.length) &&& 0xffffffff = buffer.length := hmask
  simp only [FreeGrok.decode, hdata, hmask, UInt8.ofNat_toNat]

/-- A read that ends a frame. -/
theorem run_done {d : Demand} {piece : Bytes} (hlen : piece.length = d.length) {reaction : Reaction}
    (hreactions : (FreeGrok.decode env d.u64 piece d.state).reactions = [reaction])
    (hdemand : (FreeGrok.decode env d.u64 piece d.state).demand = (.typeGot, 2, 0))
    (rest : Bytes) :
    (frameReader env).run d (piece ++ rest) =
      ((frameReader env).run .newMessage rest).after [reaction] := by
  have hpiece : piece.length = (frameReader env).need d := hlen
  have hnext := Decoded.next_newMessage (FreeGrok.decode_proper env _ _ _) hdemand
  rw [Reader.run_step hpiece]
  simp only [frameReader, hreactions, hnext]

/-- A read after which the frame goes on. -/
theorem run_more {d : Demand} {piece : Bytes} (hlen : piece.length = d.length)
    {state : PacketState} {length u64 : Nat}
    (hdecode : FreeGrok.decode env d.u64 piece d.state = .more state length u64)
    (hlength : 0 < length) (rest : Bytes) :
    (frameReader env).run d (piece ++ rest) =
      (frameReader env).run ⟨state, length, u64, hlength⟩ rest := by
  have hpiece : piece.length = (frameReader env).need d := hlen
  rw [Reader.run_step hpiece]
  simp only [frameReader, hdecode]
  rfl

/-- The reader, with a frame or the lack of one before it. -/
def Found (p : Reader.Progress Demand UInt8 Reaction) : Option (Reaction × Bytes) → Prop
  | some (reaction, rest) => p = ((frameReader env).run .newMessage rest).after [reaction]
  | none => p.out = []

theorem Found.short {d : Demand} {stream : Bytes} (h : stream.length < d.length) :
    Found env ((frameReader env).run d stream) none := by
  show ((frameReader env).run d stream).out = []
  rw [Reader.run_short (r := frameReader env) (s := d) h]

/-- The payload, read after the header. -/
theorem run_body (data : UInt8) (length : Nat) (hlength : 0 < length) (hlt : length < 2 ^ 32)
    (rest : Bytes) :
    Found env ((frameReader env).run ⟨.bufferGot, length, data.toNat <<< 32 ||| length, hlength⟩ rest)
      (Frame.body env.zstd data length rest) := by
  unfold Frame.body
  rw [if_neg (Nat.ne_of_gt hlength)]
  by_cases hshort : rest.length < length
  · rw [if_pos hshort]
    exact .short env hshort
  · rw [if_neg hshort]
    have hpiece : (rest.take length).length = length := by
      rw [List.length_take]
      omega
    have hsplit : rest = rest.take length ++ rest.drop length := (List.take_append_drop ..).symm
    generalize rest.take length = piece at hpiece hsplit
    generalize rest.drop length = rest' at hsplit
    subst hsplit hpiece
    obtain ⟨hreactions, hdemand⟩ := decodePayload_spec env data piece
    rw [← decode_bufferGot env data hlt] at hreactions hdemand
    exact run_done env (d := ⟨.bufferGot, piece.length, _, hlength⟩) rfl hreactions hdemand rest'

/-- The header with a 32-bit length, after its first two bytes. -/
theorem run_header (data lengthChunk : UInt8) (rest : Bytes) :
    Found env ((frameReader env).run
      ⟨.headerGot, 3, data.toNat <<< 8 ||| lengthChunk.toNat, Nat.succ_pos 2⟩ rest)
      (if rest.length < 3 then none
      else Frame.body env.zstd data (ByteBuffer.value (lengthChunk :: rest.take 3)) (rest.drop 3)) := by
  by_cases hshort : rest.length < 3
  · rw [if_pos hshort]
    exact .short env hshort
  · rw [if_neg hshort]
    have hpiece : (rest.take 3).length = 3 := by
      rw [List.length_take]
      omega
    have hsplit : rest = rest.take 3 ++ rest.drop 3 := (List.take_append_drop ..).symm
    generalize rest.take 3 = piece at hpiece hsplit
    generalize rest.drop 3 = rest' at hsplit
    subst hsplit
    have hdecode := decode_headerGot env data lengthChunk hpiece
    have hlt : ByteBuffer.value (lengthChunk :: piece) < 2 ^ 32 := by
      have h := ByteBuffer.value_lt (lengthChunk :: piece)
      rwa [List.length_cons, hpiece] at h
    dsimp only at hdecode
    generalize ByteBuffer.value (lengthChunk :: piece) = length at hdecode hlt
    by_cases hzero : length = 0
    · rw [if_pos hzero] at hdecode
      rw [Frame.body, if_pos hzero]
      refine run_done env (d := ⟨.headerGot, 3, _, Nat.succ_pos 2⟩) hpiece ?_ ?_ rest'
      · rw [hdecode]
        rfl
      · rw [hdecode]
        rfl
    · rw [if_neg hzero] at hdecode
      have hpos := Nat.pos_of_ne_zero hzero
      rw [run_more env (d := ⟨.headerGot, 3, _, Nat.succ_pos 2⟩) hpiece hdecode hpos]
      exact run_body env data length hpos hlt rest'

/-- **The handler finds the frames of the stream.** -/
theorem run_first (stream : Bytes) :
    Found env ((frameReader env).run .newMessage stream) (Frame.first env.zstd stream) := by
  match stream with
  | [] => exact .short env Nat.two_pos
  | [b] => exact .short env Nat.one_lt_two
  | data :: lengthChunk :: rest =>
    have hlen : [data, lengthChunk].length = Demand.newMessage.length := rfl
    have hdecode := decode_newMessage env data lengthChunk
    show Found env ((frameReader env).run .newMessage ([data, lengthChunk] ++ rest))
      (if grokIsShort data then _ else _)
    by_cases hs : grokIsShort data = true
    · rw [if_pos hs] at hdecode ⊢
      by_cases hzero : lengthChunk = 0
      · rw [if_pos hzero] at hdecode
        subst hzero
        refine run_done env hlen ?_ ?_ rest
        · rw [hdecode]
          rfl
        · rw [hdecode]
          rfl
      · rw [if_neg hzero] at hdecode
        have hpos : 0 < lengthChunk.toNat :=
          Nat.pos_of_ne_zero fun h => hzero (UInt8.toNat_inj.mp h)
        rw [run_more env hlen hdecode hpos]
        exact run_body env data _ hpos (Nat.lt_trans lengthChunk.toNat_lt (by decide)) rest
    · rw [if_neg hs] at hdecode ⊢
      rw [run_more env hlen hdecode (Nat.succ_pos 2)]
      exact run_header env data lengthChunk rest

/-- The reader's outputs are what the stream means. -/
theorem run_parse (stream : Bytes) :
    ((frameReader env).run .newMessage stream).out = Frame.parse env.zstd stream := by
  induction stream using Frame.parse.induct env.zstd with
  | case1 stream reaction rest hfirst ih =>
    have hfound := run_first env stream
    rw [hfirst] at hfound
    have hfound : (frameReader env).run .newMessage stream = _ := hfound
    rw [Frame.parse_some hfirst, hfound, ← ih]
    rfl
  | case2 stream hfirst =>
    have hfound := run_first env stream
    rw [hfirst] at hfound
    rw [Frame.parse_none hfirst]
    exact hfound

end

/-! ### What the encoder writes -/

/-- What zstd promises: what it compressed declares its size and decompresses to what it was,
and nothing can be told of no bytes at all. -/
structure Zstd.Faithful (z : Zstd) : Prop where
  size : ∀ {b c}, z.compress b = some c → z.getFrameContentSize c = .size b.length
  content : ∀ {b c}, z.compress b = some c → z.decompress c b.length = some b
  empty : z.getFrameContentSize [] = .error

namespace FStreamer

/-- The bytes of a frame. -/
def frame (env : Env) (type : UInt8) (buffer : Bytes) : Bytes := (chunks env type buffer).flatten

variable {env : Env} {type : UInt8}

/-- The header is read back, with whatever follows it. -/
theorem first_header (z : Zstd) (htype : type < 64) {length : Nat} (hlt : length < 2 ^ 32)
    (compressed : Bool) (tail : Bytes) :
    ∃ data, grokGetType data = type ∧ grokIsCompressed data = compressed ∧
      Frame.first z (header type length compressed ++ tail) = Frame.body z data length tail := by
  unfold header
  dsimp only
  by_cases hle : length ≤ 0xff
  · have hread := grokStoreFlags_read compressed true type htype
    simp only [if_true] at hread
    obtain ⟨hget, hshort, hcompressed⟩ := hread
    refine ⟨_, hget, hcompressed, ?_⟩
    rw [if_pos hle, List.cons_append, List.cons_append, List.nil_append, Frame.first_short hshort,
      UInt8.toNat_ofNat', Nat.mod_eq_of_lt (by omega)]
  · have hread := grokStoreFlags_read compressed false type htype
    simp only [Bool.false_eq_true, if_false, UInt8.or_zero] at hread
    obtain ⟨hget, hshort, hcompressed⟩ := hread
    have hvalue : ByteBuffer.value (ByteBuffer.digits 4 length) = length := by
      rw [ByteBuffer.value_digits]
      exact Nat.mod_eq_of_lt hlt
    refine ⟨_, hget, hcompressed, ?_⟩
    rw [if_neg hle, ByteBuffer.encode_eq_digits, List.cons_append,
      Frame.first_long hshort (ByteBuffer.digits_length 4 length), hvalue]

/-- What is packed is unpacked. -/
theorem payload_pack (hz : env.zstd.Faithful) {buffer target : Bytes} {compressed : Bool}
    (hne : buffer ≠ []) (hmax : buffer.length ≤ maxDecompressedSize)
    (hpack : pack env buffer = (target, compressed)) :
    target ≠ [] ∧ target.length ≤ buffer.length ∧
      ∀ data, grokIsCompressed data = compressed → Frame.payload env.zstd data target =
        .message (grokGetType data) buffer.length buffer := by
  have hraw (h : (buffer, false) = (target, compressed)) : target ≠ [] ∧
      target.length ≤ buffer.length ∧
      ∀ data, grokIsCompressed data = compressed → Frame.payload env.zstd data target =
        .message (grokGetType data) buffer.length buffer := by
    cases h
    refine ⟨hne, Nat.le_refl _, fun data hdata => ?_⟩
    rw [Frame.payload, hdata]
    rfl
  unfold pack at hpack
  split at hpack
  · split at hpack
    · exact hraw hpack
    · next target' hcompress =>
      split at hpack
      · exact hraw hpack
      · next hshorter =>
        cases hpack
        have hsize := hz.size hcompress
        have hpos : buffer.length ≠ 0 := fun h0 => hne (List.eq_nil_of_length_eq_zero h0)
        refine ⟨?_, by omega, fun data hdata => ?_⟩
        · intro hsame
          subst hsame
          rw [hz.empty] at hsize
          cases hsize
        · simp only [Frame.payload, hdata, if_true, hsize, hpos, if_false, Nat.not_lt.mpr hmax,
            hz.content hcompress, List.take_length]
  · exact hraw hpack

/-- **A frame is read back**, with whatever follows it. -/
theorem first_frame (hz : env.zstd.Faithful) (htype : type < 64) {buffer : Bytes}
    (hmax : buffer.length ≤ maxDecompressedSize) (rest : Bytes) :
    Frame.first env.zstd (frame env type buffer ++ rest) =
      some (.message type buffer.length buffer, rest) := by
  unfold frame chunks
  by_cases hzero : buffer.length = 0
  · obtain rfl := List.eq_nil_of_length_eq_zero hzero
    obtain ⟨data, rfl, _, hfirst⟩ := first_header env.zstd htype (Nat.two_pow_pos 32) false rest
    rw [if_pos hzero, List.flatten_singleton, hfirst]
    rfl
  · have hne : buffer ≠ [] := fun h => hzero (by rw [h]; rfl)
    rw [if_neg hzero]
    cases hpack : pack env buffer with
    | mk target compressed =>
      obtain ⟨htarget, hle, hpayload⟩ := payload_pack hz hne hmax hpack
      have hlt : target.length < 2 ^ 32 :=
        Nat.lt_of_le_of_lt (Nat.le_trans hle hmax) (by decide)
      obtain ⟨data, rfl, hcompressed, hfirst⟩ :=
        first_header env.zstd htype hlt compressed (target ++ rest)
      have hpos : target.length ≠ 0 := fun h => htarget (List.eq_nil_of_length_eq_zero h)
      have hlong : ¬(target ++ rest).length < target.length := by
        rw [List.length_append]
        omega
      dsimp only
      rw [Nat.mod_eq_of_lt hlt, List.flatten_cons, List.flatten_singleton, List.append_assoc, hfirst,
        Frame.body, if_neg hpos, if_neg hlong, List.take_left, List.drop_left,
        hpayload data hcompressed]

end FStreamer

end OpenGrok
