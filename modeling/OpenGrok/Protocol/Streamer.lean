import OpenGrok.Loop.Queue

/-! The frame encoder (freegrok/streamer.hpp).

Every streamer of the server writes little endian. -/
namespace OpenGrok.FStreamer

variable (env : Env)

/-- `send_header`; `length` is a `uint32_t`. -/
def sendHeader (target : SockT) (type : UInt8) (length : Nat) (compressed : Bool) (w : World) :
    World :=
  let flags := if compressed then grokCompressedPkt else 0
  if length ≤ 0xff then
    Loop.send target [grokStoreFlags (flags ||| grokShortPkt) type, UInt8.ofNat length] w
  else
    Loop.send target (grokStoreFlags flags type :: ByteBuffer.encode 4 length) w

/-- What goes after the header, and whether it is compressed: a payload long enough to be
worth it, if compressing it made it shorter. -/
def pack (buffer : Bytes) : Bytes × Bool :=
  if buffer.length ≥ compressMinThreshold then
    match env.zstd.compress buffer with
    | none => (buffer, false)
    | some targetBuf =>
      if targetBuf.length ≥ buffer.length then (buffer, false) else (targetBuf, true)
  else (buffer, false)

def send (target : SockT) (type : UInt8) (buffer : Bytes) (w : World) : World :=
  let w := w.log (.frame target type buffer)
  if buffer.length = 0 then sendHeader target type 0 false w
  else
    let (targetBuf, compressed) := pack env buffer
    let w := sendHeader target type (targetBuf.length % 2 ^ 32) compressed w
    Loop.send target targetBuf w

def sendError (target : SockT) (type : UInt8) (w : World) : World :=
  send env target grokError [type] w

/-! ### What a frame is made of -/

/-- The header that `send_header` queues. -/
def header (type : UInt8) (length : Nat) (compressed : Bool) : Bytes :=
  let flags := if compressed then grokCompressedPkt else 0
  if length ≤ 0xff then
    [grokStoreFlags (flags ||| grokShortPkt) type, UInt8.ofNat length]
  else grokStoreFlags flags type :: ByteBuffer.encode 4 length

theorem sendHeader_eq (target : SockT) (type : UInt8) (length : Nat) (compressed : Bool)
    (w : World) :
    sendHeader target type length compressed w =
      Loop.send target (header type length compressed) w := by
  unfold sendHeader header
  by_cases h : length ≤ 0xff <;> simp only [h, if_true, if_false]

/-- The buffers that `send` hands to `Loop::send`. -/
def chunks (type : UInt8) (buffer : Bytes) : List Bytes :=
  if buffer.length = 0 then [header type 0 false]
  else
    let (targetBuf, compressed) := pack env buffer
    [header type (targetBuf.length % 2 ^ 32) compressed, targetBuf]

theorem send_eq (target : SockT) (type : UInt8) (buffer : Bytes) (w : World) :
    send env target type buffer w =
      (chunks env type buffer).foldl (fun w chunk => Loop.send target chunk w)
        (w.log (.frame target type buffer)) := by
  unfold send chunks
  by_cases h : buffer.length = 0 <;> simp [h, sendHeader_eq]

/-- What every `Loop::send` of a frame keeps, the frame keeps. -/
theorem send_keeps {P : World → Prop} {target : SockT}
    (hsend : ∀ chunk w, P w → P (Loop.send target chunk w)) (type : UInt8) (buffer : Bytes)
    {w : World} (h : P (w.log (.frame target type buffer))) : P (send env target type buffer w) := by
  rw [send_eq]
  generalize w.log (.frame target type buffer) = v at h ⊢
  induction chunks env type buffer generalizing v with
  | nil => exact h
  | cons chunk rest ih => exact ih _ (hsend chunk _ h)

end OpenGrok.FStreamer
