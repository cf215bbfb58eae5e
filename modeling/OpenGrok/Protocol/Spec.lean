import OpenGrok.Protocol.ByteBuffer

/-! The wire format's constants and bit layout (freegrok/proto_spec.h).

The first byte of a frame carries the type in its upper six bits and two flags:
`GROK_COMPRESSED_PKT` says the payload is a zstd frame, `GROK_SHORT_PKT` that the
length is one byte and not four. -/
namespace OpenGrok

def grokCompressedPkt : UInt8 := 0b01
def grokShortPkt : UInt8 := 0b10

/-- `GROK_STORE_FLAGS(flags, n)`. -/
def grokStoreFlags (flags n : UInt8) : UInt8 := n <<< 2 ||| flags

/-- `GROK_GET_FLAGS(n)`. -/
def grokGetFlags (n : UInt8) : UInt8 := n &&& 0b11

/-- `GROK_IS_SHORT(n)`. -/
def grokIsShort (n : UInt8) : Bool := grokGetFlags n &&& grokShortPkt != 0

/-- `GROK_IS_COMPRESSED(n)`. -/
def grokIsCompressed (n : UInt8) : Bool := grokGetFlags n &&& grokCompressedPkt != 0

/-- `GROK_GET_TYPE(n)`. -/
def grokGetType (n : UInt8) : UInt8 := n >>> 2

/-! ### Frame types -/

def grokPing : UInt8 := 0
def grokError : UInt8 := 1
def grokCreateServer : UInt8 := 2
def grokPacket : UInt8 := 3
def grokConnected : UInt8 := 4
def grokDisconnect : UInt8 := 5
def grokStat : UInt8 := 6
def grokAuth : UInt8 := 7

/-! ### Error codes -/

def noSuchCommand : UInt8 := 0
def noSession : UInt8 := 1
def tooShortBuffer : UInt8 := 2
def tooLongBuffer : UInt8 := 3
def serverAlreadyCreated : UInt8 := 4
def bufferSizeIncorrect : UInt8 := 5
def noSuchClient : UInt8 := 6
def decompressionError : UInt8 := 7
def unavailablePort : UInt8 := 9
def internalServerError : UInt8 := 255
def notImplemented : UInt8 := 128

/-- `sizeof(c_id_t)`. -/
def cIdSize : Nat := 4

/-- `COMPRESS_MIN_THRESHOLD` (freegrok/streamer.hpp). -/
def compressMinThreshold : Nat := 100

/-- `MAX_DECOMPRESSED_SIZE` (grokserver/config.hpp). -/
def maxDecompressedSize : Nat := 16777216

private theorem storeFlags_table (compressed short : Bool) (n : Fin 64) :
    let data := grokStoreFlags
      ((if compressed then grokCompressedPkt else 0) ||| (if short then grokShortPkt else 0))
      (UInt8.ofNat n)
    grokGetType data = UInt8.ofNat n ∧ grokIsShort data = short ∧
      grokIsCompressed data = compressed := by
  revert compressed short n
  decide

/-- What `grokStoreFlags` stored is read back, for a type that fits its six bits. -/
theorem grokStoreFlags_read (compressed short : Bool) (n : UInt8) (hn : n < 64) :
    let data := grokStoreFlags
      ((if compressed then grokCompressedPkt else 0) ||| (if short then grokShortPkt else 0)) n
    grokGetType data = n ∧ grokIsShort data = short ∧ grokIsCompressed data = compressed := by
  have h := storeFlags_table compressed short ⟨n.toNat, hn⟩
  rwa [UInt8.ofNat_toNat] at h

end OpenGrok
