import OpenGrok.Library.Runs
import OpenGrok.Server.Proxy

/-! The protocol, as an owner sees it.

A machine that knows nothing of the server's world: an owner's connection has no
tunnel, or one with a port and the ids of its clients, or one that is broken beyond use
(`Standing`). The owner's frames and the server's are its turns, and `Exchange` lists
what may follow what: each frame of the owner is answered at once or not at all, and a
frame for or about a client names one that the owner was told of. -/
namespace OpenGrok

/-- What passes over an owner's connection: a message of the owner, or a frame of the server. -/
inductive Turn where
  | asked (type : UInt8) (length : Nat) (payload : Bytes)
  | told (type : UInt8) (payload : Bytes)
  deriving DecidableEq, Repr

/-- The tunnel of an owner's connection. -/
inductive Standing where
  | idle
  | serving (port : UInt16) (ids : Set CIdT)
  /-- A server was begun and could not be given a port. -/
  | broken

/-- What the server keeps for an owner's connection. -/
structure Account where
  /-- The owner may choose the port. -/
  chooses : Bool
  standing : Standing

/-- The id at the front of a payload. -/
def addressed (payload : Bytes) : CIdT := UInt32.ofNat (ByteBuffer.value (payload.take cIdSize))

/-- An error reply. -/
def Turn.refused (code : UInt8) : Turn := .told grokError [code]

/-- A message for the client with the id at its front. -/
def ForClient (type : UInt8) (length : Nat) : Prop :=
  type = grokPacket ∧ cIdSize < length ∨ type = grokDisconnect ∧ length = cIdSize

/-- The types that the server knows a command for. -/
def commandTypes : List UInt8 :=
  [grokPing, grokCreateServer, grokPacket, grokDisconnect, grokAuth, grokStat]

/-- What may follow. The name is what a GROK_PING is answered with. -/
inductive Exchange (name magic : Bytes) (a : Account) : List Turn → Account → Prop where
  /-- A payload that cannot be decompressed. -/
  | garbled (code : UInt8) : code = decompressionError ∨ code = tooLongBuffer →
      Exchange name magic a [.refused code] a
  | ping (length : Nat) (payload : Bytes) :
      Exchange name magic a [.asked grokPing length payload, .told grokPing name] a
  | stat (length : Nat) (payload : Bytes) :
      Exchange name magic a [.asked grokStat length payload, .refused notImplemented] a
  | unknown (type : UInt8) (length : Nat) (payload : Bytes) : type ∉ commandTypes →
      Exchange name magic a [.asked type length payload, .refused noSuchCommand] a
  | auth (length : Nat) (payload : Bytes) : Exchange name magic a [.asked grokAuth length payload]
      { a with chooses := a.chooses || length = magic.length && payload.take length = magic }
  -- a tunnel
  | created (length : Nat) (payload : Bytes) (port : UInt16) : a.standing = .idle → port ≠ 0 →
      Exchange name magic a [.asked grokCreateServer length payload,
        .told grokCreateServer (ByteBuffer.encode 2 port.toNat)]
        { a with standing := .serving port ∅ }
  | unavailable (payload : Bytes) : a.standing = .idle → a.chooses = true →
      Exchange name magic a [.asked grokCreateServer 2 payload, .refused unavailablePort] a
  | failed (length : Nat) (payload : Bytes) : a.standing = .idle →
      Exchange name magic a [.asked grokCreateServer length payload, .refused internalServerError]
        { a with standing := .broken }
  | again (length : Nat) (payload : Bytes) : a.standing ≠ .idle →
      Exchange name magic a [.asked grokCreateServer length payload, .refused serverAlreadyCreated] a
  -- messages for clients
  | noSession (type : UInt8) (length : Nat) (payload : Bytes) :
      type = grokPacket ∨ type = grokDisconnect → a.standing = .idle →
      Exchange name magic a [.asked type length payload, .refused noSession] a
  | tooShort (length : Nat) (payload : Bytes) : a.standing ≠ .idle → length ≤ cIdSize →
      Exchange name magic a [.asked grokPacket length payload, .refused tooShortBuffer] a
  | wrongSize (length : Nat) (payload : Bytes) : a.standing ≠ .idle → length ≠ cIdSize →
      Exchange name magic a [.asked grokDisconnect length payload, .refused bufferSizeIncorrect] a
  | noSuchClient (type : UInt8) (length : Nat) (payload : Bytes) (port : UInt16) (ids : Set CIdT) :
      ForClient type length → a.standing = .serving port ids → addressed payload ∉ ids →
      Exchange name magic a [.asked type length payload, .refused noSuchClient] a
  | delivered (length : Nat) (payload : Bytes) (port : UInt16) (ids : Set CIdT) :
      cIdSize < length → a.standing = .serving port ids → addressed payload ∈ ids →
      Exchange name magic a [.asked grokPacket length payload] a
  | dismissed (payload : Bytes) (port : UInt16) (ids : Set CIdT) :
      a.standing = .serving port ids → addressed payload ∈ ids →
      Exchange name magic a [.asked grokDisconnect cIdSize payload]
        { a with standing := .serving port (ids \ {addressed payload}) }
  -- what clients do
  | connected (port : UInt16) (ids : Set CIdT) (id : CIdT) : a.standing = .serving port ids →
      id ∉ ids → Exchange name magic a
        [.told grokConnected (ByteBuffer.encode cIdSize id.toNat)]
        { a with standing := .serving port (insert id ids) }
  | relayed (port : UInt16) (ids : Set CIdT) (id : CIdT) (bytes : Bytes) :
      a.standing = .serving port ids → id ∈ ids → bytes.length ≤ redirBufSize →
      Exchange name magic a [.told grokPacket (ByteBuffer.encode cIdSize id.toNat ++ bytes)] a
  | disconnected (port : UInt16) (ids : Set CIdT) (id : CIdT) : a.standing = .serving port ids →
      id ∈ ids → Exchange name magic a
        [.told grokDisconnect (ByteBuffer.encode cIdSize id.toNat)]
        { a with standing := .serving port (ids \ {id}) }

/-- A conversation of an owner with the server. -/
abbrev Dialogue (name magic : Bytes) : Account → List Turn → Account → Prop :=
  Runs (Exchange name magic)

end OpenGrok
