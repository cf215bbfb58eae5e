import OpenGrok.Protocol.Streamer

/-! A tunnel's proxy (proxy_server.cpp), and what it calls on the main server. -/
namespace OpenGrok

/-- `REDIR_BUF_SIZE`. -/
def redirBufSize : Nat := 4096

/-- `memcpy` of `length` bytes from a buffer to the end of what was written to another, which has
`size` bytes. It is undefined to read what nobody stored, or to write past the end. -/
def memcpy (size : Nat) (written buffer : Bytes) (length : Nat) : Except Fault Bytes :=
  if length ≤ buffer.length ∧ written.length + length ≤ size then
    return written ++ buffer.take length
  else throw .undefined

/-! ### IMainServer (server.cpp) -/

namespace FreeGrok
variable (env : Env)

def sendConnected (initiator : SockT) (generatedId : CIdT) (w : World) : World :=
  FStreamer.send env initiator grokConnected (ByteBuffer.encode cIdSize generatedId.toNat) w

/-- The size of the buffer of a GROK_PACKET frame: `sizeof(c_id_t)+length`, as a `size_t`. -/
def packetSize (length : Nat) : Nat := (cIdSize + length) % 2 ^ 64

def redirectPacket (initiator : SockT) (sender : CIdT) (buffer : Bytes) (length : Nat)
    (w : World) : Except Fault World := do
  let size := packetSize length
  let buf ← memcpy size [] (ByteBuffer.encode cIdSize sender.toNat) cIdSize
  let buf ← memcpy size buf buffer length
  return FStreamer.send env initiator grokPacket buf w

/-- The frame that `redirect_packet` sends. -/
def sendPacket (initiator : SockT) (sender : CIdT) (bytes : Bytes) (w : World) : World :=
  FStreamer.send env initiator grokPacket (ByteBuffer.encode cIdSize sender.toNat ++ bytes) w

def sendDisconnected (initiator : SockT) (clientId : CIdT) (w : World) : World :=
  FStreamer.send env initiator grokDisconnect (ByteBuffer.encode cIdSize clientId.toNat) w

end FreeGrok

/-! ### GrokProxy -/

namespace GrokProxy
variable (env : Env) (os : Os)

def linkClient (p : Ptr) (sock : SockT) (w : World) : Except Fault (CIdT × World) := do
  let px ← w.proxy p
  let (id, idPool) := w.idPool.getId
  let w := { w with idPool := idPool }
  return (id, w.setProxy p { px with
    sockToId := px.sockToId.insert sock id
    idToSock := px.idToSock.insert id sock })

def unlinkClient (p : Ptr) (id : CIdT) (sock : SockT) (erase : Bool) (w : World) :
    Except Fault World := do
  let px ← w.proxy p
  let w := { w with idPool := w.idPool.removeId id }
  if erase then
    return w.setProxy p { px with
      sockToId := px.sockToId.erase sock
      idToSock := px.idToSock.erase id }
  else return w

def onConnect (p : Ptr) (w : World) : Except Fault (SockT × World) := do
  let px ← w.proxy p
  let (clientFd, w) := tcpAccept os w
  let w := Loop.capture clientFd w
  let (id, w) ← linkClient p clientFd w
  let w := FreeGrok.sendConnected env px.initiator id w
  let w := w.log (.announced px.initiator id (w.openSocks.lookup clientFd))
  return (clientFd, w)

/-- `on_received`, with what it calls on the main server: the local buffer, and `received` as a
`size_t`. -/
def onReceivedWith (redirectPacket : SockT → CIdT → Bytes → Nat → World → Except Fault World)
    (p : Ptr) (item : ReadItem) (w : World) : Except Fault World := do
  let px ← w.proxy p
  match px.sockToId.lookup item.fd with
  | none => return w
  | some id =>
    let received := os.received redirBufSize
    let w := w.captured os item.fd redirBufSize
    redirectPacket px.initiator id (os.stored redirBufSize) (sizeT received) w

def onReceived (p : Ptr) (item : ReadItem) (w : World) : Except Fault World :=
  onReceivedWith os (FreeGrok.redirectPacket env) p item w

def onDisconnect (p : Ptr) (sock : SockT) (w : World) : Except Fault World := do
  let px ← w.proxy p
  match px.sockToId.lookup sock with
  | none => throw .outOfRange
  | some id =>
    let w ← unlinkClient p id sock true w
    return FreeGrok.sendDisconnected env px.initiator id w

/-- The loop of `shutdown` over the pairs of `sock_to_id`. -/
def releaseIds (p : Ptr) (sockToId : Table SockT CIdT) : List SockT → World → Except Fault World
  | [], w => return w
  | sock :: rest, w => do
    match sockToId.lookup sock with
    | none => releaseIds p sockToId rest w
    | some id =>
      let w ← unlinkClient p id sock false w
      releaseIds p sockToId rest w

def shutdown (p : Ptr) (w : World) : Except Fault World := do
  let px ← w.proxy p
  let w ← releaseIds p px.sockToId (env.order px.sockToId.keys) w
  return w.setProxy p { px with sockToId := ∅, idToSock := ∅ }

def redirectPacket (p : Ptr) (clientId : CIdT) (buffer : Bytes) (w : World) :
    Except Fault World := do
  let px ← w.proxy p
  match px.idToSock.lookup clientId with
  | none => return w
  | some clientFd => return Loop.send clientFd buffer w

def hasClient (px : GrokProxy) (id : CIdT) : Bool := (px.idToSock.lookup id).isSome

end GrokProxy

/-! ### What is received -/

/-- What fits a buffer is copied to the end of it. -/
theorem memcpy_fits {size : Nat} (written buffer : Bytes)
    (h : written.length + buffer.length ≤ size) :
    memcpy size written buffer buffer.length = .ok (written ++ buffer) := by
  unfold memcpy
  rw [if_pos ⟨Nat.le_refl _, h⟩, List.take_length]
  rfl

/-- All of a buffer is passed on, unless the sum of its length and the id's wraps around. -/
theorem FreeGrok.redirectPacket_eq (env : Env) (A : SockT) (id : CIdT) {bytes : Bytes}
    (h : cIdSize + bytes.length < 2 ^ 64) (w : World) :
    redirectPacket env A id bytes bytes.length w = .ok (sendPacket env A id bytes w) := by
  have hsize : packetSize bytes.length = cIdSize + bytes.length := Nat.mod_eq_of_lt h
  have hid : memcpy (cIdSize + bytes.length) [] (ByteBuffer.encode cIdSize id.toNat) cIdSize =
      .ok (ByteBuffer.encode cIdSize id.toNat) := by
    have hfits : memcpy (cIdSize + bytes.length) [] _ _ = _ :=
      memcpy_fits [] (ByteBuffer.encode cIdSize id.toNat) (by simp)
    rwa [ByteBuffer.encode_length] at hfits
  have hbody : memcpy (cIdSize + bytes.length) _ _ _ = _ :=
    memcpy_fits (ByteBuffer.encode cIdSize id.toNat) bytes (by simp)
  simp only [redirectPacket, hsize, hid, hbody, bind, Except.bind]
  rfl

/-- -1 makes room for three bytes, and the id does not fit. -/
theorem FreeGrok.redirectPacket_neg (env : Env) (A : SockT) (id : CIdT) (buffer : Bytes)
    (w : World) : redirectPacket env A id buffer (sizeT (-1)) w = .error .undefined := by
  have hsize : packetSize (sizeT (-1)) = 3 := by decide
  have hid : memcpy 3 [] (ByteBuffer.encode cIdSize id.toNat) cIdSize = .error .undefined := by
    unfold memcpy
    rw [if_neg (by simp [cIdSize])]
    rfl
  simp only [redirectPacket, hsize, hid, bind, Except.bind]

/-- What a client sent goes to the owner; -1 is passed on as a length. -/
theorem GrokProxy.onReceived_eq (env : Env) (os : Os) (p : Ptr) (item : ReadItem) (w : World) :
    onReceived env os p item w = (do
      let px ← w.proxy p
      match px.sockToId.lookup item.fd with
      | none => return w
      | some id =>
        match os.tcpRecv redirBufSize with
        | none => throw .undefined
        | some received =>
          let w := w.log (.recv item.fd received)
          return FreeGrok.sendPacket env px.initiator id received w) := by
  unfold onReceived onReceivedWith
  refine bind_congr fun px => ?_
  cases px.sockToId.lookup item.fd with
  | none => rfl
  | some id =>
    dsimp only
    cases hrecv : os.tcpRecv redirBufSize with
    | none =>
      rw [(Os.received_none hrecv).1, FreeGrok.redirectPacket_neg]
      rfl
    | some received =>
      have hle := Os.tcpRecv_length hrecv
      have hfits : cIdSize + received.length < 2 ^ 64 := by
        simp only [cIdSize, redirBufSize] at hle ⊢
        omega
      obtain ⟨hreceived, hstored⟩ := Os.received_some hrecv
      rw [hreceived, hstored, sizeT_length (by omega), World.captured, hrecv]
      exact FreeGrok.redirectPacket_eq env _ id hfits _

end OpenGrok
