import OpenGrok.Loop.Disconnect

/-! The main server (server.cpp): the commands of a main connection, and the frame
parser that finds them in its bytes. -/
namespace OpenGrok

/-- `tcp_is_port_available`: a probe socket is made, bound to the port and closed. -/
def tcpIsPortAvailable (os : Os) : Except Fault Bool :=
  if os.probeReuse then return os.probeBind else throw .sysError

/-- `GrokProxy::post_init`. -/
def GrokProxy.postInit (os : Os) (p : Ptr) (w : World) : Except Fault World := do
  let px ← w.proxy p
  if px.socket = -1 ∨ !os.reuse then throw .sysError
  let w := w.log (.bind px.initiator px.listeningPort.toNat)
  if !os.bind then throw .sysError
  if !os.listen then throw .sysError
  match os.getsockname with
  | none => throw .sysError
  | some port => return w.setProxy p { px with listeningPort := port }

/-- `add_observer` on a new proxy. -/
def Loop.addObserver (os : Os) (p : Ptr) (w : World) : Except Fault World := do
  let px ← w.proxy p
  let w := Selector.add px.socket (if px.isServer then eventsR else eventsRW) w
  let w ← GrokProxy.postInit os p w
  return { w with observers := w.observers.insert px.socket (.grokProxy p) }

namespace FreeGrok
variable (env : Env) (os : Os)

/-- `link_server`. -/
def linkServer (fd : SockT) (p : Ptr) (w : World) : World :=
  let (user, w) := gatherUser fd w
  setUser fd { user with server := some p } w

/-- `remove_server` works on a copy of the record: the proxy is deleted, and the record
still points to it. -/
def removeServer (fd : SockT) (w : World) : Except Fault World := do
  let (user, w) := gatherUser fd w
  match user.server with
  | none => return w
  | some p => deleteProxy p w

/-- `new GrokProxy`. -/
def newProxy (initiator : SockT) (port : UInt16) (w : World) : Ptr × World :=
  let (socket, w) := tcpCreate os w
  (w.nextProxy, { w with
    proxies := w.proxies.insert w.nextProxy { socket, initiator, listeningPort := port }
    nextProxy := w.nextProxy + 1 })

/-- The port a GROK_CREATE_SERVER frame asks for, 0 if it may not ask for one; `none` if the
port is not available. -/
def targetPort (fd : SockT) (length : Nat) (reader : BufferReader) (w : World) :
    Except Fault (Option UInt16 × World) := do
  if length = 2 then
    let (user, w) := gatherUser fd w
    if user.canSelectPort then
      let (port, _) ← reader.read 2
      if ← tcpIsPortAvailable os then return (some (UInt16.ofNat port), w)
      else return (none, w)
    else return (some 0, w)
  else return (some 0, w)

/-- GROK_CREATE_SERVER. -/
def createServer (fd : SockT) (length : Nat) (reader : BufferReader) (w : World) :
    Except Fault World := do
  if hasServer w fd then return FStreamer.sendError env fd serverAlreadyCreated w
  let (port, w) ← targetPort os fd length reader w
  match port with
  | none => return FStreamer.sendError env fd unavailablePort w
  | some port =>
    let (proxyServer, w) := newProxy os fd port w
    let w := linkServer fd proxyServer w
    let w ← Loop.addObserver os proxyServer w
    let px ← w.proxy proxyServer
    if px.listeningPort = 0 then
      let w := FStreamer.sendError env fd internalServerError w
      let w ← Loop.removeObserver env (.grokProxy proxyServer) w
      removeServer fd w
    else
      return FStreamer.send env fd grokCreateServer
        (ByteBuffer.encode 2 px.listeningPort.toNat) w

/-- `gather_user(fd).server`, where it is known to be there. -/
def server (fd : SockT) (w : World) : Except Fault Ptr :=
  match (gatherUser fd w).1.server with
  | some p => return p
  | none => throw .undefined

/-- GROK_PACKET. -/
def packet (fd : SockT) (length : Nat) (reader : BufferReader) (w : World) :
    Except Fault World := do
  if !hasServer w fd then return FStreamer.sendError env fd noSession w
  else if length ≤ cIdSize then return FStreamer.sendError env fd tooShortBuffer w
  let (clientId, reader) ← reader.read cIdSize
  let clientId := UInt32.ofNat clientId
  let server ← server fd w
  let px ← w.proxy server
  if !px.hasClient clientId then return FStreamer.sendError env fd noSuchClient w
  let body ← reader.slice (length - reader.offset)
  GrokProxy.redirectPacket server clientId body w

/-- GROK_DISCONNECT. -/
def disconnect (fd : SockT) (length : Nat) (reader : BufferReader) (w : World) :
    Except Fault World := do
  if !hasServer w fd then return FStreamer.sendError env fd noSession w
  else if length ≠ cIdSize then return FStreamer.sendError env fd bufferSizeIncorrect w
  let (clientId, _) ← reader.read cIdSize
  let clientId := UInt32.ofNat clientId
  let server ← server fd w
  let px ← w.proxy server
  if !px.hasClient clientId then return FStreamer.sendError env fd noSuchClient w
  GrokProxy.disconnectClient env server clientId w

/-- `memcmp` of the magic with the payload. -/
def memcmpMagic (reader : BufferReader) : Except Fault Bool := do
  if env.magic.length = 0 then return true
  return (← reader.slice env.magic.length) = env.magic

/-- GROK_AUTH. -/
def auth (fd : SockT) (length : Nat) (reader : BufferReader) (w : World) :
    Except Fault World := do
  if length ≠ env.magic.length then return w
  if ← memcmpMagic env reader then
    let (user, w) := gatherUser fd w
    return setUser fd (user.grant .all) w
  else return w

/-- `process_message`, for the connection `fd` and the payload `buffer`. -/
def processMessage (type : UInt8) (length : Nat) (fd : SockT) (buffer : Option Bytes) (w : World) :
    Except Fault World :=
  let w := w.log (.message fd type length buffer)
  let reader : BufferReader := { buffer }
  if type = grokPing then return FStreamer.send env fd grokPing env.serverName w
  else if type = grokCreateServer then createServer env os fd length reader w
  else if type = grokPacket then packet env fd length reader w
  else if type = grokDisconnect then disconnect env fd length reader w
  else if type = grokAuth then auth env fd length reader w
  else if type = grokStat then return FStreamer.sendError env fd notImplemented w
  else return FStreamer.sendError env fd noSuchCommand w

/-- `go_new_message`. -/
def goNewMessage (src : SockT) (w : World) : World := Loop.recv src 2 .typeGot 0 w

def onConnect (w : World) : SockT × World :=
  let (clientFd, w) := tcpAccept os w
  (clientFd, goNewMessage clientFd w)

/-- The TYPE_GOT case of `on_received`: the two bytes that every frame starts with. -/
def typeGot (fd : SockT) (data lengthChunk : UInt8) (w : World) : Except Fault World :=
  if grokIsShort data then
    if lengthChunk = 0 then do
      let w ← processMessage env os (grokGetType data) 0 fd none w
      return goNewMessage fd w
    else
      let metaBits := data.toNat <<< 32 ||| lengthChunk.toNat
      return Loop.recv fd lengthChunk.toNat .bufferGot metaBits w
  else
    let metaBits := data.toNat <<< 8 ||| lengthChunk.toNat
    return Loop.recv fd 3 .headerGot metaBits w

/-- The HEADER_GOT case: the other three bytes of a 32-bit length. -/
def headerGot (fd : SockT) (metaBits : Nat) (buffer : Bytes) (w : World) : Except Fault World :=
  let lengthChunk := UInt8.ofNat (metaBits &&& 0xff)
  let data := UInt8.ofNat (metaBits >>> 8)
  let lengthBuf := lengthChunk :: buffer
  let length := ByteBuffer.bytesToInt 4 (fun i => lengthBuf.getD i 0) .LITTLE
  if length = 0 then do
    let w ← processMessage env os (grokGetType data) length fd (some []) w
    return goNewMessage fd w
  else
    let merged := data.toNat <<< 32 ||| length
    return Loop.recv fd length .bufferGot merged w

/-- The BUFFER_GOT case: the payload. -/
def bufferGot (fd : SockT) (merged : Nat) (buffer : Bytes) (w : World) : Except Fault World := do
  let data := UInt8.ofNat (merged >>> 32)
  let type := grokGetType data
  let length := merged &&& 0xffffffff
  if grokIsCompressed data then
    match env.zstd.getFrameContentSize buffer with
    | .unknown | .error | .size 0 =>
      let w := FStreamer.sendError env fd decompressionError w
      return goNewMessage fd w
    | .size buffSize =>
      if buffSize > maxDecompressedSize then
        let w := FStreamer.sendError env fd tooLongBuffer w
        return goNewMessage fd w
      else
        match env.zstd.decompress buffer buffSize with
        | none =>
          let w := FStreamer.sendError env fd decompressionError w
          return goNewMessage fd w
        | some decBuf =>
          let w ← processMessage env os type buffSize fd (some (decBuf.take buffSize)) w
          return goNewMessage fd w
  else
    let w ← processMessage env os type length fd (some buffer) w
    return goNewMessage fd w

/-- `on_received`. A captured item carries no state the switch knows. -/
def onReceived (item : ReadItem) (w : World) : Except Fault World :=
  match item with
  | .capture _ _ => return w
  | .read fd state _ u64 buffer =>
    match state with
    | .typeGot => typeGot env os fd (buffer.getD 0 0) (buffer.getD 1 0) w
    | .headerGot => headerGot env os fd u64 buffer w
    | .bufferGot => bufferGot env os fd u64 buffer w

end FreeGrok

end OpenGrok
