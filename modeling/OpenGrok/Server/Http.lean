import OpenGrok.Loop.Queue

/-! The HTTP interface (http_interface.cpp, hincl.cpp). -/
namespace OpenGrok

/-- A string literal of the source, as the bytes of its characters. -/
def ascii (s : String) : Bytes := s.toList.map fun c => UInt8.ofNat c.toNat

namespace HttpInterface
variable (env : Env) (os : Os)

def onComplete (fd : SockT) (w : World) : World :=
  let headerBuff := ascii
    "HTTP/1.1 200 OK\r\nConnection: keep-alive\r\nServer: Embedded FreeGrok\r\n"
  let bodyLen := ascii ("Content-Length: " ++ toString env.indexPage.length ++ "\r\n\r\n")
  Loop.send fd env.indexPage (Loop.send fd bodyLen (Loop.send fd headerBuff w))

def onParseError (fd : SockT) (w : World) : World :=
  let headerBuff := ascii ("HTTP/1.1 400 Bad Request\r\nConnection: keep-alive\r\n" ++
    "Server: Embedded FreeGrok\r\n\r\nBad request")
  Loop.send fd env.indexPage (Loop.send fd headerBuff w)

end HttpInterface

namespace StreamingParser
variable (env : Env)

def onHeaderField (parser : StreamingParser) (h : Bytes) : StreamingParser :=
  { parser with curName := h }

def onHeaderValue (parser : StreamingParser) (h : Bytes) : StreamingParser :=
  { parser with headers := parser.headers.insert parser.curName h, curName := [] }

def onMessageComplete (parser : StreamingParser) (w : World) : StreamingParser × World :=
  let w := HttpInterface.onComplete env parser.u64 w
  ({ parser with headers := ∅ }, w)

/-- One callback of `llhttp_execute`. -/
def callback (state : StreamingParser × World) : HttpCallback → StreamingParser × World
  | .headerField h => (state.1.onHeaderField h, state.2)
  | .headerValue h => (state.1.onHeaderValue h, state.2)
  | .body _ => state
  | .messageComplete => state.1.onMessageComplete env state.2

def feed (parser : StreamingParser) (buffer : Bytes) (w : World) : StreamingParser × World :=
  let (callbacks, err) := env.llhttpExecute parser.fed buffer
  let parser := { parser with fed := parser.fed ++ [buffer] }
  let (parser, w) := callbacks.foldl (callback env) (parser, w)
  if err ≠ 0 then (parser, HttpInterface.onParseError env parser.u64 w) else (parser, w)

/-- `feed` from a buffer. It is undefined to parse what nobody stored. -/
def feedFrom (parser : StreamingParser) (buffer : Bytes) (length : Nat) (w : World) :
    Except Fault (StreamingParser × World) :=
  if length ≤ buffer.length then return parser.feed env (buffer.take length) w
  else throw .undefined

/-- What `llhttp_execute` gives for the buffers, fed one after the other. -/
def results : List Bytes → List Bytes → List (List HttpCallback × Nat)
  | _, [] => []
  | fed, buffer :: rest => env.llhttpExecute fed buffer :: results (fed ++ [buffer]) rest

end StreamingParser

namespace HttpInterface
variable (env : Env) (os : Os)

def setParser (fd : SockT) (parser : StreamingParser) (w : World) : World :=
  { w with http := { w.http with parsers := w.http.parsers.insert fd parser } }

def onConnect (w : World) : SockT × World :=
  let (clientFd, w) := tcpAccept os w
  let w := Loop.capture clientFd w
  (clientFd, setParser clientFd { u64 := clientFd } w)

def onDisconnect (sock : SockT) (w : World) : World :=
  match w.http.parsers.lookup sock with
  | none => w
  | some _ => { w with http := { w.http with parsers := w.http.parsers.erase sock } }

/-- `on_received`, with what it calls on the parser. -/
def onReceivedWith
    (feed : StreamingParser → Bytes → Nat → World → Except Fault (StreamingParser × World))
    (item : ReadItem) (w : World) : Except Fault World :=
  match w.http.parsers.lookup item.fd with
  | none => return w
  | some parser => do
    let received := os.received 4096
    let w := w.captured os item.fd 4096
    let (parser, w) ← feed parser (os.stored 4096) (sizeT received) w
    return setParser item.fd parser w

def onReceived (item : ReadItem) (w : World) : Except Fault World :=
  onReceivedWith os (StreamingParser.feedFrom env) item w

/-- What a client sent is fed to its parser; -1 is passed on as a length. -/
theorem onReceived_eq (item : ReadItem) (w : World) : onReceived env os item w =
    match w.http.parsers.lookup item.fd with
    | none => return w
    | some parser =>
      match os.tcpRecv 4096 with
      | none => throw .undefined
      | some received =>
        return setParser item.fd (parser.feed env received (w.log (.recv item.fd received))).1
          (parser.feed env received (w.log (.recv item.fd received))).2 := by
  unfold onReceived onReceivedWith
  cases w.http.parsers.lookup item.fd with
  | none => rfl
  | some parser =>
    dsimp only
    cases hrecv : os.tcpRecv 4096 with
    | none =>
      obtain ⟨hreceived, hstored⟩ := Os.received_none hrecv
      rw [hreceived, hstored, StreamingParser.feedFrom, if_neg (by decide)]
      rfl
    | some received =>
      have hle := Os.tcpRecv_length hrecv
      obtain ⟨hreceived, hstored⟩ := Os.received_some hrecv
      rw [hreceived, hstored, sizeT_length (by omega), World.captured, hrecv,
        StreamingParser.feedFrom, if_pos (Nat.le_refl _), List.take_length]
      rfl

end HttpInterface

end OpenGrok
