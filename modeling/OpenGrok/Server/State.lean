import OpenGrok.Library.Table
import OpenGrok.Protocol.Spec

/-! The server's state.

`World` is everything the event loop, the main server, the HTTP interface and the
proxies hold between two steps, with the part of the kernel they can see: which
descriptors are open, and which events epoll watches on each. `Registry` is the
part that says who is who: which observer owns which descriptor and which user
owns which proxy. `trace` is no state of the code: it records what happened at
the sockets and at the message handlers, the newest action first, and nothing
reads it back.

`Os` is what the system calls of one event answer, and `Env` what does not change
in a run: the configuration, and the libraries the code calls. -/
namespace OpenGrok

/-- `sock_t`; a failed `accept` or `socket` is -1. -/
abbrev SockT := Int

/-- `c_id_t`. -/
abbrev CIdT := UInt32

/-- The number of an object on the heap. It is never given twice, so a pointer to a
deleted object finds nothing. -/
abbrev Ptr := Nat

/-- Any `IObserver *`. -/
inductive ObserverPtr where
  | freeGrok
  | httpInterface
  | grokProxy (p : Ptr)
  deriving DecidableEq, Repr

/-! ### Events and queues (loop.hpp) -/

/-- The bits of an epoll mask that the loop tests or sets. -/
structure Events where
  epollin : Bool := false
  epollout : Bool := false
  epollhup : Bool := false
  epollrdhup : Bool := false
  deriving DecidableEq, Repr

/-- `EVENTS_R`. -/
def eventsR : Events := { epollin := true, epollhup := true, epollrdhup := true }

/-- `EVENTS_R | EVENT_WRITE`. -/
def eventsRW : Events := { eventsR with epollout := true }

/-- `FreeGrok::PacketState`. -/
inductive PacketState where
  | typeGot
  | headerGot
  | bufferGot
  deriving DecidableEq, Repr

/-- A queued write; `length` is the length of `buffer`. -/
structure WriteItem where
  buffer : Bytes
  sent : Nat := 0
  deriving DecidableEq, Repr

def WriteItem.mergeBuffers (item : WriteItem) (src : Bytes) : WriteItem :=
  { item with buffer := item.buffer ++ src }

/-- What the item still has to hand to the socket. -/
def WriteItem.unsent (item : WriteItem) : Bytes := item.buffer.drop item.sent

/-- A queued read. Of a `READ` item's buffer only the part received so far is kept, so
`received` is its length. -/
inductive ReadItem where
  | capture (fd : SockT) (pending : Bool)
  | read (fd : SockT) (state : PacketState) (length u64 : Nat) (buffer : Bytes)
  deriving DecidableEq, Repr

def ReadItem.fd : ReadItem → SockT
  | .capture fd _ => fd
  | .read fd _ _ _ _ => fd

structure Queues where
  write : List WriteItem := []
  read : List ReadItem := []
  deriving DecidableEq, Repr

/-! ### Objects -/

/-- The members of `IObserver`. -/
structure IObserver where
  clients : Table SockT Unit := ∅
  isConnected : Bool := false
  isServer : Bool := true
  socket : SockT
  deriving DecidableEq

/-- `User`. -/
structure User where
  server : Option Ptr := none
  canSelectPort : Bool := false
  deriving DecidableEq, Repr

inductive User.Rights where
  | canSelectPort
  | all

def User.grant (user : User) : User.Rights → User
  | .canSelectPort => { user with canSelectPort := true }
  | .all => { user with canSelectPort := true }

/-- `IdPool<c_id_t>`. -/
structure IdPool where
  last : CIdT := 0
  ids : List CIdT := []
  deriving DecidableEq, Repr

def IdPool.getId (pool : IdPool) : CIdT × IdPool :=
  match pool.ids with
  | [] => (pool.last, { pool with last := pool.last + 1 })
  | retId :: rest => (retId, { pool with ids := rest })

def IdPool.removeId (pool : IdPool) (id : CIdT) : IdPool :=
  { pool with ids := pool.ids ++ [id] }

/-- A proxy's side of its tunnel: the main connection that asked for it, the port, and the
two tables of its clients. -/
structure Tunnel where
  initiator : SockT
  listeningPort : UInt16
  idToSock : Table CIdT SockT := ∅
  sockToId : Table SockT CIdT := ∅
  deriving DecidableEq

/-- `GrokProxy`. -/
structure GrokProxy extends IObserver, Tunnel
  deriving DecidableEq

/-- `LLHttp::StreamingParser`. The state of the llhttp parser inside it is determined by
what it was fed since it was made, so that is what is kept. -/
structure StreamingParser where
  curName : Bytes := []
  headers : Table Bytes Bytes := ∅
  u64 : SockT
  fed : List Bytes := []
  deriving DecidableEq

/-- `HttpInterface`. -/
structure HttpInterface extends IObserver where
  parsers : Table SockT StreamingParser := ∅
  deriving DecidableEq

/-! ### What happens -/

/-- One thing that happened at a socket or at a handler. -/
inductive Action where
  /-- `accept` returned the descriptor. -/
  | accept (fd : SockT)
  | close (fd : SockT)
  /-- `tcp_recv` delivered the bytes. -/
  | recv (fd : SockT) (bytes : Bytes)
  /-- `tcp_recv` on a queued read delivered nothing. -/
  | recvFailed (fd : SockT)
  /-- `tcp_send` accepted the bytes. -/
  | send (fd : SockT) (bytes : Bytes)
  | sendFailed (fd : SockT)
  /-- `Loop::send` was called. -/
  | queued (fd : SockT) (bytes : Bytes)
  /-- `FStreamer::send` was called. -/
  | frame (fd : SockT) (type : UInt8) (payload : Bytes)
  /-- The CONNECTED frame just queued tells the owner that the connection has the id;
  a failed `accept` has an id and no connection. -/
  | announced (owner : SockT) (id : CIdT) (connection : Option Nat)
  /-- `process_message` was called. -/
  | message (fd : SockT) (type : UInt8) (length : Nat) (buffer : Option Bytes)
  /-- A proxy of the owner was bound to the port. -/
  | bind (owner : SockT) (port : Nat)
  deriving DecidableEq, Repr

/-! ### The whole -/

/-- Who is who. -/
structure Registry where
  observers : Table SockT ObserverPtr := ∅
  linkedClients : Table SockT ObserverPtr := ∅
  users : Table SockT User := ∅
  freeGrok : IObserver
  http : HttpInterface
  proxies : Table Ptr GrokProxy := ∅
  nextProxy : Ptr := 0
  /-- The open descriptors, each with the number of the connection or listener behind it. -/
  openSocks : Table SockT Nat := ∅
  nextConnection : Nat := 0
  deriving DecidableEq

structure World extends Registry where
  queues : Table SockT Queues := ∅
  /-- What the selector was last told to watch on each registered descriptor. -/
  interest : Table SockT Events := ∅
  idPool : IdPool := {}
  trace : List Action := []
  deriving DecidableEq

/-! ### The outside -/

inductive ContentSize where
  | error
  | unknown
  | size (n : Nat)
  deriving DecidableEq, Repr

/-- The zstd functions the code calls; `none` is a result that `ZSTD_isError` recognises.
`decompress` gives what it wrote to the front of the destination. -/
structure Zstd where
  compress : Bytes → Option Bytes
  getFrameContentSize : Bytes → ContentSize
  decompress : Bytes → Nat → Option Bytes

/-- The callbacks of `llhttp_execute` that the parser listens to. -/
inductive HttpCallback where
  | headerField (h : Bytes)
  | headerValue (h : Bytes)
  | body (b : Bytes)
  | messageComplete
  deriving DecidableEq, Repr

/-- What does not change in a run. `llhttpExecute` gives, from what the parser was fed
before and the bytes it is fed now, the callbacks and the result, 0 being `HPE_OK`.
`order` is the order in which the hash tables are walked. -/
structure Env where
  serverName : Bytes
  magic : Bytes
  zstd : Zstd
  llhttpExecute : List Bytes → Bytes → List HttpCallback × Nat
  indexPage : Bytes
  order : List SockT → List SockT
  order_perm : ∀ l, (order l).Perm l

/-- The answer of `recv`: -1, or what the kernel has ready, of which the call takes as much
as it asked for; nothing ready is the end of the stream. -/
inductive RecvReply where
  | error
  | data (bytes : Bytes)
  deriving DecidableEq, Repr

/-- The answers of the system calls made while one event is handled. -/
structure Os where
  /-- `accept`. -/
  accept : SockT := -1
  recv : RecvReply := .error
  /-- `send`: at most this much is taken. -/
  send : Int := -1
  /-- `setsockopt` and `bind` on the socket that probes a requested port. -/
  probeReuse : Bool := true
  probeBind : Bool := true
  /-- `socket`, `setsockopt`, `bind`, `listen` and `getsockname` for a new proxy. -/
  socket : SockT := -1
  reuse : Bool := true
  bind : Bool := true
  listen : Bool := true
  getsockname : Option UInt16 := none
  deriving DecidableEq, Repr

/-- A descriptor the kernel may give: a non-negative `int` that is not open. -/
structure Unused (r : Registry) (fd : SockT) : Prop where
  nonneg : 0 ≤ fd
  int : fd < 2 ^ 31
  closed : r.openSocks.lookup fd = none

instance (r : Registry) (fd : SockT) : Decidable (Unused r fd) :=
  decidable_of_iff (0 ≤ fd ∧ fd < 2 ^ 31 ∧ r.openSocks.lookup fd = none)
    ⟨fun ⟨h1, h2, h3⟩ => ⟨h1, h2, h3⟩, fun ⟨h1, h2, h3⟩ => ⟨h1, h2, h3⟩⟩

/-- What the kernel promises: `accept` and `socket` fail or give an unused descriptor. -/
structure Os.Fresh (r : Registry) (os : Os) : Prop where
  accept : os.accept = -1 ∨ Unused r os.accept
  socket : os.socket = -1 ∨ Unused r os.socket

instance (r : Registry) (os : Os) : Decidable (os.Fresh r) :=
  decidable_of_iff ((os.accept = -1 ∨ Unused r os.accept) ∧ (os.socket = -1 ∨ Unused r os.socket))
    ⟨fun ⟨h1, h2⟩ => ⟨h1, h2⟩, fun ⟨h1, h2⟩ => ⟨h1, h2⟩⟩

/-- `tcp_recv` for at most `len` bytes: -1, or the bytes delivered. -/
def Os.tcpRecv (os : Os) (len : Nat) : Option Bytes :=
  match os.recv with
  | .error => none
  | .data bytes => some (bytes.take len)

/-- What that call returns. -/
def Os.received (os : Os) (len : Nat) : Int :=
  match os.tcpRecv len with
  | none => -1
  | some bytes => bytes.length

/-- What it has stored in the buffer it was given. -/
def Os.stored (os : Os) (len : Nat) : Bytes := (os.tcpRecv len).getD []

/-- The conversion of a signed count to `size_t`. -/
def sizeT (n : Int) : Nat := (n % 2 ^ 64).toNat

section
variable {os : Os} {len : Nat} {bytes : Bytes}

theorem Os.tcpRecv_length (h : os.tcpRecv len = some bytes) : bytes.length ≤ len := by
  unfold Os.tcpRecv at h
  split at h
  · cases h
  · cases h
    exact List.length_take_le ..

theorem Os.received_none (h : os.tcpRecv len = none) :
    os.received len = -1 ∧ os.stored len = [] := by
  simp [Os.received, Os.stored, h]

theorem Os.received_some (h : os.tcpRecv len = some bytes) :
    os.received len = bytes.length ∧ os.stored len = bytes := by
  simp [Os.received, Os.stored, h]

theorem Os.received_neg_iff : os.received len = -1 ↔ os.tcpRecv len = none := by
  cases hrecv : os.tcpRecv len with
  | none => simp [received_none hrecv]
  | some bytes =>
    have hcount := (received_some hrecv).1
    simp only [reduceCtorEq, iff_false]
    omega

theorem sizeT_length (h : bytes.length < 2 ^ 64) : sizeT bytes.length = bytes.length := by
  unfold sizeT
  omega

end

/-- `tcp_send` of `len` bytes. -/
def Os.tcpSend (os : Os) (len : Nat) : Int :=
  if os.send ≤ 0 then os.send else min os.send len

namespace Registry

/-- Follows the pointer to a proxy. -/
def proxy (r : Registry) (p : Ptr) : Except Fault GrokProxy :=
  match r.proxies.lookup p with
  | some px => .ok px
  | none => .error .undefined

def setProxy (p : Ptr) (px : GrokProxy) (r : Registry) : Registry :=
  { r with proxies := r.proxies.insert p px }

/-- Follows the pointer to an observer. -/
def observer (r : Registry) : ObserverPtr → Except Fault IObserver
  | .freeGrok => .ok r.freeGrok
  | .httpInterface => .ok r.http.toIObserver
  | .grokProxy p => do return (← r.proxy p).toIObserver

/-- Writes the `IObserver` part of an observer. -/
def setObserver (o : ObserverPtr) (base : IObserver) (r : Registry) : Registry :=
  match o with
  | .freeGrok => { r with freeGrok := base }
  | .httpInterface => { r with http := { r.http with toIObserver := base } }
  | .grokProxy p =>
    match r.proxies.lookup p with
    | some px => r.setProxy p { px with toIObserver := base }
    | none => r

end Registry

namespace World

def log (a : Action) (w : World) : World := { w with trace := a :: w.trace }

/-- The world once `tcp_recv` for at most `len` bytes has returned. -/
def captured (os : Os) (fd : SockT) (len : Nat) (w : World) : World :=
  match os.tcpRecv len with
  | none => w
  | some bytes => w.log (.recv fd bytes)

/-- `Loop::gather_queue`, as a value. -/
def gatherQueue (w : World) (fd : SockT) : Queues := (w.queues.lookup fd).getD {}

def setQueue (fd : SockT) (q : Queues) (w : World) : World :=
  { w with queues := w.queues.insert fd q }

def setProxy (p : Ptr) (px : GrokProxy) (w : World) : World :=
  { w with toRegistry := w.toRegistry.setProxy p px }

def setObserver (o : ObserverPtr) (base : IObserver) (w : World) : World :=
  { w with toRegistry := w.toRegistry.setObserver o base }

end World

end OpenGrok
