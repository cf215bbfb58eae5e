import OpenGrok.Library.Machine
import OpenGrok.Server.FreeGrok

/-! The event loop (loop.cpp, `perform_read_queue` to `run`).

`handleEvent` is one round of the `for` loop of `Loop::run`; it says whether it left
the batch by `break`. `step` is the loop as a machine: with no event pending it takes
a batch from the selector, otherwise it handles the next event. -/
namespace OpenGrok

/-- `on_received` of any observer. -/
def onReceived (env : Env) (os : Os) (o : ObserverPtr) (item : ReadItem) (w : World) :
    Except Fault World :=
  match o with
  | .freeGrok => FreeGrok.onReceived env os item w
  | .httpInterface => HttpInterface.onReceived env os item w
  | .grokProxy p => GrokProxy.onReceived env os p item w

/-- `on_connect` of any observer. -/
def onConnect (env : Env) (os : Os) (o : ObserverPtr) (w : World) :
    Except Fault (SockT × World) :=
  match o with
  | .freeGrok => return FreeGrok.onConnect os w
  | .httpInterface => return HttpInterface.onConnect os w
  | .grokProxy p => GrokProxy.onConnect env os p w

namespace Loop
variable (env : Env) (os : Os)

/-- `read_queue.pop_front()`. -/
def popRead (sock : SockT) (w : World) : World :=
  let queue := w.gatherQueue sock
  w.setQueue sock { queue with read := queue.read.tail }

def performReadQueue (sock : SockT) (o : ObserverPtr) (w : World) : Except Fault World :=
  let queue := w.gatherQueue sock
  match queue.read with
  | [] => throw .emptyRead
  | .capture fd pending :: _ => do
    let w ← onReceived env os o (.capture fd pending) w
    if !pending then return popRead sock w else return w
  | .read fd state length u64 buffer :: rest =>
    match os.tcpRecv (length - buffer.length) with
    | none | some [] => return clearAll sock (w.log (.recvFailed sock))
    | some bytes => do
      let front : ReadItem := .read fd state length u64 (buffer ++ bytes)
      let w := w.log (.recv sock bytes)
      let w := w.setQueue sock { queue with read := front :: rest }
      if (buffer ++ bytes).length ≥ length then
        let w ← onReceived env os o front w
        return popRead sock w
      else return w

def performWriteQueue (sock : SockT) (w : World) : Except Fault World :=
  let queue := w.gatherQueue sock
  match queue.write with
  | [] => throw .emptyWrite
  | front :: rest =>
    let sent := os.tcpSend (front.buffer.length - front.sent)
    if sent ≤ 0 then
      return clearAll sock (Selector.modify sock eventsR (w.log (.sendFailed sock)))
    else
      let w := w.log (.send sock (front.unsent.take sent.toNat))
      let front := { front with sent := front.sent + sent.toNat }
      let write := if front.sent ≥ front.buffer.length then rest else front :: rest
      let w := w.setQueue sock { queue with write := write }
      if write = [] then return Selector.modify sock eventsR w else return w

/-- An event as `epoll_wait` reports it. -/
structure Event where
  fd : SockT
  events : Events
  deriving DecidableEq, Repr

/-- The HUP and RDHUP case of `run`. It always ends in `break`. -/
def hangUp (fd : SockT) (w : World) : Except Fault World :=
  match w.observers.lookup fd with
  | some o => do
    let w ← onDisconnect env o fd w
    let base ← w.observer o
    if !base.isServer then removeObserver env o w else return w
  | none => forceDisconnect env fd true true w

/-- The EPOLLOUT case of `run`; true if it ended in `continue`. -/
def writable (fd : SockT) (w : World) : Except Fault (Bool × World) :=
  match w.observers.lookup fd with
  | some o => do
    let base ← w.observer o
    if !base.isConnected then
      let (_, w) ← onConnect env os o w
      let base ← w.observer o
      let w := w.setObserver o { base with isConnected := true }
      return (true, Selector.modify fd eventsR w)
    else return (false, ← performWriteQueue os fd w)
  | none => do return (false, ← performWriteQueue os fd w)

/-- The EPOLLIN case of `run`. -/
def readable (fd : SockT) (w : World) : Except Fault World :=
  match w.observers.lookup fd with
  | some o => do
    let base ← w.observer o
    if base.isServer then
      let (clientFd, w) ← onConnect env os o w
      let w := Selector.add clientFd eventsR w
      linkClient clientFd o w
    else performReadQueue env os fd o w
  | none =>
    match w.linkedClients.lookup fd with
    | none => throw .outOfRange
    | some o => performReadQueue env os fd o w

/-- One round of the `for` loop of `run`; true if it ended in `break`. -/
def handleEvent (ev : Event) (w : World) : Except Fault (Bool × World) := do
  if ev.events.epollhup || ev.events.epollrdhup then
    return (true, ← hangUp env ev.fd w)
  let (continued, w) ←
    if ev.events.epollout then writable env os ev.fd w else pure (false, w)
  if continued then return (false, w)
  if ev.events.epollin then return (false, ← readable env os ev.fd w) else return (false, w)

/-! ### The loop as a machine -/

/-- An event still to be handled, with the number of the connection or listener that was
behind its descriptor when the selector reported it; the code does not see that number. -/
structure Pending where
  event : Event
  reported : Nat
  deriving DecidableEq, Repr

structure State where
  world : World
  pending : List Pending := []
  deriving DecidableEq

/-- What the outside does next: the selector returns a batch, or the system calls of the
next pending event give their answers. -/
inductive Input where
  | wait (batch : List Pending)
  | handle (os : Os)
  deriving DecidableEq, Repr

def step (s : State) : Input → Except Fault State
  | .wait batch =>
    if s.world.observers.entries = [] then throw .noObservers
    else return { s with pending := batch }
  | .handle os =>
    match s.pending with
    | [] => return s
    | ev :: rest => do
      let (broke, w) ← handleEvent env os ev.event s.world
      return { world := w, pending := if broke then [] else rest }

/-- A batch of one `epoll_wait`: at most one event for a descriptor, each descriptor open and
registered. Any combination of the flags may be set. -/
structure ValidBatch (w : World) (batch : List Pending) : Prop where
  nodup : (batch.map fun ev => ev.event.fd).Nodup
  reported : ∀ ev ∈ batch, w.openSocks.lookup ev.event.fd = some ev.reported
  registered : ∀ ev ∈ batch, (w.interest.lookup ev.event.fd).isSome

instance (w : World) (batch : List Pending) : Decidable (ValidBatch w batch) :=
  decidable_of_iff ((batch.map fun ev => ev.event.fd).Nodup ∧
      (∀ ev ∈ batch, w.openSocks.lookup ev.event.fd = some ev.reported) ∧
      ∀ ev ∈ batch, (w.interest.lookup ev.event.fd).isSome)
    ⟨fun ⟨h1, h2, h3⟩ => ⟨h1, h2, h3⟩, fun ⟨h1, h2, h3⟩ => ⟨h1, h2, h3⟩⟩

/-- What the kernel may do: it reports a batch when the last one is done with, and it never
gives a descriptor that is open. -/
def Allowed (s : State) : Input → Prop
  | .wait batch => s.pending = [] ∧ ValidBatch s.world batch
  | .handle os => s.pending ≠ [] ∧ os.Fresh s.world.toRegistry

instance (s : State) : ∀ i, Decidable (Allowed s i)
  | .wait batch => inferInstanceAs (Decidable (s.pending = [] ∧ ValidBatch s.world batch))
  | .handle os => inferInstanceAs (Decidable (s.pending ≠ [] ∧ os.Fresh s.world.toRegistry))

end Loop

/-! ### Where a run starts -/

/-- The two listeners that `main` adds to the loop. -/
structure Listeners where
  freeGrok : SockT
  http : SockT
  freeGrok_nonneg : 0 ≤ freeGrok
  http_nonneg : 0 ≤ http
  distinct : freeGrok ≠ http

/-- The world when `main` calls `loop.run()`. -/
def World.boot (l : Listeners) : World where
  freeGrok := { socket := l.freeGrok }
  http := { socket := l.http }
  observers := ((∅ : Table SockT ObserverPtr).insert l.freeGrok .freeGrok).insert l.http
    .httpInterface
  openSocks := ((∅ : Table SockT Nat).insert l.freeGrok 0).insert l.http 1
  nextConnection := 2
  interest := ((∅ : Table SockT Events).insert l.freeGrok eventsR).insert l.http eventsR

/-- The states that runs reach in an environment that does what the kernel may do and what
`also` says. -/
abbrev ReachableIf (env : Env) (l : Listeners) (also : Loop.State → Loop.Input → Prop) :
    Loop.State → Prop :=
  Reach (Loop.step env) (fun s i => Loop.Allowed s i ∧ also s i) ⟨World.boot l, []⟩

/-- The states that any run reaches. -/
abbrev Reachable (env : Env) (l : Listeners) : Loop.State → Prop :=
  ReachableIf env l fun _ _ => True

/-- A state with a property, reached on a list of inputs. -/
theorem ReachableIf.exists_of_run (env : Env) (l : Listeners)
    (also : Loop.State → Loop.Input → Prop) (inputs : List Loop.Input) (Q : Loop.State → Prop)
    (hp : Permitted (Loop.step env) (fun s i => Loop.Allowed s i ∧ also s i) ⟨World.boot l, []⟩
      inputs)
    (hr : Except.Returns (run (Loop.step env) ⟨World.boot l, []⟩ inputs) Q) :
    ∃ s, ReachableIf env l also s ∧ Q s :=
  Reach.exists_of_run hp hr

/-! ### An environment to run the model in -/

/-- zstd declines to compress and recognises nothing, there is no web page, and tables are
walked in order. -/
def Env.plain (magic : Bytes) : Env where
  serverName := []
  magic := magic
  zstd := { compress := fun _ => none, getFrameContentSize := fun _ => .error,
            decompress := fun _ _ => none }
  llhttpExecute _ _ := ([], 0)
  indexPage := []
  order := id
  order_perm _ := .refl _

/-- The main server listens on 3 and the HTTP interface on 4. -/
def Listeners.plain : Listeners where
  freeGrok := 3
  http := 4
  freeGrok_nonneg := by decide
  http_nonneg := by decide
  distinct := by decide

namespace Loop

/-- A batch of one event that says a descriptor is readable. -/
def Input.readable (fd : SockT) (reported : Nat) : Input :=
  .wait [⟨⟨fd, { epollin := true }⟩, reported⟩]

/-- What `recv` delivers to the event. -/
def Input.data (bytes : Bytes) : Input := .handle { recv := .data bytes }

/-- The descriptor that `accept` gives to the event. -/
def Input.accept (fd : SockT) : Input := .handle { accept := fd }

end Loop

end OpenGrok
