import OpenGrok.Server.State

/-! Descriptors, the selector and the queues (selector.cpp, and loop.cpp up to `run`).

None of these can fail: `epoll_ctl` on a descriptor it does not know is reported
and ignored (`handle_selector_error`), and so is `close`. -/
namespace OpenGrok

/-! ### The kernel's side -/

/-- The descriptor is open, behind a new connection or listener. -/
def World.newSock (fd : SockT) (w : World) : World :=
  { w with
    openSocks := w.openSocks.insert fd w.nextConnection
    nextConnection := w.nextConnection + 1 }

/-- `tcp_accept`. -/
def tcpAccept (os : Os) (w : World) : SockT × World :=
  if os.accept = -1 then (-1, w)
  else (os.accept, (w.newSock os.accept).log (.accept os.accept))

/-- `tcp_create`. -/
def tcpCreate (os : Os) (w : World) : SockT × World :=
  if os.socket = -1 then (-1, w) else (os.socket, w.newSock os.socket)

/-- `tcp_close`. Closing a descriptor also takes it off the selector. -/
def tcpClose (fd : SockT) (w : World) : World :=
  World.log (.close fd) { w with
    openSocks := w.openSocks.erase fd
    interest := w.interest.erase fd }

namespace Selector

/-- `EPOLL_CTL_ADD` fails on a descriptor that is not open or is already there. -/
def add (sock : SockT) (evs : Events) (w : World) : World :=
  match w.openSocks.lookup sock, w.interest.lookup sock with
  | some _, none => { w with interest := w.interest.insert sock evs }
  | _, _ => w

/-- `EPOLL_CTL_MOD` fails on a descriptor that is not there. -/
def modify (sock : SockT) (evs : Events) (w : World) : World :=
  match w.interest.lookup sock with
  | some _ => { w with interest := w.interest.insert sock evs }
  | none => w

/-- `EPOLL_CTL_DEL`. -/
def remove (sock : SockT) (w : World) : World :=
  { w with interest := w.interest.erase sock }

end Selector

/-! ### The loop's side -/

namespace Loop

/-- `Queues::clear_all` on the queues of a descriptor. -/
def clearAll (sock : SockT) (w : World) : World := w.setQueue sock {}

/-- `read_queue.emplace_back`. -/
def pushRead (sock : SockT) (item : ReadItem) (w : World) : World :=
  let queue := w.gatherQueue sock
  w.setQueue sock { queue with read := queue.read ++ [item] }

def capture (sock : SockT) (w : World) : World := pushRead sock (.capture sock true) w

def recv (sock : SockT) (length : Nat) (state : PacketState) (u64 : Nat) (w : World) : World :=
  pushRead sock (.read sock state length u64 []) w

def send (sock : SockT) (buffer : Bytes) (w : World) : World :=
  let w := w.log (.queued sock buffer)
  let queue := w.gatherQueue sock
  match queue.write with
  | [] => (Selector.modify sock eventsRW w).setQueue sock { queue with write := [⟨buffer, 0⟩] }
  | front :: rest => w.setQueue sock { queue with write := front.mergeBuffers buffer :: rest }

def removeQueues (sock : SockT) (w : World) : World :=
  { w with queues := w.queues.erase sock }

def linkClient (sock : SockT) (o : ObserverPtr) (w : World) : Except Fault World := do
  let base ← w.observer o
  let w := w.setObserver o { base with clients := base.clients.insert sock () }
  return { w with linkedClients := w.linkedClients.insert sock o }

def unlinkClient (sock : SockT) (o : ObserverPtr) (erase : Bool) (w : World) :
    Except Fault World := do
  let w ← if erase then do
      let base ← w.observer o
      pure (w.setObserver o { base with clients := base.clients.erase sock })
    else pure w
  return { w with linkedClients := w.linkedClients.erase sock }

end Loop

end OpenGrok
