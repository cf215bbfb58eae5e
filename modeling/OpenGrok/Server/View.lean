import OpenGrok.Server.Names

/-! What concerns one descriptor.

`World.view x` is the part of the world that is kept under the descriptor `x`, with
what happened at it. Every operation of the code is a few updates of views: the lemmas
below say which view it changes and how, and that it leaves the others as they are. -/
namespace OpenGrok

/-- The descriptor an action happened at. -/
def Action.fd : Action → SockT
  | .accept fd => fd
  | .close fd => fd
  | .recv fd _ => fd
  | .recvFailed fd => fd
  | .send fd _ => fd
  | .sendFailed fd => fd
  | .queued fd _ => fd
  | .frame fd _ _ => fd
  | .announced owner _ _ => owner
  | .message fd _ _ _ => fd
  | .bind owner _ => owner

structure View where
  opened : Option Nat
  observer : Option ObserverPtr
  linked : Option ObserverPtr
  user : Option User
  parser : Option StreamingParser
  queues : Queues
  interest : Option Events
  history : List Action
  deriving DecidableEq

def World.view (w : World) (x : SockT) : View where
  opened := w.openSocks.lookup x
  observer := w.observers.lookup x
  linked := w.linkedClients.lookup x
  user := w.users.lookup x
  parser := w.http.parsers.lookup x
  queues := w.gatherQueue x
  interest := w.interest.lookup x
  history := w.trace.filter fun a => a.fd = x

/-! ### Updates of a view -/

namespace View

@[grind] def log (a : Action) (v : View) : View := { v with history := a :: v.history }

@[grind] def push (item : ReadItem) (v : View) : View :=
  { v with queues := { v.queues with read := v.queues.read ++ [item] } }

/-- `Selector::modify`: the interest of what is registered. -/
@[grind] def modify (evs : Events) (v : View) : View := { v with interest := v.interest.map fun _ => evs }

/-- `Loop::send`, for the descriptor `x`. -/
def send (x : SockT) (buffer : Bytes) (v : View) : View :=
  match v.queues.write with
  | [] => { (v.modify eventsRW).log (.queued x buffer) with
      queues := { v.queues with write := [⟨buffer, 0⟩] } }
  | front :: rest => { v.log (.queued x buffer) with
      queues := { v.queues with write := front.mergeBuffers buffer :: rest } }

/-- `read_queue.pop_front()`. -/
@[grind] def pop (v : View) : View := { v with queues := { v.queues with read := v.queues.read.tail } }

/-- What a connection leaves behind when it is closed: its user record and its parser. -/
@[grind] def gone (x : SockT) (v : View) : View :=
  { v.log (.close x) with opened := none, linked := none, queues := {}, interest := none }

end View

/-! ### What the operations do to the views -/

namespace World
variable (w : World) (x y : SockT)

@[simp] theorem view_log (a : Action) :
    (w.log a).view x = if x = a.fd then (w.view x).log a else w.view x := by
  by_cases h : a.fd = x
  · simp [view, log, View.log, gatherQueue, h]
  · simp [view, log, gatherQueue, h, Ne.symm h]

theorem view_log_self {a : Action} {x : SockT} (h : a.fd = x) :
    (w.log a).view x = (w.view x).log a := by
  rw [view_log, if_pos h.symm]

theorem view_log_other {a : Action} {x : SockT} (h : x ≠ a.fd) : (w.log a).view x = w.view x := by
  rw [view_log, if_neg h]

@[simp] theorem view_setQueue (q : Queues) :
    (w.setQueue y q).view x = if x = y then { w.view x with queues := q } else w.view x := by
  by_cases h : x = y <;> simp [view, setQueue, gatherQueue, h]

@[simp] theorem view_setProxy (p : Ptr) (px : GrokProxy) : (w.setProxy p px).view x = w.view x :=
  rfl

@[simp] theorem view_setObserver (o : ObserverPtr) (b : IObserver) :
    (w.setObserver o b).view x = w.view x := by
  cases o with
  | freeGrok => rfl
  | httpInterface => rfl
  | grokProxy p =>
    simp only [setObserver, Registry.setObserver]
    split <;> rfl

@[simp] theorem view_idPool (pool : IdPool) : ({ w with idPool := pool } : World).view x = w.view x :=
  rfl

@[simp] theorem view_setUser (user : User) :
    (FreeGrok.setUser y user w).view x =
      if x = y then { w.view x with user := some user } else w.view x := by
  by_cases h : x = y <;> simp [view, FreeGrok.setUser, gatherQueue, h]

@[simp] theorem view_removeUser :
    (FreeGrok.removeUser y w).view x =
      if x = y then { w.view x with user := none } else w.view x := by
  by_cases h : x = y <;> simp [view, FreeGrok.removeUser, gatherQueue, h]

@[simp] theorem view_setParser (parser : StreamingParser) :
    (HttpInterface.setParser y parser w).view x =
      if x = y then { w.view x with parser := some parser } else w.view x := by
  by_cases h : x = y <;> simp [view, HttpInterface.setParser, gatherQueue, h]

@[simp] theorem view_modify (evs : Events) :
    (Selector.modify y evs w).view x = if x = y then (w.view x).modify evs else w.view x := by
  by_cases h : x = y
  · subst h
    cases hi : w.interest.lookup x <;> simp [view, Selector.modify, View.modify, gatherQueue, hi]
  · cases hi : w.interest.lookup y <;> simp [view, Selector.modify, gatherQueue, h, hi]

theorem view_gatherQueue : (w.view x).queues = w.gatherQueue x := rfl

@[simp] theorem view_removeQueues :
    (Loop.removeQueues y w).view x = if x = y then { w.view x with queues := {} } else w.view x := by
  by_cases h : x = y <;> simp [view, Loop.removeQueues, gatherQueue, h]

@[simp] theorem view_remove :
    (Selector.remove y w).view x = if x = y then { w.view x with interest := none } else w.view x := by
  by_cases h : x = y <;> simp [view, Selector.remove, gatherQueue, h]

@[simp] theorem view_close :
    (tcpClose y w).view x =
      if x = y then { (w.view x).log (.close y) with opened := none, interest := none }
      else w.view x := by
  rw [tcpClose, view_log]
  by_cases h : x = y <;> simp [view, gatherQueue, View.log, Action.fd, h]

@[simp] theorem view_link (o : ObserverPtr) :
    ({ w with linkedClients := w.linkedClients.insert y o } : World).view x =
      if x = y then { w.view x with linked := some o } else w.view x := by
  by_cases h : x = y <;> simp [view, gatherQueue, h]

@[simp] theorem view_unlink :
    ({ w with linkedClients := w.linkedClients.erase y } : World).view x =
      if x = y then { w.view x with linked := none } else w.view x := by
  by_cases h : x = y <;> simp [view, gatherQueue, h]

@[simp] theorem view_unobserve :
    ({ w with observers := w.observers.erase y } : World).view x =
      if x = y then { w.view x with observer := none } else w.view x := by
  by_cases h : x = y <;> simp [view, gatherQueue, h]

@[simp] theorem view_gatherUser :
    (FreeGrok.gatherUser y w).2.view x =
      if x = y then { w.view x with user := some ((w.view x).user.getD {}) } else w.view x := by
  by_cases h : x = y
  · subst h
    cases hu : w.users.lookup x <;> simp [view, FreeGrok.gatherUser, gatherQueue, hu]
  · cases hu : w.users.lookup y <;> simp [view, FreeGrok.gatherUser, gatherQueue, h, hu]

@[simp] theorem view_send (buffer : Bytes) :
    (Loop.send y buffer w).view x = if x = y then (w.view x).send y buffer else w.view x := by
  have hq : (w.log (.queued y buffer)).gatherQueue y = (w.view y).queues := rfl
  simp only [Loop.send, hq]
  cases hw : (w.view y).queues.write with
  | nil =>
    by_cases h : x = y
    · subst h
      simp [View.send, hw, Action.fd, View.log, View.modify]
    · simp [h, Action.fd]
  | cons front rest =>
    by_cases h : x = y
    · subst h
      simp [View.send, hw, Action.fd, View.log]
    · simp [h, Action.fd]

end World

/-! ### What the operations do to the registry -/

@[simp] theorem World.log_registry (a : Action) (w : World) :
    (w.log a).toRegistry = w.toRegistry := rfl

@[simp] theorem World.setQueue_registry (x : SockT) (q : Queues) (w : World) :
    (w.setQueue x q).toRegistry = w.toRegistry := rfl

@[simp] theorem Selector.modify_registry (x : SockT) (evs : Events) (w : World) :
    (Selector.modify x evs w).toRegistry = w.toRegistry := by
  unfold Selector.modify
  split <;> rfl

@[simp] theorem Selector.add_registry (x : SockT) (evs : Events) (w : World) :
    (Selector.add x evs w).toRegistry = w.toRegistry := by
  unfold Selector.add
  split <;> rfl

@[simp] theorem Loop.send_registry (x : SockT) (buffer : Bytes) (w : World) :
    (Loop.send x buffer w).toRegistry = w.toRegistry := by
  simp only [Loop.send]
  split <;> simp

end OpenGrok
