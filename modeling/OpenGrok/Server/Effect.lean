import OpenGrok.Server.View

/-! The effects that events are made of, as functions of the world.

Each is what a piece of the code does when it gets that far, without the tests that
lead there, and comes with two lemmas: what it does to the names (`names_…`) and what
it does to the view of each descriptor (`view_…`). -/
namespace OpenGrok

/-! ### Frames and reads -/

/-- `FStreamer::send`, for the descriptor `x`. -/
def View.frame (env : Env) (x : SockT) (type : UInt8) (payload : Bytes) (v : View) : View :=
  (FStreamer.chunks env type payload).foldl (fun v chunk => v.send x chunk)
    (v.log (.frame x type payload))

theorem World.view_sends (chunks : List Bytes) (w : World) (x y : SockT) :
    (chunks.foldl (fun w chunk => Loop.send y chunk w) w).view x =
      if x = y then chunks.foldl (fun v chunk => v.send y chunk) (w.view x) else w.view x := by
  induction chunks generalizing w with
  | nil => simp
  | cons chunk rest ih =>
    rw [List.foldl_cons, ih, World.view_send]
    split <;> rfl

@[simp] theorem World.view_frame (env : Env) (w : World) (x y : SockT) (type : UInt8)
    (payload : Bytes) :
    (FStreamer.send env y type payload w).view x =
      if x = y then (w.view x).frame env y type payload else w.view x := by
  rw [FStreamer.send_eq, World.view_sends, World.view_log]
  by_cases h : x = y
  · simp [h, Action.fd, View.frame]
  · simp [h, Action.fd]

@[simp] theorem FStreamer.send_registry (env : Env) (w : World) (y : SockT) (type : UInt8)
    (payload : Bytes) : (FStreamer.send env y type payload w).toRegistry = w.toRegistry :=
  FStreamer.send_keeps env (P := fun v => v.toRegistry = w.toRegistry)
    (fun _ _ h => (Loop.send_registry ..).trans h) type payload rfl

@[simp] theorem World.view_pushRead (w : World) (x y : SockT) (item : ReadItem) :
    (Loop.pushRead y item w).view x = if x = y then (w.view x).push item else w.view x := by
  rw [Loop.pushRead, World.view_setQueue]
  by_cases h : x = y
  · subst h
    rfl
  · simp [h]

@[simp] theorem Loop.pushRead_registry (y : SockT) (item : ReadItem) (w : World) :
    (Loop.pushRead y item w).toRegistry = w.toRegistry := rfl

@[simp] theorem World.view_clearAll (w : World) (x y : SockT) :
    (Loop.clearAll y w).view x = if x = y then { w.view x with queues := {} } else w.view x :=
  World.view_setQueue ..

@[simp] theorem Loop.clearAll_registry (y : SockT) (w : World) :
    (Loop.clearAll y w).toRegistry = w.toRegistry := rfl

@[simp] theorem World.view_popRead (w : World) (x y : SockT) :
    (Loop.popRead y w).view x = if x = y then (w.view x).pop else w.view x := by
  rw [Loop.popRead, World.view_setQueue]
  by_cases h : x = y
  · subst h
    rfl
  · simp [h]

@[simp] theorem Loop.popRead_registry (y : SockT) (w : World) :
    (Loop.popRead y w).toRegistry = w.toRegistry := rfl

/-- The socket took `n` bytes of the front write. -/
def World.wrote (w : World) (fd : SockT) (front : WriteItem) (rest : List WriteItem) (n : Nat) :
    World :=
  let queue := w.gatherQueue fd
  let w := w.log (.send fd (front.unsent.take n))
  let front := { front with sent := front.sent + n }
  let write := if front.sent ≥ front.buffer.length then rest else front :: rest
  let w := w.setQueue fd { queue with write := write }
  if write = [] then Selector.modify fd eventsR w else w

/-- `performWriteQueue`, when the socket took `n` bytes. -/
def View.wrote (x : SockT) (front : WriteItem) (rest : List WriteItem) (n : Nat) (v : View) : View :=
  let write := if front.sent + n ≥ front.buffer.length then rest
    else { front with sent := front.sent + n } :: rest
  let v := { v.log (.send x (front.unsent.take n)) with queues := { v.queues with write := write } }
  if write = [] then v.modify eventsR else v

@[simp] theorem World.view_wrote (w : World) (x fd : SockT) (front : WriteItem)
    (rest : List WriteItem) (n : Nat) :
    (w.wrote fd front rest n).view x =
      if x = fd then (w.view x).wrote fd front rest n else w.view x := by
  by_cases h : x = fd
  · subst h
    simp only [wrote, View.wrote]
    split <;> split <;> simp [Action.fd, ← view_gatherQueue]
  · simp only [wrote]
    split <;> split <;> simp [h, Action.fd]

@[simp] theorem World.wrote_registry (w : World) (fd : SockT) (front : WriteItem)
    (rest : List WriteItem) (n : Nat) : (w.wrote fd front rest n).toRegistry = w.toRegistry := by
  simp only [wrote]
  split <;> split <;> simp

/-- `tcp_send` failed, and the queues are dropped. -/
def World.writeFailed (w : World) (fd : SockT) : World :=
  Loop.clearAll fd (Selector.modify fd eventsR (w.log (.sendFailed fd)))

@[simp] theorem World.view_writeFailed (w : World) (x fd : SockT) :
    (w.writeFailed fd).view x =
      if x = fd then { ((w.view x).log (.sendFailed x)).modify eventsR with queues := {} }
      else w.view x := by
  by_cases h : x = fd <;> simp [writeFailed, h, Action.fd]

@[simp] theorem World.writeFailed_registry (w : World) (fd : SockT) :
    (w.writeFailed fd).toRegistry = w.toRegistry := by
  simp [writeFailed]

/-- The front read is longer by the bytes received. -/
def World.heard (w : World) (fd : SockT) (front : ReadItem) (rest : List ReadItem)
    (bytes : Bytes) : World :=
  (w.log (.recv fd bytes)).setQueue fd { w.gatherQueue fd with read := front :: rest }

/-- The front read after `bytes` more were received. -/
@[grind] def View.heard (x : SockT) (front : ReadItem) (rest : List ReadItem) (bytes : Bytes)
    (v : View) : View :=
  { v.log (.recv x bytes) with queues := { v.queues with read := front :: rest } }

@[simp] theorem World.view_heard (w : World) (x fd : SockT) (front : ReadItem)
    (rest : List ReadItem) (bytes : Bytes) :
    (w.heard fd front rest bytes).view x =
      if x = fd then (w.view x).heard fd front rest bytes else w.view x := by
  by_cases h : x = fd
  · subst h
    simp [heard, View.heard, Action.fd, ← view_gatherQueue]
  · simp [heard, h, Action.fd]

@[simp] theorem World.heard_registry (w : World) (fd : SockT) (front : ReadItem)
    (rest : List ReadItem) (bytes : Bytes) :
    (w.heard fd front rest bytes).toRegistry = w.toRegistry := rfl

/-- What the handler queued last takes the place of the read it was called for. -/
def World.advanced (w : World) (fd : SockT) (item : ReadItem) : World :=
  Loop.popRead fd (Loop.pushRead fd item w)

/-- The view after what was last queued took the place of what was read. -/
@[grind] def View.advanced (item : ReadItem) (v : View) : View := (v.push item).pop

@[simp] theorem World.view_advanced (w : World) (x fd : SockT) (item : ReadItem) :
    (w.advanced fd item).view x = if x = fd then (w.view x).advanced item else w.view x := by
  by_cases h : x = fd <;> simp [advanced, h, View.advanced]

@[simp] theorem World.advanced_registry (w : World) (fd : SockT) (item : ReadItem) :
    (w.advanced fd item).toRegistry = w.toRegistry := rfl

/-! ### Connections -/

namespace World
variable (env : Env) (w : World) (x fd : SockT)

@[simp] theorem view_newSock :
    (w.newSock fd).view x =
      if x = fd then { w.view x with opened := some w.nextConnection } else w.view x := by
  by_cases h : x = fd <;> simp [view, newSock, gatherQueue, h]

@[simp] theorem names_newSock :
    (w.newSock fd).names = { w.names with
      opened := Function.update w.names.opened fd (some w.nextConnection) } := by
  simp only [Registry.names, newSock, Table.lookup_insert_ite, Names.mk.injEq, and_true, true_and]
  constructor
  · funext y
    rw [Function.update_apply]
  · rfl

/-- A connection is accepted, and its first read queued. -/
def accepted (item : ReadItem) : World :=
  Loop.pushRead fd item ((w.newSock fd).log (.accept fd))

@[simp] theorem view_accepted (item : ReadItem) :
    (w.accepted fd item).view x =
      if x = fd then
        ({ w.view x with opened := some w.nextConnection }.log (.accept fd)).push item
      else w.view x := by
  by_cases h : x = fd <;> simp [accepted, h, Action.fd]

@[simp] theorem names_accepted (item : ReadItem) :
    (w.accepted fd item).names = { w.names with
      opened := Function.update w.names.opened fd (some w.nextConnection) } :=
  names_newSock w fd

/-- The selector watches a descriptor, and it is linked to an observer. -/
def admitted (o : ObserverPtr) (b : IObserver) : World :=
  let w := (Selector.add fd eventsR w).setObserver o { b with clients := b.clients.insert fd () }
  { w with linkedClients := w.linkedClients.insert fd o }

end World

/-- `remove_id` for each of the ids. -/
def IdPool.release (pool : IdPool) (ids : List CIdT) : IdPool :=
  { pool with ids := pool.ids ++ ids }

/-- The ids that the loop of `shutdown` returns to the pool. -/
def GrokProxy.heldIds (env : Env) (px : GrokProxy) : List CIdT :=
  (env.order px.sockToId.keys).filterMap fun sock => px.sockToId.lookup sock

/-- `Selector::add`: a descriptor is registered once. -/
def View.add (evs : Events) (v : View) : View :=
  match v.opened, v.interest with
  | some _, none => { v with interest := some evs }
  | _, _ => v

namespace World
variable (env : Env) (w : World) (x fd : SockT)

@[simp] theorem view_add (evs : Events) :
    (Selector.add fd evs w).view x = if x = fd then (w.view x).add evs else w.view x := by
  simp only [Selector.add]
  by_cases h : x = fd
  · subst h
    cases ho : w.openSocks.lookup x <;> cases hi : w.interest.lookup x <;>
      simp [view, View.add, ho, hi, gatherQueue]
  · cases ho : w.openSocks.lookup fd <;> cases hi : w.interest.lookup fd <;>
      simp [view, gatherQueue, h]

@[simp] theorem view_admitted (o : ObserverPtr) (b : IObserver) :
    (w.admitted fd o b).view x =
      if x = fd then { (w.view x).add eventsR with linked := some o } else w.view x := by
  by_cases h : x = fd <;> simp [admitted, h]

theorem names_link (o : ObserverPtr) :
    ({ w with linkedClients := w.linkedClients.insert fd o } : World).names =
      { w.names with linked := Function.update w.names.linked fd (some o) } := by
  simp only [Registry.names, Table.lookup_insert_ite, Names.mk.injEq, and_true, true_and]
  constructor
  · funext y
    rw [Function.update_apply]
  · rfl

theorem names_admitted {o : ObserverPtr} {b : IObserver} (hb : w.base o = some b) :
    (w.admitted fd o b).names = { w.names with
      linked := Function.update w.names.linked fd (some o)
      base := Function.update w.names.base o (some { b with
        clients := b.clients.insert fd () }) } := by
  have hadd : (Selector.add fd eventsR w).base o = some b := by
    rw [Selector.add_registry]
    exact hb
  rw [admitted, names_link]
  have h := Registry.names_setObserver hadd { b with clients := b.clients.insert fd () }
  simp only [setObserver] at h ⊢
  rw [h, Selector.add_registry]
  rfl

/-- A writable event on an observer that was not connected. -/
theorem names_flagged {o : ObserverPtr} {b : IObserver} (hb : w.names.base o = some b) :
    (Selector.modify fd eventsR (w.setObserver o { b with isConnected := true })).names =
      { w.names with
        base := Function.update w.names.base o (some { b with isConnected := true }) } := by
  rw [Selector.modify_registry]
  exact Registry.names_setObserver hb _

/-- Passing on what a client sends leaves the names alone. -/
theorem names_relayed (A : SockT) (id : CIdT) (bytes : Bytes) :
    (FreeGrok.sendPacket env A id bytes (w.log (.recv x bytes))).names = w.names :=
  congrArg Registry.names (FStreamer.send_registry ..)

/-- A connection is closed and forgotten by the loop. -/
def detached : World :=
  let w := Loop.removeQueues fd w
  tcpClose fd (Selector.remove fd { w with linkedClients := w.linkedClients.erase fd })

@[simp] theorem view_detached :
    (w.detached fd).view x = if x = fd then (w.view x).gone fd else w.view x := by
  simp only [detached, view_close, view_remove, view_unlink, view_removeQueues]
  by_cases h : x = fd
  · simp [h, View.gone, View.log]
  · simp [h]

theorem names_detached :
    (w.detached fd).names = { w.names with
      opened := Function.update w.names.opened fd none
      linked := Function.update w.names.linked fd none } := by
  simp only [detached, tcpClose, Selector.remove, Loop.removeQueues, log, Registry.names,
    Table.lookup_erase_ite, Names.mk.injEq, and_true, true_and]
  refine ⟨?_, ?_, rfl⟩ <;> funext y <;> rw [Function.update_apply]

/-- A client leaves its observer and is closed. -/
def left (o : ObserverPtr) (b : IObserver) : World :=
  (w.setObserver o { b with clients := b.clients.erase fd }).detached fd

@[simp] theorem view_left (o : ObserverPtr) (b : IObserver) :
    (w.left fd o b).view x = if x = fd then (w.view x).gone fd else w.view x := by
  simp [left]

theorem names_left {o : ObserverPtr} {b : IObserver} (hb : w.base o = some b) :
    (w.left fd o b).names = { w.names with
      opened := Function.update w.names.opened fd none
      linked := Function.update w.names.linked fd none
      base := Function.update w.names.base o (some { b with clients := b.clients.erase fd }) } := by
  rw [left, names_detached]
  have h := Registry.names_setObserver hb { b with clients := b.clients.erase fd }
  simp only [setObserver]
  rw [h]
  rfl

/-- The clients of a proxy that is removed are closed; a socket that was never linked is not. -/
def detachedAll (l : List SockT) : World :=
  l.foldl (fun w client => if (w.linkedClients.lookup client).isSome then w.detached client else w) w

@[simp] theorem view_detachedAll (l : List SockT) :
    (w.detachedAll l).view x =
      if x ∈ l ∧ (w.view x).linked ≠ none then (w.view x).gone x else w.view x := by
  induction l generalizing w with
  | nil => simp [detachedAll]
  | cons client rest ih =>
    rw [detachedAll, List.foldl_cons, ← detachedAll, ih]
    cases hl : w.linkedClients.lookup client with
    | none =>
      by_cases h : x = client
      · subst h
        have hv : (w.view x).linked = none := hl
        simp [hv]
      · simp [h]
    | some o =>
      by_cases h : x = client
      · subst h
        have hv : (w.view x).linked = some o := hl
        simp [hv, View.gone]
      · simp [h]

theorem names_detachedAll (l : List SockT) :
    (w.detachedAll l).names = { w.names with
      opened := fun x => if x ∈ l ∧ w.names.linked x ≠ none then none else w.names.opened x
      linked := fun x => if x ∈ l then none else w.names.linked x } := by
  induction l generalizing w with
  | nil => simp [detachedAll]
  | cons client rest ih =>
    rw [detachedAll, List.foldl_cons, ← detachedAll, ih]
    cases hl : w.linkedClients.lookup client with
    | none =>
      have hn : w.names.linked client = none := hl
      simp only [Option.isSome_none, Bool.false_eq_true, if_false, List.mem_cons, Names.mk.injEq,
        and_true, true_and]
      constructor <;> funext y <;> by_cases h : y = client <;> simp [h, hn]
    | some o =>
      have hn : w.names.linked client = some o := hl
      simp only [Option.isSome_some, if_true, names_detached, List.mem_cons, Names.mk.injEq,
        and_true, true_and, Function.update_apply]
      constructor <;> funext y <;> by_cases h : y = client <;> simp [h, hn]

/-- The HTTP interface throws a parser away. -/
def forgot : World :=
  { w with http := { w.http with parsers := w.http.parsers.erase fd } }

@[simp] theorem view_forgot :
    (w.forgot fd).view x = if x = fd then { w.view x with parser := none } else w.view x := by
  by_cases h : x = fd <;> simp [forgot, view, gatherQueue, h]

theorem base_parsers (parsers : Table SockT StreamingParser) :
    Registry.base { w.toRegistry with http := { w.http with parsers := parsers } } =
      w.toRegistry.base := by
  funext o
  cases o <;> rfl

theorem names_forgot :
    (w.forgot fd).names =
      { w.names with parser := Function.update w.names.parser fd none } := by
  have hb := w.base_parsers (w.http.parsers.erase fd)
  simp only [forgot, Registry.names, hb, Table.lookup_erase_ite, Names.mk.injEq, and_true, true_and]
  funext y
  rw [Function.update_apply]

theorem names_setParser (parser : StreamingParser) :
    (HttpInterface.setParser fd parser w).names =
      { w.names with parser := Function.update w.names.parser fd (some parser) } := by
  have hb := w.base_parsers (w.http.parsers.insert fd parser)
  simp only [HttpInterface.setParser, Registry.names, hb, Table.lookup_insert_ite, Names.mk.injEq,
    and_true, true_and]
  funext y
  rw [Function.update_apply]

/-! ### Users -/

@[simp] theorem names_setUser (user : User) :
    (FreeGrok.setUser fd user w).names =
      { w.names with user := Function.update w.names.user fd (some user) } := by
  simp only [Registry.names, FreeGrok.setUser, Table.lookup_insert_ite, Names.mk.injEq, and_true,
    true_and]
  constructor
  · funext y
    rw [Function.update_apply]
  · rfl

@[simp] theorem names_removeUser :
    (FreeGrok.removeUser fd w).names =
      { w.names with user := Function.update w.names.user fd none } := by
  simp only [Registry.names, FreeGrok.removeUser, Table.lookup_erase_ite, Names.mk.injEq, and_true,
    true_and]
  constructor
  · funext y
    rw [Function.update_apply]
  · rfl

theorem gatherUser_fst : (FreeGrok.gatherUser fd w).1 = (w.names.user fd).getD {} := by
  simp only [FreeGrok.gatherUser, Registry.names]
  cases w.users.lookup fd <;> rfl

@[simp] theorem names_gatherUser :
    (FreeGrok.gatherUser fd w).2.names = { w.names with
      user := Function.update w.names.user fd (some ((w.names.user fd).getD {})) } := by
  cases hu : w.users.lookup fd with
  | none =>
    have h : w.names.user fd = none := hu
    simp only [FreeGrok.gatherUser, hu, h, Option.getD_none]
    exact names_setUser w fd {}
  | some user =>
    have h : w.names.user fd = some user := hu
    simp only [FreeGrok.gatherUser, hu]
    rw [h, Option.getD_some, ← h, Function.update_eq_self]

/-- The user gets every right there is. -/
def granted : World :=
  let (user, w) := FreeGrok.gatherUser fd w
  FreeGrok.setUser fd (user.grant .all) w

@[simp] theorem view_granted :
    (w.granted fd).view x =
      if x = fd then { w.view x with user := some (((w.view x).user.getD {}).grant .all) }
      else w.view x := by
  simp only [granted, view_setUser, view_gatherUser, gatherUser_fst]
  by_cases h : x = fd
  · subst h
    simp
    rfl
  · simp [h]

theorem names_granted :
    (w.granted fd).names = { w.names with
      user := Function.update w.names.user fd (some (((w.names.user fd).getD {}).grant .all)) } := by
  simp [granted, gatherUser_fst]

/-! ### Proxies -/

/-- A proxy takes a new client into its tables and announces it. -/
def announced (env : Env) (p : Ptr) (px : GrokProxy) : World :=
  let (id, idPool) := w.idPool.getId
  let w := { w with idPool := idPool }
  let w := w.setProxy p { px with
    sockToId := px.sockToId.insert fd id
    idToSock := px.idToSock.insert id fd }
  let w := FreeGrok.sendConnected env px.initiator id w
  w.log (.announced px.initiator id (w.openSocks.lookup fd))

@[simp] theorem view_announced (env : Env) (p : Ptr) (px : GrokProxy) :
    (w.announced fd env p px).view x =
      if x = px.initiator then
        ((w.view x).frame env x grokConnected
          (ByteBuffer.encode cIdSize w.idPool.getId.1.toNat)).log
          (.announced x w.idPool.getId.1 (w.names.opened fd))
      else w.view x := by
  by_cases h : x = px.initiator
  · subst h
    simp [announced, Action.fd, FreeGrok.sendConnected]
    rfl
  · simp [announced, Action.fd, h, FreeGrok.sendConnected]

theorem names_setProxy_tunnel {p : Ptr} {px : GrokProxy} (hp : w.proxies.lookup p = some px)
    (t : Tunnel) :
    (w.setProxy p ⟨px.toIObserver, t⟩).names = { w.names with
      tunnel := Function.update w.names.tunnel p (some t) } := by
  have hb : Function.update w.base (.grokProxy p) (some px.toIObserver) = w.base := by
    rw [Function.update_eq_self_iff]
    simp [Registry.base, hp]
  simp only [setProxy]
  rw [Registry.names_setProxy, hb]
  rfl

theorem names_announced (env : Env) {p : Ptr} {px : GrokProxy} (hp : w.proxies.lookup p = some px) :
    (w.announced fd env p px).names = { w.names with
      tunnel := Function.update w.names.tunnel p (some { px.toTunnel with
        sockToId := px.sockToId.insert fd w.idPool.getId.1
        idToSock := px.idToSock.insert w.idPool.getId.1 fd }) } := by
  simp only [announced, FreeGrok.sendConnected, log_registry, FStreamer.send_registry]
  exact names_setProxy_tunnel { w with idPool := _ } hp _

/-- A client is taken out of a proxy's tables, and its id is free again. -/
def untabled (p : Ptr) (px : GrokProxy) (id : CIdT) : World :=
  { w with idPool := w.idPool.removeId id }.setProxy p { px with
    sockToId := px.sockToId.erase fd
    idToSock := px.idToSock.erase id }

@[simp] theorem view_untabled (p : Ptr) (px : GrokProxy) (id : CIdT) :
    (w.untabled fd p px id).view x = w.view x := rfl

theorem names_untabled {p : Ptr} {px : GrokProxy} (hp : w.proxies.lookup p = some px) (id : CIdT) :
    (w.untabled fd p px id).names = { w.names with
      tunnel := Function.update w.names.tunnel p (some { px.toTunnel with
        sockToId := px.sockToId.erase fd
        idToSock := px.idToSock.erase id }) } :=
  names_setProxy_tunnel { w with idPool := _ } hp _

/-- A proxy's tables are emptied, and its ids are free again. -/
def shutDown (p : Ptr) (px : GrokProxy) (idPool : IdPool) : World :=
  { w with idPool := idPool }.setProxy p { px with sockToId := ∅, idToSock := ∅ }

@[simp] theorem view_shutDown (p : Ptr) (px : GrokProxy) (idPool : IdPool) :
    (w.shutDown p px idPool).view x = w.view x := rfl

theorem names_shutDown {p : Ptr} {px : GrokProxy} (hp : w.proxies.lookup p = some px)
    (idPool : IdPool) :
    (w.shutDown p px idPool).names = { w.names with
      tunnel := Function.update w.names.tunnel p (some { px.toTunnel with
        sockToId := ∅
        idToSock := ∅ }) } :=
  names_setProxy_tunnel { w with idPool := idPool } hp _

/-- A proxy that is shut down is still the observer it was. -/
theorem base_shutDown {p : Ptr} {px : GrokProxy} (hp : w.proxies.lookup p = some px)
    (idPool : IdPool) :
    (w.shutDown p px idPool).names.base (.grokProxy p) = some px.toIObserver := by
  rw [names_shutDown w hp]
  simp [Registry.names, Registry.base, hp]

theorem view_linkServer (p : Ptr) :
    (FreeGrok.linkServer fd p w).view x =
      if x = fd then { w.view x with user := some { (w.view x).user.getD {} with server := some p } }
      else w.view x := by
  simp only [FreeGrok.linkServer, view_setUser, view_gatherUser, gatherUser_fst]
  by_cases h : x = fd
  · subst h
    simp
    rfl
  · simp [h]

theorem names_linkServer (p : Ptr) :
    (FreeGrok.linkServer fd p w).names = { w.names with
      user := Function.update w.names.user fd
        (some { (w.names.user fd).getD {} with server := some p }) } := by
  simp [FreeGrok.linkServer, gatherUser_fst]

theorem names_setProxy (p : Ptr) (px : GrokProxy) :
    (w.setProxy p px).names = { w.names with
      base := Function.update w.names.base (.grokProxy p) (some px.toIObserver)
      tunnel := Function.update w.names.tunnel p (some px.toTunnel) } :=
  Registry.names_setProxy w.toRegistry p px

/-- A new proxy is on the heap. -/
def allocated (px : GrokProxy) : World :=
  { w with proxies := w.proxies.insert w.nextProxy px, nextProxy := w.nextProxy + 1 }

@[simp] theorem view_allocated (px : GrokProxy) : (w.allocated px).view x = w.view x := rfl

theorem names_allocated (px : GrokProxy) :
    (w.allocated px).names = { w.names with
      base := Function.update w.names.base (.grokProxy w.nextProxy) (some px.toIObserver)
      tunnel := Function.update w.names.tunnel w.nextProxy (some px.toTunnel)
      nextProxy := w.nextProxy + 1 } := by
  have h := names_setProxy { w with nextProxy := w.nextProxy + 1 } w.nextProxy px
  exact h

/-- The loop knows the observer behind a descriptor. -/
def observed (o : ObserverPtr) : World := { w with observers := w.observers.insert fd o }

@[simp] theorem view_observed (o : ObserverPtr) :
    (w.observed fd o).view x =
      if x = fd then { w.view x with observer := some o } else w.view x := by
  by_cases h : x = fd <;> simp [observed, view, gatherQueue, h]

theorem names_observed (o : ObserverPtr) :
    (w.observed fd o).names =
      { w.names with observer := Function.update w.names.observer fd (some o) } := by
  simp only [observed, Registry.names, Table.lookup_insert_ite, Names.mk.injEq, and_true, true_and]
  constructor
  · funext y
    rw [Function.update_apply]
  · rfl

/-- A proxy is made for the main connection `fd`, listening on `sock`. -/
def created (sock : SockT) (port listeningPort : UInt16) : World :=
  let p := w.nextProxy
  let px : GrokProxy := { socket := sock, initiator := fd, listeningPort := port }
  let w := FreeGrok.linkServer fd p ((w.newSock sock).allocated px)
  let w := (Selector.add sock eventsR w).log (.bind fd port.toNat)
  (w.setProxy p { px with listeningPort := listeningPort }).observed sock (.grokProxy p)

@[simp] theorem view_created {sock : SockT} (hfd : fd ≠ sock) (port listeningPort : UInt16) :
    (w.created fd sock port listeningPort).view x =
      if x = fd then
        { w.view x with
          user := some { (w.view x).user.getD {} with server := some w.nextProxy } }.log
          (.bind fd port.toNat)
      else if x = sock then
        { ({ w.view x with opened := some w.nextConnection }.add eventsR) with
          observer := some (.grokProxy w.nextProxy) }
      else w.view x := by
  simp only [created, view_observed, view_setProxy, view_log, view_add, view_linkServer,
    view_allocated, view_newSock, Action.fd]
  by_cases h : x = fd
  · subst h
    simp [hfd]
  · by_cases hs : x = sock <;> simp [h, hs, hfd.symm]

theorem names_created (sock : SockT) (port listeningPort : UInt16) :
    (w.created fd sock port listeningPort).names = { w.names with
      opened := Function.update w.names.opened sock (some w.nextConnection)
      observer := Function.update w.names.observer sock (some (.grokProxy w.nextProxy))
      user := Function.update w.names.user fd
        (some { (w.names.user fd).getD {} with server := some w.nextProxy })
      base := Function.update w.names.base (.grokProxy w.nextProxy) (some { socket := sock })
      tunnel := Function.update w.names.tunnel w.nextProxy
        (some { initiator := fd, listeningPort := listeningPort })
      nextProxy := w.nextProxy + 1 } := by
  have hnext : (w.newSock sock).nextProxy = w.nextProxy := rfl
  simp only [created, names_observed, names_setProxy, log_registry, Selector.add_registry,
    names_linkServer, names_allocated, names_newSock, hnext, Function.update_idem]

/-- A listener is closed and the loop no longer knows an observer behind it. -/
def unlistened : World := tcpClose fd { w with observers := w.observers.erase fd }

@[simp] theorem view_unlistened :
    (w.unlistened fd).view x =
      if x = fd then
        { (w.view x).log (.close x) with opened := none, observer := none, interest := none }
      else w.view x := by
  simp only [unlistened, view_close, view_unobserve]
  by_cases h : x = fd <;> simp [h, View.log]

theorem names_unlistened :
    (w.unlistened fd).names = { w.names with
      opened := Function.update w.names.opened fd none
      observer := Function.update w.names.observer fd none } := by
  simp only [unlistened, tcpClose, log, Registry.names, Table.lookup_erase_ite, Names.mk.injEq,
    and_true, true_and]
  refine ⟨?_, ?_, rfl⟩ <;> funext y <;> rw [Function.update_apply]

/-- A proxy is no longer on the heap. -/
def freed (p : Ptr) : World := { w with proxies := w.proxies.erase p }

@[simp] theorem view_freed (p : Ptr) : (w.freed p).view x = w.view x := rfl

theorem names_freed (p : Ptr) :
    (w.freed p).names = { w.names with
      base := Function.update w.names.base (.grokProxy p) none
      tunnel := Function.update w.names.tunnel p none } := by
  have hb : (w.freed p).base = Function.update w.names.base (.grokProxy p) none := by
    funext o
    rw [Function.update_apply]
    cases o with
    | freeGrok => simp [freed, Registry.base, Registry.names]
    | httpInterface => simp [freed, Registry.base, Registry.names]
    | grokProxy q => by_cases hq : q = p <;> simp [freed, Registry.base, Registry.names, hq]
  rw [← hb]
  simp only [freed, Registry.names, Table.lookup_erase_ite, Names.mk.injEq, true_and, and_true]
  funext q
  rw [Function.update_apply]
  split <;> rfl

/-- A proxy is deleted, with its clients and its listener. -/
def deleted (p : Ptr) (b : IObserver) (l : List SockT) : World :=
  (((w.detachedAll l).setObserver (.grokProxy p) { b with clients := ∅ }).unlistened b.socket).freed p

theorem view_deleted (p : Ptr) (b : IObserver) (l : List SockT) :
    (w.deleted p b l).view x =
      if x = b.socket then
        { ((w.detachedAll l).view x).log (.close x) with
          opened := none, observer := none, interest := none }
      else (w.detachedAll l).view x := by
  simp only [deleted, view_freed, view_unlistened, view_setObserver]

theorem names_deleted {p : Ptr} {b : IObserver} (hb : w.names.base (.grokProxy p) = some b)
    (l : List SockT) :
    (w.deleted p b l).names = { w.names with
      opened := fun x => if x = b.socket ∨ x ∈ l ∧ w.names.linked x ≠ none then none
        else w.names.opened x
      observer := Function.update w.names.observer b.socket none
      linked := fun x => if x ∈ l then none else w.names.linked x
      base := Function.update w.names.base (.grokProxy p) none
      tunnel := Function.update w.names.tunnel p none } := by
  have hb' : (w.detachedAll l).base (.grokProxy p) = some b := by
    have h : (w.detachedAll l).names.base = w.names.base := by rw [names_detachedAll]
    exact (congrFun h (.grokProxy p)).trans hb
  have hset : ((w.detachedAll l).setObserver (.grokProxy p) { b with clients := ∅ }).names = _ :=
    Registry.names_setObserver hb' { b with clients := ∅ }
  have hbase : (w.detachedAll l).base = w.names.base :=
    show (w.detachedAll l).names.base = _ by rw [names_detachedAll]
  simp only [deleted, names_freed, names_unlistened, hset, names_detachedAll, hbase,
    Function.update_idem, Names.mk.injEq, and_true]
  funext y
  rw [Function.update_apply]
  by_cases h : y = b.socket <;> simp [h]

/-- A main connection leaves, and its proxy with it. -/
def torn (env : Env) (p : Ptr) (px : GrokProxy) (b : IObserver) : World :=
  let w := w.shutDown p px (w.idPool.release (px.heldIds env))
  let w := w.deleted p px.toIObserver (env.order px.clients.keys)
  (FreeGrok.removeUser fd w).left fd .freeGrok b

theorem view_torn (env : Env) (p : Ptr) (px : GrokProxy) (b : IObserver) :
    (w.torn fd env p px b).view x =
      if x = fd then
        { ((w.shutDown p px (w.idPool.release (px.heldIds env))).deleted p px.toIObserver
          (env.order px.clients.keys)).view x with user := none }.gone fd
      else ((w.shutDown p px (w.idPool.release (px.heldIds env))).deleted p px.toIObserver
          (env.order px.clients.keys)).view x := by
  simp only [torn, view_left, view_removeUser]
  by_cases h : x = fd <;> simp [h]

theorem names_torn (env : Env) {p : Ptr} {px : GrokProxy} {b : IObserver}
    (hp : w.proxies.lookup p = some px) (hb : w.names.base .freeGrok = some b) :
    (w.torn fd env p px b).names = { w.names with
      opened := fun x => if x = fd ∨ x = px.socket ∨
          x ∈ env.order px.clients.keys ∧ w.names.linked x ≠ none then none
        else w.names.opened x
      observer := Function.update w.names.observer px.socket none
      linked := fun x => if x = fd ∨ x ∈ env.order px.clients.keys then none else w.names.linked x
      user := Function.update w.names.user fd none
      base := Function.update (Function.update w.names.base (.grokProxy p) none) .freeGrok
        (some { b with clients := b.clients.erase fd })
      tunnel := Function.update w.names.tunnel p none } := by
  have hshut := names_shutDown w hp (w.idPool.release (px.heldIds env))
  have hdeleted := names_deleted _ (base_shutDown w hp (w.idPool.release (px.heldIds env)))
    (env.order px.clients.keys)
  have hfree : (FreeGrok.removeUser fd ((w.shutDown p px (w.idPool.release (px.heldIds env))).deleted
      p px.toIObserver (env.order px.clients.keys))).base .freeGrok = some b := by
    show (FreeGrok.removeUser fd _).names.base .freeGrok = some b
    rw [names_removeUser, hdeleted, hshut]
    exact hb
  simp only [torn]
  rw [names_left _ _ hfree, names_removeUser, hdeleted, hshut]
  simp only [Function.update_idem, Names.mk.injEq, true_and, and_true]
  refine ⟨?_, ?_⟩
  · funext y
    rw [Function.update_apply]
    by_cases h : y = fd <;> simp [h]
  · funext y
    rw [Function.update_apply]
    by_cases h : y = fd <;> simp [h]

end World

/-! ### Operations that leave the pool alone -/

@[simp] theorem World.log_pool (a : Action) (w : World) : (w.log a).idPool = w.idPool := rfl

@[simp] theorem Selector.modify_pool (x : SockT) (evs : Events) (w : World) :
    (Selector.modify x evs w).idPool = w.idPool := by
  unfold Selector.modify
  split <;> rfl

@[simp] theorem Selector.add_pool (x : SockT) (evs : Events) (w : World) :
    (Selector.add x evs w).idPool = w.idPool := by
  unfold Selector.add
  split <;> rfl

@[simp] theorem Loop.send_pool (x : SockT) (buffer : Bytes) (w : World) :
    (Loop.send x buffer w).idPool = w.idPool := by
  simp only [Loop.send]
  split <;> simp [World.setQueue]

@[simp] theorem FStreamer.send_pool (env : Env) (x : SockT) (type : UInt8) (payload : Bytes)
    (w : World) : (FStreamer.send env x type payload w).idPool = w.idPool :=
  FStreamer.send_keeps env (P := fun v => v.idPool = w.idPool)
    (fun chunk v h => (Loop.send_pool x chunk v).trans h) type payload rfl

@[simp] theorem World.wrote_pool (fd : SockT) (front : WriteItem) (rest : List WriteItem) (n : Nat)
    (w : World) : (w.wrote fd front rest n).idPool = w.idPool := by
  simp only [World.wrote]
  split <;> split <;> simp [World.setQueue]

@[simp] theorem World.writeFailed_pool (fd : SockT) (w : World) :
    (w.writeFailed fd).idPool = w.idPool :=
  Selector.modify_pool fd eventsR (w.log (.sendFailed fd))

@[simp] theorem FreeGrok.gatherUser_pool (fd : SockT) (w : World) :
    (FreeGrok.gatherUser fd w).2.idPool = w.idPool := by
  unfold FreeGrok.gatherUser
  split <;> rfl

@[simp] theorem World.granted_pool (fd : SockT) (w : World) :
    (w.granted fd).idPool = w.idPool :=
  FreeGrok.gatherUser_pool fd w

@[simp] theorem World.created_pool (A sock : SockT) (port listeningPort : UInt16) (w : World) :
    (w.created A sock port listeningPort).idPool = w.idPool := by
  simp only [World.created, World.observed, World.setProxy, World.log_pool, Selector.add_pool]
  exact FreeGrok.gatherUser_pool A _

@[simp] theorem World.detachedAll_pool (l : List SockT) (w : World) :
    (w.detachedAll l).idPool = w.idPool := by
  induction l generalizing w with
  | nil => rfl
  | cons client rest ih =>
    rw [World.detachedAll, List.foldl_cons, ← World.detachedAll, ih]
    split <;> rfl

@[simp] theorem World.deleted_pool (p : Ptr) (b : IObserver) (l : List SockT) (w : World) :
    (w.deleted p b l).idPool = w.idPool :=
  World.detachedAll_pool l w

end OpenGrok
