import OpenGrok.Server.Commands
import OpenGrok.Server.Decode

/-! Which faults the handlers can end in.

A handler that fails does so because it followed a pointer to a deleted object or was
refused by a system call, or because it read past a payload that is shorter than it was
told. Closing a connection may also look up a client that is not in its proxy's tables. An
empty queue is found by the loop itself, and by nothing it calls. -/
namespace OpenGrok

/-- The faults of what reads no payload. -/
def Fault.Ordinary (e : Fault) : Prop := e = .undefined ∨ e = .sysError

/-- The faults of a handler. -/
def Fault.Handler (e : Fault) : Prop := e.Ordinary ∨ e = .overrun

/-- The faults that are no `EmptyQueue`. -/
def Fault.NotEmptyQueue (e : Fault) : Prop := e ≠ .emptyRead ∧ e ≠ .emptyWrite

abbrev OnlyOrdinary {α : Type} (x : Except Fault α) : Prop := Except.Only Fault.Ordinary x

abbrev OnlyHandler {α : Type} (x : Except Fault α) : Prop := Except.Only Fault.Handler x

abbrev NoEmptyQueue {α : Type} (x : Except Fault α) : Prop := Except.Only Fault.NotEmptyQueue x

theorem Fault.Ordinary.notEmptyQueue {e : Fault} (h : e.Ordinary) : e.NotEmptyQueue := by
  obtain rfl | rfl := h <;> exact ⟨nofun, nofun⟩

theorem Fault.Handler.notEmptyQueue {e : Fault} (h : e.Handler) : e.NotEmptyQueue := by
  rcases h with h | rfl
  · exact h.notEmptyQueue
  · exact ⟨nofun, nofun⟩

section
variable {env : Env} {os : Os} {α : Type}

theorem OnlyOrdinary.noEmptyQueue {x : Except Fault α} (h : OnlyOrdinary x) : NoEmptyQueue x :=
  h.mono fun _ => Fault.Ordinary.notEmptyQueue

theorem OnlyHandler.noEmptyQueue {x : Except Fault α} (h : OnlyHandler x) : NoEmptyQueue x :=
  h.mono fun _ => Fault.Handler.notEmptyQueue

theorem OnlyOrdinary.handler {x : Except Fault α} (h : OnlyOrdinary x) : OnlyHandler x :=
  h.mono fun _ => .inl

theorem undefined_ordinary : OnlyOrdinary (.error .undefined : Except Fault α) :=
  .error (.inl rfl)

theorem sysError_ordinary : OnlyOrdinary (.error .sysError : Except Fault α) :=
  .error (.inr rfl)

theorem proxy_ordinary (r : Registry) (p : Ptr) : OnlyOrdinary (r.proxy p) := by
  unfold Registry.proxy
  split
  · exact .ok _
  · exact undefined_ordinary

theorem observer_ordinary (r : Registry) (o : ObserverPtr) : OnlyOrdinary (r.observer o) := by
  cases o with
  | freeGrok => exact .ok _
  | httpInterface => exact .ok _
  | grokProxy p => exact .bind (proxy_ordinary r p) fun _ _ => .pure _

/-! ### Closing -/

theorem Loop.unlinkClient_ordinary (sock : SockT) (o : ObserverPtr) (erase : Bool) (w : World) :
    OnlyOrdinary (Loop.unlinkClient sock o erase w) := by
  unfold Loop.unlinkClient
  refine .ite (fun _ => ?_) fun _ => .pure _
  exact .bind (observer_ordinary _ o) fun _ _ => .pure _

theorem GrokProxy.unlinkClient_ordinary (p : Ptr) (id : CIdT) (sock : SockT) (erase : Bool)
    (w : World) : OnlyOrdinary (GrokProxy.unlinkClient p id sock erase w) := by
  unfold GrokProxy.unlinkClient
  refine .bind (proxy_ordinary _ p) fun px _ => ?_
  exact .ite (fun _ => .pure _) fun _ => .pure _

theorem GrokProxy.releaseIds_ordinary (p : Ptr) (sockToId : Table SockT CIdT)
    (l : List SockT) (w : World) : OnlyOrdinary (GrokProxy.releaseIds p sockToId l w) := by
  induction l generalizing w with
  | nil => exact .pure w
  | cons sock rest ih =>
    unfold GrokProxy.releaseIds
    split
    · exact ih w
    · exact .bind (GrokProxy.unlinkClient_ordinary p _ sock false w) fun w _ => ih w

theorem GrokProxy.shutdown_ordinary (p : Ptr) (w : World) :
    OnlyOrdinary (GrokProxy.shutdown env p w) :=
  .bind (proxy_ordinary _ p) fun _ _ =>
    .bind (GrokProxy.releaseIds_ordinary p _ _ w) fun _ _ => .pure _

theorem FreeGrok.deleteProxy_ordinary (p : Ptr) (w : World) :
    OnlyOrdinary (FreeGrok.deleteProxy p w) :=
  .bind (proxy_ordinary _ p) fun _ _ => .pure _

theorem Loop.closeAll_noEmptyQueue {close : SockT → World → Except Fault World}
    (hclose : ∀ x w, NoEmptyQueue (close x w)) (l : List SockT) (w : World) :
    NoEmptyQueue (Loop.closeAll close l w) := by
  induction l generalizing w with
  | nil => exact .pure w
  | cons client rest ih => exact .bind (hclose client w) fun w _ => ih w

theorem Loop.removeObserverWith_noEmptyQueue (env : Env) {close : SockT → World → Except Fault World}
    (hclose : ∀ x w, NoEmptyQueue (close x w)) (o : ObserverPtr) (w : World) :
    NoEmptyQueue (Loop.removeObserverWith env close o w) := by
  unfold Loop.removeObserverWith
  refine .bind (observer_ordinary _ o).noEmptyQueue fun base _ => .ite (fun _ => ?_) fun _ => .pure _
  exact .bind (closeAll_noEmptyQueue hclose _ w) fun _ _ => .pure _

theorem onDisconnectWith_noEmptyQueue {remove : ObserverPtr → World → Except Fault World}
    (hremove : ∀ o w, NoEmptyQueue (remove o w)) (o : ObserverPtr) (sock : SockT) (w : World) :
    NoEmptyQueue (onDisconnectWith env remove o sock w) := by
  cases o with
  | freeGrok =>
    refine .ite (fun _ => ?_) fun _ => .pure _
    split
    · exact .pure _
    · next p _ =>
      exact .bind (GrokProxy.shutdown_ordinary p w).noEmptyQueue fun w _ => .bind (hremove _ w) fun w _ =>
        .bind (FreeGrok.deleteProxy_ordinary p w).noEmptyQueue fun _ _ => .pure _
  | httpInterface => exact .pure _
  | grokProxy p =>
    refine .bind (proxy_ordinary _ p).noEmptyQueue fun px _ => ?_
    split
    · exact .error ⟨nofun, nofun⟩
    · exact .bind (GrokProxy.unlinkClient_ordinary p _ sock true w).noEmptyQueue fun _ _ => .pure _

theorem Loop.forceDisconnectAt_noEmptyQueue (depth : Nat) (client : SockT) (erase call : Bool)
    (w : World) : NoEmptyQueue (Loop.forceDisconnectAt env depth client erase call w) := by
  induction depth generalizing client erase call w with
  | zero => exact .error ⟨nofun, nofun⟩
  | succ depth ih =>
    have hremove := removeObserverWith_noEmptyQueue env
      fun client w => ih client false false w
    unfold Loop.forceDisconnectAt
    dsimp only
    split
    · next o _ =>
      have hunlink (w : World) := (unlinkClient_ordinary client o erase w).noEmptyQueue
      refine .ite (fun _ => ?_) fun _ => ?_
      · exact .bind (onDisconnectWith_noEmptyQueue hremove o client w) fun w _ =>
          .bind (hunlink _) fun _ _ => .pure _
      · exact .bind (.pure w) fun w _ => .bind (hunlink _) fun _ _ => .pure _
    · split
      · exact .pure _
      · exact .bind (onDisconnectWith_noEmptyQueue hremove _ client w) fun w _ => hremove _ w

theorem Loop.removeObserver_noEmptyQueue (o : ObserverPtr) (w : World) :
    NoEmptyQueue (Loop.removeObserver env o w) :=
  removeObserverWith_noEmptyQueue _
    (fun client w => forceDisconnectAt_noEmptyQueue _ client false false w) o w

theorem Loop.hangUp_noEmptyQueue (fd : SockT) (w : World) : NoEmptyQueue (Loop.hangUp env fd w) := by
  unfold Loop.hangUp
  split
  · refine .bind (onDisconnectWith_noEmptyQueue removeObserver_noEmptyQueue _ fd w) fun w _ => ?_
    refine .bind (observer_ordinary _ _).noEmptyQueue fun base _ => ?_
    exact .ite (fun _ => removeObserver_noEmptyQueue _ w) fun _ => .pure _
  · exact forceDisconnectAt_noEmptyQueue _ fd true true w

/-! ### Frames -/

theorem GrokProxy.postInit_ordinary (p : Ptr) (w : World) :
    OnlyOrdinary (GrokProxy.postInit os p w) := by
  unfold GrokProxy.postInit
  refine .bind (proxy_ordinary _ p) fun px _ => ?_
  refine .ite (fun _ => sysError_ordinary) fun _ => ?_
  refine .ite (fun _ => sysError_ordinary) fun _ => ?_
  refine .ite (fun _ => sysError_ordinary) fun _ => ?_
  split
  · exact sysError_ordinary
  · exact .pure _

theorem Loop.addObserver_ordinary (p : Ptr) (w : World) :
    OnlyOrdinary (Loop.addObserver os p w) :=
  .bind (proxy_ordinary _ p) fun _ _ =>
    .bind (GrokProxy.postInit_ordinary p _) fun _ _ => .pure _

/-- The client of a proxy is linked, or it is no observer; so closing it removes nothing else. -/
theorem GrokProxy.disconnectClient_ordinary {p : Ptr} {w : World} (hw : w.names.Wf) (id : CIdT) :
    OnlyOrdinary (GrokProxy.disconnectClient env p id w) := by
  unfold GrokProxy.disconnectClient
  refine .bind (proxy_ordinary _ p) fun px hpx => ?_
  have ht := (World.proxy_names (FreeGrok.proxy_ok hpx)).1
  split
  · exact .pure _
  · next x hx =>
    refine .bind (GrokProxy.unlinkClient_ordinary p id x true w) fun w1 hunlink => ?_
    obtain ⟨px', _, hunlink⟩ := Except.bind_ok_iff.mp hunlink
    cases hunlink
    unfold Loop.forceDisconnect Loop.depth Loop.forceDisconnectAt
    dsimp only
    split
    · next o _ =>
      refine .bind (.pure _) fun w _ => ?_
      exact .bind (Loop.unlinkClient_ordinary x o true _) fun _ _ => .pure _
    · have hunobserved : w.observers.lookup x = none := by
        by_cases hne : x = -1
        · subst hne
          exact hw.observer_neg
        · exact hw.sock_unobserved ht (hw.id_sock ht hx hne) hne
      split
      · exact .pure _
      · next o ho => cases hunobserved.symm.trans ho

theorem GrokProxy.redirectPacket_ordinary (p : Ptr) (id : CIdT) (buffer : Bytes) (w : World) :
    OnlyOrdinary (GrokProxy.redirectPacket p id buffer w) := by
  unfold GrokProxy.redirectPacket
  refine .bind (proxy_ordinary _ p) fun px _ => ?_
  split <;> exact .pure _

namespace FreeGrok

theorem server_ordinary (fd : SockT) (w : World) : OnlyOrdinary (server fd w) := by
  unfold server
  split
  · exact .pure _
  · exact undefined_ordinary

theorem removeServer_ordinary (fd : SockT) (w : World) : OnlyOrdinary (removeServer fd w) := by
  unfold removeServer
  dsimp only
  split
  · exact .pure _
  · exact deleteProxy_ordinary _ _

/-! ### Reading the payload -/

/-- Handlers may end in a fault that nothing is said of here, and read past the payload only if that
is one of them, or if the payload is shorter than they are told. -/
structure Reading (allowed : Fault → Prop) (length : Nat) (buffer : Option Bytes) : Prop where
  ordinary : ∀ e : Fault, e.Ordinary → allowed e
  inside : allowed .overrun ∨ (buffer.getD []).length = length

theorem reading_any (length : Nat) (buffer : Option Bytes) :
    Reading Fault.Handler length buffer :=
  ⟨fun _ h => .inl h, .inl (.inr rfl)⟩

theorem reading_inside {length : Nat} {buffer : Option Bytes}
    (h : (buffer.getD []).length = length) : Reading Fault.Ordinary length buffer :=
  ⟨fun _ h => h, .inr h⟩

section
variable {allowed : Fault → Prop} {length : Nat} {buffer : Option Bytes}

theorem Reading.only {x : Except Fault α} (h : Reading allowed length buffer)
    (hx : OnlyOrdinary x) : Except.Only allowed x :=
  hx.mono h.ordinary

/-- What starts and ends within the length is read, of a payload that is not empty. -/
theorem Reading.slice (h : Reading allowed length buffer) {offset n : Nat} (hpos : 0 < n)
    (hlen : offset + n ≤ length) :
    Except.Only allowed (BufferReader.slice { buffer, offset } n) := by
  unfold BufferReader.slice
  rcases h.inside with hany | hsize
  · split
    · exact .error hany
    · exact .ite (fun _ => .ok _) fun _ => .error hany
  · cases buffer with
    | none =>
      have hsize : 0 = length := hsize
      omega
    | some bytes =>
      have hsize : bytes.length = length := hsize
      exact .ite (fun _ => .ok _) fun hnot => absurd (show offset + n ≤ bytes.length by omega) hnot

theorem Reading.read (h : Reading allowed length buffer) {offset n : Nat} (hpos : 0 < n)
    (hlen : offset + n ≤ length) : Except.Only allowed (BufferReader.read { buffer, offset } n) :=
  .bind (h.slice hpos hlen) fun _ _ => .pure _

theorem targetPort_only (h : Reading allowed length buffer) (fd : SockT) (w : World) :
    Except.Only allowed (targetPort os fd length { buffer } w) := by
  unfold targetPort
  refine .ite (fun hlen => ?_) fun _ => .pure _
  dsimp only
  refine .ite (fun _ => ?_) fun _ => .pure _
  refine .bind (h.read Nat.two_pos (by omega)) fun _ _ => .bind (h.only ?_) fun _ _ => ?_
  · exact .ite (fun _ => .pure _) fun _ => sysError_ordinary
  · exact .ite (fun _ => .pure _) fun _ => .pure _

/-- A server that got a port or not is made and kept, or made and deleted. -/
theorem createServer_only (h : Reading allowed length buffer) (fd : SockT) (w : World) :
    Except.Only allowed (createServer env os fd length { buffer } w) := by
  unfold createServer
  refine .ite (fun _ => .pure _) fun _ => ?_
  refine .bind (targetPort_only h fd w) fun ⟨port, w⟩ _ => ?_
  cases port with
  | none => exact .pure _
  | some port =>
    refine .bind (h.only (Loop.addObserver_ordinary _ _)) fun w2 hadd => ?_
    refine .bind (h.only (proxy_ordinary _ _)) fun px _ => .ite (fun _ => ?_) fun _ => .pure _
    refine .bind (h.only ?_) fun w _ => h.only (removeServer_ordinary fd w)
    refine .bind (observer_ordinary _ _) fun base hbase => ?_
    obtain ⟨hp, lport, -, rfl⟩ := created_of_addObserver rfl hadd
    have hnames : (FStreamer.sendError env fd internalServerError
        (w.created fd os.socket port lport)).names = _ :=
      (congrArg Registry.names (FStreamer.send_registry ..)).trans (World.names_created ..)
    rw [hp] at hbase
    have hb := (congrFun (congrArg Names.base hnames) _).symm.trans (observer_ok hbase)
    dsimp only at hb
    rw [Function.update_self] at hb
    cases hb
    have horder : env.order ((∅ : Table SockT Unit).keys) = [] :=
      List.Perm.eq_nil (env.order_perm [])
    rw [if_pos rfl, horder]
    exact .pure _

theorem packet_only (h : Reading allowed length buffer) (fd : SockT) (w : World) :
    Except.Only allowed (packet env fd length { buffer } w) := by
  unfold packet
  refine .ite (fun _ => .pure _) fun _ => .ite (fun _ => .pure _) fun hlen => ?_
  have hlen : cIdSize < length := Nat.lt_of_not_ge hlen
  refine .bind (h.read (by decide) (by omega)) fun ⟨clientId, reader⟩ hread => ?_
  obtain ⟨bytes, _, hread⟩ := Except.bind_ok_iff.mp hread
  cases hread
  refine .bind (h.only (server_ordinary fd w)) fun p _ =>
    .bind (h.only (proxy_ordinary _ p)) fun px _ => ?_
  refine .ite (fun _ => .pure _) fun _ => ?_
  dsimp only
  exact .bind (h.slice (by omega) (by omega)) fun body _ =>
    h.only (GrokProxy.redirectPacket_ordinary p _ body w)

theorem disconnect_only (h : Reading allowed length buffer) (fd : SockT) {w : World}
    (hw : w.names.Wf) : Except.Only allowed (disconnect env fd length { buffer } w) := by
  unfold disconnect
  refine .ite (fun _ => .pure _) fun _ => .ite (fun _ => .pure _) fun hlen => ?_
  have hlen : length = cIdSize := not_not.mp hlen
  refine .bind (h.read (by decide) (by omega)) fun ⟨clientId, reader⟩ _ => ?_
  refine .bind (h.only (server_ordinary fd w)) fun p _ =>
    .bind (h.only (proxy_ordinary _ p)) fun px _ => ?_
  exact .ite (fun _ => .pure _) fun _ => h.only (GrokProxy.disconnectClient_ordinary hw _)

theorem auth_only (h : Reading allowed length buffer) (fd : SockT) (w : World) :
    Except.Only allowed (auth env fd length { buffer } w) := by
  unfold auth memcmpMagic
  refine .ite (fun _ => .pure _) fun hlen => .bind ?_ fun _ _ => .ite (fun _ => .pure _) fun _ => .pure _
  have hlen : length = env.magic.length := not_not.mp hlen
  exact .ite (fun _ => .pure _) fun hzero => .bind (h.slice (by omega) (by omega)) fun _ _ => .pure _

theorem processMessage_only (h : Reading allowed length buffer) (type : UInt8) (fd : SockT)
    {w : World} (hw : w.names.Wf) :
    Except.Only allowed (processMessage env os type length fd buffer w) := by
  unfold processMessage
  refine .ite (fun _ => .pure _) fun _ => ?_
  refine .ite (fun _ => createServer_only h fd _) fun _ => ?_
  refine .ite (fun _ => packet_only h fd _) fun _ => ?_
  refine .ite (fun _ => disconnect_only h fd hw) fun _ => ?_
  refine .ite (fun _ => auth_only h fd _) fun _ => ?_
  exact .ite (fun _ => .pure _) fun _ => .pure _

end

end FreeGrok

/-! ### Handlers -/

theorem onReceived_handler (o : ObserverPtr) (item : ReadItem) {w : World} (hw : w.names.Wf) :
    OnlyHandler (onReceived env os o item w) := by
  cases o with
  | freeGrok =>
    cases item with
    | capture _ _ => exact .pure _
    | read fd state length u64 buffer =>
      unfold onReceived
      dsimp only
      rw [FreeGrok.onReceived_eq]
      cases FreeGrok.decode env u64 buffer state with
      | more _ _ _ => exact .pure _
      | message type length buffer =>
        exact .bind (FreeGrok.processMessage_only (FreeGrok.reading_any length buffer) type fd hw)
          fun _ _ => .pure _
      | error _ => exact .pure _
  | httpInterface =>
    unfold onReceived
    dsimp only
    rw [HttpInterface.onReceived_eq]
    split
    · exact .pure _
    · split
      · exact undefined_ordinary.handler
      · exact .pure _
  | grokProxy p =>
    unfold onReceived
    dsimp only
    rw [GrokProxy.onReceived_eq]
    refine .bind (proxy_ordinary _ p).handler fun px _ => ?_
    split
    · exact .pure _
    · split
      · exact undefined_ordinary.handler
      · exact .pure _

theorem onConnect_ordinary (o : ObserverPtr) (w : World) :
    OnlyOrdinary (onConnect env os o w) := by
  cases o with
  | freeGrok => exact .pure _
  | httpInterface => exact .pure _
  | grokProxy p =>
    refine .bind (proxy_ordinary _ p) fun px _ => ?_
    exact .bind (.bind (proxy_ordinary _ p) fun _ _ => .pure _) fun _ _ => .pure _

/-! ### The loop -/

namespace Loop
variable {fd : SockT} {o : ObserverPtr} {w : World}

theorem performReadQueue_empty (h : (w.gatherQueue fd).read = []) :
    performReadQueue env os fd o w = .error .emptyRead := by
  unfold performReadQueue
  simp only [h]
  rfl

theorem performReadQueue_handler (hw : w.names.Wf) (h : (w.gatherQueue fd).read ≠ []) :
    OnlyHandler (performReadQueue env os fd o w) := by
  unfold performReadQueue
  dsimp only
  split
  · next hnil => exact absurd hnil h
  · refine .bind (onReceived_handler o _ hw) fun w _ => ?_
    exact .ite (fun _ => .pure _) fun _ => .pure _
  · split
    · exact .pure _
    · exact .pure _
    · refine .ite (fun _ => ?_) fun _ => .pure _
      exact .bind (onReceived_handler o _ hw) fun w _ => .pure _

theorem performWriteQueue_empty (h : (w.gatherQueue fd).write = []) :
    performWriteQueue os fd w = .error .emptyWrite := by
  unfold performWriteQueue
  simp only [h]
  rfl

/-- Writing fails in no other way. -/
theorem performWriteQueue_ok (os : Os) (h : (w.gatherQueue fd).write ≠ []) :
    ∃ w', performWriteQueue os fd w = .ok w' := by
  unfold performWriteQueue
  dsimp only
  split
  · next hnil => exact absurd hnil h
  · split
    · exact ⟨_, rfl⟩
    · split <;> split <;> exact ⟨_, rfl⟩

end Loop

end

end OpenGrok

