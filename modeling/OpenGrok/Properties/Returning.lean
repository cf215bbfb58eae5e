import OpenGrok.Properties.Consistency
import OpenGrok.Properties.Payload
import OpenGrok.Server.Account

/-! What the handler of an event needs to come to its end.

Pointers to observers and proxies are followed without a test, and the queues and
buffers are read without one. Each lemma says what must be there, so that nothing is
thrown and nothing is undefined. -/
namespace OpenGrok

/-- The computation ends in no fault. -/
abbrev NoFault {α : Type} (x : Except Fault α) : Prop := Except.Only (fun _ => False) x

theorem NoFault.returns {α : Type} {x : Except Fault α} (h : NoFault x) : ∃ a, x = .ok a := by
  cases x with
  | error e => exact (h e rfl).elim
  | ok a => exact ⟨a, rfl⟩

section
variable {env : Env} {os : Os} {w : World} {fd x A : SockT} {o : ObserverPtr} {p : Ptr}
  {px : GrokProxy}

/-! ### Observers -/

theorem observer_runs (h : w.names.base o ≠ none) : NoFault (w.observer o) := by
  cases o with
  | freeGrok => exact .ok _
  | httpInterface => exact .ok _
  | grokProxy p =>
    cases hp : w.proxies.lookup p with
    | none => exact absurd (by simp [Registry.names, Registry.base, hp]) h
    | some px => exact .bind (.of_eq (FreeGrok.proxy_eq hp)) fun _ _ => .pure _

theorem Loop.linkClient_runs (h : w.names.base o ≠ none) (sock : SockT) :
    NoFault (Loop.linkClient sock o w) :=
  .bind (observer_runs h) fun _ _ => .pure _

theorem Loop.unlinkClient_runs (h : w.names.base o ≠ none) (sock : SockT) (erase : Bool) :
    NoFault (Loop.unlinkClient sock o erase w) := by
  unfold Loop.unlinkClient
  apply Except.Only.ite
  · intro _
    exact .bind (observer_runs h) fun _ _ => .pure _
  · intro _
    exact .pure _

/-- A listener that is readable accepts a connection, or fails to. -/
theorem Loop.readable_runs (hw : w.Sound) (ho : w.observers.lookup fd = some o) :
    NoFault (Loop.readable env os fd w) := by
  obtain ⟨b, hb, _, hserver⟩ := hw.wf.observer_base ho
  have hbase : w.names.base o ≠ none := by
    rw [hb]
    exact Option.some_ne_none b
  unfold Loop.readable
  simp only [ho]
  refine .bind (observer_runs hbase) fun base hobserver => ?_
  cases Option.some.inj (hb.symm.trans (FreeGrok.observer_ok hobserver))
  rw [if_pos hserver]
  cases o with
  | freeGrok =>
    refine .bind (.pure _) fun _ _ => Loop.linkClient_runs ?_ _
    simp [Registry.names, Registry.base]
  | httpInterface =>
    refine .bind (.pure _) fun _ _ => Loop.linkClient_runs ?_ _
    simp [Registry.names, Registry.base]
  | grokProxy p =>
    obtain ⟨px, hpx, _⟩ := Option.map_eq_some_iff.mp hb
    have hconnect := @GrokProxy.onConnect_announced env os w p px hpx
    refine .bind (.of_eq hconnect) fun connected hconnected => Loop.linkClient_runs ?_ _
    cases Except.ok.inj (hconnect.symm.trans hconnected)
    have hpx' : (tcpAccept os w).2.proxies.lookup p = some px := by
      rw [tcpAccept_proxies]
      exact hpx
    rw [Selector.add_registry]
    dsimp only
    rw [World.names_announced (Loop.pushRead _ _ _) _ env hpx']
    have hlive := (World.proxy_names hpx').2
    show (tcpAccept os w).2.names.base (.grokProxy p) ≠ none
    rw [hlive]
    exact Option.some_ne_none _

/-! ### Closing -/

/-- The proxy that a main connection points to is there, unless its tunnel is broken. -/
theorem World.server_proxy (h : w.names.standing fd ≠ .broken) {u : User}
    (hu : w.names.user fd = some u) (hs : u.server = some p) :
    ∃ px, w.proxies.lookup p = some px := by
  cases hp : w.proxies.lookup p with
  | none =>
    have hgone : w.names.tunnel p = none := by simp [Registry.names, hp]
    exact absurd (Names.standing_broken hu hs hgone) h
  | some px => exact ⟨px, rfl⟩

/-- A connection's observer is there. -/
theorem World.linked_there (hw : w.names.Wf) (hl : w.linkedClients.lookup x = some o) :
    w.names.base o ≠ none := by
  obtain ⟨b, hb, _⟩ := hw.linked_base hl
  rw [hb]
  exact Option.some_ne_none b

/-- What a proxy holds for a client's id is no listener, also once the client is closed. -/
theorem World.client_unobserved {id : CIdT} (hw : w.names.Wf) (hp : w.proxies.lookup p = some px)
    (hid : px.idToSock.lookup id = some x) : w.observers.lookup x = none := by
  by_cases hne : x = -1
  · subst hne
    exact hw.observer_neg
  · have ht := (World.proxy_names hp).1
    exact hw.sock_unobserved ht (hw.id_sock ht hid hne) hne

theorem Loop.forceDisconnectAt_runs {depth : Nat} {erase call : Bool}
    (hl : w.linkedClients.lookup x = some o)
    (hcall : call = true → ∃ w1, onDisconnectWith env (Loop.removeObserverWith env
        fun client => Loop.forceDisconnectAt env depth client false false) o x w = .ok w1 ∧
      w1.names.base o ≠ none) (hbase : w.names.base o ≠ none) :
    NoFault (Loop.forceDisconnectAt env (depth + 1) x erase call w) := by
  unfold Loop.forceDisconnectAt
  simp only [hl]
  cases call with
  | true =>
    obtain ⟨w1, htold, hbase1⟩ := hcall rfl
    refine .bind (.of_eq htold) fun w2 hw2 => ?_
    cases Except.ok.inj (htold.symm.trans hw2)
    have hunlink := Loop.unlinkClient_runs (w := Loop.removeQueues x w1) hbase1 x erase
    exact .bind hunlink fun _ _ => .pure _
  | false =>
    refine .bind (.pure w) fun w2 hw2 => ?_
    cases hw2
    have hunlink := Loop.unlinkClient_runs (w := Loop.removeQueues x w) hbase x erase
    exact .bind hunlink fun _ _ => .pure _

/-- A connection that hangs up is closed. -/
theorem Loop.forceDisconnect_runs (hw : w.Sound) (hl : w.linkedClients.lookup fd = some o)
    (hunbroken : o = .freeGrok → w.names.standing fd ≠ .broken)
    (hknown : ∀ p, o = .grokProxy p → ∃ id, w.names.Knows p fd id) :
    NoFault (Loop.forceDisconnect env fd true true w) := by
  have hbase := World.linked_there hw.wf hl
  cases o with
  | freeGrok =>
    by_cases hserver : FreeGrok.hasServer w fd = true
    · obtain ⟨u, p, hu, hs⟩ := FreeGrok.hasServer_iff.mp hserver
      obtain ⟨px, hpx⟩ := World.server_proxy (hunbroken rfl) hu hs
      exact .of_eq (forceDisconnect_torn hw hu hs hpx)
    · refine Loop.forceDisconnectAt_runs hl (fun _ => ⟨w, ?_, hbase⟩) hbase
      unfold onDisconnectWith FreeGrok.onDisconnectWith
      dsimp only
      rw [if_neg hserver]
      rfl
  | httpInterface =>
    refine Loop.forceDisconnectAt_runs hl (fun _ => ⟨HttpInterface.onDisconnect fd w, rfl, ?_⟩) hbase
    simp [Registry.names, Registry.base]
  | grokProxy p =>
    obtain ⟨id, t, ht, hid⟩ := hknown p rfl
    obtain ⟨px, hpx, rfl⟩ := Option.map_eq_some_iff.mp ht
    refine Loop.forceDisconnectAt_runs hl (fun _ =>
      ⟨FreeGrok.sendDisconnected env px.initiator id (w.untabled fd p px id), ?_, ?_⟩) hbase
    · have hid : px.sockToId.lookup fd = some id := hid
      simp only [onDisconnectWith, GrokProxy.onDisconnect, GrokProxy.unlinkClient,
        FreeGrok.proxy_eq hpx, hid, bind, Except.bind, pure, Except.pure, if_true]
      rfl
    · have hreg :
          (FreeGrok.sendDisconnected env px.initiator id (w.untabled fd p px id)).toRegistry =
            (w.untabled fd p px id).toRegistry := FStreamer.send_registry ..
      rw [hreg, World.names_untabled w fd hpx]
      exact hbase

/-- A client that hangs up is closed. -/
theorem Loop.hangUp_runs {p : Ptr} {t : Tunnel} {id : CIdT} (hw : w.Sound) (hfd : fd ≠ -1)
    (ht : w.names.tunnel p = some t) (hid : t.sockToId.lookup fd = some id) :
    NoFault (Loop.hangUp env fd w) := by
  have hob : w.observers.lookup fd = none := hw.wf.sock_unobserved ht hid hfd
  unfold Loop.hangUp
  rw [hob]
  cases hl : w.linkedClients.lookup fd with
  | none => exact .of_eq (forceDisconnect_unknown env 3 hl hob)
  | some o =>
    obtain rfl := hw.wf.sock_linked ht hid hfd hl
    refine Loop.forceDisconnect_runs hw hl nofun fun q hq => ?_
    cases hq
    exact ⟨id, t, ht, hid⟩

/-! ### Frames -/

theorem BufferReader.slice_runs {bytes : Bytes} {offset n : Nat} (h : offset + n ≤ bytes.length) :
    NoFault (BufferReader.slice { buffer := some bytes, offset } n) :=
  .ite (fun _ => .ok _) fun hnot => absurd h hnot

theorem BufferReader.read_runs {bytes : Bytes} {offset n : Nat} (h : offset + n ≤ bytes.length) :
    NoFault (BufferReader.read { buffer := some bytes, offset } n) :=
  .bind (slice_runs h) fun _ _ => .pure _

/-- A payload that is not empty is there. -/
theorem payload_some {buffer : Option Bytes} {length : Nat} (h : (buffer.getD []).length = length)
    (hpos : 0 < length) : ∃ bytes, buffer = some bytes ∧ bytes.length = length := by
  cases buffer with
  | none =>
    have h : 0 = length := h
    omega
  | some bytes => exact ⟨bytes, rfl, h⟩

/-- A closed client of a proxy is closed as far as the loop knows it. -/
theorem FreeGrok.disconnect_runs {length : Nat} {buffer : Option Bytes} (hw : w.names.Wf)
    (hunbroken : w.names.standing A ≠ .broken) (hsize : (buffer.getD []).length = length) :
    NoFault (FreeGrok.disconnect env A length { buffer } w) := by
  by_cases hserver : FreeGrok.hasServer w A = true
  · obtain ⟨u, p, hu, hs⟩ := FreeGrok.hasServer_iff.mp hserver
    obtain ⟨px, hpx⟩ := World.server_proxy hunbroken hu hs
    by_cases hlen : length = cIdSize
    · have hpos : 0 < length := by
        rw [hlen]
        decide
      obtain ⟨bytes, rfl, hbytes⟩ := payload_some hsize hpos
      rw [← hbytes, FreeGrok.disconnect_eq hu hs hpx (hbytes.trans hlen)]
      generalize hid : UInt32.ofNat (ByteBuffer.value (bytes.take cIdSize)) = id
      cases haddress : FreeGrok.addressee px bytes with
      | none => exact .ok _
      | some x =>
        have hx : px.idToSock.lookup id = some x := by
          rw [← hid]
          exact haddress
        have hlinks : (w.untabled x p px id).linkedClients = w.linkedClients := rfl
        show NoFault (Loop.forceDisconnectAt env (3 + 1) x true false (w.untabled x p px id))
        cases hlinked : w.linkedClients.lookup x with
        | some o =>
          have hbase : (w.untabled x p px id).names.base o ≠ none := by
            rw [World.names_untabled w x hpx]
            exact World.linked_there hw hlinked
          exact Loop.forceDisconnectAt_runs (hlinks ▸ hlinked)
            (fun hcall => absurd hcall Bool.false_ne_true) hbase
        | none =>
          have hunobserved := World.client_unobserved hw hpx hx
          exact .of_eq (forceDisconnect_unknown env 3 (hlinks ▸ hlinked) hunobserved)
    · unfold FreeGrok.disconnect
      rw [if_neg (by simp [hserver]), if_pos hlen]
      exact .pure _
  · unfold FreeGrok.disconnect
    rw [if_pos (by simp [hserver])]
    exact .pure _

theorem FreeGrok.packet_runs {length : Nat} {buffer : Option Bytes}
    (hunbroken : w.names.standing A ≠ .broken) (hsize : (buffer.getD []).length = length) :
    NoFault (FreeGrok.packet env A length { buffer } w) := by
  by_cases hserver : FreeGrok.hasServer w A = true
  · obtain ⟨u, p, hu, hs⟩ := FreeGrok.hasServer_iff.mp hserver
    obtain ⟨px, hpx⟩ := World.server_proxy hunbroken hu hs
    by_cases hlen : length ≤ cIdSize
    · unfold FreeGrok.packet
      rw [if_neg (by simp [hserver]), if_pos hlen]
      exact .pure _
    · obtain ⟨bytes, rfl, hbytes⟩ := payload_some hsize (by omega)
      subst hbytes
      exact .of_eq (FreeGrok.packet_eq hu hs hpx (Nat.lt_of_not_le hlen))
  · unfold FreeGrok.packet
    rw [if_pos (by simp [hserver])]
    exact .pure _

theorem FreeGrok.auth_runs {length : Nat} {buffer : Option Bytes}
    (hsize : (buffer.getD []).length = length) :
    NoFault (FreeGrok.auth env A length { buffer } w) := by
  unfold FreeGrok.auth FreeGrok.memcmpMagic
  refine .ite (fun _ => .pure _) fun hlen => ?_
  refine .bind ?_ fun _ _ => .ite (fun _ => .pure _) fun _ => .pure _
  have hlen : length = env.magic.length := not_not.mp hlen
  refine .ite (fun _ => .pure _) fun hzero => ?_
  obtain ⟨bytes, rfl, hbytes⟩ := payload_some hsize (by omega)
  exact .bind (BufferReader.slice_runs (by omega)) fun _ _ => .pure _

/-- The calls that a GROK_CREATE_SERVER frame makes succeed, and the proxy gets a port. -/
structure Os.Listens (os : Os) : Prop where
  probed : os.probeReuse = true
  listener : ∃ port ∈ FreeGrok.listener os, port ≠ 0

instance (os : Os) : Decidable os.Listens :=
  decidable_of_iff (os.probeReuse = true ∧ ∃ port ∈ FreeGrok.listener os, port ≠ 0)
    ⟨fun ⟨h1, h2⟩ => ⟨h1, h2⟩, fun ⟨h1, h2⟩ => ⟨h1, h2⟩⟩

/-- What ends a GROK_CREATE_SERVER frame that does not come to its end: a call that failed. -/
def Os.Throws (os : Os) (e : Fault) : Prop := e = .sysError ∧ ¬os.Listens

theorem FreeGrok.targetPort_throws {length : Nat} {buffer : Option Bytes}
    (hsize : (buffer.getD []).length = length) :
    Except.Only os.Throws (FreeGrok.targetPort os A length { buffer } w) := by
  unfold FreeGrok.targetPort
  refine .ite (fun hlen => ?_) fun _ => .pure _
  dsimp only
  refine .ite (fun _ => ?_) fun _ => .pure _
  obtain ⟨bytes, rfl, hbytes⟩ := payload_some hsize (by omega)
  have hread : NoFault (BufferReader.read { buffer := some bytes } 2) :=
    BufferReader.read_runs (by omega)
  refine .bind (hread.mono fun _ => False.elim) fun _ _ => .bind ?_ fun _ _ => ?_
  · exact .ite (fun _ => .pure _) fun hunprobed => .error ⟨rfl, fun hos => hunprobed hos.probed⟩
  · exact .ite (fun _ => .pure _) fun _ => .pure _

theorem FreeGrok.createServer_throws {length : Nat} {buffer : Option Bytes}
    (hsize : (buffer.getD []).length = length) :
    Except.Only os.Throws (FreeGrok.createServer env os A length { buffer } w) := by
  unfold FreeGrok.createServer
  refine .ite (fun _ => .pure _) fun _ => ?_
  refine .bind (FreeGrok.targetPort_throws hsize) fun target _ => ?_
  obtain ⟨port, w1⟩ := target
  cases port with
  | none => exact .pure _
  | some n =>
    dsimp only
    generalize hnew : FreeGrok.newProxy os A n w1 = g
    obtain ⟨p, v⟩ := g
    cases hlistener : FreeGrok.listener os with
    | none =>
      have hdeaf : ¬os.Listens := by
        intro hos
        obtain ⟨port, hport, _⟩ := hos.listener
        rw [hlistener] at hport
        cases hport
      rw [FreeGrok.addObserver_new hnew, hlistener]
      exact .bind (.error ⟨rfl, hdeaf⟩) fun _ h => nomatch h
    | some lport =>
      have hadd : Loop.addObserver os p (FreeGrok.linkServer A p v) =
          .ok (w1.created A os.socket n lport) := by
        rw [FreeGrok.addObserver_new hnew, hlistener]
      obtain ⟨rfl, _⟩ := FreeGrok.created_of_addObserver hnew hadd
      refine .bind (.of_eq hadd) fun w2 hw2 => ?_
      cases Except.ok.inj (hadd.symm.trans hw2)
      have hproxy : (w1.created A os.socket n lport).proxy w1.nextProxy = .ok
          { socket := os.socket, initiator := A, listeningPort := lport } := by
        apply FreeGrok.proxy_eq
        simp [World.created, World.observed, World.setProxy, Registry.setProxy]
      refine .bind (.of_eq hproxy) fun px hpx => .ite (fun hzero => ?_) fun _ => .pure _
      cases Except.ok.inj (hproxy.symm.trans hpx)
      obtain rfl : lport = 0 := hzero
      exact .of_eq (FreeGrok.created_removed env A os.socket n w1)

theorem FreeGrok.processMessage_runs (hw : w.names.Wf) (hos : os.Listens)
    (hunbroken : w.names.standing A ≠ .broken) {length : Nat} {buffer : Option Bytes}
    (hsize : (buffer.getD []).length = length) (type : UInt8) :
    NoFault (FreeGrok.processMessage env os type length A buffer w) := by
  unfold FreeGrok.processMessage
  refine .ite (fun _ => .pure _) fun _ => ?_
  refine .ite (fun _ => (FreeGrok.createServer_throws hsize).mono fun _ he => he.2 hos) fun _ => ?_
  refine .ite (fun _ => FreeGrok.packet_runs hunbroken hsize) fun _ => ?_
  refine .ite (fun _ => FreeGrok.disconnect_runs hw hunbroken hsize) fun _ => ?_
  refine .ite (fun _ => FreeGrok.auth_runs hsize) fun _ => ?_
  exact .ite (fun _ => .pure _) fun _ => .pure _

/-! ### Reading and writing -/

/-- `recv` delivers something. -/
def Os.Delivers (os : Os) : Prop := os.recv ≠ .error ∧ os.recv ≠ .data []

instance (os : Os) : Decidable os.Delivers := inferInstanceAs (Decidable (_ ∧ _))

theorem Os.Delivers.tcpRecv (h : os.Delivers) {len : Nat} (hlen : 0 < len) :
    ∃ bytes, bytes ≠ [] ∧ os.tcpRecv len = some bytes := by
  unfold Os.tcpRecv
  cases hrecv : os.recv with
  | error => exact absurd hrecv h.1
  | data bytes =>
    refine ⟨bytes.take len, fun hnil => ?_, rfl⟩
    rcases List.take_eq_nil_iff.mp hnil with hzero | hempty
    · omega
    · exact h.2 (hrecv.trans (congrArg RecvReply.data hempty))

theorem FreeGrok.react_runs (hz : env.zstd.Fills) (hw : w.names.Wf) (hos : os.Listens)
    (hunbroken : w.names.standing fd ≠ .broken) {state : PacketState} {u64 : Nat} {buffer : Bytes}
    (hasks : Asks state buffer.length u64) :
    NoFault (FreeGrok.react env os fd w (FreeGrok.decode env u64 buffer state)) := by
  cases hdecode : FreeGrok.decode env u64 buffer state with
  | more _ _ _ => exact .pure _
  | error _ => exact .pure _
  | message type length payload =>
    have hsized := decode_sized hz hasks hdecode
    exact .bind (FreeGrok.processMessage_runs hw hos hunbroken hsized type) fun _ _ => .pure _

/-- A connection whose read is queued takes what is received. -/
theorem Loop.performReadQueue_runs (hz : env.zstd.Fills) (hw : w.Sound) (hfd : fd ≠ -1)
    (hl : w.linkedClients.lookup fd = some o) (hread : (w.gatherQueue fd).read ≠ [])
    (hsettled : (w.view fd).Settled) (hunbroken : w.names.standing fd ≠ .broken)
    (hdelivers : os.Delivers)
    (hlistens : o = .freeGrok → os.Listens) :
    NoFault (Loop.performReadQueue env os fd o w) := by
  have hl' : (w.view fd).linked = some o := hl
  rcases (hw.views hfd).reads o hl' with hnil | ⟨item, hitem, hfits⟩
  · exact absurd hnil hread
  have hqueue : (w.gatherQueue fd).read = [item] := hitem
  cases o with
  | freeGrok =>
    cases item with
    | capture _ _ => exact absurd hfits id
    | read fd' state length u64 buffer =>
      obtain ⟨rfl, hasks, _⟩ := hfits
      have hpart : buffer.length < length := hsettled hl' _ _ _ _ _ _ hitem
      obtain ⟨bytes, hne, hrecv⟩ := hdelivers.tcpRecv (Nat.sub_pos_of_lt hpart)
      have hle := Os.tcpRecv_length hrecv
      rw [performReadQueue_main hqueue hrecv hne]
      refine .ite (fun _ => .ok _) fun hfull => .bind ?_ fun _ _ => .pure _
      have hfull : (buffer ++ bytes).length = length := by
        rw [List.length_append] at hfull ⊢
        omega
      subst hfull
      exact FreeGrok.react_runs hz (w := w.heard fd' _ _ _) hw.wf (hlistens rfl) hunbroken hasks
  | httpInterface =>
    cases item with
    | read _ _ _ _ _ => exact absurd hfits id
    | capture fd' pending =>
      obtain ⟨bytes, _, hrecv⟩ := hdelivers.tcpRecv (by decide : 0 < 4096)
      unfold Loop.performReadQueue
      simp only [hqueue]
      refine .bind ?_ fun _ _ => .ite (fun _ => .pure _) fun _ => .pure _
      unfold onReceived
      dsimp only
      rw [HttpInterface.onReceived_eq]
      split
      · exact .pure _
      · rw [hrecv]
        exact .pure _
  | grokProxy p =>
    cases item with
    | read _ _ _ _ _ => exact absurd hfits id
    | capture fd' pending =>
      obtain ⟨bytes, _, hrecv⟩ := hdelivers.tcpRecv (by decide : 0 < redirBufSize)
      obtain ⟨b, hb, _⟩ := hw.wf.linked_base hl
      obtain ⟨px, hpx, _⟩ := Option.map_eq_some_iff.mp hb
      unfold Loop.performReadQueue
      simp only [hqueue]
      refine .bind ?_ fun _ _ => .ite (fun _ => .pure _) fun _ => .pure _
      unfold onReceived
      dsimp only
      rw [GrokProxy.onReceived_eq]
      refine .bind (.of_eq (FreeGrok.proxy_eq hpx)) fun px' _ => ?_
      split
      · exact .pure _
      · rw [hrecv]
        exact .pure _

end

end OpenGrok
