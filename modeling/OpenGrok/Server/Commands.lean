import OpenGrok.Server.Event

/-! What a frame does.

Each command of `process_message`, when it returns, is a sequence of effects. -/
namespace OpenGrok

/-- The client that a GROK_DISCONNECT frame from the main connection `A` has closed. -/
def disconnectTarget (w : World) (A : SockT) (type : UInt8) (length : Nat) (buffer : Option Bytes) :
    Option SockT := do
  guard (type = grokDisconnect ∧ length = cIdSize)
  let user ← w.users.lookup A
  let p ← user.server
  let px ← w.proxies.lookup p
  let buffer ← buffer
  px.idToSock.lookup (UInt32.ofNat (ByteBuffer.value (buffer.take cIdSize)))

/-- The target is a client of the main connection's own proxy. -/
theorem disconnectTarget_spec {w : World} {A x : SockT} {type : UInt8} {length : Nat}
    {buffer : Option Bytes} (h : disconnectTarget w A type length buffer = some x) :
    ∃ u p px bytes, w.names.user A = some u ∧ u.server = some p ∧ w.proxies.lookup p = some px ∧
      buffer = some bytes ∧
      px.idToSock.lookup (UInt32.ofNat (ByteBuffer.value (bytes.take cIdSize))) = some x := by
  unfold disconnectTarget at h
  simp only [Option.bind_eq_bind, Option.bind_eq_some_iff] at h
  obtain ⟨_, _, u, hu, p, hs, px, hp, bytes, hb, hx⟩ := h
  exact ⟨u, p, px, bytes, hu, hs, hp, hb, hx⟩

namespace FreeGrok
variable {env : Env} {os : Os} {P : Terms} {w w' : World} {A : SockT}

theorem hasServer_iff : hasServer w A = true ↔
    ∃ u p, w.names.user A = some u ∧ u.server = some p := by
  unfold hasServer
  simp only [Registry.names]
  cases hu : w.users.lookup A with
  | none => simp
  | some u => simp [Option.isSome_iff_exists]

/-- The id at the front of a payload. -/
theorem read_id {buffer : Option Bytes} {value : Nat} {reader : BufferReader}
    (h : BufferReader.read { buffer } cIdSize = .ok (value, reader)) :
    ∃ bytes, buffer = some bytes ∧ cIdSize ≤ bytes.length ∧
      value = ByteBuffer.value (bytes.take cIdSize) ∧ reader = { buffer, offset := cIdSize } ∧
      (UInt32.ofNat value).toNat = ByteBuffer.value (bytes.take cIdSize) := by
  unfold BufferReader.read at h
  obtain ⟨bytes, hslice, h⟩ := Except.bind_ok_iff.mp h
  cases h
  cases buffer with
  | none => simp [BufferReader.slice] at hslice
  | some buffer =>
    simp only [BufferReader.slice, Nat.zero_add, List.drop_zero] at hslice
    split at hslice
    · next hlen =>
      cases hslice
      have hfour : (buffer.take cIdSize).length = cIdSize := by simpa using hlen
      have hvalue := ByteBuffer.bytesToInt_little cIdSize (buffer.take cIdSize) (by decide) hfour
      have hlt := ByteBuffer.value_lt (buffer.take cIdSize)
      rw [hfour] at hlt
      refine ⟨buffer, rfl, hlen, hvalue, by simp, ?_⟩
      rw [hvalue, UInt32.toNat_ofNat']
      exact Nat.mod_eq_of_lt hlt
    · cases hslice

theorem message_packet {type : UInt8} (hpacket : type ≠ grokPacket) (length : Nat)
    (buffer : Option Bytes) (id : CIdT) : (Action.message A type length buffer).packet id = [] := by
  cases buffer <;> simp [Action.packet, hpacket]

theorem message_dismisses {type : UInt8} (hdisconnect : type ≠ grokDisconnect) (length : Nat)
    (buffer : Option Bytes) (id : CIdT) :
    ¬(Action.message A type length buffer).Dismisses id := by
  cases buffer <;> simp [Action.Dismisses, hdisconnect]

/-- A message that is neither a packet nor an authorisation, and dismisses no client. -/
theorem undismissed_command (env : Env) (type : UInt8) (length : Nat)
    (buffer : Option Bytes) (hauth : type ≠ grokAuth) (hpacket : type ≠ grokPacket)
    (hno : ∀ u p t id x, w.names.user A = some u → u.server = some p → w.names.tunnel p = some t →
      t.idToSock.lookup id = some x → ¬(Action.message A type length buffer).Dismisses id) :
    Command env P A w [.message type length (buffer.getD [])]
      (w.log (.message A type length buffer)) := by
  refine .message type length buffer ?_ fun u p t id x hu hs ht hx =>
    ⟨message_packet hpacket length buffer id, hno u p t id x hu hs ht hx⟩
  simp [Action.authorisation, hauth]

/-- A message that the tables of clients do not matter to. -/
theorem message_command (env : Env) (type : UInt8) (length : Nat) (buffer : Option Bytes)
    (hauth : type ≠ grokAuth) (hpacket : type ≠ grokPacket) (hdisconnect : type ≠ grokDisconnect) :
    Command env P A w [.message type length (buffer.getD [])]
      (w.log (.message A type length buffer)) :=
  undismissed_command env type length buffer hauth hpacket fun _ _ _ id _ _ _ _ _ =>
    message_dismisses hdisconnect length buffer id

/-- An error reply that is not about decompression. -/
theorem error_commands {v : World} (code : UInt8) (hfailed : code ≠ decompressionError)
    (hlong : code ≠ tooLongBuffer) : Commands env P A v [] (FStreamer.sendError env A code v) := by
  refine .single (.replied _ _ ⟨by decide, by decide, by decide⟩ ?_)
  simp [Action.reactions, hfailed, hlong]

/-! ### GROK_CREATE_SERVER -/

/-- A port of the owner's choice is only considered for a user with the right to it. -/
theorem targetPort_spec {length : Nat} {reader : BufferReader} {port : Option UInt16}
    (h : targetPort os A length reader w = .ok (port, w')) :
    (w' = w ∨ w' = (gatherUser A w).2) ∧
      (∀ n, port = some n → n ≠ 0 → ((w.names.user A).getD {}).canSelectPort = true) := by
  unfold targetPort at h
  split at h
  · have huser := w.gatherUser_fst A
    generalize gatherUser A w = g at h huser ⊢
    obtain ⟨user, w1⟩ := g
    dsimp only at h huser ⊢
    split at h
    · next hright =>
      obtain ⟨⟨value, reader'⟩, _, h⟩ := Except.bind_ok_iff.mp h
      obtain ⟨available, _, h⟩ := Except.bind_ok_iff.mp h
      split at h <;> cases h <;> exact ⟨.inr rfl, fun _ _ _ => huser ▸ hright⟩
    · cases h
      exact ⟨.inr rfl, fun n hn hne => absurd (Option.some.inj hn).symm hne⟩
  · cases h
    exact ⟨.inl rfl, fun n hn hne => absurd (Option.some.inj hn).symm hne⟩

theorem proxy_ok {p : Ptr} {px : GrokProxy} (h : w.proxy p = .ok px) :
    w.proxies.lookup p = some px := by
  unfold Registry.proxy at h
  split at h
  · next heq => rwa [← Except.ok.inj h]
  · cases h

theorem proxy_eq {p : Ptr} {px : GrokProxy} (hp : w.proxies.lookup p = some px) : w.proxy p = .ok px := by
  unfold Registry.proxy
  rw [hp]

theorem linkServer_proxies (fd : SockT) (p : Ptr) (w : World) :
    (linkServer fd p w).proxies = w.proxies := by
  unfold linkServer gatherUser
  cases w.users.lookup fd <;> rfl

theorem newProxy_eq (initiator : SockT) (port : UInt16) (w : World) :
    newProxy os initiator port w = (w.nextProxy, World.allocated (tcpCreate os w).2 {
      socket := (tcpCreate os w).1, initiator, listeningPort := port }) := by
  by_cases hs : os.socket = -1 <;> simp only [newProxy, tcpCreate, hs, if_true, if_false] <;> rfl

/-- The port of a new proxy's listener, if every system call for it succeeds. -/
def listener (os : Os) : Option UInt16 :=
  if os.socket ≠ -1 ∧ os.reuse = true ∧ os.bind = true ∧ os.listen = true then os.getsockname
  else none

/-- `post_init`: every call succeeds, or a `SysError` is thrown. -/
theorem postInit_eq {v : World} {p : Ptr} {px : GrokProxy} (hp : w.proxy p = .ok px)
    (hs : px.socket = (tcpCreate os v).1) :
    GrokProxy.postInit os p w = match listener os with
      | some port => .ok ((w.log (.bind px.initiator px.listeningPort.toNat)).setProxy p
          { px with listeningPort := port })
      | none => .error .sysError := by
  have hsock : px.socket = os.socket := by
    rw [hs, tcpCreate]
    split
    · next h => exact h.symm
    · rfl
  unfold GrokProxy.postInit listener
  rw [hp]
  by_cases hsocket : os.socket = -1
  · simp [hsock, hsocket, bind, Except.bind]
  · cases hreuse : os.reuse <;> cases hbind : os.bind <;> cases hlisten : os.listen <;>
      simp [hsock, hsocket, bind, Except.bind]
    cases os.getsockname <;> rfl

/-- `add_observer` on a new proxy makes its listener, or lets a `SysError` through. -/
theorem addObserver_new {v : World} {p : Ptr} {port : UInt16} (hnew : newProxy os A port w = (p, v)) :
    Loop.addObserver os p (linkServer A p v) =
      match listener os with
      | some listeningPort => .ok (w.created A os.socket port listeningPort)
      | none => .error .sysError := by
  have hlookup : (linkServer A p v).proxy p = .ok {
      socket := (tcpCreate os w).1, initiator := A, listeningPort := port } := by
    rw [newProxy_eq] at hnew
    cases hnew
    have hnext : (tcpCreate os w).2.nextProxy = w.nextProxy := by
      unfold tcpCreate
      split <;> rfl
    refine proxy_eq ?_
    rw [linkServer_proxies]
    simp [World.allocated, hnext]
  have hselected : (Selector.add (tcpCreate os w).1 eventsR (linkServer A p v)).proxy p = .ok {
      socket := (tcpCreate os w).1, initiator := A, listeningPort := port } := by
    rw [Selector.add_registry]
    exact hlookup
  unfold Loop.addObserver
  refine Eq.trans (congrArg (· >>= _) hlookup) ?_
  show (GrokProxy.postInit os p (Selector.add (tcpCreate os w).1 eventsR (linkServer A p v)) >>= _) = _
  rw [postInit_eq hselected rfl]
  cases hl : listener os with
  | none => rfl
  | some lport =>
    have hsock : os.socket ≠ -1 := by
      unfold listener at hl
      split at hl
      · next h => exact h.1
      · cases hl
    rw [newProxy_eq] at hnew
    cases hnew
    simp only [tcpCreate, hsock, if_false]
    rfl

/-- A proxy that `add_observer` returned for was created, with the port the kernel gave it. -/
theorem created_of_addObserver {port : UInt16} {p : Ptr} {v : World}
    (hnew : newProxy os A port w = (p, v))
    (h : Loop.addObserver os p (linkServer A p v) = .ok w') :
    p = w.nextProxy ∧ ∃ listeningPort, listener os = some listeningPort ∧
      w' = w.created A os.socket port listeningPort := by
  rw [addObserver_new hnew] at h
  rw [newProxy_eq] at hnew
  cases hnew
  split at h
  · next lport hl => exact ⟨rfl, lport, hl, (Except.ok.inj h).symm⟩
  · cases h

theorem listener_socket {port : UInt16} (h : listener os = some port) : os.socket ≠ -1 := by
  unfold listener at h
  split at h
  · next hall => exact hall.1
  · cases h

theorem observer_ok {o : ObserverPtr} {b : IObserver} (h : w.observer o = .ok b) :
    w.names.base o = some b := by
  cases o with
  | freeGrok => exact congrArg some (Except.ok.inj h)
  | httpInterface => exact congrArg some (Except.ok.inj h)
  | grokProxy p =>
    obtain ⟨px, hpx, hb⟩ := Except.bind_ok_iff.mp h
    rw [(World.proxy_names (proxy_ok hpx)).2, ← Except.ok.inj hb]

/-- A proxy that could not be given a port is removed again, with its listener. -/
theorem removed_again {p : Ptr} (px : GrokProxy) (u : User) (hp : w.proxies.lookup p = some px)
    (hclients : px.clients = ∅) (hs : px.isServer = true) (hu : w.names.user A = some u)
    (hserver : u.server = some p) : (do
      let w ← Loop.removeObserver env (.grokProxy p) w
      removeServer A w) = .ok (w.deleted p px.toIObserver []) := by
  have horder : env.order px.clients.keys = [] := by
    rw [hclients]
    exact List.Perm.eq_nil (env.order_perm [])
  have hobserver : w.observer (.grokProxy p) = .ok px.toIObserver := by
    simp only [Registry.observer, proxy_eq hp, bind, Except.bind, pure, Except.pure]
  have hremove : Loop.removeObserver env (.grokProxy p) w =
      .ok ((w.setObserver (.grokProxy p) { px.toIObserver with clients := ∅ }).unlistened
        px.socket) := by
    unfold Loop.removeObserver Loop.removeObserverWith
    simp only [hobserver, bind, Except.bind, hs, if_true, horder]
    rfl
  have hset : w.setObserver (.grokProxy p) { px.toIObserver with clients := ∅ } =
      w.setProxy p { px with toIObserver := { px.toIObserver with clients := ∅ } } := by
    simp only [World.setObserver, Registry.setObserver, hp]
    rfl
  have husers : ((w.setObserver (.grokProxy p) { px.toIObserver with clients := ∅ }).unlistened
      px.socket).users.lookup A = some u := by
    rw [hset]
    exact hu
  have hproxy : ((w.setObserver (.grokProxy p) { px.toIObserver with clients := ∅ }).unlistened
      px.socket).proxy p =
        .ok { px with toIObserver := { px.toIObserver with clients := ∅ } } := by
    rw [hset]
    exact proxy_eq (AList.lookup_insert _)
  refine Except.bind_ok_iff.mpr ⟨_, hremove, ?_⟩
  simp only [removeServer, gatherUser, husers, hserver]
  exact Except.bind_ok_iff.mpr ⟨_, hproxy, rfl⟩

theorem created_removed (env : Env) (A sock : SockT) (port : UInt16) (w : World) : (do
    let v ← Loop.removeObserver env (.grokProxy w.nextProxy)
      (FStreamer.sendError env A internalServerError (w.created A sock port 0))
    removeServer A v) = .ok ((FStreamer.sendError env A internalServerError
      (w.created A sock port 0)).deleted w.nextProxy { socket := sock } []) := by
  have hregistry : (FStreamer.sendError env A internalServerError
      (w.created A sock port 0)).toRegistry = (w.created A sock port 0).toRegistry :=
    FStreamer.send_registry ..
  refine removed_again { socket := sock, initiator := A, listeningPort := 0 }
    { ((w.names.user A).getD {}) with server := some w.nextProxy } ?_ rfl rfl ?_ rfl
  · rw [hregistry]
    simp [World.created, World.observed, World.setProxy, Registry.setProxy]
  · rw [hregistry, World.names_created]
    simp

/-- Looking a user up, or making an empty record, changes no right and no server. -/
theorem touched_facts {w1 : World} (h : w1 = w ∨ w1 = (gatherUser A w).2) :
    w1.names.opened = w.names.opened ∧
      (w1.names.user A).getD {} = (w.names.user A).getD {} := by
  obtain rfl | rfl := h
  · exact ⟨rfl, rfl⟩
  · rw [World.names_gatherUser]
    simp

/-- How a GROK_CREATE_SERVER frame that is handled ends: with a server that was there already, with
a port that is not available, with a proxy that has no port, or with one that has. -/
theorem createServer_spec {length : Nat} {reader : BufferReader}
    (h : createServer env os A length reader w = .ok w') :
    hasServer w A = true ∧ w' = FStreamer.sendError env A serverAlreadyCreated w ∨
    hasServer w A = false ∧ ∃ port w1, targetPort os A length reader w = .ok (port, w1) ∧
      (port = none ∧ w' = FStreamer.sendError env A unavailablePort w1 ∨
      ∃ n lport, port = some n ∧ listener os = some lport ∧
        (lport = 0 ∧ w' = (FStreamer.sendError env A internalServerError
            (w1.created A os.socket n 0)).deleted w1.nextProxy { socket := os.socket } [] ∨
          lport ≠ 0 ∧ w' = FStreamer.send env A grokCreateServer
            (ByteBuffer.encode 2 lport.toNat) (w1.created A os.socket n lport))) := by
  unfold createServer at h
  split at h
  · next hserver =>
    cases h
    exact .inl ⟨hserver, rfl⟩
  · next hserver =>
    obtain ⟨⟨port, w1⟩, hport, h⟩ := Except.bind_ok_iff.mp h
    refine .inr ⟨Bool.eq_false_of_not_eq_true hserver, port, w1, hport, ?_⟩
    dsimp only at h
    split at h
    · cases h
      exact .inl ⟨rfl, rfl⟩
    · next n =>
      generalize hnew : newProxy os A n w1 = g at h
      obtain ⟨p, v⟩ := g
      obtain ⟨w2, hadd, h⟩ := Except.bind_ok_iff.mp h
      obtain ⟨rfl, lport, hl, rfl⟩ := created_of_addObserver hnew hadd
      refine .inr ⟨n, lport, rfl, hl, ?_⟩
      obtain ⟨px, hpx, h⟩ := Except.bind_ok_iff.mp h
      have hpx := proxy_ok hpx
      have hport : px.listeningPort = lport := by
        simp [World.created, World.observed, World.setProxy, Registry.setProxy] at hpx
        rw [← hpx]
      rw [hport] at h
      split at h
      · next hzero =>
        subst hzero
        rw [created_removed] at h
        exact .inl ⟨rfl, (Except.ok.inj h).symm⟩
      · next hzero =>
        cases h
        exact .inr ⟨hzero, rfl⟩

theorem createServer_commands (hA : A ≠ -1) (hos : os.Fresh w.toRegistry) {length : Nat}
    {reader : BufferReader} (h : createServer env os A length reader w = .ok w') :
    Commands env P A w [] w' := by
  obtain ⟨_, rfl⟩ | ⟨hserver, port, w1, hport, hrest⟩ := createServer_spec h
  · exact .single (.replied _ _ ⟨by decide, by decide, by decide⟩ rfl)
  · obtain ⟨htouch, hright⟩ := targetPort_spec hport
    obtain ⟨hopened, huser⟩ := touched_facts htouch
    have heff : Commands env P A w [] w1 := by
      obtain rfl | rfl := htouch
      · exact .refl
      · exact .single (.touched)
    have hno : ∀ u, w1.names.user A = some u → u.server = none := by
      intro u hu
      rw [hu, Option.getD_some] at huser
      cases hs : u.server with
      | none => rfl
      | some p =>
        rw [huser] at hs
        cases hu0 : w.names.user A with
        | none =>
          rw [hu0] at hs
          cases hs
        | some u0 =>
          rw [hu0] at hs
          rw [hasServer_iff.mpr ⟨u0, p, hu0, hs⟩] at hserver
          cases hserver
    refine heff.trans ?_
    obtain ⟨rfl, rfl⟩ | ⟨n, lport, rfl, hl, hmade⟩ := hrest
    · exact .single (.replied _ _ ⟨by decide, by decide, by decide⟩ rfl)
    · have hright' : n ≠ 0 → ((w1.names.user A).getD {}).canSelectPort = true := by
        rw [huser]
        exact hright n rfl
      have hu : Unused w1.toRegistry os.socket := by
        obtain hneg | hunused := hos.socket
        · exact absurd hneg (listener_socket hl)
        · exact ⟨hunused.nonneg, hunused.int, (congrFun hopened os.socket).trans hunused.closed⟩
      obtain ⟨rfl, rfl⟩ | ⟨_, rfl⟩ := hmade
      · exact .single (.discarded os.socket n hA hno hu hright')
      · exact .head (.created os.socket n lport hA hno hu hright')
          (.single (.replied _ _ ⟨by decide, by decide, by decide⟩ rfl))

/-! ### GROK_PACKET -/

/-- `gather_user(fd).server` of a user that has one. -/
theorem server_ok {p : Ptr} (h : server A w = .ok p) :
    ∃ u, w.names.user A = some u ∧ u.server = some p := by
  unfold server at h
  rw [World.gatherUser_fst] at h
  split at h
  · next q hq =>
    cases h
    cases hu : w.names.user A with
    | none =>
      rw [hu] at hq
      cases hq
    | some u =>
      rw [hu] at hq
      exact ⟨u, rfl, hq⟩
  · cases h

/-- Which packets a payload holds is decided by the id at its front. -/
theorem packet_eq_nil {length : Nat} {bytes : Bytes} {id id' : CIdT}
    (hid : id.toNat = ByteBuffer.value (bytes.take cIdSize)) (hne : id' ≠ id) :
    (Action.message A grokPacket length (some bytes)).packet id' = [] := by
  rw [Action.packet_message, if_neg]
  intro hparts
  obtain ⟨-, hvalue⟩ := hparts
  exact hne (UInt32.toNat_inj.mp (hvalue.symm.trans hid.symm))

theorem packet_commands (hw : w.names.Wf) {length : Nat}
    {buffer : Option Bytes}
    (h : packet env A length { buffer } (w.log (.message A grokPacket length buffer)) = .ok w') :
    Commands env P A w [.message grokPacket length (buffer.getD [])] w' := by
  have hauth : (Action.message A grokPacket length buffer).authorisation env.magic = [] := by
    simp [Action.authorisation, grokPacket, grokAuth]
  unfold packet at h
  split at h
  · next hserver =>
    cases h
    refine .head (.message _ length buffer hauth fun u p t id x hu hs _ _ => ?_)
      (error_commands _ (by decide) (by decide))
    have hyes : hasServer (w.log (.message A grokPacket length buffer)) A = true :=
      hasServer_iff.mpr ⟨u, p, hu, hs⟩
    rw [hyes] at hserver
    cases hserver
  · split at h
    · next hshort =>
      cases h
      refine .head (.message _ length buffer hauth fun u p t id x _ _ _ _ =>
        ⟨?_, message_dismisses (by decide) length buffer id⟩) (error_commands _ (by decide) (by decide))
      cases buffer with
      | none => rfl
      | some bytes =>
        rw [Action.packet_message, if_neg]
        exact fun hlt => absurd hlt.1 (Nat.not_lt.mpr hshort)
    · next hlong =>
      obtain ⟨⟨clientId, reader⟩, hread, h⟩ := Except.bind_ok_iff.mp h
      obtain ⟨bytes, rfl, hlen, hvalue, hreader, hid⟩ := read_id hread
      obtain ⟨p, hp, h⟩ := Except.bind_ok_iff.mp h
      obtain ⟨u, hu, hserver⟩ := server_ok hp
      obtain ⟨px, hpx, h⟩ := Except.bind_ok_iff.mp h
      have hpx := proxy_ok hpx
      have ht := (World.proxy_names hpx).1
      split at h
      · next hno =>
        cases h
        refine .head (.message _ length _ hauth fun u' p' t' id x hu' hs' ht' hx => ?_)
          (error_commands _ (by decide) (by decide))
        have hu : w.names.user A = some u := hu
        have ht : w.names.tunnel p = some px.toTunnel := ht
        rw [hu] at hu'
        cases hu'
        rw [hserver] at hs'
        cases hs'
        rw [ht] at ht'
        cases ht'
        refine ⟨packet_eq_nil hid ?_, message_dismisses (by decide) length _ id⟩
        intro hsame
        subst hsame
        simp [GrokProxy.hasClient, hx] at hno
      · next hclient =>
        obtain ⟨body, hbody, h⟩ := Except.bind_ok_iff.mp h
        unfold GrokProxy.redirectPacket at h
        obtain ⟨px', hpx', h⟩ := Except.bind_ok_iff.mp h
        rw [Option.some.inj ((proxy_ok hpx').symm.trans hpx)] at h
        cases hx : px.idToSock.lookup (UInt32.ofNat clientId) with
        | none => simp [GrokProxy.hasClient, hx] at hclient
        | some x =>
          rw [hx] at h
          cases h
          refine .single (.delivered p px.toTunnel _ x length bytes body ht
            (hw.server_initiator hu hserver ht) hx ?_ hid.symm)
          rw [Action.packet_message, if_pos ⟨Nat.lt_of_not_le hlong, hid.symm⟩]
          rw [hreader] at hbody
          simp only [BufferReader.slice] at hbody
          split at hbody
          · exact Except.ok.inj hbody
          · cases hbody

end FreeGrok

/-! ### Closing a connection -/

section
variable {env : Env} {w w' : World} {x : SockT} {o : ObserverPtr}

/-- What `force_disconnect` does to a linked client once its observer was told. -/
theorem left_of_unlink
    (h : (do
      let w ← Loop.unlinkClient x o true (Loop.removeQueues x w)
      pure (tcpClose x (Selector.remove x w))) = .ok w') :
    ∃ b, w.names.base o = some b ∧ w' = w.left x o b := by
  obtain ⟨w2, hunlink, h⟩ := Except.bind_ok_iff.mp h
  cases h
  unfold Loop.unlinkClient at hunlink
  simp only [if_true] at hunlink
  obtain ⟨b, hb, hunlink⟩ := Except.bind_ok_iff.mp hunlink
  cases hunlink
  exact ⟨b, FreeGrok.observer_ok hb, rfl⟩

/-- A linked client leaves its observer without a word to it. -/
theorem forceDisconnect_left {depth : Nat} (hl : w.linkedClients.lookup x = some o)
    (h : Loop.forceDisconnectAt env (depth + 1) x true false w = .ok w') :
    ∃ b, w.names.base o = some b ∧ w' = w.left x o b := by
  unfold Loop.forceDisconnectAt at h
  simp only [hl] at h
  exact left_of_unlink h

/-- A linked client leaves its observer after the observer was told. -/
theorem forceDisconnect_told (depth : Nat) (hl : w.linkedClients.lookup x = some o)
    (h : Loop.forceDisconnectAt env (depth + 1) x true true w = .ok w') :
    ∃ w1 b, onDisconnectWith env (Loop.removeObserverWith env
        fun client => Loop.forceDisconnectAt env depth client false false) o x w = .ok w1 ∧
      w1.names.base o = some b ∧ w' = w1.left x o b := by
  unfold Loop.forceDisconnectAt at h
  simp only [hl] at h
  obtain ⟨w1, hcall, h⟩ := Except.bind_ok_iff.mp h
  obtain ⟨b, hb, rfl⟩ := left_of_unlink h
  exact ⟨w1, b, hcall, hb, rfl⟩

/-- A client of an observer that is removed is detached. -/
theorem forceDisconnect_detached {depth : Nat} (hl : w.linkedClients.lookup x = some o) :
    Loop.forceDisconnectAt env (depth + 1) x false false w = .ok (w.detached x) := by
  unfold Loop.forceDisconnectAt
  simp only [hl]
  rfl

/-- A descriptor that is neither linked nor observed is left alone. -/
theorem forceDisconnect_unknown (env : Env) (depth : Nat) {erase call : Bool}
    (hl : w.linkedClients.lookup x = none) (ho : w.observers.lookup x = none) :
    Loop.forceDisconnectAt env (depth + 1) x erase call w = .ok w := by
  unfold Loop.forceDisconnectAt
  simp only [hl, ho]
  rfl

end

namespace FreeGrok
variable {env : Env} {os : Os} {P : Terms} {w w' : World} {A : SockT}

/-! ### GROK_DISCONNECT -/

theorem disconnectTarget_eq {u : User} {p : Ptr} {px : GrokProxy} {bytes : Bytes}
    (hu : w.names.user A = some u) (hserver : u.server = some p)
    (hp : w.proxies.lookup p = some px) :
    disconnectTarget w A grokDisconnect cIdSize (some bytes) =
      px.idToSock.lookup (UInt32.ofNat (ByteBuffer.value (bytes.take cIdSize))) := by
  have hu : w.users.lookup A = some u := hu
  simp [disconnectTarget, guard, hu, hserver, hp]

theorem disconnectClient_eq {p : Ptr} {px : GrokProxy} {id : CIdT} {x : SockT}
    (hp : w.proxies.lookup p = some px) (hx : px.idToSock.lookup id = some x) :
    GrokProxy.disconnectClient env p id w =
      Loop.forceDisconnect env x true false (w.untabled x p px id) := by
  simp only [GrokProxy.disconnectClient, GrokProxy.unlinkClient, proxy_eq hp, hx, bind, Except.bind,
    pure, Except.pure, if_true]
  rfl

/-- A client that is out of its proxy's tables is closed, if the loop still knows it. -/
theorem forceDisconnect_untabled (hw : w.names.Wf) {p : Ptr} {px : GrokProxy} {id : CIdT} {x : SockT}
    (hp : w.proxies.lookup p = some px) (hx : px.idToSock.lookup id = some x)
    (h : Loop.forceDisconnect env x true false (w.untabled x p px id) = .ok w') :
    (∃ o b, w.names.linked x = some o ∧ w.names.base o = some b ∧
      w' = (w.untabled x p px id).left x o b) ∨
    w.names.linked x = none ∧ w' = w.untabled x p px id := by
  have h : Loop.forceDisconnectAt env (3 + 1) x true false (w.untabled x p px id) = .ok w' := h
  cases hlink : w.linkedClients.lookup x with
  | some o =>
    obtain ⟨b, hb, rfl⟩ := forceDisconnect_left (w := w.untabled x p px id) hlink h
    rw [World.names_untabled w x hp] at hb
    exact .inl ⟨o, b, hlink, hb, rfl⟩
  | none =>
    have hunobserved : w.observers.lookup x = none := by
      by_cases hne : x = -1
      · subst hne
        exact hw.observer_neg
      · have ht := (World.proxy_names hp).1
        exact hw.sock_unobserved ht (hw.id_sock ht hx hne) hne
    have hsame := (forceDisconnect_unknown (w := w.untabled x p px id) _ _ hlink
      hunobserved).symm.trans h
    exact .inr ⟨hlink, (Except.ok.inj hsame).symm⟩

theorem untabled_commands (hw : w.names.Wf) {p : Ptr} {px : GrokProxy} {id : CIdT} {x : SockT}
    {bytes : Bytes} (hp : w.proxies.lookup p = some px) (hA : px.initiator = A)
    (hx : px.idToSock.lookup id = some x)
    (hid : ByteBuffer.value (bytes.take cIdSize) = id.toNat) (hdrop : P.drop x (w.view x))
    (h : Loop.forceDisconnect env x true false
      ((w.log (.message A grokDisconnect cIdSize (some bytes))).untabled x p px id) = .ok w') :
    Commands env P A w [.message grokDisconnect cIdSize bytes] w' := by
  obtain ⟨o, b, hlink, hb, rfl⟩ | ⟨hlink, rfl⟩ :=
    forceDisconnect_untabled (w := w.log (.message A grokDisconnect cIdSize (some bytes))) hw hp hx h
  · exact .single (.dropped p px id x o b bytes hp hA hx hid hlink hb hdrop)
  · exact .single (.untabled p px id x bytes hp hA hx hid hlink)

/-- How a GROK_DISCONNECT frame ends: it is refused, or it has a target, which is taken out of the
tables and closed. -/
inductive Disconnected (env : Env) (A : SockT) (length : Nat) (buffer : Option Bytes) (w : World) :
    World → Prop where
  | refused (code : UInt8) : code ≠ decompressionError → code ≠ tooLongBuffer →
      disconnectTarget w A grokDisconnect length buffer = none →
      Disconnected env A length buffer w (FStreamer.sendError env A code w)
  | closed (u : User) (p : Ptr) (px : GrokProxy) (bytes : Bytes) (id : CIdT) (x : SockT)
      {w' : World} : w.names.user A = some u → u.server = some p →
      w.proxies.lookup p = some px → length = cIdSize → buffer = some bytes →
      ByteBuffer.value (bytes.take cIdSize) = id.toNat → px.idToSock.lookup id = some x →
      Loop.forceDisconnect env x true false (w.untabled x p px id) = .ok w' →
      Disconnected env A length buffer w w'

theorem disconnect_disconnected {length : Nat} {buffer : Option Bytes}
    (h : disconnect env A length { buffer } w = .ok w') : Disconnected env A length buffer w w' := by
  unfold disconnect at h
  split at h
  · next hserver =>
    cases h
    refine .refused _ (by decide) (by decide) (Option.eq_none_iff_forall_ne_some.mpr fun x hx => ?_)
    obtain ⟨u, p, _, _, hu, hs, _⟩ := disconnectTarget_spec hx
    have hyes : hasServer w A = true := hasServer_iff.mpr ⟨u, p, hu, hs⟩
    rw [hyes] at hserver
    cases hserver
  · split at h
    · next hlength =>
      cases h
      refine .refused _ (by decide) (by decide) ?_
      simp [disconnectTarget, guard, hlength]
    · next hlength =>
      have hlength : length = cIdSize := not_not.mp hlength
      obtain ⟨⟨clientId, reader⟩, hread, hrest⟩ := Except.bind_ok_iff.mp h
      obtain ⟨bytes, rfl, _, hvalue, -, hid⟩ := read_id hread
      obtain ⟨p, hp, hrest⟩ := Except.bind_ok_iff.mp hrest
      obtain ⟨u, hu, hserver⟩ := server_ok hp
      obtain ⟨px, hpx, h⟩ := Except.bind_ok_iff.mp hrest
      have hlookup : w.proxies.lookup p = some px := proxy_ok hpx
      cases hx : px.idToSock.lookup (UInt32.ofNat clientId) with
      | none =>
        rw [if_pos (by simp [GrokProxy.hasClient, hx])] at h
        cases h
        refine .refused _ (by decide) (by decide) ?_
        rw [hlength, disconnectTarget_eq hu hserver hlookup, ← hvalue, hx]
      | some x =>
        rw [if_neg (by simp [GrokProxy.hasClient, hx])] at h
        have h : GrokProxy.disconnectClient env p (UInt32.ofNat clientId) w = .ok w' := h
        rw [disconnectClient_eq hlookup hx] at h
        exact .closed u p px bytes _ x hu hserver hlookup hlength rfl hid.symm hx h

theorem disconnect_commands (hw : w.names.Wf) {length : Nat}
    {buffer : Option Bytes}
    (hd : ∀ x, disconnectTarget w A grokDisconnect length buffer = some x → P.drop x (w.view x))
    (h : disconnect env A length { buffer } (w.log (.message A grokDisconnect length buffer)) =
      .ok w') : Commands env P A w [.message grokDisconnect length (buffer.getD [])] w' := by
  cases disconnect_disconnected h with
  | refused code hfailed hlong hnone =>
    refine .head (undismissed_command env grokDisconnect length buffer (by decide) (by decide) ?_)
      (error_commands code hfailed hlong)
    intro u p t id x hu hs ht hx hdismisses
    cases buffer with
    | none => exact hdismisses
    | some bytes =>
      obtain ⟨-, rfl, hid⟩ := hdismisses
      obtain ⟨px, hp, rfl⟩ := Option.map_eq_some_iff.mp ht
      have htarget := @disconnectTarget_eq _ _ _ _ _ bytes hu hs hp
      rw [hid, UInt32.ofNat_toNat, hx] at htarget
      cases hnone.symm.trans htarget
  | closed u p px bytes id x hu hs hp hlength hbuffer hid hx hforce =>
    subst hlength hbuffer
    have hu : w.names.user A = some u := hu
    have hp : w.proxies.lookup p = some px := hp
    refine untabled_commands hw hp (hw.server_initiator hu hs (World.proxy_names hp).1) hx hid
      (hd x ?_) hforce
    rw [disconnectTarget_eq hu hs hp, hid, UInt32.ofNat_toNat, hx]

/-! ### GROK_AUTH -/

/-- The comparison is with the front of the payload. -/
theorem memcmpMagic_spec {buffer : Option Bytes} {same : Bool}
    (h : memcmpMagic env { buffer } = .ok same) :
    same = true ↔ (buffer.getD []).take env.magic.length = env.magic := by
  unfold memcmpMagic at h
  split at h
  · next hzero =>
    cases h
    simp [List.eq_nil_of_length_eq_zero hzero]
  · obtain ⟨bytes, hslice, h⟩ := Except.bind_ok_iff.mp h
    cases h
    cases buffer with
    | none => cases hslice
    | some buffer =>
      simp only [BufferReader.slice, List.drop_zero] at hslice
      split at hslice
      · cases hslice
        simp
      · cases hslice

theorem auth_commands {length : Nat}
    {buffer : Option Bytes}
    (h : auth env A length { buffer } (w.log (.message A grokAuth length buffer)) = .ok w') :
    Commands env P A w [.message grokAuth length (buffer.getD [])] w' := by
  have hrefused (hno : ¬(length = env.magic.length ∧
      (buffer.getD []).take env.magic.length = env.magic)) :
      Commands env P A w [.message grokAuth length (buffer.getD [])]
        (w.log (.message A grokAuth length buffer)) := by
    refine .single (.message _ length buffer ?_ fun _ _ _ id _ _ _ _ _ =>
      ⟨message_packet (by decide) length buffer id, message_dismisses (by decide) length buffer id⟩)
    rw [Action.authorisation, if_neg]
    intro hparts
    obtain ⟨-, hlength, hmagic⟩ := hparts
    exact hno ⟨hlength, hlength ▸ hmagic⟩
  unfold auth at h
  split at h
  · next hlength =>
    cases h
    exact hrefused fun hyes => hlength hyes.1
  · next hlength =>
    obtain ⟨same, hsame, h⟩ := Except.bind_ok_iff.mp h
    have hsame := memcmpMagic_spec hsame
    split at h
    · next hyes =>
      cases h
      refine .single (.granted _ length buffer ?_)
      rw [Action.authorisation, if_pos]
      · simp
      · exact ⟨rfl, not_not.mp hlength, by rw [not_not.mp hlength]; exact hsame.mp hyes⟩
    · next hno =>
      cases h
      exact hrefused fun hyes => hno (hsame.mpr hyes.2)

/-- **What a frame does** is a sequence of the commands' effects. -/
theorem processMessage_commands (hw : w.names.Wf) (hA : A ≠ -1) (hos : os.Fresh w.toRegistry)
    {type : UInt8} {length : Nat} {buffer : Option Bytes}
    (hd : ∀ x, disconnectTarget w A type length buffer = some x → P.drop x (w.view x))
    (h : processMessage env os type length A buffer w = .ok w') :
    Commands env P A w [.message type length (buffer.getD [])] w' := by
  unfold processMessage at h
  dsimp only at h
  split at h
  · next htype =>
    subst htype
    cases h
    exact .head (message_command _ _ _ _ (by decide) (by decide) (by decide))
      (.single (.replied _ _ ⟨by decide, by decide, by decide⟩ rfl))
  · split at h
    · next htype =>
      subst htype
      exact .head (message_command _ _ _ _ (by decide) (by decide) (by decide))
        (createServer_commands (w := w.log _) hA hos h)
    · split at h
      · next htype =>
        subst htype
        exact packet_commands hw h
      · split at h
        · next htype =>
          subst htype
          exact disconnect_commands hw hd h
        · split at h
          · next htype =>
            subst htype
            exact auth_commands h
          · next hpacket hdisconnect hauth =>
            have hmessage := message_command (P := P) (w := w) (A := A) env type length
              buffer hauth hpacket hdisconnect
            split at h <;> cases h <;>
              exact .head hmessage
                (.single (.replied _ _ ⟨by decide, by decide, by decide⟩ rfl))

end FreeGrok

/-! ### Frames for an id -/

section
variable {env : Env} {os : Os} {w : World} {A : SockT} {u : User} {p : Ptr} {px : GrokProxy}
  {bytes : Bytes}

/-- Reading the id at the front of a payload. -/
theorem BufferReader.read_front (h : cIdSize ≤ bytes.length) :
    BufferReader.read { buffer := some bytes } cIdSize =
      .ok (ByteBuffer.value (bytes.take cIdSize), { buffer := some bytes, offset := cIdSize }) := by
  have hslice : BufferReader.slice { buffer := some bytes } cIdSize = .ok (bytes.take cIdSize) := by
    simp [slice, h]
  have hvalue : ByteBuffer.bytesToInt cIdSize (fun i => (bytes.take cIdSize).getD i 0) .LITTLE =
      ByteBuffer.value (bytes.take cIdSize) :=
    ByteBuffer.bytesToInt_little cIdSize _ (by decide) (by simpa using h)
  refine Except.bind_ok_iff.mpr ⟨_, hslice, ?_⟩
  rw [hvalue]
  rfl

namespace FreeGrok

/-- `gather_user(fd).server` of a user that has one. -/
theorem server_eq (hu : w.names.user A = some u) (hs : u.server = some p) : server A w = .ok p := by
  unfold server
  rw [World.gatherUser_fst, hu, Option.getD_some, hs]
  rfl

/-- The client that a frame with an id at its front is for. -/
def addressee (px : GrokProxy) (bytes : Bytes) : Option SockT :=
  px.idToSock.lookup (UInt32.ofNat (ByteBuffer.value (bytes.take cIdSize)))

/-- A GROK_PACKET frame goes to the client that has the id. -/
theorem packet_eq (hu : w.names.user A = some u) (hs : u.server = some p)
    (hp : w.proxies.lookup p = some px) (hlen : cIdSize < bytes.length) :
    packet env A bytes.length { buffer := some bytes } w =
      .ok (match addressee px bytes with
        | some x => Loop.send x (bytes.drop cIdSize) w
        | none => FStreamer.sendError env A noSuchClient w) := by
  have hserver : hasServer w A = true := hasServer_iff.mpr ⟨u, p, hu, hs⟩
  unfold packet
  rw [if_neg (by simp [hserver]), if_neg (Nat.not_le.mpr hlen)]
  refine Except.bind_ok_iff.mpr ⟨_, BufferReader.read_front (Nat.le_of_lt hlen), ?_⟩
  refine Except.bind_ok_iff.mpr ⟨p, server_eq hu hs, ?_⟩
  refine Except.bind_ok_iff.mpr ⟨px, proxy_eq hp, ?_⟩
  unfold addressee
  cases hx : px.idToSock.lookup (UInt32.ofNat (ByteBuffer.value (bytes.take cIdSize))) with
  | none =>
    rw [if_pos (by simp [GrokProxy.hasClient, hx])]
    rfl
  | some x =>
    rw [if_neg (by simp [GrokProxy.hasClient, hx])]
    have hbody : BufferReader.slice { buffer := some bytes, offset := cIdSize }
        (bytes.length - cIdSize) = .ok (bytes.drop cIdSize) := by
      have hle : cIdSize + (bytes.length - cIdSize) ≤ bytes.length := by omega
      have hall : (bytes.drop cIdSize).length ≤ bytes.length - cIdSize := by simp
      simp only [BufferReader.slice]
      rw [if_pos hle, List.take_of_length_le hall]
    refine Except.bind_ok_iff.mpr ⟨_, hbody, ?_⟩
    refine Except.bind_ok_iff.mpr ⟨px, proxy_eq hp, ?_⟩
    rw [hx]
    rfl

/-- A GROK_DISCONNECT frame takes the client that has the id out of the tables and closes it. -/
theorem disconnect_eq (hu : w.names.user A = some u) (hs : u.server = some p)
    (hp : w.proxies.lookup p = some px) (hlen : bytes.length = cIdSize) :
    disconnect env A bytes.length { buffer := some bytes } w =
      match addressee px bytes with
      | some x => Loop.forceDisconnect env x true false
          (w.untabled x p px (UInt32.ofNat (ByteBuffer.value (bytes.take cIdSize))))
      | none => .ok (FStreamer.sendError env A noSuchClient w) := by
  have hserver : hasServer w A = true := hasServer_iff.mpr ⟨u, p, hu, hs⟩
  have hread := BufferReader.read_front (Nat.le_of_eq hlen.symm)
  unfold disconnect addressee
  rw [if_neg (by simp [hserver]), if_neg (not_not.mpr hlen), hread]
  simp only [bind, Except.bind, server_eq hu hs, proxy_eq hp, pure, Except.pure]
  cases hx : px.idToSock.lookup (UInt32.ofNat (ByteBuffer.value (bytes.take cIdSize))) with
  | none => rw [if_pos (by simp [GrokProxy.hasClient, hx])]
  | some x =>
    rw [if_neg (by simp [GrokProxy.hasClient, hx])]
    exact disconnectClient_eq hp hx

theorem processMessage_packet (length : Nat) (buffer : Option Bytes) :
    processMessage env os grokPacket length A buffer w =
      packet env A length { buffer } (w.log (.message A grokPacket length buffer)) := rfl

theorem processMessage_disconnect (length : Nat) (buffer : Option Bytes) :
    processMessage env os grokDisconnect length A buffer w =
      disconnect env A length { buffer } (w.log (.message A grokDisconnect length buffer)) := rfl

end FreeGrok

end

end OpenGrok
