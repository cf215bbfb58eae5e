import OpenGrok.Loop.Faults
import OpenGrok.Loop.Invariants
import OpenGrok.Server.Ledger
import OpenGrok.Server.Trace

/-! Creation of a proxy, as a transaction.

A GROK_CREATE_SERVER frame should end with a listening proxy that the owner is told the port of, or
with an error that leaves everything as it was. It does so in two cases only: it is refused before a
proxy is made, or every call for the new listener succeeds and the kernel names a port
(`creations_whole`). A `SysError` of one of those calls is caught by no one. A port 0 is noticed, but
`remove_server` clears the pointer in a copy of the user's record, so the record keeps pointing to
the proxy that was deleted. -/
namespace OpenGrok

def Action.isFrame : Action → Bool
  | .frame .. => true
  | _ => false

/-- The one frame sent is this one. -/
def Replied (A : SockT) (type : UInt8) (payload : Bytes) (w w' : World) : Prop :=
  ∃ new, w'.trace = new ++ w.trace ∧ new.filter Action.isFrame = [.frame A type payload]

/-- Nothing was sent. -/
abbrev Silent : World → World → Prop := Grows fun a => a.isFrame = false

namespace FreeGrok

/-- `users[fd].server`. -/
def serverOf (w : World) (fd : SockT) : Option Ptr := (w.users.lookup fd).bind User.server

/-! ### The two ends of a creation -/

/-- The owner has the proxy, and was told its port. -/
structure Serving (os : Os) (fd : SockT) (p : Ptr) (px : GrokProxy) (w w' : World) : Prop where
  server : serverOf w' fd = some p
  live : w'.proxies.lookup p = some px
  registered : w'.observers.lookup px.socket = some (.grokProxy p)
  listening : os.getsockname = some px.listeningPort
  port : px.listeningPort ≠ 0
  reply : Replied fd grokCreateServer (ByteBuffer.encode 2 px.listeningPort.toNat) w w'

def Opened (os : Os) (fd : SockT) (w w' : World) : Prop := ∃ p px, Serving os fd p px w w'

/-- No user points to a proxy that was deleted. -/
def NoDangling (w : World) : Prop :=
  ∀ x p, serverOf w x = some p → w.proxies.lookup p ≠ none

/-- The owner was told of an error, and nothing came of the frame. -/
structure Refused (env : Env) (fd : SockT) (w w' : World) : Prop where
  reply : ∃ code, Replied fd grokError [code] w w'
  server : serverOf w' fd = serverOf w fd
  observers : w'.observers = w.observers
  proxies : w'.proxies = w.proxies
  idPool : w'.idPool = w.idPool
  unserved : hasServer w fd = false → hasServer w' fd = false
  pointers : NoDangling w'
  again : hasServer w fd = false → ∀ os port, listener os = some port → port ≠ 0 →
    Except.Returns (processMessage env os grokCreateServer 0 fd none w') (Opened os fd w')

/-- The frame was handled, with one end or the other. -/
def AllOrNothing (env : Env) (os : Os) (fd : SockT) (w : World) (result : Except Fault World) : Prop :=
  Except.Returns result fun w' => Opened os fd w w' ∨ Refused env fd w w'

/-- The frame asks for a port, and the user may. -/
def asksPort (w : World) (fd : SockT) (length : Nat) : Prop :=
  length = 2 ∧ ((w.users.lookup fd).getD {}).canSelectPort = true

/-- The frame is refused before a proxy is made and no user points to a deleted proxy, or every
system call for the proxy succeeds and the port it got is not 0. -/
def CreationHolds (os : Os) (w : World) (fd : SockT) (length : Nat) : Prop :=
  (hasServer w fd = true ∨ asksPort w fd length ∧ os.probeReuse = true ∧ os.probeBind = false) ∧
    NoDangling w ∨
  hasServer w fd = false ∧
    (asksPort w fd length → os.probeReuse = true ∧ os.probeBind = true) ∧
    ∃ port, listener os = some port ∧ port ≠ 0

end FreeGrok

/-! ### Replies -/

section
variable {env : Env} {A : SockT} {w v w' : World}

/-- A reply with no frame before or after it. -/
theorem Replied.of_silent {type : UInt8} {payload : Bytes} (before : Silent w v)
    (after : Silent (FStreamer.send env A type payload v) w') : Replied A type payload w w' := by
  obtain ⟨new, hnew, hquiet⟩ := before
  obtain ⟨chunks, hchunks, hqueued⟩ := FStreamer.send_grows env v A type payload
  obtain ⟨new', hnew', hquiet'⟩ := after
  have hnone : ∀ l : List Action, (∀ a ∈ l, a.isFrame = false) → l.filter Action.isFrame = [] :=
    fun l hl => List.filter_eq_nil_iff.mpr fun a ha => Bool.eq_false_iff.mp (hl a ha)
  refine ⟨new' ++ (chunks ++ .frame A type payload :: new), ?_, ?_⟩
  · rw [hnew', hchunks]
    simp [World.log, hnew]
  · have hchunk : ∀ a ∈ chunks, a.isFrame = false := fun a ha => by
      obtain ⟨bytes, rfl⟩ := hqueued a ha
      rfl
    rw [List.filter_append, List.filter_append, List.filter_cons, hnone _ hquiet', hnone _ hchunk,
      hnone _ hquiet]
    rfl

theorem Replied.type {type type' : UInt8} {payload payload' : Bytes}
    (h : Replied A type payload w w') (h' : Replied A type' payload' w w') : type = type' := by
  obtain ⟨new, hnew, hframes⟩ := h
  obtain ⟨new', hnew', hframes'⟩ := h'
  have hsame : new = new' := List.append_cancel_right (hnew.symm.trans hnew')
  rw [hsame, hframes'] at hframes
  cases hframes
  rfl

end

namespace FreeGrok
variable {env : Env} {os : Os} {A : SockT} {w w' : World} {length : Nat} {buffer : Option Bytes}

theorem serverOf_names (w : World) (fd : SockT) : serverOf w fd = (w.names.user fd).bind User.server :=
  rfl

theorem hasServer_serverOf : hasServer w A = (serverOf w A).isSome := by
  unfold hasServer serverOf
  cases w.users.lookup A <;> rfl

theorem serverOf_send (x : SockT) (type : UInt8) (payload : Bytes) :
    serverOf (FStreamer.send env A type payload w) x = serverOf w x := by
  simp only [serverOf, FStreamer.send_registry]

/-! ### The port that is asked for -/

/-- Nothing but the trace changed, and which users have a record. -/
structure Touched (w w1 : World) : Prop where
  serverOf : ∀ x, serverOf w1 x = serverOf w x
  observers : w1.observers = w.observers
  proxies : w1.proxies = w.proxies
  idPool : w1.idPool = w.idPool
  silent : Silent w w1

theorem Touched.log {a : Action} (h : a.isFrame = false) (w : World) : Touched w (w.log a) :=
  ⟨fun _ => rfl, rfl, rfl, rfl, .log h⟩

theorem Touched.trans {w1 w2 : World} (h : Touched w w1) (h' : Touched w1 w2) : Touched w w2 :=
  ⟨fun x => (h'.serverOf x).trans (h.serverOf x), h'.observers.trans h.observers,
    h'.proxies.trans h.proxies, h'.idPool.trans h.idPool, h.silent.trans h'.silent⟩

theorem Touched.hasServer {w1 : World} (h : Touched w w1) (x : SockT) :
    FreeGrok.hasServer w1 x = FreeGrok.hasServer w x := by
  rw [hasServer_serverOf, hasServer_serverOf, h.serverOf]

theorem touched_gather (A : SockT) (w : World) : Touched w (gatherUser A w).2 := by
  refine ⟨fun x => ?_, ?_, ?_, ?_, .of_eq (gatherUser_trace A w)⟩
  · rw [serverOf_names, serverOf_names, World.names_gatherUser]
    by_cases h : x = A
    · subst h
      simp only [Function.update_self]
      cases w.names.user x <;> rfl
    · simp [Function.update_of_ne h]
  all_goals
    unfold gatherUser
    split <;> rfl

variable (os A w) in
/-- The port the frame asks for is probed. -/
theorem targetPort_eq (hsize : (buffer.getD []).length = length) : ∃ n w1, Touched w w1 ∧
    (asksPort w A length → targetPort os A length { buffer } w =
      if os.probeReuse then .ok (if os.probeBind then some n else none, w1) else .error .sysError) ∧
    (¬asksPort w A length → targetPort os A length { buffer } w = .ok (some n, w1)) := by
  have huser : (gatherUser A w).1 = (w.users.lookup A).getD {} := w.gatherUser_fst A
  by_cases hlength : length = 2
  · by_cases hright : ((w.users.lookup A).getD {}).canSelectPort = true
    · have hread : ∃ value reader, BufferReader.read { buffer } 2 = .ok (value, reader) := by
        cases buffer with
        | none => exact absurd (hsize.trans hlength) (by decide)
        | some bytes =>
          have htwo : bytes.length = 2 := hsize.trans hlength
          refine ⟨_, _, Except.bind_ok_iff.mpr ⟨bytes, ?_, rfl⟩⟩
          simp [BufferReader.slice, htwo, List.take_of_length_le]
      obtain ⟨value, reader, hread⟩ := hread
      refine ⟨UInt16.ofNat value, (gatherUser A w).2, touched_gather A w, fun _ => ?_,
        fun hno => absurd ⟨hlength, hright⟩ hno⟩
      unfold targetPort tcpIsPortAvailable
      rw [if_pos hlength]
      simp only [huser, hright, if_true, hread]
      cases os.probeReuse <;> cases os.probeBind <;> rfl
    · refine ⟨0, (gatherUser A w).2, touched_gather A w, fun hyes => absurd hyes.2 hright, fun _ => ?_⟩
      unfold targetPort
      rw [if_pos hlength]
      simp only [huser, hright]
      rfl
  · refine ⟨0, w, ⟨fun _ => rfl, rfl, rfl, rfl, .refl w⟩, fun hyes => absurd hyes.1 hlength, fun _ => ?_⟩
    unfold targetPort
    rw [if_neg hlength]
    rfl

/-- A port is not available if the probe of it says so. -/
theorem targetPort_ok (hsize : (buffer.getD []).length = length) {port : Option UInt16} {w1 : World}
    (h : targetPort os A length { buffer } w = .ok (port, w1)) : Touched w w1 ∧
    (port = none → asksPort w A length ∧ os.probeReuse = true ∧ os.probeBind = false) ∧
    (port ≠ none → asksPort w A length → os.probeReuse = true ∧ os.probeBind = true) := by
  obtain ⟨n, w2, ht, hasks, hfree⟩ := targetPort_eq os A w hsize
  by_cases hask : asksPort w A length
  · rw [hasks hask] at h
    split at h
    · next hreuse =>
      cases h
      refine ⟨ht, fun hnone => ⟨hask, hreuse, ?_⟩, fun hsome _ => ⟨hreuse, ?_⟩⟩
      · cases hb : os.probeBind with
        | false => rfl
        | true => simp [hb] at hnone
      · cases hb : os.probeBind with
        | false => simp [hb] at hsome
        | true => rfl
    · cases h
  · rw [hfree hask] at h
    cases h
    exact ⟨ht, nofun, fun _ hyes => absurd hyes hask⟩

/-! ### How the frame ends -/

theorem processMessage_createServer (length : Nat) (buffer : Option Bytes) :
    processMessage env os grokCreateServer length A buffer w =
      createServer env os A length { buffer } (w.log (.message A grokCreateServer length buffer)) :=
  rfl

/-- A proxy is made if every call succeeds, and kept if it has a port. -/
theorem createServer_opens {reader : BufferReader} {n port : UInt16} {w1 : World}
    (hserver : hasServer w A = false) (hport : targetPort os A length reader w = .ok (some n, w1))
    (hl : listener os = some port) (hne : port ≠ 0) :
    createServer env os A length reader w = .ok (FStreamer.send env A grokCreateServer
      (ByteBuffer.encode 2 port.toNat) (w1.created A os.socket n port)) := by
  have hadd : Loop.addObserver os w1.nextProxy (linkServer A w1.nextProxy (newProxy os A n w1).2) =
      .ok (w1.created A os.socket n port) := by
    rw [addObserver_new (w := w1) (by rw [newProxy_eq]), hl]
  have hpx : (w1.created A os.socket n port).proxy w1.nextProxy = .ok {
      socket := os.socket, initiator := A, listeningPort := port } :=
    proxy_eq (by simp [World.created, World.observed, World.setProxy, Registry.setProxy])
  unfold createServer
  rw [hserver, hport]
  simp only [bind, Except.bind, Bool.false_eq_true, if_false]
  rw [show (newProxy os A n w1).1 = w1.nextProxy by rw [newProxy_eq], hadd]
  simp only [hpx, hne, if_false]
  rfl

/-- The proxy that was made serves the owner. -/
theorem opened_created {n port : UInt16} {w1 : World} (ht : Touched w w1) (hl : listener os = some port)
    (hne : port ≠ 0) : Opened os A w (FStreamer.send env A grokCreateServer
      (ByteBuffer.encode 2 port.toNat) (w1.created A os.socket n port)) := by
  have hname : os.getsockname = some port := by
    unfold listener at hl
    split at hl
    · exact hl
    · cases hl
  refine ⟨w1.nextProxy, { socket := os.socket, initiator := A, listeningPort := port }, ?_, ?_, ?_, hname,
    hne, .of_silent (ht.silent.trans (.created _ _ _ rfl)) (.refl _)⟩
  · rw [serverOf_send, serverOf_names, World.names_created]
    simp
  · simp [World.created, World.observed, World.setProxy, Registry.setProxy]
  · simp [World.created, World.observed]

/-- Where there was no server, a frame that asks for no port gets one. -/
theorem opened_again (hserver : hasServer w A = false) {port : UInt16} (hl : listener os = some port)
    (hne : port ≠ 0) : Except.Returns (processMessage env os grokCreateServer 0 A none w)
      (Opened os A w) := by
  have hlog := Touched.log (a := .message A grokCreateServer 0 none) rfl w
  obtain ⟨n, w1, ht, -, hport⟩ := targetPort_eq os A
    (w.log (.message A grokCreateServer 0 none))
    (show ((none : Option Bytes).getD []).length = 0 from rfl)
  rw [processMessage_createServer, createServer_opens ((hlog.hasServer A).trans hserver)
    (hport fun hasks => absurd hasks.1 (by decide)) hl hne]
  exact opened_created (hlog.trans ht) hl hne

/-- An error reply is all there is to a refusal. -/
theorem refused_of_error {w1 : World} (ht : Touched w w1) (hpointers : NoDangling w) (code : UInt8) :
    Refused env A w (FStreamer.sendError env A code w1) := by
  have hserver : ∀ x, serverOf (FStreamer.sendError env A code w1) x = serverOf w x := fun x =>
    (serverOf_send x grokError [code]).trans (ht.serverOf x)
  have hregistry : (FStreamer.sendError env A code w1).toRegistry = w1.toRegistry :=
    FStreamer.send_registry ..
  have hproxies : (FStreamer.sendError env A code w1).proxies = w.proxies := by
    rw [hregistry]
    exact ht.proxies
  have hno : hasServer w A = false → hasServer (FStreamer.sendError env A code w1) A = false := by
    rw [hasServer_serverOf, hasServer_serverOf, hserver]
    exact id
  refine ⟨⟨code, .of_silent ht.silent (.refl _)⟩, hserver A, ?_, hproxies, ?_, hno, ?_, ?_⟩
  · rw [hregistry]
    exact ht.observers
  · exact (FStreamer.send_pool ..).trans ht.idPool
  · intro x p hp
    rw [hserver] at hp
    rw [hproxies]
    exact hpointers x p hp
  · exact fun hnone os port hl hne => opened_again (hno hnone) hl hne

/-- What was refused without a dangling pointer had none before. -/
theorem noDangling_of_error {w1 : World} {code : UInt8} (ht : Touched w w1)
    (h : NoDangling (FStreamer.sendError env A code w1)) : NoDangling w := by
  intro x p hp
  have hproxies : (FStreamer.sendError env A code w1).proxies = w.proxies := by
    show (FStreamer.sendError env A code w1).toRegistry.proxies = _
    rw [FStreamer.sendError, FStreamer.send_registry]
    exact ht.proxies
  rw [← hproxies]
  refine h x p ?_
  rw [FStreamer.sendError, serverOf_send, ht.serverOf]
  exact hp

/-- An error is no CREATE_SERVER reply. -/
theorem not_opened_of_error {w1 : World} {code : UInt8} (ht : Silent w w1)
    (after : Silent (FStreamer.sendError env A code w1) w') : ¬Opened os A w w' := by
  intro ⟨p, px, h⟩
  exact absurd (h.reply.type (.of_silent ht after)) (by decide)

/-- A proxy that got no port is deleted, and the owner still points to it. -/
theorem dangling_discarded {n : UInt16} {w1 : World} :
    ¬NoDangling ((FStreamer.sendError env A internalServerError
      (w1.created A os.socket n 0)).deleted w1.nextProxy { socket := os.socket } []) := by
  intro hpointers
  have husers : ∀ (v : World) (p : Ptr) (b : IObserver), (v.deleted p b []).users = v.users := by
    intro v p b
    show (v.setObserver (.grokProxy p) { b with clients := ∅ }).users = v.users
    simp only [World.setObserver, Registry.setObserver]
    split <;> rfl
  refine hpointers A w1.nextProxy ?_ (AList.lookup_erase _ _)
  rw [serverOf, husers, ← serverOf, FStreamer.sendError, serverOf_send, serverOf_names,
    World.names_created]
  simp

end FreeGrok

section
open FreeGrok

/-- **Creation is all or nothing** exactly if the frame is refused before a proxy is made, or every
call for the new listener succeeds and the kernel names a port. -/
theorem creations_whole (env : Env) (os : Os) (fd : SockT) (w : World) {length : Nat}
    {buffer : Option Bytes} (hsize : (buffer.getD []).length = length) :
    AllOrNothing env os fd w (processMessage env os grokCreateServer length fd buffer w) ↔
      CreationHolds os w fd length := by
  have hlog := Touched.log (a := .message fd grokCreateServer length buffer) rfl w
  have hserver : hasServer (w.log (.message fd grokCreateServer length buffer)) fd = hasServer w fd :=
    rfl
  rw [processMessage_createServer]
  constructor
  · intro hwhole
    obtain ⟨w', hok, hends⟩ := Except.Returns.exists hwhole
    obtain ⟨hyes, rfl⟩ | ⟨hno, port, w1, hport, hmade⟩ := createServer_spec hok
    · rcases hends with hopened | hrefused
      · exact absurd hopened (not_opened_of_error hlog.silent (.refl _))
      · exact .inl ⟨.inl hyes, noDangling_of_error hlog hrefused.pointers⟩
    · obtain ⟨ht, hnone, hsome⟩ := targetPort_ok hsize hport
      have hall := hlog.trans ht
      obtain ⟨rfl, rfl⟩ | ⟨n, lport, rfl, hl, hmade⟩ := hmade
      · rcases hends with hopened | hrefused
        · exact absurd hopened (not_opened_of_error hall.silent (.refl _))
        · exact .inl ⟨.inr (hnone rfl), noDangling_of_error hall hrefused.pointers⟩
      · obtain ⟨rfl, rfl⟩ | ⟨hne, -⟩ := hmade
        · have hcreated : Silent w (w1.created fd os.socket n 0) :=
            hall.silent.trans (.created _ _ _ rfl)
          rcases hends with hopened | hrefused
          · exact absurd hopened (not_opened_of_error hcreated (.deleted _ _ _ nofun rfl))
          · exact absurd hrefused.pointers dangling_discarded
        · exact .inr ⟨hno, hsome nofun, lport, hl, hne⟩
  · obtain ⟨n, w1, ht, hasks, hfree⟩ := targetPort_eq os fd
      (w.log (.message fd grokCreateServer length buffer)) hsize
    have hall := hlog.trans ht
    intro hcase
    rcases hcase with ⟨hrefused, hpointers⟩ | ⟨hno, hask, port, hl, hne⟩
    · unfold createServer
      rw [hserver]
      cases hno : hasServer w fd with
      | true => exact .inr (refused_of_error hlog hpointers serverAlreadyCreated)
      | false =>
        rcases hrefused with hyes | ⟨hask, hreuse, htaken⟩
        · rw [hno] at hyes
          cases hyes
        · rw [hasks hask, hreuse, htaken]
          exact .inr (refused_of_error hall hpointers unavailablePort)
    · have hport : targetPort os fd length { buffer }
          (w.log (.message fd grokCreateServer length buffer)) = .ok (some n, w1) := by
        by_cases hasked : asksPort w fd length
        · rw [hasks hasked, (hask hasked).1, (hask hasked).2]
          rfl
        · exact hfree hasked
      rw [createServer_opens (hserver.trans hno) hport hl hne]
      exact .inl (opened_created hall hl hne)

/-- A main connection that has sent nothing yet. -/
def connected : List Loop.Input := [.readable 3 0, .accept 5]

/-- A `bind` that fails is not handled, and a listener without a port leaves a pointer to a proxy
that is no more. -/
theorem creations_whole_failed : ∃ s, Reachable (.plain []) .plain s ∧
    ¬AllOrNothing (.plain []) { socket := 6, bind := false } 5 s.world
      (processMessage (.plain []) { socket := 6, bind := false } grokCreateServer 0 5 none s.world) ∧
    ¬AllOrNothing (.plain []) { socket := 6, getsockname := some 0 } 5 s.world
      (processMessage (.plain []) { socket := 6, getsockname := some 0 } grokCreateServer 0 5 none
        s.world) := by
  obtain ⟨s, hs, hfails, hdangles⟩ := ReachableIf.exists_of_run (.plain []) .plain (fun _ _ => True)
    connected (fun s => ¬Except.Returns (processMessage (.plain []) { socket := 6, bind := false }
        grokCreateServer 0 5 none s.world) (fun _ => True) ∧
      Except.Returns (processMessage (.plain []) { socket := 6, getsockname := some 0 }
        grokCreateServer 0 5 none s.world) fun w' =>
          serverOf w' 5 = some 0 ∧ w'.proxies.lookup 0 = none)
    (by decide +kernel) (by decide +kernel)
  refine ⟨s, hs, fun hwhole => hfails ?_, fun hwhole => ?_⟩
  · obtain ⟨w', hok, -⟩ := Except.Returns.exists hwhole
    rw [hok]
    trivial
  · obtain ⟨w', hok, hserver, hgone⟩ := Except.Returns.exists hdangles
    rw [hok] at hwhole
    rcases hwhole with ⟨p, px, hopened⟩ | hrefused
    · have hzero : p = 0 := Option.some.inj (hopened.server.symm.trans hserver)
      subst hzero
      exact absurd (hopened.live.symm.trans hgone) nofun
    · exact hrefused.pointers 5 0 hserver hgone

theorem creations_whole_listening : ∃ s, Reachable (.plain []) .plain s ∧
    AllOrNothing (.plain []) { socket := 6, getsockname := some 8000 } 5 s.world
      (processMessage (.plain []) { socket := 6, getsockname := some 8000 } grokCreateServer 0 5 none
        s.world) := by
  obtain ⟨s, hs, hno⟩ := ReachableIf.exists_of_run (.plain []) .plain (fun _ _ => True)
    connected (fun s => hasServer s.world 5 = false) (by decide +kernel) (by decide +kernel)
  refine ⟨s, hs, (creations_whole (.plain []) _ 5 s.world (by rfl)).mpr ?_⟩
  exact .inr ⟨hno, fun hask => absurd hask.1 (by decide), 8000, by decide, by decide⟩

end

end OpenGrok
