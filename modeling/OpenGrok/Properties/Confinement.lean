import OpenGrok.Loop.Outcome
import OpenGrok.Properties.Readiness
import OpenGrok.Properties.Returning

/-! What may end the isolation of tunnels.

Whatever a handler that returns has done is isolated, and an exception ends the process. But a
listener that gets no port leaves its owner's record with a pointer to a proxy that was deleted,
and the owner's next GROK_PACKET or GROK_DISCONNECT goes through it, to whatever is there by
then; and a captured read that fails is copied all the same. Nothing else is undefined. -/
namespace OpenGrok

/-- An exception, which nothing catches. -/
def Fault.Thrown : Fault → Prop
  | .outOfRange | .emptyRead | .emptyWrite | .sysError | .noObservers => True
  | .overrun | .undefined | .nesting => False

/-- Everything but what belongs to the main connection is as it was, or the process has ended. What
is undefined may leave anything. -/
def LeavesIsolated (A : SockT) (w : World) : Except Fault World → Prop
  | .ok w' => Isolated A w w' ∧ ReaderKept A w w'
  | .error e => e.Thrown

namespace FreeGrok

/-- The user's record points to a proxy that was deleted. -/
def Dangles (A : SockT) (w : World) : Prop :=
  ∃ p ∈ (w.users.lookup A).bind User.server, w.proxies.lookup p = none

instance (A : SockT) (w : World) : Decidable (Dangles A w) :=
  inferInstanceAs (Decidable (∃ p ∈ (w.users.lookup A).bind User.server, w.proxies.lookup p = none))

/-- A frame that the user's proxy is asked about, if he has one. -/
def AsksServer (type : UInt8) (length : Nat) : Prop :=
  type = grokPacket ∧ cIdSize < length ∨ type = grokDisconnect ∧ length = cIdSize

instance (type : UInt8) (length : Nat) : Decidable (AsksServer type length) :=
  inferInstanceAs (Decidable (_ ∨ _))

end FreeGrok

/-- The event gets to the captured read of a client, and `tcp_recv` returns -1. -/
def Loop.CaptureFails (os : Os) (ev : Event) (w : World) : Prop :=
  ev.reads = true ∧ w.linkedClients.lookup ev.fd ≠ none ∧ (w.gatherQueue ev.fd).read ≠ [] ∧
    (ev.events.epollout = true →
      (w.gatherQueue ev.fd).write ≠ [] ∧ writeFails os ev.fd w = false) ∧
    os.received redirBufSize = -1

section
variable {env : Env} {os : Os} {w w' : World} {A fd : SockT} {p : Ptr} {px : GrokProxy}
  {type : UInt8} {length : Nat} {buffer : Option Bytes}

theorem LeavesIsolated.of_only {x : Except Fault World} (hthrown : Except.Only Fault.Thrown x)
    (hok : ∀ w', x = .ok w' → Isolated A w w' ∧ ReaderKept A w w') : LeavesIsolated A w x := by
  cases x with
  | error e => exact hthrown e rfl
  | ok w' => exact hok w' rfl

theorem LeavesIsolated.of_event {x : Except Fault (Bool × World)}
    (hthrown : Except.Only Fault.Thrown x)
    (hok : ∀ broke w', x = .ok (broke, w') → Isolated A w w' ∧ ReaderKept A w w') :
    LeavesIsolated A w (x.map Prod.snd) := by
  cases x with
  | error e => exact hthrown e rfl
  | ok handled => exact hok handled.1 handled.2 rfl

theorem NoFault.thrown {α : Type} {x : Except Fault α} (h : NoFault x) :
    Except.Only Fault.Thrown x :=
  h.mono fun _ => False.elim

/-! ### Frames -/

namespace FreeGrok

theorem dangles_of_broken (h : w.names.standing A = .broken) : Dangles A w := by
  unfold Names.standing at h
  split at h
  · cases h
  · next p hp =>
    split at h
    · next ht => exact ⟨p, hp, Option.map_eq_none_iff.mp ht⟩
    · cases h

/-- A frame that is for a client goes through the pointer of the user's record. -/
theorem dangling_undefined (h : Dangles A w) (hasks : AsksServer type length)
    (hsize : (buffer.getD []).length = length) :
    processMessage env os type length A buffer w = .error .undefined := by
  obtain ⟨p, hp, hgone⟩ := h
  obtain ⟨u, hu, hs⟩ := Option.bind_eq_some_iff.mp hp
  have hproxy (v : World) (hv : v.toRegistry = w.toRegistry) : v.proxy p = .error .undefined := by
    rw [hv]
    simp only [Registry.proxy, hgone]
  have hserver (v : World) (hv : v.toRegistry = w.toRegistry) :
      hasServer v A = true ∧ server A v = .ok p := by
    have hu : v.names.user A = some u := by
      rw [hv]
      exact hu
    exact ⟨hasServer_iff.mpr ⟨u, p, hu, hs⟩, server_eq hu hs⟩
  rcases hasks with ⟨rfl, hlen⟩ | ⟨rfl, hlen⟩
  · obtain ⟨bytes, rfl, rfl⟩ := payload_some hsize (by omega)
    obtain ⟨hyes, hok⟩ := hserver (w.log (.message A grokPacket bytes.length (some bytes))) rfl
    rw [processMessage_packet]
    unfold packet
    rw [if_neg (by simp [hyes]), if_neg (Nat.not_le.mpr hlen),
      BufferReader.read_front (Nat.le_of_lt hlen)]
    simp only [bind, Except.bind, hok, hproxy (w.log _) rfl]
  · obtain ⟨bytes, rfl, rfl⟩ := payload_some hsize (by rw [hlen]; decide)
    obtain ⟨hyes, hok⟩ := hserver (w.log (.message A grokDisconnect bytes.length (some bytes))) rfl
    rw [processMessage_disconnect]
    unfold disconnect
    rw [if_neg (by simp [hyes]), if_neg (not_not.mpr hlen),
      BufferReader.read_front (Nat.le_of_eq hlen.symm)]
    simp only [bind, Except.bind, hok, hproxy (w.log _) rfl]

/-- **A frame that does not follow a pointer to a deleted proxy** returns or throws. -/
theorem processMessage_thrown (hw : w.names.Wf) (hsize : (buffer.getD []).length = length)
    (hdangles : ¬(Dangles A w ∧ AsksServer type length)) :
    Except.Only Fault.Thrown (processMessage env os type length A buffer w) := by
  have hunbroken (hasks : AsksServer type length) : w.names.standing A ≠ .broken :=
    fun hbroken => hdangles ⟨dangles_of_broken hbroken, hasks⟩
  have hcreate : Except.Only Fault.Thrown
      (createServer env os A length { buffer } (w.log (.message A type length buffer))) := by
    refine (createServer_throws hsize).mono fun e he => ?_
    rw [he.1]
    trivial
  unfold processMessage
  refine .ite (fun _ => .pure _) fun _ => ?_
  refine .ite (fun _ => hcreate) fun _ => .ite (fun htype => ?_) fun _ =>
    .ite (fun htype => ?_) fun _ => .ite (fun _ => (auth_runs hsize).thrown) fun _ =>
      .ite (fun _ => .pure _) fun _ => .pure _
  · by_cases hlen : length ≤ cIdSize
    · exact .ite (fun _ => .pure _) fun _ => .ite (fun _ => .pure _) fun h => absurd hlen h
    · have hasks : AsksServer type length := .inl ⟨htype, Nat.lt_of_not_le hlen⟩
      exact (packet_runs (w := w.log _) (hunbroken hasks) hsize).thrown
  · by_cases hlen : length = cIdSize
    · have hasks : AsksServer type length := .inr ⟨htype, hlen⟩
      exact (disconnect_runs (w := w.log _) hw (hunbroken hasks) hsize).thrown
    · exact .ite (fun _ => .pure _) fun _ => .ite (fun _ => .pure _) fun h => absurd hlen h

end FreeGrok

/-! ### Events of a client -/

/-- A client whose read is captured is read, and what it sent is relayed. -/
theorem readClient_eq {t : Tunnel} {id : CIdT} (hw : w.Sound) (hfd : fd ≠ -1)
    (hl : w.names.linked fd = some (.grokProxy p)) (ht : w.names.tunnel p = some t)
    (hid : t.sockToId.lookup fd = some id) (hread : (w.gatherQueue fd).read ≠ []) :
    Loop.performReadQueue env os fd (.grokProxy p) w =
      match os.tcpRecv redirBufSize with
      | none => .error .undefined
      | some bytes => .ok (FreeGrok.sendPacket env t.initiator id bytes (w.log (.recv fd bytes))) := by
  obtain ⟨px, hp, rfl⟩ := Option.map_eq_some_iff.mp ht
  have hid : px.sockToId.lookup fd = some id := hid
  rcases (hw.views hfd).reads _ hl with hnil | ⟨item, hitem, hfits⟩
  · exact absurd hnil hread
  cases item with
  | read _ _ _ _ _ => exact hfits.elim
  | capture fd' pending =>
    obtain ⟨rfl, rfl⟩ := hfits
    have hqueue : (w.gatherQueue fd').read = [.capture fd' true] := hitem
    have hid : px.sockToId.lookup (ReadItem.capture fd' true).fd = some id := hid
    simp only [Loop.performReadQueue, hqueue, onReceived, GrokProxy.onReceived_eq,
      FreeGrok.proxy_eq hp, bind, Except.bind, hid]
    cases os.tcpRecv redirBufSize <;> rfl

/-- A write leaves the queued read where it was, unless it fails. -/
theorem written_read {ev : Loop.Event} (h : Loop.written os ev w = .ok w')
    (hread : (w'.gatherQueue ev.fd).read ≠ []) :
    (w.gatherQueue ev.fd).read ≠ [] ∧ (ev.events.epollout = true →
      (w.gatherQueue ev.fd).write ≠ [] ∧ Loop.writeFails os ev.fd w = false) := by
  unfold Loop.written at h
  split at h
  · next hout =>
    obtain ⟨front, rest, hq, _⟩ := performWriteQueue_spec h
    have hq : (w.gatherQueue ev.fd).write = front :: rest := hq
    rw [writeFails_spec h] at hread
    cases hfails : Loop.writeFails os ev.fd w with
    | true => exact absurd (by rw [hfails]; rfl) hread
    | false =>
      rw [hfails] at hread
      exact ⟨hread, fun _ => ⟨by rw [hq]; exact List.cons_ne_nil _ _, rfl⟩⟩
  · next hout =>
    cases h
    exact ⟨hread, fun h => absurd h hout⟩

theorem performWriteQueue_thrown (os : Os) (fd : SockT) (w : World) :
    Except.Only Fault.Thrown (Loop.performWriteQueue os fd w) := by
  by_cases hempty : (w.gatherQueue fd).write = []
  · rw [Loop.performWriteQueue_empty hempty]
    exact .error trivial
  · obtain ⟨w', hw'⟩ := Loop.performWriteQueue_ok os hempty
    exact .of_eq hw'

theorem written_thrown (os : Os) (ev : Loop.Event) (w : World) :
    Except.Only Fault.Thrown (Loop.written os ev w) :=
  .ite (fun _ => performWriteQueue_thrown os ev.fd w) fun _ => .ok w

/-- An event of a descriptor that the loop does not know ends in an empty queue, or in
`linked_clients.at`. -/
theorem handleEvent_unknown_thrown {ev : Loop.Event} (hob : w.observers.lookup ev.fd = none)
    (hl : w.linkedClients.lookup ev.fd = none) (hup : ev.hangsUp = false) :
    Except.Only Fault.Thrown (Loop.handleEvent env os ev w) := by
  have hread (v : World) (hv : v.toRegistry = w.toRegistry) :
      Except.Only Fault.Thrown (if ev.events.epollin then do
        return (false, ← Loop.readable env os ev.fd v) else return (false, v)) := by
    refine .ite (fun _ => .bind ?_ fun _ _ => .pure _) fun _ => .pure _
    unfold Loop.readable
    rw [hv]
    simp only [hob, hl]
    exact .error trivial
  have hhup : ¬(ev.events.epollhup || ev.events.epollrdhup) = true := by
    have h : (ev.events.epollhup || ev.events.epollrdhup) = false := hup
    simp [h]
  rw [Loop.handleEvent, if_neg hhup]
  by_cases hout : ev.events.epollout = true
  · simp only [if_pos hout, Loop.writable, hob]
    refine .bind (.bind (performWriteQueue_thrown os ev.fd w) fun _ _ => .pure _) fun _ hwritten => ?_
    obtain ⟨w1, hwrite, heq⟩ := Except.bind_ok_iff.mp hwritten
    cases heq
    exact hread w1 (performWriteQueue_frame hwrite).1
  · simp only [if_neg hout]
    exact hread w rfl

/-- **An event of a client** returns or throws, exactly if its captured read does not fail. -/
theorem client_defined (env : Env) (os : Os) {ev : Loop.Event} {t : Tunnel} {id : CIdT}
    (hw : w.Sound) (hfd : ev.fd ≠ -1) (ht : w.names.tunnel p = some t)
    (hid : t.sockToId.lookup ev.fd = some id) :
    (Loop.CaptureFails os ev w → Loop.handleEvent env os ev w = .error .undefined) ∧
      (¬Loop.CaptureFails os ev w → Except.Only Fault.Thrown (Loop.handleEvent env os ev w)) := by
  have hread {w1 : World} (hwritten : Loop.written os ev w = .ok w1)
      (hl : w.linkedClients.lookup ev.fd = some (.grokProxy p))
      (hne : (w1.gatherQueue ev.fd).read ≠ []) := by
    have hreg := Loop.written_registry hwritten
    exact @readClient_eq env os w1 ev.fd p t id (Loop.written_sound hw hfd hwritten) hfd
      (hreg ▸ hl) (hreg ▸ ht) hid hne
  have hob : w.observers.lookup ev.fd = none := hw.wf.sock_unobserved ht hid hfd
  constructor
  · intro ⟨hreads, hlinked, hqueue, hwrite, hreceived⟩
    have hflags : ev.hangsUp = false ∧ ev.events.epollin = true := by
      simpa [Loop.Event.reads] using hreads
    obtain ⟨o, hl⟩ := Option.ne_none_iff_exists'.mp hlinked
    obtain rfl := hw.wf.sock_linked ht hid hfd hl
    obtain ⟨w1, hwritten, hqueue1⟩ : ∃ w1, Loop.written os ev w = .ok w1 ∧
        (w1.gatherQueue ev.fd).read ≠ [] := by
      unfold Loop.written
      split
      · next hout =>
        obtain ⟨hne, hsends⟩ := hwrite hout
        obtain ⟨w1, hw1⟩ := Loop.performWriteQueue_ok os hne
        refine ⟨w1, hw1, ?_⟩
        rw [writeFails_spec hw1, hsends]
        exact hqueue
      · exact ⟨w, rfl, hqueue⟩
    rw [handleEvent_linked hw hfd hl hflags.1, hwritten]
    simp only [bind, Except.bind, hflags.2, if_true, hread hwritten hl hqueue1,
      Os.received_neg_iff.mp hreceived]
  · intro hno
    cases hup : ev.hangsUp with
    | true =>
      have hhup : (ev.events.epollhup || ev.events.epollrdhup) = true := hup
      unfold Loop.handleEvent
      rw [if_pos hhup]
      exact .bind (Loop.hangUp_runs hw hfd ht hid).thrown fun _ _ => .pure _
    | false =>
      cases hl : w.linkedClients.lookup ev.fd with
      | none => exact handleEvent_unknown_thrown hob hl hup
      | some o =>
        obtain rfl := hw.wf.sock_linked ht hid hfd hl
        rw [handleEvent_linked hw hfd hl hup]
        refine .bind (written_thrown os ev w) fun w1 hwritten => .ite (fun hin => ?_) fun _ => .pure _
        refine .bind ?_ fun _ _ => .pure _
        by_cases hempty : (w1.gatherQueue ev.fd).read = []
        · rw [Loop.performReadQueue_empty hempty]
          exact .error trivial
        · rw [hread hwritten hl hempty]
          cases hrecv : os.tcpRecv redirBufSize with
          | some bytes => exact .ok _
          | none =>
            obtain ⟨hqueue, hwrite⟩ := written_read hwritten hempty
            refine absurd ⟨?_, ?_, hqueue, hwrite, Os.received_neg_iff.mpr hrecv⟩ hno
            · simp [Loop.Event.reads, hup, hin]
            · rw [hl]
              exact Option.some_ne_none _

end

/-! ### Runs -/

section
variable {env : Env} {l : Listeners} {s : Loop.State} {A : SockT} {os : Os}

/-- **Tunnels are isolated**, as long as `accept` gives descriptors, exactly if no pointer to a
deleted proxy is followed and no captured read fails. What a main connection sends, and any event
of a client of its proxy, leaves every other connection as it is: no other main connection, no HTTP
client and no client of another owner is among what may change. -/
theorem tunnels_isolated (h : ReachableIf env l Loop.AcceptsOpen s) (hA : A ≠ -1)
    (hl : s.world.linkedClients.lookup A = some .freeGrok) (hos : os.Fresh s.world.toRegistry) :
    (∀ type length buffer, (buffer.getD []).length = length →
      (LeavesIsolated A s.world (FreeGrok.processMessage env os type length A buffer s.world) ↔
        ¬(FreeGrok.Dangles A s.world ∧ FreeGrok.AsksServer type length))) ∧
    (∀ ev broke w', ev.fd = A → ev.hangsUp = false →
      Loop.handleEvent env os ev s.world = .ok (broke, w') → Isolated A s.world w') ∧
    (∀ ev, ClientOf s.world A ev.fd → ev.fd ≠ -1 →
      (LeavesIsolated A s.world ((Loop.handleEvent env os ev s.world).map Prod.snd) ↔
        ¬Loop.CaptureFails os ev s.world)) ∧
    ∀ x, x ≠ -1 → x ≠ A → (s.world.linkedClients.lookup x = some .freeGrok ∨
        s.world.linkedClients.lookup x = some .httpInterface ∨
        ∃ B, B ≠ A ∧ ClientOf s.world B x) →
      ¬ClientOf s.world A x ∧ s.world.openSocks.lookup x ≠ none := by
  have hs := (Reachable.sound h).world
  have ha := Reachable.accepting h
  refine ⟨fun type length buffer hsize => ?_, ?_, fun ev hclient hfd => ?_,
    fun x hx _ hother => hs.apart hx hother⟩
  · refine ⟨fun hleaves hbad => ?_, fun hgood => ?_⟩
    · rw [FreeGrok.dangling_undefined hbad.1 hbad.2 hsize] at hleaves
      exact hleaves
    · exact .of_only (FreeGrok.processMessage_thrown hs.wf hsize hgood) fun w' hok =>
        processMessage_isolated hs hA ha hl hos hok
  · intro ev broke w' hsame
    subst hsame
    intro hup hevent
    exact main_isolated hs hA ha hl hos hup hevent
  · obtain ⟨p, t, id, ht, _, hid⟩ := clientOf_iff.mp hclient
    obtain ⟨hundefined, hthrown⟩ := client_defined env os hs hfd ht hid
    refine ⟨fun hleaves hbad => ?_, fun hgood => ?_⟩
    · rw [hundefined hbad] at hleaves
      exact hleaves
    · exact .of_event (hthrown hgood) fun _ _ hevent =>
        client_isolated hs hfd hl hclient hevent

/-- Two owners, 5 and 8; the proxy of 5 got no port and was deleted, and 7 is a client of the proxy of
8, under the id 0. -/
def danglingOwner : List Loop.Input :=
  [.readable 3 0, .accept 5, .readable 5 2,
    .handle { recv := .data [10, 0], socket := 6, getsockname := some 0 },
    .readable 3 0, .accept 8, .readable 8 4,
    .handle { recv := .data [10, 0], socket := 9, getsockname := some 8001 },
    .readable 9 5, .accept 7]

/-- What 8 sends about the id 0 of its own client is isolated there. -/
theorem tunnels_isolated_id :
    ∃ s, ReachableIf (.plain []) .plain Loop.AcceptsOpen s ∧
      s.world.linkedClients.lookup 8 = some .freeGrok ∧ ClientOf s.world 8 7 ∧
      LeavesIsolated 8 s.world (FreeGrok.processMessage (.plain []) {} grokDisconnect 4 8
        (some [0, 0, 0, 0]) s.world) ∧
      LeavesIsolated 8 s.world ((Loop.handleEvent (.plain []) { recv := .data [1] }
        ⟨7, { epollin := true }⟩ s.world).map Prod.snd) := by
  obtain ⟨s, hs, hl, hclient, hdangles⟩ := ReachableIf.exists_of_run
    (.plain []) .plain Loop.AcceptsOpen danglingOwner (fun s =>
      s.world.linkedClients.lookup 8 = some .freeGrok ∧
      (s.world.proxies.lookup 1).any (fun px => px.initiator = 8 ∧ px.sockToId.lookup 7 = some 0) ∧
      ¬FreeGrok.Dangles 8 s.world) (by decide +kernel) (by decide +kernel)
  obtain ⟨px, hpx, hfields⟩ := (Option.any_eq_true _ _).mp hclient
  obtain ⟨hi, hid⟩ := of_decide_eq_true hfields
  have hclient : ClientOf s.world 8 7 := ⟨1, px, hpx, hi, by simp [hid]⟩
  have hframe := @tunnels_isolated (.plain []) .plain s 8 {} hs (by decide) hl ⟨.inl rfl, .inl rfl⟩
  have hread := @tunnels_isolated (.plain []) .plain s 8 { recv := .data [1] } hs (by decide) hl
    ⟨.inl rfl, .inl rfl⟩
  refine ⟨s, hs, hl, hclient, (hframe.1 grokDisconnect 4 (some [0, 0, 0, 0]) rfl).mpr
    fun hbad => hdangles hbad.1, (hread.2.2.1 ⟨7, { epollin := true }⟩ hclient (by decide)).mpr
    fun hfails => ?_⟩
  exact absurd hfails.2.2.2.2 (by decide)

/-- What 5 sends about the id 0, which is a client of 8, goes through the pointer to the deleted
proxy. -/
theorem tunnels_isolated_dangling :
    ∃ s, ReachableIf (.plain []) .plain Loop.AcceptsOpen s ∧
      s.world.linkedClients.lookup 5 = some .freeGrok ∧ ClientOf s.world 8 7 ∧
      ∀ frame ∈ [(grokDisconnect, [0, 0, 0, 0]), (grokPacket, [0, 0, 0, 0, 9])],
        FreeGrok.processMessage (.plain []) {} frame.1 frame.2.length 5 (some frame.2) s.world =
            .error .undefined ∧
          ¬LeavesIsolated 5 s.world (FreeGrok.processMessage (.plain []) {} frame.1
            frame.2.length 5 (some frame.2) s.world) := by
  obtain ⟨s, hs, hl, hclient, hdangles⟩ := ReachableIf.exists_of_run
    (.plain []) .plain Loop.AcceptsOpen danglingOwner (fun s =>
      s.world.linkedClients.lookup 5 = some .freeGrok ∧
      (s.world.proxies.lookup 1).any (fun px => px.initiator = 8 ∧ px.sockToId.lookup 7 = some 0) ∧
      FreeGrok.Dangles 5 s.world) (by decide +kernel) (by decide +kernel)
  obtain ⟨px, hpx, hfields⟩ := (Option.any_eq_true _ _).mp hclient
  obtain ⟨hi, hid⟩ := of_decide_eq_true hfields
  refine ⟨s, hs, hl, ⟨1, px, hpx, hi, by simp [hid]⟩, fun frame hframe => ?_⟩
  have hasks : FreeGrok.AsksServer frame.1 frame.2.length := by
    revert frame
    decide
  have hundefined : FreeGrok.processMessage (.plain []) {} frame.1 frame.2.length 5 (some frame.2)
      s.world = .error .undefined := FreeGrok.dangling_undefined hdangles hasks rfl
  rw [hundefined]
  exact ⟨rfl, id⟩

end

end OpenGrok
