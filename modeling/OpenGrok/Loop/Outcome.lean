import OpenGrok.Loop.Invariants
import OpenGrok.Server.Trace

/-! The worlds that events leave.

`handleEvent_handled` says what an event is made of; here is the world it leaves, one
case for each kind of descriptor and flag. What happens beside the descriptor of the
event is read off these: an event that is no frame of a main connection sends nobody a
reply and hears nothing but its own descriptor (`Outcome.grows`). -/
namespace OpenGrok

section
variable {env : Env} {os : Os} {w w' : World} {fd : SockT}

/-! ### Hanging up -/

/-- What a HUP or RDHUP leaves. -/
inductive HungUp (env : Env) (fd : SockT) (w : World) : World → Prop where
  | nobody : w.names.linked fd = none → HungUp env fd w w
  | listener : w.names.observer fd = some .httpInterface → w.names.linked fd = none →
      HungUp env fd w (HttpInterface.onDisconnect fd w)
  | idle (b : IObserver) : w.names.linked fd = some .freeGrok → FreeGrok.hasServer w fd = false →
      w.names.base .freeGrok = some b → HungUp env fd w (w.left fd .freeGrok b)
  | owner (u : User) (p : Ptr) (px : GrokProxy) : w.names.linked fd = some .freeGrok →
      w.names.user fd = some u → u.server = some p → w.proxies.lookup p = some px →
      HungUp env fd w (w.torn fd env p px w.freeGrok)
  | client (p : Ptr) (px : GrokProxy) (id : CIdT) (b : IObserver) :
      w.names.linked fd = some (.grokProxy p) → w.proxies.lookup p = some px →
      px.sockToId.lookup fd = some id → w.names.base (.grokProxy p) = some b →
      HungUp env fd w ((FreeGrok.sendDisconnected env px.initiator id
        (w.untabled fd p px id)).left fd (.grokProxy p) b)
  | http (b : IObserver) : w.names.linked fd = some .httpInterface →
      w.names.base .httpInterface = some b →
      HungUp env fd w ((HttpInterface.onDisconnect fd w).left fd .httpInterface b)

theorem HttpInterface.onDisconnect_base (sock : SockT) (w : World) (o : ObserverPtr) :
    (HttpInterface.onDisconnect sock w).names.base o = w.names.base o := by
  unfold HttpInterface.onDisconnect
  split
  · rfl
  · cases o <;> rfl

theorem HttpInterface.onDisconnect_linked (sock : SockT) (w : World) :
    (HttpInterface.onDisconnect sock w).names.linked = w.names.linked := by
  unfold HttpInterface.onDisconnect
  split <;> rfl

theorem linked_hungUp (hw : w.Sound) {o : ObserverPtr} (hl : w.names.linked fd = some o)
    (h : Loop.forceDisconnect env fd true true w = .ok w') : HungUp env fd w w' := by
  obtain ⟨w1, b, hcall, hb, hw'⟩ := forceDisconnect_told 3 hl h
  cases o with
  | freeGrok =>
    unfold onDisconnectWith FreeGrok.onDisconnectWith at hcall
    dsimp only at hcall
    split at hcall
    · next hserver =>
      obtain ⟨user, p, hu, hs⟩ := FreeGrok.hasServer_iff.mp hserver
      rw [World.gatherUser_fst, hu, Option.getD_some, hs] at hcall
      obtain ⟨w2, hshutdown, -⟩ := Except.bind_ok_iff.mp hcall
      obtain ⟨px, hlive, -⟩ := Except.bind_ok_iff.mp hshutdown
      have hpx := FreeGrok.proxy_ok hlive
      rw [forceDisconnect_torn hw hu hs hpx] at h
      cases h
      exact .owner user p px hl hu hs hpx
    · next hserver =>
      cases hcall
      subst hw'
      exact .idle b hl (by simpa using hserver) hb
  | httpInterface =>
    cases hcall
    subst hw'
    rw [HttpInterface.onDisconnect_base] at hb
    exact .http b hl hb
  | grokProxy p =>
    obtain ⟨px, id, b, hpx, hid, hb, rfl⟩ := client_hangUp hl h
    exact .client p px id b hl hpx hid hb

theorem hangUp_hungUp (hw : w.Sound) (hfd : fd ≠ -1) (h : Loop.hangUp env fd w = .ok w') :
    HungUp env fd w w' := by
  unfold Loop.hangUp at h
  split at h
  · next o ho =>
    have ho : w.names.observer fd = some o := ho
    have hlinked := hw.wf.observer_unlinked ho
    obtain ⟨b, hb, _, hs⟩ := hw.wf.observer_base ho
    obtain ⟨w1, hcall, h⟩ := Except.bind_ok_iff.mp h
    have hstays {v : World} (hbase : v.names.base o = some b) (hv : w1 = v) : w' = v := by
      subst hv
      obtain ⟨base, hbase', h⟩ := Except.bind_ok_iff.mp h
      cases Option.some.inj (hbase.symm.trans (FreeGrok.observer_ok hbase'))
      simp only [hs] at h
      exact (Except.ok.inj h).symm
    cases o with
    | freeGrok =>
      have hserver : FreeGrok.hasServer w fd = false := by
        by_contra hyes
        obtain ⟨u, p, hu, hs⟩ := FreeGrok.hasServer_iff.mp (Bool.not_eq_false _ ▸ hyes)
        rw [hw.wf.server_linked hu hs] at hlinked
        cases hlinked
      unfold Loop.onDisconnect onDisconnectWith FreeGrok.onDisconnectWith at hcall
      simp only [hserver] at hcall
      rw [hstays hb (Except.ok.inj hcall).symm]
      exact .nobody hlinked
    | httpInterface =>
      rw [hstays (by rw [HttpInterface.onDisconnect_base]; exact hb) (Except.ok.inj hcall).symm]
      exact .listener ho hlinked
    | grokProxy p =>
      obtain ⟨px, hpx, hcall⟩ := Except.bind_ok_iff.mp hcall
      have ht := (World.proxy_names (FreeGrok.proxy_ok hpx)).1
      split at hcall
      · cases hcall
      · next id hid =>
        rw [hw.wf.sock_unobserved ht hid hfd] at ho
        cases ho
  · next ho =>
    cases hl : w.names.linked fd with
    | some o => exact linked_hungUp hw hl h
    | none =>
      have hsame := (forceDisconnect_unknown env 3 hl ho).symm.trans h
      cases hsame
      exact .nobody hl

/-! ### Accepting -/

/-- What `accept` leaves, once the first read of what it returned is queued. -/
def World.arrived (os : Os) (o : ObserverPtr) (w : World) : World :=
  Loop.pushRead (tcpAccept os w).1 (opening (tcpAccept os w).1 o) (tcpAccept os w).2

/-- What `on_connect` of an observer leaves. -/
inductive Met (env : Env) (os : Os) (w : World) : ObserverPtr → World → Prop where
  | freeGrok : Met env os w .freeGrok (w.arrived os .freeGrok)
  | httpInterface : Met env os w .httpInterface (HttpInterface.setParser (tcpAccept os w).1
      { u64 := (tcpAccept os w).1 } (w.arrived os .httpInterface))
  | grokProxy (p : Ptr) (px : GrokProxy) : w.proxies.lookup p = some px →
      Met env os w (.grokProxy p)
        ((w.arrived os (.grokProxy p)).announced (tcpAccept os w).1 env p px)

theorem onConnect_met {o : ObserverPtr} (h : onConnect env os o w = .ok (fd, w')) :
    fd = (tcpAccept os w).1 ∧ Met env os w o w' := by
  cases o with
  | freeGrok =>
    cases h
    exact ⟨rfl, .freeGrok⟩
  | httpInterface =>
    cases h
    exact ⟨rfl, .httpInterface⟩
  | grokProxy p =>
    obtain ⟨px, hproxy, _⟩ := Except.bind_ok_iff.mp h
    have hpx := FreeGrok.proxy_ok hproxy
    have h := (GrokProxy.onConnect_announced hpx).symm.trans h
    cases h
    exact ⟨rfl, .grokProxy p px hpx⟩

/-! ### Reading -/

/-- What EPOLLIN leaves. -/
inductive DidRead (env : Env) (os : Os) (fd : SockT) (w : World) : World → Prop where
  | accepted (o : ObserverPtr) (b : IObserver) {w' : World} : w.names.observer fd = some o →
      Met env os w o w' → w'.names.base o = some b →
      DidRead env os fd w (w'.admitted (tcpAccept os w).1 o b)
  | frame {w' : World} : w.names.linked fd = some .freeGrok →
      Loop.performReadQueue env os fd .freeGrok w = .ok w' → DidRead env os fd w w'
  | unheard : w.names.linked fd ≠ some .freeGrok → DidRead env os fd w w
  | relayed (p : Ptr) (t : Tunnel) (id : CIdT) (bytes : Bytes) :
      w.names.linked fd = some (.grokProxy p) → w.names.tunnel p = some t →
      t.sockToId.lookup fd = some id → os.tcpRecv redirBufSize = some bytes →
      DidRead env os fd w (FreeGrok.sendPacket env t.initiator id bytes (w.log (.recv fd bytes)))
  | fed (parser : StreamingParser) (bytes : Bytes) : w.names.linked fd = some .httpInterface →
      w.names.parser fd = some parser → os.tcpRecv 4096 = some bytes →
      DidRead env os fd w (HttpInterface.setParser fd
        (parser.feed env bytes (w.log (.recv fd bytes))).1
        (parser.feed env bytes (w.log (.recv fd bytes))).2)

theorem readable_didRead (hw : w.Sound) (hfd : fd ≠ -1) (h : Loop.readable env os fd w = .ok w') :
    DidRead env os fd w w' := by
  unfold Loop.readable at h
  split at h
  · next o ho =>
    obtain ⟨b, hb, _, hs⟩ := hw.wf.observer_base ho
    obtain ⟨base, hbase, h⟩ := Except.bind_ok_iff.mp h
    cases Option.some.inj (hb.symm.trans (FreeGrok.observer_ok hbase))
    rw [if_pos hs] at h
    obtain ⟨⟨client, w1⟩, hconnect, h⟩ := Except.bind_ok_iff.mp h
    obtain ⟨rfl, hmet⟩ := onConnect_met hconnect
    obtain ⟨b', hb', h⟩ := Except.bind_ok_iff.mp h
    rw [Selector.add_registry] at hb'
    cases h
    exact .accepted o b' ho hmet (FreeGrok.observer_ok hb')
  · split at h
    · cases h
    · next o hl =>
      have hl : w.names.linked fd = some o := hl
      cases o with
      | freeGrok => exact .frame hl h
      | httpInterface =>
        obtain ⟨_, rfl⟩ | ⟨parser, bytes, hparser, hrecv, rfl⟩ := readHttp_spec hw hfd hl h
        · exact .unheard (by rw [hl]; nofun)
        · exact .fed parser bytes hl hparser hrecv
      | grokProxy p =>
        obtain ⟨t, ht, ⟨_, rfl⟩ | ⟨id, bytes, hid, hrecv, rfl⟩⟩ := readClient_spec hw hfd hl h
        · exact .unheard (by rw [hl]; nofun)
        · exact .relayed p t id bytes hl ht hid hrecv

/-! ### Any event -/

/-- What EPOLLOUT leaves, and whether it ends the event. -/
inductive DidWrite (env : Env) (os : Os) (fd : SockT) (w : World) : Bool → World → Prop where
  | wrote {w' : World} : Loop.performWriteQueue os fd w = .ok w' → DidWrite env os fd w false w'
  | connected (o : ObserverPtr) (b : IObserver) {w' : World} : w.names.observer fd = some o →
      Met env os w o w' → w'.names.base o = some b → w'.names.observer fd = some o →
      DidWrite env os fd w true
        (Selector.modify fd eventsR (w'.setObserver o { b with isConnected := true }))

theorem Met.observers {o : ObserverPtr} (h : Met env os w o w') : w'.observers = w.observers := by
  cases h with
  | freeGrok => exact tcpAccept_observers os w
  | httpInterface => exact tcpAccept_observers os w
  | grokProxy p px _ =>
    rw [World.announced_observers]
    exact tcpAccept_observers os w

theorem writable_didWrite {continued : Bool} (h : Loop.writable env os fd w = .ok (continued, w')) :
    DidWrite env os fd w continued w' := by
  have hwrite (h : (do return (false, ← Loop.performWriteQueue os fd w)) =
      Except.ok (continued, w')) : DidWrite env os fd w continued w' := by
    obtain ⟨w1, hwrite, h⟩ := Except.bind_ok_iff.mp h
    cases h
    exact .wrote hwrite
  unfold Loop.writable at h
  split at h
  · next o ho =>
    obtain ⟨base, _, h⟩ := Except.bind_ok_iff.mp h
    split at h
    · obtain ⟨⟨client, w1⟩, hconnect, h⟩ := Except.bind_ok_iff.mp h
      obtain ⟨_, hmet⟩ := onConnect_met hconnect
      obtain ⟨b, hb, h⟩ := Except.bind_ok_iff.mp h
      cases h
      exact .connected o b ho hmet (FreeGrok.observer_ok hb)
        ((congrArg (AList.lookup fd) hmet.observers).trans ho)
    · exact hwrite h
  · exact hwrite h

/-- The world that an event leaves. -/
inductive Outcome (env : Env) (os : Os) (ev : Loop.Event) (w : World) : World → Prop where
  | hungUp {w' : World} : ev.hangsUp = true → HungUp env ev.fd w w' → Outcome env os ev w w'
  | connected {w' : World} : ev.hangsUp = false → ev.events.epollout = true →
      DidWrite env os ev.fd w true w' → Outcome env os ev w w'
  | written {w' : World} : ev.hangsUp = false → ev.events.epollin = false →
      Loop.written os ev w = .ok w' → Outcome env os ev w w'
  | read {w1 w' : World} : ev.hangsUp = false → ev.events.epollin = true →
      Loop.written os ev w = .ok w1 → DidRead env os ev.fd w1 w' → Outcome env os ev w w'

theorem Loop.written_sound {ev : Loop.Event} (hw : w.Sound) (hfd : ev.fd ≠ -1)
    (h : Loop.written os ev w = .ok w') : w'.Sound := by
  unfold Loop.written at h
  split at h
  · have heff : Effects (.plain []) Loop.anyTerms w w' := performWriteQueue_effects hw hfd h
    exact heff.sound hw
  · cases h
    exact hw

theorem handleEvent_outcome {ev : Loop.Event} {broke : Bool} (hw : w.Sound) (hfd : ev.fd ≠ -1)
    (h : Loop.handleEvent env os ev w = .ok (broke, w')) : Outcome env os ev w w' := by
  unfold Loop.handleEvent at h
  split at h
  · next hhup =>
    obtain ⟨w1, hhang, h⟩ := Except.bind_ok_iff.mp h
    cases h
    exact .hungUp hhup (hangUp_hungUp hw hfd hhang)
  · next hhup =>
    have hhup : ev.hangsUp = false := by simpa [Loop.Event.hangsUp] using hhup
    have hread {w1 : World} (hwritten : Loop.written os ev w = .ok w1)
        (h : (if ev.events.epollin = true then do
          let w ← Loop.readable env os ev.fd w1
          pure (false, w) else pure (false, w1)) = Except.ok (broke, w')) :
        Outcome env os ev w w' := by
      split at h
      · next hin =>
        obtain ⟨w2, hreadable, h⟩ := Except.bind_ok_iff.mp h
        cases h
        exact .read hhup hin hwritten
          (readable_didRead (Loop.written_sound hw hfd hwritten) hfd hreadable)
      · next hin =>
        cases h
        exact .written hhup (by simpa using hin) hwritten
    dsimp only at h
    split at h
    · next hout =>
      obtain ⟨⟨continued, w1⟩, hwritable, h⟩ := Except.bind_ok_iff.mp h
      have hdid := writable_didWrite hwritable
      dsimp only at h
      split at h
      · next hcontinued =>
        cases h
        exact .connected hhup hout (hcontinued ▸ hdid)
      · next hcontinued =>
        cases hdid with
        | wrote hwrite => exact hread (by simpa [Loop.written, hout] using hwrite) h
        | connected _ _ _ _ _ _ => exact absurd rfl hcontinued
    · next hout => exact hread (by simp [Loop.written, hout]) h

/-! ### Their effects -/

theorem HungUp.effects {P : Terms} (h : HungUp env fd w w') (hw : w.Sound) (hP : P.hangUp)
    (hanswer : P.answer fd)
    (hleave : w.names.linked fd = some .freeGrok → FreeGrok.hasServer w fd = false →
      P.leave fd (w.view fd)) : Effects env P w w' := by
  cases h with
  | nobody _ => exact .refl
  | listener _ _ => exact (HttpInterface.onDisconnect_effects env w fd hP hanswer).1
  | idle b hl hserver hb =>
    refine .single (.left fd .freeGrok b hP hl hb nofun (fun u hu => ?_) fun _ => hleave hl hserver)
    cases hs : u.server with
    | none => rfl
    | some p =>
      rw [FreeGrok.hasServer_iff.mpr ⟨u, p, hu, hs⟩] at hserver
      cases hserver
  | owner u p px hl hu hs hp => exact .single (.torn fd u p px w.freeGrok hP hl hu hs hp rfl)
  | client p px id b hl hp hid hb => exact .single (.hungUp p px fd id b hP hp hid hl hb)
  | http b hl hb =>
    obtain ⟨heff, hlinked, huser, hbase⟩ := HttpInterface.onDisconnect_effects env w fd hP hanswer
    refine heff.tail (.left fd .httpInterface b hP ?_ (hbase.trans hb) nofun ?_ nofun)
    · rw [hlinked]
      exact hl
    · rw [huser]
      exact hw.wf.no_server hl nofun

theorem Met.onConnect {o : ObserverPtr} (h : Met env os w o w') :
    onConnect env os o w = .ok ((tcpAccept os w).1, w') := by
  cases h with
  | freeGrok => rfl
  | httpInterface => rfl
  | grokProxy p px hpx => exact GrokProxy.onConnect_announced hpx

theorem DidRead.effects {P : Terms} (h : DidRead env os fd w w') (hw : w.Sound)
    (hos : os.Fresh w.toRegistry)
    (hrefuse : ∀ o, w.observers.lookup fd = some o → os.accept = -1 → P.refuse o)
    (hdraw : ∀ p px, w.observers.lookup fd = some (.grokProxy p) → w.proxies.lookup p = some px →
      P.draw px w.idPool.getId.1)
    (hhear : ∀ bytes, os.tcpRecv redirBufSize = some bytes → P.hear fd (w.view fd) bytes)
    (hanswer : P.answer fd) (hmain : w.names.linked fd ≠ some .freeGrok) : Effects env P w w' := by
  cases h with
  | accepted o b ho hmet hb =>
    rename_i w1
    refine admit_effects hw hos (hrefuse o ho) (fun p px hp => hdraw p px (hp ▸ ho)) ?_
    refine Except.bind_ok_iff.mpr ⟨((tcpAccept os w).1, w1), hmet.onConnect, ?_⟩
    have hbase : (Selector.add (tcpAccept os w).1 eventsR w1).observer o = .ok b := by
      rw [Selector.add_registry]
      cases o with
      | freeGrok => exact congrArg Except.ok (Option.some.inj hb)
      | httpInterface => exact congrArg Except.ok (Option.some.inj hb)
      | grokProxy p =>
        cases hpx : w1.proxies.lookup p with
        | none => simp [Registry.names, Registry.base, hpx] at hb
        | some px =>
          simp only [Registry.names, Registry.base, hpx, Option.map_some] at hb
          cases hb
          exact Except.bind_ok_iff.mpr ⟨px, FreeGrok.proxy_eq hpx, rfl⟩
    exact Except.bind_ok_iff.mpr ⟨b, hbase, rfl⟩
  | frame hl _ => exact absurd hl hmain
  | unheard _ => exact .refl
  | relayed p t id bytes hl ht hid hrecv =>
    exact .single (.relayed p t fd id bytes (hhear bytes hrecv) ht hid)
  | fed parser bytes hl hparser hrecv =>
    have hu : parser.u64 = fd := hw.wf.parser_u64 hparser
    obtain ⟨heff, hu'⟩ : Effects env P (w.log (.recv fd bytes)) _ ∧ _ :=
      feed_effects parser bytes (hu ▸ hanswer) (hu ▸ hl)
    exact .trans (.head (.captured fd bytes hanswer hl) heff)
      (.single (.parsed fd _ (hu'.trans hu) (.inr hanswer)))

theorem DidWrite.effects {P : Terms} {continued : Bool} (h : DidWrite env os fd w continued w')
    (hw : w.Sound) (hfd : fd ≠ -1) (hos : os.Fresh w.toRegistry)
    (hrefuse : ∀ o, w.observers.lookup fd = some o → os.accept = -1 → P.refuse o)
    (hdraw : ∀ p px, w.observers.lookup fd = some (.grokProxy p) → w.proxies.lookup p = some px →
      P.draw px w.idPool.getId.1) : Effects env P w w' := by
  cases h with
  | wrote hwrite => exact performWriteQueue_effects hw hfd hwrite
  | connected o b ho hmet hb ho' =>
    obtain ⟨heff, _, _⟩ := onConnect_effects hw hos (hrefuse o ho)
      (fun p px hp => hdraw p px (hp ▸ ho)) hmet.onConnect
    exact heff.tail (.flagged fd o b ho' hb)

theorem Loop.written_registry {ev : Loop.Event} (h : Loop.written os ev w = .ok w') :
    w'.toRegistry = w.toRegistry := by
  unfold Loop.written at h
  split at h
  · exact (performWriteQueue_frame h).1
  · cases h
    rfl

/-- What a read after the write closes, it would have closed before it. -/
theorem Loop.written_closes {ev : Loop.Event} (hw : w.Sound) (hfd : ev.fd ≠ -1)
    (h : Loop.written os ev w = .ok w') {y : SockT}
    (hy : Loop.closes env os ev.fd w' = some y) :
    Loop.closes env os ev.fd w = some y ∧ w'.view y = w.view y := by
  unfold Loop.written at h
  split at h
  · have hy := performWriteQueue_closes h hy
    exact ⟨hy, (performWriteQueue_frame h).2 y (closes_ne hw hfd hy)⟩
  · cases h
    exact ⟨hy, rfl⟩

theorem Loop.written_effects {P : Terms} {ev : Loop.Event} (hw : w.Sound) (hfd : ev.fd ≠ -1)
    (h : Loop.written os ev w = .ok w') :
    Effects env P w w' ∧ w'.toRegistry = w.toRegistry ∧ w'.idPool = w.idPool := by
  unfold Loop.written at h
  split at h
  · exact ⟨performWriteQueue_effects hw hfd h, (performWriteQueue_frame h).1,
      performWriteQueue_pool h⟩
  · cases h
    exact ⟨.refl, rfl, rfl⟩

/-- An event that is no frame of a main connection is a sequence of effects. -/
theorem Outcome.effects {P : Terms} {ev : Loop.Event} (h : Outcome env os ev w w') (hw : w.Sound)
    (hfd : ev.fd ≠ -1) (hos : os.Fresh w.toRegistry) (hkeeps : Loop.Keeps env os P ev w)
    (hmain : ev.reads = true → w.names.linked ev.fd ≠ some .freeGrok) : Effects env P w w' := by
  cases h with
  | hungUp hup h =>
    exact h.effects hw (hkeeps.hangUp hup) hkeeps.answer (hkeeps.leave hup)
  | connected hup hout h =>
    have htransfers : ev.transfers = true := by simp [Loop.Event.transfers, hup, hout]
    exact h.effects hw hfd hos (hkeeps.refuse hup) (hkeeps.draw htransfers)
  | written _ _ h => exact (Loop.written_effects hw hfd h).1
  | read hup hin hwritten h =>
    have hreads : ev.reads = true := by simp [Loop.Event.reads, hup, hin]
    obtain ⟨heff, hreg, hpool⟩ : Effects env P w _ ∧ _ := Loop.written_effects hw hfd hwritten
    refine heff.trans (h.effects (heff.sound hw) (hreg ▸ hos) ?_ ?_
      (hkeeps.hear hreads _ hwritten) hkeeps.answer ?_)
    · rw [hreg]
      exact hkeeps.refuse hup
    · rw [hreg, hpool]
      exact hkeeps.draw (by simp [Loop.Event.transfers, hup, hin])
    · rw [hreg]
      exact hmain hreads

/-! ### What happens beside the descriptor -/

/-- The action can happen at a descriptor that the event is not about. -/
def Action.Passive : Action → Prop
  | .accept _ | .close _ | .queued _ _ | .announced _ _ _ => True
  | .frame _ type _ => ¬IsReply type
  | _ => False

/-- A call of `tcp_recv` or `tcp_send`. -/
def Action.Io : Action → Prop
  | .recv _ _ | .recvFailed _ | .send _ _ | .sendFailed _ => True
  | _ => False

/-- A call of `tcp_send`. -/
def Action.Sends : Action → Prop
  | .send _ _ | .sendFailed _ => True
  | _ => False

theorem Action.Sends.io {a : Action} (h : a.Sends) : a.Io := by
  cases a <;> first | exact h | exact trivial

/-- An owner is told of a client's close. -/
def Action.Farewell : Action → Prop
  | .frame _ type _ => type = grokDisconnect
  | _ => False

theorem Action.Sends.no_farewell {a : Action} (h : a.Sends) : ¬a.Farewell := by
  cases a <;> first | exact id | exact h.elim

/-- What an event that reads nothing can do. -/
def Action.Unread (fd : SockT) (a : Action) : Prop := a.Passive ∨ a.fd = fd ∧ a.Sends

/-- What an event that is no frame of a main connection can do. -/
def Action.Beside (fd : SockT) (a : Action) : Prop := a.Passive ∨ a.fd = fd ∧ a.Io

/-- What an event can do at all. -/
def Action.About (fd : SockT) (a : Action) : Prop := a.Passive ∨ a.fd = fd

/-- What a frame of a main connection can do. -/
def Action.Spoken (fd : SockT) (a : Action) : Prop := a.Passive ∨ a.fd = fd ∧ ¬a.Io

theorem Action.Unread.beside {a : Action} (h : a.Unread fd) : a.Beside fd := by
  rcases h with h | ⟨h, hsends⟩
  · exact .inl h
  · exact .inr ⟨h, hsends.io⟩

theorem Action.Beside.about {a : Action} (h : a.Beside fd) : a.About fd := by
  rcases h with h | ⟨h, _⟩
  · exact .inl h
  · exact .inr h

theorem Action.Spoken.about {a : Action} (h : a.Spoken fd) : a.About fd := by
  rcases h with h | ⟨h, _⟩
  · exact .inl h
  · exact .inr h

theorem Action.passive_frame (x : SockT) (payload : Bytes) {type : UInt8}
    (h : type = grokPacket ∨ type = grokConnected ∨ type = grokDisconnect) :
    (Action.frame x type payload).Passive := by
  intro hreply
  rcases h with rfl | rfl | rfl
  · exact hreply.1 rfl
  · exact hreply.2.1 rfl
  · exact hreply.2.2 rfl

theorem HttpInterface.onDisconnect_trace (sock : SockT) (w : World) :
    (HttpInterface.onDisconnect sock w).trace = w.trace := by
  unfold HttpInterface.onDisconnect
  split <;> rfl

theorem HungUp.grows (h : HungUp env fd w w') : Grows Action.Passive w w' := by
  cases h with
  | nobody _ => exact .refl w
  | listener _ _ => exact .of_eq (HttpInterface.onDisconnect_trace fd w)
  | idle b _ _ _ => exact .left _ b trivial
  | owner u p px _ _ _ _ => exact .torn p px _ (fun _ _ => trivial) trivial trivial
  | client p px id b _ _ _ _ =>
    exact .hungUp p px id b (Action.passive_frame _ _ (.inr (.inr rfl))) (fun _ => trivial) trivial
  | http b _ _ =>
    exact (Grows.of_eq (HttpInterface.onDisconnect_trace fd w)).trans (.left _ b trivial)

theorem World.arrived_grows (os : Os) (o : ObserverPtr) (w : World) :
    Grows (fun a => a.Passive ∧ ¬a.Farewell) w (w.arrived os o) := by
  unfold World.arrived tcpAccept
  split
  · exact .of_eq rfl
  · exact (Grows.log (a := .accept os.accept) ⟨trivial, id⟩).trans (.of_eq rfl)

theorem Met.grows {o : ObserverPtr} (h : Met env os w o w') :
    Grows (fun a => a.Passive ∧ ¬a.Farewell) w w' := by
  have htype : grokConnected ≠ grokDisconnect := by decide
  cases h with
  | freeGrok => exact World.arrived_grows os _ w
  | httpInterface => exact (World.arrived_grows os .httpInterface w).trans (.of_eq rfl)
  | grokProxy p px _ =>
    exact (World.arrived_grows os _ w).trans (.announced p px
      ⟨Action.passive_frame _ _ (.inr (.inl rfl)), htype⟩ (fun _ => ⟨trivial, id⟩)
      fun _ => ⟨trivial, id⟩)

theorem performWriteQueue_grows (h : Loop.performWriteQueue os fd w = .ok w') :
    Grows (fun a => a.fd = fd ∧ a.Sends) w w' := by
  obtain ⟨front, rest, _, ⟨_, rfl⟩ | ⟨_, rfl⟩⟩ := performWriteQueue_spec h
  · exact .writeFailed ⟨rfl, trivial⟩
  · exact .wrote front rest _ ⟨rfl, trivial⟩

theorem Loop.written_sends {ev : Loop.Event} (h : Loop.written os ev w = .ok w') :
    Grows (fun a => a.fd = ev.fd ∧ a.Sends) w w' := by
  unfold Loop.written at h
  split at h
  · exact performWriteQueue_grows h
  · cases h
    exact .refl w

theorem Loop.written_unread {ev : Loop.Event} (h : Loop.written os ev w = .ok w') :
    Grows (Action.Unread ev.fd) w w' :=
  (Loop.written_sends h).mono fun _ ha => .inr ha

/-- What sending to the parser's connection preserves, its callbacks preserve. -/
theorem StreamingParser.callbacks_keep (env : Env) {I : World → Prop} (callbacks : List HttpCallback)
    (state : StreamingParser × World)
    (send : ∀ bytes w, I w → I (Loop.send state.1.u64 bytes w)) (hi : I state.2) :
    I (callbacks.foldl (StreamingParser.callback env) state).2 ∧
      (callbacks.foldl (StreamingParser.callback env) state).1.u64 = state.1.u64 := by
  induction callbacks generalizing state with
  | nil => exact ⟨hi, rfl⟩
  | cons c rest ih =>
    rw [List.foldl_cons]
    cases c with
    | headerField h => exact ih (StreamingParser.callback env state (.headerField h)) send hi
    | headerValue h => exact ih (StreamingParser.callback env state (.headerValue h)) send hi
    | body _ => exact ih state send hi
    | messageComplete =>
      have hcomplete : I (HttpInterface.onComplete env state.1.u64 state.2) :=
        send _ _ (send _ _ (send _ _ hi))
      exact ih (StreamingParser.callback env state .messageComplete) send hcomplete

/-- A feed only sends to the parser's connection. -/
theorem StreamingParser.feed_keeps (env : Env) {I : World → Prop} (parser : StreamingParser)
    (bytes : Bytes) (send : ∀ bytes w, I w → I (Loop.send parser.u64 bytes w)) (hi : I w) :
    I (parser.feed env bytes w).2 := by
  unfold StreamingParser.feed
  generalize env.llhttpExecute parser.fed bytes = result
  obtain ⟨callbacks, err⟩ := result
  obtain ⟨hcallbacks, hu⟩ := callbacks_keep env callbacks
    ({ parser with fed := parser.fed ++ [bytes] }, w) send hi
  dsimp only at hu ⊢
  split
  · rw [hu]
    exact send _ _ (send _ _ hcallbacks)
  · exact hcallbacks

theorem StreamingParser.feed_grows (env : Env) {ok : Action → Prop} (parser : StreamingParser)
    (bytes : Bytes) (w : World) (hok : ∀ bytes, ok (.queued parser.u64 bytes)) :
    Grows ok w (parser.feed env bytes w).2 :=
  feed_keeps env parser bytes (fun bytes _ h => h.trans (.send bytes (hok bytes))) (.refl w)

/-- What a frame of a main connection does calls neither `tcp_recv` nor `tcp_send`, is no reaction but
what the parser found, and tells no owner of a close. -/
def Action.Told (fd : SockT) (said : List Reaction) (a : Action) : Prop :=
  ¬a.Farewell ∧ (a.Passive ∨ a.fd = fd ∧ ¬a.Io ∧ ∀ r ∈ a.reactions, r ∈ said)

theorem Action.Told.spoken {said : List Reaction} {a : Action} (h : a.Told fd said) :
    a.Spoken fd := by
  obtain ⟨_, h | ⟨hfd, hio, _⟩⟩ := h
  · exact .inl h
  · exact .inr ⟨hfd, hio⟩

theorem Action.Told.mono {said more : List Reaction} {a : Action} (h : a.Told fd said)
    (hmore : ∀ r ∈ said, r ∈ more) : a.Told fd more := by
  obtain ⟨hfarewell, h | ⟨hfd, hio, hsaid⟩⟩ := h
  · exact ⟨hfarewell, .inl h⟩
  · exact ⟨hfarewell, .inr ⟨hfd, hio, fun r hr => hmore r (hsaid r hr)⟩⟩

theorem Command.grows_told {P : Terms} {said : List Reaction} (h : Command env P fd w said w') :
    Grows (Action.Told fd said) w w' := by
  have hframe (type : UInt8) (payload : Bytes) {v : World} (hreply : IsReply type)
      (hsaid : ∀ r ∈ (Action.frame fd type payload).reactions, r ∈ said) :
      Grows (Action.Told fd said) v (FStreamer.send env fd type payload v) :=
    .frame type payload ⟨hreply.2.2, .inr ⟨rfl, id, hsaid⟩⟩ fun _ => ⟨id, .inl trivial⟩
  have hnothing {r : Reaction} (hr : r ∈ []) : r ∈ said := absurd hr List.not_mem_nil
  have hmessage (type : UInt8) (length : Nat) (buffer : Option Bytes) :
      Grows (Action.Told fd (Action.message fd type length buffer).reactions) w
        (w.log (.message fd type length buffer)) := .log ⟨id, .inr ⟨rfl, id, fun _ hr => hr⟩⟩
  cases h with
  | message type length buffer _ _ => exact hmessage type length buffer
  | granted type length buffer _ =>
    exact (hmessage type length buffer).trans (.of_eq (FreeGrok.gatherUser_trace ..))
  | delivered p t id x length buffer body _ _ _ _ _ =>
    exact (hmessage _ _ _).trans (.send body ⟨False.elim, .inl trivial⟩)
  | dropped p px id x o b buffer _ _ _ _ _ _ _ =>
    exact (hmessage _ _ _).trans ((Grows.of_eq rfl).trans (.left o b ⟨False.elim, .inl trivial⟩))
  | untabled p px id x buffer _ _ _ _ _ => exact (hmessage _ _ _).trans (.of_eq rfl)
  | replied type payload hreply hsaid =>
    exact hframe type payload hreply fun r hr => by rwa [hsaid] at hr
  | touched => exact .of_eq (FreeGrok.gatherUser_trace ..)
  | created sock port listeningPort _ _ _ _ =>
    exact .created sock port listeningPort ⟨id, .inr ⟨rfl, id, fun _ => hnothing⟩⟩
  | discarded sock port _ _ _ _ =>
    have hnone : (Action.frame fd grokError [internalServerError]).reactions = [] := by
      simp [Action.reactions, decompressionError, tooLongBuffer, internalServerError]
    exact ((Grows.created sock port 0 ⟨id, .inr ⟨rfl, id, fun _ => hnothing⟩⟩).trans
      (hframe _ _ ⟨by decide, by decide, by decide⟩ fun r hr => by rwa [hnone] at hr)).trans
        (.deleted _ _ [] (fun _ ho => absurd ho List.not_mem_nil) ⟨id, .inl trivial⟩)

theorem Commands.grows_told {P : Terms} {said : List Reaction} (h : Commands env P fd w said w') :
    Grows (Action.Told fd said) w w' := by
  induction h with
  | refl => exact .refl w
  | tail _ hc ih =>
    refine (ih.mono fun a ha => ha.mono fun r hr => ?_).trans
      (hc.grows_told.mono fun a ha => ha.mono fun r hr => ?_)
    · exact List.mem_append_left _ hr
    · exact List.mem_append_right _ hr

theorem Commands.grows_spoken {P : Terms} {said : List Reaction} (h : Commands env P fd w said w') :
    Grows (Action.Spoken fd) w w' :=
  h.grows_told.mono fun _ ha => ha.spoken

theorem Commands.grows {P : Terms} {said : List Reaction} (h : Commands env P fd w said w') :
    Grows (Action.About fd) w w' :=
  h.grows_spoken.mono fun _ ha => ha.about

theorem World.HeardAll.grows (h : w.HeardAll fd w') :
    Grows (fun a => a.fd = fd ∧ a.Io) w w' := by
  cases h
  exact (Grows.log ⟨rfl, trivial⟩).trans (.of_eq rfl)

theorem World.Advanced.grows {ok : Action → Prop} (h : w.Advanced fd w') : Grows ok w w' := by
  cases h
  exact .of_eq rfl

theorem MainRead.grows {P : Terms} (h : MainRead env P fd w w') : Grows (Action.About fd) w w' := by
  cases h with
  | failed _ _ => exact (Grows.log (.inr rfl)).trans (.of_eq rfl)
  | heard _ _ _ _ _ bytes _ _ _ => exact (Grows.log (.inr rfl)).trans (.of_eq rfl)
  | frame hheard hcommands hadvanced =>
    exact ((hheard.grows.mono fun a ha => .inr ha.1).trans hcommands.grows).trans hadvanced.grows

/-- A read of a main connection: what `DidRead.frame` can be. -/
theorem DidRead.grows (h : DidRead env os fd w w') (hmain : w.names.linked fd ≠ some .freeGrok) :
    Grows (Action.Beside fd) w w' := by
  have hrecv (bytes : Bytes) : Grows (Action.Beside fd) w (w.log (.recv fd bytes)) :=
    .log (.inr ⟨rfl, trivial⟩)
  cases h with
  | accepted o b ho hmet hb =>
    exact (hmet.grows.mono fun a ha => .inl ha.1).trans (.of_eq (World.admitted_trace ..))
  | frame hl _ => exact absurd hl hmain
  | unheard _ => exact .refl w
  | relayed p t id bytes _ _ _ _ =>
    exact (hrecv bytes).trans (.frame _ _ (.inl (Action.passive_frame _ _ (.inl rfl)))
      fun _ => .inl trivial)
  | fed parser bytes _ _ _ =>
    exact ((hrecv bytes).trans (StreamingParser.feed_grows env parser bytes _
      fun _ => .inl trivial)).trans (.of_eq rfl)

theorem DidWrite.grows {continued : Bool} (h : DidWrite env os fd w continued w') :
    Grows (Action.Unread fd) w w' := by
  cases h with
  | wrote hwrite => exact (performWriteQueue_grows hwrite).mono fun a ha => .inr ha
  | connected o b _ hmet _ _ =>
    exact (hmet.grows.mono fun a ha => .inl ha.1).trans (.of_eq (Selector.modify_trace ..))

theorem Outcome.grows_unread {ev : Loop.Event} (h : Outcome env os ev w w')
    (hreads : ev.reads = false) : Grows (Action.Unread ev.fd) w w' := by
  cases h with
  | hungUp _ h => exact h.grows.mono fun a ha => .inl ha
  | connected _ _ h => exact h.grows
  | written _ _ h => exact Loop.written_unread h
  | read hup hin _ _ => simp [Loop.Event.reads, hup, hin] at hreads

/-- An event that is no frame of a main connection leaves every other descriptor alone, but for
what is queued there, and for opening and closing it. -/
theorem Outcome.grows {ev : Loop.Event} (h : Outcome env os ev w w')
    (hmain : ev.reads = true → w.names.linked ev.fd ≠ some .freeGrok) :
    Grows (Action.Beside ev.fd) w w' := by
  cases h with
  | hungUp _ h => exact h.grows.mono fun a ha => .inl ha
  | connected _ _ h => exact h.grows.mono fun a ha => ha.beside
  | written _ _ h => exact (Loop.written_unread h).mono fun a ha => ha.beside
  | read hup hin hwritten h =>
    refine ((Loop.written_unread hwritten).mono fun a ha => ha.beside).trans (h.grows ?_)
    rw [(Loop.written_registry hwritten)]
    exact hmain (by simp [Loop.Event.reads, hup, hin])

/-! ### Who is told of a close -/

theorem HungUp.farewell (h : HungUp env fd w w') :
    Grows (fun a => ¬a.Farewell) w w' ∨
      ∃ p px id, w.names.linked fd = some (.grokProxy p) ∧ w.proxies.lookup p = some px ∧
        px.sockToId.lookup fd = some id ∧ Grows (fun a => ¬a.Farewell)
          (w.log (.frame px.initiator grokDisconnect (ByteBuffer.encode cIdSize id.toNat))) w' := by
  cases h with
  | nobody _ => exact .inl (.refl w)
  | listener _ _ => exact .inl (.of_eq (HttpInterface.onDisconnect_trace fd w))
  | idle b _ _ _ => exact .inl (.left _ b id)
  | owner u p px _ _ _ _ => exact .inl (.torn p px _ (fun _ _ => id) id id)
  | client p px id b hl hp hid _ =>
    refine .inr ⟨p, px, id, hl, hp, hid, (World.hungUp_grows env w fd p px id b).mono ?_⟩
    rintro a (⟨bytes, rfl⟩ | rfl) <;> exact False.elim
  | http b _ _ =>
    exact .inl ((Grows.of_eq (HttpInterface.onDisconnect_trace fd w)).trans (.left _ b id))

theorem MainRead.farewell {P : Terms} (h : MainRead env P fd w w') :
    Grows (fun a => ¬a.Farewell) w w' := by
  cases h with
  | failed _ _ => exact (Grows.log id).trans (.of_eq rfl)
  | heard _ _ _ _ _ bytes _ _ _ => exact (Grows.log id).trans (.of_eq rfl)
  | frame hheard hcommands hadvanced =>
    have hcommands := hcommands.grows_told.mono fun _ ha => ha.1
    refine Grows.trans (.trans ?_ hcommands) hadvanced.grows
    cases hheard
    exact (Grows.log id).trans (.of_eq rfl)

theorem DidRead.farewell (h : DidRead env os fd w w') (hw : w.Sound) (hfd : fd ≠ -1)
    (hos : os.Fresh w.toRegistry) : Grows (fun a => ¬a.Farewell) w w' := by
  cases h with
  | accepted o b ho hmet hb =>
    exact (hmet.grows.mono fun a ha => ha.2).trans (.of_eq (World.admitted_trace ..))
  | frame hl hread =>
    have hmain : MainRead env Loop.anyTerms fd w w' :=
      readMain_read hw hfd hl hos (fun _ _ => trivial) (fun _ => trivial) hread
    exact hmain.farewell
  | unheard _ => exact .refl w
  | relayed p t id bytes _ _ _ _ =>
    have htype : grokPacket ≠ grokDisconnect := by decide
    exact (Grows.log (a := .recv fd bytes) False.elim).trans (.frame _ _ htype fun _ => False.elim)
  | fed parser bytes _ _ _ =>
    exact ((Grows.log (a := .recv fd bytes) id).trans (StreamingParser.feed_grows env parser bytes _
      fun _ => id)).trans (.of_eq rfl)

/-- **An owner is told of a close** only when the client hangs up, and then before anything else. -/
theorem Outcome.farewell {ev : Loop.Event} (h : Outcome env os ev w w') (hw : w.Sound)
    (hfd : ev.fd ≠ -1) (hos : os.Fresh w.toRegistry) {A : SockT} {payload : Bytes}
    {new later : List Action}
    (htrace : w'.trace = later ++ .frame A grokDisconnect payload :: (new ++ w.trace)) :
    new = [] ∧ ∃ p px id, ev.hangsUp = true ∧ w.names.linked ev.fd = some (.grokProxy p) ∧
      w.proxies.lookup p = some px ∧ px.sockToId.lookup ev.fd = some id ∧ A = px.initiator ∧
      payload = ByteBuffer.encode cIdSize id.toNat := by
  have htold : (Action.frame A grokDisconnect payload).Farewell := rfl
  have hno (hgrows : Grows (fun a => ¬a.Farewell) w w') : False := by
    obtain ⟨more, hmore, hall⟩ := hgrows
    have hsplit : later ++ .frame A grokDisconnect payload :: new = more := by
      refine List.append_cancel_right (Eq.trans ?_ hmore)
      rw [List.append_assoc]
      exact htrace.symm
    exact hall _ (hsplit ▸ List.mem_append_right _ (List.mem_cons_self ..)) htold
  have hwrite {v : World} (h : Loop.written os ev w = .ok v) : Grows (fun a => ¬a.Farewell) w v :=
    (Loop.written_sends h).mono fun _ ha => ha.2.no_farewell
  cases h with
  | hungUp hup h =>
    obtain hgrows | ⟨p, px, id, hl, hp, hid, more, hmore, hall⟩ := h.farewell
    · exact (hno hgrows).elim
    · obtain ⟨hnew, hframe⟩ := History.split_at (htrace.symm.trans hmore) htold hall
      cases hframe
      exact ⟨hnew, p, px, id, hup, hl, hp, hid, rfl, rfl⟩
  | connected _ _ h =>
    cases h with
    | connected o b _ hmet _ _ =>
      exact (hno ((hmet.grows.mono fun a ha => ha.2).trans
        (.of_eq (Selector.modify_trace ..)))).elim
  | written _ _ h => exact (hno (hwrite h)).elim
  | read _ _ hwritten h =>
    have hreg := Loop.written_registry hwritten
    exact (hno ((hwrite hwritten).trans
      (h.farewell (Loop.written_sound hw hfd hwritten) hfd (hreg ▸ hos)))).elim

/-! ### Connections that are not the main server's -/

theorem StreamingParser.feed_registry (env : Env) (parser : StreamingParser) (bytes : Bytes)
    (w : World) : (parser.feed env bytes w).2.toRegistry = w.toRegistry :=
  feed_keeps env (I := fun v => v.toRegistry = w.toRegistry) parser bytes
    (fun _ _ h => (Loop.send_registry ..).trans h) rfl

theorem tcpAccept_fst (os : Os) (w : World) : (tcpAccept os w).1 = os.accept := by
  unfold tcpAccept
  split
  · next h => exact h.symm
  · rfl

theorem Met.linked {o : ObserverPtr} (h : Met env os w o w') :
    w'.names.linked = w.names.linked := by
  have harrived (o : ObserverPtr) : (w.arrived os o).names.linked = w.names.linked := by
    unfold World.arrived tcpAccept
    split <;> rfl
  cases h with
  | freeGrok => exact harrived .freeGrok
  | httpInterface =>
    rw [World.names_setParser]
    exact harrived .httpInterface
  | grokProxy p px hp =>
    have hproxies : (w.arrived os (.grokProxy p)).proxies = w.proxies := tcpAccept_proxies os w
    rw [World.names_announced _ _ env (hproxies ▸ hp)]
    exact harrived (.grokProxy p)

/-- No event makes its own descriptor a main connection. -/
theorem Outcome.unlinked {ev : Loop.Event} (h : Outcome env os ev w w') (hw : w.Sound)
    (hfd : ev.fd ≠ -1) (hos : os.Fresh w.toRegistry)
    (hl : w.names.linked ev.fd ≠ some .freeGrok) : w'.names.linked ev.fd ≠ some .freeGrok := by
  have hleft (v : World) (o : ObserverPtr) (b : IObserver) :
      (v.left ev.fd o b).names.linked ev.fd ≠ some .freeGrok := by
    show ((v.left ev.fd o b).view ev.fd).linked ≠ _
    simp [View.gone]
  cases h with
  | hungUp _ h =>
    cases h with
    | nobody _ => exact hl
    | listener _ _ => rwa [HttpInterface.onDisconnect_linked]
    | idle b hmain _ _ => exact absurd hmain hl
    | owner u p px hmain _ _ _ => exact absurd hmain hl
    | client p px id b _ _ _ _ => exact hleft _ _ b
    | http b _ _ => exact hleft _ _ b
  | connected _ _ h =>
    cases h with
    | connected o b _ hmet hb _ =>
      rw [World.names_flagged _ ev.fd hb]
      show _ = _ → False
      rw [hmet.linked]
      exact hl
  | written _ _ h =>
    rw [Loop.written_registry h]
    exact hl
  | read _ _ hwritten h =>
    have hreg := Loop.written_registry hwritten
    rw [← hreg] at hl hos
    cases h with
    | accepted o b ho hmet hb =>
      rw [World.names_admitted _ _ hb]
      show Function.update _ _ _ _ ≠ _
      rw [Function.update_of_ne, hmet.linked]
      · exact hl
      · intro hsame
        have hopened := (Loop.written_sound hw hfd hwritten).wf.observer_open ho
        rcases hos.accept with hneg | hunused
        · exact hfd (hsame.trans ((tcpAccept_fst os _).trans hneg))
        · exact hopened (hsame.trans (tcpAccept_fst os _) ▸ hunused.closed)
    | frame hmain _ => exact absurd hmain hl
    | unheard _ => exact hl
    | relayed p t id bytes _ _ _ _ => rwa [World.names_relayed]
    | fed parser bytes _ _ _ =>
      rw [World.names_setParser]
      show (parser.feed env bytes _).2.toRegistry.names.linked ev.fd ≠ _
      rw [StreamingParser.feed_registry]
      exact hl

/-! ### Effects in their place -/

/-- An effect only adds to the trace. -/
theorem Effect.extends {P : Terms} (h : Effect env P w w') : Grows (fun _ => True) w w' := by
  cases h with
  | accepted fd item _ => exact (Grows.log (a := .accept fd) trivial).trans (.of_eq rfl)
  | refused o item _ => exact .of_eq rfl
  | parsed fd parser _ _ => exact .of_eq rfl
  | announced p px fd before _ _ _ _ _ _ =>
    exact .announced p px trivial (fun _ => trivial) fun _ => trivial
  | admitted fd o b before _ _ _ _ _ _ => exact .of_eq (World.admitted_trace ..)
  | flagged fd o b _ _ => exact .of_eq (Selector.modify_trace ..)
  | wrote fd front rest n _ _ _ => exact .wrote front rest n trivial
  | writeFailed fd _ => exact .writeFailed trivial
  | readFailed fd _ _ _ => exact (Grows.log (a := .recvFailed fd) trivial).trans (.of_eq rfl)
  | heard fd _ _ _ _ _ bytes _ _ _ _ => exact (Grows.log (a := .recv fd bytes) trivial).trans (.of_eq rfl)
  | command A _ hc => exact hc.grows_told.mono fun _ _ => trivial
  | relayed p t x id bytes _ _ _ =>
    exact (Grows.log (a := .recv x bytes) trivial).trans (.frame _ _ trivial fun _ => trivial)
  | captured x bytes _ _ => exact .log trivial
  | served x bytes _ _ => exact .send bytes trivial
  | forgot fd _ _ => exact .of_eq rfl
  | torn A u p px b _ _ _ _ _ _ => exact .torn p px b (fun _ _ => trivial) trivial trivial
  | left x o b _ _ _ _ _ _ => exact .left o b trivial
  | hungUp p px x id b _ _ _ _ _ => exact .hungUp p px id b trivial (fun _ => trivial) trivial

/-- Effects none of which does anything but what is `ok`. -/
abbrev Sited (env : Env) (P : Terms) (ok : Action → Prop) : World → World → Prop :=
  Relation.ReflTransGen fun w w' => Effect env P w w' ∧ Grows ok w w'

/-- What they do together, each of them does. -/
theorem Effects.sited {P : Terms} {ok : Action → Prop} (h : Effects env P w w')
    (hgrows : Grows ok w w') : Sited env P ok w w' := by
  induction h with
  | refl => exact .refl
  | tail hsteps hlast ih =>
    rename_i w1 w2
    have hfirst : Grows (fun _ => True) w w1 := Steps.invariant (P := Grows (fun _ => True) w) hsteps
      (fun _ _ h he => h.trans he.extends) (.refl w)
    obtain ⟨new, hnew, hall⟩ := hgrows
    obtain ⟨new1, hnew1, _⟩ := hfirst
    obtain ⟨new2, hnew2, _⟩ := hlast.extends
    rw [hnew2, hnew1, ← List.append_assoc] at hnew
    cases List.append_cancel_right hnew
    exact .tail (ih ⟨new1, hnew1, fun a ha => hall a (List.mem_append_right _ ha)⟩)
      ⟨hlast, new2, hnew2, fun a ha => hall a (List.mem_append_left _ ha)⟩

end

end OpenGrok
