import OpenGrok.Properties.Pages

/-! What descriptors are for.

In a run in which the selector reports EPOLLOUT for no listener, which the server never
asks it to watch for, every open descriptor has exactly one use: it is the listener of
the main server, of the HTTP interface or of a live proxy, or a connection that the
loop knows. So no descriptor leaks, and no descriptor in use is closed. -/
namespace OpenGrok

/-! ### Uses -/

/-- What a descriptor can be open for. -/
inductive DescriptorUse where
  | freeGrok
  | http
  | listener (p : Ptr)
  | connection (o : ObserverPtr)
  deriving DecidableEq

/-- The descriptor is open for that. -/
def World.Uses (l : Listeners) (w : World) (x : SockT) : DescriptorUse → Prop
  | .freeGrok => x = l.freeGrok
  | .http => x = l.http
  | .listener p => ∃ px, w.proxies.lookup p = some px ∧ px.socket = x
  | .connection o => w.linkedClients.lookup x = some o

namespace Loop

/-- No EPOLLOUT is reported for a listener. -/
def ListenersQuiet (s : State) : Input → Prop
  | .wait _ => True
  | .handle _ =>
    match s.pending with
    | [] => True
    | ev :: _ => ev.event.hangsUp = false → ev.event.events.epollout = true →
        s.world.observers.lookup ev.event.fd = none

instance (s : State) : ∀ i, Decidable (ListenersQuiet s i)
  | .wait _ => isTrue trivial
  | .handle _ =>
    match h : s.pending with
    | [] => isTrue (by simp [ListenersQuiet, h])
    | ev :: _ => decidable_of_iff (ev.event.hangsUp = false → ev.event.events.epollout = true →
        s.world.observers.lookup ev.event.fd = none) (by simp [ListenersQuiet, h])

end Loop

/-! ### One descriptor -/

/-- If it is open it is a listener's or a connection's, and only HTTP connections have parsers. -/
structure View.Accounted (v : View) : Prop where
  used : v.opened ≠ none → v.observer ≠ none ∨ v.linked ≠ none
  parsed : v.parser ≠ none → v.linked = some .httpInterface

section
variable {env : Env} {os : Os} {P : Terms} {w w' : World} {x fd : SockT} {v v' : View}

namespace View.Accounted

theorem of_same (h : v.Accounted) (hopened : v'.opened = v.opened) (hobserver : v'.observer = v.observer)
    (hlinked : v'.linked = v.linked) (hparser : v'.parser = v.parser) : v'.Accounted where
  used := by
    rw [hopened, hobserver, hlinked]
    exact h.used
  parsed := by
    rw [hparser, hlinked]
    exact h.parsed

theorem of_names {n : Names} (h : (w.view x).Accounted) (hnames : w'.names = n)
    (hopened : n.opened x = w.names.opened x) (hobserver : n.observer x = w.names.observer x)
    (hlinked : n.linked x = w.names.linked x) (hparser : n.parser x = w.names.parser x) :
    (w'.view x).Accounted := by
  subst hnames
  exact h.of_same hopened hobserver hlinked hparser

theorem of_registry (h : (w.view x).Accounted) (hreg : w'.toRegistry = w.toRegistry) :
    (w'.view x).Accounted :=
  h.of_names (congrArg Registry.names hreg) rfl rfl rfl rfl

/-- A connection with no parser is closed. -/
theorem gone (h : v.parser = none) : (v.gone fd).Accounted where
  used hopened := absurd rfl hopened
  parsed hparser := absurd h hparser

theorem unparsed (h : v.Accounted) (hl : v.linked ≠ some .httpInterface) : v.parser = none := by
  by_contra hparser
  exact hl (h.parsed hparser)

theorem left (h : (w.view x).Accounted) (hl : x = fd → (w.view x).parser = none)
    (o : ObserverPtr) (b : IObserver) : ((w.left fd o b).view x).Accounted := by
  rw [World.view_left]
  split
  · next he => exact gone (hl he)
  · exact h

theorem created {A sock : SockT} (h : (w.view x).Accounted) (hA : A ≠ sock)
    (port listeningPort : UInt16) : ((w.created A sock port listeningPort).view x).Accounted := by
  rw [World.view_created _ _ _ hA]
  split
  · exact h.of_same rfl rfl rfl rfl
  · split
    · rw [View.add_eq]
      exact ⟨fun _ => .inl (Option.some_ne_none _), h.parsed⟩
    · exact h

theorem deleted {l : List SockT} {b : IObserver} (h : (w.view x).Accounted)
    (hl : x ∈ l → (w.view x).linked ≠ some .httpInterface) (p : Ptr) :
    ((w.deleted p b l).view x).Accounted := by
  have hall : ((w.detachedAll l).view x).Accounted := by
    rw [World.view_detachedAll]
    split
    · next hmem => exact gone (h.unparsed (hl hmem.1))
    · exact h
  rw [World.view_deleted]
  split
  · exact ⟨fun hopened => absurd rfl hopened, hall.parsed⟩
  · exact hall

end View.Accounted

/-! ### Frames -/

theorem Command.accounted {A : SockT} {said : List Reaction} (h : Command env P A w said w')
    (hw : w.names.Wf) (hl : w.names.linked A = some .freeGrok) (hx : x ≠ -1)
    (ha : (w.view x).Accounted) : (w'.view x).Accounted := by
  have hlog (type : UInt8) (length : Nat) (buffer : Option Bytes) :
      ((w.log (.message A type length buffer)).view x).Accounted := ha.of_registry rfl
  cases h with
  | message type length buffer _ _ => exact hlog type length buffer
  | granted type length buffer _ =>
    rw [World.view_granted]
    split
    · exact (hlog type length buffer).of_same rfl rfl rfl rfl
    · exact hlog type length buffer
  | delivered p t id y length buffer body _ _ _ _ _ => exact ha.of_registry (Loop.send_registry ..)
  | dropped p px id y o b buffer hp _ hid _ hly _ _ =>
    have huntabled : (((w.log (.message A grokDisconnect cIdSize (some buffer))).untabled y p px id).view
        x).Accounted := hlog grokDisconnect cIdSize (some buffer)
    refine huntabled.left (fun he => huntabled.unparsed ?_) o b
    subst he
    have ht := (World.proxy_names hp).1
    cases hw.sock_linked ht (hw.id_sock ht hid hx) hx hly
    show w.names.linked x ≠ _
    rw [hly]
    simp
  | untabled p px id y buffer _ _ _ _ _ => exact hlog grokDisconnect cIdSize (some buffer)
  | replied type payload _ _ => exact ha.of_registry (FStreamer.send_registry ..)
  | touched =>
    rw [World.view_gatherUser]
    split
    · exact ha.of_same rfl rfl rfl rfl
    · exact ha
  | created sock port listeningPort _ _ hu _ => exact ha.created (hw.ne_unused hl hu) port listeningPort
  | discarded sock port _ _ hu _ =>
    have hcreated := ha.created (hw.ne_unused hl hu) port 0
    exact (hcreated.of_registry (FStreamer.send_registry ..)).deleted (by simp) _

theorem Commands.accounted {A : SockT} {said : List Reaction} (h : Commands env P A w said w')
    (hw : w.names.Wf) (hl : w.names.linked A = some .freeGrok) (hA : A ≠ -1) (hx : x ≠ -1)
    (ha : (w.view x).Accounted) : (w'.view x).Accounted := by
  induction h with
  | refl => exact ha
  | tail hsteps hc ih =>
    obtain ⟨_, hw', hl', _⟩ := Commands.effects hsteps hl hw hA
    exact hc.accounted hw' hl' hx ih

theorem MainRead.accounted {A : SockT} (h : MainRead env P A w w') (hw : w.Sound)
    (hl : w.names.linked A = some .freeGrok) (hA : A ≠ -1) (hx : x ≠ -1)
    (ha : (w.view x).Accounted) : (w'.view x).Accounted := by
  cases h with
  | failed _ _ => exact ha.of_registry rfl
  | heard _ _ _ _ _ _ _ _ _ => exact ha.of_registry rfl
  | frame hheard hcommands hadvanced =>
    have hl1 := hheard.registry ▸ hl
    have hcommanded := hcommands.accounted (hheard.sound hw).wf hl1 hA hx (ha.of_registry hheard.registry)
    exact hcommanded.of_registry hadvanced.registry

/-! ### Events -/

theorem World.deleted_linked (w : World) (x : SockT) (p : Ptr) (b : IObserver) (l : List SockT) :
    ((w.deleted p b l).view x).linked = none ∨
      ((w.deleted p b l).view x).linked = (w.view x).linked := by
  have hall : ((w.detachedAll l).view x).linked = none ∨
      ((w.detachedAll l).view x).linked = (w.view x).linked := by
    rw [World.view_detachedAll]
    split
    · exact .inl rfl
    · exact .inr rfl
  rw [World.view_deleted]
  split <;> exact hall

/-- A main connection goes, and its proxy with it. -/
theorem View.Accounted.torn {A : SockT} {p : Ptr} {px : GrokProxy} (h : (w.view x).Accounted)
    (hw : w.names.Wf) (hx : x ≠ -1) (hl : w.names.linked A = some .freeGrok)
    (hp : w.proxies.lookup p = some px) : ((w.torn A env p px w.freeGrok).view x).Accounted := by
  have hclient (hmem : x ∈ env.order px.clients.keys) : (w.view x).linked ≠ some .httpInterface := by
    have hmem : x ∈ px.clients := (env.order_perm _).mem_iff.mp hmem
    have hlinked := hw.clients_linked (World.proxy_names hp).2 hmem hx
    show w.names.linked x ≠ _
    rw [hlinked]
    simp
  have hshut : ((w.shutDown p px (w.idPool.release (px.heldIds env))).view x).Accounted := h
  have hdeleted := hshut.deleted (b := px.toIObserver) hclient p
  rw [World.view_torn]
  split
  · next he =>
    subst he
    apply gone
    apply hdeleted.unparsed
    rcases World.deleted_linked (w.shutDown p px (w.idPool.release (px.heldIds env))) x p px.toIObserver
      (env.order px.clients.keys) with hnone | hsame
    · rw [hnone]
      simp
    · rw [hsame]
      show w.names.linked x ≠ _
      rw [hl]
      decide
  · exact hdeleted

theorem HungUp.accounted (h : HungUp env fd w w') (hw : w.Sound) (hx : x ≠ -1)
    (ha : (w.view x).Accounted) : (w'.view x).Accounted := by
  have hforgot : ((HttpInterface.onDisconnect fd w).view x).Accounted ∧
      (x = fd → ((HttpInterface.onDisconnect fd w).view x).parser = none) := by
    unfold HttpInterface.onDisconnect
    split
    · next hnone => exact ⟨ha, fun he => he ▸ hnone⟩
    · have hview : (w.forgot fd).view x = _ := World.view_forgot w x fd
      show ((w.forgot fd).view x).Accounted ∧ (x = fd → ((w.forgot fd).view x).parser = none)
      rw [hview]
      split
      · exact ⟨⟨ha.used, fun hparser => absurd rfl hparser⟩, fun _ => rfl⟩
      · next hne => exact ⟨ha, fun he => absurd he hne⟩
  have hmain {o : ObserverPtr} (hl : w.names.linked fd = some o) (ho : o ≠ .httpInterface)
      (he : x = fd) : (w.view x).parser = none := by
    apply ha.unparsed
    subst he
    show w.names.linked x ≠ _
    rw [hl]
    exact fun hsame => ho (Option.some.inj hsame)
  cases h with
  | nobody _ => exact ha
  | listener _ _ => exact hforgot.1
  | idle b hl _ _ => exact ha.left (hmain hl (by decide)) _ b
  | owner u p px hl _ _ hp => exact ha.torn hw.wf hx hl hp
  | client p px id b hl hp _ _ =>
    have huntabled : ((w.untabled fd p px id).view x).Accounted := ha
    have hreg : (FreeGrok.sendDisconnected env px.initiator id (w.untabled fd p px id)).toRegistry =
      (w.untabled fd p px id).toRegistry := FStreamer.send_registry ..
    refine (huntabled.of_registry hreg).left (fun he => ?_) _ b
    have hparser := congrArg (fun r : Registry => r.http.parsers.lookup x) hreg
    exact hparser.trans (hmain hl (by simp) he)
  | http b _ _ => exact hforgot.1.left hforgot.2 _ b

theorem Met.parser {o : ObserverPtr} (h : Met env os w o w') (ho : o ≠ .httpInterface) :
    w'.names.parser = w.names.parser := by
  have harrived (o : ObserverPtr) : (w.arrived os o).names.parser = w.names.parser := by
    unfold World.arrived tcpAccept
    split <;> rfl
  cases h with
  | freeGrok => exact harrived .freeGrok
  | httpInterface => exact absurd rfl ho
  | grokProxy p px hp =>
    have hproxies : (w.arrived os (.grokProxy p)).proxies = w.proxies := tcpAccept_proxies os w
    rw [World.names_announced _ _ env (hproxies ▸ hp)]
    exact harrived (.grokProxy p)

/-- The connection that a listener accepts is linked to it. -/
theorem Met.accounted {o : ObserverPtr} {b : IObserver} (h : Met env os w o w') (hw : w.Sound)
    (hos : os.Fresh w.toRegistry) (hx : x ≠ -1) (ha : (w.view x).Accounted) :
    ((w'.admitted (tcpAccept os w).1 o b).view x).Accounted := by
  rw [tcpAccept_fst, World.view_admitted]
  split
  · next he =>
    have hunused : Unused w.toRegistry os.accept := hos.accept.resolve_left (he ▸ hx)
    have hnone : (w.view x).parser = none := ha.unparsed (he ▸ unused_unlinked hw.wf hunused)
    have hparser_same := h.parser
    rw [View.add_eq]
    refine ⟨fun _ => .inr (Option.some_ne_none o), fun hparser => ?_⟩
    cases h with
    | httpInterface => rfl
    | freeGrok => exact absurd ((congrFun (hparser_same (by decide)) x).trans hnone) hparser
    | grokProxy p px _ => exact absurd ((congrFun (hparser_same (by simp)) x).trans hnone) hparser
  · next hne =>
    cases h with
    | freeGrok =>
      rw [World.arrived_other hx hne]
      exact ha
    | httpInterface =>
      rw [World.view_setParser, tcpAccept_fst, if_neg hne, World.arrived_other hx hne]
      exact ha
    | grokProxy p px hp =>
      have harrived : ((w.arrived os (.grokProxy p)).view x).Accounted := by
        rw [World.arrived_other hx hne]
        exact ha
      have hproxies : (w.arrived os (.grokProxy p)).proxies = w.proxies := tcpAccept_proxies os w
      apply harrived.of_names
      · exact World.names_announced _ (tcpAccept os w).1 env (hproxies ▸ hp)
      · rfl
      · rfl
      · rfl
      · rfl

theorem DidRead.accounted (h : DidRead env os fd w w') (hw : w.Sound) (hfd : fd ≠ -1)
    (hos : os.Fresh w.toRegistry) (hx : x ≠ -1) (ha : (w.view x).Accounted) :
    (w'.view x).Accounted := by
  cases h with
  | accepted o b _ hmet _ => exact hmet.accounted hw hos hx ha
  | frame hl hread =>
    have hmain := readMain_read (P := Loop.anyTerms) hw hfd hl hos (fun _ _ => trivial)
      (fun _ => trivial) hread
    exact hmain.accounted hw hl hfd hx ha
  | unheard _ => exact ha
  | relayed p t id bytes _ _ _ _ =>
    have hlog : ((w.log (.recv fd bytes)).view x).Accounted := ha.of_registry rfl
    exact hlog.of_registry (FStreamer.send_registry ..)
  | fed parser bytes hl _ _ =>
    have hlog : ((w.log (.recv fd bytes)).view x).Accounted := ha.of_registry rfl
    have hfed : ((parser.feed env bytes (w.log (.recv fd bytes))).2.view x).Accounted :=
      hlog.of_registry (StreamingParser.feed_registry ..)
    rw [World.view_setParser]
    split
    · next he =>
      refine ⟨hfed.used, fun _ => ?_⟩
      show (parser.feed env bytes (w.log (.recv fd bytes))).2.names.linked x = _
      rw [StreamingParser.feed_registry, he]
      exact hl
    · exact hfed

theorem Outcome.accounted {ev : Loop.Event} (h : Outcome env os ev w w') (hw : w.Sound)
    (hfd : ev.fd ≠ -1) (hos : os.Fresh w.toRegistry)
    (hquiet : ev.hangsUp = false → ev.events.epollout = true → w.observers.lookup ev.fd = none)
    (hx : x ≠ -1) (ha : (w.view x).Accounted) : (w'.view x).Accounted := by
  cases h with
  | hungUp _ h => exact h.accounted hw hx ha
  | connected hup hout h =>
    cases h with
    | connected o b ho _ _ _ => exact absurd ((hquiet hup hout).symm.trans ho) (by simp)
  | written _ _ h => exact ha.of_registry (Loop.written_registry h)
  | read _ _ hwritten h =>
    have hreg := Loop.written_registry hwritten
    exact h.accounted (Loop.written_sound hw hfd hwritten) hfd (hreg ▸ hos) hx (ha.of_registry hreg)

end

/-! ### Listeners -/

/-- The main server and the HTTP interface listen where they did when the loop was started. -/
structure Names.Listening (l : Listeners) (n : Names) : Prop where
  freeGrok : n.observer l.freeGrok = some .freeGrok
  http : n.observer l.http = some .httpInterface
  freeGrok_socket : ∀ {b}, n.base .freeGrok = some b → b.socket = l.freeGrok
  http_socket : ∀ {b}, n.base .httpInterface = some b → b.socket = l.http

section
variable {env : Env} {P : Terms} {w w' : World} {l : Listeners} {n n' : Names}

namespace Names.Listening

theorem boot (l : Listeners) : (World.boot l).names.Listening l where
  freeGrok := by simp [Registry.names, World.boot, l.distinct]
  http := by simp [Registry.names, World.boot]
  freeGrok_socket hb := by
    cases hb
    rfl
  http_socket hb := by
    cases hb
    rfl

/-- Only proxies' listeners come and go, and the others' sockets do not change. -/
theorem of_le (h : n.Listening l)
    (hobserver : ∀ x o, (∀ p, o ≠ .grokProxy p) → n.observer x = some o → n'.observer x = some o)
    (hbase : ∀ o b', (∀ p, o ≠ .grokProxy p) → n'.base o = some b' →
      ∃ b, n.base o = some b ∧ b'.socket = b.socket) : n'.Listening l where
  freeGrok := hobserver _ _ (by simp) h.freeGrok
  http := hobserver _ _ (by simp) h.http
  freeGrok_socket hb := by
    obtain ⟨b, hold, hsocket⟩ := hbase _ _ (by simp) hb
    rw [hsocket, h.freeGrok_socket hold]
  http_socket hb := by
    obtain ⟨b, hold, hsocket⟩ := hbase _ _ (by simp) hb
    rw [hsocket, h.http_socket hold]

theorem of_eq (h : n.Listening l) (hobserver : n'.observer = n.observer) (hbase : n'.base = n.base) :
    n'.Listening l :=
  h.of_le (fun _ _ _ hx => hobserver ▸ hx) fun _ b _ hb => ⟨b, hbase ▸ hb, rfl⟩

/-- An observer is written back with its own socket. -/
theorem of_update (h : n.Listening l) {o : ObserverPtr} {b b' : IObserver}
    (hobserver : n'.observer = n.observer) (hb : n.base o = some b)
    (hbase : n'.base = Function.update n.base o (some b')) (hsocket : b'.socket = b.socket) :
    n'.Listening l := by
  refine h.of_le (fun _ _ _ hx => hobserver ▸ hx) fun o' b'' _ hb'' => ?_
  rw [hbase, Function.update_apply] at hb''
  split at hb''
  · next he =>
    cases hb''
    exact ⟨b, he ▸ hb, hsocket⟩
  · exact ⟨b'', hb'', rfl⟩

/-- A proxy's listener comes or goes. -/
theorem of_proxy (h : n.Listening l) {p : Ptr} {sock : SockT} {o : Option ObserverPtr}
    {b : Option IObserver}
    (hobserver : n'.observer = Function.update n.observer sock o)
    (hsock : ∀ o, n.observer sock = some o → o = .grokProxy p)
    (hbase : n'.base = Function.update n.base (.grokProxy p) b) : n'.Listening l := by
  apply h.of_le
  · intro x o ho hx
    have hne : x ≠ sock := by
      rintro rfl
      exact ho p (hsock o hx)
    rw [hobserver, Function.update_of_ne hne, hx]
  · intro o b' ho hb'
    rw [hbase, Function.update_of_ne (ho p)] at hb'
    exact ⟨b', hb', rfl⟩

end Names.Listening

theorem World.created_listening {A sock : SockT} (h : w.names.Listening l) (hw : w.names.Wf)
    (hu : Unused w.toRegistry sock) (port listeningPort : UInt16) :
    (w.created A sock port listeningPort).names.Listening l := by
  rw [World.names_created]
  apply h.of_proxy (p := w.nextProxy) rfl _ rfl
  intro o hob
  exact absurd hu.closed (hw.observer_open hob)

/-- The listener of a proxy that is deleted is the proxy's. -/
theorem World.deleted_listening {p : Ptr} {b : IObserver} (h : w.names.Listening l)
    (hb : w.names.base (.grokProxy p) = some b) (hob : w.names.observer b.socket = some (.grokProxy p))
    (clients : List SockT) : (w.deleted p b clients).names.Listening l := by
  rw [World.names_deleted w hb]
  apply h.of_proxy rfl _ rfl
  intro o ho
  exact Option.some.inj (ho.symm.trans hob)

theorem World.left_listening {o : ObserverPtr} {b : IObserver} (h : w.names.Listening l)
    (hb : w.names.base o = some b) (x : SockT) : (w.left x o b).names.Listening l := by
  rw [World.names_left w x hb]
  exact h.of_update rfl hb rfl rfl

theorem World.untabled_listening {p : Ptr} {px : GrokProxy} (h : w.names.Listening l)
    (hp : w.proxies.lookup p = some px) (x : SockT) (id : CIdT) :
    (w.untabled x p px id).names.Listening l ∧ (w.untabled x p px id).names.base = w.names.base := by
  rw [World.names_untabled w x hp]
  exact ⟨h.of_eq rfl rfl, rfl⟩

theorem Command.listening {A : SockT} {said : List Reaction} (h : Command env P A w said w')
    (hw : w.names.Wf) (hl : w.names.Listening l) : w'.names.Listening l := by
  cases h with
  | message type length buffer _ _ => exact hl
  | granted type length buffer _ =>
    rw [World.names_granted]
    exact hl.of_eq rfl rfl
  | delivered p t id y length buffer body _ _ _ _ _ =>
    rw [Loop.send_registry]
    exact hl
  | dropped p px id y o b buffer hp _ _ _ _ hb _ =>
    obtain ⟨huntabled, hbase⟩ := World.untabled_listening (w := w.log (.message A grokDisconnect
      cIdSize (some buffer))) hl hp y id
    exact World.left_listening huntabled ((congrFun hbase o).trans hb) y
  | untabled p px id y buffer hp _ _ _ _ =>
    exact (World.untabled_listening (w := w.log (.message A grokDisconnect cIdSize (some buffer)))
      hl hp y id).1
  | replied type payload _ _ =>
    rw [FStreamer.send_registry]
    exact hl
  | touched =>
    rw [World.names_gatherUser]
    exact hl.of_eq rfl rfl
  | created sock port listeningPort _ _ hu _ => exact World.created_listening hl hw hu port listeningPort
  | discarded sock port _ _ hu _ =>
    have hcreated := World.created_listening (A := A) hl hw hu port 0
    have hnames := World.names_created w A sock port 0
    refine World.deleted_listening ?_ ?_ ?_ []
    · rw [FStreamer.send_registry]
      exact hcreated
    · rw [FStreamer.send_registry, hnames]
      exact Function.update_self ..
    · rw [FStreamer.send_registry, hnames]
      exact Function.update_self ..

theorem World.torn_listening {A : SockT} {p : Ptr} {px : GrokProxy} {b : IObserver}
    (h : w.names.Listening l) (hw : w.names.Wf) (hp : w.proxies.lookup p = some px)
    (hb : w.names.base .freeGrok = some b) : (w.torn A env p px b).names.Listening l := by
  obtain ⟨ht, hbase⟩ := World.proxy_names hp
  obtain ⟨b', hb', hob⟩ := hw.tunnel_observed ht
  cases Option.some.inj (hbase.symm.trans hb')
  -- first the proxy goes, then the main server forgets its client
  have hgone : Names.Listening l { w.names with
      observer := Function.update w.names.observer px.socket none
      base := Function.update w.names.base (.grokProxy p) none } := by
    apply h.of_proxy rfl _ rfl
    intro o ho
    exact Option.some.inj (ho.symm.trans hob)
  have hne : ObserverPtr.freeGrok ≠ .grokProxy p := by simp
  have hmain : Function.update w.names.base (.grokProxy p) none .freeGrok = some b := by
    rw [Function.update_of_ne hne, hb]
  rw [World.names_torn w A env hp hb]
  exact hgone.of_update (b := b) rfl hmain rfl rfl

theorem Effect.listening (h : Effect env P w w') (hw : w.names.Wf) (hl : w.names.Listening l) :
    w'.names.Listening l := by
  cases h with
  | accepted fd item _ =>
    rw [World.names_accepted]
    exact hl.of_eq rfl rfl
  | refused o item _ => exact hl
  | parsed fd parser _ _ =>
    rw [World.names_setParser]
    exact hl.of_eq rfl rfl
  | announced p px fd before _ _ hp _ _ _ =>
    rw [World.names_announced w fd env hp]
    exact hl.of_eq rfl rfl
  | admitted fd o b before _ hb _ _ _ _ =>
    rw [World.names_admitted w fd hb]
    exact hl.of_update rfl hb rfl rfl
  | flagged fd o b _ hb =>
    rw [World.names_flagged w fd hb]
    exact hl.of_update rfl hb rfl rfl
  | wrote fd front rest n _ _ _ =>
    rw [World.wrote_registry]
    exact hl
  | writeFailed fd _ =>
    rw [World.writeFailed_registry]
    exact hl
  | readFailed fd _ _ _ => exact hl
  | heard fd fd' state length u64 buffer bytes rest _ _ _ => exact hl
  | command A _ hc => exact hc.listening hw hl
  | relayed p t x id bytes _ _ _ =>
    rw [World.names_relayed]
    exact hl
  | captured x bytes _ _ => exact hl
  | served x bytes _ _ =>
    rw [Loop.send_registry]
    exact hl
  | forgot fd _ _ =>
    rw [World.names_forgot]
    exact hl.of_eq rfl rfl
  | torn A u p px b _ _ _ _ hp hb => exact World.torn_listening hl hw hp hb
  | left x o b _ _ hb _ _ _ => exact World.left_listening hl hb x
  | hungUp p px x id b _ hp _ _ hb =>
    obtain ⟨huntabled, hbase⟩ := World.untabled_listening hl hp x id
    have hreg : (FreeGrok.sendDisconnected env px.initiator id (w.untabled x p px id)).toRegistry =
      (w.untabled x p px id).toRegistry := FStreamer.send_registry ..
    refine World.left_listening (hreg ▸ huntabled) ?_ x
    rw [hreg, hbase]
    exact hb

end

/-! ### Runs -/

/-- What the selector watches on a listener, and that it watches every connection. -/
structure View.Registered (v : View) : Prop where
  listener : v.observer ≠ none → v.interest = some eventsR
  connection : v.linked ≠ none → v.interest ≠ none

theorem registered_lasting (magic : Bytes) (P : Promise) :
    Lasting magic P fun _ v => v.Registered where
  move {x v v'} hv hr hm := by
    obtain ⟨hclosed, hlistener, -, -⟩ := hv
    obtain ⟨hobserver, hlinked⟩ := hr
    cases hm with
    | note a _ => exact ⟨hobserver, hlinked⟩
    | _ => constructor <;> grind [Option.map_eq_none_iff]
  heard _ hr hh := by
    cases hh
    exact ⟨hr.listener, hr.connection⟩
  advanced _ hr ha := by
    cases ha
    exact ⟨hr.listener, hr.connection⟩

section
variable {env : Env} {l : Listeners} {also : Loop.State → Loop.Input → Prop} {s : Loop.State}
  {x : SockT} {w : World}

theorem Reachable.registered (h : ReachableIf env l also s) (hx : x ≠ -1) :
    (s.world.view x).Registered := by
  refine h.views (P := Loop.anyTerms) (fun s i _ => Loop.promised_any s i)
    (registered_lasting env.magic _) (fun x _ => ?_) x hx
  constructor
  · intro hobserver
    simp only [World.view, World.boot, Table.lookup_insert_ite, AList.lookup_empty] at hobserver ⊢
    split_ifs at hobserver ⊢ <;> simp_all
  · intro hlinked
    exact absurd rfl hlinked

theorem Reachable.listening (h : ReachableIf env l also s) : s.world.names.Listening l := by
  refine h.invariant (I := fun w => w.names.Listening l) (fun s i _ => Loop.promised_any s i)
    (.boot l) fun _ w w' _ hw hl hhandled => hhandled.invariant hw
      (I := fun w => w.names.Listening l) ?_ ?_ ?_ hl
  · exact fun _ _ hw hl heff => heff.listening hw.wf hl
  · intro _ _ _ hl hheard
    rw [hheard.registry]
    exact hl
  · intro _ _ _ hl hadvanced
    rw [hadvanced.registry]
    exact hl

theorem ReachableIf.accounted (h : ReachableIf env l Loop.ListenersQuiet s) (hx : x ≠ -1) :
    (s.world.view x).Accounted := by
  refine Reach.invariant (P := fun s => (s.world.view x).Accounted) h ?_ ?_
  · constructor
    · intro hopened
      simp only [World.view, World.boot, Table.lookup_insert_ite, AList.lookup_empty] at hopened ⊢
      split_ifs at hopened ⊢ <;> simp_all
    · intro hparser
      exact absurd rfl hparser
  · intro s i s' hr ha hallowed hstep
    have hsound : s.Sound := Reachable.sound hr
    cases i with
    | wait batch =>
      rw [Loop.step_wait hstep]
      exact ha
    | handle os =>
      obtain ⟨_, rfl⟩ | ⟨ev, rest, broke, w, hpending, hhandle, rfl⟩ := Loop.step_handle hstep
      · exact ha
      · have hfd : ev.event.fd ≠ -1 := hsound.pending ev (by simp [hpending])
        have hquiet := hallowed.2
        simp only [Loop.ListenersQuiet, hpending] at hquiet
        exact (handleEvent_outcome hsound.world hfd hhandle).accounted hsound.world hfd hallowed.1.2
          hquiet hx ha

/-- What is observed is a listener, and what is linked a connection. -/
theorem World.uses_iff (hw : w.names.Wf) (hl : w.names.Listening l) (x : SockT) (u : DescriptorUse) :
    w.Uses l x u ↔ w.names.observer x = some .freeGrok ∧ u = .freeGrok ∨
      w.names.observer x = some .httpInterface ∧ u = .http ∨
      (∃ p, w.names.observer x = some (.grokProxy p) ∧ u = .listener p) ∨
      ∃ o, w.names.linked x = some o ∧ u = .connection o := by
  cases u with
  | freeGrok =>
    constructor
    · rintro rfl
      exact .inl ⟨hl.freeGrok, rfl⟩
    · intro h
      have hob : w.names.observer x = some .freeGrok := by simpa using h
      obtain ⟨b, hb, hsocket, _⟩ := hw.observer_base hob
      exact hsocket.symm.trans (hl.freeGrok_socket hb)
  | http =>
    constructor
    · rintro rfl
      exact .inr (.inl ⟨hl.http, rfl⟩)
    · intro h
      have hob : w.names.observer x = some .httpInterface := by simpa using h
      obtain ⟨b, hb, hsocket, _⟩ := hw.observer_base hob
      exact hsocket.symm.trans (hl.http_socket hb)
  | listener p =>
    constructor
    · rintro ⟨px, hp, rfl⟩
      obtain ⟨ht, hb⟩ := World.proxy_names hp
      obtain ⟨b, hb', hob⟩ := hw.tunnel_observed ht
      cases Option.some.inj (hb.symm.trans hb')
      exact .inr (.inr (.inl ⟨p, hob, rfl⟩))
    · intro h
      have hob : w.names.observer x = some (.grokProxy p) := by simpa using h
      obtain ⟨b, hb, hsocket, _⟩ := hw.observer_base hob
      cases hp : w.proxies.lookup p with
      | none => simp [Registry.names, Registry.base, hp] at hb
      | some px =>
        cases Option.some.inj ((World.proxy_names hp).2.symm.trans hb)
        exact ⟨px, hp, hsocket⟩
  | connection o =>
    constructor
    · intro h
      exact .inr (.inr (.inr ⟨o, h, rfl⟩))
    · intro h
      show w.names.linked x = some o
      simpa using h

/-- A listener is no connection, and no two listeners share a descriptor. -/
theorem World.uses_one (hw : w.names.Wf) (hl : w.names.Listening l) {u u' : DescriptorUse}
    (hu : w.Uses l x u) (hu' : w.Uses l x u') : u = u' := by
  rw [World.uses_iff hw hl] at hu hu'
  cases hob : w.names.observer x with
  | some o =>
    have hnone := hw.observer_unlinked hob
    cases o <;> simp only [hob, hnone] at hu hu' <;> simp_all
  | none =>
    cases hlinked : w.names.linked x <;> simp_all

theorem World.uses_open (hw : w.names.Wf) (hl : w.names.Listening l) (hx : x ≠ -1) {u : DescriptorUse}
    (hu : w.Uses l x u) : w.names.opened x ≠ none := by
  rcases (World.uses_iff hw hl x u).mp hu with ⟨hob, _⟩ | ⟨hob, _⟩ | ⟨p, hob, _⟩ | ⟨o, hlinked, _⟩
  · exact hw.observer_open hob
  · exact hw.observer_open hob
  · exact hw.observer_open hob
  · exact (hw.linked_open hx hlinked).1

/-- Whatever is observed or linked has a use. -/
theorem World.uses_known (hw : w.names.Wf) (hl : w.names.Listening l)
    (h : w.names.observer x ≠ none ∨ w.names.linked x ≠ none) : ∃ u, w.Uses l x u := by
  have huses := World.uses_iff hw hl x
  rcases h with hob | hlinked
  · obtain ⟨o, hob⟩ := Option.ne_none_iff_exists'.mp hob
    cases o with
    | freeGrok => exact ⟨.freeGrok, (huses _).mpr (.inl ⟨hob, rfl⟩)⟩
    | httpInterface => exact ⟨.http, (huses _).mpr (.inr (.inl ⟨hob, rfl⟩))⟩
    | grokProxy p => exact ⟨.listener p, (huses _).mpr (.inr (.inr (.inl ⟨p, hob, rfl⟩)))⟩
  · obtain ⟨o, hlinked⟩ := Option.ne_none_iff_exists'.mp hlinked
    exact ⟨.connection o, (huses _).mpr (.inr (.inr (.inr ⟨o, hlinked, rfl⟩)))⟩

/-- **Every open descriptor has exactly one use, and what is in use is open**: in every run in which
no EPOLLOUT is reported for a listener, a descriptor is open if and only if it is the listener of the
main server, of the HTTP interface or of a live proxy, or a connection that the loop knows, and then
it is one of these only; it is registered with the selector if and only if it is open; a listener is
never watched for EPOLLOUT; and the parsers are those of the HTTP connections. -/
theorem descriptors_accounted (h : ReachableIf env l Loop.ListenersQuiet s) (hx : x ≠ -1) :
    (s.world.openSocks.lookup x ≠ none ↔ ∃ u, s.world.Uses l x u) ∧
      (∀ u u', s.world.Uses l x u → s.world.Uses l x u' → u = u') ∧
      (s.world.interest.lookup x ≠ none ↔ s.world.openSocks.lookup x ≠ none) ∧
      (s.world.observers.lookup x ≠ none → s.world.interest.lookup x = some eventsR) ∧
      (s.world.http.parsers.lookup x ≠ none ↔
        s.world.linkedClients.lookup x = some .httpInterface) := by
  have hsound := (Reachable.sound h).world
  have hlistening := Reachable.listening h
  have haccounted := ReachableIf.accounted h hx
  have hregistered := Reachable.registered h hx
  refine ⟨⟨?_, ?_⟩, ?_, ⟨?_, ?_⟩, hregistered.listener, haccounted.parsed, ?_⟩
  · intro hopen
    exact World.uses_known hsound.wf hlistening (haccounted.used hopen)
  · rintro ⟨u, hu⟩
    exact World.uses_open hsound.wf hlistening hx hu
  · intro u u' hu hu'
    exact World.uses_one hsound.wf hlistening hu hu'
  · intro hinterest hclosed
    exact hinterest ((hsound.views hx).closed hclosed).2.2.2
  · intro hopen
    rcases haccounted.used hopen with hob | hl
    · intro hnone
      exact absurd (hnone.symm.trans (hregistered.listener hob)) (by simp)
    · exact hregistered.connection hl
  · intro hl hnone
    exact absurd (hnone.symm.trans (ReachableIf.served h hx hl).parser) (by simp)

/-- With two owners, 7 is a client of the first one's proxy, and 6 that proxy's listener. -/
theorem descriptors_accounted_owners : ∃ s, ReachableIf (.plain []) .plain Loop.ListenersQuiet s ∧
    (s.world.openSocks.lookup 7 ≠ none ↔ ∃ u, s.world.Uses .plain 7 u) ∧
    s.world.Uses .plain 7 (.connection (.grokProxy 0)) ∧ s.world.interest.lookup 6 = some eventsR := by
  obtain ⟨s, hs, hclient, hlistener⟩ := ReachableIf.exists_of_run (.plain []) .plain
    Loop.ListenersQuiet twoOwners
    (fun s => s.world.linkedClients.lookup 7 = some (.grokProxy 0) ∧ s.world.observers.lookup 6 ≠ none)
    (by decide +kernel) (by decide +kernel)
  obtain ⟨hopen, _⟩ := descriptors_accounted hs (x := 7) (by decide)
  obtain ⟨_, _, _, hinterest, _⟩ := descriptors_accounted hs (x := 6) (by decide)
  exact ⟨s, hs, hopen, hclient, hinterest hlistener⟩

end

end OpenGrok
