import OpenGrok.Properties.Batch
import OpenGrok.Properties.Descriptors
import OpenGrok.Properties.Readiness
import OpenGrok.Properties.Returning

/-! The server keeps running.

`Loop::run` ends only when something is thrown, or never comes to its next event when
something undefined is done. Neither happens in a run where the selector reports what it
was asked for and the calls on connections succeed: what stops the server elsewhere in
this development (a queue emptied by a call that failed, the pointer to a proxy that is
deleted) needs one of them to fail. -/
namespace OpenGrok

section
variable {env : Env} {os : Os} {w w' : World} {fd x A : SockT} {o : ObserverPtr} {p : Ptr}
  {px : GrokProxy}

/-! ### What an orderly event leaves -/

/-- Every server that a user has is there. -/
def Names.Live (n : Names) : Prop :=
  ∀ x u p, n.user x = some u → u.server = some p → n.tunnel p ≠ none

namespace Names.Live
variable {n n' : Names}

theorem unbroken (h : n.Live) (x : SockT) : n.standing x ≠ .broken := by
  unfold standing
  cases hserver : (n.user x).bind User.server with
  | none => nofun
  | some p =>
    obtain ⟨u, hu, hs⟩ := Option.bind_eq_some_iff.mp hserver
    obtain ⟨t, ht⟩ := Option.ne_none_iff_exists'.mp (h x u p hu hs)
    simp only [ht]
    nofun

theorem of_eq (h : n.Live) (huser : n'.user = n.user) (htunnel : n'.tunnel = n.tunnel) :
    n'.Live := by
  unfold Live
  rw [huser, htunnel]
  exact h

/-- A tunnel is written back. -/
theorem of_tunnel (h : n.Live) {t : Tunnel} (huser : n'.user = n.user)
    (htunnel : n'.tunnel = Function.update n.tunnel p (some t)) : n'.Live := by
  intro x u q hu hs
  rw [huser] at hu
  rw [htunnel, Function.update_apply]
  split
  · exact Option.some_ne_none t
  · exact h x u q hu hs

/-- A record is written back with its server. -/
theorem of_user (h : n.Live) {u' : User} (huser : n'.user = Function.update n.user A (some u'))
    (hserver : u'.server = ((n.user A).getD {}).server) (htunnel : n'.tunnel = n.tunnel) :
    n'.Live := by
  intro x u q hu hs
  rw [huser, Function.update_apply] at hu
  rw [htunnel]
  split at hu
  · cases hu
    rw [hserver] at hs
    cases hA : n.user A with
    | none =>
      rw [hA] at hs
      cases hs
    | some u0 =>
      rw [hA] at hs
      exact h A u0 q hA hs
  · exact h x u q hu hs

end Names.Live

/-- A frame that is sent leaves the tables alone. -/
theorem FStreamer.send_live (hl : w.names.Live) (type : UInt8) (payload : Bytes) :
    (FStreamer.send env A type payload w).names.Live := by
  rw [FStreamer.send_registry]
  exact hl

theorem FreeGrok.disconnect_live (hw : w.names.Wf) (hl : w.names.Live) {length : Nat}
    {buffer : Option Bytes} (h : FreeGrok.disconnect env A length { buffer } w = .ok w') :
    w'.names.Live := by
  unfold FreeGrok.disconnect at h
  split at h
  · cases h
    exact FStreamer.send_live hl grokError _
  · split at h
    · cases h
      exact FStreamer.send_live hl grokError _
    · obtain ⟨⟨clientId, reader⟩, _, h⟩ := Except.bind_ok_iff.mp h
      obtain ⟨p, _, h⟩ := Except.bind_ok_iff.mp h
      obtain ⟨px, hpx, h⟩ := Except.bind_ok_iff.mp h
      have hpx := FreeGrok.proxy_ok hpx
      split at h
      · cases h
        exact FStreamer.send_live hl grokError _
      · cases hx : px.idToSock.lookup (UInt32.ofNat clientId) with
        | none =>
          simp only [GrokProxy.disconnectClient, FreeGrok.proxy_eq hpx, bind, Except.bind, hx] at h
          cases h
          exact hl
        | some x =>
          have h := (FreeGrok.disconnectClient_eq hpx hx).symm.trans h
          have huntabled : (w.untabled x p px (UInt32.ofNat clientId)).names.Live := by
            rw [World.names_untabled w x hpx]
            exact hl.of_tunnel rfl rfl
          cases hlinked : w.linkedClients.lookup x with
          | some o =>
            have hlinked' :
                (w.untabled x p px (UInt32.ofNat clientId)).linkedClients.lookup x = some o := hlinked
            obtain ⟨b, hb, rfl⟩ := forceDisconnect_left hlinked' h
            rw [World.names_left _ x hb]
            exact huntabled.of_eq rfl rfl
          | none =>
            have hunobserved := World.client_unobserved hw hpx hx
            have hsame := (forceDisconnect_unknown env 3
              (w := w.untabled x p px (UInt32.ofNat clientId)) hlinked hunobserved).symm.trans h
            cases hsame
            exact huntabled

theorem FreeGrok.createServer_live (hos : os.Listens) (hl : w.names.Live) {length : Nat}
    {reader : BufferReader} (h : FreeGrok.createServer env os A length reader w = .ok w') :
    w'.names.Live := by
  obtain ⟨lport, hlistener, hzero⟩ := hos.listener
  rcases FreeGrok.createServer_spec h with ⟨_, rfl⟩ | ⟨_, port, w1, hport, hmade⟩
  · exact FStreamer.send_live hl grokError _
  · have hl1 : w1.names.Live := by
      rcases (FreeGrok.targetPort_spec hport).1 with rfl | rfl
      · exact hl
      · rw [World.names_gatherUser]
        exact hl.of_user rfl rfl rfl
    rcases hmade with ⟨_, rfl⟩ | ⟨n, lport', _, hlistener', ⟨hzero', _⟩ | ⟨_, rfl⟩⟩
    · exact FStreamer.send_live hl1 grokError _
    · -- a proxy without a port is deleted, but its owner keeps the pointer
      cases hlistener.symm.trans hlistener'
      exact absurd hzero' hzero
    · rw [FStreamer.send_registry, World.names_created]
      intro x u p hu hs
      dsimp only at hu ⊢
      rw [Function.update_apply] at hu ⊢
      split
      · exact Option.some_ne_none _
      · next hne =>
        split at hu
        · cases hu
          exact absurd (Option.some.inj hs).symm hne
        · exact hl1 x u p hu hs

theorem FreeGrok.packet_live (hl : w.names.Live) {length : Nat} {buffer : Option Bytes}
    (h : FreeGrok.packet env A length { buffer } w = .ok w') : w'.names.Live := by
  rcases packet_body h with ⟨code, rfl⟩ | ⟨p, id, body, _, _, _, h⟩
  · exact FStreamer.send_live hl grokError _
  · obtain ⟨px, _, h⟩ := Except.bind_ok_iff.mp h
    split at h
    · cases h
      exact hl
    · cases h
      rw [Loop.send_registry]
      exact hl

theorem FreeGrok.auth_live (hl : w.names.Live) {length : Nat} {buffer : Option Bytes}
    (h : FreeGrok.auth env A length { buffer } w = .ok w') : w'.names.Live := by
  unfold FreeGrok.auth at h
  split at h
  · cases h
    exact hl
  · obtain ⟨same, _, h⟩ := Except.bind_ok_iff.mp h
    split at h
    · cases h
      show (w.granted A).names.Live
      rw [World.names_granted]
      exact hl.of_user rfl rfl rfl
    · cases h
      exact hl

theorem FreeGrok.processMessage_live (hw : w.names.Wf) (hos : os.Listens) (hl : w.names.Live)
    {type : UInt8} {length : Nat} {buffer : Option Bytes}
    (h : FreeGrok.processMessage env os type length A buffer w = .ok w') : w'.names.Live := by
  have hlog : (w.log (.message A type length buffer)).names.Live := hl
  have hwf : (w.log (.message A type length buffer)).names.Wf := hw
  unfold FreeGrok.processMessage at h
  dsimp only at h
  split at h
  · cases h
    exact FStreamer.send_live hlog grokPing _
  split at h
  · exact FreeGrok.createServer_live hos hlog h
  split at h
  · exact FreeGrok.packet_live hlog h
  split at h
  · exact FreeGrok.disconnect_live hwf hlog h
  split at h
  · exact FreeGrok.auth_live hlog h
  split at h
  · cases h
    exact FStreamer.send_live hlog grokError _
  · cases h
    exact FStreamer.send_live hlog grokError _

theorem FreeGrok.react_live (hw : w.names.Wf) (hos : os.Listens) (hl : w.names.Live)
    {decoded : Decoded} (h : FreeGrok.react env os fd w decoded = .ok w') : w'.names.Live := by
  cases decoded with
  | more _ _ _ =>
    cases h
    exact hl
  | error code =>
    cases h
    exact FStreamer.send_live hl grokError [code]
  | message type length payload =>
    obtain ⟨v, hmessage, h⟩ := Except.bind_ok_iff.mp h
    cases h
    show v.names.Live
    exact FreeGrok.processMessage_live hw hos hl hmessage

theorem World.arrived_live (os : Os) (o : ObserverPtr) (hl : w.names.Live) :
    (w.arrived os o).names.Live := by
  unfold World.arrived tcpAccept
  split
  · exact hl
  · exact hl.of_eq rfl rfl

theorem Met.live (h : Met env os w o w') (hl : w.names.Live) : w'.names.Live := by
  have harrived := World.arrived_live os o hl
  cases h with
  | freeGrok => exact harrived
  | httpInterface =>
    rw [World.names_setParser]
    exact harrived.of_eq rfl rfl
  | grokProxy p px hp =>
    have hp' : (w.arrived os (.grokProxy p)).proxies.lookup p = some px :=
      (congrArg (AList.lookup p) (tcpAccept_proxies os w)).trans hp
    rw [World.names_announced _ _ env hp']
    exact harrived.of_tunnel rfl rfl

/-- A tunnel goes only with the owner that has it. -/
theorem World.torn_live {b : IObserver} {u : User} (hw : w.names.Wf) (hl : w.names.Live)
    (hu : w.names.user A = some u) (hs : u.server = some p) (hp : w.proxies.lookup p = some px)
    (hb : w.names.base .freeGrok = some b) : (w.torn A env p px b).names.Live := by
  rw [World.names_torn w A env hp hb]
  intro x u' q hu' hs'
  dsimp only at hu' ⊢
  rw [Function.update_apply] at hu'
  split at hu'
  · cases hu'
  · next hne =>
    have hother : q ≠ p := by
      rintro rfl
      have ht := (World.proxy_names hp).1
      exact hne ((hw.server_initiator hu' hs' ht).symm.trans (hw.server_initiator hu hs ht))
    rw [Function.update_of_ne hother]
    exact hl x u' q hu' hs'

theorem HungUp.live (h : HungUp env fd w w') (hw : w.names.Wf) (hl : w.names.Live) :
    w'.names.Live := by
  have htold : (HttpInterface.onDisconnect fd w).names.Live := by
    unfold HttpInterface.onDisconnect
    split
    · exact hl.of_eq rfl rfl
    · exact hl
  cases h with
  | nobody _ => exact hl
  | listener _ _ => exact htold
  | idle b _ _ hb =>
    rw [World.names_left w fd (o := .freeGrok) hb]
    exact hl.of_eq rfl rfl
  | owner u p px _ hu hs hp => exact World.torn_live hw hl hu hs hp rfl
  | client p px id b _ hp _ hb =>
    have hreg : (FreeGrok.sendDisconnected env px.initiator id (w.untabled fd p px id)).toRegistry =
      (w.untabled fd p px id).toRegistry := FStreamer.send_registry ..
    have huntabled : (w.untabled fd p px id).names.Live := by
      rw [World.names_untabled w fd hp]
      exact hl.of_tunnel rfl rfl
    rw [World.names_left _ fd (b := b) ?_, hreg]
    · exact huntabled.of_eq rfl rfl
    · show Registry.base (World.toRegistry _) (.grokProxy p) = some b
      rw [hreg]
      have hbase := congrArg Names.base (World.names_untabled w fd hp id)
      exact (congrFun hbase (.grokProxy p)).trans hb
  | http b _ hb =>
    rw [World.names_left _ fd (b := b) ((HttpInterface.onDisconnect_base fd w _).trans hb)]
    exact htold.of_eq rfl rfl

theorem DidRead.live (h : DidRead env os fd w w') (hw : w.Sound) (hfd : fd ≠ -1)
    (hl : w.names.Live) (hos : w.linkedClients.lookup fd = some .freeGrok → os.Listens) :
    w'.names.Live := by
  cases h with
  | accepted o b _ hmet hb =>
    rw [World.names_admitted _ _ hb]
    exact (hmet.live hl).of_eq rfl rfl
  | frame hlinked hread =>
    cases readMain_heard hw hfd hlinked hread with
    | failed _ _ _ _ _ _ => exact hl
    | partly _ _ _ _ _ _ _ _ _ => exact hl
    | wholly state length u64 buffer bytes _ _ _ _ hreact =>
      have hlive := FreeGrok.react_live (w := w.heard fd _ _ _) hw.wf (hos hlinked) hl hreact
      exact hlive
  | unheard _ => exact hl
  | relayed p t id bytes _ _ _ _ =>
    rw [World.names_relayed]
    exact hl
  | fed parser bytes _ _ _ =>
    rw [World.names_setParser, StreamingParser.feed_registry]
    exact hl.of_eq rfl rfl

/-! ### No call fails -/

theorem Action.Passive.unfailed {a : Action} (h : a.Passive) : a.failure = [] := by
  cases a <;> first | rfl | exact h.elim

theorem Action.Spoken.unfailed {a : Action} (h : a.Spoken fd) : a.failure = [] := by
  rcases h with h | ⟨_, h⟩
  · exact h.unfailed
  · cases a <;> first | rfl | exact absurd trivial h

theorem Loop.written_unfailed {ev : Loop.Event} (h : Loop.written os ev w = .ok w')
    (hsends : ev.events.epollout = true → Loop.writeFails os ev.fd w = false) :
    Grows (fun a => a.failure = []) w w' := by
  unfold Loop.written at h
  split at h
  · next hout =>
    obtain ⟨front, rest, hq, ⟨hneg, _⟩ | ⟨_, rfl⟩⟩ := performWriteQueue_spec h
    · have hq : (w.gatherQueue ev.fd).write = front :: rest := hq
      have hno := hsends hout
      simp only [Loop.writeFails, hq, decide_eq_false_iff_not] at hno
      exact absurd hneg hno
    · exact .wrote front rest _ rfl
  · cases h
    exact .refl w

theorem World.HeardAll.unfailed (h : w.HeardAll fd w') : Grows (fun a => a.failure = []) w w' := by
  cases h with
  | mk fd' state length u64 buffer bytes rest _ _ _ =>
    have hrecv : Grows (fun a => a.failure = []) w (w.log (.recv fd bytes)) := .log rfl
    exact hrecv.trans (.of_eq rfl)

/-- Reading fails only in `tcp_recv`. -/
theorem DidRead.unfailed (h : DidRead env os fd w w') (hw : w.Sound) (hfd : fd ≠ -1)
    (hos : os.Fresh w.toRegistry) (hreads : Loop.readFails os fd w = false) :
    Grows (fun a => a.failure = []) w w' := by
  have hrecv (bytes : Bytes) : Grows (fun a => a.failure = []) w (w.log (.recv fd bytes)) :=
    .log rfl
  cases h with
  | accepted o b _ hmet _ =>
    exact (hmet.grows.mono fun a ha => ha.1.unfailed).trans (.of_eq (World.admitted_trace ..))
  | frame hlinked hread =>
    have hmain : MainRead env { Loop.anyTerms with fail := fun _ _ => False } fd w w' :=
      readMain_read hw hfd hlinked hos (fun _ _ => trivial)
        (fun hfails => absurd (hfails.symm.trans hreads) Bool.true_eq_false.mp) hread
    cases hmain with
    | failed _ hno => exact hno.elim
    | heard _ _ _ _ _ bytes _ _ _ => exact (hrecv bytes).trans (.of_eq rfl)
    | frame hheard hcommands hadvanced =>
      have hspoken := hcommands.grows_spoken.mono fun a ha => ha.unfailed
      exact (hheard.unfailed.trans hspoken).trans hadvanced.grows
  | unheard _ => exact .refl w
  | relayed p t id bytes _ _ _ _ => exact (hrecv bytes).trans (.frame _ _ rfl fun _ => rfl)
  | fed parser bytes _ _ _ =>
    exact ((hrecv bytes).trans (StreamingParser.feed_grows env parser bytes _ fun _ => rfl)).trans
      (.of_eq rfl)

/-! ### Events -/

/-- Nothing goes wrong with the event: the selector reports what it was asked for, and no call on
a connection fails. What a call answers that the event does not make is up to the run. -/
structure Loop.Orderly (w : World) (os : Os) (ev : Event) : Prop where
  listener : w.observers.lookup ev.fd ≠ none → ev.hangsUp = false
  watched : ev.events.epollout = true → WatchesOut w ev.fd
  sends : ev.events.epollout = true → writeFails os ev.fd w = false
  delivers : ev.reads = true → w.linkedClients.lookup ev.fd ≠ none → os.Delivers
  listens : ev.reads = true → w.linkedClients.lookup ev.fd = some .freeGrok → os.Listens

instance (w : World) (fd : SockT) : Decidable (Loop.WatchesOut w fd) :=
  decidable_of_iff (∃ evs ∈ w.interest.lookup fd, evs.epollout = true) Iff.rfl

instance (w : World) (os : Os) (ev : Loop.Event) : Decidable (Loop.Orderly w os ev) :=
  decidable_of_iff
    ((w.observers.lookup ev.fd ≠ none → ev.hangsUp = false) ∧
      (ev.events.epollout = true → Loop.WatchesOut w ev.fd) ∧
      (ev.events.epollout = true → Loop.writeFails os ev.fd w = false) ∧
      (ev.reads = true → w.linkedClients.lookup ev.fd ≠ none → os.Delivers) ∧
      (ev.reads = true → w.linkedClients.lookup ev.fd = some .freeGrok → os.Listens))
    ⟨fun ⟨h1, h2, h3, h4, h5⟩ => ⟨h1, h2, h3, h4, h5⟩,
      fun ⟨h1, h2, h3, h4, h5⟩ => ⟨h1, h2, h3, h4, h5⟩⟩

/-- The selector never watches a listener for EPOLLOUT. -/
theorem Loop.Orderly.unwritable {ev : Loop.Event} (ho : Loop.Orderly w os ev)
    (hregistered : (w.view ev.fd).Registered) (hob : w.observers.lookup ev.fd ≠ none) :
    ev.events.epollout = false := by
  have hinterest : w.interest.lookup ev.fd = some eventsR := hregistered.listener hob
  cases hout : ev.events.epollout with
  | false => rfl
  | true =>
    obtain ⟨evs, hevs, hwatch⟩ := ho.watched hout
    cases Option.some.inj (hevs.symm.trans hinterest)
    cases hwatch

/-- The event that is handled is orderly. -/
def Loop.HandlesOrderly (s : State) : Input → Prop
  | .wait _ => True
  | .handle os => ∀ ev ∈ s.pending.head?, Orderly s.world os ev.event

instance (s : Loop.State) : ∀ i, Decidable (Loop.HandlesOrderly s i)
  | .wait _ => isTrue trivial
  | .handle os =>
    inferInstanceAs (Decidable (∀ ev ∈ s.pending.head?, Loop.Orderly s.world os ev.event))

/-- What a run promises in which every event finds its connection, its tables and its queues. -/
def Loop.Undisturbed (env : Env) (s : State) (i : Input) : Prop :=
  ProxiesAccept s i ∧ ClosesNoPending env s i ∧ HandlesOrderly s i

instance (env : Env) (s : Loop.State) (i : Loop.Input) : Decidable (Loop.Undisturbed env s i) :=
  inferInstanceAs (Decidable (_ ∧ _ ∧ _))

/-- No call of a connection has failed, and no owner waits for a server that is not there. -/
structure World.Untroubled (w : World) : Prop where
  live : w.names.Live
  unfailed : ∀ a ∈ w.trace, a.failure = []

theorem World.Untroubled.since (h : w.Untroubled) (x : SockT) :
    (w.view x).since Action.failure = [] :=
  History.since_eq_nil _ _ fun a ha => h.unfailed a (List.mem_filter.mp ha).1

/-- A write that succeeds leaves the queued read alone. -/
theorem Loop.written_reads {ev : Loop.Event} {w1 : World} (h : Loop.written os ev w = .ok w1)
    (hsends : ev.events.epollout = true → Loop.writeFails os ev.fd w = false) :
    (w1.gatherQueue ev.fd).read = (w.gatherQueue ev.fd).read := by
  unfold Loop.written at h
  split at h
  · next hout =>
    rw [writeFails_spec h, hsends hout]
    rfl
  · cases h
    rfl

/-- A read that finds its queue settled succeeds, after any write of the same event. -/
theorem Loop.Orderly.read_succeeds {ev : Loop.Event} {w1 : World} (ho : Loop.Orderly w os ev)
    (hsettled : (w.view ev.fd).Settled) (hreads : ev.reads = true)
    (h : Loop.written os ev w = .ok w1) : Loop.readFails os ev.fd w1 = false := by
  have hreg := Loop.written_registry h
  have hsame := Loop.written_reads h ho.sends
  unfold Loop.readFails
  rw [hreg, hsame]
  split
  · next fd state length u64 buffer rest hl hq =>
    have hpart := hsettled hl fd state length u64 buffer rest hq
    have hdelivers := ho.delivers hreads (by rw [hl]; exact Option.some_ne_none _)
    obtain ⟨bytes, hne, hrecv⟩ := hdelivers.tcpRecv (Nat.sub_pos_of_lt hpart)
    obtain ⟨b, more, rfl⟩ := List.exists_cons_of_ne_nil hne
    rw [hrecv]
  · rfl

theorem World.Untroubled.grows (h : w.Untroubled) (hlive : w'.names.Live)
    (hgrows : Grows (fun a => a.failure = []) w w') : w'.Untroubled := by
  obtain ⟨new, hnew, hall⟩ := hgrows
  refine ⟨hlive, fun a ha => ?_⟩
  rw [hnew] at ha
  rcases List.mem_append.mp ha with ha | ha
  · exact hall a ha
  · exact h.unfailed a ha

/-- **An orderly event leaves nothing that has failed**, and every owner's server in place. -/
theorem Outcome.untroubled {ev : Loop.Event} (h : Outcome env os ev w w') (hw : w.Sound)
    (hfd : ev.fd ≠ -1) (hos : os.Fresh w.toRegistry) (ho : Loop.Orderly w os ev)
    (hregistered : (w.view ev.fd).Registered) (hsettled : (w.view ev.fd).Settled)
    (hu : w.Untroubled) : w'.Untroubled := by
  cases h with
  | hungUp _ h =>
    exact hu.grows (h.live hw.wf hu.live) (h.grows.mono fun a ha => ha.unfailed)
  | connected hup hout h =>
    cases h with
    | connected o b hob hmet hb _ =>
      have hob : w.observers.lookup ev.fd = some o := hob
      have hnone := ho.unwritable hregistered (by rw [hob]; exact Option.some_ne_none o)
      rw [hout] at hnone
      cases hnone
  | written _ _ h =>
    exact hu.grows ((Loop.written_registry h) ▸ hu.live) (Loop.written_unfailed h ho.sends)
  | read hup hin hwritten h =>
    have hreads : ev.reads = true := by simp [Loop.Event.reads, hup, hin]
    have hreg := Loop.written_registry hwritten
    have hw1 := Loop.written_sound hw hfd hwritten
    have hlive := h.live hw1 hfd (hreg ▸ hu.live) (by
      rw [hreg]
      exact ho.listens hreads)
    have hgrows := h.unfailed hw1 hfd (hreg ▸ hos) (ho.read_succeeds hsettled hreads hwritten)
    exact hu.grows hlive ((Loop.written_unfailed hwritten ho.sends).trans hgrows)

end

section
variable {env : Env} {os : Os} {l : Listeners} {s : Loop.State} {o : ObserverPtr}

/-- **Nothing fails in a run whose events are orderly.** -/
theorem ReachableIf.untroubled (h : ReachableIf env l (Loop.Undisturbed env) s) :
    s.world.Untroubled := by
  have hboot : (World.boot l).Untroubled := by
    refine ⟨fun x u p hu => ?_, nofun⟩
    exact absurd hu (by simp [World.boot, Registry.names])
  refine Reach.invariant (P := fun s => s.world.Untroubled) h hboot fun s i s' hr hu hi hstep => ?_
  have hs := Reachable.sound hr
  cases i with
  | wait batch =>
    rw [Loop.step_wait hstep]
    exact hu
  | handle os =>
    obtain ⟨_, rfl⟩ | ⟨ev, rest, broke, w, hpending, hhandle, rfl⟩ := Loop.step_handle hstep
    · exact hu
    · have hfd : ev.event.fd ≠ -1 := hs.pending ev (by simp [hpending])
      have ho : Loop.Orderly s.world os ev.event := hi.2.2.2 ev (by simp [hpending])
      exact (handleEvent_outcome hs.world hfd hhandle).untroubled hs.world hfd hi.1.2 ho
        (Reachable.registered hr hfd) (Reachable.settled hr _ hfd) hu

/-- Its reads never fail. -/
theorem ReachableIf.idle (h : ReachableIf env l (Loop.Undisturbed env) s) :
    ReachableIf env l Loop.ReadsFailIdle s := by
  refine h.mono_reached fun s i hr hi => ⟨hi.1, ?_⟩
  cases i with
  | wait batch => trivial
  | handle os =>
    unfold Loop.ReadsFailIdle
    cases hpending : s.pending with
    | nil => trivial
    | cons ev rest =>
      intro hreads
      have hfd : ev.event.fd ≠ -1 := (Reachable.sound hr).pending ev (by simp [hpending])
      have ho : Loop.Orderly s.world os ev.event := hi.2.2.2 ev (by simp [hpending])
      cases hwritten : Loop.written os ev.event s.world with
      | error e => exact id
      | ok w =>
        rintro ⟨hfails, _⟩
        have hok := ho.read_succeeds (Reachable.settled hr _ hfd) hreads hwritten
        exact absurd (hfails.symm.trans hok) Bool.true_eq_false.mp

/-- An event of a connection. -/
theorem Loop.handleEvent_connection_runs (hz : env.zstd.Fills)
    (h : ReachableIf env l (Loop.Undisturbed env) s) {ev : Loop.Event} (hfd : ev.fd ≠ -1)
    (hl : s.world.linkedClients.lookup ev.fd = some o) (ho : Loop.Orderly s.world os ev) :
    NoFault (Loop.handleEvent env os ev s.world) := by
  have hw := (Reachable.sound h).world
  have huntroubled := ReachableIf.untroubled h
  have hunbroken := huntroubled.live.unbroken ev.fd
  have hl' : s.world.linkedClients.lookup ev.fd ≠ none := by
    rw [hl]
    exact Option.some_ne_none o
  cases hup : ev.hangsUp with
  | true =>
    have hagreeing := Reachable.agreeing (h.mono fun _ _ hi => ⟨hi.1, hi.2.1⟩)
    have hunobserved : s.world.observers.lookup ev.fd = none := (hw.wf.linked_open hfd hl).2
    have hhup : (ev.events.epollhup || ev.events.epollrdhup) = true := hup
    unfold Loop.handleEvent Loop.hangUp
    rw [if_pos hhup]
    simp only [hunobserved]
    refine .bind (Loop.forceDisconnect_runs hw hl (fun _ => hunbroken) ?_) fun _ _ => .pure _
    rintro p rfl
    exact hagreeing.paired.known hl
  | false =>
    -- no call has failed, so a read is queued, and it is not received to its end
    have hready := Reachable.readReady h hfd
    have hread : (s.world.gatherQueue ev.fd).read ≠ [] := by
      intro hnil
      exact (hready hl').mp hnil (huntroubled.since ev.fd)
    have hsettled := Reachable.settled h ev.fd hfd
    rw [handleEvent_linked hw hfd hl hup]
    refine .bind ?_ fun w1 hwritten => ?_
    · unfold Loop.written
      refine .ite (fun hout => ?_) fun _ => .ok _
      obtain ⟨evs, hinterest, hwrite⟩ := Reachable.writeReady (ReachableIf.idle h) hfd hl'
      obtain ⟨evs', hinterest', hevs'⟩ := ho.watched hout
      cases Option.some.inj (hinterest.symm.trans hinterest')
      obtain ⟨w', hw'⟩ := Loop.performWriteQueue_ok os (hwrite.mpr hevs')
      exact .of_eq hw'
    · refine .ite (fun hin => ?_) fun _ => .pure _
      have hreads : ev.reads = true := by simp [Loop.Event.reads, hup, hin]
      have hreg := Loop.written_registry hwritten
      have hsame := Loop.written_reads hwritten ho.sends
      refine .bind ?_ fun _ _ => .pure _
      apply Loop.performReadQueue_runs hz (Loop.written_sound hw hfd hwritten) hfd
      · rw [hreg]
        exact hl
      · rw [hsame]
        exact hread
      · intro hmain fd state length u64 buffer rest hq
        have hmain : s.world.linkedClients.lookup ev.fd = some .freeGrok := hreg ▸ hmain
        exact hsettled hmain fd state length u64 buffer rest (hsame.symm.trans hq)
      · rw [hreg]
        exact hunbroken
      · exact ho.delivers hreads hl'
      · rintro rfl
        exact ho.listens hreads hl

/-- An event of a listener. -/
theorem Loop.handleEvent_listener_runs {w : World} (hw : w.Sound) {ev : Loop.Event}
    (ho : w.observers.lookup ev.fd = some o) (hregistered : (w.view ev.fd).Registered)
    (horderly : Loop.Orderly w os ev) :
    NoFault (Loop.handleEvent env os ev w) := by
  have hob : w.observers.lookup ev.fd ≠ none := by
    rw [ho]
    exact Option.some_ne_none o
  have hout := horderly.unwritable hregistered hob
  have hhup : (ev.events.epollhup || ev.events.epollrdhup) = false := horderly.listener hob
  unfold Loop.handleEvent
  rw [if_neg (by simp [hhup]), hout]
  refine .bind (.pure _) fun written hwritten => ?_
  cases hwritten
  refine .ite (fun _ => .pure _) fun _ => .ite (fun _ => ?_) fun _ => .pure _
  exact .bind (Loop.readable_runs hw ho) fun _ _ => .pure _

/-- A step of such a run succeeds. -/
theorem Loop.step_runs (hz : env.zstd.Fills) (h : ReachableIf env l (Loop.Undisturbed env) s)
    {i : Loop.Input} (hallowed : Loop.Allowed s i) (hi : Loop.Undisturbed env s i) :
    ∃ s', Loop.step env s i = .ok s' := by
  have hs := Reachable.sound h
  cases i with
  | wait batch =>
    have hlistens := (Reachable.listening h).freeGrok
    have hne : s.world.observers.entries ≠ [] := by
      intro hnil
      have hlookup : s.world.observers.lookup l.freeGrok = some .freeGrok := hlistens
      simp [AList.lookup, hnil] at hlookup
    unfold Loop.step
    dsimp only
    rw [if_neg hne]
    exact ⟨_, rfl⟩
  | handle os =>
    cases hpending : s.pending with
    | nil => exact absurd hpending hallowed.1
    | cons ev rest =>
      have horderly : Loop.Orderly s.world os ev.event := hi.2.2 ev (by simp [hpending])
      have hfd : ev.event.fd ≠ -1 := hs.pending ev (by simp [hpending])
      have hhandled : NoFault (Loop.handleEvent env os ev.event s.world) := by
        cases hobserved : s.world.observers.lookup ev.event.fd with
        | some o =>
          exact Loop.handleEvent_listener_runs hs.world hobserved (Reachable.registered h hfd)
            horderly
        | none =>
          cases hlinked : s.world.linkedClients.lookup ev.event.fd with
          | some o => exact Loop.handleEvent_connection_runs hz h hfd hlinked horderly
          | none =>
            -- the connection is gone: no data was pending for it, and a HUP is skipped
            have hspares : ReachableIf env l (Loop.ClosesNoPending env) s :=
              h.mono fun _ _ hi => ⟨hi.1, hi.2.2.1⟩
            refine .of_eq (Loop.handleEvent_unknown hobserved hlinked ?_)
            have hfirst : ev ∈ Loop.reached s.pending := by
              rw [hpending, Loop.reached]
              split <;> exact List.mem_cons_self ..
            cases htransfers : ev.event.transfers with
            | false => rfl
            | true =>
              rcases (Reachable.current hspares ev hfirst htransfers).2 with hknown | hknown
              · exact absurd hobserved hknown
              · exact absurd hlinked hknown
      obtain ⟨⟨broke, w'⟩, hw'⟩ := hhandled.returns
      refine ⟨⟨w', if broke then [] else rest⟩, ?_⟩
      unfold Loop.step
      simp only [hpending]
      exact Except.bind_ok_iff.mpr ⟨(broke, w'), hw', rfl⟩

/-- **The server keeps running**: a run of orderly events, in which proxies get what they accept
and a GROK_DISCONNECT closes no connection that has an EPOLLIN or an EPOLLOUT pending, never stops. -/
theorem runs_on (hz : env.zstd.Fills) {inputs : List Loop.Input}
    (h : Permitted (Loop.step env) (fun s i => Loop.Allowed s i ∧ Loop.Undisturbed env s i)
      ⟨World.boot l, []⟩ inputs) : ∃ s, run (Loop.step env) ⟨World.boot l, []⟩ inputs = .ok s :=
  Permitted.returns .start h fun _ _ hr hi => Loop.step_runs hz hr hi.1 hi.2

/-- Two owners are served, a client's data is relayed, and the client and its owner hang up. -/
theorem runs_on_owners : ∃ s, run (Loop.step (.plain [])) ⟨World.boot .plain, []⟩ (twoOwners ++
    [.readable 7 6, .data [1, 2], .wait [⟨⟨5, { epollout := true }⟩, 2⟩], .handle { send := 9 },
      .wait [⟨⟨7, { epollhup := true }⟩, 6⟩], .handle {},
      .wait [⟨⟨5, { epollrdhup := true }⟩, 2⟩], .handle {}]) = .ok s :=
  @runs_on (.plain []) .plain nofun _ (by decide +kernel)

end

end OpenGrok
