import OpenGrok.Properties.Conservation
import OpenGrok.Server.Trace

/-! The tables of a proxy's clients.

Four maps say who the clients of a proxy are: its two tables, its set of clients and the
loop's `linked_clients`. They agree (`ClientsAgree`) as long as `accept` gives a
descriptor whenever a proxy calls it, which no one checks: -1 is announced, tabled and
linked like a client. That the loop links a client where its proxy announced it is a
fact about two effects of one event; whatever else an event does keeps the maps in
agreement (`Effect.paired`). -/
namespace OpenGrok

/-- The tables of the proxy agree with each other, with its clients and with what the loop
knows about them. -/
structure ClientsAgree (w : World) (p : Ptr) (px : GrokProxy) : Prop where
  inverse : ∀ id x, px.idToSock.lookup id = some x ↔ px.sockToId.lookup x = some id
  clients : ∀ x, x ∈ px.clients ↔ px.sockToId.lookup x ≠ none
  linked : ∀ x, w.linkedClients.lookup x = some (.grokProxy p) ↔ px.sockToId.lookup x ≠ none
  opened : ∀ x, px.sockToId.lookup x ≠ none → w.openSocks.lookup x ≠ none

/-- A live proxy of the owner has the id that a CONNECTED frame tells. -/
def ConnectedPaired (w : World) (A : SockT) (payload : Bytes) : Prop :=
  ∃ p px id x, w.proxies.lookup p = some px ∧ px.initiator = A ∧
    payload = ByteBuffer.encode cIdSize id.toNat ∧
    px.idToSock.lookup id = some x ∧ px.sockToId.lookup x = some id

/-! ### Clients and links -/

/-- A proxy knows the clients that are linked to it, and no others; -1 is none of them. -/
structure Paired (n : Names) : Prop where
  known : ∀ {p x}, n.linked x = some (.grokProxy p) → ∃ id, n.Knows p x id
  linked : ∀ {p x id}, n.Knows p x id → n.linked x = some (.grokProxy p)
  real : ∀ {p b}, n.base (.grokProxy p) = some b → -1 ∉ b.clients

namespace Paired
variable {n n' : Names}

theorem of_same (h : Paired n) (hlinked : n'.linked = n.linked) (htables : SameTables n n')
    (hclients : ∀ p b', n'.base (.grokProxy p) = some b' → b'.clients = ∅ ∨
      ∃ b, n.base (.grokProxy p) = some b ∧ b'.clients = b.clients) : Paired n' where
  known hl := by
    obtain ⟨id, hid⟩ := h.known (hlinked ▸ hl)
    exact ⟨id, (htables.knows _ _ _).mpr hid⟩
  linked hid := hlinked ▸ h.linked ((htables.knows _ _ _).mp hid)
  real hb' := by
    obtain hc | ⟨b, hb, hc⟩ := hclients _ _ hb'
    · rw [hc]
      exact AList.notMem_empty _
    · rw [hc]
      exact h.real hb

theorem of_eq (h : Paired n) (hlinked : n'.linked = n.linked) (htunnel : n'.tunnel = n.tunnel)
    (hbase : n'.base = n.base) : Paired n' :=
  h.of_same hlinked (.of_eq htunnel) fun _ b' hb' => .inr ⟨b', hbase ▸ hb', rfl⟩

end Paired

section
variable {env : Env} {P : Terms} {w w' : World} {p : Ptr} {px : GrokProxy} {x : SockT} {id : CIdT}

/-- A client leaves the tables of its proxy, and the loop. -/
theorem Paired.leave {n n' : Names} {b : IObserver} (h : Paired n) (hw : n.Wf) (hx : x ≠ -1)
    (hknown : n.Knows p x id) (htables : Untabled p id x n n')
    (hlinked : n'.linked = Function.update n.linked x none)
    (hbase : n'.base = Function.update n.base (.grokProxy p) (some b))
    (hb : ∃ old, n.base (.grokProxy p) = some old ∧ b.clients = old.clients.erase x) :
    Paired n' := by
  constructor
  · intro q y hl
    rw [hlinked, Function.update_apply] at hl
    split at hl
    · cases hl
    · next hy =>
      obtain ⟨j, hj⟩ := h.known hl
      exact ⟨j, (htables.knows q y j).mpr ⟨hj, fun he => hy he.2⟩⟩
  · intro q y j hj
    obtain ⟨hj, hne⟩ := (htables.knows q y j).mp hj
    rw [hlinked, Function.update_apply, if_neg]
    · exact h.linked hj
    · intro hsame
      subst hsame
      exact hne ⟨(hw.knows_one hx hj hknown).1, rfl⟩
  · intro q b' hb'
    rw [hbase, Function.update_apply] at hb'
    split at hb'
    · next hq =>
      obtain ⟨old, hold, hclients⟩ := hb
      cases hb'
      rw [hclients, AList.mem_erase]
      exact fun hmem => h.real hold hmem.2
    · exact h.real hb'

theorem World.untabled_left_paired {v : World} {b : IObserver} (h : Paired w.names)
    (hw : w.names.Wf) (hpx : w.proxies.lookup p = some px) (hx : x ≠ -1)
    (hknown : w.names.Knows p x id) (hb : w.names.base (.grokProxy p) = some b)
    (hv : v.toRegistry = (w.untabled x p px id).toRegistry) :
    Paired (v.left x (.grokProxy p) b).names := by
  have hn : v.names = (w.untabled x p px id).names := congrArg Registry.names hv
  have hnames := hn.trans (World.names_untabled w x hpx id)
  have hb' : v.base (.grokProxy p) = some b := by
    show v.names.base (.grokProxy p) = some b
    rw [hnames]
    exact hb
  have hleft := World.names_left v x hb'
  have htables := World.untabled_tables hpx x id
  refine h.leave (b := { b with clients := b.clients.erase x }) hw hx hknown (htables.of_eq ?_) ?_ ?_
    ⟨b, hb, rfl⟩
  · rw [hleft, hn]
  · rw [hleft, hnames]
  · rw [hleft, hnames]

theorem Command.paired {A : SockT} {said : List Reaction} (h : Command env P A w said w')
    (hw : w.names.Wf) (hl : Ledger w) (hp : Paired w.names) : Paired w'.names := by
  cases h with
  | message type length buffer _ _ => exact hp
  | granted type length buffer _ =>
    rw [World.names_granted]
    exact hp.of_eq rfl rfl rfl
  | delivered p t id x length buffer body _ _ _ _ _ =>
    rw [Loop.send_registry]
    exact hp
  | dropped p px id x o b buffer hpx _ hid _ hlx hb _ =>
    have hheld : w.names.Holds p id x := ⟨_, (World.proxy_names hpx).1, hid⟩
    have hknown := hl.inverse.mp hheld
    cases (hp.linked hknown).symm.trans hlx
    exact World.untabled_left_paired hp hw hpx (hl.accepting hheld) hknown hb rfl
  | untabled p px id x buffer hpx _ hid _ hlx =>
    have hknown := hl.inverse.mp ⟨_, (World.proxy_names hpx).1, hid⟩
    rw [hp.linked hknown] at hlx
    cases hlx
  | replied type payload _ _ =>
    rw [FStreamer.send_registry]
    exact hp
  | touched =>
    rw [World.names_gatherUser]
    exact hp.of_eq rfl rfl rfl
  | created sock port listeningPort _ _ _ _ =>
    refine hp.of_same (by rw [World.names_created]) (World.created_tables hw port listeningPort)
      fun q b' hb' => ?_
    rw [World.names_created] at hb'
    dsimp only at hb'
    rw [Function.update_apply] at hb'
    split at hb'
    · cases hb'
      exact .inl rfl
    · exact .inr ⟨b', hb', rfl⟩
  | discarded sock port _ _ _ _ =>
    rw [World.discarded_names env hw]
    exact hp.of_eq rfl rfl rfl

/-- The loop links a client that its proxy knows. -/
theorem World.admitted_paired {fd : SockT} {o : ObserverPtr} {b : IObserver}
    (hb : w.names.base o = some b)
    (htabled : ∀ q, o = .grokProxy q → ∃ t id, w.names.tunnel q = some t ∧
      t.sockToId.lookup fd = some id)
    (htables : ∀ q t id, w.names.tunnel q = some t → t.sockToId.lookup fd = some id →
      o = .grokProxy q)
    (hreal : ∀ q, o = .grokProxy q → fd ≠ -1)
    (known : ∀ {q y}, w.names.linked y = some (.grokProxy q) → ∃ id, w.names.Knows q y id)
    (linked : ∀ {q y id}, w.names.Knows q y id → y ≠ fd → w.names.linked y = some (.grokProxy q))
    (real : ∀ {q b}, w.names.base (.grokProxy q) = some b → -1 ∉ b.clients) :
    Paired (w.admitted fd o b).names := by
  rw [World.names_admitted w fd hb]
  constructor
  · intro q y hly
    dsimp only at hly
    rw [Function.update_apply] at hly
    split at hly
    · next hy =>
      obtain ⟨t, id, ht, hid⟩ := htabled q (Option.some.inj hly)
      exact ⟨id, t, ht, hy ▸ hid⟩
    · exact known hly
  · intro q y id hid
    dsimp only
    rw [Function.update_apply]
    split
    · next hy =>
      obtain ⟨t, ht, hid⟩ := hid
      rw [htables q t id ht (hy ▸ hid)]
    · next hy => exact linked hid hy
  · intro q b' hb'
    dsimp only at hb'
    rw [Function.update_apply] at hb'
    split at hb'
    · next hq =>
      cases hb'
      rw [AList.mem_insert]
      exact not_or_intro (fun he => hreal q hq.symm he.symm) (real (hq ▸ hb))
    · exact real hb'

/-- **Whatever an event does but announce a client keeps clients and links in agreement.** -/
theorem Effect.paired (h : Effect env P w w') (hw : w.names.Wf) (hl : Ledger w)
    (hopen : ∀ p, ¬P.refuse (.grokProxy p)) (hdraw : ∀ px id, ¬P.draw px id)
    (hp : Paired w.names) : Paired w'.names := by
  cases h with
  | accepted fd item _ =>
    rw [World.names_accepted]
    exact hp.of_eq rfl rfl rfl
  | refused o item _ => exact hp
  | parsed fd parser _ _ =>
    rw [World.names_setParser]
    exact hp.of_eq rfl rfl rfl
  | announced p px fd before _ hd _ _ _ _ => exact absurd hd (hdraw _ _)
  | admitted fd o b before hneg hb _ htables htabled _ =>
    exact World.admitted_paired hb htabled
      (fun q t id ht hid => htables q t id (hl.accepting (hl.inverse.mpr ⟨t, ht, hid⟩)) ht hid)
      (fun q hq hfd => hopen q (hq ▸ hneg hfd)) hp.known (fun hid _ => hp.linked hid) hp.real
  | flagged fd o b _ hb =>
    rw [World.names_flagged w fd hb]
    refine hp.of_same rfl (.of_eq rfl) fun q b' hb' => .inr ?_
    dsimp only at hb'
    rw [Function.update_apply] at hb'
    split at hb'
    · next hq =>
      cases hb'
      exact ⟨b, hq ▸ hb, rfl⟩
    · exact ⟨b', hb', rfl⟩
  | wrote fd front rest n _ _ _ =>
    rw [World.wrote_registry]
    exact hp
  | writeFailed fd _ =>
    rw [World.writeFailed_registry]
    exact hp
  | readFailed fd _ _ _ => exact hp
  | heard fd fd' state length u64 buffer bytes rest _ _ _ => exact hp
  | command A _ hc => exact hc.paired hw hl hp
  | relayed p t y id bytes _ _ _ =>
    rw [World.names_relayed]
    exact hp
  | captured y bytes _ _ => exact hp
  | served y bytes _ _ =>
    rw [Loop.send_registry]
    exact hp
  | forgot fd _ _ =>
    rw [World.names_forgot]
    exact hp.of_eq rfl rfl rfl
  | torn A u p px b _ hlA hu hs hpx hb =>
    rw [World.names_torn w A env hpx hb]
    have hbase := (World.proxy_names hpx).2
    have hclient {y : SockT} (hy : w.names.linked y = some (.grokProxy p)) :
        y ∈ env.order px.clients.keys := by
      obtain ⟨b', hb', hmem⟩ := hw.linked_base hy
      cases Option.some.inj (hbase.symm.trans hb')
      exact (env.order_perm _).mem_iff.mpr hmem
    constructor
    · intro q y hly
      dsimp only at hly
      split at hly
      · cases hly
      · next hno =>
        obtain ⟨id, t, ht, hid⟩ := hp.known hly
        have hq : q ≠ p := by
          intro hsame
          subst hsame
          exact hno (.inr (hclient hly))
        exact ⟨id, t, (Function.update_of_ne hq _ _).trans ht, hid⟩
    · intro q y id hid
      obtain ⟨t, ht, hid⟩ := hid
      dsimp only at ht ⊢
      rw [Function.update_apply] at ht
      split at ht
      · cases ht
      · next hq =>
        have hknown : w.names.Knows q y id := ⟨t, ht, hid⟩
        have hly := hp.linked hknown
        rw [if_neg, hly]
        intro hcase
        rcases hcase with rfl | hmem
        · rw [hlA] at hly
          cases hly
        · have hne := hl.accepting (hl.inverse.mpr hknown)
          rw [hw.clients_linked hbase ((env.order_perm _).mem_iff.mp hmem) hne] at hly
          cases hly
          exact hq rfl
    · intro q b' hb'
      dsimp only at hb'
      have hq : ObserverPtr.grokProxy q ≠ .freeGrok := by simp
      rw [Function.update_of_ne hq, Function.update_apply] at hb'
      split at hb'
      · cases hb'
      · exact hp.real hb'
  | left y o b _ hly hb hno _ _ =>
    rw [World.names_left w y hb]
    constructor
    · intro q z hlz
      dsimp only at hlz
      rw [Function.update_apply] at hlz
      split at hlz
      · cases hlz
      · exact hp.known hlz
    · intro q z id hid
      have hlz := hp.linked hid
      dsimp only
      rw [Function.update_of_ne, hlz]
      intro hsame
      subst hsame
      exact hno q (Option.some.inj (hly.symm.trans hlz))
    · intro q b' hb'
      dsimp only at hb'
      rw [Function.update_of_ne (hno q).symm] at hb'
      exact hp.real hb'
  | hungUp p px y id b _ hpx hid hly hb =>
    have hknown : w.names.Knows p y id := ⟨_, (World.proxy_names hpx).1, hid⟩
    exact World.untabled_left_paired hp hw hpx (hl.accepting (hl.inverse.mpr hknown)) hknown hb
      (FStreamer.send_registry ..)

/-! ### CONNECTED frames -/

/-- No CONNECTED frame. -/
def Action.Unconnected (a : Action) : Prop := ∀ A payload, a ≠ .frame A grokConnected payload

theorem Action.unconnected_frame {A : SockT} {type : UInt8} {payload : Bytes}
    (h : type ≠ grokConnected) : (Action.frame A type payload).Unconnected :=
  fun _ _ he => by
    cases he
    exact h rfl

theorem Command.unconnected {A : SockT} {said : List Reaction} (h : Command env P A w said w') :
    Grows Action.Unconnected w w' := by
  cases h with
  | message type length buffer _ _ => exact .log nofun
  | granted type length buffer _ =>
    exact (Grows.log nofun).trans (.of_eq (FreeGrok.gatherUser_trace ..))
  | delivered p t id x length buffer body _ _ _ _ _ => exact (Grows.log nofun).trans (.send _ nofun)
  | dropped p px id x o b buffer _ _ _ _ _ _ _ =>
    exact ((Grows.log nofun).trans (.of_eq rfl)).trans (.left o b nofun)
  | untabled p px id x buffer _ _ _ _ _ => exact (Grows.log nofun).trans (.of_eq rfl)
  | replied type payload hreply _ =>
    exact .frame type payload (Action.unconnected_frame hreply.2.1) nofun
  | touched => exact .of_eq (FreeGrok.gatherUser_trace ..)
  | created sock port listeningPort _ _ _ _ => exact .created sock port listeningPort nofun
  | discarded sock port _ _ _ _ =>
    exact ((Grows.created sock port 0 nofun).trans (.frame grokError _
      (Action.unconnected_frame (by decide)) nofun)).trans (.deleted _ _ [] nofun nofun)

/-- Only an announcement sends a CONNECTED frame. -/
theorem Effect.connects (h : Effect env P w w') : Grows Action.Unconnected w w' ∨
    ∃ p px fd, w.proxies.lookup p = some px ∧ P.draw px w.idPool.getId.1 ∧
      w' = w.announced fd env p px := by
  cases h with
  | accepted fd item _ => exact .inl ((Grows.log nofun).trans (.of_eq rfl))
  | refused o item _ => exact .inl (.of_eq rfl)
  | parsed fd parser _ _ => exact .inl (.of_eq rfl)
  | announced p px fd before _ hdraw hp _ _ _ => exact .inr ⟨p, px, fd, hp, hdraw, rfl⟩
  | admitted fd o b before _ _ _ _ _ _ => exact .inl (.of_eq (World.admitted_trace fd o b w))
  | flagged fd o b _ _ => exact .inl (.of_eq (Selector.modify_trace fd eventsR _))
  | wrote fd front rest n _ _ _ => exact .inl (.wrote front rest n nofun)
  | writeFailed fd _ => exact .inl (.writeFailed nofun)
  | readFailed fd _ _ _ => exact .inl ((Grows.log nofun).trans (.of_eq rfl))
  | heard fd fd' state length u64 buffer bytes rest _ _ _ =>
    exact .inl ((Grows.log nofun).trans (.of_eq rfl))
  | command A _ hc => exact .inl hc.unconnected
  | relayed p t x id bytes _ _ _ =>
    exact .inl ((Grows.log nofun).trans (.frame grokPacket _
      (Action.unconnected_frame (by decide)) nofun))
  | captured x bytes _ _ => exact .inl (.log nofun)
  | served x bytes _ _ => exact .inl (.send bytes nofun)
  | forgot fd _ _ => exact .inl (.of_eq rfl)
  | torn A u p px b _ _ _ _ _ _ => exact .inl (.torn p px b nofun nofun nofun)
  | left x o b _ _ _ _ _ _ => exact .inl (.left o b nofun)
  | hungUp p px x id b _ _ _ _ _ =>
    exact .inl (.hungUp p px id b (Action.unconnected_frame (by decide)) nofun nofun)

theorem Effect.unconnected (h : Effect env P w w') (hdraw : ∀ px id, ¬P.draw px id) :
    Grows Action.Unconnected w w' := by
  obtain hgrows | ⟨p, px, fd, _, hd, _⟩ := h.connects
  · exact hgrows
  · exact absurd hd (hdraw _ _)

/-! ### Events -/

/-- What the tables of a run's worlds satisfy. -/
structure World.Agreeing (w : World) : Prop where
  ledger : Ledger w
  paired : Paired w.names

/-- The events that are not of a proxy's listener. -/
def Loop.unannounced : Terms :=
  { Loop.anyTerms with refuse := fun o => ∀ p, o ≠ .grokProxy p, draw := fun _ _ => False }

theorem Handled.unannounced {fd : SockT} (h : Handled env Loop.unannounced fd w w') (hw : w.Sound)
    (ha : w.Agreeing) : w'.Agreeing ∧ Grows Action.Unconnected w w' := by
  have hopen : ∀ p, ¬Loop.unannounced.refuse (.grokProxy p) := fun p h => h p rfl
  have hdraw : ∀ px id, ¬Loop.unannounced.draw px id := fun _ _ h => h
  refine h.invariant (I := fun v => v.Agreeing ∧ Grows Action.Unconnected w v) hw ?_ ?_ ?_
    ⟨ha, .refl w⟩
  · intro v v' hv hav heff
    refine ⟨⟨(heff.booked hv.wf).ledger (heff.wf hv.wf) hopen hav.1.ledger, ?_⟩,
      hav.2.trans (heff.unconnected hdraw)⟩
    exact heff.paired hv.wf hav.1.ledger hopen hdraw hav.1.paired
  · intro v v' _ hav hheard
    cases hheard
    exact ⟨⟨hav.1.ledger.of_same rfl rfl, hav.1.paired⟩,
      hav.2.trans ((Grows.log nofun).trans (.of_eq rfl))⟩
  · intro v v' _ hav hadvanced
    cases hadvanced
    exact ⟨⟨hav.1.ledger.of_same rfl rfl, hav.1.paired⟩, hav.2.trans (.of_eq rfl)⟩

variable {os : Os} {fd : SockT}

/-- A proxy announces what it accepts, and the loop links it. -/
theorem readable_listener (hw : w.Sound) (ho : w.observers.lookup fd = some (.grokProxy p))
    (h : Loop.readable env os fd w = .ok w') :
    ∃ px b, w.proxies.lookup p = some px ∧ w.names.base (.grokProxy p) = some b ∧
      w' = ((Loop.pushRead (tcpAccept os w).1 (opening (tcpAccept os w).1 (.grokProxy p))
        (tcpAccept os w).2).announced (tcpAccept os w).1 env p px).admitted (tcpAccept os w).1
        (.grokProxy p) b := by
  obtain ⟨b, hb, _, hserver⟩ := hw.wf.observer_base ho
  obtain ⟨px, hpx, hpxb⟩ := Option.map_eq_some_iff.mp hb
  unfold Loop.readable at h
  simp only [ho] at h
  obtain ⟨base, hbase, h⟩ := Except.bind_ok_iff.mp h
  cases Option.some.inj (hb.symm.trans (FreeGrok.observer_ok hbase))
  rw [if_pos hserver] at h
  obtain ⟨⟨client, w1⟩, hconnect, h⟩ := Except.bind_ok_iff.mp h
  have hconnect := (GrokProxy.onConnect_announced hpx).symm.trans hconnect
  obtain ⟨rfl, rfl⟩ := Prod.mk.inj (Except.ok.inj hconnect)
  obtain ⟨base', hbase', h⟩ := Except.bind_ok_iff.mp h
  cases h
  rw [Selector.add_registry] at hbase'
  have hbase' := FreeGrok.observer_ok hbase'
  refine ⟨px, base', hpx, ?_, rfl⟩
  have hpx' : (Loop.pushRead (tcpAccept os w).1 (opening (tcpAccept os w).1 (.grokProxy p))
      (tcpAccept os w).2).proxies.lookup p = some px := by
    show (tcpAccept os w).2.proxies.lookup p = _
    rw [tcpAccept_proxies]
    exact hpx
  have hsame : (tcpAccept os w).2.names.base (.grokProxy p) = w.names.base (.grokProxy p) := by
    show ((tcpAccept os w).2.proxies.lookup p).map _ = _
    rw [tcpAccept_proxies]
    rfl
  rw [← hsame]
  dsimp only at hbase'
  rw [World.names_announced _ _ env hpx'] at hbase'
  exact hbase'

/-- CONNECTED frames are for ids that are paired in the world. -/
def Action.ConnectsIn (w : World) (a : Action) : Prop :=
  ∀ A payload, a = .frame A grokConnected payload → ConnectedPaired w A payload

/-- The world when a client has been accepted, announced and linked. -/
def World.welcomed (w : World) (fd : SockT) (item : ReadItem) (env : Env) (p : Ptr)
    (px : GrokProxy) (b : IObserver) : World :=
  ((w.accepted fd item).announced fd env p px).admitted fd (.grokProxy p) b

theorem Grows.welcomed {ok : Action → Prop} {item : ReadItem} {b : IObserver}
    (h : ok (.accept fd))
    (hframe : ok (.frame px.initiator grokConnected
      (ByteBuffer.encode cIdSize w.idPool.getId.1.toNat)))
    (hq : ∀ bytes, ok (.queued px.initiator bytes))
    (ha : ∀ c, ok (.announced px.initiator w.idPool.getId.1 c)) :
    Grows ok w (w.welcomed fd item env p px b) := by
  have haccepted : Grows ok w (w.accepted fd item) := (Grows.log h).trans (.of_eq rfl)
  have hannounced : Grows ok (w.accepted fd item) ((w.accepted fd item).announced fd env p px) :=
    .announced p px hframe hq ha
  exact (haccepted.trans hannounced).trans (.of_eq (World.admitted_trace ..))

section
variable {item : ReadItem}

/-- What announcing an accepted client does to the names. -/
theorem World.announced_accepted (fd : SockT) (item : ReadItem) (env : Env)
    (hpx : w.proxies.lookup p = some px) :
    ((w.accepted fd item).announced fd env p px).names = { w.names with
      opened := Function.update w.names.opened fd (some w.nextConnection)
      tunnel := Function.update w.names.tunnel p (some { px.toTunnel with
        sockToId := px.sockToId.insert fd w.idPool.getId.1
        idToSock := px.idToSock.insert w.idPool.getId.1 fd }) } := by
  have hpx' : (w.accepted fd item).proxies.lookup p = some px := hpx
  rw [World.names_announced _ _ env hpx', World.names_accepted]
  rfl

theorem World.accepted_tabled (fd : SockT) (item : ReadItem) (env : Env)
    (hpx : w.proxies.lookup p = some px) :
    Tabled w p fd ((w.accepted fd item).announced fd env p px).names := by
  have hpx' : (w.accepted fd item).proxies.lookup p = some px := hpx
  have hsame : SameTables w.names (w.accepted fd item).names :=
    .of_eq (by rw [World.names_accepted])
  obtain ⟨hholds, hknows⟩ := World.announced_tabled env fd hpx'
  constructor
  · intro q j y
    rw [hholds, hsame.holds]
    rfl
  · intro q y j
    rw [hknows, hsame.knows]
    rfl

theorem World.welcomed_paired {b : IObserver} (hw : w.names.Wf) (hp : Paired w.names)
    (hfd : fd ≠ -1) (hu : Unused w.toRegistry fd) (hpx : w.proxies.lookup p = some px)
    (hb : w.names.base (.grokProxy p) = some b) :
    Paired (w.welcomed fd item env p px b).names := by
  have hnames := World.announced_accepted fd item env hpx
  have htabled := World.accepted_tabled fd item env hpx
  have hunlinked : w.names.linked fd = none := hw.closed hfd hu.closed
  refine World.admitted_paired ?_ ?_ ?_ (fun _ _ => hfd) ?_ ?_ ?_
  · rw [hnames]
    exact hb
  · intro q hq
    cases hq
    obtain ⟨t, ht, hid⟩ := (htabled.knows p fd _).mpr (.inl ⟨rfl, rfl, rfl⟩)
    exact ⟨t, _, ht, hid⟩
  · intro q t id ht hid
    obtain ⟨rfl, _⟩ | ⟨⟨u, hu', hid'⟩, _⟩ := (htabled.knows q fd id).mp ⟨t, ht, hid⟩
    · rfl
    · rw [hw.untabled hfd hu.closed hu'] at hid'
      cases hid'
  · intro q y hy
    rw [hnames] at hy
    obtain ⟨id, hid⟩ := hp.known hy
    refine ⟨id, (htabled.knows q y id).mpr (.inr ⟨hid, ?_⟩)⟩
    intro ⟨_, he⟩
    subst he
    cases hunlinked.symm.trans hy
  · intro q y id hid hy
    rw [hnames]
    obtain ⟨_, _, rfl⟩ | ⟨hid, _⟩ := (htabled.knows q y id).mp hid
    · exact absurd rfl hy
    · exact hp.linked hid
  · intro q b' hb'
    rw [hnames] at hb'
    exact hp.real hb'

theorem World.welcomed_connects {b : IObserver} (hpx : w.proxies.lookup p = some px)
    (hb : w.names.base (.grokProxy p) = some b) :
    ConnectedPaired (w.welcomed fd item env p px b) px.initiator
      (ByteBuffer.encode cIdSize w.idPool.getId.1.toNat) := by
  have hnames := World.announced_accepted fd item env hpx
  have hb' : ((w.accepted fd item).announced fd env p px).base (.grokProxy p) = some b := by
    show ((w.accepted fd item).announced fd env p px).names.base (.grokProxy p) = some b
    rw [hnames]
    exact hb
  have htunnel : (w.welcomed fd item env p px b).names.tunnel p = some { px.toTunnel with
      sockToId := px.sockToId.insert fd w.idPool.getId.1
      idToSock := px.idToSock.insert w.idPool.getId.1 fd } := by
    rw [World.welcomed, World.names_admitted _ fd hb', hnames]
    exact Function.update_self ..
  obtain ⟨px', hpx', htunnel⟩ := Option.map_eq_some_iff.mp htunnel
  refine ⟨p, px', w.idPool.getId.1, fd, hpx', ?_, rfl, ?_, ?_⟩
  · show px'.toTunnel.initiator = _
    rw [htunnel]
  · rw [show px'.idToSock = _ from congrArg Tunnel.idToSock htunnel]
    exact AList.lookup_insert _
  · rw [show px'.sockToId = _ from congrArg Tunnel.sockToId htunnel]
    exact AList.lookup_insert _

end

/-- A proxy's listener does not hang up. -/
theorem hangUp_listener (hw : w.Sound) (hfd : fd ≠ -1)
    (ho : w.observers.lookup fd = some (.grokProxy p)) :
    ¬∃ w', Loop.hangUp env fd w = .ok w' := by
  intro ⟨w', h⟩
  unfold Loop.hangUp at h
  simp only [ho] at h
  obtain ⟨w1, hcall, _⟩ := Except.bind_ok_iff.mp h
  obtain ⟨px, hpx, hcall⟩ := Except.bind_ok_iff.mp hcall
  split at hcall
  · cases hcall
  · next id hid =>
    have hob := hw.wf.sock_unobserved (World.proxy_names (FreeGrok.proxy_ok hpx)).1 hid hfd
    rw [show w.names.observer fd = _ from ho] at hob
    cases hob

namespace Loop

/-- `accept` gives an open descriptor each time a proxy calls it. A proxy's listener is watched
for EPOLLIN only, so the selector does not report an EPOLLOUT for it. -/
def ProxiesAccept (s : State) : Input → Prop
  | .wait _ => True
  | .handle os =>
    match s.pending with
    | [] => True
    | ev :: _ => ev.event.hangsUp = false → s.world.proxyListens ev.event.fd = true →
        os.accept ≠ -1 ∧ ev.event.events.epollout = false

instance (s : State) : ∀ i, Decidable (ProxiesAccept s i)
  | .wait _ => isTrue trivial
  | .handle os =>
    match h : s.pending with
    | [] => isTrue (by simp [ProxiesAccept, h])
    | ev :: _ => decidable_of_iff (ev.event.hangsUp = false →
        s.world.proxyListens ev.event.fd = true →
        os.accept ≠ -1 ∧ ev.event.events.epollout = false) (by simp [ProxiesAccept, h])

/-- What its events promise. -/
def proxiesAccepting : Terms := { anyTerms with refuse := fun o => ∀ p, o ≠ .grokProxy p }

theorem ProxiesAccept.promised {s : State} {i : Input} (h : ProxiesAccept s i) :
    Promised env proxiesAccepting s i := by
  cases i with
  | wait batch => trivial
  | handle os =>
    intro ev rest hpending
    refine { keeps_any env os ev.event s.world with refuse := fun hup _ ho hneg p hp => ?_ }
    simp only [ProxiesAccept, hpending] at h
    exact (h hup (Registry.proxyListens_of_lookup (hp ▸ ho))).1 hneg

/-- An event of anything but a proxy's listener announces no client. -/
theorem keeps_unannounced {ev : Event}
    (hno : ∀ p, w.observers.lookup ev.fd ≠ some (.grokProxy p)) :
    Keeps env os unannounced ev w :=
  { keeps_any env os ev w with
    refuse := fun _ _ ho _ p hp => hno p (hp ▸ ho)
    draw := fun _ p _ ho _ => hno p ho }

end Loop

theorem handleEvent_agrees {ev : Loop.Event} {broke : Bool} (hw : w.Sound) (hfd : ev.fd ≠ -1)
    (hos : os.Fresh w.toRegistry) (ha : w.Agreeing)
    (haccept : ev.hangsUp = false → w.proxyListens ev.fd = true →
      os.accept ≠ -1 ∧ ev.events.epollout = false)
    (h : Loop.handleEvent env os ev w = .ok (broke, w')) :
    Paired w'.names ∧ Grows (Action.ConnectsIn w') w w' := by
  by_cases ho : ∃ p, w.observers.lookup ev.fd = some (.grokProxy p)
  · obtain ⟨p, ho⟩ := ho
    unfold Loop.handleEvent at h
    split at h
    · obtain ⟨w1, hhang, _⟩ := Except.bind_ok_iff.mp h
      exact absurd ⟨w1, hhang⟩ (hangUp_listener hw hfd ho)
    · next hup =>
      obtain ⟨hopen, hout⟩ := haccept (by simpa [Loop.Event.hangsUp] using hup)
        (Registry.proxyListens_of_lookup ho)
      dsimp only at h
      rw [if_neg (by simp [hout])] at h
      have h : (if ev.events.epollin = true then do
          let w ← Loop.readable env os ev.fd w
          pure (false, w) else pure (false, w)) = Except.ok (broke, w') := h
      split at h
      · obtain ⟨w1, hread, h⟩ := Except.bind_ok_iff.mp h
        cases h
        obtain ⟨px, b, hpx, hb, hw'⟩ := readable_listener hw ho hread
        have haccepted : tcpAccept os w = (os.accept, (w.newSock os.accept).log (.accept os.accept)) :=
          if_neg hopen
        rw [haccepted] at hw'
        have hw' : w' = w.welcomed os.accept (opening os.accept (.grokProxy p)) env p px b := hw'
        subst hw'
        refine ⟨World.welcomed_paired hw.wf ha.paired hopen (hos.accept.resolve_left hopen) hpx hb,
          .welcomed ?_ ?_ ?_ ?_⟩
        · intro A payload he
          cases he
        · intro A payload he
          cases he
          exact World.welcomed_connects hpx hb
        · intro bytes A payload he
          cases he
        · intro c A payload he
          cases he
      · cases h
        exact ⟨ha.paired, .refl w⟩
  · have hno : ∀ p, w.observers.lookup ev.fd ≠ some (.grokProxy p) := fun p hp => ho ⟨p, hp⟩
    obtain ⟨hagrees, hgrows⟩ := (handleEvent_handled hw hfd hos (Loop.keeps_unannounced hno)
      h).unannounced hw ha
    exact ⟨hagrees.paired, hgrows.mono fun a hun A payload he => absurd he (hun A payload)⟩

/-! ### Runs -/

variable {l : Listeners} {s s' : Loop.State}

theorem Paired.boot (l : Listeners) : Paired (World.boot l).names where
  known hl := nomatch hl
  linked := fun ⟨_, ht, _⟩ => (nomatch ht)
  real hb := nomatch hb

theorem Loop.step_agrees {i : Loop.Input} (hs : s.Sound) (ha : s.world.Agreeing)
    (hallowed : Loop.Allowed s i) (haccepts : Loop.ProxiesAccept s i)
    (hstep : Loop.step env s i = .ok s') :
    Paired s'.world.names ∧ Grows (Action.ConnectsIn s'.world) s.world s'.world := by
  cases i with
  | wait batch =>
    rw [Loop.step_wait hstep]
    exact ⟨ha.paired, .refl _⟩
  | handle os =>
    obtain ⟨_, rfl⟩ | ⟨ev, rest, broke, w, hpending, hhandle, rfl⟩ := Loop.step_handle hstep
    · exact ⟨ha.paired, .refl _⟩
    · simp only [Loop.ProxiesAccept, hpending] at haccepts
      exact handleEvent_agrees hs.world (hs.pending ev (by simp [hpending])) hallowed.2 ha haccepts
        hhandle

theorem Reachable.agreeing (h : ReachableIf env l Loop.ProxiesAccept s) : s.world.Agreeing := by
  have hledger {s : Loop.State} (hr : ReachableIf env l Loop.ProxiesAccept s) : Ledger s.world :=
    hr.ledger (fun _ _ hi => hi.promised) fun p hp => hp p rfl
  refine ⟨hledger h, ?_⟩
  refine Reach.invariant (P := fun s => Paired s.world.names) h (.boot l) fun s i s' hr hp hi hstep => ?_
  have hr : ReachableIf env l Loop.ProxiesAccept s := hr
  exact (Loop.step_agrees (Reachable.sound hr) ⟨hledger hr, hp⟩ hi.1 hi.2 hstep).1

theorem World.Agreeing.clientsAgree (ha : w.Agreeing) (hw : w.names.Wf)
    (hpx : w.proxies.lookup p = some px) : ClientsAgree w p px := by
  obtain ⟨ht, hb⟩ := World.proxy_names hpx
  have hknows (x : SockT) : px.sockToId.lookup x ≠ none ↔ ∃ id, w.names.Knows p x id := by
    rw [Option.ne_none_iff_exists']
    exact ⟨fun ⟨id, hid⟩ => ⟨id, _, ht, hid⟩, fun ⟨id, hid⟩ => ⟨id, by
      obtain ⟨t, ht', hid⟩ := hid
      cases Option.some.inj (ht.symm.trans ht')
      exact hid⟩⟩
  have hlinked (x : SockT) :
      w.linkedClients.lookup x = some (.grokProxy p) ↔ px.sockToId.lookup x ≠ none := by
    rw [hknows]
    exact ⟨ha.paired.known, fun ⟨id, hid⟩ => ha.paired.linked hid⟩
  refine ⟨fun id x => ?_, fun x => ?_, hlinked, fun x hx => ?_⟩
  · constructor
    · intro hid
      obtain ⟨t, ht', hx⟩ := ha.ledger.inverse.mp ⟨_, ht, hid⟩
      cases Option.some.inj (ht.symm.trans ht')
      exact hx
    · intro hx
      obtain ⟨t, ht', hid⟩ := ha.ledger.inverse.mpr ⟨_, ht, hx⟩
      cases Option.some.inj (ht.symm.trans ht')
      exact hid
  · rw [← hlinked]
    constructor
    · intro hx
      exact hw.clients_linked hb hx fun he => ha.paired.real hb (he ▸ hx)
    · intro hl
      obtain ⟨b, hb', hx⟩ := hw.linked_base hl
      cases Option.some.inj (hb.symm.trans hb')
      exact hx
  · obtain ⟨id, hid⟩ := Option.ne_none_iff_exists'.mp hx
    exact hw.sock_open ht hid (ha.ledger.accepting (ha.ledger.inverse.mpr ⟨_, ht, hid⟩))

/-- **The tables of clients are consistent** in a run in which `accept` gives an open descriptor
each time a proxy calls it: the two tables of a proxy are each other's inverse, their sockets are
the proxy's clients, those that the loop links to it, and open; and a CONNECTED frame is sent for
an id that has its entry only. -/
theorem tables_consistent (h : ReachableIf env l Loop.ProxiesAccept s) :
    (∀ p px, s.world.proxies.lookup p = some px → ClientsAgree s.world p px) ∧
    ∀ i s', Loop.Allowed s i → Loop.ProxiesAccept s i → Loop.step env s i = .ok s' →
      Grows (Action.ConnectsIn s'.world) s.world s'.world := by
  have hs := Reachable.sound h
  have ha := Reachable.agreeing h
  exact ⟨fun p px hpx => ha.clientsAgree hs.world.wf hpx,
    fun i s' hallowed haccepts hstep => (Loop.step_agrees hs ha hallowed haccepts hstep).2⟩

/-- `accept` fails twice for the proxy of the owner 5: two ids stand for -1, which is tabled, a
client of the proxy and linked to it, and the owner is told of both. -/
theorem tables_consistent_failed :
    ∃ s px, Reachable (.plain []) .plain s ∧ s.world.proxies.lookup 0 = some px ∧
      px.idToSock.lookup 0 = some (-1) ∧ px.sockToId.lookup (-1) = some 1 ∧
      -1 ∈ px.clients ∧ s.world.openSocks.lookup (-1) = none ∧
      .frame 5 grokConnected [0, 0, 0, 0] ∈ s.world.trace ∧ ¬ClientsAgree s.world 0 px := by
  obtain ⟨s, hs, hall⟩ := ReachableIf.exists_of_run (.plain []) .plain (fun _ _ => True)
    [.readable 3 0, .accept 5, .readable 5 2,
      .handle { recv := .data [10, 0], socket := 6, getsockname := some 8000 },
      .readable 6 3, .accept (-1), .readable 6 3, .accept (-1)]
    (fun s => (s.world.proxies.lookup 0).any (fun px => px.idToSock.lookup 0 = some (-1) ∧
        px.sockToId.lookup (-1) = some 1 ∧ -1 ∈ px.clients) ∧
      s.world.openSocks.lookup (-1) = none ∧
      .frame 5 grokConnected [0, 0, 0, 0] ∈ s.world.trace)
    (by decide +kernel) (by decide +kernel)
  obtain ⟨hproxy, hclosed, hframe⟩ := hall
  obtain ⟨px, hpx, hfields⟩ := (Option.any_eq_true _ _).mp hproxy
  obtain ⟨hid, hsock, hclient⟩ := of_decide_eq_true hfields
  refine ⟨s, px, hs, hpx, hid, hsock, hclient, hclosed, hframe, fun hagree => ?_⟩
  have hback := (hagree.inverse 0 (-1)).mp hid
  rw [hsock] at hback
  cases hback

theorem tables_consistent_one :
    ∃ s px, ReachableIf (.plain []) .plain Loop.ProxiesAccept s ∧
      s.world.proxies.lookup 0 = some px ∧ px.sockToId.lookup 7 = some 0 ∧
      ClientsAgree s.world 0 px := by
  obtain ⟨s, hs, hproxy⟩ := ReachableIf.exists_of_run (.plain []) .plain Loop.ProxiesAccept
    twoOwners (fun s => (s.world.proxies.lookup 0).any fun px => px.sockToId.lookup 7 = some 0)
    (by decide +kernel) (by decide +kernel)
  obtain ⟨px, hpx, hid⟩ := (Option.any_eq_true _ _).mp hproxy
  exact ⟨s, px, hs, hpx, of_decide_eq_true hid, (tables_consistent hs).1 0 px hpx⟩

end

end OpenGrok
