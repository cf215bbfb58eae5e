import OpenGrok.Loop.Queued
import OpenGrok.Properties.Consistency

/-! What is left of an owner.

`force_disconnect` on a main connection that owns a proxy closes the proxy's clients, then
its listener, then the connection, and each leaves the tables it is in. One table is not
cleared for all of them: a user's record goes with an owner, but the record of a main
connection that owned nothing stays in `users` when the connection leaves, and the
descriptor may since have become a listener or a client. Nothing else is left
(`teardowns_complete`). -/
namespace OpenGrok

/-- The sockets of an owner's tunnel: its own, its proxy's listener and those of the clients. -/
def TunnelSocket (fd : SockT) (px : GrokProxy) (x : SockT) : Prop :=
  x = fd ∨ x = px.socket ∨ x ∈ px.clients

/-- The owner and all of its tunnel is gone, and nothing else. -/
structure TornDown (fd : SockT) (p : Ptr) (px : GrokProxy) (w w' : World) : Prop where
  users : ∀ x, TunnelSocket fd px x → w'.users.lookup x = none
  queues : ∀ x, TunnelSocket fd px x → w'.queues.lookup x = none
  linked : ∀ x, TunnelSocket fd px x → w'.linkedClients.lookup x = none
  observers : ∀ x, TunnelSocket fd px x → w'.observers.lookup x = none
  clients : ∀ x o b, TunnelSocket fd px x → w'.base o = some b → x ∉ b.clients
  /-- Each socket is closed once, and nothing else happens: no frame is sent. -/
  closed : ∃ new, w'.trace = new ++ w.trace ∧
    (∀ x, TunnelSocket fd px x → new.count (.close x) = 1) ∧
    ∀ a ∈ new, ∃ x, TunnelSocket fd px x ∧ a = .close x
  ids : ∃ ids, w'.idPool = w.idPool.release ids ∧ ids.Perm px.idToSock.keys
  deleted : w'.proxies.lookup p = none
  proxies : ∀ q, q ≠ p → w'.proxies.lookup q = w.proxies.lookup q
  others : ∀ x, ¬TunnelSocket fd px x →
    w'.view x = w.view x ∧ w'.queues.lookup x = w.queues.lookup x

section
variable {env : Env} {w : World} {fd : SockT} {p : Ptr} {px : GrokProxy} {b : IObserver}

/-! ### What is torn -/

/-- The clients are closed one after the other. -/
theorem World.detachedAll_trace {l : List SockT} (hl : l.Nodup)
    (hlinked : ∀ x ∈ l, w.names.linked x ≠ none) :
    (w.detachedAll l).trace = (l.map Action.close).reverse ++ w.trace := by
  induction l generalizing w with
  | nil => rfl
  | cons client rest ih =>
    obtain ⟨hclient, hrest⟩ := List.nodup_cons.mp hl
    have hyes : (w.linkedClients.lookup client).isSome = true :=
      Option.isSome_iff_ne_none.mpr (hlinked client (List.mem_cons_self ..))
    rw [World.detachedAll, List.foldl_cons, ← World.detachedAll, if_pos hyes, ih hrest]
    · have htrace : (w.detached client).trace = .close client :: w.trace := rfl
      simp [htrace]
    · intro x hx
      have hne : x ≠ client := fun he => hclient (he ▸ hx)
      rw [World.names_detached]
      exact fun hnone => hlinked x (List.mem_cons_of_mem _ hx)
        ((Function.update_of_ne hne ..).symm.trans hnone)

/-- The sockets in the order they are closed, the last first. -/
def GrokProxy.closedSockets (env : Env) (fd : SockT) (px : GrokProxy) : List SockT :=
  fd :: px.socket :: (env.order px.clients.keys).reverse

theorem GrokProxy.mem_closedSockets {x : SockT} :
    x ∈ px.closedSockets env fd ↔ TunnelSocket fd px x := by
  simp [closedSockets, TunnelSocket, (env.order_perm _).mem_iff, AList.mem_keys]

theorem World.torn_trace (hlinked : ∀ x ∈ px.clients, w.names.linked x ≠ none) :
    (w.torn fd env p px b).trace = (px.closedSockets env fd).map Action.close ++ w.trace := by
  have hclients := World.detachedAll_trace (l := env.order px.clients.keys)
    (w := w.shutDown p px (w.idPool.release (px.heldIds env)))
    ((env.order_perm _).nodup_iff.mpr px.clients.nodupKeys)
    fun x hx => hlinked x ((env.order_perm _).mem_iff.mp hx)
  show .close fd :: .close px.socket :: (World.detachedAll _ _).trace = _
  rw [hclients]
  simp [GrokProxy.closedSockets]
  rfl

theorem World.torn_queues (x : SockT) :
    (w.torn fd env p px b).queues.lookup x =
      if x = fd ∨ x ∈ px.clients ∧ w.names.linked x ≠ none then none else w.queues.lookup x := by
  have hclients := World.detachedAll_queues (env.order px.clients.keys)
    (w.shutDown p px (w.idPool.release (px.heldIds env))) x
  have herase : (w.torn fd env p px b).queues = (World.detachedAll (w.shutDown p px
    (w.idPool.release (px.heldIds env))) (env.order px.clients.keys)).queues.erase fd := rfl
  rw [herase, Table.lookup_erase_ite, hclients]
  by_cases hx : x = fd
  · simp [hx]
  · simp only [hx, if_false, false_or]
    exact if_congr (and_congr_left' ((env.order_perm _).mem_iff.trans AList.mem_keys)) rfl rfl

theorem World.torn_pool :
    (w.torn fd env p px b).idPool = w.idPool.release (px.heldIds env) := by
  show (World.deleted _ p px.toIObserver _).idPool = _
  rw [World.deleted_pool]
  rfl

/-- No proxy but the owner's is touched. -/
theorem World.torn_proxies (q : Ptr) :
    (w.torn fd env p px b).proxies.lookup q = if q = p then none else w.proxies.lookup q := by
  have hdetached (l : List SockT) (v : World) : (v.detachedAll l).proxies = v.proxies := by
    induction l generalizing v with
    | nil => rfl
    | cons client rest ih =>
      rw [World.detachedAll, List.foldl_cons, ← World.detachedAll, ih]
      split <;> rfl
  have herase : (w.torn fd env p px b).proxies = (World.setObserver (.grokProxy p)
    { px.toIObserver with clients := ∅ } (World.detachedAll (w.shutDown p px
      (w.idPool.release (px.heldIds env))) (env.order px.clients.keys))).proxies.erase p := rfl
  rw [herase, Table.lookup_erase_ite]
  by_cases hq : q = p
  · simp [hq]
  · simp only [hq, if_false, World.setObserver, Registry.setObserver]
    split
    · simp [Registry.setProxy, hdetached, World.shutDown, World.setProxy, hq]
    · simp [hdetached, World.shutDown, World.setProxy, Registry.setProxy, hq]

/-- What is no part of the tunnel sees nothing of it. -/
theorem World.torn_others {x : SockT} (hx : ¬TunnelSocket fd px x) :
    (w.torn fd env p px b).view x = w.view x := by
  have hfd : x ≠ fd := fun he => hx (.inl he)
  have hsocket : x ≠ px.socket := fun he => hx (.inr (.inl he))
  have hclient : x ∉ env.order px.clients.keys := fun hmem =>
    hx (.inr (.inr ((env.order_perm _).mem_iff.mp hmem)))
  rw [World.view_torn, if_neg hfd, World.view_deleted, if_neg hsocket, World.view_detachedAll,
    if_neg fun h => hclient h.1, World.view_shutDown]

/-! ### The teardown -/

/-- Who the sockets of an owner's tunnel belong to. -/
structure OwnerOf (w : World) (fd : SockT) (p : Ptr) (px : GrokProxy) : Prop where
  owner : w.names.linked fd = some .freeGrok
  listener : w.names.observer px.socket = some (.grokProxy p)
  client : ∀ x, x ∈ px.clients → w.names.linked x = some (.grokProxy p)
  real : ∀ x, TunnelSocket fd px x → x ≠ -1

theorem ownerOf (hw : w.names.Wf) (ha : w.Agreeing) {u : User} (hu : w.names.user fd = some u)
    (hserver : u.server = some p) (hpx : w.proxies.lookup p = some px) : OwnerOf w fd p px := by
  obtain ⟨ht, hb⟩ := World.proxy_names hpx
  have hlistener : w.names.observer px.socket = some (.grokProxy p) := by
    obtain ⟨b, hb', hob⟩ := hw.tunnel_observed ht
    cases Option.some.inj (hb.symm.trans hb')
    exact hob
  have hreal : -1 ∉ px.clients := ha.paired.real hb
  have hclient : ∀ x, x ∈ px.clients → w.names.linked x = some (.grokProxy p) := fun x hx =>
    hw.clients_linked hb hx fun he => hreal (he ▸ hx)
  refine ⟨hw.server_linked hu hserver, hlistener, hclient, ?_⟩
  intro x hcase he
  rcases hcase with rfl | rfl | hx
  · exact hw.server_valid hu hserver he
  · rw [he, hw.observer_neg] at hlistener
    cases hlistener
  · exact hreal (he ▸ hx)

/-- The sockets of a tunnel are different ones. -/
theorem OwnerOf.nodup (h : OwnerOf w fd p px) (hw : w.names.Wf) :
    (px.closedSockets env fd).Nodup := by
  have hunlinked := hw.observer_unlinked h.listener
  have hmem (x : SockT) : x ∈ (env.order px.clients.keys).reverse ↔ x ∈ px.clients := by
    rw [List.mem_reverse, (env.order_perm _).mem_iff, AList.mem_keys]
  refine List.nodup_cons.mpr ⟨fun hfd => ?_, List.nodup_cons.mpr ⟨fun hsocket => ?_, ?_⟩⟩
  · rcases List.mem_cons.mp hfd with he | hfd
    · cases h.owner.symm.trans (he ▸ hunlinked)
    · cases h.owner.symm.trans (h.client fd ((hmem fd).mp hfd))
  · cases (h.client _ ((hmem _).mp hsocket)).symm.trans hunlinked
  · exact List.nodup_reverse.mpr ((env.order_perm _).nodup_iff.mpr px.clients.nodupKeys)

/-- Every id in the proxy's tables is held once. -/
theorem GrokProxy.heldIds_perm (hl : Ledger w) (hpx : w.proxies.lookup p = some px) :
    (px.heldIds env).Perm px.idToSock.keys := by
  have ht := (World.proxy_names hpx).1
  have hnodup : (px.heldIds env).Nodup := GrokProxy.heldIds_nodup hpx fun x y id hx hy =>
    Names.Holds.fun (hl.inverse.mpr hx) (hl.inverse.mpr hy)
  refine (List.perm_ext_iff_of_nodup hnodup px.idToSock.nodupKeys).mpr fun id => ?_
  rw [GrokProxy.mem_heldIds hpx]
  constructor
  · intro ⟨x, hknows⟩
    obtain ⟨t, ht', hx⟩ := hl.inverse.mpr hknows
    cases Option.some.inj (ht.symm.trans ht')
    exact Table.mem_of_lookup hx
  · intro hid
    obtain ⟨x, hx⟩ := Table.lookup_of_mem hid
    exact ⟨x, hl.inverse.mp ⟨_, ht, hx⟩⟩

/-- Everything goes that is said to go, if no user's record is kept under the listener's
descriptor or a client's. -/
theorem torn_tornDown (hw : w.Sound) (ha : w.Agreeing) (hq : QueuesOpen w) {u : User}
    (hu : w.names.user fd = some u) (hserver : u.server = some p)
    (hpx : w.proxies.lookup p = some px)
    (hfree : ∀ x, x = px.socket ∨ x ∈ px.clients → w.users.lookup x = none) :
    TornDown fd p px w (w.torn fd env p px w.freeGrok) := by
  have ho := ownerOf hw.wf ha hu hserver hpx
  have hnames := World.names_torn w fd env hpx (b := w.freeGrok) rfl
  have hwf : (w.torn fd env p px w.freeGrok).names.Wf :=
    World.torn_wf hw.wf ho.owner hu hserver hpx rfl
  have hclient (x : SockT) : x ∈ env.order px.clients.keys ↔ x ∈ px.clients := by
    rw [(env.order_perm _).mem_iff, AList.mem_keys]
  have hlinked : ∀ x, TunnelSocket fd px x →
      (w.torn fd env p px w.freeGrok).names.linked x = none := by
    intro x hx
    rw [hnames]
    dsimp only
    split
    · rfl
    · next hstays =>
      rcases hx with rfl | rfl | hx
      · exact absurd (.inl rfl) hstays
      · exact hw.wf.observer_unlinked ho.listener
      · exact absurd (.inr ((hclient x).mpr hx)) hstays
  constructor
  case linked => exact hlinked
  case users =>
    intro x hx
    show (w.torn fd env p px w.freeGrok).names.user x = none
    rw [hnames]
    dsimp only
    rw [Function.update_apply]
    split
    · rfl
    · next hne => exact hfree x (hx.resolve_left hne)
  case queues =>
    intro x hx
    rw [World.torn_queues]
    split
    · rfl
    · next hstays =>
      rcases hx with rfl | rfl | hx
      · exact absurd (.inl rfl) hstays
      · by_contra hqueued
        have hnone := (hq _ (ho.real _ (.inr (.inl rfl))) hqueued).2
        cases ho.listener.symm.trans hnone
      · exact absurd (.inr ⟨hx, by simp [ho.client x hx]⟩) hstays
  case observers =>
    intro x hx
    show (w.torn fd env p px w.freeGrok).names.observer x = none
    rw [hnames]
    dsimp only
    rw [Function.update_apply]
    split
    · rfl
    · next hne =>
      rcases hx with rfl | rfl | hmem
      · exact (hw.wf.linked_open (ho.real _ (.inl rfl)) ho.owner).2
      · exact absurd rfl hne
      · exact (hw.wf.linked_open (ho.real _ (.inr (.inr hmem))) (ho.client x hmem)).2
  case clients =>
    intro x o b hx hb hmem
    have hlink := hwf.clients_linked hb hmem (ho.real x hx)
    cases hlink.symm.trans (hlinked x hx)
  case closed =>
    refine ⟨(px.closedSockets env fd).map Action.close, World.torn_trace fun x hx => by
      simp [ho.client x hx], fun x hx => ?_, fun a ha => ?_⟩
    · rw [List.count_map_of_injective _ _ (fun _ _ h => Action.close.inj h)]
      exact List.count_eq_one_of_mem (ho.nodup hw.wf) (GrokProxy.mem_closedSockets.mpr hx)
    · obtain ⟨x, hx, rfl⟩ := List.mem_map.mp ha
      exact ⟨x, GrokProxy.mem_closedSockets.mp hx, rfl⟩
  case ids => exact ⟨_, World.torn_pool, GrokProxy.heldIds_perm ha.ledger hpx⟩
  case deleted => rw [World.torn_proxies, if_pos rfl]
  case proxies =>
    intro q hne
    rw [World.torn_proxies, if_neg hne]
  case others =>
    intro x hx
    refine ⟨World.torn_others hx, ?_⟩
    rw [World.torn_queues, if_neg]
    intro hcase
    rcases hcase with he | ⟨hmem, -⟩
    · exact hx (.inl he)
    · exact hx (.inr (.inr hmem))

/-- **Closing an owner takes its whole tunnel away**, and nothing else, in a run in which `accept`
gives fresh descriptors: exactly if no user's record is kept under the listener's descriptor or a
client's. -/
theorem teardowns_complete {l : Listeners} {s : Loop.State}
    (h : ReachableIf env l Loop.ProxiesAccept s) {u : User} (hu : s.world.users.lookup fd = some u)
    (hserver : u.server = some p) (hpx : s.world.proxies.lookup p = some px) :
    Except.Returns (Loop.forceDisconnect env fd true true s.world) (TornDown fd p px s.world) ↔
      ∀ x, x = px.socket ∨ x ∈ px.clients → s.world.users.lookup x = none := by
  have hw := (Reachable.sound h).world
  have ha := Reachable.agreeing h
  have ho := ownerOf hw.wf ha hu hserver hpx
  rw [forceDisconnect_torn hw hu hserver hpx]
  constructor
  · intro (htorn : TornDown fd p px s.world _) x hx
    have hne : x ≠ fd := by
      intro hsame
      subst hsame
      rcases hx with he | hx
      · cases ho.owner.symm.trans (hw.wf.observer_unlinked (he ▸ ho.listener))
      · cases ho.owner.symm.trans (ho.client x hx)
    have hnone := htorn.users x (.inr hx)
    have hnames := World.names_torn s.world fd env hpx (b := s.world.freeGrok) rfl
    have huser := congrFun (congrArg Names.user hnames) x
    exact (Function.update_of_ne hne ..).symm.trans (huser.symm.trans hnone)
  · exact torn_tornDown hw ha h.queuesOpen hu hserver hpx

/-- A main connection on 7 sends the magic and leaves; then 5 has a proxy, and its client gets the
descriptor 7. -/
def recordLeft : List Loop.Input :=
  [.readable 3 0, .accept 7, .readable 7 2, .data [30, 2], .readable 7 2, .data [9, 9],
    .wait [⟨⟨7, { epollhup := true }⟩, 2⟩], .handle {},
    .readable 3 0, .accept 5, .readable 5 3,
    .handle { recv := .data [10, 0], socket := 6, getsockname := some 8000 },
    .readable 6 4, .accept 7]

/-- The record of the connection that was on 7 before is still there when 5 is closed. -/
theorem teardowns_complete_stale :
    ∃ s u px, ReachableIf (.plain [9, 9]) .plain Loop.ProxiesAccept s ∧
      s.world.users.lookup 5 = some u ∧ u.server = some 0 ∧ s.world.proxies.lookup 0 = some px ∧
      7 ∈ px.clients ∧
      ¬Except.Returns (Loop.forceDisconnect (.plain [9, 9]) 5 true true s.world)
        (TornDown 5 0 px s.world) := by
  obtain ⟨s, hs, huser, hproxy, hrecord⟩ := ReachableIf.exists_of_run (.plain [9, 9]) .plain
    Loop.ProxiesAccept recordLeft
    (fun s => (s.world.users.lookup 5).any (fun u => u.server = some 0) ∧
      (s.world.proxies.lookup 0).any (fun px => 7 ∈ px.clients) ∧
      Except.Returns (Loop.forceDisconnect (.plain [9, 9]) 5 true true s.world)
        fun w' => w'.users.lookup 7 ≠ none)
    (by decide +kernel) (by decide +kernel)
  obtain ⟨u, hu, hserver⟩ := (Option.any_eq_true _ _).mp huser
  obtain ⟨px, hpx, hclient⟩ := (Option.any_eq_true _ _).mp hproxy
  have hclient : 7 ∈ px.clients := of_decide_eq_true hclient
  refine ⟨s, u, px, hs, hu, of_decide_eq_true hserver, hpx, hclient, fun htorn => ?_⟩
  obtain ⟨w', hok, hrecord⟩ := hrecord.exists
  rw [hok] at htorn
  exact hrecord (htorn.users 7 (.inr (.inr hclient)))

theorem teardowns_complete_owner :
    ∃ s px, ReachableIf (.plain []) .plain Loop.ProxiesAccept s ∧
      s.world.proxies.lookup 0 = some px ∧ 7 ∈ px.clients ∧
      Except.Returns (Loop.forceDisconnect (.plain []) 5 true true s.world)
        (TornDown 5 0 px s.world) := by
  obtain ⟨s, hs, huser, hproxy, hfree⟩ := ReachableIf.exists_of_run (.plain []) .plain
    Loop.ProxiesAccept twoOwners
    (fun s => (s.world.users.lookup 5).any (fun u => u.server = some 0) ∧
      (s.world.proxies.lookup 0).any (fun px => px.socket = 6 ∧ px.clients.keys = [7]) ∧
      s.world.users.lookup 6 = none ∧ s.world.users.lookup 7 = none)
    (by decide +kernel) (by decide +kernel)
  obtain ⟨u, hu, hserver⟩ := (Option.any_eq_true _ _).mp huser
  obtain ⟨px, hpx, hfields⟩ := (Option.any_eq_true _ _).mp hproxy
  obtain ⟨hsocket, hclients⟩ := of_decide_eq_true hfields
  have hmem (x : SockT) : x ∈ px.clients ↔ x = 7 := by
    rw [AList.mem_keys, hclients, List.mem_singleton]
  refine ⟨s, px, hs, hpx, (hmem 7).mpr rfl, ?_⟩
  refine (teardowns_complete hs hu (of_decide_eq_true hserver) hpx).mpr fun x hx => ?_
  rcases hx with rfl | hx
  · rw [hsocket]
    exact hfree.1
  · rw [(hmem x).mp hx]
    exact hfree.2

end

end OpenGrok
