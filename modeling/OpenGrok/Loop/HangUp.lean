import OpenGrok.Loop.Refine

/-! HUP and RDHUP, inverted.

A connection that hangs up takes with it what hangs on it: a client its ids, a main
connection its proxy, and the proxy its own clients. -/
namespace OpenGrok

section
variable {env : Env} {P : Terms} {w w' : World} {fd : SockT}

/-! ### Removing a proxy -/

theorem GrokProxy.releaseIds_eq {p : Ptr} {px : GrokProxy} (sockToId : Table SockT CIdT)
    (l : List SockT) (hpx : w.proxies.lookup p = some px) :
    GrokProxy.releaseIds p sockToId l w =
      .ok { w with idPool := w.idPool.release (l.filterMap fun sock => sockToId.lookup sock) } := by
  induction l generalizing w with
  | nil => simp [releaseIds, IdPool.release, pure, Except.pure]
  | cons sock rest ih =>
    unfold GrokProxy.releaseIds
    cases hid : sockToId.lookup sock with
    | none =>
      rw [ih hpx]
      simp [hid]
    | some id =>
      have hunlink : GrokProxy.unlinkClient p id sock false w =
          .ok { w with idPool := w.idPool.removeId id } := by
        unfold GrokProxy.unlinkClient
        rw [FreeGrok.proxy_eq hpx]
        rfl
      refine Except.bind_ok_iff.mpr ⟨_, hunlink, ?_⟩
      rw [ih (w := { w with idPool := w.idPool.removeId id }) hpx]
      simp [IdPool.release, IdPool.removeId, hid]

theorem GrokProxy.shutdown_eq {p : Ptr} {px : GrokProxy} (hpx : w.proxies.lookup p = some px) :
    GrokProxy.shutdown env p w = .ok (w.shutDown p px (w.idPool.release (px.heldIds env))) := by
  refine Except.bind_ok_iff.mpr ⟨px, FreeGrok.proxy_eq hpx, ?_⟩
  exact Except.bind_ok_iff.mpr ⟨_, releaseIds_eq px.sockToId (env.order px.sockToId.keys) hpx, rfl⟩

/-- The clients of an observer that is removed are detached; none of them is an observer. -/
theorem closeAll_detached {depth : Nat} {l : List SockT}
    (hl : ∀ x ∈ l, w.observers.lookup x = none) :
    Loop.closeAll (fun client => Loop.forceDisconnectAt env (depth + 1) client false false) l w =
      .ok (w.detachedAll l) := by
  induction l generalizing w with
  | nil => rfl
  | cons client rest ih =>
    have hclient := hl client (List.mem_cons_self ..)
    have hrest := fun x hx => hl x (List.mem_cons_of_mem _ hx)
    unfold Loop.closeAll
    rw [World.detachedAll, List.foldl_cons, ← World.detachedAll]
    cases hlink : w.linkedClients.lookup client with
    | none =>
      rw [forceDisconnect_unknown _ _ hlink hclient]
      exact ih hrest
    | some o =>
      rw [forceDisconnect_detached hlink]
      exact ih hrest

/-- The clients of a proxy are not observers. -/
theorem Names.Wf.clients_unobserved {n : Names} (h : n.Wf) {p : Ptr} {b : IObserver} {x : SockT}
    (hb : n.base (.grokProxy p) = some b) (hx : x ∈ b.clients) : n.observer x = none := by
  by_cases hne : x = -1
  · subst hne
    exact h.observer_neg
  · exact (h.linked_open hne (h.clients_linked hb hx hne)).2

/-- The observer of a live proxy is a server. -/
theorem Names.Wf.proxy_server {n : Names} (h : n.Wf) {p : Ptr} {b : IObserver}
    (hb : n.base (.grokProxy p) = some b) : b.isServer = true := by
  obtain ⟨t, ht⟩ := Option.ne_none_iff_exists'.mp (h.base_tunnel hb)
  obtain ⟨b', hb', hob⟩ := h.tunnel_observed ht
  cases Option.some.inj (hb.symm.trans hb')
  obtain ⟨b'', hb'', _, hs⟩ := h.observer_base hob
  cases Option.some.inj (hb.symm.trans hb'')
  exact hs

theorem FreeGrok.deleteProxy_eq {p : Ptr} {b : IObserver}
    (hb : w.names.base (.grokProxy p) = some b) : FreeGrok.deleteProxy p w = .ok (w.freed p) := by
  obtain ⟨px, hpx, _⟩ := Option.map_eq_some_iff.mp hb
  exact Except.bind_ok_iff.mpr ⟨px, FreeGrok.proxy_eq hpx, rfl⟩

variable (env) in
/-- A proxy that is removed and freed is deleted. -/
theorem removed_deleted (depth : Nat) {p : Ptr} {b : IObserver}
    (hb : w.names.base (.grokProxy p) = some b) (hserver : b.isServer = true)
    (hclients : ∀ x ∈ env.order b.clients.keys, w.observers.lookup x = none) :
    (do
      let w ← Loop.removeObserverWith env
        (fun client => Loop.forceDisconnectAt env (depth + 1) client false false) (.grokProxy p) w
      FreeGrok.deleteProxy p w) = .ok (w.deleted p b (env.order b.clients.keys)) := by
  have hobserver : w.observer (.grokProxy p) = .ok b := by
    obtain ⟨px, hpx, hbase⟩ := Option.map_eq_some_iff.mp hb
    exact Except.bind_ok_iff.mpr ⟨px, FreeGrok.proxy_eq hpx, congrArg Except.ok hbase⟩
  have hremoved : Loop.removeObserverWith env
      (fun client => Loop.forceDisconnectAt env (depth + 1) client false false) (.grokProxy p) w =
      .ok (((w.detachedAll (env.order b.clients.keys)).setObserver (.grokProxy p)
        { b with clients := ∅ }).unlistened b.socket) := by
    refine Except.bind_ok_iff.mpr ⟨b, hobserver, ?_⟩
    rw [if_pos hserver, closeAll_detached hclients]
    rfl
  refine Except.bind_ok_iff.mpr ⟨_, hremoved, FreeGrok.deleteProxy_eq (b := { b with clients := ∅ }) ?_⟩
  have hbase : (w.detachedAll (env.order b.clients.keys)).base (.grokProxy p) = some b := by
    have h : (w.detachedAll (env.order b.clients.keys)).names.base = w.names.base := by
      rw [World.names_detachedAll]
    exact (congrFun h (.grokProxy p)).trans hb
  rw [World.names_unlistened]
  exact (congrFun (congrArg Names.base (Registry.names_setObserver hbase _)) _).trans
    (Function.update_self ..)

/-- `on_disconnect` of a main connection that has a proxy. -/
theorem onDisconnect_deleted (depth : Nat) (hw : w.Sound) {u : User} {p : Ptr} {px : GrokProxy}
    (hu : w.names.user fd = some u) (hserver : u.server = some p)
    (hpx : w.proxies.lookup p = some px) :
    FreeGrok.onDisconnectWith env (Loop.removeObserverWith env
        fun client => Loop.forceDisconnectAt env (depth + 1) client false false) fd w =
      .ok (FreeGrok.removeUser fd ((w.shutDown p px (w.idPool.release (px.heldIds env))).deleted p
        px.toIObserver (env.order px.clients.keys))) := by
  obtain ⟨_, hb⟩ := World.proxy_names hpx
  have hshut := World.base_shutDown w hpx (w.idPool.release (px.heldIds env))
  have hdeleted := removed_deleted env depth hshut (hw.wf.proxy_server hb)
    fun x hx => hw.wf.clients_unobserved hb ((env.order_perm _).mem_iff.mp hx)
  unfold FreeGrok.onDisconnectWith
  rw [if_pos (FreeGrok.hasServer_iff.mpr ⟨u, p, hu, hserver⟩), World.gatherUser_fst, hu,
    Option.getD_some, hserver]
  refine Except.bind_ok_iff.mpr ⟨_, GrokProxy.shutdown_eq hpx, ?_⟩
  obtain ⟨w', hremove, hdelete⟩ := Except.bind_ok_iff.mp hdeleted
  exact Except.bind_ok_iff.mpr ⟨w', hremove, Except.bind_ok_iff.mpr ⟨_, hdelete, rfl⟩⟩

/-- A main connection that has a proxy is closed, and the proxy with it. -/
theorem forceDisconnect_torn (hw : w.Sound) {u : User} {p : Ptr} {px : GrokProxy}
    (hu : w.names.user fd = some u) (hserver : u.server = some p)
    (hpx : w.proxies.lookup p = some px) :
    Loop.forceDisconnect env fd true true w = .ok (w.torn fd env p px w.freeGrok) := by
  have hlinked : w.linkedClients.lookup fd = some .freeGrok := hw.wf.server_linked hu hserver
  unfold Loop.forceDisconnect Loop.depth Loop.forceDisconnectAt
  simp only [hlinked]
  refine Except.bind_ok_iff.mpr ⟨_, onDisconnect_deleted 2 hw hu hserver hpx, ?_⟩
  have hfree : (FreeGrok.removeUser fd ((w.shutDown p px (w.idPool.release (px.heldIds env))).deleted
      p px.toIObserver (env.order px.clients.keys))).freeGrok = w.freeGrok := by
    refine Option.some.inj ?_
    have hbase := World.names_removeUser ((w.shutDown p px (w.idPool.release
      (px.heldIds env))).deleted p px.toIObserver (env.order px.clients.keys)) fd
    have hshut := World.names_shutDown w hpx (w.idPool.release (px.heldIds env))
    rw [World.names_deleted _ (World.base_shutDown w hpx _), hshut] at hbase
    exact congrFun (congrArg Names.base hbase) .freeGrok
  rw [World.torn, ← hfree]
  rfl

/-! ### One connection -/

/-- A client of an observer that is not the main server is no user with a server. -/
theorem Names.Wf.no_server {n : Names} (h : n.Wf) {x : SockT} {o : ObserverPtr}
    (hl : n.linked x = some o) (ho : o ≠ .freeGrok) :
    ∀ u, n.user x = some u → u.server = none := by
  intro u hu
  cases hs : u.server with
  | none => rfl
  | some p =>
    rw [h.server_linked hu hs] at hl
    cases hl
    exact absurd rfl ho

theorem HttpInterface.onDisconnect_effects (env : Env) (w : World) (fd : SockT)
    (hP : P.hangUp) (hanswer : P.answer fd) :
    Effects env P w (HttpInterface.onDisconnect fd w) ∧
      (HttpInterface.onDisconnect fd w).names.linked = w.names.linked ∧
      (HttpInterface.onDisconnect fd w).names.user = w.names.user ∧
      (HttpInterface.onDisconnect fd w).names.base .httpInterface = w.names.base .httpInterface := by
  unfold HttpInterface.onDisconnect
  split
  · exact ⟨.refl, rfl, rfl, rfl⟩
  · exact ⟨.single (.forgot fd hP hanswer), rfl, rfl, rfl⟩

/-- A client of a proxy hangs up: its owner is told, and it leaves. -/
theorem client_hangUp {p : Ptr} (hl : w.names.linked fd = some (.grokProxy p))
    (h : Loop.forceDisconnect env fd true true w = .ok w') :
    ∃ px id b, w.proxies.lookup p = some px ∧ px.sockToId.lookup fd = some id ∧
      w.names.base (.grokProxy p) = some b ∧
      w' = (FreeGrok.sendDisconnected env px.initiator id (w.untabled fd p px id)).left fd
        (.grokProxy p) b := by
  obtain ⟨w1, b, hcall, hb, rfl⟩ := forceDisconnect_told 3 hl h
  unfold onDisconnectWith GrokProxy.onDisconnect at hcall
  obtain ⟨px, hpx, hcall⟩ := Except.bind_ok_iff.mp hcall
  have hpx := FreeGrok.proxy_ok hpx
  split at hcall
  · cases hcall
  · next id hid =>
    obtain ⟨w2, hunlink, hcall⟩ := Except.bind_ok_iff.mp hcall
    unfold GrokProxy.unlinkClient at hunlink
    obtain ⟨px', hpx', hunlink⟩ := Except.bind_ok_iff.mp hunlink
    cases Option.some.inj ((FreeGrok.proxy_ok hpx').symm.trans hpx)
    cases hunlink
    cases hcall
    refine ⟨px, id, b, hpx, hid, ?_, rfl⟩
    have hnames : (FreeGrok.sendDisconnected env px.initiator id
        (w.untabled fd p px id)).names = _ :=
      (congrArg Registry.names (FStreamer.send_registry ..)).trans (World.names_untabled w fd hpx id)
    rw [← hb]
    exact (congrFun (congrArg Names.base hnames) (.grokProxy p)).symm

/-- A linked connection hangs up. -/
theorem linked_effects (hw : w.Sound) (hP : P.hangUp) (hanswer : P.answer fd) {o : ObserverPtr}
    (hl : w.names.linked fd = some o)
    (hleave : w.names.linked fd = some .freeGrok → FreeGrok.hasServer w fd = false →
      P.leave fd (w.view fd))
    (h : Loop.forceDisconnect env fd true true w = .ok w') : Effects env P w w' := by
  obtain ⟨w1, b, hcall, hb, hw'⟩ := forceDisconnect_told 3 hl h
  cases o with
  | freeGrok =>
    subst hw'
    unfold onDisconnectWith FreeGrok.onDisconnectWith at hcall
    dsimp only at hcall
    split at hcall
    · next hserver =>
      obtain ⟨user, p, hu, hs⟩ := FreeGrok.hasServer_iff.mp hserver
      rw [World.gatherUser_fst, hu, Option.getD_some, hs] at hcall
      cases hpx : w.proxies.lookup p with
      | none =>
        obtain ⟨w2, hshutdown, -⟩ := Except.bind_ok_iff.mp hcall
        obtain ⟨px, hlive, -⟩ := Except.bind_ok_iff.mp hshutdown
        cases hpx.symm.trans (FreeGrok.proxy_ok hlive)
      | some px =>
        rw [forceDisconnect_torn hw hu hs hpx] at h
        rw [← Except.ok.inj h]
        exact .single (.torn fd user p px w.freeGrok hP hl hu hs hpx rfl)
    · next hserver =>
      cases hcall
      have hserver : FreeGrok.hasServer w fd = false := by simpa using hserver
      refine .single (.left fd .freeGrok b hP hl hb nofun (fun u hu => ?_) fun _ => hleave hl hserver)
      cases hs : u.server with
      | none => rfl
      | some p =>
        rw [FreeGrok.hasServer_iff.mpr ⟨u, p, hu, hs⟩] at hserver
        cases hserver
  | httpInterface =>
    subst hw'
    cases hcall
    obtain ⟨heff, hlinked, huser, _⟩ := HttpInterface.onDisconnect_effects env w fd hP hanswer
    refine heff.tail (.left fd .httpInterface b hP ?_ hb nofun ?_ nofun)
    · rw [hlinked]
      exact hl
    · rw [huser]
      exact hw.wf.no_server hl nofun
  | grokProxy p =>
    obtain ⟨px, id, b, hpx, hid, hb, hsame⟩ := client_hangUp hl h
    rw [hsame]
    exact .single (.hungUp p px fd id b hP hpx hid hl hb)

/-- The HUP and RDHUP case of the loop. -/
theorem hangUp_effects (hw : w.Sound) (hfd : fd ≠ -1) (hP : P.hangUp) (hanswer : P.answer fd)
    (hleave : w.names.linked fd = some .freeGrok → FreeGrok.hasServer w fd = false →
      P.leave fd (w.view fd))
    (h : Loop.hangUp env fd w = .ok w') : Effects env P w w' := by
  unfold Loop.hangUp at h
  split at h
  · next o ho =>
    have ho : w.names.observer fd = some o := ho
    have hlinked := hw.wf.observer_unlinked ho
    obtain ⟨b, hb, _, hs⟩ := hw.wf.observer_base ho
    obtain ⟨w1, hcall, h⟩ := Except.bind_ok_iff.mp h
    cases o with
    | freeGrok =>
      have hserver : FreeGrok.hasServer w fd = false := by
        by_contra hyes
        obtain ⟨u, p, hu, hs⟩ := FreeGrok.hasServer_iff.mp (Bool.not_eq_false _ ▸ hyes)
        rw [hw.wf.server_linked hu hs] at hlinked
        cases hlinked
      unfold Loop.onDisconnect onDisconnectWith FreeGrok.onDisconnectWith at hcall
      simp only [hserver] at hcall
      cases hcall
      obtain ⟨base, hbase, h⟩ := Except.bind_ok_iff.mp h
      cases Option.some.inj (hb.symm.trans (FreeGrok.observer_ok hbase))
      simp only [hs] at h
      cases h
      exact .refl
    | httpInterface =>
      cases hcall
      obtain ⟨heff, _, _, hbase⟩ := HttpInterface.onDisconnect_effects env w fd hP hanswer
      obtain ⟨base, hbase', h⟩ := Except.bind_ok_iff.mp h
      cases Option.some.inj (hb.symm.trans (hbase.symm.trans (FreeGrok.observer_ok hbase')))
      simp only [hs] at h
      cases h
      exact heff
    | grokProxy p =>
      obtain ⟨px, hpx, hcall⟩ := Except.bind_ok_iff.mp hcall
      have ht := (World.proxy_names (FreeGrok.proxy_ok hpx)).1
      split at hcall
      · cases hcall
      · next id hid =>
        rw [hw.wf.sock_unobserved ht hid hfd] at ho
        cases ho
  · next ho =>
    cases hl : w.names.linked fd with
    | some o => exact linked_effects hw hP hanswer hl hleave h
    | none =>
      have hsame := (forceDisconnect_unknown env 3 hl ho).symm.trans h
      cases hsame
      exact .refl

end

end OpenGrok
