import OpenGrok.Loop.Invariants
import OpenGrok.Server.Tables

/-! Which descriptors have queues.

`gather_queue` makes an entry of `queues` for any descriptor it is asked for, and
`remove_queues` takes it away. It is only asked for connections that are open and for
no listener, and a connection's entry goes when the connection is closed, so
`queues` has no entry that is left behind (`QueuesOpen`). -/
namespace OpenGrok

/-- The descriptor has an entry in `queues`. -/
def World.HasQueues (w : World) (x : SockT) : Prop := w.queues.lookup x ≠ none

/-- Only connections have queues, and only while they are open. -/
def QueuesOpen (w : World) : Prop :=
  ∀ x, x ≠ -1 → w.HasQueues x → w.names.opened x ≠ none ∧ w.names.observer x = none

/-! ### Entries -/

section
variable {env : Env} {w w' : World} {x y : SockT}

/-- What is queued is queued in an entry. -/
theorem World.queued_of_queues (h : (w.view x).queues ≠ {}) : w.HasQueues x := by
  intro hnone
  exact h (by simp only [World.view, World.gatherQueue, hnone, Option.getD_none])

theorem World.queued_of_read (h : (w.view x).queues.read ≠ []) : w.HasQueues x :=
  World.queued_of_queues fun hempty => h (by rw [hempty])

theorem World.queued_of_write (h : (w.view x).queues.write ≠ []) : w.HasQueues x :=
  World.queued_of_queues fun hempty => h (by rw [hempty])

theorem World.queued_setQueue (q : Queues) (h : (w.setQueue y q).HasQueues x) : x = y ∨ w.HasQueues x := by
  by_cases he : x = y
  · exact .inl he
  · refine .inr fun hnone => h ?_
    simp [World.setQueue, he, hnone]

theorem Selector.modify_queues (x : SockT) (evs : Events) (w : World) :
    (Selector.modify x evs w).queues = w.queues := by
  unfold Selector.modify
  split <;> rfl

theorem Selector.add_queues (x : SockT) (evs : Events) (w : World) :
    (Selector.add x evs w).queues = w.queues := by
  unfold Selector.add
  split <;> rfl

theorem FreeGrok.gatherUser_queues (x : SockT) (w : World) :
    (FreeGrok.gatherUser x w).2.queues = w.queues := by
  unfold FreeGrok.gatherUser
  split <;> rfl

theorem World.queued_of_eq (hq : w'.queues = w.queues) (h : w'.HasQueues x) : w.HasQueues x := by
  unfold World.HasQueues at h ⊢
  rwa [hq] at h

theorem Loop.queued_send (bytes : Bytes) (h : (Loop.send y bytes w).HasQueues x) :
    x = y ∨ w.HasQueues x := by
  simp only [Loop.send] at h
  split at h
  · rcases World.queued_setQueue _ h with he | h
    · exact .inl he
    · exact .inr (World.queued_of_eq (w := w)
        (Selector.modify_queues y eventsRW (w.log (.queued y bytes))) h)
  · exact World.queued_setQueue _ h

theorem FStreamer.queued_send (type : UInt8) (payload : Bytes)
    (h : (FStreamer.send env y type payload w).HasQueues x) : x = y ∨ w.HasQueues x := by
  refine FStreamer.send_keeps env (P := fun v => v.HasQueues x → x = y ∨ w.HasQueues x) ?_ type
    payload .inr h
  intro chunk v hv hqueued
  rcases Loop.queued_send chunk hqueued with he | hqueued
  · exact .inl he
  · exact hv hqueued

theorem World.queued_wrote {front : WriteItem} {rest : List WriteItem} {n : Nat}
    (h : (w.wrote y front rest n).HasQueues x) : x = y ∨ w.HasQueues x := by
  have hset (write : List WriteItem)
      (h : ((w.log (.send y (front.unsent.take n))).setQueue y
        { w.gatherQueue y with write := write }).HasQueues x) : x = y ∨ w.HasQueues x :=
    World.queued_setQueue (w := w.log (.send y (front.unsent.take n))) _ h
  simp only [World.wrote] at h
  split at h
  · split at h
    · exact hset _ (World.queued_of_eq (Selector.modify_queues y eventsR _) h)
    · exact hset _ h
  · split at h
    · exact hset _ (World.queued_of_eq (Selector.modify_queues y eventsR _) h)
    · exact hset _ h

/-- A connection's entry goes with it. -/
theorem World.queued_detached (h : (w.detached y).HasQueues x) : x ≠ y ∧ w.HasQueues x := by
  have hq : (w.detached y).queues = w.queues.erase y := rfl
  unfold World.HasQueues at h ⊢
  rw [hq, Table.lookup_erase_ite] at h
  split at h
  · exact absurd rfl h
  · next hne => exact ⟨hne, h⟩

theorem World.queued_left {o : ObserverPtr} {b : IObserver} (h : (w.left y o b).HasQueues x) :
    x ≠ y ∧ w.HasQueues x :=
  World.queued_detached (w := w.setObserver o { b with clients := b.clients.erase y }) h

/-- The entries of clients that are linked go, and no others. -/
theorem World.detachedAll_queues (l : List SockT) (w : World) (x : SockT) :
    (w.detachedAll l).queues.lookup x =
      if x ∈ l ∧ w.names.linked x ≠ none then none else w.queues.lookup x := by
  induction l generalizing w with
  | nil => simp [World.detachedAll]
  | cons client rest ih =>
    rw [World.detachedAll, List.foldl_cons, ← World.detachedAll, ih]
    cases hl : w.linkedClients.lookup client with
    | none =>
      have hn : w.names.linked client = none := hl
      by_cases h : x = client
      · subst h
        simp [hn]
      · simp [h]
    | some o =>
      have hn : w.names.linked client = some o := hl
      have hq : (w.detached client).queues = w.queues.erase client := rfl
      rw [Option.isSome_some, if_pos rfl, World.names_detached, hq]
      by_cases h : x = client
      · subst h
        simp [hn]
      · simp [h]

theorem World.queued_detachedAll {l : List SockT} (h : (w.detachedAll l).HasQueues x) :
    w.HasQueues x ∧ (x ∈ l → w.names.linked x = none) := by
  unfold World.HasQueues at h ⊢
  rw [World.detachedAll_queues] at h
  split at h
  · exact absurd rfl h
  · next hstays => exact ⟨h, fun hx => by_contra fun hl => hstays ⟨hx, hl⟩⟩

theorem World.queued_deleted {p : Ptr} {b : IObserver} {l : List SockT}
    (h : (w.deleted p b l).HasQueues x) : w.HasQueues x ∧ (x ∈ l → w.names.linked x = none) :=
  World.queued_detachedAll h

theorem World.created_queues (A sock : SockT) (port listeningPort : UInt16) (w : World) :
    (w.created A sock port listeningPort).queues = w.queues := by
  show (Selector.add sock eventsR _).queues = _
  rw [Selector.add_queues]
  exact FreeGrok.gatherUser_queues A _

/-! ### Entries and closing -/

namespace QueuesOpen

/-- Nothing was opened or closed, and only connections that are open got queues. -/
theorem of_same (h : QueuesOpen w) (hopened : w'.names.opened = w.names.opened)
    (hobserver : w'.names.observer = w.names.observer)
    (hnew : ∀ x, x ≠ -1 → w'.HasQueues x →
      w.names.opened x ≠ none ∧ w.names.observer x = none ∨ w.HasQueues x) : QueuesOpen w' := by
  intro x hx hq
  rw [hopened, hobserver]
  rcases hnew x hx hq with hlinked | hq
  · exact hlinked
  · exact h x hx hq

theorem of_eq (h : QueuesOpen w) (hopened : w'.names.opened = w.names.opened)
    (hobserver : w'.names.observer = w.names.observer) (hq : w'.queues = w.queues) : QueuesOpen w' :=
  h.of_same hopened hobserver fun _ _ hx => .inr (World.queued_of_eq hq hx)

/-- A linked connection is sent a frame. -/
theorem frame (h : QueuesOpen w) (hw : w.names.Wf) {o : ObserverPtr} (hl : w.names.linked y = some o)
    (type : UInt8) (payload : Bytes) : QueuesOpen (FStreamer.send env y type payload w) := by
  have hregistry := FStreamer.send_registry env w y type payload
  refine h.of_same (by rw [hregistry]) (by rw [hregistry]) fun x hx hq => ?_
  rcases FStreamer.queued_send type payload hq with rfl | hq
  · exact .inl (hw.linked_open hx hl)
  · exact .inr hq

theorem left (h : QueuesOpen w) {o : ObserverPtr} {b : IObserver} (hb : w.names.base o = some b) :
    QueuesOpen (w.left y o b) := by
  intro x hx hq
  obtain ⟨hne, hq⟩ := World.queued_left hq
  obtain ⟨hopen, hob⟩ := h x hx hq
  rw [World.names_left w y hb]
  exact ⟨fun hnone => hopen ((Function.update_of_ne hne ..).symm.trans hnone), hob⟩

theorem deleted (h : QueuesOpen w) (hw : w.names.Wf) {p : Ptr} {b : IObserver}
    (hb : w.names.base (.grokProxy p) = some b) (l : List SockT) : QueuesOpen (w.deleted p b l) := by
  intro x hx hq
  obtain ⟨hq, hgone⟩ := World.queued_deleted hq
  obtain ⟨hopen, hob⟩ := h x hx hq
  have hne : x ≠ b.socket := by
    intro hsame
    subst hsame
    obtain ⟨t, ht⟩ := Option.ne_none_iff_exists'.mp (hw.base_tunnel hb)
    obtain ⟨b', hb', hlistens⟩ := hw.tunnel_observed ht
    cases Option.some.inj (hb.symm.trans hb')
    cases hob.symm.trans hlistens
  rw [World.names_deleted w hb]
  refine ⟨?_, (Function.update_of_ne hne ..).trans hob⟩
  have hstays : ¬(x = b.socket ∨ x ∈ l ∧ w.names.linked x ≠ none) := by
    intro hcase
    rcases hcase with he | ⟨hmem, hlinked⟩
    · exact hne he
    · exact hlinked (hgone hmem)
  exact fun hnone => hopen ((if_neg hstays).symm.trans hnone)

theorem created (h : QueuesOpen w) {A sock : SockT} (hu : Unused w.toRegistry sock)
    (port listeningPort : UInt16) : QueuesOpen (w.created A sock port listeningPort) := by
  intro x hx hq
  have hq := World.queued_of_eq (World.created_queues A sock port listeningPort w) hq
  obtain ⟨hopen, hob⟩ := h x hx hq
  have hne : x ≠ sock := by
    intro hsame
    subst hsame
    exact hopen hu.closed
  rw [World.names_created]
  exact ⟨fun hnone => hopen ((Function.update_of_ne hne ..).symm.trans hnone),
    (Function.update_of_ne hne ..).trans hob⟩

theorem torn (h : QueuesOpen w) (hw : w.names.Wf) {p : Ptr} {px : GrokProxy} {b : IObserver}
    (hp : w.proxies.lookup p = some px) (hb : w.names.base .freeGrok = some b) :
    QueuesOpen (w.torn y env p px b) := by
  have hshut := World.names_shutDown w hp (w.idPool.release (px.heldIds env))
  have hpx := World.base_shutDown w hp (w.idPool.release (px.heldIds env))
  have hdeleted := World.names_deleted _ hpx (env.order px.clients.keys)
  have hq : QueuesOpen (w.shutDown p px (w.idPool.release (px.heldIds env))) :=
    h.of_eq (by rw [hshut]) (by rw [hshut]) rfl
  refine QueuesOpen.left ?_ ?_
  · refine QueuesOpen.of_eq (hq.deleted (World.shutDown_wf hw hp _) hpx (env.order px.clients.keys))
      ?_ ?_ rfl
    · rw [World.names_removeUser]
    · rw [World.names_removeUser]
  · rw [World.names_removeUser, hdeleted, hshut]
    exact hb

end QueuesOpen

variable {P : Terms}

theorem Command.queuesOpen {A : SockT} {said : List Reaction} (h : Command env P A w said w')
    (hl : w.names.linked A = some .freeGrok) (hw : w.names.Wf) (hq : QueuesOpen w) : QueuesOpen w' := by
  cases h with
  | message type length buffer _ _ => exact hq
  | granted type length buffer _ =>
    exact hq.of_eq (by rw [World.names_granted]; rfl) (by rw [World.names_granted]; rfl)
      (FreeGrok.gatherUser_queues A _)
  | delivered p t id x length buffer body ht _ hid _ _ =>
    have hregistry := Loop.send_registry x body (w.log (.message A grokPacket length (some buffer)))
    refine hq.of_same (by rw [hregistry]; rfl) (by rw [hregistry]; rfl) fun y hy hqueued => ?_
    rcases Loop.queued_send body hqueued with rfl | hqueued
    · have hs := hw.id_sock ht hid hy
      exact .inl ⟨hw.sock_open ht hs hy, hw.sock_unobserved ht hs hy⟩
    · exact .inr hqueued
  | dropped p px id x o b buffer hp _ _ _ _ hb _ =>
    have hnames := World.names_untabled (w.log (.message A grokDisconnect cIdSize (some buffer))) x hp id
    refine QueuesOpen.left ?_ (hnames ▸ hb)
    exact hq.of_eq (by rw [hnames]; rfl) (by rw [hnames]; rfl) rfl
  | untabled p px id x buffer hp _ _ _ _ =>
    have hnames := World.names_untabled (w.log (.message A grokDisconnect cIdSize (some buffer))) x hp id
    exact hq.of_eq (by rw [hnames]; rfl) (by rw [hnames]; rfl) rfl
  | replied type payload _ _ => exact hq.frame hw hl type payload
  | touched =>
    exact hq.of_eq (by rw [World.names_gatherUser]) (by rw [World.names_gatherUser])
      (FreeGrok.gatherUser_queues A w)
  | created sock port listeningPort _ _ hu _ => exact hq.created hu port listeningPort
  | discarded sock port hA hno hu _ =>
    have hwf := World.created_wf hw hl hA hno hu port 0
    have hlinked : (w.created A sock port 0).names.linked A = some .freeGrok := by
      rw [World.names_created]
      exact hl
    refine QueuesOpen.deleted ((hq.created hu port 0).frame hwf hlinked _ _) ?_ ?_ _
    · rw [FStreamer.send_registry]
      exact hwf
    · rw [FStreamer.send_registry, World.names_created]
      exact Function.update_self ..

theorem Effect.queuesOpen (h : Effect env P w w') (hw : w.names.Wf) (hq : QueuesOpen w) :
    QueuesOpen w' := by
  cases h with
  | accepted fd item hu =>
    intro x hx hqueued
    rw [World.names_accepted]
    rcases World.queued_setQueue _ hqueued with rfl | hqueued
    · exact ⟨by simp, hw.unobserved hu.closed⟩
    · obtain ⟨hopen, hob⟩ := hq x hx hqueued
      have hne : x ≠ fd := by
        intro hsame
        subst hsame
        exact hopen hu.closed
      exact ⟨fun hnone => hopen ((Function.update_of_ne hne ..).symm.trans hnone), hob⟩
  | refused o item _ =>
    exact hq.of_same rfl rfl fun x hx hqueued =>
      .inr ((World.queued_setQueue _ hqueued).resolve_left hx)
  | parsed fd parser _ _ =>
    exact hq.of_eq (by rw [World.names_setParser]) (by rw [World.names_setParser]) rfl
  | announced p px fd before _ _ hp _ _ _ =>
    have hnames := World.names_announced w fd env hp
    refine hq.of_same (by rw [hnames]) (by rw [hnames]) fun x hx hqueued => ?_
    rcases FStreamer.queued_send (w := World.setProxy p _ { w with idPool := w.idPool.getId.2 })
      grokConnected _ hqueued with rfl | hqueued
    · exact .inl (hw.linked_open hx (hw.initiator_linked (World.proxy_names hp).1))
    · exact .inr hqueued
  | admitted fd o b before _ hb _ _ _ _ =>
    exact hq.of_eq (by rw [World.names_admitted w fd hb]) (by rw [World.names_admitted w fd hb])
      (Selector.add_queues fd eventsR w)
  | flagged fd o b _ hb =>
    have hnames := World.names_flagged w fd hb
    exact hq.of_eq (by rw [hnames]) (by rw [hnames]) (Selector.modify_queues fd eventsR _)
  | wrote fd front rest n hwrite _ _ =>
    have hregistry := World.wrote_registry w fd front rest n
    refine hq.of_same (by rw [hregistry]) (by rw [hregistry]) fun x _ hqueued => .inr ?_
    exact (World.queued_wrote hqueued).elim (fun he => he ▸ World.queued_of_write (by simp [hwrite])) id
  | writeFailed fd hwrite =>
    have hregistry := World.writeFailed_registry w fd
    refine hq.of_same (by rw [hregistry]) (by rw [hregistry]) fun x _ hqueued => .inr ?_
    rcases World.queued_setQueue _ hqueued with rfl | hqueued
    · exact World.queued_of_write hwrite
    · exact World.queued_of_eq (Selector.modify_queues fd eventsR (w.log (.sendFailed fd))) hqueued
  | readFailed fd _ hread _ =>
    exact hq.of_same rfl rfl fun x _ hqueued => .inr ((World.queued_setQueue _ hqueued).elim
      (fun he => he ▸ World.queued_of_read hread) id)
  | heard fd fd' state length u64 buffer bytes rest _ hread _ =>
    exact hq.of_same rfl rfl fun x _ hqueued => .inr ((World.queued_setQueue _ hqueued).elim
      (fun he => he ▸ World.queued_of_read (by simp [hread])) id)
  | command A hl hc => exact hc.queuesOpen hl hw hq
  | relayed p t x id bytes _ ht _ =>
    exact QueuesOpen.frame (w := w.log (.recv x bytes)) hq hw (hw.initiator_linked ht) _ _
  | captured x bytes _ _ => exact hq
  | served x bytes _ hl =>
    refine hq.of_same (by rw [Loop.send_registry]) (by rw [Loop.send_registry]) fun y hy hqueued => ?_
    rcases Loop.queued_send bytes hqueued with rfl | hqueued
    · exact .inl (hw.linked_open hy hl)
    · exact .inr hqueued
  | forgot fd _ _ => exact hq.of_eq (by rw [World.names_forgot]) (by rw [World.names_forgot]) rfl
  | torn A u p px b _ hl hu hs hp hb => exact hq.torn hw hp hb
  | left x o b _ hl hb _ _ _ => exact hq.left hb
  | hungUp p px x id b _ hp hid hl hb =>
    have hnames := World.names_untabled w x hp id
    have hregistry := FStreamer.send_registry env (w.untabled x p px id) px.initiator grokDisconnect
      (ByteBuffer.encode cIdSize id.toNat)
    refine QueuesOpen.left ?_ (by rw [FreeGrok.sendDisconnected, hregistry, hnames]; exact hb)
    refine hq.of_same (by rw [FreeGrok.sendDisconnected, hregistry, hnames])
      (by rw [FreeGrok.sendDisconnected, hregistry, hnames]) fun y hy hqueued => ?_
    rcases FStreamer.queued_send grokDisconnect _ hqueued with rfl | hqueued
    · exact .inl (hw.linked_open hy (hw.initiator_linked (World.proxy_names hp).1))
    · exact .inr hqueued

/-! ### Runs -/

theorem Handled.queuesOpen {fd : SockT} (h : Handled env P fd w w') (hw : w.Sound)
    (hq : QueuesOpen w) : QueuesOpen w' := by
  refine h.invariant hw (fun v v' hv hq heff => heff.queuesOpen hv.wf hq) ?_ ?_ hq
  · intro v v' _ hq hheard
    cases hheard with
    | mk fd' state length u64 buffer bytes rest _ hread _ =>
      exact hq.of_same rfl rfl fun x _ hqueued => .inr ((World.queued_setQueue _ hqueued).elim
        (fun he => he ▸ World.queued_of_read (by simp [hread])) id)
  · intro v v' _ hq hadvanced
    cases hadvanced with
    | mk state length u64 _ hread _ =>
      refine hq.of_same rfl rfl fun x _ hqueued => .inr ?_
      rcases World.queued_setQueue _ hqueued with rfl | hqueued
      · exact World.queued_of_read hread
      · rcases World.queued_setQueue _ hqueued with rfl | hqueued
        · exact World.queued_of_read hread
        · exact hqueued

/-- **Only open connections have queues**, in every run. -/
theorem ReachableIf.queuesOpen {l : Listeners} {also : Loop.State → Loop.Input → Prop}
    {s : Loop.State} (h : ReachableIf env l also s) : QueuesOpen s.world :=
  h.invariant (fun s i _ => Loop.promised_any s i) (fun _ _ hq => absurd rfl hq)
    fun _ _ _ _ hw hq hhandled => hhandled.queuesOpen hw hq

end

end OpenGrok
