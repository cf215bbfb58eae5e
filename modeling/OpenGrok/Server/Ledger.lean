import OpenGrok.Library.Pool
import OpenGrok.Server.Tables

/-! Who has which id.

The proxies' tables and the pool are a ledger: an id is drawn where a client is
announced, and comes back where a client is taken out of a table or a proxy shuts
down (`Effect.booked`). While no `accept` fails for a proxy, the two tables of a proxy
are each other's inverse, no two clients have one id, and the ids held and the free
ones are those below `last` (`Ledger`). A client has a descriptor of its own, and
descriptors are `int`s, so `last` never gets near the end of its type. -/
namespace OpenGrok

/-! ### The pool -/

/-- The pool as one of numbers. -/
def IdPool.pool (ids : IdPool) : Pool where
  last := ids.last.toNat
  free := ids.ids.map UInt32.toNat

namespace IdPool
variable (ids : IdPool)

/-- Until the counter reaches the end of its type, `get_id` draws from the pool. -/
theorem getId_draws (h : ids.last.toNat + 1 < 2 ^ 32) :
    ids.getId.1.toNat = ids.pool.draw.1 ∧ ids.getId.2.pool = ids.pool.draw.2 := by
  unfold getId Pool.draw pool
  cases hids : ids.ids with
  | nil =>
    have hlast : (ids.last + 1).toNat = ids.last.toNat + 1 := by
      rw [UInt32.toNat_add, UInt32.toNat_one, Nat.mod_eq_of_lt h]
    simp [hlast]
  | cons id rest => simp

@[simp] theorem removeId_releases (id : CIdT) :
    (ids.removeId id).pool = ids.pool.release [id.toNat] := by
  simp [removeId, pool, Pool.release]

@[simp] theorem release_releases (back : List CIdT) :
    (ids.release back).pool = ids.pool.release (back.map UInt32.toNat) := by
  simp [release, pool, Pool.release]

end IdPool

/-! ### The tables -/

namespace Names

/-- The proxy's `id_to_sock` has the entry. -/
def Holds (n : Names) (p : Ptr) (id : CIdT) (x : SockT) : Prop :=
  ∃ t, n.tunnel p = some t ∧ t.idToSock.lookup id = some x

/-- The proxy's `sock_to_id` has the entry. -/
def Knows (n : Names) (p : Ptr) (x : SockT) (id : CIdT) : Prop :=
  ∃ t, n.tunnel p = some t ∧ t.sockToId.lookup x = some id

variable {n n' : Names} {p q : Ptr} {id j : CIdT} {x y : SockT}

theorem Holds.fun (h : n.Holds p id x) (h' : n.Holds p id y) : x = y := by
  obtain ⟨t, ht, hx⟩ := h
  obtain ⟨u, hu, hy⟩ := h'
  cases Option.some.inj (ht.symm.trans hu)
  exact Option.some.inj (hx.symm.trans hy)

theorem Knows.fun (h : n.Knows p x id) (h' : n.Knows p x j) : id = j := by
  obtain ⟨t, ht, hid⟩ := h
  obtain ⟨u, hu, hj⟩ := h'
  cases Option.some.inj (ht.symm.trans hu)
  exact Option.some.inj (hid.symm.trans hj)

theorem holds_update {t : Tunnel} (h : n'.tunnel = Function.update n.tunnel p (some t)) :
    n'.Holds q j y ↔ q = p ∧ t.idToSock.lookup j = some y ∨ q ≠ p ∧ n.Holds q j y := by
  simp only [Holds, h, Function.update_apply]
  by_cases hq : q = p <;> simp [hq]

theorem knows_update {t : Tunnel} (h : n'.tunnel = Function.update n.tunnel p (some t)) :
    n'.Knows q y j ↔ q = p ∧ t.sockToId.lookup y = some j ∨ q ≠ p ∧ n.Knows q y j := by
  simp only [Knows, h, Function.update_apply]
  by_cases hq : q = p <;> simp [hq]

end Names

/-- The tables have the same entries. -/
structure SameTables (n n' : Names) : Prop where
  holds : ∀ p id x, n'.Holds p id x ↔ n.Holds p id x
  knows : ∀ p x id, n'.Knows p x id ↔ n.Knows p x id

theorem SameTables.of_eq {n n' : Names} (h : n'.tunnel = n.tunnel) : SameTables n n' where
  holds _ _ _ := by simp only [Names.Holds, h]
  knows _ _ _ := by simp only [Names.Knows, h]

/-- A proxy has the entry no more. -/
structure Untabled (p : Ptr) (id : CIdT) (x : SockT) (n n' : Names) : Prop where
  holds : ∀ q j y, n'.Holds q j y ↔ n.Holds q j y ∧ ¬(q = p ∧ j = id)
  knows : ∀ q y j, n'.Knows q y j ↔ n.Knows q y j ∧ ¬(q = p ∧ y = x)

/-- A proxy has no entries any more. -/
structure Emptied (p : Ptr) (n n' : Names) : Prop where
  holds : ∀ q j y, n'.Holds q j y ↔ n.Holds q j y ∧ q ≠ p
  knows : ∀ q y j, n'.Knows q y j ↔ n.Knows q y j ∧ q ≠ p

section
variable {env : Env} {P : Terms} {w w' : World} {p : Ptr} {px : GrokProxy}

/-- A new client is in its proxy's tables, with the id drawn for it. -/
structure Tabled (w : World) (p : Ptr) (fd : SockT) (n' : Names) : Prop where
  holds : ∀ q j y, n'.Holds q j y ↔ q = p ∧ j = w.idPool.getId.1 ∧ y = fd ∨
    w.names.Holds q j y ∧ ¬(q = p ∧ j = w.idPool.getId.1)
  knows : ∀ q y j, n'.Knows q y j ↔ q = p ∧ j = w.idPool.getId.1 ∧ y = fd ∨
    w.names.Knows q y j ∧ ¬(q = p ∧ y = fd)

theorem World.announced_tabled (env : Env) (fd : SockT) (hp : w.proxies.lookup p = some px) :
    Tabled w p fd (w.announced fd env p px).names := by
  have htunnel : (w.announced fd env p px).names.tunnel = Function.update w.names.tunnel p (some {
      px.toTunnel with
        sockToId := px.sockToId.insert fd w.idPool.getId.1
        idToSock := px.idToSock.insert w.idPool.getId.1 fd }) := by
    rw [World.names_announced w fd env hp]
  have ht := (World.proxy_names hp).1
  constructor
  · intro q j y
    rw [Names.holds_update htunnel, Table.lookup_insert_ite]
    by_cases hq : q = p
    · subst hq
      by_cases hj : j = w.idPool.getId.1 <;> simp [Names.Holds, ht, hj, eq_comm]
    · simp [hq]
  · intro q y j
    rw [Names.knows_update htunnel, Table.lookup_insert_ite]
    by_cases hq : q = p
    · subst hq
      by_cases hy : y = fd <;> simp [Names.Knows, ht, hy, eq_comm]
    · simp [hq]

theorem World.untabled_tables (hp : w.proxies.lookup p = some px) (x : SockT) (id : CIdT) :
    Untabled p id x w.names (w.untabled x p px id).names := by
  have htunnel : (w.untabled x p px id).names.tunnel = Function.update w.names.tunnel p (some {
      px.toTunnel with sockToId := px.sockToId.erase x, idToSock := px.idToSock.erase id }) := by
    rw [World.names_untabled w x hp]
  have ht := (World.proxy_names hp).1
  constructor
  · intro q j y
    rw [Names.holds_update htunnel, Table.lookup_erase_ite]
    by_cases hq : q = p
    · subst hq
      by_cases hj : j = id <;> simp [Names.Holds, ht, hj]
    · simp [hq]
  · intro q y j
    rw [Names.knows_update htunnel, Table.lookup_erase_ite]
    by_cases hq : q = p
    · subst hq
      by_cases hy : y = x <;> simp [Names.Knows, ht, hy]
    · simp [hq]

theorem Untabled.of_eq {n n' n'' : Names} {id : CIdT} {x : SockT} (h : Untabled p id x n n')
    (heq : n''.tunnel = n'.tunnel) : Untabled p id x n n'' where
  holds q j y := ((SameTables.of_eq heq).holds q j y).trans (h.holds q j y)
  knows q y j := ((SameTables.of_eq heq).knows q y j).trans (h.knows q y j)

theorem Emptied.of_none {n n' : Names} (h : n'.tunnel = Function.update n.tunnel p none) :
    Emptied p n n' := by
  constructor <;> intro q a b
  · simp only [Names.Holds, h, Function.update_apply]
    by_cases hq : q = p <;> simp [hq]
  · simp only [Names.Knows, h, Function.update_apply]
    by_cases hq : q = p <;> simp [hq]

/-! ### What an effect does to the ledger -/

/-- What an effect does to the ledger. -/
inductive Booked (env : Env) (P : Terms) (w w' : World) : Prop where
  | kept : SameTables w.names w'.names → w'.idPool = w.idPool → Booked env P w w'
  | announced (p : Ptr) (px : GrokProxy) (fd : SockT) : (fd = -1 → P.refuse (.grokProxy p)) →
      P.draw px w.idPool.getId.1 → w.proxies.lookup p = some px → Loose w.toRegistry fd →
      (∀ q t, fd ≠ -1 → w.names.tunnel q = some t → t.sockToId.lookup fd = none) →
      w' = w.announced fd env p px → Booked env P w w'
  | returned (p : Ptr) (id : CIdT) (x : SockT) : w.names.Holds p id x ∨ w.names.Knows p x id →
      Untabled p id x w.names w'.names → w'.idPool = w.idPool.removeId id → Booked env P w w'
  | emptied (p : Ptr) (px : GrokProxy) : w.proxies.lookup p = some px →
      Emptied p w.names w'.names → w'.idPool = w.idPool.release (px.heldIds env) →
      Booked env P w w'

theorem World.created_tables {A sock : SockT} (hw : w.names.Wf) (port listeningPort : UInt16) :
    SameTables w.names (w.created A sock port listeningPort).names := by
  have htunnel : (w.created A sock port listeningPort).names.tunnel = Function.update
      w.names.tunnel w.nextProxy (some { initiator := A, listeningPort := listeningPort }) := by
    rw [World.names_created]
  have hnone : w.names.tunnel w.nextProxy = none := by
    cases ht : w.names.tunnel w.nextProxy with
    | none => rfl
    | some t => exact absurd (hw.tunnel_lt ht) (Nat.lt_irrefl _)
  constructor <;> intro q a b
  · rw [Names.holds_update htunnel]
    by_cases hq : q = w.nextProxy <;> simp [Names.Holds, hq, hnone]
  · rw [Names.knows_update htunnel]
    by_cases hq : q = w.nextProxy <;> simp [Names.Knows, hq, hnone]

theorem Command.booked {A : SockT} {said : List Reaction} (h : Command env P A w said w')
    (hw : w.names.Wf) : Booked env P w w' := by
  have hheld {p : Ptr} {px : GrokProxy} {id : CIdT} {x : SockT} (hp : w.proxies.lookup p = some px)
      (hid : px.idToSock.lookup id = some x) : w.names.Holds p id x ∨ w.names.Knows p x id :=
    .inl ⟨_, (World.proxy_names hp).1, hid⟩
  cases h with
  | message type length buffer _ _ => exact .kept (.of_eq rfl) rfl
  | granted type length buffer _ =>
    exact .kept (.of_eq (by rw [World.names_granted]; rfl)) (World.granted_pool A _)
  | delivered p t id x length buffer body _ _ _ _ _ =>
    exact .kept (.of_eq (by rw [Loop.send_registry]; rfl)) (Loop.send_pool ..)
  | dropped p px id x o b buffer hp _ hid _ _ hb _ =>
    exact .returned p id x (hheld hp hid) ((World.untabled_tables hp x id).of_eq
      (World.dropped_tunnel _ x id hp hb)) rfl
  | untabled p px id x buffer hp _ hid _ _ =>
    exact .returned p id x (hheld hp hid) (World.untabled_tables (w := w.log _) hp x id) rfl
  | replied type payload _ _ =>
    exact .kept (.of_eq (by rw [FStreamer.send_registry])) (FStreamer.send_pool ..)
  | touched =>
    exact .kept (.of_eq (by rw [World.names_gatherUser w A])) (FreeGrok.gatherUser_pool A w)
  | created sock port listeningPort _ _ _ _ =>
    exact .kept (World.created_tables hw port listeningPort) (World.created_pool ..)
  | discarded sock port _ _ _ _ =>
    refine .kept (.of_eq (by rw [World.discarded_names env hw])) ?_
    rw [World.deleted_pool, FStreamer.send_pool, World.created_pool]

/-- **Ids are drawn for announcements and come back with the entries they had.** -/
theorem Effect.booked (h : Effect env P w w') (hw : w.names.Wf) : Booked env P w w' := by
  cases h with
  | accepted fd item _ => exact .kept (.of_eq (by rw [World.names_accepted w fd item])) rfl
  | refused o item _ => exact .kept (.of_eq rfl) rfl
  | parsed fd parser _ _ => exact .kept (.of_eq (by rw [World.names_setParser w fd parser])) rfl
  | announced p px fd before hneg hdraw hp hloose htab _ =>
    exact .announced p px fd hneg hdraw hp hloose htab rfl
  | admitted fd o b before _ hb _ _ _ _ =>
    refine .kept (.of_eq (by rw [World.names_admitted w fd hb])) ?_
    have hset (v : World) : (v.setObserver o { b with clients := b.clients.insert fd () }).idPool =
      v.idPool := rfl
    exact (hset _).trans (Selector.add_pool fd eventsR w)
  | flagged fd o b _ hb =>
    exact .kept (.of_eq (by rw [World.names_flagged w fd hb])) (Selector.modify_pool ..)
  | wrote fd front rest n _ _ _ =>
    exact .kept (.of_eq (by rw [World.wrote_registry])) (World.wrote_pool ..)
  | writeFailed fd _ =>
    exact .kept (.of_eq (by rw [World.writeFailed_registry])) (World.writeFailed_pool ..)
  | readFailed fd _ _ _ => exact .kept (.of_eq rfl) rfl
  | heard fd fd' state length u64 buffer bytes rest _ _ _ => exact .kept (.of_eq rfl) rfl
  | command A _ hc => exact hc.booked hw
  | relayed p t x id bytes _ _ _ =>
    exact .kept (.of_eq (by rw [World.names_relayed])) (FStreamer.send_pool ..)
  | captured x bytes _ _ => exact .kept (.of_eq rfl) rfl
  | served x bytes _ _ => exact .kept (.of_eq (by rw [Loop.send_registry])) (Loop.send_pool ..)
  | forgot fd _ _ => exact .kept (.of_eq (by rw [World.names_forgot w fd])) rfl
  | torn A u p px b _ _ _ _ hp hb =>
    refine .emptied p px hp (.of_none (by rw [World.names_torn w A env hp hb])) ?_
    show ((w.shutDown p px _).deleted p px.toIObserver (env.order px.clients.keys)).idPool = _
    rw [World.deleted_pool]
    rfl
  | left x o b _ _ hb _ _ _ => exact .kept (.of_eq (by rw [World.names_left w x hb])) rfl
  | hungUp p px x id b _ hp hid _ hb =>
    refine .returned p id x (.inr ⟨_, (World.proxy_names hp).1, hid⟩) ?_ ?_
    · exact (World.untabled_tables hp x id).of_eq (World.hungUp_tunnel env x id hp hb)
    · exact FStreamer.send_pool env px.initiator grokDisconnect
        (ByteBuffer.encode cIdSize id.toNat) (w.untabled x p px id)

/-! ### The ledger -/

/-- The numbers of the ids in the proxies' tables. -/
def Names.held (n : Names) : Set Nat := {k | ∃ p id x, n.Holds p id x ∧ id.toNat = k}

/-- **The ledger balances**: the tables of a proxy are each other's inverse, an id is in the
tables of one proxy only, and the ids held and the free ones are those below `last`. -/
structure Ledger (w : World) : Prop where
  accepting : ∀ {p id x}, w.names.Holds p id x → x ≠ -1
  inverse : ∀ {p id x}, w.names.Holds p id x ↔ w.names.Knows p x id
  unique : ∀ {p q id x y}, w.names.Holds p id x → w.names.Holds q id y → p = q
  conserves : w.idPool.pool.Conserves w.names.held
  bounded : w.idPool.last.toNat ≤ 2 ^ 31

theorem Names.Wf.knows_one {n : Names} (h : n.Wf) {p q : Ptr} {x : SockT} {id j : CIdT}
    (hx : x ≠ -1) (hp : n.Knows p x id) (hq : n.Knows q x j) : p = q ∧ id = j := by
  obtain ⟨t, ht, hid⟩ := hp
  obtain ⟨u, hu, hj⟩ := hq
  obtain rfl := h.sock_one ht hu hid hj hx
  exact ⟨rfl, Names.Knows.fun ⟨t, ht, hid⟩ ⟨u, hu, hj⟩⟩

theorem Names.Wf.knows_int {n : Names} (h : n.Wf) {p : Ptr} {x : SockT} {id : CIdT}
    (hx : x ≠ -1) (hp : n.Knows p x id) : 0 ≤ x ∧ x < 2 ^ 31 := by
  obtain ⟨t, ht, hid⟩ := hp
  have hopen := h.sock_open ht hid hx
  obtain ⟨c, hc⟩ := Option.ne_none_iff_exists'.mp hopen
  exact ⟨h.open_nonneg hc, h.open_int hopen (h.sock_unobserved ht hid hx)⟩

/-- Clients have descriptors of their own, so no more ids are held than there are descriptors. -/
theorem Names.Wf.held_ncard {n : Names} (h : n.Wf)
    (hvalid : ∀ p id x, n.Holds p id x → x ≠ -1) : n.held.ncard ≤ 2 ^ 31 := by
  have hsock : ∀ k ∈ n.held, ∃ x : SockT, x ≠ -1 ∧ ∃ p id, n.Knows p x id ∧ id.toNat = k := by
    intro k hparts
    obtain ⟨p, id, x, ⟨t, ht, hid⟩, rfl⟩ := hparts
    have hx := hvalid p id x ⟨t, ht, hid⟩
    exact ⟨x, hx, p, id, ⟨t, ht, h.id_sock ht hid hx⟩, rfl⟩
  choose! sock hne owner id hknows hid using hsock
  have hint (k : Nat) (hk : k ∈ n.held) := h.knows_int (hne k hk) (hknows k hk)
  have hbelow : ∀ k ∈ n.held, (sock k).toNat ∈ Set.Iio (2 ^ 31) := by
    intro k hk
    obtain ⟨h0, h1⟩ := hint k hk
    norm_num at h1
    norm_num
    omega
  have hinj : Set.InjOn (fun k => (sock k).toNat) n.held := by
    intro k hk j hj hsame
    have h1 := (hint k hk).1
    have h2 := (hint j hj).1
    have hsame : (sock k).toNat = (sock j).toNat := hsame
    have hsock : sock j = sock k := by
      rw [← Int.toNat_of_nonneg h2, ← hsame, Int.toNat_of_nonneg h1]
    have hj' := hknows j hj
    rw [hsock] at hj'
    rw [← hid k hk, ← hid j hj, (h.knows_one (hne k hk) (hknows k hk) hj').2]
  have hle := Set.ncard_le_ncard_of_injOn _ hbelow hinj (Set.finite_Iio _)
  rwa [Set.ncard_Iio_nat] at hle

theorem GrokProxy.mem_heldIds (hp : w.proxies.lookup p = some px) {id : CIdT} :
    id ∈ px.heldIds env ↔ ∃ x, w.names.Knows p x id := by
  have ht := (World.proxy_names hp).1
  simp only [GrokProxy.heldIds, List.mem_filterMap, (env.order_perm _).mem_iff]
  constructor
  · intro hparts
    obtain ⟨x, _, hx⟩ := hparts
    exact ⟨x, _, ht, hx⟩
  · intro hparts
    obtain ⟨x, t, ht', hx⟩ := hparts
    cases Option.some.inj (ht.symm.trans ht')
    exact ⟨x, Table.mem_of_lookup hx, hx⟩

theorem GrokProxy.heldIds_nodup (hp : w.proxies.lookup p = some px)
    (hinj : ∀ x y id, w.names.Knows p x id → w.names.Knows p y id → x = y) :
    (px.heldIds env).Nodup := by
  have ht := (World.proxy_names hp).1
  refine List.Nodup.filterMap (fun x y id hx hy => ?_)
    ((env.order_perm _).nodup_iff.mpr px.sockToId.nodupKeys)
  exact hinj x y id ⟨_, ht, hx⟩ ⟨_, ht, hy⟩

/-- Entries that keep their ids leave the ledger as it is. -/
theorem Ledger.kept (hl : Ledger w) (htables : SameTables w.names w'.names)
    (hpool : w'.idPool = w.idPool) : Ledger w' := by
  have hheld : w'.names.held = w.names.held := by simp only [Names.held, htables.holds]
  refine ⟨?_, ?_, ?_, hpool ▸ hheld ▸ hl.conserves, hpool ▸ hl.bounded⟩
  · exact fun h => hl.accepting ((htables.holds _ _ _).mp h)
  · exact fun {q j y} => ((htables.holds q j y).trans hl.inverse).trans (htables.knows q y j).symm
  · exact fun h h' => hl.unique ((htables.holds _ _ _).mp h) ((htables.holds _ _ _).mp h')

/-- The entries that go give their ids back to the pool. -/
theorem Ledger.removed (hl : Ledger w) (gone : Ptr → CIdT → Prop) {back : List CIdT}
    (hholds : ∀ q j y, w'.names.Holds q j y ↔ w.names.Holds q j y ∧ ¬gone q j)
    (hknows : ∀ q y j, w'.names.Knows q y j ↔ w.names.Knows q y j ∧ ¬gone q j)
    (hback : ∀ j, j ∈ back ↔ ∃ q y, w.names.Holds q j y ∧ gone q j) (hnodup : back.Nodup)
    (hpool : w'.idPool = w.idPool.release back) : Ledger w' := by
  have hheld : w'.names.held = w.names.held \ {k | k ∈ back.map UInt32.toNat} := by
    ext k
    simp only [Names.held, hholds, Set.mem_sdiff, Set.mem_ofPred_eq, List.mem_map, hback]
    constructor
    · intro hparts
      obtain ⟨q, j, y, ⟨hq, hne⟩, rfl⟩ := hparts
      refine ⟨⟨q, j, y, hq, rfl⟩, ?_⟩
      intro hgone
      obtain ⟨i, ⟨r, z, hr, hg⟩, hsame⟩ := hgone
      obtain rfl := UInt32.toNat_inj.mp hsame
      exact hne (hl.unique hr hq ▸ hg)
    · intro hparts
      obtain ⟨⟨q, j, y, hq, rfl⟩, hne⟩ := hparts
      exact ⟨q, j, y, ⟨hq, fun hg => hne ⟨j, ⟨q, y, hq, hg⟩, rfl⟩⟩, rfl⟩
  refine ⟨fun h => hl.accepting ((hholds _ _ _).mp h).1, fun {q j y} => ?_,
    fun hq hr => hl.unique ((hholds _ _ _).mp hq).1 ((hholds _ _ _).mp hr).1, ?_,
    hpool ▸ hl.bounded⟩
  · rw [hholds, hknows, hl.inverse]
  · rw [hpool, hheld, IdPool.release_releases]
    refine hl.conserves.release (hnodup.map fun _ _ => UInt32.toNat_inj.mp) ?_
    intro k hk
    obtain ⟨j, hj, rfl⟩ := List.mem_map.mp hk
    obtain ⟨q, y, hq, _⟩ := (hback j).mp hj
    exact ⟨q, j, y, hq, rfl⟩

/-- An announced client holds the id that was drawn for it. -/
theorem Ledger.announced (hl : Ledger w) {fd : SockT} (hfd : fd ≠ -1)
    (hp : w.proxies.lookup p = some px)
    (htab : ∀ q t, fd ≠ -1 → w.names.tunnel q = some t → t.sockToId.lookup fd = none)
    (hw' : (w.announced fd env p px).names.Wf) : Ledger (w.announced fd env p px) := by
  obtain ⟨hacc, hinv, huniq, hcons, hbound⟩ := hl
  obtain ⟨hholds, hknows⟩ := World.announced_tabled env fd hp
  obtain ⟨hid, hpool⟩ := w.idPool.getId_draws (by omega)
  have hfresh : ∀ q y, ¬w.names.Holds q w.idPool.getId.1 y := fun q y hq =>
    hcons.draw_fresh ⟨q, _, y, hq, hid⟩
  have hunknown : ∀ q j, ¬w.names.Knows q fd j := by
    intro q j hparts
    obtain ⟨t, ht, hj⟩ := hparts
    rw [htab q t hfd ht] at hj
    cases hj
  have hpool' : (w.announced fd env p px).idPool.pool = w.idPool.pool.draw.2 := by
    rw [← hpool]
    exact congrArg IdPool.pool (FStreamer.send_pool ..)
  have hheld : (w.announced fd env p px).names.held = insert w.idPool.pool.draw.1 w.names.held := by
    ext k
    simp only [Names.held, hholds, ← hid, Set.mem_ofPred_eq, Set.mem_insert_iff]
    constructor
    · intro hparts
      obtain ⟨q, j, y, ⟨_, rfl, _⟩ | ⟨hq, _⟩, rfl⟩ := hparts
      · exact .inl rfl
      · exact .inr ⟨q, j, y, hq, rfl⟩
    · intro hcase
      rcases hcase with rfl | ⟨q, j, y, hq, rfl⟩
      · exact ⟨p, _, fd, .inl ⟨rfl, rfl, rfl⟩, rfl⟩
      · refine ⟨q, j, y, .inr ⟨hq, ?_⟩, rfl⟩
        intro hparts
        obtain ⟨_, rfl⟩ := hparts
        exact hfresh q y hq
  have hacc' : ∀ {q j y}, (w.announced fd env p px).names.Holds q j y → y ≠ -1 := by
    intro q j y hq
    obtain ⟨_, _, rfl⟩ | ⟨hq, _⟩ := (hholds q j y).mp hq
    · exact hfd
    · exact hacc hq
  have hcons' : (w.announced fd env p px).idPool.pool.Conserves
      (w.announced fd env p px).names.held := by
    rw [hpool', hheld]
    exact hcons.draw
  refine ⟨hacc', fun {q j y} => ?_, fun {q r j y z} hq hr => ?_, hcons', ?_⟩
  · rw [hholds, hknows, hinv]
    refine or_congr Iff.rfl (and_congr_right fun hq => ?_)
    constructor
    · intro _ hparts
      obtain ⟨_, rfl⟩ := hparts
      exact hunknown q j hq
    · intro _ hparts
      obtain ⟨_, rfl⟩ := hparts
      exact hfresh q y (hinv.mpr hq)
  · obtain ⟨rfl, rfl, rfl⟩ | ⟨hq, _⟩ := (hholds q j y).mp hq
    · obtain ⟨rfl, _, _⟩ | ⟨hr, _⟩ := (hholds r _ z).mp hr
      · rfl
      · exact absurd hr (hfresh r z)
    · obtain ⟨_, rfl, _⟩ | ⟨hr, _⟩ := (hholds r j z).mp hr
      · exact absurd hq (hfresh q y)
      · exact huniq hq hr
  · have hcard := hw'.held_ncard fun q j y => hacc'
    rw [hheld] at hcard
    have h := hcons.draw_bounded hbound hcard
    rwa [← hpool'] at h

theorem Booked.ledger (h : Booked env P w w') (hw' : w'.names.Wf)
    (hopen : ∀ p, ¬P.refuse (.grokProxy p)) (hl : Ledger w) : Ledger w' := by
  cases h with
  | kept htables hpool => exact hl.kept htables hpool
  | announced p px fd hneg _ hp _ htab heq =>
    subst heq
    exact hl.announced (fun hfd => hopen p (hneg hfd)) hp htab hw'
  | returned p id x hentry htables hpool =>
    have hentry : w.names.Holds p id x := hentry.elim (fun h => h) hl.inverse.mpr
    refine hl.removed (fun q j => q = p ∧ j = id) htables.holds (fun q y j => ?_) (fun j => ?_)
      (List.nodup_singleton id) hpool
    · rw [htables.knows]
      refine and_congr_right fun hq => not_congr (and_congr_right fun hp => ?_)
      subst hp
      constructor
      · intro hsame
        subst hsame
        exact Names.Knows.fun hq (hl.inverse.mp hentry)
      · intro hsame
        subst hsame
        exact Names.Holds.fun (hl.inverse.mpr hq) hentry
    · rw [List.mem_singleton]
      constructor
      · intro hsame
        subst hsame
        exact ⟨p, x, hentry, rfl, rfl⟩
      · intro hgone
        obtain ⟨_, _, _, _, hsame⟩ := hgone
        exact hsame
  | emptied p px hp htables hpool =>
    refine hl.removed (fun q _ => q = p) htables.holds htables.knows (fun j => ?_)
      (GrokProxy.heldIds_nodup hp ?_) hpool
    · rw [GrokProxy.mem_heldIds hp]
      constructor
      · intro hgone
        obtain ⟨y, hy⟩ := hgone
        exact ⟨p, y, hl.inverse.mpr hy, rfl⟩
      · intro hgone
        obtain ⟨_, y, hy, rfl⟩ := hgone
        exact ⟨y, hl.inverse.mp hy⟩
    · exact fun x y id hx hy => Names.Holds.fun (hl.inverse.mpr hx) (hl.inverse.mpr hy)

end

end OpenGrok
