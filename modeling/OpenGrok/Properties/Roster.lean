import OpenGrok.Loop.Calm
import OpenGrok.Properties.Conservation

/-! Ids when `accept` fails.

A failed `accept` leaves an id behind that `sock_to_id` forgets, and such an id never
comes back to the pool. Even so no id is ever given to two clients, and none is freed
twice (`Roster`): what the tables hold and what is free stay apart, as long as the
pool's counter has not come to the end of its type. -/
namespace OpenGrok

/-- Drawing from the pool while the counter is not at its end. -/
theorem IdPool.getId_pool (ids : IdPool) (h : ids.getId.1.toNat + 1 < 2 ^ 32) :
    ids.getId.1.toNat = ids.pool.draw.1 ∧ ids.getId.2.pool = ids.pool.draw.2 := by
  unfold getId at h ⊢
  unfold Pool.draw pool
  cases hids : ids.ids with
  | nil =>
    simp only [hids] at h
    have hlast : (ids.last + 1).toNat = ids.last.toNat + 1 := by
      rw [UInt32.toNat_add, UInt32.toNat_one, Nat.mod_eq_of_lt h]
    simp [hlast]
  | cons id rest => simp

/-! ### The roster -/

/-- **No id is shared**: what `sock_to_id` knows `id_to_sock` holds, an id is in the tables of one
proxy only, and what is free is free once and held by nobody. -/
structure Roster (w : World) : Prop where
  known : ∀ {p id x}, w.names.Knows p x id → w.names.Holds p id x
  unique : ∀ {p q id x y}, w.names.Holds p id x → w.names.Holds q id y → p = q
  guards : w.idPool.pool.Guards w.names.held

namespace Roster
variable {env : Env} {P : Terms} {w w' : World} {p : Ptr} {px : GrokProxy} {fd : SockT}

theorem boot (l : Listeners) : Roster (World.boot l) where
  known := fun ⟨_, ht, _⟩ => nomatch ht
  unique := fun ⟨_, ht, _⟩ => nomatch ht
  guards := by
    have hheld : (World.boot l).names.held = ∅ := by
      refine Set.eq_empty_iff_forall_notMem.mpr ?_
      intro k ⟨p, id, x, ⟨t, ht, _⟩, _⟩
      cases ht
    rw [hheld]
    exact .empty

theorem of_same (h : Roster w) (hreg : w'.toRegistry = w.toRegistry)
    (hpool : w'.idPool = w.idPool) : Roster w' := by
  obtain ⟨hknown, hunique, hguards⟩ := h
  exact ⟨hreg ▸ hknown, hreg ▸ hunique, hpool ▸ hreg ▸ hguards⟩

theorem mem_held {n : Names} {p : Ptr} {id : CIdT} {x : SockT} (h : n.Holds p id x) :
    id.toNat ∈ n.held :=
  ⟨p, id, x, h, rfl⟩

/-- Nobody has the id that is drawn. -/
theorem fresh (h : Roster w) (hdraw : w.idPool.getId.1.toNat + 1 < 2 ^ 32) (q : Ptr) (y : SockT) :
    ¬w.names.Holds q w.idPool.getId.1 y := by
  intro hq
  have hheld := mem_held hq
  rw [(w.idPool.getId_pool hdraw).1] at hheld
  exact h.guards.draw_fresh hheld

theorem kept (h : Roster w) (htables : SameTables w.names w'.names) (hpool : w'.idPool = w.idPool) :
    Roster w' := by
  have hheld : w'.names.held = w.names.held := by
    ext k
    simp only [Names.held, htables.holds]
  refine ⟨fun hk => ?_, fun hp hq => ?_, ?_⟩
  · exact (htables.holds ..).mpr (h.known ((htables.knows ..).mp hk))
  · exact h.unique ((htables.holds ..).mp hp) ((htables.holds ..).mp hq)
  · rw [hpool, hheld]
    exact h.guards

/-- A new client is the only one with its id. -/
theorem announced (h : Roster w) (hdraw : w.idPool.getId.1.toNat + 1 < 2 ^ 32)
    (hp : w.proxies.lookup p = some px) : Roster (w.announced fd env p px) := by
  obtain ⟨hholds, hknows⟩ := World.announced_tabled env fd hp
  have hfresh := h.fresh hdraw
  have hpool : (w.announced fd env p px).idPool = w.idPool.getId.2 := FStreamer.send_pool ..
  obtain ⟨hnumber, hdrawn⟩ := w.idPool.getId_pool hdraw
  refine ⟨fun {q j y} hk => ?_, fun {q r j y z} hq hr => ?_, ?_⟩
  · rcases (hknows q y j).mp hk with ⟨rfl, rfl, rfl⟩ | ⟨hk, _⟩
    · exact (hholds _ _ _).mpr (.inl ⟨rfl, rfl, rfl⟩)
    · have hold := h.known hk
      refine (hholds q j y).mpr (.inr ⟨hold, fun hsame => ?_⟩)
      exact hfresh q y (hsame.2 ▸ hold)
  · rcases (hholds q j y).mp hq with ⟨rfl, rfl, rfl⟩ | ⟨hq, _⟩
    · rcases (hholds r _ z).mp hr with ⟨rfl, _, _⟩ | ⟨hr, _⟩
      · rfl
      · exact absurd hr (hfresh r z)
    · rcases (hholds r j z).mp hr with ⟨_, rfl, _⟩ | ⟨hr, _⟩
      · exact absurd hq (hfresh q y)
      · exact h.unique hq hr
  · rw [hpool, hdrawn]
    refine h.guards.draw.mono fun k hk => ?_
    obtain ⟨q, j, y, hq, rfl⟩ := hk
    rcases (hholds q j y).mp hq with ⟨_, rfl, _⟩ | ⟨hq, _⟩
    · exact .inl hnumber
    · exact .inr (mem_held hq)

/-- Entries go, and their ids come back. -/
theorem removed (h : Roster w) (gone : Ptr → CIdT → Prop) {back : List CIdT}
    (hholds : ∀ q j y, w'.names.Holds q j y ↔ w.names.Holds q j y ∧ ¬gone q j)
    (hknows : ∀ q y j, w'.names.Knows q y j → w.names.Knows q y j ∧ ¬gone q j)
    (hback : ∀ j ∈ back, ∃ q y, w.names.Holds q j y ∧ gone q j) (hnodup : back.Nodup)
    (hpool : w'.idPool = w.idPool.release back) : Roster w' := by
  refine ⟨fun {q j y} hk => ?_, fun hq hr => ?_, ?_⟩
  · obtain ⟨hk, hkept⟩ := hknows q y j hk
    exact (hholds q j y).mpr ⟨h.known hk, hkept⟩
  · exact h.unique ((hholds _ _ _).mp hq).1 ((hholds _ _ _).mp hr).1
  · have hheld : ∀ k ∈ back.map UInt32.toNat, k ∈ w.names.held := by
      intro k hk
      obtain ⟨j, hj, rfl⟩ := List.mem_map.mp hk
      obtain ⟨q, y, hq, _⟩ := hback j hj
      exact mem_held hq
    rw [hpool, IdPool.release_releases]
    refine (h.guards.release (hnodup.map fun _ _ => UInt32.toNat_inj.mp) hheld).mono fun k hk => ?_
    obtain ⟨q, j, y, hq, rfl⟩ := hk
    obtain ⟨hq, hkept⟩ := (hholds q j y).mp hq
    refine ⟨mem_held hq, fun hmem => ?_⟩
    obtain ⟨j', hj', hsame⟩ := List.mem_map.mp hmem
    obtain rfl := UInt32.toNat_inj.mp hsame
    obtain ⟨r, z, hr, hgone⟩ := hback j' hj'
    obtain rfl := h.unique hr hq
    exact hkept hgone

end Roster

section
variable {env : Env} {P : Terms} {w w' : World}

/-- **What an effect books keeps the ids apart.** -/
theorem Booked.roster (h : Booked env P w w')
    (hdraw : ∀ px id, P.draw px id → id.toNat + 1 < 2 ^ 32) (hr : Roster w) : Roster w' := by
  cases h with
  | kept htables hpool => exact hr.kept htables hpool
  | announced p px fd _ hid hp _ _ heq =>
    subst heq
    exact hr.announced (hdraw px _ hid) hp
  | returned p id x hentry htables hpool =>
    have hentry : w.names.Holds p id x := hentry.elim (fun h => h) hr.known
    refine hr.removed (fun q j => q = p ∧ j = id) htables.holds (fun q y j hk => ?_)
      (fun j hj => ?_) (List.nodup_singleton id) hpool
    · obtain ⟨hk, hkept⟩ := (htables.knows q y j).mp hk
      refine ⟨hk, fun hgone => ?_⟩
      obtain ⟨rfl, rfl⟩ := hgone
      exact hkept ⟨rfl, Names.Holds.fun (hr.known hk) hentry⟩
    · obtain rfl := List.mem_singleton.mp hj
      exact ⟨p, x, hentry, rfl, rfl⟩
  | emptied p px hp htables hpool =>
    refine hr.removed (fun q _ => q = p) htables.holds
      (fun q y j hk => (htables.knows q y j).mp hk) (fun j hj => ?_)
      (GrokProxy.heldIds_nodup hp fun x y id hx hy => ?_) hpool
    · obtain ⟨y, hy⟩ := (GrokProxy.mem_heldIds hp).mp hj
      exact ⟨p, y, hr.known hy, rfl⟩
    · exact Names.Holds.fun (hr.known hx) (hr.known hy)

end

/-! ### Runs -/

namespace Loop

/-- The pool has an id left that is not the last of its type, each time a proxy is to draw one. -/
def IdsLeft (s : State) : Input → Prop
  | .wait _ => True
  | .handle _ =>
    match s.pending with
    | [] => True
    | ev :: _ => ev.event.transfers = true → s.world.proxyListens ev.event.fd = true →
        s.world.idPool.getId.1.toNat + 1 < 2 ^ 32

instance (s : State) : ∀ i, Decidable (IdsLeft s i)
  | .wait _ => isTrue trivial
  | .handle _ =>
    match h : s.pending with
    | [] => isTrue (by simp [IdsLeft, h])
    | ev :: _ => decidable_of_iff (ev.event.transfers = true →
        s.world.proxyListens ev.event.fd = true → s.world.idPool.getId.1.toNat + 1 < 2 ^ 32)
        (by simp only [IdsLeft, h])

/-- What its events promise. -/
def numbered : Terms where
  toPromise := anyTerms.toPromise
  hangUp := True
  refuse _ := True
  draw _ id := id.toNat + 1 < 2 ^ 32
  hear _ _ bytes := bytes.length ≤ redirBufSize
  answer _ := True

theorem IdsLeft.promised {env : Env} {s : State} {i : Input} (h : IdsLeft s i) :
    Promised env numbered s i := by
  cases i with
  | wait batch => trivial
  | handle os =>
    intro ev rest hpending
    simp only [IdsLeft, hpending] at h
    have hany := keeps_any env os ev.event s.world
    exact ⟨hany.drop, hany.fail, hany.leave, hany.hangUp, hany.refuse,
      fun htransfers p px ho _ => h htransfers (Registry.proxyListens_of_lookup ho),
      fun _ _ _ bytes hrecv => Os.tcpRecv_length hrecv, trivial⟩

end Loop

section
variable {env : Env} {l : Listeners} {s : Loop.State}

theorem Roster.kept_numbered : Kept env Loop.numbered Roster where
  effect hw hr heff := (heff.booked hw.wf).roster (fun _ _ hid => hid) hr
  heard _ hr hheard := by
    cases hheard
    exact hr.of_same rfl rfl
  advanced _ hr hadvanced := by
    cases hadvanced
    exact hr.of_same rfl rfl

theorem ReachableIf.roster (h : ReachableIf env l Loop.IdsLeft s) : Roster s.world :=
  h.invariant (P := Loop.numbered) (fun _ _ hi => hi.promised) (Roster.boot l)
    fun _ _ _ _ hw hr hhandled => hhandled.kept Roster.kept_numbered hw hr

/-- **Ids are never shared, and never free twice**, even if `accept` fails: the ids in the tables of
the proxies and the free ones are all different, and below `last`; and no two clients have one id. -/
theorem ids_apart (h : ReachableIf env l Loop.IdsLeft s) :
    (s.world.tableIds ++ s.world.idPool.ids).Nodup ∧
    (∀ id ∈ s.world.tableIds ++ s.world.idPool.ids, id < s.world.idPool.last) ∧
    ∀ p q px qx x y id, s.world.proxies.lookup p = some px → s.world.proxies.lookup q = some qx →
      px.sockToId.lookup x = some id → qx.sockToId.lookup y = some id → p = q ∧ x = y := by
  obtain ⟨hknown, hunique, hguards⟩ := h.roster
  refine ⟨List.nodup_append.mpr ⟨World.tableIds_nodup hunique, .of_map _ hguards.nodup, ?_⟩,
    fun id hid => ?_, fun p q px qx x y id hp hq hx hy => ?_⟩
  · intro id hid j hj hsame
    rw [hsame] at hid
    exact hguards.apart _ (IdPool.mem_free.mpr hj) (World.mem_held.mpr hid)
  · rw [UInt32.lt_iff_toNat_lt]
    rcases List.mem_append.mp hid with hid | hid
    · exact hguards.below _ (.inr (World.mem_held.mpr hid))
    · exact hguards.below _ (.inl (IdPool.mem_free.mpr hid))
  · have hpx := hknown ⟨_, (World.proxy_names hp).1, hx⟩
    have hqy := hknown ⟨_, (World.proxy_names hq).1, hy⟩
    obtain rfl := hunique hpx hqy
    exact ⟨rfl, Names.Holds.fun hpx hqy⟩

/-- Two `accept` calls fail for the proxy of 5, and the first id is lost; the next client of 5 has
one of its own. -/
theorem ids_apart_lost :
    ∃ s, ReachableIf (.plain []) .plain Loop.IdsLeft s ∧ s.world.tableIds = [3, 2, 1, 0] ∧
      (s.world.proxies.lookup 0).any (fun px => px.sockToId.keys.length = 3) ∧
      (s.world.tableIds ++ s.world.idPool.ids).Nodup := by
  obtain ⟨s, hs, htables, hknown⟩ := ReachableIf.exists_of_run (.plain []) .plain Loop.IdsLeft
    (twoOwners ++ [.readable 6 3, .accept (-1), .readable 6 3, .accept (-1), .readable 6 3, .accept 10])
    (fun s => s.world.tableIds = [3, 2, 1, 0] ∧
      (s.world.proxies.lookup 0).any fun px => px.sockToId.keys.length = 3)
    (by decide +kernel) (by decide +kernel)
  exact ⟨s, hs, htables, hknown, (ids_apart hs).1⟩

end

end OpenGrok
