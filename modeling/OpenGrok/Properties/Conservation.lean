import OpenGrok.Properties.Isolation
import OpenGrok.Server.Ledger

/-! The conservation of ids.

The ledger balances in every run in which no `accept` fails for a proxy
(`ReachableIf.ledger`): each effect books what it draws or gives back. So what the
tables and the free list hold are the ids below `last`, each of them once. -/
namespace OpenGrok

/-- The ids in all proxies' `id_to_sock` tables. -/
def World.tableIds (w : World) : List CIdT :=
  w.proxies.entries.flatMap fun e => e.2.idToSock.keys

section
variable {env : Env} {P : Terms} {w w' : World} {l : Listeners}
  {also : Loop.State → Loop.Input → Prop} {s : Loop.State}

theorem World.mem_entries {e : Sigma fun _ : Ptr => GrokProxy} (he : e ∈ w.proxies.entries) :
    w.names.tunnel e.1 = some e.2.toTunnel :=
  (World.proxy_names (AList.mem_lookup_iff.mpr he)).1

theorem World.mem_tableIds {id : CIdT} : id ∈ w.tableIds ↔ ∃ p x, w.names.Holds p id x := by
  simp only [World.tableIds, List.mem_flatMap]
  constructor
  · intro ⟨e, he, hid⟩
    obtain ⟨x, hx⟩ := Table.lookup_of_mem hid
    exact ⟨e.1, x, _, World.mem_entries he, hx⟩
  · intro ⟨p, x, t, ht, hx⟩
    have ht : (w.proxies.lookup p).map GrokProxy.toTunnel = some t := ht
    obtain ⟨px, hp, rfl⟩ := Option.map_eq_some_iff.mp ht
    exact ⟨⟨p, px⟩, AList.mem_lookup_iff.mp hp, Table.mem_of_lookup hx⟩

/-- The tables repeat no id, if it is in one of them only. -/
theorem World.tableIds_nodup
    (unique : ∀ {p q id x y}, w.names.Holds p id x → w.names.Holds q id y → p = q) :
    w.tableIds.Nodup := by
  refine List.nodup_flatMap.mpr ⟨fun e _ => e.2.idToSock.nodupKeys, ?_⟩
  have hkeys : w.proxies.entries.Pairwise fun e e' => e.1 ≠ e'.1 :=
    List.pairwise_map.mp w.proxies.nodupKeys
  refine hkeys.imp_of_mem fun {e e'} he he' hne id hid hid' => hne ?_
  obtain ⟨x, hx⟩ := Table.lookup_of_mem hid
  obtain ⟨y, hy⟩ := Table.lookup_of_mem hid'
  exact unique ⟨_, World.mem_entries he, hx⟩ ⟨_, World.mem_entries he', hy⟩

theorem IdPool.mem_free {ids : IdPool} {id : CIdT} : id.toNat ∈ ids.pool.free ↔ id ∈ ids.ids := by
  simp [IdPool.pool, UInt32.toNat_inj]

theorem World.mem_held {id : CIdT} : id.toNat ∈ w.names.held ↔ id ∈ w.tableIds := by
  rw [World.mem_tableIds]
  constructor
  · intro hid
    obtain ⟨p, j, x, hx, hj⟩ := hid
    exact ⟨p, x, UInt32.toNat_inj.mp hj ▸ hx⟩
  · intro hid
    obtain ⟨p, x, hx⟩ := hid
    exact ⟨p, id, x, hx, rfl⟩

/-- What the tables and the free list hold are the ids below `last`, each of them once. -/
theorem Ledger.partition (h : Ledger w) : (w.tableIds ++ w.idPool.ids).Nodup ∧
    ∀ id, id ∈ w.tableIds ++ w.idPool.ids ↔ id < w.idPool.last := by
  constructor
  · refine List.nodup_append.mpr ⟨World.tableIds_nodup h.unique, .of_map _ h.conserves.nodup, ?_⟩
    intro id hid j hj hsame
    rw [hsame] at hid
    exact h.conserves.apart _ (IdPool.mem_free.mpr hj) (World.mem_held.mpr hid)
  · intro id
    rw [List.mem_append, UInt32.lt_iff_toNat_lt, or_comm, ← IdPool.mem_free, ← World.mem_held]
    exact h.conserves.all id.toNat

/-- The counter never goes back, so it does not wrap around. -/
theorem Booked.last_le (h : Booked env P w w') (hl : Ledger w) :
    w.idPool.last ≤ w'.idPool.last := by
  cases h with
  | kept _ hpool =>
    rw [hpool]
    exact UInt32.le_refl _
  | announced p px fd _ _ hp _ _ heq =>
    have hpool : w'.idPool = w.idPool.getId.2 := by
      rw [heq]
      exact FStreamer.send_pool ..
    have hbound := hl.bounded
    rw [hpool, IdPool.getId]
    split
    · rw [UInt32.le_iff_toNat_le, UInt32.toNat_add, UInt32.toNat_one, Nat.mod_eq_of_lt (by omega)]
      exact Nat.le_succ _
    · exact UInt32.le_refl _
  | returned p id x _ _ hpool =>
    rw [hpool]
    exact UInt32.le_refl _
  | emptied p px _ _ hpool =>
    rw [hpool]
    exact UInt32.le_refl _

/-! ### Runs -/

theorem Ledger.boot (l : Listeners) : Ledger (World.boot l) where
  accepting := fun ⟨_, ht, _⟩ => nomatch ht
  inverse := ⟨fun ⟨_, ht, _⟩ => (nomatch ht), fun ⟨_, ht, _⟩ => (nomatch ht)⟩
  unique := fun ⟨_, ht, _⟩ => nomatch ht
  conserves := by
    have hheld : (World.boot l).names.held = ∅ := by
      refine Set.eq_empty_iff_forall_notMem.mpr ?_
      intro k ⟨p, id, x, ⟨t, ht, _⟩, _⟩
      cases ht
    rw [hheld]
    exact .empty
  bounded := Nat.zero_le _

theorem Ledger.of_same (hl : Ledger w) (hreg : w'.toRegistry = w.toRegistry)
    (hpool : w'.idPool = w.idPool) : Ledger w' := by
  obtain ⟨hacc, hinv, huniq, hcons, hbound⟩ := hl
  exact ⟨hreg ▸ hacc, hreg ▸ hinv, hreg ▸ huniq, hpool ▸ hreg ▸ hcons, hpool ▸ hbound⟩

/-- An event books what it draws and gives back, and the counter does not go back. -/
theorem Handled.ledger {fd : SockT} (h : Handled env P fd w w')
    (hopen : ∀ p, ¬P.refuse (.grokProxy p)) (hw : w.Sound) (hl : Ledger w) :
    Ledger w' ∧ w.idPool.last ≤ w'.idPool.last := by
  refine h.invariant (I := fun v => Ledger v ∧ w.idPool.last ≤ v.idPool.last) hw ?_ ?_ ?_
    ⟨hl, UInt32.le_refl _⟩
  · intro v v' hv hlv heff
    have hbooked := heff.booked hv.wf
    exact ⟨hbooked.ledger (heff.wf hv.wf) hopen hlv.1,
      UInt32.le_trans hlv.2 (hbooked.last_le hlv.1)⟩
  · intro v v' _ hlv hheard
    have hpool : v'.idPool = v.idPool := by
      cases hheard
      rfl
    exact ⟨hlv.1.of_same hheard.registry hpool, hpool ▸ hlv.2⟩
  · intro v v' _ hlv hadvanced
    have hpool : v'.idPool = v.idPool := by
      cases hadvanced
      rfl
    exact ⟨hlv.1.of_same hadvanced.registry hpool, hpool ▸ hlv.2⟩

/-- **The ledger balances** in every run in which no `accept` fails for a proxy. -/
theorem ReachableIf.ledger (h : ReachableIf env l also s)
    (terms : ∀ s i, also s i → Loop.Promised env P s i)
    (hopen : ∀ p, ¬P.refuse (.grokProxy p)) : Ledger s.world :=
  h.invariant terms (Ledger.boot l) fun _ _ _ _ hw hl hhandled =>
    (hhandled.ledger hopen hw hl).1

/-- **Ids are conserved and never shared**, as long as `accept` gives descriptors: the ids in
the tables of the proxies and the free ones are, without repetition, those below `last`; no two
clients have one id; and `last` never goes back, so it does not wrap around. -/
theorem ids_conserved (h : ReachableIf env l Loop.AcceptsOpen s) :
    (s.world.tableIds ++ s.world.idPool.ids).Nodup ∧
    (∀ id, id ∈ s.world.tableIds ++ s.world.idPool.ids ↔ id < s.world.idPool.last) ∧
    (∀ p q px qx x y id, s.world.proxies.lookup p = some px → s.world.proxies.lookup q = some qx →
      px.sockToId.lookup x = some id → qx.sockToId.lookup y = some id → p = q ∧ x = y) ∧
    ∀ i s', Loop.Allowed s i → Loop.AcceptsOpen s i → Loop.step env s i = .ok s' →
      s.world.idPool.last ≤ s'.world.idPool.last := by
  have hs := Reachable.sound h
  have hopen : ∀ p, ¬Loop.accepting.refuse (.grokProxy p) := fun _ h => h
  have hl : Ledger s.world := h.ledger (fun _ _ hi => hi.promised) hopen
  refine ⟨hl.partition.1, hl.partition.2, ?_, ?_⟩
  · intro p q px qx x y id hp hq hx hy
    have hpx : s.world.names.Holds p id x := hl.inverse.mpr ⟨_, (World.proxy_names hp).1, hx⟩
    have hqy : s.world.names.Holds q id y := hl.inverse.mpr ⟨_, (World.proxy_names hq).1, hy⟩
    obtain rfl := hl.unique hpx hqy
    exact ⟨rfl, Names.Holds.fun hpx hqy⟩
  · intro i s' hallowed haccepts hstep
    obtain ⟨hsame | ⟨fd, _, hhandled⟩, _⟩ :=
      Loop.step_handled hs hallowed haccepts.promised hstep
    · rw [hsame]
      exact UInt32.le_refl _
    · exact (hhandled.ledger hopen hs.world hl).2

/-- The client of 5 hangs up, and its id goes to the next client of 8. -/
theorem ids_conserved_again :
    ∃ s, ReachableIf (.plain []) .plain Loop.AcceptsOpen s ∧ s.world.tableIds = [0] ∧
      s.world.idPool.last = 1 ∧
      ∀ id, id ∈ s.world.tableIds ++ s.world.idPool.ids ↔ id < s.world.idPool.last := by
  obtain ⟨s, hs, htables, hlast⟩ := ReachableIf.exists_of_run (.plain []) .plain Loop.AcceptsOpen
    (twoOwners ++ [.wait [⟨⟨7, { epollrdhup := true }⟩, 6⟩], .handle {}, .readable 9 5, .accept 7])
    (fun s => s.world.tableIds = [0] ∧ s.world.idPool.last = 1)
    (by decide +kernel) (by decide +kernel)
  exact ⟨s, hs, htables, hlast, (ids_conserved hs).2.1⟩

end

end OpenGrok
