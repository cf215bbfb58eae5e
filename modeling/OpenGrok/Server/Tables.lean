import OpenGrok.Server.Event

/-! The tables of the proxies.

A client enters them where it is announced, and nowhere else; whatever else an event does,
a table's entries are some of those it had (`Effect.shrinks`). -/
namespace OpenGrok

/-- The entries of the tunnels' tables were there before. -/
structure Shrinks (n n' : Names) : Prop where
  ids : ∀ {p t' id x}, n'.tunnel p = some t' → t'.idToSock.lookup id = some x →
    ∃ t, n.tunnel p = some t ∧ t.initiator = t'.initiator ∧ t.idToSock.lookup id = some x
  socks : ∀ {p t' x id}, n'.tunnel p = some t' → t'.sockToId.lookup x = some id →
    ∃ t, n.tunnel p = some t ∧ t.initiator = t'.initiator ∧ t.sockToId.lookup x = some id

namespace Shrinks
variable {n n' n'' : Names}

theorem of_eq (h : n'.tunnel = n.tunnel) : Shrinks n n' where
  ids ht' hx := ⟨_, h ▸ ht', rfl, hx⟩
  socks ht' hx := ⟨_, h ▸ ht', rfl, hx⟩

theorem trans (h : Shrinks n n') (h' : Shrinks n' n'') : Shrinks n n'' where
  ids ht'' hx := by
    obtain ⟨t', ht', hi', hx'⟩ := h'.ids ht'' hx
    obtain ⟨t, ht, hi, hx⟩ := h.ids ht' hx'
    exact ⟨t, ht, hi.trans hi', hx⟩
  socks ht'' hx := by
    obtain ⟨t', ht', hi', hx'⟩ := h'.socks ht'' hx
    obtain ⟨t, ht, hi, hx⟩ := h.socks ht' hx'
    exact ⟨t, ht, hi.trans hi', hx⟩

/-- One tunnel loses entries. -/
theorem of_sub {p : Ptr} {t t' : Tunnel} (h : n'.tunnel = Function.update n.tunnel p (some t'))
    (ht : n.tunnel p = some t) (hi : t'.initiator = t.initiator)
    (hids : ∀ id x, t'.idToSock.lookup id = some x → t.idToSock.lookup id = some x)
    (hsocks : ∀ x id, t'.sockToId.lookup x = some id → t.sockToId.lookup x = some id) :
    Shrinks n n' := by
  have hcases {q : Ptr} {u : Tunnel} (hu : n'.tunnel q = some u) :
      q = p ∧ u = t' ∨ n.tunnel q = some u := by
    rw [h, Function.update_apply] at hu
    split at hu
    · next hq => exact .inl ⟨hq, (Option.some.inj hu).symm⟩
    · exact .inr hu
  constructor
  · intro q u id x hu hx
    obtain ⟨rfl, rfl⟩ | hu := hcases hu
    · exact ⟨t, ht, hi.symm, hids id x hx⟩
    · exact ⟨u, hu, rfl, hx⟩
  · intro q u x id hu hx
    obtain ⟨rfl, rfl⟩ | hu := hcases hu
    · exact ⟨t, ht, hi.symm, hsocks x id hx⟩
    · exact ⟨u, hu, rfl, hx⟩

/-- A tunnel is new, or is gone. -/
theorem of_new {p : Ptr} {t' : Option Tunnel} (h : n'.tunnel = Function.update n.tunnel p t')
    (hnew : ∀ u, t' = some u → u.idToSock = ∅ ∧ u.sockToId = ∅) : Shrinks n n' := by
  have hcases {q : Ptr} {u : Tunnel} (hu : n'.tunnel q = some u) :
      u.idToSock = ∅ ∧ u.sockToId = ∅ ∨ n.tunnel q = some u := by
    rw [h, Function.update_apply] at hu
    split at hu
    · exact .inl (hnew u hu)
    · exact .inr hu
  constructor
  · intro q u id x hu hx
    obtain ⟨hids, -⟩ | hu := hcases hu
    · rw [hids, AList.lookup_empty] at hx
      cases hx
    · exact ⟨u, hu, rfl, hx⟩
  · intro q u x id hu hx
    obtain ⟨-, hsocks⟩ | hu := hcases hu
    · rw [hsocks, AList.lookup_empty] at hx
      cases hx
    · exact ⟨u, hu, rfl, hx⟩

end Shrinks

section
variable {env : Env} {P : Terms} {w w' : World}

theorem World.untabled_shrinks {p : Ptr} {px : GrokProxy} (hp : w.proxies.lookup p = some px)
    (x : SockT) (id : CIdT) : Shrinks w.names (w.untabled x p px id).names := by
  have htunnel : (w.untabled x p px id).names.tunnel = Function.update w.names.tunnel p (some {
      px.toTunnel with sockToId := px.sockToId.erase x, idToSock := px.idToSock.erase id }) := by
    rw [World.names_untabled w x hp]
  refine .of_sub htunnel (World.proxy_names hp).1 rfl (fun j y hj => ?_) fun y j hy => ?_
  · rw [Table.lookup_erase_ite] at hj
    split at hj
    · cases hj
    · exact hj
  · rw [Table.lookup_erase_ite] at hy
    split at hy
    · cases hy
    · exact hy

theorem World.left_shrinks {x : SockT} {o : ObserverPtr} {b : IObserver}
    (hb : w.names.base o = some b) : Shrinks w.names (w.left x o b).names :=
  .of_eq (by rw [World.names_left w x hb])

theorem World.deleted_shrinks {p : Ptr} {b : IObserver}
    (hb : w.names.base (.grokProxy p) = some b) (l : List SockT) :
    Shrinks w.names (w.deleted p b l).names := by
  have htunnel : (w.deleted p b l).names.tunnel = Function.update w.names.tunnel p none := by
    rw [World.names_deleted w hb]
  exact .of_new htunnel nofun

/-- What an owner's DISCONNECT does to the tables is done before the client is closed. -/
theorem World.dropped_tunnel {p : Ptr} {px : GrokProxy} {o : ObserverPtr} {b : IObserver}
    (a : Action) (y : SockT) (id : CIdT) (hp : w.proxies.lookup p = some px)
    (hb : w.names.base o = some b) :
    (((w.log a).untabled y p px id).left y o b).names.tunnel =
      (w.untabled y p px id).names.tunnel := by
  have hb' : ((w.log a).untabled y p px id).names.base o = some b := by
    rw [World.names_untabled (w.log a) y hp]
    exact hb
  rw [World.names_left _ y hb', World.names_untabled (w.log a) y hp, World.names_untabled w y hp]
  rfl

/-- A proxy that is discarded right away leaves nothing behind but the user's pointer to it. -/
theorem World.discarded_names (env : Env) (hw : w.names.Wf) (A sock : SockT) (port : UInt16) :
    ((FStreamer.send env A grokError [internalServerError] (w.created A sock port 0)).deleted
      w.nextProxy { socket := sock } []).names = { w.names with
        opened := Function.update w.names.opened sock none
        observer := Function.update w.names.observer sock none
        user := Function.update w.names.user A
          (some { (w.names.user A).getD {} with server := some w.nextProxy })
        nextProxy := w.nextProxy + 1 } := by
  have hsent := FStreamer.send_registry env (w.created A sock port 0) A grokError
    [internalServerError]
  have hb : (FStreamer.send env A grokError [internalServerError]
      (w.created A sock port 0)).names.base (.grokProxy w.nextProxy) = some { socket := sock } := by
    rw [hsent, World.names_created]
    exact Function.update_self ..
  have htunnel : w.names.tunnel w.nextProxy = none := by
    cases ht : w.names.tunnel w.nextProxy with
    | none => rfl
    | some t => exact absurd (hw.tunnel_lt ht) (Nat.lt_irrefl _)
  have hbase : w.names.base (.grokProxy w.nextProxy) = none := hw.base_fresh
  rw [World.names_deleted _ hb, hsent, World.names_created]
  simp only [Function.update_idem, List.not_mem_nil, false_and, or_false, if_false, Names.mk.injEq,
    and_true, true_and]
  refine ⟨?_, ?_, ?_⟩
  · funext y
    rw [Function.update_apply, Function.update_apply]
    split <;> rfl
  · rw [← hbase, Function.update_eq_self]
  · rw [← htunnel, Function.update_eq_self]

theorem Command.shrinks {A : SockT} {said : List Reaction} (h : Command env P A w said w') :
    Shrinks w.names w'.names := by
  have hcreated (sock : SockT) (port listeningPort : UInt16) :
      Shrinks w.names (w.created A sock port listeningPort).names := by
    have htunnel : (w.created A sock port listeningPort).names.tunnel = Function.update
        w.names.tunnel w.nextProxy (some { initiator := A, listeningPort := listeningPort }) := by
      rw [World.names_created]
    refine .of_new htunnel ?_
    intro u hsame
    cases hsame
    exact ⟨rfl, rfl⟩
  cases h with
  | message type length buffer _ _ => exact .of_eq rfl
  | granted type length buffer _ =>
    refine .of_eq ?_
    rw [World.names_granted]
    rfl
  | delivered p t id y length buffer body _ _ _ _ _ =>
    exact .of_eq (congrArg (fun r => r.names.tunnel) (Loop.send_registry ..))
  | dropped p px id y o b buffer hp _ _ _ _ hb _ =>
    exact (World.untabled_shrinks hp y id).trans (.of_eq (World.dropped_tunnel _ y id hp hb))
  | untabled p px id y buffer hp _ _ _ _ => exact World.untabled_shrinks (w := w.log _) hp y id
  | replied type payload _ _ =>
    exact .of_eq (congrArg (fun r => r.names.tunnel) (FStreamer.send_registry ..))
  | touched => exact .of_eq (by rw [World.names_gatherUser w A])
  | created sock port listeningPort _ _ _ _ => exact hcreated sock port listeningPort
  | discarded sock port _ _ _ _ =>
    have hb : (FStreamer.send env A grokError [internalServerError]
        (w.created A sock port 0)).names.base (.grokProxy w.nextProxy) = some { socket := sock } := by
      rw [FStreamer.send_registry, World.names_created]
      exact Function.update_self ..
    have hsent : Shrinks w.names (FStreamer.send env A grokError [internalServerError]
        (w.created A sock port 0)).names := by
      rw [FStreamer.send_registry]
      exact hcreated sock port 0
    exact hsent.trans (World.deleted_shrinks hb [])

/-- What a client's own close does to the tables is done before it is closed. -/
theorem World.hungUp_tunnel (env : Env) {p : Ptr} {px : GrokProxy} {b : IObserver} (y : SockT)
    (id : CIdT) (hp : w.proxies.lookup p = some px) (hb : w.names.base (.grokProxy p) = some b) :
    ((FreeGrok.sendDisconnected env px.initiator id (w.untabled y p px id)).left y (.grokProxy p)
      b).names.tunnel = (w.untabled y p px id).names.tunnel := by
  have hreg : (FreeGrok.sendDisconnected env px.initiator id (w.untabled y p px id)).names =
      (w.untabled y p px id).names := congrArg Registry.names (FStreamer.send_registry ..)
  have hb' : (FreeGrok.sendDisconnected env px.initiator id
      (w.untabled y p px id)).base (.grokProxy p) = some b := by
    show (FreeGrok.sendDisconnected env px.initiator id
      (w.untabled y p px id)).names.base (.grokProxy p) = some b
    rw [hreg, World.names_untabled w y hp]
    exact hb
  rw [World.names_left _ y hb', hreg]

/-- **Only an announcement adds to the tables.** -/
theorem Effect.shrinks (h : Effect env P w w') :
    (∃ p px fd, (fd = -1 → P.refuse (.grokProxy p)) ∧ P.draw px w.idPool.getId.1 ∧
      w.proxies.lookup p = some px ∧ Loose w.toRegistry fd ∧
      (∀ q t, fd ≠ -1 → w.names.tunnel q = some t → t.sockToId.lookup fd = none) ∧
      w' = w.announced fd env p px) ∨ Shrinks w.names w'.names := by
  cases h with
  | accepted fd item _ => exact .inr (.of_eq (by rw [World.names_accepted w fd item]))
  | refused o item _ => exact .inr (.of_eq rfl)
  | parsed fd parser _ _ => exact .inr (.of_eq (by rw [World.names_setParser w fd parser]))
  | announced p px fd before hneg hdraw hp hloose htab _ =>
    exact .inl ⟨p, px, fd, hneg, hdraw, hp, hloose, htab, rfl⟩
  | admitted fd o b before _ hb _ _ _ _ =>
    exact .inr (.of_eq (by rw [World.names_admitted w fd hb]))
  | flagged fd o b _ hb =>
    exact .inr (.of_eq (by rw [World.names_flagged w fd hb]))
  | wrote fd front rest n _ _ _ =>
    exact .inr (.of_eq (by rw [World.wrote_registry]))
  | writeFailed fd _ =>
    exact .inr (.of_eq (by rw [World.writeFailed_registry]))
  | readFailed fd _ _ _ => exact .inr (.of_eq rfl)
  | heard fd fd' state length u64 buffer bytes rest _ _ _ => exact .inr (.of_eq rfl)
  | command A _ hc => exact .inr hc.shrinks
  | relayed p t y id bytes _ _ _ =>
    exact .inr (.of_eq (by rw [World.names_relayed]))
  | captured y bytes _ _ => exact .inr (.of_eq rfl)
  | served y bytes _ _ =>
    exact .inr (.of_eq (by rw [Loop.send_registry]))
  | forgot fd _ _ => exact .inr (.of_eq (by rw [World.names_forgot w fd]))
  | torn A u p px b _ _ _ _ hp hb =>
    have htunnel : (w.torn A env p px b).names.tunnel = Function.update w.names.tunnel p none := by
      rw [World.names_torn w A env hp hb]
    exact .inr (.of_new htunnel nofun)
  | left y o b _ _ hb _ _ _ => exact .inr (World.left_shrinks hb)
  | hungUp p px y id b _ hp _ _ hb =>
    exact .inr ((World.untabled_shrinks hp y id).trans (.of_eq (World.hungUp_tunnel _ y id hp hb)))

end

end OpenGrok
