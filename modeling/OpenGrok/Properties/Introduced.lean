import OpenGrok.Properties.Consistency
import OpenGrok.Properties.Dismissal
import OpenGrok.Properties.Sessions

/-! Who was told of what, and when.

A connection is named by when it was opened: how many actions of the server had happened
by then. A CONNECTED frame comes right after the `accept` of its client, so the frame
tells which connection it is for, and as long as the client has its id the owner was told
of no other under it (`World.Introduced`). Who was told of a client has a proxy
(`World.Served`). -/
namespace OpenGrok

/-! ### When things happened -/

namespace Trace

/-- How much had happened by the newest such action, 0 if there is none. -/
def latest (p : Action → Bool) (t : List Action) : Nat := (t.dropWhile fun a => !p a).length

/-- When the socket was last opened or closed. -/
def opening (x : SockT) (t : List Action) : Nat :=
  latest (fun a => decide (a.fd = x) && a.isStart) t

/-- When the owner was last told of the id. -/
def told (A : SockT) (id : CIdT) (t : List Action) : Nat := latest (Action.tells A id) t

/-- When the owner was told of the id, if it was told of no end of it since. -/
def held (A : SockT) (id : CIdT) : List Action → Option Nat
  | [] => none
  | a :: before =>
    if a.fd = A ∧ a.isStart = true then none
    else if a.tells A id = true then some (before.length + 1)
    else if a = .frame A grokDisconnect (ByteBuffer.encode cIdSize id.toNat) then none
    else held A id before

/-- A CONNECTED frame told the owner of the id at that time, and its connection has lasted. -/
def ToldAt (A : SockT) (id : CIdT) (k : Nat) (t : List Action) : Prop :=
  ∃ later before, t = later ++ .frame A grokConnected (ByteBuffer.encode cIdSize id.toNat) :: before ∧
    k = before.length + 1 ∧ ∀ a ∈ later, a.fd = A → a.isStart = false

section
variable {p : Action → Bool} {a : Action} {t new : List Action} {A x : SockT} {id : CIdT} {k : Nat}

theorem latest_found (h : p a = true) : latest p (a :: t) = t.length + 1 := by
  simp [latest, h]

theorem latest_append (h : ∀ a ∈ new, p a = false) : latest p (new ++ t) = latest p t := by
  induction new with
  | nil => rfl
  | cons a rest ih =>
    have ha : p a = false := h a (List.mem_cons_self ..)
    simpa [latest, ha] using ih fun b hb => h b (List.mem_cons_of_mem _ hb)

theorem latest_le_append : latest p t ≤ latest p (new ++ t) := by
  induction new with
  | nil => exact Nat.le_refl _
  | cons a rest ih =>
    by_cases ha : p a = true
    · have hle : latest p (rest ++ t) ≤ (rest ++ t).length := (List.dropWhile_suffix _).length_le
      rw [List.cons_append, latest_found ha]
      omega
    · have hskip : latest p ([a] ++ (rest ++ t)) = latest p (rest ++ t) :=
        latest_append fun b hb => by
          rw [List.mem_singleton.mp hb]
          exact Bool.eq_false_of_not_eq_true ha
      rw [List.cons_append]
      exact ih.trans (Nat.le_of_eq hskip.symm)

theorem opening_append (h : ∀ a ∈ new, a.fd = x → a.isStart = false) :
    opening x (new ++ t) = opening x t := by
  refine latest_append fun a ha => ?_
  by_cases he : a.fd = x
  · simp [h a ha he]
  · simp [he]

theorem told_append (h : ∀ a ∈ new, a.fd = A → a.tells A id = false) :
    told A id (new ++ t) = told A id t := by
  refine latest_append fun a ha => ?_
  by_cases he : a.fd = A
  · exact h a ha he
  · refine decide_eq_false ?_
    intro hsame
    subst hsame
    exact he rfl

theorem ToldAt.append (h : ToldAt A id k t) (hnew : ∀ a ∈ new, a.fd = A → a.isStart = false) :
    ToldAt A id k (new ++ t) := by
  obtain ⟨later, before, rfl, hk, hall⟩ := h
  refine ⟨new ++ later, before, (List.append_assoc ..).symm, hk, fun a ha => ?_⟩
  obtain ha | ha := List.mem_append.mp ha
  · exact hnew a ha
  · exact hall a ha

theorem ToldAt.le_told (h : ToldAt A id k t) : k ≤ told A id t := by
  obtain ⟨later, before, rfl, rfl, _⟩ := h
  have htold : told A id (.frame A grokConnected (ByteBuffer.encode cIdSize id.toNat) :: before) =
      before.length + 1 := latest_found (decide_eq_true rfl)
  rw [← htold]
  exact latest_le_append

/-- What an owner's view holds open, it was told of. -/
theorem held_spec (h : held A id t = some k) : ToldAt A id k t := by
  induction t with
  | nil => cases h
  | cons a rest ih =>
    unfold held at h
    split at h
    · cases h
    · next hstart =>
      split at h
      · next htells =>
        cases h
        exact ⟨[], rest, congrArg (· :: rest) (of_decide_eq_true htells), rfl, nofun⟩
      · split at h
        · cases h
        · have hquiet : ∀ b ∈ [a], b.fd = A → b.isStart = false := by
            intro b hb hA
            rw [List.mem_singleton.mp hb] at hA ⊢
            exact Bool.eq_false_of_not_eq_true fun hs => hstart ⟨hA, hs⟩
          exact (ih h).append hquiet

end

end Trace

/-! ### The connection that an owner was told of -/

/-- The owner of a client was last told of its id when the client was opened. -/
def World.Introduced (w : World) : Prop :=
  ∀ p A id x, x ≠ -1 → w.names.Client p A id x →
    Trace.told A id w.trace = Trace.opening x w.trace + 1

section
variable {env : Env} {P : Terms} {w w' : World} {p : Ptr} {A : SockT} {id : CIdT} {x : SockT}

theorem Trace.introduced_append {t new : List Action}
    (h : Trace.told A id t = Trace.opening x t + 1)
    (hnew : ∀ a ∈ new, (a.fd = A → a.tells A id = false) ∧ (a.fd = x → a.isStart = false)) :
    Trace.told A id (new ++ t) = Trace.opening x (new ++ t) + 1 := by
  rw [Trace.told_append fun a ha => (hnew a ha).1, Trace.opening_append fun a ha => (hnew a ha).2]
  exact h

theorem Action.Untouched.introduces {a : Action} (h : Action.Untouched A id x a) :
    (a.fd = A → a.tells A id = false) ∧ (a.fd = x → a.isStart = false) :=
  ⟨fun hA => (h.untold hA).1, fun hx => (h.client hx).1⟩

theorem Concerns.introduced (h : Concerns P w w' p A id x) (hi : w.Introduced) (hx : x ≠ -1) :
    Trace.told A id w'.trace = Trace.opening x w'.trace + 1 := by
  cases h with
  | untouched hc hgrows =>
    obtain ⟨new, hnew, hall⟩ := hgrows
    rw [hnew]
    exact Trace.introduced_append (hi p A id x hx hc) fun a ha => (hall a ha).introduces
  | announced before later _ htrace hxA hw' hlater =>
    rw [hw']
    refine Trace.introduced_append ?_ fun a ha => (hlater a ha).introduces
    have htold : Trace.told A id (.frame A grokConnected (ByteBuffer.encode cIdSize id.toNat) ::
        w.trace) = w.trace.length + 1 := Trace.latest_found (decide_eq_true rfl)
    have hopening : Trace.opening x w.trace = before.length + 1 := by
      rw [htrace]
      exact Trace.latest_found (by simp [Action.fd, Action.isStart])
    have hskip : Trace.opening x ([.frame A grokConnected (ByteBuffer.encode cIdSize id.toNat)] ++
        w.trace) = Trace.opening x w.trace := Trace.opening_append fun a ha _ => by
      rw [List.mem_singleton.mp ha]
      rfl
    have hsame : Trace.opening x (.frame A grokConnected (ByteBuffer.encode cIdSize id.toNat) ::
        w.trace) = before.length + 1 := hskip.trans hopening
    rw [htold, hsame, htrace]
    rfl
  | delivered length buffer hc hw' =>
    have hquiet : ∀ a ∈ [Action.queued x ((Action.message A grokPacket length (some buffer)).packet
        id), .message A grokPacket length (some buffer)],
        (a.fd = A → a.tells A id = false) ∧ (a.fd = x → a.isStart = false) := by
      intro a ha
      obtain rfl | ha := List.mem_cons.mp ha
      · exact ⟨fun _ => rfl, fun _ => rfl⟩
      · rw [List.mem_singleton.mp ha]
        exact ⟨fun _ => rfl, fun _ => rfl⟩
    rw [hw']
    exact Trace.introduced_append (hi p A id x hx hc) hquiet
  | relayed q t y j bytes later hc _ _ _ hw' hlater =>
    have hquiet : ∀ a ∈ [Action.frame t.initiator grokPacket (ByteBuffer.encode cIdSize j.toNat ++
        bytes), .recv y bytes],
        (a.fd = A → a.tells A id = false) ∧ (a.fd = x → a.isStart = false) := by
      intro a ha
      obtain rfl | ha := List.mem_cons.mp ha
      · exact ⟨fun _ => decide_eq_false (by simp [grokPacket, grokConnected]), fun _ => rfl⟩
      · rw [List.mem_singleton.mp ha]
        exact ⟨fun _ => rfl, fun _ => rfl⟩
    rw [hw']
    exact Trace.introduced_append (Trace.introduced_append (hi p A id x hx hc) hquiet)
      fun a ha => (hlater a ha).introduces

theorem Handled.introduced {fd : SockT} (h : Handled env P fd w w') (hw : w.Sound)
    (hi : w.Introduced) : w'.Introduced := by
  refine h.invariant hw ?_ ?_ ?_ hi
  · intro v v' hv hiv heff p A id x hx hc
    exact (heff.concerns hv.wf hc hx).introduced hiv hx
  · intro v v' hv hiv hheard p A id x hx hc
    cases hheard with
    | mk fd' state length u64 buffer bytes rest hl _ _ =>
      have hc : v.names.Client p A id x := hc
      have hquiet : ∀ a ∈ [Action.recv fd bytes],
          (a.fd = A → a.tells A id = false) ∧ (a.fd = x → a.isStart = false) := by
        intro a ha
        rw [List.mem_singleton.mp ha]
        exact ⟨fun _ => rfl, fun _ => rfl⟩
      exact Trace.introduced_append (hiv p A id x hx hc) hquiet
  · intro v v' _ hiv hadvanced
    cases hadvanced
    exact hiv

variable {l : Listeners} {s : Loop.State}

theorem ReachableIf.introduced {also : Loop.State → Loop.Input → Prop}
    (h : ReachableIf env l also s) : s.world.Introduced :=
  h.invariant (P := Loop.anyTerms) (fun s i _ => Loop.promised_any s i)
    (fun _ _ _ _ _ ⟨_, ht, _⟩ => (nomatch ht)) fun _ _ _ _ hw hi hhandled => hhandled.introduced hw hi

/-! ### Owners keep their proxies -/

/-- Every proxy stays, with its owner. -/
def Names.Keeps (n n' : Names) : Prop :=
  ∀ p t, n.tunnel p = some t → ∃ t', n'.tunnel p = some t' ∧ t'.initiator = t.initiator

theorem Names.Keeps.of_eq {n n' : Names} (h : n'.tunnel = n.tunnel) : n.Keeps n' :=
  fun _ t ht => ⟨t, h ▸ ht, rfl⟩

/-- A proxy's tunnel changes, and not its owner. -/
theorem Names.Keeps.of_update {n n' : Names} {q : Ptr} {t u : Tunnel} (hq : n.tunnel q = some t)
    (h : n'.tunnel = Function.update n.tunnel q (some u)) (hu : u.initiator = t.initiator) :
    n.Keeps n' := by
  intro p t' ht'
  by_cases hp : p = q
  · subst hp
    cases Option.some.inj (hq.symm.trans ht')
    exact ⟨u, by rw [h, Function.update_self], hu⟩
  · exact ⟨t', by rw [h, Function.update_of_ne hp]; exact ht', rfl⟩

theorem World.untabled_keeps {q : Ptr} {px : GrokProxy} (y : SockT) (j : CIdT)
    (hq : w.proxies.lookup q = some px) : w.names.Keeps (w.untabled y q px j).names :=
  .of_update (World.proxy_names hq).1 (congrArg Names.tunnel (World.names_untabled w y hq j)) rfl

theorem World.announced_keeps {q : Ptr} {px : GrokProxy} (env : Env) (fd : SockT)
    (hq : w.proxies.lookup q = some px) : w.names.Keeps (w.announced fd env q px).names :=
  .of_update (World.proxy_names hq).1 (congrArg Names.tunnel (World.names_announced w fd env hq)) rfl

theorem Command.keeps {B : SockT} {said : List Reaction} (h : Command env P B w said w')
    (hw : w.names.Wf) : w.names.Keeps w'.names := by
  cases h with
  | message type length buffer _ _ => exact .of_eq rfl
  | granted type length buffer _ =>
    refine .of_eq ?_
    rw [World.names_granted]
    rfl
  | delivered q t j y length buffer body _ _ _ _ _ =>
    refine .of_eq ?_
    rw [Loop.send_registry]
    rfl
  | dropped q px j y o b buffer hq _ _ _ _ hb _ =>
    intro p t ht
    rw [World.dropped_tunnel _ y j hq hb]
    exact World.untabled_keeps y j hq p t ht
  | untabled q px j y buffer hq _ _ _ _ => exact World.untabled_keeps (w := w.log _) y j hq
  | replied type payload _ _ => exact .of_eq (by rw [FStreamer.send_registry])
  | touched => exact .of_eq (by rw [World.names_gatherUser])
  | created sock port listeningPort _ _ _ _ =>
    intro p t ht
    have hp : p ≠ w.nextProxy := Nat.ne_of_lt (hw.tunnel_lt ht)
    refine ⟨t, ?_, rfl⟩
    rw [World.names_created]
    exact (Function.update_of_ne hp _ _).trans ht
  | discarded sock port _ _ _ _ => exact .of_eq (by rw [World.discarded_names env hw])

/-- A proxy goes when its owner's connection is closed, and only then. -/
theorem Effect.keeps (h : Effect env P w w') (hw : w.names.Wf) : w.names.Keeps w'.names ∨
    ∃ q t before, w.names.tunnel q = some t ∧ w'.trace = .close t.initiator :: before ∧
      w'.names.tunnel = Function.update w.names.tunnel q none := by
  cases h with
  | accepted fd item _ => exact .inl (.of_eq (by rw [World.names_accepted]))
  | refused o item _ => exact .inl (.of_eq rfl)
  | parsed fd parser _ _ => exact .inl (.of_eq (by rw [World.names_setParser]))
  | announced q qx fd before _ _ hq _ _ _ => exact .inl (World.announced_keeps env fd hq)
  | admitted fd o b before _ hb _ _ _ _ => exact .inl (.of_eq (by rw [World.names_admitted w fd hb]))
  | flagged fd o b _ hb =>
    exact .inl (.of_eq (by rw [World.names_flagged w fd hb]))
  | wrote fd front rest n _ _ _ => exact .inl (.of_eq (by rw [World.wrote_registry]))
  | writeFailed fd _ => exact .inl (.of_eq (by rw [World.writeFailed_registry]))
  | readFailed fd _ _ _ => exact .inl (.of_eq rfl)
  | heard fd fd' state length u64 buffer bytes rest _ _ _ => exact .inl (.of_eq rfl)
  | command B _ hcmd => exact .inl (hcmd.keeps hw)
  | relayed q t y j bytes _ _ _ =>
    exact .inl (.of_eq (by rw [World.names_relayed]))
  | captured y bytes _ _ => exact .inl (.of_eq rfl)
  | served y bytes _ _ => exact .inl (.of_eq (by rw [Loop.send_registry]))
  | forgot fd _ _ => exact .inl (.of_eq (by rw [World.names_forgot]))
  | torn B u q qx b _ _ hu hs hq hb =>
    have ht := (World.proxy_names hq).1
    have hB : qx.initiator = B := hw.server_initiator hu hs ht
    subst hB
    exact .inr ⟨q, _, _, ht, World.left_trace .., by rw [World.names_torn w _ env hq hb]⟩
  | left y o b _ _ hb _ _ _ => exact .inl (.of_eq (by rw [World.names_left w y hb]))
  | hungUp q qx y j b _ hq _ _ hb =>
    refine .inl fun p t ht => ?_
    rw [World.hungUp_tunnel env y j hq hb]
    exact World.untabled_keeps y j hq p t ht

/-- The payloads of CONNECTED frames. -/
def Action.connected : Action → List Bytes
  | .frame _ type payload => if type = grokConnected then [payload] else []
  | _ => []

/-- Who was told of a client since its connection was opened has a proxy. -/
def World.Served (w : World) : Prop :=
  ∀ A, Trace.since Action.connected A w.trace ≠ [] →
    ∃ p t, w.names.tunnel p = some t ∧ t.initiator = A

theorem Action.Unconnected.connected {a : Action} (h : a.Unconnected) : a.connected = [] := by
  cases a with
  | frame A type payload =>
    refine if_neg ?_
    intro hsame
    subst hsame
    exact h A payload rfl
  | _ => rfl

theorem Trace.connected_append {t new : List Action} (hnew : ∀ a ∈ new, a.Unconnected)
    (h : Trace.since Action.connected A (new ++ t) ≠ []) : Trace.since Action.connected A t ≠ [] := by
  induction new with
  | nil => exact h
  | cons a rest ih =>
    refine ih (fun b hb => hnew b (List.mem_cons_of_mem _ hb)) fun hnil => h ?_
    by_cases hA : a.fd = A
    · by_cases hstart : a.isStart = true
      · exact Trace.since_start hA hstart
      · exact (Trace.since_other fun _ => ⟨Bool.eq_false_of_not_eq_true hstart,
          (hnew a (List.mem_cons_self ..)).connected⟩).trans hnil
    · exact (Trace.since_ne hA).trans hnil

theorem Trace.ToldAt.connected {t : List Action} {k : Nat} (h : Trace.ToldAt A id k t) :
    Trace.since Action.connected A t ≠ [] := by
  obtain ⟨later, before, rfl, _, hall⟩ := h
  induction later with
  | nil =>
    have howner : (Action.frame A grokConnected (ByteBuffer.encode cIdSize id.toNat)).fd = A := rfl
    rw [List.nil_append, Trace.since_next howner rfl]
    exact List.append_ne_nil_of_right_ne_nil _ (List.cons_ne_nil _ _)
  | cons a rest ih =>
    have hrest := ih fun b hb => hall b (List.mem_cons_of_mem _ hb)
    rw [List.cons_append]
    by_cases hA : a.fd = A
    · rw [Trace.since_next hA (hall a (List.mem_cons_self ..) hA)]
      exact List.append_ne_nil_of_left_ne_nil hrest _
    · rw [Trace.since_ne hA]
      exact hrest

theorem Effect.serves (h : Effect env P w w') (hw : w.names.Wf) (hs : w.Served) : w'.Served := by
  intro A hne
  obtain ⟨new, hnew, hall⟩ | ⟨q, qx, fd, hq, _, rfl⟩ := h.connects
  · rw [hnew] at hne
    obtain ⟨p, t, ht, hA⟩ := hs A (Trace.connected_append hall hne)
    obtain hkeeps | ⟨q, u, before, hu, htrace, htunnel⟩ := h.keeps hw
    · obtain ⟨t', ht', hi⟩ := hkeeps p t ht
      exact ⟨p, t', ht', hi.trans hA⟩
    · have hp : p ≠ q := by
        intro hsame
        subst hsame
        cases Option.some.inj (ht.symm.trans hu)
        subst hA
        rw [← hnew, htrace] at hne
        exact hne (Trace.since_start rfl rfl)
      exact ⟨p, t, by rw [htunnel, Function.update_of_ne hp]; exact ht, hA⟩
  · have hkeeps := World.announced_keeps env fd hq
    by_cases hA : qx.initiator = A
    · obtain ⟨t', ht', hi⟩ := hkeeps q _ (World.proxy_names hq).1
      exact ⟨q, t', ht', hi.trans hA⟩
    · obtain ⟨later, htrace, hlater⟩ := World.announced_trace (w := w) env fd q qx
      have hother : (Action.frame qx.initiator grokConnected
          (ByteBuffer.encode cIdSize w.idPool.getId.1.toNat)).fd ≠ A := hA
      have hskip : Trace.since Action.connected A (later ++ .frame qx.initiator grokConnected
          (ByteBuffer.encode cIdSize w.idPool.getId.1.toNat) :: w.trace) =
          Trace.since Action.connected A (.frame qx.initiator grokConnected
            (ByteBuffer.encode cIdSize w.idPool.getId.1.toNat) :: w.trace) :=
        Trace.after_append fun a ha he => absurd ((hlater a ha).1.symm.trans he) hA
      rw [htrace, hskip, Trace.since_ne hother] at hne
      obtain ⟨p, t, ht, hi⟩ := hs A hne
      obtain ⟨t', ht', hi'⟩ := hkeeps p t ht
      exact ⟨p, t', ht', hi'.trans hi⟩

theorem Handled.serves {fd : SockT} (h : Handled env P fd w w') (hw : w.Sound) (hs : w.Served) :
    w'.Served := by
  refine h.invariant hw ?_ ?_ ?_ hs
  · exact fun v v' hv hsv heff => heff.serves hv.wf hsv
  · intro v v' _ hsv hheard A hne
    cases hheard with
    | mk fd' state length u64 buffer bytes rest _ _ _ =>
      have hquiet : ∀ a ∈ [Action.recv fd bytes], a.Unconnected := by
        intro a ha
        rw [List.mem_singleton.mp ha]
        exact nofun
      exact hsv A (Trace.connected_append hquiet hne)
  · intro v v' _ hsv hadvanced
    cases hadvanced
    exact hsv

theorem ReachableIf.serves {also : Loop.State → Loop.Input → Prop} (h : ReachableIf env l also s) :
    s.world.Served :=
  h.invariant (P := Loop.anyTerms) (fun s i _ => Loop.promised_any s i)
    (fun _ hne => absurd rfl hne) fun _ _ _ _ hw hs hhandled => hhandled.serves hw hs

end

end OpenGrok
