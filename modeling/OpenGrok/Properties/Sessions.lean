import OpenGrok.Properties.Conservation
import OpenGrok.Properties.Isolation
import OpenGrok.Server.Session

/-! The sessions of an owner's clients.

For each id an owner sees sessions: a CONNECTED frame, PACKET frames, and a DISCONNECT
frame of the server or its own (`Session.next`). The bytes of a session are those of one
socket, the one that was accepted when it began (`Session.Of`). -/
namespace OpenGrok

/-- What a session carried so far, to the owner and to the client. -/
structure Session where
  relayed : Bytes := []
  delivered : Bytes := []
  deriving DecidableEq, Repr

namespace Session

/-- What a mark makes of the session that an id has, if it has one: nothing may be said of an id
that has none but CONNECTED, and that only then. A frame of the owner for an id that has no session
is answered by an error; an owner's connection begins and ends without sessions. -/
def next : Option Session → Mark → Option (Option Session)
  | _, .restarted => some none
  | none, .connected => some (some {})
  | none, .packet _ => none
  | none, .disconnected => none
  | none, .delivered _ => some none
  | none, .dismissed => some none
  | some _, .connected => none
  | some s, .packet payload => some (some { s with relayed := s.relayed ++ payload })
  | some s, .delivered payload => some (some { s with delivered := s.delivered ++ payload })
  | some _, .disconnected => some none
  | some _, .dismissed => some none

end Session

/-! ### What a trace says of an id -/

namespace Trace

/-- The marks for the id at the descriptor of its owner, the oldest first. -/
def marks (A : SockT) (id : CIdT) (t : List Action) : List Mark :=
  (t.filter fun a => a.fd = A).reverse.flatMap (Action.marks id)

/-- The session that the id has, if the marks are in order. -/
def phase (A : SockT) (id : CIdT) (t : List Action) : Option (Option Session) :=
  (marks A id t).foldlM Session.next none

/-- The socket that was accepted last. -/
def lastAccepted : List Action → Option SockT
  | [] => none
  | .accept x :: _ => some x
  | _ :: before => lastAccepted before

/-- The socket that was accepted when the owner was last told of the id. -/
def client (A : SockT) (id : CIdT) : List Action → Option SockT
  | [] => none
  | a :: before =>
    if a = .frame A grokConnected (ByteBuffer.encode cIdSize id.toNat) then lastAccepted before
    else client A id before

end Trace

/-- The session is that of the socket: its PACKET frames carry what was received from it, and the
owner's what was given to `Loop::send` for it. -/
structure Session.Of (s : Session) (A : SockT) (id : CIdT) (x : SockT) (t : List Action) : Prop where
  client : Trace.client A id t = some x
  relayed : s.relayed = Trace.since Action.received x t
  delivered : s.delivered = Trace.since Action.queuedBytes x t

namespace Trace
variable {A x : SockT} {id : CIdT} {a : Action} {t new : List Action}

theorem phase_cons : phase A id (a :: t) =
    if a.fd = A then (phase A id t).bind fun s => (a.marks id).foldlM Session.next s
    else phase A id t := by
  by_cases h : a.fd = A
  · simp [phase, marks, h, Option.bind_eq_bind]
  · simp [phase, marks, h]

theorem phase_at (h : a.fd = A) :
    phase A id (a :: t) = (phase A id t).bind fun s => (a.marks id).foldlM Session.next s := by
  rw [phase_cons, if_pos h]

theorem phase_quiet (h : a.fd = A → a.marks id = []) : phase A id (a :: t) = phase A id t := by
  rw [phase_cons]
  split
  · next hA =>
    rw [h hA]
    exact Option.bind_fun_some _
  · rfl

/-- A mark takes the session to the next. -/
theorem phase_next {m : Mark} {s : Option Session} (h : a.fd = A) (hm : a.marks id = [m])
    (hs : phase A id t = some s) : phase A id (a :: t) = Session.next s m := by
  rw [phase_at h, hm, hs, Option.bind_some, List.foldlM_cons]
  exact Option.bind_fun_some _

theorem client_other (h : a.fd = A → a.marks id = []) : client A id (a :: t) = client A id t := by
  rw [client, if_neg]
  intro hsame
  subst hsame
  have hmarks := h rfl
  rw [Action.marks_connected, if_pos rfl] at hmarks
  cases hmarks

end Trace

/-- The session of the socket under the id. -/
def InSession (A : SockT) (id : CIdT) (x : SockT) (t : List Action) : Prop :=
  ∃ s, Trace.phase A id t = some (some s) ∧ s.Of A id x t

/-- What does not touch the client leaves its session as it is. -/
theorem InSession.untouched {A : SockT} {id : CIdT} {x : SockT} {t new : List Action}
    (h : InSession A id x t) (hnew : ∀ a ∈ new, Action.Untouched A id x a) :
    InSession A id x (new ++ t) := by
  induction new with
  | nil => exact h
  | cons a rest ih =>
    obtain ⟨s, hphase, hclient, hrelayed, hdelivered⟩ :=
      ih fun b hb => hnew b (List.mem_cons_of_mem _ hb)
    obtain ⟨howner, hother⟩ := hnew a (List.mem_cons_self ..)
    refine ⟨s, ?_, ?_, ?_, ?_⟩
    · rw [List.cons_append, Trace.phase_quiet fun he => (howner he).2, hphase]
    · rw [List.cons_append, Trace.client_other fun he => (howner he).2, hclient]
    · rw [List.cons_append, Trace.since_other fun he => ⟨(hother he).1, (hother he).2.1⟩, hrelayed]
    · rw [List.cons_append, Trace.since_other fun he => ⟨(hother he).1, (hother he).2.2⟩, hdelivered]

/-! ### What an effect does to the sessions -/

/-- The ids of an owner that have sessions are those of its clients. -/
structure Tracked (w : World) : Prop where
  inSession : ∀ {p A id x}, w.names.Client p A id x → InSession A id x w.trace
  idle : ∀ {A id}, (∀ p x, ¬w.names.Client p A id x) → Trace.phase A id w.trace = some none

section
variable {env : Env} {P : Terms} {w w' : World} {p : Ptr} {A : SockT} {id : CIdT} {x : SockT}

theorem Concerns.inSession (h : Concerns P w w' p A id x) (hw : w.names.Wf) (hl : Ledger w)
    (ht : Tracked w) (hx : x ≠ -1) : InSession A id x w'.trace := by
  cases h with
  | untouched hc hgrows =>
    obtain ⟨new, hnew, hall⟩ := hgrows
    rw [hnew]
    exact (ht.inSession hc).untouched hall
  | announced before later hid htrace hxA hw' hlater =>
    obtain ⟨hdraw, _⟩ := w.idPool.getId_draws (by have := hl.bounded; omega)
    have hfresh : ∀ q y, ¬w.names.Client q A id y := fun q y hc =>
      hl.conserves.draw_fresh ⟨q, id, y, hc.holds, hid ▸ hdraw⟩
    have hphase := ht.idle hfresh
    have hfirst (part : Action → Bytes) : Trace.since part x (.frame A grokConnected
        (ByteBuffer.encode cIdSize id.toNat) :: w.trace) = [] := by
      rw [Trace.since_other fun he => absurd he.symm hxA, htrace]
      exact Trace.since_start rfl rfl
    have hopen : InSession A id x (.frame A grokConnected (ByteBuffer.encode cIdSize id.toNat) ::
        w.trace) := by
      refine ⟨{}, ?_, ?_, (hfirst _).symm, (hfirst _).symm⟩
      · exact Eq.trans (Trace.phase_next rfl (by rw [Action.marks_connected, if_pos rfl]) hphase) rfl
      · rw [Trace.client, if_pos rfl, htrace]
        rfl
    rw [hw']
    exact hopen.untouched hlater
  | delivered length buffer hc hw' =>
    obtain ⟨s, hphase, hclient, hrelayed, hdelivered⟩ := ht.inSession hc
    have hother : (Action.message A grokPacket length (some buffer)).fd ≠ x :=
      hc.ne_linked hw hx (hc.linked hw) nofun
    have hmessage : Trace.phase A id (.message A grokPacket length (some buffer) :: w.trace) =
        some (some { s with delivered := s.delivered ++
          (Action.message A grokPacket length (some buffer)).packet id }) := by
      by_cases hp : (Action.message A grokPacket length (some buffer)).packet id = []
      · rw [Trace.phase_quiet fun _ => Action.marks_message hp Action.packet_undismissed, hphase, hp,
          List.append_nil]
      · exact Trace.phase_next rfl (Action.marks_delivered hp) hphase
    rw [hw']
    refine ⟨{ s with delivered := s.delivered ++
      (Action.message A grokPacket length (some buffer)).packet id }, ?_, ?_, ?_, ?_⟩
    · exact (Trace.phase_quiet fun he => rfl).trans hmessage
    · rw [Trace.client_other fun _ => rfl, Trace.client, if_neg nofun, hclient]
    · rw [Trace.since_other fun _ => ⟨rfl, rfl⟩, Trace.since_ne hother]
      exact hrelayed
    · exact Trace.queued_next (hdelivered.trans (Trace.since_ne hother).symm)
  | relayed q t y j bytes later hc _ htunnel hy hw' hlater =>
    obtain ⟨s, hphase, hclient, hrelayed, hdelivered⟩ := ht.inSession hc
    rw [hw']
    refine InSession.untouched ?_ hlater
    have hother : (Action.frame t.initiator grokPacket
        (ByteBuffer.encode cIdSize j.toNat ++ bytes)).fd ≠ x :=
      hc.ne_linked hw hx (hw.initiator_linked htunnel) nofun
    have hunmarked : (Action.recv y bytes).fd = A → (Action.recv y bytes).marks id = [] := fun _ => rfl
    by_cases hyx : y = x
    · subst hyx
      obtain ⟨rfl, rfl⟩ := hw.knows_one hx (hc.knows hw hx) ⟨t, htunnel, hy⟩
      obtain ⟨u, hu, hA, _⟩ := hc
      cases Option.some.inj (hu.symm.trans htunnel)
      subst hA
      refine ⟨{ s with relayed := s.relayed ++ bytes }, ?_, ?_, ?_, ?_⟩
      · exact Eq.trans (Trace.phase_next rfl (by rw [Action.marks_packet, if_pos rfl])
          ((Trace.phase_quiet hunmarked).trans hphase)) rfl
      · rw [Trace.client, if_neg nofun, Trace.client, if_neg nofun, hclient]
      · rw [Trace.since_ne hother]
        exact Trace.received_next hrelayed
      · rw [Trace.since_ne hother, Trace.since_other fun _ => ⟨rfl, rfl⟩]
        exact hdelivered
    · have hyx : (Action.recv y bytes).fd ≠ x := hyx
      have hunmarked' : (Action.frame t.initiator grokPacket (ByteBuffer.encode cIdSize j.toNat ++
          bytes)).fd = A → (Action.frame t.initiator grokPacket (ByteBuffer.encode cIdSize j.toNat ++
          bytes)).marks id = [] := by
        intro hA
        rw [Action.marks_packet, if_neg]
        intro hsame
        subst hsame
        obtain ⟨u, hu, hA', hid⟩ := hc
        obtain rfl := hw.tunnel_one hu htunnel (hA'.trans hA.symm)
        exact hyx (Names.Holds.fun (hl.inverse.mpr ⟨t, htunnel, hy⟩) ⟨u, hu, hid⟩)
      refine ⟨s, ?_, ?_, ?_, ?_⟩
      · rw [Trace.phase_quiet hunmarked', Trace.phase_quiet hunmarked, hphase]
      · rw [Trace.client_other hunmarked', Trace.client_other hunmarked, hclient]
      · rw [Trace.since_ne hother, Trace.since_ne hyx]
        exact hrelayed
      · rw [Trace.since_ne hother, Trace.since_ne hyx]
        exact hdelivered

/-! ### Ids without a client -/

/-- The action says nothing of the id that may not be said while it has no session. -/
def Action.Calm (A : SockT) (id : CIdT) (a : Action) : Prop :=
  a.fd = A → ∀ m ∈ a.marks id, Session.next none m = some none

namespace Action.Calm
variable {a : Action}

theorem of_unmarked (h : a.marks id = []) : a.Calm A id := by
  intro _ m hm
  rw [h] at hm
  cases hm

theorem close (y : SockT) : (Action.close y).Calm A id := by
  intro _ m hm
  rw [List.mem_singleton.mp hm]
  rfl

theorem accept (y : SockT) : (Action.accept y).Calm A id := by
  intro _ m hm
  rw [List.mem_singleton.mp hm]
  rfl

theorem frame {B : SockT} {type : UInt8} {payload : Bytes}
    (h : B = A → (Action.frame B type payload).marks id = []) :
    (Action.frame B type payload).Calm A id :=
  fun he => of_unmarked (h he) he

theorem message {B : SockT} {type : UInt8} {length : Nat} {buffer : Option Bytes} :
    (Action.message B type length buffer).Calm A id := by
  intro _ m hm
  simp only [marks] at hm
  split at hm
  · rw [List.mem_singleton.mp hm]
    rfl
  · split at hm
    · rw [List.mem_singleton.mp hm]
      rfl
    · cases hm

end Action.Calm

theorem Trace.phase_calm {t new : List Action} (h : ∀ a ∈ new, Action.Calm A id a)
    (ht : Trace.phase A id t = some none) : Trace.phase A id (new ++ t) = some none := by
  have hstays (ms : List Mark) (hms : ∀ m ∈ ms, Session.next none m = some none) :
      ms.foldlM Session.next none = some none := by
    induction ms with
    | nil => rfl
    | cons m rest ih =>
      rw [List.foldlM_cons, hms m (List.mem_cons_self ..)]
      exact ih fun m' hm' => hms m' (List.mem_cons_of_mem _ hm')
  induction new with
  | nil => exact ht
  | cons a rest ih =>
    have hrest := ih fun b hb => h b (List.mem_cons_of_mem _ hb)
    rw [List.cons_append, Trace.phase_cons]
    split
    · next ha =>
      rw [hrest]
      exact hstays _ (h a (List.mem_cons_self ..) ha)
    · exact hrest

/-- Closing descriptors breaks no rule. -/
theorem Trace.phase_closes {t new : List Action} (h : ∀ a ∈ new, ∃ y, a = .close y)
    (ht : ∃ s, Trace.phase A id t = some s) : ∃ s, Trace.phase A id (new ++ t) = some s := by
  induction new with
  | nil => exact ht
  | cons a rest ih =>
    obtain ⟨s, hs⟩ := ih fun b hb => h b (List.mem_cons_of_mem _ hb)
    obtain ⟨y, rfl⟩ := h a (List.mem_cons_self ..)
    by_cases hy : y = A
    · exact ⟨none, Eq.trans (Trace.phase_next hy rfl hs) rfl⟩
    · have hy : (Action.close y).fd ≠ A := hy
      exact ⟨s, (Trace.phase_quiet fun he => absurd he hy).trans hs⟩

theorem Tracked.in_order (ht : Tracked w) (A : SockT) (id : CIdT) :
    ∃ s, Trace.phase A id w.trace = some s := by
  by_cases h : ∃ p x, w.names.Client p A id x
  · obtain ⟨p, x, hc⟩ := h
    obtain ⟨s, hs, _⟩ := ht.inSession hc
    exact ⟨some s, hs⟩
  · exact ⟨none, ht.idle fun p x hc => h ⟨p, x, hc⟩⟩

theorem Grows.idle (h : Grows (Action.Calm A id) w w') (ht : Trace.phase A id w.trace = some none) :
    Trace.phase A id w'.trace = some none := by
  obtain ⟨new, hnew, hall⟩ := h
  rw [hnew]
  exact Trace.phase_calm hall ht

/-- An id that has no client after a frame has no session. -/
theorem Command.idle {B : SockT} {said : List Reaction} (h : Command env P B w said w')
    (hw : w.names.Wf) (ht : Tracked w) (hno : ∀ p x, ¬w'.names.Client p A id x) :
    Trace.phase A id w'.trace = some none := by
  have hshrinks := h.shrinks
  have hkept (hkeep : ∀ p x, w.names.Client p A id x → w'.names.Holds p id x)
      (hgrows : Grows (Action.Calm A id) w w') : Trace.phase A id w'.trace = some none :=
    hgrows.idle (ht.idle fun p x hc => hno p x (hc.of_holds hshrinks (hkeep p x hc)))
  have hsame (htables : SameTables w.names w'.names) (hgrows : Grows (Action.Calm A id) w w') :
      Trace.phase A id w'.trace = some none :=
    hkept (fun p x hc => (htables.holds p id x).mpr hc.holds) hgrows
  -- The frame that takes the client out of the tables is the end of its session.
  have hends {q : Ptr} {px : GrokProxy} {j : CIdT} {y : SockT} {buffer : Bytes}
      (hq : w.proxies.lookup q = some px) (hB : px.initiator = B)
      (hj : px.idToSock.lookup j = some y)
      (hvalue : ByteBuffer.value (buffer.take cIdSize) = j.toNat)
      (htables : Untabled q j y w.names w'.names)
      (hgrows : Grows (Action.Calm A id) (w.log (.message B grokDisconnect cIdSize (some buffer)))
        w') : Trace.phase A id w'.trace = some none := by
    have hclient : w.names.Client q B j y := ⟨_, (World.proxy_names hq).1, hB, hj⟩
    by_cases hid : B = A ∧ j = id
    · obtain ⟨rfl, rfl⟩ := hid
      obtain ⟨s, hphase, _⟩ := ht.inSession hclient
      exact hgrows.idle (Eq.trans (Trace.phase_next rfl
        (by rw [Action.marks_dismissal hvalue, if_pos rfl]) hphase) rfl)
    · refine hkept (fun p x hc => (htables.holds p id x).mpr ⟨hc.holds, ?_⟩)
        ((Grows.log Action.Calm.message).trans hgrows)
      intro hparts
      obtain ⟨rfl, rfl⟩ := hparts
      obtain ⟨t, ht, hA, _⟩ := hc
      obtain ⟨u, hu, hB, _⟩ := hclient
      cases Option.some.inj (ht.symm.trans hu)
      exact hid ⟨hB.symm.trans hA, rfl⟩
  cases h with
  | message type length buffer _ _ => exact hsame (.of_eq rfl) (.log Action.Calm.message)
  | granted type length buffer _ =>
    exact hsame (.of_eq (by rw [World.names_granted]; rfl))
      ((Grows.log Action.Calm.message).trans (.of_eq (FreeGrok.gatherUser_trace ..)))
  | delivered q t j y length buffer body _ _ _ _ _ =>
    exact hsame (.of_eq (by rw [Loop.send_registry]; rfl))
      ((Grows.log Action.Calm.message).trans (.send body (.of_unmarked rfl)))
  | dropped q px j y o b buffer hq hB hj hvalue _ hb _ =>
    exact hends hq hB hj hvalue ((World.untabled_tables hq y j).of_eq
      (World.dropped_tunnel _ y j hq hb)) ((Grows.of_eq rfl).trans (.left o b (.close y)))
  | untabled q px j y buffer hq hB hj hvalue _ =>
    exact hends hq hB hj hvalue (World.untabled_tables (w := w.log _) hq y j) (.of_eq rfl)
  | replied type payload hreply _ =>
    exact hsame (.of_eq (by rw [FStreamer.send_registry]))
      (.frame type payload (.of_unmarked (Action.marks_reply hreply)) fun _ => .of_unmarked rfl)
  | touched =>
    exact hsame (.of_eq (by rw [World.names_gatherUser])) (.of_eq (FreeGrok.gatherUser_trace ..))
  | created sock port listeningPort _ _ _ _ =>
    exact hsame (World.created_tables hw port listeningPort)
      (.created sock port listeningPort (.of_unmarked rfl))
  | discarded sock port _ _ _ _ =>
    refine hsame (.of_eq (by rw [World.discarded_names env hw])) (.trans (.trans
      (.created sock port 0 (.of_unmarked rfl)) (.frame grokError _ (.of_unmarked ?_)
        fun _ => .of_unmarked rfl)) (.deleted _ _ [] nofun (.close sock)))
    exact Action.marks_reply ⟨by decide, by decide, by decide⟩

/-- **An id that has no client when an effect is over has no session.** -/
theorem Effect.idle (h : Effect env P w w') (hw : w.names.Wf) (hl : Ledger w) (ht : Tracked w)
    (hno : ∀ p x, ¬w'.names.Client p A id x) : Trace.phase A id w'.trace = some none := by
  have hkept (hkeep : ∀ p x, w.names.Client p A id x → ∃ q y, w'.names.Client q A id y)
      (hgrows : Grows (Action.Calm A id) w w') : Trace.phase A id w'.trace = some none :=
    hgrows.idle (ht.idle fun p x hc => by
      obtain ⟨q, y, hc'⟩ := hkeep p x hc
      exact hno q y hc')
  have hsame (htunnel : w'.names.tunnel = w.names.tunnel)
      (hgrows : Grows (Action.Calm A id) w w') : Trace.phase A id w'.trace = some none :=
    hkept (fun p x ⟨t, ht, hc⟩ => ⟨p, x, t, htunnel ▸ ht, hc⟩) hgrows
  cases h with
  | accepted fd item _ =>
    exact hsame (by rw [World.names_accepted]) ((Grows.log (.accept fd)).trans (.of_eq rfl))
  | refused o item _ => exact hsame rfl (.of_eq rfl)
  | parsed fd parser _ _ => exact hsame (by rw [World.names_setParser]) (.of_eq rfl)
  | announced q qx fd before _ _ hq _ _ _ =>
    have htabled := World.announced_tabled env fd hq
    have hnew : (w.announced fd env q qx).names.Client q qx.initiator w.idPool.getId.1 fd := by
      obtain ⟨t', ht', hid⟩ := (htabled.holds q w.idPool.getId.1 fd).mpr (.inl ⟨rfl, rfl, rfl⟩)
      obtain ⟨t, ht, hi⟩ := World.announced_owner env fd hq ht'
      cases Option.some.inj (ht.symm.trans (World.proxy_names hq).1)
      exact ⟨t', ht', hi.symm, hid⟩
    refine hkept (fun p x hc => ?_) (.announced q qx (.frame fun hA => ?_)
      (fun _ => .of_unmarked rfl) fun _ => .of_unmarked rfl)
    · by_cases hp : p = q ∧ id = w.idPool.getId.1
      · obtain ⟨rfl, rfl⟩ := hp
        obtain ⟨t, ht, rfl, _⟩ := hc
        cases Option.some.inj (ht.symm.trans (World.proxy_names hq).1)
        exact ⟨p, fd, hnew⟩
      · obtain ⟨t', ht', hid⟩ := (htabled.holds p id x).mpr (.inr ⟨hc.holds, hp⟩)
        obtain ⟨t, ht, hi⟩ := World.announced_owner env fd hq ht'
        obtain ⟨u, hu, hA, _⟩ := hc
        cases Option.some.inj (ht.symm.trans hu)
        exact ⟨p, x, t', ht', hi.symm.trans hA, hid⟩
    · rw [Action.marks_connected, if_neg]
      intro hsame
      subst hsame
      exact hno q fd (hA ▸ hnew)
  | admitted fd o b before _ hb _ _ _ _ =>
    exact hsame (by rw [World.names_admitted w fd hb]) (.of_eq (World.admitted_trace fd o b w))
  | flagged fd o b _ hb =>
    exact hsame (by rw [World.names_flagged w fd hb]) (.of_eq (Selector.modify_trace fd eventsR _))
  | wrote fd front rest n _ _ _ =>
    exact hsame (by rw [World.wrote_registry]) (.wrote front rest n (.of_unmarked rfl))
  | writeFailed fd _ =>
    exact hsame (by rw [World.writeFailed_registry]) (.writeFailed (.of_unmarked rfl))
  | readFailed fd _ _ _ => exact hsame rfl ((Grows.log (.of_unmarked rfl)).trans (.of_eq rfl))
  | heard fd fd' state length u64 buffer bytes rest _ _ _ =>
    exact hsame rfl ((Grows.log (.of_unmarked rfl)).trans (.of_eq rfl))
  | command B _ hcmd => exact hcmd.idle hw ht hno
  | relayed q t y j bytes _ htunnel hy =>
    have hreg : (FreeGrok.sendPacket env t.initiator j bytes (w.log (.recv y bytes))).names.tunnel =
        w.names.tunnel := by rw [World.names_relayed]
    refine hsame hreg ((Grows.log (.of_unmarked rfl)).trans (.frame grokPacket _
      (.frame fun hA => ?_) fun _ => .of_unmarked rfl))
    rw [Action.marks_packet, if_neg]
    intro hsame
    subst hsame
    obtain ⟨u, hu, hid⟩ := hl.inverse.mpr ⟨t, htunnel, hy⟩
    cases Option.some.inj (hu.symm.trans htunnel)
    exact hno q y ⟨t, hreg ▸ htunnel, hA, hid⟩
  | captured y bytes _ _ => exact hsame rfl (.log (.of_unmarked rfl))
  | served y bytes _ _ => exact hsame (by rw [Loop.send_registry]) (.send bytes (.of_unmarked rfl))
  | forgot fd _ _ => exact hsame (by rw [World.names_forgot]) (.of_eq rfl)
  | torn B u q qx b _ _ hu hs hq hb =>
    by_cases hA : B = A
    · -- The owner's own close ends its sessions.
      subst hA
      have hcloses : Grows (fun a => ∃ y, a = .close y) w ((w.shutDown q qx (w.idPool.release
          (qx.heldIds env))).deleted q qx.toIObserver (env.order qx.clients.keys)) :=
        (Grows.of_eq rfl).trans (.deleted q _ _ (fun y _ => ⟨y, rfl⟩) ⟨_, rfl⟩)
      obtain ⟨new, hnew, hall⟩ := hcloses
      obtain ⟨s, hs⟩ := Trace.phase_closes hall (ht.in_order B id)
      rw [← hnew] at hs
      exact Eq.trans (Trace.phase_next (a := .close B) rfl rfl hs) rfl
    · refine hkept (fun p x hc => ⟨p, x, ?_⟩) (.torn q qx b (fun y _ => .close y) (.close _) (.close B))
      obtain ⟨t, ht, rfl, hid⟩ := hc
      have hpq : p ≠ q := by
        intro hsame
        subst hsame
        exact hA (hw.server_initiator hu hs ht).symm
      refine ⟨t, ?_, rfl, hid⟩
      rw [World.names_torn w B env hq hb]
      exact (Function.update_of_ne hpq _ _).trans ht
  | left y o b _ _ hb _ _ _ =>
    exact hsame (by rw [World.names_left w y hb]) (.left o b (.close y))
  | hungUp q qx y j b _ hq hj _ hb =>
    have htunnel := World.hungUp_tunnel env y j hq hb
    have htables := (World.untabled_tables hq y j).of_eq htunnel
    have hshrinks := (World.untabled_shrinks hq y j).trans (.of_eq htunnel)
    have ht' := (World.proxy_names hq).1
    by_cases hid : qx.initiator = A ∧ j = id
    · obtain ⟨rfl, rfl⟩ := hid
      obtain ⟨t, htq, hid⟩ := hl.inverse.mpr ⟨_, ht', hj⟩
      cases Option.some.inj (htq.symm.trans ht')
      obtain ⟨s, hphase, _⟩ := ht.inSession ⟨_, htq, rfl, hid⟩
      refine ((World.hungUp_grows env w y q qx j b).mono ?_).idle (Eq.trans (Trace.phase_next rfl
        (by rw [Action.marks_disconnected, if_pos rfl]) hphase) rfl)
      intro a ha
      obtain ⟨bytes, rfl⟩ | rfl := ha
      · exact .of_unmarked rfl
      · exact .close y
    · refine hkept (fun p x hc => ⟨p, x, hc.of_holds hshrinks ((htables.holds p id x).mpr
        ⟨hc.holds, ?_⟩)⟩) (.hungUp q qx j b (.frame fun hA => ?_) (fun _ => .of_unmarked rfl) (.close y))
      · intro hparts
        obtain ⟨rfl, rfl⟩ := hparts
        obtain ⟨t, ht, hA, _⟩ := hc
        cases Option.some.inj (ht.symm.trans ht')
        exact hid ⟨hA, rfl⟩
      · rw [Action.marks_disconnected, if_neg]
        intro hsame
        subst hsame
        exact hid ⟨hA, rfl⟩

/-! ### Ends -/

/-- The action ends a session of the id, if it has one. -/
def Action.Ends (id : CIdT) (a : Action) : Prop :=
  .disconnected ∈ a.marks id ∨ .dismissed ∈ a.marks id

/-- The action ends no session. -/
def Action.Ongoing (a : Action) : Prop := ∀ id, ¬a.Ends id

namespace Action.Ongoing

theorem of_unmarked {a : Action} (h : ∀ id, a.marks id = []) : a.Ongoing := by
  intro id hends
  rw [Ends, h id] at hends
  obtain hm | hm := hends <;> cases hm

theorem close (y : SockT) : (Action.close y).Ongoing := by
  intro id hends
  obtain hm | hm := hends <;> cases List.mem_singleton.mp hm

theorem accept (y : SockT) : (Action.accept y).Ongoing := by
  intro id hends
  obtain hm | hm := hends <;> cases List.mem_singleton.mp hm

theorem connected (B : SockT) (j : CIdT) :
    (Action.frame B grokConnected (ByteBuffer.encode cIdSize j.toNat)).Ongoing := by
  intro id hends
  rw [Ends, marks_connected] at hends
  split at hends <;> obtain hm | hm := hends <;> cases hm
  all_goals contradiction

theorem packet (B : SockT) (j : CIdT) (payload : Bytes) :
    (Action.frame B grokPacket (ByteBuffer.encode cIdSize j.toNat ++ payload)).Ongoing := by
  intro id hends
  rw [Ends, marks_packet] at hends
  split at hends <;> obtain hm | hm := hends <;> cases hm
  all_goals contradiction

end Action.Ongoing

/-- If anything that an effect does ends a session, it is the first thing it does. -/
def EndsFirst (w w' : World) : Prop :=
  ∃ v : World, (v.trace = w.trace ∨ ∃ a, v.trace = a :: w.trace) ∧ Grows Action.Ongoing v w'

theorem EndsFirst.of_grows (h : Grows Action.Ongoing w w') : EndsFirst w w' := ⟨w, .inl rfl, h⟩

theorem EndsFirst.of_log {a : Action} (h : Grows Action.Ongoing (w.log a) w') : EndsFirst w w' :=
  ⟨w.log a, .inr ⟨a, rfl⟩, h⟩

theorem EndsFirst.grows (h : EndsFirst w w') : ∃ new, w'.trace = new ++ w.trace := by
  obtain ⟨v, hv, new, hnew, _⟩ := h
  obtain hv | ⟨a, hv⟩ := hv
  · exact ⟨new, by rw [hnew, hv]⟩
  · exact ⟨new ++ [a], by rw [hnew, hv, List.append_assoc, List.singleton_append]⟩

theorem Command.ends {B : SockT} {said : List Reaction} (h : Command env P B w said w') :
    EndsFirst w w' := by
  cases h with
  | message type length buffer _ _ => exact .of_log (.refl _)
  | granted type length buffer _ => exact .of_log (.of_eq (FreeGrok.gatherUser_trace ..))
  | delivered q t j y length buffer body _ _ _ _ _ =>
    exact .of_log (.send body (.of_unmarked fun _ => rfl))
  | dropped q px j y o b buffer _ _ _ _ _ _ _ =>
    exact .of_log ((Grows.of_eq rfl).trans (.left o b (.close y)))
  | untabled q px j y buffer _ _ _ _ _ => exact .of_log (.of_eq rfl)
  | replied type payload hreply _ =>
    exact .of_grows (.frame type payload (.of_unmarked fun _ => Action.marks_reply hreply)
      fun _ => .of_unmarked fun _ => rfl)
  | touched => exact .of_grows (.of_eq (FreeGrok.gatherUser_trace ..))
  | created sock port listeningPort _ _ _ _ =>
    exact .of_grows (.created sock port listeningPort (.of_unmarked fun _ => rfl))
  | discarded sock port _ _ _ _ =>
    refine .of_grows (.trans (.trans (.created sock port 0 (.of_unmarked fun _ => rfl))
      (.frame grokError _ (.of_unmarked fun _ => ?_) fun _ => .of_unmarked fun _ => rfl))
        (.deleted _ _ [] nofun (.close sock)))
    exact Action.marks_reply ⟨by decide, by decide, by decide⟩

theorem Effect.ends (h : Effect env P w w') : EndsFirst w w' := by
  cases h with
  | accepted fd item _ => exact .of_grows ((Grows.log (.accept fd)).trans (.of_eq rfl))
  | refused o item _ => exact .of_grows (.of_eq rfl)
  | parsed fd parser _ _ => exact .of_grows (.of_eq rfl)
  | announced q qx fd before _ _ _ _ _ _ =>
    exact .of_grows (.announced q qx (.connected _ _) (fun _ => .of_unmarked fun _ => rfl)
      fun _ => .of_unmarked fun _ => rfl)
  | admitted fd o b before _ _ _ _ _ _ => exact .of_grows (.of_eq (World.admitted_trace fd o b w))
  | flagged fd o b _ _ => exact .of_grows (.of_eq (Selector.modify_trace fd eventsR _))
  | wrote fd front rest n _ _ _ =>
    exact .of_grows (.wrote front rest n (.of_unmarked fun _ => rfl))
  | writeFailed fd _ => exact .of_grows (.writeFailed (.of_unmarked fun _ => rfl))
  | readFailed fd _ _ _ =>
    exact .of_grows ((Grows.log (.of_unmarked fun _ => rfl)).trans (.of_eq rfl))
  | heard fd fd' state length u64 buffer bytes rest _ _ _ =>
    exact .of_grows ((Grows.log (.of_unmarked fun _ => rfl)).trans (.of_eq rfl))
  | command B _ hc => exact hc.ends
  | relayed q t y j bytes _ _ _ =>
    exact .of_grows ((Grows.log (.of_unmarked fun _ => rfl)).trans
      (.frame grokPacket _ (.packet _ _ _) fun _ => .of_unmarked fun _ => rfl))
  | captured y bytes _ _ => exact .of_grows (.log (.of_unmarked fun _ => rfl))
  | served y bytes _ _ => exact .of_grows (.send bytes (.of_unmarked fun _ => rfl))
  | forgot fd _ _ => exact .of_grows (.of_eq rfl)
  | torn B u q qx b _ _ _ _ _ _ =>
    exact .of_grows (.torn q qx b (fun y _ => .close y) (.close _) (.close B))
  | left y o b _ _ _ _ _ _ => exact .of_grows (.left o b (.close y))
  | hungUp q qx y j b _ _ _ _ _ =>
    refine .of_log ((World.hungUp_grows env w y q qx j b).mono fun a ha => ?_)
    obtain ⟨bytes, rfl⟩ | rfl := ha
    · exact .of_unmarked fun _ => rfl
    · exact .close y

/-- A session that the action ends was that of the socket that was accepted for it. -/
def Action.Settles (a : Action) (before : List Action) : Prop :=
  ∀ id s, a.Ends id → Trace.phase a.fd id before = some (some s) → ∃ x, s.Of a.fd id x before

theorem Tracked.settles (ht : Tracked w) (a : Action) : a.Settles w.trace := by
  intro id s _ hs
  by_cases h : ∃ p x, w.names.Client p a.fd id x
  · obtain ⟨p, x, hc⟩ := h
    obtain ⟨s', hs', hof⟩ := ht.inSession hc
    cases hs.symm.trans hs'
    exact ⟨x, hof⟩
  · cases hs.symm.trans (ht.idle fun p x hc => h ⟨p, x, hc⟩)

theorem EndsFirst.settles (h : EndsFirst w w') (ht : Tracked w)
    (ha : History.Always Action.Settles w.trace) : History.Always Action.Settles w'.trace := by
  obtain ⟨v, hv, new, hnew, hall⟩ := h
  have hfirst : History.Always Action.Settles v.trace := by
    obtain hv | ⟨a, hv⟩ := hv
    · rw [hv]
      exact ha
    · rw [hv]
      exact ha.cons (ht.settles a)
  rw [hnew]
  clear hnew
  induction new with
  | nil => exact hfirst
  | cons a rest ih =>
    exact (ih fun b hb => hall b (List.mem_cons_of_mem _ hb)).cons fun id s hends =>
      absurd hends (hall a (List.mem_cons_self ..) id)

/-! ### Runs -/

/-- What the sessions of a run's worlds satisfy. -/
structure World.InOrder (w : World) : Prop where
  ledger : Ledger w
  tracked : Tracked w
  settles : History.Always Action.Settles w.trace

theorem Effect.tracked (h : Effect env P w w') (hw : w.names.Wf) (hl : Ledger w) (hl' : Ledger w')
    (ht : Tracked w) : Tracked w' where
  inSession hc := (h.concerns hw hc (hl'.accepting hc.holds)).inSession hw hl ht
    (hl'.accepting hc.holds)
  idle hno := h.idle hw hl ht hno

theorem World.InOrder.of_untouched (h : w.InOrder) (hreg : w'.toRegistry = w.toRegistry)
    (hpool : w'.idPool = w.idPool) (hends : Grows Action.Ongoing w w')
    (huntouched : ∀ p A id x, w.names.Client p A id x → Grows (Action.Untouched A id x) w w')
    (hcalm : ∀ A id, Grows (Action.Calm A id) w w') : w'.InOrder where
  ledger := h.ledger.of_same hreg hpool
  tracked := {
    inSession := fun {p A id x} hc => by
      rw [hreg] at hc
      obtain ⟨new, hnew, hall⟩ := huntouched p A id x hc
      rw [hnew]
      exact (h.tracked.inSession hc).untouched hall
    idle := fun {A id} hno => (hcalm A id).idle (h.tracked.idle (hreg ▸ hno)) }
  settles := (EndsFirst.of_grows hends).settles h.tracked h.settles

theorem Handled.inOrder {fd : SockT} (h : Handled env P fd w w')
    (hopen : ∀ p, ¬P.refuse (.grokProxy p)) (hw : w.Sound) (ho : w.InOrder) : w'.InOrder := by
  refine h.invariant hw ?_ ?_ ?_ ho
  · intro v v' hv hov heff
    have hl := (heff.booked hv.wf).ledger (heff.wf hv.wf) hopen hov.ledger
    exact ⟨hl, heff.tracked hv.wf hov.ledger hl hov.tracked, heff.ends.settles hov.tracked hov.settles⟩
  · intro v v' hv hov hheard
    cases hheard with
    | mk fd' state length u64 buffer bytes rest hl _ _ =>
      refine hov.of_untouched rfl rfl ((Grows.log (.of_unmarked fun _ => rfl)).trans (.of_eq rfl))
        (fun p A id x hc => ?_) fun A id => (Grows.log (.of_unmarked rfl)).trans (.of_eq rfl)
      exact (Grows.log (.of_owner ⟨rfl, rfl⟩
        (hc.ne_linked hv.wf (hov.ledger.accepting hc.holds) hl nofun))).trans (.of_eq rfl)
  · intro v v' _ hov hadvanced
    cases hadvanced
    exact hov.of_untouched rfl rfl (.of_eq rfl) (fun _ _ _ _ _ => .of_eq rfl) fun _ _ => .of_eq rfl

theorem World.InOrder.boot (l : Listeners) : (World.boot l).InOrder where
  ledger := .boot l
  tracked := ⟨fun ⟨_, ht, _⟩ => (nomatch ht), fun _ => rfl⟩
  settles := trivial

variable {l : Listeners} {s : Loop.State}

theorem Loop.step_grows {s s' : Loop.State} {i : Loop.Input} (hs : s.Sound) (hi : Loop.Allowed s i)
    (h : Loop.step env s i = .ok s') : ∃ new, s'.world.trace = new ++ s.world.trace := by
  obtain ⟨hsame | ⟨fd, _, hhandled⟩, _⟩ := Loop.step_handled hs hi (Loop.promised_any s i) h
  · exact ⟨[], congrArg World.trace hsame⟩
  · refine hhandled.invariant (I := fun w => ∃ new, w.trace = new ++ s.world.trace) hs.world
      ?_ ?_ ?_ ⟨[], rfl⟩
    · intro v v' _ ⟨new, hnew⟩ heff
      obtain ⟨more, hmore⟩ := heff.ends.grows
      exact ⟨more ++ new, by rw [hmore, hnew, List.append_assoc]⟩
    · intro v v' _ ⟨new, hnew⟩ hheard
      cases hheard with
      | mk fd' state length u64 buffer bytes rest _ _ _ =>
        exact ⟨.recv fd bytes :: new, congrArg (List.cons _) hnew⟩
    · intro v v' _ ⟨new, hnew⟩ hadvanced
      cases hadvanced
      exact ⟨new, hnew⟩

theorem ReachableIf.inOrder (h : ReachableIf env l Loop.AcceptsOpen s) : s.world.InOrder :=
  h.invariant (fun _ _ hi => hi.promised) (.boot l)
    fun _ _ _ _ hw ho hhandled => hhandled.inOrder (fun _ h => h) hw ho

/-- **Every owner sees its clients in sessions**, as long as `accept` gives descriptors: what it
is sent for an id, and its own DISCONNECT frames, are in order at any time; the id has a session
while the owner's proxy has a client under it, and the session carries the bytes of that client,
the one accepted for it, also when it ends. -/
theorem sessions_in_order (h : ReachableIf env l Loop.AcceptsOpen s) :
    (∀ A id, (∃ p x session, s.world.names.Client p A id x ∧
          Trace.phase A id s.world.trace = some (some session) ∧ session.Of A id x s.world.trace) ∨
        (∀ p x, ¬s.world.names.Client p A id x) ∧ Trace.phase A id s.world.trace = some none) ∧
      History.Always Action.Settles s.world.trace := by
  have ho := h.inOrder
  refine ⟨fun A id => ?_, ho.settles⟩
  by_cases hc : ∃ p x, s.world.names.Client p A id x
  · obtain ⟨p, x, hc⟩ := hc
    obtain ⟨session, hphase, hof⟩ := ho.tracked.inSession hc
    exact .inl ⟨p, x, session, hc, hphase, hof⟩
  · have hno := fun p x hx => hc ⟨p, x, hx⟩
    exact .inr ⟨hno, ho.tracked.idle hno⟩

/-- The client 7 of the owner 5 sends two bytes, and is sent one. -/
theorem sessions_in_order_one :
    ∃ s session, ReachableIf (.plain []) .plain Loop.AcceptsOpen s ∧
      Trace.phase 5 0 s.world.trace = some (some session) ∧ session = ⟨[1, 2], [9]⟩ ∧
      session.Of 5 0 7 s.world.trace := by
  obtain ⟨s, hs, hphase, hclient⟩ := ReachableIf.exists_of_run (.plain []) .plain Loop.AcceptsOpen
    (twoOwners ++ [.readable 7 6, .data [1, 2], .readable 5 2, .data [14, 5],
      .readable 5 2, .data [0, 0, 0, 0, 9]])
    (fun s => Trace.phase 5 0 s.world.trace = some (some ⟨[1, 2], [9]⟩) ∧
      Trace.client 5 0 s.world.trace = some 7)
    (by decide +kernel) (by decide +kernel)
  refine ⟨s, _, hs, hphase, rfl, ?_⟩
  obtain ⟨p, x, session, _, hphase', hof⟩ | ⟨_, hidle⟩ := (sessions_in_order hs).1 5 0
  · cases hphase.symm.trans hphase'
    cases hclient.symm.trans hof.client
    exact hof
  · cases hphase.symm.trans hidle

end

end OpenGrok
