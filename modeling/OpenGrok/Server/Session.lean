import OpenGrok.Server.Commands
import OpenGrok.Server.Ledger
import OpenGrok.Server.Trace

/-! What concerns one client of an owner.

The frames that carry an id, and the owner's frames for it, are the marks of its
sessions. `Effect.concerns` says what an effect means for a client that has an id when
it is over: nothing, its announcement, a payload from its owner or a payload to it. -/
namespace OpenGrok

/-! ### Marks -/

/-- What happens to the client of an owner under an id. -/
inductive Mark where
  | connected
  | packet (payload : Bytes)
  | disconnected
  /-- The owner sent a payload for it. -/
  | delivered (payload : Bytes)
  /-- The owner has it disconnected. -/
  | dismissed
  /-- The owner's connection begins or ends. -/
  | restarted
  deriving DecidableEq, Repr

instance Action.Dismisses.decidable (client : CIdT) : ∀ a, Decidable (Action.Dismisses client a)
  | .message _ type length (some buffer) => inferInstanceAs (Decidable (type = grokDisconnect ∧
      length = cIdSize ∧ ByteBuffer.value (buffer.take cIdSize) = client.toNat))
  | .message _ _ _ none | .accept _ | .close _ | .recv _ _ | .recvFailed _ | .send _ _
  | .sendFailed _ | .queued _ _ | .frame _ _ _ | .announced _ _ _ | .bind _ _ => isFalse id

/-- The marks that an action at an owner is for the id. -/
def Action.marks (id : CIdT) : Action → List Mark
  | .frame _ type payload =>
    if type = grokConnected ∧ payload = ByteBuffer.encode cIdSize id.toNat then [.connected]
    else if type = grokPacket ∧ payload.take cIdSize = ByteBuffer.encode cIdSize id.toNat then
      [.packet (payload.drop cIdSize)]
    else if type = grokDisconnect ∧ payload = ByteBuffer.encode cIdSize id.toNat then
      [.disconnected]
    else []
  | .message fd type length buffer =>
    if (Action.message fd type length buffer).packet id ≠ [] then
      [.delivered ((Action.message fd type length buffer).packet id)]
    else if (Action.message fd type length buffer).Dismisses id then [.dismissed]
    else []
  | .accept _ | .close _ => [.restarted]
  | _ => []

theorem encodeId_inj {id j : CIdT} : ByteBuffer.encode cIdSize id.toNat =
    ByteBuffer.encode cIdSize j.toNat ↔ id = j := by
  refine ⟨fun h => ?_, fun h => by rw [h]⟩
  have hvalue := congrArg ByteBuffer.value h
  have h1 := id.toNat_lt
  have h2 := j.toNat_lt
  rw [ByteBuffer.encode_eq_digits, ByteBuffer.encode_eq_digits, ByteBuffer.value_digits,
    ByteBuffer.value_digits] at hvalue
  have hsize : 256 ^ cIdSize = 2 ^ 32 := by decide
  rw [hsize, Nat.mod_eq_of_lt h1, Nat.mod_eq_of_lt h2] at hvalue
  exact UInt32.toNat_inj.mp hvalue

namespace Action
variable {A : SockT} {id j : CIdT} {payload : Bytes}

theorem marks_connected : (Action.frame A grokConnected (ByteBuffer.encode cIdSize j.toNat)).marks id =
    if j = id then [.connected] else [] := by
  by_cases h : j = id
  · simp [marks, h]
  · simp [marks, encodeId_inj, h, grokConnected, grokPacket, grokDisconnect]

theorem marks_packet : (Action.frame A grokPacket (ByteBuffer.encode cIdSize j.toNat ++ payload)).marks
    id = if j = id then [.packet payload] else [] := by
  have htake : (ByteBuffer.encode cIdSize j.toNat ++ payload).take cIdSize =
      ByteBuffer.encode cIdSize j.toNat := by simp
  have hno : grokPacket ≠ grokConnected ∧ grokPacket ≠ grokDisconnect := by decide
  by_cases h : j = id
  · simp [marks, h, hno.1]
  · simp [marks, htake, encodeId_inj, h, hno.1, hno.2]

theorem marks_disconnected : (Action.frame A grokDisconnect
    (ByteBuffer.encode cIdSize j.toNat)).marks id = if j = id then [.disconnected] else [] := by
  have hno : grokDisconnect ≠ grokConnected ∧ grokDisconnect ≠ grokPacket := by decide
  by_cases h : j = id
  · simp [marks, h, hno.1, hno.2]
  · simp [marks, encodeId_inj, h, hno.1, hno.2]

theorem marks_reply {type : UInt8} (h : IsReply type) : (Action.frame A type payload).marks id = [] := by
  simp [marks, h.1, h.2.1, h.2.2]

theorem marks_message {type : UInt8} {length : Nat} {buffer : Option Bytes}
    (hp : (Action.message A type length buffer).packet id = [])
    (hd : ¬(Action.message A type length buffer).Dismisses id) :
    (Action.message A type length buffer).marks id = [] := by
  simp [marks, hp, hd]

theorem marks_delivered {type : UInt8} {length : Nat} {buffer : Option Bytes}
    (hp : (Action.message A type length buffer).packet id ≠ []) :
    (Action.message A type length buffer).marks id =
      [.delivered ((Action.message A type length buffer).packet id)] := by
  simp [marks, hp]

/-- A GROK_PACKET frame is for one id. -/
theorem packet_other {length : Nat} {buffer : Bytes}
    (hvalue : ByteBuffer.value (buffer.take cIdSize) = j.toNat) (hne : j ≠ id) :
    (Action.message A grokPacket length (some buffer)).packet id = [] := by
  rw [packet_message, if_neg]
  intro hparts
  obtain ⟨_, h⟩ := hparts
  exact hne (UInt32.toNat_inj.mp (hvalue.symm.trans h))

theorem packet_disconnect {length : Nat} {buffer : Option Bytes} :
    (Action.message A grokDisconnect length buffer).packet id = [] := by
  cases buffer with
  | none => rfl
  | some buffer => simp [packet, grokPacket, grokDisconnect]

theorem packet_undismissed {length : Nat} {buffer : Option Bytes} :
    ¬(Action.message A grokPacket length buffer).Dismisses id := by
  cases buffer with
  | none => exact fun h => h
  | some buffer => exact fun h => absurd h.1 (by decide)

/-- A GROK_DISCONNECT frame is for one id. -/
theorem marks_dismissal {buffer : Bytes}
    (hvalue : ByteBuffer.value (buffer.take cIdSize) = j.toNat) :
    (Action.message A grokDisconnect cIdSize (some buffer)).marks id =
      if j = id then [.dismissed] else [] := by
  have hpacket : (Action.message A grokDisconnect cIdSize (some buffer)).packet id = [] :=
    packet_disconnect
  by_cases h : j = id
  · have hd : (Action.message A grokDisconnect cIdSize (some buffer)).Dismisses id :=
      ⟨rfl, rfl, h ▸ hvalue⟩
    simp only [marks, hpacket, hd, h, ne_eq, not_true_eq_false, if_false, if_true]
  · have hd : ¬(Action.message A grokDisconnect cIdSize (some buffer)).Dismisses id := fun hd =>
      h (UInt32.toNat_inj.mp (hvalue.symm.trans hd.2.2))
    rw [marks_message hpacket hd, if_neg h]

/-- The action is of no concern to the client under the id: what it does to the owner says
nothing about the id, and nothing is read from the client or queued for it. -/
structure Untouched (A : SockT) (id : CIdT) (x : SockT) (a : Action) : Prop where
  owner : a.fd = A → a.isStart = false ∧ a.marks id = []
  client : a.fd = x → a.isStart = false ∧ a.received = [] ∧ a.queuedBytes = []

namespace Untouched
variable {x : SockT} {a : Action}

theorem of_ne (hA : a.fd ≠ A) (hx : a.fd ≠ x) : Untouched A id x a :=
  ⟨fun h => absurd h hA, fun h => absurd h hx⟩

theorem of_owner (hA : a.isStart = false ∧ a.marks id = []) (hx : a.fd ≠ x) : Untouched A id x a :=
  ⟨fun _ => hA, fun h => absurd h hx⟩

end Untouched

end Action

/-! ### Clients -/

/-- An owner has one proxy. -/
theorem Names.Wf.tunnel_one {n : Names} (hw : n.Wf) {p q : Ptr} {t u : Tunnel}
    (ht : n.tunnel p = some t) (hu : n.tunnel q = some u) (h : t.initiator = u.initiator) : p = q := by
  obtain ⟨v, hv, hs⟩ := hw.owner ht
  obtain ⟨v', hv', hs'⟩ := hw.owner hu
  rw [← h] at hv'
  cases Option.some.inj (hv.symm.trans hv')
  exact Option.some.inj (hs.symm.trans hs')

/-- The socket is the client that the owner's proxy has under the id. -/
def Names.Client (n : Names) (p : Ptr) (A : SockT) (id : CIdT) (x : SockT) : Prop :=
  ∃ t, n.tunnel p = some t ∧ t.initiator = A ∧ t.idToSock.lookup id = some x

namespace Names.Client
variable {n n' : Names} {p q : Ptr} {A : SockT} {id j : CIdT} {x y : SockT}

theorem holds (h : n.Client p A id x) : n.Holds p id x := by
  obtain ⟨t, ht, _, hid⟩ := h
  exact ⟨t, ht, hid⟩

theorem knows (hw : n.Wf) (h : n.Client p A id x) (hx : x ≠ -1) : n.Knows p x id := by
  obtain ⟨t, ht, _, hid⟩ := h
  exact ⟨t, ht, hw.id_sock ht hid hx⟩

theorem of_shrinks (hs : Shrinks n n') (h : n'.Client p A id x) : n.Client p A id x := by
  obtain ⟨t', ht', hA, hid⟩ := h
  obtain ⟨t, ht, hi, hid⟩ := hs.ids ht' hid
  exact ⟨t, ht, hi.trans hA, hid⟩

theorem of_holds (hs : Shrinks n n') (hh : n'.Holds p id x) (h : n.Client p A id x) :
    n'.Client p A id x := by
  obtain ⟨t', ht', hid⟩ := hh
  obtain ⟨t, ht, hi, _⟩ := hs.ids ht' hid
  obtain ⟨u, hu, hA, _⟩ := h
  cases Option.some.inj (ht.symm.trans hu)
  exact ⟨t', ht', hi.symm.trans hA, hid⟩

theorem linked (hw : n.Wf) (h : n.Client p A id x) : n.linked A = some .freeGrok := by
  obtain ⟨t, ht, rfl, _⟩ := h
  exact hw.initiator_linked ht

theorem user (hw : n.Wf) (h : n.Client p A id x) : ∃ u, n.user A = some u ∧ u.server = some p := by
  obtain ⟨t, ht, rfl, _⟩ := h
  exact hw.owner ht

theorem owner_ne (hw : n.Wf) (h : n.Client p A id x) : A ≠ -1 := by
  obtain ⟨u, hu, hs⟩ := h.user hw
  exact hw.server_valid hu hs

theorem opened (hw : n.Wf) (h : n.Client p A id x) (hx : x ≠ -1) :
    n.opened A ≠ none ∧ n.opened x ≠ none := by
  obtain ⟨t, ht, hid⟩ := h.knows hw hx
  exact ⟨(hw.linked_open (h.owner_ne hw) (h.linked hw)).1, hw.sock_open ht hid hx⟩

/-- A connection that is linked to anyone but the proxy is not its client. -/
theorem ne_linked (hw : n.Wf) (h : n.Client p A id x) (hx : x ≠ -1) {o : ObserverPtr}
    (hl : n.linked y = some o) (ho : o ≠ .grokProxy p) : y ≠ x := by
  intro hsame
  subst hsame
  obtain ⟨t, ht, hid⟩ := h.knows hw hx
  exact ho (hw.sock_linked ht hid hx hl)

/-- A connection that is not linked to the main server is not the owner. -/
theorem owner_ne_linked (hw : n.Wf) (h : n.Client p A id x) {o : ObserverPtr}
    (hl : n.linked y = some o) (ho : o ≠ .freeGrok) : y ≠ A := by
  intro hsame
  subst hsame
  exact ho (Option.some.inj (hl.symm.trans (h.linked hw)))

/-- A listener is neither. -/
theorem ne_observed (hw : n.Wf) (h : n.Client p A id x) (hx : x ≠ -1)
    (ho : n.observer y ≠ none) : y ≠ A ∧ y ≠ x := by
  constructor
  · intro hsame
    subst hsame
    exact ho (hw.linked_open (h.owner_ne hw) (h.linked hw)).2
  · intro hsame
    subst hsame
    obtain ⟨t, ht, hid⟩ := h.knows hw hx
    exact ho (hw.sock_unobserved ht hid hx)

/-- A descriptor that is not open is neither. -/
theorem ne_closed (hw : n.Wf) (h : n.Client p A id x) (hx : x ≠ -1)
    (hc : n.opened y = none) : y ≠ A ∧ y ≠ x := by
  obtain ⟨hA, hx'⟩ := h.opened hw hx
  constructor
  · intro hsame
    subst hsame
    exact hA hc
  · intro hsame
    subst hsame
    exact hx' hc

theorem proxy_eq (hw : n.Wf) (h : n.Client p A id x) (h' : n.Client q A j y) : p = q := by
  obtain ⟨t, ht, hA, _⟩ := h
  obtain ⟨u, hu, hA', _⟩ := h'
  exact hw.tunnel_one ht hu (hA.trans hA'.symm)

/-- A client has one owner, proxy and id. -/
theorem unique (hw : n.Wf) (h : n.Client p A id x) (hx : x ≠ -1) {B : SockT}
    (h' : n.Client q B j x) : p = q ∧ A = B ∧ id = j := by
  obtain ⟨rfl, rfl⟩ := hw.knows_one hx (h.knows hw hx) (h'.knows hw hx)
  obtain ⟨t, ht, hA, _⟩ := h
  obtain ⟨u, hu, hB, _⟩ := h'
  cases Option.some.inj (ht.symm.trans hu)
  exact ⟨rfl, hA.symm.trans hB, rfl⟩

end Names.Client

/-! ### What an effect means for a client -/

/-- What an effect means for a client that has an id when it is over. -/
inductive Concerns (P : Terms) (w w' : World) (p : Ptr) (A : SockT) (id : CIdT) (x : SockT) : Prop where
  | untouched : w.names.Client p A id x → Grows (Action.Untouched A id x) w w' →
      Concerns P w w' p A id x
  | announced (before later : List Action) : id = w.idPool.getId.1 →
      w.trace = .accept x :: before → x ≠ A →
      w'.trace = later ++ .frame A grokConnected (ByteBuffer.encode cIdSize id.toNat) :: w.trace →
      (∀ a ∈ later, Action.Untouched A id x a) → Concerns P w w' p A id x
  | delivered (length : Nat) (buffer : Bytes) : w.names.Client p A id x →
      w'.trace = .queued x ((Action.message A grokPacket length (some buffer)).packet id) ::
        .message A grokPacket length (some buffer) :: w.trace → Concerns P w w' p A id x
  | relayed (q : Ptr) (t : Tunnel) (y : SockT) (j : CIdT) (bytes : Bytes) (later : List Action) :
      w.names.Client p A id x → P.hear y (w.view y) bytes → w.names.tunnel q = some t →
      t.sockToId.lookup y = some j →
      w'.trace = later ++ .frame t.initiator grokPacket
        (ByteBuffer.encode cIdSize j.toNat ++ bytes) :: .recv y bytes :: w.trace →
      (∀ a ∈ later, Action.Untouched A id x a) → Concerns P w w' p A id x

section
variable {env : Env} {P : Terms} {w w' : World} {p : Ptr} {A : SockT} {id : CIdT} {x : SockT}

theorem Action.untouched_queued {B : SockT} (hB : B ≠ x) (bytes : Bytes) :
    Action.Untouched A id x (.queued B bytes) :=
  .of_owner ⟨rfl, rfl⟩ hB

/-- A frame to an owner that says nothing about the id. -/
theorem Grows.untouched_frame {B : SockT} (type : UInt8) (payload : Bytes) (hB : B ≠ x)
    (h : B = A → (Action.frame B type payload).marks id = []) :
    Grows (Action.Untouched A id x) w (FStreamer.send env B type payload w) :=
  .frame type payload ⟨fun he => ⟨rfl, h he⟩, fun he => absurd he hB⟩
    (Action.untouched_queued hB)

theorem Command.concerns {B : SockT} {said : List Reaction} (h : Command env P B w said w')
    (hl : w.names.linked B = some .freeGrok) (hw : w.names.Wf) (hc : w.names.Client p A id x)
    (hc' : w'.names.Client p A id x) (hx : x ≠ -1) : Concerns P w w' p A id x := by
  have hBx : B ≠ x := hc.ne_linked hw hx hl nofun
  have hmessage {type : UInt8} {length : Nat} {buffer : Option Bytes}
      (h : B = A → (Action.message B type length buffer).marks id = []) :
      Grows (Action.Untouched A id x) w (w.log (.message B type length buffer)) :=
    .log ⟨fun he => ⟨rfl, h he⟩, fun he => absurd he hBx⟩
  -- An id that a frame takes out of the tables is not the client's.
  have hgone {q : Ptr} {px : GrokProxy} {j : CIdT} {y : SockT} (hq : w.proxies.lookup q = some px)
      (hB : px.initiator = B) (hj : px.idToSock.lookup j = some y)
      (htables : Untabled q j y w.names w'.names) : y ≠ x ∧ (B = A → j ≠ id) := by
    have hother : w.names.Client q B j y := ⟨_, (World.proxy_names hq).1, hB, hj⟩
    have hkept := ((htables.holds p id x).mp hc'.holds).2
    constructor
    · intro hsame
      subst hsame
      obtain ⟨hpq, _, hid⟩ := hc.unique hw hx hother
      exact hkept ⟨hpq, hid⟩
    · intro hsame
      subst hsame
      intro hsame
      subst hsame
      exact hkept ⟨hc.proxy_eq hw hother, rfl⟩
  cases h with
  | message type length buffer _ hno =>
    refine .untouched hc (hmessage fun he => ?_)
    subst he
    obtain ⟨u, hu, hs⟩ := hc.user hw
    obtain ⟨t, ht, _, hid⟩ := hc
    obtain ⟨hp, hd⟩ := hno u p t id x hu hs ht hid
    exact Action.marks_message hp hd
  | granted type length buffer ha =>
    refine .untouched hc ((hmessage fun _ => ?_).trans (.of_eq (FreeGrok.gatherUser_trace ..)))
    have htype : type = grokAuth := by
      by_contra hne
      rw [Action.authorisation, if_neg fun h => hne h.1] at ha
      exact ha rfl
    subst htype
    exact Action.marks_message (FreeGrok.message_packet (by decide) length buffer id)
      (FreeGrok.message_dismisses (by decide) length buffer id)
  | delivered q t j y length buffer body ht hB hj hbody hvalue =>
    have hother : w.names.Client q B j y := ⟨t, ht, hB, hj⟩
    by_cases hy : y = x
    · subst hy
      obtain ⟨_, rfl, rfl⟩ := hc.unique hw hx hother
      subst hbody
      refine .delivered length buffer hc ?_
      rw [Loop.send_trace]
      rfl
    · refine .untouched hc ((hmessage fun he => ?_).trans (.send body
        ⟨fun _ => ⟨rfl, rfl⟩, fun he => absurd he hy⟩))
      subst he
      have hne : j ≠ id := by
        intro hsame
        subst hsame
        obtain rfl := hc.proxy_eq hw hother
        exact hy (Names.Holds.fun hother.holds hc.holds)
      exact Action.marks_message (Action.packet_other hvalue hne) Action.packet_undismissed
  | dropped q px j y o b buffer hq hB hj hvalue hly hb _ =>
    obtain ⟨hyx, hne⟩ := hgone hq hB hj ((World.untabled_tables hq y j).of_eq
      (World.dropped_tunnel _ y j hq hb))
    have hyA : y ≠ A := by
      intro hsame
      subst hsame
      obtain ⟨u, hu, hs⟩ := hc.user hw
      rw [hw.client (World.proxy_names hq).1 hj u hu] at hs
      cases hs
    refine .untouched hc (.trans (.trans (hmessage fun he => ?_) (.of_eq rfl))
      (.left o b (.of_ne hyA hyx)))
    rw [Action.marks_dismissal hvalue, if_neg (hne he)]
  | untabled q px j y buffer hq hB hj hvalue _ =>
    obtain ⟨_, hne⟩ := hgone hq hB hj (World.untabled_tables (w := w.log _) hq y j)
    refine .untouched hc (.trans (hmessage fun he => ?_) (.of_eq rfl))
    rw [Action.marks_dismissal hvalue, if_neg (hne he)]
  | replied type payload hreply _ =>
    exact .untouched hc (.untouched_frame type payload hBx fun _ => Action.marks_reply hreply)
  | touched => exact .untouched hc (.of_eq (FreeGrok.gatherUser_trace ..))
  | created sock port listeningPort _ _ _ _ =>
    exact .untouched hc (.created sock port listeningPort (.of_owner ⟨rfl, rfl⟩ hBx))
  | discarded sock port _ _ hu _ =>
    obtain ⟨hsA, hsx⟩ := hc.ne_closed hw hx hu.closed
    refine .untouched hc (.trans ?_ (.deleted _ _ [] nofun (.of_ne hsA hsx)))
    refine .trans (.created sock port 0 (.of_owner ⟨rfl, rfl⟩ hBx)) (.untouched_frame _ _ hBx ?_)
    exact fun _ => Action.marks_reply ⟨by decide, by decide, by decide⟩

/-- An announcement is a CONNECTED frame, which is queued. -/
theorem World.announced_trace (env : Env) (fd : SockT) (q : Ptr) (qx : GrokProxy) :
    ∃ later, (w.announced fd env q qx).trace = later ++ .frame qx.initiator grokConnected
        (ByteBuffer.encode cIdSize w.idPool.getId.1.toNat) :: w.trace ∧
      ∀ a ∈ later, a.fd = qx.initiator ∧ (∀ id, a.marks id = []) ∧ a.isStart = false := by
  obtain ⟨queued, htrace, hall⟩ := FStreamer.send_grows env
    ({ w with idPool := w.idPool.getId.2 }.setProxy q { qx with
      sockToId := qx.sockToId.insert fd w.idPool.getId.1
      idToSock := qx.idToSock.insert w.idPool.getId.1 fd }) qx.initiator grokConnected
    (ByteBuffer.encode cIdSize w.idPool.getId.1.toNat)
  refine ⟨.announced qx.initiator w.idPool.getId.1 _ :: queued,
    congrArg (List.cons _) htrace, fun a ha => ?_⟩
  obtain rfl | ha := List.mem_cons.mp ha
  · exact ⟨rfl, fun _ => rfl, rfl⟩
  · obtain ⟨bytes, rfl⟩ := hall a ha
    exact ⟨rfl, fun _ => rfl, rfl⟩

theorem World.announced_owner (env : Env) (fd : SockT) {q : Ptr} {qx : GrokProxy} {t' : Tunnel}
    (hq : w.proxies.lookup q = some qx) (ht' : (w.announced fd env q qx).names.tunnel p = some t') :
    ∃ t, w.names.tunnel p = some t ∧ t.initiator = t'.initiator := by
  rw [World.names_announced w fd env hq] at ht'
  dsimp only at ht'
  rw [Function.update_apply] at ht'
  split at ht'
  · next hp =>
    subst hp
    cases ht'
    exact ⟨_, (World.proxy_names hq).1, rfl⟩
  · exact ⟨t', ht', rfl⟩

/-- An announcement is the one of the client, or leaves it alone. -/
theorem World.announced_concerns {q : Ptr} {qx : GrokProxy} {fd : SockT} {before : List Action}
    (hw : w.names.Wf) (hq : w.proxies.lookup q = some qx) (hloose : Loose w.toRegistry fd)
    (htrace : fd ≠ -1 → w.trace = .accept fd :: before)
    (hc' : (w.announced fd env q qx).names.Client p A id x) (hx : x ≠ -1) :
    Concerns P w (w.announced fd env q qx) p A id x := by
  obtain ⟨ht, _⟩ := World.proxy_names hq
  have htabled := World.announced_tabled env fd hq
  have hlB := hw.initiator_linked ht
  obtain ⟨later, hsent, hall⟩ := World.announced_trace (w := w) env fd q qx
  obtain ⟨rfl, rfl, rfl⟩ | ⟨hholds, hne⟩ := (htabled.holds p id x).mp hc'.holds
  · have hA : qx.initiator = A := by
      obtain ⟨t', ht', hA, _⟩ := hc'
      obtain ⟨t, ht0, hi⟩ := World.announced_owner env x hq ht'
      cases Option.some.inj (ht.symm.trans ht0)
      exact hi.trans hA
    subst hA
    have hxA : x ≠ qx.initiator := by
      intro hsame
      subst hsame
      cases (hloose hx).2.1.symm.trans hlB
    refine .announced before later rfl (htrace hx) hxA hsent fun a ha => ?_
    obtain ⟨hfd, hmarks, hstart⟩ := hall a ha
    exact .of_owner ⟨hstart, hmarks _⟩ (hfd ▸ hxA.symm)
  · have hc : w.names.Client p A id x := by
      obtain ⟨t', ht', hA, _⟩ := hc'
      obtain ⟨t0, ht0, hi⟩ := World.announced_owner env fd hq ht'
      obtain ⟨t, ht, hid⟩ := hholds
      cases Option.some.inj (ht.symm.trans ht0)
      exact ⟨_, ht, hi.trans hA, hid⟩
    have hBx : qx.initiator ≠ x := hc.ne_linked hw hx hlB nofun
    refine .untouched hc ⟨later ++ [_], hsent.trans (by rw [List.append_assoc, List.singleton_append]),
      fun a ha => ?_⟩
    obtain ha | ha := List.mem_append.mp ha
    · obtain ⟨hfd, hmarks, hstart⟩ := hall a ha
      exact .of_owner ⟨hstart, hmarks id⟩ (hfd ▸ hBx)
    · rw [List.mem_singleton.mp ha]
      refine ⟨fun he => ⟨rfl, ?_⟩, fun he => absurd he hBx⟩
      rw [Action.marks_connected, if_neg]
      intro hsame
      subst hsame
      obtain ⟨t', ht', hA, _⟩ := hc
      exact hne ⟨hw.tunnel_one ht' ht (hA.trans he.symm), rfl⟩

/-- A main connection is torn with its proxy, and a client is left over: it is another proxy's. -/
theorem World.torn_concerns {B : SockT} {u : User} {q : Ptr} {qx : GrokProxy} {b : IObserver}
    (hw : w.names.Wf) (hlB : w.names.linked B = some .freeGrok) (hu : w.names.user B = some u)
    (hs : u.server = some q) (hq : w.proxies.lookup q = some qx)
    (hb : w.names.base .freeGrok = some b) (hc' : (w.torn B env q qx b).names.Client p A id x)
    (hx : x ≠ -1) : Concerns P w (w.torn B env q qx b) p A id x := by
  have htunnel : (w.torn B env q qx b).names.tunnel = Function.update w.names.tunnel q none := by
    rw [World.names_torn w B env hq hb]
  have hc : w.names.Client p A id x := hc'.of_shrinks (.of_new htunnel nofun)
  obtain ⟨ht, hbase⟩ := World.proxy_names hq
  have hpq : p ≠ q := by
    intro hsame
    subst hsame
    obtain ⟨t, ht', _⟩ := hc'
    rw [htunnel, Function.update_self] at ht'
    cases ht'
  have hBA : B ≠ A := by
    intro hsame
    subst hsame
    obtain ⟨v, hv, hsv⟩ := hc.user hw
    cases Option.some.inj (hu.symm.trans hv)
    exact hpq (Option.some.inj (hsv.symm.trans hs))
  obtain ⟨b', hb', hob⟩ := hw.tunnel_observed ht
  cases Option.some.inj (hbase.symm.trans hb')
  obtain ⟨hsA, hsx⟩ := hc.ne_observed hw hx (y := qx.socket) (by rw [hob]; nofun)
  refine .untouched hc (.torn q qx b (fun y hy => ?_) (.of_ne hsA hsx)
    (.of_ne hBA (hc.ne_linked hw hx hlB nofun)))
  have hmem := (env.order_perm _).mem_iff.mp hy
  have hlinked (hne : y ≠ -1) := hw.clients_linked hbase hmem hne
  refine .of_ne ?_ ?_
  · intro hsame
    subst hsame
    exact hc.owner_ne_linked hw (hlinked (hc.owner_ne hw)) nofun rfl
  · intro hsame
    subst hsame
    exact hc.ne_linked hw hx (hlinked hx) (fun he => hpq (by cases he; rfl)) rfl

/-- A client hangs up, and another one is left. -/
theorem World.hungUp_concerns {q : Ptr} {qx : GrokProxy} {y : SockT} {j : CIdT} {b : IObserver}
    (hw : w.names.Wf) (hq : w.proxies.lookup q = some qx) (hj : qx.sockToId.lookup y = some j)
    (hl : w.names.linked y = some (.grokProxy q)) (hb : w.names.base (.grokProxy q) = some b)
    (hc' : ((FreeGrok.sendDisconnected env qx.initiator j (w.untabled y q qx j)).left y
      (.grokProxy q) b).names.Client p A id x) (hx : x ≠ -1) :
    Concerns P w ((FreeGrok.sendDisconnected env qx.initiator j (w.untabled y q qx j)).left y
      (.grokProxy q) b) p A id x := by
  have htunnel := World.hungUp_tunnel env y j hq hb
  have htables := (World.untabled_tables hq y j).of_eq htunnel
  have hc : w.names.Client p A id x :=
    hc'.of_shrinks ((World.untabled_shrinks hq y j).trans (.of_eq htunnel))
  obtain ⟨ht, _⟩ := World.proxy_names hq
  have hkept := ((htables.holds p id x).mp hc'.holds).2
  have hyx : y ≠ x := by
    intro hsame
    subst hsame
    obtain ⟨hpq, hid⟩ := hw.knows_one hx (hc.knows hw hx) ⟨_, ht, hj⟩
    exact hkept ⟨hpq, hid⟩
  have hBx : qx.initiator ≠ x := hc.ne_linked hw hx (hw.initiator_linked ht) nofun
  refine .untouched hc (.hungUp q qx j b ⟨fun he => ⟨rfl, ?_⟩, fun he => absurd he hBx⟩
    (Action.untouched_queued hBx) (.of_ne (hc.owner_ne_linked hw hl nofun) hyx))
  rw [Action.marks_disconnected, if_neg]
  intro hsame
  subst hsame
  obtain ⟨t, ht', hA, _⟩ := hc
  exact hkept ⟨hw.tunnel_one ht' ht (hA.trans he.symm), rfl⟩

/-- **What an effect means for a client that has an id when it is over.** -/
theorem Effect.concerns (h : Effect env P w w') (hw : w.names.Wf)
    (hc' : w'.names.Client p A id x) (hx : x ≠ -1) : Concerns P w w' p A id x := by
  have hold (h : Shrinks w.names w'.names) : w.names.Client p A id x := hc'.of_shrinks h
  have hplain (a : Action) (hmarks : a.marks id = []) (hstart : a.isStart = false)
      (hreceived : a.received = []) (hqueued : a.queuedBytes = []) :
      Action.Untouched A id x a := ⟨fun _ => ⟨hstart, hmarks⟩, fun _ => ⟨hstart, hreceived, hqueued⟩⟩
  cases h with
  | accepted fd item hu =>
    have hc := hold (.of_eq (by rw [World.names_accepted]))
    obtain ⟨hA, hx⟩ := hc.ne_closed hw hx hu.closed
    exact .untouched hc ((Grows.log (.of_ne hA hx)).trans (.of_eq rfl))
  | refused o item _ => exact .untouched (hold (.of_eq rfl)) (.of_eq rfl)
  | parsed fd parser _ _ =>
    exact .untouched (hold (.of_eq (by rw [World.names_setParser]))) (.of_eq rfl)
  | announced q qx fd before _ _ hq hloose _ htrace =>
    exact World.announced_concerns hw hq hloose htrace hc' hx
  | admitted fd o b before _ hb _ _ _ _ =>
    exact .untouched (hold (.of_eq (by rw [World.names_admitted w fd hb])))
      (.of_eq (World.admitted_trace fd o b w))
  | flagged fd o b _ hb =>
    exact .untouched (hold (.of_eq (by rw [World.names_flagged w fd hb])))
      (.of_eq (Selector.modify_trace fd eventsR _))
  | wrote fd front rest n _ _ _ =>
    exact .untouched (hold (.of_eq (by rw [World.wrote_registry])))
      (.wrote front rest n (hplain _ rfl rfl rfl rfl))
  | writeFailed fd _ =>
    exact .untouched (hold (.of_eq (by rw [World.writeFailed_registry])))
      (.writeFailed (hplain _ rfl rfl rfl rfl))
  | readFailed fd _ _ _ =>
    exact .untouched (hold (.of_eq rfl))
      ((Grows.log (hplain _ rfl rfl rfl rfl)).trans (.of_eq rfl))
  | heard fd fd' state length u64 buffer bytes rest hl _ _ =>
    have hc := hold (.of_eq rfl)
    exact .untouched hc ((Grows.log (.of_owner ⟨rfl, rfl⟩ (hc.ne_linked hw hx hl nofun))).trans
      (.of_eq rfl))
  | command B hl hcmd => exact hcmd.concerns hl hw (hold hcmd.shrinks) hc' hx
  | relayed q t y j bytes hhear ht hj =>
    have hc := hold (.of_eq (by rw [World.names_relayed]))
    have hBx : t.initiator ≠ x := hc.ne_linked hw hx (hw.initiator_linked ht) nofun
    obtain ⟨later, htrace, hall⟩ := FStreamer.send_grows env (w.log (.recv y bytes)) t.initiator
      grokPacket (ByteBuffer.encode cIdSize j.toNat ++ bytes)
    refine .relayed q t y j bytes later hc hhear ht hj htrace fun a ha => ?_
    obtain ⟨bytes', rfl⟩ := hall a ha
    exact Action.untouched_queued hBx bytes'
  | captured y bytes _ hl =>
    have hc := hold (.of_eq rfl)
    exact .untouched hc (.log (.of_owner ⟨rfl, rfl⟩ (hc.ne_linked hw hx hl nofun)))
  | served y bytes _ hl =>
    have hc := hold (.of_eq (by rw [Loop.send_registry]))
    exact .untouched hc (.send bytes (Action.untouched_queued (hc.ne_linked hw hx hl nofun) bytes))
  | forgot fd _ _ =>
    exact .untouched (hold (.of_eq (by rw [World.names_forgot]))) (.of_eq rfl)
  | torn B u q qx b _ hlB hu hs hq hb => exact World.torn_concerns hw hlB hu hs hq hb hc' hx
  | left y o b _ hl hb hno hnone _ =>
    have hc := hold (World.left_shrinks hb)
    have hyA : y ≠ A := by
      intro hsame
      subst hsame
      obtain ⟨u, hu, hs⟩ := hc.user hw
      rw [hnone u hu] at hs
      cases hs
    exact .untouched hc (.left o b (.of_ne hyA (hc.ne_linked hw hx hl (hno p))))
  | hungUp q qx y j b _ hq hj hl hb => exact World.hungUp_concerns hw hq hj hl hb hc' hx

end

end OpenGrok
