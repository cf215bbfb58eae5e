import OpenGrok.Server.Life

/-! What an event is made of.

`Effect` lists what the code can do to the world while it handles one event, each with
what the code has tested, or the invariants say, when it does it. It is the only
account of the code that the properties of runs need: `handleEvent` is a sequence of
effects (`Loop/Refine.lean`), effects keep the names well formed (`Effect.wf`), and to
each descriptor an effect is a few moves of its life (`Effect.moves`). -/
namespace OpenGrok

/-! ### Packets in messages -/

/-- What a GROK_PACKET frame carries for the client: the bytes after the id. -/
def Action.packet (id : CIdT) : Action → Bytes
  | .message _ type length (some buffer) =>
    if type = grokPacket ∧ cIdSize < length ∧ ByteBuffer.value (buffer.take cIdSize) = id.toNat then
      (buffer.drop cIdSize).take (length - cIdSize)
    else []
  | _ => []

theorem Action.packet_message (fd : SockT) (length : Nat) (buffer : Bytes) (id : CIdT) :
    (Action.message fd grokPacket length (some buffer)).packet id =
      if cIdSize < length ∧ ByteBuffer.value (buffer.take cIdSize) = id.toNat then
        (buffer.drop cIdSize).take (length - cIdSize)
      else [] := by
  simp [Action.packet]

/-- A GROK_DISCONNECT frame for the client. -/
def Action.Dismisses (id : CIdT) : Action → Prop
  | .message _ type length (some buffer) =>
    type = grokDisconnect ∧ length = cIdSize ∧ ByteBuffer.value (buffer.take cIdSize) = id.toNat
  | _ => False

/-! ### What the parser finds -/

/-- What `on_received` makes of a complete frame: a call of `process_message`, or the error
reply to a payload it cannot decompress. -/
inductive Reaction where
  | message (type : UInt8) (length : Nat) (payload : Bytes)
  | error (code : UInt8)
  deriving DecidableEq, Repr

/-- The reactions that an action is. No other error reply has these codes. -/
def Action.reactions : Action → List Reaction
  | .message _ type length buffer => [.message type length (buffer.getD [])]
  | .frame _ type payload =>
    if type = grokError ∧ payload = [decompressionError] then [.error decompressionError]
    else if type = grokError ∧ payload = [tooLongBuffer] then [.error tooLongBuffer]
    else []
  | _ => []

/-- A reply of the main server to a frame: no frame that concerns a client. -/
def IsReply (type : UInt8) : Prop := type ≠ grokPacket ∧ type ≠ grokConnected ∧ type ≠ grokDisconnect

/-! ### Effects -/

/-- A descriptor that no one has a claim to: open, and neither linked nor observed. -/
def Loose (r : Registry) (fd : SockT) : Prop :=
  fd ≠ -1 → r.names.opened fd ≠ none ∧ r.names.linked fd = none ∧ r.names.observer fd = none

/-- What an environment promises about an event, besides what `Promise` says of views. -/
structure Terms extends Promise where
  /-- The event may be a HUP or RDHUP. -/
  hangUp : Prop
  /-- `accept` may fail for the observer. -/
  refuse : ObserverPtr → Prop
  /-- The id is drawn for a new client of the proxy. -/
  draw : GrokProxy → CIdT → Prop
  /-- `tcp_recv` on a client of a proxy delivers the bytes. -/
  hear : SockT → View → Bytes → Prop
  /-- The event may be the HTTP client's own. -/
  answer : SockT → Prop

/-- What a frame of the main connection `A` can do, and how the parser's reactions tell. -/
inductive Command (env : Env) (P : Terms) (A : SockT) (w : World) : List Reaction → World → Prop where
  | message (type : UInt8) (length : Nat) (buffer : Option Bytes) :
      (Action.message A type length buffer).authorisation env.magic = [] →
      (∀ u p t id x, w.names.user A = some u → u.server = some p → w.names.tunnel p = some t →
        t.idToSock.lookup id = some x → (Action.message A type length buffer).packet id = [] ∧
          ¬(Action.message A type length buffer).Dismisses id) →
      Command env P A w (Action.message A type length buffer).reactions
        (w.log (.message A type length buffer))
  | granted (type : UInt8) (length : Nat) (buffer : Option Bytes) :
      (Action.message A type length buffer).authorisation env.magic ≠ [] →
      Command env P A w (Action.message A type length buffer).reactions
        ((w.log (.message A type length buffer)).granted A)
  | delivered (p : Ptr) (t : Tunnel) (id : CIdT) (x : SockT) (length : Nat)
      (buffer body : Bytes) : w.names.tunnel p = some t →
      t.initiator = A → t.idToSock.lookup id = some x →
      (Action.message A grokPacket length (some buffer)).packet id = body →
      ByteBuffer.value (buffer.take cIdSize) = id.toNat →
      Command env P A w (Action.message A grokPacket length (some buffer)).reactions
        (Loop.send x body (w.log (.message A grokPacket length (some buffer))))
  | dropped (p : Ptr) (px : GrokProxy) (id : CIdT) (x : SockT) (o : ObserverPtr) (b : IObserver)
      (buffer : Bytes) : w.proxies.lookup p = some px → px.initiator = A →
      px.idToSock.lookup id = some x →
      ByteBuffer.value (buffer.take cIdSize) = id.toNat →
      w.names.linked x = some o → w.names.base o = some b → P.drop x (w.view x) →
      Command env P A w (Action.message A grokDisconnect cIdSize (some buffer)).reactions
        (((w.log (.message A grokDisconnect cIdSize (some buffer))).untabled x p px id).left x o b)
  | untabled (p : Ptr) (px : GrokProxy) (id : CIdT) (x : SockT) (buffer : Bytes) :
      w.proxies.lookup p = some px → px.initiator = A → px.idToSock.lookup id = some x →
      ByteBuffer.value (buffer.take cIdSize) = id.toNat → w.names.linked x = none →
      Command env P A w (Action.message A grokDisconnect cIdSize (some buffer)).reactions
        ((w.log (.message A grokDisconnect cIdSize (some buffer))).untabled x p px id)
  | replied (type : UInt8) (payload : Bytes) {said : List Reaction} : IsReply type →
      (Action.frame A type payload).reactions = said →
      Command env P A w said (FStreamer.send env A type payload w)
  | touched : Command env P A w [] (FreeGrok.gatherUser A w).2
  | created (sock : SockT) (port listeningPort : UInt16) : A ≠ -1 →
      (∀ u, w.names.user A = some u → u.server = none) → Unused w.toRegistry sock →
      (port ≠ 0 → ((w.names.user A).getD {}).canSelectPort = true) →
      Command env P A w [] (w.created A sock port listeningPort)
  | discarded (sock : SockT) (port : UInt16) : A ≠ -1 →
      (∀ u, w.names.user A = some u → u.server = none) → Unused w.toRegistry sock →
      (port ≠ 0 → ((w.names.user A).getD {}).canSelectPort = true) →
      Command env P A w [] ((FStreamer.send env A grokError [internalServerError]
        (w.created A sock port 0)).deleted w.nextProxy { socket := sock } [])

/-- What an event can do. -/
inductive Effect (env : Env) (P : Terms) (w : World) : World → Prop where
  -- accepting
  | accepted (fd : SockT) (item : ReadItem) : Unused w.toRegistry fd →
      Effect env P w (w.accepted fd item)
  | refused (o : ObserverPtr) (item : ReadItem) : P.refuse o →
      Effect env P w (Loop.pushRead (-1) item w)
  | parsed (fd : SockT) (parser : StreamingParser) : parser.u64 = fd →
      Loose w.toRegistry fd ∨ P.answer fd → Effect env P w (HttpInterface.setParser fd parser w)
  | announced (p : Ptr) (px : GrokProxy) (fd : SockT) (before : List Action) :
      (fd = -1 → P.refuse (.grokProxy p)) →
      P.draw px w.idPool.getId.1 → w.proxies.lookup p = some px → Loose w.toRegistry fd →
      (∀ q t, fd ≠ -1 → w.names.tunnel q = some t → t.sockToId.lookup fd = none) →
      (fd ≠ -1 → w.trace = .accept fd :: before) →
      Effect env P w (w.announced fd env p px)
  | admitted (fd : SockT) (o : ObserverPtr) (b : IObserver) (before : List Action) :
      (fd = -1 → P.refuse o) → w.names.base o = some b → Loose w.toRegistry fd →
      (∀ p t id, fd ≠ -1 → w.names.tunnel p = some t → t.sockToId.lookup fd = some id →
        o = .grokProxy p) →
      (∀ p, o = .grokProxy p → ∃ t id, w.names.tunnel p = some t ∧ t.sockToId.lookup fd = some id) →
      (fd ≠ -1 → (w.view fd).queues = { read := [opening fd o] } ∧ (w.view fd).interest = none ∧
        (w.view fd).history = .accept fd :: before) →
      Effect env P w (w.admitted fd o b)
  | flagged (fd : SockT) (o : ObserverPtr) (b : IObserver) : w.names.observer fd = some o →
      w.names.base o = some b →
      Effect env P w (Selector.modify fd eventsR (w.setObserver o { b with isConnected := true }))
  -- reading and writing
  | wrote (fd : SockT) (front : WriteItem) (rest : List WriteItem) (n : Nat) :
      (w.view fd).queues.write = front :: rest → 0 < n → front.sent + n ≤ front.buffer.length →
      Effect env P w (w.wrote fd front rest n)
  | writeFailed (fd : SockT) : (w.view fd).queues.write ≠ [] → Effect env P w (w.writeFailed fd)
  | readFailed (fd : SockT) : w.names.linked fd = some .freeGrok → (w.view fd).queues.read ≠ [] →
      P.fail fd (w.view fd) → Effect env P w (Loop.clearAll fd (w.log (.recvFailed fd)))
  | heard (fd fd' : SockT) (state : PacketState) (length u64 : Nat) (buffer bytes : Bytes)
      (rest : List ReadItem) : w.names.linked fd = some .freeGrok →
      (w.view fd).queues.read = .read fd' state length u64 buffer :: rest →
      buffer.length + bytes.length < length →
      Effect env P w (w.heard fd (.read fd' state length u64 (buffer ++ bytes)) rest bytes)
  -- a frame of a main connection
  | command (A : SockT) {said : List Reaction} {w' : World} : w.names.linked A = some .freeGrok →
      Command env P A w said w' → Effect env P w w'
  -- data of clients
  | relayed (p : Ptr) (t : Tunnel) (x : SockT) (id : CIdT) (bytes : Bytes) :
      P.hear x (w.view x) bytes → w.names.tunnel p = some t → t.sockToId.lookup x = some id →
      Effect env P w (FreeGrok.sendPacket env t.initiator id bytes (w.log (.recv x bytes)))
  | captured (x : SockT) (bytes : Bytes) : P.answer x → w.names.linked x = some .httpInterface →
      Effect env P w (w.log (.recv x bytes))
  | served (x : SockT) (bytes : Bytes) : P.answer x → w.names.linked x = some .httpInterface →
      Effect env P w (Loop.send x bytes w)
  -- closing
  | forgot (fd : SockT) : P.hangUp → P.answer fd → Effect env P w (w.forgot fd)
  | torn (A : SockT) (u : User) (p : Ptr) (px : GrokProxy) (b : IObserver) : P.hangUp →
      w.names.linked A = some .freeGrok → w.names.user A = some u → u.server = some p →
      w.proxies.lookup p = some px → w.names.base .freeGrok = some b →
      Effect env P w (w.torn A env p px b)
  | left (x : SockT) (o : ObserverPtr) (b : IObserver) : P.hangUp → w.names.linked x = some o →
      w.names.base o = some b → (∀ p, o ≠ .grokProxy p) →
      (∀ u, w.names.user x = some u → u.server = none) →
      (o = .freeGrok → P.leave x (w.view x)) → Effect env P w (w.left x o b)
  | hungUp (p : Ptr) (px : GrokProxy) (x : SockT) (id : CIdT) (b : IObserver) : P.hangUp →
      w.proxies.lookup p = some px → px.sockToId.lookup x = some id →
      w.names.linked x = some (.grokProxy p) → w.names.base (.grokProxy p) = some b →
      Effect env P w ((FreeGrok.sendDisconnected env px.initiator id
        (w.untabled x p px id)).left x (.grokProxy p) b)

abbrev Effects (env : Env) (P : Terms) : World → World → Prop :=
  Relation.ReflTransGen (Effect env P)

/-- What frames of the main connection do, with all that the parser made of them. -/
inductive Commands (env : Env) (P : Terms) (A : SockT) (w : World) : List Reaction → World → Prop
  where
  | refl : Commands env P A w [] w
  | tail {said said' : List Reaction} {w' w'' : World} : Commands env P A w said w' →
      Command env P A w' said' w'' → Commands env P A w (said ++ said') w''

namespace Commands
variable {env : Env} {P : Terms} {A : SockT} {w w' w'' : World} {said said' : List Reaction}

theorem single (h : Command env P A w said w') : Commands env P A w said w' :=
  .tail .refl h

theorem trans (h : Commands env P A w said w') (h' : Commands env P A w' said' w'') :
    Commands env P A w (said ++ said') w'' := by
  induction h' with
  | refl =>
    rw [List.append_nil]
    exact h
  | tail _ hc ih =>
    rw [← List.append_assoc]
    exact ih.tail hc

theorem head (h : Command env P A w said w') (h' : Commands env P A w' said' w'') :
    Commands env P A w (said ++ said') w'' :=
  (single h).trans h'

end Commands

/-! ### Effects keep the names well formed -/

section
variable {env : Env} {P : Terms} {A : SockT} {w w' : World}

theorem World.proxy_names {p : Ptr} {px : GrokProxy} (h : w.proxies.lookup p = some px) :
    w.names.tunnel p = some px.toTunnel ∧ w.names.base (.grokProxy p) = some px.toIObserver := by
  simp [Registry.names, Registry.base, h]

/-- A proxy's client that is linked at all is linked to the proxy, and is no user with a server. -/
theorem Names.Wf.client {n : Names} (h : n.Wf) {p : Ptr} {t : Tunnel} {id : CIdT} {x : SockT}
    (ht : n.tunnel p = some t) (hid : t.idToSock.lookup id = some x) :
    ∀ u, n.user x = some u → u.server = none := by
  intro u hu
  cases hs : u.server with
  | none => rfl
  | some q =>
    have hl := h.server_linked hu hs
    have hne := h.server_valid hu hs
    cases h.sock_linked ht (h.id_sock ht hid hne) hne hl

/-- Taking a client out of its proxy's tables leaves it in none. -/
theorem Names.Wf.untable_one {n : Names} (h : n.Wf) {p : Ptr} {t : Tunnel} {id : CIdT} {x : SockT}
    (ht : n.tunnel p = some t) (hx : x ≠ -1 → t.sockToId.lookup x = some id) :
    Names.Wf { n with tunnel := Function.update n.tunnel p (some { t with
      sockToId := t.sockToId.erase x
      idToSock := t.idToSock.erase id }) } := by
  refine h.untable (fun q hq => ?_) fun q t' ht' => ?_
  · rw [Function.update_apply] at hq
    split at hq
    · cases hq
    · exact hq
  · rw [Function.update_apply] at ht'
    split at ht'
    · next hq =>
      cases ht'
      subst hq
      refine ⟨t, ht, rfl, fun y j hy => ?_, fun y j hy hne => ?_⟩
      · rw [Table.lookup_erase_ite] at hy
        split at hy
        · cases hy
        · exact hy
      · rw [Table.lookup_erase_ite] at hy ⊢
        split at hy
        · cases hy
        · next hj =>
          have hold := h.id_sock ht hy hne
          have hyx : y ≠ x := by
            intro hsame
            subst hsame
            rw [hx hne] at hold
            cases hold
            exact hj rfl
          rw [if_neg hyx, hold]
    · exact ⟨t', ht', rfl, fun _ _ hy => hy, fun _ _ hy hne => h.id_sock ht' hy hne⟩

/-- A client that is in no table but its proxy's is in none once it is taken out of that. -/
theorem Names.Wf.in_no_table {n : Names} (h : n.Wf) {p : Ptr} {t : Tunnel} {id : CIdT} {x : SockT}
    (ht : n.tunnel p = some t) (hx : x ≠ -1 → t.sockToId.lookup x = some id) :
    ∀ q u, x ≠ -1 → Function.update n.tunnel p (some { t with
      sockToId := t.sockToId.erase x
      idToSock := t.idToSock.erase id }) q = some u → u.sockToId.lookup x = none := by
  intro q u hne hu
  rw [Function.update_apply] at hu
  split at hu
  · cases hu
    rw [Table.lookup_erase_ite, if_pos rfl]
  · next hq =>
    cases hl : u.sockToId.lookup x with
    | none => rfl
    | some j => exact absurd (h.sock_one hu ht hl (hx hne) hne) hq

private theorem server_getD (user : Option User) (p : Ptr) :
    (user.getD {}).server = some p ↔ ∃ u, user = some u ∧ u.server = some p := by
  cases user <;> simp

/-- A client leaves a world that has it in no table. -/
theorem World.left_wf {x : SockT} {o : ObserverPtr} {b : IObserver} (hw : w.names.Wf)
    (hl : w.names.linked x = some o) (hb : w.names.base o = some b)
    (hu : ∀ u, w.names.user x = some u → u.server = none)
    (ht : ∀ p t, x ≠ -1 → w.names.tunnel p = some t → t.sockToId.lookup x = none) :
    (w.left x o b).names.Wf := by
  rw [World.names_left w x hb]
  exact hw.leave hb hl hu ht

theorem World.untabled_wf {p : Ptr} {px : GrokProxy} {id : CIdT} {x : SockT} (hw : w.names.Wf)
    (hp : w.proxies.lookup p = some px) (hx : x ≠ -1 → px.sockToId.lookup x = some id) :
    (w.untabled x p px id).names.Wf := by
  rw [World.names_untabled w x hp]
  exact hw.untable_one (World.proxy_names hp).1 hx

/-- A client is taken out of its proxy's tables and leaves. -/
theorem World.untabled_left_wf {v : World} {p : Ptr} {px : GrokProxy} {id : CIdT} {x : SockT}
    {o : ObserverPtr} {b : IObserver} (hw : w.names.Wf) (hp : w.proxies.lookup p = some px)
    (hx : x ≠ -1 → px.sockToId.lookup x = some id) (hl : w.names.linked x = some o)
    (hb : w.names.base o = some b) (hu : ∀ u, w.names.user x = some u → u.server = none)
    (hv : v.toRegistry = (w.untabled x p px id).toRegistry) : (v.left x o b).names.Wf := by
  have hn : v.names = _ := (congrArg Registry.names hv).trans (World.names_untabled w x hp id)
  have hp' := (World.proxy_names hp).1
  refine World.left_wf ?_ ?_ ?_ ?_ ?_
  · rw [hv]
    exact World.untabled_wf hw hp hx
  · rw [hn]
    exact hl
  · rw [hn]
    exact hb
  · rw [hn]
    exact hu
  · rw [hn]
    exact hw.in_no_table hp' hx

/-- A proxy whose clients are all known is deleted. -/
theorem World.deleted_wf {p : Ptr} {b : IObserver} {l : List SockT} (hw : w.names.Wf)
    (hb : w.names.base (.grokProxy p) = some b) (hl : ∀ x, x ∈ l ↔ x ∈ b.clients) :
    (w.deleted p b l).names.Wf := by
  obtain ⟨t, ht⟩ := Option.ne_none_iff_exists'.mp (hw.base_tunnel hb)
  have hgone : (fun x => if x = b.socket ∨ x ∈ l ∧ w.names.linked x ≠ none then none
      else w.names.opened x) =
      fun x => if x = b.socket ∨ x ∈ b.clients then none else w.names.opened x := by
    funext x
    by_cases hs : x = b.socket
    · rw [if_pos (.inl hs), if_pos (.inl hs)]
    · by_cases hx : x ∈ b.clients
      · have hright : x = b.socket ∨ x ∈ b.clients := .inr hx
        rw [if_pos hright]
        by_cases hne : x = -1
        · subst hne
          rw [hw.open_neg, ite_self]
        · have hlink := hw.clients_linked hb hx hne
          have hleft : x = b.socket ∨ x ∈ l ∧ w.names.linked x ≠ none :=
            .inr ⟨(hl x).mpr hx, by simp [hlink]⟩
          rw [if_pos hleft]
      · have hleft : ¬(x = b.socket ∨ x ∈ l ∧ w.names.linked x ≠ none) := by simp [hs, hl, hx]
        have hright : ¬(x = b.socket ∨ x ∈ b.clients) := by simp [hs, hx]
        rw [if_neg hleft, if_neg hright]
  have hlinked : (fun x => if x ∈ l then none else w.names.linked x) =
      fun x => if x ∈ b.clients then none else w.names.linked x := by
    funext x
    simp only [hl]
  rw [World.names_deleted w hb, hgone, hlinked]
  exact hw.delete ht hb (fun _ => Iff.rfl) (fun _ _ hu => hu) fun _ _ => rfl

/-- A proxy's tables are emptied. -/
theorem World.shutDown_wf {p : Ptr} {px : GrokProxy} (hw : w.names.Wf)
    (hp : w.proxies.lookup p = some px) (idPool : IdPool) : (w.shutDown p px idPool).names.Wf := by
  have ht := (World.proxy_names hp).1
  rw [World.names_shutDown w hp]
  refine hw.untable (fun q hq => ?_) fun q t' ht' => ?_
  · rw [Function.update_apply] at hq
    split at hq
    · cases hq
    · exact hq
  · rw [Function.update_apply] at ht'
    split at ht'
    · next hq =>
      cases ht'
      subst hq
      exact ⟨_, ht, rfl, by simp, by simp⟩
    · exact ⟨t', ht', rfl, fun _ _ hy => hy, fun _ _ hy hne => hw.id_sock ht' hy hne⟩

/-- A main connection leaves with its proxy. -/
theorem World.torn_wf {A : SockT} {u : User} {p : Ptr} {px : GrokProxy} {b : IObserver}
    (hw : w.names.Wf) (hl : w.names.linked A = some .freeGrok) (hu : w.names.user A = some u)
    (hserver : u.server = some p) (hp : w.proxies.lookup p = some px)
    (hb : w.names.base .freeGrok = some b) : (w.torn A env p px b).names.Wf := by
  obtain ⟨ht, hpx⟩ := World.proxy_names hp
  have hshut := World.names_shutDown w hp (w.idPool.release (px.heldIds env))
  have hw1 := World.shutDown_wf hw hp (w.idPool.release (px.heldIds env))
  have hpx1 := World.base_shutDown w hp (w.idPool.release (px.heldIds env))
  have hw2 := World.deleted_wf (l := env.order px.clients.keys) hw1 hpx1
    fun x => (env.order_perm _).mem_iff
  have hdeleted := World.names_deleted _ hpx1 (env.order px.clients.keys)
  have hremoved := World.names_removeUser ((w.shutDown p px
    (w.idPool.release (px.heldIds env))).deleted p px.toIObserver (env.order px.clients.keys)) A
  have hclient : A ∉ env.order px.clients.keys := by
    intro hx
    have hx : A ∈ px.clients := (env.order_perm _).mem_iff.mp hx
    cases hl.symm.trans (hw.clients_linked hpx hx (hw.server_valid hu hserver))
  have hlinked : (((w.shutDown p px (w.idPool.release (px.heldIds env))).deleted p px.toIObserver
      (env.order px.clients.keys))).names.linked A = some .freeGrok := by
    rw [hdeleted, hshut]
    exact (if_neg hclient).trans hl
  refine World.left_wf ?_ ?_ ?_ ?_ ?_
  · rw [hremoved]
    refine hw2.remove_user fun q t hq => ?_
    rw [hdeleted, hshut] at hq
    dsimp only at hq
    rw [Function.update_idem, Function.update_apply] at hq
    split at hq
    · cases hq
    · next hne =>
      obtain ⟨u', hu', hs'⟩ := hw.owner hq
      intro hsame
      subst hsame
      rw [hu] at hu'
      cases hu'
      exact hne (Option.some.inj (hs'.symm.trans hserver))
  · rw [hremoved]
    exact hlinked
  · rw [hremoved, hdeleted, hshut]
    exact hb
  · rw [hremoved]
    simp
  · rw [hremoved]
    intro q t hne hq
    cases hx : t.sockToId.lookup A with
    | none => rfl
    | some id => cases hw2.sock_linked hq hx hne hlinked

/-- A main connection without a server gets a proxy. -/
theorem World.created_wf {A sock : SockT} (hw : w.names.Wf) (hl : w.names.linked A = some .freeGrok)
    (hA : A ≠ -1) (hno : ∀ u, w.names.user A = some u → u.server = none)
    (hu : Unused w.toRegistry sock) (port listeningPort : UInt16) :
    (w.created A sock port listeningPort).names.Wf := by
  rw [World.names_created]
  exact hw.create _ hl hA hno rfl hu.nonneg hu.closed ⟨rfl, rfl, rfl⟩ ⟨rfl, rfl, rfl⟩

theorem Command.wf {said : List Reaction} (h : Command env P A w said w')
    (hl : w.names.linked A = some .freeGrok) (hw : w.names.Wf) : w'.names.Wf := by
  cases h with
  | message type length buffer _ _ => exact hw
  | granted type length buffer _ =>
    rw [World.names_granted]
    exact hw.set_user fun p => server_getD _ p
  | delivered p t id x length buffer body _ _ _ _ _ =>
    rw [Loop.send_registry]
    exact hw
  | dropped p px id x o b buffer hp _ hid _ hlx hb _ =>
    have ht := (World.proxy_names hp).1
    exact World.untabled_left_wf hw hp (hw.id_sock ht hid) hlx hb (hw.client ht hid) rfl
  | untabled p px id x buffer hp _ hid _ _ =>
    exact World.untabled_wf (w := w.log _) hw hp (hw.id_sock (World.proxy_names hp).1 hid)
  | replied type payload _ _ =>
    rw [FStreamer.send_registry]
    exact hw
  | touched =>
    rw [World.names_gatherUser]
    exact hw.set_user fun p => server_getD _ p
  | created sock port listeningPort hA hno hu _ =>
    exact World.created_wf hw hl hA hno hu port listeningPort
  | discarded sock port hA hno hu _ =>
    refine World.deleted_wf ?_ ?_ fun x => by simp
    · rw [FStreamer.send_registry]
      exact World.created_wf hw hl hA hno hu port 0
    · rw [FStreamer.send_registry, World.names_created]
      exact Function.update_self ..

theorem Effect.wf (h : Effect env P w w') (hw : w.names.Wf) : w'.names.Wf := by
  cases h with
  | accepted fd item hu =>
    rw [World.names_accepted]
    exact hw.open_sock hu.nonneg hu.int _
  | refused o item _ => exact hw
  | parsed fd parser hp _ =>
    rw [World.names_setParser]
    refine hw.update_parsed fun ps hps => ?_
    cases hps
    exact hp
  | announced p px fd before _ _ hp hloose htab _ =>
    rw [World.names_announced w fd env hp]
    refine hw.table _ (World.proxy_names hp).1 fun hne => ?_
    obtain ⟨ho, hl, hob⟩ := hloose hne
    exact ⟨ho, hl, hob, fun q u hu => htab q u hne hu⟩
  | admitted fd o b before _ hb hloose htab _ _ =>
    rw [World.names_admitted w fd hb]
    refine hw.link hb fun hne => ?_
    obtain ⟨ho, hl, hob⟩ := hloose hne
    exact ⟨ho, hl, hob, fun p t id => htab p t id hne⟩
  | flagged fd o b ho hb =>
    rw [World.names_flagged w fd hb]
    exact hw.set_base hb rfl rfl rfl
  | wrote fd front rest n _ _ _ =>
    rw [World.wrote_registry]
    exact hw
  | writeFailed fd _ =>
    rw [World.writeFailed_registry]
    exact hw
  | readFailed fd _ _ _ => exact hw
  | heard fd fd' state length u64 buffer bytes rest _ _ _ => exact hw
  | command A hl hc => exact hc.wf hl hw
  | relayed p t x id bytes _ _ _ =>
    rw [World.names_relayed]
    exact hw
  | captured x bytes _ _ => exact hw
  | served x bytes _ _ =>
    rw [Loop.send_registry]
    exact hw
  | forgot fd _ _ =>
    rw [World.names_forgot]
    exact hw.update_parsed fun _ hparser => by cases hparser
  | torn A u p px b _ hl hu hs hp hb => exact World.torn_wf hw hl hu hs hp hb
  | left x o b _ hl hb ho hs _ =>
    refine World.left_wf hw hl hb hs fun p t hne ht => ?_
    cases hx : t.sockToId.lookup x with
    | none => rfl
    | some id => exact absurd (hw.sock_linked ht hx hne hl) (ho p)
  | hungUp p px x id b _ hp hid hl hb =>
    have hu : ∀ u, w.names.user x = some u → u.server = none := by
      intro u hu
      cases hs : u.server with
      | none => rfl
      | some q =>
        rw [hw.server_linked hu hs] at hl
        cases hl
    exact World.untabled_left_wf hw hp (fun _ => hid) hl hb hu (FStreamer.send_registry ..)

/-! ### Effects are moves of each descriptor -/

theorem Moves.sends {magic : Bytes} {Q : Promise} {x : SockT} {v : View} (chunks : List Bytes)
    (ho : v.opened ≠ none) (hob : v.observer = none) :
    Moves magic Q x v (chunks.foldl (fun v chunk => v.send x chunk) v) := by
  induction chunks generalizing v with
  | nil => exact .refl
  | cons chunk rest ih =>
    refine .head (.queued chunk ho hob) (ih ?_ ?_)
    · rwa [View.send_eq]
    · rwa [View.send_eq]

theorem Moves.frame {magic : Bytes} {Q : Promise} {x : SockT} {v : View} (env : Env) (type : UInt8)
    (payload : Bytes) (ho : v.opened ≠ none) (hob : v.observer = none) :
    Moves magic Q x v (v.frame env x type payload) :=
  .head (.note (.frame x type payload) trivial) (Moves.sends _ ho hob)

/-- An update of one descriptor's view moves every view, if it moves that one. -/
theorem Moves.ite {magic : Bytes} {Q : Promise} {x fd : SockT} {v v' : View}
    (h : x = fd → Moves magic Q x v v') : Moves magic Q x v (if x = fd then v' else v) := by
  split
  · next hx => exact h hx
  · exact .refl

/-- A connection that is linked is open, and no listener. -/
theorem Names.Wf.linked_open {n : Names} (h : n.Wf) {x : SockT} {o : ObserverPtr} (hne : x ≠ -1)
    (hl : n.linked x = some o) : n.opened x ≠ none ∧ n.observer x = none := by
  constructor
  · intro ho
    rw [h.closed hne ho] at hl
    cases hl
  · cases hob : n.observer x with
    | none => rfl
    | some o' =>
      rw [h.observer_unlinked hob] at hl
      cases hl

/-- A proxy that exists was made for a main connection that is still linked. -/
theorem Names.Wf.initiator_linked {n : Names} (h : n.Wf) {p : Ptr} {t : Tunnel}
    (ht : n.tunnel p = some t) : n.linked t.initiator = some .freeGrok := by
  obtain ⟨u, hu, hs⟩ := h.owner ht
  exact h.server_linked hu hs

/-- A client of a proxy is not a main connection. -/
theorem Names.Wf.client_ne {n : Names} (h : n.Wf) {p : Ptr} {t : Tunnel} {id : CIdT} {x : SockT}
    (ht : n.tunnel p = some t) (hid : t.idToSock.lookup id = some x) (hA : A ≠ -1)
    (hl : n.linked A = some .freeGrok) : A ≠ x := by
  intro hsame
  subst hsame
  cases h.sock_linked ht (h.id_sock ht hid hA) hA hl

theorem Names.Wf.ne_unused {r : Registry} (h : r.names.Wf) {x : SockT} {o : ObserverPtr}
    (hl : r.names.linked A = some o) (hu : Unused r x) : A ≠ x := by
  intro hsame
  subst hsame
  have hne : A ≠ -1 := by
    intro hsame
    subst hsame
    exact absurd hu.nonneg (by decide)
  have hclosed : r.names.opened A = none := hu.closed
  rw [h.closed hne hclosed] at hl
  cases hl

variable {magic : Bytes} {Q : Promise}

theorem World.created_moves {sock x : SockT} {port : UInt16} (hw : w.names.Wf)
    (hl : w.names.linked A = some .freeGrok) (hu : Unused w.toRegistry sock)
    (hport : port ≠ 0 → ((w.names.user A).getD {}).canSelectPort = true) (listeningPort : UInt16) :
    Moves magic Q x (w.view x) ((w.created A sock port listeningPort).view x) := by
  have hA := hw.ne_unused hl hu
  rw [World.view_created _ _ _ hA]
  split
  · next he =>
    subst he
    refine .single (.served w.nextProxy port.toNat hl fun hne => hport ?_)
    intro hsame
    subst hsame
    exact hne rfl
  · refine Moves.ite fun he => .single ?_
    subst he
    exact .listened _ _ hu.closed

theorem World.deleted_moves {p : Ptr} {b : IObserver} {l : List SockT} {x : SockT}
    (hw : w.names.Wf) (hx : x ≠ -1) (hb : w.names.base (.grokProxy p) = some b)
    (hl : ∀ x, x ∈ l → x ∈ b.clients) :
    Moves magic Q x (w.view x) ((w.deleted p b l).view x) := by
  obtain ⟨t, ht⟩ := Option.ne_none_iff_exists'.mp (hw.base_tunnel hb)
  obtain ⟨b', hb', hob⟩ := hw.tunnel_observed ht
  rw [hb] at hb'
  cases hb'
  rw [World.view_deleted, World.view_detachedAll]
  have hlink : (w.view x).linked = w.names.linked x := rfl
  by_cases hs : x = b.socket
  · have hnone : (w.view x).linked = none := hs ▸ hw.observer_unlinked hob
    have hobs : (w.view x).observer = some (.grokProxy p) := hs ▸ hob
    rw [if_pos hs, if_neg (by simp [hnone])]
    exact .single (.unlistened (by simp [hobs]))
  · rw [if_neg hs]
    split
    · next hgone =>
      refine .single (.gone hgone.2 fun hfree => ?_)
      rw [hlink, hw.clients_linked hb (hl x hgone.1) hx] at hfree
      cases hfree
    · exact .refl

theorem World.torn_moves {env : Env} {A : SockT} {p : Ptr} {px : GrokProxy} {b : IObserver}
    {x : SockT} (hw : w.names.Wf) (hx : x ≠ -1) (hl : w.names.linked A = some .freeGrok)
    (hp : w.proxies.lookup p = some px) :
    Moves magic Q x (w.view x) ((w.torn A env p px b).view x) := by
  obtain ⟨ht, hpx⟩ := World.proxy_names hp
  have hview (y : SockT) : ((w.shutDown p px (w.idPool.release (px.heldIds env))).deleted p
      px.toIObserver (env.order px.clients.keys)).view y =
      (w.deleted p px.toIObserver (env.order px.clients.keys)).view y := by
    rw [World.view_deleted, World.view_deleted, World.view_detachedAll, World.view_detachedAll,
      World.view_shutDown]
  have hdeleted : Moves magic Q x (w.view x)
      ((w.deleted p px.toIObserver (env.order px.clients.keys)).view x) :=
    World.deleted_moves hw hx hpx fun y hy => (env.order_perm _).mem_iff.mp hy
  rw [World.view_torn, hview]
  split
  · next he =>
    subst he
    refine hdeleted.tail (.retired ?_)
    have hnames := World.names_deleted w hpx (env.order px.clients.keys)
    show (w.deleted p px.toIObserver (env.order px.clients.keys)).names.linked x = _
    have hclient : x ∉ env.order px.clients.keys := by
      intro hmem
      have hmem : x ∈ px.clients := (env.order_perm _).mem_iff.mp hmem
      cases hl.symm.trans (hw.clients_linked hpx hmem hx)
    rw [hnames]
    exact (if_neg hclient).trans hl
  · exact hdeleted

theorem Command.moves {said : List Reaction} (h : Command env P A w said w')
    (hl : w.names.linked A = some .freeGrok) (hw : w.names.Wf) {x : SockT} (hx : x ≠ -1) :
    Moves env.magic P.toPromise x (w.view x) (w'.view x) := by
  have hopen (he : x = A) : (w.view x).opened ≠ none ∧ (w.view x).observer = none := by
    subst he
    exact hw.linked_open hx hl
  cases h with
  | message type length buffer ha _ =>
    rw [World.view_log]
    refine Moves.ite fun he => .single ?_
    subst he
    exact .message type length buffer hl ha
  | granted type length buffer ha =>
    by_cases he : x = A
    · subst he
      have hlog := w.view_log_self (a := .message x type length buffer) (x := x) rfl
      rw [World.view_granted, if_pos rfl, hlog]
      exact .single (.authorised type length buffer hl ha)
    · rw [World.view_granted, if_neg he, World.view_log_other w he]
  | delivered p t id y length buffer body ht hA hid _ _ =>
    have hlog : Moves env.magic P.toPromise x (w.view x)
        ((w.log (.message A grokPacket length (some buffer))).view x) := by
      rw [World.view_log]
      refine Moves.ite fun he => .single ?_
      subst he
      exact .message _ _ _ hl (by simp [Action.authorisation, grokPacket, grokAuth])
    refine hlog.trans ?_
    rw [World.view_send]
    refine Moves.ite fun he => .single ?_
    subst he
    have hs := hw.id_sock ht hid hx
    have ho := hw.sock_open ht hs hx
    have hob := hw.sock_unobserved ht hs hx
    exact .queued body ho hob
  | dropped p px id y o b buffer hp hA hid _ hly hb hP =>
    have hlog : Moves env.magic P.toPromise x (w.view x)
        ((w.log (.message A grokDisconnect cIdSize (some buffer))).view x) := by
      rw [World.view_log]
      refine Moves.ite fun he => .single ?_
      subst he
      exact .message _ _ _ hl (by simp [Action.authorisation, grokDisconnect, grokAuth])
    refine hlog.trans ?_
    rw [World.view_left, World.view_untabled]
    refine Moves.ite fun he => .single ?_
    subst he
    have ht := (World.proxy_names hp).1
    have hlink : ((w.log (.message A grokDisconnect cIdSize (some buffer))).view x).linked = some o := by
      rw [World.view_log]
      split <;> exact hly
    refine .gone (by rw [hlink]; nofun) fun hfree => ?_
    rw [hlink] at hfree
    cases hfree
    cases hw.sock_linked ht (hw.id_sock ht hid hx) hx hly
  | untabled p px id y buffer _ _ _ _ _ =>
    rw [World.view_untabled, World.view_log]
    refine Moves.ite fun he => .single ?_
    subst he
    exact .message _ _ _ hl (by simp [Action.authorisation, grokDisconnect, grokAuth])
  | replied type payload _ _ =>
    rw [World.view_frame]
    refine Moves.ite fun he => ?_
    obtain ⟨ho, hob⟩ := hopen he
    subst he
    exact Moves.frame _ _ _ ho hob
  | touched =>
    rw [World.view_gatherUser]
    refine Moves.ite fun he => .single ?_
    subst he
    exact .touched hl
  | created sock port listeningPort _ _ hu hport =>
    exact World.created_moves hw hl hu hport listeningPort
  | discarded sock port hA hno hu hport =>
    refine (World.created_moves hw hl hu hport 0).trans ?_
    have hc := World.created_wf hw hl hA hno hu port 0
    have hl' : (w.created A sock port 0).names.linked A = some .freeGrok := by
      rw [World.names_created]
      exact hl
    have hsend : Moves env.magic P.toPromise x ((w.created A sock port 0).view x)
        ((FStreamer.send env A grokError [internalServerError]
          (w.created A sock port 0)).view x) := by
      rw [World.view_frame]
      refine Moves.ite fun he => ?_
      subst he
      obtain ⟨ho, hob⟩ := hc.linked_open hx hl'
      exact Moves.frame _ _ _ ho hob
    refine hsend.trans (World.deleted_moves ?_ hx ?_ (by simp))
    · rw [FStreamer.send_registry]
      exact hc
    · rw [FStreamer.send_registry, World.names_created]
      exact Function.update_self ..

theorem Effect.moves (h : Effect env P w w') (hw : w.names.Wf) {x : SockT} (hx : x ≠ -1) :
    Moves env.magic P.toPromise x (w.view x) (w'.view x) := by
  have hopen {fd : SockT} {o : ObserverPtr} (he : x = fd) (hl : w.names.linked fd = some o) :
      (w.view x).opened ≠ none ∧ (w.view x).observer = none := by
    subst he
    exact hw.linked_open hx hl
  cases h with
  | accepted fd item hu =>
    rw [World.view_accepted]
    refine Moves.ite fun he => .single ?_
    subst he
    exact .accepted _ _ hu.closed
  | refused o item _ =>
    rw [World.view_pushRead, if_neg hx]
  | parsed fd parser _ _ =>
    rw [World.view_setParser]
    exact Moves.ite fun _ => .single (.parsed _)
  | announced p px fd before _ _ hp _ _ _ =>
    rw [World.view_announced]
    refine Moves.ite fun he => ?_
    obtain ⟨ho, hob⟩ := hopen he (hw.initiator_linked (World.proxy_names hp).1)
    exact .tail (Moves.frame _ _ _ ho hob) (.note _ trivial)
  | admitted fd o b before _ hb hloose _ _ hq =>
    rw [World.view_admitted]
    refine Moves.ite fun he => .single ?_
    subst he
    obtain ⟨ho, hl, hob⟩ := hloose hx
    obtain ⟨hqueues, hi, hh⟩ := hq hx
    exact .admitted o before ho hob hl hqueues hi hh
  | flagged fd o b ho _ =>
    rw [World.view_modify, World.view_setObserver]
    refine Moves.ite fun he => .single ?_
    subst he
    refine .watched ?_
    show w.names.observer x ≠ none
    simp [ho]
  | wrote fd front rest n hq hn hlen =>
    rw [World.view_wrote]
    refine Moves.ite fun he => .single ?_
    subst he
    exact .wrote front rest n hq hn hlen
  | writeFailed fd hq =>
    rw [World.view_writeFailed]
    refine Moves.ite fun he => .single ?_
    subst he
    exact .writeFailed hq
  | readFailed fd hl hr hP =>
    by_cases he : x = fd
    · subst he
      have hlog := w.view_log_self (a := .recvFailed x) (x := x) rfl
      rw [World.view_clearAll, if_pos rfl, hlog]
      exact .single (.readFailed hl hr hP)
    · rw [World.view_clearAll, if_neg he, World.view_log_other w he]
  | heard fd fd' state length u64 buffer bytes rest hl hr hlen =>
    rw [World.view_heard]
    refine Moves.ite fun he => .single ?_
    subst he
    exact .heard fd' state length u64 buffer bytes rest hl hr hlen
  | command A hl hc => exact hc.moves hl hw hx
  | relayed p t y id bytes _ ht hid =>
    have hlog : Moves env.magic P.toPromise x (w.view x) ((w.log (.recv y bytes)).view x) := by
      rw [World.view_log]
      exact Moves.ite fun _ => .single (.note _ trivial)
    refine hlog.trans ?_
    rw [FreeGrok.sendPacket, World.view_frame]
    refine Moves.ite fun he => ?_
    subst he
    obtain ⟨ho, hob⟩ := hw.linked_open hx (hw.initiator_linked ht)
    exact Moves.frame _ _ _ ho hob
  | captured y bytes _ _ =>
    rw [World.view_log]
    exact Moves.ite fun _ => .single (.note _ trivial)
  | served y bytes _ hl =>
    rw [World.view_send]
    refine Moves.ite fun he => .single ?_
    obtain ⟨ho, hob⟩ := hopen he hl
    subst he
    exact .queued bytes ho hob
  | forgot fd _ _ =>
    rw [World.view_forgot]
    exact Moves.ite fun _ => .single (.parsed _)
  | torn A u p px b _ hl hu hs hp hb => exact World.torn_moves hw hx hl hp
  | left y o b _ hl _ _ _ hP =>
    rw [World.view_left]
    refine Moves.ite fun he => .single ?_
    subst he
    have hl' : (w.view x).linked = some o := hl
    refine .gone (by simp [hl']) fun hfree => hP ?_
    rw [hl'] at hfree
    exact Option.some.inj hfree
  | hungUp p px y id b _ hp hid hl hb =>
    have ht := (World.proxy_names hp).1
    have hsend : Moves env.magic P.toPromise x (w.view x)
        ((FreeGrok.sendDisconnected env px.initiator id (w.untabled y p px id)).view x) := by
      rw [FreeGrok.sendDisconnected, World.view_frame, World.view_untabled]
      refine Moves.ite fun he => ?_
      obtain ⟨ho, hob⟩ := hopen he (hw.initiator_linked ht)
      subst he
      exact Moves.frame _ _ _ ho hob
    refine hsend.trans ?_
    rw [World.view_left]
    refine Moves.ite fun he => .single ?_
    subst he
    have hlink : ((FreeGrok.sendDisconnected env px.initiator id
        (w.untabled x p px id)).view x).linked = some (.grokProxy p) := by
      have hreg : (FreeGrok.sendDisconnected env px.initiator id
          (w.untabled x p px id)).toRegistry = (w.untabled x p px id).toRegistry :=
        FStreamer.send_registry ..
      show (FreeGrok.sendDisconnected env px.initiator id
        (w.untabled x p px id)).names.linked x = _
      rw [hreg, World.names_untabled w x hp]
      exact hl
    refine .gone (by simp [hlink]) fun hfree => ?_
    rw [hlink] at hfree
    cases hfree

/-! ### The reader of a main connection -/

theorem View.frame_fields (env : Env) (x : SockT) (type : UInt8) (payload : Bytes) (v : View) :
    (v.frame env x type payload).linked = v.linked ∧
      (v.frame env x type payload).queues.read = v.queues.read := by
  unfold View.frame
  generalize FStreamer.chunks env type payload = chunks
  have h (v : View) : (chunks.foldl (fun v chunk => v.send x chunk) v).linked = v.linked ∧
      (chunks.foldl (fun v chunk => v.send x chunk) v).queues.read = v.queues.read := by
    induction chunks generalizing v with
    | nil => exact ⟨rfl, rfl⟩
    | cons chunk rest ih =>
      rw [List.foldl_cons, (ih _).1, (ih _).2, View.send_eq]
      exact ⟨rfl, rfl⟩
  exact h _

/-- A frame of a main connection neither unlinks it nor touches its read queue. -/
theorem Command.reader {said : List Reaction} (h : Command env P A w said w')
    (hl : w.names.linked A = some .freeGrok) (hw : w.names.Wf) (hA : A ≠ -1) :
    (w'.view A).linked = some .freeGrok ∧ (w'.view A).queues.read = (w.view A).queues.read := by
  have hkeep : (w.view A).linked = some .freeGrok ∧
      (w.view A).queues.read = (w.view A).queues.read := ⟨hl, rfl⟩
  cases h with
  | message type length buffer _ _ =>
    rw [World.view_log]
    split <;> exact hkeep
  | granted type length buffer _ =>
    have hlog := w.view_log_self (a := .message A type length buffer) (x := A) rfl
    rw [World.view_granted, if_pos rfl, hlog]
    exact hkeep
  | delivered p t id x length buffer body ht hA' hid _ _ =>
    rw [World.view_send, if_neg (hw.client_ne ht hid hA hl), World.view_log]
    split <;> exact hkeep
  | dropped p px id x o b buffer hp hA' hid _ _ _ _ =>
    rw [World.view_left, if_neg (hw.client_ne (World.proxy_names hp).1 hid hA hl),
      World.view_untabled, World.view_log]
    split <;> exact hkeep
  | untabled p px id x buffer _ _ _ _ _ =>
    rw [World.view_untabled, World.view_log]
    split <;> exact hkeep
  | replied type payload _ _ =>
    rw [World.view_frame, if_pos rfl]
    obtain ⟨hlinked, hread⟩ := View.frame_fields env A type payload (w.view A)
    rw [hlinked, hread]
    exact hkeep
  | touched =>
    rw [World.view_gatherUser, if_pos rfl]
    exact hkeep
  | created sock port listeningPort _ _ hu _ =>
    rw [World.view_created _ _ _ (hw.ne_unused hl hu), if_pos rfl]
    exact hkeep
  | discarded sock port _ _ hu _ =>
    have hne := hw.ne_unused hl hu
    have hview : (World.detachedAll (FStreamer.send env A grokError [internalServerError]
        (w.created A sock port 0)) []).view A = (FStreamer.send env A grokError
        [internalServerError] (w.created A sock port 0)).view A := rfl
    rw [World.view_deleted, if_neg hne, hview, World.view_frame, if_pos rfl]
    obtain ⟨hlinked, hread⟩ := View.frame_fields env A grokError [internalServerError]
      ((w.created A sock port 0).view A)
    rw [hlinked, hread, World.view_created _ _ _ hne, if_pos rfl]
    exact hkeep

/-! ### What the parser made of a frame -/

theorem View.since_log {β : Type} (part : Action → List β) {a : Action} (h : a.isStart = false)
    (v : View) : (v.log a).since part = v.since part ++ part a :=
  History.since_cons Action.isStart part h

/-- A frame is one action, and what `Loop::send` is called with is another for each buffer. -/
theorem View.since_frame {β : Type} (part : Action → List β) (env : Env) (x : SockT) (type : UInt8)
    (payload : Bytes) (v : View) :
    (v.frame env x type payload).since part = v.since part ++ part (.frame x type payload) ++
      (FStreamer.chunks env type payload).flatMap fun chunk => part (.queued x chunk) := by
  have hsend (v : View) (chunk : Bytes) :
      (v.send x chunk).since part = v.since part ++ part (.queued x chunk) := by
    rw [View.send_eq]
    exact View.since_log part rfl v
  have hsends (chunks : List Bytes) (v : View) :
      (chunks.foldl (fun v chunk => v.send x chunk) v).since part =
        v.since part ++ chunks.flatMap fun chunk => part (.queued x chunk) := by
    induction chunks generalizing v with
    | nil => simp
    | cons chunk rest ih =>
      rw [List.foldl_cons, ih, hsend, List.flatMap_cons, List.append_assoc]
  unfold View.frame
  rw [hsends, View.since_log part rfl]

theorem View.frame_reactions (env : Env) (x : SockT) (type : UInt8) (payload : Bytes) (v : View) :
    (v.frame env x type payload).since Action.reactions =
      v.since Action.reactions ++ (Action.frame x type payload).reactions := by
  have hqueued : ((FStreamer.chunks env type payload).flatMap fun chunk =>
      (Action.queued x chunk).reactions) = [] := by simp [Action.reactions]
  rw [View.since_frame, hqueued, List.append_nil]

/-- A frame's history tells what the parser made of it. -/
theorem Command.tells {said : List Reaction} (h : Command env P A w said w')
    (hl : w.names.linked A = some .freeGrok) (hw : w.names.Wf) (hA : A ≠ -1) :
    (w'.view A).since Action.reactions = (w.view A).since Action.reactions ++ said := by
  have hmessage (type : UInt8) (length : Nat) (buffer : Option Bytes) :
      ((w.log (.message A type length buffer)).view A).since Action.reactions =
        (w.view A).since Action.reactions ++ (Action.message A type length buffer).reactions := by
    rw [World.view_log_self (a := .message A type length buffer) (x := A) w rfl]
    exact View.since_log _ rfl _
  have hcreated {sock : SockT} (hu : Unused w.toRegistry sock) (port listeningPort : UInt16) :
      ((w.created A sock port listeningPort).view A).since Action.reactions =
        (w.view A).since Action.reactions := by
    rw [World.view_created _ _ _ (hw.ne_unused hl hu), if_pos rfl]
    exact (View.since_log (a := .bind A port.toNat) Action.reactions rfl (w.view A)).trans
      (List.append_nil _)
  have hsame : (w.view A).since Action.reactions = (w.view A).since Action.reactions ++ [] :=
    (List.append_nil _).symm
  cases h with
  | message type length buffer _ _ => exact hmessage type length buffer
  | granted type length buffer _ =>
    rw [World.view_granted, if_pos rfl]
    exact hmessage type length buffer
  | delivered p t id x length buffer body ht hA' hid _ _ =>
    rw [World.view_send, if_neg (hw.client_ne ht hid hA hl)]
    exact hmessage _ _ _
  | dropped p px id x o b buffer hp hA' hid _ _ _ _ =>
    rw [World.view_left, if_neg (hw.client_ne (World.proxy_names hp).1 hid hA hl),
      World.view_untabled]
    exact hmessage _ _ _
  | untabled p px id x buffer _ _ _ _ _ =>
    rw [World.view_untabled]
    exact hmessage _ _ _
  | replied type payload _ hsaid =>
    rw [World.view_frame, if_pos rfl, View.frame_reactions, hsaid]
  | touched =>
    rw [World.view_gatherUser, if_pos rfl]
    exact hsame
  | created sock port listeningPort _ _ hu _ => exact (hcreated hu port listeningPort).trans hsame
  | discarded sock port _ _ hu _ =>
    have hview : (World.detachedAll (FStreamer.send env A grokError [internalServerError]
        (w.created A sock port 0)) []).view A = (FStreamer.send env A grokError
        [internalServerError] (w.created A sock port 0)).view A := rfl
    rw [World.view_deleted, if_neg (hw.ne_unused hl hu), hview, World.view_frame, if_pos rfl,
      View.frame_reactions, hcreated hu port 0]
    rfl

/-- The frames of a main connection are effects. -/
theorem Commands.effects {said : List Reaction} (h : Commands env P A w said w')
    (hl : w.names.linked A = some .freeGrok) (hw : w.names.Wf) (hA : A ≠ -1) :
    Effects env P w w' ∧ w'.names.Wf ∧ (w'.view A).linked = some .freeGrok ∧
      (w'.view A).queues.read = (w.view A).queues.read := by
  induction h with
  | refl => exact ⟨.refl, hw, hl, rfl⟩
  | tail _ hc ih =>
    obtain ⟨heff, hw', hl', hread⟩ := ih
    obtain ⟨hl'', hread'⟩ := hc.reader hl' hw' hA
    exact ⟨heff.tail (.command A hl' hc), hc.wf hl' hw', hl'', hread'.trans hread⟩

theorem Commands.tells {said : List Reaction} (h : Commands env P A w said w')
    (hl : w.names.linked A = some .freeGrok) (hw : w.names.Wf) (hA : A ≠ -1) :
    (w'.view A).since Action.reactions = (w.view A).since Action.reactions ++ said := by
  induction h with
  | refl => exact (List.append_nil _).symm
  | tail hsteps hc ih =>
    obtain ⟨_, hw', hl', _⟩ := Commands.effects hsteps hl hw hA
    rw [hc.tells hl' hw' hA, ih, List.append_assoc]

end

end OpenGrok
