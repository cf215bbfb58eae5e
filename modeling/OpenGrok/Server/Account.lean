import OpenGrok.Server.Dialogue
import OpenGrok.Server.Frames
import OpenGrok.Server.Trace

/-! What the server keeps for an owner's connection, and what passed over it.

`Names.account` reads the state of the protocol's machine off the registry, and
`World.turns` its labels off what was logged since the connection was accepted. -/
namespace OpenGrok

/-! ### The account that the server keeps -/

/-- What stands behind the connection. -/
def Names.standing (n : Names) (x : SockT) : Standing :=
  match (n.user x).bind User.server with
  | none => .idle
  | some p =>
    match n.tunnel p with
    | none => .broken
    | some t => .serving t.listeningPort {id | (t.idToSock.lookup id).isSome}

def Names.account (n : Names) (x : SockT) : Account :=
  ⟨((n.user x).getD {}).canSelectPort, n.standing x⟩

namespace Names
variable {n n' : Names} {x : SockT} {u : User} {p : Ptr} {t : Tunnel}

theorem standing_none (hu : ∀ u, n.user x = some u → u.server = none) : n.standing x = .idle := by
  unfold standing
  cases h : n.user x with
  | none => rfl
  | some u =>
    rw [Option.bind_some, hu u h]

theorem standing_broken (hu : n.user x = some u) (hs : u.server = some p)
    (ht : n.tunnel p = none) : n.standing x = .broken := by
  simp [standing, hu, hs, ht]

theorem standing_serving (hu : n.user x = some u) (hs : u.server = some p)
    (ht : n.tunnel p = some t) :
    n.standing x = .serving t.listeningPort {id | (t.idToSock.lookup id).isSome} := by
  simp [standing, hu, hs, ht]

theorem standing_idle_iff :
    n.standing x = .idle ↔ ∀ u, n.user x = some u → u.server = none := by
  refine ⟨fun h u hu => ?_, standing_none⟩
  cases hs : u.server with
  | none => rfl
  | some p =>
    cases ht : n.tunnel p with
    | none => cases (standing_broken hu hs ht).symm.trans h
    | some t => cases (standing_serving hu hs ht).symm.trans h

/-- The account depends on the user's record and on his tunnel. -/
theorem account_congr (hu : (n'.user x).getD {} = (n.user x).getD {})
    (ht : ∀ p, ((n.user x).getD {}).server = some p → n'.tunnel p = n.tunnel p) :
    n'.account x = n.account x := by
  have hserver (n : Names) : (n.user x).bind User.server = ((n.user x).getD {}).server := by
    cases n.user x <;> rfl
  unfold account standing
  rw [hserver, hserver, hu]
  cases hs : ((n.user x).getD {}).server with
  | none => rfl
  | some p =>
    dsimp only
    rw [ht p hs]

theorem account_same (hu : n'.user x = n.user x) (ht : n'.tunnel = n.tunnel) :
    n'.account x = n.account x :=
  account_congr (congrArg (Option.getD · {}) hu) fun p _ => congrFun ht p

/-- The tunnel of a proxy that is not the user's is of no account. -/
theorem account_update {t' : Option Tunnel} (hu : n'.user x = n.user x)
    (ht : n'.tunnel = Function.update n.tunnel p t')
    (hother : ∀ u, n.user x = some u → u.server ≠ some p) : n'.account x = n.account x := by
  refine account_congr (congrArg (Option.getD · {}) hu) fun q hq => ?_
  rw [ht, Function.update_of_ne]
  intro hsame
  subst hsame
  cases huser : n.user x with
  | none =>
    rw [huser] at hq
    cases hq
  | some u =>
    rw [huser] at hq
    exact hother u huser hq

theorem Wf.server_ne (hw : n.Wf) (ht : n.tunnel p = some t) (hne : t.initiator ≠ x) :
    ∀ u, n.user x = some u → u.server ≠ some p :=
  fun _ hu hs => hne (hw.server_initiator hu hs ht)

theorem Wf.server_new (hw : n.Wf) : ∀ u, n.user x = some u → u.server ≠ some n.nextProxy :=
  fun _ hu hs => Nat.lt_irrefl _ (hw.server_lt hu hs)

/-- The account of an owner whose tunnel is another one now. -/
theorem account_serving (hu : n'.user x = n.user x) (hx : n.user x = some u)
    (hs : u.server = some p) (ht : n'.tunnel p = some t) {ids : Set CIdT}
    (hids : ∀ id, id ∈ ids ↔ (t.idToSock.lookup id).isSome) :
    n'.account x = { n.account x with standing := .serving t.listeningPort ids } := by
  have hsame : ids = {id | (t.idToSock.lookup id).isSome} := Set.ext hids
  unfold account
  rw [standing_serving (hu.trans hx) hs ht, hu, hsame]

end Names

/-! ### What is said -/

def Action.turns : Action → List Turn
  | .message _ type length buffer => [.asked type length (buffer.getD [])]
  | .frame _ type payload => [.told type payload]
  | _ => []

/-- The bytes that a turn of the server is. -/
def Turn.bytes (env : Env) : Turn → Bytes
  | .told type payload => FStreamer.frame env type payload
  | .asked _ _ _ => []

namespace World

/-- The turns since the connection was accepted. -/
def turns (x : SockT) (w : World) : List Turn := (w.view x).since Action.turns

/-- The bytes that were queued for the connection since it was accepted. -/
def queuedBytes (x : SockT) (w : World) : Bytes := (w.view x).since Action.queuedBytes

/-- The bytes that were received from the connection since it was accepted. -/
def received (x : SockT) (w : World) : Bytes := (w.view x).since Action.received

end World

/-- What is said over the connection, without reading from it: the server's turns are queued, as
frames. -/
structure Says (env : Env) (x : SockT) (w : World) (said : List Turn) (w' : World) : Prop where
  turns : w'.turns x = w.turns x ++ said
  queued : w'.queuedBytes x = w.queuedBytes x ++ said.flatMap (Turn.bytes env)
  received : w'.received x = w.received x

/-- What happens is nothing that passes over the connection. -/
def Action.Silent (x : SockT) (a : Action) : Prop :=
  a.fd = x → a.isStart = false ∧ a.turns = [] ∧ a.queuedBytes = [] ∧ a.received = []

namespace Says
variable {env : Env} {w w' w'' : World} {x : SockT} {said said' : List Turn}

theorem of_grows (h : Grows (Action.Silent x) w w') : Says env x w [] w' where
  turns := (h.since Action.turns fun _ ha he => ⟨(ha he).1, (ha he).2.1⟩).trans
    (List.append_nil _).symm
  queued := (h.since Action.queuedBytes fun _ ha he => ⟨(ha he).1, (ha he).2.2.1⟩).trans
    (List.append_nil _).symm
  received := h.since Action.received fun _ ha he => ⟨(ha he).1, (ha he).2.2.2⟩

theorem trans (h : Says env x w said w') (h' : Says env x w' said' w'') :
    Says env x w (said ++ said') w'' where
  turns := by rw [h'.turns, h.turns, List.append_assoc]
  queued := by rw [h'.queued, h.queued, List.flatMap_append, List.append_assoc]
  received := h'.received.trans h.received

/-- Silence after something was said. -/
theorem grows (h : Says env x w said w') (h' : Grows (Action.Silent x) w' w'') :
    Says env x w said w'' := by
  have hquiet : Says env x w' [] w'' := of_grows h'
  have hboth := h.trans hquiet
  rwa [List.append_nil] at hboth

/-- Something that is said after silence. -/
theorem after (h : Grows (Action.Silent x) w w') (h' : Says env x w' said w'') :
    Says env x w said w'' :=
  (of_grows h).trans h'

theorem message (x : SockT) (type : UInt8) (length : Nat) (buffer : Option Bytes) (w : World) :
    Says env x w [.asked type length (buffer.getD [])] (w.log (.message x type length buffer)) := by
  have hview : (w.log (.message x type length buffer)).view x =
      (w.view x).log (.message x type length buffer) := w.view_log_self rfl
  constructor
  · unfold World.turns
    rw [hview]
    exact View.since_log Action.turns rfl _
  · unfold World.queuedBytes
    rw [hview]
    exact View.since_log Action.queuedBytes rfl _
  · unfold World.received
    rw [hview]
    exact (View.since_log Action.received rfl _).trans (List.append_nil _)

theorem send (env : Env) (x : SockT) (type : UInt8) (payload : Bytes) (w : World) :
    Says env x w [.told type payload] (FStreamer.send env x type payload w) := by
  have hsilent : ((FStreamer.chunks env type payload).flatMap fun chunk =>
      (Action.queued x chunk).turns) = [] := by simp [Action.turns]
  have hchunks : ((FStreamer.chunks env type payload).flatMap fun chunk =>
      (Action.queued x chunk).queuedBytes) = FStreamer.frame env type payload := by
    simp [Action.queuedBytes, FStreamer.frame, List.flatMap_id']
  have hunread : ((FStreamer.chunks env type payload).flatMap fun chunk =>
      (Action.queued x chunk).received) = [] := by simp [Action.received]
  constructor
  · unfold World.turns
    rw [World.view_frame, if_pos rfl, View.since_frame, hsilent, List.append_nil]
    rfl
  · unfold World.queuedBytes
    rw [World.view_frame, if_pos rfl, View.since_frame, hchunks]
    simp [Action.queuedBytes, Turn.bytes]
  · unfold World.received
    rw [World.view_frame, if_pos rfl, View.since_frame, hunread]
    simp [Action.received]

end Says

end OpenGrok
