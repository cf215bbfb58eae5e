import OpenGrok.Library.History
import OpenGrok.Server.Effect

/-! The life of one descriptor.

`Move` says what may happen to a descriptor between being opened and being closed: it
is the server as one connection sees it. Whatever event the loop handles, each view
makes a few of these moves (`Effect.moves`), so what holds of one connection in every
run is proved here, one case for each move.

Two things are not moves. A queued read that is received to its end (`heardAll`) and
the next one queued (`advanced`) happen to the connection of the event only, with the
moves of its handler in between. -/
namespace OpenGrok

/-! ### What the history of a descriptor tells -/

namespace Action

/-- The connection that the descriptor stands for begins or ends. -/
@[grind] def isStart : Action → Bool
  | .accept _ => true
  | .close _ => true
  | _ => false

@[grind] def received : Action → Bytes
  | .recv _ bytes => bytes
  | _ => []

@[grind] def sent : Action → Bytes
  | .send _ bytes => bytes
  | _ => []

@[grind] def queuedBytes : Action → Bytes
  | .queued _ bytes => bytes
  | _ => []

/-- A `tcp_send`, or a `tcp_recv` on a queued read, that failed. -/
@[grind] def failure : Action → List Action
  | .sendFailed fd => [.sendFailed fd]
  | .recvFailed fd => [.recvFailed fd]
  | _ => []

@[grind] def sendFailure : Action → List Action
  | .sendFailed fd => [.sendFailed fd]
  | _ => []

/-- A GROK_AUTH frame whose payload is the magic. -/
@[grind] def authorisation (magic : Bytes) : Action → List Action
  | .message fd type length buffer =>
    if type = grokAuth ∧ length = magic.length ∧ (buffer.getD []).take length = magic then
      [.message fd type length buffer]
    else []
  | _ => []

/-- Nothing that a connection's own state depends on. -/
@[grind] def Quiet : Action → Prop
  | .frame _ _ _ => True
  | .announced _ _ _ => True
  | .recv _ _ => True
  | _ => False

end Action

/-- What happened since the descriptor was last opened or closed. -/
@[grind] def View.since {β : Type} (part : Action → List β) (v : View) : List β :=
  History.since Action.isStart part v.history

/-! ### Moves -/

/-- What an environment promises beyond what the kernel may do, about a descriptor and its
view when it happens. -/
structure Promise where
  /-- An owner has the client closed. -/
  drop : SockT → View → Prop
  /-- `tcp_recv` on a queued read delivers nothing. -/
  fail : SockT → View → Prop
  /-- A main connection that has no server is closed. -/
  leave : SockT → View → Prop

/-- What a queued read of the frame parser waits for: the two bytes that every frame starts with,
the other three of a long header, or the payload that the meta bits say the length of. -/
structure Asks (state : PacketState) (length u64 : Nat) : Prop where
  pos : 1 ≤ length
  size : length = match state with
    | .typeGot => 2
    | .headerGot => 3
    | .bufferGot => u64 &&& 0xffffffff

theorem asks_newMessage : Asks .typeGot 2 0 := ⟨Nat.one_le_ofNat, rfl⟩

/-- Whether a queued read is one that the observer's connections queue. -/
@[grind] def Fits (x : SockT) : ObserverPtr → ReadItem → Prop
  | .freeGrok, .read fd state length u64 buffer =>
    fd = x ∧ Asks state length u64 ∧ buffer.length ≤ length
  | .freeGrok, .capture _ _ => False
  | _, .capture fd pending => fd = x ∧ pending = true
  | _, .read _ _ _ _ _ => False

namespace View

@[grind] def setUser (user : User) (v : View) : View := { v with user := some user }

end View

/-- The read that an observer queues for a connection it accepts. -/
def opening (x : SockT) : ObserverPtr → ReadItem
  | .freeGrok => .read x .typeGot 2 0 []
  | _ => .capture x true

theorem fits_opening (x : SockT) (o : ObserverPtr) : Fits x o (opening x o) := by
  cases o <;> simp [opening, Fits, asks_newMessage]

/-- What may happen to the descriptor `x`. -/
inductive Move (magic : Bytes) (P : Promise) (x : SockT) (v : View) : View → Prop where
  | note (a : Action) : a.Quiet → Move magic P x v (v.log a)
  | accepted (c : Nat) (item : ReadItem) : v.opened = none →
      Move magic P x v (({ v with opened := some c }.log (.accept x)).push item)
  | admitted (o : ObserverPtr) (before : List Action) : v.opened ≠ none →
      v.observer = none → v.linked = none → v.queues = { read := [opening x o] } →
      v.interest = none → v.history = .accept x :: before →
      Move magic P x v { v.add eventsR with linked := some o }
  | parsed (parser : Option StreamingParser) : Move magic P x v { v with parser := parser }
  | message (type : UInt8) (length : Nat) (buffer : Option Bytes) : v.linked = some .freeGrok →
      (Action.message x type length buffer).authorisation magic = [] →
      Move magic P x v (v.log (.message x type length buffer))
  | authorised (type : UInt8) (length : Nat) (buffer : Option Bytes) : v.linked = some .freeGrok →
      (Action.message x type length buffer).authorisation magic ≠ [] →
      Move magic P x v
        ((v.log (.message x type length buffer)).setUser ((v.user.getD {}).grant .all))
  | touched : v.linked = some .freeGrok → Move magic P x v (v.setUser (v.user.getD {}))
  | served (p : Ptr) (port : Nat) : v.linked = some .freeGrok →
      (port ≠ 0 → (v.user.getD {}).canSelectPort = true) →
      Move magic P x v ((v.setUser { v.user.getD {} with server := some p }).log (.bind x port))
  | queued (bytes : Bytes) : v.opened ≠ none → v.observer = none → Move magic P x v (v.send x bytes)
  | wrote (front : WriteItem) (rest : List WriteItem) (n : Nat) : v.queues.write = front :: rest →
      0 < n → front.sent + n ≤ front.buffer.length → Move magic P x v (v.wrote x front rest n)
  | writeFailed : v.queues.write ≠ [] →
      Move magic P x v { (v.log (.sendFailed x)).modify eventsR with queues := {} }
  | readFailed : v.linked = some .freeGrok → v.queues.read ≠ [] → P.fail x v →
      Move magic P x v { v.log (.recvFailed x) with queues := {} }
  | heard (fd : SockT) (state : PacketState) (length u64 : Nat) (buffer bytes : Bytes)
      (rest : List ReadItem) : v.linked = some .freeGrok →
      v.queues.read = .read fd state length u64 buffer :: rest →
      buffer.length + bytes.length < length →
      Move magic P x v (v.heard x (.read fd state length u64 (buffer ++ bytes)) rest bytes)
  | listened (c : Nat) (p : Ptr) : v.opened = none →
      Move magic P x v { ({ v with opened := some c }.add eventsR) with
        observer := some (.grokProxy p) }
  | unlistened : v.observer ≠ none →
      Move magic P x v { v.log (.close x) with opened := none, observer := none, interest := none }
  | watched : v.observer ≠ none → Move magic P x v (v.modify eventsR)
  | gone : v.linked ≠ none → (v.linked = some .freeGrok → P.leave x v) → Move magic P x v (v.gone x)
  | retired : v.linked = some .freeGrok → Move magic P x v ({ v with user := none }.gone x)

abbrev Moves (magic : Bytes) (P : Promise) (x : SockT) : View → View → Prop :=
  Relation.ReflTransGen (Move magic P x)

/-- The front read is received to its end. -/
inductive HeardAll (x : SockT) (v : View) : View → Prop where
  | mk (fd : SockT) (state : PacketState) (length u64 : Nat) (buffer bytes : Bytes)
      (rest : List ReadItem) : v.linked = some .freeGrok →
      v.queues.read = .read fd state length u64 buffer :: rest →
      buffer.length + bytes.length = length →
      HeardAll x v (v.heard x (.read fd state length u64 (buffer ++ bytes)) rest bytes)

/-- The next read takes the place of the front one. -/
inductive Advanced (x : SockT) (v : View) : View → Prop where
  | mk (state : PacketState) (length u64 : Nat) : v.linked = some .freeGrok → v.queues.read ≠ [] →
      Asks state length u64 → Advanced x v (v.advanced (.read x state length u64 []))

/-! ### What holds of a descriptor at any time -/

/-- A closed descriptor has nothing left of what it was; a listener has no queues; a
connection's read queue holds at most one item, of its observer's kind, and its write
queue at most one, not overrun. -/
structure View.Sound (x : SockT) (v : View) : Prop where
  closed : v.opened = none →
    v.linked = none ∧ v.observer = none ∧ v.queues = {} ∧ v.interest = none
  listener : v.observer ≠ none → v.linked = none ∧ v.queues = {}
  reads : ∀ o, v.linked = some o →
    v.queues.read = [] ∨ ∃ item, v.queues.read = [item] ∧ Fits x o item
  writes : v.queues.write = [] ∨
    ∃ item, v.queues.write = [item] ∧ item.sent ≤ item.buffer.length

namespace View
variable (v : View) (x : SockT) (bytes : Bytes) (front : WriteItem) (rest : List WriteItem) (n : Nat)
  (evs : Events)

/-- `Loop::send` touches the write queue, the interest and the history. -/
@[grind =] theorem send_eq : v.send x bytes = { v with
    queues := { v.queues with write := match v.queues.write with
      | [] => [⟨bytes, 0⟩]
      | front :: rest => front.mergeBuffers bytes :: rest }
    interest := if v.queues.write = [] then v.interest.map fun _ => eventsRW else v.interest
    history := .queued x bytes :: v.history } := by
  unfold send
  split <;> simp_all [log, modify]

@[grind =] theorem wrote_eq : v.wrote x front rest n =
    let write := if front.sent + n ≥ front.buffer.length then rest
      else { front with sent := front.sent + n } :: rest
    { v with
      queues := { v.queues with write := write }
      interest := if write = [] then v.interest.map fun _ => eventsR else v.interest
      history := .send x (front.unsent.take n) :: v.history } := by
  unfold wrote
  dsimp only
  split <;> split <;> simp_all [log, modify]

@[grind =] theorem add_eq : v.add evs = { v with
    interest := if v.opened ≠ none ∧ v.interest = none then some evs else v.interest } := by
  cases v with
  | mk opened _ _ _ _ _ interest _ => cases opened <;> cases interest <;> simp [add]

end View

section
variable {magic : Bytes} {P : Promise} {x : SockT} {v v' : View}

@[simp] theorem View.advanced_read {item front : ReadItem} (v : View)
    (hv : v.queues.read = [front]) : (v.advanced item).queues.read = [item] := by
  simp [View.advanced, View.push, View.pop, hv]

theorem Move.sound (h : Move magic P x v v') (hv : v.Sound x) : v'.Sound x := by
  obtain ⟨hclosed, hlistener, hreads, hwrites⟩ := hv
  cases h with
  | note a _ => exact ⟨hclosed, hlistener, hreads, hwrites⟩
  | parsed parser => exact ⟨hclosed, hlistener, hreads, hwrites⟩
  | message type length buffer _ _ => exact ⟨hclosed, hlistener, hreads, hwrites⟩
  | authorised type length buffer _ _ => exact ⟨hclosed, hlistener, hreads, hwrites⟩
  | touched _ => exact ⟨hclosed, hlistener, hreads, hwrites⟩
  | served p port _ _ => exact ⟨hclosed, hlistener, hreads, hwrites⟩
  | queued bytes ho hob => constructor <;> grind [WriteItem.mergeBuffers]
  | _ => constructor <;> grind [fits_opening]

theorem HeardAll.sound (h : HeardAll x v v') (hv : v.Sound x) : v'.Sound x := by
  obtain ⟨hclosed, hlistener, hreads, hwrites⟩ := hv
  cases h with
  | mk fd state length u64 buffer bytes rest hl hr hlen => constructor <;> grind

theorem Advanced.sound (h : Advanced x v v') (hv : v.Sound x) : v'.Sound x := by
  obtain ⟨hclosed, hlistener, hreads, hwrites⟩ := hv
  cases h with
  | mk state length u64 hl hr hlen => constructor <;> grind

/-! ### Reading -/

/-- **One item is queued for reading**, unless a call on the connection failed since it was
accepted. -/
def View.ReadReady (v : View) : Prop :=
  v.linked ≠ none → (v.queues.read = [] ↔ v.since Action.failure ≠ [])

theorem Move.readReady (h : Move magic P x v v') (hv : v.Sound x) (hr : v.ReadReady) :
    v'.ReadReady := by
  obtain ⟨hclosed, hlistener, -, -⟩ := hv
  unfold View.ReadReady at hr ⊢
  cases h with
  | note a ha => cases a <;> grind [History.since]
  | _ => grind [History.since, List.append_eq_nil_iff]

theorem HeardAll.readReady (h : HeardAll x v v') (hr : v.ReadReady) : v'.ReadReady := by
  unfold View.ReadReady at hr ⊢
  cases h with
  | mk fd state length u64 buffer bytes rest hl hq hlen => grind [History.since]

theorem Advanced.readReady (h : Advanced x v v') (hv : v.Sound x) (hr : v.ReadReady) :
    v'.ReadReady := by
  have hreads := hv.reads
  unfold View.ReadReady at hr ⊢
  cases h with
  | mk state length u64 hl hq hlen =>
    obtain hnil | ⟨front, hfront, -⟩ := hreads _ hl
    · exact absurd hnil hq
    · rw [View.advanced_read v hfront]
      have hsince : v.since Action.failure = [] := by
        by_contra hne
        exact hq ((hr (by simp [hl])).mpr hne)
      simp [View.since, View.advanced, View.push, View.pop] at hsince ⊢
      exact fun _ => hsince

/-- A queued read of a main connection is not received to its end. -/
def View.Settled (v : View) : Prop :=
  v.linked = some .freeGrok → ∀ fd state length u64 buffer rest,
    v.queues.read = .read fd state length u64 buffer :: rest → buffer.length < length

theorem Move.settled (h : Move magic P x v v') (hv : v.Sound x) (hs : v.Settled) :
    v'.Settled := by
  obtain ⟨hclosed, hlistener, -, -⟩ := hv
  unfold View.Settled at hs ⊢
  cases h with
  | admitted o before ho hob hl hq hi hh =>
    intro hfree fd state length u64 buffer rest hread
    cases hfree
    rw [View.add_eq, hq] at hread
    cases hread
    decide
  | _ => grind

theorem Advanced.settled (h : Advanced x v v') (hv : v.Sound x) : v'.Settled := by
  have hreads := hv.reads
  unfold View.Settled
  cases h with
  | mk state length u64 hl hq hlen =>
    have hpos := hlen.pos
    grind

/-! ### Writing -/

/-- **The selector watches for EPOLLOUT exactly when something is queued.** -/
def View.WriteReady (v : View) : Prop :=
  v.linked ≠ none →
    ∃ evs, v.interest = some evs ∧ (v.queues.write ≠ [] ↔ evs.epollout = true)

theorem Move.writeReady (hP : ∀ x v, P.fail x v → v.queues.write = []) (h : Move magic P x v v')
    (hv : v.Sound x) (hw : v.WriteReady) : v'.WriteReady := by
  obtain ⟨hclosed, hlistener, -, -⟩ := hv
  unfold View.WriteReady at hw ⊢
  cases h with
  | admitted o before ho hob hl hq hi hh =>
    refine fun _ => ⟨eventsR, ?_, ?_⟩
    · simp [View.add_eq, ho, hi]
    · simp [View.add_eq, hq, eventsR]
  | _ => grind [eventsR, eventsRW]

theorem HeardAll.writeReady (h : HeardAll x v v') (hw : v.WriteReady) : v'.WriteReady := by
  cases h with
  | mk fd state length u64 buffer bytes rest hl hr hlen => exact hw

theorem Advanced.writeReady (h : Advanced x v v') (hw : v.WriteReady) : v'.WriteReady := by
  cases h with
  | mk state length u64 hl hr hlen => exact hw

/-- What was queued for the connection and what the socket took of it differ by what the write
queue still holds, if no `tcp_send` failed. Main connections are left out: a failed `tcp_recv`
also empties their write queue. -/
def View.Streams (v : View) : Prop :=
  v.linked ≠ some .freeGrok → v.since Action.sendFailure = [] →
    v.since Action.queuedBytes = v.since Action.sent ++ v.queues.write.flatMap WriteItem.unsent

theorem WriteItem.unsent_merge (item : WriteItem) (bytes : Bytes)
    (h : item.sent ≤ item.buffer.length) :
    (item.mergeBuffers bytes).unsent = item.unsent ++ bytes := by
  simp only [unsent, mergeBuffers]
  exact List.drop_append_of_le_length h

theorem WriteItem.unsent_take (item : WriteItem) (n : Nat) :
    item.unsent = item.unsent.take n ++ item.buffer.drop (item.sent + n) := by
  rw [unsent, ← List.drop_drop, List.take_append_drop]

/-- What was queued and what the socket took of it differ by what the write queue still holds. -/
def View.Flows (v : View) : Prop :=
  v.since Action.queuedBytes = v.since Action.sent ++ v.queues.write.flatMap WriteItem.unsent

theorem View.Flows.send (h : v.Flows) (hv : v.Sound x) (bytes : Bytes) : (v.send x bytes).Flows := by
  have hsince : History.since Action.isStart Action.queuedBytes v.history =
      History.since Action.isStart Action.sent v.history ++
        v.queues.write.flatMap WriteItem.unsent := h
  rw [View.send_eq]
  unfold View.Flows
  simp only [View.since, History.since, Action.isStart, Action.queuedBytes, Action.sent, hsince]
  obtain hw | ⟨item, hw, hlen⟩ := hv.writes
  · simp [hw, WriteItem.unsent]
  · simp [hw, WriteItem.unsent_merge item bytes hlen]

theorem View.Flows.wrote {front : WriteItem} {rest : List WriteItem} (h : v.Flows) (hv : v.Sound x)
    (hw : v.queues.write = front :: rest) (n : Nat) : (v.wrote x front rest n).Flows := by
  have hsince : History.since Action.isStart Action.queuedBytes v.history =
      History.since Action.isStart Action.sent v.history ++
        v.queues.write.flatMap WriteItem.unsent := h
  have hrest : rest = [] := by
    obtain hnil | ⟨item, hitem, -⟩ := hv.writes
    · rw [hw] at hnil
      cases hnil
    · rw [hw] at hitem
      cases hitem
      rfl
  subst hrest
  rw [View.wrote_eq]
  unfold View.Flows
  simp only [View.since, History.since, Action.isStart, Action.queuedBytes, Action.sent, hsince, hw]
  have hsplit := front.unsent_take n
  by_cases hdone : front.sent + n ≥ front.buffer.length
  · rw [List.drop_eq_nil_of_le hdone, List.append_nil] at hsplit
    simp [hdone, ← hsplit]
  · rw [if_neg hdone]
    simp only [Bool.false_eq_true, if_false, List.flatMap_cons, List.flatMap_nil, List.append_nil,
      List.append_assoc]
    exact congrArg _ hsplit

theorem Move.streams (h : Move magic P x v v') (hv : v.Sound x) (hs : v.Streams) :
    v'.Streams := by
  have hkept {a : Action} (ha : a.isStart = false) (hf : (v.log a).since Action.sendFailure = []) :
      v.since Action.sendFailure = [] := by
    rw [View.since, View.log, History.since_cons _ _ ha] at hf
    exact (List.append_eq_nil_iff.mp hf).1
  cases h with
  | note a ha =>
    unfold View.Streams at hs ⊢
    cases a <;> grind [History.since]
  | queued bytes ho hob =>
    intro hl hf
    rw [View.send_eq] at hl hf
    exact View.Flows.send (hs hl (hkept (a := .queued x bytes) rfl hf)) hv bytes
  | wrote front rest n hw hn hlen =>
    intro hl hf
    rw [View.wrote_eq] at hl hf
    exact View.Flows.wrote (hs hl (hkept (a := .send x (front.unsent.take n)) rfl hf)) hv hw n
  | _ =>
    obtain ⟨hclosed, hlistener, -, hwrites⟩ := hv
    unfold View.Streams at hs ⊢
    grind [History.since, List.append_eq_nil_iff]

theorem HeardAll.streams (h : HeardAll x v v') : v'.Streams := by
  cases h with
  | mk fd state length u64 buffer bytes rest hl hr hlen => exact fun hne => absurd hl hne

theorem Advanced.streams (h : Advanced x v v') (hs : v.Streams) : v'.Streams := by
  cases h with
  | mk state length u64 hl hr hlen => exact hs

/-- If no call on the connection failed since it was accepted, what was queued for it was sent, or is
queued still. -/
def View.Unbroken (v : View) : Prop := v.since Action.failure = [] → v.Flows

theorem Move.unbroken (h : Move magic P x v v') (hv : v.Sound x) (hs : v.Unbroken) : v'.Unbroken := by
  have hkept {a : Action} (ha : a.isStart = false) (hf : (v.log a).since Action.failure = []) :
      v.since Action.failure = [] := by
    rw [View.since, View.log, History.since_cons _ _ ha] at hf
    exact (List.append_eq_nil_iff.mp hf).1
  cases h with
  | note a ha =>
    unfold View.Unbroken View.Flows at hs ⊢
    cases a <;> grind [History.since]
  | queued bytes _ _ =>
    intro hf
    rw [View.send_eq] at hf
    exact View.Flows.send (hs (hkept (a := .queued x bytes) rfl hf)) hv bytes
  | wrote front rest n hw _ _ =>
    intro hf
    rw [View.wrote_eq] at hf
    exact View.Flows.wrote (hs (hkept (a := .send x (front.unsent.take n)) rfl hf)) hv hw n
  | _ =>
    obtain ⟨hclosed, hlistener, -, -⟩ := hv
    unfold View.Unbroken View.Flows at hs ⊢
    grind [History.since, List.append_eq_nil_iff]

theorem HeardAll.unbroken (h : HeardAll x v v') (hs : v.Unbroken) : v'.Unbroken := by
  unfold View.Unbroken View.Flows at hs ⊢
  cases h with
  | mk fd state length u64 buffer bytes rest hl hr hlen => grind [History.since]

theorem Advanced.unbroken (h : Advanced x v v') (hs : v.Unbroken) : v'.Unbroken := by
  cases h with
  | mk state length u64 hl hr hlen => exact hs

/-! ### Rights -/

/-- **A user may select a port exactly if the connection sent the magic** since it was accepted. -/
structure View.Authorised (magic : Bytes) (v : View) : Prop where
  rights : (v.user.getD {}).canSelectPort = true ↔ v.since (Action.authorisation magic) ≠ []
  others : v.linked ≠ some .freeGrok → (v.user.getD {}).canSelectPort = false

/-- A bound port was chosen by the main server, or by a connection that had sent the magic. -/
def ChosenBy (magic : Bytes) (a : Action) (before : List Action) : Prop :=
  ∀ fd port, a = .bind fd port → port ≠ 0 →
    History.since Action.isStart (Action.authorisation magic) before ≠ []

theorem Move.rights (hP : ∀ x v, P.leave x v → (v.user.getD {}).canSelectPort = false)
    (h : Move magic P x v v') (hv : v.Sound x) (ha : v.Authorised magic) :
    v'.Authorised magic := by
  obtain ⟨hclosed, hlistener, -, -⟩ := hv
  obtain ⟨hrights, hothers⟩ := ha
  cases h with
  | note a ha => cases a <;> constructor <;> grind [History.since]
  | _ => constructor <;> grind [History.since, User.grant, List.append_eq_nil_iff]

theorem HeardAll.rights (h : HeardAll x v v') (ha : v.Authorised magic) : v'.Authorised magic := by
  obtain ⟨hrights, hothers⟩ := ha
  cases h with
  | mk fd state length u64 buffer bytes rest hl hr hlen => constructor <;> grind [History.since]

theorem Advanced.rights (h : Advanced x v v') (ha : v.Authorised magic) : v'.Authorised magic := by
  cases h with
  | mk state length u64 hl hr hlen => exact ⟨ha.rights, ha.others⟩

/-- Only an authorised connection has a port of its choice bound. -/
theorem Move.binds (h : Move magic P x v v') (ha : v.Authorised magic)
    (hb : History.Always (ChosenBy magic) v.history) :
    History.Always (ChosenBy magic) v'.history := by
  have hquiet (a : Action) (hne : ∀ fd port, a ≠ .bind fd port) : ChosenBy magic a v.history :=
    fun fd port heq => absurd heq (hne fd port)
  cases h with
  | served p port hl hport =>
    refine hb.cons fun fd port' heq hne => ?_
    cases heq
    exact ha.rights.mp (hport hne)
  | note a hq =>
    refine hb.cons (hquiet a fun fd port heq => ?_)
    rw [heq] at hq
    exact hq
  | accepted c item ho => exact hb.cons (hquiet _ nofun)
  | message type length buffer _ _ => exact hb.cons (hquiet _ nofun)
  | authorised type length buffer _ _ => exact hb.cons (hquiet _ nofun)
  | queued bytes _ _ =>
    rw [View.send_eq]
    exact hb.cons (hquiet _ nofun)
  | wrote front rest n _ _ _ =>
    rw [View.wrote_eq]
    exact hb.cons (hquiet _ nofun)
  | writeFailed _ => exact hb.cons (hquiet _ nofun)
  | readFailed _ _ _ => exact hb.cons (hquiet _ nofun)
  | heard fd state length u64 buffer bytes rest _ _ _ => exact hb.cons (hquiet _ nofun)
  | unlistened _ => exact hb.cons (hquiet _ nofun)
  | gone _ _ => exact hb.cons (hquiet _ nofun)
  | retired _ => exact hb.cons (hquiet _ nofun)
  | admitted o before _ _ _ _ _ _ =>
    rw [View.add_eq]
    exact hb
  | listened c p _ =>
    rw [View.add_eq]
    exact hb
  | parsed _ => exact hb
  | touched _ => exact hb
  | watched _ => exact hb

end

end OpenGrok
