import OpenGrok.Properties.Dialogue
import OpenGrok.Properties.Framing

/-! The bytes of an owner's connection.

What the owner says is what the bytes received from it mean, and what it is told is what
the bytes queued for it mean, however they were cut, and whatever else the server does
between any two of them. -/
namespace OpenGrok

/-! ### What is received -/

/-- The reactions of the parser that a turn is. -/
def Turn.reactions : Turn → List Reaction
  | .asked type length payload => [.message type length payload]
  | .told type payload =>
    if type = grokError ∧ payload = [decompressionError] then [.error decompressionError]
    else if type = grokError ∧ payload = [tooLongBuffer] then [.error tooLongBuffer]
    else []

theorem Action.turns_reactions (a : Action) : a.turns.flatMap Turn.reactions = a.reactions := by
  cases a <;> simp [turns, reactions, Turn.reactions]

theorem World.turns_reactions (x : SockT) (w : World) :
    (w.turns x).flatMap Turn.reactions = (w.view x).since Action.reactions := by
  have hparts : Action.reactions = fun a => a.turns.flatMap Turn.reactions := by
    funext a
    exact a.turns_reactions.symm
  rw [hparts]
  exact (History.since_flatMap Action.isStart Action.turns Turn.reactions _).symm

/-- What the server made of the bytes it received is what they mean, and what is left of them is
what it waits for more of. -/
structure View.Parsed (env : Env) (x : SockT) (v : View) : Prop where
  made : v.since Action.reactions =
    ((frameReader env).run .newMessage (v.since Action.received)).out
  waits : v.queues.read = [] ∨
    let p := (frameReader env).run .newMessage (v.since Action.received)
    v.queues.read = [.read x p.state.state p.state.length p.state.u64 p.left]

section
variable {env : Env} {os : Os} {magic : Bytes} {Q : Promise} {v v' : View} {x : SockT}

theorem Action.calm_reads {a : Action} (h : a.Passive ∨ a.Sends) : a.reactions = [] ∧ a.received = [] := by
  rcases h with h | h
  · cases a with
    | frame fd type payload =>
      have herror : type ≠ grokError := by
        intro hsame
        subst hsame
        exact h ⟨by decide, by decide, by decide⟩
      exact ⟨by simp [reactions, herror], rfl⟩
    | _ => first | exact ⟨rfl, rfl⟩ | exact h.elim
  · cases a <;> first | exact ⟨rfl, rfl⟩ | exact h.elim

/-- The only action that was logged is calm. -/
theorem View.Calm.logged {a : Action} (h : v.Calm v') (hlog : v'.history = a :: v.history) :
    a.Passive ∨ a.Sends := by
  obtain ⟨new, hnew, hall⟩ := h
  have hsame : new = [a] := List.append_cancel_right (hnew.symm.trans hlog)
  exact hall a (by simp [hsame])

namespace View.Parsed

theorem same (h : v.Parsed env x) (hhistory : v'.history = v.history)
    (hread : v'.queues.read = v.queues.read ∨ v'.queues.read = []) : v'.Parsed env x := by
  have hsince {β : Type} (part : Action → List β) : v'.since part = v.since part := by
    unfold View.since
    rw [hhistory]
  refine ⟨by rw [hsince, hsince]; exact h.made, ?_⟩
  rcases hread with hread | hread
  · rw [hread, hsince]
    exact h.waits
  · exact .inl hread

theorem logged {a : Action} (h : v.Parsed env x) (ha : a.reactions = [] ∧ a.received = [])
    (hstart : a.isStart = false) (hhistory : v'.history = a :: v.history)
    (hread : v'.queues.read = v.queues.read ∨ v'.queues.read = []) : v'.Parsed env x := by
  have hsince {β : Type} (part : Action → List β) (hpart : part a = []) :
      v'.since part = v.since part := by
    unfold View.since
    rw [hhistory]
    exact History.since_skip Action.isStart part hstart hpart
  obtain ⟨hreactions, hreceived⟩ := ha
  refine ⟨by rw [hsince _ hreactions, hsince _ hreceived]; exact h.made, ?_⟩
  rcases hread with hread | hread
  · rw [hread, hsince _ hreceived]
    exact h.waits
  · exact .inl hread

end View.Parsed

/-- Between its reads, a main connection is read no further. -/
theorem Move.parses (hv : v.Sound x) (hp : v.linked = some .freeGrok → v.Parsed env x)
    (h : Move magic Q x v v') (hcalm : v.Calm v') :
    v'.linked = some .freeGrok → v'.Parsed env x := by
  intro hl
  have hbusy {a : Action} (hlog : v'.history = a :: v.history) (ha : ¬a.Passive ∧ ¬a.Sends) :
      v'.Parsed env x := ((hcalm.logged hlog).elim ha.1 ha.2).elim
  cases h with
  | note a ha =>
    have hstart : a.isStart = false := by cases a <;> first | rfl | exact ha.elim
    exact (hp hl).logged (Action.calm_reads (hcalm.logged rfl)) hstart rfl (.inl rfl)
  | accepted c item hclosed => cases (hv.closed hclosed).1.symm.trans hl
  | admitted o before _ _ _ hqueues _ hhistory =>
    rw [View.add_eq] at hl ⊢
    cases hl
    have hnothing {β : Type} (part : Action → List β) :
        History.since Action.isStart part v.history = [] := by
      rw [hhistory]
      exact History.since_mark _ _ rfl
    have hrun : (frameReader env).run .newMessage [] = ⟨[], .newMessage, []⟩ :=
      Reader.run_short (r := frameReader env) Nat.two_pos
    constructor
    · simp only [View.since, hnothing, hrun]
    · simp only [View.since, hnothing, hrun, hqueues]
      exact .inr rfl
  | parsed parser => exact (hp hl).same rfl (.inl rfl)
  | message type length buffer _ _ => exact hbusy rfl ⟨id, id⟩
  | authorised type length buffer _ _ => exact hbusy rfl ⟨id, id⟩
  | touched _ => exact (hp hl).same rfl (.inl rfl)
  | served p port _ _ => exact hbusy rfl ⟨id, id⟩
  | queued bytes _ _ =>
    rw [View.send_eq] at hl ⊢
    exact (hp hl).logged (a := .queued x bytes) ⟨rfl, rfl⟩ rfl rfl (.inl rfl)
  | wrote front rest n _ _ _ =>
    rw [View.wrote_eq] at hl ⊢
    exact (hp hl).logged (a := .send x (front.unsent.take n)) ⟨rfl, rfl⟩ rfl rfl (.inl rfl)
  | writeFailed _ => exact (hp hl).logged (a := .sendFailed x) ⟨rfl, rfl⟩ rfl rfl (.inr rfl)
  | readFailed _ _ _ => exact hbusy (a := .recvFailed x) rfl ⟨id, id⟩
  | heard fd state length u64 buffer bytes rest _ _ _ => exact hbusy (a := .recv x bytes) rfl ⟨id, id⟩
  | listened c p hclosed =>
    rw [View.add_eq] at hl
    cases (hv.closed hclosed).1.symm.trans hl
  | unlistened hobserver => cases (hv.listener hobserver).1.symm.trans hl
  | watched _ => exact (hp hl).same rfl (.inl rfl)
  | gone _ _ => cases hl
  | retired _ => cases hl

/-! ### Reads -/

variable {w w' : World}

theorem World.received_eq (h : w'.trace = w.trace) : w'.received x = w.received x := by
  unfold received View.since World.view
  rw [h]

/-- What the server does about a frame reads nothing. -/
theorem react_received {decoded : Decoded} (hw : w.names.Wf) (hx : x ≠ -1)
    (hos : os.Fresh w.toRegistry) (hl : w.names.linked x = some .freeGrok)
    (h : FreeGrok.react env os x w decoded = .ok w') : w'.received x = w.received x := by
  cases decoded with
  | more state length u64 =>
    cases h
    exact World.received_eq rfl
  | message type length buffer =>
    obtain ⟨v, hprocess, h⟩ := Except.bind_ok_iff.mp h
    cases h
    obtain ⟨replies, hsaid, _⟩ := FreeGrok.processMessage_exchange hw hx hos hl hprocess
    exact (World.received_eq rfl).trans hsaid.received
  | error code =>
    cases h
    exact (World.received_eq rfl).trans (Says.send env x grokError [code] w).received

/-- The next piece of the stream is read. -/
theorem View.Parsed.read {chunk : Bytes} (hp : (w.view x).Parsed env x) (hw : w.Sound) (hx : x ≠ -1)
    (hos : os.Fresh w.toRegistry) (hl : w.names.linked x = some .freeGrok)
    (hqueue : (w.view x).queues.read ≠ []) (hne : chunk ≠ [])
    (hrecv : os.tcpRecv (Loop.lacking w x) = some chunk)
    (hread : Loop.performReadQueue env os x .freeGrok w = .ok w')
    (hreceived : w'.received x = w.received x ++ chunk) : (w'.view x).Parsed env x := by
  have hrun := (frameReader env).run_append .newMessage (w.received x) chunk
  have hparsing : Parsing w x ((frameReader env).run .newMessage (w.received x)).state
      ((frameReader env).run .newMessage (w.received x)).left :=
    ⟨hw, hl, hp.waits.resolve_left hqueue, Reader.run_left ..⟩
  obtain ⟨hparsing', hmade⟩ := hparsing.read hx hos hne hrecv hread
  have hreceived : (w'.view x).since Action.received = (w.view x).since Action.received ++ chunk :=
    hreceived
  have hold := hp.made
  unfold World.received at hrun hparsing' hmade
  constructor
  · rw [hmade, hreceived, hrun, hold]
    rfl
  · rw [hreceived, hrun]
    exact .inr hparsing'.waits

/-- **A read of a main connection goes on with the frame that it is at.** -/
theorem parsed_read (hx : x ≠ -1) (hw : w.Sound) (hos : os.Fresh w.toRegistry)
    (hl : w.names.linked x = some .freeGrok) (hp : (w.view x).Parsed env x)
    (h : Loop.performReadQueue env os x .freeGrok w = .ok w') : (w'.view x).Parsed env x := by
  have hheard (item : ReadItem) (bytes : Bytes) :
      (w.heard x item [] bytes).received x = w.received x ++ bytes := by
    unfold World.received
    rw [World.view_heard, if_pos rfl]
    exact View.since_log (a := .recv x bytes) Action.received rfl _
  have hlacking {state : PacketState} {length u64 : Nat} {buffer : Bytes}
      (hqueue : (w.view x).queues.read = [.read x state length u64 buffer]) :
      Loop.lacking w x = length - buffer.length := by
    have hqueue : (w.gatherQueue x).read = [.read x state length u64 buffer] := hqueue
    unfold Loop.lacking
    rw [hqueue]
  cases readMain_heard hw hx hl h with
  | failed state length u64 buffer _ _ =>
    have hlog := w.view_log_self (a := .recvFailed x) (x := x) rfl
    rw [World.view_clearAll, if_pos rfl, hlog]
    exact hp.logged (a := .recvFailed x) ⟨rfl, rfl⟩ rfl rfl (.inr rfl)
  | partly state length u64 buffer bytes hqueue hrecv hne _ =>
    exact hp.read hw hx hos hl (by simp [hqueue]) hne (hlacking hqueue ▸ hrecv) h (hheard ..)
  | @wholly state length u64 buffer bytes w3 hqueue hrecv hne _ hreact =>
    refine hp.read hw hx hos hl (by simp [hqueue]) hne (hlacking hqueue ▸ hrecv) h ?_
    have hdone : (Loop.popRead x w3).received x = w3.received x := World.received_eq rfl
    have hsame := react_received (w := w.heard x (.read x state length u64 (buffer ++ bytes)) [] bytes)
      hw.wf hx hos hl hreact
    exact hdone.trans (hsame.trans (hheard ..))

/-! ### Every run -/

variable {l : Listeners} {also : Loop.State → Loop.Input → Prop} {s : Loop.State}

theorem parsed_unmoved (hx : x ≠ -1) : Unmoved env Loop.anyTerms x (fun _ => True)
    (fun w => (w.view x).linked = some .freeGrok → (w.view x).Parsed env x) :=
  .of_view (V := fun v => v.linked = some .freeGrok → v.Parsed env x) hx
    (fun _ _ hv hp hmove hcalm => hmove.parses hv hp hcalm) fun _ hl hl' => absurd hl' hl

theorem ReachableIf.parsed (h : ReachableIf env l also s) (hx : x ≠ -1)
    (hl : s.world.names.linked x = some .freeGrok) : (s.world.view x).Parsed env x :=
  h.main (fun s i _ => Loop.promised_any s i) ⟨fun _ _ _ => trivial, fun _ _ _ => trivial,
    fun _ _ _ => trivial⟩ trivial (parsed_unmoved hx) (fun hl => nomatch hl)
    (fun _ _ _ hx hw hos hl _ hp hread _ => parsed_read hx hw hos hl (hp hl) hread) hl

theorem World.turns_parsed {w : World} (h : (w.view x).Parsed env x) :
    (w.turns x).flatMap Turn.reactions = Frame.parse env.zstd (w.received x) := by
  rw [World.turns_reactions, h.made]
  exact run_parse env (w.received x)

/-- **An owner is understood**: in every run, whatever else happens, what the server took the turns of
an owner for is what the bytes mean that were received from it since it was accepted. -/
theorem owner_understood (h : ReachableIf env l also s) (x : SockT) (hx : x ≠ -1)
    (hl : s.world.names.linked x = some .freeGrok) :
    (s.world.turns x).flatMap Turn.reactions = Frame.parse env.zstd (s.world.received x) :=
  World.turns_parsed (h.parsed hx hl)

theorem owner_understood_relaying :
    ∃ s, Reachable (.plain []) .plain s ∧ s.world.received 5 = [10, 0, 14] ∧
      (s.world.turns 5).flatMap Turn.reactions = Frame.parse (Env.plain []).zstd [10, 0, 14] := by
  obtain ⟨s, hs, hl, hreceived⟩ := ReachableIf.exists_of_run (.plain []) .plain (fun _ _ => True)
    relaying (fun s => s.world.linkedClients.lookup 5 = some .freeGrok ∧
      s.world.received 5 = [10, 0, 14]) (by decide +kernel) (by decide +kernel)
  exact ⟨s, hs, hreceived, hreceived ▸ owner_understood hs 5 (by decide) hl⟩

/-! ### What is sent -/

theorem unbroken_lasting : Lasting magic Q fun _ v => View.Unbroken v where
  move hv hs hmove := hmove.unbroken hv hs
  heard _ hs hheard := hheard.unbroken hs
  advanced _ hs hadvanced := hadvanced.unbroken hs

theorem ReachableIf.unbroken (h : ReachableIf env l also s) (hx : x ≠ -1) :
    (s.world.view x).Unbroken :=
  h.views (P := Loop.anyTerms) (fun s i _ => Loop.promised_any s i) unbroken_lasting
    (fun _ _ _ => rfl) x hx

/-- The frames of the server among the turns. -/
def Turn.replies : Turn → List (UInt8 × Bytes)
  | .told type payload => [(type, payload)]
  | .asked _ _ _ => []

theorem Turn.bytes_replies (turns : List Turn) : turns.flatMap (Turn.bytes env) =
    (turns.flatMap Turn.replies).flatMap fun m => FStreamer.frame env m.1 m.2 := by
  induction turns with
  | nil => rfl
  | cons turn rest ih =>
    rw [List.flatMap_cons, List.flatMap_cons, List.flatMap_append, ih]
    cases turn <;> simp [bytes, replies]

/-- A frame that another server can read. -/
def Turn.Readable (turn : Turn) : Prop :=
  ∀ m ∈ turn.replies, m.1 < 64 ∧ m.2.length ≤ maxDecompressedSize

theorem Exchange.readable {name : Bytes} {a b : Account} {said : List Turn}
    (h : Exchange name magic a said b) (hname : name.length ≤ maxDecompressedSize) :
    ∀ turn ∈ said, turn.Readable := by
  have hasked (type : UInt8) (length : Nat) (payload : Bytes) :
      (Turn.asked type length payload).Readable := nofun
  have htold {type : UInt8} {payload : Bytes} (htype : type < 64)
      (hlen : payload.length ≤ maxDecompressedSize) : (Turn.told type payload).Readable := by
    intro m hm
    rw [List.mem_singleton.mp hm]
    exact ⟨htype, hlen⟩
  have hrefused (code : UInt8) : (Turn.refused code).Readable :=
    htold (by decide) (by simp [maxDecompressedSize])
  have htold_id {type : UInt8} (id : CIdT) (htype : type < 64) :
      (Turn.told type (ByteBuffer.encode cIdSize id.toNat)).Readable :=
    htold htype (by simp [cIdSize, maxDecompressedSize])
  have hone {turn : Turn} (h : turn.Readable) : ∀ t ∈ [turn], t.Readable := by
    intro t ht
    rw [List.mem_singleton.mp ht]
    exact h
  have htwo {type : UInt8} {length : Nat} {payload : Bytes} {turn : Turn} (h : turn.Readable) :
      ∀ t ∈ [.asked type length payload, turn], t.Readable := by
    intro t ht
    rcases List.mem_cons.mp ht with rfl | ht
    · exact hasked type length payload
    · exact hone h t ht
  cases h with
  | garbled code _ => exact hone (hrefused code)
  | ping _ _ => exact htwo (htold (by decide) hname)
  | auth length payload => exact hone (hasked _ length payload)
  | created _ _ port _ _ => exact htwo (htold (by decide) (by simp [maxDecompressedSize]))
  | delivered length payload _ _ _ _ _ => exact hone (hasked _ length payload)
  | dismissed payload _ _ _ _ => exact hone (hasked _ _ payload)
  | connected _ _ id _ _ => exact hone (htold_id id (by decide))
  | relayed _ _ id bytes _ _ hlen =>
    refine hone (htold (by decide) ?_)
    rw [List.length_append, ByteBuffer.encode_length]
    simp only [redirBufSize, cIdSize, maxDecompressedSize] at hlen ⊢
    omega
  | disconnected _ _ id _ _ => exact hone (htold_id id (by decide))
  | _ => exact htwo (hrefused _)

/-- What goes out on a main connection, if no call on it failed: what was queued for it. -/
theorem ReachableIf.outgoing (hz : env.zstd.Faithful)
    (hname : env.serverName.length ≤ maxDecompressedSize) (h : ReachableIf env l Loop.IdsLeft s)
    (hx : x ≠ -1) (hl : s.world.names.linked x = some .freeGrok)
    (hfailed : (s.world.view x).since Action.failure = []) :
    (frameReader env).run .newMessage ((s.world.view x).since Action.sent ++
        (s.world.view x).queues.write.flatMap WriteItem.unsent) =
      ⟨((s.world.turns x).flatMap Turn.replies).map fun m => .message m.1 m.2.length m.2,
        .newMessage, []⟩ := by
  obtain ⟨⟨chooses, hruns⟩, hqueued⟩ := h.converses hx hl
  have hflows : s.world.queuedBytes x = (s.world.view x).since Action.sent ++
      (s.world.view x).queues.write.flatMap WriteItem.unsent := h.unbroken hx hfailed
  rw [← hflows, hqueued, Turn.bytes_replies]
  refine run_frames hz _ fun m hm => ?_
  obtain ⟨turn, hturn, hm⟩ := List.mem_flatMap.mp hm
  exact hruns.shows (fun _ _ _ he => he.readable hname) turn hturn m hm

/-- **An owner is told what the server means to tell it**: if no call on its connection failed since it
was accepted, another server's parser makes of the bytes that were sent, and those still queued, the
frames among the turns, in order; and of those sent so far the first of them. -/
theorem owner_told (hz : env.zstd.Faithful) (hname : env.serverName.length ≤ maxDecompressedSize)
    (h : ReachableIf env l Loop.IdsLeft s) (x : SockT) (hx : x ≠ -1)
    (hl : s.world.names.linked x = some .freeGrok)
    (hfailed : (s.world.view x).since Action.failure = []) :
    Frame.parse env.zstd ((s.world.view x).since Action.sent ++
        (s.world.view x).queues.write.flatMap WriteItem.unsent) =
      ((s.world.turns x).flatMap Turn.replies).map (fun m => .message m.1 m.2.length m.2) ∧
    Frame.parse env.zstd ((s.world.view x).since Action.sent) <+:
      ((s.world.turns x).flatMap Turn.replies).map fun m => .message m.1 m.2.length m.2 := by
  have hrun := h.outgoing hz hname hx hl hfailed
  rw [← run_parse, ← run_parse, hrun]
  refine ⟨rfl, ?_⟩
  rw [Reader.run_append] at hrun
  have hout := congrArg Reader.Progress.out hrun
  exact ⟨_, hout⟩

theorem owner_told_relaying :
    ∃ s, ReachableIf (.plain []) .plain Loop.IdsLeft s ∧
      (s.world.view 5).since Action.sent = [10, 2, 64, 31, 18, 4, 0, 0, 0] ∧
      Frame.parse (Env.plain []).zstd [10, 2, 64, 31, 18, 4, 0, 0, 0] <+:
        ((s.world.turns 5).flatMap Turn.replies).map fun m => .message m.1 m.2.length m.2 := by
  obtain ⟨s, hs, hl, hfailed, hsent⟩ := ReachableIf.exists_of_run (.plain []) .plain Loop.IdsLeft
    relaying (fun s => s.world.linkedClients.lookup 5 = some .freeGrok ∧
      (s.world.view 5).since Action.failure = [] ∧
      (s.world.view 5).since Action.sent = [10, 2, 64, 31, 18, 4, 0, 0, 0])
    (by decide +kernel) (by decide +kernel)
  have hz : (Env.plain []).zstd.Faithful := ⟨nofun, nofun, rfl⟩
  have htold := owner_told hz (by decide) hs 5 (by decide) hl hfailed
  exact ⟨s, hs, hsent, hsent ▸ htold.2⟩

end

end OpenGrok
