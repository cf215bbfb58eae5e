import OpenGrok.Properties.Dismissal
import OpenGrok.Properties.Guarantees

/-! A tunnel, end to end.

A client's socket is one end of a tunnel and its owner's connection the other. The turns
of the owner since it was told of the client merge the two wires of its connection, and
what they carry under the client's id is what passes over the client's socket: nothing is
lost, repeated, reordered or mixed with what other clients send. -/
namespace OpenGrok

/-! ### What turns carry -/

namespace Turn

/-- The owner is told of the id. -/
def announces (id : CIdT) (turn : Turn) : Bool :=
  decide (turn = .told grokConnected (ByteBuffer.encode cIdSize id.toNat))

/-- What the owner is sent from the client with the id. -/
def fromClient (id : CIdT) : Turn → Bytes
  | .told type payload =>
    if type = grokPacket ∧ payload.take cIdSize = ByteBuffer.encode cIdSize id.toNat then
      payload.drop cIdSize
    else []
  | .asked _ _ _ => []

/-- What the owner sends for the client with the id. -/
def toClient (id : CIdT) : Turn → Bytes
  | .asked type length payload =>
    if type = grokPacket ∧ cIdSize < length ∧ ByteBuffer.value (payload.take cIdSize) = id.toNat then
      (payload.drop cIdSize).take (length - cIdSize)
    else []
  | .told _ _ => []

end Turn

section
variable {A : SockT} {id j : CIdT} {x : SockT} {a : Action} {t new : List Action}

theorem Action.turns_toClient (a : Action) : a.turns.flatMap (Turn.toClient id) = a.packet id := by
  cases a with
  | message fd type length buffer => cases buffer <;> simp [turns, packet, Turn.toClient]
  | frame fd type payload => rfl
  | _ => rfl

/-- What is no mark for the id says nothing of it. -/
theorem Action.turns_unmarked (h : a.marks id = []) :
    (∀ turn ∈ a.turns, turn.announces id = false) ∧ a.turns.flatMap (Turn.fromClient id) = [] := by
  cases a with
  | frame fd type payload =>
    simp only [marks] at h
    split at h
    · cases h
    · next hconnected =>
      split at h
      · cases h
      · next hpacket =>
        simp only [turns, List.mem_singleton, forall_eq, List.flatMap_singleton]
        refine ⟨decide_eq_false ?_, if_neg hpacket⟩
        intro hsame
        cases hsame
        exact hconnected ⟨rfl, rfl⟩
  | message fd type length buffer =>
    simp [turns, Turn.announces, Turn.fromClient]
  | _ => simp [turns]

/-! ### The invariant -/

/-- The owner was told of the id, and what its turns carried since is what passed over the socket. -/
def Trace.Carried (A : SockT) (id : CIdT) (x : SockT) (t : List Action) : Prop :=
  ∃ early late, Trace.since Action.turns A t =
      early ++ .told grokConnected (ByteBuffer.encode cIdSize id.toNat) :: late ∧
    (∀ turn ∈ late, turn.announces id = false) ∧
    late.flatMap (Turn.fromClient id) = Trace.since Action.received x t ∧
    late.flatMap (Turn.toClient id) = Trace.since Action.queuedBytes x t

namespace Trace.Carried

/-- The owner's turns go on, and what they carry passes over the socket. -/
theorem next (h : Carried A id x t) (new : List Action) (turns : List Turn)
    (hturns : Trace.since Action.turns A (new ++ t) = Trace.since Action.turns A t ++ turns)
    (hquiet : ∀ turn ∈ turns, turn.announces id = false)
    (hreceived : Trace.since Action.received x (new ++ t) =
      Trace.since Action.received x t ++ turns.flatMap (Turn.fromClient id))
    (hqueued : Trace.since Action.queuedBytes x (new ++ t) =
      Trace.since Action.queuedBytes x t ++ turns.flatMap (Turn.toClient id)) :
    Carried A id x (new ++ t) := by
  obtain ⟨early, late, hsplit, hlate, hfrom, hto⟩ := h
  refine ⟨early, late ++ turns, ?_, fun turn hturn => ?_, ?_, ?_⟩
  · rw [hturns, hsplit, List.append_assoc, List.cons_append]
  · rcases List.mem_append.mp hturn with hturn | hturn
    · exact hlate turn hturn
    · exact hquiet turn hturn
  · rw [List.flatMap_append, hfrom, hreceived]
  · rw [List.flatMap_append, hto, hqueued]

theorem untouched_one (h : Carried A id x t) (ha : Action.Untouched A id x a) :
    Carried A id x (a :: t) := by
  have hreceived : Trace.since Action.received x (a :: t) = Trace.since Action.received x t :=
    Trace.since_other fun hx => ⟨(ha.client hx).1, (ha.client hx).2.1⟩
  have hqueued : Trace.since Action.queuedBytes x (a :: t) = Trace.since Action.queuedBytes x t :=
    Trace.since_other fun hx => ⟨(ha.client hx).1, (ha.client hx).2.2⟩
  by_cases hA : a.fd = A
  · obtain ⟨hstart, hmarks⟩ := ha.owner hA
    obtain ⟨hquiet, hfrom⟩ := Action.turns_unmarked hmarks
    have hto : a.turns.flatMap (Turn.toClient id) = [] := by
      rw [Action.turns_toClient]
      exact (ha.untold hA).2
    apply h.next [a] a.turns (Trace.since_next hA hstart) hquiet
    · rw [hfrom, List.append_nil]
      exact hreceived
    · rw [hto, List.append_nil]
      exact hqueued
  · apply h.next [a] []
    · rw [List.append_nil]
      exact Trace.since_ne hA
    · nofun
    · rw [List.flatMap_nil, List.append_nil]
      exact hreceived
    · rw [List.flatMap_nil, List.append_nil]
      exact hqueued

/-- What is of no concern to the client leaves all as it is. -/
theorem untouched (h : Carried A id x t) (new : List Action)
    (hnew : ∀ a ∈ new, Action.Untouched A id x a) :
    Carried A id x (new ++ t) := by
  induction new with
  | nil => exact h
  | cons a rest ih =>
    have hrest := ih fun b hb => hnew b (List.mem_cons_of_mem _ hb)
    exact hrest.untouched_one (hnew a (List.mem_cons_self ..))

/-- The owner is told of a client that was just accepted. -/
theorem announced {before : List Action} (hne : x ≠ A) :
    Carried A id x (.frame A grokConnected (ByteBuffer.encode cIdSize id.toNat) ::
      .accept x :: before) := by
  have hother : (Action.frame A grokConnected (ByteBuffer.encode cIdSize id.toNat)).fd ≠ x := hne.symm
  have hnothing {β : Type} (part : Action → List β) : Trace.since part x
      (.frame A grokConnected (ByteBuffer.encode cIdSize id.toNat) :: .accept x :: before) = [] :=
    (Trace.since_ne hother).trans (Trace.since_start rfl rfl)
  refine ⟨Trace.since Action.turns A (.accept x :: before), [], Trace.since_next rfl rfl, nofun, ?_, ?_⟩
  · exact (hnothing _).symm
  · exact (hnothing _).symm

end Trace.Carried

/-- What passed over the clients' sockets was carried by their owners' turns. -/
def World.Carries (w : World) : Prop :=
  ∀ p A id x, x ≠ -1 → w.names.Client p A id x → Trace.Carried A id x w.trace

variable {env : Env} {P : Terms} {w w' : World} {p : Ptr}

/-- A frame that passes on what a client sent carries it for that client, and nothing for others. -/
theorem Trace.Carried.relayed {q : Ptr} {t : Tunnel} {y : SockT} {bytes : Bytes}
    (h : Trace.Carried A id x w.trace) (hw : w.names.Wf) (hr : Roster w) (hx : x ≠ -1)
    (hc : w.names.Client p A id x) (ht : w.names.tunnel q = some t)
    (hj : t.sockToId.lookup y = some j) :
    Trace.Carried A id x (.frame t.initiator grokPacket (ByteBuffer.encode cIdSize j.toNat ++ bytes) ::
      .recv y bytes :: w.trace) := by
  by_cases hy : y = x
  · subst hy
    obtain ⟨rfl, rfl⟩ := hw.knows_one hx (hc.knows hw hx) ⟨t, ht, hj⟩
    obtain ⟨t', ht', hinitiator, hid⟩ := hc
    cases Option.some.inj (ht.symm.trans ht')
    subst hinitiator
    have hne : grokPacket ≠ grokConnected := by decide
    apply h.next [_, _] [.told grokPacket (ByteBuffer.encode cIdSize id.toNat ++ bytes)]
    · refine (Trace.since_next rfl rfl).trans (congrArg (· ++ _) ?_)
      exact Trace.since_other fun _ => ⟨rfl, rfl⟩
    · simp [Turn.announces, hne]
    · refine (Trace.since_other fun _ => ⟨rfl, rfl⟩).trans ((Trace.since_next rfl rfl).trans ?_)
      simp only [Turn.fromClient, Action.received, List.flatMap_singleton, List.take_left', List.drop_left',
        ByteBuffer.encode_length, and_self, if_true]
      rfl
    · refine (Trace.since_other fun _ => ⟨rfl, rfl⟩).trans ?_
      refine (Trace.since_other fun _ => ⟨rfl, rfl⟩).trans ?_
      simp [Turn.toClient]
  · apply h.untouched [_, _]
    intro a ha
    rcases List.mem_pair.mp ha with rfl | rfl
    · have hA : t.initiator ≠ x := hc.ne_linked hw hx (hw.initiator_linked ht) nofun
      refine .of_owner ⟨rfl, ?_⟩ hA
      rw [Action.marks_packet, if_neg]
      intro hsame
      subst hsame
      have hholds := hr.known ⟨t, ht, hj⟩
      obtain rfl := hr.unique hc.holds hholds
      exact hy (Names.Holds.fun hholds hc.holds)
    · exact .of_owner ⟨rfl, rfl⟩ hy

/-- What an effect says to an owner about its client, it does to the client. -/
theorem Concerns.carried (h : Concerns P w w' p A id x) (hw : w.names.Wf) (hr : Roster w)
    (hcarries : w.Carries) (hx : x ≠ -1) : Trace.Carried A id x w'.trace := by
  cases h with
  | untouched hc hgrows =>
    obtain ⟨new, hnew, hall⟩ := hgrows
    rw [hnew]
    exact (hcarries p A id x hx hc).untouched new hall
  | announced before later _ htrace hxA hw' hlater =>
    rw [hw', htrace]
    exact (Trace.Carried.announced hxA).untouched _ hlater
  | delivered length buffer hc hw' =>
    have hA : A ≠ x := hc.ne_linked hw hx (hc.linked hw) nofun
    have hother : (Action.message A grokPacket length (some buffer)).fd ≠ x := hA
    rw [hw']
    apply (hcarries p A id x hx hc).next [_, _] [.asked grokPacket length buffer]
    · refine (Trace.since_other fun _ => ⟨rfl, rfl⟩).trans ((Trace.since_next rfl rfl).trans ?_)
      rfl
    · simp [Turn.announces]
    · refine (Trace.since_other fun _ => ⟨rfl, rfl⟩).trans ((Trace.since_ne hother).trans ?_)
      simp [Turn.fromClient]
    · refine (Trace.since_next rfl rfl).trans (congrArg₂ (· ++ ·) (Trace.since_ne hother) ?_)
      rw [← Action.turns_toClient]
      rfl
  | relayed q t y j bytes later hc _ htunnel hj hw' hlater =>
    rw [hw']
    exact ((hcarries p A id x hx hc).relayed hw hr hx hc htunnel hj).untouched _ hlater

theorem World.Carries.of_same (h : w.Carries) (hreg : w'.toRegistry = w.toRegistry)
    (htrace : w'.trace = w.trace) : w'.Carries := by
  intro p A id x hx hc
  rw [htrace]
  exact h p A id x hx (hreg ▸ hc)

theorem World.Carries.kept : Kept env Loop.numbered fun w => Roster w ∧ w.Carries where
  effect hw hj heff := by
    obtain ⟨hr, hcarries⟩ := hj
    refine ⟨Roster.kept_numbered.effect hw hr heff, fun p A id x hx hc => ?_⟩
    exact (heff.concerns hw.wf hc hx).carried hw.wf hr hcarries hx
  heard hw hj hheard := by
    obtain ⟨hr, hcarries⟩ := hj
    cases hheard with
    | mk fd' state length u64 buffer bytes rest hl _ _ =>
      refine ⟨hr.of_same rfl rfl, fun p A id x hx hc => ?_⟩
      have hc : Names.Client _ p A id x := hc
      apply (hcarries p A id x hx hc).untouched [_]
      intro a ha
      rw [List.mem_singleton.mp ha]
      exact .of_owner ⟨rfl, rfl⟩ (hc.ne_linked hw.wf hx hl nofun)
  advanced hw hj hadvanced := by
    obtain ⟨hr, hcarries⟩ := hj
    cases hadvanced
    exact ⟨hr.of_same rfl rfl, hcarries.of_same rfl rfl⟩

variable {l : Listeners} {s : Loop.State}

theorem ReachableIf.carries (h : ReachableIf env l Loop.IdsLeft s) : s.world.Carries := by
  have hboth : Roster s.world ∧ s.world.Carries := h.invariant (P := Loop.numbered)
    (fun _ _ hi => hi.promised) ⟨Roster.boot l, fun _ _ _ _ _ hc => nomatch hc.choose_spec.1⟩
    fun _ _ _ _ hw hj hhandled => hhandled.kept World.Carries.kept hw hj
  exact hboth.2

theorem Names.Client.not_main {n : Names} (h : n.Client p A id x) (hw : n.Wf) (hx : x ≠ -1) :
    n.linked x ≠ some .freeGrok :=
  fun hl => h.ne_linked hw hx hl nofun rfl

/-! ### Both ends -/

/-- **A tunnel is transparent**: in every run in which ids do not run out, the turns of an owner, to
which the bytes it has sent amount, tell it once and for all of each client that its proxy has; and
what they carry since under the client's id is exactly what was received from the client's socket,
and, unless a `send` on it failed, what was and will be sent on it. Unless a call on the owner's
connection failed, the bytes that go out to it amount to these turns as well, with a zstd that can
read what it wrote and a name that fits into a payload. -/
theorem tunnel_transparent (h : ReachableIf env l Loop.IdsLeft s) (p : Ptr) (A : SockT) (id : CIdT)
    (x : SockT) (hx : x ≠ -1) (hc : s.world.names.Client p A id x) :
    ∃ early late : List Turn,
      let turns := early ++ .told grokConnected (ByteBuffer.encode cIdSize id.toNat) :: late
      -- the owner's connection
      Frame.parse env.zstd (s.world.received A) = turns.flatMap Turn.reactions ∧
      (env.zstd.Faithful → env.serverName.length ≤ maxDecompressedSize →
        (s.world.view A).since Action.failure = [] →
        Frame.parse env.zstd ((s.world.view A).since Action.sent ++
          (s.world.view A).queues.write.flatMap WriteItem.unsent) =
            (turns.flatMap Turn.replies).map (fun m => .message m.1 m.2.length m.2)) ∧
      (∀ turn ∈ late, turn.announces id = false) ∧
      -- the client's
      s.world.received x = late.flatMap (Turn.fromClient id) ∧
      ((s.world.view x).since Action.sendFailure = [] →
        (s.world.view x).since Action.sent ++
          (s.world.view x).queues.write.flatMap WriteItem.unsent = late.flatMap (Turn.toClient id)) := by
  have hw := (Reachable.sound h).world.wf
  have hl := hc.linked hw
  have hAx := hc.owner_ne hw
  obtain ⟨early, late, hturns, hquiet, hfrom, hto⟩ := h.carries p A id x hx hc
  have hturns : s.world.turns A =
      early ++ .told grokConnected (ByteBuffer.encode cIdSize id.toNat) :: late := hturns
  refine ⟨early, late, ?_, fun hz hname hA => ?_, hquiet, hfrom.symm, fun hsend => ?_⟩
  · rw [← hturns, World.turns_parsed (h.parsed hAx hl)]
  · rw [← hturns, ← run_parse, h.outgoing hz hname hAx hl hA]
  · have hlinked : (s.world.view x).linked ≠ some .freeGrok := hc.not_main hw hx
    have hstream : s.world.queuedBytes x = _ :=
      Reachable.streams (h.mono fun _ _ h => ⟨h.1, trivial⟩) hx hlinked hsend
    rw [← hstream]
    exact hto.symm

/-- The client 7 sends two bytes to its owner 5, and is sent one. -/
theorem tunnel_transparent_both :
    ∃ s early late, ReachableIf (.plain []) .plain Loop.IdsLeft s ∧
      let turns := early ++ .told grokConnected [0, 0, 0, 0] :: late
      Frame.parse (Env.plain []).zstd [10, 0, 14, 5, 0, 0, 0, 0, 9] =
        turns.flatMap Turn.reactions ∧
      Frame.parse (Env.plain []).zstd
          [10, 2, 64, 31, 18, 4, 0, 0, 0, 0, 14, 6, 0, 0, 0, 0, 1, 2] =
        (turns.flatMap Turn.replies).map (fun m => .message m.1 m.2.length m.2) ∧
      [1, 2] = late.flatMap (Turn.fromClient 0) ∧ [9] = late.flatMap (Turn.toClient 0) := by
  obtain ⟨s, hs, ⟨hreceived, hout, hA, hsend, hfrom, hto⟩, hproxy⟩ := ReachableIf.exists_of_run
    (.plain []) .plain Loop.IdsLeft
    (twoOwners ++ [.readable 7 6, .data [1, 2], .readable 5 2, .data [14, 5], .readable 5 2,
      .data [0, 0, 0, 0, 9], .wait [⟨⟨7, { epollout := true }⟩, 6⟩], .handle { send := 1 }])
    (fun s => (s.world.received 5 = [10, 0, 14, 5, 0, 0, 0, 0, 9] ∧
        (s.world.view 5).since Action.sent ++
          (s.world.view 5).queues.write.flatMap WriteItem.unsent =
            [10, 2, 64, 31, 18, 4, 0, 0, 0, 0, 14, 6, 0, 0, 0, 0, 1, 2] ∧
        (s.world.view 5).since Action.failure = [] ∧ (s.world.view 7).since Action.sendFailure = [] ∧
        s.world.received 7 = [1, 2] ∧ (s.world.view 7).since Action.sent ++
          (s.world.view 7).queues.write.flatMap WriteItem.unsent = [9]) ∧
      (s.world.proxies.lookup 0).any fun px => px.initiator = 5 ∧ px.idToSock.lookup 0 = some 7)
    (by decide +kernel) (by decide +kernel)
  obtain ⟨px, hpx, hfields⟩ := (Option.any_eq_true _ _).mp hproxy
  obtain ⟨howner, hid⟩ := of_decide_eq_true hfields
  have hz : (Env.plain []).zstd.Faithful := ⟨nofun, nofun, rfl⟩
  obtain ⟨early, late, hparsed, htold, _, hup, hdown⟩ := tunnel_transparent hs 0 5 0 7 (by decide)
    ⟨_, (World.proxy_names hpx).1, howner, hid⟩
  exact ⟨s, early, late, hs, hreceived ▸ hparsed, hout ▸ htold hz (by decide) hA, hfrom ▸ hup,
    hto ▸ hdown hsend⟩

end

end OpenGrok
