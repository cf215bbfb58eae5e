import OpenGrok.Loop.Outcome
import OpenGrok.Properties.Answers
import OpenGrok.Properties.Dismissal
import OpenGrok.Properties.Headers
import OpenGrok.Properties.Teardown

/-! The HTTP interface in a run.

Each HTTP connection is served as if it were alone: its parser is what a new parser
becomes when it is fed what was received from the connection, in the pieces in which it
was received, and the bytes queued for it are the responses to these. No event of
another descriptor, no tunnel and no earlier connection on the same descriptor has a
part in it. -/
namespace OpenGrok

/-! ### A parser alone -/

/-- What one `tcp_recv` delivered. -/
@[grind] def Action.piece : Action → List Bytes
  | .recv _ bytes => [bytes]
  | _ => []

/-- What a feed makes of the parser, whatever else there is. -/
def StreamingParser.next (env : Env) (parser : StreamingParser) (buffer : Bytes) :
    StreamingParser :=
  { (env.llhttpExecute parser.fed buffer).1.foldl hear parser with fed := parser.fed ++ [buffer] }

/-- The responses to the pieces, fed to a new parser one after the other. -/
def HttpInterface.responses (env : Env) (pieces : List Bytes) : List Response :=
  (StreamingParser.results env [] pieces).flatMap (given env)

/-- The parser of the descriptor, after it was fed the pieces. -/
def StreamingParser.after (env : Env) (x : SockT) (pieces : List Bytes) : StreamingParser :=
  pieces.foldl (next env) { u64 := x }

/-- The parser and what was queued are what the pieces received make of them. -/
structure View.Alone (env : Env) (x : SockT) (v : View) : Prop where
  parser : v.parser = some (StreamingParser.after env x (v.since Action.piece))
  queued : v.since Action.queuedBytes =
    (HttpInterface.responses env (v.since Action.piece)).flatMap Response.render

/-- An HTTP connection is served as if it were alone. -/
def View.Served (env : Env) (x : SockT) (v : View) : Prop :=
  v.linked = some .httpInterface → v.Alone env x

section
variable {env : Env} {os : Os} {P : Terms} {w w' w'' : World} {x fd : SockT}

namespace StreamingParser

theorem results_append (fed first second : List Bytes) :
    results env fed (first ++ second) =
      results env fed first ++ results env (fed ++ first) second := by
  induction first generalizing fed with
  | nil => rw [List.append_nil]; rfl
  | cons buffer rest ih =>
    rw [List.cons_append, results, ih, results, List.append_assoc]
    rfl

theorem hear_u64 (callbacks : List HttpCallback) (parser : StreamingParser) :
    (callbacks.foldl hear parser).u64 = parser.u64 := by
  induction callbacks generalizing parser with
  | nil => rfl
  | cons c rest ih =>
    rw [List.foldl_cons, ih]
    cases c <;> rfl

theorem after_append (x : SockT) (pieces : List Bytes) (piece : Bytes) :
    after env x (pieces ++ [piece]) = (after env x pieces).next env piece := by
  rw [after, List.foldl_append]
  rfl

/-- The parser of a connection has been fed its pieces and no others. -/
theorem after_fields (x : SockT) (pieces : List Bytes) :
    (after env x pieces).fed = pieces ∧ (after env x pieces).u64 = x := by
  induction pieces using List.reverseRecOn with
  | nil => exact ⟨rfl, rfl⟩
  | append_singleton pieces piece ih =>
    obtain ⟨hfed, hu⟩ := ih
    rw [after_append]
    refine ⟨?_, (hear_u64 _ _).trans hu⟩
    show (after env x pieces).fed ++ [piece] = _
    rw [hfed]

end StreamingParser

theorem HttpInterface.responses_append (pieces : List Bytes) (piece : Bytes) :
    responses env (pieces ++ [piece]) =
      responses env pieces ++ given env (env.llhttpExecute pieces piece) := by
  unfold responses
  rw [StreamingParser.results_append, List.flatMap_append, List.nil_append]
  exact congrArg _ (List.flatMap_singleton ..)

/-! ### Other descriptors -/

/-- An HTTP connection that is still there is as it was. -/
def World.Aside (x : SockT) (w w' : World) : Prop :=
  (w'.view x).linked = some .httpInterface → w'.view x = w.view x

namespace World.Aside

theorem refl (w : World) : Aside x w w := fun _ => rfl

theorem trans (h : Aside x w w') (h' : Aside x w' w'') : Aside x w w'' := by
  intro hl
  have hview := h' hl
  rw [hview] at hl ⊢
  exact h hl

theorem of_ite {p : Prop} [Decidable p] {v : View} (hview : w'.view x = if p then v else w.view x)
    (h : p → v.linked ≠ some .httpInterface) : Aside x w w' := by
  intro hl
  rw [hview] at hl ⊢
  split at hl
  · next hp => exact absurd hl (h hp)
  · next hp => exact if_neg hp

/-- What happens to the view of a main connection, and to no other. -/
theorem of_view (hl : (w.view fd).linked = some .freeGrok) (hview : x ≠ fd → w'.view x = w.view x)
    (hreg : w'.toRegistry = w.toRegistry) : Aside x w w' := by
  intro hlinked
  apply hview
  rintro rfl
  have hlinked : w'.names.linked x = some .httpInterface := hlinked
  rw [hreg] at hlinked
  have hl : w.names.linked x = some .freeGrok := hl
  cases hl.symm.trans hlinked

/-- What happens to a connection of another observer. -/
theorem of_other {o : ObserverPtr} {v : View} (hview : w'.view x = if x = fd then v else w.view x)
    (hl : (w.view fd).linked = some o) (ho : o ≠ .httpInterface)
    (h : x = fd → v.linked = (w.view x).linked) : Aside x w w' := by
  refine of_ite hview fun he hlinked => ?_
  subst he
  rw [h rfl, hl] at hlinked
  exact ho (Option.some.inj hlinked)

theorem served (h : Aside x w w') (hs : (w.view x).Served env x) : (w'.view x).Served env x := by
  intro hl
  have hview := h hl
  rw [hview] at hl ⊢
  exact hs hl

end World.Aside

theorem World.Aside.frame {A : SockT} (hl : (w.view A).linked = some .freeGrok) (type : UInt8)
    (payload : Bytes) : Aside x w (FStreamer.send env A type payload w) :=
  of_other (World.view_frame ..) hl (by decide) fun _ => (View.frame_fields ..).1

theorem World.Aside.left (o : ObserverPtr) (b : IObserver) : Aside x w (w.left fd o b) :=
  of_ite (World.view_left ..) fun _ => by simp [View.gone]

theorem unused_unlinked {sock : SockT} (hw : w.names.Wf) (hu : Unused w.toRegistry sock) :
    w.names.linked sock ≠ some .httpInterface := by
  intro hl
  have hne : sock ≠ -1 := by
    have hnonneg := hu.nonneg
    intro hneg
    rw [hneg] at hnonneg
    exact absurd hnonneg (by decide)
  exact (hw.linked_open hne hl).1 hu.closed

/-- A proxy made for a main connection listens on a descriptor that was not open. -/
theorem World.Aside.created {A sock : SockT} (hw : w.names.Wf) (hl : w.names.linked A = some .freeGrok)
    (hu : Unused w.toRegistry sock) (port listeningPort : UInt16) :
    Aside x w (w.created A sock port listeningPort) := by
  intro hx
  have hview := World.view_created w x A (hw.ne_unused hl hu) port listeningPort
  rw [hview] at hx ⊢
  by_cases hA : x = A
  · rw [if_pos hA] at hx
    have hx : w.names.linked x = some .httpInterface := hx
    rw [hA, hl] at hx
    cases hx
  · rw [if_neg hA] at hx ⊢
    by_cases hs : x = sock
    · rw [if_pos hs, View.add_eq] at hx
      exact absurd hx (hs ▸ unused_unlinked hw hu)
    · rw [if_neg hs]

theorem World.Aside.deleted {b : IObserver} (hs : w.names.linked b.socket ≠ some .httpInterface)
    (p : Ptr) (l : List SockT) : Aside x w (w.deleted p b l) := by
  have hall : Aside x w (w.detachedAll l) :=
    .of_ite (World.view_detachedAll ..) fun _ => by simp [View.gone]
  refine hall.trans (.of_ite (World.view_deleted ..) fun he hlinked => ?_)
  have hview := hall hlinked
  subst he
  have hlinked : ((w.detachedAll l).view b.socket).linked = some .httpInterface := hlinked
  rw [hview] at hlinked
  exact hs hlinked

/-- What a frame of a main connection does, it does not do to HTTP connections. -/
theorem Command.aside {A : SockT} {said : List Reaction} (h : Command env P A w said w')
    (hw : w.names.Wf) (hl : w.names.linked A = some .freeGrok) (hx : x ≠ -1) :
    World.Aside x w w' := by
  have hlog (type : UInt8) (length : Nat) (buffer : Option Bytes) :
      World.Aside x w (w.log (.message A type length buffer)) :=
    .of_other (World.view_log ..) hl (by decide) fun _ => rfl
  cases h with
  | message type length buffer _ _ => exact hlog type length buffer
  | granted type length buffer _ =>
    refine (hlog type length buffer).trans ?_
    exact .of_other (World.view_granted ..) (o := .freeGrok) hl (by decide) fun _ => rfl
  | delivered p t id y length buffer body ht _ hid _ _ =>
    refine (hlog grokPacket length (some buffer)).trans (.of_ite (World.view_send ..) fun he hlinked => ?_)
    subst he
    rw [View.send_eq] at hlinked
    have hlinked : w.names.linked x = some .httpInterface := hlinked
    cases hw.sock_linked ht (hw.id_sock ht hid hx) hx hlinked
  | dropped p px id y o b buffer _ _ _ _ _ _ _ =>
    exact (hlog grokDisconnect cIdSize (some buffer)).trans (.left o b)
  | untabled p px id y buffer _ _ _ _ _ => exact hlog grokDisconnect cIdSize (some buffer)
  | replied type payload _ _ => exact .frame hl type payload
  | touched => exact .of_other (World.view_gatherUser ..) hl (by decide) fun _ => rfl
  | created sock port listeningPort _ _ hu _ => exact .created hw hl hu port listeningPort
  | discarded sock port _ _ hu _ =>
    have hl' : (w.created A sock port 0).names.linked A = some .freeGrok := by
      rw [World.names_created]
      exact hl
    have hsock : (FStreamer.send env A grokError [internalServerError]
        (w.created A sock port 0)).names.linked sock ≠ some .httpInterface := by
      rw [FStreamer.send_registry, World.names_created]
      exact unused_unlinked hw hu
    have hsent : World.Aside x (w.created A sock port 0) (FStreamer.send env A grokError
      [internalServerError] (w.created A sock port 0)) := .frame hl' _ _
    exact ((World.Aside.created hw hl hu port 0).trans hsent).trans (.deleted hsock _ _)

theorem Commands.aside {A : SockT} {said : List Reaction} (h : Commands env P A w said w')
    (hw : w.names.Wf) (hl : w.names.linked A = some .freeGrok) (hA : A ≠ -1) (hx : x ≠ -1) :
    World.Aside x w w' := by
  induction h with
  | refl => exact .refl w
  | tail hsteps hc ih =>
    obtain ⟨_, hw', hl', _⟩ := Commands.effects hsteps hl hw hA
    exact ih.trans (hc.aside hw' hl' hx)

theorem MainRead.aside {A : SockT} (h : MainRead env P A w w') (hw : w.Sound)
    (hl : w.names.linked A = some .freeGrok) (hA : A ≠ -1) (hx : x ≠ -1) : World.Aside x w w' := by
  cases h with
  | failed _ _ =>
    have hlog : World.Aside x w (w.log (.recvFailed A)) :=
      .of_other (World.view_log ..) hl (by decide) fun _ => rfl
    exact hlog.trans (.of_other (World.view_clearAll ..) (o := .freeGrok) hl (by decide) fun _ => rfl)
  | heard fd' state length u64 buffer bytes rest _ _ =>
    exact .of_other (World.view_heard ..) hl (by decide) fun _ => rfl
  | frame hheard hcommands hadvanced =>
    have hl1 := hheard.registry ▸ hl
    have hw1 := (hheard.sound hw).wf
    obtain ⟨_, _, hl2, _⟩ := hcommands.effects hl1 hw1 hA
    have hfirst := World.Aside.of_view hl fun hne => (hheard.view x).2 hne
    refine (hfirst hheard.registry).trans ((hcommands.aside hw1 hl1 hA hx).trans ?_)
    exact .of_view hl2 (fun hne => (hadvanced.view x).2 hne) hadvanced.registry

/-! ### Events -/

theorem World.Aside.torn {A : SockT} {p : Ptr} {px : GrokProxy} (hw : w.names.Wf)
    (hp : w.proxies.lookup p = some px) :
    Aside x w (w.torn A env p px w.freeGrok) := by
  intro hlinked
  apply World.torn_others
  have hlinked : (w.torn A env p px w.freeGrok).names.linked x = some .httpInterface := hlinked
  rw [World.names_torn w A env hp rfl] at hlinked
  dsimp only at hlinked
  split at hlinked
  · cases hlinked
  · next hother =>
    rintro (hA | hsocket | hmem)
    · exact hother (.inl hA)
    · obtain ⟨ht, hb⟩ := World.proxy_names hp
      obtain ⟨b, hb', hob⟩ := hw.tunnel_observed ht
      cases Option.some.inj (hb.symm.trans hb')
      rw [hsocket, hw.observer_unlinked hob] at hlinked
      cases hlinked
    · exact hother (.inr ((env.order_perm _).mem_iff.mpr hmem))

theorem HttpInterface.onDisconnect_view (hne : x ≠ fd) (w : World) :
    (HttpInterface.onDisconnect fd w).view x = w.view x := by
  unfold HttpInterface.onDisconnect
  split
  · rfl
  · exact (World.view_forgot w x fd).trans (if_neg hne)

theorem HungUp.aside (h : HungUp env fd w w') (hw : w.Sound) : World.Aside x w w' := by
  cases h with
  | nobody _ => exact .refl w
  | listener _ hl =>
    intro hlinked
    apply HttpInterface.onDisconnect_view
    rintro rfl
    have hlinked : (HttpInterface.onDisconnect x w).names.linked x = some .httpInterface := hlinked
    rw [HttpInterface.onDisconnect_linked, hl] at hlinked
    cases hlinked
  | idle b _ _ _ => exact .left _ b
  | owner u p px _ _ _ hp => exact .torn hw.wf hp
  | client p px id b hl hp _ _ =>
    have hinitiator : (w.untabled fd p px id).names.linked px.initiator = some .freeGrok := by
      rw [World.names_untabled w fd hp]
      exact hw.wf.initiator_linked (World.proxy_names hp).1
    have hframe : World.Aside x w (FreeGrok.sendDisconnected env px.initiator id
      (w.untabled fd p px id)) := .frame hinitiator _ _
    exact hframe.trans (.left _ b)
  | http b hl _ =>
    intro hlinked
    rw [World.view_left] at hlinked ⊢
    split at hlinked
    · cases hlinked
    · next hne =>
      rw [if_neg hne]
      exact HttpInterface.onDisconnect_view hne w

theorem World.arrived_open {o : ObserverPtr} (ho : os.accept ≠ -1) (w : World) :
    w.arrived os o = w.accepted os.accept (opening os.accept o) := by
  unfold arrived tcpAccept
  rw [if_neg ho]
  rfl

theorem World.arrived_failed {o : ObserverPtr} (ho : os.accept = -1) (hx : x ≠ -1) (w : World) :
    (w.arrived os o).view x = w.view x := by
  unfold arrived tcpAccept
  rw [if_pos ho, World.view_pushRead, if_neg hx]

theorem World.arrived_other {o : ObserverPtr} (hx : x ≠ -1) (hne : x ≠ os.accept) (w : World) :
    (w.arrived os o).view x = w.view x := by
  by_cases ho : os.accept = -1
  · exact arrived_failed ho hx w
  · rw [arrived_open ho, World.view_accepted, if_neg hne]

theorem Met.aside {o : ObserverPtr} (h : Met env os w o w') (hw : w.Sound) (hx : x ≠ -1)
    (hne : x ≠ os.accept) : World.Aside x w w' := by
  have hsame := h.linked
  cases h with
  | freeGrok => exact fun _ => World.arrived_other hx hne w
  | httpInterface =>
    intro _
    rw [World.view_setParser, tcpAccept_fst, if_neg hne]
    exact World.arrived_other hx hne w
  | grokProxy p px hp =>
    intro hlinked
    have hinitiator : x ≠ px.initiator := by
      rintro rfl
      have hlinked : _ = some ObserverPtr.httpInterface := (congrFun hsame px.initiator).symm.trans hlinked
      rw [hw.wf.initiator_linked (World.proxy_names hp).1] at hlinked
      cases hlinked
    rw [World.view_announced, if_neg hinitiator]
    exact World.arrived_other hx hne w

/-- A connection that `accept` just gave, with a new parser. -/
theorem View.alone_new (hx : x ≠ -1) (hne : os.accept = x) (w : World) :
    ((HttpInterface.setParser x { u64 := x } (w.arrived os .httpInterface)).view x).Alone env x := by
  rw [World.view_setParser, if_pos rfl, World.arrived_open (hne ▸ hx), hne, World.view_accepted,
    if_pos rfl]
  exact ⟨rfl, rfl⟩

/-- What is neither read nor queued leaves the connection as it is. -/
theorem View.Alone.of_since {v v' : View} (h : v.Alone env x) (hparser : v'.parser = v.parser)
    (hpieces : v'.since Action.piece = v.since Action.piece)
    (hqueued : v'.since Action.queuedBytes = v.since Action.queuedBytes) : v'.Alone env x where
  parser := by rw [hparser, hpieces, h.parser]
  queued := by rw [hqueued, hpieces, h.queued]

theorem View.Alone.logged {v v' : View} (h : v.Alone env x) (hparser : v'.parser = v.parser) (a : Action)
    (hhistory : v'.history = a :: v.history) (hstart : a.isStart = false) (hpiece : a.piece = [])
    (hqueued : a.queuedBytes = []) : v'.Alone env x := by
  apply h.of_since hparser
  · unfold View.since
    rw [hhistory, History.since_cons _ _ hstart, hpiece, List.append_nil]
  · unfold View.since
    rw [hhistory, History.since_cons _ _ hstart, hqueued, List.append_nil]

/-- Answers add to what is queued, and to nothing else. -/
theorem since_queued {news : List Action} (h : ∀ a ∈ news, ∃ bytes, a = .queued x bytes)
    (before : List Action) :
    History.since Action.isStart Action.piece (news ++ before) =
        History.since Action.isStart Action.piece before ∧
      History.since Action.isStart Action.queuedBytes (news ++ before) =
        History.since Action.isStart Action.queuedBytes before ++ queuedIn news := by
  constructor
  · apply History.since_append
    intro a ha
    obtain ⟨bytes, rfl⟩ := h a ha
    exact ⟨rfl, rfl⟩
  · induction news with
    | nil => simp [queuedIn]
    | cons a rest ih =>
      obtain ⟨bytes, rfl⟩ := h a (List.mem_cons_self ..)
      rw [List.cons_append, History.since_cons _ _ rfl, ih fun b hb => h b (List.mem_cons_of_mem _ hb)]
      simp [queuedIn]

/-- What a feed does to the connection: it queues the responses. -/
theorem feed_view (parser : StreamingParser) (bytes : Bytes) (hu : parser.u64 = x) (w : World) :
    ((parser.feed env bytes w).2.view x).since Action.piece = (w.view x).since Action.piece ∧
      ((parser.feed env bytes w).2.view x).since Action.queuedBytes =
        (w.view x).since Action.queuedBytes ++
          (HttpInterface.given env (env.llhttpExecute parser.fed bytes)).flatMap Response.render := by
  obtain ⟨news, hhistory, hqueued⟩ := (@feed_queues env parser bytes w).1
  rw [hu] at hhistory
  have hall : ∀ a ∈ news, ∃ bytes, a = .queued x bytes := by
    have hgrows : Grows (fun a => ∃ bytes, a = .queued x bytes) w (parser.feed env bytes w).2 :=
      StreamingParser.feed_grows env parser bytes w fun bytes => ⟨bytes, hu ▸ rfl⟩
    obtain ⟨new, htrace, hnew⟩ := hgrows
    simp only [World.view, htrace, List.filter_append] at hhistory
    rw [← List.append_cancel_right hhistory]
    intro a ha
    exact hnew a (List.mem_filter.mp ha).1
  obtain ⟨hpieces, hbytes⟩ := since_queued hall (w.view x).history
  unfold View.since
  rw [hhistory, hpieces, hbytes, hqueued]
  exact ⟨rfl, rfl⟩

/-- The connection's parser is fed a piece more. -/
theorem View.Alone.fed {parser : StreamingParser} (h : (w.view x).Alone env x)
    (hparser : (w.view x).parser = some parser) (bytes : Bytes) :
    ((HttpInterface.setParser x (parser.feed env bytes (w.log (.recv x bytes))).1
      (parser.feed env bytes (w.log (.recv x bytes))).2).view x).Alone env x := by
  cases Option.some.inj (h.parser.symm.trans hparser)
  obtain ⟨hfed, hu⟩ := @StreamingParser.after_fields env x ((w.view x).since Action.piece)
  have hheard : (w.log (.recv x bytes)).view x = (w.view x).log (.recv x bytes) :=
    World.view_log_self w rfl
  obtain ⟨hpieces, hqueued⟩ := @feed_view env x (StreamingParser.after env x
    ((w.view x).since Action.piece)) bytes hu (w.log (.recv x bytes))
  rw [hheard, View.since_log _ rfl] at hpieces hqueued
  rw [World.view_setParser, if_pos rfl]
  constructor
  · show some _ = some (StreamingParser.after env x
      (((StreamingParser.feed ..).2.view x).since Action.piece))
    rw [hpieces, StreamingParser.feed_fst]
    exact congrArg some (StreamingParser.after_append x _ bytes).symm
  · show ((StreamingParser.feed ..).2.view x).since Action.queuedBytes = (HttpInterface.responses env
      (((StreamingParser.feed ..).2.view x).since Action.piece)).flatMap Response.render
    rw [hpieces, hqueued, h.queued, hfed]
    show _ = (HttpInterface.responses env (_ ++ [bytes])).flatMap Response.render
    rw [HttpInterface.responses_append, List.flatMap_append]
    simp [Action.queuedBytes]

theorem Met.served {o : ObserverPtr} {b : IObserver} (h : Met env os w o w') (hw : w.Sound)
    (hx : x ≠ -1) (hs : (w.view x).Served env x) :
    ((w'.admitted (tcpAccept os w).1 o b).view x).Served env x := by
  rw [tcpAccept_fst]
  by_cases hne : x = os.accept
  · intro hl
    rw [World.view_admitted, if_pos hne] at hl ⊢
    cases hl
    cases h with
    | httpInterface =>
      rw [tcpAccept_fst, ← hne]
      refine (View.alone_new hx hne.symm w).of_since ?_ ?_ ?_ <;> rw [View.add_eq]
      · rfl
      · rfl
  · refine World.Aside.served ((h.aside hw hx hne).trans ?_) hs
    intro _
    rw [World.view_admitted, if_neg hne]

theorem DidRead.served (h : DidRead env os fd w w') (hw : w.Sound) (hfd : fd ≠ -1)
    (hos : os.Fresh w.toRegistry) (hx : x ≠ -1) (hs : (w.view x).Served env x) :
    (w'.view x).Served env x := by
  cases h with
  | accepted o b _ hmet _ => exact hmet.served hw hx hs
  | frame hl hread =>
    have hmain := readMain_read (P := Loop.anyTerms) hw hfd hl hos (fun _ _ => trivial)
      (fun _ => trivial) hread
    exact (hmain.aside hw hl hfd hx).served hs
  | unheard _ => exact hs
  | relayed p t id bytes hl ht _ _ =>
    have hlog : World.Aside x w (w.log (.recv fd bytes)) :=
      .of_other (World.view_log ..) hl (by simp) fun _ => rfl
    have hinitiator : (w.log (.recv fd bytes)).names.linked t.initiator = some .freeGrok :=
      hw.wf.initiator_linked ht
    have hframe (payload : Bytes) : World.Aside x (w.log (.recv fd bytes))
        (FStreamer.send env t.initiator grokPacket payload (w.log (.recv fd bytes))) :=
      .frame hinitiator _ _
    exact (hlog.trans (hframe _)).served hs
  | fed parser bytes hl hparser _ =>
    by_cases hne : x = fd
    · subst hne
      exact fun _ => (hs hl).fed hparser bytes
    · have hu := hw.wf.parser_u64 hparser
      refine World.Aside.served (fun _ => ?_) hs
      rw [World.view_setParser, if_neg hne]
      refine StreamingParser.feed_keeps env (I := fun v => v.view x = w.view x) parser bytes
        (fun bytes v hv => ?_) ((World.view_log ..).trans (if_neg hne))
      rw [World.view_send, hu, if_neg hne, hv]

theorem DidWrite.aside (h : DidWrite env os fd w true w') (hw : w.Sound)
    (hos : os.Fresh w.toRegistry) (hx : x ≠ -1) : World.Aside x w w' := by
  cases h with
  | @connected o b w1 ho hmet _ _ =>
    have hview : (Selector.modify fd eventsR (w1.setObserver o { b with isConnected := true })).view x =
        if x = fd then (w1.view x).modify eventsR else w1.view x := by
      rw [World.view_modify, World.view_setObserver]
    have hmodify : World.Aside x w1 (Selector.modify fd eventsR
        (w1.setObserver o { b with isConnected := true })) := by
      refine .of_ite hview fun he hlinked => ?_
      have hlinked : w1.names.linked x = some .httpInterface := hlinked
      rw [hmet.linked, he, hw.wf.observer_unlinked ho] at hlinked
      cases hlinked
    refine .trans (fun hlinked => ?_) hmodify
    have hopen : w.names.linked x = some .httpInterface := hmet.linked ▸ hlinked
    refine hmet.aside hw hx ?_ hlinked
    rintro rfl
    rcases hos.accept with hneg | hu
    · exact hx hneg
    · exact unused_unlinked hw.wf hu hopen

/-- Writing takes nothing from what was queued, and nothing to the parser. -/
theorem View.Served.written {ev : Loop.Event} (h : Loop.written os ev w = .ok w')
    (hs : (w.view x).Served env x) : (w'.view x).Served env x := by
  unfold Loop.written at h
  split at h
  · obtain ⟨front, rest, _, ⟨_, rfl⟩ | ⟨_, rfl⟩⟩ := performWriteQueue_spec h
    · rw [World.view_writeFailed]
      split
      · intro hl
        exact (hs hl).logged rfl (.sendFailed _) rfl rfl rfl rfl
      · exact hs
    · rw [World.view_wrote]
      split
      · rw [View.wrote_eq]
        intro hl
        exact (hs hl).logged rfl (.send _ _) rfl rfl rfl rfl
      · exact hs
  · cases h
    exact hs

theorem Outcome.served {ev : Loop.Event} (h : Outcome env os ev w w') (hw : w.Sound)
    (hfd : ev.fd ≠ -1) (hos : os.Fresh w.toRegistry) (hx : x ≠ -1)
    (hs : (w.view x).Served env x) : (w'.view x).Served env x := by
  cases h with
  | hungUp _ h => exact (h.aside hw).served hs
  | connected _ _ h => exact (h.aside hw hos hx).served hs
  | written _ _ h => exact hs.written h
  | read _ _ hwritten h =>
    have hreg := Loop.written_registry hwritten
    exact h.served (Loop.written_sound hw hfd hwritten) hfd (hreg ▸ hos) hx (hs.written hwritten)

/-! ### Runs -/

open HttpInterface

variable {l : Listeners} {also : Loop.State → Loop.Input → Prop} {s : Loop.State}

theorem ReachableIf.served (h : ReachableIf env l also s) (hx : x ≠ -1) :
    (s.world.view x).Served env x := by
  refine Reach.invariant (P := fun s => (s.world.view x).Served env x) h ?_ ?_
  · intro hl
    cases hl
  · intro s i s' hr hs hallowed hstep
    have hsound : s.Sound := Reachable.sound hr
    cases i with
    | wait batch =>
      rw [Loop.step_wait hstep]
      exact hs
    | handle os =>
      obtain ⟨_, rfl⟩ | ⟨ev, rest, broke, w, hpending, hhandle, rfl⟩ := Loop.step_handle hstep
      · exact hs
      · have hfd : ev.event.fd ≠ -1 := hsound.pending ev (by simp [hpending])
        exact (handleEvent_outcome hsound.world hfd hhandle).served hsound.world hfd hallowed.1.2 hx hs

/-- **Every HTTP connection is served as if it were alone**: in every run, whatever system calls
return and whatever happens to other descriptors, its parser is what a new parser becomes when it is
fed what was received from it since it was accepted, piece by piece; the bytes queued for it since are
the responses to these feeds, in order; and as long as no `send` on it failed, they are what was sent
to it and what still waits to be sent. -/
theorem pages_answered (h : Reachable env l s) (hx : x ≠ -1)
    (hl : s.world.linkedClients.lookup x = some .httpInterface) :
    let v := s.world.view x
    let pieces := v.since Action.piece
    s.world.http.parsers.lookup x = some (StreamingParser.after env x pieces) ∧
      v.since Action.queuedBytes = (responses env pieces).flatMap Response.render ∧
      (v.since Action.sendFailure = [] →
        v.since Action.sent ++ v.queues.write.flatMap WriteItem.unsent =
          (responses env pieces).flatMap Response.render) := by
  obtain ⟨hparser, hqueued⟩ := ReachableIf.served h hx hl
  refine ⟨hparser, hqueued, fun hsend => ?_⟩
  have hlinked : (s.world.view x).linked ≠ some .freeGrok := by
    show s.world.linkedClients.lookup x ≠ _
    rw [hl]
    decide
  exact (Reachable.streams h hx hlinked hsend).symm.trans hqueued

/-- A request in two pieces, of whose answer ten bytes are sent. -/
theorem pages_answered_cut : ∃ s, Reachable .requested .plain s ∧
    s.world.http.parsers.lookup 5 =
      some (StreamingParser.after .requested 5 [requestFront, requestBack]) ∧
    ((s.world.view 5).since Action.sent).length = 10 ∧
    (s.world.view 5).since Action.sent ++ (s.world.view 5).queues.write.flatMap WriteItem.unsent =
      (okResponse .requested).render := by
  obtain ⟨s, hs, hl, hpieces, hsend, hsent⟩ := ReachableIf.exists_of_run .requested .plain
    (fun _ _ => True)
    [.readable 4 1, .accept 5, .readable 5 2, .data requestFront, .readable 5 2, .data requestBack,
      .wait [⟨⟨5, { epollout := true }⟩, 2⟩], .handle { send := 10 }]
    (fun s => s.world.linkedClients.lookup 5 = some .httpInterface ∧
      (s.world.view 5).since Action.piece = [requestFront, requestBack] ∧
      (s.world.view 5).since Action.sendFailure = [] ∧
      ((s.world.view 5).since Action.sent).length = 10)
    (by decide +kernel) (by decide +kernel)
  obtain ⟨hparser, _, hstream⟩ := pages_answered hs (by decide) hl
  rw [hpieces] at hparser hstream
  have hresponses : responses .requested [requestFront, requestBack] =
      [okResponse .requested] := by decide +kernel
  rw [hresponses, List.flatMap_singleton] at hstream
  exact ⟨s, hs, hparser, hsent, hstream hsend⟩

end

end OpenGrok
