import OpenGrok.Server.Event

/-! How the trace grows.

Every operation adds to the trace, and `Grows ok` says that it adds nothing but actions
that are `ok`. What is collected from a descriptor's history does not change when what
is added is of no concern to it (`Grows.since`). -/
namespace OpenGrok

/-- The trace got longer by actions that are `ok`. -/
def Grows (ok : Action → Prop) (w w' : World) : Prop :=
  ∃ new, w'.trace = new ++ w.trace ∧ ∀ a ∈ new, ok a

namespace Grows
variable {ok : Action → Prop} {w w' w'' : World}

theorem of_eq (h : w'.trace = w.trace) : Grows ok w w' := ⟨[], h, nofun⟩

theorem refl (w : World) : Grows ok w w := of_eq rfl

theorem trans (h : Grows ok w w') (h' : Grows ok w' w'') : Grows ok w w'' := by
  obtain ⟨new, hnew, hok⟩ := h
  obtain ⟨new', hnew', hok'⟩ := h'
  refine ⟨new' ++ new, by rw [hnew', hnew, List.append_assoc], fun a ha => ?_⟩
  obtain ha | ha := List.mem_append.mp ha
  · exact hok' a ha
  · exact hok a ha

theorem mono {weaker : Action → Prop} (h : Grows ok w w') (hok : ∀ a, ok a → weaker a) :
    Grows weaker w w' := by
  obtain ⟨new, hnew, hall⟩ := h
  exact ⟨new, hnew, fun a ha => hok a (hall a ha)⟩

theorem log {a : Action} (h : ok a) : Grows ok w (w.log a) := by
  refine ⟨[a], rfl, fun b hb => ?_⟩
  rw [List.mem_singleton.mp hb]
  exact h

/-- What does not concern a descriptor adds nothing to what is collected from its history. -/
theorem since {β : Type} (part : Action → List β) (h : Grows ok w w') {x : SockT}
    (hok : ∀ a, ok a → a.fd = x → a.isStart = false ∧ part a = []) :
    (w'.view x).since part = (w.view x).since part := by
  obtain ⟨new, hnew, hall⟩ := h
  simp only [View.since, World.view, hnew, List.filter_append]
  refine History.since_append Action.isStart part fun a ha => ?_
  obtain ⟨hmem, hfd⟩ := List.mem_filter.mp ha
  exact hok a (hall a hmem) (of_decide_eq_true hfd)

end Grows

/-! ### What a descriptor collects -/

namespace Trace
variable {β : Type} {mark : Action → Bool} {part : Action → List β} {x : SockT} {a : Action}
  {t : List Action}

/-- What `part` takes from the actions at the descriptor after the last that `mark` selects. -/
def after (mark : Action → Bool) (part : Action → List β) (x : SockT) (t : List Action) : List β :=
  History.since mark part (t.filter fun a => a.fd = x)

theorem after_other (h : a.fd = x → mark a = false ∧ part a = []) :
    after mark part x (a :: t) = after mark part x t := by
  by_cases hx : a.fd = x
  · simp only [after, List.filter_cons, hx, decide_true, if_true]
    exact History.since_skip mark part (h hx).1 (h hx).2
  · simp [after, hx]

theorem after_ne (h : a.fd ≠ x) : after mark part x (a :: t) = after mark part x t :=
  after_other fun he => absurd he h

theorem after_next {l : List β} (hx : a.fd = x) (h : mark a = false)
    (hl : l = after mark part x t) : l ++ part a = after mark part x (a :: t) := by
  simp only [hl, after, List.filter_cons, hx, decide_true, if_true]
  exact (History.since_cons mark part h).symm

theorem after_mark (hx : a.fd = x) (h : mark a = true) : after mark part x (a :: t) = [] := by
  simp only [after, List.filter_cons, hx, decide_true, if_true]
  exact History.since_mark mark part h

theorem after_append {new : List Action}
    (h : ∀ a ∈ new, a.fd = x → mark a = false ∧ part a = []) :
    after mark part x (new ++ t) = after mark part x t := by
  induction new with
  | nil => rfl
  | cons a rest ih =>
    rw [List.cons_append, after_other (h a (List.mem_cons_self ..))]
    exact ih fun b hb => h b (List.mem_cons_of_mem _ hb)

/-- What `part` takes from the actions at the descriptor since it was opened. -/
def since (part : Action → List β) (x : SockT) (t : List Action) : List β :=
  after Action.isStart part x t

theorem since_other (h : a.fd = x → a.isStart = false ∧ part a = []) :
    since part x (a :: t) = since part x t :=
  after_other h

theorem since_ne (h : a.fd ≠ x) : since part x (a :: t) = since part x t :=
  after_ne h

theorem since_start (hx : a.fd = x) (h : a.isStart = true) : since part x (a :: t) = [] :=
  after_mark hx h

theorem since_next (hx : a.fd = x) (h : a.isStart = false) :
    since part x (a :: t) = since part x t ++ part a :=
  (after_next hx h rfl).symm

theorem received_next {r bytes : Bytes} (h : r = since Action.received x t) :
    r ++ bytes = since Action.received x (.recv x bytes :: t) :=
  after_next (a := .recv x bytes) rfl rfl h

theorem queued_next {r bytes : Bytes} (h : r = since Action.queuedBytes x t) :
    r ++ bytes = since Action.queuedBytes x (.queued x bytes :: t) :=
  after_next (a := .queued x bytes) rfl rfl h

/-- The actions open or close the socket. -/
def starts (x : SockT) (new : List Action) : Bool :=
  new.any fun a => decide (a.fd = x) && a.isStart

theorem starts_append (new t : List Action) : starts x (new ++ t) = (starts x new || starts x t) :=
  List.any_append

theorem starts_eq_false {new : List Action} :
    starts x new = false ↔ ∀ a ∈ new, a.fd = x → a.isStart = false := by
  simp [starts, List.any_eq_false]

end Trace

/-! ### Operations that add nothing -/

@[simp] theorem Selector.modify_trace (x : SockT) (evs : Events) (w : World) :
    (Selector.modify x evs w).trace = w.trace := by
  unfold Selector.modify
  split <;> rfl

@[simp] theorem Selector.add_trace (x : SockT) (evs : Events) (w : World) :
    (Selector.add x evs w).trace = w.trace := by
  unfold Selector.add
  split <;> rfl

theorem World.admitted_trace (fd : SockT) (o : ObserverPtr) (b : IObserver) (w : World) :
    (w.admitted fd o b).trace = w.trace :=
  Selector.add_trace fd eventsR w

@[simp] theorem FreeGrok.gatherUser_trace (x : SockT) (w : World) :
    (FreeGrok.gatherUser x w).2.trace = w.trace := by
  unfold FreeGrok.gatherUser
  split <;> rfl

/-! ### What the operations add -/

section
variable {env : Env} {ok : Action → Prop} {w : World} {x : SockT}

theorem Loop.send_trace (x : SockT) (bytes : Bytes) (w : World) :
    (Loop.send x bytes w).trace = .queued x bytes :: w.trace := by
  simp only [Loop.send]
  split <;> simp [World.setQueue, World.log]

theorem Grows.send (bytes : Bytes) (h : ok (.queued x bytes)) : Grows ok w (Loop.send x bytes w) :=
  (Grows.log h).trans (.of_eq (Loop.send_trace x bytes w))

/-- A frame is logged, and then queued. -/
theorem FStreamer.send_grows (env : Env) (w : World) (x : SockT) (type : UInt8) (payload : Bytes) :
    Grows (fun a => ∃ bytes, a = .queued x bytes) (w.log (.frame x type payload))
      (FStreamer.send env x type payload w) :=
  FStreamer.send_keeps env (P := Grows _ (w.log (.frame x type payload)))
    (fun chunk _ h => h.trans (.send chunk ⟨chunk, rfl⟩)) type payload (.refl _)

theorem Grows.frame (type : UInt8) (payload : Bytes) (h : ok (.frame x type payload))
    (hq : ∀ bytes, ok (.queued x bytes)) : Grows ok w (FStreamer.send env x type payload w) :=
  (Grows.log h).trans ((FStreamer.send_grows env w x type payload).mono fun _ ⟨bytes, he⟩ =>
    he ▸ hq bytes)

theorem Grows.wrote (front : WriteItem) (rest : List WriteItem) (n : Nat)
    (h : ok (.send x (front.unsent.take n))) : Grows ok w (w.wrote x front rest n) := by
  refine (Grows.log h).trans (.of_eq ?_)
  simp only [World.wrote]
  split <;> split <;> simp [World.setQueue]

theorem Grows.writeFailed (h : ok (.sendFailed x)) : Grows ok w (w.writeFailed x) :=
  (Grows.log h).trans (.of_eq (Selector.modify_trace x eventsR (w.log (.sendFailed x))))

theorem Grows.announced (p : Ptr) (px : GrokProxy)
    (h : ok (.frame px.initiator grokConnected
      (ByteBuffer.encode cIdSize w.idPool.getId.1.toNat)))
    (hq : ∀ bytes, ok (.queued px.initiator bytes))
    (ha : ∀ c, ok (.announced px.initiator w.idPool.getId.1 c)) :
    Grows ok w (w.announced x env p px) := by
  unfold World.announced FreeGrok.sendConnected
  refine .trans ?_ (.log (ha _))
  refine .trans (.of_eq ?_) (.frame grokConnected _ h hq)
  rfl

theorem Grows.detached (h : ok (.close x)) : Grows ok w (w.detached x) :=
  (Grows.of_eq rfl).trans (.log h)

theorem World.setObserver_trace (o : ObserverPtr) (b : IObserver) (w : World) :
    (w.setObserver o b).trace = w.trace := rfl

theorem World.left_trace (o : ObserverPtr) (b : IObserver) :
    (w.left x o b).trace = .close x :: w.trace := rfl

theorem Grows.left (o : ObserverPtr) (b : IObserver) (h : ok (.close x)) :
    Grows ok w (w.left x o b) :=
  (Grows.of_eq (World.setObserver_trace o _ w)).trans (.detached h)

theorem Grows.detachedAll (l : List SockT) (h : ∀ x ∈ l, ok (.close x)) :
    Grows ok w (w.detachedAll l) := by
  induction l generalizing w with
  | nil => exact .refl w
  | cons client rest ih =>
    have hrest := fun x hx => h x (List.mem_cons_of_mem _ hx)
    rw [World.detachedAll, List.foldl_cons, ← World.detachedAll]
    split
    · exact (Grows.detached (h client (List.mem_cons_self ..))).trans (ih hrest)
    · exact ih hrest

theorem Grows.deleted (p : Ptr) (b : IObserver) (l : List SockT) (h : ∀ x ∈ l, ok (.close x))
    (hs : ok (.close b.socket)) : Grows ok w (w.deleted p b l) :=
  (Grows.detachedAll l h).trans ((Grows.of_eq rfl).trans (.log hs))

theorem Grows.torn (p : Ptr) (px : GrokProxy) (b : IObserver)
    (h : ∀ x ∈ env.order px.clients.keys, ok (.close x)) (hs : ok (.close px.socket))
    (hx : ok (.close x)) : Grows ok w (w.torn x env p px b) := by
  refine .trans ?_ (.left .freeGrok b hx)
  refine .trans ?_ (.of_eq rfl)
  exact .trans (.of_eq rfl) (.deleted p px.toIObserver _ h hs)

/-- A client's own close is a frame to its owner, which is queued, and then closes it. -/
theorem World.hungUp_grows (env : Env) (w : World) (x : SockT) (p : Ptr) (px : GrokProxy) (id : CIdT)
    (b : IObserver) : Grows (fun a => (∃ bytes, a = .queued px.initiator bytes) ∨ a = .close x)
      (w.log (.frame px.initiator grokDisconnect (ByteBuffer.encode cIdSize id.toNat)))
      ((FreeGrok.sendDisconnected env px.initiator id (w.untabled x p px id)).left x
        (.grokProxy p) b) := by
  refine .trans ?_ (.left _ b (.inr rfl))
  refine .trans (.of_eq ?_) ((FStreamer.send_grows env (w.untabled x p px id) px.initiator
    grokDisconnect (ByteBuffer.encode cIdSize id.toNat)).mono fun _ => .inl)
  rfl

theorem Grows.hungUp (p : Ptr) (px : GrokProxy) (id : CIdT) (b : IObserver)
    (h : ok (.frame px.initiator grokDisconnect (ByteBuffer.encode cIdSize id.toNat)))
    (hq : ∀ bytes, ok (.queued px.initiator bytes)) (hx : ok (.close x)) :
    Grows ok w ((FreeGrok.sendDisconnected env px.initiator id (w.untabled x p px id)).left x
      (.grokProxy p) b) := by
  refine (Grows.log h).trans ((World.hungUp_grows env w x p px id b).mono fun a ha => ?_)
  obtain ⟨bytes, rfl⟩ | rfl := ha
  · exact hq bytes
  · exact hx

theorem Grows.created (sock : SockT) (port listeningPort : UInt16) (h : ok (.bind x port.toNat)) :
    Grows ok w (w.created x sock port listeningPort) := by
  have hsame : (FreeGrok.linkServer x w.nextProxy ((w.newSock sock).allocated
      { socket := sock, initiator := x, listeningPort := port })).trace = w.trace := by
    show (FreeGrok.gatherUser x _).2.trace = _
    rw [FreeGrok.gatherUser_trace]
    rfl
  exact (Grows.of_eq ((Selector.add_trace sock eventsR _).trans hsame)).trans
    ((Grows.log h).trans (.of_eq rfl))

end

end OpenGrok
