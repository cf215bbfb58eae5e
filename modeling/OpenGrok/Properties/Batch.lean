import OpenGrok.Loop.Faults
import OpenGrok.Loop.Invariants

/-! The events of a batch.

The selector reports a batch once, and handling one of its events can close the
connection another is for. A HUP ends the batch, so only an owner's GROK_DISCONNECT takes a
connection away from the rest of its batch. A HUP of a connection that is gone is
skipped, unless its descriptor was given away again; an EPOLLIN or an EPOLLOUT of one is
not skipped at all. -/
namespace OpenGrok

/-- The connection or listener `c` is open on the descriptor, and the loop knows it. -/
def View.Held (c : Nat) (v : View) : Prop :=
  v.opened = some c ∧ (v.observer ≠ none ∨ v.linked ≠ none)

/-- What the selector watches, the loop knows. -/
def View.Watched (v : View) : Prop :=
  v.interest ≠ none → v.observer ≠ none ∨ v.linked ≠ none

theorem watched_lasting (magic : Bytes) (P : Promise) :
    Lasting magic P fun _ v => v.Watched where
  move {x v v'} hv hw hm := by
    obtain ⟨hclosed, hlistener, -, -⟩ := hv
    unfold View.Watched at hw ⊢
    cases hm with
    | note a _ => exact hw
    | _ => grind
  heard _ hw hh := by
    cases hh
    exact hw
  advanced _ hw ha := by
    cases ha
    exact hw

namespace Loop

/-- The events of a batch that the loop will get to: a HUP is the last. -/
def reached : List Pending → List Pending
  | [] => []
  | ev :: rest => if ev.event.hangsUp then [ev] else ev :: reached rest

/-- No GROK_DISCONNECT closes a connection that has an EPOLLIN or an EPOLLOUT the loop will still get
to. -/
def ClosesNoPending (env : Env) (s : State) : Input → Prop
  | .wait _ => True
  | .handle os =>
    match s.pending with
    | [] => True
    | ev :: rest => ev.event.reads = true → ∀ e ∈ reached rest, e.event.transfers = true →
        closes env os ev.event.fd s.world ≠ some e.event.fd

instance (env : Env) (s : State) : ∀ i, Decidable (ClosesNoPending env s i)
  | .wait _ => isTrue trivial
  | .handle os =>
    match h : s.pending with
    | [] => isTrue (by simp [ClosesNoPending, h])
    | ev :: rest => decidable_of_iff (ev.event.reads = true → ∀ e ∈ reached rest,
        e.event.transfers = true → closes env os ev.event.fd s.world ≠ some e.event.fd)
      (by simp [ClosesNoPending, h])

/-- A HUP finds its descriptor closed, or given to nobody else. -/
def HangUpsCurrent (s : State) : Input → Prop
  | .wait _ => True
  | .handle _ => ∀ ev ∈ s.pending.head?, ev.event.hangsUp = true →
      ∀ c, s.world.openSocks.lookup ev.event.fd = some c → c = ev.reported

instance (s : State) : ∀ i, Decidable (HangUpsCurrent s i)
  | .wait _ => isTrue trivial
  | .handle _ =>
    inferInstanceAs (Decidable (∀ ev ∈ s.pending.head?, ev.event.hangsUp = true →
      ∀ c ∈ s.world.openSocks.lookup ev.event.fd, c = ev.reported))

/-- What the step spares the rest of its batch. -/
def SparesPending (env : Env) (s : State) (i : Input) : Prop :=
  ClosesNoPending env s i ∧ HangUpsCurrent s i

instance (env : Env) (s : State) (i : Input) : Decidable (SparesPending env s i) :=
  inferInstanceAs (Decidable (_ ∧ _))

/-- The next event is applied to the connection it was reported for, which `linked_clients.at`
finds; or that connection is gone, and the event is skipped. -/
def AppliesOwn (env : Env) (s : State) : Input → Prop
  | .wait _ => True
  | .handle os => ∀ ev ∈ s.pending.head?,
      if s.world.openSocks.lookup ev.event.fd = some ev.reported then
        ev.event.hangsUp = false → handleEvent env os ev.event s.world ≠ .error .outOfRange
      else handleEvent env os ev.event s.world = .ok (ev.event.hangsUp, s.world)

instance (env : Env) (s : State) : ∀ i, Decidable (AppliesOwn env s i)
  | .wait _ => isTrue trivial
  | .handle os => inferInstanceAs (Decidable (∀ ev ∈ s.pending.head?,
      if s.world.openSocks.lookup ev.event.fd = some ev.reported then
        ev.event.hangsUp = false → handleEvent env os ev.event s.world ≠ .error .outOfRange
      else handleEvent env os ev.event s.world = .ok (ev.event.hangsUp, s.world)))

/-- What an event that is no HUP promises: it closes none of the descriptors. -/
def sparing (fds : SockT → Prop) : Terms :=
  { anyTerms with drop := fun x _ => ¬fds x, hangUp := False }

end Loop

section
variable {env : Env} {w w' : World} {fds : SockT → Prop} {c : Nat} {x : SockT}

/-- It depends on the names only. -/
theorem View.held_of_registry (h : w'.toRegistry = w.toRegistry) (hheld : (w.view x).Held c) :
    (w'.view x).Held c := by
  show w'.names.opened x = _ ∧ (w'.names.observer x ≠ none ∨ w'.names.linked x ≠ none)
  rw [h]
  exact hheld

theorem World.created_held {A sock : SockT} (hl : w.names.linked A = some .freeGrok)
    (hw : w.names.Wf) (hu : Unused w.toRegistry sock) (hheld : (w.view x).Held c)
    (port listeningPort : UInt16) : x ≠ sock ∧ ((w.created A sock port listeningPort).view x).Held c := by
  have hne : x ≠ sock := by
    intro hsame
    subst hsame
    have hclosed : (w.view x).opened = none := hu.closed
    rw [hheld.1] at hclosed
    cases hclosed
  refine ⟨hne, ?_⟩
  rw [World.view_created _ _ _ (hw.ne_unused hl hu), if_neg hne]
  split <;> exact hheld

/-- What a frame of a main connection does leaves held what it may not close. -/
theorem Command.held {A : SockT} {said : List Reaction}
    (h : Command env (Loop.sparing fds) A w said w') (hw : w.names.Wf)
    (hA : w.names.linked A = some .freeGrok) (hfds : fds x) (hheld : (w.view x).Held c) :
    (w'.view x).Held c := by
  cases h with
  | message type length buffer _ _ => exact View.held_of_registry (w := w) rfl hheld
  | granted type length buffer _ =>
    rw [World.view_granted, World.view_log]
    split <;> split <;> exact hheld
  | delivered p t id y length buffer body _ _ _ _ _ =>
    exact View.held_of_registry (w := w) (Loop.send_registry ..) hheld
  | dropped p px id y o b buffer hp _ _ _ _ hb hdrop =>
    have hy : x ≠ y := by
      intro hsame
      subst hsame
      exact hdrop hfds
    rw [World.view_left, if_neg hy, World.view_untabled, World.view_log]
    split <;> exact hheld
  | untabled p px id y hp _ _ _ => exact hheld
  | replied type payload _ _ => exact View.held_of_registry (w := w) (FStreamer.send_registry ..) hheld
  | touched =>
    rw [World.view_gatherUser]
    split <;> exact hheld
  | created sock port listeningPort _ _ hu _ =>
    exact (World.created_held hA hw hu hheld port listeningPort).2
  | discarded sock port _ _ hu _ =>
    obtain ⟨hne, hcreated⟩ := World.created_held hA hw hu hheld port 0
    rw [World.view_deleted, if_neg hne]
    show ((FStreamer.send env A grokError [internalServerError]
      (w.created A sock port 0)).view x).Held c
    exact View.held_of_registry (w := w.created A sock port 0) (FStreamer.send_registry ..) hcreated

theorem Effect.held (h : Effect env (Loop.sparing fds) w w') (hw : w.names.Wf)
    (hfds : fds x) (hheld : (w.view x).Held c) : (w'.view x).Held c := by
  cases h with
  | accepted fd item hu =>
    rw [World.view_accepted]
    split
    · next he =>
      subst he
      have hclosed : (w.view x).opened = none := hu.closed
      rw [hheld.1] at hclosed
      cases hclosed
    · exact hheld
  | refused o item _ => exact View.held_of_registry (w := w) rfl hheld
  | parsed fd parser _ _ =>
    rw [World.view_setParser]
    split <;> exact hheld
  | announced p px fd before _ _ hp _ _ _ =>
    show (w.announced fd env p px).names.opened x = _ ∧
      ((w.announced fd env p px).names.observer x ≠ none ∨
        (w.announced fd env p px).names.linked x ≠ none)
    rw [World.names_announced w fd env hp]
    exact hheld
  | admitted fd o b before _ hb _ _ _ _ =>
    rw [World.view_admitted]
    split
    · rw [View.add_eq]
      exact ⟨hheld.1, .inr (Option.some_ne_none o)⟩
    · exact hheld
  | flagged fd o b _ _ =>
    rw [World.view_modify, World.view_setObserver]
    split <;> exact hheld
  | wrote fd front rest n _ _ _ => exact View.held_of_registry (w := w) (World.wrote_registry ..) hheld
  | writeFailed fd _ => exact View.held_of_registry (w := w) (World.writeFailed_registry ..) hheld
  | readFailed fd _ _ _ => exact View.held_of_registry (w := w) rfl hheld
  | heard fd fd' state length u64 buffer bytes rest _ _ _ =>
    exact View.held_of_registry (w := w) rfl hheld
  | command A hl hc => exact hc.held hw hl hfds hheld
  | relayed p t y id bytes _ _ _ =>
    exact View.held_of_registry (w := w) (FStreamer.send_registry ..) hheld
  | captured y bytes _ _ => exact View.held_of_registry (w := w) rfl hheld
  | served y bytes _ _ => exact View.held_of_registry (w := w) (Loop.send_registry ..) hheld
  | forgot fd hP _ => exact hP.elim
  | torn A u p px b hP _ _ _ _ _ => exact hP.elim
  | left y o b hP _ _ _ _ _ => exact hP.elim
  | hungUp p px y id b hP _ _ _ _ => exact hP.elim

/-- **An event that is no HUP leaves every connection but the one it closes as it was.** -/
theorem Handled.held {fd : SockT} (h : Handled env (Loop.sparing fds) fd w w') (hw : w.Sound)
    (hfds : fds x) (hheld : (w.view x).Held c) : (w'.view x).Held c := by
  refine h.invariant (I := fun w => (w.view x).Held c) hw ?_ ?_ ?_ hheld
  · exact fun w w' hw hheld heff => heff.held hw.wf hfds hheld
  · exact fun w w' _ hheld hheard => View.held_of_registry hheard.registry hheld
  · exact fun w w' _ hheld hadvanced => View.held_of_registry hadvanced.registry hheld

/-! ### Runs -/

variable {l : Listeners} {also : Loop.State → Loop.Input → Prop} {s : Loop.State}

theorem Reachable.watched (h : ReachableIf env l also s) {x : SockT} (hx : x ≠ -1) :
    (s.world.view x).Watched := by
  refine h.views (P := Loop.anyTerms) (fun s i _ => Loop.promised_any s i)
    (watched_lasting env.magic _) (fun x _ => ?_) x hx
  simp only [View.Watched, World.view, World.boot, Table.lookup_insert_ite, AList.lookup_empty]
  split_ifs <;> simp

namespace Loop

/-- Each EPOLLIN and EPOLLOUT that the loop will get to is for the connection it was reported for. -/
def State.Current (s : State) : Prop :=
  ∀ ev ∈ reached s.pending, ev.event.transfers = true →
    (s.world.view ev.event.fd).Held ev.reported

theorem mem_of_reached {batch : List Pending} {ev : Pending} (h : ev ∈ reached batch) :
    ev ∈ batch := by
  induction batch with
  | nil => exact h
  | cons e rest ih =>
    unfold reached at h
    split at h
    · rw [List.mem_singleton.mp h]
      exact List.mem_cons_self ..
    · obtain rfl | h := List.mem_cons.mp h
      · exact List.mem_cons_self ..
      · exact List.mem_cons_of_mem _ (ih h)

/-- A HUP ends the batch, and nothing else does. -/
theorem handleEvent_broke {os : Os} {ev : Event} {broke : Bool}
    (h : handleEvent env os ev w = .ok (broke, w')) : broke = ev.hangsUp := by
  unfold handleEvent at h
  split at h
  · next hup =>
    obtain ⟨w1, _, h⟩ := Except.bind_ok_iff.mp h
    cases h
    exact hup.symm
  · next hup =>
    have hread (w1 : World) (h : (if ev.events.epollin = true then do
        let w ← readable env os ev.fd w1
        pure (false, w) else pure (false, w1)) = Except.ok (broke, w')) : broke = ev.hangsUp := by
      have hup : ev.hangsUp = false := by simpa [Event.hangsUp] using hup
      rw [hup]
      split at h
      · obtain ⟨w2, _, h⟩ := Except.bind_ok_iff.mp h
        cases h
        rfl
      · cases h
        rfl
    dsimp only at h
    split at h
    · obtain ⟨⟨continued, w1⟩, _, h⟩ := Except.bind_ok_iff.mp h
      dsimp only at h
      split at h
      · cases h
        simpa [Event.hangsUp] using hup
      · exact hread w1 h
    · exact hread w h

theorem step_current {s' : State} {i : Input} (hs : s.Sound)
    (hwatched : ∀ x, x ≠ -1 → (s.world.view x).Watched) (hallowed : Allowed s i)
    (hcloses : ClosesNoPending env s i) (h : step env s i = .ok s') (hc : s.Current) :
    s'.Current := by
  cases i with
  | wait batch =>
    rw [step_wait h]
    intro ev hev _
    have hmem := mem_of_reached hev
    have hopen := hallowed.2.reported ev hmem
    have hne : ev.event.fd ≠ -1 := by
      intro hneg
      rw [hneg] at hopen
      cases hs.world.wf.open_neg.symm.trans hopen
    refine ⟨hopen, hwatched _ hne ?_⟩
    exact Option.isSome_iff_ne_none.mp (hallowed.2.registered ev hmem)
  | handle os =>
    obtain ⟨_, rfl⟩ | ⟨ev, rest, broke, w, hpending, hhandle, rfl⟩ := step_handle h
    · exact hc
    · obtain rfl := handleEvent_broke hhandle
      intro e he htransfers
      cases hup : ev.event.hangsUp with
      | true =>
        rw [if_pos hup] at he
        cases he
      | false =>
        simp only [hup, Bool.false_eq_true, if_false] at he
        have hreached : reached s.pending = ev :: reached rest := by
          rw [hpending, reached, if_neg (by simp [hup])]
        have hmem (e : Pending) (he : e ∈ reached rest) : e ∈ reached s.pending := by
          rw [hreached]
          exact List.mem_cons_of_mem _ he
        simp only [ClosesNoPending, hpending] at hcloses
        have hkeeps : Keeps env os
            (sparing fun x => ∃ e ∈ reached rest, e.event.transfers = true ∧ e.event.fd = x) ev.event
            s.world := by
          refine { keeps_any env os ev.event s.world with
            drop := fun hreads x hx => ?_, hangUp := fun h => ?_ }
          · intro hparts
            obtain ⟨e, he, htransfers, rfl⟩ := hparts
            exact hcloses hreads e he htransfers hx
          · rw [hup] at h
            cases h
        have hfd : ev.event.fd ≠ -1 := hs.pending ev (by simp [hpending])
        exact (handleEvent_handled hs.world hfd hallowed.2 hkeeps hhandle).held hs.world
          ⟨e, he, htransfers, rfl⟩ (hc e (hmem e he) htransfers)

end Loop

theorem Reachable.current (h : ReachableIf env l (Loop.ClosesNoPending env) s) : s.Current := by
  refine Reach.invariant h nofun fun s i s' hr hc hi hstep => ?_
  have hr : ReachableIf env l (Loop.ClosesNoPending env) s := hr
  exact Loop.step_current (Reachable.sound hr) (fun x hx => Reachable.watched hr hx) hi.1 hi.2 hstep hc

/-! ### `linked_clients.at` -/

theorem Fault.Ordinary.inRange {e : Fault} (h : e.Ordinary) : e ≠ .outOfRange := by
  obtain rfl | rfl := h <;> nofun

/-- A computation that never raises `std::out_of_range`. -/
abbrev InRange {α : Type} (x : Except Fault α) : Prop := Except.Only (fun e => e ≠ .outOfRange) x

theorem OnlyOrdinary.inRange {α : Type} {x : Except Fault α} (h : OnlyOrdinary x) : InRange x :=
  h.mono fun _ => Fault.Ordinary.inRange

theorem OnlyHandler.inRange {α : Type} {x : Except Fault α} (h : OnlyHandler x) : InRange x :=
  h.mono fun _ he => he.elim Fault.Ordinary.inRange fun h => by
    rw [h]
    nofun

variable {os : Os} {o : ObserverPtr} {fd : SockT} {ev : Loop.Event}

theorem performReadQueue_inRange (hw : w.names.Wf) :
    InRange (Loop.performReadQueue env os fd o w) := by
  by_cases hempty : (w.gatherQueue fd).read = []
  · rw [Loop.performReadQueue_empty hempty]
    exact .error nofun
  · exact (Loop.performReadQueue_handler hw hempty).inRange

theorem performWriteQueue_inRange : InRange (Loop.performWriteQueue os fd w) := by
  by_cases hempty : (w.gatherQueue fd).write = []
  · rw [Loop.performWriteQueue_empty hempty]
    exact .error nofun
  · obtain ⟨w', hw'⟩ := Loop.performWriteQueue_ok os hempty
    rw [hw']
    exact .ok w'

theorem handleEvent_linked_inRange (hw : w.Sound) (hfd : ev.fd ≠ -1)
    (hl : w.linkedClients.lookup ev.fd = some o) (hup : ev.hangsUp = false) :
    InRange (Loop.handleEvent env os ev w) := by
  rw [handleEvent_linked hw hfd hl hup]
  refine .bind ?_ fun w1 hwritten => ?_
  · exact .ite (fun _ => performWriteQueue_inRange) fun _ => .ok w
  · have hw1 : w1.names.Wf := by
      unfold Loop.written at hwritten
      split at hwritten
      · rw [(performWriteQueue_frame hwritten).1]
        exact hw.wf
      · cases hwritten
        exact hw.wf
    exact .ite (fun _ => .bind (performReadQueue_inRange hw1) fun _ _ => .pure _) fun _ => .pure _

theorem writable_inRange (ho : w.observers.lookup fd = some o) :
    InRange (Loop.writable env os fd w) := by
  have hwrite : InRange (do
      let w ← Loop.performWriteQueue os fd w
      return (false, w)) := .bind performWriteQueue_inRange fun _ _ => .pure _
  unfold Loop.writable
  simp only [ho]
  refine .bind (observer_ordinary _ o).inRange fun base _ => .ite (fun _ => ?_) fun _ => hwrite
  refine .bind (onConnect_ordinary o w).inRange fun connected _ => ?_
  exact .bind (observer_ordinary _ o).inRange fun _ _ => .pure _

theorem readable_inRange (hw : w.Sound) (ho : w.observers.lookup fd = some o) :
    InRange (Loop.readable env os fd w) := by
  obtain ⟨b, hb, _, hserver⟩ := hw.wf.observer_base ho
  unfold Loop.readable
  simp only [ho]
  refine .bind (observer_ordinary _ o).inRange fun base hbase => ?_
  cases Option.some.inj (hb.symm.trans (FreeGrok.observer_ok hbase))
  rw [if_pos hserver]
  refine .bind (onConnect_ordinary o w).inRange fun connected _ => ?_
  exact .bind (observer_ordinary _ o).inRange fun _ _ => .pure _

theorem handleEvent_observed_inRange (hw : w.Sound) (hfd : ev.fd ≠ -1)
    (hos : os.Fresh w.toRegistry) (ho : w.observers.lookup ev.fd = some o)
    (hup : ev.hangsUp = false) : InRange (Loop.handleEvent env os ev w) := by
  have hread {w1 : World} (hw1 : w1.Sound) (ho1 : w1.observers.lookup ev.fd = some o) :
      InRange (if ev.events.epollin = true then do
        let w ← Loop.readable env os ev.fd w1
        pure (false, w) else pure (false, w1)) :=
    .ite (fun _ => .bind (readable_inRange hw1 ho1) fun _ _ => .pure _) fun _ => .pure _
  unfold Loop.handleEvent
  rw [if_neg (by simpa [Loop.Event.hangsUp] using hup)]
  refine .ite (fun _ => ?_) fun _ => hread hw ho
  refine .bind (writable_inRange ho) fun written hwritable => ?_
  obtain ⟨continued, w1⟩ := written
  obtain ⟨heff, hwrite⟩ := writable_effects (P := Loop.anyTerms) hw hfd hos
    (fun _ _ _ => trivial) (fun _ _ _ _ => trivial) hwritable
  refine .ite (fun _ => .pure _) fun hcontinued => hread (heff.sound hw) ?_
  rw [(performWriteQueue_frame (hwrite (by simpa using hcontinued))).1]
  exact ho

/-- An event of a connection or a listener that is there. -/
theorem handleEvent_held_inRange (hw : w.Sound) (hfd : ev.fd ≠ -1) (hos : os.Fresh w.toRegistry)
    (hheld : (w.view ev.fd).Held c) (hup : ev.hangsUp = false) :
    InRange (Loop.handleEvent env os ev w) := by
  obtain hobserved | hlinked := hheld.2
  · obtain ⟨o, ho⟩ := Option.ne_none_iff_exists'.mp hobserved
    exact handleEvent_observed_inRange hw hfd hos ho hup
  · obtain ⟨o, hl⟩ := Option.ne_none_iff_exists'.mp hlinked
    exact handleEvent_linked_inRange hw hfd hl hup

/-- An event with nothing in it is skipped. -/
theorem Loop.handleEvent_idle (hup : ev.hangsUp = false) (htransfers : ev.transfers = false) :
    Loop.handleEvent env os ev w = .ok (false, w) := by
  have hhup : (ev.events.epollhup || ev.events.epollrdhup) = false := hup
  have hnone : ev.events.epollout = false ∧ ev.events.epollin = false := by
    simpa [Loop.Event.transfers, hup] using htransfers
  unfold Loop.handleEvent
  simp only [hhup, hnone.1, hnone.2, Bool.false_eq_true, if_false]
  rfl

/-- A HUP, or an event with nothing in it, of a descriptor that the loop does not know is skipped. -/
theorem Loop.handleEvent_unknown (hobserved : w.observers.lookup ev.fd = none)
    (hlinked : w.linkedClients.lookup ev.fd = none) (htransfers : ev.transfers = false) :
    Loop.handleEvent env os ev w = .ok (ev.hangsUp, w) := by
  cases hup : ev.hangsUp with
  | true =>
    have hhup : (ev.events.epollhup || ev.events.epollrdhup) = true := hup
    unfold Loop.handleEvent Loop.hangUp
    rw [if_pos hhup]
    simp only [hobserved]
    exact Except.bind_ok_iff.mpr ⟨w, forceDisconnect_unknown env _ hlinked hobserved, rfl⟩
  | false => exact handleEvent_idle hup htransfers

/-- The next event of a run that spares what is pending. -/
theorem Loop.applies_own (h : ReachableIf env l (Loop.SparesPending env) s) {i : Loop.Input}
    (hallowed : Loop.Allowed s i) (hspares : Loop.SparesPending env s i) :
    Loop.AppliesOwn env s i := by
  cases i with
  | wait batch => trivial
  | handle os =>
    intro ev hev
    have hs := Reachable.sound h
    obtain ⟨rest, hpending⟩ := List.head?_eq_some_iff.mp hev
    have hfd := hs.pending ev (by simp [hpending])
    cases hup : ev.event.hangsUp with
    | true =>
      split
      · intro hno
        cases hno
      · next hother =>
        have hclosed : s.world.openSocks.lookup ev.event.fd = none := by
          cases hopen : s.world.openSocks.lookup ev.event.fd with
          | none => rfl
          | some c => exact absurd (hopen.trans (by rw [hspares.2 ev hev hup c hopen])) hother
        rw [Loop.handleEvent_unknown (hs.world.wf.unobserved hclosed)
          (hs.world.wf.closed hfd hclosed) (by simp [Loop.Event.transfers, hup]), hup]
    | false =>
      cases htransfers : ev.event.transfers with
      | false =>
        rw [Loop.handleEvent_idle hup htransfers]
        split
        · intro _ herror
          cases herror
        · rfl
      | true =>
        have hfirst : ev ∈ Loop.reached s.pending := by
          rw [hpending, Loop.reached]
          split <;> exact List.mem_cons_self ..
        have hheld := Reachable.current (h.mono fun _ _ hi => ⟨hi.1, hi.2.1⟩) ev hfirst htransfers
        have hown : s.world.openSocks.lookup ev.event.fd = some ev.reported := hheld.1
        rw [if_pos hown]
        intro _ herror
        exact handleEvent_held_inRange hs.world hfd hallowed.2 hheld hup _ herror rfl

/-- An event that does something to a connection it was not reported for. -/
theorem Loop.not_appliesOwn {ev : Loop.Pending} (hnext : s.pending.head? = some ev)
    (hother : s.world.openSocks.lookup ev.event.fd ≠ some ev.reported)
    (hdone : Except.Returns (Loop.handleEvent env os ev.event s.world)
      fun r => r.2.trace ≠ s.world.trace) : ¬Loop.AppliesOwn env s (.handle os) := by
  intro happlies
  have hskipped := happlies ev hnext
  rw [if_neg hother] at hskipped
  rw [hskipped] at hdone
  exact hdone rfl

/-- **A batch is safe** in a run in which no GROK_DISCONNECT closes a connection that has an EPOLLIN
or an EPOLLOUT the loop will still get to, and no HUP finds its descriptor given to
another connection: each event is applied to its own connection or skipped. -/
theorem batch_current {inputs : List Loop.Input}
    (h : Permitted (Loop.step env) (fun s i => Loop.Allowed s i ∧ Loop.SparesPending env s i)
      ⟨World.boot l, []⟩ inputs) :
    Permitted (Loop.step env) (Loop.AppliesOwn env) ⟨World.boot l, []⟩ inputs :=
  h.all .start fun _ _ hr hi => Loop.applies_own hr hi.1 hi.2

/-- An owner, 5, whose proxy listens on 6 and has the client 7 under the id 0, has sent all but
the payload of a GROK_DISCONNECT for it. -/
def disconnecting : List Loop.Input :=
  [.readable 3 0, .accept 5, .readable 5 2,
    .handle { recv := .data [10, 0], socket := 6, getsockname := some 8000 },
    .readable 6 3, .accept 7, .readable 5 2, .data [22, 4]]

/-- The rest of the frame and data of the client are reported in one batch: the event of the
client is handled after it was closed, or on the connection that has its descriptor by then. -/
theorem batch_stale :
    (∃ s, Reachable (.plain []) .plain s ∧ s.pending = [⟨⟨7, { epollin := true }⟩, 4⟩] ∧
      s.world.openSocks.lookup 7 = none ∧
      Loop.handleEvent (.plain []) {} ⟨7, { epollin := true }⟩ s.world = .error .outOfRange ∧
      ¬Loop.AppliesOwn (.plain []) s (.handle {})) ∧
    ∃ s, Reachable (.plain []) .plain s ∧ s.pending = [⟨⟨7, { epollin := true }⟩, 4⟩] ∧
      s.world.openSocks.lookup 7 = some 5 ∧
      ¬Loop.AppliesOwn (.plain []) s (.data [1]) := by
  constructor
  · exact ReachableIf.exists_of_run _ _ _ (disconnecting ++
        [.wait [⟨⟨5, { epollin := true }⟩, 2⟩, ⟨⟨7, { epollin := true }⟩, 4⟩],
          .data [0, 0, 0, 0]]) _
      (by decide +kernel) (by decide +kernel)
  · obtain ⟨s, hs, hpending, hopen, hdone⟩ := ReachableIf.exists_of_run (.plain []) .plain
      (fun _ _ => True) (disconnecting ++
        [.wait [⟨⟨5, { epollin := true }⟩, 2⟩, ⟨⟨3, { epollin := true }⟩, 0⟩,
            ⟨⟨7, { epollin := true }⟩, 4⟩],
          .data [0, 0, 0, 0], .accept 7])
      (fun s => s.pending = [⟨⟨7, { epollin := true }⟩, 4⟩] ∧
        s.world.openSocks.lookup 7 = some 5 ∧
        Except.Returns (Loop.handleEvent (.plain []) { recv := .data [1] }
          ⟨7, { epollin := true }⟩ s.world) fun r => r.2.trace ≠ s.world.trace)
      (by decide +kernel) (by decide +kernel)
    refine ⟨s, hs, hpending, hopen, Loop.not_appliesOwn (by rw [hpending]; rfl) ?_ hdone⟩
    rw [hopen]
    decide

/-- Data of the client and of its owner are reported in one batch; in the next one, the rest of the
owner's GROK_DISCONNECT, and the HUP of the client, which is closed by then. -/
def disconnected : List Loop.Input :=
  disconnecting.take 6 ++
    [.wait [⟨⟨7, { epollin := true }⟩, 4⟩, ⟨⟨5, { epollin := true }⟩, 2⟩], .data [1, 2],
      .data [22, 4],
      .wait [⟨⟨3, { epollin := true }⟩, 0⟩, ⟨⟨5, { epollin := true, epollout := true }⟩, 2⟩,
        ⟨⟨4, {}⟩, 1⟩, ⟨⟨7, { epollhup := true }⟩, 4⟩, ⟨⟨6, { epollin := true }⟩, 3⟩],
      .accept 8, .handle { send := 9, recv := .data [0, 0, 0, 0] }, .handle {}, .handle {}]

theorem batch_current_disconnected :
    Permitted (Loop.step (.plain [])) (Loop.AppliesOwn (.plain [])) ⟨World.boot .plain, []⟩
      disconnected ∧
    Except.Returns (run (Loop.step (.plain [])) ⟨World.boot .plain, []⟩ disconnected) fun s =>
      s.pending = [] ∧ s.world.openSocks.lookup 7 = none :=
  ⟨@batch_current (.plain []) .plain _ (by decide +kernel), by decide +kernel⟩

end

end OpenGrok
