import OpenGrok.Loop.Outcome

/-! A main connection between its frames.

Of all events only a read of the connection itself handles frames of it. Any other is
calm there: effects that queue something for it, open it or close it, or write what is
queued (`Calmly`). What these preserve, and a read of the connection preserves, holds in
every run (`ReachableIf.main`). -/
namespace OpenGrok

/-- At the descriptor the action is none of a frame's, and reads nothing. -/
def Action.CalmAt (x : SockT) (a : Action) : Prop := a.fd = x → a.Passive ∨ a.Sends

section
variable {env : Env} {os : Os} {P : Terms} {w w' w'' : World} {x fd : SockT}

theorem Action.Unread.calm {a : Action} (h : a.Unread fd) : a.CalmAt x := by
  intro _
  rcases h with h | ⟨_, h⟩
  · exact .inl h
  · exact .inr h

theorem Action.About.calm {a : Action} (h : a.About fd) (hne : fd ≠ x) : a.CalmAt x := by
  intro ha
  rcases h with h | h
  · exact .inl h
  · exact absurd (h.symm.trans ha) hne

/-- What an event does that handles no frame of the connection. -/
inductive Calmly (env : Env) (P : Terms) (x : SockT) (w : World) : World → Prop where
  | effects {w' : World} : Sited env P (Action.CalmAt x) w w' → Calmly env P x w w'
  | frame (fd : SockT) {w1 w2 w3 w' : World} : fd ≠ x → Sited env P (Action.CalmAt x) w w1 →
      w1.HeardAll fd w2 → Sited env P (Action.CalmAt x) w2 w3 → w3.Advanced fd w' →
      Calmly env P x w w'
  | elsewhere {w' : World} : w'.names.linked x ≠ some .freeGrok → Calmly env P x w w'

theorem Sited.effects {ok : Action → Prop} (h : Sited env P ok w w') : Effects env P w w' :=
  Steps.invariant (P := Effects env P w) h (fun _ _ heff he => heff.tail he.1) .refl

/-- Effects and their invariants. -/
theorem Sited.invariant {ok : Action → Prop} {I : World → Prop} (h : Sited env P ok w w')
    (hw : w.Sound)
    (effect : ∀ w w', w.Sound → I w → Effect env P w w' → Grows ok w w' → I w') (hi : I w) :
    w'.Sound ∧ I w' :=
  Steps.invariant (P := fun w => w.Sound ∧ I w) h
    (fun _ _ hs he => ⟨he.1.sound hs.1, effect _ _ hs.1 hs.2 he.1 he.2⟩) ⟨hw, hi⟩

/-- What every step of a run preserves. -/
structure Kept (env : Env) (P : Terms) (J : World → Prop) : Prop where
  effect : ∀ {w w'}, w.Sound → J w → Effect env P w w' → J w'
  heard : ∀ {fd w w'}, w.Sound → J w → w.HeardAll fd w' → J w'
  advanced : ∀ {fd w w'}, w.Sound → J w → w.Advanced fd w' → J w'

/-- What is invariant under calm effects and the frames of other connections, while `J` is, and says
something of main connections only. -/
structure Unmoved (env : Env) (P : Terms) (x : SockT) (J I : World → Prop) : Prop where
  effect : ∀ {w w'}, w.Sound → J w → I w → Effect env P w w' → Grows (Action.CalmAt x) w w' → I w'
  heard : ∀ {fd w w'}, fd ≠ x → w.Sound → I w → w.HeardAll fd w' → I w'
  advanced : ∀ {fd w w'}, fd ≠ x → w.Sound → I w → w.Advanced fd w' → I w'
  elsewhere : ∀ {w : World}, w.names.linked x ≠ some .freeGrok → I w

section
variable {J I : World → Prop}

theorem Unmoved.sited (hJ : Kept env P J) (hI : Unmoved env P x J I)
    (h : Sited env P (Action.CalmAt x) w w') (hw : w.Sound) (hj : J w) (hi : I w) :
    w'.Sound ∧ J w' ∧ I w' :=
  h.invariant hw (I := fun w => J w ∧ I w)
    (fun _ _ hw hji he hg => ⟨hJ.effect hw hji.1 he, hI.effect hw hji.1 hji.2 he hg⟩) ⟨hj, hi⟩

theorem Calmly.invariant (h : Calmly env P x w w') (hJ : Kept env P J) (hI : Unmoved env P x J I)
    (hw : w.Sound) (hj : J w) (hi : I w) : I w' := by
  cases h with
  | effects h => exact (hI.sited hJ h hw hj hi).2.2
  | frame fd hne h1 h2 h3 h4 =>
    obtain ⟨hw1, hj1, hi1⟩ := hI.sited hJ h1 hw hj hi
    obtain ⟨hw3, _, hi3⟩ := hI.sited hJ h3 (h2.sound hw1) (hJ.heard hw1 hj1 h2)
      (hI.heard hne hw1 hi1 h2)
    exact hI.advanced hne hw3 hi3 h4
  | elsewhere h => exact hI.elsewhere h

theorem Handled.kept (h : Handled env P fd w w') (hJ : Kept env P J) (hw : w.Sound) (hj : J w) :
    J w' :=
  h.invariant hw (fun _ _ => hJ.effect) (fun _ _ => hJ.heard) (fun _ _ => hJ.advanced) hj

end

/-! ### Events -/

theorem Loop.written_sited {ev : Loop.Event} (hw : w.Sound) (hfd : ev.fd ≠ -1)
    (h : Loop.written os ev w = .ok w') : Sited env P (Action.CalmAt x) w w' :=
  (Loop.written_effects hw hfd h).1.sited ((Loop.written_unread h).mono fun _ ha => ha.calm)

/-- A read of another main connection. -/
theorem MainRead.calmly (h : MainRead env P fd w w') (hw : w.Sound) (hfd : fd ≠ -1) (hne : fd ≠ x)
    (hl : w.names.linked fd = some .freeGrok) : Calmly env P x w w' := by
  have hgrows := h.grows.mono fun _ ha => Action.About.calm ha hne
  cases h with
  | failed hr hP => exact .effects (.single ⟨.readFailed fd hl hr hP, hgrows⟩)
  | heard fd' state length u64 buffer bytes rest hr hlen =>
    exact .effects (.single ⟨.heard fd fd' state length u64 buffer bytes rest hl hr hlen, hgrows⟩)
  | frame hheard hcommands hadvanced =>
    have heff := (hcommands.effects (hheard.registry ▸ hl) (hheard.sound hw).wf hfd).1
    exact .frame fd hne .refl hheard (Effects.sited heff
      (hcommands.grows.mono fun _ ha => Action.About.calm ha hne)) hadvanced

theorem Calmly.head (h : Sited env P (Action.CalmAt x) w w') (h' : Calmly env P x w' w'') :
    Calmly env P x w w'' := by
  cases h' with
  | effects h' => exact .effects (h.trans h')
  | frame fd hne h1 h2 h3 h4 => exact .frame fd hne (h.trans h1) h2 h3 h4
  | elsewhere h' => exact .elsewhere h'

/-- **An event reads from the main connection, or leaves it in peace.** -/
theorem handleEvent_calmly {ev : Loop.Event} {broke : Bool} (x : SockT) (hw : w.Sound)
    (hfd : ev.fd ≠ -1) (hos : os.Fresh w.toRegistry) (hkeeps : Loop.Keeps env os P ev w)
    (h : Loop.handleEvent env os ev w = .ok (broke, w')) :
    Calmly env P x w w' ∨ ev.fd = x ∧ ev.reads = true ∧ w.names.linked x = some .freeGrok ∧
      ∃ w1, Sited env P (Action.CalmAt x) w w1 ∧ Loop.written os ev w = .ok w1 ∧
        Loop.performReadQueue env os x .freeGrok w1 = .ok w' := by
  have houtcome := handleEvent_outcome hw hfd h
  by_cases hmain : ev.reads = true ∧ w.names.linked ev.fd = some .freeGrok
  · obtain ⟨hreads, hl⟩ := hmain
    obtain ⟨hup, hin⟩ : ev.hangsUp = false ∧ ev.events.epollin = true := by
      simpa [Loop.Event.reads] using hreads
    rw [handleEvent_linked hw hfd hl hup] at h
    obtain ⟨w1, hwritten, h⟩ := Except.bind_ok_iff.mp h
    rw [if_pos hin] at h
    obtain ⟨w2, hread, h⟩ := Except.bind_ok_iff.mp h
    cases h
    have hsited : Sited env P (Action.CalmAt x) w w1 := Loop.written_sited hw hfd hwritten
    by_cases hx : ev.fd = x
    · subst hx
      exact .inr ⟨rfl, hreads, hl, w1, hsited, hwritten, hread⟩
    · have hreg := Loop.written_registry hwritten
      have hdrop (y : SockT) (hy : Loop.closes env os ev.fd w1 = some y) : P.drop y (w1.view y) := by
        obtain ⟨hy, hview⟩ := Loop.written_closes hw hfd hwritten hy
        rw [hview]
        exact hkeeps.drop hreads y hy
      have hl : w1.names.linked ev.fd = some .freeGrok := hreg ▸ hl
      have hmain := readMain_read (P := P) (hsited.effects.sound hw) hfd hl (hreg ▸ hos) hdrop
        (hkeeps.fail hreads w1 hwritten) hread
      exact .inl ((hmain.calmly (hsited.effects.sound hw) hfd hx hl).head hsited)
  · refine .inl ?_
    have hmain := fun hreads hl => hmain ⟨hreads, hl⟩
    have heff := houtcome.effects hw hfd hos hkeeps hmain
    by_cases hx : ev.fd = x
    · subst hx
      by_cases hl : w.names.linked ev.fd = some .freeGrok
      · have hreads : ev.reads = false := Bool.eq_false_of_not_eq_true fun hreads => hmain hreads hl
        exact .effects (heff.sited ((houtcome.grows_unread hreads).mono fun _ ha => ha.calm))
      · exact .elsewhere (houtcome.unlinked hw hfd hos hl)
    · exact .effects (heff.sited ((houtcome.grows hmain).mono fun _ ha => ha.about.calm hx))

/-! ### The connection's own view -/

/-- What happened to the view was calm. -/
def View.Calm (v v' : View) : Prop :=
  ∃ new, v'.history = new ++ v.history ∧ ∀ a ∈ new, a.Passive ∨ a.Sends

theorem Move.extends {magic : Bytes} {Q : Promise} {v v' : View} (h : Move magic Q x v v') :
    ∃ new, v'.history = new ++ v.history := by
  cases h with
  | queued bytes _ _ => exact ⟨[.queued x bytes], by rw [View.send_eq]; rfl⟩
  | wrote front rest n _ _ _ =>
    exact ⟨[.send x (front.unsent.take n)], by rw [View.wrote_eq]; rfl⟩
  | writeFailed _ => exact ⟨[.sendFailed x], rfl⟩
  | listened c p _ => exact ⟨[], by rw [View.add_eq]; rfl⟩
  | watched _ => exact ⟨[], rfl⟩
  | parsed _ => exact ⟨[], rfl⟩
  | touched _ => exact ⟨[], rfl⟩
  | admitted o before _ _ _ _ _ _ => exact ⟨[], by rw [View.add_eq]; rfl⟩
  | _ => exact ⟨[_], rfl⟩

theorem Moves.extends {magic : Bytes} {Q : Promise} {v v' : View} (h : Moves magic Q x v v') :
    ∃ new, v'.history = new ++ v.history := by
  induction h with
  | refl => exact ⟨[], rfl⟩
  | tail _ hmove ih =>
    obtain ⟨new, hnew⟩ := ih
    obtain ⟨last, hlast⟩ := hmove.extends
    exact ⟨last ++ new, by rw [hlast, hnew, List.append_assoc]⟩

/-- What calm moves preserve holds at the end of them. -/
theorem Moves.calm {magic : Bytes} {Q : Promise} {V : View → Prop} {v v' : View}
    (h : Moves magic Q x v v') (hv : v.Sound x)
    (move : ∀ v v', v.Sound x → V v → Move magic Q x v v' → v.Calm v' → V v')
    (hcalm : v.Calm v') (hV : V v) : v'.Sound x ∧ V v' := by
  induction h with
  | refl => exact ⟨hv, hV⟩
  | tail hmoves hmove ih =>
    -- Both what was logged before the last move and what it logged itself is calm.
    obtain ⟨all, hall, hcalm⟩ := hcalm
    obtain ⟨new, hnew⟩ := Moves.extends hmoves
    obtain ⟨last, hlast⟩ := hmove.extends
    have hsplit : all = last ++ new := by
      rw [hlast, hnew, ← List.append_assoc] at hall
      exact (List.append_cancel_right hall).symm
    subst hsplit
    obtain ⟨hv1, hV1⟩ := ih ⟨new, hnew, fun a ha => hcalm a (List.mem_append_right _ ha)⟩
    exact ⟨hmove.sound hv1,
      move _ _ hv1 hV1 hmove ⟨last, hlast, fun a ha => hcalm a (List.mem_append_left _ ha)⟩⟩

/-- What calm moves of a main connection preserve is unmoved. -/
theorem Unmoved.of_view {V : View → Prop} (hx : x ≠ -1)
    (move : ∀ v v', v.Sound x → V v → Move env.magic P.toPromise x v v' → v.Calm v' → V v')
    (elsewhere : ∀ v : View, v.linked ≠ some .freeGrok → V v) :
    Unmoved env P x (fun _ => True) (fun w => V (w.view x)) where
  effect hw _ hV heff hgrows := by
    obtain ⟨new, hnew, hall⟩ := hgrows
    refine (Moves.calm (heff.moves hw.wf hx) (hw.views hx) move ?_ hV).2
    refine ⟨new.filter fun a => a.fd = x, ?_, fun a ha => ?_⟩
    · simp only [World.view, hnew, List.filter_append]
    · obtain ⟨hmem, hfd⟩ := List.mem_filter.mp ha
      exact hall a hmem (of_decide_eq_true hfd)
  heard hne _ hV hheard := by
    rw [(hheard.view x).2 hne.symm]
    exact hV
  advanced hne _ hV hadvanced := by
    rw [(hadvanced.view x).2 hne.symm]
    exact hV
  elsewhere hl := elsewhere _ hl

/-! ### Runs -/

variable {l : Listeners} {also : Loop.State → Loop.Input → Prop} {s : Loop.State}

/-- **What is calm between the reads of a main connection, and survives these, holds in every
run.** -/
theorem ReachableIf.main {J I : World → Prop} (h : ReachableIf env l also s)
    (terms : ∀ s i, also s i → Loop.Promised env P s i) (hJ : Kept env P J) (bootJ : J (World.boot l))
    (hI : Unmoved env P x J I) (boot : I (World.boot l))
    (read : ∀ os w w', x ≠ -1 → w.Sound → os.Fresh w.toRegistry → w.names.linked x = some .freeGrok →
      J w → I w → Loop.performReadQueue env os x .freeGrok w = .ok w' → I w') : I s.world := by
  refine Reach.invariant (P := fun s => I s.world) h boot fun s i s' hr hi hallowed hstep => ?_
  have hs : s.Sound := Reachable.sound hr
  have hj : J s.world := ReachableIf.invariant hr terms bootJ
    fun _ _ _ _ hw hj hhandled => hhandled.kept hJ hw hj
  cases i with
  | wait batch =>
    rw [Loop.step_wait hstep]
    exact hi
  | handle os =>
    obtain ⟨_, rfl⟩ | ⟨ev, rest, broke, w', hpending, hhandle, rfl⟩ := Loop.step_handle hstep
    · exact hi
    · have hfd : ev.event.fd ≠ -1 := hs.pending ev (by simp [hpending])
      have hkeeps := terms s (.handle os) hallowed.2 ev rest hpending
      have hos := hallowed.1.2
      rcases handleEvent_calmly x hs.world hfd hos hkeeps hhandle with
        hcalm | ⟨rfl, _, hl, w1, hsited, hwritten, hread⟩
      · exact hcalm.invariant hJ hI hs.world hj hi
      · have hreg := Loop.written_registry hwritten
        obtain ⟨hw1, hj1, hi1⟩ := hI.sited hJ hsited hs.world hj hi
        exact read os w1 w' hfd hw1 (hreg ▸ hos) (hreg ▸ hl) hj1 hi1 hread

end

end OpenGrok
