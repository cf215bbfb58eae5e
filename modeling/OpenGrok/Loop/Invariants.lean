import OpenGrok.Loop.Handle

/-! What holds in every run.

A run is a sequence of batches and of events handled, and an event is a sequence of
effects; so what the effects preserve holds wherever a run gets (`ReachableIf.invariant`),
and what the moves of one descriptor preserve holds of every descriptor
(`ReachableIf.views`). -/
namespace OpenGrok

/-- The descriptor is a proxy's listener. -/
def Registry.proxyListens (r : Registry) (fd : SockT) : Bool :=
  match r.observers.lookup fd with
  | some (.grokProxy _) => true
  | _ => false

theorem Registry.proxyListens_of_lookup {r : Registry} {fd : SockT} {p : Ptr}
    (h : r.observers.lookup fd = some (.grokProxy p)) : r.proxyListens fd = true := by
  simp only [proxyListens, h]

namespace Loop
variable {env : Env} {P : Terms}

/-- Every event of the run keeps the promises. -/
def Promised (env : Env) (P : Terms) (s : State) : Input → Prop
  | .wait _ => True
  | .handle os => ∀ ev rest, s.pending = ev :: rest → Keeps env os P ev.event s.world

/-- The terms that promise nothing. -/
def anyTerms : Terms where
  drop _ _ := True
  fail _ _ := True
  leave _ _ := True
  hangUp := True
  refuse _ := True
  draw _ _ := True
  hear _ _ _ := True
  answer _ := True

theorem keeps_any (env : Env) (os : Os) (ev : Event) (w : World) : Keeps env os anyTerms ev w where
  drop _ _ _ := trivial
  fail _ _ _ _ := trivial
  leave _ _ _ := trivial
  hangUp _ := trivial
  refuse _ _ _ _ := trivial
  draw _ _ _ _ _ := trivial
  hear _ _ _ _ _ := trivial
  answer := trivial

theorem promised_any (s : State) (i : Input) : Promised env anyTerms s i := by
  cases i with
  | wait batch => trivial
  | handle os => exact fun ev _ _ => keeps_any env os ev.event s.world

/-- A sound world, and events for real descriptors only. -/
structure State.Sound (s : State) : Prop where
  world : s.world.Sound
  pending : ∀ ev ∈ s.pending, ev.event.fd ≠ -1

theorem boot_sound (l : Listeners) : (World.boot l).Sound where
  wf := Names.Wf.boot l
  views {x} _ := by
    have hobserver : (World.boot l).observers.lookup x = none ∨
        (World.boot l).openSocks.lookup x ≠ none := by
      simp only [World.boot, Table.lookup_insert_ite, AList.lookup_empty]
      split_ifs <;> simp
    have hinterest : (World.boot l).openSocks.lookup x = none →
        (World.boot l).interest.lookup x = none := by
      simp only [World.boot, Table.lookup_insert_ite, AList.lookup_empty]
      split_ifs <;> simp
    refine ⟨fun ho => ?_, fun _ => ⟨rfl, rfl⟩, fun _ _ => .inl rfl, .inl rfl⟩
    exact ⟨rfl, hobserver.resolve_right fun hne => hne ho, rfl, hinterest ho⟩

/-- Handling the next event, if there is one. -/
theorem step_handle {s s' : State} {os : Os} (h : step env s (.handle os) = .ok s') :
    s.pending = [] ∧ s' = s ∨ ∃ ev rest broke w, s.pending = ev :: rest ∧
      handleEvent env os ev.event s.world = .ok (broke, w) ∧
      s' = { world := w, pending := if broke then [] else rest } := by
  simp only [step] at h
  split at h
  · next hnil =>
    cases h
    exact .inl ⟨hnil, rfl⟩
  · next ev rest hcons =>
    obtain ⟨⟨broke, w⟩, hhandle, h⟩ := Except.bind_ok_iff.mp h
    cases h
    exact .inr ⟨ev, rest, broke, w, hcons, hhandle, rfl⟩

/-- Taking a batch changes nothing in the world. -/
theorem step_wait {s s' : State} {batch : List Pending} (h : step env s (.wait batch) = .ok s') :
    s' = { s with pending := batch } := by
  simp only [step] at h
  split at h
  · cases h
  · cases h
    rfl

/-- A step in which something happens handles an event. -/
theorem step_logs {s s' : State} {i : Input} {later new : List Action} {a : Action}
    (h : step env s i = .ok s') (hlog : s'.world.trace = later ++ a :: (new ++ s.world.trace)) :
    ∃ os ev rest broke w, i = .handle os ∧ s.pending = ev :: rest ∧
      handleEvent env os ev.event s.world = .ok (broke, w) ∧
      s' = { world := w, pending := if broke then [] else rest } := by
  have hmoved : s'.world ≠ s.world := by
    intro hsame
    rw [hsame] at hlog
    exact History.ne_later hlog
  cases i with
  | wait batch => exact absurd (by rw [step_wait h]) hmoved
  | handle os =>
    obtain ⟨_, rfl⟩ | ⟨ev, rest, broke, w, hpending, hhandle, hs'⟩ := step_handle h
    · exact absurd rfl hmoved
    · exact ⟨os, ev, rest, broke, w, rfl, hpending, hhandle, hs'⟩

/-- A step handles an event, or leaves the world alone. -/
theorem step_handled {s s' : State} {i : Input} (hs : s.Sound) (hallowed : Allowed s i)
    (hpromised : Promised env P s i) (h : step env s i = .ok s') :
    (s'.world = s.world ∨ ∃ fd, fd ≠ -1 ∧ Handled env P fd s.world s'.world) ∧
      ∀ ev ∈ s'.pending, ev.event.fd ≠ -1 := by
  cases i with
  | wait batch =>
    rw [step_wait h]
    refine ⟨.inl rfl, fun ev hev => ?_⟩
    have hopen := hs.world.wf.open_nonneg (hallowed.2.reported ev hev)
    intro hneg
    rw [hneg] at hopen
    exact absurd hopen (by decide)
  | handle os =>
    obtain ⟨_, rfl⟩ | ⟨ev, rest, broke, w, hpending, hhandle, rfl⟩ := step_handle h
    · exact ⟨.inl rfl, hs.pending⟩
    · have hfd : ev.event.fd ≠ -1 := hs.pending ev (by simp [hpending])
      have hkeeps := hpromised ev rest hpending
      refine ⟨.inr ⟨_, hfd, handleEvent_handled hs.world hfd hallowed.2 hkeeps hhandle⟩, ?_⟩
      intro ev' hev'
      dsimp only at hev'
      split at hev'
      · cases hev'
      · exact hs.pending ev' (by simp [hpending, hev'])

theorem step_sound {s s' : State} {i : Input} (hs : s.Sound) (hallowed : Allowed s i)
    (hpromised : Promised env P s i) (h : step env s i = .ok s') : s'.Sound := by
  obtain ⟨hsame | ⟨fd, _, hhandled⟩, hpending⟩ := step_handled hs hallowed hpromised h
  · exact ⟨hsame ▸ hs.world, hpending⟩
  · exact ⟨hhandled.sound hs.world, hpending⟩

end Loop

section
variable {env : Env} {l : Listeners} {also : Loop.State → Loop.Input → Prop} {s : Loop.State}

/-- **Every reachable state is sound**, whatever the system calls answered. -/
theorem Reachable.sound (h : ReachableIf env l also s) : s.Sound :=
  h.invariant ⟨Loop.boot_sound l, nofun⟩ fun s i _ _ hs hi hstep =>
    Loop.step_sound hs hi.1 (Loop.promised_any s i) hstep

/-- What holds at the start and survives every event holds in every state. -/
theorem ReachableIf.invariant {P : Terms} {I : World → Prop} (h : ReachableIf env l also s)
    (terms : ∀ s i, also s i → Loop.Promised env P s i) (boot : I (World.boot l))
    (event : ∀ fd w w', fd ≠ -1 → w.Sound → I w → Handled env P fd w w' → I w') : I s.world := by
  refine Reach.invariant (P := fun s => I s.world) h boot fun s i s' hr hI hi hstep => ?_
  have hs : s.Sound := Reachable.sound hr
  obtain ⟨hsame | ⟨fd, hfd, hhandled⟩, -⟩ := Loop.step_handled hs hi.1 (terms s i hi.2) hstep
  · rw [hsame]
    exact hI
  · exact event fd _ _ hfd hs.world hI hhandled

/-! ### Properties of one descriptor -/

/-- What a descriptor's moves preserve. -/
structure Lasting (magic : Bytes) (P : Promise) (V : SockT → View → Prop) : Prop where
  move : ∀ {x v v'}, v.Sound x → V x v → Move magic P x v v' → V x v'
  heard : ∀ {x v v'}, v.Sound x → V x v → HeardAll x v v' → V x v'
  advanced : ∀ {x v v'}, v.Sound x → V x v → Advanced x v v' → V x v'

theorem Lasting.moves {magic : Bytes} {P : Promise} {V : SockT → View → Prop} {x : SockT}
    {v v' : View} (hV : Lasting magic P V) (h : Moves magic P x v v') (hv : v.Sound x ∧ V x v) :
    v'.Sound x ∧ V x v' :=
  Steps.invariant (P := fun v => v.Sound x ∧ V x v) h
    (fun _ _ hv hm => ⟨hm.sound hv.1, hV.move hv.1 hv.2 hm⟩) hv

/-- An event preserves it at every descriptor. -/
theorem Handled.views {P : Terms} {V : SockT → View → Prop} {fd : SockT} {w w' : World}
    (h : Handled env P fd w w') (hV : Lasting env.magic P.toPromise V) (hw : w.Sound)
    (hv : ∀ x, x ≠ -1 → V x (w.view x)) : ∀ x, x ≠ -1 → V x (w'.view x) := by
  refine h.invariant (I := fun w => ∀ x, x ≠ -1 → V x (w.view x)) hw ?_ ?_ ?_ hv
  · intro w w' hw hv heff x hx
    exact (hV.moves (heff.moves hw.wf hx) ⟨hw.views hx, hv x hx⟩).2
  · intro w w' hw hv hheard x hx
    by_cases he : x = fd
    · exact hV.heard (hw.views hx) (hv x hx) ((hheard.view x).1 he)
    · rw [(hheard.view x).2 he]
      exact hv x hx
  · intro w w' hw hv hadvanced x hx
    by_cases he : x = fd
    · exact hV.advanced (hw.views hx) (hv x hx) ((hadvanced.view x).1 he)
    · rw [(hadvanced.view x).2 he]
      exact hv x hx

/-- **What a descriptor's moves preserve holds of every descriptor in every run.** -/
theorem ReachableIf.views {P : Terms} {V : SockT → View → Prop} (h : ReachableIf env l also s)
    (terms : ∀ s i, also s i → Loop.Promised env P s i) (hV : Lasting env.magic P.toPromise V)
    (boot : ∀ x, x ≠ -1 → V x ((World.boot l).view x)) : ∀ x, x ≠ -1 → V x (s.world.view x) :=
  h.invariant (I := fun w => ∀ x, x ≠ -1 → V x (w.view x)) terms boot
    fun _ _ _ _ hw hv hhandled => hhandled.views hV hw hv

/-- A queued read of a main connection is never received to its end between two events. -/
theorem Reachable.settled (h : ReachableIf env l also s) :
    ∀ x, x ≠ -1 → (s.world.view x).Settled := by
  refine h.invariant (P := Loop.anyTerms) (I := fun w => ∀ x, x ≠ -1 → (w.view x).Settled)
    (fun s i _ => Loop.promised_any s i) (fun x _ => nofun) ?_
  intro fd w w' hfd hw hv hhandled
  have effects {w w' : World} {P : Terms} (h : Effects env P w w') (hw : w.Sound) {x : SockT}
      (hx : x ≠ -1) (hv : (w.view x).Settled) : (w'.view x).Settled :=
    (Steps.invariant (P := fun w => w.Sound ∧ (w.view x).Settled) h
      (fun w w' hs he => ⟨he.sound hs.1, (Steps.invariant (P := fun v => v.Sound x ∧ v.Settled)
        (he.moves hs.1.wf hx) (fun _ _ hv hm => ⟨hm.sound hv.1, hm.settled hv.1 hv.2⟩)
        ⟨hs.1.views hx, hs.2⟩).2⟩) ⟨hw, hv⟩).2
  cases hhandled with
  | effects heff => exact fun x hx => effects heff hw hx (hv x hx)
  | frame h1 hheard h3 hadvanced =>
    intro x hx
    have hw1 := Effects.sound h1 hw
    have hw3 := Effects.sound h3 (hheard.sound hw1)
    by_cases he : x = fd
    · exact ((hadvanced.view x).1 he).settled (hw3.views hx)
    · rw [(hadvanced.view x).2 he]
      refine effects h3 (hheard.sound hw1) hx ?_
      rw [(hheard.view x).2 he]
      exact effects h1 hw hx (hv x hx)

end

end OpenGrok
