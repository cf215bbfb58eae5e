import OpenGrok.Loop.Outcome
import OpenGrok.Properties.Isolation
import OpenGrok.Server.Session

/-! An owner's DISCONNECT.

What an owner sends for a client goes into the client's write queue, and a writable
event takes it from there; a GROK_DISCONNECT frame closes the client at once and drops
its queue. So what the owner has sent has reached the socket when it is closed exactly if
nothing of it is left in the queue (`dismissals_complete`). -/
namespace OpenGrok

/-- The owner is told of the id. -/
def Action.tells (A : SockT) (id : CIdT) (a : Action) : Bool :=
  decide (a = .frame A grokConnected (ByteBuffer.encode cIdSize id.toNat))

/-- The payloads of the owner's GROK_PACKET frames for the id, since it was told of it. -/
def Trace.asked (A : SockT) (id : CIdT) (t : List Action) : Bytes :=
  Trace.after (Action.tells A id) (Action.packet id) A t

namespace Loop

/-- In the step, the server closes the client of `A` that has the id because of a GROK_DISCONNECT
frame; `before` is what has happened by then. -/
def Dismisses (env : Env) (s : State) (i : Input) (A : SockT) (id : CIdT) (x : SockT)
    (before : List Action) : Prop :=
  ∃ s' p new later, step env s i = .ok s' ∧ s.world.names.Client p A id x ∧
    before = new ++ s.world.trace ∧ s'.world.trace = later ++ .close x :: before ∧
    ∃ a ∈ new, a.fd = A ∧ a.Dismisses id

/-- A client that its owner has closed has been handed by then all that the owner sent for it, unless
a `tcp_send` on it failed. -/
def DismissedComplete (env : Env) (s : State) (i : Input) : Prop :=
  ∀ A id x before, Dismisses env s i A id x before → x ≠ -1 →
    Trace.since Action.sendFailure x before = [] →
    Trace.asked A id before = Trace.since Action.sent x before

/-- Nothing is left to be sent to a client that its owner has closed. -/
def DismissedDrained (env : Env) (s : State) (i : Input) : Prop :=
  ∀ A id x before, Dismisses env s i A id x before → x ≠ -1 →
    Trace.since Action.sendFailure x before = [] →
    (s.world.gatherQueue x).write.flatMap WriteItem.unsent = []

/-- The client that the input has closed: the target of an owner's GROK_DISCONNECT frame. -/
def dismissed (env : Env) (s : State) : Input → Option SockT
  | .wait _ => none
  | .handle os =>
    match s.pending with
    | [] => none
    | ev :: _ => if ev.event.reads then closes env os ev.event.fd s.world else none

end Loop

/-! ### What an owner sends is queued -/

/-- What an owner sent for its clients was queued for them. -/
def World.Queued (w : World) : Prop :=
  ∀ p A id x, x ≠ -1 → w.names.Client p A id x →
    Trace.asked A id w.trace = Trace.since Action.queuedBytes x w.trace

section
variable {env : Env} {P : Terms} {w w' : World} {p : Ptr} {A : SockT} {id : CIdT} {x : SockT}

/-- What says nothing of the id asks nothing for it. -/
theorem Action.Untouched.untold {a : Action} (h : Action.Untouched A id x a) (hA : a.fd = A) :
    a.tells A id = false ∧ a.packet id = [] := by
  have hmarks := (h.owner hA).2
  constructor
  · refine decide_eq_false ?_
    intro hsame
    subst hsame
    rw [marks_connected, if_pos rfl] at hmarks
    cases hmarks
  · cases a with
    | message fd type length buffer =>
      by_contra hp
      rw [marks_delivered hp] at hmarks
      cases hmarks
    | _ => rfl

theorem Trace.queued_untouched {t new : List Action}
    (h : Trace.asked A id t = Trace.since Action.queuedBytes x t)
    (hnew : ∀ a ∈ new, Action.Untouched A id x a) :
    Trace.asked A id (new ++ t) = Trace.since Action.queuedBytes x (new ++ t) := by
  have hasked : Trace.asked A id (new ++ t) = Trace.asked A id t :=
    Trace.after_append fun a ha hA => (hnew a ha).untold hA
  have hqueued : Trace.since Action.queuedBytes x (new ++ t) = Trace.since Action.queuedBytes x t :=
    Trace.after_append fun a ha hx => ⟨((hnew a ha).client hx).1, ((hnew a ha).client hx).2.2⟩
  rw [hasked, hqueued, h]

theorem Concerns.queued (h : Concerns P w w' p A id x) (hw : w.names.Wf) (hq : w.Queued)
    (hx : x ≠ -1) : Trace.asked A id w'.trace = Trace.since Action.queuedBytes x w'.trace := by
  cases h with
  | untouched hc hgrows =>
    obtain ⟨new, hnew, hall⟩ := hgrows
    rw [hnew]
    exact Trace.queued_untouched (hq p A id x hx hc) hall
  | announced before later _ htrace hxA hw' hlater =>
    rw [hw']
    refine Trace.queued_untouched ?_ hlater
    have hnone : Trace.since Action.queuedBytes x (.frame A grokConnected
        (ByteBuffer.encode cIdSize id.toNat) :: w.trace) = [] := by
      rw [Trace.since_other fun he => absurd he.symm hxA, htrace]
      exact Trace.since_start rfl rfl
    rw [hnone]
    exact Trace.after_mark rfl (decide_eq_true rfl)
  | delivered length buffer hc hw' =>
    have hother : (Action.message A grokPacket length (some buffer)).fd ≠ x :=
      hc.ne_linked hw hx (hc.linked hw) nofun
    have hasked : Trace.asked A id w.trace ++
        (Action.message A grokPacket length (some buffer)).packet id =
          Trace.asked A id (.message A grokPacket length (some buffer) :: w.trace) :=
      Trace.after_next rfl (decide_eq_false nofun) rfl
    rw [hw']
    refine Eq.trans (Trace.after_other fun _ => ⟨decide_eq_false nofun, rfl⟩) ?_
    refine hasked.symm.trans (Trace.queued_next ?_)
    rw [Trace.since_ne hother]
    exact hq p A id x hx hc
  | relayed q t y j bytes later hc _ htunnel _ hw' hlater =>
    have hother : (Action.frame t.initiator grokPacket
        (ByteBuffer.encode cIdSize j.toNat ++ bytes)).fd ≠ x :=
      hc.ne_linked hw hx (hw.initiator_linked htunnel) nofun
    rw [hw']
    refine Trace.queued_untouched ?_ hlater
    refine Eq.trans (Trace.after_other fun _ => ⟨decide_eq_false ?_, rfl⟩) ?_
    · intro he
      cases he
    rw [Trace.since_ne hother, Trace.since_other fun _ => ⟨rfl, rfl⟩]
    exact Eq.trans (Trace.after_other fun _ => ⟨decide_eq_false nofun, rfl⟩) (hq p A id x hx hc)

theorem Handled.queued {fd : SockT} (h : Handled env P fd w w') (hw : w.Sound) (hq : w.Queued) :
    w'.Queued := by
  refine h.invariant hw ?_ ?_ ?_ hq
  · intro v v' hv hqv heff p A id x hx hc
    exact (heff.concerns hv.wf hc hx).queued hv.wf hqv hx
  · intro v v' hv hqv hheard p A id x hx hc
    cases hheard with
    | mk fd' state length u64 buffer bytes rest hl _ _ =>
      have hc : v.names.Client p A id x := hc
      have huntouched : ∀ a ∈ [Action.recv fd bytes], Action.Untouched A id x a := by
        intro a ha
        rw [List.mem_singleton.mp ha]
        exact .of_owner ⟨rfl, rfl⟩ (hc.ne_linked hv.wf hx hl nofun)
      exact Trace.queued_untouched (hqv p A id x hx hc) huntouched
  · intro v v' _ hqv hadvanced
    cases hadvanced
    exact hqv

variable {l : Listeners} {s : Loop.State}

theorem Reachable.queued (h : Reachable env l s) : s.world.Queued :=
  h.invariant (P := Loop.anyTerms) (fun s i _ => Loop.promised_any s i)
    (fun _ _ _ _ _ ⟨_, ht, _⟩ => (nomatch ht)) fun _ _ _ _ hw hq hhandled => hhandled.queued hw hq

/-! ### What is queued is sent -/

theorem Reachable.streams (h : Reachable env l s) (hx : x ≠ -1) : (s.world.view x).Streams := by
  have hlasting : Lasting env.magic Loop.anyTerms.toPromise fun _ v => View.Streams v :=
    { move := fun hv hs hm => hm.streams hv hs
      heard := fun _ _ hh => hh.streams
      advanced := fun _ hs ha => ha.streams hs }
  exact h.views (fun s i _ => Loop.promised_any s i) hlasting (fun _ _ _ _ => rfl) x hx

/-- A client's socket has all that its owner sent exactly if none of it is left in the queue. -/
theorem Reachable.sent_iff (h : Reachable env l s) (hc : s.world.names.Client p A id x) (hx : x ≠ -1)
    (hfail : Trace.since Action.sendFailure x s.world.trace = []) :
    Trace.asked A id s.world.trace = Trace.since Action.sent x s.world.trace ↔
      (s.world.gatherQueue x).write.flatMap WriteItem.unsent = [] := by
  have hw := (Reachable.sound h).world.wf
  have hlinked : (s.world.view x).linked ≠ some .freeGrok := fun hl =>
    hc.ne_linked hw hx hl nofun rfl
  have hstream : Trace.since Action.queuedBytes x s.world.trace =
      Trace.since Action.sent x s.world.trace ++
        (s.world.gatherQueue x).write.flatMap WriteItem.unsent := Reachable.streams h hx hlinked hfail
  rw [Reachable.queued h p A id x hx hc, hstream]
  exact List.append_right_eq_self

/-! ### What happens before the close -/

/-- A GROK_DISCONNECT frame that closes something closes its target, and does nothing else. -/
theorem FreeGrok.Disconnected.closing {length : Nat} {buffer : Option Bytes}
    (h : FreeGrok.Disconnected env A length buffer w w') (hw : w.names.Wf) :
    ∃ new, w'.trace = new ++ w.trace ∧ ∀ x, Action.close x ∈ new →
      new = [.close x] ∧ disconnectTarget w A grokDisconnect length buffer = some x := by
  cases h with
  | refused code _ _ _ =>
    have hgrows : Grows (fun a => ∀ x, a ≠ .close x) w (FStreamer.sendError env A code w) :=
      .frame grokError [code] nofun nofun
    obtain ⟨new, hnew, hall⟩ := hgrows
    exact ⟨new, hnew, fun x hx => absurd rfl (hall _ hx x)⟩
  | closed u p px bytes id y hu hs hp hlength hbuffer hid hy hforce =>
    obtain ⟨o, b, _, _, rfl⟩ | ⟨_, rfl⟩ := FreeGrok.forceDisconnect_untabled hw hp hy hforce
    · refine ⟨[.close y], rfl, fun x hx => ?_⟩
      obtain rfl := Action.close.inj (List.mem_singleton.mp hx)
      refine ⟨rfl, ?_⟩
      rw [hlength, hbuffer, FreeGrok.disconnectTarget_eq hu hs hp, hid, UInt32.ofNat_toNat, hy]
    · exact ⟨[], rfl, nofun⟩

theorem Action.Dismisses.message {a : Action} (h : a.Dismisses id) :
    ∃ fd buffer, a = .message fd grokDisconnect cIdSize (some buffer) := by
  cases a with
  | message fd type length buffer =>
    cases buffer with
    | none => exact h.elim
    | some buffer =>
      obtain ⟨rfl, rfl, _⟩ := h
      exact ⟨fd, buffer, rfl⟩
  | _ => exact h.elim

/-- A main connection's read that closes a client because of a GROK_DISCONNECT frame does nothing
before but read and take the frame up. -/
theorem readMain_dismissing {os : Os} {new : List Action} {a : Action} (hw : w.Sound) (hA : A ≠ -1)
    (hl : w.names.linked A = some .freeGrok) (hos : os.Fresh w.toRegistry)
    (h : Loop.performReadQueue env os A .freeGrok w = .ok w') (hnew : w'.trace = new ++ w.trace)
    (ha : a ∈ new) (hdismisses : a.Dismisses id) (hx : Action.close x ∈ new) :
    Loop.closes env os A w = some x ∧ ∃ buffer bytes,
      new = [.close x, .message A grokDisconnect cIdSize buffer, .recv A bytes] := by
  obtain ⟨fd, sent, rfl⟩ := hdismisses.message
  cases readMain_heard hw hA hl h with
  | failed state length u64 buffer _ _ =>
    have hone : [Action.recvFailed A] = new := List.append_cancel_right hnew
    subst hone
    cases List.mem_singleton.mp hx
  | partly state length u64 buffer bytes _ _ _ _ =>
    have hone : [Action.recv A bytes] = new := List.append_cancel_right hnew
    subst hone
    cases List.mem_singleton.mp hx
  | wholly state length u64 buffer bytes hread hrecv hne hfull hreact =>
    have hheard : w.HeardAll A
        (w.heard A (.read A state length u64 (buffer ++ bytes)) [] bytes) :=
      .mk A state length u64 buffer bytes [] hl hread hfull
    have hv := hheard.sound hw
    have hreg := hheard.registry
    have htrace : (w.heard A (.read A state length u64 (buffer ++ bytes)) [] bytes).trace =
        .recv A bytes :: w.trace := rfl
    generalize w.heard A (.read A state length u64 (buffer ++ bytes)) [] bytes = v at *
    obtain ⟨v', hcommands, rfl⟩ := react_commands (P := Loop.anyTerms) hv.wf hA (hreg ▸ hos)
      (FreeGrok.decode_proper ..) (fun _ _ _ _ _ _ => trivial) hreact
    obtain ⟨said, hsaid, htold⟩ := hcommands.grows_told
    have hparts : said ++ [.recv A bytes] = new := by
      refine List.append_cancel_right (Eq.trans ?_ hnew)
      rw [List.append_assoc]
      show said ++ .recv A bytes :: w.trace = v'.trace
      rw [hsaid, htrace]
    subst hparts
    -- the parser has found that very frame
    have hmessage : Action.message fd grokDisconnect cIdSize (some sent) ∈ said := by
      rcases List.mem_append.mp ha with ha | ha
      · exact ha
      · cases List.mem_singleton.mp ha
    have hclose : Action.close x ∈ said := by
      rcases List.mem_append.mp hx with hx | hx
      · exact hx
      · cases List.mem_singleton.mp hx
    obtain ⟨_, htold | ⟨_, _, htold⟩⟩ := htold _ hmessage
    · exact htold.elim
    have hreaction := htold _ (List.mem_singleton_self _)
    cases hdecode : FreeGrok.decode env u64 (buffer ++ bytes) state with
    | more _ _ _ =>
      rw [hdecode] at hreaction
      cases hreaction
    | error code =>
      rw [hdecode] at hreaction
      cases List.mem_singleton.mp hreaction
    | message type len payload =>
      rw [hdecode] at hreaction hreact
      cases List.mem_singleton.mp hreaction
      obtain ⟨v2, hprocess, hrest⟩ := Except.bind_ok_iff.mp hreact
      have hrest : FreeGrok.goNewMessage A v2 = Loop.recv A _ _ _ v' := Except.ok.inj hrest
      have hsame : v2.trace = v'.trace := by
        have hrest := congrArg World.trace hrest
        exact hrest
      have hlog : (v.log (.message A grokDisconnect cIdSize payload)).names.Wf := hv.wf
      obtain ⟨done, hdone, hcloses⟩ :=
        (FreeGrok.disconnect_disconnected hprocess).closing hlog
      have hall : done ++ [.message A grokDisconnect cIdSize payload] = said := by
        refine List.append_cancel_right (Eq.trans ?_ (hdone.symm.trans (hsame.trans hsaid)))
        rw [List.append_assoc]
        rfl
      subst hall
      have hclose : Action.close x ∈ done := by
        rcases List.mem_append.mp hclose with hx | hx
        · exact hx
        · cases List.mem_singleton.mp hx
      obtain ⟨rfl, htarget⟩ := hcloses x hclose
      refine ⟨(closes_completed hl hread hrecv hne hfull hdecode).trans ?_, payload, bytes, rfl⟩
      have htarget : disconnectTarget v A grokDisconnect cIdSize payload = some x := htarget
      unfold disconnectTarget at htarget ⊢
      rw [← hreg]
      exact htarget

/-- An event that closes a client because of a GROK_DISCONNECT frame does nothing before but write to
its owner, read the frame and take it up, and nothing after. -/
theorem handleEvent_dismissing {os : Os} {ev : Loop.Event} {broke : Bool} {new : List Action}
    {a : Action} (hw : w.Sound) (hfd : ev.fd ≠ -1) (hos : os.Fresh w.toRegistry)
    (h : Loop.handleEvent env os ev w = .ok (broke, w')) (hnew : w'.trace = new ++ w.trace)
    (ha : a ∈ new) (hdismisses : a.Dismisses id) (hx : Action.close x ∈ new) :
    ev.reads = true ∧ Loop.closes env os ev.fd w = some x ∧ ∃ earlier, new = .close x :: earlier ∧
      ∀ b ∈ earlier, b.fd = ev.fd ∧ b ≠ .close x ∧ b.tells ev.fd id = false ∧ b.packet id = [] := by
  obtain ⟨fd, sent, rfl⟩ := hdismisses.message
  by_cases hmain : ev.reads = true → w.names.linked ev.fd ≠ some .freeGrok
  · obtain ⟨new', hnew', hall⟩ := (handleEvent_outcome hw hfd h).grows hmain
    obtain rfl := List.append_cancel_right (hnew.symm.trans hnew')
    obtain hbeside | ⟨_, hbeside⟩ := hall _ ha
    · exact hbeside.elim
    · exact hbeside.elim
  · obtain ⟨hreads, hl⟩ := Classical.not_imp.mp hmain
    have hl : w.linkedClients.lookup ev.fd = some .freeGrok := not_not.mp hl
    have hflags : ev.hangsUp = false ∧ ev.events.epollin = true := by
      simpa [Loop.Event.reads] using hreads
    rw [handleEvent_linked hw hfd hl hflags.1] at h
    obtain ⟨w1, hwritten, h⟩ := Except.bind_ok_iff.mp h
    rw [if_pos hflags.2] at h
    obtain ⟨w2, hread, heq⟩ := Except.bind_ok_iff.mp h
    obtain rfl : w2 = w' := congrArg Prod.snd (Except.ok.inj heq)
    have hw1 := Loop.written_sound hw hfd hwritten
    have hreg := Loop.written_registry hwritten
    have hl1 : w1.names.linked ev.fd = some .freeGrok := by
      rw [hreg]
      exact hl
    obtain ⟨sends, hsends, hcalls⟩ := Loop.written_sends hwritten
    have hmainRead : MainRead env Loop.anyTerms ev.fd w1 w2 :=
      readMain_read hw1 hfd hl1 (hreg ▸ hos) (fun _ _ => trivial) (fun _ => trivial) hread
    obtain ⟨did, hdid, _⟩ := hmainRead.grows
    have hparts : did ++ sends = new := by
      refine List.append_cancel_right (Eq.trans ?_ hnew)
      rw [List.append_assoc, hdid, hsends]
    subst hparts
    have hframe := (List.mem_append.mp ha).resolve_right fun hb => (hcalls _ hb).2
    have hclose := (List.mem_append.mp hx).resolve_right fun hb => (hcalls _ hb).2
    obtain ⟨hcloses, buffer, bytes, rfl⟩ :=
      readMain_dismissing hw1 hfd hl1 (hreg ▸ hos) hread hdid hframe hdismisses hclose
    refine ⟨hreads, (Loop.written_closes hw hfd hwritten hcloses).1, _, rfl, fun b hb => ?_⟩
    rcases List.mem_cons.mp hb with rfl | hb
    · exact ⟨rfl, by simp, by simp [Action.tells],
        FreeGrok.message_packet (by decide) cIdSize buffer id⟩
    · rcases List.mem_cons.mp hb with rfl | hb
      · exact ⟨rfl, by simp, by simp [Action.tells], rfl⟩
      · obtain ⟨hat, hcall⟩ := hcalls b hb
        cases b with
        | send _ _ => exact ⟨hat, by simp, by simp [Action.tells], rfl⟩
        | sendFailed _ => exact ⟨hat, by simp, by simp [Action.tells], rfl⟩
        | _ => exact hcall.elim

/-- What happens before the close is of no concern to the client, and asks nothing for it. -/
theorem Loop.Dismisses.earlier {i : Loop.Input} {before : List Action}
    (h : Loop.Dismisses env s i A id x before) (hs : s.Sound) (hallowed : Loop.Allowed s i) :
    Loop.dismissed env s i = some x ∧ ∃ new, before = new ++ s.world.trace ∧
      ∀ a ∈ new, a.fd = A ∧ a.tells A id = false ∧ a.packet id = [] := by
  obtain ⟨s', p, new, later, hstep, hc, rfl, htrace, a, ha, rfl, hdismisses⟩ := h
  obtain ⟨os, ev, rest, broke, w, rfl, hpending, hhandle, rfl⟩ := Loop.step_logs hstep htrace
  have hfd : ev.event.fd ≠ -1 := hs.pending ev (by simp [hpending])
  have hnew : w.trace = (later ++ .close x :: new) ++ s.world.trace := by
    rw [List.append_assoc]
    exact htrace
  obtain ⟨hreads, hcloses, earlier, hearlier, hquiet⟩ := handleEvent_dismissing hs.world hfd
    hallowed.2 hhandle hnew (List.mem_append_right _ (List.mem_cons_of_mem _ ha)) hdismisses
    (List.mem_append_right _ (List.mem_cons_self ..))
  have hdismissed : Loop.dismissed env s (.handle os) = some x := by
    simp only [Loop.dismissed, hpending]
    rw [if_pos hreads]
    exact hcloses
  cases later with
  | nil =>
    obtain rfl : new = earlier := (List.cons.inj hearlier).2
    have hat := (hquiet a ha).1
    refine ⟨hdismissed, new, rfl, fun b hb => ?_⟩
    obtain ⟨hb, _, hquiet⟩ := hquiet b hb
    rw [hat]
    exact ⟨hb, hquiet⟩
  | cons c later =>
    -- the close is there once
    have hagain : Action.close x ∈ earlier := by
      rw [← (List.cons.inj hearlier).2]
      exact List.mem_append_right _ (List.mem_cons_self ..)
    exact absurd rfl (hquiet _ hagain).2.1

/-- **An owner's DISCONNECT truncates exactly what is still queued**: in any run, each client that
its owner has closed had been handed by then all that the owner sent for it, unless a `tcp_send`
failed, if and only if each time nothing was left in the client's write queue. -/
theorem dismissals_complete {inputs : List Loop.Input}
    (h : Permitted (Loop.step env) Loop.Allowed ⟨World.boot l, []⟩ inputs) :
    Permitted (Loop.step env) (Loop.DismissedComplete env) ⟨World.boot l, []⟩ inputs ↔
      Permitted (Loop.step env) (Loop.DismissedDrained env) ⟨World.boot l, []⟩ inputs := by
  refine Permitted.congr .start h fun s i hr hi => ?_
  have hr : Reachable env l s := hr.mono fun _ _ h => ⟨h, trivial⟩
  have hs := Reachable.sound hr
  have hiff {A id x before} (hdismisses : Loop.Dismisses env s i A id x before) (hx : x ≠ -1)
      (hfail : Trace.since Action.sendFailure x before = []) :
      Trace.asked A id before = Trace.since Action.sent x before ↔
        (s.world.gatherQueue x).write.flatMap WriteItem.unsent = [] := by
    obtain ⟨_, new, rfl, hquiet⟩ := hdismisses.earlier hs hi
    obtain ⟨_, p, _, _, _, hc, _⟩ := hdismisses
    have hne : A ≠ x := hc.ne_linked hs.world.wf hx (hc.linked hs.world.wf) nofun
    have hasked : Trace.asked A id (new ++ s.world.trace) = Trace.asked A id s.world.trace :=
      Trace.after_append fun a ha _ => (hquiet a ha).2
    have hsince {β : Type} (part : Action → List β) :
        Trace.since part x (new ++ s.world.trace) = Trace.since part x s.world.trace :=
      Trace.after_append fun a ha hax => absurd ((hquiet a ha).1.symm.trans hax) hne
    rw [hsince] at hfail
    rw [hasked, hsince]
    exact Reachable.sent_iff hr hc hx hfail
  constructor
  · intro hcomplete A id x before hdismisses hx hfail
    exact (hiff hdismisses hx hfail).mp (hcomplete A id x before hdismisses hx hfail)
  · intro hdrained A id x before hdismisses hx hfail
    exact (hiff hdismisses hx hfail).mpr (hdrained A id x before hdismisses hx hfail)

/-- The owner 5 sends a byte for its client 7. -/
def packetRun : List Loop.Input :=
  twoOwners ++ [.readable 5 2, .data [14, 5], .readable 5 2, .data [0, 0, 0, 0, 9]]

/-- The owner has the client closed before the loop came to write the byte. -/
theorem dismissals_complete_queued :
    ∃ s before, Reachable (.plain []) .plain s ∧ Loop.Allowed s (.data [0, 0, 0, 0]) ∧
      Loop.Dismisses (.plain []) s (.data [0, 0, 0, 0]) 5 0 7 before ∧
      Trace.asked 5 0 before = [9] ∧ Trace.since Action.sent 7 before = [] ∧
      ¬Loop.DismissedComplete (.plain []) s (.data [0, 0, 0, 0]) := by
  obtain ⟨s, hs, hallowed, hcloses, hcollected, hproxy⟩ :=
    ReachableIf.exists_of_run (.plain []) .plain (fun _ _ => True)
      (packetRun ++ [.readable 5 2, .data [22, 4], .readable 5 2])
      (fun s =>
        let before := [.message 5 grokDisconnect cIdSize (some [0, 0, 0, 0]),
          .recv 5 [0, 0, 0, 0]] ++ s.world.trace
        Loop.Allowed s (.data [0, 0, 0, 0]) ∧
        Except.Returns (Loop.step (.plain []) s (.data [0, 0, 0, 0]))
          (fun s' => s'.world.trace = .close 7 :: before) ∧
        (Trace.asked 5 0 before = [9] ∧ Trace.since Action.sent 7 before = [] ∧
          Trace.since Action.sendFailure 7 before = []) ∧
        (s.world.proxies.lookup 0).any fun px => px.initiator = 5 ∧ px.idToSock.lookup 0 = some 7)
      (by decide +kernel) (by decide +kernel)
  obtain ⟨px, hpx, hfields⟩ := (Option.any_eq_true _ _).mp hproxy
  obtain ⟨howner, hid⟩ := of_decide_eq_true hfields
  obtain ⟨s', hstep, htrace⟩ := hcloses.exists
  obtain ⟨hasked, hsent, hfail⟩ := hcollected
  have hdismisses : Loop.Dismisses (.plain []) s (.data [0, 0, 0, 0]) 5 0 7 _ :=
    ⟨s', 0, _, [], hstep, ⟨_, (World.proxy_names hpx).1, howner, hid⟩, rfl, htrace, _,
      List.mem_cons_self .., rfl, rfl, rfl, by decide⟩
  refine ⟨s, _, hs, hallowed, hdismisses, hasked, hsent, fun hcomplete => ?_⟩
  have hsame := hcomplete 5 0 7 _ hdismisses (by decide) hfail
  rw [hasked, hsent] at hsame
  cases hsame

/-- Nothing is left in a run in which nothing is left whenever a frame names a client to close. -/
theorem dismissals_drained {inputs : List Loop.Input}
    (h : Permitted (Loop.step env) (fun s i => Loop.Allowed s i ∧
      ∀ x ∈ Loop.dismissed env s i, (s.world.gatherQueue x).write.flatMap WriteItem.unsent = [])
      ⟨World.boot l, []⟩ inputs) :
    Permitted (Loop.step env) (Loop.DismissedDrained env) ⟨World.boot l, []⟩ inputs := by
  refine h.all .start fun s i hr hi A id x before hdismisses _ _ => hi.2 x ?_
  have hr : Reachable env l s := hr.mono fun _ _ h => ⟨h.1, trivial⟩
  exact (hdismisses.earlier (Reachable.sound hr) hi.1).1

/-- The byte is written before the owner has the client closed. -/
def writtenRun : List Loop.Input :=
  packetRun ++ [.wait [⟨⟨7, { epollout := true }⟩, 6⟩], .handle { send := 1 },
    .readable 5 2, .data [22, 4], .readable 5 2, .data [0, 0, 0, 0]]

theorem dismissals_complete_written :
    Permitted (Loop.step (.plain [])) (Loop.DismissedComplete (.plain [])) ⟨World.boot .plain, []⟩
      writtenRun ∧
    Except.Returns (run (Loop.step (.plain [])) ⟨World.boot .plain, []⟩ writtenRun) fun s =>
      s.world.trace.take 2 =
        [.close 7, .message 5 grokDisconnect cIdSize (some [0, 0, 0, 0])] :=
  ⟨(dismissals_complete (by decide +kernel)).mpr (dismissals_drained (by decide +kernel)),
    by decide +kernel⟩

end

end OpenGrok
