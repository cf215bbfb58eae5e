import OpenGrok.Loop.Outcome
import OpenGrok.Properties.Returning
import OpenGrok.Properties.Sessions

/-! Clients that close.

`Net` is the server with what the peers of its sockets do: their bytes arrive in the
kernel, and they shut down their writing side, at any time. epoll reports a client with
unread bytes as readable and one that has shut down as hung up, and `recv` takes bytes
from the front of what is unread. The loop looks for a HUP or RDHUP before it reads, so
what a client has sent when its owner is told of its close was relayed exactly if the
loop had read it by then (`hangups_complete`). -/
namespace OpenGrok

/-- The server and the peers of its sockets: what they have sent since the socket was opened,
and whether they have shut down their writing side. -/
structure Net where
  loop : Loop.State
  sent : SockT → Bytes := fun _ => []
  shut : SockT → Bool := fun _ => false

/-- The socket is linked to a proxy that has an id for it. -/
def Registry.serves (r : Registry) (x : SockT) : Bool :=
  match r.linkedClients.lookup x with
  | some (.grokProxy p) => (r.proxies.lookup p).any fun px => (px.sockToId.lookup x).isSome
  | _ => false

namespace Net

/-- What happens next: bytes arrive, a peer shuts down its writing side, or the loop goes on. -/
inductive Input where
  | arrive (x : SockT) (bytes : Bytes)
  | shut (x : SockT)
  | loop (i : Loop.Input)

/-- The bytes that have arrived for a socket and were not read. -/
def unread (n : Net) (x : SockT) : Bytes :=
  (n.sent x).drop (Trace.since Action.received x n.loop.world.trace).length

def step (env : Env) (n : Net) : Input → Except Fault Net
  | .arrive x bytes => return { n with sent := Function.update n.sent x (n.sent x ++ bytes) }
  | .shut x => return { n with shut := Function.update n.shut x true }
  | .loop i => do
    let s ← Loop.step env n.loop i
    let new := s.world.trace.take (s.world.trace.length - n.loop.world.trace.length)
    return {
      loop := s
      sent := fun x => if Trace.starts x new then [] else n.sent x
      shut := fun x => if Trace.starts x new then false else n.shut x }

/-- What epoll reports of a client: EPOLLIN while bytes are unread, EPOLLRDHUP once its peer has
shut down; EPOLLHUP may come with that. -/
structure Reports (n : Net) (ev : Loop.Event) : Prop where
  unread : n.unread ev.fd ≠ [] → ev.events.epollin = true
  readable : ev.events.epollin = true → n.unread ev.fd ≠ [] ∨ n.shut ev.fd = true
  shut : ev.events.epollrdhup = n.shut ev.fd
  hup : ev.events.epollhup = true → n.shut ev.fd = true

instance (n : Net) (ev : Loop.Event) : Decidable (n.Reports ev) :=
  decidable_of_iff ((n.unread ev.fd ≠ [] → ev.events.epollin = true) ∧
      (ev.events.epollin = true → n.unread ev.fd ≠ [] ∨ n.shut ev.fd = true) ∧
      ev.events.epollrdhup = n.shut ev.fd ∧ (ev.events.epollhup = true → n.shut ev.fd = true))
    ⟨fun ⟨h1, h2, h3, h4⟩ => ⟨h1, h2, h3, h4⟩, fun ⟨h1, h2, h3, h4⟩ => ⟨h1, h2, h3, h4⟩⟩

/-- What `recv` delivers is the front of what is unread. -/
def Delivers (os : Os) (unread : Bytes) : Prop :=
  match os.recv with
  | .data bytes => bytes <+: unread ∧ (unread ≠ [] → bytes ≠ [])
  | .error => unread = []

instance (os : Os) (unread : Bytes) : Decidable (Delivers os unread) :=
  match h : os.recv with
  | .data bytes => decidable_of_iff (bytes <+: unread ∧ (unread ≠ [] → bytes ≠ []))
      (by simp [Delivers, h])
  | .error => decidable_of_iff (unread = []) (by simp [Delivers, h])

/-- What the kernel reports to the loop of a client, and delivers to it. Nothing is said of the
main connections and the HTTP clients. -/
def Kernel (n : Net) : Loop.Input → Prop
  | .wait batch => ∀ ev ∈ batch, n.loop.world.serves ev.event.fd = true → n.Reports ev.event
  | .handle os =>
    match n.loop.pending with
    | [] => True
    | ev :: _ => ev.event.reads = true →
        n.loop.world.linkedClients.lookup ev.event.fd ∉ [some .freeGrok, some .httpInterface] →
        Delivers os (n.unread ev.event.fd)

instance (n : Net) : ∀ i, Decidable (n.Kernel i)
  | .wait batch => inferInstanceAs (Decidable (∀ ev ∈ batch,
      n.loop.world.serves ev.event.fd = true → n.Reports ev.event))
  | .handle os =>
    match h : n.loop.pending with
    | [] => isTrue (by simp [Kernel, h])
    | ev :: _ => decidable_of_iff (ev.event.reads = true →
        n.loop.world.linkedClients.lookup ev.event.fd ∉ [some .freeGrok, some .httpInterface] →
        Delivers os (n.unread ev.event.fd)) (by simp only [Kernel, h])

/-- A peer that has shut down sends no more; `accept` gives a descriptor for the client that
connects. -/
def Allowed (n : Net) : Input → Prop
  | .arrive x _ => n.shut x = false
  | .shut _ => True
  | .loop i => (Loop.Allowed n.loop i ∧ Loop.AcceptsOpen n.loop i) ∧ n.Kernel i

instance (n : Net) : ∀ i, Decidable (n.Allowed i)
  | .arrive x _ => inferInstanceAs (Decidable (n.shut x = false))
  | .shut _ => isTrue trivial
  | .loop i => inferInstanceAs (Decidable ((Loop.Allowed n.loop i ∧ Loop.AcceptsOpen n.loop i) ∧
      n.Kernel i))

/-- The client whose close the input has the loop handle. -/
def closing (n : Net) : Input → Option SockT
  | .loop (.handle _) =>
    match n.loop.pending with
    | [] => none
    | ev :: _ =>
      if ev.event.hangsUp = true ∧ n.shut ev.event.fd = true ∧
          n.loop.world.serves ev.event.fd = true then some ev.event.fd else none
  | _ => none

/-- In the step, the owner `A` is told of the close of its client with the id, whose peer has shut
down; `before` is what has happened by then. -/
def Closes (env : Env) (n : Net) (i : Input) (A : SockT) (id : CIdT) (x : SockT)
    (before : List Action) : Prop :=
  ∃ n' p new later, n.step env i = .ok n' ∧ n.loop.world.names.Client p A id x ∧
    n.shut x = true ∧ before = new ++ n.loop.world.trace ∧
    n'.loop.world.trace =
      later ++ .frame A grokDisconnect (ByteBuffer.encode cIdSize id.toNat) :: before

/-- All that a client sent was relayed to its owner when the owner is told of its close. -/
def ClosedComplete (env : Env) (n : Net) (i : Input) : Prop :=
  ∀ A id x before, n.Closes env i A id x before →
    ∃ session, Trace.phase A id before = some (some session) ∧ session.relayed = n.sent x

/-- Nothing of a client is unread when its close is handled. -/
def ClosedRead (n : Net) (i : Input) : Prop := ∀ x, n.closing i = some x → n.unread x = []

instance (n : Net) (i : Input) : Decidable (n.ClosedRead i) :=
  match h : n.closing i with
  | none => isTrue (by simp [ClosedRead, h])
  | some x => decidable_of_iff (n.unread x = []) (by simp [ClosedRead, h])

/-- The server has just started. -/
def boot (l : Listeners) : Net := { loop := ⟨World.boot l, []⟩ }

end Net

/-! ### What is read is what arrived -/

theorem prefix_append_of_drop {a b c : Bytes} (h : a <+: c) (hb : b <+: c.drop a.length) :
    a ++ b <+: c := by
  obtain ⟨rest, rfl⟩ := h
  rw [List.drop_left] at hb
  exact List.prefix_append_right_inj a |>.mpr hb

section
variable {env : Env} {w w' : World} {p : Ptr} {A : SockT} {id : CIdT} {x : SockT}

/-- What the peer of a socket has sent, after more has happened. -/
def Trace.sentAfter (sent : SockT → Bytes) (new : List Action) (x : SockT) : Bytes :=
  if Trace.starts x new then [] else sent x

/-- What was received from a client is the front of what its peer has sent. -/
def World.Relays (sent : SockT → Bytes) (w : World) : Prop :=
  ∀ p A id x, x ≠ -1 → w.names.Client p A id x →
    Trace.since Action.received x w.trace <+: sent x

/-- What happened between the two worlds opens or closes no client, and reads nothing from it. -/
theorem Trace.relays_other {sent : SockT → Bytes} {new more t : List Action}
    (h : Trace.since Action.received x t <+: Trace.sentAfter sent new x)
    (hmore : ∀ a ∈ more, a.fd = x → a.isStart = false ∧ a.received = []) :
    Trace.since Action.received x (more ++ t) <+: Trace.sentAfter sent (more ++ new) x := by
  have hreceived : Trace.since Action.received x (more ++ t) = Trace.since Action.received x t :=
    Trace.after_append hmore
  have hstarts : Trace.starts x more = false :=
    Trace.starts_eq_false.mpr fun a ha hx => (hmore a ha hx).1
  rw [hreceived, Trace.sentAfter, Trace.starts_append, hstarts, Bool.false_or]
  exact h

/-- What an event promises whose `recv` delivers the front of what is unread: nothing has opened
or closed the socket since the event began, and what is read comes next. -/
def Loop.delivering (w₀ : World) (sent : SockT → Bytes) : Terms :=
  { Loop.accepting with hear := fun x v bytes =>
      (∃ new, v.history = new ++ (w₀.view x).history ∧ ∀ a ∈ new, a.isStart = false) ∧
      (v.linked ∉ [some .freeGrok, some .httpInterface] →
        v.since Action.received <+: sent x → v.since Action.received ++ bytes <+: sent x) }

theorem Effect.relays {w₀ : World} {sent : SockT → Bytes} {new : List Action}
    (h : Effect env (Loop.delivering w₀ sent) w w') (hw : w.names.Wf)
    (hnew : w.trace = new ++ w₀.trace) (hr : w.Relays (Trace.sentAfter sent new)) :
    ∃ new', w'.trace = new' ++ w₀.trace ∧ w'.Relays (Trace.sentAfter sent new') := by
  obtain ⟨more, hmore⟩ := h.ends.grows
  refine ⟨more ++ new, by rw [hmore, hnew, List.append_assoc], fun p A id x hx hc' => ?_⟩
  have hother (hc : w.names.Client p A id x)
      (hall : ∀ a ∈ more, a.fd = x → a.isStart = false ∧ a.received = []) :
      Trace.since Action.received x w'.trace <+: Trace.sentAfter sent (more ++ new) x := by
    rw [hmore]
    exact Trace.relays_other (hr p A id x hx hc) hall
  cases h.concerns hw hc' hx with
  | untouched hc hgrows =>
    obtain ⟨more', hmore', hall⟩ := hgrows
    obtain rfl := List.append_cancel_right (hmore'.symm.trans hmore)
    exact hother hc fun a ha he => ⟨((hall a ha).client he).1, ((hall a ha).client he).2.1⟩
  | announced before later _ htrace hxA hw' hlater =>
    have hnone : Trace.since Action.received x w'.trace = [] := by
      have hlate : Trace.since Action.received x w'.trace = Trace.since Action.received x
          (.frame A grokConnected (ByteBuffer.encode cIdSize id.toNat) :: w.trace) := by
        rw [hw']
        exact Trace.after_append fun a ha he =>
          ⟨((hlater a ha).client he).1, ((hlater a ha).client he).2.1⟩
      rw [hlate, Trace.since_other fun he => absurd he.symm hxA, htrace]
      exact Trace.since_start rfl rfl
    rw [hnone]
    exact List.nil_prefix
  | delivered length buffer hc hw' =>
    have hsplit : [_, _] = more := List.append_cancel_right (hw'.symm.trans hmore)
    subst hsplit
    refine hother hc fun a ha _ => ?_
    obtain rfl | ha := List.mem_cons.mp ha
    · exact ⟨rfl, rfl⟩
    · rw [List.mem_singleton.mp ha]
      exact ⟨rfl, rfl⟩
  | relayed q t y j bytes later hc hhear htunnel hj hw' hlater =>
    have hBx : t.initiator ≠ x := hc.ne_linked hw hx (hw.initiator_linked htunnel) nofun
    have hsplit : later ++ [_, _] = more := List.append_cancel_right (by
      rw [List.append_assoc]
      exact hw'.symm.trans hmore)
    have hquiet : ∀ a ∈ later, a.fd = x → a.isStart = false ∧ a.received = [] := fun a ha he =>
      ⟨((hlater a ha).client he).1, ((hlater a ha).client he).2.1⟩
    by_cases hy : y = x
    · subst hy
      obtain ⟨⟨newx, hhistory, hnewx⟩, hnext⟩ := hhear
      -- Nothing has opened or closed the client since the event began.
      have hsame : newx = new.filter fun a => a.fd = y := by
        refine List.append_cancel_right (hhistory.symm.trans ?_)
        show w.trace.filter _ = _
        rw [hnew, List.filter_append]
        rfl
      have hopen : Trace.starts y new = false := Trace.starts_eq_false.mpr fun a ha he =>
        hnewx a (hsame ▸ List.mem_filter.mpr ⟨ha, decide_eq_true he⟩)
      have hbefore := hr p A id y hx hc
      rw [Trace.sentAfter, if_neg (by simp [hopen])] at hbefore
      have hlinked : (w.view y).linked ∉ [some .freeGrok, some .httpInterface] := by
        have hproxy {o : ObserverPtr} (hl : w.names.linked y = some o) : o = .grokProxy q :=
          hw.sock_linked htunnel hj hx hl
        intro hmem
        obtain hl | hl := List.mem_cons.mp hmem
        · cases hproxy hl
        · cases hproxy (List.mem_singleton.mp hl)
      have hread : Trace.since Action.received y (.recv y bytes :: w.trace) <+:
          Trace.sentAfter sent (.recv y bytes :: new) y := by
        have hopen' : Trace.starts y (.recv y bytes :: new) = false := by
          rw [← hopen]
          simp [Trace.starts, Action.isStart]
        rw [← Trace.received_next rfl, Trace.sentAfter, if_neg (by simp [hopen'])]
        exact hnext hlinked hbefore
      have hframe : ∀ a ∈ later ++ [Action.frame t.initiator grokPacket
          (ByteBuffer.encode cIdSize j.toNat ++ bytes)],
          a.fd = y → a.isStart = false ∧ a.received = [] := by
        intro a ha he
        obtain ha | ha := List.mem_append.mp ha
        · exact hquiet a ha he
        · rw [List.mem_singleton.mp ha]
          exact ⟨rfl, rfl⟩
      have hall := Trace.relays_other hread hframe
      rw [List.append_assoc, List.append_assoc] at hall
      rw [← hsplit, List.append_assoc, hw']
      exact hall
    · rw [← hsplit] at hother ⊢
      refine hother hc fun a ha he => ?_
      obtain ha | ha := List.mem_append.mp ha
      · exact hquiet a ha he
      · obtain rfl | ha := List.mem_cons.mp ha
        · exact absurd he hBx
        · rw [List.mem_singleton.mp ha] at he
          exact absurd he hy

/-! ### Runs -/

theorem Handled.relays {w₀ : World} {sent : SockT → Bytes} {fd : SockT}
    (h : Handled env (Loop.delivering w₀ sent) fd w₀ w') (hw : w₀.Sound) (hr : w₀.Relays sent) :
    ∃ new, w'.trace = new ++ w₀.trace ∧ w'.Relays (Trace.sentAfter sent new) := by
  refine h.invariant (I := fun w => ∃ new, w.trace = new ++ w₀.trace ∧
    w.Relays (Trace.sentAfter sent new)) hw ?_ ?_ ?_ ⟨[], rfl, hr⟩
  · intro v v' hv ⟨new, hnew, hrv⟩ heff
    exact heff.relays hv.wf hnew hrv
  · intro v v' hv ⟨new, hnew, hrv⟩ hheard
    cases hheard with
    | mk fd' state length u64 buffer bytes rest hl _ _ =>
      refine ⟨.recv fd bytes :: new, congrArg (List.cons _) hnew, fun p A id x hx hc => ?_⟩
      have hc : v.names.Client p A id x := hc
      have hother : ∀ a ∈ [Action.recv fd bytes], a.fd = x → a.isStart = false ∧ a.received = [] := by
        intro a ha he
        rw [List.mem_singleton.mp ha] at he
        exact absurd he (hc.ne_linked hv.wf hx hl nofun)
      exact Trace.relays_other (hrv p A id x hx hc) hother
  · intro v v' _ ⟨new, hnew, hrv⟩ hadvanced
    cases hadvanced
    exact ⟨new, hnew, hrv⟩

variable {l : Listeners} {n n' : Net}

/-- The runs of the server in a net are runs of the server. -/
theorem Net.reachable (h : Reach (Net.step env) Net.Allowed (Net.boot l) n) :
    ReachableIf env l Loop.AcceptsOpen n.loop := by
  refine Reach.invariant (P := fun n => ReachableIf env l Loop.AcceptsOpen n.loop) h .start ?_
  intro n i n' _ hr hi hstep
  cases i with
  | arrive x bytes =>
    cases hstep
    exact hr
  | shut x =>
    cases hstep
    exact hr
  | loop i =>
    obtain ⟨s, hs, heq⟩ := Except.bind_ok_iff.mp hstep
    cases heq
    exact .next hr hi.1 hs

/-- A write opens and closes nothing, and reads nothing. -/
theorem Loop.written_grows {os : Os} {ev : Loop.Event} (h : Loop.written os ev w = .ok w') :
    w'.toRegistry = w.toRegistry ∧ Grows (fun a => a.isStart = false ∧ a.received = []) w w' := by
  unfold Loop.written at h
  split at h
  · refine ⟨(performWriteQueue_frame h).1, ?_⟩
    obtain ⟨front, rest, _, ⟨_, rfl⟩ | ⟨_, rfl⟩⟩ := performWriteQueue_spec h
    · exact .writeFailed ⟨rfl, rfl⟩
    · exact .wrote front rest _ ⟨rfl, rfl⟩
  · cases h
    exact ⟨rfl, .refl w⟩

/-- What `recv` delivers keeps its promise. -/
theorem Net.promised {os : Os} (hi : n.Allowed (.loop (.handle os))) :
    Loop.Promised env (Loop.delivering n.loop.world n.sent) n.loop (.handle os) := by
  intro ev rest hpending
  have haccepts : Loop.Keeps env os Loop.accepting ev.event n.loop.world :=
    hi.1.2.promised ev rest hpending
  refine { haccepts with hear := fun hreads w' hwritten bytes hrecv => ?_ }
  obtain ⟨hreg, hgrows⟩ := Loop.written_grows hwritten
  have hsince : (w'.view ev.event.fd).since Action.received =
      Trace.since Action.received ev.event.fd n.loop.world.trace :=
    hgrows.since Action.received fun a ha _ => ha
  refine ⟨?_, fun hlinked hbefore => ?_⟩
  · obtain ⟨new, hnew, hall⟩ := hgrows
    refine ⟨new.filter fun a => a.fd = ev.event.fd, ?_, fun a ha => ?_⟩
    · show w'.trace.filter _ = _
      rw [hnew, List.filter_append]
      rfl
    · exact (hall a (List.mem_of_mem_filter ha)).1
  · have hdelivers := hi.2
    simp only [Net.Kernel, hpending] at hdelivers
    have hdelivers := hdelivers hreads (hreg ▸ hlinked)
    rw [hsince] at hbefore ⊢
    refine prefix_append_of_drop hbefore ?_
    unfold Os.tcpRecv at hrecv
    unfold Net.Delivers at hdelivers
    split at hrecv
    · cases hrecv
    · next data hdata =>
      rw [hdata] at hdelivers
      cases hrecv
      exact (List.take_prefix redirBufSize data).trans hdelivers.1

/-- What was received from the clients is the front of what they have sent, in every run. -/
theorem Net.relays (h : Reach (Net.step env) Net.Allowed (Net.boot l) n) :
    n.loop.world.Relays n.sent := by
  refine Reach.invariant (P := fun n => n.loop.world.Relays n.sent) h ?_ ?_
  · exact fun _ _ _ _ _ ⟨_, ht, _⟩ => (nomatch ht)
  · intro n i n' hr hrelays hi hstep
    cases i with
    | arrive x bytes =>
      cases hstep
      intro p A id y hy hc
      refine (hrelays p A id y hy hc).trans ?_
      dsimp only
      rw [Function.update_apply]
      split
      · next he =>
        rw [he]
        exact List.prefix_append ..
      · exact List.prefix_rfl
    | shut x =>
      cases hstep
      exact hrelays
    | loop i =>
      obtain ⟨s, hs, heq⟩ := Except.bind_ok_iff.mp hstep
      cases heq
      have hsame (hworld : s.world = n.loop.world) : s.world.Relays fun x =>
          if Trace.starts x (s.world.trace.take
            (s.world.trace.length - n.loop.world.trace.length)) then [] else n.sent x := by
        rw [hworld]
        simpa [Trace.starts] using hrelays
      cases i with
      | wait batch =>
        have hwait := Loop.step_wait hs
        exact hsame (by rw [hwait])
      | handle os =>
        have hsound := Reachable.sound (Net.reachable hr)
        obtain ⟨_, rfl⟩ | ⟨ev, rest, broke, w, hpending, hhandle, rfl⟩ := Loop.step_handle hs
        · exact hsame rfl
        · have hfd : ev.event.fd ≠ -1 := hsound.pending ev (by simp [hpending])
          have hhandled := handleEvent_handled hsound.world hfd hi.1.1.2
            (Net.promised hi ev rest hpending) hhandle
          obtain ⟨new, hnew, hall⟩ := hhandled.relays hsound.world hrelays
          have htake : w.trace.take (w.trace.length - n.loop.world.trace.length) = new := by
            rw [hnew, List.length_append, Nat.add_sub_cancel]
            exact List.take_left
          dsimp only
          rw [htake]
          exact hall

theorem Registry.serves_iff {r : Registry} :
    r.serves x = true ↔ ∃ p px id, r.linkedClients.lookup x = some (.grokProxy p) ∧
      r.proxies.lookup p = some px ∧ px.sockToId.lookup x = some id := by
  unfold Registry.serves
  constructor
  · intro h
    split at h
    · next p hl =>
      obtain ⟨px, hp, hsome⟩ := (Option.any_eq_true _ _).mp h
      obtain ⟨id, hid⟩ := Option.isSome_iff_exists.mp hsome
      exact ⟨p, px, id, hl, hp, hid⟩
    · cases h
  · intro ⟨p, px, id, hl, hp, hid⟩
    rw [hl]
    exact (Option.any_eq_true _ _).mpr ⟨px, hp, Option.isSome_iff_exists.mpr ⟨id, hid⟩⟩

theorem Net.closing_spec {i : Net.Input} (h : n.closing i = some x) :
    ∃ os ev rest, i = .loop (.handle os) ∧ n.loop.pending = ev :: rest ∧ ev.event.fd = x ∧
      ev.event.hangsUp = true ∧ n.shut x = true ∧ n.loop.world.serves x = true := by
  unfold Net.closing at h
  split at h
  · next os =>
    split at h
    · cases h
    · next ev rest hpending =>
      split at h
      · next hclosing =>
        cases h
        exact ⟨os, ev, rest, rfl, hpending, rfl, hclosing⟩
      · cases h
  · cases h

/-- A client's close is handled, and its owner is told of it. -/
theorem Net.closing_told (env : Env) {i : Net.Input} (hs : n.loop.Sound) (h : n.closing i = some x) :
    ∃ n' p px id later, Net.step env n i = .ok n' ∧ n.loop.world.proxies.lookup p = some px ∧
      px.sockToId.lookup x = some id ∧ n.shut x = true ∧
      n'.loop.world.trace = later ++ .frame px.initiator grokDisconnect
        (ByteBuffer.encode cIdSize id.toNat) :: n.loop.world.trace := by
  obtain ⟨os, ev, rest, rfl, hpending, rfl, hup, hshut, hserves⟩ := Net.closing_spec h
  obtain ⟨p, px, id, hl, hp, hid⟩ := Registry.serves_iff.mp hserves
  have hfd : ev.event.fd ≠ -1 := hs.pending ev (by simp [hpending])
  obtain ⟨w', hhang⟩ : ∃ w', Loop.hangUp env ev.event.fd n.loop.world = .ok w' := by
    have hruns : NoFault (Loop.hangUp env ev.event.fd n.loop.world) :=
      Loop.hangUp_runs hs.world hfd (World.proxy_names hp).1 hid
    cases hhang : Loop.hangUp env ev.event.fd n.loop.world with
    | error e => exact absurd hhang (hruns e)
    | ok w' => exact ⟨w', rfl⟩
  have hstep : Loop.step env n.loop (.handle os) = .ok ⟨w', []⟩ := by
    have hhup : (ev.event.events.epollhup || ev.event.events.epollrdhup) = true := hup
    simp only [Loop.step, hpending, Loop.handleEvent, if_pos hhup, hhang, bind, Except.bind, pure,
      Except.pure, if_true]
  obtain ⟨n', hstep, hloop⟩ : ∃ n', Net.step env n (.loop (.handle os)) = .ok n' ∧
      n'.loop = ⟨w', []⟩ := ⟨_, Except.bind_ok_iff.mpr ⟨_, hstep, rfl⟩, rfl⟩
  have hunobserved : n.loop.world.observers.lookup ev.event.fd = none :=
    (hs.world.wf.linked_open hfd hl).2
  unfold Loop.hangUp at hhang
  rw [hunobserved] at hhang
  obtain ⟨px', id', b, hp', hid', _, hw'⟩ := client_hangUp hl hhang
  obtain ⟨later, hlater, _⟩ := World.hungUp_grows env n.loop.world ev.event.fd p px' id' b
  refine ⟨n', p, px', id', later, hstep, hp', hid', hshut, ?_⟩
  rw [hloop, hw']
  exact hlater

/-- **The owner is told first** when a client's close is handled, and at no other time. -/
theorem Net.Closes.start {i : Net.Input} {before : List Action}
    (h : n.Closes env i A id x before) (hs : n.loop.Sound) (ho : n.loop.world.InOrder)
    (hallowed : n.Allowed i) : n.closing i = some x ∧ before = n.loop.world.trace := by
  obtain ⟨n', p, new, later, hstep, hc, hshut, rfl, htrace⟩ := h
  cases i with
  | arrive y bytes =>
    cases hstep
    exact absurd htrace History.ne_later
  | shut y =>
    cases hstep
    exact absurd htrace History.ne_later
  | loop i =>
    obtain ⟨s, hloop, heq⟩ := Except.bind_ok_iff.mp hstep
    cases heq
    obtain ⟨os, ev, rest, broke, w, rfl, hpending, hhandle, rfl⟩ := Loop.step_logs hloop htrace
    have hfd : ev.event.fd ≠ -1 := hs.pending ev (by simp [hpending])
    obtain ⟨rfl, p', px, id', hup, hl, hp, hid, rfl, hsame⟩ :=
      (handleEvent_outcome hs.world hfd hhandle).farewell hs.world hfd hallowed.1.1.2 htrace
    obtain rfl := encodeId_inj.mp hsame
    have hserves : n.loop.world.serves ev.event.fd = true :=
      Registry.serves_iff.mpr ⟨p', px, id, hl, hp, hid⟩
    -- the owner has one proxy, and the proxy one client with the id
    have hholds : n.loop.world.names.Holds p' id ev.event.fd :=
      ho.ledger.inverse.mpr ⟨_, (World.proxy_names hp).1, hid⟩
    have hclient : n.loop.world.names.Client p' px.initiator id ev.event.fd := by
      obtain ⟨t, ht, hid⟩ := hholds
      cases Option.some.inj ((World.proxy_names hp).1.symm.trans ht)
      exact ⟨_, ht, rfl, hid⟩
    obtain rfl := hc.proxy_eq hs.world.wf hclient
    obtain rfl := Names.Holds.fun hc.holds hclient.holds
    refine ⟨?_, rfl⟩
    simp only [Net.closing, hpending]
    rw [if_pos ⟨hup, hshut, hserves⟩]

/-- **What a client has sent when it closes is lost exactly if it is unread**: in any run, each
client's bytes were all relayed to its owner when the owner is told of its close, if and only if
each time nothing of it was unread. -/
theorem hangups_complete {inputs : List Net.Input}
    (h : Permitted (Net.step env) Net.Allowed (Net.boot l) inputs) :
    Permitted (Net.step env) (Net.ClosedComplete env) (Net.boot l) inputs ↔
      Permitted (Net.step env) Net.ClosedRead (Net.boot l) inputs := by
  refine Permitted.congr .start h fun n i hr hallowed => ?_
  have ho := (Net.reachable hr).inOrder
  have hsession {p : Ptr} {A : SockT} {id : CIdT} {x : SockT}
      (hc : n.loop.world.names.Client p A id x) :
      ∃ session, Trace.phase A id n.loop.world.trace = some (some session) ∧
        session.relayed = Trace.since Action.received x n.loop.world.trace ∧
        n.sent x = session.relayed ++ n.unread x := by
    obtain ⟨session, hphase, hof⟩ := ho.tracked.inSession hc
    obtain ⟨rest, hrest⟩ := Net.relays hr p A id x (ho.ledger.accepting hc.holds) hc
    refine ⟨session, hphase, hof.relayed, ?_⟩
    rw [Net.unread, ← hrest, List.drop_left, hof.relayed]
  constructor
  · intro hcomplete x hx
    obtain ⟨n', p, px, id, later, hstep, hp, hid, hshut, htrace⟩ :=
      Net.closing_told env (Reachable.sound (Net.reachable hr)) hx
    obtain ⟨t, ht, hid⟩ := ho.ledger.inverse.mpr ⟨_, (World.proxy_names hp).1, hid⟩
    cases Option.some.inj ((World.proxy_names hp).1.symm.trans ht)
    have hc : n.loop.world.names.Client p px.initiator id x := ⟨_, ht, rfl, hid⟩
    obtain ⟨session, hphase, _, hsent⟩ := hsession hc
    obtain ⟨session', hphase', hsent'⟩ := hcomplete px.initiator id x n.loop.world.trace
      ⟨n', p, [], later, hstep, hc, hshut, rfl, htrace⟩
    cases hphase.symm.trans hphase'
    exact List.append_right_eq_self.mp (hsent.symm.trans hsent'.symm)
  · intro hread A id x before hcloses
    obtain ⟨hx, rfl⟩ := hcloses.start (Reachable.sound (Net.reachable hr)) ho hallowed
    obtain ⟨_, p, _, _, _, hc, _⟩ := hcloses
    obtain ⟨session, hphase, _, hsent⟩ := hsession hc
    refine ⟨session, hphase, ?_⟩
    rw [hsent, hread x hx, List.append_nil]

/-- A net with a property, reached on a list of inputs. -/
theorem Net.exists_of_run (env : Env) (l : Listeners) (inputs : List Net.Input) (Q : Net → Prop)
    (hp : Permitted (Net.step env) Net.Allowed (Net.boot l) inputs)
    (hr : Except.Returns (run (Net.step env) (Net.boot l) inputs) Q) :
    ∃ n, Reach (Net.step env) Net.Allowed (Net.boot l) n ∧ Q n :=
  Reach.exists_of_run hp hr

/-- The client 7 of the owner 5 sends two bytes and closes before the loop gets to it. -/
theorem hangups_complete_unread :
    ∃ n before, Reach (Net.step (.plain [])) Net.Allowed (Net.boot .plain) n ∧
      n.Allowed (.loop (.handle {})) ∧
      n.Closes (.plain []) (.loop (.handle {})) 5 0 7 before ∧ n.sent 7 = [1, 2] ∧
      Trace.phase 5 0 before = some (some ⟨[], []⟩) ∧
      ¬n.ClosedComplete (.plain []) (.loop (.handle {})) := by
  obtain ⟨n, hn, hallowed, hshut, hstep, hsent, hphase, hproxy⟩ :=
    Net.exists_of_run (.plain []) .plain
      (twoOwners.map .loop ++ [.arrive 7 [1, 2], .shut 7,
        .loop (.wait [⟨⟨7, { epollin := true, epollrdhup := true }⟩, 6⟩])])
      (fun n => n.Allowed (.loop (.handle {})) ∧ n.shut 7 = true ∧
        Except.Returns (Net.step (.plain []) n (.loop (.handle {}))) (fun n' =>
          n'.loop.world.trace.drop 3 = .frame 5 grokDisconnect [0, 0, 0, 0] :: n.loop.world.trace) ∧
        n.sent 7 = [1, 2] ∧ Trace.phase 5 0 n.loop.world.trace = some (some ⟨[], []⟩) ∧
        (n.loop.world.proxies.lookup 0).any fun px => px.initiator = 5 ∧
          px.idToSock.lookup 0 = some 7)
      (by decide +kernel) (by decide +kernel)
  obtain ⟨px, hpx, hfields⟩ := (Option.any_eq_true _ _).mp hproxy
  obtain ⟨howner, hid⟩ := of_decide_eq_true hfields
  obtain ⟨n', hstep, htrace⟩ := hstep.exists
  have hcloses : n.Closes (.plain []) (.loop (.handle {})) 5 0 7 n.loop.world.trace := by
    refine ⟨n', 0, [], n'.loop.world.trace.take 3, hstep,
      ⟨_, (World.proxy_names hpx).1, howner, hid⟩, hshut, rfl, ?_⟩
    have hframe : n'.loop.world.trace.drop 3 = .frame 5 grokDisconnect
      (ByteBuffer.encode cIdSize (0 : CIdT).toNat) :: n.loop.world.trace := htrace
    rw [← hframe, List.take_append_drop]
  refine ⟨n, _, hn, hallowed, hcloses, hsent, hphase, fun hcomplete => ?_⟩
  obtain ⟨session, hphase', hrelayed⟩ := hcomplete 5 0 7 _ hcloses
  cases hphase.symm.trans hphase'
  rw [hsent] at hrelayed
  cases hrelayed

/-- The bytes are read before the client closes. -/
theorem hangups_complete_read :
    Permitted (Net.step (.plain [])) (Net.ClosedComplete (.plain [])) (Net.boot .plain)
      (twoOwners.map .loop ++ [.arrive 7 [1, 2], .loop (.readable 7 6), .loop (.data [1, 2]), .shut 7,
        .loop (.wait [⟨⟨7, { epollrdhup := true }⟩, 6⟩]), .loop (.handle {})]) :=
  (hangups_complete (by decide +kernel)).mpr (by decide +kernel)

end

end OpenGrok
