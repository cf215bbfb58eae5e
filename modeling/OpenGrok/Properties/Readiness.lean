import OpenGrok.Loop.Faults
import OpenGrok.Loop.Invariants

/-! Whether a connection is ready for its next event.

Two properties of every connection between two events: one read is queued for it, and
the selector watches for EPOLLOUT exactly while something is queued for writing. The
code loses both where it gives up on a connection, in `perform_read_queue` and
`perform_write_queue`, because it keeps the connection and waits for it to hang up. -/
namespace OpenGrok

namespace Loop

/-- The read that a connection of the observer waits with. -/
def Awaits (fd : SockT) : ObserverPtr → ReadItem → Prop
  | .freeGrok, .read fd' _ length _ buffer => fd' = fd ∧ 1 ≤ length ∧ buffer.length < length
  | .freeGrok, .capture _ _ => False
  | _, .capture fd' pending => fd' = fd ∧ pending = true
  | _, .read _ _ _ _ _ => False

/-- `tcp_send` fails on what is queued first. -/
def writeFails (os : Os) (fd : SockT) (w : World) : Bool :=
  match (w.gatherQueue fd).write with
  | [] => false
  | front :: _ => os.tcpSend (front.buffer.length - front.sent) ≤ 0

end Loop

section
variable {env : Env} {l : Listeners} {also : Loop.State → Loop.Input → Prop} {s : Loop.State}

theorem readReady_lasting (magic : Bytes) (P : Promise) :
    Lasting magic P fun _ v => v.ReadReady where
  move hv hr hm := hm.readReady hv hr
  heard _ hr hh := hh.readReady hr
  advanced hv hr ha := ha.readReady hv hr

theorem Reachable.readReady (h : ReachableIf env l also s) {x : SockT} (hx : x ≠ -1) :
    (s.world.view x).ReadReady :=
  h.views (P := Loop.anyTerms) (fun s i _ => Loop.promised_any s i)
    (readReady_lasting env.magic _) (fun _ _ => nofun) x hx

/-- A read that is queued is of the observer's kind. -/
theorem Reachable.awaits (h : ReachableIf env l also s) {fd : SockT} {o : ObserverPtr}
    (hfd : fd ≠ -1) (hl : s.world.linkedClients.lookup fd = some o) :
    (∃ item, (s.world.gatherQueue fd).read = [item] ∧ Loop.Awaits fd o item) ↔
      (s.world.gatherQueue fd).read ≠ [] := by
  constructor
  · intro hparts
    obtain ⟨item, hitem, -⟩ := hparts
    rw [hitem]
    exact List.cons_ne_nil _ _
  · intro hne
    have hl' : (s.world.view fd).linked = some o := hl
    obtain hnil | ⟨item, hitem, hfits⟩ := ((Reachable.sound h).world.views hfd).reads o hl'
    · exact absurd hnil hne
    · refine ⟨item, hitem, ?_⟩
      cases item with
      | capture fd' pending =>
        cases o with
        | freeGrok => exact hfits
        | httpInterface => exact hfits
        | grokProxy p => exact hfits
      | read fd' state length u64 buffer =>
        cases o with
        | freeGrok =>
          obtain ⟨rfl, hlen, -⟩ := hfits
          exact ⟨rfl, hlen.pos, Reachable.settled h fd' hfd hl' _ _ _ _ _ _ hitem⟩
        | httpInterface => exact hfits
        | grokProxy p => exact hfits

theorem writeFails_spec {os : Os} {fd : SockT} {w w' : World}
    (h : Loop.performWriteQueue os fd w = .ok w') :
    (w'.gatherQueue fd).read = if Loop.writeFails os fd w then [] else (w.gatherQueue fd).read := by
  have hview (v : World) : (v.gatherQueue fd).read = (v.view fd).queues.read := rfl
  obtain ⟨front, rest, hq, hw'⟩ := performWriteQueue_spec h
  have hq : (w.gatherQueue fd).write = front :: rest := hq
  simp only [hview, Loop.writeFails, hq]
  obtain ⟨hneg, rfl⟩ | ⟨hpos, rfl⟩ := hw'
  · rw [World.view_writeFailed]
    simp [hneg]
  · rw [World.view_wrote, if_pos rfl, View.wrote_read]
    simp [Int.not_le.mpr hpos]

/-- **An event on a linked connection raises `EmptyQueue(READ)` exactly if a call on the
connection has failed**, before the event or in its own write. -/
theorem emptyRead_iff (h : ReachableIf env l also s) {os : Os} {ev : Loop.Event} {o : ObserverPtr}
    (hfd : ev.fd ≠ -1) (hl : s.world.linkedClients.lookup ev.fd = some o)
    (hreads : ev.reads = true) :
    Loop.handleEvent env os ev s.world = .error .emptyRead ↔
      (ev.events.epollout = true → (s.world.gatherQueue ev.fd).write ≠ []) ∧
      ((s.world.view ev.fd).since Action.failure ≠ [] ∨
        ev.events.epollout = true ∧ Loop.writeFails os ev.fd s.world = true) := by
  have hw := (Reachable.sound h).world
  have hready := Reachable.readReady h hfd
  unfold View.ReadReady at hready
  have hl' : (s.world.view ev.fd).linked ≠ none := by
    rw [show (s.world.view ev.fd).linked = some o from hl]
    exact Option.some_ne_none o
  have hfailed : (s.world.gatherQueue ev.fd).read = [] ↔
      (s.world.view ev.fd).since Action.failure ≠ [] := hready hl'
  obtain ⟨hup, hin⟩ := Bool.and_eq_true_iff.mp hreads
  have hup : ev.hangsUp = false := by simpa using hup
  have hread (w : World) (hw : w.names.Wf) :
      Loop.performReadQueue env os ev.fd o w = .error .emptyRead ↔
        (w.gatherQueue ev.fd).read = [] := by
    constructor
    · intro herror
      by_contra hne
      exact ((Loop.performReadQueue_handler hw hne).noEmptyQueue _ herror).1 rfl
    · exact Loop.performReadQueue_empty
  have hthen (w : World) (hw : w.names.Wf) : (do
      let w ← Loop.performReadQueue env os ev.fd o w
      return (false, w) : Except Fault (Bool × World)) = .error .emptyRead ↔
        (w.gatherQueue ev.fd).read = [] := by
    rw [Except.bind_error_iff, ← hread w hw]
    exact or_iff_left nofun
  rw [handleEvent_linked hw hfd hl hup]
  simp only [hin, if_true]
  by_cases hout : ev.events.epollout = true
  · by_cases hempty : (s.world.gatherQueue ev.fd).write = []
    · simp [Loop.written, hout, hempty, Loop.performWriteQueue_empty hempty]
    · obtain ⟨w1, hwrite⟩ := Loop.performWriteQueue_ok os hempty
      have hspec := writeFails_spec hwrite
      simp only [Loop.written, hout, if_true, hwrite]
      refine (hthen w1 ((performWriteQueue_frame hwrite).1 ▸ hw.wf)).trans ?_
      rw [hspec]
      split
      · next hfails => simp [hempty, hfails]
      · next hfails => simp [hempty, hfails, hfailed]
  · simp only [Loop.written, hout]
    refine (hthen s.world hw.wf).trans ?_
    simp [hfailed]

/-- **Read-side continuity.** A connection waits with its one read exactly if no call on it
has failed since it was accepted, and its EPOLLIN raises `EmptyQueue(READ)` exactly if one
has failed by then. -/
theorem read_continuity (h : Reachable env l s) {fd : SockT} {o : ObserverPtr} (hfd : fd ≠ -1)
    (hl : s.world.linkedClients.lookup fd = some o) :
    ((∃ item, (s.world.gatherQueue fd).read = [item] ∧ Loop.Awaits fd o item) ↔
      (s.world.view fd).since Action.failure = []) ∧
    ∀ os ev, ev.fd = fd → ev.reads = true →
      (Loop.handleEvent env os ev s.world = .error .emptyRead ↔
        (ev.events.epollout = true → (s.world.gatherQueue fd).write ≠ []) ∧
        ((s.world.view fd).since Action.failure ≠ [] ∨
          ev.events.epollout = true ∧ Loop.writeFails os fd s.world = true)) := by
  refine ⟨?_, ?_⟩
  · have hl' : (s.world.view fd).linked = some o := hl
    have hready := Reachable.readReady h hfd (by simp [hl'])
    rw [Reachable.awaits h hfd hl]
    exact (not_congr hready).trans not_not
  · intro os ev hsame
    subst hsame
    intro hreads
    exact emptyRead_iff h hfd hl hreads

/-- A connection that has sent a GROK_PING, whose answer waits to be written. -/
def pinged : List Loop.Input :=
  [.readable 3 0, .accept 5, .readable 5 2, .data [2, 0]]

/-- The failure of a write takes the queued read with it, and the loop then finds the queue
empty: later, or in the very event whose write failed. -/
theorem read_discontinuity :
    (∃ s, Reachable (.plain []) .plain s ∧ s.world.linkedClients.lookup 5 = some .freeGrok ∧
      (s.world.gatherQueue 5).read = [] ∧
      Loop.handleEvent (.plain []) {} ⟨5, { epollin := true }⟩ s.world = .error .emptyRead) ∧
    ∃ s, Reachable (.plain []) .plain s ∧ s.world.linkedClients.lookup 5 = some .freeGrok ∧
      (s.world.gatherQueue 5).read = [.read 5 .typeGot 2 0 []] ∧
      Loop.handleEvent (.plain []) { send := -1 } ⟨5, { epollin := true, epollout := true }⟩
        s.world = .error .emptyRead := by
  constructor
  · exact ReachableIf.exists_of_run _ _ _ (pinged ++ [.wait [⟨⟨5, { epollout := true }⟩, 2⟩],
      .handle { send := -1 }]) _ (by decide +kernel) (by decide +kernel)
  · exact ReachableIf.exists_of_run _ _ _ pinged _ (by decide +kernel) (by decide +kernel)

theorem read_continuity_pinged : ∃ s, Reachable (.plain []) .plain s ∧
    ((∃ item, (s.world.gatherQueue 5).read = [item] ∧ Loop.Awaits 5 .freeGrok item) ↔
      (s.world.view 5).since Action.failure = []) := by
  obtain ⟨s, hs, hl⟩ := ReachableIf.exists_of_run (.plain []) .plain (fun _ _ => True) pinged
    (fun s => s.world.linkedClients.lookup 5 = some .freeGrok)
    (by decide +kernel) (by decide +kernel)
  exact ⟨s, hs, (read_continuity hs (by decide) hl).1⟩

/-! ### Writing -/

/-- The selector was last told to watch for EPOLLOUT on the descriptor. -/
def Loop.WatchesOut (w : World) (fd : SockT) : Prop :=
  ∃ evs, w.interest.lookup fd = some evs ∧ evs.epollout = true

/-- `tcp_recv` on a queued read of a main connection fails only while nothing is queued for
writing. -/
def Loop.ReadsFailIdle (s : State) : Input → Prop
  | .wait _ => True
  | .handle os =>
    match s.pending with
    | [] => True
    | ev :: _ => ev.event.reads = true → ¬Except.Returns (written os ev.event s.world) fun w =>
        readFails os ev.event.fd w = true ∧ (w.gatherQueue ev.event.fd).write ≠ []

instance (s : Loop.State) : ∀ i, Decidable (Loop.ReadsFailIdle s i)
  | .wait _ => isTrue trivial
  | .handle os =>
    match h : s.pending with
    | [] => isTrue (by simp [Loop.ReadsFailIdle, h])
    | ev :: _ => decidable_of_iff (ev.event.reads = true → ¬Except.Returns
        (Loop.written os ev.event s.world) fun w =>
          Loop.readFails os ev.event.fd w = true ∧ (w.gatherQueue ev.event.fd).write ≠ [])
        (by simp [Loop.ReadsFailIdle, h])

/-- What such a run promises. -/
def Loop.idleTerms : Terms :=
  { anyTerms with fail := fun _ v => v.queues.write = [] }

theorem Loop.promised_idle {i : Input} (h : ReadsFailIdle s i) : Promised env idleTerms s i := by
  cases i with
  | wait batch => trivial
  | handle os =>
    intro ev rest hpending
    simp only [ReadsFailIdle, hpending] at h
    refine { keeps_any env os ev.event s.world with fail := fun hreads w hw hfails => ?_ }
    have hno := h hreads
    rw [hw] at hno
    by_contra hne
    exact hno ⟨hfails, hne⟩

theorem writeReady_lasting (magic : Bytes) :
    Lasting magic Loop.idleTerms.toPromise fun _ v => v.WriteReady where
  move hv hr hm := hm.writeReady (fun _ _ h => h) hv hr
  heard _ hr hh := hh.writeReady hr
  advanced _ hr ha := ha.writeReady hr

theorem Reachable.writeReady (h : ReachableIf env l Loop.ReadsFailIdle s) {x : SockT}
    (hx : x ≠ -1) : (s.world.view x).WriteReady :=
  h.views (P := Loop.idleTerms) (fun _ _ => Loop.promised_idle) (writeReady_lasting env.magic)
    (fun _ _ => nofun) x hx

/-- An event on a linked connection raises `EmptyQueue(WRITE)` only if it is an EPOLLOUT and
nothing is queued. -/
theorem emptyWrite_never {w : World} {os : Os} {ev : Loop.Event} {o : ObserverPtr} (hw : w.Sound)
    (hfd : ev.fd ≠ -1) (hl : w.linkedClients.lookup ev.fd = some o)
    (hqueued : ev.events.epollout = true → (w.gatherQueue ev.fd).write ≠ []) :
    Loop.handleEvent env os ev w ≠ .error .emptyWrite := by
  have hread (w : World) (hw : w.names.Wf) :
      Loop.performReadQueue env os ev.fd o w ≠ .error .emptyWrite := by
    by_cases hempty : (w.gatherQueue ev.fd).read = []
    · rw [Loop.performReadQueue_empty hempty]
      nofun
    · exact fun herror =>
        ((Loop.performReadQueue_handler hw hempty).noEmptyQueue _ herror).2 rfl
  cases hup : ev.hangsUp with
  | true =>
    have hup : (ev.events.epollhup || ev.events.epollrdhup) = true := hup
    unfold Loop.handleEvent
    rw [if_pos hup]
    exact fun herror =>
      (Except.Only.bind (Loop.hangUp_noEmptyQueue ev.fd w) (fun _ _ => .pure _) _ herror).2 rfl
  | false =>
    rw [handleEvent_linked hw hfd hl hup]
    have hwritten : ∃ w', Loop.written os ev w = .ok w' ∧ w'.names.Wf := by
      unfold Loop.written
      split
      · next h =>
        obtain ⟨w', hwrite⟩ := Loop.performWriteQueue_ok os (hqueued h)
        exact ⟨w', hwrite, (performWriteQueue_frame hwrite).1 ▸ hw.wf⟩
      · exact ⟨w, rfl, hw.wf⟩
    obtain ⟨w', hw', hwf⟩ := hwritten
    rw [hw']
    intro herror
    change (if ev.events.epollin = true then _ else _) = _ at herror
    split at herror
    · obtain herror | ⟨_, _, herror⟩ := Except.bind_error_iff.mp herror
      · exact hread w' hwf herror
      · cases herror
    · cases herror

/-- **No lost and no spurious write wakeup.** In a run in which no read fails while something
is queued for writing, the selector watches a connection for EPOLLOUT exactly while something
is, and an EPOLLOUT that it watches for does not raise `EmptyQueue(WRITE)`. -/
theorem write_wakeup (h : ReachableIf env l Loop.ReadsFailIdle s) {fd : SockT} {o : ObserverPtr}
    (hfd : fd ≠ -1) (hl : s.world.linkedClients.lookup fd = some o) :
    ((s.world.gatherQueue fd).write ≠ [] ↔ Loop.WatchesOut s.world fd) ∧
    ∀ os ev, ev.fd = fd → (ev.events.epollout = true → Loop.WatchesOut s.world fd) →
      Loop.handleEvent env os ev s.world ≠ .error .emptyWrite := by
  have hl' : (s.world.view fd).linked = some o := hl
  obtain ⟨evs, hinterest, hready⟩ := Reachable.writeReady h hfd (by simp [hl'])
  have hwatch : (s.world.gatherQueue fd).write ≠ [] ↔ Loop.WatchesOut s.world fd := by
    refine hready.trans ⟨fun hout => ⟨evs, hinterest, hout⟩, ?_⟩
    intro hparts
    obtain ⟨evs', hinterest', hout⟩ := hparts
    cases Option.some.inj (hinterest.symm.trans hinterest')
    exact hout
  refine ⟨hwatch, ?_⟩
  intro os ev hsame
  subst hsame
  intro hout
  exact emptyWrite_never (Reachable.sound h).world hfd hl fun h => hwatch.mpr (hout h)

/-- A read that fails takes the queued answer with it, but the selector still watches for
EPOLLOUT, and the loop finds the queue empty. -/
theorem write_wakeup_spurious : ∃ s, Reachable (.plain []) .plain s ∧
    s.world.linkedClients.lookup 5 = some .freeGrok ∧ (s.world.gatherQueue 5).write = [] ∧
    s.world.interest.lookup 5 = some eventsRW ∧
    Loop.handleEvent (.plain []) { send := 2 } ⟨5, { epollout := true }⟩ s.world =
      .error .emptyWrite :=
  ReachableIf.exists_of_run _ _ _ (pinged ++ [.readable 5 2, .handle { recv := .error }]) _
    (by decide +kernel) (by decide +kernel)

theorem write_wakeup_pinged : ∃ s, ReachableIf (.plain []) .plain Loop.ReadsFailIdle s ∧
    (s.world.gatherQueue 5).write = [⟨[2, 0], 0⟩] ∧ Loop.WatchesOut s.world 5 := by
  obtain ⟨s, hs, hl, hq⟩ := ReachableIf.exists_of_run (.plain []) .plain Loop.ReadsFailIdle pinged
    (fun s => s.world.linkedClients.lookup 5 = some .freeGrok ∧
      (s.world.gatherQueue 5).write = [⟨[2, 0], 0⟩])
    (by decide +kernel) (by decide +kernel)
  exact ⟨s, hs, hq, (write_wakeup hs (by decide) hl).1.mp (by simp [hq])⟩

end

end OpenGrok
