import OpenGrok.Loop.HangUp

/-! The loop, inverted.

What the promises of a run mean for one event (`Keeps`), and the proof that every case
of the loop is a sequence of effects. -/
namespace OpenGrok

namespace Loop
variable (env : Env) (os : Os)

/-- The front read of the connection, if what `tcp_recv` delivers completes it: the state of
the parser, what it kept, and the bytes read. -/
def completedRead (fd : SockT) (w : World) : Option (PacketState × Nat × Bytes) :=
  match (w.gatherQueue fd).read with
  | .read _ state length u64 buffer :: _ =>
    match os.tcpRecv (length - buffer.length) with
    | none | some [] => none
    | some bytes =>
      if (buffer ++ bytes).length ≥ length then some (state, u64, buffer ++ bytes) else none
  | _ => none

/-- The client that reading from a main connection has closed: the target of a
GROK_DISCONNECT frame that what `tcp_recv` delivers completes. -/
def closes (fd : SockT) (w : World) : Option SockT :=
  if w.linkedClients.lookup fd = some .freeGrok then
    match completedRead os fd w with
    | some (state, u64, buffer) =>
      match FreeGrok.decode env u64 buffer state with
      | .message type length buffer => disconnectTarget w fd type length buffer
      | _ => none
    | none => none
  else none

/-- `tcp_recv` fails on the queued read of a main connection. -/
def readFails (fd : SockT) (w : World) : Bool :=
  match w.linkedClients.lookup fd, (w.gatherQueue fd).read with
  | some .freeGrok, .read _ _ length _ buffer :: _ =>
    match os.tcpRecv (length - buffer.length) with
    | none | some [] => true
    | some _ => false
  | _, _ => false

/-- The event is a HUP or RDHUP; the loop looks at no other flag then. -/
def Event.hangsUp (ev : Event) : Bool := ev.events.epollhup || ev.events.epollrdhup

/-- The loop gets to the event's EPOLLIN. -/
def Event.reads (ev : Event) : Bool := !ev.hangsUp && ev.events.epollin

/-- The loop gets to its EPOLLOUT or its EPOLLIN. -/
def Event.transfers (ev : Event) : Bool :=
  !ev.hangsUp && (ev.events.epollout || ev.events.epollin)

/-- The world after the write that an event asks for. -/
def written (ev : Event) (w : World) : Except Fault World :=
  if ev.events.epollout then performWriteQueue os ev.fd w else .ok w

/-- An event keeps the promises. -/
structure Keeps (P : Terms) (ev : Event) (w : World) : Prop where
  drop : ev.reads = true → ∀ x, closes env os ev.fd w = some x → P.drop x (w.view x)
  fail : ev.reads = true → ∀ w', written os ev w = .ok w' → readFails os ev.fd w' = true →
    P.fail ev.fd (w'.view ev.fd)
  leave : ev.hangsUp = true → w.names.linked ev.fd = some .freeGrok →
    FreeGrok.hasServer w ev.fd = false → P.leave ev.fd (w.view ev.fd)
  hangUp : ev.hangsUp = true → P.hangUp
  refuse : ev.hangsUp = false → ∀ o, w.observers.lookup ev.fd = some o → os.accept = -1 → P.refuse o
  draw : ev.transfers = true → ∀ p px, w.observers.lookup ev.fd = some (.grokProxy p) →
    w.proxies.lookup p = some px → P.draw px w.idPool.getId.1
  hear : ev.reads = true → ∀ w', written os ev w = .ok w' → ∀ bytes,
    os.tcpRecv redirBufSize = some bytes → P.hear ev.fd (w'.view ev.fd) bytes
  answer : P.answer ev.fd

end Loop

section
variable {env : Env} {os : Os} {P : Terms} {w w' : World} {fd : SockT}

theorem Os.tcpSend_le (len : Nat) : (os.tcpSend len).toNat ≤ len := by
  unfold Os.tcpSend
  split
  · omega
  · omega

/-! ### Writing -/

theorem performWriteQueue_spec (h : Loop.performWriteQueue os fd w = .ok w') :
    ∃ front rest, (w.view fd).queues.write = front :: rest ∧
      (os.tcpSend (front.buffer.length - front.sent) ≤ 0 ∧ w' = w.writeFailed fd ∨
        0 < os.tcpSend (front.buffer.length - front.sent) ∧
          w' = w.wrote fd front rest (os.tcpSend (front.buffer.length - front.sent)).toNat) := by
  unfold Loop.performWriteQueue at h
  dsimp only at h
  split at h
  · cases h
  · next front rest hq =>
    refine ⟨front, rest, hq, ?_⟩
    split at h
    · next hneg =>
      cases h
      exact .inl ⟨hneg, rfl⟩
    · next hpos =>
      refine .inr ⟨Int.lt_of_not_ge hpos, ?_⟩
      unfold World.wrote
      dsimp only
      generalize (if front.sent + (os.tcpSend (front.buffer.length - front.sent)).toNat ≥
        front.buffer.length then rest else _) = write at h ⊢
      split at h
      · next hnil =>
        rw [if_pos hnil]
        exact (Except.ok.inj h).symm
      · next hcons =>
        rw [if_neg hcons]
        exact (Except.ok.inj h).symm

theorem performWriteQueue_effects (hw : w.Sound) (hfd : fd ≠ -1)
    (h : Loop.performWriteQueue os fd w = .ok w') : Effects env P w w' := by
  obtain ⟨front, rest, hq, ⟨_, rfl⟩ | ⟨hpos, rfl⟩⟩ := performWriteQueue_spec h
  · exact .single (.writeFailed fd (by simp [hq]))
  · refine .single (.wrote fd front rest _ hq (by omega) ?_)
    have hle := os.tcpSend_le (front.buffer.length - front.sent)
    obtain hnil | ⟨item, hitem, hsent⟩ := (hw.views hfd).writes
    · rw [hq] at hnil
      cases hnil
    · rw [hq] at hitem
      cases hitem
      omega

/-! ### Reading a main connection -/

/-- What reading a main connection does. -/
inductive MainRead (env : Env) (P : Terms) (fd : SockT) (w : World) : World → Prop where
  | failed : (w.view fd).queues.read ≠ [] → P.fail fd (w.view fd) →
      MainRead env P fd w (Loop.clearAll fd (w.log (.recvFailed fd)))
  | heard (fd' : SockT) (state : PacketState) (length u64 : Nat) (buffer bytes : Bytes)
      (rest : List ReadItem) :
      (w.view fd).queues.read = .read fd' state length u64 buffer :: rest →
      buffer.length + bytes.length < length →
      MainRead env P fd w (w.heard fd (.read fd' state length u64 (buffer ++ bytes)) rest bytes)
  | frame {w2 w3 w' : World} {said : List Reaction} : w.HeardAll fd w2 →
      Commands env P fd w2 said w3 → w3.Advanced fd w' → MainRead env P fd w w'

theorem MainRead.handled (h : MainRead env P fd w w') (hw : w.Sound) (hfd : fd ≠ -1)
    (hl : w.names.linked fd = some .freeGrok) : Handled env P fd w w' := by
  cases h with
  | failed hr hP => exact .effects (.single (.readFailed fd hl hr hP))
  | heard fd' state length u64 buffer bytes rest hr hlen =>
    exact .effects (.single (.heard fd fd' state length u64 buffer bytes rest hl hr hlen))
  | frame hheard hcommands hadvanced =>
    have hl2 := hheard.registry ▸ hl
    exact .frame .refl hheard (hcommands.effects hl2 (hheard.sound hw).wf hfd).1 hadvanced

/-- What the handler of a main connection does about what it made of a complete read. -/
theorem react_commands {decoded : Decoded} (hw : w.names.Wf) (hfd : fd ≠ -1)
    (hos : os.Fresh w.toRegistry) (hproper : decoded.Proper)
    (hdrop : ∀ type length buffer, decoded = .message type length buffer →
      ∀ x, disconnectTarget w fd type length buffer = some x → P.drop x (w.view x))
    (h : FreeGrok.react env os fd w decoded = .ok w') :
    ∃ v, Commands env P fd w decoded.reactions v ∧
      w' = Loop.recv fd decoded.demand.2.1 decoded.demand.1 decoded.demand.2.2 v := by
  cases decoded with
  | more state length u64 =>
    cases h
    exact ⟨w, .refl, rfl⟩
  | message type length buffer =>
    obtain ⟨v, hprocess, h⟩ := Except.bind_ok_iff.mp h
    cases h
    exact ⟨v, FreeGrok.processMessage_commands hw hfd hos (hdrop type length buffer rfl) hprocess, rfl⟩
  | error code =>
    cases h
    refine ⟨_, .single (.replied grokError [code] ⟨by decide, by decide, by decide⟩ ?_), rfl⟩
    rcases hproper with rfl | rfl <;> rfl

/-- The handler of a main connection got a read that is received to its end. -/
theorem framed_read {v w3 : World} {decoded : Decoded} (hw : w.Sound) (hfd : fd ≠ -1)
    (hl : w.names.linked fd = some .freeGrok) (hos : os.Fresh w.toRegistry)
    (hheard : w.HeardAll fd v) (hproper : decoded.Proper)
    (hdrop : ∀ type length buffer, decoded = .message type length buffer →
      ∀ x, disconnectTarget w fd type length buffer = some x → P.drop x (w.view x))
    (h : FreeGrok.react env os fd v decoded = .ok w3) :
    MainRead env P fd w (Loop.popRead fd w3) := by
  have hreg := hheard.registry
  have hv := hheard.sound hw
  have hlv : v.names.linked fd = some .freeGrok := by rw [hreg, hl]
  have hrv : (v.view fd).queues.read ≠ [] := by
    cases hheard
    rw [World.view_heard, if_pos rfl]
    simp [View.heard]
  have hdropv : ∀ type length buffer, decoded = .message type length buffer →
      ∀ x, disconnectTarget v fd type length buffer = some x → P.drop x (v.view x) := by
    intro type length buffer hmessage x hx
    have hsame : disconnectTarget v fd type length buffer =
        disconnectTarget w fd type length buffer := by
      unfold disconnectTarget
      rw [hreg]
    rw [hsame] at hx
    obtain ⟨u, p, px, bytes, _, _, hp, _, hid⟩ := disconnectTarget_spec hx
    have hne := hw.wf.client_ne (World.proxy_names hp).1 hid hfd hl
    rw [(hheard.view x).2 hne.symm]
    exact hdrop type length buffer hmessage x hx
  obtain ⟨v', hcommands, rfl⟩ := react_commands hv.wf hfd (hreg ▸ hos) hproper hdropv h
  obtain ⟨_, _, hl', hread⟩ := hcommands.effects hlv hv.wf hfd
  exact .frame hheard hcommands (.mk _ _ _ hl' (hread ▸ hrv) hproper.demand)

/-- **Reading a main connection**: `tcp_recv` delivers part of what is left of the queued read, or
all of it, and then the handler reacts to what the parser makes of it. -/
theorem performReadQueue_main {state : PacketState} {length u64 : Nat} {buffer bytes : Bytes}
    (hread : (w.gatherQueue fd).read = [.read fd state length u64 buffer])
    (hrecv : os.tcpRecv (length - buffer.length) = some bytes) (hne : bytes ≠ []) :
    Loop.performReadQueue env os fd .freeGrok w =
      if (buffer ++ bytes).length < length then
        .ok (w.heard fd (.read fd state length u64 (buffer ++ bytes)) [] bytes)
      else do
        let w ← FreeGrok.react env os fd
          (w.heard fd (.read fd state length u64 (buffer ++ bytes)) [] bytes)
          (FreeGrok.decode env u64 (buffer ++ bytes) state)
        return Loop.popRead fd w := by
  obtain ⟨b, rest, rfl⟩ := List.exists_cons_of_ne_nil hne
  simp only [Loop.performReadQueue, hread, hrecv]
  by_cases hfull : (buffer ++ b :: rest).length < length
  · rw [if_pos hfull, if_neg (Nat.not_le.mpr hfull)]
    rfl
  · rw [if_neg hfull, if_pos (Nat.not_lt.mp hfull), ← FreeGrok.onReceived_eq env os fd state length]
    rfl

/-- How reading a main connection ends: `tcp_recv` fails, or part of the read arrives, or all of it. -/
inductive HeardMain (env : Env) (os : Os) (fd : SockT) (w : World) : World → Prop where
  | failed (state : PacketState) (length u64 : Nat) (buffer : Bytes) :
      (w.view fd).queues.read = [.read fd state length u64 buffer] →
      os.tcpRecv (length - buffer.length) = none ∨ os.tcpRecv (length - buffer.length) = some [] →
      HeardMain env os fd w (Loop.clearAll fd (w.log (.recvFailed fd)))
  | partly (state : PacketState) (length u64 : Nat) (buffer bytes : Bytes) :
      (w.view fd).queues.read = [.read fd state length u64 buffer] →
      os.tcpRecv (length - buffer.length) = some bytes → bytes ≠ [] →
      buffer.length + bytes.length < length →
      HeardMain env os fd w (w.heard fd (.read fd state length u64 (buffer ++ bytes)) [] bytes)
  | wholly (state : PacketState) (length u64 : Nat) (buffer bytes : Bytes) {w' : World} :
      (w.view fd).queues.read = [.read fd state length u64 buffer] →
      os.tcpRecv (length - buffer.length) = some bytes → bytes ≠ [] →
      buffer.length + bytes.length = length →
      FreeGrok.react env os fd (w.heard fd (.read fd state length u64 (buffer ++ bytes)) [] bytes)
        (FreeGrok.decode env u64 (buffer ++ bytes) state) = .ok w' →
      HeardMain env os fd w (Loop.popRead fd w')

theorem readMain_heard (hw : w.Sound) (hfd : fd ≠ -1) (hl : w.names.linked fd = some .freeGrok)
    (h : Loop.performReadQueue env os fd .freeGrok w = .ok w') : HeardMain env os fd w w' := by
  obtain hnil | ⟨item, hitem, hfits⟩ := (hw.views hfd).reads _ hl
  · have hnil : (w.gatherQueue fd).read = [] := hnil
    simp [Loop.performReadQueue, hnil] at h
  · cases item with
    | capture _ _ => exact absurd hfits id
    | read fd' state length u64 buffer =>
      obtain ⟨rfl, hlen, hbuf⟩ := hfits
      have hread : (w.gatherQueue fd').read = [.read fd' state length u64 buffer] := hitem
      cases hrecv : os.tcpRecv (length - buffer.length) with
      | none =>
        simp only [Loop.performReadQueue, hread, hrecv] at h
        cases h
        exact .failed state length u64 buffer hitem (.inl hrecv)
      | some bytes =>
        cases bytes with
        | nil =>
          simp only [Loop.performReadQueue, hread, hrecv] at h
          cases h
          exact .failed state length u64 buffer hitem (.inr hrecv)
        | cons b bytes =>
          have hle := Os.tcpRecv_length hrecv
          rw [performReadQueue_main hread hrecv (List.cons_ne_nil _ _), List.length_append] at h
          split at h
          · next hpart =>
            cases h
            exact .partly state length u64 buffer (b :: bytes) hitem hrecv (List.cons_ne_nil _ _) hpart
          · next hfull =>
            obtain ⟨w3, hreact, h⟩ := Except.bind_ok_iff.mp h
            cases h
            have hlast : buffer.length + (b :: bytes).length = length := by omega
            exact .wholly state length u64 buffer (b :: bytes) hitem hrecv (List.cons_ne_nil _ _) hlast
              hreact

/-- What a read that is received to its end closes is the target of the frame it completes. -/
theorem closes_completed {state : PacketState} {length u64 : Nat} {buffer bytes : Bytes}
    (hl : w.names.linked fd = some .freeGrok)
    (hread : (w.gatherQueue fd).read = [.read fd state length u64 buffer])
    (hrecv : os.tcpRecv (length - buffer.length) = some bytes) (hne : bytes ≠ [])
    (hfull : buffer.length + bytes.length = length) {type : UInt8} {len : Nat}
    {payload : Option Bytes}
    (hmessage : FreeGrok.decode env u64 (buffer ++ bytes) state = .message type len payload) :
    Loop.closes env os fd w = disconnectTarget w fd type len payload := by
  have hlinked : w.linkedClients.lookup fd = some .freeGrok := hl
  have hdone : Loop.completedRead os fd w = some (state, u64, buffer ++ bytes) := by
    obtain ⟨b, more, rfl⟩ := List.exists_cons_of_ne_nil hne
    have hlong : (buffer ++ b :: more).length ≥ length := by
      rw [List.length_append]
      omega
    simp only [Loop.completedRead, hread, hrecv]
    rw [if_pos hlong]
  simp only [Loop.closes, hlinked, if_true, hdone, hmessage]

theorem readMain_read (hw : w.Sound) (hfd : fd ≠ -1) (hl : w.names.linked fd = some .freeGrok)
    (hos : os.Fresh w.toRegistry)
    (hdrop : ∀ x, Loop.closes env os fd w = some x → P.drop x (w.view x))
    (hfail : Loop.readFails os fd w = true → P.fail fd (w.view fd))
    (h : Loop.performReadQueue env os fd .freeGrok w = .ok w') : MainRead env P fd w w' := by
  have hlinked : w.linkedClients.lookup fd = some .freeGrok := hl
  cases readMain_heard hw hfd hl h with
  | failed state length u64 buffer hitem hrecv =>
    have hread : (w.gatherQueue fd).read = [.read fd state length u64 buffer] := hitem
    refine .failed (by simp [hitem]) (hfail ?_)
    obtain hrecv | hrecv := hrecv <;> simp [Loop.readFails, hlinked, hread, hrecv]
  | partly state length u64 buffer bytes hitem _ _ hpart =>
    exact .heard fd state length u64 buffer bytes [] hitem hpart
  | wholly state length u64 buffer bytes hitem hrecv hne hfull hreact =>
    have hheard : w.HeardAll fd (w.heard fd (.read fd state length u64 (buffer ++ bytes)) [] bytes) :=
      .mk fd state length u64 buffer bytes [] hl hitem hfull
    refine framed_read hw hfd hl hos hheard (FreeGrok.decode_proper ..) ?_ hreact
    intro type len payload hmessage x hx
    exact hdrop x ((closes_completed hl hitem hrecv hne hfull hmessage).trans hx)

/-! ### Reading a client -/

/-- A client of a proxy is read once, and what it sent goes to the proxy's owner. -/
theorem readClient_spec {p : Ptr} (hw : w.Sound) (hfd : fd ≠ -1)
    (hl : w.names.linked fd = some (.grokProxy p))
    (h : Loop.performReadQueue env os fd (.grokProxy p) w = .ok w') :
    ∃ t, w.names.tunnel p = some t ∧
      (t.sockToId.lookup fd = none ∧ w' = w ∨ ∃ id bytes, t.sockToId.lookup fd = some id ∧
        os.tcpRecv redirBufSize = some bytes ∧
        w' = FreeGrok.sendPacket env t.initiator id bytes (w.log (.recv fd bytes))) := by
  obtain hnil | ⟨item, hitem, hfits⟩ := (hw.views hfd).reads _ hl
  · have hnil : (w.gatherQueue fd).read = [] := hnil
    simp [Loop.performReadQueue, hnil] at h
  · cases item with
    | read _ _ _ _ _ => exact absurd hfits id
    | capture fd' pending =>
      obtain ⟨rfl, rfl⟩ := hfits
      have hread : (w.gatherQueue fd').read = [.capture fd' true] := hitem
      simp only [Loop.performReadQueue, hread] at h
      obtain ⟨w1, hreceived, h⟩ := Except.bind_ok_iff.mp h
      cases h
      unfold onReceived at hreceived
      dsimp only at hreceived
      rw [GrokProxy.onReceived_eq] at hreceived
      obtain ⟨px, hpx, hreceived⟩ := Except.bind_ok_iff.mp hreceived
      refine ⟨px.toTunnel, (World.proxy_names (FreeGrok.proxy_ok hpx)).1, ?_⟩
      split at hreceived
      · next hid =>
        cases hreceived
        exact .inl ⟨hid, rfl⟩
      · next id hid =>
        split at hreceived
        · cases hreceived
        · next received hrecv =>
          cases hreceived
          exact .inr ⟨id, received, hid, hrecv, rfl⟩

theorem readClient_effects {p : Ptr} (hw : w.Sound) (hfd : fd ≠ -1)
    (hl : w.names.linked fd = some (.grokProxy p))
    (hhear : ∀ bytes, os.tcpRecv redirBufSize = some bytes → P.hear fd (w.view fd) bytes)
    (h : Loop.performReadQueue env os fd (.grokProxy p) w = .ok w') : Effects env P w w' := by
  obtain ⟨t, ht, ⟨_, rfl⟩ | ⟨id, bytes, hid, hrecv, rfl⟩⟩ := readClient_spec hw hfd hl h
  · exact .refl
  · exact .single (.relayed p t fd id bytes (hhear bytes hrecv) ht hid)

theorem served_effects (env : Env) {P : Terms} {w : World} {fd : SockT} (bytes : Bytes)
    (hanswer : P.answer fd) (hl : w.names.linked fd = some .httpInterface) :
    Effects env P w (Loop.send fd bytes w) ∧
      (Loop.send fd bytes w).names.linked fd = some .httpInterface := by
  refine ⟨.single (.served fd bytes hanswer hl), ?_⟩
  rw [Loop.send_registry]
  exact hl

/-- The parser of an HTTP client writes to its client only. -/
theorem feed_effects (parser : StreamingParser) (bytes : Bytes) (hanswer : P.answer parser.u64)
    (hl : w.names.linked parser.u64 = some .httpInterface) :
    Effects env P w (parser.feed env bytes w).2 ∧
      (parser.feed env bytes w).1.u64 = parser.u64 := by
  have hcallbacks (callbacks : List HttpCallback) (state : StreamingParser × World)
      (hanswer : P.answer state.1.u64) (hl : state.2.names.linked state.1.u64 = some .httpInterface) :
      Effects env P state.2 (callbacks.foldl (StreamingParser.callback env) state).2 ∧
        (callbacks.foldl (StreamingParser.callback env) state).1.u64 = state.1.u64 ∧
        (callbacks.foldl (StreamingParser.callback env) state).2.names.linked state.1.u64 =
          some .httpInterface := by
    induction callbacks generalizing state with
    | nil => exact ⟨.refl, rfl, hl⟩
    | cons c rest ih =>
      cases c with
      | headerField name => exact ih (StreamingParser.callback env state (.headerField name)) hanswer hl
      | headerValue value => exact ih (StreamingParser.callback env state (.headerValue value)) hanswer hl
      | body bytes => exact ih _ hanswer hl
      | messageComplete =>
        obtain ⟨h1, hl1⟩ := served_effects (P := P) env (ascii
          "HTTP/1.1 200 OK\r\nConnection: keep-alive\r\nServer: Embedded FreeGrok\r\n") hanswer hl
        obtain ⟨h2, hl2⟩ := served_effects (P := P) env (ascii
          ("Content-Length: " ++ toString env.indexPage.length ++ "\r\n\r\n")) hanswer hl1
        obtain ⟨h3, hl3⟩ := served_effects (P := P) env env.indexPage hanswer hl2
        obtain ⟨hrest, hu, hlinked⟩ :=
          ih (StreamingParser.callback env state .messageComplete) hanswer hl3
        exact ⟨((h1.trans h2).trans h3).trans hrest, hu, hlinked⟩
  unfold StreamingParser.feed
  generalize env.llhttpExecute parser.fed bytes = result
  obtain ⟨callbacks, err⟩ := result
  obtain ⟨heff, hu, hlinked⟩ := hcallbacks callbacks
    ({ parser with fed := parser.fed ++ [bytes] }, w) hanswer hl
  dsimp only
  generalize callbacks.foldl (StreamingParser.callback env)
    ({ parser with fed := parser.fed ++ [bytes] }, w) = state at heff hu hlinked ⊢
  obtain ⟨parser', w1⟩ := state
  dsimp only at heff hu hlinked ⊢
  split
  · rw [← hu] at hlinked
    have hanswer : P.answer parser'.u64 := hu ▸ hanswer
    obtain ⟨h1, hl1⟩ := served_effects (P := P) env (ascii
      ("HTTP/1.1 400 Bad Request\r\nConnection: keep-alive\r\n" ++
        "Server: Embedded FreeGrok\r\n\r\nBad request")) hanswer hlinked
    obtain ⟨h2, _⟩ := served_effects (P := P) env env.indexPage hanswer hl1
    exact ⟨(heff.trans h1).trans h2, hu⟩
  · exact ⟨heff, hu⟩

/-- A client of the HTTP interface is read once, and what it sent is fed to its parser. -/
theorem readHttp_spec (hw : w.Sound) (hfd : fd ≠ -1)
    (hl : w.names.linked fd = some .httpInterface)
    (h : Loop.performReadQueue env os fd .httpInterface w = .ok w') :
    w.names.parser fd = none ∧ w' = w ∨ ∃ parser bytes, w.names.parser fd = some parser ∧
      os.tcpRecv 4096 = some bytes ∧ w' = HttpInterface.setParser fd
        (parser.feed env bytes (w.log (.recv fd bytes))).1
        (parser.feed env bytes (w.log (.recv fd bytes))).2 := by
  obtain hnil | ⟨item, hitem, hfits⟩ := (hw.views hfd).reads _ hl
  · have hnil : (w.gatherQueue fd).read = [] := hnil
    simp [Loop.performReadQueue, hnil] at h
  · cases item with
    | read _ _ _ _ _ => exact absurd hfits id
    | capture fd' pending =>
      obtain ⟨rfl, rfl⟩ := hfits
      have hread : (w.gatherQueue fd').read = [.capture fd' true] := hitem
      simp only [Loop.performReadQueue, hread] at h
      obtain ⟨w1, hreceived, h⟩ := Except.bind_ok_iff.mp h
      cases h
      unfold onReceived at hreceived
      dsimp only at hreceived
      rw [HttpInterface.onReceived_eq] at hreceived
      split at hreceived
      · next hnone =>
        cases hreceived
        exact .inl ⟨hnone, rfl⟩
      · next parser hparser =>
        split at hreceived
        · cases hreceived
        · next received hrecv =>
          cases hreceived
          exact .inr ⟨parser, received, hparser, hrecv, rfl⟩

theorem readHttp_effects (hw : w.Sound) (hfd : fd ≠ -1) (hanswer : P.answer fd)
    (hl : w.names.linked fd = some .httpInterface)
    (h : Loop.performReadQueue env os fd .httpInterface w = .ok w') : Effects env P w w' := by
  obtain ⟨_, rfl⟩ | ⟨parser, bytes, hparser, _, rfl⟩ := readHttp_spec hw hfd hl h
  · exact .refl
  · have hu : parser.u64 = fd := hw.wf.parser_u64 hparser
    obtain ⟨heff, hu'⟩ : Effects env P (w.log (.recv fd bytes)) _ ∧ _ :=
      feed_effects parser bytes (hu ▸ hanswer) (hu ▸ hl)
    exact .trans (.head (.captured fd bytes hanswer hl) heff)
      (.single (.parsed fd _ (hu'.trans hu) (.inr hanswer)))

/-! ### Accepting -/

/-- What `accept` returned, once its first read is queued: -1, or a descriptor that no one has
a claim to. -/
structure Arrived (os : Os) (o : ObserverPtr) (fd : SockT) (w : World) : Prop where
  refused : fd = -1 → os.accept = -1
  loose : Loose w.toRegistry fd
  untabled : ∀ p t, fd ≠ -1 → w.names.tunnel p = some t → t.sockToId.lookup fd = none
  view : fd ≠ -1 → (w.view fd).queues = { read := [opening fd o] } ∧
    (w.view fd).interest = none
  trace : ∃ before, fd ≠ -1 → w.trace = .accept fd :: before

/-- What `on_connect` returned: its observer may have it in its tables by now. -/
structure Connected (os : Os) (o : ObserverPtr) (fd : SockT) (w : World) : Prop where
  refused : fd = -1 → os.accept = -1
  loose : Loose w.toRegistry fd
  tables : ∀ p t id, fd ≠ -1 → w.names.tunnel p = some t → t.sockToId.lookup fd = some id →
    o = .grokProxy p
  tabled : ∀ p, o = .grokProxy p → ∃ t id, w.names.tunnel p = some t ∧
    t.sockToId.lookup fd = some id
  view : fd ≠ -1 → (w.view fd).queues = { read := [opening fd o] } ∧
    (w.view fd).interest = none ∧ ∃ before, (w.view fd).history = .accept fd :: before

theorem Arrived.tables {o : ObserverPtr} (h : Arrived os o fd w) {p : Ptr} {t : Tunnel} {id : CIdT}
    (hne : fd ≠ -1) (ht : w.names.tunnel p = some t) (hid : t.sockToId.lookup fd = some id) :
    o = .grokProxy p := by
  rw [h.untabled p t hne ht] at hid
  cases hid

theorem Arrived.history {o : ObserverPtr} (h : Arrived os o fd w) (hne : fd ≠ -1) :
    ∃ before, (w.view fd).history = .accept fd :: before := by
  obtain ⟨before, hbefore⟩ := h.trace
  refine ⟨before.filter fun a => a.fd = fd, ?_⟩
  simp [World.view, hbefore hne, Action.fd]

theorem Arrived.connected {o : ObserverPtr} (h : Arrived os o fd w) (ho : ∀ p, o ≠ .grokProxy p) :
    Connected os o fd w where
  refused := h.refused
  loose := h.loose
  tables _ _ _ hne ht hid := h.tables hne ht hid
  tabled p hp := absurd hp (ho p)
  view hne := ⟨(h.view hne).1, (h.view hne).2, h.history hne⟩

theorem accept_effects (env : Env) (hw : w.Sound) (hos : os.Fresh w.toRegistry)
    (o : ObserverPtr) (hrefuse : os.accept = -1 → P.refuse o) (h : tcpAccept os w = (fd, w')) :
    Effects env P w (Loop.pushRead fd (opening fd o) w') ∧
      Arrived os o fd (Loop.pushRead fd (opening fd o) w') := by
  unfold tcpAccept at h
  split at h
  · next hneg =>
    cases h
    exact ⟨.single (.refused o _ (hrefuse hneg)), fun _ => hneg, fun hne => absurd rfl hne,
      fun _ _ hne => absurd rfl hne, fun hne => absurd rfl hne, [], fun hne => absurd rfl hne⟩
  · next hneg =>
    cases h
    have hu : Unused w.toRegistry os.accept := hos.accept.resolve_left hneg
    have hne : os.accept ≠ -1 := hneg
    have hclosed : w.names.opened os.accept = none := hu.closed
    obtain ⟨_, _, hqueues, hinterest⟩ := (hw.views hne).closed hclosed
    change Effects env P w (w.accepted os.accept (opening os.accept o)) ∧
      Arrived os o os.accept (w.accepted os.accept (opening os.accept o))
    refine ⟨.single (.accepted _ _ hu), fun h => h, fun _ => ?_, fun p t _ ht => ?_, fun _ => ?_,
      w.trace, fun _ => rfl⟩
    · rw [World.names_accepted]
      refine ⟨?_, hw.wf.closed hne hclosed, hw.wf.unobserved hclosed⟩
      simp
    · rw [World.names_accepted] at ht
      exact hw.wf.untabled hne hclosed ht
    · rw [World.view_accepted, if_pos rfl]
      refine ⟨?_, hinterest⟩
      simp [View.push, View.log, hqueues]

theorem tcpAccept_proxies (os : Os) (w : World) : (tcpAccept os w).2.proxies = w.proxies := by
  unfold tcpAccept
  split <;> rfl

theorem tcpAccept_pool (os : Os) (w : World) : (tcpAccept os w).2.idPool = w.idPool := by
  unfold tcpAccept
  split <;> rfl

theorem tcpAccept_observers (os : Os) (w : World) : (tcpAccept os w).2.observers = w.observers := by
  unfold tcpAccept
  split <;> rfl

theorem World.announced_observers {p : Ptr} {px : GrokProxy} :
    (w.announced fd env p px).observers = w.observers := by
  simp only [World.announced, FreeGrok.sendConnected, World.log_registry, FStreamer.send_registry]
  rfl

/-- A proxy announces what it accepted. -/
theorem GrokProxy.onConnect_announced {p : Ptr} {px : GrokProxy}
    (hpx : w.proxies.lookup p = some px) :
    GrokProxy.onConnect env os p w = .ok ((tcpAccept os w).1,
      (Loop.pushRead (tcpAccept os w).1 (opening (tcpAccept os w).1 (.grokProxy p))
        (tcpAccept os w).2).announced (tcpAccept os w).1 env p px) := by
  have hproxy : w.proxy p = .ok px := by simp only [Registry.proxy, hpx]
  have hpx' := hpx
  rw [← tcpAccept_proxies os] at hpx'
  unfold GrokProxy.onConnect
  rw [hproxy]
  generalize tcpAccept os w = accepted at hpx'
  obtain ⟨client, w1⟩ := accepted
  have hproxy' : (Loop.capture client w1).proxy p = .ok px := by
    have h : (Loop.capture client w1).proxies.lookup p = some px := hpx'
    simp only [Registry.proxy, h]
  simp only [GrokProxy.linkClient, hproxy']
  rfl

theorem Arrived.announced {p : Ptr} {px : GrokProxy} (env : Env) (h : Arrived os (.grokProxy p) fd w)
    (hw : w.Sound) (hrefuse : os.accept = -1 → P.refuse (.grokProxy p))
    (hdraw : P.draw px w.idPool.getId.1)
    (hpx : w.proxies.lookup p = some px) :
    Effect env P w (w.announced fd env p px) ∧
      Connected os (.grokProxy p) fd (w.announced fd env p px) := by
  obtain ⟨before, hbefore⟩ := h.trace
  refine ⟨.announced p px fd before (fun h' => hrefuse (h.refused h')) hdraw hpx h.loose
    (fun q t hne ht => h.untabled q t hne ht) hbefore, h.refused, ?_, ?_, ?_, ?_⟩
  · intro hne
    rw [World.names_announced w fd env hpx]
    exact h.loose hne
  · intro q t id hne ht hid
    rw [World.names_announced w fd env hpx] at ht
    by_cases hq : q = p
    · rw [hq]
    · dsimp only at ht
      rw [Function.update_of_ne hq] at ht
      exact h.tables hne ht hid
  · intro q hq
    cases hq
    rw [World.names_announced w fd env hpx]
    exact ⟨_, _, Function.update_self .., AList.lookup_insert _⟩
  · intro hne
    have hinitiator : fd ≠ px.initiator := by
      have hl := hw.wf.initiator_linked (World.proxy_names hpx).1
      intro hsame
      subst hsame
      rw [(h.loose hne).2.1] at hl
      cases hl
    rw [World.view_announced, if_neg hinitiator]
    exact ⟨(h.view hne).1, (h.view hne).2, h.history hne⟩

theorem onConnect_effects (hw : w.Sound) (hos : os.Fresh w.toRegistry) {o : ObserverPtr}
    (hrefuse : os.accept = -1 → P.refuse o)
    (hdraw : ∀ p px, o = .grokProxy p → w.proxies.lookup p = some px → P.draw px w.idPool.getId.1)
    (h : onConnect env os o w = .ok (fd, w')) :
    Effects env P w w' ∧ Connected os o fd w' ∧ w'.observers = w.observers := by
  cases o with
  | freeGrok =>
    obtain ⟨heff, harrived⟩ := accept_effects (P := P) env hw hos .freeGrok hrefuse rfl
    cases h
    exact ⟨heff, harrived.connected nofun, tcpAccept_observers os w⟩
  | httpInterface =>
    obtain ⟨heff, harrived⟩ := accept_effects (P := P) env hw hos .httpInterface hrefuse rfl
    cases h
    refine ⟨heff.tail (.parsed _ _ rfl (.inl harrived.loose)),
      ⟨harrived.refused, ?_, ?_, nofun, ?_⟩, tcpAccept_observers os w⟩
    · intro hne
      rw [World.names_setParser]
      exact harrived.loose hne
    · intro p t id hne ht
      rw [World.names_setParser] at ht
      exact harrived.tables hne ht
    · intro hne
      rw [World.view_setParser, if_pos rfl]
      exact ⟨(harrived.view hne).1, (harrived.view hne).2, harrived.history hne⟩
  | grokProxy p =>
    cases hpx : w.proxies.lookup p with
    | none =>
      have hproxy : w.proxy p = .error .undefined := by simp only [Registry.proxy, hpx]
      simp [onConnect, GrokProxy.onConnect, hproxy] at h
    | some px =>
      have h := (GrokProxy.onConnect_announced hpx).symm.trans h
      obtain ⟨rfl, rfl⟩ := Prod.mk.inj (Except.ok.inj h)
      obtain ⟨heff, harrived⟩ := accept_effects (P := P) env hw hos (.grokProxy p) hrefuse rfl
      have hdraw := hdraw p px rfl hpx
      rw [← tcpAccept_pool os] at hdraw
      rw [← tcpAccept_proxies os] at hpx
      obtain ⟨hannounced, hconnected⟩ := harrived.announced env (heff.sound hw) hrefuse
        hdraw hpx
      refine ⟨heff.tail hannounced, hconnected, ?_⟩
      rw [World.announced_observers]
      exact tcpAccept_observers os w

/-- The EPOLLIN case of a listener. -/
theorem admit_effects (hw : w.Sound) (hos : os.Fresh w.toRegistry) {o : ObserverPtr}
    (hrefuse : os.accept = -1 → P.refuse o)
    (hdraw : ∀ p px, o = .grokProxy p → w.proxies.lookup p = some px → P.draw px w.idPool.getId.1)
    (h : (do
      let (client, w) ← onConnect env os o w
      Loop.linkClient client o (Selector.add client eventsR w)) = .ok w') :
    Effects env P w w' := by
  obtain ⟨⟨client, w1⟩, hconnect, h⟩ := Except.bind_ok_iff.mp h
  obtain ⟨heff, hconnected, _⟩ := onConnect_effects hw hos hrefuse hdraw hconnect
  obtain ⟨b, hb, h⟩ := Except.bind_ok_iff.mp h
  rw [Selector.add_registry] at hb
  have hb := FreeGrok.observer_ok hb
  cases h
  have hneg (h : client = -1) : P.refuse o := hrefuse (hconnected.refused h)
  by_cases hne : client = -1
  · exact heff.tail (.admitted client o b [] hneg hb hconnected.loose hconnected.tables
      hconnected.tabled fun h => absurd hne h)
  · obtain ⟨hqueues, hinterest, before, hhistory⟩ := hconnected.view hne
    exact heff.tail (.admitted client o b before hneg hb hconnected.loose hconnected.tables
      hconnected.tabled fun _ => ⟨hqueues, hinterest, hhistory⟩)

/-- The EPOLLOUT case. -/
theorem writable_effects (hw : w.Sound) (hfd : fd ≠ -1) (hos : os.Fresh w.toRegistry)
    (hrefuse : ∀ o, w.observers.lookup fd = some o → os.accept = -1 → P.refuse o)
    (hdraw : ∀ p px, w.observers.lookup fd = some (.grokProxy p) → w.proxies.lookup p = some px →
      P.draw px w.idPool.getId.1)
    {continued : Bool} (h : Loop.writable env os fd w = .ok (continued, w')) :
    Effects env P w w' ∧ (continued = false → Loop.performWriteQueue os fd w = .ok w') := by
  unfold Loop.writable at h
  have hwrite (h : (do return (false, ← Loop.performWriteQueue os fd w)) =
      Except.ok (continued, w')) : Effects env P w w' ∧
      (continued = false → Loop.performWriteQueue os fd w = .ok w') := by
    obtain ⟨w1, hwrite, h⟩ := Except.bind_ok_iff.mp h
    cases h
    exact ⟨performWriteQueue_effects hw hfd hwrite, fun _ => hwrite⟩
  split at h
  · next o ho =>
    obtain ⟨base, hbase, h⟩ := Except.bind_ok_iff.mp h
    split at h
    · obtain ⟨⟨client, w1⟩, hconnect, h⟩ := Except.bind_ok_iff.mp h
      obtain ⟨heff, _, hobservers⟩ := onConnect_effects hw hos (hrefuse o ho)
        (fun p px hp => hdraw p px (hp ▸ ho)) hconnect
      obtain ⟨b, hb, h⟩ := Except.bind_ok_iff.mp h
      cases h
      have ho : w1.names.observer fd = some o := (congrArg (AList.lookup fd) hobservers).trans ho
      exact ⟨heff.tail (.flagged fd o b ho (FreeGrok.observer_ok hb)), nofun⟩
    · exact hwrite h
  · exact hwrite h

/-! ### Any event -/

theorem Handled.head (h : Effects env P w w') {w'' : World} (h' : Handled env P fd w' w'') :
    Handled env P fd w w'' := by
  cases h' with
  | effects h2 => exact .effects (h.trans h2)
  | frame h2 hheard h3 hadvanced => exact .frame (h.trans h2) hheard h3 hadvanced

/-- Writing changes nothing but the connection's view. -/
theorem performWriteQueue_frame (h : Loop.performWriteQueue os fd w = .ok w') :
    w'.toRegistry = w.toRegistry ∧ ∀ x, x ≠ fd → w'.view x = w.view x := by
  obtain ⟨front, rest, _, ⟨_, rfl⟩ | ⟨_, rfl⟩⟩ := performWriteQueue_spec h
  · exact ⟨World.writeFailed_registry .., fun x hx => by rw [World.view_writeFailed, if_neg hx]⟩
  · exact ⟨World.wrote_registry .., fun x hx => by rw [World.view_wrote, if_neg hx]⟩

theorem performWriteQueue_pool (h : Loop.performWriteQueue os fd w = .ok w') :
    w'.idPool = w.idPool := by
  obtain ⟨front, rest, _, ⟨_, rfl⟩ | ⟨_, rfl⟩⟩ := performWriteQueue_spec h
  · exact World.writeFailed_pool fd w
  · exact World.wrote_pool fd front rest _ w

theorem View.wrote_read (v : View) (x : SockT) (front : WriteItem) (rest : List WriteItem) (n : Nat) :
    (v.wrote x front rest n).queues.read = v.queues.read := by
  rw [View.wrote_eq]

/-- A write leaves the read that a GROK_DISCONNECT may complete as it was, or drops it. -/
theorem performWriteQueue_closes (h : Loop.performWriteQueue os fd w = .ok w') {x : SockT}
    (hx : Loop.closes env os fd w' = some x) : Loop.closes env os fd w = some x := by
  have hreg := (performWriteQueue_frame h).1
  obtain ⟨front, rest, _, ⟨_, rfl⟩ | ⟨_, rfl⟩⟩ := performWriteQueue_spec h
  · have hread : ((w.writeFailed fd).gatherQueue fd).read = [] := by
      show ((w.writeFailed fd).view fd).queues.read = []
      rw [World.view_writeFailed, if_pos rfl]
    have hnone : Loop.completedRead os fd (w.writeFailed fd) = none := by
      unfold Loop.completedRead
      rw [hread]
    simp [Loop.closes, hnone] at hx
  · have hread : (World.gatherQueue (w.wrote fd front rest
        (os.tcpSend (front.buffer.length - front.sent)).toNat) fd).read = (w.gatherQueue fd).read := by
      show (World.view _ fd).queues.read = (w.view fd).queues.read
      rw [World.view_wrote, if_pos rfl, View.wrote_read]
    rw [← hx]
    simp only [Loop.closes, Loop.completedRead, disconnectTarget, hread, hreg]

/-- The client that a frame closes is not the main connection the frame came from. -/
theorem closes_ne {x : SockT} (hw : w.Sound) (hfd : fd ≠ -1)
    (h : Loop.closes env os fd w = some x) : x ≠ fd := by
  unfold Loop.closes at h
  split at h
  · next hl =>
    split at h
    · split at h
      · obtain ⟨u, p, px, bytes, _, _, hp, _, hid⟩ := disconnectTarget_spec h
        exact (hw.wf.client_ne (World.proxy_names hp).1 hid hfd hl).symm
      · cases h
    · cases h
  · cases h

/-- The EPOLLIN case. -/
theorem readable_handled (hw : w.Sound) (hfd : fd ≠ -1) (hos : os.Fresh w.toRegistry)
    (hdrop : ∀ x, Loop.closes env os fd w = some x → P.drop x (w.view x))
    (hfail : Loop.readFails os fd w = true → P.fail fd (w.view fd))
    (hrefuse : ∀ o, w.observers.lookup fd = some o → os.accept = -1 → P.refuse o)
    (hdraw : ∀ p px, w.observers.lookup fd = some (.grokProxy p) → w.proxies.lookup p = some px →
      P.draw px w.idPool.getId.1)
    (hhear : ∀ bytes, os.tcpRecv redirBufSize = some bytes → P.hear fd (w.view fd) bytes)
    (hanswer : P.answer fd) (h : Loop.readable env os fd w = .ok w') : Handled env P fd w w' := by
  unfold Loop.readable at h
  split at h
  · next o ho =>
    obtain ⟨b, hb, _, hs⟩ := hw.wf.observer_base ho
    obtain ⟨base, hbase, h⟩ := Except.bind_ok_iff.mp h
    cases Option.some.inj (hb.symm.trans (FreeGrok.observer_ok hbase))
    rw [if_pos hs] at h
    exact .effects (admit_effects hw hos (hrefuse o ho) (fun p px hp => hdraw p px (hp ▸ ho)) h)
  · split at h
    · cases h
    · next o hl =>
      cases o with
      | freeGrok => exact (readMain_read hw hfd hl hos hdrop hfail h).handled hw hfd hl
      | httpInterface => exact .effects (readHttp_effects hw hfd hanswer hl h)
      | grokProxy p => exact .effects (readClient_effects hw hfd hl hhear h)

/-- **An event that the loop handles is a sequence of effects**, or a frame of them. -/
theorem handleEvent_handled {ev : Loop.Event} {broke : Bool} (hw : w.Sound) (hfd : ev.fd ≠ -1)
    (hos : os.Fresh w.toRegistry) (hkeeps : Loop.Keeps env os P ev w)
    (h : Loop.handleEvent env os ev w = .ok (broke, w')) : Handled env P ev.fd w w' := by
  unfold Loop.handleEvent at h
  split at h
  · next hhup =>
    obtain ⟨w1, hhang, h⟩ := Except.bind_ok_iff.mp h
    cases h
    exact .effects (hangUp_effects hw hfd (hkeeps.hangUp hhup) hkeeps.answer (hkeeps.leave hhup) hhang)
  · next hhup =>
    have hhup : ev.hangsUp = false := by simpa [Loop.Event.hangsUp] using hhup
    have hread {w1 : World} (heff : Effects env P w w1) (hreg : w1.toRegistry = w.toRegistry)
        (hpool : w1.idPool = w.idPool)
        (hwritten : Loop.written os ev w = .ok w1)
        (hcloses : ∀ x, Loop.closes env os ev.fd w1 = some x →
          Loop.closes env os ev.fd w = some x ∧ w1.view x = w.view x)
        (h : (if ev.events.epollin = true then do
          let w ← Loop.readable env os ev.fd w1
          pure (false, w) else pure (false, w1)) = Except.ok (broke, w')) :
        Handled env P ev.fd w w' := by
      split at h
      · next hin =>
        obtain ⟨w2, hreadable, h⟩ := Except.bind_ok_iff.mp h
        cases h
        have hreads : ev.reads = true := by simp [Loop.Event.reads, hhup, hin]
        refine .head heff (readable_handled (heff.sound hw) hfd ?_ ?_ (hkeeps.fail hreads w1 hwritten)
          ?_ ?_ (hkeeps.hear hreads w1 hwritten) hkeeps.answer hreadable)
        · rw [hreg]
          exact hos
        · intro x hx
          obtain ⟨hx, hview⟩ := hcloses x hx
          rw [hview]
          exact hkeeps.drop hreads x hx
        · rw [hreg]
          exact hkeeps.refuse hhup
        · rw [hreg, hpool]
          exact hkeeps.draw (by simp [Loop.Event.transfers, hhup, hin])
      · cases h
        exact .effects heff
    dsimp only at h
    split at h
    · next hout =>
      obtain ⟨⟨continued, w1⟩, hwritable, h⟩ := Except.bind_ok_iff.mp h
      have htransfers : ev.transfers = true := by simp [Loop.Event.transfers, hhup, hout]
      obtain ⟨heff, hwrite⟩ := writable_effects hw hfd hos (hkeeps.refuse hhup)
        (hkeeps.draw htransfers) hwritable
      dsimp only at h
      split at h
      · cases h
        exact .effects heff
      · next hcontinued =>
        have hwrite := hwrite (by simpa using hcontinued)
        obtain ⟨hreg, hframe⟩ := performWriteQueue_frame hwrite
        refine hread heff hreg (performWriteQueue_pool hwrite)
          (by simpa [Loop.written, hout] using hwrite) (fun x hx => ?_) h
        have hx := performWriteQueue_closes hwrite hx
        exact ⟨hx, hframe x (closes_ne hw hfd hx)⟩
    · next hout =>
      exact hread .refl rfl rfl (by simp [Loop.written, hout]) (fun x hx => ⟨hx, rfl⟩) h

/-- An event of a linked connection that does not hang up. -/
theorem handleEvent_linked {o : ObserverPtr} {ev : Loop.Event} (hw : w.Sound) (hfd : ev.fd ≠ -1)
    (hl : w.linkedClients.lookup ev.fd = some o) (hup : ev.hangsUp = false) :
    Loop.handleEvent env os ev w = (do
      let w ← Loop.written os ev w
      if ev.events.epollin then return (false, ← Loop.performReadQueue env os ev.fd o w)
      else return (false, w)) := by
  have hob : w.observers.lookup ev.fd = none := (hw.wf.linked_open hfd hl).2
  have hhup : ¬(ev.events.epollhup || ev.events.epollrdhup) = true := by
    have h : (ev.events.epollhup || ev.events.epollrdhup) = false := hup
    simp [h]
  have hread {v : World} (hreg : v.toRegistry = w.toRegistry) :
      Loop.readable env os ev.fd v = Loop.performReadQueue env os ev.fd o v := by
    unfold Loop.readable
    simp only [hreg, hob, hl]
  have hrest {v : World} (hreg : v.toRegistry = w.toRegistry) :
      (if ev.events.epollin then do return (false, ← Loop.readable env os ev.fd v)
        else return (false, v) : Except Fault (Bool × World)) =
      if ev.events.epollin then do return (false, ← Loop.performReadQueue env os ev.fd o v)
        else return (false, v) := by
    rw [hread hreg]
  unfold Loop.handleEvent Loop.written
  rw [if_neg hhup]
  by_cases hout : ev.events.epollout = true
  · simp only [if_pos hout, Loop.writable, hob]
    cases hwrite : Loop.performWriteQueue os ev.fd w with
    | error e => rfl
    | ok w1 => exact hrest (performWriteQueue_frame hwrite).1
  · simp only [if_neg hout]
    exact hrest rfl

/-- An event that does not hang up, for a descriptor that nobody is behind: at most a write. -/
theorem handleEvent_unlinked {ev : Loop.Event} {broke : Bool}
    (hob : w.observers.lookup ev.fd = none) (hl : w.linkedClients.lookup ev.fd = none)
    (hup : ev.hangsUp = false) (h : Loop.handleEvent env os ev w = .ok (broke, w')) :
    Loop.written os ev w = .ok w' := by
  have hhup : ¬(ev.events.epollhup || ev.events.epollrdhup) = true := by
    have h : (ev.events.epollhup || ev.events.epollrdhup) = false := hup
    simp [h]
  have hread {v : World} (hreg : v.toRegistry = w.toRegistry)
      (h : (if ev.events.epollin then do return (false, ← Loop.readable env os ev.fd v)
        else return (false, v) : Except Fault (Bool × World)) = .ok (broke, w')) : v = w' := by
    split at h
    · unfold Loop.readable at h
      simp only [hreg, hob, hl] at h
      cases h
    · cases h
      rfl
  rw [Loop.handleEvent, if_neg hhup] at h
  unfold Loop.written
  by_cases hout : ev.events.epollout = true
  · simp only [if_pos hout, Loop.writable, hob] at h ⊢
    obtain ⟨⟨continued, w1⟩, hwrite, h⟩ := Except.bind_ok_iff.mp h
    obtain ⟨w2, hwrite, heq⟩ := Except.bind_ok_iff.mp hwrite
    cases heq
    rw [hwrite, hread (performWriteQueue_frame hwrite).1 h]
  · simp only [if_neg hout] at h ⊢
    rw [hread rfl h]

end

end OpenGrok
