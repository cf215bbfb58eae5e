import OpenGrok.Properties.Answers
import OpenGrok.Properties.Isolation
import OpenGrok.Server.Trace

/-! Captured reads.

A queued read takes what `tcp_recv` returns as signed, and drops an end of file or an
error. The handlers of captured reads pass it on as a `size_t`: -1 is then the largest
one, far more than was stored, and adding the id's size to it wraps around; and 0 is
passed on like any count. So a captured read agrees with a queued one exactly when
`tcp_recv` delivered something. -/
namespace OpenGrok

/-- What a handler passes on: its local buffer, with what was stored in it, and a length. -/
structure Captured where
  buffer : Bytes
  length : Nat

/-- The handler calls its argument with such values only: it cannot tell functions apart that agree
on them. -/
def CallsOnly {α β γ : Type} (ok : α → Prop) (handler : (α → β) → γ) : Prop :=
  ∀ f g, (∀ a, ok a → f a = g a) → handler f = handler g

/-- Nothing but what `tcp_recv` has stored is passed on. -/
def Captured.Stored (os : Os) (len : Nat) (c : Captured) : Prop :=
  c.buffer = os.stored len ∧ c.length ≤ c.buffer.length

/-- The sum of the length and the id's does not wrap around, so that both fit what is allocated for
the frame. -/
def Captured.Fits (c : Captured) : Prop := FreeGrok.packetSize c.length = cIdSize + c.length

/-- A GROK_PACKET frame to an owner. -/
def Action.isPacket : Action → Bool
  | .frame _ type _ => type = grokPacket
  | _ => false

/-- No GROK_PACKET frame was sent since. -/
def NoPacket (w w' : World) : Prop :=
  w'.trace.filter Action.isPacket = w.trace.filter Action.isPacket

/-- No parser was fed since. -/
def NoInput (w w' : World) : Prop := w'.http.parsers = w.http.parsers

/-- `GrokProxy::on_received`, as a function of the call it makes. -/
def GrokProxy.passing (os : Os) (p : Ptr) (item : ReadItem) (w : World)
    (redirectPacket : Captured → SockT → CIdT → World → Except Fault World) : Except Fault World :=
  onReceivedWith os (fun A id buffer length => redirectPacket ⟨buffer, length⟩ A id) p item w

/-- `HttpInterface::on_received`, as a function of the call it makes. -/
def HttpInterface.passing (os : Os) (item : ReadItem) (w : World)
    (feed : Captured → StreamingParser → World → Except Fault (StreamingParser × World)) :
    Except Fault World :=
  onReceivedWith os (fun parser buffer length => feed ⟨buffer, length⟩ parser) item w

/-- A captured read of a proxy agrees with a queued one: what is passed on was stored, the frame
that is made of it fits its buffer, and nothing comes of a read that failed. -/
structure GrokProxy.CaptureAgrees (env : Env) (os : Os) (p : Ptr) (item : ReadItem) (w : World) :
    Prop where
  stored : CallsOnly (Captured.Stored os redirBufSize) (passing os p item w)
  fits : CallsOnly Captured.Fits (passing os p item w)
  defined : onReceived env os p item w ≠ .error .undefined
  quiet : os.received redirBufSize ≤ 0 →
    ∃ w', onReceived env os p item w = .ok w' ∧ NoPacket w w'

/-- So does one of the HTTP interface. -/
structure HttpInterface.CaptureAgrees (env : Env) (os : Os) (item : ReadItem) (w : World) :
    Prop where
  stored : CallsOnly (Captured.Stored os 4096) (passing os item w)
  defined : onReceived env os item w ≠ .error .undefined
  quiet : os.received 4096 ≤ 0 → ∃ w', onReceived env os item w = .ok w' ∧ NoInput w w'

section
variable {env : Env} {os : Os} {w : World} {item : ReadItem} {len : Nat}

/-- A handler that makes one call. -/
theorem CallsOnly.of_call {α β γ : Type} {ok : α → Prop} {handler : (α → β) → γ} {k : β → γ}
    {a : α} (hcall : ∀ f, handler f = k (f a)) (ha : ok a) : CallsOnly ok handler := by
  intro f g hfg
  rw [hcall, hcall, hfg a ha]

/-- A positive count is what was stored, and the sum does not wrap around. -/
theorem captured_pos (hlen : len ≤ 4096) (h : 0 < os.received len) :
    ∃ bytes, os.tcpRecv len = some bytes ∧ bytes ≠ [] ∧
      Captured.Stored os len ⟨os.stored len, sizeT (os.received len)⟩ ∧
      Captured.Fits ⟨os.stored len, sizeT (os.received len)⟩ := by
  cases hrecv : os.tcpRecv len with
  | none =>
    rw [(Os.received_none hrecv).1] at h
    omega
  | some bytes =>
    have hle := Os.tcpRecv_length hrecv
    obtain ⟨hreceived, hstored⟩ := Os.received_some hrecv
    have hsize : sizeT (os.received len) = bytes.length := by
      rw [hreceived]
      exact sizeT_length (by omega)
    refine ⟨bytes, rfl, ?_, ⟨rfl, ?_⟩, ?_⟩
    · rintro rfl
      rw [hreceived] at h
      exact absurd h (by decide)
    · rw [hsize, hstored]
    · show (cIdSize + sizeT (os.received len)) % 2 ^ 64 = cIdSize + sizeT (os.received len)
      rw [hsize]
      exact Nat.mod_eq_of_lt (by rw [cIdSize]; omega)

/-- A count that is not positive is an error, or the end of the file. -/
theorem received_neg (h : ¬0 < os.received len) :
    os.tcpRecv len = none ∨ os.tcpRecv len = some [] := by
  cases hrecv : os.tcpRecv len with
  | none => exact .inl rfl
  | some bytes =>
    rw [(Os.received_some hrecv).1] at h
    exact .inr (by rw [List.length_eq_zero_iff.mp (by omega : bytes.length = 0)])

/-- `FStreamer::send` adds one frame to what happened. -/
theorem FStreamer.send_packets (A : SockT) (type : UInt8) (payload : Bytes) :
    (FStreamer.send env A type payload w).trace.filter Action.isPacket =
      (if type = grokPacket then [.frame A type payload] else []) ++
        w.trace.filter Action.isPacket := by
  have hsends : (FStreamer.send env A type payload w).trace.filter Action.isPacket =
      (w.log (.frame A type payload)).trace.filter Action.isPacket := by
    refine FStreamer.send_keeps env (P := fun v => v.trace.filter Action.isPacket =
      (w.log (.frame A type payload)).trace.filter Action.isPacket) ?_ type payload rfl
    intro chunk v hv
    rw [Loop.send_trace, List.filter_cons_of_neg (by simp [Action.isPacket]), hv]
  rw [hsends, World.log, List.filter_cons]
  by_cases h : type = grokPacket <;> simp [Action.isPacket, h]

/-- A captured read of a proxy. -/
theorem GrokProxy.onReceived_agrees {p : Ptr} {px : GrokProxy} {id : CIdT}
    (hp : w.proxies.lookup p = some px) (hid : px.sockToId.lookup item.fd = some id) :
    CaptureAgrees env os p item w ↔ 0 < os.received redirBufSize := by
  have hproxy : w.proxy p = .ok px := by simp only [Registry.proxy, hp]
  have hcall (redirect : Captured → SockT → CIdT → World → Except Fault World) :
      passing os p item w redirect = redirect ⟨os.stored redirBufSize,
        sizeT (os.received redirBufSize)⟩ px.initiator id (w.captured os item.fd redirBufSize) := by
    simp only [passing, onReceivedWith, hproxy, bind, Except.bind, hid]
  have hnone (hrecv : os.tcpRecv redirBufSize = none) :
      onReceived env os p item w = .error .undefined := by
    simp only [onReceived_eq, hproxy, hrecv, bind, Except.bind, hid]
    rfl
  have hsome {received : Bytes} (hrecv : os.tcpRecv redirBufSize = some received) :
      onReceived env os p item w = .ok (FreeGrok.sendPacket env px.initiator id received
        (w.log (.recv item.fd received))) := by
    simp only [onReceived_eq, hproxy, hrecv, bind, Except.bind, hid]
    rfl
  constructor
  · intro hagrees
    by_contra hneg
    rcases received_neg hneg with hrecv | hrecv
    · exact hagrees.defined (hnone hrecv)
    · obtain ⟨w', hw', hquiet⟩ := hagrees.quiet (by omega)
      cases Except.ok.inj ((hsome hrecv).symm.trans hw')
      rw [NoPacket, FreeGrok.sendPacket, FStreamer.send_packets, if_pos rfl] at hquiet
      have hlength := congrArg List.length hquiet
      simp [World.log, Action.isPacket] at hlength
  · intro hpos
    obtain ⟨bytes, hrecv, _, hstored, hfits⟩ := captured_pos (by decide) hpos
    refine ⟨?_, ?_, ?_, fun hneg => absurd hpos (by omega)⟩
    · exact .of_call (k := fun call => call px.initiator id _) hcall hstored
    · exact .of_call (k := fun call => call px.initiator id _) hcall hfits
    · rw [hsome hrecv]
      simp

/-- A captured read of the HTTP interface. -/
theorem HttpInterface.onReceived_agrees {parser : StreamingParser}
    (hparser : w.http.parsers.lookup item.fd = some parser) :
    CaptureAgrees env os item w ↔ 0 < os.received 4096 := by
  have hcall (feed : Captured → StreamingParser → World →
      Except Fault (StreamingParser × World)) :
      passing os item w feed = feed ⟨os.stored 4096, sizeT (os.received 4096)⟩ parser
        (w.captured os item.fd 4096) >>= fun r => pure (setParser item.fd r.1 r.2) := by
    simp only [passing, onReceivedWith, hparser]
  have hnone (hrecv : os.tcpRecv 4096 = none) :
      onReceived env os item w = .error .undefined := by
    simp only [onReceived_eq, hparser, hrecv]
    rfl
  have hsome {received : Bytes} (hrecv : os.tcpRecv 4096 = some received) :
      onReceived env os item w = .ok (setParser item.fd
        (parser.feed env received (w.log (.recv item.fd received))).1
        (parser.feed env received (w.log (.recv item.fd received))).2) := by
    simp only [onReceived_eq, hparser, hrecv]
    rfl
  constructor
  · intro hagrees
    by_contra hneg
    rcases received_neg hneg with hrecv | hrecv
    · exact hagrees.defined (hnone hrecv)
    · obtain ⟨w', hw', hquiet⟩ := hagrees.quiet (by omega)
      cases Except.ok.inj ((hsome hrecv).symm.trans hw')
      have hlookup := congrArg (fun parsers => AList.lookup item.fd parsers) hquiet
      dsimp only [setParser] at hlookup
      rw [AList.lookup_insert, hparser, Option.some.injEq] at hlookup
      have hfed := congrArg (fun parser => parser.fed.length) hlookup
      simp [feed_fed] at hfed
  · intro hpos
    obtain ⟨bytes, hrecv, _, hstored, _⟩ := captured_pos (by decide) hpos
    refine ⟨?_, ?_, fun hneg => absurd hpos (by omega)⟩
    · exact .of_call (k := fun call => call parser _ >>= fun r => pure (setParser item.fd r.1 r.2))
        hcall hstored
    · rw [hsome hrecv]
      simp

/-- **Captured reads agree with queued reads exactly when something was delivered.** -/
theorem captured_reads (env : Env) (os : Os) (w : World) (item : ReadItem) :
    (∀ p px id, w.proxies.lookup p = some px → px.sockToId.lookup item.fd = some id →
      (GrokProxy.CaptureAgrees env os p item w ↔ 0 < os.received redirBufSize)) ∧
    ∀ parser, w.http.parsers.lookup item.fd = some parser →
      (HttpInterface.CaptureAgrees env os item w ↔ 0 < os.received 4096) :=
  ⟨fun _ _ _ hp hid => GrokProxy.onReceived_agrees hp hid,
    fun _ hparser => HttpInterface.onReceived_agrees hparser⟩

/-- A client of a proxy, in a run. -/
theorem captured_client : ∃ s px, Reachable (.plain []) .plain s ∧
    s.world.proxies.lookup 0 = some px ∧ px.sockToId.lookup 7 = some 0 := by
  obtain ⟨s, hs, hclient⟩ := ReachableIf.exists_of_run (.plain []) .plain (fun _ _ => True) twoOwners
    (fun s => (s.world.proxies.lookup 0).any (fun px => px.sockToId.lookup 7 = some 0))
    (by decide +kernel) (by decide +kernel)
  obtain ⟨px, hpx, hid⟩ := (Option.any_eq_true _ _).mp hclient
  exact ⟨s, px, hs, hpx, of_decide_eq_true hid⟩

/-- A byte that a client sent is passed on as it should be. -/
theorem captured_reads_one : ∃ s px, Reachable (.plain []) .plain s ∧
    s.world.proxies.lookup 0 = some px ∧
    GrokProxy.CaptureAgrees (.plain []) { recv := .data [1] } 0 (.capture 7 true) s.world := by
  obtain ⟨s, px, hs, hpx, hid⟩ := captured_client
  exact ⟨s, px, hs, hpx, ((captured_reads (.plain []) { recv := .data [1] } s.world
    (.capture 7 true)).1 0 px 0 hpx hid).mpr (by decide)⟩

/-- A client whose connection was reset, or ended, after the selector reported it: -1 is passed on
as the largest `size_t`, of which nothing was stored and for which a frame buffer of three bytes
is allocated, and an end of file as an empty GROK_PACKET frame. -/
theorem captured_reads_failed : ∃ s px, Reachable (.plain []) .plain s ∧
    s.world.proxies.lookup 0 = some px ∧
    (∀ os ∈ [({ recv := .error } : Os), { recv := .data [] }],
      ¬GrokProxy.CaptureAgrees (.plain []) os 0 (.capture 7 true) s.world) ∧
    (∀ redirect, GrokProxy.passing { recv := .error } 0 (.capture 7 true) s.world redirect =
      redirect ⟨[], 2 ^ 64 - 1⟩ px.initiator 0 s.world) ∧
    FreeGrok.packetSize (2 ^ 64 - 1) = 3 := by
  obtain ⟨s, px, hs, hpx, hid⟩ := captured_client
  have hitem : px.sockToId.lookup (ReadItem.capture 7 true).fd = some 0 := hid
  refine ⟨s, px, hs, hpx, fun os hos hagrees => ?_, fun redirect => ?_, by decide⟩
  · have hpos := (GrokProxy.onReceived_agrees hpx hitem).mp hagrees
    rcases List.mem_cons.mp hos with rfl | hos
    · exact absurd hpos (by decide)
    · rw [List.mem_singleton.mp hos] at hpos
      exact absurd hpos (by decide)
  · have hproxy : s.world.proxy 0 = .ok px := by simp only [Registry.proxy, hpx]
    simp only [GrokProxy.passing, GrokProxy.onReceivedWith, hproxy, bind, Except.bind, hitem]
    rfl

end

end OpenGrok
