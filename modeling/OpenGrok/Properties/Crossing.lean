import OpenGrok.Properties.Introduced

/-! Frames that cross on the wire.

`Wire` is the server with the two channels of each owner. An id that comes back is given
to the next client, and nothing in a frame says which of its clients it is for: an owner
that sends a frame for an id reaches the client that the server has told it of last,
which may be a later one than it knows of (`frames_reach_latest`). -/
namespace OpenGrok

/-! ### The frame that a step handles -/

/-- The frame that the event completes and has processed. -/
def Loop.handles (env : Env) (os : Os) (ev : Event) (w : World) :
    Option (UInt8 × Nat × Option Bytes) :=
  if ev.reads = true ∧ w.linkedClients.lookup ev.fd = some .freeGrok then
    match written os ev w with
    | .ok w =>
      match completedRead os ev.fd w with
      | some (state, u64, buffer) =>
        match FreeGrok.decode env u64 buffer state with
        | .message type length buffer => some (type, length, buffer)
        | _ => none
      | none => none
    | .error _ => none
  else none

/-- Bytes are queued for another connection than the owner's, or a connection is closed. -/
def Action.elsewhere (A : SockT) : Action → Bool
  | .queued x _ => decide (x ≠ A)
  | .close _ => true
  | _ => false

section
variable {env : Env} {os : Os} {w w' : World}

/-- A write queues nothing and closes nothing. -/
theorem Loop.written_quiet (env : Env) {ev : Loop.Event} (hw : w.Sound) (hfd : ev.fd ≠ -1)
    (h : Loop.written os ev w = .ok w') : w'.Sound ∧ w'.toRegistry = w.toRegistry ∧
      Grows (fun a => a.elsewhere ev.fd = false) w w' := by
  unfold Loop.written at h
  split at h
  · have heff : Effects env Loop.anyTerms w w' := performWriteQueue_effects hw hfd h
    refine ⟨heff.sound hw, (performWriteQueue_frame h).1, ?_⟩
    obtain ⟨front, rest, _, ⟨_, rfl⟩ | ⟨_, rfl⟩⟩ := performWriteQueue_spec h
    · exact .writeFailed rfl
    · exact .wrote front rest _ rfl
  · cases h
    exact ⟨hw, rfl, .refl w⟩

theorem handles_spec {ev : Loop.Event} {broke : Bool} {type : UInt8} {length : Nat}
    {buffer : Option Bytes} (hw : w.Sound) (hfd : ev.fd ≠ -1)
    (h : Loop.handles env os ev w = some (type, length, buffer))
    (hstep : Loop.handleEvent env os ev w = .ok (broke, w')) :
    w.names.linked ev.fd = some .freeGrok ∧ ∃ w1 w2, w1.toRegistry = w.toRegistry ∧
      Grows (fun a => a.elsewhere ev.fd = false) w w1 ∧
      FreeGrok.processMessage env os type length ev.fd buffer w1 = .ok w2 ∧
      w'.trace = w2.trace := by
  unfold Loop.handles at h
  split at h
  · next hcond =>
    obtain ⟨hreads, hl⟩ := hcond
    have hflags : ev.hangsUp = false ∧ ev.events.epollin = true := by
      simpa [Loop.Event.reads] using hreads
    split at h
    · next v hwritten =>
      split at h
      · next state u64 piece hdone =>
        split at h
        · next hdecode =>
          cases h
          rw [handleEvent_linked hw hfd hl hflags.1, hwritten] at hstep
          simp only [hflags.2, if_true] at hstep
          obtain ⟨_, hv, hstep⟩ := Except.bind_ok_iff.mp hstep
          cases hv
          obtain ⟨w1, hread, hstep⟩ := Except.bind_ok_iff.mp hstep
          cases hstep
          refine ⟨hl, ?_⟩
          obtain ⟨hv, hreg, hgrows⟩ := Loop.written_quiet env hw hfd hwritten
          have hlv : v.names.linked ev.fd = some .freeGrok := by
            rw [hreg]
            exact hl
          obtain hnil | ⟨item, hitem, hfits⟩ := (hv.views hfd).reads _ hlv
          · have hnil : (v.gatherQueue ev.fd).read = [] := hnil
            simp [Loop.completedRead, hnil] at hdone
          · cases item with
            | capture _ _ => exact absurd hfits id
            | read fd' state' length' u64' kept =>
              obtain ⟨rfl, _, _⟩ := hfits
              have hqueue : (v.gatherQueue ev.fd).read =
                  [.read ev.fd state' length' u64' kept] := hitem
              simp only [Loop.completedRead, hqueue] at hdone
              split at hdone
              · cases hdone
              · cases hdone
              · next bytes hne hrecv =>
                split at hdone
                · next hfull =>
                  cases hdone
                  rw [performReadQueue_main hqueue hrecv hne, if_neg (Nat.not_lt.mpr hfull),
                    hdecode] at hread
                  obtain ⟨w3, hreact, heq⟩ := Except.bind_ok_iff.mp hread
                  cases heq
                  obtain ⟨w2, hprocess, heq⟩ := Except.bind_ok_iff.mp hreact
                  cases heq
                  have hheard : Grows (fun a => a.elsewhere ev.fd = false) v
                      (v.log (.recv ev.fd bytes)) := .log rfl
                  exact ⟨v.heard ev.fd _ [] bytes, w2, hreg,
                    hgrows.trans (hheard.trans (.of_eq rfl)), hprocess, rfl⟩
                · cases hdone
        · cases h
      · cases h
    · cases h
  · cases h

end

/-! ### Frames on the way to the server -/

/-- A frame that an owner has sent, and when it was told of the client it means. -/
structure Asked where
  type : UInt8
  payload : Bytes
  held : Option Nat := none
  deriving DecidableEq

namespace Asked

/-- The id that a frame is for: a GROK_PACKET frame with data, or a GROK_DISCONNECT frame. -/
def target (f : Asked) : Option CIdT :=
  if f.type = grokPacket ∧ cIdSize < f.payload.length ∨
      f.type = grokDisconnect ∧ f.payload.length = cIdSize then
    some (UInt32.ofNat (ByteBuffer.value (f.payload.take cIdSize)))
  else none

/-- What it does to the client that has the id. -/
def effect (f : Asked) (x : SockT) : Action :=
  if f.type = grokPacket then .queued x (f.payload.drop cIdSize) else .close x

end Asked

section
variable {env : Env} {os : Os} {w w' : World} {A : SockT} {u : User} {p : Ptr} {px : GrokProxy}

/-- An error is answered, and nothing else happens. -/
theorem FStreamer.sendError_answers (env : Env) (w : World) (A : SockT) (code : UInt8) :
    ∃ new, (FStreamer.sendError env A code w).trace = new ++ w.trace ∧
      new.filter (Action.elsewhere A) = [] ∧ .frame A grokError [code] ∈ new := by
  obtain ⟨queued, htrace, hall⟩ := FStreamer.send_grows env w A grokError [code]
  refine ⟨queued ++ [.frame A grokError [code]], ?_, ?_, by simp⟩
  · rw [List.append_assoc]
    exact htrace
  · refine List.filter_eq_nil_iff.mpr fun a ha => ?_
    obtain ha | ha := List.mem_append.mp ha
    · obtain ⟨bytes, rfl⟩ := hall a ha
      simp [Action.elsewhere]
    · rw [List.mem_singleton.mp ha]
      simp [Action.elsewhere]

/-- A frame for an id does one thing to the client that has the id, and is answered if none has. -/
theorem Asked.outcome {f : Asked} {id : CIdT} (hid : f.target = some id)
    (hu : w.names.user A = some u) (hs : u.server = some p) (hp : w.proxies.lookup p = some px)
    (hclient : ∀ x, px.idToSock.lookup id = some x → x ≠ A ∧ ∃ o, w.names.linked x = some o)
    (h : FreeGrok.processMessage env os f.type f.payload.length A (some f.payload) w = .ok w') :
    ∃ new, w'.trace = new ++ w.trace ∧ match px.idToSock.lookup id with
      | some x => new.filter (Action.elsewhere A) = [f.effect x]
      | none => new.filter (Action.elsewhere A) = [] ∧ .frame A grokError [noSuchClient] ∈ new := by
  obtain ⟨type, payload, held⟩ := f
  unfold Asked.target at hid
  dsimp only at hid h ⊢
  have hanswer (v : World) (hv : v = w.log (.message A type payload.length (some payload))) :
      ∃ new, (FStreamer.sendError env A noSuchClient v).trace = new ++ w.trace ∧
        new.filter (Action.elsewhere A) = [] ∧ .frame A grokError [noSuchClient] ∈ new := by
    subst hv
    obtain ⟨new, htrace, hnone, hmem⟩ := FStreamer.sendError_answers env
      (w.log (.message A type payload.length (some payload))) A noSuchClient
    refine ⟨new ++ [.message A type payload.length (some payload)], ?_, ?_,
      List.mem_append_left _ hmem⟩
    · rw [List.append_assoc]
      exact htrace
    · rw [List.filter_append, hnone]
      rfl
  split at hid
  · next hfor =>
    cases hid
    have hu : (w.log (.message A type payload.length (some payload))).names.user A = some u := hu
    have hp : (w.log (.message A type payload.length (some payload))).proxies.lookup p = some px := hp
    obtain ⟨rfl, hlen⟩ | ⟨rfl, hlen⟩ := hfor
    · rw [FreeGrok.processMessage_packet, FreeGrok.packet_eq hu hs hp hlen] at h
      cases h
      unfold FreeGrok.addressee
      cases hx : px.idToSock.lookup (UInt32.ofNat (ByteBuffer.value (payload.take cIdSize))) with
      | some x =>
        refine ⟨[.queued x (payload.drop cIdSize), .message A grokPacket payload.length (some payload)],
          Loop.send_trace .., ?_⟩
        simp [Action.elsewhere, Asked.effect, (hclient x hx).1]
      | none => exact hanswer _ rfl
    · rw [FreeGrok.processMessage_disconnect, FreeGrok.disconnect_eq hu hs hp hlen] at h
      unfold FreeGrok.addressee at h
      cases hx : px.idToSock.lookup (UInt32.ofNat (ByteBuffer.value (payload.take cIdSize))) with
      | some x =>
        rw [hx] at h
        obtain ⟨_, o, hl⟩ := hclient x hx
        have hl : ((w.log (.message A grokDisconnect payload.length (some payload))).untabled x p px
          (UInt32.ofNat (ByteBuffer.value (payload.take cIdSize)))).linkedClients.lookup x = some o := hl
        have h : Loop.forceDisconnectAt env (3 + 1) x true false _ = .ok w' := h
        obtain ⟨b, _, rfl⟩ := forceDisconnect_left hl h
        refine ⟨[.close x, .message A grokDisconnect payload.length (some payload)],
          World.left_trace .., ?_⟩
        have hno : ¬grokDisconnect = grokPacket := by decide
        have heffect : Asked.effect ⟨grokDisconnect, payload, held⟩ x = .close x := if_neg hno
        show [Action.close x] = [Asked.effect ⟨grokDisconnect, payload, held⟩ x]
        rw [heffect]
      | none =>
        rw [hx] at h
        cases h
        exact hanswer _ rfl
  · cases hid

end

/-- The server and the channels of its owners. Of the frames that the server sends to an owner,
those that have arrived are those of its first `seen` actions, and the others are on the way;
`sent` holds the frames on the way from the owner. -/
structure Wire where
  loop : Loop.State
  seen : SockT → Nat := fun _ => 0
  sent : SockT → List Asked := fun _ => []

namespace Wire

/-- What happens next: an owner receives what the server had sent to it by some time, an owner
sends a frame, or the loop goes on. -/
inductive Input where
  | receive (A : SockT) (k : Nat)
  | send (A : SockT) (type : UInt8) (payload : Bytes)
  | loop (i : Loop.Input)

/-- What had happened when the last of the frames was sent that the owner has received. -/
def past (n : Wire) (A : SockT) : List Action :=
  n.loop.world.trace.drop (n.loop.world.trace.length - n.seen A)

/-- The frame that the owner sends, with when it was told of the client. -/
def asks (n : Wire) (A : SockT) (type : UInt8) (payload : Bytes) : Asked :=
  { type, payload, held := (Asked.target { type, payload }).bind fun id => Trace.held A id (n.past A) }

/-- The owner whose frame the input completes and has processed, and the front of its channel. -/
def handled (env : Env) (n : Wire) : Input → Option (SockT × Asked)
  | .loop (.handle os) =>
    match n.loop.pending with
    | [] => none
    | ev :: _ =>
      match Loop.handles env os ev.event n.loop.world with
      | some _ => (n.sent ev.event.fd).head?.map fun f => (ev.event.fd, f)
      | none => none
  | _ => none

def step (env : Env) (n : Wire) : Input → Except Fault Wire
  | .receive A k => return { n with seen := Function.update n.seen A k }
  | .send A type payload =>
    return { n with sent := Function.update n.sent A (n.sent A ++ [n.asks A type payload]) }
  | .loop i => do
    let s ← Loop.step env n.loop i
    let new := s.world.trace.take (s.world.trace.length - n.loop.world.trace.length)
    return {
      loop := s
      seen := fun A => if Trace.starts A new then s.world.trace.length else n.seen A
      sent := fun A =>
        if Trace.starts A new then []
        else if (n.handled env (.loop i)).any fun h => h.1 = A then (n.sent A).tail
        else n.sent A }

/-- The frames of an owner are processed in the order in which it sent them. -/
def InOrder (env : Env) (n : Wire) : Loop.Input → Prop
  | .wait _ => True
  | .handle os =>
    match n.loop.pending with
    | [] => True
    | ev :: _ =>
      match Loop.handles env os ev.event n.loop.world with
      | some (type, length, buffer) => (n.sent ev.event.fd).head?.any fun f =>
          f.type = type ∧ f.payload = buffer.getD [] ∧ f.payload.length = length
      | none => True

instance (env : Env) (n : Wire) : ∀ i, Decidable (n.InOrder env i)
  | .wait _ => isTrue trivial
  | .handle os =>
    match h : n.loop.pending with
    | [] => isTrue (by simp [InOrder, h])
    | ev :: _ =>
      match h' : Loop.handles env os ev.event n.loop.world with
      | some (type, length, buffer) => decidable_of_iff ((n.sent ev.event.fd).head?.any fun f =>
          f.type = type ∧ f.payload = buffer.getD [] ∧ f.payload.length = length)
          (by simp only [InOrder, h, h'])
      | none => isTrue (by simp [InOrder, h, h'])

/-- An owner receives more and more, and sends a frame for an id only while it holds the id open. -/
def Allowed (env : Env) (n : Wire) : Input → Prop
  | .receive A k => n.seen A ≤ k ∧ k ≤ n.loop.world.trace.length
  | .send A type payload =>
    (Asked.target { type, payload }).isSome = true → (n.asks A type payload).held.isSome = true
  | .loop i => (Loop.Allowed n.loop i ∧ Loop.ProxiesAccept n.loop i) ∧ n.InOrder env i

instance (env : Env) (n : Wire) : ∀ i, Decidable (n.Allowed env i)
  | .receive A k => inferInstanceAs (Decidable (n.seen A ≤ k ∧ k ≤ n.loop.world.trace.length))
  | .send A type payload => inferInstanceAs (Decidable
      ((Asked.target { type, payload }).isSome = true → (n.asks A type payload).held.isSome = true))
  | .loop i => inferInstanceAs (Decidable ((Loop.Allowed n.loop i ∧ Loop.ProxiesAccept n.loop i) ∧
      n.InOrder env i))

/-- The server has just started. -/
def boot (l : Listeners) : Wire := { loop := ⟨World.boot l, []⟩ }

/-- What an owner has seen is of its present connection, and so is what it asks. -/
structure Current (n : Wire) : Prop where
  seen : ∀ A, n.seen A ≤ n.loop.world.trace.length ∧
    ∀ a ∈ n.loop.world.trace.take (n.loop.world.trace.length - n.seen A), a.fd = A →
      a.isStart = false
  sent : ∀ A f id, f ∈ n.sent A → f.target = some id →
    ∃ k, f.held = some k ∧ Trace.ToldAt A id k n.loop.world.trace

end Wire

section
variable {env : Env} {l : Listeners} {n n' : Wire} {i : Wire.Input}

/-- The runs of the server on the wire are runs of the server. -/
theorem Wire.reachable (h : Reach (Wire.step env) (Wire.Allowed env) (Wire.boot l) n) :
    ReachableIf env l Loop.ProxiesAccept n.loop := by
  refine Reach.invariant (P := fun n => ReachableIf env l Loop.ProxiesAccept n.loop) h .start ?_
  intro n i n' _ hr hi hstep
  cases i with
  | receive A k =>
    cases hstep
    exact hr
  | send A type payload =>
    cases hstep
    exact hr
  | loop i =>
    obtain ⟨s, hs, heq⟩ := Except.bind_ok_iff.mp hstep
    cases heq
    exact .next hr hi.1 hs

theorem Wire.current (h : Reach (Wire.step env) (Wire.Allowed env) (Wire.boot l) n) :
    n.Current := by
  refine Reach.invariant (P := Wire.Current) h ⟨fun A => ⟨Nat.le_refl _, nofun⟩, nofun⟩ ?_
  intro n i n' hr hc hi hstep
  cases i with
  | receive A k =>
    cases hstep
    refine ⟨fun B => ?_, hc.sent⟩
    dsimp only
    rw [Function.update_apply]
    split
    · next he =>
      subst he
      refine ⟨hi.2, fun a ha => (hc.seen B).2 a ?_⟩
      have hle : n.loop.world.trace.length - k ≤ n.loop.world.trace.length - n.seen B :=
        Nat.sub_le_sub_left hi.1 _
      exact (List.take_subset_take_left _ hle) ha
    · exact hc.seen B
  | send A type payload =>
    cases hstep
    refine ⟨hc.seen, fun B f id hf hid => ?_⟩
    dsimp only at hf ⊢
    rw [Function.update_apply] at hf
    split at hf
    · next he =>
      subst he
      obtain hf | hf := List.mem_append.mp hf
      · exact hc.sent B f id hf hid
      · rw [List.mem_singleton.mp hf] at hid ⊢
        have htarget : Asked.target { type, payload } = some id := hid
        obtain ⟨k, hk⟩ := Option.isSome_iff_exists.mp (hi (by rw [htarget]; rfl))
        refine ⟨k, hk, ?_⟩
        have hheld : Trace.held B id (n.past B) = some k := by
          unfold Wire.asks at hk
          rw [htarget] at hk
          exact hk
        have hall := (Trace.held_spec hheld).append (hc.seen B).2
        unfold Wire.past at hall
        rw [List.take_append_drop] at hall
        exact hall
    · exact hc.sent B f id hf hid
  | loop i =>
    obtain ⟨s, hs, heq⟩ := Except.bind_ok_iff.mp hstep
    cases heq
    obtain ⟨new, hnew⟩ := Loop.step_grows (Reachable.sound (Wire.reachable hr)) hi.1.1 hs
    have htake : s.world.trace.take (s.world.trace.length - n.loop.world.trace.length) = new := by
      rw [hnew, List.length_append, Nat.add_sub_cancel]
      exact List.take_left
    refine ⟨fun A => ?_, fun A f id hf hid => ?_⟩
    · dsimp only
      rw [htake]
      split
      · exact ⟨Nat.le_refl _, by simp⟩
      · next hstarts =>
        have hquiet := Trace.starts_eq_false.mp (Bool.eq_false_of_not_eq_true hstarts)
        obtain ⟨hle, hall⟩ := hc.seen A
        have hlen : s.world.trace.length = new.length + n.loop.world.trace.length := by
          rw [hnew, List.length_append]
        refine ⟨by omega, fun a ha => ?_⟩
        rw [hlen, hnew, List.take_append] at ha
        obtain ha | ha := List.mem_append.mp ha
        · exact hquiet a (List.mem_of_mem_take ha)
        · have hrest : new.length + n.loop.world.trace.length - n.seen A - new.length =
              n.loop.world.trace.length - n.seen A := by omega
          exact hall a (hrest ▸ ha)
    · dsimp only at hf ⊢
      rw [htake] at hf
      split at hf
      · cases hf
      · next hstarts =>
        have hquiet := Trace.starts_eq_false.mp (Bool.eq_false_of_not_eq_true hstarts)
        have hmem : f ∈ n.sent A := by
          split at hf
          · exact List.mem_of_mem_tail hf
          · exact hf
        obtain ⟨k, hk, htold⟩ := hc.sent A f id hmem hid
        exact ⟨k, hk, hnew ▸ htold.append hquiet⟩

theorem Wire.handled_spec {A : SockT} {f : Asked} (hi : n.Allowed env i)
    (hf : n.handled env i = some (A, f)) :
    ∃ os ev rest buffer, i = .loop (.handle os) ∧ n.loop.pending = ev :: rest ∧ ev.event.fd = A ∧
      f ∈ n.sent A ∧ buffer.getD [] = f.payload ∧
      Loop.handles env os ev.event n.loop.world = some (f.type, f.payload.length, buffer) := by
  unfold Wire.handled at hf
  split at hf
  · next os =>
    split at hf
    · cases hf
    · next ev rest hpending =>
      split at hf
      · next m hhandles =>
        obtain ⟨type, length, buffer⟩ := m
        obtain ⟨g, hfront, heq⟩ := Option.map_eq_some_iff.mp hf
        cases heq
        have horder := hi.2
        simp only [Wire.InOrder, hpending, hhandles, hfront, Option.any_some, decide_eq_true_eq]
          at horder
        obtain ⟨htype, hpayload, hlength⟩ := horder
        exact ⟨os, ev, rest, buffer, rfl, hpending, rfl, List.mem_of_mem_head? hfront,
          hpayload.symm, by rw [hhandles, htype, hlength]⟩
      · cases hf
  · cases hf

theorem Asked.target_payload {f : Asked} {id : CIdT} (h : f.target = some id) : f.payload ≠ [] := by
  intro hnil
  unfold Asked.target at h
  rw [hnil] at h
  simp [cIdSize] at h

/-- **Frames reach the client that the server has told their owner of last**: a frame for an id
that an owner has sent while it held the id open does one thing to the client that has the id
when the server gets to it, and is answered NO_SUCH_CLIENT if none has. The client is the one that
the last CONNECTED frame for the id was sent for; that is the one the owner means exactly if no
other CONNECTED frame for the id has been sent since. -/
theorem frames_reach_latest {A : SockT} {f : Asked} {id : CIdT}
    (h : Reach (Wire.step env) (Wire.Allowed env) (Wire.boot l) n) (hi : n.Allowed env i)
    (hstep : n.step env i = .ok n') (hf : n.handled env i = some (A, f))
    (hid : f.target = some id) :
    ∃ k new, f.held = some k ∧ k ≤ Trace.told A id n.loop.world.trace ∧
      n'.loop.world.trace = new ++ n.loop.world.trace ∧
      ((∃ p x, n.loop.world.names.Client p A id x ∧
          new.filter (Action.elsewhere A) = [f.effect x] ∧
          Trace.opening x n.loop.world.trace + 1 = Trace.told A id n.loop.world.trace) ∨
        (∀ p x, ¬n.loop.world.names.Client p A id x) ∧ new.filter (Action.elsewhere A) = [] ∧
          .frame A grokError [noSuchClient] ∈ new) := by
  have hr := Wire.reachable h
  have hw := (Reachable.sound hr).world
  have hagree := Reachable.agreeing hr
  obtain ⟨os, ev, rest, buffer, rfl, hpending, rfl, hmem, hbuffer, hhandles⟩ :=
    Wire.handled_spec hi hf
  obtain ⟨k, hk, htold⟩ := (Wire.current h).sent _ f id hmem hid
  have hfd : ev.event.fd ≠ -1 := (Reachable.sound hr).pending ev (by simp [hpending])
  have hbuffer : buffer = some f.payload := by
    cases buffer with
    | none => exact absurd hbuffer.symm (Asked.target_payload hid)
    | some bytes => exact congrArg some hbuffer
  -- The owner was told of a client on this connection, so it has a proxy.
  obtain ⟨p, t, ht, hA⟩ := hr.serves _ htold.connected
  obtain ⟨u, hu, hserver⟩ := hw.wf.owner ht
  rw [hA] at hu
  obtain ⟨px, hpx, rfl⟩ := Option.map_eq_some_iff.mp ht
  obtain ⟨s, hloop, heq⟩ := Except.bind_ok_iff.mp hstep
  cases heq
  obtain ⟨hnil, _⟩ | ⟨ev', _, broke, w', hpending', hhandle, rfl⟩ := Loop.step_handle hloop
  · cases hpending.symm.trans hnil
  cases hpending.symm.trans hpending'
  obtain ⟨hl, w1, w2, hreg, ⟨before, hbefore, hquiet⟩, hprocess, hsame⟩ :=
    handles_spec hw hfd hhandles hhandle
  have hclient {x : SockT} (hx : px.idToSock.lookup id = some x) :
      n.loop.world.names.Client p ev.event.fd id x := ⟨_, ht, hA, hx⟩
  have hvalid {x : SockT} (hx : px.idToSock.lookup id = some x) : x ≠ -1 :=
    hagree.ledger.accepting (hclient hx).holds
  obtain ⟨more, hmore, houtcome⟩ := Asked.outcome hid (hreg ▸ hu) hserver (hreg ▸ hpx)
    (fun x hx => ⟨((hclient hx).ne_linked hw.wf (hvalid hx) hl nofun).symm, .grokProxy p, by
      rw [hreg]
      exact hagree.paired.linked ((hclient hx).knows hw.wf (hvalid hx))⟩) (hbuffer ▸ hprocess)
  have hnone : before.filter (Action.elsewhere ev.event.fd) = [] :=
    List.filter_eq_nil_iff.mpr fun a ha => by simp [hquiet a ha]
  refine ⟨k, more ++ before, hk, htold.le_told, ?_, ?_⟩
  · dsimp only
    rw [hsame, hmore, hbefore, List.append_assoc]
  · rw [List.filter_append, hnone, List.append_nil]
    cases hx : px.idToSock.lookup id with
    | some x =>
      rw [hx] at houtcome
      exact .inl ⟨p, x, hclient hx, houtcome, (hr.introduced p _ id x (hvalid hx) (hclient hx)).symm⟩
    | none =>
      rw [hx] at houtcome
      refine .inr ⟨fun q x hc => ?_, houtcome.1, List.mem_append_left _ houtcome.2⟩
      obtain ⟨t', ht', hA', hid'⟩ := hc
      have hpq := hw.wf.tunnel_one ht' ht (hA'.trans hA.symm)
      subst hpq
      cases Option.some.inj (ht'.symm.trans ht)
      cases hx.symm.trans hid'

/-- A frame for an id reaches no connection but the one that its owner had been told of. -/
def Wire.Intended (env : Env) (n : Wire) (i : Wire.Input) : Prop :=
  ∀ A f id n', n.handled env i = some (A, f) → f.target = some id → n.step env i = .ok n' →
    ∀ x, f.effect x ∈ n'.loop.world.trace.take
      (n'.loop.world.trace.length - n.loop.world.trace.length) →
      f.held = some (Trace.opening x n.loop.world.trace + 1)

/-- The owner 5 was told of its client 7, and sends a byte for it. -/
def askedRun : List Wire.Input :=
  [.loop (.readable 3 0), .loop (.accept 5), .send 5 grokCreateServer [], .loop (.readable 5 2),
    .loop (.handle { recv := .data [10, 0], socket := 6, getsockname := some 8000 }),
    .loop (.readable 6 3), .loop (.accept 7), .receive 5 12, .send 5 grokPacket [0, 0, 0, 0, 9]]

theorem Wire.exists_of_run (env : Env) (l : Listeners) (inputs : List Wire.Input) (Q : Wire → Prop)
    (hp : Permitted (Wire.step env) (Wire.Allowed env) (Wire.boot l) inputs)
    (hr : Except.Returns (run (Wire.step env) (Wire.boot l) inputs) Q) :
    ∃ n, Reach (Wire.step env) (Wire.Allowed env) (Wire.boot l) n ∧ Q n :=
  Reach.exists_of_run hp hr

/-- The client 7 leaves and its id is given to the client 8 while the byte is on the way; the
server queues it for 8. -/
theorem frames_reach_latest_recycled :
    ∃ n, Reach (Wire.step (.plain [])) (Wire.Allowed (.plain [])) (Wire.boot .plain) n ∧
      n.Allowed (.plain []) (.loop (.data [0, 0, 0, 0, 9])) ∧
      ¬n.Intended (.plain []) (.loop (.data [0, 0, 0, 0, 9])) := by
  obtain ⟨n, hn, hallowed, hhandled, hopening, hqueued⟩ := Wire.exists_of_run (.plain []) .plain
    (askedRun ++ [.loop (.wait [⟨⟨7, { epollrdhup := true }⟩, 4⟩]), .loop (.handle {}),
      .loop (.readable 6 3), .loop (.accept 8),
      .loop (.readable 5 2), .loop (.data [14, 5]), .loop (.readable 5 2)])
    (fun n => n.Allowed (.plain []) (.loop (.data [0, 0, 0, 0, 9])) ∧
      n.handled (.plain []) (.loop (.data [0, 0, 0, 0, 9])) =
        some (5, ⟨grokPacket, [0, 0, 0, 0, 9], some 9⟩) ∧
      Trace.opening 8 n.loop.world.trace = 17 ∧
      Except.Returns (n.step (.plain []) (.loop (.data [0, 0, 0, 0, 9]))) (fun n' =>
        .queued 8 [9] ∈ n'.loop.world.trace.take
          (n'.loop.world.trace.length - n.loop.world.trace.length)))
    (by decide +kernel) (by decide +kernel)
  obtain ⟨n', hstep, hqueued⟩ := hqueued.exists
  refine ⟨n, hn, hallowed, fun hintended => ?_⟩
  have hheld := hintended 5 _ 0 n' hhandled rfl hstep 8 hqueued
  rw [hopening] at hheld
  cases hheld

/-- The byte is read while 7 has the id. -/
theorem frames_reach_latest_one :
    ∃ (n n' : Wire) (x : SockT) (new : List Action),
      Reach (Wire.step (.plain [])) (Wire.Allowed (.plain [])) (Wire.boot .plain) n ∧
      n'.loop.world.trace = new ++ n.loop.world.trace ∧
      new.filter (Action.elsewhere 5) = [.queued x [9]] ∧
      Trace.opening x n.loop.world.trace + 1 = 9 := by
  obtain ⟨n, hn, hallowed, hhandled, htold, hproxy, hstep⟩ := Wire.exists_of_run (.plain []) .plain
    (askedRun ++ [.loop (.readable 5 2), .loop (.data [14, 5]), .loop (.readable 5 2)])
    (fun n => n.Allowed (.plain []) (.loop (.data [0, 0, 0, 0, 9])) ∧
      n.handled (.plain []) (.loop (.data [0, 0, 0, 0, 9])) =
        some (5, ⟨grokPacket, [0, 0, 0, 0, 9], some 9⟩) ∧
      Trace.told 5 0 n.loop.world.trace = 9 ∧
      ((n.loop.world.proxies.lookup 0).any fun px => px.initiator = 5 ∧
        px.idToSock.lookup 0 = some 7) ∧
      Except.Returns (n.step (.plain []) (.loop (.data [0, 0, 0, 0, 9]))) fun _ => True)
    (by decide +kernel) (by decide +kernel)
  obtain ⟨n', hstep, -⟩ := hstep.exists
  obtain ⟨px, hpx, hfields⟩ := (Option.any_eq_true _ _).mp hproxy
  obtain ⟨howner, hid⟩ := of_decide_eq_true hfields
  have htarget : Asked.target ⟨grokPacket, [0, 0, 0, 0, 9], some 9⟩ = some 0 := by decide
  obtain ⟨k, new, -, -, htrace, ⟨p, x, -, helsewhere, hopening⟩ | ⟨hno, -⟩⟩ :=
    frames_reach_latest hn hallowed hstep hhandled htarget
  · exact ⟨n, n', x, new, hn, htrace, helsewhere, hopening.trans htold⟩
  · exact absurd ⟨px.toTunnel, (World.proxy_names hpx).1, howner, hid⟩ (hno 0 7)

end

end OpenGrok
