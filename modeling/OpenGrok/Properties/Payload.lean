import OpenGrok.Loop.Faults
import OpenGrok.Loop.Invariants

/-! Reads stay inside the payload.

`BufferReader` checks no bounds; each command tests the length before it reads. What the
tests rely on is that the payload is as long as they are told, and that holds of the three
places where a payload comes from: an empty frame, a read that is received to its end,
and a buffer that zstd filled. -/
namespace OpenGrok

/-- Decompressing into a buffer of the declared content size fills it. -/
def Zstd.Fills (z : Zstd) : Prop :=
  ∀ src n decBuf, z.getFrameContentSize src = .size n → z.decompress src n = some decBuf →
    decBuf.length = n

section
variable {env : Env} {os : Os} {w w' : World} {fd : SockT}

/-- `process_message` is called with a payload as long as it is told. -/
theorem decode_sized (hz : env.zstd.Fills) {state : PacketState} {u64 length : Nat}
    {buffer : Bytes} (hasks : Asks state buffer.length u64) {type : UInt8} {payload : Option Bytes}
    (h : FreeGrok.decode env u64 buffer state = .message type length payload) :
    (payload.getD []).length = length := by
  cases state with
  | typeGot =>
    simp only [FreeGrok.decode] at h
    split at h
    · split at h <;> cases h
      rfl
    · cases h
  | headerGot =>
    simp only [FreeGrok.decode] at h
    split at h <;> cases h
    rfl
  | bufferGot =>
    have hsize : buffer.length = u64 &&& 0xffffffff := hasks.size
    simp only [FreeGrok.decode, FreeGrok.decodePayload] at h
    split at h
    · split at h
      · cases h
      · cases h
      · cases h
      · next n hcontent =>
        split at h
        · cases h
        · split at h
          · cases h
          · next decBuf hdecompress =>
            cases h
            have hfills := hz _ _ _ hcontent hdecompress
            simp [hfills]
    · cases h
      exact hsize

/-- Reading a main connection never runs past a payload. -/
theorem performReadQueue_inside (hz : env.zstd.Fills) (hw : w.Sound) (hfd : fd ≠ -1)
    (hl : w.names.linked fd = some .freeGrok) :
    Loop.performReadQueue env os fd .freeGrok w ≠ .error .overrun := by
  rcases (hw.views hfd).reads _ hl with hnil | ⟨item, hitem, hfits⟩
  · rw [Loop.performReadQueue_empty hnil]
    intro herror
    cases herror
  · cases item with
    | capture _ _ => exact absurd hfits id
    | read fd' state length u64 buffer =>
      obtain ⟨rfl, hasks, hbuf⟩ := hfits
      have hread : (w.gatherQueue fd').read = [.read fd' state length u64 buffer] := hitem
      cases hrecv : os.tcpRecv (length - buffer.length) with
      | none =>
        simp only [Loop.performReadQueue, hread, hrecv]
        intro herror
        cases herror
      | some bytes =>
        cases bytes with
        | nil =>
          simp only [Loop.performReadQueue, hread, hrecv]
          intro herror
          cases herror
        | cons b bytes =>
          have hle := Os.tcpRecv_length hrecv
          rw [performReadQueue_main hread hrecv (List.cons_ne_nil _ _)]
          split
          · intro herror
            cases herror
          · next hfull =>
            have hfull : (buffer ++ b :: bytes).length = length := by
              rw [List.length_append] at hfull ⊢
              omega
            subst hfull
            have hreact : OnlyOrdinary (FreeGrok.react env os fd' (w.heard fd' (.read fd' state
                (buffer ++ b :: bytes).length u64 (buffer ++ b :: bytes)) [] (b :: bytes))
                (FreeGrok.decode env u64 (buffer ++ b :: bytes) state)) := by
              cases hdecode : FreeGrok.decode env u64 (buffer ++ b :: bytes) state with
              | more _ _ _ => exact .pure _
              | error _ => exact .pure _
              | message type length payload =>
                have hsized := decode_sized hz hasks hdecode
                exact .bind (FreeGrok.processMessage_only (FreeGrok.reading_inside hsized) type fd'
                  hw.wf) fun _ _ => .pure _
            intro herror
            rcases Except.bind_error_iff.mp herror with herror | ⟨_, _, herror⟩
            · rcases hreact _ herror with h | h <;> cases h
            · cases herror

theorem BufferReader.slice_length {reader : BufferReader} {n : Nat} {bytes : Bytes}
    (h : reader.slice n = .ok bytes) : bytes.length = n := by
  unfold BufferReader.slice at h
  split at h
  · cases h
  · split at h
    · cases h
      simp only [List.length_take, List.length_drop]
      omega
    · cases h

/-- A GROK_PACKET frame is refused, or passes on what comes after the id, which is not empty. -/
theorem packet_body {length : Nat} {buffer : Option Bytes}
    (h : FreeGrok.packet env fd length { buffer } w = .ok w') :
    (∃ code, w' = FStreamer.sendError env fd code w) ∨
      ∃ p id body, cIdSize < length ∧ body ≠ [] ∧ body.length = length - cIdSize ∧
        GrokProxy.redirectPacket p id body w = .ok w' := by
  unfold FreeGrok.packet at h
  split at h
  · cases h
    exact .inl ⟨_, rfl⟩
  · split at h
    · cases h
      exact .inl ⟨_, rfl⟩
    · next hlen =>
      have hlen : cIdSize < length := Nat.lt_of_not_ge hlen
      obtain ⟨⟨clientId, reader⟩, hread, h⟩ := Except.bind_ok_iff.mp h
      obtain ⟨bytes, _, hread⟩ := Except.bind_ok_iff.mp hread
      cases hread
      obtain ⟨p, _, h⟩ := Except.bind_ok_iff.mp h
      obtain ⟨px, _, h⟩ := Except.bind_ok_iff.mp h
      split at h
      · cases h
        exact .inl ⟨_, rfl⟩
      · obtain ⟨body, hslice, h⟩ := Except.bind_ok_iff.mp h
        have hbody : body.length = length - (0 + cIdSize) := BufferReader.slice_length hslice
        rw [Nat.zero_add] at hbody
        refine .inr ⟨p, _, body, hlen, ?_, hbody, h⟩
        intro hsame
        subst hsame
        have hzero : 0 = length - cIdSize := hbody
        omega

/-- What a completed read holds. -/
theorem completedRead_size (hw : w.Sound) (hfd : fd ≠ -1) (hl : w.names.linked fd = some .freeGrok)
    {state : PacketState} {u64 : Nat} {buffer : Bytes}
    (h : Loop.completedRead os fd w = some (state, u64, buffer)) :
    Asks state buffer.length u64 := by
  rcases (hw.views hfd).reads _ hl with hnil | ⟨item, hitem, hfits⟩
  · have hnil : (w.gatherQueue fd).read = [] := hnil
    simp [Loop.completedRead, hnil] at h
  · cases item with
    | capture _ _ => exact absurd hfits id
    | read fd' state' length u64' kept =>
      obtain ⟨rfl, hasks, hbuf⟩ := hfits
      have hread : (w.gatherQueue fd').read = [.read fd' state' length u64' kept] := hitem
      simp only [Loop.completedRead, hread] at h
      split at h
      · cases h
      · cases h
      · next bytes _ hrecv =>
        have hle := Os.tcpRecv_length hrecv
        split at h
        · next hfull =>
          cases h
          have hfull : (kept ++ bytes).length = length := by
            rw [List.length_append] at hfull ⊢
            omega
          rw [hfull]
          exact hasks
        · cases h

end

section
variable {env : Env} {l : Listeners} {s : Loop.State} {fd : SockT}

/-- **Message handling stays inside the payload.** In every reachable state, nothing that a main
connection sends makes a `BufferReader` leave its payload; a read is handled when it has all
that its state looks at; and whatever frame `process_message` is called with, its reads are
inside the payload, and what a GROK_PACKET passes on is not empty. -/
theorem reads_inside (hz : env.zstd.Fills) (h : Reachable env l s) (hfd : fd ≠ -1)
    (hl : s.world.linkedClients.lookup fd = some .freeGrok) :
    (∀ os ev, ev.fd = fd → ev.hangsUp = false →
      Loop.handleEvent env os ev s.world ≠ .error .overrun) ∧
    (∀ os state u64 buffer, Loop.completedRead os fd s.world = some (state, u64, buffer) →
      Asks state buffer.length u64) ∧
    ∀ os type length buffer, (buffer.getD []).length = length →
      FreeGrok.processMessage env os type length fd buffer s.world ≠ .error .overrun ∧
      ∀ w', FreeGrok.packet env fd length { buffer } s.world = .ok w' →
        (∃ code, w' = FStreamer.sendError env fd code s.world) ∨
          ∃ p id body, cIdSize < length ∧ body ≠ [] ∧ body.length = length - cIdSize ∧
            GrokProxy.redirectPacket p id body s.world = .ok w' := by
  have hw := (Reachable.sound h).world
  refine ⟨?_, ?_, ?_⟩
  · intro os ev hsame
    subst hsame
    intro hup herror
    rw [handleEvent_linked hw hfd hl hup] at herror
    rcases Except.bind_error_iff.mp herror with herror | ⟨w1, hwritten, herror⟩
    · unfold Loop.written at herror
      split at herror
      · by_cases hempty : (s.world.gatherQueue ev.fd).write = []
        · rw [Loop.performWriteQueue_empty hempty] at herror
          cases herror
        · obtain ⟨w', hw'⟩ := Loop.performWriteQueue_ok os hempty
          rw [hw'] at herror
          cases herror
      · cases herror
    · have hsound : w1.Sound ∧ w1.names.linked ev.fd = some .freeGrok := by
        unfold Loop.written at hwritten
        split at hwritten
        · have heff : Effects env Loop.anyTerms s.world w1 := performWriteQueue_effects hw hfd hwritten
          rw [(performWriteQueue_frame hwritten).1]
          exact ⟨heff.sound hw, hl⟩
        · cases hwritten
          exact ⟨hw, hl⟩
      split at herror
      · rcases Except.bind_error_iff.mp herror with herror | ⟨_, _, herror⟩
        · exact performReadQueue_inside hz hsound.1 hfd hsound.2 herror
        · cases herror
      · cases herror
  · exact fun os state u64 buffer => completedRead_size hw hfd hl
  · intro os type length buffer hsize
    refine ⟨fun herror => ?_, fun w' => packet_body⟩
    rcases FreeGrok.processMessage_only (FreeGrok.reading_inside hsize) type fd hw.wf _ herror with
      h | h <;> cases h

/-- A GROK_CREATE_SERVER frame whose payload is one byte, where a port takes two. -/
theorem reads_inside_short : ∃ s, Reachable (.plain []) .plain s ∧
    FreeGrok.processMessage (.plain []) {} grokCreateServer 1 5 (some [7]) s.world ≠
      .error .overrun := by
  obtain ⟨s, hs, hl⟩ := ReachableIf.exists_of_run (.plain []) .plain (fun _ _ => True)
    [.readable 3 0, .accept 5] (fun s => s.world.linkedClients.lookup 5 = some .freeGrok)
    (by decide +kernel) (by decide +kernel)
  have hinside := @reads_inside (.plain []) .plain s 5 nofun hs (by decide) hl
  exact ⟨s, hs, (hinside.2.2 {} grokCreateServer 1 (some [7]) rfl).1⟩

end

end OpenGrok
