import OpenGrok.Loop.Invariants
import OpenGrok.Server.Frames

/-! The frames of a connection.

The loop reads a main connection piece by piece, as much of a read as `tcp_recv` delivers
(`Feeds`). What the server makes of the stream is what the stream means, however it was cut
(`parse_segments`), and what another server's encoder wrote is the messages it was given
(`parse_frames`). -/
namespace OpenGrok

/-- A main connection whose reader has some of what it waits for. -/
structure Parsing (w : World) (fd : SockT) (d : Demand) (got : Bytes) : Prop where
  sound : w.Sound
  linked : w.names.linked fd = some .freeGrok
  waits : (w.gatherQueue fd).read = [.read fd d.state d.length d.u64 got]
  lacks : got.length < d.length

namespace Loop

/-- What is left of the front read. -/
def lacking (w : World) (fd : SockT) : Nat :=
  match (w.gatherQueue fd).read with
  | .read _ _ length _ buffer :: _ => length - buffer.length
  | _ => 0

/-- The loop reads a stream off a main connection, with any answers of the other system calls:
each `tcp_recv` delivers the next piece of it. A read that faults ends the process. -/
inductive Feeds (env : Env) (fd : SockT) : World → Bytes → Except Fault World → Prop where
  | done (w : World) : Feeds env fd w [] (.ok w)
  | recv {w w' : World} {os : Os} {chunk rest : Bytes} {result : Except Fault World} :
      os.Fresh w.toRegistry → chunk ≠ [] → os.tcpRecv (lacking w fd) = some chunk →
      performReadQueue env os fd .freeGrok w = .ok w' → Feeds env fd w' rest result →
      Feeds env fd w (chunk ++ rest) result
  | fault {w : World} {os : Os} {chunk rest : Bytes} {e : Fault} :
      os.Fresh w.toRegistry → chunk ≠ [] → os.tcpRecv (lacking w fd) = some chunk →
      performReadQueue env os fd .freeGrok w = .error e →
      Feeds env fd w (chunk ++ rest) (.error e)

end Loop

section
variable {env : Env} {os : Os} {w w' : World} {fd : SockT} {d : Demand} {got : Bytes}

theorem Parsing.lacking (h : Parsing w fd d got) : Loop.lacking w fd = d.length - got.length := by
  unfold Loop.lacking
  rw [h.waits]

/-! ### One piece -/

/-- A piece of a stream is read, and the handler makes of it what the reader does. -/
theorem Parsing.read (h : Parsing w fd d got) (hfd : fd ≠ -1) (hos : os.Fresh w.toRegistry)
    {chunk : Bytes} (hne : chunk ≠ []) (hrecv : os.tcpRecv (Loop.lacking w fd) = some chunk)
    (hread : Loop.performReadQueue env os fd .freeGrok w = .ok w') :
    let p := (frameReader env).run d (got ++ chunk)
    Parsing w' fd p.state p.left ∧
      (w'.view fd).since Action.reactions = (w.view fd).since Action.reactions ++ p.out := by
  have hmain : MainRead env Loop.anyTerms fd w w' :=
    readMain_read h.sound hfd h.linked hos (fun _ _ => trivial) (fun _ => trivial) hread
  have hsound := (hmain.handled h.sound hfd h.linked).sound h.sound
  have hlen := Os.tcpRecv_length hrecv
  rw [h.lacking] at hrecv hlen
  rw [performReadQueue_main h.waits hrecv hne] at hread
  have hheardRead : ((w.heard fd (.read fd d.state d.length d.u64 (got ++ chunk)) [] chunk).view
      fd).queues.read = [.read fd d.state d.length d.u64 (got ++ chunk)] := by
    rw [World.view_heard, if_pos rfl]
    rfl
  have hheardSaid : ((w.heard fd (.read fd d.state d.length d.u64 (got ++ chunk)) [] chunk).view
      fd).since Action.reactions = (w.view fd).since Action.reactions := by
    rw [World.view_heard, if_pos rfl]
    exact (View.since_log (a := .recv fd chunk) Action.reactions rfl (w.view fd)).trans
      (List.append_nil _)
  split at hread
  · next hshort =>
    cases hread
    have hrun : (frameReader env).run d (got ++ chunk) = ⟨[], d, got ++ chunk⟩ :=
      Reader.run_short hshort
    rw [hrun]
    exact ⟨⟨hsound, h.linked, hheardRead, hshort⟩, hheardSaid.trans (List.append_nil _).symm⟩
  · next hfull =>
    have hfull : (got ++ chunk).length = d.length := by
      rw [List.length_append] at hfull ⊢
      have := h.lacks
      omega
    have hexact : (got ++ chunk).length = (frameReader env).need d := hfull
    rw [Reader.run_exact hexact]
    obtain ⟨w3, hreact, hread⟩ := Except.bind_ok_iff.mp hread
    cases hread
    have hheard : w.HeardAll fd (w.heard fd (.read fd d.state d.length d.u64 (got ++ chunk)) []
        chunk) :=
      .mk fd d.state d.length d.u64 got chunk [] h.linked h.waits
        (by rw [← hfull, List.length_append])
    have hv := hheard.sound h.sound
    have hproper := FreeGrok.decode_proper env d.u64 (got ++ chunk) d.state
    generalize w.heard fd (.read fd d.state d.length d.u64 (got ++ chunk)) [] chunk = v at *
    have hlv : v.names.linked fd = some .freeGrok := by
      rw [hheard.registry]
      exact h.linked
    obtain ⟨v', hcommands, rfl⟩ := react_commands (P := Loop.anyTerms) hv.wf hfd
      (hheard.registry ▸ hos) hproper (fun _ _ _ _ _ _ => trivial) hreact
    obtain ⟨_, _, hl', hread'⟩ := hcommands.effects hlv hv.wf hfd
    have hsaid := hcommands.tells hlv hv.wf hfd
    rw [hheardRead] at hread'
    rw [hheardSaid] at hsaid
    refine ⟨⟨hsound, hl', ?_, hproper.demand.pos⟩, ?_⟩
    · show ((v'.advanced fd (.read fd _ _ _ [])).view fd).queues.read = _
      rw [World.view_advanced, if_pos rfl, View.advanced_read _ hread']
      rfl
    · show ((v'.advanced fd (.read fd _ _ _ [])).view fd).since Action.reactions = _
      rw [World.view_advanced, if_pos rfl]
      exact hsaid

/-- A piece that cannot be read is the end of a frame whose message ends the process. -/
theorem Parsing.fault (h : Parsing w fd d got) {chunk : Bytes} (hne : chunk ≠ [])
    (hrecv : os.tcpRecv (Loop.lacking w fd) = some chunk) {e : Fault}
    (hread : Loop.performReadQueue env os fd .freeGrok w = .error e) :
    ∃ type length buffer v, (frameReader env).run d (got ++ chunk) =
        ⟨[.message type length (buffer.getD [])], .newMessage, []⟩ ∧
      (v.view fd).since Action.reactions = (w.view fd).since Action.reactions ∧
      FreeGrok.processMessage env os type length fd buffer v = .error e := by
  have hlen := Os.tcpRecv_length hrecv
  rw [h.lacking] at hrecv hlen
  rw [performReadQueue_main h.waits hrecv hne] at hread
  split at hread
  · cases hread
  · next hfull =>
    have hfull : (got ++ chunk).length = d.length := by
      rw [List.length_append] at hfull ⊢
      have := h.lacks
      omega
    obtain hreact | ⟨w3, _, hpop⟩ := Except.bind_error_iff.mp hread
    · cases hdecode : FreeGrok.decode env d.u64 (got ++ chunk) d.state with
      | more state length u64 =>
        rw [hdecode] at hreact
        cases hreact
      | error code =>
        rw [hdecode] at hreact
        cases hreact
      | message type length buffer =>
        rw [hdecode] at hreact
        refine ⟨type, length, buffer, _, ?_, ?_, (Except.bind_error_iff.mp hreact).resolve_right ?_⟩
        · have hreactions : (FreeGrok.decode env d.u64 (got ++ chunk) d.state).reactions =
              [.message type length (buffer.getD [])] := by
            rw [hdecode]
            rfl
          have hdemand : (FreeGrok.decode env d.u64 (got ++ chunk) d.state).demand =
              (.typeGot, 2, 0) := by
            rw [hdecode]
            rfl
          have hdone := run_done env hfull hreactions hdemand []
          have hnil : ([] : Bytes).length < (frameReader env).need .newMessage := Nat.two_pos
          rw [List.append_nil, Reader.run_short hnil] at hdone
          exact hdone
        · rw [World.view_heard, if_pos rfl]
          exact (View.since_log (a := .recv fd chunk) Action.reactions rfl (w.view fd)).trans
            (List.append_nil _)
        · intro hparts
          obtain ⟨v, _, hnew⟩ := hparts
          cases hnew
    · cases hpop

/-! ### A stream -/

/-- The server reacted as expected, or ended in the `process_message` call of a frame, after
the reactions to the frames before it. -/
def Answered (env : Env) (fd : SockT) (w : World) (expected : List Reaction) :
    Except Fault World → Prop
  | .ok w' => (w'.view fd).since Action.reactions = (w.view fd).since Action.reactions ++ expected
  | .error e => ∃ before type length buffer os v,
      before ++ [.message type length (buffer.getD [])] <+: expected ∧
      (v.view fd).since Action.reactions = (w.view fd).since Action.reactions ++ before ∧
      FreeGrok.processMessage env os type length fd buffer v = .error e

theorem Answered.after {out expected : List Reaction} {result : Except Fault World}
    (hout : (w'.view fd).since Action.reactions = (w.view fd).since Action.reactions ++ out)
    (h : Answered env fd w' expected result) : Answered env fd w (out ++ expected) result := by
  cases result with
  | ok w'' =>
    have h : (w''.view fd).since Action.reactions = _ := h
    rw [hout, List.append_assoc] at h
    exact h
  | error e =>
    obtain ⟨before, type, length, buffer, os, v, hprefix, hsince, hprocess⟩ := h
    refine ⟨out ++ before, type, length, buffer, os, v, ?_, ?_, hprocess⟩
    · rw [List.append_assoc]
      exact (List.prefix_append_right_inj out).mpr hprefix
    · rw [hsince, hout, List.append_assoc]

/-- A stream is read as the reader reads it. -/
theorem Parsing.feeds (h : Parsing w fd d got) (hfd : fd ≠ -1) {stream : Bytes}
    {result : Except Fault World} (hf : Loop.Feeds env fd w stream result) :
    let p := (frameReader env).run d (got ++ stream)
    Answered env fd w p.out result ∧ ∀ w', result = .ok w' → Parsing w' fd p.state p.left := by
  induction hf generalizing d got with
  | done w =>
    have hshort : got.length < (frameReader env).need d := h.lacks
    rw [List.append_nil, Reader.run_short hshort]
    refine ⟨(List.append_nil _).symm, ?_⟩
    intro _ hsame
    cases hsame
    exact h
  | recv hos hne hrecv hread _ ih =>
    obtain ⟨hparsing, hsince⟩ := h.read hfd hos hne hrecv hread
    obtain ⟨hanswered, hok⟩ := ih hparsing
    rw [← List.append_assoc, Reader.run_append]
    exact ⟨hanswered.after hsince, hok⟩
  | fault _ hne hrecv hread =>
    obtain ⟨type, length, buffer, v, hrun, hsince, hprocess⟩ := h.fault hne hrecv hread
    rw [← List.append_assoc, Reader.run_append, hrun]
    exact ⟨⟨[], type, length, buffer, _, v, List.prefix_append .., by simpa using hsince, hprocess⟩,
      nofun⟩

/-- A stream can be read, to its end or to a fault: as much at a time as the reader waits for. -/
theorem Parsing.feeds_exists (h : Parsing w fd d got) (hfd : fd ≠ -1) (stream : Bytes) :
    ∃ result, Loop.Feeds env fd w stream result := by
  induction hlen : stream.length using Nat.strong_induction_on generalizing w d got stream with
  | _ n ih =>
    subst hlen
    by_cases hnil : stream = []
    · subst hnil
      exact ⟨_, .done w⟩
    · have hneed : 0 < d.length - got.length := Nat.sub_pos_of_lt h.lacks
      have hpos : 0 < stream.length := List.length_pos_iff.mpr hnil
      have hchunk : stream.take (d.length - got.length) ≠ [] := by
        rw [← List.length_pos_iff, List.length_take]
        omega
      have hrest : (stream.drop (d.length - got.length)).length < stream.length := by
        rw [List.length_drop]
        omega
      have hos : Os.Fresh w.toRegistry { recv := .data stream } := ⟨.inl rfl, .inl rfl⟩
      have hrecv : Os.tcpRecv { recv := .data stream } (Loop.lacking w fd) =
          some (stream.take (d.length - got.length)) := by
        rw [h.lacking]
        rfl
      rw [← List.take_append_drop (d.length - got.length) stream]
      cases hread : Loop.performReadQueue env { recv := .data stream } fd .freeGrok w with
      | error e => exact ⟨_, .fault hos hchunk hrecv hread⟩
      | ok w' =>
        obtain ⟨hparsing, _⟩ := h.read hfd hos hchunk hrecv hread
        obtain ⟨result, hfeeds⟩ := ih _ hrest hparsing _ rfl
        exact ⟨result, .recv hos hchunk hrecv hread hfeeds⟩

/-! ### From the state that `go_new_message` leaves -/

variable {l : Listeners} {also : Loop.State → Loop.Input → Prop} {s : Loop.State}

theorem Reachable.parsing (h : ReachableIf env l also s)
    (hl : s.world.linkedClients.lookup fd = some .freeGrok)
    (hwaits : (s.world.gatherQueue fd).read = [.read fd .typeGot 2 0 []]) :
    Parsing s.world fd .newMessage [] :=
  ⟨(Reachable.sound h).world, hl, hwaits, Nat.two_pos⟩

/-- **The parser does not depend on segmentation.** However a stream comes in from a main
connection that waits for a new message, the server makes of it what it means: a
`process_message` call or an error reply for each complete frame, each starting right after
the one before. It stops early only where a `process_message` call ends the process. -/
theorem parse_segments (h : ReachableIf env l also s) (hfd : fd ≠ -1)
    (hl : s.world.linkedClients.lookup fd = some .freeGrok)
    (hwaits : (s.world.gatherQueue fd).read = [.read fd .typeGot 2 0 []]) (stream : Bytes) :
    (∃ result, Loop.Feeds env fd s.world stream result) ∧
    ∀ result, Loop.Feeds env fd s.world stream result →
      Answered env fd s.world (Frame.parse env.zstd stream) result := by
  have hparsing := Reachable.parsing h hl hwaits
  refine ⟨hparsing.feeds_exists hfd stream, fun result hfeeds => ?_⟩
  have hanswered := (hparsing.feeds hfd hfeeds).1
  rwa [List.nil_append, run_parse] at hanswered

/-- A stream that comes in these pieces is read. -/
def Loop.Takes (env : Env) (fd : SockT) : World → List Bytes → Prop
  | _, [] => True
  | w, chunk :: rest => chunk ≠ [] ∧ chunk.length ≤ Loop.lacking w fd ∧
      Except.Returns (Loop.performReadQueue env { recv := .data chunk } fd .freeGrok w)
        fun w' => Loop.Takes env fd w' rest

instance Loop.Takes.decidable (env : Env) (fd : SockT) :
    ∀ w chunks, Decidable (Loop.Takes env fd w chunks)
  | _, [] => isTrue trivial
  | w, chunk :: rest =>
    have (w' : World) := Loop.Takes.decidable env fd w' rest
    inferInstanceAs (Decidable (chunk ≠ [] ∧ chunk.length ≤ Loop.lacking w fd ∧
      Except.Returns (Loop.performReadQueue env { recv := .data chunk } fd .freeGrok w)
        fun w' => Loop.Takes env fd w' rest))

theorem Loop.Takes.feeds {chunks : List Bytes} (h : Loop.Takes env fd w chunks) :
    ∃ w', Loop.Feeds env fd w chunks.flatten (.ok w') := by
  induction chunks generalizing w with
  | nil => exact ⟨w, .done w⟩
  | cons chunk rest ih =>
    obtain ⟨hne, hlength, hread⟩ := h
    obtain ⟨w1, hread, htakes⟩ := hread.exists
    obtain ⟨w', hfeeds⟩ := ih htakes
    have hrecv : Os.tcpRecv { recv := .data chunk } (Loop.lacking w fd) = some chunk :=
      congrArg some (List.take_of_length_le hlength)
    exact ⟨w', .recv ⟨.inl rfl, .inl rfl⟩ hne hrecv hread hfeeds⟩

/-- A zstd that writes a run of one byte as its length and the byte, and declines anything else. -/
def Zstd.runs : Zstd where
  compress
    | x :: rest => if rest.length < 255 ∧ rest = List.replicate rest.length x then
        some [UInt8.ofNat (rest.length + 1), x] else none
    | [] => none
  getFrameContentSize
    | [n, _] => .size n.toNat
    | _ => .error
  decompress
    | [n, x], size => if n.toNat ≤ size then some (List.replicate n.toNat x) else none
    | _, _ => none

theorem Zstd.runs_faithful : Zstd.runs.Faithful := by
  have hcompressed {b c : Bytes} (h : Zstd.runs.compress b = some c) : ∃ n x, c = [n, x] ∧
      n.toNat = b.length ∧ b = List.replicate b.length x := by
    cases b with
    | nil => cases h
    | cons x rest =>
      obtain ⟨⟨hlength, hrun⟩, hc⟩ := Option.ite_none_right_eq_some.mp h
      refine ⟨_, x, (Option.some.inj hc).symm, ?_, ?_⟩
      · rw [UInt8.toNat_ofNat', Nat.mod_eq_of_lt (by omega)]
        rfl
      · rw [List.length_cons, List.replicate_succ, ← hrun]
  refine ⟨fun h => ?_, fun h => ?_, rfl⟩
  · obtain ⟨n, x, rfl, hn, _⟩ := hcompressed h
    exact congrArg ContentSize.size hn
  · obtain ⟨n, x, rfl, hn, hrun⟩ := hcompressed h
    rw [hrun, List.length_replicate, ← hn]
    exact if_pos (Nat.le_refl _)

/-- The environment with it. -/
def Env.compressing : Env := { Env.plain [] with zstd := .runs }

/-- A short frame without a payload, a long one, a compressed one and the first byte of another, cut in
two ways. -/
def pings : List (List Bytes) :=
  [[[2], [0], [0, 3], [0, 0], [0], [7, 8], [9], [3, 2], [20], [7], [2]],
    [[2, 0], [0], [3], [0, 0, 0], [7, 8, 9], [3], [2], [20, 7], [2]]]

/-- A main connection, 5, is accepted, and GROK_PING frames come in from it. -/
theorem parse_segments_ping : ∃ s, Reachable .compressing .plain s ∧ ∀ chunks ∈ pings,
    ∃ w', Loop.Feeds .compressing 5 s.world chunks.flatten (.ok w') ∧
      Answered .compressing 5 s.world [.message grokPing 0 [], .message grokPing 3 [7, 8, 9],
        .message grokPing 20 (List.replicate 20 7)] (.ok w') := by
  obtain ⟨s, hs, hl, hwaits, htakes⟩ := ReachableIf.exists_of_run .compressing .plain
    (fun _ _ => True) [.readable 3 0, .accept 5]
    (fun s => s.world.linkedClients.lookup 5 = some .freeGrok ∧
      (s.world.gatherQueue 5).read = [.read 5 .typeGot 2 0 []] ∧
      ∀ chunks ∈ pings, Loop.Takes .compressing 5 s.world chunks)
    (by decide +kernel) (by decide +kernel)
  have hparse : Frame.parse Zstd.runs [2, 0, 0, 3, 0, 0, 0, 7, 8, 9, 3, 2, 20, 7, 2] =
      [.message grokPing 0 [], .message grokPing 3 [7, 8, 9],
        .message grokPing 20 (List.replicate 20 7)] := by
    have hshort : Frame.first Zstd.runs [2, 0, 0, 3, 0, 0, 0, 7, 8, 9, 3, 2, 20, 7, 2] =
        some (.message grokPing 0 [], [0, 3, 0, 0, 0, 7, 8, 9, 3, 2, 20, 7, 2]) := by decide
    have hlong : Frame.first Zstd.runs [0, 3, 0, 0, 0, 7, 8, 9, 3, 2, 20, 7, 2] =
        some (.message grokPing 3 [7, 8, 9], [3, 2, 20, 7, 2]) := by decide
    have hcompressed : Frame.first Zstd.runs [3, 2, 20, 7, 2] =
        some (.message grokPing 20 (List.replicate 20 7), [2]) := by decide
    rw [Frame.parse_some hshort, Frame.parse_some hlong, Frame.parse_some hcompressed,
      Frame.parse_none rfl]
  have hstream : ∀ chunks ∈ pings,
      chunks.flatten = [2, 0, 0, 3, 0, 0, 0, 7, 8, 9, 3, 2, 20, 7, 2] := by decide
  refine ⟨s, hs, fun chunks hchunks => ?_⟩
  obtain ⟨w', hfeeds⟩ := (htakes chunks hchunks).feeds
  have hanswered := (parse_segments hs (by decide) hl hwaits chunks.flatten).2 _ hfeeds
  rw [hstream chunks hchunks] at hanswered
  exact ⟨w', hfeeds, hparse ▸ hanswered⟩

/-! ### What an encoder wrote -/

/-- `FStreamer::send` for each of the messages. -/
def FStreamer.sendAll (env : Env) (target : SockT) (messages : List (UInt8 × Bytes)) (w : World) :
    World :=
  messages.foldl (fun w m => FStreamer.send env target m.1 m.2 w) w

/-- The bytes that the encoder hands to `Loop::send`. -/
theorem FStreamer.queued_sendAll (target : SockT) (messages : List (UInt8 × Bytes)) (w : World) :
    ((FStreamer.sendAll env target messages w).view target).since Action.queuedBytes =
      (w.view target).since Action.queuedBytes ++
        messages.flatMap fun m => FStreamer.frame env m.1 m.2 := by
  unfold sendAll
  induction messages generalizing w with
  | nil => simp
  | cons m rest ih =>
    have hchunks : ((FStreamer.chunks env m.1 m.2).flatMap fun chunk =>
        (Action.queued target chunk).queuedBytes) = FStreamer.frame env m.1 m.2 := by
      simp [Action.queuedBytes, FStreamer.frame, List.flatMap_id']
    rw [List.foldl_cons, ih, World.view_frame, if_pos rfl, View.since_frame, hchunks,
      List.flatMap_cons, ← List.append_assoc]
    simp [Action.queuedBytes]

/-- The reader gets the messages back, and is where it was. -/
theorem run_frames (hz : env.zstd.Faithful) (messages : List (UInt8 × Bytes))
    (hm : ∀ m ∈ messages, m.1 < 64 ∧ m.2.length ≤ maxDecompressedSize) :
    (frameReader env).run .newMessage (messages.flatMap fun m => FStreamer.frame env m.1 m.2) =
      ⟨messages.map fun m => .message m.1 m.2.length m.2, .newMessage, []⟩ := by
  induction messages with
  | nil =>
    have hnil : ([] : Bytes).length < (frameReader env).need .newMessage := Nat.two_pos
    exact Reader.run_short hnil
  | cons m rest ih =>
    obtain ⟨htype, hmax⟩ := hm m (List.mem_cons_self ..)
    have hfound := run_first env (FStreamer.frame env m.1 m.2 ++
      rest.flatMap fun m => FStreamer.frame env m.1 m.2)
    rw [FStreamer.first_frame hz htype hmax] at hfound
    have hfound : (frameReader env).run .newMessage _ = _ := hfound
    rw [List.flatMap_cons, hfound, ih fun m hm' => hm m (List.mem_cons_of_mem _ hm')]
    rfl

/-- **The encoder and the parser agree.** If `FStreamer::send` was called for some messages, and
the bytes it queued come in from a main connection that waits for a new message, however they
are cut, there is one `process_message` call for each message, in order, and the connection
waits for a new message again. -/
theorem parse_frames (hz : env.zstd.Faithful) (h : ReachableIf env l also s) (hfd : fd ≠ -1)
    (hl : s.world.linkedClients.lookup fd = some .freeGrok)
    (hwaits : (s.world.gatherQueue fd).read = [.read fd .typeGot 2 0 []])
    (messages : List (UInt8 × Bytes))
    (hm : ∀ m ∈ messages, m.1 < 64 ∧ m.2.length ≤ maxDecompressedSize)
    (target : SockT) (sender : World) (stream : Bytes)
    (hstream : ((FStreamer.sendAll env target messages sender).view target).since
      Action.queuedBytes = (sender.view target).since Action.queuedBytes ++ stream) :
    (∃ result, Loop.Feeds env fd s.world stream result) ∧
    ∀ result, Loop.Feeds env fd s.world stream result →
      Answered env fd s.world (messages.map fun m => .message m.1 m.2.length m.2) result ∧
      ∀ w', result = .ok w' → (w'.gatherQueue fd).read = [.read fd .typeGot 2 0 []] := by
  have hparsing := Reachable.parsing h hl hwaits
  have hbytes : stream = messages.flatMap fun m => FStreamer.frame env m.1 m.2 := by
    rw [FStreamer.queued_sendAll] at hstream
    exact (List.append_cancel_left hstream).symm
  refine ⟨hparsing.feeds_exists hfd stream, fun result hfeeds => ?_⟩
  obtain ⟨hanswered, hok⟩ := hparsing.feeds hfd hfeeds
  rw [List.nil_append, hbytes, run_frames hz messages hm] at hanswered hok
  exact ⟨hanswered, fun w' hw' => (hok w' hw').waits⟩

/-- A run that the encoder compresses, an empty payload and one that it leaves as it is, cut in pieces. -/
theorem parse_frames_ping : ∃ s w', Reachable .compressing .plain s ∧
    Loop.Feeds .compressing 5 s.world [3, 2, 120, 7, 2, 0, 2, 3, 7, 8, 9] (.ok w') ∧
    Answered .compressing 5 s.world [.message grokPing 120 (List.replicate 120 7),
      .message grokPing 0 [], .message grokPing 3 [7, 8, 9]] (.ok w') := by
  obtain ⟨s, hs, hl, hwaits, htakes⟩ := ReachableIf.exists_of_run .compressing .plain
    (fun _ _ => True) [.readable 3 0, .accept 5]
    (fun s => s.world.linkedClients.lookup 5 = some .freeGrok ∧
      (s.world.gatherQueue 5).read = [.read 5 .typeGot 2 0 []] ∧
      Loop.Takes .compressing 5 s.world [[3], [2], [120], [7], [2, 0], [2, 3], [7, 8], [9]])
    (by decide +kernel) (by decide +kernel)
  obtain ⟨w', hfeeds⟩ := htakes.feeds
  have hparsed := parse_frames Zstd.runs_faithful hs (by decide) hl hwaits
    [(grokPing, List.replicate 120 7), (grokPing, []), (grokPing, [7, 8, 9])] (by decide +kernel) 5
    (World.boot .plain) [3, 2, 120, 7, 2, 0, 2, 3, 7, 8, 9] (by decide +kernel)
  exact ⟨s, w', hs, hfeeds, (hparsed.2 _ hfeeds).1⟩

end

end OpenGrok
