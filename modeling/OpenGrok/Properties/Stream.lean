import OpenGrok.Loop.Faults
import OpenGrok.Loop.Handle

/-! The write queue is a byte stream.

`Loop::send` merges into an item that may have been sent in part, and each
`perform_write_queue` takes some bytes off its front. Whatever the calls are and however
they interleave, over all descriptors, what a socket accepted and what its queue still
holds make up what `send` was given, in order (`write_stream`). `Poured` is the invariant,
and it says more: the item in the queue always has a byte left to send. -/
namespace OpenGrok

/-- A call that touches a write queue. -/
inductive WriteCall where
  | send (fd : SockT) (buffer : Bytes)
  | performWriteQueue (fd : SockT) (os : Os)

namespace WriteCall

def apply (w : World) : WriteCall → Except Fault World
  | .send fd buffer => return Loop.send fd buffer w
  | .performWriteQueue fd os => Loop.performWriteQueue os fd w

/-- A buffer is not empty, and what is queued is offered to a socket that takes a byte at
least; `tcpSend` is then any number up to what was offered. -/
def Proper (w : World) : WriteCall → Prop
  | .send _ buffer => buffer ≠ []
  | .performWriteQueue fd os => (w.gatherQueue fd).write ≠ [] ∧ 0 < os.send

instance (w : World) : ∀ call, Decidable (Proper w call)
  | .send _ buffer => inferInstanceAs (Decidable (buffer ≠ []))
  | .performWriteQueue fd os =>
    inferInstanceAs (Decidable ((w.gatherQueue fd).write ≠ [] ∧ 0 < os.send))

/-- What the call passes to `send` for the descriptor. -/
def handed (x : SockT) : WriteCall → Bytes
  | .send fd buffer => if fd = x then buffer else []
  | .performWriteQueue _ _ => []

/-- What `tcp_send` takes of what is queued for the descriptor. -/
def taken (x : SockT) (w : World) : WriteCall → Bytes
  | .send _ _ => []
  | .performWriteQueue fd os =>
    if fd = x then ((w.gatherQueue x).write.flatMap WriteItem.unsent).take os.send.toNat else []

/-- What it takes in all the calls. -/
def takenAll (x : SockT) : World → List WriteCall → Bytes
  | _, [] => []
  | w, call :: rest => call.taken x w ++
    match call.apply w with
    | .ok w' => takenAll x w' rest
    | .error _ => []

end WriteCall

/-- What the socket accepted in the actions, the newest first. -/
def accepted (actions : List Action) : Bytes := actions.reverse.flatMap Action.sent

/-- The bytes of the queue that the socket has not taken. -/
def View.unsent (v : View) : Bytes := v.queues.write.flatMap WriteItem.unsent

/-- Since `before`, the descriptor was handed the bytes: what was taken is the front of them, and
the rest is queued, in one item that is not sent to its end. -/
structure View.Poured (before : List Action) (taken handed : Bytes) (v : View) : Prop where
  logged : ∃ news, v.history = news ++ before ∧ accepted news = taken
  stream : taken ++ v.unsent = handed
  items : v.queues.write = [] ∨ ∃ item, v.queues.write = [item] ∧ item.sent < item.buffer.length

theorem accepted_cons (a : Action) (news : List Action) :
    accepted (a :: news) = accepted news ++ a.sent := by
  simp [accepted]

section
variable {x : SockT} {before : List Action} {taken handed : Bytes} {v : View} {w : World}

/-- `Loop::send` adds to the end of the stream, be the queue empty or its item sent in part. -/
theorem View.Poured.send (h : v.Poured before taken handed) {buffer : Bytes} (hne : buffer ≠ []) :
    (v.send x buffer).Poured before taken (handed ++ buffer) := by
  obtain ⟨news, hnews, htaken⟩ := h.logged
  have hpos := List.length_pos_of_ne_nil hne
  have hlogged : accepted (.queued x buffer :: news) = taken := by
    rw [accepted_cons, htaken]
    exact List.append_nil _
  rw [View.send_eq]
  rcases h.items with hnil | ⟨item, hitem, hlt⟩
  · refine ⟨⟨.queued x buffer :: news, by simp [hnews], hlogged⟩, ?_,
      .inr ⟨⟨buffer, 0⟩, by simp [hnil], hpos⟩⟩
    rw [← h.stream]
    simp [View.unsent, WriteItem.unsent, hnil]
  · have hmerge := item.unsent_merge buffer (Nat.le_of_lt hlt)
    refine ⟨⟨.queued x buffer :: news, by simp [hnews], hlogged⟩, ?_,
      .inr ⟨item.mergeBuffers buffer, by simp [hitem], ?_⟩⟩
    · rw [← h.stream]
      simp [View.unsent, hitem, hmerge]
    · simp only [WriteItem.mergeBuffers, List.length_append]
      omega

/-- `perform_write_queue` moves bytes from the front of the queue to the socket. -/
theorem View.Poured.wrote (h : v.Poured before taken handed) {item : WriteItem} {n : Nat}
    (hq : v.queues.write = [item]) :
    (v.wrote x item [] n).Poured before (taken ++ item.unsent.take n) handed := by
  obtain ⟨news, hnews, htaken⟩ := h.logged
  have hsplit := item.unsent_take n
  have hlogged : accepted (.send x (item.unsent.take n) :: news) = taken ++ item.unsent.take n := by
    rw [accepted_cons, htaken]
    rfl
  rw [View.wrote_eq]
  by_cases hdone : item.sent + n ≥ item.buffer.length
  · rw [List.drop_eq_nil_of_le hdone, List.append_nil] at hsplit
    refine ⟨⟨.send x (item.unsent.take n) :: news, by simp [hnews], hlogged⟩, ?_,
      .inl (by simp [hdone])⟩
    rw [← h.stream]
    simp [View.unsent, hq, hdone, ← hsplit]
  · refine ⟨⟨.send x (item.unsent.take n) :: news, by simp [hnews], hlogged⟩, ?_,
      .inr ⟨{ item with sent := item.sent + n }, by simp [hdone], Nat.lt_of_not_ge hdone⟩⟩
    rw [← h.stream, List.append_assoc]
    simp only [View.unsent, hq, hdone, if_false, List.flatMap_singleton]
    exact congrArg _ hsplit.symm

/-- One call. -/
theorem View.Poured.apply (h : (w.view x).Poured before taken handed) {call : WriteCall}
    (hcall : call.Proper w) : ∃ w', call.apply w = .ok w' ∧
      (w'.view x).Poured before (taken ++ call.taken x w) (handed ++ call.handed x) := by
  cases call with
  | send fd buffer =>
    refine ⟨_, rfl, ?_⟩
    rw [World.view_send]
    by_cases he : x = fd
    · subst he
      simpa [WriteCall.handed, WriteCall.taken] using h.send (x := x) hcall
    · simpa [WriteCall.handed, WriteCall.taken, he, Ne.symm he] using h
  | performWriteQueue fd os =>
    obtain ⟨hqueued, hpos⟩ := hcall
    obtain ⟨w', hw'⟩ := Loop.performWriteQueue_ok os hqueued
    refine ⟨w', hw', ?_⟩
    simp only [WriteCall.handed, WriteCall.taken, List.append_nil]
    by_cases he : x = fd
    · subst he
      obtain ⟨item, hitem, hlt⟩ := h.items.resolve_left hqueued
      -- the socket is offered a byte and takes one
      have hsend : os.tcpSend (item.buffer.length - item.sent) =
          min os.send (item.buffer.length - item.sent : Nat) := if_neg (by omega)
      have hqueue : (w.gatherQueue x).write = [item] := hitem
      obtain ⟨front, rest, hq, hcases⟩ := performWriteQueue_spec hw'
      obtain ⟨rfl, rfl⟩ := List.cons.inj (hq.symm.trans hitem)
      obtain ⟨hfail, _⟩ | ⟨_, rfl⟩ := hcases
      · rw [hsend] at hfail
        omega
      · have htake : front.unsent.take (os.tcpSend (front.buffer.length - front.sent)).toNat =
            front.unsent.take os.send.toNat := by
          have hlength : front.unsent.length = front.buffer.length - front.sent := List.length_drop
          rw [hsend, ← hlength]
          rcases Int.le_total os.send front.unsent.length with hle | hle
          · rw [Int.min_eq_left hle]
          · rw [Int.min_eq_right hle, Int.toNat_natCast, List.take_length,
              List.take_of_length_le (Int.le_toNat (by omega) |>.mpr hle)]
        rw [World.view_wrote, if_pos rfl, if_pos rfl, hqueue, List.flatMap_singleton, ← htake]
        exact h.wrote hitem
    · rw [(performWriteQueue_frame hw').2 x he, if_neg (Ne.symm he), List.append_nil]
      exact h

/-- **The write queue is a faithful byte stream.** From a state in which nothing is queued for a
descriptor, any sequence of calls, for this and other descriptors, returns; what its socket
accepted, which is what `tcp_send` took in each call, followed by what is not sent yet, is what
`send` was given for it, in order, and the queue holds one item at most. -/
theorem write_stream {calls : List WriteCall} (hempty : (w.gatherQueue x).write = [])
    (hcalls : Permitted WriteCall.apply WriteCall.Proper w calls) :
    ∃ w' news, run WriteCall.apply w calls = .ok w' ∧
      (w'.view x).history = news ++ (w.view x).history ∧
      accepted news = WriteCall.takenAll x w calls ∧
      accepted news ++ (w'.gatherQueue x).write.flatMap WriteItem.unsent =
        calls.flatMap (WriteCall.handed x) ∧
      (w'.gatherQueue x).write.length ≤ 1 := by
  have hrun (calls : List WriteCall) : ∀ v before taken given,
      (World.view v x).Poured before taken given → Permitted WriteCall.apply WriteCall.Proper v calls →
      ∃ w', run WriteCall.apply v calls = .ok w' ∧ (w'.view x).Poured before
        (taken ++ WriteCall.takenAll x v calls) (given ++ calls.flatMap (WriteCall.handed x)) := by
    induction calls with
    | nil =>
      intro v before taken given h _
      exact ⟨v, rfl, by simpa [WriteCall.takenAll] using h⟩
    | cons call rest ih =>
      intro v before taken given h hcalls
      obtain ⟨hcall, hrest⟩ := hcalls
      obtain ⟨v', hv', h'⟩ := h.apply hcall
      rw [hv'] at hrest
      obtain ⟨w', hw', h''⟩ := ih v' before _ _ h' hrest
      refine ⟨w', ?_, ?_⟩
      · rw [run, hv']
        exact hw'
      · rw [WriteCall.takenAll, hv', List.flatMap_cons, ← List.append_assoc, ← List.append_assoc]
        exact h''
  have hstart : (w.view x).Poured (w.view x).history [] [] := by
    have hwrite : (w.view x).queues.write = [] := hempty
    exact ⟨⟨[], rfl, rfl⟩, by simp [View.unsent, hwrite], .inl hwrite⟩
  obtain ⟨w', hw', hpoured⟩ := hrun calls w _ _ _ hstart hcalls
  obtain ⟨news, hnews, htaken⟩ := hpoured.logged
  refine ⟨w', news, hw', hnews, htaken, ?_, ?_⟩
  · rw [htaken]
    exact hpoured.stream
  · show (w'.view x).queues.write.length ≤ 1
    rcases hpoured.items with hnil | ⟨item, hitem, _⟩
    · simp [hnil]
    · simp [hitem]

/-- Two buffers of which the first is sent in part when the second is merged into it. -/
theorem write_stream_merged : ∃ w' news,
    run WriteCall.apply (World.boot .plain) [.send 5 [1, 2, 3], .performWriteQueue 5 { send := 2 },
      .send 5 [4], .performWriteQueue 5 { send := 1 }] = .ok w' ∧
      (w'.view 5).history = news ++ (World.view (World.boot .plain) 5).history ∧
      accepted news = [1, 2, 3] ∧
      accepted news ++ (w'.gatherQueue 5).write.flatMap WriteItem.unsent = [1, 2, 3, 4] ∧
      (w'.gatherQueue 5).write.length ≤ 1 :=
  write_stream (x := 5) (by decide) (by decide +kernel)

end

end OpenGrok
