import OpenGrok.Library.Lines
import OpenGrok.Loop.Run
import OpenGrok.Server.Life

/-! The answers of the HTTP interface.

A completed message is answered with a response whose header says how long its body is. An
error of `llhttp_execute` is answered with one whose header does not, so a client cannot
tell where it ends; and since llhttp gives an error again, and a pause for an upgrade as
an error too, it comes with every feed after that. So the answers are what they should be
exactly as long as no feed ends in an error (`answers_delimited`). -/
namespace OpenGrok

/-! ### Responses -/

structure Response where
  lines : List Bytes
  body : Bytes
  deriving DecidableEq

/-- `Content-Length` of a body of `n` bytes. -/
def contentLength (n : Nat) : Bytes := ascii "Content-Length: " ++ ascii (toString n)

namespace Response

/-- The lines of the header, an empty line, and the body. -/
def render (r : Response) : Bytes := Lines.block 13 10 r.lines ++ r.body

/-- Where the response ends is what its header says. -/
structure Delimited (r : Response) : Prop where
  lines : ∀ line ∈ r.lines, Lines.IsLine 13 line
  length : contentLength r.body.length ∈ r.lines

def status (r : Response) : Option Bytes := r.lines.head?

end Response

def statusOk : Bytes := ascii "HTTP/1.1 200 OK"

def statusBadRequest : Bytes := ascii "HTTP/1.1 400 Bad Request"

/-- llhttp's `HPE_PAUSED_UPGRADE`. -/
def hpePausedUpgrade : Nat := 22

/-- The bytes are the answers to a client that completed `completed` messages: a 200 for each,
and then at most one 400, if it sent a malformed message. -/
def Answers (completed : Nat) (malformed : Prop) (queued : Bytes) : Prop :=
  ∃ ok bad : List Response, queued = (ok ++ bad).flatMap Response.render ∧
    (∀ r ∈ ok ++ bad, r.Delimited) ∧ ok.map Response.status = List.replicate completed (some statusOk) ∧
    (∀ r ∈ bad, r.status = some statusBadRequest) ∧ bad.length ≤ 1 ∧ (bad ≠ [] → malformed)

/-! ### What the code answers -/

namespace HttpInterface
variable (env : Env)

/-- What `on_complete` sends. -/
def okResponse : Response where
  lines := [statusOk, ascii "Connection: keep-alive", ascii "Server: Embedded FreeGrok",
    contentLength env.indexPage.length]
  body := env.indexPage

/-- What `on_parse_error` sends. -/
def badResponse : Response where
  lines := [statusBadRequest, ascii "Connection: keep-alive", ascii "Server: Embedded FreeGrok"]
  body := ascii "Bad request" ++ env.indexPage

/-- The responses to one feed. -/
def given (result : List HttpCallback × Nat) : List Response :=
  List.replicate (result.1.count .messageComplete) (okResponse env) ++
    if result.2 ≠ 0 then [badResponse env] else []

end HttpInterface

theorem ascii_append (s s' : String) : ascii (s ++ s') = ascii s ++ ascii s' := by
  simp [ascii]

/-- A digit's byte is the digit's, and no carriage return. -/
theorem digit_byte {c : Char} (h : c.isDigit = true) :
    Char.ofNat (UInt8.ofNat c.toNat).toNat = c ∧ UInt8.ofNat c.toNat ≠ 13 := by
  have hrange : 48 ≤ c.toNat ∧ c.toNat ≤ 57 := by
    simpa [Char.isDigit, UInt32.le_iff_toNat_le] using h
  have hmod : (UInt8.ofNat c.toNat).toNat = c.toNat := by
    rw [UInt8.toNat_ofNat']
    omega
  refine ⟨by rw [hmod, Char.ofNat_toNat], fun heq => ?_⟩
  rw [heq] at hmod
  simp at hmod
  omega

theorem digits_isDigit {n : Nat} {c : Char} (h : c ∈ (toString n).toList) : c.isDigit = true := by
  rw [Nat.toString_eq_repr, Nat.toList_repr] at h
  exact Nat.isDigit_of_mem_toDigits (by decide) (by decide) h

/-- The number can be read off its digits. -/
theorem ascii_digits_inj {m n : Nat} (h : ascii (toString m) = ascii (toString n)) : m = n := by
  have hread (n : Nat) : Nat.ofDigitChars 10
      ((ascii (toString n)).map fun b => Char.ofNat b.toNat) 0 = n := by
    have hchars : ((ascii (toString n)).map fun b => Char.ofNat b.toNat) = (toString n).toList := by
      rw [ascii, List.map_map]
      conv_rhs => rw [← List.map_id (toString n).toList]
      exact List.map_congr_left fun c hc => (digit_byte (digits_isDigit hc)).1
    rw [hchars, Nat.toString_eq_repr, Nat.toList_repr, Nat.ofDigitChars_ten_toDigits]
  rw [← hread m, h, hread n]

theorem contentLength_inj {m n : Nat} (h : contentLength m = contentLength n) : m = n :=
  ascii_digits_inj (List.append_cancel_left h)

theorem contentLength_front (n : Nat) : (contentLength n).take 16 = ascii "Content-Length: " := by
  rw [contentLength, List.take_append_of_le_length (by decide +kernel)]
  decide +kernel

theorem contentLength_line (n : Nat) : Lines.IsLine 13 (contentLength n) := by
  refine ⟨fun h => ?_, fun h => ?_⟩
  · have hfront := contentLength_front n
    rw [h] at hfront
    exact absurd hfront (by decide +kernel)
  · rcases List.mem_append.mp h with h | h
    · exact absurd h (by decide +kernel)
    · obtain ⟨c, hc, heq⟩ := List.mem_map.mp h
      exact (digit_byte (digits_isDigit hc)).2 heq

/-! ### Which responses are delimited -/

section
variable {env : Env}

theorem statusLines : Lines.IsLine 13 statusOk ∧ Lines.IsLine 13 statusBadRequest ∧
    Lines.IsLine 13 (ascii "Connection: keep-alive") ∧
    Lines.IsLine 13 (ascii "Server: Embedded FreeGrok") := by
  unfold Lines.IsLine
  decide +kernel

theorem contentLength_ne (n : Nat) : contentLength n ≠ statusOk ∧ contentLength n ≠ statusBadRequest ∧
    contentLength n ≠ ascii "Connection: keep-alive" ∧
    contentLength n ≠ ascii "Server: Embedded FreeGrok" := by
  have hfront := contentLength_front n
  refine ⟨?_, ?_, ?_, ?_⟩ <;>
  · intro h
    rw [h] at hfront
    exact absurd hfront (by decide +kernel)

open HttpInterface

theorem okResponse_delimited : (okResponse env).Delimited where
  lines := by
    obtain ⟨hok, _, hconnection, hserver⟩ := statusLines
    simp [okResponse, hok, hconnection, hserver, contentLength_line]
  length := by simp [okResponse]

theorem badResponse_lines : ∀ line ∈ (badResponse env).lines, Lines.IsLine 13 line := by
  obtain ⟨_, hbad, hconnection, hserver⟩ := statusLines
  simp [badResponse, hbad, hconnection, hserver]

/-- Only the 200 response says how long it is, and it is all that a text which starts with it can
start with. -/
theorem delimited_front {r r' : Response} {text text' : Bytes}
    (hr : r = okResponse env ∨ r = badResponse env) (hr' : r'.Delimited)
    (h : r.render ++ text = r'.render ++ text') : r = okResponse env ∧ r' = r ∧ text = text' := by
  obtain ⟨hok, hbad, hconnection, hserver⟩ := contentLength_ne r'.body.length
  have hlines : ∀ line ∈ r.lines, Lines.IsLine 13 line := by
    rcases hr with rfl | rfl
    · exact okResponse_delimited.lines
    · exact badResponse_lines
  simp only [Response.render, List.append_assoc] at h
  obtain ⟨hsame, hbody⟩ := Lines.block_inj hlines hr'.lines h
  have hlength := hr'.length
  rw [← hsame] at hlength
  rcases hr with rfl | rfl
  · simp only [okResponse, List.mem_cons, hok, hconnection, hserver, false_or, List.not_mem_nil,
      or_false] at hlength
    obtain ⟨hbody, htext⟩ := List.append_inj hbody (contentLength_inj hlength).symm
    refine ⟨rfl, ?_, htext⟩
    cases r'
    cases hsame
    cases hbody
    rfl
  · simp [badResponse, hbad, hconnection, hserver] at hlength

theorem render_ne_nil (r : Response) : r.render ≠ [] := by
  simp [Response.render, Lines.block]

/-- Delimited responses that make up what the code answered are all 200. -/
theorem no_bad {given delimited : List Response}
    (hgiven : ∀ r ∈ given, r = okResponse env ∨ r = badResponse env)
    (hdelimited : ∀ r ∈ delimited, r.Delimited)
    (h : given.flatMap Response.render = delimited.flatMap Response.render) :
    ∀ r ∈ given, r = okResponse env := by
  induction given generalizing delimited with
  | nil => simp
  | cons r rest ih =>
    cases delimited with
    | nil =>
      rw [List.flatMap_cons, List.flatMap_nil] at h
      exact absurd (List.append_eq_nil_iff.mp h).1 (render_ne_nil r)
    | cons r' rest' =>
      rw [List.flatMap_cons, List.flatMap_cons] at h
      obtain ⟨hok, _, htext⟩ := delimited_front (hgiven r (List.mem_cons_self ..))
        (hdelimited r' (List.mem_cons_self ..)) h
      intro r'' hr''
      rcases List.mem_cons.mp hr'' with rfl | hr''
      · exact hok
      · exact ih (fun x hx => hgiven x (List.mem_cons_of_mem _ hx))
          (fun x hx => hdelimited x (List.mem_cons_of_mem _ hx)) htext r'' hr''

theorem given_cases {result : List HttpCallback × Nat} {r : Response} (h : r ∈ given env result) :
    r = okResponse env ∨ r = badResponse env := by
  rcases List.mem_append.mp h with h | h
  · exact .inl (List.eq_of_mem_replicate h)
  · split at h
    · exact .inr (List.mem_singleton.mp h)
    · cases h

theorem bad_ne_ok : badResponse env ≠ okResponse env := by
  intro h
  have hlines := congrArg (fun r => r.lines.length) h
  simp [badResponse, okResponse] at hlines

/-- **The answers are what they should be if and only if no feed ended in an error.** -/
theorem answers_iff (results : List (List HttpCallback × Nat)) (malformed : Prop) :
    Answers ((results.flatMap Prod.fst).count .messageComplete) malformed
        ((results.flatMap (given env)).flatMap Response.render) ↔
      ∀ result ∈ results, result.2 = 0 := by
  constructor
  · intro ⟨ok, bad, hqueued, hdelimited, _⟩ result hresult
    by_contra herr
    have hall := no_bad (fun r hr => by
      obtain ⟨result, _, hr⟩ := List.mem_flatMap.mp hr
      exact given_cases hr) hdelimited hqueued
    refine bad_ne_ok (hall (badResponse env) (List.mem_flatMap.mpr ⟨result, hresult, ?_⟩))
    simp [given, herr]
  · intro herr
    have hgiven : results.flatMap (given env) =
        List.replicate ((results.flatMap Prod.fst).count .messageComplete) (okResponse env) := by
      induction results with
      | nil => rfl
      | cons result rest ih =>
        have hzero := herr result (List.mem_cons_self ..)
        rw [List.flatMap_cons, ih fun r hr => herr r (List.mem_cons_of_mem _ hr), List.flatMap_cons,
          List.count_append, List.replicate_add]
        simp [given, hzero]
    rw [hgiven]
    refine ⟨_, [], by rw [List.append_nil], ?_, ?_, nofun, by simp, fun h => absurd rfl h⟩
    · intro r hr
      rw [List.append_nil] at hr
      rw [List.eq_of_mem_replicate hr]
      exact okResponse_delimited
    · rw [List.map_replicate]
      rfl

end

/-! ### What is queued for the client -/

/-- What `Loop::send` was given in the actions, the newest first. -/
def queuedIn (actions : List Action) : Bytes := actions.reverse.flatMap Action.queuedBytes

/-- The bytes were queued for the descriptor on the way from one world to the other. -/
def Sends (fd : SockT) (bytes : Bytes) (w w' : World) : Prop :=
  ∃ news, (w'.view fd).history = news ++ (w.view fd).history ∧ queuedIn news = bytes

/-- The buffers are fed to the parser, one after the other. -/
def StreamingParser.feeds (env : Env) : List Bytes → StreamingParser × World → StreamingParser × World
  | [], state => state
  | buffer :: rest, state => feeds env rest (state.1.feed env buffer state.2)

section
variable {env : Env} {fd : SockT} {w w' w'' : World}

theorem Sends.refl : Sends fd [] w w := ⟨[], rfl, rfl⟩

theorem Sends.trans {bytes bytes' : Bytes} (h : Sends fd bytes w w')
    (h' : Sends fd bytes' w' w'') : Sends fd (bytes ++ bytes') w w'' := by
  obtain ⟨news, hhistory, rfl⟩ := h
  obtain ⟨news', hhistory', rfl⟩ := h'
  refine ⟨news' ++ news, by rw [hhistory', hhistory, List.append_assoc], ?_⟩
  simp [queuedIn]

theorem Sends.send (fd : SockT) (bytes : Bytes) (w : World) :
    Sends fd bytes w (Loop.send fd bytes w) := by
  refine ⟨[.queued fd bytes], ?_, ?_⟩
  · rw [World.view_send, if_pos rfl, View.send_eq]
    rfl
  · simp [queuedIn, Action.queuedBytes]

open HttpInterface

theorem onComplete_queues (fd : SockT) (w : World) :
    Sends fd (okResponse env).render w (onComplete env fd w) := by
  have hsends := ((Sends.send fd
    (ascii "HTTP/1.1 200 OK\r\nConnection: keep-alive\r\nServer: Embedded FreeGrok\r\n") w).trans
    (Sends.send fd (ascii ("Content-Length: " ++ toString env.indexPage.length ++ "\r\n\r\n")) _)).trans
    (Sends.send fd env.indexPage _)
  have hlines : ascii "HTTP/1.1 200 OK\r\nConnection: keep-alive\r\nServer: Embedded FreeGrok\r\n" =
      statusOk ++ [13, 10] ++ (ascii "Connection: keep-alive" ++ [13, 10]) ++
        (ascii "Server: Embedded FreeGrok" ++ [13, 10]) := by decide +kernel
  have hend : ascii "\r\n\r\n" = [13, 10, 13, 10] := by decide +kernel
  have hrender : (okResponse env).render = ascii
      "HTTP/1.1 200 OK\r\nConnection: keep-alive\r\nServer: Embedded FreeGrok\r\n" ++
      ascii ("Content-Length: " ++ toString env.indexPage.length ++ "\r\n\r\n") ++ env.indexPage := by
    rw [hlines, ascii_append, ascii_append, hend]
    simp [Response.render, okResponse, Lines.block, contentLength]
  rw [hrender]
  exact hsends

theorem onParseError_queues (fd : SockT) (w : World) :
    Sends fd (badResponse env).render w (onParseError env fd w) := by
  have hsends := (Sends.send fd (ascii ("HTTP/1.1 400 Bad Request\r\nConnection: keep-alive\r\n" ++
    "Server: Embedded FreeGrok\r\n\r\nBad request")) w).trans (Sends.send fd env.indexPage _)
  have hheader : ascii ("HTTP/1.1 400 Bad Request\r\nConnection: keep-alive\r\n" ++
      "Server: Embedded FreeGrok\r\n\r\nBad request") =
      Lines.block 13 10 (badResponse env).lines ++ ascii "Bad request" := by
    show _ = Lines.block 13 10 [statusBadRequest, ascii "Connection: keep-alive",
      ascii "Server: Embedded FreeGrok"] ++ ascii "Bad request"
    decide +kernel
  rw [hheader, List.append_assoc] at hsends
  exact hsends

/-- The callbacks of one feed queue a response for each message they complete. -/
theorem callbacks_queues (callbacks : List HttpCallback) (state : StreamingParser × World) :
    Sends state.1.u64 ((List.replicate (callbacks.count .messageComplete) (okResponse env)).flatMap
        Response.render) state.2 (callbacks.foldl (StreamingParser.callback env) state).2 ∧
      (callbacks.foldl (StreamingParser.callback env) state).1.u64 = state.1.u64 := by
  induction callbacks generalizing state with
  | nil => exact ⟨.refl, rfl⟩
  | cons c rest ih =>
    rw [List.foldl_cons]
    cases c with
    | headerField name => exact ih (StreamingParser.callback env state (.headerField name))
    | headerValue value => exact ih (StreamingParser.callback env state (.headerValue value))
    | body bytes => exact ih state
    | messageComplete =>
      obtain ⟨hrest, hu⟩ := ih (StreamingParser.callback env state .messageComplete)
      refine ⟨?_, hu⟩
      rw [List.count_cons_self, List.replicate_succ, List.flatMap_cons]
      exact (onComplete_queues state.1.u64 state.2).trans hrest

theorem feed_fed (parser : StreamingParser) (buffer : Bytes) (w : World) :
    (parser.feed env buffer w).1.fed = parser.fed ++ [buffer] := by
  have hcallbacks (callbacks : List HttpCallback) (state : StreamingParser × World) :
      (callbacks.foldl (StreamingParser.callback env) state).1.fed = state.1.fed := by
    induction callbacks generalizing state with
    | nil => rfl
    | cons c rest ih =>
      rw [List.foldl_cons, ih]
      cases c <;> rfl
  have h := hcallbacks (env.llhttpExecute parser.fed buffer).1
    ({ parser with fed := parser.fed ++ [buffer] }, w)
  unfold StreamingParser.feed
  dsimp only
  split <;> exact h

/-- One feed queues what is given for its result. -/
theorem feed_queues (parser : StreamingParser) (buffer : Bytes) (w : World) :
    Sends parser.u64 ((given env (env.llhttpExecute parser.fed buffer)).flatMap Response.render) w
        (parser.feed env buffer w).2 ∧
      (parser.feed env buffer w).1.u64 = parser.u64 := by
  unfold StreamingParser.feed given
  generalize env.llhttpExecute parser.fed buffer = result
  obtain ⟨callbacks, err⟩ := result
  obtain ⟨hqueues, hu⟩ := @callbacks_queues env callbacks
    ({ parser with fed := parser.fed ++ [buffer] }, w)
  dsimp only
  generalize callbacks.foldl (StreamingParser.callback env)
    ({ parser with fed := parser.fed ++ [buffer] }, w) = state at hqueues hu ⊢
  obtain ⟨parser', w'⟩ := state
  dsimp only at hqueues hu ⊢
  rw [List.flatMap_append]
  split
  · refine ⟨?_, hu⟩
    rw [List.flatMap_singleton, hu]
    exact hqueues.trans (onParseError_queues _ _)
  · rw [List.flatMap_nil, List.append_nil]
    exact ⟨hqueues, hu⟩

/-- Feeding the buffers queues what is given for their results, in order. -/
theorem feeds_queues (buffers : List Bytes) (parser : StreamingParser) (w : World) :
    Sends parser.u64 (((StreamingParser.results env parser.fed buffers).flatMap (given env)).flatMap
      Response.render) w (StreamingParser.feeds env buffers (parser, w)).2 := by
  induction buffers generalizing parser w with
  | nil => exact .refl
  | cons buffer rest ih =>
    obtain ⟨hfirst, hu⟩ := @feed_queues env parser buffer w
    have hrest := ih (parser.feed env buffer w).1 (parser.feed env buffer w).2
    rw [hu, feed_fed] at hrest
    rw [StreamingParser.results, List.flatMap_cons, List.flatMap_append]
    exact hfirst.trans hrest

/-- A feed of bytes that are malformed, and not a pause for an upgrade. -/
def Malformed (results : List (List HttpCallback × Nat)) : Prop :=
  ∃ result ∈ results, result.2 ≠ 0 ∧ result.2 ≠ hpePausedUpgrade

/-- **A client's messages are answered once each, with responses that say where they end, if and
only if no feed ends in an error.** Whatever the client sends and however it is cut into
feeds, the parser queues answers for it; they are what they should be exactly when
`llhttp_execute` returned `HPE_OK` each time. -/
theorem answers_delimited (env : Env) (buffers : List Bytes) (parser : StreamingParser) (w : World) :
    ∃ queued, Sends parser.u64 queued w (StreamingParser.feeds env buffers (parser, w)).2 ∧
      (Answers (((StreamingParser.results env parser.fed buffers).flatMap Prod.fst).count
          .messageComplete) (Malformed (StreamingParser.results env parser.fed buffers)) queued ↔
        ∀ result ∈ StreamingParser.results env parser.fed buffers, result.2 = 0) :=
  ⟨_, feeds_queues buffers parser w, answers_iff _ _⟩

/-- llhttp, for a request that asks for an upgrade: it completes the message and then pauses. -/
def Env.upgraded : Env :=
  { Env.plain [] with llhttpExecute := fun _ _ => ([.messageComplete], hpePausedUpgrade) }

/-- Such a request is answered twice, and the second answer does not say where it ends. -/
theorem answers_upgrade : ∃ queued,
    Sends 7 queued (World.boot .plain) (StreamingParser.feeds .upgraded
      [ascii "GET / HTTP/1.1\r\nConnection: upgrade\r\nUpgrade: h2c\r\n\r\n"]
      ({ u64 := 7 }, World.boot .plain)).2 ∧
    queued = (okResponse .upgraded).render ++ (badResponse .upgraded).render ∧
    ∀ malformed, ¬Answers 1 malformed queued := by
  refine ⟨_, feeds_queues _ _ _, ?_, fun malformed h => ?_⟩
  · decide +kernel
  · have herr := (answers_iff _ malformed).mp h
    exact absurd (herr _ (List.mem_singleton_self _)) (by decide)

end

end OpenGrok
