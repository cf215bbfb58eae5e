import OpenGrok.Loop.Run

/-! Headers and segmentation.

llhttp reports a name or a value in as many spans as the feeds cut it into. The parser
keeps the last span of a name and writes each span of a value as if it were the whole:
the first under what it kept of the name, and the rest under the empty name. A message
is therefore understood when no value is cut and no cut name is lost to it
(`Message.Intact`), and every message fed in one piece is. -/
namespace OpenGrok

/-! ### What llhttp reports -/

/-- A header, as the spans of its name and of its value. -/
structure Header where
  nameSpans : List Bytes
  valueSpans : List Bytes
  name_ne : nameSpans ≠ []
  value_ne : valueSpans ≠ []
  named : nameSpans.flatten ≠ []

namespace Header

def name (h : Header) : Bytes := h.nameSpans.flatten

def value (h : Header) : Bytes := h.valueSpans.flatten

/-- The last span of the name. -/
def kept (h : Header) : Bytes := h.nameSpans.getLast h.name_ne

def callbacks (h : Header) : List HttpCallback :=
  h.nameSpans.map .headerField ++ h.valueSpans.map .headerValue

/-- The header as it is reported when nothing cuts it. -/
def joined (h : Header) : Header where
  nameSpans := [h.name]
  valueSpans := [h.value]
  name_ne := nofun
  value_ne := nofun
  named := by
    rw [List.flatten_singleton]
    exact h.named

/-- What the parser writes into its table. -/
def written (h : Header) : List (Bytes × Bytes) :=
  (h.kept, h.valueSpans.head h.value_ne) :: h.valueSpans.tail.map fun span => ([], span)

end Header

/-- What a message is made of, in the order of its bytes; trailers are headers too. -/
inductive Part where
  | header (h : Header)
  | body (b : Bytes)

def Part.callbacks : Part → List HttpCallback
  | .header h => h.callbacks
  | .body b => [.body b]

def Part.header? : Part → Option Header
  | .header h => some h
  | .body _ => none

def Part.joined : Part → Part
  | .header h => .header h.joined
  | .body b => .body b

structure Message where
  parts : List Part

namespace Message

def headers (m : Message) : List Header := m.parts.filterMap Part.header?

def callbacks (m : Message) : List HttpCallback :=
  m.parts.flatMap Part.callbacks ++ [.messageComplete]

/-- The message as it is reported when it is fed in one piece. -/
def joined (m : Message) : Message := ⟨m.parts.map Part.joined⟩

/-- What the header's name maps to: its value, the last one if it is repeated. -/
def meant (m : Message) (k : Bytes) : Option Bytes :=
  Table.last (m.headers.map fun h => (h.name, h.value)) k

/-- No value is cut; what is kept of a cut name is the name of some header; and the last header
kept under a name has the value of the last header of that name. -/
structure Intact (m : Message) : Prop where
  values : ∀ h ∈ m.headers, h.valueSpans.length = 1
  names : ∀ h ∈ m.headers, ∃ h' ∈ m.headers, h'.name = h.kept
  last : ∀ h ∈ m.headers, Table.last (m.headers.map fun h' => (h'.kept, h'.value)) h.name =
    Table.last (m.headers.map fun h' => (h'.name, h'.value)) h.name

end Message

/-! ### What the parser hears -/

namespace StreamingParser

/-- What a callback does to the parser. -/
def hear (parser : StreamingParser) : HttpCallback → StreamingParser
  | .headerField h => parser.onHeaderField h
  | .headerValue h => parser.onHeaderValue h
  | .body _ => parser
  | .messageComplete => { parser with headers := ∅ }

/-- The headers that `on_complete` sees, message by message. -/
def seen (env : Env) : List HttpCallback → StreamingParser × World → List (Table Bytes Bytes)
  | [], _ => []
  | c :: rest, state =>
    (if c = .messageComplete then [state.1.headers] else []) ++ seen env rest (callback env state c)

/-- The headers that `on_complete` sees while the buffers are fed. -/
def seenBy (env : Env) : List Bytes → StreamingParser → World → List (Table Bytes Bytes)
  | [], _, _ => []
  | buffer :: rest, parser, w =>
    seen env (env.llhttpExecute parser.fed buffer).1
        ({ parser with fed := parser.fed ++ [buffer] }, w) ++
      seenBy env rest (parser.feed env buffer w).1 (parser.feed env buffer w).2

/-- What llhttp reports while the buffers are fed. -/
def reported (env : Env) (fed buffers : List Bytes) : List HttpCallback :=
  (results env fed buffers).flatMap Prod.fst

theorem reported_cons (env : Env) (fed : List Bytes) (buffer : Bytes) (rest : List Bytes) :
    reported env fed (buffer :: rest) =
      (env.llhttpExecute fed buffer).1 ++ reported env (fed ++ [buffer]) rest := by
  rw [reported, results, List.flatMap_cons, reported]

/-- `seen`, of the parser's own state. -/
def complete : StreamingParser → List HttpCallback → List (Table Bytes Bytes)
  | _, [] => []
  | parser, c :: rest =>
    (if c = .messageComplete then [parser.headers] else []) ++ complete (parser.hear c) rest

section
variable {env : Env} {parser : StreamingParser} {w : World}

theorem callback_fst (state : StreamingParser × World) (c : HttpCallback) :
    (callback env state c).1 = state.1.hear c := by
  cases c <;> rfl

theorem seen_eq (callbacks : List HttpCallback) (state : StreamingParser × World) :
    seen env callbacks state = state.1.complete callbacks := by
  induction callbacks generalizing state with
  | nil => rfl
  | cons c rest ih => rw [seen, complete, ih, callback_fst]

theorem complete_append (first second : List HttpCallback) :
    parser.complete (first ++ second) =
      parser.complete first ++ (first.foldl hear parser).complete second := by
  induction first generalizing parser with
  | nil => rfl
  | cons c rest ih => rw [List.cons_append, complete, complete, ih, List.foldl_cons, List.append_assoc]

theorem hear_fed (fed : List Bytes) (c : HttpCallback) :
    hear { parser with fed := fed } c = { parser.hear c with fed := fed } := by
  cases c <;> rfl

/-- What the parser was fed is llhttp's business. -/
theorem complete_fed (parser : StreamingParser) (fed : List Bytes) (callbacks : List HttpCallback) :
    complete { parser with fed := fed } callbacks = parser.complete callbacks := by
  induction callbacks generalizing parser with
  | nil => rfl
  | cons c rest ih => rw [complete, complete, hear_fed, ih]

theorem foldl_callback (callbacks : List HttpCallback) (state : StreamingParser × World) :
    (callbacks.foldl (callback env) state).1 = callbacks.foldl hear state.1 := by
  induction callbacks generalizing state with
  | nil => rfl
  | cons c rest ih => rw [List.foldl_cons, ih, List.foldl_cons, callback_fst]

theorem foldl_hear_fed (fed : List Bytes) (callbacks : List HttpCallback) :
    callbacks.foldl hear { parser with fed := fed } =
      { callbacks.foldl hear parser with fed := fed } := by
  induction callbacks generalizing parser with
  | nil => rfl
  | cons c rest ih => rw [List.foldl_cons, hear_fed, ih, List.foldl_cons]

theorem feed_fst (buffer : Bytes) : (parser.feed env buffer w).1 =
    { (env.llhttpExecute parser.fed buffer).1.foldl hear parser with
      fed := parser.fed ++ [buffer] } := by
  rw [← foldl_hear_fed, ← foldl_callback (env.llhttpExecute parser.fed buffer).1
    ({ parser with fed := parser.fed ++ [buffer] }, w)]
  unfold feed
  dsimp only
  split <;> rfl

/-- **Where the feeds are cut does not matter to what llhttp's callbacks do.** -/
theorem seenBy_eq (buffers : List Bytes) :
    seenBy env buffers parser w = parser.complete (reported env parser.fed buffers) := by
  induction buffers generalizing parser w with
  | nil => rfl
  | cons buffer rest ih =>
    have hrest := complete_fed ((env.llhttpExecute parser.fed buffer).1.foldl hear parser)
      (parser.fed ++ [buffer]) (reported env (parser.fed ++ [buffer]) rest)
    rw [seenBy, ih, seen_eq, reported_cons, complete_append, feed_fst, complete_fed]
    exact congrArg _ hrest

end

/-! ### One message -/

variable {parser : StreamingParser}

theorem foldl_fields (spans : List Bytes) (hne : spans ≠ []) :
    (spans.map HttpCallback.headerField).foldl hear parser =
      { parser with curName := spans.getLast hne } := by
  induction spans generalizing parser with
  | nil => exact absurd rfl hne
  | cons span rest ih =>
    rw [List.map_cons, List.foldl_cons]
    by_cases hrest : rest = []
    · subst hrest
      rfl
    · rw [ih hrest, List.getLast_cons hrest]
      rfl

theorem foldl_values (parser : StreamingParser) (spans : List Bytes) :
    (spans.map HttpCallback.headerValue).foldl hear { parser with curName := [] } =
      { parser with
        curName := []
        headers := Table.insertAll (spans.map fun span => ([], span)) parser.headers } := by
  induction spans generalizing parser with
  | nil => rfl
  | cons span rest ih =>
    rw [List.map_cons, List.foldl_cons]
    exact ih { parser with headers := parser.headers.insert [] span }

/-- A header leaves no name behind, and `Header.written` in the table. -/
theorem foldl_header (h : Header) : h.callbacks.foldl hear parser =
    { parser with curName := [], headers := Table.insertAll h.written parser.headers } := by
  rw [Header.callbacks, List.foldl_append, foldl_fields _ h.name_ne, Header.written]
  obtain ⟨first, rest, hspans⟩ := List.exists_cons_of_ne_nil h.value_ne
  simp only [hspans, List.map_cons, List.foldl_cons, List.head_cons, List.tail_cons]
  exact foldl_values { parser with headers := parser.headers.insert h.kept first } rest

/-- The parts of a message complete nothing, and leave what its headers write in the table. -/
theorem foldl_parts (parser : StreamingParser) (parts : List Part) :
    parser.complete (parts.flatMap Part.callbacks) = [] ∧
      ((parts.flatMap Part.callbacks).foldl hear parser).headers =
        Table.insertAll ((parts.filterMap Part.header?).flatMap Header.written) parser.headers := by
  have quiet (callbacks : List HttpCallback) (hno : .messageComplete ∉ callbacks)
      (parser : StreamingParser) : parser.complete callbacks = [] := by
    induction callbacks generalizing parser with
    | nil => rfl
    | cons c rest ih =>
      rw [List.mem_cons, not_or] at hno
      rw [complete, if_neg (Ne.symm hno.1), ih hno.2]
      rfl
  induction parts generalizing parser with
  | nil => exact ⟨rfl, rfl⟩
  | cons part rest ih =>
    rw [List.flatMap_cons, complete_append, List.foldl_append]
    obtain ⟨hrest, hheaders⟩ := ih (part.callbacks.foldl hear parser)
    rw [hrest, hheaders]
    cases part with
    | body b => exact ⟨rfl, rfl⟩
    | header h =>
      refine ⟨?_, ?_⟩
      · rw [List.append_nil]
        exact quiet _ (by simp [Part.callbacks, Header.callbacks]) parser
      · rw [Part.callbacks, foldl_header]
        simp only [Part.header?, List.filterMap_cons, List.flatMap_cons, Table.insertAll,
          List.foldl_append]

/-- A message that starts with an empty table is seen as what its headers write. -/
theorem complete_message (m : Message) (hempty : parser.headers = ∅) (rest : List HttpCallback) :
    ∃ parser', parser'.headers = ∅ ∧ parser.complete (m.callbacks ++ rest) =
      Table.insertAll (m.headers.flatMap Header.written) ∅ :: complete parser' rest := by
  obtain ⟨hquiet, hheaders⟩ := foldl_parts parser m.parts
  refine ⟨(m.callbacks.foldl hear parser), ?_, ?_⟩
  · rw [Message.callbacks, List.foldl_append]
    rfl
  · rw [Message.callbacks, complete_append, complete_append, hquiet, List.nil_append, complete,
      if_pos rfl, hheaders, hempty]
    rfl

theorem complete_messages (messages : List Message) (hempty : parser.headers = ∅)
    {tail : List HttpCallback} (htail : .messageComplete ∉ tail) :
    parser.complete (messages.flatMap Message.callbacks ++ tail) =
      messages.map fun m => Table.insertAll (m.headers.flatMap Header.written) ∅ := by
  induction messages generalizing parser with
  | nil =>
    rw [List.flatMap_nil, List.nil_append, List.map_nil]
    clear hempty
    induction tail generalizing parser with
    | nil => rfl
    | cons c rest ih =>
      rw [List.mem_cons, not_or] at htail
      rw [complete, if_neg (Ne.symm htail.1), ih htail.2]
      rfl
  | cons m rest ih =>
    rw [List.flatMap_cons, List.append_assoc, List.map_cons]
    obtain ⟨parser', hempty', hseen⟩ := complete_message m hempty
      (rest.flatMap Message.callbacks ++ tail)
    rw [hseen, ih hempty']

end StreamingParser

/-! ### What is understood -/

namespace Message
variable {m : Message}

theorem meant_ne_none {k : Bytes} : m.meant k ≠ none ↔ ∃ h ∈ m.headers, h.name = k := by
  simp [meant, Table.last_ne_none]

/-- What the headers write, when no value is cut. -/
theorem written_whole (hwhole : ∀ h ∈ m.headers, h.valueSpans.length = 1) :
    m.headers.flatMap Header.written = m.headers.map fun h => (h.kept, h.value) := by
  rw [← List.flatMap_singleton' (m.headers.map _), List.flatMap_map]
  refine List.flatMap_congr fun h hh => ?_
  obtain ⟨value, hvalue⟩ := List.length_eq_one_iff.mp (hwhole h hh)
  simp [Header.written, Header.value, hvalue]

/-- **The table says what the message means if and only if the message is intact.** -/
theorem intact_iff : (∀ k, (Table.insertAll (m.headers.flatMap Header.written) ∅).lookup k =
    m.meant k) ↔ m.Intact := by
  simp only [Table.lookup_insertAll, AList.lookup_empty, Option.or_none]
  constructor
  · intro hseen
    have hwhole : ∀ h ∈ m.headers, h.valueSpans.length = 1 := by
      intro h hh
      by_contra hlen
      obtain ⟨first, rest, hspans⟩ := List.exists_cons_of_ne_nil h.value_ne
      have hrest : rest ≠ [] := by
        intro hsame
        subst hsame
        exact hlen (by rw [hspans]; rfl)
      obtain ⟨span, hspan⟩ := List.exists_mem_of_ne_nil rest hrest
      -- a span after the first is written under the empty name, which no header has
      have hempty : Table.last (m.headers.flatMap Header.written) [] ≠ none :=
        Table.last_ne_none.mpr ⟨([], span), List.mem_flatMap.mpr
          ⟨h, hh, by simp [Header.written, hspans, hspan]⟩, rfl⟩
      rw [hseen] at hempty
      obtain ⟨h', _, hname⟩ := meant_ne_none.mp hempty
      exact h'.named hname
    rw [written_whole hwhole] at hseen
    refine ⟨hwhole, fun h hh => ?_, fun h _ => hseen h.name⟩
    refine meant_ne_none.mp ?_
    rw [← hseen h.kept]
    exact Table.last_ne_none.mpr ⟨_, List.mem_map_of_mem hh, rfl⟩
  · intro hintact k
    rw [written_whole hintact.values]
    by_cases hk : ∃ h ∈ m.headers, h.name = k
    · obtain ⟨h, hh, rfl⟩ := hk
      exact hintact.last h hh
    · have hmeant : m.meant k = none := by
        by_contra hne
        exact hk (meant_ne_none.mp hne)
      rw [hmeant]
      by_contra hne
      obtain ⟨e, he, hkey⟩ := Table.last_ne_none.mp hne
      obtain ⟨h, hh, rfl⟩ := List.mem_map.mp he
      obtain ⟨h', hh', hname⟩ := hintact.names h hh
      exact hk ⟨h', hh', hname.trans hkey⟩

theorem joined_headers : m.joined.headers = m.headers.map Header.joined := by
  unfold headers joined
  induction m.parts with
  | nil => rfl
  | cons part rest ih =>
    rw [List.map_cons]
    cases part with
    | header h =>
      simp only [Part.joined, Part.header?, List.filterMap_cons, List.map_cons]
      exact congrArg _ ih
    | body b => exact ih

theorem Header.joined_fields (h : Header) : h.joined.kept = h.name ∧ h.joined.name = h.name ∧
    h.joined.value = h.value := by
  refine ⟨rfl, ?_, ?_⟩ <;> exact List.flatten_singleton ..

/-- Nothing is lost of a message that is not cut, and joining changes nothing it means. -/
theorem joined_intact : m.joined.Intact ∧ m.joined.meant = m.meant := by
  have hnames : (m.headers.map Header.joined).map (fun h => (h.name, h.value)) =
      m.headers.map fun h => (h.name, h.value) := by
    rw [List.map_map]
    refine List.map_congr_left fun h _ => ?_
    obtain ⟨_, hname, hvalue⟩ := Header.joined_fields h
    rw [Function.comp, hname, hvalue]
  have hkept : (m.headers.map Header.joined).map (fun h => (h.kept, h.value)) =
      m.headers.map fun h => (h.name, h.value) := by
    rw [List.map_map]
    refine List.map_congr_left fun h _ => ?_
    obtain ⟨hkept, _, hvalue⟩ := Header.joined_fields h
    rw [Function.comp, hkept, hvalue]
  refine ⟨⟨?_, ?_, ?_⟩, ?_⟩
  · intro h hh
    rw [joined_headers] at hh
    obtain ⟨h', _, rfl⟩ := List.mem_map.mp hh
    rfl
  · intro h hh
    refine ⟨h, hh, ?_⟩
    rw [joined_headers] at hh
    obtain ⟨h', _, rfl⟩ := List.mem_map.mp hh
    exact (Header.joined_fields h').2.1
  · intro h _
    rw [joined_headers, hnames, hkept]
  · funext k
    rw [meant, joined_headers, hnames, meant]

end Message

section
variable {env : Env} {buffers : List Bytes} {messages : List Message} {tail : List HttpCallback}
  {parser : StreamingParser} {w : World}

/-- **Headers do not depend on segmentation exactly for the messages that are intact.** However
the bytes of a connection are cut into feeds, `on_complete` sees the headers of every message
as it means them if and only if every message is intact; and a message fed in one piece is
seen as it means. -/
theorem headers_seen (hempty : parser.headers = ∅)
    (hreported : StreamingParser.reported env parser.fed buffers =
      messages.flatMap Message.callbacks ++ tail)
    (htail : .messageComplete ∉ tail) :
    (List.Forall₂ (fun (table : Table Bytes Bytes) (m : Message) => ∀ k, table.lookup k = m.meant k)
        (StreamingParser.seenBy env buffers parser w) messages ↔ ∀ m ∈ messages, m.Intact) ∧
      ∀ m ∈ messages, ∀ piece fresh w', fresh.headers = ∅ →
        StreamingParser.reported env fresh.fed [piece] = m.joined.callbacks →
        ∃ table : Table Bytes Bytes, StreamingParser.seenBy env [piece] fresh w' = [table] ∧
          ∀ k, table.lookup k = m.meant k := by
  refine ⟨?_, fun m _ piece fresh w' hfresh hpiece => ?_⟩
  · rw [StreamingParser.seenBy_eq, hreported,
      StreamingParser.complete_messages messages hempty htail, List.forall₂_map_left_iff,
      List.forall₂_same]
    exact forall₂_congr fun m _ => Message.intact_iff
  · have hseen := StreamingParser.complete_messages [m.joined] hfresh
      (show HttpCallback.messageComplete ∉ [] by simp)
    rw [List.flatMap_singleton, List.append_nil, ← hpiece] at hseen
    refine ⟨_, (StreamingParser.seenBy_eq [piece]).trans hseen, fun k => ?_⟩
    obtain ⟨hintact, hmeant⟩ := Message.joined_intact (m := m)
    rw [Message.intact_iff.mpr hintact k, hmeant]

end

/-! ### A name that is cut -/

def request : Bytes := ascii "GET / HTTP/1.1\r\nHost: a\r\n\r\n"

/-- The request up to the middle of the name of its header. -/
def requestFront : Bytes := ascii "GET / HTTP/1.1\r\nHo"

def requestBack : Bytes := ascii "st: a\r\n\r\n"

/-- What llhttp reports for the request, in one piece and in two. -/
def Env.requested : Env :=
  { Env.plain [] with
    llhttpExecute := fun fed buffer =>
      if fed = [] ∧ buffer = request then
        ([.headerField (ascii "Host"), .headerValue (ascii "a"), .messageComplete], 0)
      else if fed = [] ∧ buffer = requestFront then ([.headerField (ascii "Ho")], 0)
      else if fed = [requestFront] ∧ buffer = requestBack then
        ([.headerField (ascii "st"), .headerValue (ascii "a"), .messageComplete], 0)
      else ([], 0) }

def cutHeader : Header where
  nameSpans := [ascii "Ho", ascii "st"]
  valueSpans := [ascii "a"]
  name_ne := nofun
  value_ne := nofun
  named := by decide +kernel

/-- The law at the request that is cut. -/
theorem headers_seen_cut :
    (List.Forall₂ (fun (table : Table Bytes Bytes) (m : Message) => ∀ k, table.lookup k = m.meant k)
        (StreamingParser.seenBy .requested [requestFront, requestBack] { u64 := 7 }
          (World.boot .plain)) [⟨[.header cutHeader]⟩] ↔
      ∀ m ∈ [(⟨[.header cutHeader]⟩ : Message)], m.Intact) ∧
      ∃ table : Table Bytes Bytes,
        StreamingParser.seenBy .requested [request] { u64 := 7 } (World.boot .plain) = [table] ∧
          ∀ k, table.lookup k = Message.meant ⟨[.header cutHeader]⟩ k := by
  have h := @headers_seen .requested [requestFront, requestBack] [⟨[.header cutHeader]⟩] []
    { u64 := 7 } (World.boot .plain) rfl (by decide +kernel) (by decide)
  exact ⟨h.1, h.2 _ (List.mem_singleton_self _) request { u64 := 7 } (World.boot .plain) rfl
    (by decide +kernel)⟩

/-- The header of the request is lost when its name is cut. -/
theorem headers_lost :
    (StreamingParser.seenBy .requested [request] { u64 := 7 } (World.boot .plain)).map
      (fun table => table.lookup (ascii "Host")) = [some (ascii "a")] ∧
    (StreamingParser.seenBy .requested [requestFront, requestBack] { u64 := 7 }
      (World.boot .plain)).map (fun table => table.lookup (ascii "Host")) = [none] := by
  decide +kernel

end OpenGrok
