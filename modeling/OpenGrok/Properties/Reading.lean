import OpenGrok.Library.Machine
import OpenGrok.Protocol.ByteBuffer

/-! Any sequence of reads from one payload.

`cuts` says which slice of the payload each operation is to deliver. `read`,
`read_string` and `get_ptr` deliver theirs and move the offset past it; `read_buffer`
copies the wrong way, from its destination into the payload, so a run of reads
is in order exactly when each destination holds its slice beforehand. -/
namespace OpenGrok

open ByteBuffer

/-! ### The operations -/

inductive ReaderOp where
  | read (sz : Nat)
  | readBuffer (dest : Bytes) (length : Nat)
  | readString (sz : Nat)
  | getPtr (size : Nat)
  deriving DecidableEq, Repr

namespace ReaderOp

/-- The integer types have a byte at least. -/
def Typed : ReaderOp → Prop
  | .read sz | .readString sz => 0 < sz
  | .readBuffer _ _ | .getPtr _ => True

/-- The operation on a reader, with the bytes it delivers: the integer's encoding, what
the destination holds, the prefix and the contents, what the pointer points to. -/
def run (reader : BufferReader) : ReaderOp → Except Fault (Bytes × BufferReader)
  | .read sz => do
    let (value, reader') ← reader.read sz
    return (encoding reader.endianess sz value, reader')
  | .readBuffer dest length => do
    let (dest, reader') ← reader.readBuffer dest length
    return (dest.take length, reader')
  | .readString sz => do
    let (str, reader') ← reader.readString sz
    return (encoding reader.endianess sz str.length ++ str, reader')
  | .getPtr size => do
    let (ptr, reader') := reader.getPtr size
    let bytes ← { reader' with offset := ptr }.slice size
    return (bytes, reader')

/-- One operation after the other: what each delivers, and the reader at the end. -/
def runAll : List ReaderOp → BufferReader → Except Fault (List Bytes × BufferReader)
  | [], reader => .ok ([], reader)
  | op :: ops, reader => do
    let (bytes, reader) ← op.run reader
    let (delivered, reader) ← runAll ops reader
    return (bytes :: delivered, reader)

/-! ### What they are to deliver -/

/-- How much of the bytes ahead the operation is to take. -/
def size (endianess : Endianess) (ahead : Bytes) : ReaderOp → Nat
  | .read sz => sz
  | .readBuffer _ length => length
  | .readString sz => sz + decoding endianess (ahead.take sz)
  | .getPtr size => size

/-- The consecutive slices for the operations, when all of them fit. -/
def cuts (endianess : Endianess) : Bytes → List ReaderOp → Option (List Bytes)
  | _, [] => some []
  | ahead, op :: ops =>
    let size := op.size endianess ahead
    if size ≤ ahead.length then
      (cuts endianess (ahead.drop size) ops).map (ahead.take size :: ·)
    else none

/-- The destination of a `read_buffer` holds what it is to be filled with. -/
def Held : ReaderOp → Bytes → Prop
  | .readBuffer dest length, slice => dest.take length = slice
  | _, _ => True

/-- The slice of the first operation lies in front of the others. -/
theorem cuts_cons {endianess : Endianess} {ahead : Bytes} {op : ReaderOp} {ops : List ReaderOp}
    {slices : List Bytes} (h : cuts endianess ahead (op :: ops) = some slices) :
    ∃ slice rest slices', ahead = slice ++ rest ∧ slices = slice :: slices' ∧
      slice.length = op.size endianess ahead ∧ cuts endianess rest ops = some slices' := by
  rw [cuts] at h
  by_cases hfit : op.size endianess ahead ≤ ahead.length
  · rw [if_pos hfit, Option.map_eq_some_iff] at h
    obtain ⟨slices', hcuts, hslices⟩ := h
    refine ⟨_, _, slices', (List.take_append_drop _ ahead).symm, hslices.symm, ?_, hcuts⟩
    exact List.length_take_of_le hfit
  · rw [if_neg hfit] at h
    cases h

/-- The slices are the payload from its start on. -/
theorem cuts_front {endianess : Endianess} {ahead : Bytes} {ops : List ReaderOp}
    {slices : List Bytes} (h : cuts endianess ahead ops = some slices) :
    slices.flatten <+: ahead := by
  induction ops generalizing ahead slices with
  | nil =>
    cases h
    exact List.nil_prefix
  | cons op ops ih =>
    obtain ⟨slice, rest, slices', rfl, rfl, _, hcuts⟩ := cuts_cons h
    exact (List.prefix_append_right_inj slice).mpr (ih hcuts)

end ReaderOp

namespace BufferReader

/-- A reader in a payload, with what is behind its offset and what is ahead. -/
def within (endianess : Endianess) (behind ahead : Bytes) : BufferReader where
  buffer := some (behind ++ ahead)
  offset := behind.length
  endianess := endianess

/-- Past the next bytes of the same payload. -/
theorem within_past (endianess : Endianess) (behind slice rest : Bytes) :
    { within endianess behind (slice ++ rest) with offset := behind.length + slice.length } =
      within endianess (behind ++ slice) rest := by
  simp [within]

theorem slice_within (endianess : Endianess) (behind slice rest : Bytes) :
    (within endianess behind (slice ++ rest)).slice slice.length = .ok slice := by
  simp [within, BufferReader.slice]

/-- An integer of the bytes ahead. -/
theorem read_within (endianess : Endianess) (behind bytes rest : Bytes) (hsz : 0 < bytes.length) :
    (within endianess behind (bytes ++ rest)).read bytes.length =
      .ok (decoding endianess bytes, within endianess (behind ++ bytes) rest) := by
  rw [BufferReader.read, slice_within, ← within_past]
  show Except.ok (bytesToInt _ _ endianess, _) = _
  rw [bytesToInt_eq_decoding hsz rfl]
  rfl

/-- A string whose prefix counts its contents. -/
theorem readString_within (endianess : Endianess) (behind count str rest : Bytes)
    (hsz : 0 < count.length) (hstr : decoding endianess count = str.length) :
    (within endianess behind (count ++ str ++ rest)).readString count.length =
      .ok (str, within endianess (behind ++ (count ++ str)) rest) := by
  have hpast : { within endianess (behind ++ count) (str ++ rest) with
      offset := (behind ++ count).length + str.length } =
        within endianess (behind ++ (count ++ str)) rest := by
    rw [within_past, List.append_assoc]
  rw [BufferReader.readString, List.append_assoc, read_within endianess behind count _ hsz]
  show (do
    let str' ← (within endianess (behind ++ count) (str ++ rest)).slice (decoding endianess count)
    return (str', { within endianess (behind ++ count) (str ++ rest) with
      offset := (behind ++ count).length + decoding endianess count })) = _
  rw [hstr, slice_within, hpast]
  rfl

/-- Copying in what is there already leaves the payload as it is. -/
theorem readBuffer_within (endianess : Endianess) (behind slice rest dest : Bytes)
    (hdest : dest.take slice.length = slice) :
    (within endianess behind (slice ++ rest)).readBuffer dest slice.length =
      .ok (dest, within endianess (behind ++ slice) rest) := by
  have hroom : slice.length ≤ dest.length := by
    have hlen := congrArg List.length hdest
    rw [List.length_take] at hlen
    omega
  have hcopy : (within endianess behind (slice ++ rest)).memcpy dest slice.length =
      .ok (within endianess behind (slice ++ rest)) := by
    simp [memcpy, within, hroom, hdest]
  rw [BufferReader.readBuffer, hcopy, ← within_past]
  rfl

end BufferReader

namespace ReaderOp

open BufferReader

/-! ### One operation -/

/-- **One operation in order**: its slice is delivered, the offset is past it, and the
payload is what it was. -/
theorem run_within {endianess : Endianess} {behind slice rest : Bytes} {op : ReaderOp}
    (htyped : op.Typed) (hlen : slice.length = op.size endianess (slice ++ rest))
    (hheld : op.Held slice) :
    op.run (within endianess behind (slice ++ rest)) =
      .ok (slice, within endianess (behind ++ slice) rest) := by
  cases op with
  | read sz =>
    have hsz : slice.length = sz := hlen
    subst hsz
    rw [run, read_within endianess behind slice rest htyped]
    show Except.ok (encoding endianess slice.length (decoding endianess slice), _) = _
    rw [encoding_decoding]
  | readBuffer dest length =>
    have hsz : slice.length = length := hlen
    subst hsz
    rw [run, readBuffer_within endianess behind slice rest dest hheld]
    show Except.ok (dest.take slice.length, _) = _
    rw [show dest.take slice.length = slice from hheld]
  | readString sz =>
    have hsz : sz ≤ slice.length := hlen ▸ Nat.le_add_right sz _
    obtain ⟨count, str, rfl, rfl⟩ : ∃ count str, slice = count ++ str ∧ count.length = sz :=
      ⟨_, _, (List.take_append_drop sz slice).symm, List.length_take_of_le hsz⟩
    have hstr : decoding endianess count = str.length := by
      have htake : (count ++ str ++ rest).take count.length = count := by
        rw [List.append_assoc, List.take_left]
      rw [size, htake, List.length_append] at hlen
      omega
    rw [run, readString_within endianess behind count str rest htyped hstr]
    show Except.ok (encoding endianess count.length str.length ++ str, _) = _
    rw [← hstr, encoding_decoding]
  | getPtr size =>
    have hsz : slice.length = size := hlen
    subst hsz
    show (do
      let bytes ← (within endianess behind (slice ++ rest)).slice slice.length
      return (bytes, { within endianess behind (slice ++ rest) with
        offset := behind.length + slice.length })) = _
    rw [slice_within, within_past]
    rfl

/-- What a `read_buffer` delivers is what its destination held. -/
theorem held_of_run {reader reader' : BufferReader} {op : ReaderOp} {bytes : Bytes}
    (h : op.run reader = .ok (bytes, reader')) : op.Held bytes := by
  cases op with
  | readBuffer dest length =>
    obtain ⟨_, hread, h⟩ := Except.bind_ok_iff.mp h
    obtain ⟨_, _, hread⟩ := Except.bind_ok_iff.mp hread
    cases hread
    cases h
    exact rfl
  | read _ | readString _ | getPtr _ => trivial

/-! ### A run of them -/

/-- Every operation is handed the payload where the one before it has left off. -/
theorem runAll_within {endianess : Endianess} {ops : List ReaderOp} {slices : List Bytes}
    (behind : Bytes) {ahead : Bytes} (htyped : ∀ op ∈ ops, op.Typed)
    (hcuts : cuts endianess ahead ops = some slices) (hheld : List.Forall₂ Held ops slices) :
    ∃ rest, ahead = slices.flatten ++ rest ∧
      runAll ops (within endianess behind ahead) =
        .ok (slices, within endianess (behind ++ slices.flatten) rest) := by
  induction ops generalizing behind ahead slices with
  | nil =>
    cases hcuts
    exact ⟨ahead, rfl, by rw [runAll, List.flatten_nil, List.append_nil]⟩
  | cons op ops ih =>
    obtain ⟨slice, rest, slices', rfl, rfl, hlen, hrest⟩ := cuts_cons hcuts
    cases hheld with
    | cons hop hops =>
      obtain ⟨last, rfl, hrun⟩ := ih (behind ++ slice)
        (fun o ho => htyped o (List.mem_cons_of_mem op ho)) hrest hops
      refine ⟨last, by rw [List.flatten_cons, List.append_assoc], ?_⟩
      rw [runAll, run_within (htyped op List.mem_cons_self) hlen hop]
      show (do
        let (delivered, reader) ← runAll ops
          (within endianess (behind ++ slice) (slices'.flatten ++ last))
        return (slice :: delivered, reader)) = _
      rw [hrun, List.flatten_cons, ← List.append_assoc]
      rfl

theorem held_of_runAll {ops : List ReaderOp} {reader reader' : BufferReader} {delivered : List Bytes}
    (h : runAll ops reader = .ok (delivered, reader')) : List.Forall₂ Held ops delivered := by
  induction ops generalizing reader delivered with
  | nil =>
    cases h
    exact .nil
  | cons op ops ih =>
    rw [runAll] at h
    obtain ⟨first, hop, h⟩ := Except.bind_ok_iff.mp h
    obtain ⟨others, hops, h⟩ := Except.bind_ok_iff.mp h
    cases h
    exact .cons (held_of_run hop) (ih hops)

/-- What a run of operations owes: the slices in order, the offset past all of them, and
the payload as it was. -/
def InOrder (endianess : Endianess) (payload : Bytes) (ops : List ReaderOp)
    (slices : List Bytes) : Prop :=
  slices.flatten <+: payload ∧
    runAll ops { buffer := some payload, endianess } =
      .ok (slices, { buffer := some payload, offset := (slices.map List.length).sum, endianess })

end ReaderOp

open ReaderOp

/-- **A reader goes through its payload in order** exactly when every destination of a
`read_buffer` holds its slice beforehand. -/
theorem reads_in_order (endianess : Endianess) (payload : Bytes) (ops : List ReaderOp)
    (htyped : ∀ op ∈ ops, op.Typed) (slices : List Bytes)
    (hfit : cuts endianess payload ops = some slices) :
    InOrder endianess payload ops slices ↔ List.Forall₂ Held ops slices := by
  constructor
  · intro h
    exact held_of_runAll h.2
  · intro h
    obtain ⟨rest, hpayload, hrun⟩ := runAll_within [] htyped hfit h
    refine ⟨cuts_front hfit, ?_⟩
    have hstart : (BufferReader.within endianess [] payload) =
        { buffer := some payload, endianess } := rfl
    have hend : BufferReader.within endianess ([] ++ slices.flatten) rest =
        { buffer := some payload, offset := (slices.map List.length).sum, endianess } := by
      simp [BufferReader.within, hpayload, List.length_flatten]
    rw [← hstart, hrun, hend]

/-- A string, a buffer that is there already, and an integer. -/
theorem reads_in_order_string :
    InOrder .LITTLE [2, 104, 105, 7, 1, 0] [.readString 1, .readBuffer [7] 1, .read 2]
      [[2, 104, 105], [7], [1, 0]] :=
  (reads_in_order .LITTLE _ _ (by simp [Typed]) _ (by decide)).mpr
    (.cons trivial (.cons rfl (.cons trivial .nil)))

/-- A buffer of zeros is not filled: the payload is overwritten with it. -/
theorem reads_in_order_fails :
    cuts .LITTLE [1, 2] [.readBuffer [0, 0] 2] = some [[1, 2]] ∧
      runAll [.readBuffer [0, 0] 2] { buffer := some [1, 2] } =
        .ok ([[0, 0]], { buffer := some [0, 0], offset := 2 }) ∧
      ¬ ∀ (endianess : Endianess) (payload : Bytes) (ops : List ReaderOp),
        (∀ op ∈ ops, op.Typed) → ∀ slices, cuts endianess payload ops = some slices →
          InOrder endianess payload ops slices := by
  have hfit : cuts .LITTLE [1, 2] [.readBuffer [0, 0] 2] = some [[1, 2]] := by decide
  have hrun : runAll [.readBuffer [0, 0] 2] { buffer := some [1, 2] } =
      .ok ([[0, 0]], { buffer := some [0, 0], offset := 2 }) := by rfl
  constructor
  · exact hfit
  constructor
  · exact hrun
  · intro h
    have hord := h .LITTLE [1, 2] [.readBuffer [0, 0] 2] (by simp [Typed]) [[1, 2]] hfit
    have hsame := hord.2.symm.trans hrun
    simp at hsame

end OpenGrok
