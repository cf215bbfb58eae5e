import Mathlib.Data.List.Dedup
import OpenGrok.Server.Http

/-! The magic that `main` starts the server with.

`generate_magic` fills a buffer that `main` has on its stack: with the configured magic,
which `main` has found short enough, or with random characters. Of these it takes
`mt() % max_length + 10`, so nine remainders of a thousand and twenty-four run past
the end of the buffer. -/
namespace OpenGrok

/-! ### The code -/

/-- `MAX_MAGIC_SIZE`. -/
def maxMagicSize : Nat := 1024

/-- What `main` makes of the configuration before it generates the magic: the exit code, unless
it goes on. The second test of `port` is as in the source. -/
def exitCode (magic : Bytes) (port httpPort : Int) : Option Nat :=
  if magic.length ≥ maxMagicSize then some 3
  else if port < 0 ∨ port > 0xffff then some 2
  else if httpPort < 0 ∨ port > 0xffff then some 4
  else none

/-- `ascii_seq`. -/
def asciiSeq : Bytes :=
  ascii "qwertyuiop[]asdfghjkl;'zxcvbnm,./QWERTYUIOP\x7b\x7dASDFGHJKL:\"ZXCVBNM<>?"

/-- Where the characters come from: what `rand_pos` holds after each read of /dev/urandom, or
`mt()` on Windows. -/
inductive RandBlock where
  | urandom (rand : Nat → Int8)
  | mt (rand : Nat → UInt32)

/-- The index of `ascii_seq` for a position. A `char` is extended with its sign and then taken as
a `size_t`. -/
def RandBlock.index (source : RandBlock) (pos : Nat) : Nat :=
  match source with
  | .urandom rand => (rand pos).toInt64.toUInt64.toNat % asciiSeq.length
  | .mt rand => (rand pos).toNat % asciiSeq.length

/-- What a call of `generate_magic` does: the positions of `out_buffer` it writes, each with its
byte, the indices of `ascii_seq` it reads, and the length it returns. -/
structure Generated where
  writes : List (Nat × UInt8) := []
  reads : List Nat := []
  length : Nat
  deriving DecidableEq, Repr

/-- The `for` loop from `pos` on, with `left` rounds to go. -/
def fillMagic (source : RandBlock) : Nat → Nat → Generated → Generated
  | 0, _, g => g
  | left + 1, pos, g =>
    let i := source.index pos
    fillMagic source left (pos + 1)
      { g with writes := g.writes ++ [(pos, asciiSeq.getD i 0)], reads := g.reads ++ [i] }

/-- `generate_magic`, with the first number that `mt` gives. -/
def generateMagic (maxLength : Nat) (magic : Bytes) (mt : UInt32) (source : RandBlock) : Generated :=
  if !magic.isEmpty then
    { writes := magic.zipIdx.map fun (b, pos) => (pos, b), length := magic.length }
  else
    let len := mt.toNat % maxLength + 10
    fillMagic source len 0 { length := len }

/-! ### Where it writes and reads -/

/-- A call stays in a buffer of `maxLength` bytes and in `ascii_seq`, and what it returns is how
many positions it has written. -/
structure Generated.Inside (maxLength : Nat) (g : Generated) : Prop where
  written : ∀ w ∈ g.writes, w.1 < maxLength
  read : ∀ i ∈ g.reads, i < asciiSeq.length
  nonempty : 1 ≤ g.length
  bounded : g.length ≤ maxLength
  counted : (g.writes.map Prod.fst).dedup.length = g.length

theorem asciiSeq_length : asciiSeq.length = 66 := by decide

/-- Whatever was drawn, a negative `char` included. -/
theorem RandBlock.index_lt (source : RandBlock) (pos : Nat) :
    source.index pos < asciiSeq.length := by
  have hseq : 0 < asciiSeq.length := by
    rw [asciiSeq_length]
    decide
  cases source with
  | urandom rand => exact Nat.mod_lt _ hseq
  | mt rand => exact Nat.mod_lt _ hseq

/-- The loop goes on where the positions end, and returns the length it was given. -/
theorem fillMagic_spec (source : RandBlock) (left pos : Nat) (g : Generated)
    (hreads : ∀ i ∈ g.reads, i < asciiSeq.length) :
    (fillMagic source left pos g).writes.map Prod.fst =
        g.writes.map Prod.fst ++ List.range' pos left ∧
      (∀ i ∈ (fillMagic source left pos g).reads, i < asciiSeq.length) ∧
      (fillMagic source left pos g).length = g.length := by
  induction left generalizing pos g with
  | zero =>
    refine ⟨?_, hreads, rfl⟩
    rw [List.range'_zero, List.append_nil]
    rfl
  | succ left ih =>
    have hmore : ∀ i ∈ g.reads ++ [source.index pos], i < asciiSeq.length := by
      intro i hi
      rcases List.mem_append.mp hi with hi | hi
      · exact hreads i hi
      · rw [List.mem_singleton.mp hi]
        exact source.index_lt pos
    obtain ⟨hwrites, hall, hlen⟩ := ih (pos + 1)
      { g with
        writes := g.writes ++ [(pos, asciiSeq.getD (source.index pos) 0)]
        reads := g.reads ++ [source.index pos] } hmore
    refine ⟨?_, hall, hlen⟩
    rw [fillMagic, hwrites, List.map_append, List.append_assoc, List.range'_succ]
    rfl

section
variable (maxLength : Nat) (magic : Bytes) (mt : UInt32) (source : RandBlock)

/-- The positions are those below the length, each once. -/
theorem generateMagic_positions :
    (generateMagic maxLength magic mt source).writes.map Prod.fst =
      List.range (generateMagic maxLength magic mt source).length := by
  unfold generateMagic
  split
  · rw [List.map_map]
    show magic.zipIdx.map Prod.snd = List.range magic.length
    rw [List.zipIdx_map_snd, List.range_eq_range']
  · obtain ⟨hwrites, _, hlen⟩ := fillMagic_spec source (mt.toNat % maxLength + 10) 0
      { length := mt.toNat % maxLength + 10 } (fun _ h => absurd h List.not_mem_nil)
    rw [hwrites, hlen, List.range_eq_range']
    rfl

theorem generateMagic_reads :
    ∀ i ∈ (generateMagic maxLength magic mt source).reads, i < asciiSeq.length := by
  unfold generateMagic
  split
  · exact fun _ h => absurd h List.not_mem_nil
  · exact (fillMagic_spec source _ 0 _ fun _ h => absurd h List.not_mem_nil).2.1

/-- The configured magic as it is, or a random length from ten on. -/
theorem generateMagic_length :
    (generateMagic maxLength magic mt source).length =
      if magic = [] then mt.toNat % maxLength + 10 else magic.length := by
  unfold generateMagic
  cases magic with
  | nil => exact (fillMagic_spec source _ 0 _ fun _ h => absurd h List.not_mem_nil).2.2
  | cons b rest => rfl

/-- A call is inside exactly when the length it returns is. -/
theorem generateMagic_inside_iff : (generateMagic maxLength magic mt source).Inside maxLength ↔
    (generateMagic maxLength magic mt source).length ≤ maxLength := by
  constructor
  · exact fun h => h.bounded
  · intro hle
    have hpositions := generateMagic_positions maxLength magic mt source
    refine ⟨?_, generateMagic_reads maxLength magic mt source, ?_, hle, ?_⟩
    · intro w hw
      have hmem := List.mem_map_of_mem (f := Prod.fst) hw
      rw [hpositions, List.mem_range] at hmem
      exact Nat.lt_of_lt_of_le hmem hle
    · rw [generateMagic_length]
      split
      · omega
      · next hne => exact List.length_pos_iff.mpr hne
    · rw [hpositions, List.dedup_eq_self.mpr List.nodup_range, List.length_range]

end

/-- `main` takes no magic that is too long. -/
theorem exitCode_none {magic : Bytes} {port httpPort : Int}
    (h : exitCode magic port httpPort = none) : magic.length < maxMagicSize := by
  unfold exitCode at h
  split at h
  · cases h
  · omega

/-- **The magic stays in its buffer** exactly when one is configured or the first draw is not
in the last nine of its range. -/
theorem magic_inside (magic : Bytes) (port httpPort : Int)
    (haccepted : exitCode magic port httpPort = none) (mt : UInt32) (source : RandBlock) :
    (generateMagic maxMagicSize magic mt source).Inside maxMagicSize ↔
      magic ≠ [] ∨ mt.toNat % maxMagicSize ≤ 1014 := by
  have hshort := exitCode_none haccepted
  have hroom : mt.toNat % maxMagicSize + 10 ≤ maxMagicSize ↔ mt.toNat % maxMagicSize ≤ 1014 := by
    unfold maxMagicSize
    omega
  rw [generateMagic_inside_iff, generateMagic_length]
  by_cases hmagic : magic = []
  · rw [if_pos hmagic, hroom]
    constructor
    · exact Or.inr
    · intro h
      rcases h with h | h
      · exact absurd hmagic h
      · exact h
  · rw [if_neg hmagic]
    constructor
    · exact fun _ => Or.inl hmagic
    · exact fun _ => Nat.le_of_lt hshort

/-- A configured magic of three bytes, and the default ports. -/
theorem magic_inside_configured :
    (generateMagic maxMagicSize [97, 98, 99] 1023 (.urandom fun _ => -1)).Inside maxMagicSize :=
  (magic_inside [97, 98, 99] 6567 8080 (by decide) 1023 (.urandom fun _ => -1)).mpr
    (.inl (by decide))

/-- No magic is configured and `mt` gives 1015: the length is 1025, and the last character is
written past the end of the buffer. -/
theorem magic_inside_fails :
    exitCode [] 6567 8080 = none ∧
      (generateMagic maxMagicSize [] 1015 (.urandom fun _ => -1)).length = 1025 ∧
      1024 ∈ (generateMagic maxMagicSize [] 1015 (.urandom fun _ => -1)).writes.map Prod.fst ∧
      ¬ ∀ (magic : Bytes) (port httpPort : Int), exitCode magic port httpPort = none →
        ∀ (mt : UInt32) (source : RandBlock),
          (generateMagic maxMagicSize magic mt source).Inside maxMagicSize := by
  have haccepted : exitCode [] 6567 8080 = none := by decide
  have hlen : (generateMagic maxMagicSize [] 1015 (.urandom fun _ => -1)).length = 1025 := by
    rw [generateMagic_length]
    rfl
  have hlast : 1024 ∈
      (generateMagic maxMagicSize [] 1015 (.urandom fun _ => -1)).writes.map Prod.fst := by
    rw [generateMagic_positions, hlen]
    exact List.mem_range.mpr (by decide)
  refine ⟨haccepted, hlen, hlast, ?_⟩
  intro h
  have hbounded := (h [] 6567 8080 haccepted 1015 (.urandom fun _ => -1)).bounded
  rw [hlen] at hbounded
  exact absurd hbounded (by decide)

end OpenGrok
