import OpenGrok.Config.Ini

/-! The language of configuration files.

`Line` says what a line can be, with its blanks and comments, and `Line.Fits` where it can
stand: a line that starts with a blank goes on with the value before it. A file that is
written in such lines is read as they say, and one that is not has the number of its first
other line for an error (`iniParseFile_spec`). -/
namespace OpenGrok.Ini
open Trim

/-! ### What a scan finds -/

/-- A scan goes past the text, a blank or none being before it. -/
def Plain (chars : Bytes) : Bool → Bytes → Prop
  | _, [] => True
  | wasSpace, c :: rest =>
    ¬(c ∈ chars ∨ wasSpace = true ∧ c = semicolon) ∧ Plain chars (isspace c) rest

/-- The text ends, a blank or none being before it, in a blank. -/
def spaceAfter (wasSpace : Bool) (s : Bytes) : Bool := (s.getLast?.map isspace).getD wasSpace

theorem spaceAfter_cons (wasSpace : Bool) (c : UInt8) (s : Bytes) :
    spaceAfter wasSpace (c :: s) = spaceAfter (isspace c) s := by
  cases s using List.reverseRecOn with
  | nil => rfl
  | append_singleton s b =>
    rw [← List.cons_append]
    simp only [spaceAfter, List.getLast?_concat]
    rfl

/-- A scan stops at the first character that ends it, or at an inline comment. -/
theorem find_spec (chars : Bytes) (wasSpace : Bool) (s : Bytes) {before found : Bytes}
    (h : findCharsOrComment chars wasSpace s = (before, found)) :
    s = before ++ found ∧ Plain chars wasSpace before ∧
      ∀ c rest, found = c :: rest →
        c ∈ chars ∨ spaceAfter wasSpace before = true ∧ c = semicolon := by
  induction s generalizing wasSpace before found with
  | nil =>
    cases h
    exact ⟨rfl, trivial, fun c rest hc => by cases hc⟩
  | cons c s ih =>
    rw [findCharsOrComment] at h
    split at h
    · next hstop =>
      cases h
      refine ⟨rfl, trivial, fun c' rest hc => ?_⟩
      cases hc
      exact hstop
    · next hgo =>
      cases h
      obtain ⟨hsplit, hplain, hfound⟩ := ih (isspace c) rfl
      refine ⟨congrArg (c :: ·) hsplit, ⟨hgo, hplain⟩, fun c' rest hc => ?_⟩
      rw [spaceAfter_cons]
      exact hfound c' rest hc

theorem find_plain {chars : Bytes} {wasSpace : Bool} {s : Bytes} (h : Plain chars wasSpace s) :
    findCharsOrComment chars wasSpace s = (s, []) := by
  induction s generalizing wasSpace with
  | nil => rfl
  | cons c s ih => rw [findCharsOrComment, if_neg h.1, ih h.2]

theorem find_stop {chars : Bytes} {wasSpace : Bool} {s : Bytes} {c : UInt8} (rest : Bytes)
    (h : Plain chars wasSpace s)
    (hc : c ∈ chars ∨ spaceAfter wasSpace s = true ∧ c = semicolon) :
    findCharsOrComment chars wasSpace (s ++ c :: rest) = (s, c :: rest) := by
  induction s generalizing wasSpace with
  | nil => exact if_pos hc
  | cons c' s ih =>
    rw [spaceAfter_cons] at hc
    rw [List.cons_append, findCharsOrComment, if_neg h.1, ih h.2 hc]

theorem plain_iff {chars : Bytes} {wasSpace : Bool} {s : Bytes} :
    Plain chars wasSpace s ↔ findCharsOrComment chars wasSpace s = (s, []) :=
  ⟨find_plain, fun h => (find_spec chars wasSpace s h).2.1⟩

instance (chars : Bytes) (wasSpace : Bool) (s : Bytes) : Decidable (Plain chars wasSpace s) :=
  decidable_of_iff _ plain_iff.symm

/-- Blanks do not stop a scan. -/
theorem Plain.append {chars : Bytes} {wasSpace : Bool} {s blanks : Bytes}
    (h : Plain chars wasSpace s) (hblanks : Blanks isspace blanks)
    (hchars : ∀ c ∈ chars, isspace c = false) : Plain chars wasSpace (s ++ blanks) := by
  have hblank (c : UInt8) (hc : isspace c = true) (wasSpace : Bool) :
      ¬(c ∈ chars ∨ wasSpace = true ∧ c = semicolon) := by
    intro h
    rcases h with h | ⟨_, rfl⟩
    · rw [hchars c h] at hc
      cases hc
    · cases hc
  induction s generalizing wasSpace with
  | cons c s ih => exact ⟨h.1, ih h.2⟩
  | nil =>
    induction blanks generalizing wasSpace with
    | nil => trivial
    | cons c blanks ih =>
      exact ⟨hblank c (hblanks c (List.mem_cons_self ..)) wasSpace,
        ih (fun b hb => hblanks b (List.mem_cons_of_mem _ hb)) trivial⟩

theorem Plain.left {chars : Bytes} {wasSpace : Bool} {s t : Bytes}
    (h : Plain chars wasSpace (s ++ t)) : Plain chars wasSpace s := by
  induction s generalizing wasSpace with
  | nil => trivial
  | cons c s ih => exact ⟨h.1, ih h.2⟩

/-! ### Lines -/

/-- What may come after a value: blanks, and a comment. -/
structure Tail where
  blanks : Bytes := []
  comment : Option Bytes := none

namespace Tail

def text (tail : Tail) : Bytes :=
  tail.blanks ++ match tail.comment with
    | none => []
    | some comment => semicolon :: comment

/-- An inline comment comes after a blank, and after a value that is not empty. -/
structure Fits (value : Bytes) (tail : Tail) : Prop where
  blanks : Blanks isspace tail.blanks
  comment : tail.comment ≠ none → tail.blanks ≠ [] ∧ value ≠ []

end Tail

/-- A value as it is read: trimmed, and without an inline comment. -/
structure IsValue (value : Bytes) : Prop where
  trimmed : Trimmed isspace value
  plain : Plain [] false value

/-- A line of a configuration file. -/
inductive Line where
  | blank (blanks : Bytes)
  | comment (indent : Bytes) (mark : UInt8) (text : Bytes)
  | continued (indent value : Bytes) (tail : Tail)
  | header (indent name rest : Bytes)
  | entry (indent name gap : Bytes) (sep : UInt8) (gap' value : Bytes) (tail : Tail)

namespace Line

def text : Line → Bytes
  | blank blanks => blanks
  | comment indent mark text => indent ++ mark :: text
  | continued indent value tail => indent ++ (value ++ tail.text)
  | header indent name rest => indent ++ opening :: (name ++ closing :: rest)
  | entry indent name gap sep gap' value tail =>
    indent ++ (name ++ gap ++ sep :: (gap' ++ (value ++ tail.text)))

/-- Where a line can stand, `prev` being the name that a continuation would go on with. -/
def Fits (prev : Bytes) : Line → Prop
  | blank blanks => Blanks isspace blanks
  | comment indent mark _ => Blanks isspace indent ∧ mark ∈ commentMarks
  | continued indent value tail =>
    Blanks isspace indent ∧ prev ≠ [] ∧ indent ≠ [] ∧ value ≠ [] ∧
      (∀ c ∈ value.head?, c ∉ commentMarks) ∧ IsValue value ∧ tail.Fits value
  | header indent name _ =>
    Blanks isspace indent ∧ (prev = [] ∨ indent = []) ∧ Plain [closing] false name
  | entry indent name gap sep gap' value tail =>
    Blanks isspace indent ∧ (prev = [] ∨ indent = []) ∧ sep ∈ separators ∧
      (∀ c ∈ name.head?, c ∉ commentMarks ∧ c ≠ opening) ∧
      Trimmed isspace name ∧ Blanks isspace gap ∧ Plain separators false (name ++ gap) ∧
      (name = [] → gap = []) ∧
      Blanks isspace gap' ∧ IsValue value ∧ tail.Fits value

/-! ### What a line says -/

/-- What the next line's meaning depends on. -/
structure Context where
  sectionName : Bytes := []
  prevName : Bytes := []

def next (ctx : Context) : Line → Context
  | blank _ | comment .. | continued .. => ctx
  | header _ name _ => { sectionName := strncpy0 name, prevName := [] }
  | entry _ name .. => { ctx with prevName := strncpy0 name }

/-- What the handler is told. -/
def call (ctx : Context) : Line → Option Call
  | blank _ | comment .. | header .. => none
  | continued _ value _ => some ⟨ctx.sectionName, ctx.prevName, value⟩
  | entry _ name _ _ _ value _ => some ⟨ctx.sectionName, name, value⟩

end Line

/-! ### A value and its tail -/

theorem semicolon_solid : isspace semicolon = false := rfl

theorem separators_solid : ∀ c ∈ separators, isspace c = false := by decide +kernel

theorem separators_unmarked : ∀ c ∈ separators, c ∉ commentMarks ∧ c ≠ opening := by
  decide +kernel

theorem commentMarks_solid : ∀ c ∈ commentMarks, isspace c = false := by decide +kernel

/-- What `rstrip` leaves of a tail, the value before it not being empty. -/
def Tail.cut (tail : Tail) : Tail :=
  match tail.comment with
  | none => {}
  | some comment => { blanks := tail.blanks, comment := some (rstrip comment) }

theorem Tail.Fits.cut {value : Bytes} {tail : Tail} (h : tail.Fits value) : tail.cut.Fits value := by
  obtain ⟨blanks, comment⟩ := tail
  cases comment with
  | none => exact ⟨Blanks.nil, fun hne => absurd rfl hne⟩
  | some comment => exact ⟨h.blanks, fun _ => h.comment (Option.some_ne_none _)⟩

theorem rstrip_tail {c : UInt8} {value : Bytes} {tail : Tail} (front : Bytes)
    (hvalue : Trimmed isspace (c :: value)) (htail : tail.Fits (c :: value)) :
    rstrip (front ++ (c :: value ++ tail.text)) = front ++ (c :: value ++ tail.cut.text) := by
  obtain ⟨blanks, comment⟩ := tail
  have hright : (c :: value).rdropWhile isspace = c :: value := hvalue.right
  cases comment with
  | none =>
    have hback := rdropWhile_append_cons (s := front) (t := value) hvalue.head
    have hkeep : value.rdropWhile isspace = value := by
      have hone := rdropWhile_append_cons (s := []) (t := value) hvalue.head
      rw [List.nil_append, hright] at hone
      exact (List.cons.inj hone).2.symm
    simp only [Tail.text, Tail.cut, List.append_nil]
    rw [rstrip, ← List.append_assoc, rdropWhile_append htail.blanks, hback, hkeep]
  | some comment =>
    have hback := rdropWhile_append_cons (s := front ++ (c :: value ++ blanks)) (t := comment)
      semicolon_solid
    simp only [Tail.text, Tail.cut, rstrip]
    simp only [List.append_assoc] at hback ⊢
    exact hback

/-- A value is read as it stands before its tail. -/
theorem uncommented_tail {value : Bytes} {tail : Tail} (hvalue : IsValue value)
    (htail : tail.Fits value) : uncommented (value ++ tail.text) = value := by
  obtain ⟨blanks, comment⟩ := tail
  have hplain : Plain [] false (value ++ blanks) :=
    hvalue.plain.append htail.blanks fun c hc => absurd hc List.not_mem_nil
  have hstrip : rstrip (value ++ blanks) = value := by
    rw [rstrip, rdropWhile_append htail.blanks]
    exact hvalue.trimmed.right
  cases comment with
  | none =>
    simp only [Tail.text, List.append_nil]
    rw [uncommented, find_plain hplain, hstrip]
  | some comment =>
    have hblanks := (htail.comment (Option.some_ne_none _)).1
    have hafter : spaceAfter false (value ++ blanks) = true := by
      have hlast := htail.blanks _ (List.getLast_mem hblanks)
      simp only [spaceAfter, List.getLast?_append, List.getLast?_eq_some_getLast hblanks]
      exact hlast
    simp only [Tail.text]
    rw [← List.append_assoc, uncommented, find_stop _ hplain (.inr ⟨hafter, rfl⟩), hstrip]

/-- Whatever stands after the blanks is a value and its tail. -/
theorem exists_tail {s back : Bytes} (hs : lskip s = s) (hback : Blanks isspace back) :
    ∃ tail : Tail, s ++ back = uncommented s ++ tail.text ∧ IsValue (uncommented s) ∧
      tail.Fits (uncommented s) ∧ (s ≠ [] → (uncommented s).head? = s.head?) := by
  cases s with
  | nil =>
    refine ⟨{ blanks := back }, ?_, ⟨Trimmed.nil, trivial⟩, ⟨hback, fun h => absurd rfl h⟩,
      fun h => absurd rfl h⟩
    simp [Tail.text, uncommented, rstrip, findCharsOrComment]
  | cons c rest =>
    have hsolid : isspace c = false := head_dropWhile hs
    generalize hfind : findCharsOrComment [] false (c :: rest) = r
    obtain ⟨before, found⟩ := r
    obtain ⟨hsplit, hplain, hfound⟩ := find_spec [] false (c :: rest) hfind
    -- The first character is no blank, and no comment starts there.
    obtain ⟨front, rfl⟩ : ∃ front, before = c :: front := by
      rw [findCharsOrComment, if_neg (by simp)] at hfind
      exact ⟨_, (congrArg Prod.fst hfind).symm⟩
    have hvalue : uncommented (c :: rest) = c :: front.rdropWhile isspace := by
      rw [uncommented, hfind]
      exact rdropWhile_append_cons (s := []) hsolid
    obtain ⟨blanks, hfront, hblanks⟩ := exists_rdropWhile isspace front
    rw [hvalue]
    generalize front.rdropWhile isspace = value at hfront hvalue
    have htrimmed : Trimmed isspace (c :: value) := by
      refine ⟨dropWhile_cons hsolid, ?_⟩
      rw [← hvalue, uncommented, hfind]
      exact List.rdropWhile_idempotent ..
    have hread : IsValue (c :: value) := by
      refine ⟨htrimmed, Plain.left (t := blanks) ?_⟩
      rw [List.cons_append, ← hfront]
      exact hplain
    rw [hsplit, hfront]
    cases found with
    | nil =>
      refine ⟨{ blanks := blanks ++ back }, ?_, hread, ⟨hblanks.append hback, fun h => absurd rfl h⟩,
        fun _ => rfl⟩
      simp [Tail.text]
    | cons c' comment =>
      have hstop := (hfound c' comment rfl).resolve_left List.not_mem_nil
      have hne : blanks ≠ [] := by
        intro hnil
        subst hnil
        have hlast := List.rdropWhile_eq_self_iff.mp htrimmed.right (List.cons_ne_nil _ _)
        rw [List.append_nil] at hfront
        rw [hfront, spaceAfter, List.getLast?_eq_some_getLast (List.cons_ne_nil _ _)] at hstop
        exact hlast hstop.1
      rw [hstop.2]
      refine ⟨{ blanks, comment := some (comment ++ back) }, ?_, hread,
        ⟨hblanks, fun _ => ⟨hne, List.cons_ne_nil _ _⟩⟩, fun _ => rfl⟩
      simp [Tail.text]

/-! ### One line -/

section
variable {σ : Type} (handler : Handler σ)

def Scan.context (s : Scan σ) : Line.Context := ⟨s.sectionName, s.prevName⟩

/-- The line as it is parsed: a string, and the first one without its byte order mark. -/
def textOf (lineno : Nat) (buffer : Bytes) : Bytes :=
  if lineno = 0 ∧ bom.isPrefixOf (cstring buffer) then (cstring buffer).drop bom.length
  else cstring buffer

/-- What the parser does about a line. -/
def Line.run (l : Line) (s : Scan σ) : Scan σ :=
  let told := match l.call s.context with
    | none => s
    | some call => s.handle handler call.name call.value
  { told with sectionName := (l.next s.context).sectionName, prevName := (l.next s.context).prevName }

theorem Scan.handle_names (name value : Bytes) (s : Scan σ) :
    (s.handle handler name value).sectionName = s.sectionName ∧
      (s.handle handler name value).prevName = s.prevName ∧
      (s.handle handler name value).lineno = s.lineno := by
  unfold Scan.handle
  dsimp only
  split <;> exact ⟨rfl, rfl, rfl⟩

/-- The handler does not see the name that a continuation would go on with. -/
theorem Scan.handle_prevName (name value prev : Bytes) (s : Scan σ) :
    Scan.handle handler name value { s with prevName := prev } =
      { s.handle handler name value with prevName := prev } := by
  unfold Scan.handle
  dsimp only
  split <;> rfl

/-- A line starts at its first character that is no blank; `moved` says whether that was the
first of all. -/
theorem start_moved {indent : Bytes} {c : UInt8} (core : Bytes) (hindent : Blanks isspace indent)
    (hc : isspace c = false) :
    lskip (indent ++ c :: core) = c :: core ∧
      (decide (lskip (indent ++ c :: core) ≠ indent ++ c :: core) = true ↔ indent ≠ []) := by
  have hskip : lskip (indent ++ c :: core) = c :: core := by
    rw [lskip, dropWhile_append hindent, dropWhile_cons hc]
  refine ⟨hskip, ?_⟩
  rw [hskip, decide_eq_true_iff]
  constructor
  · intro hne hnil
    subst hnil
    exact hne rfl
  · intro hne hsame
    have hlen := congrArg List.length hsame
    rw [List.length_append] at hlen
    exact hne (List.eq_nil_of_length_eq_zero (by omega))

/-- The parser at the start of what is left of a line. -/
theorem parseLine_start {buffer indent core : Bytes} {c : UInt8} {s : Scan σ}
    (htext : rstrip (textOf s.lineno buffer) = indent ++ c :: core)
    (hindent : Blanks isspace indent) (hc : isspace c = false)
    (hfirst : s.lineno = 0 → s.prevName = []) :
    ∃ moved, parseLine handler buffer s =
        parseStart handler moved (c :: core) { s with lineno := s.lineno + 1 } ∧
      (s.prevName ≠ [] → (moved = true ↔ indent ≠ [])) := by
  obtain ⟨hskip, hmoved⟩ := start_moved core hindent hc
  refine ⟨(s.lineno + 1 = 1 && bom.isPrefixOf (cstring buffer)) ||
    decide (lskip (indent ++ c :: core) ≠ indent ++ c :: core), ?_, fun hprev => ?_⟩
  · have hstart : rstrip (if (decide (s.lineno + 1 = 1) && bom.isPrefixOf (cstring buffer)) = true
        then (cstring buffer).drop bom.length else cstring buffer) = indent ++ c :: core := by
      rw [← htext]
      simp only [textOf, Bool.and_eq_true, decide_eq_true_eq, Nat.add_eq_right]
    unfold parseLine
    dsimp only
    rw [hstart, hskip]
  · have hlater : s.lineno ≠ 0 := fun h => hprev (hfirst h)
    rw [← hmoved]
    simp [hlater]

/-- A line with nothing but blanks is passed over. -/
theorem parseLine_blank {buffer : Bytes} {s : Scan σ}
    (htext : Blanks isspace (textOf s.lineno buffer)) :
    parseLine handler buffer s = { s with lineno := s.lineno + 1 } := by
  have hstart : rstrip (if (decide (s.lineno + 1 = 1) && bom.isPrefixOf (cstring buffer)) = true
      then (cstring buffer).drop bom.length else cstring buffer) = [] := by
    rw [rstrip, List.rdropWhile_eq_nil_iff]
    intro c hc
    refine htext c ?_
    simpa only [textOf, Bool.and_eq_true, decide_eq_true_eq, Nat.add_eq_right] using hc
  unfold parseLine
  dsimp only
  rw [hstart]
  rfl

/-- The part of a line that a separator or a bracket starts is left alone by `rstrip`. -/
theorem rstrip_cons (front : Bytes) {c : UInt8} (rest : Bytes) (hc : isspace c = false) :
    rstrip (front ++ c :: rest) = front ++ c :: rstrip rest :=
  rdropWhile_append_cons hc

/-- The value of an entry. -/
theorem entry_value {gap value : Bytes} {tail : Tail} (hgap : Blanks isspace gap)
    (hvalue : IsValue value) (htail : tail.Fits value) :
    uncommented (lskip (rstrip (gap ++ (value ++ tail.text)))) = value := by
  cases value with
  | nil =>
    have hnone : tail.comment = none := by
      by_contra h
      exact (htail.comment h).2 rfl
    have hblank : rstrip (gap ++ ([] ++ tail.text)) = [] := by
      rw [rstrip, List.rdropWhile_eq_nil_iff]
      simp only [Tail.text, hnone, List.append_nil, List.nil_append]
      exact hgap.append htail.blanks
    rw [hblank]
    rfl
  | cons c value =>
    rw [rstrip_tail _ hvalue.trimmed htail, lskip, dropWhile_append hgap, List.cons_append,
      dropWhile_cons hvalue.trimmed.head, ← List.cons_append]
    exact uncommented_tail hvalue htail.cut

/-- **A line that fits is read as what it says.** -/
theorem parseLine_fits {buffer : Bytes} {l : Line} {s : Scan σ} (hfits : l.Fits s.prevName)
    (htext : l.text = textOf s.lineno buffer) (hfirst : s.lineno = 0 → s.prevName = []) :
    parseLine handler buffer s = l.run handler { s with lineno := s.lineno + 1 } := by
  have hnot {moved : Bool} {indent : Bytes} (hwhere : s.prevName = [] ∨ indent = [])
      (hmoved : s.prevName ≠ [] → (moved = true ↔ indent ≠ [])) :
      ¬(s.prevName ≠ [] ∧ moved = true) := by
    intro h
    exact (hmoved h.1).mp h.2 (hwhere.resolve_left h.1)
  cases l with
  | blank blanks =>
    have hblank : Blanks isspace (textOf s.lineno buffer) := htext ▸ hfits
    exact parseLine_blank handler hblank
  | comment indent mark text =>
    obtain ⟨hindent, hmark⟩ := hfits
    have hsolid := commentMarks_solid mark hmark
    have hstart := rstrip_cons indent text hsolid
    rw [show indent ++ mark :: text = textOf s.lineno buffer from htext] at hstart
    obtain ⟨moved, hparse, _⟩ := parseLine_start handler hstart hindent hsolid hfirst
    rw [hparse, parseStart, if_pos hmark]
    rfl
  | continued indent value tail =>
    obtain ⟨hindent, hprev, hne, hvalue, hmarks, hread, htail⟩ := hfits
    obtain ⟨c, value, rfl⟩ := List.exists_cons_of_ne_nil hvalue
    have hstart := rstrip_tail indent hread.trimmed htail
    rw [show indent ++ (c :: value ++ tail.text) = textOf s.lineno buffer from htext,
      List.cons_append] at hstart
    obtain ⟨moved, hparse, hmoved⟩ :=
      parseLine_start handler hstart hindent hread.trimmed.head hfirst
    rw [hparse, parseStart, if_neg (hmarks c rfl), if_pos ⟨hprev, (hmoved hprev).mpr hne⟩,
      ← List.cons_append, uncommented_tail hread htail.cut]
    obtain ⟨hsection, hname, _⟩ := Scan.handle_names handler s.prevName (c :: value)
      { s with lineno := s.lineno + 1 }
    simp only [Line.run, Line.call, Line.next, Scan.context]
    generalize Scan.handle handler s.prevName (c :: value) { s with lineno := s.lineno + 1 } = told
      at hsection hname ⊢
    rw [← hsection, ← hname]
  | header indent name rest =>
    obtain ⟨hindent, hwhere, hplain⟩ := hfits
    have hstart := rstrip_cons (indent ++ opening :: name) rest (c := closing) rfl
    simp only [List.append_assoc, List.cons_append] at hstart
    rw [show indent ++ opening :: (name ++ closing :: rest) = textOf s.lineno buffer from htext]
      at hstart
    obtain ⟨moved, hparse, hmoved⟩ := parseLine_start handler hstart hindent rfl hfirst
    have hmark : opening ∉ commentMarks := by decide
    rw [hparse, parseStart, if_neg hmark, if_neg (hnot hwhere hmoved), if_pos rfl,
      find_stop _ hplain (.inl (List.mem_singleton_self _))]
    rfl
  | entry indent name gap sep gap' value tail =>
    obtain ⟨hindent, hwhere, hsep, hhead, hname, hgap, hplain, hempty, hgap', hvalue, htail⟩ := hfits
    have hsolid := separators_solid sep hsep
    have hstart := rstrip_cons (indent ++ (name ++ gap)) (gap' ++ (value ++ tail.text)) hsolid
    simp only [List.append_assoc] at hstart
    have htext' : indent ++ (name ++ (gap ++ sep :: (gap' ++ (value ++ tail.text)))) =
        textOf s.lineno buffer := by
      rw [← htext, Line.text, List.append_assoc]
    rw [htext'] at hstart
    have hread := entry_value hgap' hvalue htail
    generalize rstrip (gap' ++ (value ++ tail.text)) = rest at hstart hread
    have hstop := find_stop rest hplain (.inl hsep)
    have hkeep : rstrip (name ++ gap) = name := by
      rw [rstrip, rdropWhile_append hgap]
      exact hname.right
    -- What the line starts with is the name's first character or, without a name, the separator.
    have hfront : ∃ c core, name ++ (gap ++ sep :: rest) = c :: core ∧ isspace c = false ∧
        c ∉ commentMarks ∧ c ≠ opening := by
      cases name with
      | nil =>
        rw [hempty rfl]
        exact ⟨sep, rest, rfl, hsolid, separators_unmarked sep hsep⟩
      | cons c name => exact ⟨c, name ++ (gap ++ sep :: rest), rfl, hname.head, hhead c rfl⟩
    obtain ⟨c, core, hcore, hc, hmark, hopening⟩ := hfront
    rw [hcore] at hstart
    rw [List.append_assoc, hcore] at hstop
    obtain ⟨moved, hparse, hmoved⟩ := parseLine_start handler hstart hindent hc hfirst
    rw [hparse, parseStart, if_neg hmark, if_neg (hnot hwhere hmoved), if_neg hopening, hstop]
    dsimp only
    rw [if_pos hsep, hkeep, hread]
    refine (Scan.handle_prevName handler name value (strncpy0 name)
      { s with lineno := s.lineno + 1 }).trans ?_
    obtain ⟨hsection, _, _⟩ := Scan.handle_names handler name value
      { s with lineno := s.lineno + 1 }
    simp only [Line.run, Line.call, Line.next, Scan.context]
    generalize Scan.handle handler name value { s with lineno := s.lineno + 1 } = told
      at hsection ⊢
    rw [← hsection]

/-- What `name` comes to of the text before a separator. -/
theorem exists_name (before : Bytes) (hsolid : ∀ c ∈ before.head?, isspace c = false) :
    ∃ gap, before = rstrip before ++ gap ∧ Blanks isspace gap ∧ Trimmed isspace (rstrip before) ∧
      (rstrip before = [] → gap = []) ∧ (rstrip before).head? = before.head? := by
  cases before with
  | nil => exact ⟨[], rfl, Blanks.nil, Trimmed.nil, fun _ => rfl, rfl⟩
  | cons c before =>
    have hc := hsolid c rfl
    have hstrip : rstrip (c :: before) = c :: rstrip before := rstrip_cons [] before hc
    obtain ⟨gap, hgap, hblanks⟩ := exists_rdropWhile isspace (c :: before)
    refine ⟨gap, hgap, hblanks, ⟨?_, List.rdropWhile_idempotent ..⟩, fun h => ?_, ?_⟩
    · rw [hstrip]
      exact dropWhile_cons hc
    · rw [hstrip] at h
      cases h
    · rw [hstrip]
      rfl

/-- **A line that is not an error fits.** -/
theorem exists_line (buffer : Bytes) (s : Scan σ) (hfirst : s.lineno = 0 → s.prevName = []) :
    (∃ l : Line, l.Fits s.prevName ∧ l.text = textOf s.lineno buffer) ∨
      parseLine handler buffer s = Scan.fail { s with lineno := s.lineno + 1 } := by
  obtain ⟨back, hback, hbackBlanks⟩ := exists_rdropWhile isspace (textOf s.lineno buffer)
  obtain ⟨indent, hindent, hblanks⟩ :=
    exists_dropWhile isspace ((textOf s.lineno buffer).rdropWhile isspace)
  cases hcore : ((textOf s.lineno buffer).rdropWhile isspace).dropWhile isspace with
  | nil =>
    rw [hcore, List.append_nil] at hindent
    rw [hindent] at hback
    exact .inl ⟨.blank (indent ++ back), hblanks.append hbackBlanks, hback.symm⟩
  | cons c core =>
    have hsolid : isspace c = false := head_dropWhile hcore
    rw [hcore] at hindent
    obtain ⟨moved, hparse, hmoved⟩ := parseLine_start handler hindent hblanks hsolid hfirst
    rw [hindent] at hback
    rw [hparse, hback]
    have hskip {rest : Bytes} : lskip (lskip rest) = lskip rest := List.dropWhile_idempotent ..
    rw [parseStart]
    split
    · next hmark => exact .inl ⟨.comment indent c (core ++ back), ⟨hblanks, hmark⟩, by simp [Line.text]⟩
    · next hmark =>
      split
      · next hcont =>
        -- A continuation of the value before.
        obtain ⟨tail, htext, hvalue, htail, hhead⟩ :=
          exists_tail (s := c :: core) (dropWhile_cons hsolid) hbackBlanks
        have hhead := hhead (List.cons_ne_nil _ _)
        refine .inl ⟨.continued indent (uncommented (c :: core)) tail,
          ⟨hblanks, hcont.1, (hmoved hcont.1).mp hcont.2, ?_, ?_, hvalue, htail⟩, ?_⟩
        · intro hnil
          rw [hnil] at hhead
          cases hhead
        · intro d hd
          rw [hhead] at hd
          cases hd
          exact hmark
        · rw [Line.text, ← htext, List.append_assoc]
      · next hcont =>
        have hwhere : s.prevName = [] ∨ indent = [] := by
          by_cases hprev : s.prevName = []
          · exact .inl hprev
          · by_contra h
            exact hcont ⟨hprev, (hmoved hprev).mpr fun hnil => h (.inr hnil)⟩
        split
        · next hopening =>
          subst hopening
          generalize hfind : findCharsOrComment [closing] false core = r
          obtain ⟨name, found⟩ := r
          obtain ⟨hsplit, hplain, _⟩ := find_spec _ _ _ hfind
          cases found with
          | nil => exact .inr rfl
          | cons d rest =>
            by_cases hd : d = closing
            · subst hd
              refine .inl ⟨.header indent name (rest ++ back), ⟨hblanks, hwhere, hplain⟩, ?_⟩
              simp [Line.text, hsplit]
            · exact .inr (if_neg hd)
        · next hopening =>
          generalize hfind : findCharsOrComment separators false (c :: core) = r
          obtain ⟨before, found⟩ := r
          obtain ⟨hsplit, hplain, _⟩ := find_spec _ _ _ hfind
          cases found with
          | nil => exact .inr rfl
          | cons d rest =>
            by_cases hd : d ∈ separators
            · have hfront : ∀ e ∈ before.head?, e = c := by
                intro e he
                cases before with
                | nil => cases he
                | cons b before =>
                  cases he
                  exact (List.cons.inj hsplit).1.symm
              obtain ⟨gap, hgap, hgapBlanks, htrimmed, hempty, hhead⟩ :=
                exists_name before fun e he => by rw [hfront e he]; exact hsolid
              obtain ⟨gap', hgap', hgapBlanks'⟩ := exists_dropWhile isspace rest
              obtain ⟨tail, htext, hvalue, htail, _⟩ :=
                exists_tail (s := lskip rest) hskip hbackBlanks
              refine .inl ⟨.entry indent (rstrip before) gap d gap' (uncommented (lskip rest)) tail,
                ⟨hblanks, hwhere, hd, ?_, htrimmed, hgapBlanks, ?_, hempty, hgapBlanks', hvalue,
                  htail⟩, ?_⟩
              · intro e he
                rw [hhead] at he
                rw [hfront e he]
                exact ⟨hmark, hopening⟩
              · rw [← hgap]
                exact hplain
              · rw [Line.text, ← hgap, ← htext, hsplit]
                conv_rhs => rw [hgap']
                simp [lskip]
            · exact .inr (if_neg hd)

end

/-! ### Files -/

/-- Every line fits where it stands. -/
def Fit (ctx : Line.Context) : List Line → Prop
  | [] => True
  | l :: rest => l.Fits ctx.prevName ∧ Fit (l.next ctx) rest

/-- What the handler is told of the lines. -/
def calls (ctx : Line.Context) : List Line → List Call
  | [] => []
  | l :: rest => (l.call ctx).toList ++ calls (l.next ctx) rest

/-- The file consists of the lines; a text that is too long for the buffer counts as several. -/
structure Reading (file : Bytes) (lines : List Line) : Prop where
  fit : Fit {} lines
  text : lines.map Line.text = (fgetsAll file).mapIdx textOf

section
variable {σ : Type} {handler : Handler σ}

/-- A handler that takes what it is told only changes what the user pointer points to. -/
theorem Line.run_spec (hdone : ∀ user call, (handler user call).1 = true) (l : Line) (s : Scan σ) :
    l.run handler s = { s with
      sectionName := (l.next s.context).sectionName
      prevName := (l.next s.context).prevName
      user := (l.call s.context).toList.foldl (fun user call => (handler user call).2) s.user } := by
  cases l with
  | blank _ | comment _ _ _ | header _ _ _ => rfl
  | continued _ value _ =>
    have h := hdone s.user ⟨s.sectionName, s.prevName, value⟩
    simp only [Line.run, Line.call, Line.next, Scan.context, Scan.handle, h, if_true]
    rfl
  | entry _ name _ _ _ value _ =>
    have h := hdone s.user ⟨s.sectionName, name, value⟩
    simp only [Line.run, Line.call, Line.next, Scan.context, Scan.handle, h, if_true]
    rfl

/-- The names of the sections and values matter from the first line on only. -/
def Scan.Begun (s : Scan σ) : Prop := s.lineno = 0 → s.prevName = []

/-- The first error is the one that is reported. -/
theorem parseLine_error (hdone : ∀ user call, (handler user call).1 = true) (buffer : Bytes)
    {s : Scan σ} (hbegun : s.Begun) (herror : s.error ≠ 0) :
    (parseLine handler buffer s).error = s.error ∧ (parseLine handler buffer s).Begun := by
  obtain ⟨l, hfits, htext⟩ | hfail := exists_line handler buffer s hbegun
  · rw [parseLine_fits handler hfits htext hbegun, Line.run_spec hdone]
    exact ⟨rfl, fun h => absurd h (Nat.succ_ne_zero _)⟩
  · rw [hfail]
    exact ⟨if_neg herror, fun h => absurd h (Nat.succ_ne_zero _)⟩

theorem parseLines_error (hdone : ∀ user call, (handler user call).1 = true) (buffers : List Bytes)
    {s : Scan σ} (hbegun : s.Begun) (herror : s.error ≠ 0) :
    (buffers.foldl (fun s buffer => parseLine handler buffer s) s).error = s.error := by
  induction buffers generalizing s with
  | nil => rfl
  | cons buffer rest ih =>
    obtain ⟨hsame, hnext⟩ := parseLine_error hdone buffer hbegun herror
    rw [List.foldl_cons, ih hnext (hsame ▸ herror), hsame]

/-- Lines that fit are read one after the other. -/
theorem parseLines_fit (hdone : ∀ user call, (handler user call).1 = true) {lines : List Line}
    (buffers : List Bytes) {s : Scan σ} (hbegun : s.Begun) (hfit : Fit s.context lines)
    (htext : lines.map Line.text = buffers.mapIdx fun i => textOf (s.lineno + i)) :
    let s' := buffers.foldl (fun s buffer => parseLine handler buffer s) s
    s'.error = s.error ∧
      s'.user = (calls s.context lines).foldl (fun user call => (handler user call).2) s.user := by
  induction lines generalizing buffers s with
  | nil =>
    cases buffers with
    | nil => exact ⟨rfl, rfl⟩
    | cons buffer rest =>
      rw [List.mapIdx_cons] at htext
      cases htext
  | cons l lines ih =>
    cases buffers with
    | nil => cases htext
    | cons buffer rest =>
      rw [List.map_cons, List.mapIdx_cons] at htext
      obtain ⟨hl, hlines⟩ := List.cons.inj htext
      obtain ⟨hfits, hrest⟩ := hfit
      have hstep := parseLine_fits handler hfits hl hbegun
      rw [Line.run_spec hdone] at hstep
      have h := ih rest (s := parseLine handler buffer s)
        (by rw [hstep]; exact fun h => absurd h (Nat.succ_ne_zero _)) (by rw [hstep]; exact hrest)
        (by rw [hstep, hlines]; simp only [Nat.add_assoc, Nat.add_comm 1])
      simp only [List.foldl_cons, calls, List.foldl_append]
      rw [hstep] at h ⊢
      exact h

/-- The lines of a file up to its first error, if there is one. -/
theorem parseLines_split (hdone : ∀ user call, (handler user call).1 = true) (buffers : List Bytes)
    {s : Scan σ} (hbegun : s.Begun) (herror : s.error = 0) :
    (∃ lines, Fit s.context lines ∧
        lines.map Line.text = buffers.mapIdx fun i => textOf (s.lineno + i)) ∨
      ∃ lines bad rest, Fit s.context lines ∧
        (buffers.mapIdx fun i => textOf (s.lineno + i)) = lines.map Line.text ++ bad :: rest ∧
        (∀ l : Line, Fit s.context (lines ++ [l]) → l.text ≠ bad) ∧
        (buffers.foldl (fun s buffer => parseLine handler buffer s) s).error =
          s.lineno + lines.length + 1 := by
  induction buffers generalizing s with
  | nil => exact .inl ⟨[], trivial, rfl⟩
  | cons buffer rest ih =>
    have hindex : (rest.mapIdx fun i => textOf (s.lineno + (i + 1))) =
        rest.mapIdx fun i => textOf (s.lineno + 1 + i) := by
      simp only [Nat.add_assoc, Nat.add_comm 1]
    by_cases hline : ∃ l : Line, l.Fits s.prevName ∧ l.text = textOf s.lineno buffer
    · obtain ⟨l, hfits, hl⟩ := hline
      have hstep := parseLine_fits handler hfits hl hbegun
      rw [Line.run_spec hdone] at hstep
      have h := ih (s := parseLine handler buffer s)
        (by rw [hstep]; exact fun h => absurd h (Nat.succ_ne_zero _)) (by rw [hstep]; exact herror)
      rw [hstep] at h
      obtain ⟨lines, hfit, htext⟩ | ⟨lines, bad, others, hfit, htext, hbad, hno⟩ := h
      · refine .inl ⟨l :: lines, ⟨hfits, hfit⟩, ?_⟩
        rw [List.map_cons, List.mapIdx_cons, hl, htext, hindex]
        rfl
      · refine .inr ⟨l :: lines, bad, others, ⟨hfits, hfit⟩, ?_, fun l' h => hbad l' h.2, ?_⟩
        · rw [List.map_cons, List.mapIdx_cons, hl, hindex, htext]
          rfl
        · rw [List.foldl_cons, hstep, hno, List.length_cons]
          show s.lineno + 1 + lines.length + 1 = _
          omega
    · have hfail := (exists_line handler buffer s hbegun).resolve_left hline
      refine .inr ⟨[], textOf s.lineno buffer, rest.mapIdx fun i => textOf (s.lineno + 1 + i), trivial,
        ?_, fun l h heq => hline ⟨l, h.1, heq⟩, ?_⟩
      · rw [List.mapIdx_cons, hindex]
        rfl
      · have hone : (parseLine handler buffer s).error = s.lineno + 1 := by
          rw [hfail]
          exact if_pos herror
        rw [List.foldl_cons, parseLines_error hdone rest, hone]
        · rfl
        · rw [hfail]
          exact fun h => absurd h (Nat.succ_ne_zero _)
        · rw [hone]
          exact Nat.succ_ne_zero _

/-- A file that consists of lines is read as they say. -/
theorem iniParseFile_reading (hdone : ∀ user call, (handler user call).1 = true) {file : Bytes}
    {lines : List Line} (h : Reading file lines) (user : σ) :
    iniParseFile handler file user =
      (0, (calls {} lines).foldl (fun user call => (handler user call).2) user) := by
  have hbegun : Scan.Begun ({ user } : Scan σ) := fun _ => rfl
  obtain ⟨herror, huser⟩ := parseLines_fit hdone (fgetsAll file) (s := { user }) hbegun
    h.fit (by simpa only [Nat.zero_add] using h.text)
  exact Prod.ext herror huser

/-- A file consists of lines, or the parser reports its first text that is none. -/
theorem iniParseFile_split (hdone : ∀ user call, (handler user call).1 = true) (file : Bytes)
    (user : σ) :
    (∃ lines, Reading file lines) ∨
      ∃ lines bad rest, Fit {} lines ∧
        (fgetsAll file).mapIdx textOf = lines.map Line.text ++ bad :: rest ∧
        (∀ l : Line, Fit {} (lines ++ [l]) → l.text ≠ bad) ∧
        (iniParseFile handler file user).1 = lines.length + 1 := by
  have hbegun : Scan.Begun ({ user } : Scan σ) := fun _ => rfl
  obtain ⟨lines, hfit, htext⟩ | ⟨lines, bad, rest, hfit, htext, hbad, herror⟩ :=
    parseLines_split hdone (fgetsAll file) (s := { user }) hbegun rfl
  · simp only [Nat.zero_add] at htext
    exact .inl ⟨lines, hfit, htext⟩
  · simp only [Nat.zero_add] at htext herror
    exact .inr ⟨lines, bad, rest, hfit, htext, hbad, herror⟩

/-! ### Files as they are written -/

/-- A line that the buffer holds with its end. -/
structure Line.Written (l : Line) : Prop where
  ended : ∃ body, l.text = body ++ [newline] ∧ newline ∉ body ∧ (0 : UInt8) ∉ body
  short : l.text.length < maxLine

theorem fgets_written {room : Nat} {body : Bytes} (rest : Bytes) (hroom : body.length < room)
    (hbody : newline ∉ body) :
    fgets room (body ++ newline :: rest) = (body ++ [newline], rest) := by
  induction body generalizing room with
  | nil =>
    obtain ⟨room, rfl⟩ := Nat.exists_eq_succ_of_ne_zero (Nat.ne_of_gt hroom)
    exact if_pos rfl
  | cons c body ih =>
    obtain ⟨room, rfl⟩ := Nat.exists_eq_succ_of_ne_zero (Nat.ne_zero_of_lt hroom)
    have hc : c ≠ newline := fun h => hbody (h ▸ List.mem_cons_self ..)
    rw [List.cons_append, fgets, if_neg hc,
      ih (Nat.lt_of_succ_lt_succ hroom) fun h => hbody (List.mem_cons_of_mem _ h)]
    rfl

theorem fgetsAll_written {lines : List Line} (h : ∀ l ∈ lines, l.Written) :
    fgetsAll (lines.flatMap Line.text) = lines.map Line.text := by
  induction lines with
  | nil =>
    rw [List.flatMap_nil, fgetsAll, dif_pos rfl]
    rfl
  | cons l lines ih =>
    obtain ⟨⟨body, htext, hbody, _⟩, hshort⟩ := h l (List.mem_cons_self ..)
    have hfile : (l :: lines).flatMap Line.text = body ++ newline :: lines.flatMap Line.text := by
      rw [List.flatMap_cons, htext, List.append_assoc]
      rfl
    have hroom : body.length < maxLine - 1 := by
      rw [htext, List.length_append, List.length_singleton] at hshort
      omega
    have hne : body ++ newline :: lines.flatMap Line.text ≠ [] := by simp
    rw [hfile, fgetsAll, dif_neg hne, fgets_written _ hroom hbody, List.map_cons, htext,
      ih fun l hl => h l (List.mem_cons_of_mem _ hl)]

theorem textOf_written {l : Line} (h : l.Written) {i : Nat}
    (hmark : i = 0 → bom.isPrefixOf l.text = false) : textOf i l.text = l.text := by
  obtain ⟨⟨body, htext, _, hzero⟩, _⟩ := h
  have hstring : cstring l.text = l.text := by
    rw [cstring, List.takeWhile_eq_self_iff, htext]
    intro c hc
    rcases List.mem_append.mp hc with hc | hc
    · exact decide_eq_true fun h => hzero (h ▸ hc)
    · rw [List.mem_singleton.mp hc]
      rfl
  unfold textOf
  rw [hstring, if_neg]
  intro hboth
  rw [hmark hboth.1] at hboth
  cases hboth.2

theorem mapIdx_written {lines : List Line} (h : ∀ l ∈ lines, l.Written) (i : Nat)
    (hmark : i = 0 → ∀ l ∈ lines.head?, bom.isPrefixOf l.text = false) :
    (lines.map Line.text).mapIdx (fun j => textOf (i + j)) = lines.map Line.text := by
  induction lines generalizing i with
  | nil => rfl
  | cons l lines ih =>
    have hl := textOf_written (h l (List.mem_cons_self ..)) fun hi => hmark hi l rfl
    have hrest := ih (fun l hl => h l (List.mem_cons_of_mem _ hl)) (i + 1)
      fun hi => absurd hi (Nat.succ_ne_zero _)
    rw [List.map_cons, List.mapIdx_cons, Nat.add_zero, hl]
    congr 1
    simp only [Nat.add_assoc, Nat.add_comm 1] at hrest
    exact hrest

/-- A file that is written line by line consists of these lines. -/
theorem Reading.written {lines : List Line} (hfit : Fit {} lines) (h : ∀ l ∈ lines, l.Written)
    (hmark : ∀ l ∈ lines.head?, bom.isPrefixOf l.text = false) :
    Reading (lines.flatMap Line.text) lines := by
  refine ⟨hfit, ?_⟩
  rw [fgetsAll_written h]
  have hmap := mapIdx_written h 0 fun _ => hmark
  simp only [Nat.zero_add] at hmap
  exact hmap.symm

/-! ### What is accepted -/

/-- **The parser accepts the files that consist of lines, and tells the handler what they say**;
for any other it reports the number of the first text that is no line where it stands. -/
theorem iniParseFile_spec (hdone : ∀ user call, (handler user call).1 = true) (file : Bytes)
    (user : σ) :
    (∀ lines, Reading file lines → iniParseFile handler file user =
      (0, (calls {} lines).foldl (fun user call => (handler user call).2) user)) ∧
    ((iniParseFile handler file user).1 = 0 ↔ ∃ lines, Reading file lines) ∧
    ∀ n, (iniParseFile handler file user).1 = n + 1 → ∃ lines bad rest, lines.length = n ∧
      Fit {} lines ∧ (fgetsAll file).mapIdx textOf = lines.map Line.text ++ bad :: rest ∧
      ∀ l : Line, Fit {} (lines ++ [l]) → l.text ≠ bad := by
  have hread := fun lines (h : Reading file lines) => iniParseFile_reading hdone h user
  obtain hgood | hbad := iniParseFile_split hdone file user
  · obtain ⟨lines, hreading⟩ := hgood
    have hzero := congrArg Prod.fst (hread lines hreading)
    refine ⟨hread, ⟨fun _ => ⟨lines, hreading⟩, fun _ => hzero⟩, fun n hn => ?_⟩
    rw [hzero] at hn
    cases hn
  · obtain ⟨lines, bad, rest, hfit, htext, hno, herror⟩ := hbad
    refine ⟨hread, ⟨fun hzero => ?_, fun h => ?_⟩, fun n hn => ?_⟩
    · rw [herror] at hzero
      cases hzero
    · obtain ⟨lines, hreading⟩ := h
      exact congrArg Prod.fst (hread lines hreading)
    · exact ⟨lines, bad, rest, Nat.succ.inj (herror.symm.trans hn), hfit, htext, hno⟩

end

/-- A section, an entry with a comment after it, and a line that goes on with its value. -/
theorem iniParseFile_spec_lines :
    iniParseFile (fun told call => (true, told ++ [call]))
        [91, 97, 93, 10, 98, 61, 99, 32, 59, 120, 10, 9, 100, 10] [] =
      (0, [⟨[97], [98], [99]⟩, ⟨[97], [98], [100]⟩]) := by
  have hblank : Blanks isspace [newline] := by decide
  have hvalue {c : UInt8} (hsolid : isspace c = false) (hplain : Plain [] false [c]) :
      IsValue [c] :=
    ⟨⟨dropWhile_cons hsolid, rdropWhile_append_cons (s := []) hsolid⟩, hplain⟩
  have hfit : Fit {} [.header [] [97] [newline],
      .entry [] [98] [] assign [] [99] ⟨[32], some [120, newline]⟩,
      .continued [9] [100] ⟨[newline], none⟩] :=
    ⟨⟨Blanks.nil, .inl rfl, by decide⟩,
      ⟨Blanks.nil, .inl rfl, by decide, by decide +kernel, (hvalue rfl (by decide)).trimmed,
        Blanks.nil, by decide, fun _ => rfl, Blanks.nil, hvalue rfl (by decide), by decide,
        fun _ => by decide⟩,
      ⟨by decide, by decide, by decide, by decide, by decide +kernel, hvalue rfl (by decide),
        hblank, fun h => absurd rfl h⟩, trivial⟩
  have hreading := Reading.written hfit
    (by
      intro l hl
      simp only [List.mem_cons, List.not_mem_nil, or_false] at hl
      rcases hl with rfl | rfl | rfl
      · exact ⟨⟨[91, 97, 93], rfl, by decide, by decide⟩, by decide⟩
      · exact ⟨⟨[98, 61, 99, 32, 59, 120], rfl, by decide, by decide⟩, by decide⟩
      · exact ⟨⟨[9, 100], rfl, by decide, by decide⟩, by decide⟩)
    (by
      intro l hl
      cases hl
      rfl)
  exact (@iniParseFile_spec _ (fun told call => (true, told ++ [call])) (fun _ _ => rfl) _ []).1 _
    hreading

end OpenGrok.Ini
