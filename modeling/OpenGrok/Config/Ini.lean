import OpenGrok.Library.Trim
import OpenGrok.Protocol.ByteBuffer

/-! The configuration file's parser (inih.hpp).

A string is the list of its bytes before the terminator, and a pointer into a line is
what the line holds from there on. `iniParseStream` goes over what successive calls of
the reader deliver; the handler is the caller's. -/
namespace OpenGrok

namespace Ini

/-! ### Characters -/

def newline : UInt8 := 10
/-- `#`. -/
def hash : UInt8 := 35
/-- `:`. -/
def colon : UInt8 := 58
/-- `;`, the only one of `INI_INLINE_COMMENT_PREFIXES`. -/
def semicolon : UInt8 := 59
/-- `=`. -/
def assign : UInt8 := 61
/-- `[`. -/
def opening : UInt8 := 91
/-- `]`. -/
def closing : UInt8 := 93

/-- The characters that start a comment at the start of a line. -/
def commentMarks : Bytes := [semicolon, hash]

/-- The characters that end a name. -/
def separators : Bytes := [assign, colon]

/-- `INI_MAX_LINE`. -/
def maxLine : Nat := 200

/-- `MAX_SECTION` and `MAX_NAME`. -/
def maxName : Nat := 50

/-! ### Strings -/

/-- `isspace`, in the locale that a program starts with. -/
def isspace (c : UInt8) : Bool := c = 32 || (9 ≤ c && c ≤ 13)

/-- What a string function sees of a buffer. -/
def cstring (buffer : Bytes) : Bytes := buffer.takeWhile (· ≠ 0)

def rstrip (s : Bytes) : Bytes := s.rdropWhile isspace

def lskip (s : Bytes) : Bytes := s.dropWhile isspace

/-- `strncpy0`, into a buffer of `MAX_SECTION` or `MAX_NAME` bytes. -/
def strncpy0 (src : Bytes) : Bytes := src.take (maxName - 1)

/-- `find_chars_or_comment`: what comes before the character it stops at, and the rest from
there on. -/
def findCharsOrComment (chars : Bytes) : Bool → Bytes → Bytes × Bytes
  | _, [] => ([], [])
  | wasSpace, c :: rest =>
    if c ∈ chars ∨ wasSpace = true ∧ c = semicolon then ([], c :: rest)
    else
      let (before, found) := findCharsOrComment chars (isspace c) rest
      (c :: before, found)

/-- A value up to an inline comment. -/
def uncommented (value : Bytes) : Bytes := rstrip (findCharsOrComment [] false value).1

/-- One call of `fgets`, for at most `room` bytes: what it delivers, and what is left of the
file. -/
def fgets : Nat → Bytes → Bytes × Bytes
  | 0, file => ([], file)
  | _, [] => ([], [])
  | room + 1, c :: rest =>
    if c = newline then ([c], rest)
    else
      let (line, left) := fgets room rest
      (c :: line, left)

theorem fgets_left (room : Nat) (file : Bytes) :
    file = (fgets room file).1 ++ (fgets room file).2 := by
  induction room generalizing file with
  | zero => rfl
  | succ room ih =>
    cases file with
    | nil => rfl
    | cons c rest =>
      rw [fgets]
      split
      · rfl
      · exact congrArg (c :: ·) (ih rest)

theorem fgets_progress {room : Nat} {file : Bytes} (hroom : 0 < room) (h : file ≠ []) :
    (fgets room file).2.length < file.length := by
  obtain ⟨c, rest, rfl⟩ := List.exists_cons_of_ne_nil h
  obtain ⟨room, rfl⟩ := Nat.exists_eq_succ_of_ne_zero (Nat.ne_of_gt hroom)
  rw [fgets]
  split
  · exact Nat.lt_succ_self _
  · have hleft := congrArg List.length (fgets_left room rest)
    rw [List.length_append] at hleft
    show (fgets room rest).2.length < rest.length + 1
    omega

/-- What successive calls of `fgets` put into the line buffer, until there is nothing more. -/
def fgetsAll (file : Bytes) : List Bytes :=
  if h : file = [] then []
  else (fgets (maxLine - 1) file).1 :: fgetsAll (fgets (maxLine - 1) file).2
termination_by file.length
decreasing_by
  have hroom : 0 < maxLine - 1 := by decide
  exact fgets_progress hroom h

/-! ### The parser -/

/-- A call of the handler, without its user pointer. -/
structure Call where
  sectionName : Bytes
  name : Bytes
  value : Bytes
  deriving DecidableEq, Repr

/-- What `ini_parse_stream` keeps from line to line; `user` is what the user pointer points to. -/
structure Scan (σ : Type) where
  sectionName : Bytes := []
  prevName : Bytes := []
  lineno : Nat := 0
  error : Nat := 0
  user : σ

section
variable {σ : Type}

/-- `ini_handler`: nonzero on success. -/
abbrev Handler (σ : Type) := σ → Call → Bool × σ

namespace Scan

/-- The first error is kept. -/
def fail (s : Scan σ) : Scan σ := { s with error := if s.error = 0 then s.lineno else s.error }

def handle (handler : Handler σ) (name value : Bytes) (s : Scan σ) : Scan σ :=
  let (done, user) := handler s.user ⟨s.sectionName, name, value⟩
  let s := { s with user := user }
  if done then s else s.fail

end Scan

/-- A byte order mark. -/
def bom : Bytes := [0xef, 0xbb, 0xbf]

/-- A line that `lskip` and `rstrip` have been applied to; `moved` is `start > line`. -/
def parseStart (handler : Handler σ) (moved : Bool) (start : Bytes) (s : Scan σ) : Scan σ :=
  match start with
  | [] => s
  | c :: rest =>
    if c ∈ commentMarks then s
    else if s.prevName ≠ [] ∧ moved = true then
      s.handle handler s.prevName (uncommented (c :: rest))
    else if c = opening then
      match findCharsOrComment [closing] false rest with
      | (name, c :: _) =>
        if c = closing then { s with sectionName := strncpy0 name, prevName := [] } else s.fail
      | (_, []) => s.fail
    else
      match findCharsOrComment separators false (c :: rest) with
      | (name, c :: rest) =>
        if c ∈ separators then
          let name := rstrip name
          let value := uncommented (lskip rest)
          Scan.handle handler name value { s with prevName := strncpy0 name }
        else s.fail
      | (_, []) => s.fail

/-- One round of the loop of `ini_parse_stream`. -/
def parseLine (handler : Handler σ) (buffer : Bytes) (s : Scan σ) : Scan σ :=
  let s := { s with lineno := s.lineno + 1 }
  let line := cstring buffer
  let marked := s.lineno = 1 && bom.isPrefixOf line
  let start := rstrip (if marked then line.drop bom.length else line)
  parseStart handler (marked || decide (lskip start ≠ start)) (lskip start) s

/-- `ini_parse_stream`, for what the reader delivers. -/
def iniParseStream (handler : Handler σ) (lines : List Bytes) (user : σ) : Nat × σ :=
  let s := lines.foldl (fun s line => parseLine handler line s) { user }
  (s.error, s.user)

/-- `ini_parse_file`. -/
def iniParseFile (handler : Handler σ) (file : Bytes) (user : σ) : Nat × σ :=
  iniParseStream handler (fgetsAll file) user

/-- `ini_parse`; there may be no file to open. -/
def iniParse (handler : Handler σ) (file : Option Bytes) (user : σ) : Int × σ :=
  match file with
  | none => (-1, user)
  | some file =>
    let (error, user) := iniParseFile handler file user
    (error, user)

end

end Ini

end OpenGrok
