import Mathlib.Data.Nat.Digits.Lemmas
import OpenGrok.Config.Reader
import OpenGrok.Properties.IniFormat

/-! What a configuration file makes of the server.

The file's lines say what is kept for each key, whatever the case of its letters, and the
numbers among it may be octal, decimal or hexadecimal (`settings_ok_iff`,
`settings_written`). The name that the server answers a ping with is not the file's
`server_name`: it is looked up under its own default. -/
namespace OpenGrok

namespace Ini

/-! ### What is kept -/

/-- What the calls of the handler have given a key, one value after the other. -/
def said (calls : List Call) (key : Bytes) : Option Bytes :=
  (calls.filter fun call => makeKey call.sectionName call.name = key).foldl
    (fun old call => some (extend old call.value)) none

theorem valueHandler_done (values : Table Bytes Bytes) (call : Call) :
    (valueHandler values call).1 = true := rfl

theorem lookup_calls (calls : List Call) (values : Table Bytes Bytes) (key : Bytes) :
    AList.lookup key (calls.foldl (fun values call => (valueHandler values call).2) values) =
      (calls.filter fun call => makeKey call.sectionName call.name = key).foldl
        (fun old call => some (extend old call.value)) (values.lookup key) := by
  induction calls generalizing values with
  | nil => rfl
  | cons call rest ih =>
    rw [List.foldl_cons, ih, List.filter_cons, valueHandler, Table.lookup_insert_ite]
    by_cases hkey : makeKey call.sectionName call.name = key
    · rw [if_pos hkey.symm, if_pos (by simp [hkey]), List.foldl_cons, hkey]
    · rw [if_neg (Ne.symm hkey), if_neg (by simp [hkey])]

/-- A reader of a file that consists of lines has what the lines say. -/
theorem IniReader.new_reading {file : Bytes} {lines : List Line} (h : Reading file lines) :
    (IniReader.new (some file)).error = 0 ∧
      ∀ key, (IniReader.new (some file)).values.lookup key = said (calls {} lines) key := by
  have hparse := iniParseFile_reading valueHandler_done h ∅
  have hnew : IniReader.new (some file) =
      ⟨(iniParseFile valueHandler file ∅).1, (iniParseFile valueHandler file ∅).2⟩ := rfl
  rw [hnew, hparse]
  exact ⟨rfl, fun key => lookup_calls _ ∅ key⟩

/-- A file that is not made of lines is an error. -/
theorem IniReader.new_error {file : Bytes} (h : ¬∃ lines, Reading file lines) :
    (IniReader.new (some file)).error ≠ 0 := by
  obtain ⟨lines, _, _, _, _, _, herror⟩ :=
    (iniParseFile_split valueHandler_done file ∅).resolve_left h
  have hnew : (IniReader.new (some file)).error = ((iniParseFile valueHandler file ∅).1 : Int) := rfl
  rw [hnew, herror]
  omega

/-! ### Numbers -/

/-- The ways to write a number. -/
inductive Radix where
  | octal
  | decimal
  | hexadecimal
  deriving DecidableEq, Repr

namespace Radix

def base : Radix → Nat
  | octal => 8
  | decimal => 10
  | hexadecimal => 16

def lead : Radix → Bytes
  | octal => [48]
  | decimal => []
  | hexadecimal => [48, 120]

def digit (d : Nat) : UInt8 := UInt8.ofNat (if d < 10 then 48 + d else 87 + d)

/-- The number without what says its base. -/
def figures (r : Radix) (n : Nat) : Bytes :=
  if n = 0 then [48] else (r.base.digits n).reverse.map digit

def numeral (r : Radix) (n : Nat) : Bytes := r.lead ++ r.figures n

theorem base_bounds (r : Radix) : 1 < r.base ∧ r.base ≤ 16 := by
  cases r <;> decide

theorem digit_spec : ∀ d < 16, digitValue (digit d) = some d ∧ isspace (digit d) = false ∧
    digit d ≠ 45 ∧ digit d ≠ 43 ∧ (digit d = 48 → d = 0) := by decide

theorem figures_isDigit (r : Radix) (n : Nat) : ∀ c ∈ r.figures n, isDigit r.base c = true := by
  obtain ⟨hone, hbase⟩ := r.base_bounds
  have hdigit (d : Nat) (hd : d < r.base) : isDigit r.base (digit d) = true := by
    rw [isDigit, (digit_spec d (by omega)).1]
    exact decide_eq_true hd
  intro c hc
  unfold figures at hc
  split at hc
  · rw [List.mem_singleton.mp hc]
    exact hdigit 0 (by omega)
  · obtain ⟨d, hd, rfl⟩ := List.mem_map.mp hc
    exact hdigit d (Nat.digits_lt_base hone (List.mem_reverse.mp hd))

theorem number_figures (r : Radix) (n : Nat) : number r.base (r.figures n) = n := by
  obtain ⟨hone, hbase⟩ := r.base_bounds
  unfold figures
  split
  · next h =>
    subst h
    cases r <;> rfl
  · have hvalues : ∀ digits : List Nat, (∀ d ∈ digits, d < r.base) →
        number r.base (digits.reverse.map digit) = Nat.ofDigits r.base digits := by
      intro digits hlt
      rw [number, List.map_reverse, List.foldl_reverse, List.foldr_map, Nat.ofDigits_eq_foldr]
      induction digits with
      | nil => rfl
      | cons d rest ih =>
        have hd := (digit_spec d (Nat.lt_of_lt_of_le (hlt d (List.mem_cons_self ..)) hbase)).1
        rw [List.foldr_cons, List.foldr_cons, ih fun e he => hlt e (List.mem_cons_of_mem _ he), hd,
          Option.getD_some, Nat.mul_comm, Nat.add_comm, Nat.cast_id]
    rw [hvalues _ fun d hd => Nat.digits_lt_base hone hd, Nat.ofDigits_digits]

/-- What a number starts with. -/
theorem figures_cons (r : Radix) (n : Nat) :
    ∃ d rest, r.figures n = digit d :: rest ∧ d < 16 ∧ (d = 0 → n = 0 ∧ rest = []) := by
  obtain ⟨hone, hbase⟩ := r.base_bounds
  unfold figures
  split
  · next h => exact ⟨0, [], rfl, by decide, fun _ => ⟨h, rfl⟩⟩
  · next h =>
    have hne : r.base.digits n ≠ [] := Nat.digits_ne_nil_iff_ne_zero.mpr h
    have hlast := Nat.getLast_digit_ne_zero r.base h
    rw [← List.dropLast_append_getLast hne, List.reverse_append, List.reverse_singleton,
      List.singleton_append, List.map_cons]
    refine ⟨_, _, rfl, ?_, fun hzero => absurd hzero hlast⟩
    have := Nat.digits_lt_base hone (List.getLast_mem hne)
    omega

/-- The base that a number says is the one it is written in, or makes no difference to it. -/
theorem baseOf_numeral (r : Radix) (n : Nat) :
    ∃ base digits, baseOf (r.numeral n) = (base, digits) ∧ digits ≠ [] ∧
      (∀ c ∈ digits, isDigit base c = true) ∧ number base digits = n := by
  obtain ⟨d, rest, hfigures, hd, hzero⟩ := r.figures_cons n
  have hall := r.figures_isDigit n
  have hnumber := r.number_figures n
  obtain ⟨_, _, _, _, hlead⟩ := digit_spec d hd
  rw [hfigures] at hall hnumber
  have hhead := hall (digit d) (List.mem_cons_self ..)
  cases r with
  | octal =>
    have hx : ¬(digit d = 120 ∨ digit d = 88) := by
      intro h
      rcases h with h | h <;> rw [h] at hhead <;> cases hhead
    have hnumeral : numeral octal n = 48 :: digit d :: rest := by
      rw [numeral, hfigures]
      rfl
    refine ⟨8, 48 :: digit d :: rest, ?_, List.cons_ne_nil _ _, ?_, hnumber⟩
    · rw [hnumeral]
      cases rest with
      | nil => rfl
      | cons e rest =>
        simp only [baseOf, ne_eq, not_true_eq_false, if_false]
        exact if_neg fun h => hx h.1
    · intro c hc
      rcases List.mem_cons.mp hc with rfl | hc
      · rfl
      · exact hall c hc
  | decimal =>
    have hnumeral : numeral decimal n = digit d :: rest := hfigures
    rw [hnumeral]
    by_cases hd0 : d = 0
    · obtain ⟨hn, hrest⟩ := hzero hd0
      subst hd0 hn hrest
      exact ⟨8, [48], rfl, List.cons_ne_nil _ _, by decide +kernel, rfl⟩
    · have hne : digit d ≠ 48 := fun h => hd0 (hlead h)
      refine ⟨10, digit d :: rest, ?_, List.cons_ne_nil _ _, hall, hnumber⟩
      simp only [baseOf, ne_eq, hne, not_false_eq_true, if_true]
  | hexadecimal =>
    have hnumeral : numeral hexadecimal n = 48 :: 120 :: digit d :: rest := by
      rw [numeral, hfigures]
      rfl
    refine ⟨16, digit d :: rest, ?_, List.cons_ne_nil _ _, hall, hnumber⟩
    rw [hnumeral]
    simp only [baseOf, ne_eq, not_true_eq_false, if_false]
    exact if_pos ⟨.inl trivial, hhead⟩

/-- A number is read as it is written, in each of the bases. -/
theorem toInteger_numeral (r : Radix) {n : Nat} (hn : n < 2 ^ 63) (defaultValue : Int) :
    toInteger (r.numeral n) defaultValue = n := by
  obtain ⟨base, digits, hbase, hne, hall, hnumber⟩ := r.baseOf_numeral n
  have hfront : ∃ c rest, r.numeral n = c :: rest ∧ isspace c = false ∧ c ≠ 45 ∧ c ≠ 43 := by
    obtain ⟨d, rest, hfigures, hd, _⟩ := r.figures_cons n
    obtain ⟨_, hsolid, hminus, hplus, _⟩ := digit_spec d hd
    cases r with
    | octal => exact ⟨48, _, rfl, rfl, by decide, by decide⟩
    | decimal => exact ⟨digit d, rest, hfigures, hsolid, hminus, hplus⟩
    | hexadecimal => exact ⟨48, _, rfl, rfl, by decide, by decide⟩
  obtain ⟨c, rest, hcons, hsolid, hminus, hplus⟩ := hfront
  have hsign : sign (lskip (r.numeral n)) = (false, r.numeral n) := by
    rw [hcons, lskip, Trim.dropWhile_cons hsolid, sign, if_neg hminus, if_neg hplus]
  have htake : digits.takeWhile (isDigit base) = digits := List.takeWhile_eq_self_iff.mpr hall
  have hstrtol : strtol (r.numeral n) = ((n : Int), []) := by
    unfold strtol
    rw [hsign]
    dsimp only
    rw [hbase]
    dsimp only
    rw [htake, if_neg hne, hnumber, List.drop_length]
    have hmin : min (2 ^ 63 - 1) (n : Int) = n := by omega
    simp only [Bool.false_eq_true, if_false]
    rw [hmin]
  have hpos : ([] : Bytes).length < (r.numeral n).length := by
    rw [hcons]
    exact Nat.succ_pos _
  unfold toInteger
  rw [hstrtol]
  exact if_pos hpos

theorem numeral_length (r : Radix) {n : Nat} (hn : n < 2 ^ 16) : (r.numeral n).length ≤ 8 := by
  have hlead : r.lead.length ≤ 2 := by cases r <;> decide
  have hfigures : (r.figures n).length ≤ 6 := by
    unfold figures
    split
    · decide
    · rw [List.length_map, List.length_reverse]
      refine (Nat.digits_length_le_iff r.base_bounds.1 n).mpr (Nat.lt_of_lt_of_le hn ?_)
      cases r <;> decide
  rw [numeral, List.length_append]
  omega

theorem lead_solid (r : Radix) :
    ∀ c ∈ r.lead, isspace c = false ∧ c ≠ semicolon ∧ c ≠ 0 ∧ c ≠ newline := by
  cases r <;> decide +kernel

end Radix

/-- A figure is no character that means anything else. -/
theorem digitValue_solid {c : UInt8} (h : digitValue c ≠ none) :
    isspace c = false ∧ c ≠ semicolon ∧ c ≠ 0 ∧ c ≠ newline := by
  have hout {c : UInt8} (hlt : c.toNat < 48) : digitValue c = none := by
    have h1 : ¬48 ≤ c := by
      rw [UInt8.le_iff_toNat_le]
      exact Nat.not_le.mpr hlt
    have h2 : ¬97 ≤ c := by
      rw [UInt8.le_iff_toNat_le]
      show ¬97 ≤ c.toNat
      omega
    have h3 : ¬65 ≤ c := by
      rw [UInt8.le_iff_toNat_le]
      show ¬65 ≤ c.toNat
      omega
    simp [digitValue, h1, h2, h3]
  refine ⟨?_, fun hc => h (hc ▸ rfl), fun hc => h (hc ▸ rfl), fun hc => h (hc ▸ rfl)⟩
  by_contra hspace
  refine h (hout ?_)
  simp only [isspace, Bool.not_eq_false, Bool.or_eq_true, decide_eq_true_eq, Bool.and_eq_true]
    at hspace
  rcases hspace with rfl | ⟨_, hle⟩
  · decide
  · rw [UInt8.le_iff_toNat_le] at hle
    exact Nat.lt_of_le_of_lt hle (by decide)

/-- A text of figures and nothing else is a value. -/
theorem IsValue.solid {value : Bytes} (h : ∀ c ∈ value, isspace c = false ∧ c ≠ semicolon) :
    IsValue value := by
  refine ⟨⟨?_, ?_⟩, ?_⟩
  · cases value with
    | nil => rfl
    | cons c rest => exact Trim.dropWhile_cons (h c (List.mem_cons_self ..)).1
  · refine List.rdropWhile_eq_self_iff.mpr fun hne => ?_
    simp [(h _ (List.getLast_mem hne)).1]
  · generalize false = wasSpace
    induction value generalizing wasSpace with
    | nil => trivial
    | cons c rest ih =>
      refine ⟨fun hstop => ?_, ih (fun c hc => h c (List.mem_cons_of_mem _ hc)) _⟩
      rcases hstop with hstop | ⟨_, hstop⟩
      · exact absurd hstop List.not_mem_nil
      · exact (h c (List.mem_cons_self ..)).2 hstop

end Ini

open Ini

/-- What the lines say under a name of the server's section. -/
def field (lines : List Line) (name : Bytes) : Option Bytes :=
  said (calls {} lines) (makeKey freegrokMainSect name)

/-- A number among it. -/
def integerField (lines : List Line) (name : Bytes) (defaultValue : Int) : Int :=
  toInteger ((field lines name).getD []) defaultValue

/-- The tests of `main`. The second test of `port` lets every `http_port` through that is not
negative. -/
theorem exitCode_iff {magic : Bytes} {port httpPort : Int} :
    exitCode magic port httpPort = none ↔
      magic.length < maxMagicSize ∧ 0 ≤ port ∧ port < 2 ^ 16 ∧ 0 ≤ httpPort := by
  unfold exitCode
  split
  · simp only [reduceCtorEq, false_iff]
    omega
  · split
    · simp only [reduceCtorEq, false_iff]
      omega
    · split
      · simp only [reduceCtorEq, false_iff]
        omega
      · simp only [true_iff]
        omega

theorem toUInt16_toNat {n : Int} : ((toUInt16 n).toNat : Int) = n % 2 ^ 16 := by
  unfold toUInt16
  rw [UInt16.toNat_ofNat']
  omega

/-- What `main` makes of a file that consists of lines. -/
theorem settings_reading {file : Bytes} {lines : List Line} (h : Reading file lines) :
    settings (some file) =
      match exitCode ((field lines freegrokMagicField).getD [])
          (integerField lines freegrokPortField defaultListenPort)
          (integerField lines freegrokHttpPortField 8080) with
      | some code => .error code
      | none => .ok ({
          port := toUInt16 (integerField lines freegrokPortField defaultListenPort)
          v4Host := 0
          serverName := (field lines defaultServerName).getD defaultServerName
          httpPort := toUInt16 (integerField lines freegrokHttpPortField 8080) },
        (field lines freegrokMagicField).getD []) := by
  obtain ⟨herror, hvalues⟩ := IniReader.new_reading h
  have hgood : (IniReader.new (some file)).parseError = 0 := herror
  unfold settings
  simp only [hgood, ne_eq, not_true_eq_false, if_false, IniReader.getInteger, IniReader.get, hvalues]
  rfl

/-- **What `main` goes on with**: the file consists of lines, its port is a port, its magic fits,
and then the port is the one that the file says; of `http_port` only the low 16 bits are, and
the name is what the file says under the default name. -/
theorem settings_ok_iff (file : Bytes) (cfg : Config) (magic : Bytes) :
    settings (some file) = .ok (cfg, magic) ↔
      ∃ lines, Reading file lines ∧
        (cfg.port.toNat : Int) = integerField lines freegrokPortField defaultListenPort ∧
        magic = (field lines freegrokMagicField).getD [] ∧ magic.length < maxMagicSize ∧
        0 ≤ integerField lines freegrokHttpPortField 8080 ∧
        (cfg.httpPort.toNat : Int) = integerField lines freegrokHttpPortField 8080 % 2 ^ 16 ∧
        cfg.serverName = (field lines defaultServerName).getD defaultServerName ∧
        cfg.v4Host = 0 := by
  constructor
  · intro h
    by_cases hlines : ∃ lines, Reading file lines
    · obtain ⟨lines, hreading⟩ := hlines
      rw [settings_reading hreading] at h
      split at h
      · cases h
      · next hcode =>
        obtain ⟨hmagic, hport, hlt, hhttp⟩ := exitCode_iff.mp hcode
        cases h
        refine ⟨lines, hreading, ?_, rfl, hmagic, hhttp, toUInt16_toNat, rfl, rfl⟩
        rw [toUInt16_toNat]
        exact Int.emod_eq_of_lt hport hlt
    · have herror : (IniReader.new (some file)).parseError ≠ 0 := IniReader.new_error hlines
      simp [settings, herror] at h
  · intro h
    obtain ⟨lines, hreading, hport, hmagic, hshort, hhttp, hhttp', hname, hhost⟩ := h
    have hlt : cfg.port.toNat < 2 ^ 16 := UInt16.toNat_lt cfg.port
    have hcode : exitCode ((field lines freegrokMagicField).getD [])
        (integerField lines freegrokPortField defaultListenPort)
        (integerField lines freegrokHttpPortField 8080) = none := by
      refine exitCode_iff.mpr ⟨hmagic ▸ hshort, ?_, ?_, hhttp⟩
      · rw [← hport]
        omega
      · rw [← hport]
        exact_mod_cast hlt
    rw [settings_reading hreading, hcode]
    have hp : toUInt16 (integerField lines freegrokPortField defaultListenPort) = cfg.port := by
      rw [← UInt16.toNat_inj]
      have := toUInt16_toNat (n := integerField lines freegrokPortField defaultListenPort)
      omega
    have hh : toUInt16 (integerField lines freegrokHttpPortField 8080) = cfg.httpPort := by
      rw [← UInt16.toNat_inj]
      have := toUInt16_toNat (n := integerField lines freegrokHttpPortField 8080)
      omega
    obtain ⟨port, v4Host, serverName, httpPort⟩ := cfg
    dsimp only at hp hh hname hhost ⊢
    rw [hp, hh, ← hmagic, hname, hhost]

/-! ### A file that says everything -/

/-- `server_name`, the field that the example file gives the name in. -/
def serverNameField : Bytes := ascii "server_name"

def entryLine (name value : Bytes) : Line :=
  .entry [] name [] assign [] value { blanks := [newline] }

/-- A configuration file as the example is laid out. -/
def configLines (port magic name httpPort : Bytes) : List Line :=
  [.header [] freegrokMainSect [newline], entryLine freegrokPortField port,
    entryLine freegrokMagicField magic, entryLine serverNameField name,
    entryLine freegrokHttpPortField httpPort]

/-- A value that can be written on one line, after the name. -/
structure Writable (name value : Bytes) : Prop where
  read : IsValue value
  line : newline ∉ value
  zero : (0 : UInt8) ∉ value
  short : name.length + value.length + 2 < maxLine

/-- A name that can be written as it is. -/
def Nameable (name : Bytes) : Prop :=
  (∀ c ∈ name.head?, c ∉ commentMarks ∧ c ≠ opening) ∧ Trim.Trimmed isspace name ∧
    Plain separators false name ∧ newline ∉ name ∧ (0 : UInt8) ∉ name

theorem Nameable.fields : ∀ name ∈ [freegrokPortField, freegrokMagicField, serverNameField,
    freegrokHttpPortField], Nameable name := by
  have hname (name : Bytes) (hhead : ∀ c ∈ name.head?, c ∉ commentMarks ∧ c ≠ opening)
      (hleft : name.dropWhile isspace = name) (hright : name.rdropWhile isspace = name)
      (hrest : Plain separators false name ∧ newline ∉ name ∧ (0 : UInt8) ∉ name) : Nameable name :=
    ⟨hhead, ⟨hleft, hright⟩, hrest⟩
  intro name hmem
  simp only [List.mem_cons, List.not_mem_nil, or_false] at hmem
  rcases hmem with rfl | rfl | rfl | rfl <;> exact hname _ (by decide +kernel) rfl rfl (by decide)

theorem entryLine_fits {name value : Bytes} (hname : Nameable name) (hvalue : Writable name value) :
    (∀ prev, (entryLine name value).Fits prev) ∧ (entryLine name value).Written := by
  obtain ⟨hhead, htrimmed, hplain, hline, hzero⟩ := hname
  have htail : Tail.Fits value { blanks := [newline] } :=
    ⟨fun c hc => List.mem_singleton.mp hc ▸ rfl, fun h => absurd rfl h⟩
  constructor
  · intro prev
    refine ⟨Trim.Blanks.nil, .inr rfl, by decide, hhead, htrimmed, Trim.Blanks.nil, ?_, fun _ => rfl,
      Trim.Blanks.nil, hvalue.read, htail⟩
    rw [List.append_nil]
    exact hplain
  · have htext : (entryLine name value).text = (name ++ assign :: value) ++ [newline] := by
      simp [entryLine, Line.text, Tail.text]
    refine ⟨⟨name ++ assign :: value, htext, ?_, ?_⟩, ?_⟩
    · simp only [List.mem_append, List.mem_cons, not_or]
      exact ⟨hline, by decide, hvalue.line⟩
    · simp only [List.mem_append, List.mem_cons, not_or]
      exact ⟨hzero, by decide, hvalue.zero⟩
    · have hlen := hvalue.short
      rw [htext]
      simp only [List.length_append, List.length_cons, List.length_nil]
      omega

theorem configLines_reading {port magic name httpPort : Bytes}
    (hport : Writable freegrokPortField port) (hmagic : Writable freegrokMagicField magic)
    (hname : Writable serverNameField name) (hhttp : Writable freegrokHttpPortField httpPort) :
    Reading ((configLines port magic name httpPort).flatMap Line.text)
      (configLines port magic name httpPort) := by
  have hfields := Nameable.fields
  simp only [List.forall_mem_cons, List.not_mem_nil, false_implies, implies_true, and_true] at hfields
  obtain ⟨hportName, hmagicName, hserverName, hhttpName⟩ := hfields
  obtain ⟨hportFits, hportWritten⟩ := entryLine_fits hportName hport
  obtain ⟨hmagicFits, hmagicWritten⟩ := entryLine_fits hmagicName hmagic
  obtain ⟨hnameFits, hnameWritten⟩ := entryLine_fits hserverName hname
  obtain ⟨hhttpFits, hhttpWritten⟩ := entryLine_fits hhttpName hhttp
  have hheader : Plain [closing] false freegrokMainSect := by decide
  refine Reading.written ?_ ?_ ?_
  · exact ⟨⟨Trim.Blanks.nil, .inl rfl, hheader⟩, hportFits _, hmagicFits _, hnameFits _, hhttpFits _,
      trivial⟩
  · intro l hl
    simp only [configLines, List.mem_cons, List.not_mem_nil, or_false] at hl
    rcases hl with rfl | rfl | rfl | rfl | rfl
    · exact ⟨⟨opening :: (freegrokMainSect ++ [closing]), rfl, by decide, by decide⟩, by decide⟩
    · exact hportWritten
    · exact hmagicWritten
    · exact hnameWritten
    · exact hhttpWritten
  · intro l hl
    cases hl
    rfl

/-- A port is written in figures. -/
theorem Writable.numeral (r : Radix) {n : Nat} (hn : n < 2 ^ 16) {name : Bytes}
    (hname : name.length ≤ 180) : Writable name (r.numeral n) := by
  have hall : ∀ c ∈ r.numeral n, isspace c = false ∧ c ≠ semicolon ∧ c ≠ 0 ∧ c ≠ newline := by
    intro c hc
    rcases List.mem_append.mp hc with hc | hc
    · exact r.lead_solid c hc
    · refine digitValue_solid fun hnone => ?_
      have hdigit := r.figures_isDigit n c hc
      simp [isDigit, hnone] at hdigit
  have hlen := r.numeral_length hn
  refine ⟨.solid fun c hc => ⟨(hall c hc).1, (hall c hc).2.1⟩, fun h => (hall _ h).2.2.2 rfl,
    fun h => (hall _ h).2.2.1 rfl, ?_⟩
  simp only [maxLine]
  omega

/-- What the lines of the example's layout say. -/
theorem field_configLines (port magic name httpPort : Bytes) :
    field (configLines port magic name httpPort) freegrokPortField = some port ∧
      field (configLines port magic name httpPort) freegrokMagicField = some magic ∧
      field (configLines port magic name httpPort) freegrokHttpPortField = some httpPort ∧
      field (configLines port magic name httpPort) defaultServerName = none := by
  have hcalls : calls {} (configLines port magic name httpPort) =
      [⟨freegrokMainSect, freegrokPortField, port⟩, ⟨freegrokMainSect, freegrokMagicField, magic⟩,
        ⟨freegrokMainSect, serverNameField, name⟩,
        ⟨freegrokMainSect, freegrokHttpPortField, httpPort⟩] := rfl
  unfold field
  rw [hcalls]
  refine ⟨rfl, rfl, rfl, rfl⟩

/-- **A file that says everything starts the server that it says**, in whatever base the ports are
written, but for the name. -/
theorem settings_written (r r' : Radix) {port httpPort : Nat} (hport : port < 2 ^ 16)
    (hhttp : httpPort < 2 ^ 16) {magic name : Bytes} (hmagic : Writable freegrokMagicField magic)
    (hname : Writable serverNameField name) :
    settings (some ((configLines (r.numeral port) magic name (r'.numeral httpPort)).flatMap
        Line.text)) =
      .ok ({
        port := UInt16.ofNat port
        v4Host := 0
        serverName := defaultServerName
        httpPort := UInt16.ofNat httpPort }, magic) := by
  have hreading := configLines_reading (Writable.numeral r hport (by decide)) hmagic hname
    (Writable.numeral r' hhttp (by decide))
  obtain ⟨hportField, hmagicField, hhttpField, hnameField⟩ := field_configLines (r.numeral port)
    magic name (r'.numeral httpPort)
  have hshort : magic.length < maxMagicSize := by
    have hlen := hmagic.short
    simp only [maxLine, maxMagicSize] at hlen ⊢
    omega
  have hport' := Radix.toInteger_numeral r (n := port) (by omega)
  have hhttp' := Radix.toInteger_numeral r' (n := httpPort) (by omega)
  have hcode : exitCode magic port httpPort = none := exitCode_iff.mpr ⟨hshort, by omega, by omega, by omega⟩
  have huint {n : Nat} (hn : n < 2 ^ 16) : toUInt16 n = UInt16.ofNat n := by
    unfold toUInt16
    congr 1
    omega
  rw [settings_reading hreading]
  simp only [integerField, hportField, hmagicField, hhttpField, hnameField, Option.getD_some,
    Option.getD_none, hport', hhttp', hcode, huint hport, huint hhttp]

/-- The port in hexadecimal, the other one in octal, and the magic of the example file. -/
theorem settings_written_example :
    settings (some ((configLines (ascii "0x19a7") (ascii "simple magic") (ascii "x")
        (ascii "017620")).flatMap Line.text)) =
      .ok ({
        port := 6567
        v4Host := 0
        serverName := ascii "FreeGrok/1.1b"
        httpPort := 8080 }, ascii "simple magic") := by
  have hport : ascii "0x19a7" = Radix.hexadecimal.numeral 6567 := by decide
  have hhttp : ascii "017620" = Radix.octal.numeral 8080 := by decide
  rw [hport, hhttp]
  exact settings_written .hexadecimal .octal (show 6567 < 2 ^ 16 by decide)
    (show 8080 < 2 ^ 16 by decide) ⟨⟨⟨rfl, rfl⟩, by decide⟩, by decide, by decide, by decide⟩
    ⟨⟨⟨rfl, rfl⟩, by decide⟩, by decide, by decide, by decide⟩

end OpenGrok
