import OpenGrok.Config.Ini
import OpenGrok.Properties.Magic

/-! What `main` makes of the configuration file (inih.hpp, defaults.hpp, main.cpp). -/
namespace OpenGrok

namespace Ini

/-! ### INIReader -/

/-- `::tolower`. -/
def tolower (c : UInt8) : UInt8 := if 65 ≤ c ∧ c ≤ 90 then c + 32 else c

def makeKey (sectionName name : Bytes) : Bytes := (sectionName ++ assign :: name).map tolower

/-- What is kept for a key once it has been given one more value. -/
def extend (old : Option Bytes) (value : Bytes) : Bytes :=
  let old := old.getD []
  (if old.length > 0 then old ++ [newline] else old) ++ value

/-- `INIReader::ValueHandler`. -/
def valueHandler : Handler (Table Bytes Bytes) := fun values call =>
  let key := makeKey call.sectionName call.name
  (true, values.insert key (extend (values.lookup key) call.value))

/-- `INIReader`, without the set of sections. -/
structure IniReader where
  error : Int
  values : Table Bytes Bytes

/-- The constructor; there may be no file of the name. -/
def IniReader.new (file : Option Bytes) : IniReader :=
  let (error, values) := iniParse valueHandler file ∅
  { error, values }

namespace IniReader

def parseError (reader : IniReader) : Int := reader.error

def get (reader : IniReader) (sectionName name defaultValue : Bytes) : Bytes :=
  (reader.values.lookup (makeKey sectionName name)).getD defaultValue

end IniReader

/-! ### strtol -/

def digitValue (c : UInt8) : Option Nat :=
  if 48 ≤ c ∧ c ≤ 57 then some (c.toNat - 48)
  else if 97 ≤ c ∧ c ≤ 122 then some (c.toNat - 87)
  else if 65 ≤ c ∧ c ≤ 90 then some (c.toNat - 55)
  else none

def isDigit (base : Nat) (c : UInt8) : Bool :=
  match digitValue c with
  | some d => d < base
  | none => false

/-- What a sign makes of the number after it. -/
def sign : Bytes → Bool × Bytes
  | [] => (false, [])
  | c :: rest => if c = 45 then (true, rest) else if c = 43 then (false, rest) else (false, c :: rest)

/-- The base that the start of a number says, and the number without a prefix that is no digit
of it. `0x` is one only if a digit comes after it. -/
def baseOf : Bytes → Nat × Bytes
  | [] => (10, [])
  | c :: rest =>
    if c ≠ 48 then (10, c :: rest)
    else
      match rest with
      | x :: d :: more =>
        if (x = 120 ∨ x = 88) ∧ isDigit 16 d then (16, d :: more) else (8, c :: rest)
      | _ => (8, c :: rest)

def number (base : Nat) (digits : Bytes) : Nat :=
  digits.foldl (fun n c => n * base + (digitValue c).getD 0) 0

/-- `strtol` with base 0, for a `long` of 64 bits: the number, which saturates, and what `end`
points to. -/
def strtol (s : Bytes) : Int × Bytes :=
  let (negative, unsigned) := sign (lskip s)
  let (base, rest) := baseOf unsigned
  let digits := rest.takeWhile (isDigit base)
  if digits = [] then (0, s)
  else
    let n : Int := number base digits
    (if negative then max (-(2 ^ 63)) (-n) else min (2 ^ 63 - 1) n, rest.drop digits.length)

/-- What `GetInteger` makes of a string. -/
def toInteger (value : Bytes) (defaultValue : Int) : Int :=
  let (n, rest) := strtol value
  if rest.length < value.length then n else defaultValue

def IniReader.getInteger (reader : IniReader) (sectionName name : Bytes) (defaultValue : Int) : Int :=
  toInteger (reader.get sectionName name []) defaultValue

end Ini

/-! ### main -/

/-- `Config`, without the field that nothing reads. -/
structure Config where
  port : UInt16
  v4Host : UInt32
  serverName : Bytes
  httpPort : UInt16
  deriving DecidableEq, Repr

def defaultServerName : Bytes := ascii "FreeGrok/1.1b"
def defaultListenPort : Int := 6567
def freegrokMainSect : Bytes := ascii "freegrok"
def freegrokPortField : Bytes := ascii "port"
def freegrokMagicField : Bytes := ascii "magic"
def freegrokHttpPortField : Bytes := ascii "http_port"

/-- A `long` as the `uint16_t` that `Config` takes. -/
def toUInt16 (n : Int) : UInt16 := UInt16.ofNat (n % 2 ^ 16).toNat

/-- What `main` reads from the configuration file: the code it exits with, or what the server is
made with. The server's name is looked up under the default name. -/
def settings (file : Option Bytes) : Except Nat (Config × Bytes) :=
  let reader := Ini.IniReader.new file
  if reader.parseError ≠ 0 then .error 1
  else
    let port := reader.getInteger freegrokMainSect freegrokPortField defaultListenPort
    let magic := reader.get freegrokMainSect freegrokMagicField []
    let httpPort := reader.getInteger freegrokMainSect freegrokHttpPortField 8080
    match exitCode magic port httpPort with
    | some code => .error code
    | none =>
      .ok ({
        port := toUInt16 port
        v4Host := 0
        serverName := reader.get freegrokMainSect defaultServerName defaultServerName
        httpPort := toUInt16 httpPort }, magic)

end OpenGrok
