import ChassisCooling.Json.Fault
import ChassisCooling.Json.Number
import ChassisCooling.Text.Quoted

/-!
# The tokens of JSON

Every reader takes the rest of a text and returns what it read with the rest after it.

* `Json.skipBlanks`, `Json.readWord`: what stands between and around values.
* `Json.readString`: the characters of a string.
* `Json.readNumber`: numbers.
* `Json.unexpected`: the fault of a value of another kind than the expected one.
-/

namespace ChassisCooling.Json

/-- What was read, with the rest of the text. -/
abbrev Parsed (α : Type) := α × List Char

/-- Reads a value from the front of a text, or says where it stopped. -/
abbrev Reader (α : Type) := List Char → Except Stop (Parsed α)

def isBlank (c : Char) : Bool := c = ' ' ∨ c = '\n' ∨ c = '\t' ∨ c = '\r'

def skipBlanks (s : List Char) : List Char := s.dropWhile isBlank

/-- A value after the letters of a word that remain. -/
def readWord {α : Type} (value : α) : List Char → Reader α
  | [], s => .ok (value, s)
  | _ :: _, [] => .error (.on .endInValue [])
  | w :: word, c :: s =>
    if c = w then readWord value word s else .error (.on .expectedWord (c :: s))

/-! ## Strings -/

def hexValue? (c : Char) : Option Nat :=
  if '0' ≤ c ∧ c ≤ '9' then some (c.toNat - '0'.toNat)
  else if 'a' ≤ c ∧ c ≤ 'f' then some (c.toNat - 'a'.toNat + 10)
  else if 'A' ≤ c ∧ c ≤ 'F' then some (c.toNat - 'A'.toNat + 10)
  else none

/-- Where reading stops if the next four bytes are no hexadecimal digits. -/
def badHex (s : List Char) : Stop :=
  if byteCount s < 4 then .on .endInString [] else ⟨.badEscape, byteCount s - 4⟩

/-- Four hexadecimal digits. -/
def readHex (s : List Char) : Except Stop (Parsed Nat) :=
  match s with
  | a :: b :: c :: d :: rest =>
    match hexValue? a, hexValue? b, hexValue? c, hexValue? d with
    | some a, some b, some c, some d => .ok (((a * 16 + b) * 16 + c) * 16 + d, rest)
    | _, _, _, _ => .error (badHex s)
  | _ => .error (badHex s)

/-- The second half of a character outside the basic plane, whose first half is `high`. -/
def readSecondHalf (high : Nat) : Reader Char
  | [] => .error (.on .endInString [])
  | '\\' :: [] => .error (.on .endInString [])
  | '\\' :: 'u' :: s => do
    let (low, rest) ← readHex s
    if 0xdc00 ≤ low ∧ low ≤ 0xdfff then
      return (Char.ofNat ((high - 0xd800) * 0x400 + (low - 0xdc00) + 0x10000), rest)
    else
      throw (.before .loneHalf rest)
  | '\\' :: s => .error (.on .brokenPair s)
  | s => .error (.on .brokenPair s)

/-- The character of a code in four hexadecimal digits; half a character must be followed by its
other half. -/
def readCode (s : List Char) : Except Stop (Parsed Char) := do
  let (code, rest) ← readHex s
  if 0xdc00 ≤ code ∧ code ≤ 0xdfff then throw (.before .loneHalf rest)
  else if 0xd800 ≤ code ∧ code ≤ 0xdbff then readSecondHalf code rest
  else return (Char.ofNat code, rest)

/-- What follows a backslash. -/
def readEscape : Reader Char
  | [] => .error (.on .endInString [])
  | '"' :: s => .ok ('"', s)
  | '\\' :: s => .ok ('\\', s)
  | '/' :: s => .ok ('/', s)
  | 'b' :: s => .ok ('\x08', s)
  | 'f' :: s => .ok ('\x0c', s)
  | 'n' :: s => .ok ('\n', s)
  | 'r' :: s => .ok ('\r', s)
  | 't' :: s => .ok ('\t', s)
  | 'u' :: s => readCode s
  | s => .error (.on .badEscape s)

/-- The characters of a string up to its closing quote. Each step takes a character at least, so
the length of the text is fuel enough. -/
def readCharsWith : Nat → Reader (List Char)
  | 0, s => .error (.on .endInString s)
  | _ + 1, [] => .error (.on .endInString [])
  | fuel + 1, c :: s =>
    if c = '"' then .ok ([], s)
    else if c = '\\' then do
      let (d, rest) ← readEscape s
      let (ds, rest) ← readCharsWith fuel rest
      return (d :: ds, rest)
    else if c.toNat < 0x20 then .error (.on .controlCharacter (c :: s))
    else do
      let (cs, rest) ← readCharsWith fuel s
      return (c :: cs, rest)

/-- A string whose opening quote was read. -/
def readString (s : List Char) : Except Stop (Parsed String) := do
  let (cs, rest) ← readCharsWith (s.length + 1) s
  return (String.ofList cs, rest)

/-! ## Numbers -/

/-- Digits, of which there must be one. -/
def readDigits (s : List Char) : Except Stop (Parsed (List Char)) :=
  match s with
  | [] => .error (.on .endInValue [])
  | c :: _ =>
    if c.isDigit then .ok (s.takeWhile Char.isDigit, s.dropWhile Char.isDigit)
    else .error (.on .badNumber s)

/-- The digits before the point; a zero stands alone. -/
def readWhole (s : List Char) : Except Stop (Parsed (List Char)) :=
  match s with
  | '0' :: c :: s =>
    if c.isDigit then .error (.on .badNumber (c :: s)) else .ok (['0'], c :: s)
  | s => readDigits s

/-- The digits after a point, if there is one. -/
def readFraction : Reader (Option (List Char))
  | '.' :: s => do
    let (digits, rest) ← readDigits s
    return (some digits, rest)
  | s => .ok (none, s)

/-- The largest exponent that is read to its end. -/
def maxExponent : Nat := 2147483647

/-- The value of digits after those of `n`, up to the first one that takes it beyond the largest
exponent. -/
def takeExponent (n : Nat) : List Char → Parsed Nat
  | [] => (n, [])
  | c :: s =>
    if ¬c.isDigit then (n, c :: s)
    else if maxExponent < withDigit n c then (withDigit n c, s)
    else takeExponent (withDigit n c) s

/-- The digits of an exponent whose sign was read. Digits may be left over, where all of them
would put any number but zero out of range. -/
def readPower (sign : Int) (s : List Char) : Except Stop (Parsed (Option Int)) := do
  let _ ← readDigits s
  let (value, rest) := takeExponent 0 s
  return (some (sign * value), rest)

/-- The value after an `e`, if there is one. -/
def readExponent (s : List Char) : Except Stop (Parsed (Option Int)) :=
  match s with
  | c :: rest =>
    if c = 'e' ∨ c = 'E' then
      match rest with
      | '+' :: rest => readPower 1 rest
      | '-' :: rest => readPower (-1) rest
      | rest => readPower 1 rest
    else .ok (none, s)
  | [] => .ok (none, [])

/-- A number whose sign was read. -/
def readUnsigned (negative : Bool) (s : List Char) : Except Stop (Parsed Number) := do
  let (whole, rest) ← readWhole s
  let (places, rest) ← readFraction rest
  let (exponent, rest) ← readExponent rest
  match numberOf negative whole places exponent with
  | some n => return (n, rest.dropWhile Char.isDigit)
  | none => throw (.before .numberTooLarge rest)

def readNumber : Reader Number
  | '-' :: s => readUnsigned true s
  | s => readUnsigned false s

/-- Whether a number stands at the front of a text. -/
def startsNumber : List Char → Bool
  | [] => false
  | c :: _ => c = '-' ∨ c.isDigit

/-! ## Values of another kind -/

/-- What a message calls the value at the front of a text. An array or object is called by its
kind before any of it is read. -/
def nameValue (s : List Char) : Except Stop (Parsed String) :=
  match s with
  | '"' :: rest => do
    let (text, rest) ← readString rest
    return ("string " ++ Text.quote text, rest)
  | '[' :: _ => .ok ("sequence", s)
  | '\x7b' :: _ => .ok ("map", s)
  | 'n' :: rest => readWord "null" "ull".toList rest
  | 't' :: rest => readWord "boolean `true`" "rue".toList rest
  | 'f' :: rest => readWord "boolean `false`" "alse".toList rest
  | [] => .error (.on .endInValue [])
  | s =>
    if startsNumber s then do
      let (n, rest) ← readNumber s
      return (n.describe, rest)
    else .error (.on .expectedValue s)

/-- Where reading stops at a value of another kind than the expected one. -/
def unexpected (expected : String) (s : List Char) : Stop :=
  match nameValue s with
  | .ok (found, rest) => .before (.wrongKind found expected) rest
  | .error stop => stop

end ChassisCooling.Json
