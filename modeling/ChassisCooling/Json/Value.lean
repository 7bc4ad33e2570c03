import ChassisCooling.Decimal.Style

/-!
# JSON values and their text

Values that the program writes: numbers know their width, since their digits depend on it, and the
fields of an object keep their order.

* `Json.Value`: values.
* `Json.Value.compact`: text without blanks.
* `Json.Value.pretty`: text with one item a line, indented by two spaces a level.
-/

namespace ChassisCooling.Json

inductive Value where
  | null
  | bool (b : Bool)
  | natural (n : Nat)
  | single (x : Single)
  | double (x : Double)
  | string (s : String)
  | array (items : List Value)
  | object (fields : List (String × Value))

namespace Value

/-- The value, or null where there is none. -/
def ofOption {α : Type} (encode : α → Value) : Option α → Value
  | none => .null
  | some a => encode a

/-! ## Texts of leaves -/

/-- A hexadecimal digit, in lower case. -/
def hexDigit (n : Nat) : Char := Nat.digitChar n

/-- One character of a string. -/
def escaped (c : Char) : List Char :=
  if c = '"' then ['\\', '"']
  else if c = '\\' then ['\\', '\\']
  else if c = '\x08' then ['\\', 'b']
  else if c = '\x0c' then ['\\', 'f']
  else if c = '\n' then ['\\', 'n']
  else if c = '\r' then ['\\', 'r']
  else if c = '\t' then ['\\', 't']
  else if c.toNat < 0x20 then
    ['\\', 'u', '0', '0', hexDigit (c.toNat / 16), hexDigit (c.toNat % 16)]
  else [c]

def quoted (s : String) : List Char := '"' :: (s.toList.flatMap escaped ++ ['"'])

/-- A number; null if it is not finite. -/
def number {f : Format} (x : Binary f) : List Char :=
  if x.isFinite then (x.write (.json f)).toList else "null".toList

/-! ## Layout

`none` writes on one line, `some depth` one item a line at that depth. -/

/-- The line break before an item at a depth. -/
def lineBreak : Option Nat → List Char
  | none => []
  | some depth => '\n' :: List.replicate (2 * depth) ' '

/-- What stands between a key and its value. -/
def afterKey : Option Nat → List Char
  | none => [':']
  | some _ => [':', ' ']

mutual

def chars (layout : Option Nat) : Value → List Char
  | null => "null".toList
  | bool b => (if b then "true" else "false").toList
  | natural n => (toString n).toList
  | single x => number x
  | double x => number x
  | string s => quoted s
  | array [] => ['[', ']']
  | array (v :: vs) =>
    '[' :: (itemChars (layout.map (· + 1)) (v :: vs) ++ lineBreak layout ++ [']'])
  | object [] => ['\x7b', '\x7d']
  | object (m :: ms) =>
    '\x7b' :: (fieldChars (layout.map (· + 1)) (m :: ms) ++ lineBreak layout ++ ['\x7d'])

def itemChars (layout : Option Nat) : List Value → List Char
  | [] => []
  | [v] => lineBreak layout ++ chars layout v
  | v :: vs => lineBreak layout ++ chars layout v ++ ',' :: itemChars layout vs

def fieldChars (layout : Option Nat) : List (String × Value) → List Char
  | [] => []
  | [(k, v)] => lineBreak layout ++ quoted k ++ afterKey layout ++ chars layout v
  | (k, v) :: ms =>
    lineBreak layout ++ quoted k ++ afterKey layout ++ chars layout v ++ ',' :: fieldChars layout ms

end

/-- The text without blanks. -/
def compact (v : Value) : String := String.ofList (v.chars none)

/-- The indented text. -/
def pretty (v : Value) : String := String.ofList (v.chars (some 0))

end Value

end ChassisCooling.Json
