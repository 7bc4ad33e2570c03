/-!
# Faults of a text

* `Json.Fault`: what can be wrong with a text, or with the shape of what it holds.
* `Json.Stop`: a fault and how much of the text was left where reading stopped.
* `Json.TextError`: a fault with its line and column.
-/

namespace ChassisCooling.Json

/-- The kinds of faults. -/
inductive Category where
  /-- The text ends too early. -/
  | truncated
  /-- The text breaks the rules. -/
  | malformed
  /-- The text keeps the rules, but holds something else than was asked for. -/
  | wrongShape
  deriving DecidableEq

inductive Fault where
  | endInValue
  | endInList
  | endInObject
  | endInString
  | expectedColon
  | expectedItemEnd
  | expectedMemberEnd
  | expectedWord
  | expectedValue
  | keyNotString
  | trailingComma
  | trailingText
  | tooDeep
  | badNumber
  | numberTooLarge
  | badEscape
  | controlCharacter
  /-- Half of a character pair where no pair can be. -/
  | loneHalf
  /-- The first half of a character pair without the second. -/
  | brokenPair
  | wrongKind (found expected : String)
  | wrongValue (found expected : String)
  | unknownField (name : String) (known : List String)
  | repeatedField (name : String)
  deriving DecidableEq

namespace Fault

def category : Fault → Category
  | endInValue | endInList | endInObject | endInString => .truncated
  | wrongKind .. | wrongValue .. | unknownField .. | repeatedField _ => .wrongShape
  | _ => .malformed

/-- A name as messages show it. -/
def ticked (name : String) : String := "`" ++ name ++ "`"

def message : Fault → String
  | endInValue => "EOF while parsing a value"
  | endInList => "EOF while parsing a list"
  | endInObject => "EOF while parsing an object"
  | endInString => "EOF while parsing a string"
  | expectedColon => "expected `:`"
  | expectedItemEnd => "expected `,` or `]`"
  | expectedMemberEnd => "expected `,` or `\x7d`"
  | expectedWord => "expected ident"
  | expectedValue => "expected value"
  | keyNotString => "key must be a string"
  | trailingComma => "trailing comma"
  | trailingText => "trailing characters"
  | tooDeep => "recursion limit exceeded"
  | badNumber => "invalid number"
  | numberTooLarge => "number out of range"
  | badEscape => "invalid escape"
  | controlCharacter => "control character (\\u0000-\\u001F) found while parsing a string"
  | loneHalf => "lone leading surrogate in hex escape"
  | brokenPair => "unexpected end of hex escape"
  | wrongKind found expected => "invalid type: " ++ found ++ ", expected " ++ expected
  | wrongValue found expected => "invalid value: " ++ found ++ ", expected " ++ expected
  | unknownField name known =>
    "unknown field " ++ ticked name ++ ", expected one of " ++ ", ".intercalate (known.map ticked)
  | repeatedField name => "duplicate field " ++ ticked name

end Fault

/-! ## Where reading stopped -/

/-- Why and where reading stopped. -/
structure Stop where
  fault : Fault
  /-- The bytes of the text that were not read. -/
  left : Nat
  deriving DecidableEq

def byteCount (s : List Char) : Nat := (String.ofList s).utf8ByteSize

namespace Stop

/-- Reading stopped before the rest of a text. -/
def before (fault : Fault) (rest : List Char) : Stop := ⟨fault, byteCount rest⟩

/-- Reading stopped at the first byte of the rest of a text, or at the end if nothing is left. -/
def on (fault : Fault) (rest : List Char) : Stop := ⟨fault, byteCount rest - 1⟩

end Stop

/-- A place in a text: its line, and the bytes of that line before it. -/
structure Place where
  line : Nat
  column : Nat
  deriving DecidableEq

namespace Place

/-- The place after so many bytes of a text. -/
def after (text : String) (count : Nat) : Place :=
  let bytes := text.toUTF8.toList.take count
  ⟨bytes.count 10 + 1, (bytes.reverse.takeWhile (· ≠ 10)).length⟩

/-- The place as it ends a message. -/
def suffix (p : Place) : String :=
  " at line " ++ toString p.line ++ " column " ++ toString p.column

end Place

/-- Why a text could not be read, and where. -/
structure TextError where
  fault : Fault
  place : Place
  deriving DecidableEq

namespace TextError

/-- Where reading of a text stopped. -/
def ofStop (text : String) (s : Stop) : TextError :=
  ⟨s.fault, .after text (text.utf8ByteSize - s.left)⟩

def message (e : TextError) : String := e.fault.message ++ e.place.suffix

end TextError

end ChassisCooling.Json
