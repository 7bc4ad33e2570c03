import ChassisCooling.Text.Hidden

/-!
# Quoted texts

The form in which a text stands inside a description of a value: in double quotes, with escapes
for quotes, backslashes, line ends and everything that would not be seen.
-/

namespace ChassisCooling.Text

/-- A code point by its hexadecimal digits. -/
def codeEscape (c : Char) : String :=
  "\\u\x7b" ++ String.ofList (Nat.toDigits 16 c.toNat) ++ "\x7d"

/-- One character of a quoted text. -/
def quotedChar (c : Char) : String :=
  if c = '\x00' then "\\0"
  else if c = '\t' then "\\t"
  else if c = '\r' then "\\r"
  else if c = '\n' then "\\n"
  else if c = '\\' then "\\\\"
  else if c = '"' then "\\\""
  else if isCombining c || isHidden c then codeEscape c
  else c.toString

/-- A text in quotes. -/
def quote (text : String) : String :=
  "\"" ++ String.join (text.toList.map quotedChar) ++ "\""

end ChassisCooling.Text
