import ChassisCooling.Decimal.Style
import ChassisCooling.Text.Quoted

/-!
# Descriptions of values

A value is described by its type's name and its fields on one line, as in
`Reading { name: "cpu", value: Some(40.0) }`.
-/

namespace ChassisCooling.Text

/-- A record of named fields, each already described. -/
def record (name : String) (fields : List (String × String)) : String :=
  name ++ " \x7b " ++
    ", ".intercalate (fields.map fun field => field.1 ++ ": " ++ field.2) ++ " \x7d"

/-- A value that may be missing. -/
def optional (value : Option String) : String :=
  match value with
  | none => "None"
  | some text => "Some(" ++ text ++ ")"

/-- A list in brackets. -/
def bracketed (items : List String) : String := "[" ++ ", ".intercalate items ++ "]"

def boolean (b : Bool) : String := if b then "true" else "false"

/-- A number that may be missing. -/
def optionalNumber {f : Format} (value : Option (Binary f)) : String :=
  optional (value.map (·.write .inspected))

end ChassisCooling.Text
