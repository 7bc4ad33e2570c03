import ChassisCooling.History

/-!
# Exported rows

* `Export.Row`: one sample with the object and the stream it comes from.
* `Export.csvLine`: a row as a line of text, every field in quotes.
-/

namespace ChassisCooling.Export

structure Row where
  timestamp : Timestamp
  object : String
  stream : Stream
  value : Single
  deriving DecidableEq

namespace Row

def ofSample (object : String) (stream : Stream) (s : Sample) : Row :=
  ⟨s.timestamp, object, stream, s.value⟩

def toValue (r : Row) : Json.Value :=
  .object
    [("timestamp", .double r.timestamp), ("object", .string r.object),
      ("operation", .string r.stream.name), ("value", .single r.value)]

/-- The texts of a row's fields. -/
def fields (r : Row) : List String :=
  [r.timestamp.toPlainText, r.object, r.stream.name, r.value.toPlainText]

end Row

/-- The newest measured and the newest commanded sample of a history. -/
def newestRows (h : History) : List Row :=
  (h.lastMeasuredSample.map (Row.ofSample h.name .measured)).toList ++
    (h.lastCommandedSample.map (Row.ofSample h.name .commanded)).toList

/-! ## Lines of text -/

/-- A quote inside a field is written twice. -/
def doubled : List Char → List Char
  | [] => []
  | c :: cs => if c = '"' then '"' :: '"' :: doubled cs else c :: doubled cs

def quotedField (field : String) : List Char := '"' :: (doubled field.toList ++ ['"'])

/-- Quoted fields with commas between them. -/
def csvFields : List String → List Char
  | [] => []
  | [field] => quotedField field
  | field :: rest => quotedField field ++ ',' :: csvFields rest

/-- A row as a line, its line end included. -/
def csvLine (r : Row) : List Char := csvFields r.fields ++ ['\n']

def csvText (rows : List Row) : String := String.ofList (rows.flatMap csvLine)

end ChassisCooling.Export
