import ChassisCooling.Json.Token

/-!
# Reading JSON

Arrays and objects are read element by element into whatever the reader of an element makes of
them, so the faults of a text and of its shape are met in the order of the text.

* `Json.readSequence`, `Json.readObject`: arrays and objects.
* `Json.readSingle` and its siblings: values of one type.
* `Json.readValue`: a value of any kind, of which nothing is kept.
* `Json.ofText`: a whole text.
-/

namespace ChassisCooling.Json

/-! ## Sequences -/

/-- How a sequence is closed, and its faults. -/
structure Brackets where
  close : Char
  /-- The text ends where an element, a comma or the bracket could stand. -/
  ended : Fault
  /-- Something else than a comma or the bracket follows an element. -/
  separated : Fault

/-- What follows an opening bracket or an element. -/
inductive Next where
  | element (s : List Char)
  | closed (rest : List Char)

namespace Brackets

def list : Brackets := ⟨']', .endInList, .expectedItemEnd⟩

def object : Brackets := ⟨'\x7d', .endInObject, .expectedMemberEnd⟩

/-- What follows the opening bracket, if `first` is set, or else an element. -/
def next (b : Brackets) (first : Bool) (s : List Char) : Except Stop Next :=
  match skipBlanks s with
  | [] => .error (.on b.ended [])
  | c :: rest =>
    if c = b.close then .ok (.closed rest)
    else if first then .ok (.element (c :: rest))
    else if c = ',' then
      match skipBlanks rest with
      | [] => .error (.on .endInValue [])
      | d :: rest =>
        if d = b.close then .error (.on .trailingComma (d :: rest)) else .ok (.element (d :: rest))
    else .error (.on b.separated (c :: rest))

end Brackets

/-- The elements of a sequence up to its closing bracket, gathered one by one. Each takes a
character at least, so the length of the text is fuel enough. -/
def readElements {σ : Type} (b : Brackets) (element : σ → Reader σ) :
    Nat → Bool → σ → Reader σ
  | 0, _, _, s => .error (.on b.ended s)
  | fuel + 1, first, acc, s => do
    match ← b.next first s with
    | .closed rest => return (acc, rest)
    | .element s =>
      let (acc, rest) ← element acc s
      readElements b element fuel false acc rest

/-- A sequence whose opening bracket was read. -/
def readSequence {σ : Type} (b : Brackets) (element : σ → Reader σ) (acc : σ) :
    Reader σ :=
  fun s => readElements b element (s.length + 1) true acc s

def readKey : Reader String
  | '"' :: s => readString s
  | s => .error (.on .keyNotString s)

/-- What follows the colon after a key. -/
def readColon (s : List Char) : Except Stop (List Char) :=
  match skipBlanks s with
  | ':' :: rest => .ok rest
  | [] => .error (.on .endInObject [])
  | s => .error (.on .expectedColon s)

/-- An object whose opening bracket was read. `member` is given a key and what follows it. -/
def readObject {σ : Type} (member : σ → String → Reader σ) : σ → Reader σ :=
  readSequence .object fun acc s => do
    let (key, rest) ← readKey s
    member acc key rest

/-! ## Values of one type -/

/-- A number in a format. Whole numbers are rounded once; others were rounded to a double
before. -/
def readBinary (f : Format) (expected : String) (s : List Char) :
    Except Stop (Parsed (Binary f)) :=
  let s := skipBlanks s
  if startsNumber s then do
    let (n, rest) ← readNumber s
    return (n.toBinary f, rest)
  else .error (unexpected expected s)

def readSingle : Reader Single := readBinary .single "f32"

def readDouble : Reader Double := readBinary .double "f64"

/-- A count: a whole number that is not negative. -/
def readCount (s : List Char) : Except Stop (Parsed Nat) :=
  let s := skipBlanks s
  if startsNumber s then do
    let (n, rest) ← readNumber s
    match n with
    | .natural n => return (n, rest)
    | .negative _ => throw (.before (.wrongValue n.describe "usize") rest)
    | .real _ => throw (.before (.wrongKind n.describe "usize") rest)
  else .error (unexpected "usize" s)

def readBool (s : List Char) : Except Stop (Parsed Bool) :=
  match skipBlanks s with
  | 't' :: rest => readWord true "rue".toList rest
  | 'f' :: rest => readWord false "alse".toList rest
  | s => .error (unexpected "a boolean" s)

/-- A path, or none for null. -/
def readPath (s : List Char) : Except Stop (Parsed (Option String)) :=
  match skipBlanks s with
  | 'n' :: rest => readWord none "ull".toList rest
  | '"' :: rest => do
    let (path, rest) ← readString rest
    return (some path, rest)
  | s => .error (unexpected "path string" s)

/-! ## Values of any kind -/

/-- A value that opens no bracket. -/
def readLeaf (s : List Char) : Except Stop (Parsed Unit) := do
  let (_, rest) ← nameValue s
  return ((), rest)

/-- A value of any kind, within at most so many nested brackets. -/
def readValue (levels : Nat) (s : List Char) : Except Stop (Parsed Unit) :=
  match skipBlanks s with
  | '[' :: rest =>
    match levels with
    | 0 => .error (.on .tooDeep ('[' :: rest))
    | levels + 1 => readSequence .list (fun _ s => readValue levels s) () rest
  | '\x7b' :: rest =>
    match levels with
    | 0 => .error (.on .tooDeep ('\x7b' :: rest))
    | levels + 1 =>
      readObject
        (fun _ _ s => do
          let s ← readColon s
          readValue levels s)
        () rest
  | s => readLeaf s

/-- The most brackets that may be open at once. -/
def maxLevels : Nat := 127

/-! ## Whole texts -/

/-- A value that nothing but blanks follows. -/
def readWholly {α : Type} (read : Reader α) (s : List Char) : Except Stop α := do
  let (a, rest) ← read s
  match skipBlanks rest with
  | [] => return a
  | rest => throw (.on .trailingText rest)

/-- What a text holds. -/
def ofText {α : Type} (read : Reader α) (text : String) : Except TextError α :=
  (readWholly read text.toList).mapError (.ofStop text)

/-- Whether a text is JSON at all. -/
def checkText (text : String) : Except TextError Unit := ofText (readValue maxLevels) text

end ChassisCooling.Json
