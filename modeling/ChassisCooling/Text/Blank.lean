/-!
# Blanks

* `isBlank`: the white space of the character database.
* `trim`: a text without the blanks at its two ends.
-/

namespace ChassisCooling.Text

/-- White space: the ASCII blanks and the spaces and separators of the character database. -/
def isBlank (c : Char) : Bool :=
  let code := c.toNat
  (0x9 ≤ code && code ≤ 0xd) || code == 0x20 || code == 0x85 || code == 0xa0 || code == 0x1680 ||
    (0x2000 ≤ code && code ≤ 0x200a) || code == 0x2028 || code == 0x2029 || code == 0x202f ||
    code == 0x205f || code == 0x3000

/-- A list without the elements in front that satisfy `p`, and without those at its end. -/
def stripBoth (p : Char → Bool) (cs : List Char) : List Char :=
  ((cs.dropWhile p).reverse.dropWhile p).reverse

def trim (text : String) : String := String.ofList (stripBoth isBlank text.toList)

end ChassisCooling.Text
