import ChassisCooling.Config.Text
import ChassisCooling.Files.Tree

/-!
# Loading a configuration

A path that leads nowhere stands for the defaults. Anything else must be a file that can be read,
and what it holds must be a valid configuration.
-/

namespace ChassisCooling.Config

/-- The configuration of a text, if the text has the form of one and its fields are valid. -/
def ofValidText (text : String) : Except Error Config := do
  let c ← (ofText text).mapError .jsonParse
  c.validate
  return c

def load (t : Files.Tree) (path : String) : Except Error Config := do
  if ¬t.holds path then return default
  let text ← (t.readText path).mapError (.fileRead path)
  ofValidText text

end ChassisCooling.Config
