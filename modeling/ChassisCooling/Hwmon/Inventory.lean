import ChassisCooling.Hwmon.Channel

/-!
# Discovery

Every chip is a directory below the root. Its channels are found by their file names.

* `Hwmon.channelIndex`: the number in a channel's file name.
* `Hwmon.discover`: all channels below a root, each kind sorted by name.
-/

namespace ChassisCooling.Hwmon

open Files (Tree)
open Files.Path (join)

/-- All channels below a root. -/
structure Inventory where
  fans : List FanChannel
  thermals : List ThermalChannel

namespace Inventory

def empty : Inventory := ⟨[], []⟩

instance : Inhabited Inventory := ⟨empty⟩

def isEmpty (i : Inventory) : Bool := i.fans.isEmpty && i.thermals.isEmpty

end Inventory

/-- The digits between two texts, if that is what a name consists of. -/
def between (before after : List Char) (name : List Char) : Option (List Char) :=
  if before.isPrefixOf name then
    let rest := name.drop before.length
    let digits := rest.takeWhile Char.isDigit
    if rest.drop digits.length = after then some digits else none
  else none

/-- The 32-bit number between two texts, at least one digit long. -/
def channelIndex (before after name : String) : Option Nat :=
  match between before.toList after.toList name.toList with
  | some [] | none => none
  | some digits =>
    match Text.readUnsigned (UInt32.size - 1) digits with
    | .ok index => some index
    | .error _ => none

def thermalIndex (name : String) : Option Nat := channelIndex "temp" "_input" name

def fanIndex (name : String) : Option Nat := channelIndex "pwm" "" name

/-- A chip's name: the text of its name file, else the name of its directory. -/
def chipName (t : Tree) (directory entry : String) : String :=
  (readLabel t (join directory "name")).getD entry

/-- The channels of one chip, in the order of its directory. A chip that cannot be read has
none. -/
def chipChannels (t : Tree) (directory entry : String) : Inventory :=
  let chip := chipName t directory entry
  match t.names directory with
  | .error _ => .empty
  | .ok names =>
    { thermals := names.filterMap fun name =>
        (thermalIndex name).map (ThermalChannel.describedAt t chip directory)
      fans := names.filterMap fun name => (fanIndex name).map (FanChannel.ofIndex chip directory) }

/-- All chips below a root, in the order of its directory. -/
def chips (t : Tree) (root : String) (entries : List String) : List Inventory :=
  (entries.filter fun entry => t.isDirectory (join root entry)).map fun entry =>
    chipChannels t (join root entry) entry

/-- All channels below a root. Channels of one name keep the order in which they were found. -/
def discover (t : Tree) (root : String) : Except Error Inventory := do
  if ¬t.isDirectory root then
    throw (.hardwareNotFound ("hwmon root " ++ root ++ " is not a directory"))
  let entries ← (t.names root).mapError .io
  let found := chips t root entries
  return {
    fans := (found.flatMap Inventory.fans).mergeSort fun a b => a.name ≤ b.name
    thermals := (found.flatMap Inventory.thermals).mergeSort fun a b => a.name ≤ b.name }

end ChassisCooling.Hwmon
