import ChassisCooling.Daemon.Program
import Std.Async.Signal

/-!
# The executable

The program works on a file tree. Here that tree is kept in step with the machine's files: what the
program may look at is read before it is started, ticked or told to reload, and what it changed is
written back afterwards. All decisions are the library's.

* `Daemon.capture`: the files that an argument list makes the program look at.
* `Daemon.writeBack`: the changes of a tick.
* `Daemon.serve`: the control loop, run by the clock and by signals.
-/

namespace ChassisCooling.Daemon

open Files (Node Tree)
open Files.Path (join)

/-! ## The machine's files -/

/-- What a path leads to on the machine. Reading a directory fails with code 21; below a file there
is nothing. -/
def readNode (path : String) : IO (Option Node) := do
  try
    return some (.file (← IO.FS.readBinFile path))
  catch
    | .noFileOrDirectory .. => return none
    | .inappropriateType _ code _ => return if code = 21 then some .directory else none
    | e => throw e

/-- The same for a device's file, which may be there and yet refuse to be read. -/
def readDeviceNode (path : String) : IO (Option Node) := do
  try readNode path catch _ => return none

/-- A tree with a node at a path, and the directories above it. -/
def place (t : Tree) (path : String) : Node → Tree
  | .directory => (t.createDirectories path).2
  | .file content =>
    let t := ((Files.Path.parent? path).map fun parent => (t.createDirectories parent).2).getD t
    match t.write path content with
    | .ok t => t
    | .error _ => t
  | .link _ => t

/-- A tree with what a path leads to on the machine. -/
def copyIn (read : String → IO (Option Node)) (t : Tree) (path : String) : IO Tree := do
  match ← read path with
  | some node => return place t path node
  | none => return t

/-- The names that the kernel gives to chips. -/
def chipEntries : List String := (List.range 64).map fun n => "hwmon" ++ toString n

/-- The names that the kernel gives to a chip's files. The file that hands over control of a fan
comes before the one with its duty cycle, and changes are written in this order. -/
def channelEntries : List String :=
  "name" :: (List.range 33).flatMap fun n =>
    let temp := "temp" ++ toString n
    let pwm := "pwm" ++ toString n
    [temp ++ "_input", temp ++ "_max", temp ++ "_crit", temp ++ "_label", pwm ++ "_enable", pwm]

/-- A tree with a chip's files, if there is such a chip. -/
def copyChip (t : Tree) (directory : String) : IO Tree := do
  match ← readDeviceNode directory with
  | some .directory =>
    (channelEntries.map (join directory)).foldlM (copyIn readDeviceNode)
      (place t directory .directory)
  | _ => return t

/-- A tree of nothing but the directories above the start. -/
def emptyTree : IO Tree := do
  let path := toString (← IO.currentDir)
  let start := (Files.Path.components path).filter (· ≠ "")
  return { ((⟨[], []⟩ : Tree).createDirectories path).2 with start }

/-- The files that an argument list makes the program look at. -/
def capture (arguments : List String) : IO Tree := do
  let t ← emptyTree
  match parseArguments arguments with
  | .ok (.run options) =>
    let t ← copyIn readNode t options.configPath
    let t ← copyIn readDeviceNode t options.hwmonRoot
    (chipEntries.map (join options.hwmonRoot)).foldlM copyChip t
  | _ => return t

/-- Writes one changed entry. A file that was not looked at is added to. -/
def writeNode (path : String) (before : Option Node) : Node → IO Unit
  | .directory => if before.isNone then IO.FS.createDirAll path else return
  | .link _ => return
  | .file content =>
    match before with
    | some (.file old) => if content != old then IO.FS.writeBinFile path content else return
    | _ => do (← IO.FS.Handle.mk path .append).write content

/-- Writes what differs between two trees. What cannot be written is reported and left out. -/
def writeBack (before after : Tree) : IO Unit :=
  after.entries.forM fun (location, node) => do
    try writeNode ("/" ++ "/".intercalate location) (before.node? location) node
    catch e => IO.eprintln (toString e)

/-! ## Signals -/

/-- A signal and its next arrival. -/
structure Watch where
  waiter : Std.Async.Signal.Waiter
  arrival : Std.Async.AsyncTask Int

def Watch.start (signal : Std.Async.Signal) : IO Watch := do
  let waiter ← Std.Async.Signal.Waiter.mk signal true
  return ⟨waiter, ← waiter.wait⟩

def Watch.hasArrived (w : Watch) : IO Bool := IO.hasFinished w.arrival

/-- Watches for the arrival after the last one. -/
def Watch.next (w : Watch) : IO Watch := return { w with arrival := ← w.waiter.wait }

structure Watches where
  hangup : Watch
  interrupt : Watch
  terminate : Watch

def Watches.start : IO Watches :=
  return ⟨← Watch.start .sighup, ← Watch.start .sigint, ← Watch.start .sigterm⟩

/-! ## The loop -/

/-- Waits for a signal or for a time in nanoseconds, and tells what happens then. -/
partial def awaitEvents (w : Watches) (deadline : Nat) : IO (List Event × Watches) := do
  if ← w.hangup.hasArrived then
    return ([.hangupArrives, .takeHangup], { w with hangup := ← w.hangup.next })
  if ← w.interrupt.hasArrived then
    return ([.requestStop, .wakeUp, .takePermit], { w with interrupt := ← w.interrupt.next })
  if ← w.terminate.hasArrived then
    return ([.terminateArrives, .takeTerminate, .finishRequest],
      { w with terminate := ← w.terminate.next })
  if deadline ≤ (← IO.monoNanosNow) then return ([.timerExpires, .timeout], w)
  IO.sleep 10
  awaitEvents w deadline

/-- A loop that sees the files of a tree. -/
def Loop.seeing (l : Loop Service) (files : Tree) : Loop Service :=
  { l with state.machine.files := files }

/-- The time of a count of nanoseconds. -/
def timestamp (nanoseconds : Nat) : Timestamp :=
  ((Duration.ofNanoseconds? nanoseconds).getD .zero).toSeconds

/-- The exit code after a breach. -/
def breachExit : UInt32 := 101

/-- Runs the loop until it stops. -/
partial def serve (arguments : List String) (w : Watches) (l : Loop Service) : IO UInt32 := do
  let some l := l.run Service.work [.check] | return breachExit
  if l.phase = .stopped then return 0
  let before ← capture arguments
  let now := timestamp (← IO.monoNanosNow)
  let some l := (l.seeing before).step Service.work (.finishTick now) | return breachExit
  writeBack before l.state.machine.files
  let some interval := l.state.interval | return breachExit
  let (events, w) ← awaitEvents w ((← IO.monoNanosNow) + interval.nanoseconds)
  let some l := (l.seeing (← capture arguments)).run Service.work events | return breachExit
  serve arguments w l

/-- Prints what a program leaves behind. -/
def Output.emit (o : Output) : IO UInt32 := do
  IO.print o.stdout
  IO.eprint o.stderr
  return o.exit.toUInt32

end ChassisCooling.Daemon

open ChassisCooling in
/-- The program. -/
def main (arguments : List String) : IO UInt32 := do
  match Daemon.start arguments { Machine.blank with files := ← Daemon.capture arguments } with
  | .ended output => output.emit
  | .running loop => Daemon.serve arguments (← Daemon.Watches.start) loop
