import ChassisCooling.Daemon.CommandLine
import ChassisCooling.Daemon.Loop
import ChassisCooling.Daemon.Startup

/-!
# The program

* `Daemon.start`: what an argument list leads to: output at once, or a running control loop.
* `Daemon.Service`: what the running loop works with.
-/

namespace ChassisCooling.Daemon

/-- What a program leaves behind. -/
structure Output where
  exit : UInt8
  stdout : String
  stderr : String
  deriving DecidableEq

/-- The state of the running program. -/
structure Service where
  configPath : String
  controller : Controller Probe Drive Recorder
  machine : Machine

inductive Started where
  | ended (output : Output)
  | running (loop : Loop Service)

/-! ## Error output -/

/-- A text with its further lines indented. -/
def indentLines (indent : String) (text : String) : String :=
  String.ofList (text.toList.flatMap fun c =>
    if c = '\n' then '\n' :: indent.toList else [c])

/-- Causes with their numbers, which are five places wide. -/
def numberedCauses (first : Nat) : List String → String
  | [] => ""
  | cause :: rest =>
    let number := toString first
    "\n" ++ String.ofList (List.replicate (5 - number.length) ' ') ++ number ++ ": " ++
      indentLines "       " cause ++ numberedCauses (first + 1) rest

/-- An error with its causes below it; several causes are numbered. -/
def errorReport : List String → String
  | [] => ""
  | [message] => "Error: " ++ message ++ "\n"
  | [message, cause] =>
    "Error: " ++ message ++ "\n\nCaused by:\n    " ++ indentLines "    " cause ++ "\n"
  | message :: causes =>
    "Error: " ++ message ++ "\n\nCaused by:" ++ numberedCauses 0 causes ++ "\n"

def failWith (chain : List String) : Started := .ended ⟨1, "", errorReport chain⟩

/-! ## Running -/

namespace Service

/-- A tick with every device read first. -/
def tick (s : Service) (now : Timestamp) : Option Service :=
  match s.controller.tick Machine.platform s.machine now { refresh := true } with
  | .ok (_, controller, machine) => some { s with controller, machine }
  | .error _ => none

/-- Reads the configuration again; the old one stays if that fails. -/
def reload (s : Service) : Except Error Unit × Service :=
  let (result, controller) := (reloadInPlace s.configPath s.machine.files).apply s.controller
  (result, { s with controller })

/-- The time to wait after a tick, if a timer can run that long. -/
def interval (s : Service) : Option Duration := s.controller.config.interval.toOption

def work : Work Service := ⟨fun now s => s.tick now, interval, reload⟩

end Service

/-- What the options lead to once the command line is understood. -/
def startWith (options : Options) (m : Machine) : Started :=
  match Config.load m.files options.configPath with
  | .error e => failWith (("failed to load " ++ options.configPath) :: e.chain)
  | .ok config =>
    if options.printConfig then .ended ⟨0, config.toValue.pretty ++ "\n", ""⟩
    else
      match build config options.hwmonRoot m.files with
      | .error (.error context e) => failWith (context :: e.chain)
      | .error (.breach _) => .ended ⟨101, "", ""⟩
      | .ok controller => .running (.start ⟨options.configPath, controller, m⟩)

def start (arguments : List String) (m : Machine) : Started :=
  match parseArguments arguments with
  | .error e => .ended ⟨1, "", "Error: " ++ e.message ++ "\n" ++ helpText⟩
  | .ok .help => .ended ⟨0, "", helpText⟩
  | .ok .version => .ended ⟨0, versionText, ""⟩
  | .ok (.run options) => startWith options m

end ChassisCooling.Daemon
