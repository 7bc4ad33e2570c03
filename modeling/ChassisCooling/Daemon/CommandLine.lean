/-!
# The command line

Options are read from left to right. Those with a value take the next argument whatever it looks
like; of repeated ones the last counts. Help and version end the reading.
-/

namespace ChassisCooling.Daemon

structure Options where
  configPath : String
  hwmonRoot : String
  printConfig : Bool
  deriving DecidableEq

def defaultConfigPath : String := "/etc/chassis-cooling/cooling.json"

def defaultHwmonRoot : String := "/sys/class/hwmon"

def Options.default : Options := ⟨defaultConfigPath, defaultHwmonRoot, false⟩

/-- What is asked for. -/
inductive Command where
  | run (options : Options)
  | help
  | version
  deriving DecidableEq

inductive UsageError where
  | missingValue (option : String)
  | unknownArgument (argument : String)
  deriving DecidableEq

def UsageError.message : UsageError → String
  | missingValue option => option ++ " requires a path argument"
  | unknownArgument argument => "Unknown argument: " ++ argument

/-- What an argument means where an option may stand. -/
inductive Token where
  | help
  | version
  | printConfig
  | config
  | hwmonRoot
  | unknown (argument : String)
  deriving DecidableEq

def Token.of (argument : String) : Token :=
  if argument = "-h" ∨ argument = "--help" then help
  else if argument = "-v" ∨ argument = "--version" then version
  else if argument = "--print-config" then printConfig
  else if argument = "-c" ∨ argument = "--config" then config
  else if argument = "-r" ∨ argument = "--hwmon-root" then hwmonRoot
  else unknown argument

/-- The command of the arguments that remain, after some options were set. -/
def parseFrom (options : Options) : List String → Except UsageError Command
  | [] => .ok (.run options)
  | argument :: rest =>
    match Token.of argument with
    | .help => .ok .help
    | .version => .ok .version
    | .printConfig => parseFrom { options with printConfig := true } rest
    | .config =>
      match rest with
      | [] => .error (.missingValue "--config")
      | path :: rest => parseFrom { options with configPath := path } rest
    | .hwmonRoot =>
      match rest with
      | [] => .error (.missingValue "--hwmon-root")
      | path :: rest => parseFrom { options with hwmonRoot := path } rest
    | .unknown argument => .error (.unknownArgument argument)

/-- The command of an argument list without the program's name. -/
def parseArguments (arguments : List String) : Except UsageError Command :=
  parseFrom .default arguments

/-! ## Texts -/

def programVersion : String := "0.1.0"

def versionText : String := "coolingd " ++ programVersion ++ "\n"

def helpLines : List String :=
  ["coolingd " ++ programVersion ++ " - Chassis cooling daemon",
    "",
    "USAGE:",
    "    coolingd [OPTIONS]",
    "",
    "OPTIONS:",
    "    -c, --config PATH       Configuration file (default " ++ defaultConfigPath ++ ")",
    "    -r, --hwmon-root PATH   hwmon sysfs root (default " ++ defaultHwmonRoot ++ ")",
    "        --print-config      Print the effective configuration and exit",
    "    -v, --version           Print version",
    "    -h, --help              Print this help",
    "",
    "ENVIRONMENT:",
    "    COOLINGD_LOG            Log filter (trace, debug, info, warn, error)",
    "",
    "SIGNALS:",
    "    SIGHUP                  Reload the configuration file",
    "    SIGINT, SIGTERM         Stop after the current tick"]

def helpText : String := String.join (helpLines.map (· ++ "\n"))

end ChassisCooling.Daemon
