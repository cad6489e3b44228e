import SoundLedger.Binary64.Text
import SoundLedger.Path

/-!
# The command line

What a command line can ask for, and the words it is made of. There is a top level and one level for
each command. The options for the ledger and the settings and the flags for more log messages and
for help belong to every level.
-/

namespace SoundLedger.CommandLine

/-- A command with its arguments. -/
inductive Command where
  | recordRms (rms peak : Binary64) (latitude longitude : String)
  | recordDb (level : Binary64) (latitude longitude : String)
  | list
  | inspect (id : UInt64)
  | stats
deriving DecidableEq

/-- What a command line asks for. -/
structure Invocation where
  verbose : Bool
  ledger : Option Path
  config : Option Path
  command : Option Command
deriving DecidableEq

/-- Why a command line asks for nothing that can be run. -/
inductive Stop where
  | help
  | version
  | unknownArgument
  | unknownCommand
  /-- An option or a flag occurs twice on one level. -/
  | repeated
  | missingArgument
  /-- A value is no number. -/
  | invalidValue
  /-- An option has no value, or an empty path. -/
  | emptyValue
  /-- A flag has a value. -/
  | unexpectedValue
deriving DecidableEq, Repr

/-- The exit code of a stopped command line. -/
def Stop.exitCode : Stop → Nat
  | .help | .version => 0
  | _ => 2

/-- The version of the program. -/
def programVersion : String := "0.1.0"

/-- What a stopped command line prints, apart from help and advice on usage. -/
def Stop.output? : Stop → Option String
  | .version => some ("geonoise " ++ programVersion ++ "\n")
  | _ => none

/-- How the program is called. -/
def usage : String :=
  "\n".intercalate
    ["Usage: geonoise [OPTIONS] [COMMAND]",
     "",
     "Commands:",
     "  record-rms --rms <RMS> --peak <PEAK> --lat <LAT> --lng <LNG>",
     "  record-db --level <LEVEL> --lat <LAT> --lng <LNG>",
     "  list",
     "  show <ID>",
     "  stats",
     "  help",
     "",
     "Options:",
     "  -v, --verbose",
     "  -l, --ledger <PATH>",
     "  -c, --config <PATH>",
     "  -h, --help",
     "  -V, --version",
     ""]

/-- Why a command line was stopped, in words. -/
def Stop.reason : Stop → String
  | .help => "help was asked for"
  | .version => "the version was asked for"
  | .unknownArgument => "there is an argument that is not known"
  | .unknownCommand => "there is no such command"
  | .repeated => "an option is given twice"
  | .missingArgument => "the command needs more arguments"
  | .invalidValue => "a value is not a number, or too great"
  | .emptyValue => "an option needs a value"
  | .unexpectedValue => "a flag takes no value"

/-! ## Words -/

/-- The name of a command. -/
inductive Verb where
  | recordRms
  | recordDb
  | list
  | inspect
  | stats
deriving DecidableEq, Repr

def Verb.name : Verb → String
  | .recordRms => "record-rms"
  | .recordDb => "record-db"
  | .list => "list"
  | .inspect => "show"
  | .stats => "stats"

def Verb.all : List Verb := [.recordRms, .recordDb, .list, .inspect, .stats]

def Verb.ofName? (word : String) : Option Verb := Verb.all.find? fun verb => verb.name == word

/-- An option with a value. -/
inductive Opt where
  | ledger
  | config
  | rms
  | peak
  | level
  | lat
  | lng
deriving DecidableEq, Repr

namespace Opt

def long : Opt → String
  | .ledger => "ledger"
  | .config => "config"
  | .rms => "rms"
  | .peak => "peak"
  | .level => "level"
  | .lat => "lat"
  | .lng => "lng"

def short? : Opt → Option Char
  | .ledger => some 'l'
  | .config => some 'c'
  | _ => none

/-- Whether the next word is the value of the option even if it looks like an option itself. -/
def takesAnyWord : Opt → Bool
  | .ledger | .config => false
  | _ => true

/-- Why a value does not suit the option, if it does not. -/
def objection? (value : String) : Opt → Option Stop
  | .ledger | .config => if value = "" then some .emptyValue else none
  | .rms | .peak | .level =>
    if (Binary64.ofText? value).isNone then some .invalidValue else none
  | .lat | .lng => none

end Opt

/-- A word without a value. -/
inductive Flag where
  | verbose
  | help
  | version
deriving DecidableEq, Repr

def Flag.long : Flag → String
  | .verbose => "verbose"
  | .help => "help"
  | .version => "version"

def Flag.short : Flag → Char
  | .verbose => 'v'
  | .help => 'h'
  | .version => 'V'

/-! ## Levels -/

/-- The level of a word: the top level, or that of a command. -/
abbrev Level := Option Verb

namespace Level

/-- The options that a command needs. -/
def required : Level → List Opt
  | some .recordRms => [.rms, .peak, .lat, .lng]
  | some .recordDb => [.level, .lat, .lng]
  | _ => []

def options (level : Level) : List Opt := required level ++ [.ledger, .config]

def flags (level : Level) : List Flag :=
  if level.isNone then [.verbose, .help, .version] else [.verbose, .help]

end Level

end SoundLedger.CommandLine
