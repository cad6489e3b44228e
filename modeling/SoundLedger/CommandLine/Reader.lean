import SoundLedger.CommandLine.Basic
import SoundLedger.Text.Digit

/-!
# Reading a command line

Words are taken one by one. A value is not looked at when it is met but when the next option, flag
or argument of its level is, or at the end of the level; until then it is *pending*. Of two faults
on a command line, this decides which one is reported. The words of the command are read to their
end before a value that is still pending on the top level.
-/

namespace SoundLedger.CommandLine

/-- What a value belongs to: an option, or the argument of a command that takes one. -/
inductive Slot where
  | option (name : Opt)
  | argument
deriving DecidableEq, Repr

/-- What has been read of a level. -/
structure Progress where
  verbose : Bool
  values : List (Slot × String)
  /-- What the last value belongs to, and the value itself once it has been met. -/
  pending : Option (Slot × Option String)
deriving DecidableEq

namespace Progress

def start : Progress := ⟨false, [], none⟩

/-- The whole number that a text writes, if it fits 64 bits. -/
def readId? (text : String) : Option UInt64 :=
  (Digit.readUnsigned? (UInt64.size - 1) text.toList).map UInt64.ofNat

/-- Why a value does not suit what it belongs to, if it does not. -/
def objection? (value : String) : Slot → Option Stop
  | .option name => name.objection? value
  | .argument => if (readId? value).isNone then some .invalidValue else none

/-- The value of an option or argument, once it has been settled. -/
def value? (p : Progress) (slot : Slot) : Option String := p.values.lookup slot

/-- Looks at the pending value. -/
def settle (p : Progress) : Except Stop Progress :=
  match p.pending with
  | none => .ok p
  | some (_, none) => .error .emptyValue
  | some (slot, some value) =>
    if (p.value? slot).isSome then .error .repeated
    else
      match objection? value slot with
      | some stop => .error stop
      | none => .ok { p with values := (slot, value) :: p.values, pending := none }

/-- Takes a flag. -/
def takeFlag (p : Progress) (flag : Flag) : Except Stop Progress := do
  let p ← p.settle
  match flag with
  | .help => .error .help
  | .version => .error .version
  | .verbose => if p.verbose then .error .repeated else .ok { p with verbose := true }

/-- Takes an option whose value is in the same word or comes with the next one. A value in the same
word is looked at once. -/
def takeOption (p : Progress) (name : Opt) (attached : Option String) : Except Stop Progress := do
  let p ← p.settle
  let p := { p with pending := some (.option name, attached) }
  if attached.isSome then p.settle else .ok p

/-- The option that waits for its value. -/
def awaiting? (p : Progress) : Option Opt :=
  match p.pending with
  | some (.option name, none) => some name
  | _ => none

/-- Gives the waiting option its value. -/
def fill (p : Progress) (word : String) : Progress :=
  { p with pending := p.pending.map fun waiting => (waiting.1, some word) }

/-! ## Options and flags in one word -/

/-- Takes a word that starts with two hyphens, given without them. -/
def takeLong (level : Level) (p : Progress) (body : List Char) : Except Stop Progress :=
  let name := String.ofList (body.takeWhile (· != '='))
  let attached := match body.dropWhile (· != '=') with
    | [] => none
    | _ :: value => some (String.ofList value)
  match level.flags.find? fun flag => flag.long == name with
  | some flag => if attached.isSome then .error .unexpectedValue else p.takeFlag flag
  | none =>
    match level.options.find? fun option => option.long == name with
    | some option => p.takeOption option attached
    | none => .error .unknownArgument

/-- Takes a word that starts with one hyphen, given without it: flags, and at the end an option with
its value. -/
def takeShort (level : Level) (p : Progress) : List Char → Except Stop Progress
  | [] => .ok p
  | c :: rest =>
    match level.flags.find? fun flag => flag.short == c with
    | some flag => do takeShort level (← p.takeFlag flag) rest
    | none =>
      match level.options.find? fun option => option.short? == some c with
      | some option =>
        p.takeOption option <| match rest with
          | [] => none
          | '=' :: value => some (String.ofList value)
          | value => some (String.ofList value)
      | none => .error .unknownArgument

/-- Takes a word that is no option. Only one command has an argument, and only one. The top level
has none: there the name of a command is surplus, and any other word is an unknown command. -/
def takeArgument (level : Level) (p : Progress) (word : String) : Except Stop Progress :=
  let alreadyGiven :=
    (p.value? .argument).isSome || (p.pending.map Prod.fst) == some Slot.argument
  if level = some .inspect ∧ !alreadyGiven then do
    let p ← p.settle
    return { p with pending := some (.argument, some word) }
  else if level.isNone ∧ (Verb.ofName? word).isNone ∧ word ≠ "help" then .error .unknownCommand
  else .error .unknownArgument

end Progress

/-! ## Levels -/

/-- Why a request for help on some words stops. -/
def helpOn : List String → Stop
  | [] => .help
  | [word] => if (Verb.ofName? word).isSome || word == "help" then .help else .unknownCommand
  | _ => .unknownCommand

/-- Takes words after a bare `--`, none of which is an option. -/
def scanArguments (level : Level) (p : Progress) : List String → Except Stop Progress
  | [] => .ok p
  | word :: rest => do scanArguments level (← p.takeArgument level word) rest

/-- Takes the words of a level. On the top level a command ends them; the words after it are given
back. -/
def scan (level : Level) (p : Progress) :
    List String → Except Stop (Progress × Option (Verb × List String))
  | [] => .ok (p, none)
  | word :: rest =>
    -- a value that may look like anything comes before all other readings of a word
    if p.awaiting?.any Opt.takesAnyWord then scan level (p.fill word) rest
    else
      -- a command name is one only where no value is awaited
      let command := if level.isNone && p.awaiting?.isNone then Verb.ofName? word else none
      match command, word.toList with
      | some verb, _ => .ok (p, some (verb, rest))
      | none, ['-', '-'] => do return (← scanArguments level p rest, none)
      | none, '-' :: '-' :: body => do scan level (← p.takeLong level body) rest
      | none, '-' :: first :: body => do scan level (← p.takeShort level (first :: body)) rest
      | none, _ =>
        if p.awaiting?.isSome then scan level (p.fill word) rest
        else if level.isSome then do scan level (← p.takeArgument level word) rest
        else .error (if word = "help" then helpOn rest else .unknownCommand)

/-- The command of a level whose words have all been taken. -/
def Progress.command (p : Progress) (verb : Verb) : Except Stop Command :=
  let text := fun name => p.value? (.option name)
  let number := fun name => (text name).bind Binary64.ofText?
  let command? : Option Command :=
    match verb with
    | .recordRms => do
      return .recordRms (← number .rms) (← number .peak) (← text .lat) (← text .lng)
    | .recordDb => do return .recordDb (← number .level) (← text .lat) (← text .lng)
    | .list => some .list
    | .inspect => do return .inspect (← readId? (← p.value? .argument))
    | .stats => some .stats
  match command? with
  | some command => .ok command
  | none => .error .missingArgument

/-- What a command line asks for. An option given on both levels counts as on the level of the
command. -/
def Invocation.parse (words : List String) : Except Stop Invocation := do
  let (top, command) ← scan none .start words
  match command with
  | none =>
    let top ← top.settle
    return ⟨top.verbose, (top.value? (.option .ledger)).map Path.mk,
      (top.value? (.option .config)).map Path.mk, none⟩
  | some (verb, rest) =>
    -- the level of the command is settled in full before the top level
    let (inner, _) ← scan (some verb) .start rest
    let inner ← inner.settle
    let command ← inner.command verb
    let top ← top.settle
    let path := fun name =>
      ((inner.value? (.option name)).or (top.value? (.option name))).map Path.mk
    return ⟨top.verbose || inner.verbose, path .ledger, path .config, some command⟩

/-! ## Examples -/

/-- The options of a recording take any word as their value. -/
example :
    (Invocation.parse
      ["record-db", "--lat", "-9.1", "-v", "--lng", "--level", "--level", "-0"]).toOption =
      some ⟨true, none, none, some (.recordDb Binary64.zero.negate "-9.1" "--level")⟩ := by
  decide +kernel

/-- A path does not, and a command name may stand where a path is expected. -/
example :
    (Invocation.parse ["-l", "-v", "list"]).toOption = none ∧
      (Invocation.parse ["-l", "list", "show", "--", "007"]).toOption =
        some ⟨false, some ⟨"list"⟩, none, some (.inspect 7)⟩ := by
  decide +kernel

end SoundLedger.CommandLine
