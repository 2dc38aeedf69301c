import ChatRooms.CommandLine.Basic
import ChatRooms.Text.Digits

/-! Reading a command line. The options of the program come before the name of a command, those of
the command after it. An option is settled, with its value checked, only when the next option is
met or the arguments end; until then the value may still be to come. -/
namespace ChatRooms.CommandLine

def LogFormat.ofName? (name : String) : Option LogFormat :=
  if name = "compact" then some .compact
  else if name = "pretty" then some .pretty
  else none

def word? (text : String) : Option Nat :=
  let digits := match text.toList with
    | '+' :: rest => rest
    | rest => rest
  if digits.isEmpty || !digits.all Text.isDigit then none
  else
    let value := Text.digitsValue digits
    if value ≤ Config.largestWord then some value else none

def Setting.check (setting : Setting) (value : String) : Except Stop Unit :=
  match setting with
  | .logFormat => if (LogFormat.ofName? value).isSome then .ok () else .error .unsuitableValue
  | .maxHistory => if (word? value).isSome then .ok () else .error .unreadableNumber
  | _ => .ok ()

/-- What has been read of the arguments of a level. `pending` is the option that is not settled,
and `literal` whether a lone `--` has been met, after which nothing is an option. -/
structure Scan where
  level : Level
  values : List (Setting × String)
  json : Bool
  pending : Option (Setting × Option String)
  literal : Bool

namespace Scan

def start (level : Level) : Scan := ⟨level, [], false, none, false⟩

def value? (scan : Scan) (setting : Setting) : Option String :=
  (scan.values.find? (·.1 = setting)).map (·.2)

def wantsValue (scan : Scan) : Bool :=
  match scan.pending with
  | some (_, none) => true
  | _ => false

def resolve (scan : Scan) : Except Stop Scan :=
  match scan.pending with
  | none => .ok scan
  | some (_, none) => .error .unsuitableValue
  | some (setting, some value) =>
      if (scan.value? setting).isSome then .error .repeatedArgument
      else do
        setting.check value
        return { scan with values := scan.values ++ [(setting, value)], pending := none }

def raise (scan : Scan) (flag : Flag) : Except Stop Scan := do
  let scan ← scan.resolve
  match flag with
  | .help => .error .help
  | .version => .error .version
  | .json => if scan.json then .error .repeatedArgument else return { scan with json := true }

def option (scan : Scan) (name : String) (attached : Option String) : Except Stop Scan :=
  match scan.level.flags.find? (·.name = name) with
  | some flag => if attached.isSome then .error .excessValue else scan.raise flag
  | none =>
      match scan.level.settings.find? (·.name = name) with
      | none => .error .unknownArgument
      | some setting => do
          let scan ← scan.resolve
          let opened := { scan with pending := some (setting, attached) }
          if attached.isSome then opened.resolve else return opened

/-- A cluster of single letters. The first letter decides, since each stops the reading. -/
def letters (scan : Scan) : List Char → Except Stop Scan
  | 'h' :: _ => scan.raise .help
  | 'V' :: _ => if scan.level = .program then scan.raise .version else .error .unknownArgument
  | _ => .error .unknownArgument

/-- An argument that is neither an option nor a value. There is none such but the name of a command,
which after a lone `--` comes too late. -/
def stray (scan : Scan) (argument : String) : Stop :=
  if scan.level ≠ .program then .unknownArgument
  else if scan.literal && (argument = "help" || (Level.ofCommand? argument).isSome) then
    .unknownArgument
  else .unknownCommand

def argument (scan : Scan) (text : String) : Except Stop Scan :=
  if scan.literal then .error (scan.stray text)
  else
    match text.toList with
    | ['-', '-'] => .ok { scan with literal := true }
    | '-' :: '-' :: long =>
        let name := String.ofList (long.takeWhile (· ≠ '='))
        match long.dropWhile (· ≠ '=') with
        | [] => scan.option name none
        | _ :: attached => scan.option name (some (String.ofList attached))
    | '-' :: c :: rest => scan.letters (c :: rest)
    | _ =>
        match scan.pending with
        | some (setting, none) => .ok { scan with pending := some (setting, some text) }
        | _ => .error (scan.stray text)

def helpOn : List String → Stop
  | [] => .help
  | [name] => if name = "help" || (Level.ofCommand? name).isSome then .help else .unknownCommand
  | _ => .unknownCommand

def run (scan : Scan) : List String → Except Stop (Scan × Option (Level × List String))
  | [] => .ok (scan, none)
  | argument :: rest =>
      if scan.level = .program && !scan.literal && !scan.wantsValue then
        if argument = "help" then .error (helpOn rest)
        else match Level.ofCommand? argument with
          | some command => .ok (scan, some (command, rest))
          | none => do run (← scan.argument argument) rest
      else do run (← scan.argument argument) rest

end Scan

def valueOrVariable (environment : List (String × String)) (scan : Scan) (setting : Setting) :
    Except Stop (Option String) :=
  match scan.value? setting with
  | some value => .ok (some value)
  | none =>
      match (setting.environmentName?.bind fun name => environment.find? (·.1 = name)) with
      | none => .ok none
      | some (_, value) => do
          setting.check value
          return some value

def jobOf (environment : List (String × String)) (scan : Scan) : Except Stop (Config × Job) := do
  let room ← valueOrVariable environment scan .defaultRoom
  let history ← valueOrVariable environment scan .maxHistory
  let config := { Config.default with
    defaultRoom := room.getD Config.default.defaultRoom,
    historySize := (history.bind word?).getD Config.default.historySize }
  match scan.level with
  | .console =>
      match scan.value? .user with
      | none => .error .missingArgument
      | some user =>
          let mode := if scan.json then .json else .text
          return (config, .console user ((scan.value? .room).getD "") mode)
  | _ => return (config, .demo)

def logFormat (own outer : Scan) : LogFormat :=
  (((own.value? .logFormat).or (outer.value? .logFormat)).bind LogFormat.ofName?).getD .compact

def read (environment : List (String × String)) (arguments : List String) :
    Except Stop Invocation := do
  match ← (Scan.start .program).run arguments with
  | (outer, none) =>
      let outer ← outer.resolve
      .error (if outer.values.isEmpty then .nothingGiven else .missingCommand)
  | (outer, some (level, rest)) =>
      let (own, _) ← (Scan.start level).run rest
      let own ← own.resolve
      let (config, job) ← jobOf environment own
      let outer ← outer.resolve
      return ⟨logFormat own outer, config, job⟩

end ChatRooms.CommandLine
