/-
The arguments of the command line.

Options may stand before the subcommand, if they are common to all, or after
it. `scan` reads the options of one level and stops at a subcommand or at the
end, `Arguments.ofList` reads a whole command line. A command line asks for a
run, for help or for the version, or it is misused.
-/

import ComposeDeploy.Deployment.Actions
import ComposeDeploy.Engine.Address

namespace ComposeDeploy.CommandLine

/-- An option. -/
inductive Key where
  | endpoint
  | tls
  | authority
  | certificate
  | privateKey
  | debug
  | file
  | projectName
  | message
  | noBuild
  | help
  | version
  deriving DecidableEq, Repr

namespace Key

/-- The name after two hyphens. -/
def long : Key → String
  | .endpoint => "endpoint"
  | .tls => "tls"
  | .authority => "tlscacert"
  | .certificate => "tlscert"
  | .privateKey => "tlskey"
  | .debug => "debug"
  | .file => "file"
  | .projectName => "name"
  | .message => "message"
  | .noBuild => "no-build"
  | .help => "help"
  | .version => "version"

/-- The letter after one hyphen. -/
def short? : Key → Option Char
  | .endpoint => some 'H'
  | .debug => some 'd'
  | .file => some 'f'
  | .projectName => some 'n'
  | .message => some 'm'
  | .help => some 'h'
  | .version => some 'V'
  | _ => none

/-- Whether the option takes a value. -/
def takesValue : Key → Bool
  | .endpoint | .authority | .certificate | .privateKey | .file | .projectName | .message => true
  | _ => false

/-- The options that every level has. -/
def common : List Key :=
  [.endpoint, .tls, .authority, .certificate, .privateKey, .debug, .help]

end Key

/-- A subcommand. -/
inductive Command where
  | verify
  | deploy
  | rollback
  | list
  | teardown
  deriving DecidableEq, Repr

namespace Command

/-- The name of a subcommand. -/
def name : Command → String
  | .verify => "verify"
  | .deploy => "deploy"
  | .rollback => "rollback"
  | .list => "list"
  | .teardown => "teardown"

/-- All subcommands. -/
def all : List Command :=
  [.verify, .deploy, .rollback, .list, .teardown]

/-- The subcommand of a name. -/
def ofName? (name : String) : Option Command :=
  all.find? fun command => command.name == name

/-- The options that may follow the subcommand. -/
def keys : Command → List Key
  | .verify => Key.common
  | .deploy => Key.common ++ [.file, .projectName, .message, .noBuild]
  | .rollback => Key.common ++ [.file, .projectName, .noBuild]
  | .list | .teardown => Key.common ++ [.file, .projectName]

/-- How many operands may follow the subcommand. -/
def operands : Command → Nat
  | .rollback => 1
  | _ => 0

end Command

/-- Why a command line asks for no run. -/
inductive Halt where
  | misuse
  | help
  | version
  deriving DecidableEq, Repr

/-! ### One level -/

/-- The options and operands of one level. -/
structure Level where
  given : List (Key × String)
  operands : List String
  deriving DecidableEq, Repr

namespace Level

/-- Before the first argument. -/
def empty : Level := ⟨[], []⟩

/-- Whether an option was given. -/
def has (level : Level) (key : Key) : Bool :=
  level.given.any fun option => option.1 == key

/-- The value of an option. -/
def value? (level : Level) (key : Key) : Option String :=
  (level.given.find? fun option => option.1 == key).map Prod.snd

/-- Takes an option; none may be given twice. -/
def take (level : Level) (key : Key) (value : String) : Except Halt Level :=
  if key = .help then .error .help
  else if key = .version then .error .version
  else if level.has key then .error .misuse
  else .ok { level with given := level.given ++ [(key, value)] }

end Level

/-- Reads what follows two hyphens: an option, perhaps with its value after an
equals sign. The result names the option that still waits for its value. -/
def readLong (keys : List Key) (text : List Char) (level : Level) :
    Except Halt (Level × Option Key) := do
  let (name, attached) := match Text.splitFirst '=' text with
    | some (name, value) => (name, some (String.ofList value))
    | none => (text, none)
  match keys.find? fun key => key.long.toList == name with
  | none => throw .misuse
  | some key =>
    match key.takesValue, attached with
    | true, some value => return (← level.take key value, none)
    | true, none => return (level, some key)
    | false, none => return (← level.take key "", none)
    | false, some _ => throw .misuse

/-- Reads what follows one hyphen: options without values, of which the last
may be one with a value that follows at once, perhaps after an equals sign. -/
def readShort (keys : List Key) : List Char → Level → Except Halt (Level × Option Key)
  | [], level => .ok (level, none)
  | c :: rest, level =>
    match keys.find? fun key => key.short? == some c with
    | none => .error .misuse
    | some key =>
      if key.takesValue then
        match rest with
        | [] => .ok (level, some key)
        | '=' :: value | value =>
          (level.take key (String.ofList value)).map fun level => (level, none)
      else
        match level.take key "" with
        | .error halt => .error halt
        | .ok level => readShort keys rest level

/-- Reads the arguments of a level that knows `keys` and has room for `room`
operands. It ends with the arguments, or where `isCommand` finds a subcommand;
what follows that is part of the result. A lone pair of hyphens ends the
options. -/
def scan (keys : List Key) (room : Nat) (isCommand : String → Bool) :
    (waiting : Option Key) → List String → Level →
      Except Halt (Level × Option (String × List String))
  | none, [], level => .ok (level, none)
  | some _, [], _ => .error .misuse
  | some key, arg :: rest, level =>
    if arg.toList.head? = some '-' ∧ arg ≠ "-" then .error .misuse
    else match level.take key arg with
      | .error halt => .error halt
      | .ok level => scan keys room isCommand none rest level
  | none, arg :: rest, level =>
    if isCommand arg then .ok (level, some (arg, rest))
    else if arg = "--" then
      if level.operands.length + rest.length ≤ room then
        .ok ({ level with operands := level.operands ++ rest }, none)
      else .error .misuse
    else
      match arg.toList with
      | '-' :: '-' :: text =>
        match readLong keys text level with
        | .error halt => .error halt
        | .ok (level, waiting) => scan keys room isCommand waiting rest level
      | '-' :: c :: text =>
        match readShort keys (c :: text) level with
        | .error halt => .error halt
        | .ok (level, waiting) => scan keys room isCommand waiting rest level
      | _ =>
        if level.operands.length < room then
          scan keys room isCommand none rest
            { level with operands := level.operands ++ [arg] }
        else .error .misuse

/-! ### The whole line -/

/-- What a command line asks for. -/
structure Arguments where
  connection : Connection
  debug : Bool
  action : Action
  deriving DecidableEq, Repr

/-- The action of a subcommand with its options. -/
def Command.action (command : Command) (level : Level) : Action :=
  let flags : UpFlags := ⟨level.value? .file, level.value? .projectName⟩
  match command with
  | .verify => .verify
  | .deploy => .deploy ⟨flags, (level.value? .message).getD "", level.has .noBuild⟩
  | .rollback => .rollback ⟨flags, level.operands.head?, level.has .noBuild⟩
  | .list => .list flags
  | .teardown => .teardown flags

namespace Arguments

/-- The arguments of two levels; of a common option given at both, the one
after the subcommand counts. -/
def ofLevels (env : Environment) (outer : Level) (command : Command) (inner : Level) :
    Arguments :=
  let value? (key : Key) : Option String := (inner.value? key).or (outer.value? key)
  let has (key : Key) : Bool := inner.has key || outer.has key
  { connection :=
      { host := ((value? .endpoint).or (env "DOCKER_HOST")).getD ""
        tls := has .tls
        authority := value? .authority
        certificate := value? .certificate
        key := value? .privateKey }
    debug := has .debug
    action := command.action inner }

/-- The subcommand that tells about the others. -/
def helpName : String := "help"

/-- Reads the arguments after `help`: subcommands to be told about. -/
def readHelp : List String → Halt
  | [] => .help
  | [name] => if (Command.ofName? name).isSome || name = helpName then .help else .misuse
  | _ => .misuse

/-- Reads a command line. -/
def ofList (env : Environment) (args : List String) : Except Halt Arguments := do
  let isCommand name := (Command.ofName? name).isSome || name = helpName
  match ← scan (Key.common ++ [.version]) 0 isCommand none args Level.empty with
  | (_, none) => throw .misuse
  | (outer, some (name, rest)) =>
    match Command.ofName? name with
    | none => throw (readHelp rest)
    | some command =>
      let (inner, _) ← scan command.keys command.operands (fun _ => false) none rest Level.empty
      return ofLevels env outer command inner

end Arguments

end ComposeDeploy.CommandLine
