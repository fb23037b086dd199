/-
The arguments of the program: options before a command, the command, and its
options. An argument is looked at when all before it have been found good, and
the value of an option only when the next one begins, so that asking for help
counts where it stands. Every option is given once but for header fields.
-/
import MediaVault.Operator.HeaderArgument
import MediaVault.Text.Decimal
import MediaVault.Url.Reader

namespace MediaVault

/-- What a command is asked to do. -/
inductive Order where
  | list (lead : String) (cursor : Option String) (limit : Option Nat) (all : Bool)
  | usage (lead : String)
  | copy (source : Url) (length : Nat) (location : String) (vault : Nat)
      (headers : List (String × String)) (key lead : Option String)
  | decrypt (input output key lead : String)
  deriving DecidableEq, Repr

/-- Why the arguments lead to no order. -/
inductive Stop where
  | help
  | version
  | wrong
  deriving DecidableEq, Repr

/-- An option of the program or of a command. -/
structure OptionSpec where
  name : String
  takesValue : Bool := true
  repeats : Bool := false
  /-- Whether a value can be one of this option. -/
  accepts : String → Bool := fun _ => true

namespace Arguments

/-- Options that were given, with their values, in order. -/
abbrev Given := List (String × String)

/-! ## Options -/

/-- The option for the path of the configuration, which may stand before and after the command. -/
def configOption : OptionSpec := { name := "config", accepts := (· ≠ "") }

/-- Whether a text is a number from zero to `bound`. -/
def isNatural (bound : Nat) (s : String) : Bool := (Text.natural? bound s).isSome

/-- The options of a command. -/
def optionsOf? : String → Option (List OptionSpec)
  | "list" => some [{ name := "prefix" }, { name := "cursor" },
      { name := "limit", accepts := isNatural Text.maxWord64 },
      { name := "all", takesValue := false }, configOption]
  | "usage" => some [{ name := "prefix" }, configOption]
  | "copy" => some [{ name := "source", accepts := fun s => (Url.read s).toBool },
      { name := "length", accepts := isNatural Text.maxWord64 }, { name := "upload-location" },
      { name := "cdn", accepts := fun s => (Text.signedNatural? Text.maxWord32 s).isSome },
      { name := "header", repeats := true, accepts := fun s => (HeaderArgument.read s).toBool },
      { name := "key" }, { name := "nonce" }, configOption]
  | "decrypt" => some [{ name := "input", accepts := (· ≠ "") },
      { name := "output", accepts := (· ≠ "") }, { name := "key" }, { name := "nonce" },
      configOption]
  | _ => none

/-- An option added to those given before it. -/
def add (given : Given) (o : OptionSpec) (value : String) : Except Stop Given :=
  if (¬ o.repeats ∧ given.any (·.1 = o.name)) ∨ ¬ o.accepts value then .error .wrong
  else .ok (given ++ [(o.name, value)])

/-- An option whose value has been seen but not yet looked at. -/
abbrev Pending := Option (OptionSpec × String)

/-- The options given with the pending one. -/
def settle (given : Given) : Pending → Except Stop Given
  | none => .ok given
  | some (o, value) => add given o value

/-! ## Arguments -/

/-- What an argument looks like. -/
inductive Shape where
  /-- Two dashes alone, after which nothing is an option. -/
  | terminator
  /-- Two dashes and a name, with the value after an equals sign if there is one. -/
  | long (name : String) (value : Option String)
  /-- One dash and letters. -/
  | short (letters : List Char)
  | word

/-- The shape of an argument. -/
def shape (s : String) : Shape :=
  match s.toList with
  | ['-', '-'] => .terminator
  | '-' :: '-' :: cs =>
    let name := String.ofList (cs.takeWhile (· ≠ '='))
    match cs.dropWhile (· ≠ '=') with
    | [] => .long name none
    | _ :: value => .long name (some (String.ofList value))
  | '-' :: c :: cs => .short (c :: cs)
  | _ => .word

/-- Whether an argument can only be the value of an option or a command. -/
def isWord (s : String) : Bool :=
  match shape s with
  | .word => true
  | _ => false

/-- The options at the front of some arguments, the pending one last, and the command with the
arguments after it, if one of `commands` follows. -/
def readOptions (options : List OptionSpec) (commands : List String) (hasVersion : Bool) :
    Pending → Given → List String → Except Stop (Given × Pending × Option (String × List String))
  | pending, given, [] => .ok (given, pending, none)
  | pending, given, argument :: rest =>
    if commands.contains argument then .ok (given, pending, some (argument, rest))
    else
      match shape argument with
      | .word => .error .wrong
      | .terminator => if rest = [] then .ok (given, pending, none) else .error .wrong
      | .short letters => do
        let _ ← settle given pending
        if letters.head? = some 'h' then throw .help
        if hasVersion ∧ letters.head? = some 'V' then throw .version
        throw .wrong
      | .long name value => do
        let given ← settle given pending
        if name = "help" ∧ value = none then throw .help
        if hasVersion ∧ name = "version" ∧ value = none then throw .version
        match options.find? (·.name = name), value, rest with
        | some o, some value, rest =>
          if ¬ o.takesValue then throw .wrong
          readOptions options commands hasVersion none (← add given o value) rest
        | some o, none, value :: more =>
          if ¬ o.takesValue then
            readOptions options commands hasVersion none (← add given o "") (value :: more)
          else if isWord value then
            readOptions options commands hasVersion (some (o, value)) given more
          else throw .wrong
        | some o, none, [] =>
          if o.takesValue then throw .wrong
          return (← add given o "", none, none)
        | none, _, _ => throw .wrong
termination_by _ _ arguments => arguments.length

/-- The value of an option. -/
def value? (given : Given) (name : String) : Option String :=
  (given.find? (·.1 = name)).map (·.2)

/-- The values of an option that may be repeated. -/
def values (given : Given) (name : String) : List String :=
  (given.filter (·.1 = name)).map (·.2)

/-- The order that a command and its options make, where none is missing and none excludes another.
The values have been found good. -/
def order? (command : String) (given : Given) : Option Order := do
  match command with
  | "list" =>
    let all := (value? given "all").isSome
    let cursor := value? given "cursor"
    if all ∧ cursor.isSome then none
    let lead ← value? given "prefix"
    return .list lead cursor ((value? given "limit").bind (Text.natural? Text.maxWord64)) all
  | "usage" => return .usage (← value? given "prefix")
  | "copy" =>
    let key := value? given "key"
    let lead := value? given "nonce"
    if key.isSome ≠ lead.isSome then none
    let source ← ((← value? given "source") |> Url.read).toOption
    let length ← (← value? given "length") |> Text.natural? Text.maxWord64
    let location ← value? given "upload-location"
    let vault := ((value? given "cdn").bind (Text.signedNatural? Text.maxWord32)).getD 3
    let headers := (values given "header").filterMap fun s => (HeaderArgument.read s).toOption
    return .copy source length location vault headers key lead
  | "decrypt" =>
    return .decrypt (← value? given "input") (← value? given "output") (← value? given "key")
      (← value? given "nonce")
  | _ => none

/-- What a request for help asks about: a command, or nothing. -/
def readHelp : List String → Stop
  | [] => .help
  | [topic] => if topic = "help" ∨ (optionsOf? topic).isSome then .help else .wrong
  | _ => .wrong

/-- The commands, of which one explains the others. -/
def commands : List String := ["list", "usage", "copy", "decrypt", "help"]

/-- The path of the configuration at one place: as it was given there, or else as the environment
has it, where it must not be empty. -/
def configAt (given : Given) (fromEnvironment : Option String) : Except Stop (Option String) :=
  match value? given "config" with
  | some path => .ok (some path)
  | none => if fromEnvironment = some "" then .error .wrong else .ok none

/-- The order that the arguments make, and the path of the configuration. The path given after the
command counts more than one before it, and that more than the environment. -/
def read (fromEnvironment : Option String) (arguments : List String) :
    Except Stop (Order × Option String) := do
  let (outer, pending, command) ← readOptions [configOption] commands true none [] arguments
  match command with
  | none => throw .wrong
  | some ("help", topics) => throw (readHelp topics)
  | some (command, rest) =>
    let some options := optionsOf? command | throw .wrong
    let (inner, innerPending, _) ← readOptions options [] false none [] rest
    let inner ← settle inner innerPending
    let outer ← settle outer pending
    let innerPath ← configAt inner fromEnvironment
    let outerPath ← configAt outer fromEnvironment
    let some order := order? command inner | throw .wrong
    return (order, innerPath.or (outerPath.or fromEnvironment))

/-- The name and the version of the program. -/
def versionText : String := "backupstore 0.1.0\n"

/-- What the program says of itself. -/
def helpText : String := "\n".intercalate [
  "Inspect and populate cdn3 backup media storage.",
  "",
  "Usage: backupstore [--config <CONFIG>] <COMMAND>",
  "",
  "Commands:",
  "  list     --prefix <PREFIX> [--cursor <CURSOR> | --all] [--limit <LIMIT>]",
  "  usage    --prefix <PREFIX>",
  "  copy     --source <SOURCE> --length <LENGTH> --upload-location <UPLOAD_LOCATION>",
  "           [--cdn <CDN>] [--header <NAME=VALUE>]... [--key <KEY> --nonce <NONCE>]",
  "  decrypt  --input <INPUT> --output <OUTPUT> --key <KEY> --nonce <NONCE>",
  ""]

end Arguments

end MediaVault
