/-
A run of the program, from its arguments, its environment and the files there
are to its exit status, what it printed and the files after it. Log lines and
what else goes to the error output come in the order in which they were made.
-/
import MediaVault.Operator.Arguments
import MediaVault.Operator.Configuration
import MediaVault.Operator.Decrypt
import MediaVault.Operator.LogFilter
import MediaVault.Operator.Pages

namespace MediaVault

/-- What a run starts from. -/
structure Invocation where
  arguments : List String
  environment : List (String × String)
  disk : Disk
  network : Network
  /-- Octets drawn at random, for a key if one is needed. -/
  random : Bytes

/-- What a run has done so far. -/
structure Progress where
  disk : Disk
  session : Session
  /-- What was printed. -/
  output : String := ""
  /-- What was said beside the log, which came before it. -/
  remarks : String := ""

/-- What a run leaves behind. -/
structure Finished where
  status : Nat
  output : String
  errors : String
  disk : Disk
  attempts : List Attempt

namespace Invocation

/-- A step of a run. -/
abbrev Step (α : Type) := ExceptT CommandFailure (StateM Progress) α

/-- A variable of the environment. -/
def setting (i : Invocation) (name : String) : Option String :=
  (i.environment.find? (·.1 = name)).map (·.2)

/-- Adds to what is printed. -/
def print (s : String) : Step Unit := modify fun p => { p with output := p.output ++ s }

/-- Something that can fail, as a step. -/
def require {α : Type} : Except CommandFailure α → Step α
  | .ok a => return a
  | .error f => throw f

/-- A command as a step. -/
def perform {α : Type} (command : Command α) : Step α := do
  let (result, session) := command.run (← get).session
  modify fun p => { p with session }
  require result

/-- The configuration of a run and the client made from it. -/
def connect (i : Invocation) (given : Option String) : Step (Configuration × Client) := do
  let path ← require (Configuration.path given (i.setting "HOME"))
  let c ← require (Configuration.load (← get).disk path)
  modify fun p =>
    { p with session.log := p.session.log ++ [Configuration.loadedLine path] }
  match Client.connect c.settings with
  | .ok client => return (c, client)
  | .error f => throw (.vault f none)

/-- The lines of a listing. -/
def listing (entries : List Entry) : String :=
  String.join (entries.map fun e => toString e.length ++ "\t" ++ e.key ++ "\n")

/-- What an order does. -/
def carryOut (i : Invocation) (given : Option String) : Order → Step Unit
  | .list lead cursor limit all => do
    let (c, client) ← i.connect given
    let limit := limit.getD c.pageSize
    if all then print (listing (← perform (Pages.listAll client lead limit)))
    else
      let page ← perform (Command.ofAction (client.list lead cursor limit))
      print (listing page.entries)
      if let some next := page.cursor then
        modify fun p => { p with remarks := p.remarks ++ "next cursor: " ++ next ++ "\n" }
  | .usage lead => do
    let (_, client) ← i.connect given
    let usage ← perform (Command.ofAction (client.usage lead))
    print (usage.toJson.pretty ++ "\n")
  | .copy source length location vault headers key lead => do
    let (_, client) ← i.connect given
    let (k, shown) ← require (SealKey.forCopy i.random key lead)
    print shown
    let grant : UploadGrant := { vault, location, headers := UploadGrant.gather headers }
    perform (Command.copy client source length k grant)
  | .decrypt input output key lead => do
    let (disk, line) ← require (Decrypt.run (← get).disk input output key lead)
    modify fun p => { p with disk, session.log := p.session.log ++ [line] }

/-- A run that ends before it has begun. -/
def stopped (i : Invocation) (status : Nat) (output : String) : Finished :=
  { status, output, errors := "", disk := i.disk, attempts := [] }

/-- A run with what it shows of its log. -/
def runLogged (i : Invocation) (filter : LogFilter) : Finished :=
  match Arguments.read (i.setting "BACKUPSTORE_CONFIG") i.arguments with
  | .error .wrong => i.stopped 2 ""
  | .error .help => i.stopped 0 Arguments.helpText
  | .error .version => i.stopped 0 Arguments.versionText
  | .ok (order, given) =>
    let start : Progress := { disk := i.disk, session := { network := i.network } }
    let (result, p) := (i.carryOut given order).run start
    let finished (status : Nat) (report : String) : Finished :=
      { status, output := p.output, errors := filter.text p.session.log ++ p.remarks ++ report
        disk := p.disk, attempts := p.session.attempts }
    match result with
    | .ok () => finished 0 ""
    | .error f => finished 1 f.report

/-- The status of a run that cannot begin. -/
def brokenStatus : Nat := 101

/-- The whole run. The filter of the log is read before anything else. -/
def run (i : Invocation) : Finished :=
  match LogFilter.ofSetting? (i.setting "RUST_LOG") with
  | none => i.stopped brokenStatus ""
  | some filter => i.runLogged filter

end Invocation

end MediaVault
