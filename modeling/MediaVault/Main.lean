/-
The command line: the arguments, the environment and the files that a run
reads are taken from the system, and what the run printed and wrote is given
back to it. Connections are not made here, so every request finds its network
unreachable.
-/
import MediaVault.Operator.Run

namespace MediaVault.CommandLine

/-- The variables that a run looks at. -/
def settingNames : List String := ["BACKUPSTORE_CONFIG", "HOME", "RUST_LOG"]

/-- The network as it is found: without a way to any server. -/
def network : Network :=
  { reach := .barred "Network is unreachable (os error 101)", gets := [], posts := [] }

/-- The directory that a path leads into. -/
def parent (path : String) : String :=
  String.ofList (path.toList.reverse.dropWhile (· ≠ '/')).reverse

/-- The paths that a run reads, and the path that it writes if it writes one. -/
def paths (environment : List (String × String)) (arguments : List String) :
    List String × Option String :=
  let value (name : String) : Option String := (environment.find? (·.1 = name)).map (·.2)
  match Arguments.read (value "BACKUPSTORE_CONFIG") arguments with
  | .ok (.decrypt input output _ _, _) => ([input, output, parent output], some output)
  | .ok (_, given) => ((Configuration.path given (value "HOME")).toOption.toList, none)
  | .error _ => ([], none)

/-- The files with what the system has at a path. -/
def look (d : Disk) (path : String) : IO Disk := do
  let place := Location.ofPath path
  try
    let real ← IO.FS.realPath path
    if ← real.isDir then return { d with directories := d.directories ++ [place] }
    return d.setFile place (← IO.FS.readBinFile real).data.toList
  catch _ => return d

/-- The variables that are set. -/
def environment : IO (List (String × String)) :=
  settingNames.filterMapM fun name => do return (← IO.getEnv name).map (name, ·)

end MediaVault.CommandLine

open MediaVault in
def main (arguments : List String) : IO UInt32 := do
  let environment ← CommandLine.environment
  let (read, written) := CommandLine.paths environment arguments
  let disk ← read.foldlM CommandLine.look { files := [], directories := [] }
  let random := (← IO.getRandomBytes (.ofNat (Seal.keyLength + Seal.leadLength))).data.toList
  let run : Invocation := { arguments, environment, disk, network := CommandLine.network, random }
  let finished := run.run
  if finished.status = 0 then
    if let some path := written then
      if let some content := finished.disk.content? path then
        IO.FS.writeBinFile path ⟨content.toArray⟩
  IO.print finished.output
  IO.eprint finished.errors
  return .ofNat finished.status
