import ConnectionPool.CommandLine.Reading
import ConnectionPool.Service

/-!
Contract: the program.

It reads the command line, the environment and the files that the settings name, starts the servers, and
stops them when its input ends. The servers run in memory: their transports listen on a machine that has no
other program.

Owns: reading and printing.

Does not own: any decision; see `CommandLine.read` and `Service`.
-/

namespace ConnectionPool.Program

open CommandLine

/-- The variables of the environment that give values to flags. -/
def environment : IO (List (String × String)) := do
  let values ← Flag.all.mapM fun flag => do
    return (flag.environmentName, ← IO.getEnv flag.environmentName)
  return values.filterMap fun entry => entry.2.map fun value => (entry.1, value)

/-- Takes the object at a path over from the system. Where nothing can be read there is nothing. -/
def takeOver (files : FileTree) (path : String) : IO FileTree := do
  let installed (content : Option Bytes) : FileTree :=
    match files.install path content with
    | .ok files => files
    | .error _ => files
  try
    return installed (some (← IO.FS.readBinFile path).toList)
  catch
    | .noFileOrDirectory .. => return files
    | _ => return installed none

def certificatePaths (settings : Settings) : List String :=
  settings.servers.flatMap fun entry =>
    match entry.tls with
    | none => []
    | some files => [files.certPath, files.keyPath]

partial def awaitEnd (input : IO.FS.Stream) : IO Unit := do
  if (← input.getLine).isEmpty then
    return ()
  awaitEnd input

/-- Serves what the settings say until the input ends. -/
def serve (settings : Settings) (files : FileTree) : IO UInt32 := do
  match Service.start settings { machine := { files } } with
  | (.error cause, _) =>
      IO.eprint cause.report
      return 1
  | (.ok (), deployment) =>
      for entry in Service.running deployment do
        IO.println ("server started on " ++ entry.1)
      IO.println ("all servers running: " ++ Service.namesText deployment)
      awaitEnd (← IO.getStdin)
      let reports := (Service.shutDown settings.servers deployment).1
      IO.println (toString reports.length ++ " servers stopped")
      return 0

def run (arguments : Arguments) : IO UInt32 := do
  let files ←
    match arguments.config with
    | none => pure {}
    | some path => takeOver {} path
  match Service.settings files arguments with
  | .error cause =>
      IO.eprint cause.report
      return 1
  | .ok settings =>
      serve settings (← (certificatePaths settings).foldlM takeOver files)

end ConnectionPool.Program

open ConnectionPool in
def main (texts : List String) : IO UInt32 := do
  match CommandLine.read texts (← Program.environment) with
  | .error .help =>
      IO.print CommandLine.helpText
      return 0
  | .error .version =>
      IO.print CommandLine.versionText
      return 0
  | .error (.misuse error) =>
      IO.eprint (CommandLine.misuseText error)
      return 2
  | .ok arguments => Program.run arguments
