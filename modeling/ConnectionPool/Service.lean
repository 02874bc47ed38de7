import ConnectionPool.CommandLine.Arguments
import ConnectionPool.Deployment
import ConnectionPool.Settings.Certificates
import ConnectionPool.Settings.File
import ConnectionPool.Text.Quoted

/-!
Contract: the life of a process that serves what its settings say.

Owns:
- the causes for which such a process ends early, and the report on them;
- `Service.settings`, where the settings come from;
- `Service.start`, which launches all servers or leaves none running;
- `Service.shutDown`, which stops every server in the way that its entry asks for.

Does not own: when the process is told to end.
-/

namespace ConnectionPool

open Text

/-- Why a process ends early. -/
inductive ServiceError where
  /-- The settings cannot be loaded. -/
  | unloadable (path : String) (cause : SettingsError)
  | invalid (cause : EntryError)
  /-- The options or the certificates of an entry cannot be used. -/
  | unusable (cause : EntryError)
  | launch (name : String) (cause : LaunchError)
  | default (cause : DirectoryError)
deriving DecidableEq, Repr

namespace ServiceError

/-- What a user is told, the outermost message first. -/
def messages : ServiceError → List String
  | .unloadable path cause => ("failed to load " ++ path) :: cause.message :: cause.causes
  | .invalid cause => ["invalid configuration", cause.message]
  | .unusable cause => [cause.message]
  | .launch name cause =>
      ("failed to start server '" ++ name ++ "'") :: cause.message :: cause.causes
  | .default cause => [cause.message]

/-- A message with its first line behind `head` and every further line behind as many blanks. -/
def indented (head message : String) : String :=
  let blanks := '\n' :: List.replicate head.length ' '
  head ++ String.ofList (message.toList.flatMap fun char => if char = '\n' then blanks else [char])

/-- The head of the cause with a number, which takes five places. -/
def numberedHead (number : Nat) : String :=
  let digits := Numeral.render 10 number
  String.ofList (List.replicate (5 - digits.length) ' ' ++ digits ++ [':', ' '])

/-- The lines on the causes. A single cause is not numbered. -/
def causeLines : List String → List String
  | [] => []
  | [message] => [indented "    " message]
  | messages => messages.zipIdx.map fun entry => indented (numberedHead entry.2) entry.1

/-- The report on an error: the outermost message and, if there are any, its causes. -/
def report (error : ServiceError) : String :=
  match error.messages with
  | [] => "Error: \n"
  | message :: causes =>
      let shown :=
        match causeLines causes with
        | [] => []
        | lines => "\n\nCaused by:" :: lines.map fun line => "\n" ++ line
      "Error: " ++ message ++ String.join shown ++ "\n"

end ServiceError

/-- What is reported on a server that was stopped. -/
structure StopReport where
  mode : StopMode
  /-- How many workers it had. -/
  workers : Nat
  /-- How many connections were still waiting. -/
  discarded : Nat
deriving DecidableEq, Repr

namespace Service

/-- The settings that the flags ask for: those in a file, or else those of the one server that the flags
describe. -/
def settings (files : FileTree) (arguments : CommandLine.Arguments) :
    Except ServiceError Settings :=
  let loaded : Except ServiceError Settings :=
    match arguments.config with
    | none => .ok {}
    | some path => (Settings.load files path).mapError (ServiceError.unloadable path)
  loaded.map fun settings =>
    if settings.servers.isEmpty then { settings with servers := [arguments.serverEntry] }
    else settings

/-- Launches the server of an entry. `tls` is what the load of its certificates gave; the options are checked
first. -/
def launchWith (tls : Except EntryError (Option TlsSettings)) (entry : ServerEntry)
    (deployment : Deployment) : Except ServiceError Unit × Deployment :=
  match entry.options, tls with
  | .error cause, _ => (.error (.unusable cause), deployment)
  | .ok _, .error cause => (.error (.unusable cause), deployment)
  | .ok options, .ok tls =>
      match deployment.launch entry.name entry.address options tls with
      | (.error cause, deployment) => (.error (.launch entry.name cause), deployment)
      | (.ok _, deployment) => (.ok (), deployment)

def launchEntry (entry : ServerEntry) (deployment : Deployment) :
    Except ServiceError Unit × Deployment :=
  launchWith (entry.tlsSettings deployment.machine.files) entry deployment

/-- Launches the servers of entries in their order, up to the first that cannot be launched. -/
def launchAll : List ServerEntry → Deployment → Except ServiceError Unit × Deployment
  | [], deployment => (.ok (), deployment)
  | entry :: entries, deployment =>
      match launchEntry entry deployment with
      | (.error cause, deployment) => (.error cause, deployment)
      | (.ok (), deployment) => launchAll entries deployment

/-- Makes the server of the default entry the default. -/
def markDefault (settings : Settings) (deployment : Deployment) :
    Except ServiceError Deployment :=
  match settings.defaultEntry? with
  | none => .ok deployment
  | some entry =>
      match deployment.site.setDefaultName entry.name with
      | .ok site => .ok { deployment with site }
      | .error cause => .error (.default cause)

/-- Checks the settings and launches all their servers. Where that fails, those already launched are stopped
and removed. -/
def start (settings : Settings) (deployment : Deployment) : Except ServiceError Unit × Deployment :=
  match settings.validate with
  | .error cause => (.error (.invalid cause), deployment)
  | .ok () =>
      match launchAll settings.servers deployment with
      | (.error cause, deployment) => (.error cause, deployment.abandon)
      | (.ok (), deployment) =>
          match markDefault settings deployment with
          | .error cause => (.error cause, deployment.abandon)
          | .ok deployment => (.ok (), deployment)

/-- The servers that run, in the order of their launch: where they listen and under which options. -/
def running (deployment : Deployment) : List (String × Options) :=
  ((deployment.transports.zip deployment.site.servers).filter fun entry =>
    entry.2.server.pool.lifecycle = .running).map fun entry =>
      (entry.1.address, entry.2.terms.options)

def namesText (deployment : Deployment) : String :=
  "[" ++ ", ".intercalate (deployment.site.directory.names.map quoted) ++ "]"

/-- What is reported when the server of an entry is stopped. -/
def stopReport (entry : ServerEntry) (deployment : Deployment) : Option StopReport :=
  match (deployment.site.directory.find? entry.name).bind fun position =>
      deployment.site.servers[position]? with
  | none => none
  | some live =>
      let pool := live.server.pool
      if pool.lifecycle = .running then
        some {
          mode := entry.shutdownMode
          workers := pool.staff.length + pool.retired.length
          discarded := pool.queue.length }
      else
        none

/-- Stops and removes the servers of entries in their order, each in the way that its entry asks for. -/
def shutDown : List ServerEntry → Deployment → List StopReport × Deployment
  | [], deployment => ([], deployment)
  | entry :: entries, deployment =>
      let later := shutDown entries (deployment.retire entry.name entry.shutdownMode)
      ((stopReport entry deployment).toList ++ later.1, later.2)

end Service

end ConnectionPool
