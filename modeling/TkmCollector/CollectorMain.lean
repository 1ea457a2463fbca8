import TkmCollector.Application
import TkmCollector.Library.GetOpt

namespace TkmCollector

/-- A configuration file that was parsed, as `getPropertyValue` reads it: a section and a key. -/
abbrev KeyFile := String → String → Option String

/-- `tkm::Options`. There is no file when it cannot be parsed. -/
structure Options where
  configFile : Option KeyFile

namespace Options

inductive Key where
  | databaseType | runtimeDirectory | dbName | dbUserName | dbUserPassword | dbServerAddress
  | dbServerPort | dbFilePath
  deriving DecidableEq

/-- The section and the key of a property. -/
def property : Key → String × String
  | .dbName => ("database", "DatabaseName")
  | .dbUserName => ("database", "UserName")
  | .dbUserPassword => ("database", "UserPassword")
  | .dbServerAddress => ("database", "ServerAddress")
  | .dbServerPort => ("database", "ServerPort")
  | .dbFilePath => ("database", "DatabasePath")
  | .runtimeDirectory => ("general", "RuntimeDirectory")
  | .databaseType => ("general", "DatabaseType")

/-- `Defaults::getFor`. -/
def defaultFor : Key → String
  | .runtimeDirectory => "/var/run/tkmcollector"
  | .databaseType => "pqsql"
  | .dbName => "taskmonitor"
  | .dbUserName => "tkmcollector"
  | .dbUserPassword => "tkmcollector123"
  | .dbServerAddress => "localhost"
  | .dbServerPort => "5432"
  | .dbFilePath => "/var/cache/tkmcollector/data.db"

def getFor (o : Options) (key : Key) : String :=
  match o.configFile with
  | some file => (file (property key).1 (property key).2).getD (defaultFor key)
  | none => defaultFor key

/-- The backend that `Application` makes. -/
def databaseType (o : Options) : DbType :=
  if o.getFor .databaseType = "sqlite3" then .sqlite3 else .postgreSQL

end Options

namespace CollectorMain

open GetOpt

def longopts : List LongOption :=
  [⟨"config", true, 'c'⟩, ⟨"eraseDatabase", false, 'e'⟩, ⟨"daemon", false, 'd'⟩, ⟨"help", false, 'h'⟩]

def optstring : String := "c:ehd"

def table : Table := ⟨longopts, shortOptions optstring.toList⟩

/-- By the help text the option takes an argument. -/
def documented (val : Char) : Bool := val = 'c'

/-- The local variables of `main`, and the words on its standard input that are still to be read. -/
structure Locals where
  configPath : Option String
  daemon : Bool
  help : Bool
  eraseDatabase : Bool
  input : List String
  deriving DecidableEq

/-- The answers that erase the database. -/
def confirms : List String := ["yes", "Yes", "YES"]

/-- The question before an erasure. At the end of the input the answer stays `no`. -/
def Locals.ask (l : Locals) : Locals :=
  { l with
    eraseDatabase := l.eraseDatabase || l.input.headD "no" ∈ confirms
    input := l.input.tail }

/-- The `switch`. -/
def Locals.set (l : Locals) : Report → Locals
  | .unknown => l
  | .option val optarg =>
    match val with
    | 'c' => { l with configPath := optarg }
    | 'e' => l.ask
    | 'd' => { l with daemon := true }
    | 'h' => { l with help := true }
    | _ => l

/-- The loop over `getopt_long`. -/
def parse (posix : Bool) (argv : List String) (input : List String) : Locals :=
  (scan table posix argv).foldl Locals.set ⟨none, false, false, false, input⟩

/-- How `create_directories` ends. -/
inductive Creation where
  | created | refused | failed
  deriving DecidableEq

/-- How `daemonize` ends for the process that goes on. Under `init` it returns at once, and otherwise
the process goes on in the root directory. -/
inductive Daemonized where
  | underInit | inBackground | failed
  deriving DecidableEq

/-- What `main` and the application find. A directory is written without a slash at its end. -/
structure System where
  confPath : String
  directory : String
  pathExists : String → Bool
  parseFile : String → Option KeyFile
  createDirectories : String → Creation
  daemonize : Daemonized
  databaseOpens : Options → Bool
  serverStarts : Options → Bool

/-- The directory that a process in the background is in. -/
def rootDirectory : String := ""

def absolute (path : String) : Bool := path.toList.head? = some '/'

/-- The file of a path that is used in a directory. The empty path names no file. -/
def resolved (directory path : String) : String :=
  if path = "" ∨ absolute path then path else directory ++ "/" ++ path

/-- `Options`, constructed in a directory. -/
def System.options (sys : System) (directory path : String) : Options :=
  ⟨sys.parseFile (resolved directory path)⟩

/-- Why the process dies when it starts. -/
inductive Death where
  | nullConfigPath | runtimeDirectory | nullDatabase
  deriving DecidableEq

/-- How `main` ends without an application: it prints its help, returns `EXIT_FAILURE` or dies. -/
inductive Ending where
  | helped
  | failure
  | died (death : Death)
  deriving DecidableEq

/-- How `main` goes on: it ends, the application runs without a database until it handles the request
to quit, or it runs from a state. -/
inductive Launch where
  | ended (ending : Ending)
  | quitting (options : Options)
  | running (options : Options) (start : Application)

/-- The constructor of `Application` in a directory, and what `main` does with the result. -/
def launchApplication (sys : System) (directory path : String) (erase : Bool) (tables : Tables) :
    Launch :=
  let options := sys.options directory path
  let runDir := resolved directory (options.getFor .runtimeDirectory)
  if !sys.pathExists runDir && sys.createDirectories runDir ≠ .created then
    .ended (.died .runtimeDirectory)
  else if sys.databaseOpens options then
    .running options (Application.start tables erase (!sys.serverStarts options))
  else if erase then .ended (.died .nullDatabase)
  else .quitting options

/-- The block for `--daemon`: the directory in which `main` goes on, or how it ends. -/
def launchDaemon (sys : System) (l : Locals) : Except Ending String :=
  if !l.daemon then .ok sys.directory
  else match l.configPath with
    | none => .error (.died .nullConfigPath)
    | some path =>
      let runDir := resolved sys.directory ((sys.options sys.directory path).getFor .runtimeDirectory)
      let creation := if sys.pathExists runDir then .created else sys.createDirectories runDir
      match creation, sys.daemonize with
      | .failed, _ => .error (.died .runtimeDirectory)
      | .refused, _ | .created, .failed => .error .failure
      | .created, .underInit => .ok sys.directory
      | .created, .inBackground => .ok rootDirectory

/-- `main`, on the tables that earlier runs left. -/
def main (sys : System) (posix : Bool) (argv input : List String) (tables : Tables) : Launch :=
  let l := parse posix argv input
  if l.help then .ended .helped
  else if l.configPath.any fun path => !sys.pathExists (resolved sys.directory path) then
    .ended .failure
  else match launchDaemon sys l with
    | .error ending => .ended ending
    | .ok directory =>
      launchApplication sys directory (l.configPath.getD sys.confPath) l.eraseDatabase tables

end CollectorMain

end TkmCollector
