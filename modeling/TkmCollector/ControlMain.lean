import TkmCollector.ControlApp
import TkmCollector.Library.GetOpt

namespace TkmCollector

open GetOpt

namespace ControlMain

def longopts : List LongOption := [
  ⟨"help", false, 'h'⟩, ⟨"force", false, 'f'⟩, ⟨"initDatabase", false, 'i'⟩, ⟨"quit", false, 'q'⟩,
  ⟨"listDevices", false, 'l'⟩, ⟨"listSessions", false, 'j'⟩, ⟨"addDevice", false, 'a'⟩,
  ⟨"remDevice", false, 'r'⟩, ⟨"remSession", false, 'g'⟩, ⟨"config", true, 'o'⟩, ⟨"Id", true, 'I'⟩,
  ⟨"Name", true, 'N'⟩, ⟨"Address", true, 'A'⟩, ⟨"Port", true, 'P'⟩, ⟨"connect", true, 'c'⟩,
  ⟨"disconnect", true, 'd'⟩, ⟨"startCollecting", true, 's'⟩, ⟨"stopCollecting", true, 'x'⟩]

def optstring : String := "hfiqljarcdsxgo:I:N:A:P:"

def table : Table := ⟨longopts, shortOptions optstring.toList⟩

/-- The options of the help text: both forms and what it prints for the argument. -/
def helpOptions : List (String × Char × String) := [
  ("config", 'o', "<string>"), ("force", 'f', "<noarg>"), ("quit", 'q', "<noarg>"),
  ("initDatabase", 'i', "<noarg>"), ("listDevices", 'l', "<noarg>"),
  ("listSessions", 'j', "<noarg>"), ("Id", 'I', "<string>"), ("addDevice", 'a', "<noarg>"),
  ("Name", 'N', "<string>"), ("Address", 'A', "<string>"), ("Port", 'P', "<int>"),
  ("remDevice", 'r', "<noarg>"), ("remSession", 'g', "<noarg>"), ("connect", 'c', "<noarg>"),
  ("disconnect", 'd', "<noarg>"), ("startCollecting", 's', "<noarg>"),
  ("stopCollecting", 'x', "<noarg>"), ("help", 'h', "")]

/-- By the help text the option takes an argument. -/
def documented (val : Char) : Bool :=
  helpOptions.any fun (_, short, argument) => short = val && argument ∈ ["<string>", "<int>"]

/-- The local variables of `main`. A null pointer is no value. -/
structure Options where
  configPath : Option String
  uniqueId : Option String
  deviceName : Option String
  deviceAddress : Option String
  devicePort : Option String
  help : Bool
  force : Bool
  initDatabase : Bool
  quit : Bool
  listDevices : Bool
  listSessions : Bool
  addDevice : Bool
  removeDevice : Bool
  connectDevice : Bool
  disconnectDevice : Bool
  removeSession : Bool
  startCollecting : Bool
  stopCollecting : Bool
  deriving DecidableEq, Inhabited

/-- The `switch`. -/
def Options.set (o : Options) : Report → Options
  | .unknown => { o with help := true }
  | .option val optarg =>
    match val with
    | 'o' => { o with configPath := optarg }
    | 'f' => { o with force := true }
    | 'i' => { o with initDatabase := true }
    | 'q' => { o with quit := true }
    | 'l' => { o with listDevices := true }
    | 'j' => { o with listSessions := true }
    | 'a' => { o with addDevice := true }
    | 'r' => { o with removeDevice := true }
    | 'c' => { o with connectDevice := true }
    | 'd' => { o with disconnectDevice := true }
    | 'g' => { o with removeSession := true }
    | 's' => { o with startCollecting := true }
    | 'x' => { o with stopCollecting := true }
    | 'I' => { o with uniqueId := optarg }
    | 'N' => { o with deviceName := optarg }
    | 'A' => { o with deviceAddress := optarg }
    | 'P' => { o with devicePort := optarg }
    | _ => { o with help := true }

/-- The loop over `getopt_long`. -/
def parse (posix : Bool) (argv : List String) : Options :=
  (scan table posix argv).foldl Options.set default

/-- A top level option that cannot be used with certain others, and the text that says so. -/
structure Exclusion where
  option : Options → Bool
  others : List (Options → Bool)
  text : String

open Options in
def exclusions : List Exclusion := [
  ⟨addDevice, [removeDevice, connectDevice, disconnectDevice, startCollecting, stopCollecting,
    initDatabase, quit, listDevices, listSessions],
    "Add device option cannot be used with other top level options"⟩,
  ⟨removeDevice, [addDevice, connectDevice, disconnectDevice, startCollecting, stopCollecting,
    initDatabase, quit, listDevices, listSessions, removeSession],
    "Remove device option cannot be used with other top level options"⟩,
  ⟨connectDevice, [addDevice, removeDevice, disconnectDevice, startCollecting, stopCollecting,
    initDatabase, quit, listDevices, listSessions, removeSession],
    "Connect device option cannot be used with other top level options"⟩,
  ⟨disconnectDevice, [addDevice, removeDevice, connectDevice, startCollecting, stopCollecting,
    initDatabase, quit, listDevices, listSessions, removeSession],
    "Disconnect device option cannot be used with other top level options"⟩,
  ⟨startCollecting, [addDevice, removeDevice, connectDevice, disconnectDevice, stopCollecting,
    initDatabase, quit, listDevices, listSessions, removeSession],
    "Start connecting option cannot be used with other top level options"⟩,
  ⟨stopCollecting, [addDevice, removeDevice, connectDevice, disconnectDevice, startCollecting,
    initDatabase, quit, listDevices, listSessions, removeSession],
    "Start connecting option cannot be used with other top level options"⟩,
  ⟨initDatabase, [addDevice, removeDevice, connectDevice, disconnectDevice, startCollecting,
    stopCollecting, quit, listDevices, listSessions, removeSession],
    "Stop connecting option cannot be used with other top level options"⟩,
  ⟨quit, [addDevice, removeDevice, connectDevice, disconnectDevice, startCollecting,
    stopCollecting, initDatabase, listDevices, listSessions, removeSession],
    "Quit collector option cannot be used with other top level options"⟩,
  ⟨listDevices, [addDevice, removeDevice, connectDevice, disconnectDevice, startCollecting,
    stopCollecting, initDatabase, quit, listSessions, removeSession],
    "List devices option cannot be used with other top level options"⟩,
  ⟨listSessions, [addDevice, removeDevice, connectDevice, disconnectDevice, startCollecting,
    stopCollecting, initDatabase, quit, listDevices, removeSession],
    "List sessions option cannot be used with other top level options"⟩,
  ⟨removeSession, [addDevice, removeDevice, connectDevice, disconnectDevice, startCollecting,
    stopCollecting, initDatabase, quit, listDevices, listSessions],
    "List sessions option cannot be used with other top level options"⟩]

def Exclusion.violated (e : Exclusion) (o : Options) : Bool :=
  e.option o && e.others.any fun other => other o

/-- No top level option is given. -/
def Options.noneGiven (o : Options) : Bool :=
  !o.addDevice && !o.removeDevice && !o.connectDevice && !o.disconnectDevice && !o.startCollecting &&
    !o.stopCollecting && !o.initDatabase && !o.quit && !o.listDevices && !o.listSessions &&
    !o.removeSession && !o.help

/-- The text with which `main` ends before it prints its help, in the order of the checks. -/
def rejection (o : Options) : Option String :=
  if o.noneGiven then some "Please select one top level option"
  else match exclusions.find? fun e => e.violated o with
    | some e => some e.text
    | none =>
      if o.quit && !o.force then some "Quit collector can only be used with force option"
      else if o.addDevice &&
          (!o.deviceName.isSome || !o.deviceAddress.isSome || !o.devicePort.isSome) then
        some "Please provide the complete device data"
      else if (o.removeDevice || o.connectDevice || o.disconnectDevice || o.startCollecting ||
          o.stopCollecting) && !o.uniqueId.isSome then
        some "Please provide the device hash id"
      else if o.removeSession && !o.uniqueId.isSome then some "Please provide the device hash id"
      else none

open ControlApp (Command.Request Command.Action)

def forcedArgs (o : Options) (args : Args) : Args :=
  if o.force then args.emplace .forced (valFor .true) else args

/-- A request that names a device or a session by `unique_id`. -/
def idRequest (o : Options) (action : Command.Action) (key : Arg) : Command.Request :=
  ⟨action, forcedArgs o (Args.emplace [] key (o.uniqueId.getD ""))⟩

/-- The requests that are added to the command, one block for each top level option. -/
def requests (o : Options) : List Command.Request :=
  (if o.initDatabase then [⟨.initDatabase, forcedArgs o []⟩] else []) ++
  (if o.listDevices then [⟨.getDevices, []⟩] else []) ++
  (if o.addDevice then [⟨.addDevice, forcedArgs o (((Args.emplace [] .deviceName
    (o.deviceName.getD "")).emplace .deviceAddress (o.deviceAddress.getD "")).emplace .devicePort
    (o.devicePort.getD ""))⟩] else []) ++
  (if o.listSessions then [⟨.getSessions, forcedArgs o (match o.uniqueId with
    | some id => Args.emplace [] .deviceHash id
    | none => [])⟩] else []) ++
  (if o.removeDevice then [idRequest o .removeDevice .deviceHash] else []) ++
  (if o.removeSession then [idRequest o .removeSession .sessionHash] else []) ++
  (if o.connectDevice then [idRequest o .connectDevice .deviceHash] else []) ++
  (if o.disconnectDevice then [idRequest o .disconnectDevice .deviceHash] else []) ++
  (if o.startCollecting then [idRequest o .startCollecting .deviceHash] else []) ++
  (if o.stopCollecting then [idRequest o .stopCollecting .deviceHash] else []) ++
  (if o.quit then [⟨.quitCollector, forcedArgs o []⟩] else [])

/-- How `main` goes on from its options: it ends with a text, prints its help, or starts the
application with a configuration file and commands. -/
inductive Outcome where
  | rejected (text : String)
  | helped
  | started (configPath : Option String) (commands : List Command.Request)
  deriving DecidableEq

def outcome (fileExists : String → Bool) (o : Options) : Outcome :=
  match rejection o with
  | some text => .rejected text
  | none =>
    if o.help then .helped
    else match o.configPath with
      | none => .started none (requests o)
      | some path =>
        if fileExists path then .started (some path) (requests o)
        else .rejected ("Provided configuration file cannot be accessed: " ++ path)

end ControlMain

end TkmCollector
