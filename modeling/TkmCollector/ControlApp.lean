import TkmCollector.MonitorDevice

/-!
# The control utility

`tkmcontrol`: the command of the user, the dispatcher with its queue, and the read loop over the
messages of the collector. The hash of a device comes from a library and is a parameter.
-/

namespace TkmCollector

/-- An envelope read from the collector, with the message it unpacks to when its type is known. -/
structure MessageEnvelope where
  origin : Recipient
  mesg : Option Control.Message
  deriving DecidableEq

namespace ControlApp

namespace Command

inductive Action where
  | initDatabase | quitCollector | getDevices | getSessions | removeSession | addDevice
  | removeDevice | connectDevice | disconnectDevice | startCollecting | stopCollecting | quit
  deriving DecidableEq

structure Request where
  action : Action
  args : Args
  deriving DecidableEq

end Command

namespace Dispatcher

inductive Action where
  | connect | sendDescriptor | requestSession | setSession | initDatabase | quitCollector
  | getDevices | getSessions | removeSession | addDevice | removeDevice | connectDevice
  | disconnectDevice | startCollecting | stopCollecting | collectorStatus | deviceList | sessionList
  | quit
  deriving DecidableEq

/-- A queue entry. `bulkData` is the message of the collector, where there is one. -/
structure Request where
  action : Action
  bulkData : Option Control.Message
  args : Args
  deriving DecidableEq

end Dispatcher

/-- An argument that is handed on when it is there. -/
def copyArg (given : Args) (key : Arg) (args : Args) : Args :=
  match given.lookup key with
  | some value => args.emplace key value
  | none => args

/-- Arguments that have to be there. -/
def copyArgs (given : Args) : List Arg → Args → Except Fault Args
  | [], args => .ok args
  | key :: keys, args =>
    match given.atKey key with
    | .error fault => .error fault
    | .ok value => copyArgs given keys (args.emplace key value)

/-- The request of the dispatcher for a command: `Forced` is handed on, the other arguments have to
be there. -/
def Command.Request.push (request : Command.Request) (action : Dispatcher.Action)
    (keys : List Arg) : Except Fault Dispatcher.Request :=
  match copyArgs request.args keys (copyArg request.args .forced []) with
  | .error fault => .error fault
  | .ok args => .ok ⟨action, none, args⟩

/-- One turn of the loop over the commands. -/
def Command.Request.toRequest (request : Command.Request) : Except Fault Dispatcher.Request :=
  match request.action with
  | .initDatabase => request.push .initDatabase []
  | .quitCollector => request.push .quitCollector []
  | .getDevices => request.push .getDevices []
  | .addDevice => request.push .addDevice [.deviceName, .deviceAddress, .devicePort]
  | .removeDevice => request.push .removeDevice [.deviceHash]
  | .connectDevice => request.push .connectDevice [.deviceHash]
  | .disconnectDevice => request.push .disconnectDevice [.deviceHash]
  | .startCollecting => request.push .startCollecting [.deviceHash]
  | .stopCollecting => request.push .stopCollecting [.deviceHash]
  | .getSessions =>
    .ok ⟨.getSessions, none, copyArg request.args .deviceHash (copyArg request.args .forced [])⟩
  | .removeSession => request.push .removeSession [.sessionHash]
  | .quit => .ok ⟨.quit, none, []⟩

/-- The event of the command: it waits, has been triggered, or has left the loop. -/
inductive CommandState where
  | waiting | triggered | done
  deriving DecidableEq

/-- The state between two dispatches. `connected` is the prepare callback of the connection and
`attached` its place in the loop. `received` and `sent` are history variables that no code reads:
the messages that were read, and the requests that were written. -/
structure State where
  commands : List Command.Request
  command : CommandState
  queue : List Dispatcher.Request
  connected : Bool
  attached : Bool
  session : Option String
  printed : List String
  exited : Bool
  received : List Control.Message
  sent : List Control.Request

/-- The outcomes of the system calls of one handler. -/
structure Io where
  connect : Bool
  send : Bool
  write : Bool

def request (action : Dispatcher.Action) : Dispatcher.Request := ⟨action, none, []⟩

/-- The application when its loop starts. -/
def start (commands : List Command.Request) : State where
  commands := commands
  command := .waiting
  queue := [request .connect]
  connected := false
  attached := true
  session := none
  printed := []
  exited := false
  received := []
  sent := []

namespace State

def pushRequest (s : State) (rq : Dispatcher.Request) : State := { s with queue := s.queue ++ [rq] }

def print (s : State) (lines : List String) : State := { s with printed := s.printed ++ lines }

/-- A request is written to the collector. -/
def write (s : State) (io : Io) (rq : Control.Request) : State :=
  if io.write then { s with sent := s.sent ++ [rq] } else s

end State

/-- `Forced` is given and is `True`. -/
def forced (rq : Dispatcher.Request) : Bool :=
  rq.args.lookup .forced = some (valFor .true)

def doConnect (s : State) (io : Io) : State :=
  if io.connect then { s with connected := true }.pushRequest (request .sendDescriptor)
  else (s.print ["Connection to collector failed"]).pushRequest (request .quit)

def doSendDescriptor (s : State) (io : Io) : State :=
  s.pushRequest (request (if io.send then .requestSession else .quit))

def doRequestSession (s : State) (io : Io) : State :=
  s.write io ⟨"RequestSession", .requestSession, false, .sessionInfo ⟨"Collector"⟩⟩

/-- The command is triggered, unless it has left the loop. -/
def doSetSession (s : State) (rq : Dispatcher.Request) : Except Fault State :=
  match rq.bulkData with
  | some (.setSession info) => .ok { s with
      session := some info.id
      command := if s.command = .done then .done else .triggered }
  | _ => .error .badAnyCast

def doInitDatabase (s : State) (rq : Dispatcher.Request) (io : Io) : State :=
  s.write io ⟨"InitDatabase", .initDatabase, forced rq, .other⟩

def doGetDevices (s : State) (io : Io) : State :=
  s.write io ⟨"GetDevices", .getDevices, false, .other⟩

/-- `std::stoi`. -/
def stoi (text : String) : Except Fault Int :=
  let chars := text.toList.dropWhile fun c => c.toNat ∈ [9, 10, 11, 12, 13, 32]
  let (negative, chars) := match chars with
    | '-' :: rest => (true, rest)
    | '+' :: rest => (false, rest)
    | _ => (false, chars)
  let digits := chars.takeWhile Char.isDigit
  if digits = [] then .error .invalidArguments
  else
    let value : Int := digits.foldl (fun n c => 10 * n + (c.toNat - '0'.toNat)) 0
    let value := if negative then -value else value
    if -2147483648 ≤ value ∧ value < 2147483648 then .ok value else .error .outOfRange

def doAddDevice (hashForDevice : Control.DeviceData → String) (s : State) (rq : Dispatcher.Request)
    (io : Io) : Except Fault State :=
  match rq.args.atKey .deviceName, rq.args.atKey .deviceAddress, rq.args.atKey .devicePort with
  | .ok name, .ok address, .ok port =>
    match stoi port with
    | .error fault => .error fault
    | .ok port =>
      let deviceData : Control.DeviceData :=
        { (default : Control.DeviceData) with name := name, address := address, port := port }
      .ok (s.write io ⟨"AddDevice", .addDevice, forced rq,
        .deviceData { deviceData with hash := hashForDevice deviceData }⟩)
  | .error fault, _, _ | _, .error fault, _ | _, _, .error fault => .error fault

/-- A request for the device that `DeviceHash` names. -/
def writeForDevice (s : State) (rq : Dispatcher.Request) (io : Io) (id : String)
    (type : Control.RequestType) : Except Fault State :=
  match rq.args.atKey .deviceHash with
  | .error fault => .error fault
  | .ok hash => .ok (s.write io ⟨id, type, forced rq,
      .deviceData { (default : Control.DeviceData) with hash := hash }⟩)

def doRemoveDevice (s : State) (rq : Dispatcher.Request) (io : Io) : Except Fault State :=
  writeForDevice s rq io "RemoveDevice" .removeDevice

def doConnectDevice (s : State) (rq : Dispatcher.Request) (io : Io) : Except Fault State :=
  writeForDevice s rq io "ConnectDevice" .connectDevice

def doDisconnectDevice (s : State) (rq : Dispatcher.Request) (io : Io) : Except Fault State :=
  writeForDevice s rq io "DisconnectDevice" .disconnectDevice

def doStartCollecting (s : State) (rq : Dispatcher.Request) (io : Io) : Except Fault State :=
  writeForDevice s rq io "StartCollecting" .startCollecting

/-- The request has the id of the one that starts. -/
def doStopCollecting (s : State) (rq : Dispatcher.Request) (io : Io) : Except Fault State :=
  writeForDevice s rq io "StartCollecting" .stopCollecting

def doRemoveSession (s : State) (rq : Dispatcher.Request) (io : Io) : Except Fault State :=
  match rq.args.atKey .sessionHash with
  | .error fault => .error fault
  | .ok hash => .ok (s.write io ⟨"RemoveSession", .removeSession, forced rq,
      .sessionData { (default : Control.SessionData) with hash := hash }⟩)

def doGetSessions (s : State) (rq : Dispatcher.Request) (io : Io) : State :=
  s.write io ⟨"GetSessions", .getSessions, forced rq,
    .deviceData { (default : Control.DeviceData) with
      hash := (rq.args.lookup .deviceHash).getD "" }⟩

def doQuitCollector (s : State) (rq : Dispatcher.Request) (io : Io) : State :=
  ((s.write io ⟨"QuitCollector", .quitCollector, forced rq, .other⟩).print
    [if io.write then "Requested" else "Requested failed"]).pushRequest (request .quit)

def ruler : String := "--------------------------------------------------"

/-- Every status but that of `RequestSession` ends the application. -/
def doCollectorStatus (s : State) (rq : Dispatcher.Request) : Except Fault State :=
  match rq.bulkData with
  | some (.status status) =>
    if status.requestId = "RequestSession" then .ok s
    else
      let text := if status.what = .ok then valFor .statusOkay else valFor .statusError
      .ok ((s.print [ruler, "Status: " ++ text ++ " Reason: " ++ status.reason, ruler]).pushRequest
        (request .quit))
  | _ => .error .badAnyCast

def deviceStateText : Control.DeviceState → String
  | .loaded => "Loaded"
  | .connected => "Connected"
  | .disconnected => "Disconnected"
  | .reconnecting => "Reconnecting"
  | .collecting => "Collecting"
  | .idle => "Idle"
  | .unknown | .sessionSet => "Unknown"

def sessionStateText : Control.SessionState → String
  | .progress => "Progress"
  | .complete => "Complete"
  | .unknown => "Unknown"

def deviceLines (deviceData : Control.DeviceData) : List String :=
  ["Id\t: " ++ deviceData.hash, "Name\t: " ++ deviceData.name, "Address\t: " ++ deviceData.address,
    "Port\t: " ++ toString deviceData.port, "State\t: " ++ deviceStateText deviceData.state]

def sessionLines (sessionData : Control.SessionData) : List String :=
  ["Id\t: " ++ sessionData.hash, "Name\t: " ++ sessionData.name,
    "Started\t: " ++ toString sessionData.started, "Ended\t: " ++ toString sessionData.ended,
    "State\t: " ++ sessionStateText sessionData.state]

/-- The entries of a list, with an empty line between two. -/
def entryLines (entries : List (List String)) : List String := [""].intercalate entries

def doDeviceList (s : State) (rq : Dispatcher.Request) : Except Fault State :=
  match rq.bulkData with
  | some (.deviceList list) => .ok (s.print (ruler :: entryLines (list.map deviceLines)))
  | _ => .error .badAnyCast

def doSessionList (s : State) (rq : Dispatcher.Request) : Except Fault State :=
  match rq.bulkData with
  | some (.sessionList list) => .ok (s.print (ruler :: entryLines (list.map sessionLines)))
  | _ => .error .badAnyCast

def doQuit (s : State) : State := { s with exited := true }

def requestHandler (hashForDevice : Control.DeviceData → String) (s : State)
    (rq : Dispatcher.Request) (io : Io) : Except Fault State :=
  match rq.action with
  | .connect => .ok (doConnect s io)
  | .sendDescriptor => .ok (doSendDescriptor s io)
  | .requestSession => .ok (doRequestSession s io)
  | .setSession => doSetSession s rq
  | .initDatabase => .ok (doInitDatabase s rq io)
  | .getDevices => .ok (doGetDevices s io)
  | .getSessions => .ok (doGetSessions s rq io)
  | .removeSession => doRemoveSession s rq io
  | .addDevice => doAddDevice hashForDevice s rq io
  | .removeDevice => doRemoveDevice s rq io
  | .connectDevice => doConnectDevice s rq io
  | .disconnectDevice => doDisconnectDevice s rq io
  | .startCollecting => doStartCollecting s rq io
  | .stopCollecting => doStopCollecting s rq io
  | .quitCollector => .ok (doQuitCollector s rq io)
  | .collectorStatus => doCollectorStatus s rq
  | .deviceList => doDeviceList s rq
  | .sessionList => doSessionList s rq
  | .quit => .ok (doQuit s)

/-- The request that a message of the collector becomes. -/
def messageRequest (message : Control.Message) : Dispatcher.Request where
  action := match message with
    | .setSession _ => .setSession
    | .status _ => .collectorStatus
    | .deviceList _ => .deviceList
    | .sessionList _ => .sessionList
  bulkData := some message
  args := []

/-- The read loop of the connection. -/
def readEnvelopes (last : MonitorDevice.ReadStatus) : State → List MessageEnvelope → State × Bool
  | s, [] => (s, last = .again)
  | s, envelope :: rest =>
    if envelope.origin ≠ .collector then readEnvelopes last s rest
    else match envelope.mesg with
      | none => (s, false)
      | some message =>
        readEnvelopes last ({ s with received := s.received ++ [message] }.pushRequest
          (messageRequest message)) rest

/-- The loop over the commands. -/
def pushCommands : State → List Command.Request → Except Fault State
  | s, [] => .ok s
  | s, request :: rest =>
    match request.toRequest with
    | .error fault => .error fault
    | .ok rq => pushCommands (s.pushRequest rq) rest

/-- What the event loop does next: the queue, the connection or the command is dispatched. -/
inductive Event where
  | queue (io : Io)
  | connection (input : List MessageEnvelope) (last : MonitorDevice.ReadStatus)
  | command

/-- One dispatch. The connection that leaves the loop asks the application to quit, and nothing
happens once the application has exited. -/
def step (hashForDevice : Control.DeviceData → String) (s : State) (e : Event) : Except Fault State :=
  if s.exited then .ok s
  else match e with
    | .queue io =>
      match s.queue with
      | [] => .ok s
      | rq :: rest => requestHandler hashForDevice { s with queue := rest } rq io
    | .connection input last =>
      if s.connected = false ∨ s.attached = false then .ok s
      else
        let (s, keep) := readEnvelopes last s input
        .ok (if keep then s else { s with attached := false }.pushRequest (request .quit))
    | .command =>
      if s.command = .triggered then pushCommands { s with command := .done } s.commands else .ok s

end ControlApp

end TkmCollector
