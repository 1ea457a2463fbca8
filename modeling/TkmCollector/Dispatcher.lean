import TkmCollector.Request

namespace TkmCollector

/-- Why the process ends: a handler dies, or it is told to quit. -/
inductive Stop where
  | fault (fault : Fault)
  | exit
  deriving DecidableEq

namespace Dispatcher

/-- What a handler of the dispatcher pushes to the queues, and what it writes to a client. -/
structure Outcome where
  dispatcher : List Dispatcher.Request
  database : List IDatabase.Request
  device : Option (String × IDevice.Request)
  message : Option (ClientId × Control.Message)

/-- A request is handed on to the database. -/
def toDatabase (rq : Dispatcher.Request) (action : IDatabase.Action) (bulkData : BulkData) : Outcome where
  dispatcher := []
  database := [⟨rq.client, action, rq.args, bulkData⟩]
  device := none
  message := none

/-- A request is handed on to the device it names, when the device manager knows the device. The
status for one that is not known does not carry the id of the request. -/
def toDevice (known : String → Bool) (rq : Dispatcher.Request) (action : IDevice.Action) :
    Except Stop Outcome :=
  match rq.bulkData.castDeviceData with
  | .error fault => .error (.fault fault)
  | .ok deviceData =>
    if known deviceData.hash then
      .ok ⟨[], [], some (deviceData.hash, ⟨rq.client, action, rq.args, rq.bulkData⟩), none⟩
    else
      .ok ⟨[⟨rq.client, .sendStatus,
        (Args.emplace [] .status (valFor .statusError)).emplace .reason "No such device", .int 0⟩],
        [], none, none⟩

def doInitDatabase (rq : Dispatcher.Request) : Outcome := toDatabase rq .initDatabase (.int 0)

def doQuitCollector : Outcome := ⟨[⟨none, .quit, [], .int 0⟩], [], none, none⟩

def doGetDevices (rq : Dispatcher.Request) : Outcome := toDatabase rq .getDevices (.int 0)

def doRemoveSession (rq : Dispatcher.Request) : Outcome := toDatabase rq .remSession rq.bulkData

def doAddDevice (rq : Dispatcher.Request) : Outcome := toDatabase rq .addDevice rq.bulkData

def doRemoveDevice (rq : Dispatcher.Request) : Outcome := toDatabase rq .removeDevice rq.bulkData

def doGetSessions (rq : Dispatcher.Request) : Outcome := toDatabase rq .getSessions rq.bulkData

def doConnectDevice (known : String → Bool) (rq : Dispatcher.Request) : Except Stop Outcome :=
  toDevice known rq .connect

def doDisconnectDevice (known : String → Bool) (rq : Dispatcher.Request) : Except Stop Outcome :=
  toDevice known rq .disconnect

def doStartCollecting (known : String → Bool) (rq : Dispatcher.Request) : Except Stop Outcome :=
  toDevice known rq .startCollecting

def doStopCollecting (known : String → Bool) (rq : Dispatcher.Request) : Except Stop Outcome :=
  toDevice known rq .stopCollecting

def doQuit : Except Stop Outcome := .error .exit

/-- `Status::What` for an argument `Status`. -/
def whatFor (status : String) : Control.StatusWhat :=
  if status = valFor .statusOkay then .ok
  else if status = valFor .statusBusy then .busy
  else .error

/-- The log line reads `Status` whether it is there or not. -/
def doSendStatus (rq : Dispatcher.Request) : Except Stop Outcome :=
  match rq.client, rq.args.atKey .status with
  | none, _ => .ok ⟨[], [], none, none⟩
  | some _, .error fault => .error (.fault fault)
  | some client, .ok status =>
    .ok ⟨[], [], none, some (client, .status {
      requestId := (rq.args.lookup .requestId).getD ""
      what := whatFor status
      reason := (rq.args.lookup .reason).getD "" })⟩

def requestHandler (known : String → Bool) (rq : Dispatcher.Request) : Except Stop Outcome :=
  match rq.action with
  | .initDatabase => .ok (doInitDatabase rq)
  | .quitCollector => .ok doQuitCollector
  | .getDevices => .ok (doGetDevices rq)
  | .getSessions => .ok (doGetSessions rq)
  | .removeSession => .ok (doRemoveSession rq)
  | .addDevice => .ok (doAddDevice rq)
  | .removeDevice => .ok (doRemoveDevice rq)
  | .connectDevice => doConnectDevice known rq
  | .disconnectDevice => doDisconnectDevice known rq
  | .startCollecting => doStartCollecting known rq
  | .stopCollecting => doStopCollecting known rq
  | .sendStatus => doSendStatus rq
  | .quit => doQuit

/-- What `requestHandler` returns when it does: the result of its push, or of the write to the
client. -/
def result (rq : Dispatcher.Request) (write : Bool) : Bool :=
  match rq.action, rq.client with
  | .sendStatus, some _ => write
  | _, _ => true

end Dispatcher

end TkmCollector
