import TkmCollector.Request

namespace TkmCollector

namespace ControlClient

/-- The id of a request, and `Forced` when it is enforced. -/
def requestArgs (rq : Control.Request) : Args :=
  let args := Args.emplace [] .requestId rq.id
  if rq.forced then args.emplace .forced (valFor .true) else args

/-- A request for the dispatcher. -/
def request (client : ClientId) (action : Dispatcher.Action) (args : Args) (bulkData : BulkData) :
    Dispatcher.Request where
  client := some client
  action := action
  args := args
  bulkData := bulkData

/-- The session is set before the status of the request is asked for. `write` is the outcome of
the first. -/
def doRequestSession (client : ClientId) (rq : Control.Request) (write : Bool) :
    Control.Message × Dispatcher.Request :=
  let args := Args.emplace [] .requestId rq.id
  (.setSession rq.payload.unpackSessionInfo,
    request client .sendStatus
      (if write then
        (args.emplace .status (valFor .statusOkay)).emplace .reason "Control client session set"
      else (args.emplace .status (valFor .statusError)).emplace .reason "Failed to set session")
      (.int 0))

def doInitDatabase (client : ClientId) (rq : Control.Request) : Dispatcher.Request :=
  request client .initDatabase (requestArgs rq) (.int 0)

def doQuitCollector (client : ClientId) (rq : Control.Request) : Dispatcher.Request :=
  request client .quitCollector (requestArgs rq) (.int 0)

def doGetDevices (client : ClientId) (rq : Control.Request) : Dispatcher.Request :=
  request client .getDevices (Args.emplace [] .requestId rq.id) (.int 0)

def doRemoveSession (client : ClientId) (rq : Control.Request) : Dispatcher.Request :=
  request client .removeSession (requestArgs rq) (.sessionData rq.payload.unpackSessionData)

def doAddDevice (client : ClientId) (rq : Control.Request) : Dispatcher.Request :=
  request client .addDevice (requestArgs rq) (.deviceData rq.payload.unpackDeviceData)

def doRemoveDevice (client : ClientId) (rq : Control.Request) : Dispatcher.Request :=
  request client .removeDevice (requestArgs rq) (.deviceData rq.payload.unpackDeviceData)

def doConnectDevice (client : ClientId) (rq : Control.Request) : Dispatcher.Request :=
  request client .connectDevice (requestArgs rq) (.deviceData rq.payload.unpackDeviceData)

def doDisconnectDevice (client : ClientId) (rq : Control.Request) : Dispatcher.Request :=
  request client .disconnectDevice (requestArgs rq) (.deviceData rq.payload.unpackDeviceData)

def doStartCollecting (client : ClientId) (rq : Control.Request) : Dispatcher.Request :=
  request client .startCollecting (requestArgs rq) (.deviceData rq.payload.unpackDeviceData)

def doStopCollecting (client : ClientId) (rq : Control.Request) : Dispatcher.Request :=
  request client .stopCollecting (requestArgs rq) (.deviceData rq.payload.unpackDeviceData)

def doGetSessions (client : ClientId) (rq : Control.Request) : Dispatcher.Request :=
  request client .getSessions (requestArgs rq) (.deviceData rq.payload.unpackDeviceData)

/-- What a request is turned into: a message to the client, if any, and a request for the
dispatcher. A type that is not known ends the connection. -/
def requestHandler (client : ClientId) (rq : Control.Request) (write : Bool) :
    Option (Option Control.Message × Dispatcher.Request) :=
  match rq.type with
  | .requestSession =>
    let (message, nrq) := doRequestSession client rq write
    some (some message, nrq)
  | .initDatabase => some (none, doInitDatabase client rq)
  | .quitCollector => some (none, doQuitCollector client rq)
  | .getDevices => some (none, doGetDevices client rq)
  | .getSessions => some (none, doGetSessions client rq)
  | .removeSession => some (none, doRemoveSession client rq)
  | .addDevice => some (none, doAddDevice client rq)
  | .removeDevice => some (none, doRemoveDevice client rq)
  | .connectDevice => some (none, doConnectDevice client rq)
  | .disconnectDevice => some (none, doDisconnectDevice client rq)
  | .startCollecting => some (none, doStartCollecting client rq)
  | .stopCollecting => some (none, doStopCollecting client rq)
  | .unknown => none

end ControlClient

end TkmCollector
