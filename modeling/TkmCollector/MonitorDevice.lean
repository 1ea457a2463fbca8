import TkmCollector.Request
import TkmCollector.Library.Machine

/-!
# The monitor device

`MonitorDevice` with its queue, its connection and the event sources that the loop
holds for it. A handler takes the device to the next one and names what it pushes to
the dispatcher, to the database and to the socket. The outcomes of system calls come in
as an argument, so that every handler is a function.
-/

namespace TkmCollector

/-- A `Connection` object, by the descriptor of its socket. -/
structure Connection where
  fd : Nat
  deriving DecidableEq

/-- `DataSource::UpdateLane`. -/
inductive UpdateLane where
  | fast | pace | slow | any
  deriving DecidableEq

/-- A repeating `Timer` object. Two timers are the same object when their ids agree. -/
structure Timer where
  id : Nat
  lane : UpdateLane
  interval : Nat
  deriving DecidableEq

/-- `tkm::msg::collector::Request::Type`. -/
inductive CollectorRequestType where
  | createSession | getProcAcct | getProcInfo | getContextInfo | getProcEventStats
  | getSysProcStat | getSysProcBuddyInfo | getSysProcWireless | getSysProcMemInfo
  | getSysProcDiskStats | getSysProcPressure
  deriving DecidableEq

/-- A request that the collector writes to a monitor. -/
structure CollectorRequest where
  id : String
  type : CollectorRequestType
  deriving DecidableEq

/-- `DataSource`: its lane and the request that its callback writes. -/
structure DataSource where
  name : String
  lane : UpdateLane
  callback : CollectorRequest
  deriving DecidableEq

/-- What the event loop holds for one device. `removing` is set once the connection
source asked to be removed, by its callback or by `remEventSource`. -/
structure EventSources where
  connection : Option Connection
  removing : Bool
  timers : List Timer
  deriving DecidableEq

/-- One message of the stream that a monitor sends over a connection. -/
inductive StreamItem where
  | session (info : Monitor.SessionInfo)
  | data (data : Monitor.Data)
  deriving DecidableEq

/-- The session that the next `Data` message of a stream belongs to. -/
def lastSession (stream : List StreamItem) : Option String :=
  stream.foldl (fun last item => match item with
    | .session info => some info.hash
    | .data _ => last) none

/-- The device object. `streams` is a history variable that no code reads: the messages
accepted on each of its connections, the latest connection first. -/
structure MonitorDevice where
  deviceData : Control.DeviceData
  sessionData : Control.SessionData
  sessionInfo : Monitor.SessionInfo
  queue : List IDevice.Request
  dataSources : List DataSource
  connection : Option Connection
  fastLaneTimer : Option Timer
  paceLaneTimer : Option Timer
  slowLaneTimer : Option Timer
  loop : EventSources
  nextFd : Nat
  nextTimer : Nat
  streams : List (List StreamItem)

/-- What a handler leaves behind. -/
structure Outcome where
  device : MonitorDevice
  dispatcher : List Dispatcher.Request
  database : List IDatabase.Request
  monitor : List CollectorRequest
  result : Bool

/-- How `Connection::connect` ends. -/
inductive ConnectResult where
  | unresolved | failed | established
  deriving DecidableEq

/-- The outcomes of the system calls of one handler. -/
structure Io where
  socket : Bool
  connect : ConnectResult
  send : Bool
  write : Bool

namespace MonitorDevice

/-- The device that `doLoadDevices` creates from a row. -/
def loaded (deviceData : Control.DeviceData) : MonitorDevice where
  deviceData := { deviceData with state := .loaded }
  sessionData := default
  sessionInfo := default
  queue := []
  dataSources := []
  connection := none
  fastLaneTimer := none
  paceLaneTimer := none
  slowLaneTimer := none
  loop := ⟨none, false, []⟩
  nextFd := 0
  nextTimer := 0
  streams := []

def state (d : MonitorDevice) : Control.DeviceState := d.deviceData.state

def setState (d : MonitorDevice) (state : Control.DeviceState) : MonitorDevice :=
  { d with deviceData := { d.deviceData with state := state } }

def pushRequest (d : MonitorDevice) (rq : IDevice.Request) : MonitorDevice :=
  { d with queue := d.queue ++ [rq] }

/-- The `m_*LaneTimer` member of a lane. -/
def laneTimer (d : MonitorDevice) : UpdateLane → Option Timer
  | .fast => d.fastLaneTimer
  | .pace => d.paceLaneTimer
  | .slow => d.slowLaneTimer
  | .any => none

/-- The switch of `configUpdateLanes`, the same for the three lanes. -/
def updateLaneSource (lane : UpdateLane) : Monitor.DataSourceType → Option DataSource
  | .procInfo => some ⟨"ProcInfo", lane, ⟨"GetProcInfo", .getProcInfo⟩⟩
  | .procAcct => some ⟨"ProcAcct", lane, ⟨"GetProcAcct", .getProcAcct⟩⟩
  | .procEvent => some ⟨"ProcEvent", lane, ⟨"GetProcEvent", .getProcEventStats⟩⟩
  | .contextInfo => some ⟨"ContextInfo", lane, ⟨"GetContextInfo", .getContextInfo⟩⟩
  | .sysProcStat => some ⟨"SysProcStat", lane, ⟨"GetSysProcStat", .getSysProcStat⟩⟩
  | .sysProcBuddyInfo => some ⟨"SysProcBuddyInfo", lane, ⟨"GetSysBuddyInfo", .getSysProcBuddyInfo⟩⟩
  | .sysProcWireless => some ⟨"SysProcWireless", lane, ⟨"GetSysProcWireless", .getSysProcWireless⟩⟩
  | .sysProcMemInfo => some ⟨"SysProcMemInfo", lane, ⟨"GetSysProcMemInfo", .getSysProcMemInfo⟩⟩
  | .sysProcPressure => some ⟨"SysProcPressure", lane, ⟨"GetSysProcPressure", .getSysProcPressure⟩⟩
  | .sysProcDiskStats => some ⟨"SysProcDiskStats", lane, ⟨"GetSysProcDiskStats", .getSysProcDiskStats⟩⟩
  | .sysProcVMStat => none
  | .other _ => none

def configUpdateLanes (d : MonitorDevice) : MonitorDevice :=
  { d with
    dataSources :=
      d.sessionInfo.fastLaneSources.filterMap (updateLaneSource .fast) ++
      d.sessionInfo.paceLaneSources.filterMap (updateLaneSource .pace) ++
      d.sessionInfo.slowLaneSources.filterMap (updateLaneSource .slow) }

/-- Three new timers take the place of those held, and join the loop. -/
def startUpdateLanes (d : MonitorDevice) : MonitorDevice :=
  let fast : Timer := ⟨d.nextTimer, .fast, d.sessionInfo.fastLaneInterval⟩
  let pace : Timer := ⟨d.nextTimer + 1, .pace, d.sessionInfo.paceLaneInterval⟩
  let slow : Timer := ⟨d.nextTimer + 2, .slow, d.sessionInfo.slowLaneInterval⟩
  { d.configUpdateLanes with
    fastLaneTimer := some fast
    paceLaneTimer := some pace
    slowLaneTimer := some slow
    nextTimer := d.nextTimer + 3
    loop := { d.loop with timers := d.loop.timers ++ [fast, pace, slow] } }

/-- `remEventSource` for the timer that a lane holds. -/
def remLaneTimer (d : MonitorDevice) (lane : UpdateLane) : MonitorDevice :=
  match d.laneTimer lane with
  | some timer =>
    { d with loop := { d.loop with timers := d.loop.timers.filter (· ≠ timer) } }
  | none => d

def stopUpdateLanes (d : MonitorDevice) : MonitorDevice :=
  ((d.remLaneTimer .fast).remLaneTimer .pace).remLaneTimer .slow

/-- A lane timer expires: the matching data sources write their requests. -/
def update (d : MonitorDevice) (lane : UpdateLane) : Except Fault Outcome :=
  let due := d.dataSources.filter fun entry => entry.lane = lane ∨ entry.lane = .any
  if due = [] then
    .ok ⟨d, [], [], [], true⟩
  else match d.connection with
    | none => .error .nullConnection
    | some _ => .ok ⟨d, [], [], due.map (·.callback), true⟩

def createConnection (d : MonitorDevice) : Option MonitorDevice :=
  match d.connection with
  | some _ => none
  | none => some { d with
      connection := some ⟨d.nextFd⟩
      nextFd := d.nextFd + 1
      streams := [] :: d.streams }

def enableConnection (d : MonitorDevice) : MonitorDevice :=
  { d with loop := { d.loop with connection := d.connection, removing := false } }

def deleteConnection (d : MonitorDevice) : MonitorDevice :=
  { d.stopUpdateLanes with connection := none }

/-- `EndSession` goes to the database when the device is disconnected. -/
def updateState (d : MonitorDevice) (state : Control.DeviceState) :
    MonitorDevice × List IDatabase.Request :=
  let d := d.setState state
  if state = .disconnected ∧ d.sessionData.hash.length > 0 then
    (d, [⟨none, .endSession, Args.emplace [] .sessionHash d.sessionData.hash, .int 0⟩])
  else (d, [])

/-- `Connection::disconnect`, which the destructor calls. -/
def disconnect (d : MonitorDevice) : MonitorDevice × List IDatabase.Request :=
  d.updateState .disconnected

/-- The loop takes the connection source out: its finalize callback drops the device's
reference, the loop drops its own, and the destructor runs. -/
def finalize (d : MonitorDevice) : MonitorDevice × List IDatabase.Request :=
  let d := d.deleteConnection
  { d with loop := { d.loop with connection := none, removing := false } }.disconnect

def remConnectionSource (d : MonitorDevice) (c : Connection) : MonitorDevice :=
  if d.loop.connection = some c then { d with loop := { d.loop with removing := true } } else d

/-- A message is accepted on the current connection. -/
def record (d : MonitorDevice) (item : StreamItem) : MonitorDevice :=
  match d.streams with
  | [] => d
  | stream :: older => { d with streams := (stream ++ [item]) :: older }

/-- The session of the last `SetSession` on the current connection. -/
def streamSession (d : MonitorDevice) : Option String :=
  lastSession (d.streams.headD [])

/-- How a dispatch of the connection source ends: the reader has no more input, the
stream ended, or it failed. -/
inductive ReadStatus where
  | again | error | endOfFile
  deriving DecidableEq

/-- The values of `getpid` and `time` while the connection source is dispatched. -/
structure Clock where
  pid : Nat
  now : Nat

/-- `"Collector." + getpid() + "." + time(NULL)`. -/
def sessionName (clock : Clock) : String :=
  "Collector." ++ toString clock.pid ++ "." ++ toString clock.now

/-- The read loop of the connection source. -/
def readEnvelopes (clock : Clock) (last : ReadStatus) :
    MonitorDevice → List Envelope → MonitorDevice × Bool
  | d, [] => (d, last = .again)
  | d, envelope :: rest =>
    if envelope.origin ≠ .monitor then readEnvelopes clock last d rest
    else match envelope.mesg.type with
      | .setSession =>
        let info := { envelope.mesg.payload.unpackSessionInfo with name := sessionName clock }
        readEnvelopes clock last
          ((d.record (.session info)).pushRequest ⟨none, .setSession, [], .sessionInfo info⟩) rest
      | .data =>
        let data := { envelope.mesg.payload.unpackData with
          receiveTimeSec := clock.now
          origin := d.streamSession }
        readEnvelopes clock last
          ((d.record (.data data)).pushRequest ⟨none, .processData, [], .data data⟩) rest
      | .status =>
        let status := envelope.mesg.payload.unpackStatus
        readEnvelopes clock last (d.pushRequest ⟨none, .status, [], .status status⟩) rest
      | .unknown => (d, false)

/-- A `SendStatus` request that answers the client of a request. -/
def sendStatus (rq : IDevice.Request) (status : Val) (reason : String) : Dispatcher.Request where
  client := rq.client
  action := .sendStatus
  args := ((Args.copyRequestId rq.args).emplace .status (valFor status)).emplace .reason reason
  bulkData := .int 0

/-- A request that a handler pushes to the queue of its own device. -/
def internalRequest (action : IDevice.Action) : IDevice.Request where
  client := none
  action := action
  args := []
  bulkData := .int 0

def doConnect (mgr : MonitorDevice) (rq : IDevice.Request) (io : Io) : Except Fault Outcome :=
  match mgr.createConnection with
  | none =>
    .ok ⟨mgr, [sendStatus rq .statusError "Failed to create connection object"], [], [], true⟩
  | some mgr =>
    if io.socket = false then .error .socket
    else match io.connect with
      | .unresolved => .error .nullHost
      | .failed =>
        let (mgr, dbrq) := mgr.deleteConnection.disconnect
        .ok ⟨mgr, [sendStatus rq .statusError "Connection Failed"], dbrq, [], true⟩
      | .established =>
        .ok ⟨mgr.enableConnection.pushRequest { rq with action := .sendDescriptor }, [], [], [], true⟩

def doSendDescriptor (mgr : MonitorDevice) (rq : IDevice.Request) (io : Io) :
    Except Fault Outcome :=
  match mgr.connection with
  | none => .error .nullConnection
  | some _ =>
    if io.send = false then
      .ok ⟨mgr, [sendStatus rq .statusError "Failed to send descriptor"], [], [], true⟩
    else
      let (mgr, dbrq) := mgr.updateState .connected
      .ok ⟨mgr, [sendStatus rq .statusOkay "Connected"], dbrq, [], true⟩

def doRequestSession (mgr : MonitorDevice) (io : Io) : Except Fault Outcome :=
  match mgr.connection with
  | none => .error .nullConnection
  | some _ => .ok ⟨mgr, [], [], [⟨"CreateSession", .createSession⟩], io.write⟩

def doSetSession (mgr : MonitorDevice) (rq : IDevice.Request) : Except Fault Outcome :=
  match rq.bulkData.castSessionInfo with
  | .error fault => .error fault
  | .ok sessionInfo =>
    let mgr := { mgr with
      sessionInfo := sessionInfo
      sessionData := { mgr.sessionData with hash := sessionInfo.hash } }
    let (mgr, ended) := mgr.updateState .sessionSet
    let dbrq : IDatabase.Request :=
      ⟨none, .addSession, Args.emplace [] .deviceHash mgr.deviceData.hash, .sessionInfo sessionInfo⟩
    .ok ⟨mgr.pushRequest (internalRequest .startStream), [], ended ++ [dbrq], [], true⟩

def doDisconnect (mgr : MonitorDevice) (rq : IDevice.Request) : Except Fault Outcome :=
  if mgr.state ≠ .disconnected then
    match mgr.connection with
    | none => .error .nullConnection
    | some c =>
      .ok ⟨mgr.remConnectionSource c, [sendStatus rq .statusOkay "Device disconnected"], [], [], true⟩
  else .ok ⟨mgr, [sendStatus rq .statusError "Device not connected"], [], [], true⟩

def doStartStream (mgr : MonitorDevice) : Except Fault Outcome :=
  .ok ⟨(mgr.setState .collecting).startUpdateLanes, [], [], [], true⟩

def doStopStream (mgr : MonitorDevice) : Except Fault Outcome :=
  .ok ⟨mgr.stopUpdateLanes.setState .idle, [], [], [], true⟩

def doStartCollecting (mgr : MonitorDevice) (rq : IDevice.Request) : Except Fault Outcome :=
  if mgr.state = .connected ∨ mgr.state = .idle then
    .ok ⟨mgr.pushRequest (internalRequest .requestSession),
      [sendStatus rq .statusOkay "Collecting requested"], [], [], true⟩
  else if mgr.state = .sessionSet then
    .ok ⟨mgr.pushRequest (internalRequest .startStream),
      [sendStatus rq .statusOkay "Collecting start requested"], [], [], true⟩
  else .ok ⟨mgr, [sendStatus rq .statusError "Device not connected"], [], [], true⟩

def doStopCollecting (mgr : MonitorDevice) (rq : IDevice.Request) : Except Fault Outcome :=
  if mgr.state = .collecting then
    .ok ⟨mgr.pushRequest (internalRequest .stopStream),
      [sendStatus rq .statusOkay "Collecting stop requested"], [], [], true⟩
  else .ok ⟨mgr, [sendStatus rq .statusError "Device not streaming"], [], [], true⟩

def doProcessData (mgr : MonitorDevice) (rq : IDevice.Request) : Except Fault Outcome :=
  let dbrq : IDatabase.Request :=
    ⟨none, .addData, Args.emplace [] .sessionHash mgr.sessionData.hash, rq.bulkData⟩
  .ok ⟨mgr, [], [dbrq], [], true⟩

def doStatus (mgr : MonitorDevice) (rq : IDevice.Request) : Except Fault Outcome :=
  match rq.bulkData.castStatus with
  | .error fault => .error fault
  | .ok _ => .ok ⟨mgr, [], [], [], true⟩

def requestHandler (mgr : MonitorDevice) (rq : IDevice.Request) (io : Io) : Except Fault Outcome :=
  match rq.action with
  | .connect => doConnect mgr rq io
  | .disconnect => doDisconnect mgr rq
  | .sendDescriptor => doSendDescriptor mgr rq io
  | .requestSession => doRequestSession mgr io
  | .setSession => doSetSession mgr rq
  | .startCollecting => doStartCollecting mgr rq
  | .stopCollecting => doStopCollecting mgr rq
  | .startStream => doStartStream mgr
  | .stopStream => doStopStream mgr
  | .processData => doProcessData mgr rq
  | .status => doStatus mgr rq

/-- The actions that the dispatcher forwards to a device. -/
inductive ControlAction where
  | connect | disconnect | startCollecting | stopCollecting
  deriving DecidableEq

def ControlAction.toAction : ControlAction → IDevice.Action
  | .connect => .connect
  | .disconnect => .disconnect
  | .startCollecting => .startCollecting
  | .stopCollecting => .stopCollecting

/-- What the event loop does next for a device: a control request arrives, the connection
source is dispatched or taken out, the queue is dispatched, or a lane timer expires. -/
inductive Event where
  | control (action : ControlAction) (client : ClientId) (args : Args) (data : Control.DeviceData)
  | connection (clock : Clock) (input : List Envelope) (last : ReadStatus)
  | finalize
  | queue (io : Io)
  | timer (timer : Timer)

/-- One dispatch. A source that is not registered, or a queue that is empty, does nothing. -/
def step (d : MonitorDevice) : Event → Except Fault Outcome
  | .control action client args data =>
    .ok ⟨d.pushRequest ⟨some client, action.toAction, args, .deviceData data⟩, [], [], [], true⟩
  | .connection clock input last =>
    if d.loop.connection = none ∨ d.loop.removing = true then .ok ⟨d, [], [], [], true⟩
    else
      let (d, keep) := readEnvelopes clock last d input
      .ok ⟨if keep then d else { d with loop := { d.loop with removing := true } }, [], [], [], keep⟩
  | .finalize =>
    if d.loop.connection = none ∨ d.loop.removing = false then .ok ⟨d, [], [], [], true⟩
    else
      let (d, dbrq) := d.finalize
      .ok ⟨d, [], dbrq, [], true⟩
  | .queue io =>
    match d.queue with
    | [] => .ok ⟨d, [], [], [], true⟩
    | rq :: rest => requestHandler { d with queue := rest } rq io
  | .timer timer =>
    if timer ∈ d.loop.timers then d.update timer.lane else .ok ⟨d, [], [], [], true⟩

/-- The device after one dispatch. -/
def next (d : MonitorDevice) (e : Event) : Except Fault MonitorDevice :=
  (d.step e).map Outcome.device

end MonitorDevice

end TkmCollector
