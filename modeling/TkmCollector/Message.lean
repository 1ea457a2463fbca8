import Mathlib.Data.List.Basic

/-!
# Messages

The protobuf messages of `libtaskmonitor` as far as the collector reads them. An
integral field is an `Int`, whatever its width; a field of a floating type is kept as
the text that an output stream prints for it. The default value of each structure is
the message that `UnpackTo` leaves behind when the payload is of another type.
-/

namespace TkmCollector

/-- The characters an output stream uses for a number of a floating type. -/
def floatChars : List Char :=
  ['0', '1', '2', '3', '4', '5', '6', '7', '8', '9', '+', '-', '.', 'e', 'i', 'n', 'f', 'a']

/-- A field of a floating type, as the text an output stream prints for it. -/
structure FloatText where
  text : String
  plain : ∀ c ∈ text.toList, c ∈ floatChars
  deriving DecidableEq

instance : Inhabited FloatText := ⟨⟨"0", by simp [floatChars]⟩⟩

namespace Monitor

/-- `SessionInfo::DataSource`. -/
inductive DataSourceType where
  | procInfo | procAcct | procEvent | contextInfo | sysProcStat | sysProcBuddyInfo
  | sysProcWireless | sysProcMemInfo | sysProcPressure | sysProcDiskStats | sysProcVMStat
  | other (value : Nat)
  deriving DecidableEq

structure SessionInfo where
  hash : String
  name : String
  coreCount : Int
  fastLaneInterval : Nat
  paceLaneInterval : Nat
  slowLaneInterval : Nat
  fastLaneSources : List DataSourceType
  paceLaneSources : List DataSourceType
  slowLaneSources : List DataSourceType
  deriving DecidableEq, Inhabited

structure ProcEvent where
  forkCount : Int
  execCount : Int
  exitCount : Int
  uidCount : Int
  gidCount : Int
  deriving DecidableEq, Inhabited

structure CPUStat where
  name : String
  all : Int
  usr : Int
  sys : Int
  iow : Int
  deriving DecidableEq, Inhabited

structure SysProcStat where
  cpu : CPUStat
  core : List CPUStat
  deriving DecidableEq, Inhabited

structure SysProcMemInfo where
  memTotal : Int
  memFree : Int
  memAvailable : Int
  memCached : Int
  memPercent : Int
  active : Int
  inactive : Int
  slab : Int
  kreclaimable : Int
  sreclaimable : Int
  sunreclaim : Int
  kernelStack : Int
  swapTotal : Int
  swapFree : Int
  swapCached : Int
  swapPercent : Int
  cmaTotal : Int
  cmaFree : Int
  deriving DecidableEq, Inhabited

structure DiskEntry where
  nodeMajor : Int
  nodeMinor : Int
  name : String
  readsCompleted : Int
  readsMerged : Int
  readsSpentMs : Int
  writesCompleted : Int
  writesMerged : Int
  writesSpentMs : Int
  ioInProgress : Int
  ioSpentMs : Int
  ioWeightedMs : Int
  deriving DecidableEq, Inhabited

structure SysProcDiskStats where
  disk : List DiskEntry
  deriving DecidableEq, Inhabited

structure PSIData where
  avg10 : FloatText
  avg60 : FloatText
  avg300 : FloatText
  total : Int
  deriving DecidableEq, Inhabited

structure SysProcPressure where
  cpuSome : PSIData
  cpuFull : PSIData
  memSome : PSIData
  memFull : PSIData
  ioSome : PSIData
  ioFull : PSIData
  deriving DecidableEq, Inhabited

namespace ProcAcct

structure CPU where
  cpuCount : Int
  cpuRunRealTotal : Int
  cpuRunVirtualTotal : Int
  cpuDelayTotal : Int
  cpuDelayAverage : Int
  deriving DecidableEq, Inhabited

structure Mem where
  coremem : Int
  virtmem : Int
  hiwaterRss : Int
  hiwaterVm : Int
  deriving DecidableEq, Inhabited

structure Ctx where
  nvcsw : Int
  nivcsw : Int
  deriving DecidableEq, Inhabited

structure Swp where
  swapinCount : Int
  swapinDelayTotal : Int
  swapinDelayAverage : Int
  deriving DecidableEq, Inhabited

structure Io where
  blkioCount : Int
  blkioDelayTotal : Int
  blkioDelayAverage : Int
  readBytes : Int
  writeBytes : Int
  readChar : Int
  writeChar : Int
  readSyscalls : Int
  writeSyscalls : Int
  deriving DecidableEq, Inhabited

structure Reclaim where
  freepagesCount : Int
  freepagesDelayTotal : Int
  freepagesDelayAverage : Int
  deriving DecidableEq, Inhabited

structure Thrashing where
  thrashingCount : Int
  thrashingDelayTotal : Int
  thrashingDelayAverage : Int
  deriving DecidableEq, Inhabited

end ProcAcct

structure ProcAcct where
  acComm : String
  acUid : Int
  acGid : Int
  acPid : Int
  acPpid : Int
  acUtime : Int
  acStime : Int
  cpu : ProcAcct.CPU
  mem : ProcAcct.Mem
  ctx : ProcAcct.Ctx
  swp : ProcAcct.Swp
  io : ProcAcct.Io
  reclaim : ProcAcct.Reclaim
  thrashing : ProcAcct.Thrashing
  deriving DecidableEq, Inhabited

structure ProcInfoEntry where
  comm : String
  pid : Int
  ppid : Int
  ctxId : Int
  ctxName : String
  cpuTime : Int
  cpuPercent : Int
  memRss : Int
  memPss : Int
  fdCount : Int
  deriving DecidableEq, Inhabited

structure ProcInfo where
  entry : List ProcInfoEntry
  deriving DecidableEq, Inhabited

structure ContextInfoEntry where
  ctxId : Int
  ctxName : String
  totalCpuTime : Int
  totalCpuPercent : Int
  totalMemRss : Int
  totalMemPss : Int
  totalFdCount : Int
  deriving DecidableEq, Inhabited

structure ContextInfo where
  entry : List ContextInfoEntry
  deriving DecidableEq, Inhabited

structure BuddyInfo where
  name : String
  zone : String
  data : String
  deriving DecidableEq, Inhabited

structure SysProcBuddyInfo where
  node : List BuddyInfo
  deriving DecidableEq, Inhabited

structure WlanInterface where
  name : String
  status : String
  qualityLink : Int
  qualityLevel : Int
  qualityNoise : Int
  discardedNwid : Int
  discardedCrypt : Int
  discardedFrag : Int
  discardedRetry : Int
  discardedMisc : Int
  missedBeacon : Int
  deriving DecidableEq, Inhabited

structure SysProcWireless where
  ifw : List WlanInterface
  deriving DecidableEq, Inhabited

structure SysProcVMStat where
  pgpgin : Int
  pgpgout : Int
  pswpin : Int
  pswpout : Int
  pgmajfault : Int
  pgreuse : Int
  pgstealKswapd : Int
  pgstealDirect : Int
  pgstealKhugepaged : Int
  pgstealAnon : Int
  pgstealFile : Int
  pgscanKswapd : Int
  pgscanDirect : Int
  pgscanKhugepaged : Int
  pgscanDirectThrottle : Int
  pgscanAnon : Int
  pgscanFile : Int
  oomKill : Int
  compactStall : Int
  compactFail : Int
  compactSuccess : Int
  thpFaultAlloc : Int
  thpCollapseAlloc : Int
  thpCollapseAllocFailed : Int
  thpFileAlloc : Int
  thpFileMapped : Int
  thpSplitPage : Int
  thpSplitPageFailed : Int
  thpZeroPageAlloc : Int
  thpZeroPageAllocFailed : Int
  thpSwpout : Int
  thpSwpoutFallback : Int
  deriving DecidableEq, Inhabited

/-- `Data::What`, the kind of measurement a `Data` message announces. -/
inductive What where
  | procEvent | procAcct | procInfo | contextInfo | sysProcStat | sysProcBuddyInfo
  | sysProcWireless | sysProcMemInfo | sysProcPressure | sysProcDiskStats | sysProcVMStat
  | other (value : Nat)
  deriving DecidableEq

/-- What the `Any` payload of a `Data` message holds. -/
inductive Payload where
  | procEvent (m : ProcEvent)
  | procAcct (m : ProcAcct)
  | procInfo (m : ProcInfo)
  | contextInfo (m : ContextInfo)
  | sysProcStat (m : SysProcStat)
  | sysProcBuddyInfo (m : SysProcBuddyInfo)
  | sysProcWireless (m : SysProcWireless)
  | sysProcMemInfo (m : SysProcMemInfo)
  | sysProcPressure (m : SysProcPressure)
  | sysProcDiskStats (m : SysProcDiskStats)
  | sysProcVMStat (m : SysProcVMStat)
  | other
  deriving DecidableEq

instance : Inhabited What := ⟨.other 0⟩

instance : Inhabited Payload := ⟨.other⟩

/-- A `Data` message. `origin` is a history variable that no code reads: the session of
the last `SetSession` that preceded the message on its connection. -/
structure Data where
  what : What
  payload : Payload
  systemTimeSec : Nat
  monotonicTimeSec : Nat
  receiveTimeSec : Nat
  origin : Option String
  deriving DecidableEq, Inhabited

/-- `Status::What`. -/
inductive StatusWhat where
  | ok | busy | error
  deriving DecidableEq, Inhabited

structure Status where
  requestId : String
  what : StatusWhat
  reason : String
  deriving DecidableEq, Inhabited

/-- What the `Any` payload of a monitor message holds. -/
inductive MessagePayload where
  | sessionInfo (m : SessionInfo)
  | data (m : Data)
  | status (m : Status)
  | other
  deriving DecidableEq

def MessagePayload.unpackSessionInfo : MessagePayload → SessionInfo
  | .sessionInfo m => m
  | _ => default

def MessagePayload.unpackData : MessagePayload → Data
  | .data m => m
  | _ => default

def MessagePayload.unpackStatus : MessagePayload → Status
  | .status m => m
  | _ => default

/-- `Message::Type`, with one value for all types the collector does not know. -/
inductive MessageType where
  | setSession | data | status | unknown
  deriving DecidableEq

structure Message where
  type : MessageType
  payload : MessagePayload
  deriving DecidableEq

end Monitor

namespace Control

/-- `DeviceData::State`. -/
inductive DeviceState where
  | unknown | loaded | connected | disconnected | reconnecting | sessionSet | collecting | idle
  deriving DecidableEq, Inhabited

structure DeviceData where
  id : Int
  hash : String
  name : String
  address : String
  port : Int
  state : DeviceState
  deriving DecidableEq, Inhabited

/-- `SessionData::State`. -/
inductive SessionState where
  | unknown | progress | complete
  deriving DecidableEq, Inhabited

structure SessionData where
  id : Int
  hash : String
  name : String
  started : Nat
  ended : Nat
  state : SessionState
  deriving DecidableEq, Inhabited

structure SessionInfo where
  id : String
  deriving DecidableEq, Inhabited

/-- `Request::Type`, with one value for all types the collector does not know. -/
inductive RequestType where
  | requestSession | initDatabase | quitCollector | getDevices | getSessions | removeSession
  | addDevice | removeDevice | connectDevice | disconnectDevice | startCollecting | stopCollecting
  | unknown
  deriving DecidableEq

/-- What the `Any` payload of a request holds. -/
inductive RequestPayload where
  | sessionInfo (m : SessionInfo)
  | deviceData (m : DeviceData)
  | sessionData (m : SessionData)
  | other
  deriving DecidableEq

def RequestPayload.unpackSessionInfo : RequestPayload → SessionInfo
  | .sessionInfo m => m
  | _ => default

def RequestPayload.unpackDeviceData : RequestPayload → DeviceData
  | .deviceData m => m
  | _ => default

def RequestPayload.unpackSessionData : RequestPayload → SessionData
  | .sessionData m => m
  | _ => default

/-- A request of a control client. `forced` is `Request_Forced_Enforced`. -/
structure Request where
  id : String
  type : RequestType
  forced : Bool
  payload : RequestPayload
  deriving DecidableEq

/-- `Status::What`. -/
inductive StatusWhat where
  | ok | busy | error
  deriving DecidableEq

structure Status where
  requestId : String
  what : StatusWhat
  reason : String
  deriving DecidableEq

/-- A message that the collector writes to a control client. -/
inductive Message where
  | setSession (info : SessionInfo)
  | status (status : Status)
  | deviceList (list : List DeviceData)
  | sessionList (list : List SessionData)
  deriving DecidableEq

end Control

/-- `Envelope::Recipient`. -/
inductive Recipient where
  | any | monitor | collector | control
  deriving DecidableEq

/-- An envelope read from a monitor, with the message it unpacks to. -/
structure Envelope where
  origin : Recipient
  mesg : Monitor.Message
  deriving DecidableEq

/-- An envelope read from a control client, with the request it unpacks to. -/
structure ControlEnvelope where
  origin : Recipient
  mesg : Control.Request
  deriving DecidableEq

end TkmCollector
