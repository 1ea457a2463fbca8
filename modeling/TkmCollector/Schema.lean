import TkmCollector.Message

namespace TkmCollector

/-- `Query::Type`. -/
inductive DbType where
  | sqlite3 | postgreSQL
  deriving DecidableEq

namespace Query

inductive DeviceColumn where
  | id | hash | name | address | port
  deriving DecidableEq

def deviceColumn : DeviceColumn → String
  | .id => "Id" | .hash => "Hash" | .name => "Name" | .address => "Address" | .port => "Port"

inductive SessionColumn where
  | id | name | hash | coreCount | startTimestamp | endTimestamp | device
  deriving DecidableEq

def sessionColumn : SessionColumn → String
  | .id => "Id" | .name => "Name" | .hash => "Hash" | .coreCount => "CoreCount"
  | .startTimestamp => "StartTimestamp" | .endTimestamp => "EndTimestamp" | .device => "Device"

inductive ProcEventColumn where
  | id | systemTime | monotonicTime | receiveTime | forkCount | execCount | exitCount | uIdCount
  | gIdCount | sessionId
  deriving DecidableEq

def procEventColumn : ProcEventColumn → String
  | .id => "Id" | .systemTime => "SystemTime" | .monotonicTime => "MonotonicTime"
  | .receiveTime => "ReceiveTime" | .forkCount => "ForkCount" | .execCount => "ExecCount"
  | .exitCount => "ExitCount" | .uIdCount => "UIdCount" | .gIdCount => "GIdCount"
  | .sessionId => "SessionId"

inductive SysProcStatColumn where
  | id | systemTime | monotonicTime | receiveTime | cpuStatName | cpuStatAll | cpuStatUsr
  | cpuStatSys | cpuStatIow | sessionId
  deriving DecidableEq

def sysProcStatColumn : SysProcStatColumn → String
  | .id => "Id" | .systemTime => "SystemTime" | .monotonicTime => "MonotonicTime"
  | .receiveTime => "ReceiveTime" | .cpuStatName => "CPUStatName" | .cpuStatAll => "CPUStatAll"
  | .cpuStatUsr => "CPUStatUsr" | .cpuStatSys => "CPUStatSys" | .cpuStatIow => "CPUStatIow"
  | .sessionId => "SessionId"

inductive SysProcMemColumn where
  | id | systemTime | monotonicTime | receiveTime | memTotal | memFree | memAvail | memCached
  | memAvailPercent | active | inactive | slab | kReclaimable | sReclaimable | sUnreclaim
  | kernelStack | swapTotal | swapFree | swapCached | swapFreePercent | cmaTotal | cmaFree
  | sessionId
  deriving DecidableEq

def sysProcMemColumn : SysProcMemColumn → String
  | .id => "Id" | .systemTime => "SystemTime" | .monotonicTime => "MonotonicTime"
  | .receiveTime => "ReceiveTime" | .memTotal => "MemTotal" | .memFree => "MemFree"
  | .memAvail => "MemAvail" | .memCached => "MemCached" | .memAvailPercent => "MemAvailPercent"
  | .active => "Active" | .inactive => "Inactive" | .slab => "Slab"
  | .kReclaimable => "KReclaimable" | .sReclaimable => "SReclaimable" | .sUnreclaim => "SUnreclaim"
  | .kernelStack => "KernelStack" | .swapTotal => "SwapTotal" | .swapFree => "SwapFree"
  | .swapCached => "SwapCached" | .swapFreePercent => "SwapFreePercent" | .cmaTotal => "CmaTotal"
  | .cmaFree => "CmaFree" | .sessionId => "SessionId"

inductive SysProcDiskColumn where
  | id | systemTime | monotonicTime | receiveTime | major | minor | name | readsCompleted
  | readsMerged | readsSpentMs | writesCompleted | writesMerged | writesSpentMs | ioInProgress
  | ioSpentMs | ioWeightedMs | sessionId
  deriving DecidableEq

def sysProcDiskColumn : SysProcDiskColumn → String
  | .id => "Id" | .systemTime => "SystemTime" | .monotonicTime => "MonotonicTime"
  | .receiveTime => "ReceiveTime" | .major => "Major" | .minor => "Minor" | .name => "Name"
  | .readsCompleted => "ReadsCompleted" | .readsMerged => "ReadsMerged"
  | .readsSpentMs => "ReadsSpent" | .writesCompleted => "WritesCompleted"
  | .writesMerged => "WritesMerged" | .writesSpentMs => "WritesSpent"
  | .ioInProgress => "IOInProgress" | .ioSpentMs => "IOSpent" | .ioWeightedMs => "IOWeightedMs"
  | .sessionId => "SessionId"

inductive SysProcPressureColumn where
  | id | systemTime | monotonicTime | receiveTime | cpuSomeAvg10 | cpuSomeAvg60 | cpuSomeAvg300
  | cpuSomeTotal | cpuFullAvg10 | cpuFullAvg60 | cpuFullAvg300 | cpuFullTotal | memSomeAvg10
  | memSomeAvg60 | memSomeAvg300 | memSomeTotal | memFullAvg10 | memFullAvg60 | memFullAvg300
  | memFullTotal | ioSomeAvg10 | ioSomeAvg60 | ioSomeAvg300 | ioSomeTotal | ioFullAvg10
  | ioFullAvg60 | ioFullAvg300 | ioFullTotal | sessionId
  deriving DecidableEq

def sysProcPressureColumn : SysProcPressureColumn → String
  | .id => "Id" | .systemTime => "SystemTime" | .monotonicTime => "MonotonicTime"
  | .receiveTime => "ReceiveTime" | .cpuSomeAvg10 => "CPUSomeAvg10"
  | .cpuSomeAvg60 => "CPUSomeAvg60" | .cpuSomeAvg300 => "CPUSomeAvg300"
  | .cpuSomeTotal => "CPUSomeTotal" | .cpuFullAvg10 => "CPUFullAvg10"
  | .cpuFullAvg60 => "CPUFullAvg60" | .cpuFullAvg300 => "CPUFullAvg300"
  | .cpuFullTotal => "CPUFullTotal" | .memSomeAvg10 => "MEMSomeAvg10"
  | .memSomeAvg60 => "MEMSomeAvg60" | .memSomeAvg300 => "MEMSomeAvg300"
  | .memSomeTotal => "MEMSomeTotal" | .memFullAvg10 => "MEMFullAvg10"
  | .memFullAvg60 => "MEMFullAvg60" | .memFullAvg300 => "MEMFullAvg300"
  | .memFullTotal => "MEMFullTotal" | .ioSomeAvg10 => "IOSomeAvg10" | .ioSomeAvg60 => "IOSomeAvg60"
  | .ioSomeAvg300 => "IOSomeAvg300" | .ioSomeTotal => "IOSomeTotal" | .ioFullAvg10 => "IOFullAvg10"
  | .ioFullAvg60 => "IOFullAvg60" | .ioFullAvg300 => "IOFullAvg300" | .ioFullTotal => "IOFullTotal"
  | .sessionId => "SessionId"

inductive SysProcVMStatColumn where
  | id | systemTime | monotonicTime | receiveTime | pgpgin | pgpgout | pSwpin | pSwpout | pgmajfault
  | pgreuse | pgStealKswapd | pgStealDirect | pgStealKhugepaged | pgStealAnon | pgStealFile
  | pgScanKswapd | pgScanDirect | pgScanKhugepaged | pgScanDirectThrottle | pgScanAnon | pgScanFile
  | oomKill | compactStall | compactFail | compactSuccess | thpFaultAlloc | thpCollapseAlloc
  | thpCollapseAllocFailed | thpFileAlloc | thpFileMapped | thpSplitPage | thpSplitPageFailed
  | thpZeroPageAlloc | thpZeroPageAllocFailed | thpSwpout | thpSwpoutFallback | sessionId
  deriving DecidableEq

def sysProcVMStatColumn : SysProcVMStatColumn → String
  | .id => "Id" | .systemTime => "SystemTime" | .monotonicTime => "MonotonicTime"
  | .receiveTime => "ReceiveTime" | .pgpgin => "PGpgin" | .pgpgout => "PGpgout"
  | .pSwpin => "PSwpin" | .pSwpout => "PSwpout" | .pgmajfault => "PGmajfault"
  | .pgreuse => "PGreuse" | .pgStealKswapd => "PGStealKswapd" | .pgStealDirect => "PGStealDirect"
  | .pgStealKhugepaged => "PGStealKhugepaged" | .pgStealAnon => "PGStealAnon"
  | .pgStealFile => "PGStealFile" | .pgScanKswapd => "PGScanKswapd"
  | .pgScanDirect => "PGScanDirect" | .pgScanKhugepaged => "PGScanKhugepaged"
  | .pgScanDirectThrottle => "PGScanDirectThrottle" | .pgScanAnon => "PGScanAnon"
  | .pgScanFile => "PGScanFile" | .oomKill => "OOMKill" | .compactStall => "CompactStall"
  | .compactFail => "CompactFail" | .compactSuccess => "CompactSuccess"
  | .thpFaultAlloc => "ThpFaultAlloc" | .thpCollapseAlloc => "ThpCollapseAlloc"
  | .thpCollapseAllocFailed => "ThpCollapseAllocFailed" | .thpFileAlloc => "ThpFileAlloc"
  | .thpFileMapped => "ThpFileMapped" | .thpSplitPage => "ThpSplitPage"
  | .thpSplitPageFailed => "ThpSplitPageFailed" | .thpZeroPageAlloc => "ThpZeroPageAlloc"
  | .thpZeroPageAllocFailed => "ThpZeroPageAllocFailed" | .thpSwpout => "ThpSwpout"
  | .thpSwpoutFallback => "ThpSwpoutFallback" | .sessionId => "SessionId"

inductive ProcAcctColumn where
  | id | systemTime | monotonicTime | receiveTime | acComm | acUid | acGid | acPid | acPPid
  | acUTime | acSTime | cpuCount | cpuRunRealTotal | cpuRunVirtualTotal | cpuDelayTotal
  | cpuDelayAverage | coreMem | virtMem | hiwaterRss | hiwaterVm | nvcsw | nivcsw | swapinCount
  | swapinDelayTotal | swapinDelayAverage | blkIOCount | blkIODelayTotal | blkIODelayAverage
  | ioStorageReadBytes | ioStorageWriteBytes | ioReadChar | ioWriteChar | ioReadSyscalls
  | ioWriteSyscalls | freePagesCount | freePagesDelayTotal | freePagesDelayAverage | thrashingCount
  | thrashingDelayTotal | thrashingDelayAverage | sessionId
  deriving DecidableEq

def procAcctColumn : ProcAcctColumn → String
  | .id => "Id" | .systemTime => "SystemTime" | .monotonicTime => "MonotonicTime"
  | .receiveTime => "ReceiveTime" | .acComm => "AcComm" | .acUid => "AcUid" | .acGid => "AcGid"
  | .acPid => "AcPid" | .acPPid => "AcPPid" | .acUTime => "AcUTime" | .acSTime => "AcSTime"
  | .cpuCount => "CpuCount" | .cpuRunRealTotal => "CpuRunRealTotal"
  | .cpuRunVirtualTotal => "CpuRunVirtualTotal" | .cpuDelayTotal => "CpuDelayTotal"
  | .cpuDelayAverage => "CpuDelayAverage" | .coreMem => "CoreMem" | .virtMem => "VirtMem"
  | .hiwaterRss => "HiwaterRss" | .hiwaterVm => "HiwaterVm" | .nvcsw => "Nvcsw"
  | .nivcsw => "Nivcsw" | .swapinCount => "SwapinCount" | .swapinDelayTotal => "SwapinDelayTotal"
  | .swapinDelayAverage => "SwapinDelayAverage" | .blkIOCount => "BlkIOCount"
  | .blkIODelayTotal => "BlkIODelayTotal" | .blkIODelayAverage => "BlkIODelayAverage"
  | .ioStorageReadBytes => "IOStorageReadBytes" | .ioStorageWriteBytes => "IOStorageWriteBytes"
  | .ioReadChar => "IOReadChar" | .ioWriteChar => "IOWriteChar"
  | .ioReadSyscalls => "IOReadSyscalls" | .ioWriteSyscalls => "IOWriteSyscalls"
  | .freePagesCount => "FreePagesCount" | .freePagesDelayTotal => "FreePagesDelayTotal"
  | .freePagesDelayAverage => "FreePagesDelayAverage" | .thrashingCount => "ThrashingCount"
  | .thrashingDelayTotal => "ThrashingDelayTotal"
  | .thrashingDelayAverage => "ThrashingDelayAverage" | .sessionId => "SessionId"

inductive ProcInfoColumn where
  | id | systemTime | monotonicTime | receiveTime | comm | pid | pPid | ctxId | ctxName | cpuTime
  | cpuPercent | memRSS | memPSS | fdCount | sessionId
  deriving DecidableEq

def procInfoColumn : ProcInfoColumn → String
  | .id => "Id" | .systemTime => "SystemTime" | .monotonicTime => "MonotonicTime"
  | .receiveTime => "ReceiveTime" | .comm => "Comm" | .pid => "PID" | .pPid => "PPID"
  | .ctxId => "ContextId" | .ctxName => "ContextName" | .cpuTime => "CpuTime"
  | .cpuPercent => "CpuPercent" | .memRSS => "MemRSS" | .memPSS => "MemPSS" | .fdCount => "FDCount"
  | .sessionId => "SessionId"

inductive ContextInfoColumn where
  | id | systemTime | monotonicTime | receiveTime | ctxId | ctxName | totalCpuTime | totalCpuPercent
  | totalMemRSS | totalMemPSS | totalFDCount | sessionId
  deriving DecidableEq

def contextInfoColumn : ContextInfoColumn → String
  | .id => "Id" | .systemTime => "SystemTime" | .monotonicTime => "MonotonicTime"
  | .receiveTime => "ReceiveTime" | .ctxId => "ContextId" | .ctxName => "ContextName"
  | .totalCpuTime => "TotalCpuTime" | .totalCpuPercent => "TotalCpuPercent"
  | .totalMemRSS => "TotalMemRSS" | .totalMemPSS => "TotalMemPSS" | .totalFDCount => "TotalFDCount"
  | .sessionId => "SessionId"

inductive SysProcBuddyInfoColumn where
  | id | systemTime | monotonicTime | receiveTime | name | zone | data | sessionId
  deriving DecidableEq

def sysProcBuddyInfoColumn : SysProcBuddyInfoColumn → String
  | .id => "Id" | .systemTime => "SystemTime" | .monotonicTime => "MonotonicTime"
  | .receiveTime => "ReceiveTime" | .name => "Name" | .zone => "Zone" | .data => "Data"
  | .sessionId => "SessionId"

inductive SysProcWirelessColumn where
  | id | systemTime | monotonicTime | receiveTime | name | status | qualityLink | qualityLevel
  | qualityNoise | discardedNWId | discardedCrypt | discardedFrag | discardedRetry | discardedMisc
  | missedBeacon | sessionId
  deriving DecidableEq

def sysProcWirelessColumn : SysProcWirelessColumn → String
  | .id => "Id" | .systemTime => "SystemTime" | .monotonicTime => "MonotonicTime"
  | .receiveTime => "ReceiveTime" | .name => "Name" | .status => "Status"
  | .qualityLink => "QualityLink" | .qualityLevel => "QualityLevel"
  | .qualityNoise => "QualityNoise" | .discardedNWId => "DiscardedNWId"
  | .discardedCrypt => "DiscardedCrypt" | .discardedFrag => "DiscardedFrag"
  | .discardedRetry => "DiscardedRetry" | .discardedMisc => "DiscardedMisc"
  | .missedBeacon => "MissedBeacon" | .sessionId => "SessionId"

def devicesTableName : String := "tkmDevices"

def sessionsTableName : String := "tkmSessions"

def sysProcStatTableName : String := "tkmSysProcStat"

def sysProcMemInfoTableName : String := "tkmSysProcMemInfo"

def sysProcDiskStatsTableName : String := "tkmSysProcDiskStats"

def sysProcPressureTableName : String := "tkmSysProcPressure"

def sysProcBuddyInfoTableName : String := "tkmSysProcBuddyInfo"

def sysProcWirelessTableName : String := "tkmSysProcWireless"

def sysProcVMStatTableName : String := "tkmSysProcVMStat"

def procAcctTableName : String := "tkmProcAcct"

def procInfoTableName : String := "tkmProcInfo"

def procEventTableName : String := "tkmProcEvent"

def contextInfoTableName : String := "tkmContextInfo"

/-- The type and the constraint that a column is declared with. -/
inductive ColumnKind where
  | integerKey | serialKey | integer | bigint | text | real
  deriving DecidableEq

def ColumnKind.sql : ColumnKind → String
  | .integerKey => "INTEGER PRIMARY KEY"
  | .serialKey => "SERIAL PRIMARY KEY"
  | .integer => "INTEGER NOT NULL"
  | .bigint => "BIGINT NOT NULL"
  | .text => "TEXT NOT NULL"
  | .real => "REAL NOT NULL"

/-- The columns that the database fills in by itself. -/
def ColumnKind.isKey : ColumnKind → Bool
  | .integerKey | .serialKey => true
  | .integer | .bigint | .text | .real => false

structure ColumnDef where
  name : String
  kind : ColumnKind
  deriving DecidableEq

structure ForeignKey where
  constraint : String
  column : String
  table : String
  deriving DecidableEq

structure TableDef where
  name : String
  columns : List ColumnDef
  foreignKey : Option ForeignKey
  deriving DecidableEq

def ColumnDef.sql (c : ColumnDef) : String := c.name ++ " " ++ c.kind.sql

def ForeignKey.sql (key : ForeignKey) : String :=
  "CONSTRAINT " ++ key.constraint ++ " FOREIGN KEY(" ++ key.column ++ ") REFERENCES " ++ key.table ++
    "(Id) ON DELETE CASCADE"

def TableDef.sql (t : TableDef) : String :=
  "CREATE TABLE IF NOT EXISTS " ++ t.name ++ " (" ++
    ", ".intercalate (t.columns.map ColumnDef.sql ++ t.foreignKey.toList.map ForeignKey.sql) ++ ");"

def declare {C : Type} (name : C → String) (columns : List (C × ColumnKind)) : List ColumnDef :=
  columns.map fun c => ⟨name c.1, c.2⟩

/-- The constraint by which a measurement refers to its session. -/
def sessionKey (column : String) : ForeignKey := ⟨"KFSession", column, sessionsTableName⟩

def devicesTable (type : DbType) : TableDef where
  name := devicesTableName
  columns := declare deviceColumn [
    (.id, match type with
      | .sqlite3 => .integerKey
      | .postgreSQL => .serialKey),
    (.hash, .text), (.name, .text), (.address, .text), (.port, .integer)]
  foreignKey := none

def sessionsTable (type : DbType) : TableDef where
  name := sessionsTableName
  columns := declare sessionColumn (match type with
    | .sqlite3 => [
        (.id, .integerKey), (.name, .text), (.hash, .text), (.coreCount, .integer),
        (.startTimestamp, .integer), (.endTimestamp, .integer), (.device, .integer)]
    | .postgreSQL => [
        (.id, .serialKey), (.name, .text), (.hash, .text), (.coreCount, .bigint),
        (.startTimestamp, .bigint), (.endTimestamp, .bigint), (.device, .integer)])
  foreignKey := some ⟨"KFDevice", sessionColumn .device, devicesTableName⟩

def procEventTable (type : DbType) : TableDef where
  name := procEventTableName
  columns := declare procEventColumn (match type with
    | .sqlite3 => [
        (.id, .integerKey), (.systemTime, .integer), (.monotonicTime, .integer),
        (.receiveTime, .integer), (.forkCount, .integer), (.execCount, .integer),
        (.exitCount, .integer), (.uIdCount, .integer), (.gIdCount, .integer),
        (.sessionId, .integer)]
    | .postgreSQL => [
        (.id, .serialKey), (.systemTime, .bigint), (.monotonicTime, .bigint),
        (.receiveTime, .bigint), (.forkCount, .bigint), (.execCount, .bigint),
        (.exitCount, .bigint), (.uIdCount, .bigint), (.gIdCount, .bigint), (.sessionId, .integer)])
  foreignKey := some (sessionKey (procEventColumn .sessionId))

def sysProcStatTable (type : DbType) : TableDef where
  name := sysProcStatTableName
  columns := declare sysProcStatColumn (match type with
    | .sqlite3 => [
        (.id, .integerKey), (.systemTime, .integer), (.monotonicTime, .integer),
        (.receiveTime, .integer), (.cpuStatName, .text), (.cpuStatAll, .integer),
        (.cpuStatUsr, .integer), (.cpuStatSys, .integer), (.cpuStatIow, .integer),
        (.sessionId, .integer)]
    | .postgreSQL => [
        (.id, .serialKey), (.systemTime, .bigint), (.monotonicTime, .bigint),
        (.receiveTime, .bigint), (.cpuStatName, .text), (.cpuStatAll, .bigint),
        (.cpuStatUsr, .bigint), (.cpuStatSys, .bigint), (.cpuStatIow, .bigint),
        (.sessionId, .integer)])
  foreignKey := some (sessionKey (sysProcStatColumn .sessionId))

def sysProcMemInfoTable (type : DbType) : TableDef where
  name := sysProcMemInfoTableName
  columns := declare sysProcMemColumn (match type with
    | .sqlite3 => [
        (.id, .integerKey), (.systemTime, .integer), (.monotonicTime, .integer),
        (.receiveTime, .integer), (.memTotal, .integer), (.memFree, .integer),
        (.memAvail, .integer), (.memCached, .integer), (.memAvailPercent, .integer),
        (.active, .integer), (.inactive, .integer), (.slab, .integer), (.kReclaimable, .integer),
        (.sReclaimable, .integer), (.sUnreclaim, .integer), (.kernelStack, .integer),
        (.swapTotal, .integer), (.swapFree, .integer), (.swapCached, .integer),
        (.swapFreePercent, .integer), (.cmaTotal, .integer), (.cmaFree, .integer),
        (.sessionId, .integer)]
    | .postgreSQL => [
        (.id, .serialKey), (.systemTime, .bigint), (.monotonicTime, .bigint),
        (.receiveTime, .bigint), (.memTotal, .bigint), (.memFree, .bigint), (.memAvail, .bigint),
        (.memCached, .bigint), (.memAvailPercent, .bigint), (.active, .bigint),
        (.inactive, .bigint), (.slab, .bigint), (.kReclaimable, .bigint), (.sReclaimable, .bigint),
        (.sUnreclaim, .bigint), (.kernelStack, .bigint), (.swapTotal, .bigint),
        (.swapFree, .bigint), (.swapCached, .bigint), (.swapFreePercent, .bigint),
        (.cmaTotal, .bigint), (.cmaFree, .bigint), (.sessionId, .integer)])
  foreignKey := some (sessionKey (sysProcMemColumn .sessionId))

def sysProcDiskStatsTable (type : DbType) : TableDef where
  name := sysProcDiskStatsTableName
  columns := declare sysProcDiskColumn (match type with
    | .sqlite3 => [
        (.id, .integerKey), (.systemTime, .integer), (.monotonicTime, .integer),
        (.receiveTime, .integer), (.major, .integer), (.minor, .integer), (.name, .text),
        (.readsCompleted, .integer), (.readsMerged, .integer), (.readsSpentMs, .integer),
        (.writesCompleted, .integer), (.writesMerged, .integer), (.writesSpentMs, .integer),
        (.ioInProgress, .integer), (.ioSpentMs, .integer), (.ioWeightedMs, .integer),
        (.sessionId, .integer)]
    | .postgreSQL => [
        (.id, .serialKey), (.systemTime, .bigint), (.monotonicTime, .bigint),
        (.receiveTime, .bigint), (.major, .integer), (.minor, .integer), (.name, .text),
        (.readsCompleted, .bigint), (.readsMerged, .bigint), (.readsSpentMs, .bigint),
        (.writesCompleted, .bigint), (.writesMerged, .bigint), (.writesSpentMs, .bigint),
        (.ioInProgress, .bigint), (.ioSpentMs, .bigint), (.ioWeightedMs, .bigint),
        (.sessionId, .integer)])
  foreignKey := some (sessionKey (sysProcStatColumn .sessionId))

def sysProcPressureTable (type : DbType) : TableDef where
  name := sysProcPressureTableName
  columns := declare sysProcPressureColumn (match type with
    | .sqlite3 => [
        (.id, .integerKey), (.systemTime, .integer), (.monotonicTime, .integer),
        (.receiveTime, .integer), (.cpuSomeAvg10, .real), (.cpuSomeAvg60, .real),
        (.cpuSomeAvg300, .real), (.cpuSomeTotal, .integer), (.cpuFullAvg10, .real),
        (.cpuFullAvg60, .real), (.cpuFullAvg300, .real), (.cpuFullTotal, .integer),
        (.memSomeAvg10, .real), (.memSomeAvg60, .real), (.memSomeAvg300, .real),
        (.memSomeTotal, .integer), (.memFullAvg10, .real), (.memFullAvg60, .real),
        (.memFullAvg300, .real), (.memFullTotal, .integer), (.ioSomeAvg10, .real),
        (.ioSomeAvg60, .real), (.ioSomeAvg300, .real), (.ioSomeTotal, .integer),
        (.ioFullAvg10, .real), (.ioFullAvg60, .real), (.ioFullAvg300, .real),
        (.ioFullTotal, .integer), (.sessionId, .integer)]
    | .postgreSQL => [
        (.id, .serialKey), (.systemTime, .bigint), (.monotonicTime, .bigint),
        (.receiveTime, .bigint), (.cpuSomeAvg10, .real), (.cpuSomeAvg60, .real),
        (.cpuSomeAvg300, .real), (.cpuSomeTotal, .bigint), (.cpuFullAvg10, .real),
        (.cpuFullAvg60, .real), (.cpuFullAvg300, .real), (.cpuFullTotal, .bigint),
        (.memSomeAvg10, .real), (.memSomeAvg60, .real), (.memSomeAvg300, .real),
        (.memSomeTotal, .bigint), (.memFullAvg10, .real), (.memFullAvg60, .real),
        (.memFullAvg300, .real), (.memFullTotal, .bigint), (.ioSomeAvg10, .real),
        (.ioSomeAvg60, .real), (.ioSomeAvg300, .real), (.ioSomeTotal, .bigint),
        (.ioFullAvg10, .real), (.ioFullAvg60, .real), (.ioFullAvg300, .real),
        (.ioFullTotal, .bigint), (.sessionId, .integer)])
  foreignKey := some (sessionKey (sysProcPressureColumn .sessionId))

def sysProcVMStatTable (type : DbType) : TableDef where
  name := sysProcVMStatTableName
  columns := declare sysProcVMStatColumn (match type with
    | .sqlite3 => [
        (.id, .integerKey), (.systemTime, .integer), (.monotonicTime, .integer),
        (.receiveTime, .integer), (.pgpgin, .integer), (.pgpgout, .integer), (.pSwpin, .integer),
        (.pSwpout, .integer), (.pgmajfault, .integer), (.pgreuse, .integer),
        (.pgStealKswapd, .integer), (.pgStealDirect, .integer), (.pgStealKhugepaged, .integer),
        (.pgStealAnon, .integer), (.pgStealFile, .integer), (.pgScanKswapd, .integer),
        (.pgScanDirect, .integer), (.pgScanKhugepaged, .integer), (.pgScanDirectThrottle, .integer),
        (.pgScanAnon, .integer), (.pgScanFile, .integer), (.oomKill, .integer),
        (.compactStall, .integer), (.compactFail, .integer), (.compactSuccess, .integer),
        (.thpFaultAlloc, .integer), (.thpCollapseAlloc, .integer),
        (.thpCollapseAllocFailed, .integer), (.thpFileAlloc, .integer), (.thpFileMapped, .integer),
        (.thpSplitPage, .integer), (.thpSplitPageFailed, .integer), (.thpZeroPageAlloc, .integer),
        (.thpZeroPageAllocFailed, .integer), (.thpSwpout, .integer), (.thpSwpoutFallback, .integer),
        (.sessionId, .integer)]
    | .postgreSQL => [
        (.id, .serialKey), (.systemTime, .bigint), (.monotonicTime, .bigint),
        (.receiveTime, .bigint), (.pgpgin, .bigint), (.pgpgout, .bigint), (.pSwpin, .bigint),
        (.pSwpout, .bigint), (.pgmajfault, .bigint), (.pgreuse, .bigint), (.pgStealKswapd, .bigint),
        (.pgStealDirect, .bigint), (.pgStealKhugepaged, .bigint), (.pgStealAnon, .bigint),
        (.pgStealFile, .bigint), (.pgScanKswapd, .bigint), (.pgScanDirect, .bigint),
        (.pgScanKhugepaged, .bigint), (.pgScanDirectThrottle, .bigint), (.pgScanAnon, .bigint),
        (.pgScanFile, .bigint), (.oomKill, .bigint), (.compactStall, .bigint),
        (.compactFail, .bigint), (.compactSuccess, .bigint), (.thpFaultAlloc, .bigint),
        (.thpCollapseAlloc, .bigint), (.thpCollapseAllocFailed, .bigint), (.thpFileAlloc, .bigint),
        (.thpFileMapped, .bigint), (.thpSplitPage, .bigint), (.thpSplitPageFailed, .bigint),
        (.thpZeroPageAlloc, .bigint), (.thpZeroPageAllocFailed, .bigint), (.thpSwpout, .bigint),
        (.thpSwpoutFallback, .bigint), (.sessionId, .bigint)])
  foreignKey := some (sessionKey (sysProcVMStatColumn .sessionId))

def procAcctTable (type : DbType) : TableDef where
  name := procAcctTableName
  columns := declare procAcctColumn (match type with
    | .sqlite3 => [
        (.id, .integerKey), (.systemTime, .integer), (.monotonicTime, .integer),
        (.receiveTime, .integer), (.acComm, .text), (.acUid, .integer), (.acGid, .integer),
        (.acPid, .integer), (.acPPid, .integer), (.acUTime, .integer), (.acSTime, .integer),
        (.cpuCount, .integer), (.cpuRunRealTotal, .integer), (.cpuRunVirtualTotal, .integer),
        (.cpuDelayTotal, .integer), (.cpuDelayAverage, .integer), (.coreMem, .integer),
        (.virtMem, .integer), (.hiwaterRss, .integer), (.hiwaterVm, .integer), (.nvcsw, .integer),
        (.nivcsw, .integer), (.swapinCount, .integer), (.swapinDelayTotal, .integer),
        (.swapinDelayAverage, .integer), (.blkIOCount, .integer), (.blkIODelayTotal, .integer),
        (.blkIODelayAverage, .integer), (.ioStorageReadBytes, .integer),
        (.ioStorageWriteBytes, .integer), (.ioReadChar, .integer), (.ioWriteChar, .integer),
        (.ioReadSyscalls, .integer), (.ioWriteSyscalls, .integer), (.freePagesCount, .integer),
        (.freePagesDelayTotal, .integer), (.freePagesDelayAverage, .integer),
        (.thrashingCount, .integer), (.thrashingDelayTotal, .integer),
        (.thrashingDelayAverage, .integer), (.sessionId, .integer)]
    | .postgreSQL => [
        (.id, .serialKey), (.systemTime, .bigint), (.monotonicTime, .bigint),
        (.receiveTime, .bigint), (.acComm, .text), (.acUid, .bigint), (.acGid, .bigint),
        (.acPid, .bigint), (.acPPid, .bigint), (.acUTime, .bigint), (.acSTime, .bigint),
        (.cpuCount, .bigint), (.cpuRunRealTotal, .bigint), (.cpuRunVirtualTotal, .bigint),
        (.cpuDelayTotal, .bigint), (.cpuDelayAverage, .bigint), (.coreMem, .bigint),
        (.virtMem, .bigint), (.hiwaterRss, .bigint), (.hiwaterVm, .bigint), (.nvcsw, .bigint),
        (.nivcsw, .bigint), (.swapinCount, .bigint), (.swapinDelayTotal, .bigint),
        (.swapinDelayAverage, .bigint), (.blkIOCount, .bigint), (.blkIODelayTotal, .bigint),
        (.blkIODelayAverage, .bigint), (.ioStorageReadBytes, .bigint),
        (.ioStorageWriteBytes, .bigint), (.ioReadChar, .bigint), (.ioWriteChar, .bigint),
        (.ioReadSyscalls, .bigint), (.ioWriteSyscalls, .bigint), (.freePagesCount, .bigint),
        (.freePagesDelayTotal, .bigint), (.freePagesDelayAverage, .bigint),
        (.thrashingCount, .bigint), (.thrashingDelayTotal, .bigint),
        (.thrashingDelayAverage, .bigint), (.sessionId, .integer)])
  foreignKey := some (sessionKey (procAcctColumn .sessionId))

def procInfoTable (type : DbType) : TableDef where
  name := procInfoTableName
  columns := declare procInfoColumn (match type with
    | .sqlite3 => [
        (.id, .integerKey), (.systemTime, .integer), (.monotonicTime, .integer),
        (.receiveTime, .integer), (.comm, .text), (.pid, .integer), (.pPid, .integer),
        (.ctxId, .text), (.ctxName, .text), (.cpuTime, .integer), (.cpuPercent, .integer),
        (.memRSS, .integer), (.memPSS, .integer), (.fdCount, .integer), (.sessionId, .integer)]
    | .postgreSQL => [
        (.id, .serialKey), (.systemTime, .bigint), (.monotonicTime, .bigint),
        (.receiveTime, .bigint), (.comm, .text), (.pid, .bigint), (.pPid, .bigint), (.ctxId, .text),
        (.ctxName, .text), (.cpuTime, .bigint), (.cpuPercent, .bigint), (.memRSS, .bigint),
        (.memPSS, .bigint), (.fdCount, .bigint), (.sessionId, .integer)])
  foreignKey := some (sessionKey (procInfoColumn .sessionId))

def contextInfoTable (type : DbType) : TableDef where
  name := contextInfoTableName
  columns := declare contextInfoColumn (match type with
    | .sqlite3 => [
        (.id, .integerKey), (.systemTime, .integer), (.monotonicTime, .integer),
        (.receiveTime, .integer), (.ctxId, .text), (.ctxName, .text), (.totalCpuTime, .integer),
        (.totalCpuPercent, .integer), (.totalMemRSS, .integer), (.totalMemPSS, .integer),
        (.totalFDCount, .integer), (.sessionId, .integer)]
    | .postgreSQL => [
        (.id, .serialKey), (.systemTime, .bigint), (.monotonicTime, .bigint),
        (.receiveTime, .bigint), (.ctxId, .text), (.ctxName, .text), (.totalCpuTime, .bigint),
        (.totalCpuPercent, .bigint), (.totalMemRSS, .bigint), (.totalMemPSS, .bigint),
        (.totalFDCount, .bigint), (.sessionId, .integer)])
  foreignKey := some (sessionKey (contextInfoColumn .sessionId))

def sysProcBuddyInfoTable (type : DbType) : TableDef where
  name := sysProcBuddyInfoTableName
  columns := declare sysProcBuddyInfoColumn (match type with
    | .sqlite3 => [
        (.id, .integerKey), (.systemTime, .integer), (.monotonicTime, .integer),
        (.receiveTime, .integer), (.name, .text), (.zone, .text), (.data, .text),
        (.sessionId, .integer)]
    | .postgreSQL => [
        (.id, .serialKey), (.systemTime, .bigint), (.monotonicTime, .bigint),
        (.receiveTime, .bigint), (.name, .text), (.zone, .text), (.data, .text),
        (.sessionId, .integer)])
  foreignKey := some (sessionKey (sysProcBuddyInfoColumn .sessionId))

def sysProcWirelessTable (type : DbType) : TableDef where
  name := sysProcWirelessTableName
  columns := declare sysProcWirelessColumn (match type with
    | .sqlite3 => [
        (.id, .integerKey), (.systemTime, .integer), (.monotonicTime, .integer),
        (.receiveTime, .integer), (.name, .text), (.status, .text), (.qualityLink, .integer),
        (.qualityLevel, .integer), (.qualityNoise, .integer), (.discardedNWId, .integer),
        (.discardedCrypt, .integer), (.discardedFrag, .integer), (.discardedRetry, .integer),
        (.discardedMisc, .integer), (.missedBeacon, .integer), (.sessionId, .integer)]
    | .postgreSQL => [
        (.id, .serialKey), (.systemTime, .bigint), (.monotonicTime, .bigint),
        (.receiveTime, .bigint), (.name, .text), (.status, .text), (.qualityLink, .bigint),
        (.qualityLevel, .bigint), (.qualityNoise, .bigint), (.discardedNWId, .bigint),
        (.discardedCrypt, .bigint), (.discardedFrag, .bigint), (.discardedRetry, .bigint),
        (.discardedMisc, .bigint), (.missedBeacon, .bigint), (.sessionId, .integer)])
  foreignKey := some (sessionKey (sysProcWirelessColumn .sessionId))

/-- The tables that `createTables` creates, in this order. -/
def tables (type : DbType) : List TableDef :=
  [devicesTable type, sessionsTable type, procEventTable type, sysProcStatTable type,
    sysProcMemInfoTable type, sysProcDiskStatsTable type, sysProcPressureTable type,
    sysProcVMStatTable type, procAcctTable type, procInfoTable type, contextInfoTable type,
    sysProcBuddyInfoTable type, sysProcWirelessTable type]

def createTables (type : DbType) : String :=
  String.join ((tables type).map TableDef.sql)

/-- The tables that `dropTables` drops, in this order. -/
def droppedTables : List String :=
  [devicesTableName, sessionsTableName, sysProcStatTableName, sysProcMemInfoTableName,
    sysProcDiskStatsTableName, sysProcPressureTableName, sysProcBuddyInfoTableName,
    sysProcWirelessTableName, sysProcVMStatTableName, procAcctTableName, procInfoTableName,
    procEventTableName, contextInfoTableName]

def dropTables (type : DbType) : String :=
  String.join (droppedTables.map fun name => "DROP TABLE IF EXISTS " ++ name ++
    match type with
    | .sqlite3 => ";"
    | .postgreSQL => " CASCADE;")

end Query

end TkmCollector
