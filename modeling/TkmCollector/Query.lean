import TkmCollector.Schema

namespace TkmCollector

namespace Query

/-- The operator that compares a `Hash` column. -/
def hashOperator : DbType → String
  | .sqlite3 => " IS "
  | .postgreSQL => " LIKE "

/-- The time arguments of `addData`. -/
structure Timestamps where
  systemTime : Nat
  monotonicTime : Nat
  receiveTime : Nat
  deriving DecidableEq

/-- A value of an `INSERT`, by the type that it is printed from. -/
inductive Value where
  | int (n : Int)
  | float (x : FloatText)
  | text (s : String)
  deriving DecidableEq

def Value.render : Value → String
  | .int n => toString n
  | .float x => x.text
  | .text s => s

/-- One `INSERT` of `addData`: the session column is last and has no value here. -/
structure Insert where
  table : String
  columns : List String
  values : List Value
  deriving DecidableEq

def procEventInsert (m : Monitor.ProcEvent) (t : Timestamps) : Insert where
  table := procEventTableName
  columns := [
    .systemTime, .monotonicTime, .receiveTime, .forkCount, .execCount, .exitCount, .uIdCount,
    .gIdCount, .sessionId].map procEventColumn
  values := [
    .int t.systemTime, .int t.monotonicTime, .int t.receiveTime, .int m.forkCount, .int m.execCount,
    .int m.exitCount, .int m.uidCount, .int m.gidCount]

def sysProcStatInsert (cpuStat : Monitor.CPUStat) (t : Timestamps) : Insert where
  table := sysProcStatTableName
  columns := [
    .systemTime, .monotonicTime, .receiveTime, .cpuStatName, .cpuStatAll, .cpuStatUsr, .cpuStatSys,
    .cpuStatIow, .sessionId].map sysProcStatColumn
  values := [
    .int t.systemTime, .int t.monotonicTime, .int t.receiveTime, .text cpuStat.name,
    .int cpuStat.all, .int cpuStat.usr, .int cpuStat.sys, .int cpuStat.iow]

def sysProcMemInfoInsert (m : Monitor.SysProcMemInfo) (t : Timestamps) : Insert where
  table := sysProcMemInfoTableName
  columns := [
    .systemTime, .monotonicTime, .receiveTime, .memTotal, .memFree, .memAvail, .memCached,
    .memAvailPercent, .active, .inactive, .slab, .kReclaimable, .sReclaimable, .sUnreclaim,
    .kernelStack, .swapTotal, .swapFree, .swapCached, .swapFreePercent, .cmaTotal, .cmaFree,
    .sessionId].map sysProcMemColumn
  values := [
    .int t.systemTime, .int t.monotonicTime, .int t.receiveTime, .int m.memTotal, .int m.memFree,
    .int m.memAvailable, .int m.memCached, .int m.memPercent, .int m.active, .int m.inactive,
    .int m.slab, .int m.kreclaimable, .int m.sreclaimable, .int m.sunreclaim, .int m.kernelStack,
    .int m.swapTotal, .int m.swapFree, .int m.swapCached, .int m.swapPercent, .int m.cmaTotal,
    .int m.cmaFree]

def sysProcDiskStatsInsert (diskEntry : Monitor.DiskEntry) (t : Timestamps) : Insert where
  table := sysProcDiskStatsTableName
  columns := [
    .systemTime, .monotonicTime, .receiveTime, .major, .minor, .name, .readsCompleted, .readsMerged,
    .readsSpentMs, .writesCompleted, .writesMerged, .writesSpentMs, .ioInProgress, .ioSpentMs,
    .ioWeightedMs, .sessionId].map sysProcDiskColumn
  values := [
    .int t.systemTime, .int t.monotonicTime, .int t.receiveTime, .int diskEntry.nodeMajor,
    .int diskEntry.nodeMinor, .text diskEntry.name, .int diskEntry.readsCompleted,
    .int diskEntry.readsMerged, .int diskEntry.readsSpentMs, .int diskEntry.writesCompleted,
    .int diskEntry.writesMerged, .int diskEntry.writesSpentMs, .int diskEntry.ioInProgress,
    .int diskEntry.ioSpentMs, .int diskEntry.ioWeightedMs]

def sysProcPressureInsert (m : Monitor.SysProcPressure) (t : Timestamps) : Insert where
  table := sysProcPressureTableName
  columns := [
    .systemTime, .monotonicTime, .receiveTime, .cpuSomeAvg10, .cpuSomeAvg60, .cpuSomeAvg300,
    .cpuSomeTotal, .cpuFullAvg10, .cpuFullAvg60, .cpuFullAvg300, .cpuFullTotal, .memSomeAvg10,
    .memSomeAvg60, .memSomeAvg300, .memSomeTotal, .memFullAvg10, .memFullAvg60, .memFullAvg300,
    .memFullTotal, .ioSomeAvg10, .ioSomeAvg60, .ioSomeAvg300, .ioSomeTotal, .ioFullAvg10,
    .ioFullAvg60, .ioFullAvg300, .ioFullTotal].map sysProcPressureColumn ++
    [sysProcStatColumn .sessionId]
  values := [
    .int t.systemTime, .int t.monotonicTime, .int t.receiveTime, .float m.cpuSome.avg10,
    .float m.cpuSome.avg60, .float m.cpuSome.avg300, .int m.cpuSome.total, .float m.cpuFull.avg10,
    .float m.cpuFull.avg60, .float m.cpuFull.avg300, .int m.cpuFull.total, .float m.memSome.avg10,
    .float m.memSome.avg60, .float m.memSome.avg300, .int m.memSome.total, .float m.memFull.avg10,
    .float m.memFull.avg60, .float m.memFull.avg300, .int m.memFull.total, .float m.ioSome.avg10,
    .float m.ioSome.avg60, .float m.ioSome.avg300, .int m.ioSome.total, .float m.ioFull.avg10,
    .float m.ioFull.avg60, .float m.ioFull.avg300, .int m.ioFull.total]

def procAcctInsert (m : Monitor.ProcAcct) (t : Timestamps) : Insert where
  table := procAcctTableName
  columns := [
    .systemTime, .monotonicTime, .receiveTime, .acComm, .acUid, .acGid, .acPid, .acPPid, .acUTime,
    .acSTime, .cpuCount, .cpuRunRealTotal, .cpuRunVirtualTotal, .cpuDelayTotal, .cpuDelayAverage,
    .coreMem, .virtMem, .hiwaterRss, .hiwaterVm, .nvcsw, .nivcsw, .swapinCount, .swapinDelayTotal,
    .swapinDelayAverage, .blkIOCount, .blkIODelayTotal, .blkIODelayAverage, .ioStorageReadBytes,
    .ioStorageWriteBytes, .ioReadChar, .ioWriteChar, .ioReadSyscalls, .ioWriteSyscalls,
    .freePagesCount, .freePagesDelayTotal, .freePagesDelayAverage, .thrashingCount,
    .thrashingDelayTotal, .thrashingDelayAverage, .sessionId].map procAcctColumn
  values := [
    .int t.systemTime, .int t.monotonicTime, .int t.receiveTime, .text m.acComm, .int m.acUid,
    .int m.acGid, .int m.acPid, .int m.acPpid, .int m.acUtime, .int m.acStime, .int m.cpu.cpuCount,
    .int m.cpu.cpuRunRealTotal, .int m.cpu.cpuRunVirtualTotal, .int m.cpu.cpuDelayTotal,
    .int m.cpu.cpuDelayAverage, .int m.mem.coremem, .int m.mem.virtmem, .int m.mem.hiwaterRss,
    .int m.mem.hiwaterVm, .int m.ctx.nvcsw, .int m.ctx.nivcsw, .int m.swp.swapinCount,
    .int m.swp.swapinDelayTotal, .int m.swp.swapinDelayAverage, .int m.io.blkioCount,
    .int m.io.blkioDelayTotal, .int m.io.blkioDelayAverage, .int m.io.readBytes,
    .int m.io.writeBytes, .int m.io.readChar, .int m.io.writeChar, .int m.io.readSyscalls,
    .int m.io.writeSyscalls, .int m.reclaim.freepagesCount, .int m.reclaim.freepagesDelayTotal,
    .int m.reclaim.freepagesDelayAverage, .int m.thrashing.thrashingCount,
    .int m.thrashing.thrashingDelayTotal, .int m.thrashing.thrashingDelayAverage]

def procInfoInsert (procEntry : Monitor.ProcInfoEntry) (t : Timestamps) : Insert where
  table := procInfoTableName
  columns := [
    .systemTime, .monotonicTime, .receiveTime, .comm, .pid, .pPid, .ctxId, .ctxName, .cpuTime,
    .cpuPercent, .memRSS, .memPSS, .fdCount, .sessionId].map procInfoColumn
  values := [
    .int t.systemTime, .int t.monotonicTime, .int t.receiveTime, .text procEntry.comm,
    .int procEntry.pid, .int procEntry.ppid, .int procEntry.ctxId, .text procEntry.ctxName,
    .int procEntry.cpuTime, .int procEntry.cpuPercent, .int procEntry.memRss, .int procEntry.memPss,
    .int procEntry.fdCount]

def contextInfoInsert (ctxEntry : Monitor.ContextInfoEntry) (t : Timestamps) : Insert where
  table := contextInfoTableName
  columns := [
    .systemTime, .monotonicTime, .receiveTime, .ctxId, .ctxName, .totalCpuTime, .totalCpuPercent,
    .totalMemRSS, .totalMemPSS, .totalFDCount, .sessionId].map contextInfoColumn
  values := [
    .int t.systemTime, .int t.monotonicTime, .int t.receiveTime, .int ctxEntry.ctxId,
    .text ctxEntry.ctxName, .int ctxEntry.totalCpuTime, .int ctxEntry.totalCpuPercent,
    .int ctxEntry.totalMemRss, .int ctxEntry.totalMemPss, .int ctxEntry.totalFdCount]

def sysProcBuddyInfoInsert (buddyInfo : Monitor.BuddyInfo) (t : Timestamps) : Insert where
  table := sysProcBuddyInfoTableName
  columns := [
    .systemTime, .monotonicTime, .receiveTime, .name, .zone, .data,
    .sessionId].map sysProcBuddyInfoColumn
  values := [
    .int t.systemTime, .int t.monotonicTime, .int t.receiveTime, .text buddyInfo.name,
    .text buddyInfo.zone, .text buddyInfo.data]

def sysProcWirelessInsert (ifw : Monitor.WlanInterface) (t : Timestamps) : Insert where
  table := sysProcWirelessTableName
  columns := [
    .systemTime, .monotonicTime, .receiveTime, .name, .status, .qualityLink, .qualityLevel,
    .qualityNoise, .discardedNWId, .discardedCrypt, .discardedFrag, .discardedRetry, .discardedMisc,
    .missedBeacon, .sessionId].map sysProcWirelessColumn
  values := [
    .int t.systemTime, .int t.monotonicTime, .int t.receiveTime, .text ifw.name, .text ifw.status,
    .int ifw.qualityLink, .int ifw.qualityLevel, .int ifw.qualityNoise, .int ifw.discardedNwid,
    .int ifw.discardedCrypt, .int ifw.discardedFrag, .int ifw.discardedRetry,
    .int ifw.discardedMisc, .int ifw.missedBeacon]

def sysProcVMStatInsert (m : Monitor.SysProcVMStat) (t : Timestamps) : Insert where
  table := sysProcVMStatTableName
  columns := [
    .systemTime, .monotonicTime, .receiveTime, .pgpgin, .pgpgout, .pSwpin, .pSwpout, .pgmajfault,
    .pgreuse, .pgStealKswapd, .pgStealDirect, .pgStealKhugepaged, .pgStealAnon, .pgStealFile,
    .pgScanKswapd, .pgScanDirect, .pgScanKhugepaged, .pgScanDirectThrottle, .pgScanAnon,
    .pgScanFile, .oomKill, .compactStall, .compactFail, .compactSuccess, .thpFaultAlloc,
    .thpCollapseAlloc, .thpCollapseAllocFailed, .thpFileAlloc, .thpFileMapped, .thpSplitPage,
    .thpSplitPageFailed, .thpZeroPageAlloc, .thpZeroPageAllocFailed, .thpSwpout, .thpSwpoutFallback,
    .sessionId].map sysProcVMStatColumn
  values := [
    .int t.systemTime, .int t.monotonicTime, .int t.receiveTime, .int m.pgpgin, .int m.pgpgout,
    .int m.pswpin, .int m.pswpout, .int m.pgmajfault, .int m.pgreuse, .int m.pgstealKswapd,
    .int m.pgstealDirect, .int m.pgstealKhugepaged, .int m.pgstealAnon, .int m.pgstealFile,
    .int m.pgscanKswapd, .int m.pgscanDirect, .int m.pgscanKhugepaged, .int m.pgscanDirectThrottle,
    .int m.pgscanAnon, .int m.pgscanFile, .int m.oomKill, .int m.compactStall, .int m.compactFail,
    .int m.compactSuccess, .int m.thpFaultAlloc, .int m.thpCollapseAlloc,
    .int m.thpCollapseAllocFailed, .int m.thpFileAlloc, .int m.thpFileMapped, .int m.thpSplitPage,
    .int m.thpSplitPageFailed, .int m.thpZeroPageAlloc, .int m.thpZeroPageAllocFailed,
    .int m.thpSwpout, .int m.thpSwpoutFallback]

/-- The overloads of `addData`, by the message they take. -/
inductive Measurement where
  | procEvent (m : Monitor.ProcEvent)
  | sysProcStat (m : Monitor.SysProcStat)
  | sysProcMemInfo (m : Monitor.SysProcMemInfo)
  | sysProcDiskStats (m : Monitor.SysProcDiskStats)
  | sysProcPressure (m : Monitor.SysProcPressure)
  | procAcct (m : Monitor.ProcAcct)
  | procInfo (m : Monitor.ProcInfo)
  | contextInfo (m : Monitor.ContextInfo)
  | sysProcBuddyInfo (m : Monitor.SysProcBuddyInfo)
  | sysProcWireless (m : Monitor.SysProcWireless)
  | sysProcVMStat (m : Monitor.SysProcVMStat)
  deriving DecidableEq

/-- The `INSERT`s that `addData` writes, in the order it writes them. -/
def Measurement.inserts (t : Timestamps) : Measurement → List Insert
  | .procEvent m => [procEventInsert m t]
  | .sysProcStat m => sysProcStatInsert m.cpu t :: m.core.map (sysProcStatInsert · t)
  | .sysProcMemInfo m => [sysProcMemInfoInsert m t]
  | .sysProcDiskStats m => m.disk.map (sysProcDiskStatsInsert · t)
  | .sysProcPressure m => [sysProcPressureInsert m t]
  | .procAcct m => [procAcctInsert m t]
  | .procInfo m => m.entry.map (procInfoInsert · t)
  | .contextInfo m => m.entry.map (contextInfoInsert · t)
  | .sysProcBuddyInfo m => m.node.map (sysProcBuddyInfoInsert · t)
  | .sysProcWireless m => m.ifw.map (sysProcWirelessInsert · t)
  | .sysProcVMStat m => [sysProcVMStatInsert m t]

/-- The session of a measurement: the open one with the given hash. -/
def sessionSelect (type : DbType) (sessionHash : String) : String :=
  "(SELECT " ++ sessionColumn .id ++ " FROM " ++ sessionsTableName ++ " WHERE " ++
    sessionColumn .hash ++ hashOperator type ++ "'" ++ sessionHash ++ "' AND EndTimestamp = 0));"

def Insert.sql (type : DbType) (sessionHash : String) (i : Insert) : String :=
  "INSERT INTO " ++ i.table ++ " (" ++ ",".intercalate i.columns ++ ") VALUES (" ++
    String.join (i.values.map fun v => "'" ++ v.render ++ "', ") ++
    sessionSelect type sessionHash

def addData (type : DbType) (sessionHash : String) (m : Measurement) (t : Timestamps) : String :=
  String.join ((m.inserts t).map (Insert.sql type sessionHash))

def getDevices : String :=
  "SELECT * " ++ " FROM " ++ devicesTableName ++ ";"

def addDevice (hash name address : String) (port : Int) : String :=
  "INSERT INTO " ++ devicesTableName ++ " (" ++ deviceColumn .hash ++ "," ++ deviceColumn .name ++
    "," ++ deviceColumn .address ++ "," ++ deviceColumn .port ++ ") VALUES (" ++ "'" ++ hash ++
    "', '" ++ name ++ "', '" ++ address ++ "', '" ++ toString port ++ "');"

def remDevice (type : DbType) (hash : String) : String :=
  "DELETE FROM " ++ devicesTableName ++ " WHERE " ++ deviceColumn .hash ++ hashOperator type ++
    "'" ++ hash ++ "';"

def getDevice (type : DbType) (hash : String) : String :=
  "SELECT * FROM " ++ devicesTableName ++ " WHERE " ++ deviceColumn .hash ++ hashOperator type ++
    "'" ++ hash ++ "' LIMIT 1;"

def hasDevice (type : DbType) (hash : String) : String :=
  "SELECT " ++ deviceColumn .id ++ " FROM " ++ devicesTableName ++ " WHERE " ++
    deviceColumn .hash ++ hashOperator type ++ "'" ++ hash ++ "' LIMIT 1;"

def getSessions : String :=
  "SELECT * " ++ " FROM " ++ sessionsTableName ++ ";"

/-- The device of a session: the one with the given hash. -/
def deviceSelect (type : DbType) (deviceHash : String) : String :=
  "(SELECT " ++ deviceColumn .id ++ " FROM " ++ devicesTableName ++ " WHERE " ++
    deviceColumn .hash ++ hashOperator type ++ "'" ++ deviceHash ++ "')"

/-- `getSessions` with a device. -/
def getSessionsOf (type : DbType) (deviceHash : String) : String :=
  "SELECT * FROM " ++ sessionsTableName ++ " WHERE " ++ sessionColumn .device ++
    hashOperator type ++ deviceSelect type deviceHash ++ ";"

def addSession (type : DbType) (sessionInfo : Monitor.SessionInfo) (deviceHash : String)
    (startTimestamp : Nat) : String :=
  "INSERT INTO " ++ sessionsTableName ++ " (" ++ sessionColumn .hash ++ "," ++ sessionColumn .name ++
    "," ++ sessionColumn .coreCount ++ "," ++ sessionColumn .startTimestamp ++ "," ++
    sessionColumn .endTimestamp ++ "," ++ sessionColumn .device ++ ") VALUES ('" ++
    sessionInfo.hash ++ "', '" ++ sessionInfo.name ++ "', '" ++ toString sessionInfo.coreCount ++
    "', '" ++ toString startTimestamp ++ "', '" ++ "0" ++ "', " ++
    deviceSelect type deviceHash ++ ");"

/-- `now` is what `time` returns. -/
def endSession (type : DbType) (hash : String) (now : Nat) : String :=
  "UPDATE " ++ sessionsTableName ++ " SET " ++ sessionColumn .endTimestamp ++ " = " ++ "'" ++
    toString now ++ "'" ++ " WHERE " ++ sessionColumn .hash ++ hashOperator type ++
    "'" ++ hash ++ "';"

def remSession (type : DbType) (hash : String) : String :=
  "DELETE FROM " ++ sessionsTableName ++ " WHERE " ++ sessionColumn .hash ++ hashOperator type ++
    "'" ++ hash ++ "';"

def getSession (type : DbType) (hash : String) : String :=
  "SELECT * FROM " ++ sessionsTableName ++ " WHERE " ++ sessionColumn .hash ++ hashOperator type ++
    "'" ++ hash ++ "' LIMIT 1;"

def hasSession (type : DbType) (hash : String) : String :=
  "SELECT " ++ sessionColumn .id ++ " FROM " ++ sessionsTableName ++ " WHERE " ++
    sessionColumn .hash ++ hashOperator type ++ "'" ++ hash ++ "' LIMIT 1;"

/-- A builder with its arguments. -/
inductive Call where
  | getDevices
  | addDevice (hash name address : String) (port : Int)
  | remDevice (hash : String)
  | getDevice (hash : String)
  | hasDevice (hash : String)
  | getSessions
  | getSessionsOf (deviceHash : String)
  | addSession (sessionInfo : Monitor.SessionInfo) (deviceHash : String) (startTimestamp : Nat)
  | endSession (hash : String) (now : Nat)
  | remSession (hash : String)
  | getSession (hash : String)
  | hasSession (hash : String)
  | addData (sessionHash : String) (m : Measurement) (t : Timestamps)
  deriving DecidableEq

/-- The text that the builder returns. -/
def Call.text (type : DbType) : Call → String
  | .getDevices => Query.getDevices
  | .addDevice hash name address port => Query.addDevice hash name address port
  | .remDevice hash => Query.remDevice type hash
  | .getDevice hash => Query.getDevice type hash
  | .hasDevice hash => Query.hasDevice type hash
  | .getSessions => Query.getSessions
  | .getSessionsOf deviceHash => Query.getSessionsOf type deviceHash
  | .addSession sessionInfo deviceHash startTimestamp =>
    Query.addSession type sessionInfo deviceHash startTimestamp
  | .endSession hash now => Query.endSession type hash now
  | .remSession hash => Query.remSession type hash
  | .getSession hash => Query.getSession type hash
  | .hasSession hash => Query.hasSession type hash
  | .addData sessionHash m t => Query.addData type sessionHash m t

end Query

end TkmCollector
