import Mathlib.Data.List.Forall2
import TkmCollector.Query

namespace TkmCollector.Proofs

open Query

def procEventField (m : Monitor.ProcEvent) (t : Timestamps) : ProcEventColumn → Option Value
  | .id | .sessionId => none | .systemTime => some (.int t.systemTime)
  | .monotonicTime => some (.int t.monotonicTime) | .receiveTime => some (.int t.receiveTime)
  | .forkCount => some (.int m.forkCount) | .execCount => some (.int m.execCount)
  | .exitCount => some (.int m.exitCount) | .uIdCount => some (.int m.uidCount)
  | .gIdCount => some (.int m.gidCount)

def sysProcStatField (cpuStat : Monitor.CPUStat) (t : Timestamps) :
    SysProcStatColumn → Option Value
  | .id | .sessionId => none | .systemTime => some (.int t.systemTime)
  | .monotonicTime => some (.int t.monotonicTime) | .receiveTime => some (.int t.receiveTime)
  | .cpuStatName => some (.text cpuStat.name) | .cpuStatAll => some (.int cpuStat.all)
  | .cpuStatUsr => some (.int cpuStat.usr) | .cpuStatSys => some (.int cpuStat.sys)
  | .cpuStatIow => some (.int cpuStat.iow)

def sysProcMemInfoField (m : Monitor.SysProcMemInfo) (t : Timestamps) :
    SysProcMemColumn → Option Value
  | .id | .sessionId => none | .systemTime => some (.int t.systemTime)
  | .monotonicTime => some (.int t.monotonicTime) | .receiveTime => some (.int t.receiveTime)
  | .memTotal => some (.int m.memTotal) | .memFree => some (.int m.memFree)
  | .memAvail => some (.int m.memAvailable) | .memCached => some (.int m.memCached)
  | .memAvailPercent => some (.int m.memPercent) | .active => some (.int m.active)
  | .inactive => some (.int m.inactive) | .slab => some (.int m.slab)
  | .kReclaimable => some (.int m.kreclaimable) | .sReclaimable => some (.int m.sreclaimable)
  | .sUnreclaim => some (.int m.sunreclaim) | .kernelStack => some (.int m.kernelStack)
  | .swapTotal => some (.int m.swapTotal) | .swapFree => some (.int m.swapFree)
  | .swapCached => some (.int m.swapCached) | .swapFreePercent => some (.int m.swapPercent)
  | .cmaTotal => some (.int m.cmaTotal) | .cmaFree => some (.int m.cmaFree)

def sysProcDiskStatsField (diskEntry : Monitor.DiskEntry) (t : Timestamps) :
    SysProcDiskColumn → Option Value
  | .id | .sessionId => none | .systemTime => some (.int t.systemTime)
  | .monotonicTime => some (.int t.monotonicTime) | .receiveTime => some (.int t.receiveTime)
  | .major => some (.int diskEntry.nodeMajor) | .minor => some (.int diskEntry.nodeMinor)
  | .name => some (.text diskEntry.name) | .readsCompleted => some (.int diskEntry.readsCompleted)
  | .readsMerged => some (.int diskEntry.readsMerged)
  | .readsSpentMs => some (.int diskEntry.readsSpentMs)
  | .writesCompleted => some (.int diskEntry.writesCompleted)
  | .writesMerged => some (.int diskEntry.writesMerged)
  | .writesSpentMs => some (.int diskEntry.writesSpentMs)
  | .ioInProgress => some (.int diskEntry.ioInProgress)
  | .ioSpentMs => some (.int diskEntry.ioSpentMs)
  | .ioWeightedMs => some (.int diskEntry.ioWeightedMs)

def sysProcPressureField (m : Monitor.SysProcPressure) (t : Timestamps) :
    SysProcPressureColumn → Option Value
  | .id | .sessionId => none | .systemTime => some (.int t.systemTime)
  | .monotonicTime => some (.int t.monotonicTime) | .receiveTime => some (.int t.receiveTime)
  | .cpuSomeAvg10 => some (.float m.cpuSome.avg10) | .cpuSomeAvg60 => some (.float m.cpuSome.avg60)
  | .cpuSomeAvg300 => some (.float m.cpuSome.avg300) | .cpuSomeTotal => some (.int m.cpuSome.total)
  | .cpuFullAvg10 => some (.float m.cpuFull.avg10) | .cpuFullAvg60 => some (.float m.cpuFull.avg60)
  | .cpuFullAvg300 => some (.float m.cpuFull.avg300) | .cpuFullTotal => some (.int m.cpuFull.total)
  | .memSomeAvg10 => some (.float m.memSome.avg10) | .memSomeAvg60 => some (.float m.memSome.avg60)
  | .memSomeAvg300 => some (.float m.memSome.avg300) | .memSomeTotal => some (.int m.memSome.total)
  | .memFullAvg10 => some (.float m.memFull.avg10) | .memFullAvg60 => some (.float m.memFull.avg60)
  | .memFullAvg300 => some (.float m.memFull.avg300) | .memFullTotal => some (.int m.memFull.total)
  | .ioSomeAvg10 => some (.float m.ioSome.avg10) | .ioSomeAvg60 => some (.float m.ioSome.avg60)
  | .ioSomeAvg300 => some (.float m.ioSome.avg300) | .ioSomeTotal => some (.int m.ioSome.total)
  | .ioFullAvg10 => some (.float m.ioFull.avg10) | .ioFullAvg60 => some (.float m.ioFull.avg60)
  | .ioFullAvg300 => some (.float m.ioFull.avg300) | .ioFullTotal => some (.int m.ioFull.total)

def procAcctField (m : Monitor.ProcAcct) (t : Timestamps) : ProcAcctColumn → Option Value
  | .id | .sessionId => none | .systemTime => some (.int t.systemTime)
  | .monotonicTime => some (.int t.monotonicTime) | .receiveTime => some (.int t.receiveTime)
  | .acComm => some (.text m.acComm) | .acUid => some (.int m.acUid) | .acGid => some (.int m.acGid)
  | .acPid => some (.int m.acPid) | .acPPid => some (.int m.acPpid)
  | .acUTime => some (.int m.acUtime) | .acSTime => some (.int m.acStime)
  | .cpuCount => some (.int m.cpu.cpuCount) | .cpuRunRealTotal => some (.int m.cpu.cpuRunRealTotal)
  | .cpuRunVirtualTotal => some (.int m.cpu.cpuRunVirtualTotal)
  | .cpuDelayTotal => some (.int m.cpu.cpuDelayTotal)
  | .cpuDelayAverage => some (.int m.cpu.cpuDelayAverage) | .coreMem => some (.int m.mem.coremem)
  | .virtMem => some (.int m.mem.virtmem) | .hiwaterRss => some (.int m.mem.hiwaterRss)
  | .hiwaterVm => some (.int m.mem.hiwaterVm) | .nvcsw => some (.int m.ctx.nvcsw)
  | .nivcsw => some (.int m.ctx.nivcsw) | .swapinCount => some (.int m.swp.swapinCount)
  | .swapinDelayTotal => some (.int m.swp.swapinDelayTotal)
  | .swapinDelayAverage => some (.int m.swp.swapinDelayAverage)
  | .blkIOCount => some (.int m.io.blkioCount)
  | .blkIODelayTotal => some (.int m.io.blkioDelayTotal)
  | .blkIODelayAverage => some (.int m.io.blkioDelayAverage)
  | .ioStorageReadBytes => some (.int m.io.readBytes)
  | .ioStorageWriteBytes => some (.int m.io.writeBytes) | .ioReadChar => some (.int m.io.readChar)
  | .ioWriteChar => some (.int m.io.writeChar) | .ioReadSyscalls => some (.int m.io.readSyscalls)
  | .ioWriteSyscalls => some (.int m.io.writeSyscalls)
  | .freePagesCount => some (.int m.reclaim.freepagesCount)
  | .freePagesDelayTotal => some (.int m.reclaim.freepagesDelayTotal)
  | .freePagesDelayAverage => some (.int m.reclaim.freepagesDelayAverage)
  | .thrashingCount => some (.int m.thrashing.thrashingCount)
  | .thrashingDelayTotal => some (.int m.thrashing.thrashingDelayTotal)
  | .thrashingDelayAverage => some (.int m.thrashing.thrashingDelayAverage)

def procInfoField (procEntry : Monitor.ProcInfoEntry) (t : Timestamps) :
    ProcInfoColumn → Option Value
  | .id | .sessionId => none | .systemTime => some (.int t.systemTime)
  | .monotonicTime => some (.int t.monotonicTime) | .receiveTime => some (.int t.receiveTime)
  | .comm => some (.text procEntry.comm) | .pid => some (.int procEntry.pid)
  | .pPid => some (.int procEntry.ppid) | .ctxId => some (.int procEntry.ctxId)
  | .ctxName => some (.text procEntry.ctxName) | .cpuTime => some (.int procEntry.cpuTime)
  | .cpuPercent => some (.int procEntry.cpuPercent) | .memRSS => some (.int procEntry.memRss)
  | .memPSS => some (.int procEntry.memPss) | .fdCount => some (.int procEntry.fdCount)

def contextInfoField (ctxEntry : Monitor.ContextInfoEntry) (t : Timestamps) :
    ContextInfoColumn → Option Value
  | .id | .sessionId => none | .systemTime => some (.int t.systemTime)
  | .monotonicTime => some (.int t.monotonicTime) | .receiveTime => some (.int t.receiveTime)
  | .ctxId => some (.int ctxEntry.ctxId) | .ctxName => some (.text ctxEntry.ctxName)
  | .totalCpuTime => some (.int ctxEntry.totalCpuTime)
  | .totalCpuPercent => some (.int ctxEntry.totalCpuPercent)
  | .totalMemRSS => some (.int ctxEntry.totalMemRss)
  | .totalMemPSS => some (.int ctxEntry.totalMemPss)
  | .totalFDCount => some (.int ctxEntry.totalFdCount)

def sysProcBuddyInfoField (buddyInfo : Monitor.BuddyInfo) (t : Timestamps) :
    SysProcBuddyInfoColumn → Option Value
  | .id | .sessionId => none | .systemTime => some (.int t.systemTime)
  | .monotonicTime => some (.int t.monotonicTime) | .receiveTime => some (.int t.receiveTime)
  | .name => some (.text buddyInfo.name) | .zone => some (.text buddyInfo.zone)
  | .data => some (.text buddyInfo.data)

def sysProcWirelessField (ifw : Monitor.WlanInterface) (t : Timestamps) :
    SysProcWirelessColumn → Option Value
  | .id | .sessionId => none | .systemTime => some (.int t.systemTime)
  | .monotonicTime => some (.int t.monotonicTime) | .receiveTime => some (.int t.receiveTime)
  | .name => some (.text ifw.name) | .status => some (.text ifw.status)
  | .qualityLink => some (.int ifw.qualityLink) | .qualityLevel => some (.int ifw.qualityLevel)
  | .qualityNoise => some (.int ifw.qualityNoise) | .discardedNWId => some (.int ifw.discardedNwid)
  | .discardedCrypt => some (.int ifw.discardedCrypt)
  | .discardedFrag => some (.int ifw.discardedFrag)
  | .discardedRetry => some (.int ifw.discardedRetry)
  | .discardedMisc => some (.int ifw.discardedMisc) | .missedBeacon => some (.int ifw.missedBeacon)

def sysProcVMStatField (m : Monitor.SysProcVMStat) (t : Timestamps) :
    SysProcVMStatColumn → Option Value
  | .id | .sessionId => none | .systemTime => some (.int t.systemTime)
  | .monotonicTime => some (.int t.monotonicTime) | .receiveTime => some (.int t.receiveTime)
  | .pgpgin => some (.int m.pgpgin) | .pgpgout => some (.int m.pgpgout)
  | .pSwpin => some (.int m.pswpin) | .pSwpout => some (.int m.pswpout)
  | .pgmajfault => some (.int m.pgmajfault) | .pgreuse => some (.int m.pgreuse)
  | .pgStealKswapd => some (.int m.pgstealKswapd) | .pgStealDirect => some (.int m.pgstealDirect)
  | .pgStealKhugepaged => some (.int m.pgstealKhugepaged)
  | .pgStealAnon => some (.int m.pgstealAnon) | .pgStealFile => some (.int m.pgstealFile)
  | .pgScanKswapd => some (.int m.pgscanKswapd) | .pgScanDirect => some (.int m.pgscanDirect)
  | .pgScanKhugepaged => some (.int m.pgscanKhugepaged)
  | .pgScanDirectThrottle => some (.int m.pgscanDirectThrottle)
  | .pgScanAnon => some (.int m.pgscanAnon) | .pgScanFile => some (.int m.pgscanFile)
  | .oomKill => some (.int m.oomKill) | .compactStall => some (.int m.compactStall)
  | .compactFail => some (.int m.compactFail) | .compactSuccess => some (.int m.compactSuccess)
  | .thpFaultAlloc => some (.int m.thpFaultAlloc)
  | .thpCollapseAlloc => some (.int m.thpCollapseAlloc)
  | .thpCollapseAllocFailed => some (.int m.thpCollapseAllocFailed)
  | .thpFileAlloc => some (.int m.thpFileAlloc) | .thpFileMapped => some (.int m.thpFileMapped)
  | .thpSplitPage => some (.int m.thpSplitPage)
  | .thpSplitPageFailed => some (.int m.thpSplitPageFailed)
  | .thpZeroPageAlloc => some (.int m.thpZeroPageAlloc)
  | .thpZeroPageAllocFailed => some (.int m.thpZeroPageAllocFailed)
  | .thpSwpout => some (.int m.thpSwpout) | .thpSwpoutFallback => some (.int m.thpSwpoutFallback)

/-- A part of a message that is stored as one row. -/
inductive Entry where
  | procEvent (m : Monitor.ProcEvent)
  | cpuStat (m : Monitor.CPUStat)
  | memInfo (m : Monitor.SysProcMemInfo)
  | disk (m : Monitor.DiskEntry)
  | pressure (m : Monitor.SysProcPressure)
  | procAcct (m : Monitor.ProcAcct)
  | procInfo (m : Monitor.ProcInfoEntry)
  | contextInfo (m : Monitor.ContextInfoEntry)
  | buddyInfo (m : Monitor.BuddyInfo)
  | wlan (m : Monitor.WlanInterface)
  | vmStat (m : Monitor.SysProcVMStat)

/-- The entries of a message: the record itself, or its repeated parts in their order. -/
def entries : Measurement → List Entry
  | .procEvent m => [.procEvent m]
  | .sysProcStat m => .cpuStat m.cpu :: m.core.map .cpuStat
  | .sysProcMemInfo m => [.memInfo m]
  | .sysProcDiskStats m => m.disk.map .disk
  | .sysProcPressure m => [.pressure m]
  | .procAcct m => [.procAcct m]
  | .procInfo m => m.entry.map .procInfo
  | .contextInfo m => m.entry.map .contextInfo
  | .sysProcBuddyInfo m => m.node.map .buddyInfo
  | .sysProcWireless m => m.ifw.map .wlan
  | .sysProcVMStat m => [.vmStat m]

namespace Entry

/-- The table for an entry. -/
def table (type : DbType) : Entry → TableDef
  | .procEvent _ => procEventTable type
  | .cpuStat _ => sysProcStatTable type
  | .memInfo _ => sysProcMemInfoTable type
  | .disk _ => sysProcDiskStatsTable type
  | .pressure _ => sysProcPressureTable type
  | .procAcct _ => procAcctTable type
  | .procInfo _ => procInfoTable type
  | .contextInfo _ => contextInfoTable type
  | .buddyInfo _ => sysProcBuddyInfoTable type
  | .wlan _ => sysProcWirelessTable type
  | .vmStat _ => sysProcVMStatTable type

/-- The enumeration of the columns of the table. -/
def Column : Entry → Type
  | .procEvent _ => ProcEventColumn
  | .cpuStat _ => SysProcStatColumn
  | .memInfo _ => SysProcMemColumn
  | .disk _ => SysProcDiskColumn
  | .pressure _ => SysProcPressureColumn
  | .procAcct _ => ProcAcctColumn
  | .procInfo _ => ProcInfoColumn
  | .contextInfo _ => ContextInfoColumn
  | .buddyInfo _ => SysProcBuddyInfoColumn
  | .wlan _ => SysProcWirelessColumn
  | .vmStat _ => SysProcVMStatColumn

def columnName : (e : Entry) → e.Column → String
  | .procEvent _ => procEventColumn
  | .cpuStat _ => sysProcStatColumn
  | .memInfo _ => sysProcMemColumn
  | .disk _ => sysProcDiskColumn
  | .pressure _ => sysProcPressureColumn
  | .procAcct _ => procAcctColumn
  | .procInfo _ => procInfoColumn
  | .contextInfo _ => contextInfoColumn
  | .buddyInfo _ => sysProcBuddyInfoColumn
  | .wlan _ => sysProcWirelessColumn
  | .vmStat _ => sysProcVMStatColumn

/-- The column that refers to the session. -/
def sessionColumn : (e : Entry) → e.Column
  | .procEvent _ => ProcEventColumn.sessionId
  | .cpuStat _ => SysProcStatColumn.sessionId
  | .memInfo _ => SysProcMemColumn.sessionId
  | .disk _ => SysProcDiskColumn.sessionId
  | .pressure _ => SysProcPressureColumn.sessionId
  | .procAcct _ => ProcAcctColumn.sessionId
  | .procInfo _ => ProcInfoColumn.sessionId
  | .contextInfo _ => ContextInfoColumn.sessionId
  | .buddyInfo _ => SysProcBuddyInfoColumn.sessionId
  | .wlan _ => SysProcWirelessColumn.sessionId
  | .vmStat _ => SysProcVMStatColumn.sessionId

/-- The columns that stand for a field, in the order of their enumeration. -/
def columns : (e : Entry) → List e.Column
  | .procEvent _ => [
    ProcEventColumn.systemTime, .monotonicTime, .receiveTime, .forkCount, .execCount, .exitCount,
    .uIdCount, .gIdCount]
  | .cpuStat _ => [
    SysProcStatColumn.systemTime, .monotonicTime, .receiveTime, .cpuStatName, .cpuStatAll,
    .cpuStatUsr, .cpuStatSys, .cpuStatIow]
  | .memInfo _ => [
    SysProcMemColumn.systemTime, .monotonicTime, .receiveTime, .memTotal, .memFree, .memAvail,
    .memCached, .memAvailPercent, .active, .inactive, .slab, .kReclaimable, .sReclaimable,
    .sUnreclaim, .kernelStack, .swapTotal, .swapFree, .swapCached, .swapFreePercent, .cmaTotal,
    .cmaFree]
  | .disk _ => [
    SysProcDiskColumn.systemTime, .monotonicTime, .receiveTime, .major, .minor, .name,
    .readsCompleted, .readsMerged, .readsSpentMs, .writesCompleted, .writesMerged, .writesSpentMs,
    .ioInProgress, .ioSpentMs, .ioWeightedMs]
  | .pressure _ => [
    SysProcPressureColumn.systemTime, .monotonicTime, .receiveTime, .cpuSomeAvg10, .cpuSomeAvg60,
    .cpuSomeAvg300, .cpuSomeTotal, .cpuFullAvg10, .cpuFullAvg60, .cpuFullAvg300, .cpuFullTotal,
    .memSomeAvg10, .memSomeAvg60, .memSomeAvg300, .memSomeTotal, .memFullAvg10, .memFullAvg60,
    .memFullAvg300, .memFullTotal, .ioSomeAvg10, .ioSomeAvg60, .ioSomeAvg300, .ioSomeTotal,
    .ioFullAvg10, .ioFullAvg60, .ioFullAvg300, .ioFullTotal]
  | .procAcct _ => [
    ProcAcctColumn.systemTime, .monotonicTime, .receiveTime, .acComm, .acUid, .acGid, .acPid,
    .acPPid, .acUTime, .acSTime, .cpuCount, .cpuRunRealTotal, .cpuRunVirtualTotal, .cpuDelayTotal,
    .cpuDelayAverage, .coreMem, .virtMem, .hiwaterRss, .hiwaterVm, .nvcsw, .nivcsw, .swapinCount,
    .swapinDelayTotal, .swapinDelayAverage, .blkIOCount, .blkIODelayTotal, .blkIODelayAverage,
    .ioStorageReadBytes, .ioStorageWriteBytes, .ioReadChar, .ioWriteChar, .ioReadSyscalls,
    .ioWriteSyscalls, .freePagesCount, .freePagesDelayTotal, .freePagesDelayAverage,
    .thrashingCount, .thrashingDelayTotal, .thrashingDelayAverage]
  | .procInfo _ => [
    ProcInfoColumn.systemTime, .monotonicTime, .receiveTime, .comm, .pid, .pPid, .ctxId, .ctxName,
    .cpuTime, .cpuPercent, .memRSS, .memPSS, .fdCount]
  | .contextInfo _ => [
    ContextInfoColumn.systemTime, .monotonicTime, .receiveTime, .ctxId, .ctxName, .totalCpuTime,
    .totalCpuPercent, .totalMemRSS, .totalMemPSS, .totalFDCount]
  | .buddyInfo _ => [
    SysProcBuddyInfoColumn.systemTime, .monotonicTime, .receiveTime, .name, .zone, .data]
  | .wlan _ => [
    SysProcWirelessColumn.systemTime, .monotonicTime, .receiveTime, .name, .status, .qualityLink,
    .qualityLevel, .qualityNoise, .discardedNWId, .discardedCrypt, .discardedFrag, .discardedRetry,
    .discardedMisc, .missedBeacon]
  | .vmStat _ => [
    SysProcVMStatColumn.systemTime, .monotonicTime, .receiveTime, .pgpgin, .pgpgout, .pSwpin,
    .pSwpout, .pgmajfault, .pgreuse, .pgStealKswapd, .pgStealDirect, .pgStealKhugepaged,
    .pgStealAnon, .pgStealFile, .pgScanKswapd, .pgScanDirect, .pgScanKhugepaged,
    .pgScanDirectThrottle, .pgScanAnon, .pgScanFile, .oomKill, .compactStall, .compactFail,
    .compactSuccess, .thpFaultAlloc, .thpCollapseAlloc, .thpCollapseAllocFailed, .thpFileAlloc,
    .thpFileMapped, .thpSplitPage, .thpSplitPageFailed, .thpZeroPageAlloc, .thpZeroPageAllocFailed,
    .thpSwpout, .thpSwpoutFallback]

/-- The field of the message, or the time, that a column stands for. -/
def field (t : Timestamps) : (e : Entry) → e.Column → Option Value
  | .procEvent m => procEventField m t
  | .cpuStat m => sysProcStatField m t
  | .memInfo m => sysProcMemInfoField m t
  | .disk m => sysProcDiskStatsField m t
  | .pressure m => sysProcPressureField m t
  | .procAcct m => procAcctField m t
  | .procInfo m => procInfoField m t
  | .contextInfo m => contextInfoField m t
  | .buddyInfo m => sysProcBuddyInfoField m t
  | .wlan m => sysProcWirelessField m t
  | .vmStat m => sysProcVMStatField m t

/-- The `INSERT` for an entry. -/
def insert (t : Timestamps) : Entry → Insert
  | .procEvent m => procEventInsert m t
  | .cpuStat m => sysProcStatInsert m t
  | .memInfo m => sysProcMemInfoInsert m t
  | .disk m => sysProcDiskStatsInsert m t
  | .pressure m => sysProcPressureInsert m t
  | .procAcct m => procAcctInsert m t
  | .procInfo m => procInfoInsert m t
  | .contextInfo m => contextInfoInsert m t
  | .buddyInfo m => sysProcBuddyInfoInsert m t
  | .wlan m => sysProcWirelessInsert m t
  | .vmStat m => sysProcVMStatInsert m t

end Entry

/-- The columns that must have a value and are not filled in by the database. -/
def requiredColumns (t : TableDef) : List String :=
  (t.columns.filter fun c => !c.kind.isKey).map (·.name)

/-- The `INSERT` is right for the entry: the table is declared, the columns are the
required ones, each once, and each value is the field that its column stands for. The last
column refers to the session. -/
structure Agrees (t : Timestamps) (e : Entry) (i : Insert) : Prop where
  declared : ∀ type, e.table type ∈ tables type
  table : ∀ type, i.table = (e.table type).name
  nodup : i.columns.Nodup
  length : i.columns.length = i.values.length + 1
  required : ∀ type, i.columns = requiredColumns (e.table type)
  columns : i.columns = (e.columns ++ [e.sessionColumn]).map e.columnName
  values : i.values.map some = e.columns.map (e.field t)

lemma inserts_eq (m : Measurement) (t : Timestamps) :
    m.inserts t = (entries m).map (Entry.insert t) := by
  cases m <;> simp [Measurement.inserts, entries, Entry.insert]

lemma insert_table (t : Timestamps) (e : Entry) (type : DbType) :
    e.table type ∈ tables type ∧ (e.insert t).table = (e.table type).name := by
  cases e <;> exact ⟨by simp [Entry.table, tables], rfl⟩

lemma insert_required (t : Timestamps) (e : Entry) (type : DbType) :
    (e.insert t).columns = requiredColumns (e.table type) := by
  cases type <;> cases e <;> rfl

lemma requiredColumns_nodup (type : DbType) : ∀ T ∈ tables type, (requiredColumns T).Nodup := by
  cases type <;> decide

lemma insert_columns (t : Timestamps) (e : Entry) :
    (e.insert t).columns = (e.columns ++ [e.sessionColumn]).map e.columnName := by
  cases e <;> rfl

lemma insert_values (t : Timestamps) (e : Entry) :
    (e.insert t).values.map some = e.columns.map (e.field t) := by
  cases e <;> rfl

lemma insert_agrees (t : Timestamps) (e : Entry) : Agrees t e (e.insert t) where
  declared type := (insert_table t e type).1
  table type := (insert_table t e type).2
  nodup := by
    rw [insert_required t e .sqlite3]
    exact requiredColumns_nodup .sqlite3 _ (insert_table t e .sqlite3).1
  length := by
    have hvalues : (e.insert t).values.length = e.columns.length := by
      simpa using congrArg List.length (insert_values t e)
    rw [insert_columns, hvalues]
    simp
  required type := insert_required t e type
  columns := insert_columns t e
  values := insert_values t e

/-- The text of an `INSERT` depends on the database type by one operator only. -/
lemma insert_sql_operator (i : Insert) (sessionHash : String) :
    ∃ before after, ∀ type, i.sql type sessionHash = before ++ hashOperator type ++ after := by
  refine ⟨"INSERT INTO " ++ i.table ++ " (" ++ ",".intercalate i.columns ++ ") VALUES (" ++
      String.join (i.values.map fun v => "'" ++ v.render ++ "', ") ++
      ("(SELECT " ++ Query.sessionColumn .id ++ " FROM " ++ sessionsTableName ++ " WHERE " ++
        Query.sessionColumn .hash), "'" ++ sessionHash ++ "' AND EndTimestamp = 0));", fun type => ?_⟩
  unfold Insert.sql sessionSelect
  simp only [String.append_assoc]

/-- How the field of a message is printed: a number in decimal digits, a floating point number as the
stream formats it, a string as it is. -/
inductive Prints : Value → String → Prop
  | int (n : Int) : Prints (.int n) (toString n)
  | float (x : FloatText) : Prints (.float x) x.text
  | text (s : String) : Prints (.text s) s

lemma prints_render (v : Value) : Prints v v.render := by
  cases v with
  | int n => exact .int n
  | float x => exact .float x
  | text s => exact .text s

lemma insert_sql_texts (i : Insert) (sessionHash : String) :
    ∃ texts : List String, List.Forall₂ Prints i.values texts ∧ ∀ type, i.sql type sessionHash =
      "INSERT INTO " ++ i.table ++ " (" ++ ",".intercalate i.columns ++ ") VALUES (" ++
        String.join (texts.map fun s => "'" ++ s ++ "', ") ++
        ("(SELECT Id FROM tkmSessions WHERE Hash" ++ hashOperator type ++ "'" ++ sessionHash ++
          "' AND EndTimestamp = 0));") := by
  refine ⟨i.values.map Value.render, ?_, fun type => ?_⟩
  · rw [List.forall₂_map_right_iff]
    exact List.forall₂_same.mpr fun v _ => prints_render v
  · have hselect : sessionSelect type sessionHash = "(SELECT Id FROM tkmSessions WHERE Hash" ++
        hashOperator type ++ "'" ++ sessionHash ++ "' AND EndTimestamp = 0));" := rfl
    rw [Insert.sql, hselect, List.map_map]
    rfl

end TkmCollector.Proofs
