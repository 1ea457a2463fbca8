import TkmCollector.Message

namespace TkmCollector

/-- What a handler can die of. -/
inductive Fault where
  | nullConnection | nullHost | socket | badAnyCast | outOfRange | invalidArguments | nullClient
  | brokenConnection
  deriving DecidableEq, Repr

/-- `Defaults::Arg`. -/
inductive Arg where
  | id | requestId | forced | status | reason | what
  | deviceHash | deviceName | deviceAddress | devicePort | sessionHash
  deriving DecidableEq

/-- `Defaults::Val`. -/
inductive Val where
  | true | false | statusOkay | statusError | statusBusy
  deriving DecidableEq

/-- `Defaults::valFor`. -/
def valFor : Val → String
  | .true => "True"
  | .false => "False"
  | .statusOkay => "Okay"
  | .statusError => "Error"
  | .statusBusy => "Busy"

/-- `std::map<Defaults::Arg, std::string>`. -/
abbrev Args := List (Arg × String)

namespace Args

/-- `args.count`. -/
def count (args : Args) (key : Arg) : Bool :=
  (args.lookup key).isSome

/-- `args.at`. -/
def atKey (args : Args) (key : Arg) : Except Fault String :=
  match args.lookup key with
  | some value => .ok value
  | none => .error .outOfRange

/-- `args.emplace`: an existing entry stays. -/
def emplace (args : Args) (key : Arg) (value : String) : Args :=
  if args.count key then args else args ++ [(key, value)]

/-- The request id of another request, copied when there is one. -/
def copyRequestId (args : Args) : Args :=
  match args.lookup .requestId with
  | some value => [(.requestId, value)]
  | none => []

lemma lookup_single (key k : Arg) (value : String) :
    List.lookup k [(key, value)] = if k = key then some value else none := by
  by_cases hk : k = key
  · simp [hk]
  · rw [List.lookup_cons, beq_false_of_ne hk, if_neg hk]
    rfl

@[simp] lemma lookup_emplace (args : Args) (key k : Arg) (value : String) :
    (args.emplace key value).lookup k =
      (args.lookup k).or (if k = key then some value else none) := by
  unfold emplace count
  by_cases hk : k = key
  · subst hk
    cases hlookup : args.lookup k <;> simp [List.lookup_append, hlookup]
  · rw [if_neg hk, Option.or_none]
    split
    · rfl
    · rw [List.lookup_append, lookup_single, if_neg hk, Option.or_none]

@[simp] lemma lookup_copyRequestId (args : Args) (k : Arg) :
    (copyRequestId args).lookup k = if k = .requestId then args.lookup .requestId else none := by
  unfold copyRequestId
  cases hlookup : args.lookup .requestId with
  | some value => rw [lookup_single]
  | none => rw [List.lookup_nil, ite_self]

end Args

/-- A control client, by its file descriptor. -/
abbrev ClientId := Nat

/-- The values that `std::any bulkData` holds. -/
inductive BulkData where
  | int (value : Int)
  | sessionInfo (m : Monitor.SessionInfo)
  | data (m : Monitor.Data)
  | status (m : Monitor.Status)
  | deviceData (m : Control.DeviceData)
  | sessionData (m : Control.SessionData)
  deriving DecidableEq

namespace BulkData

def castSessionInfo : BulkData → Except Fault Monitor.SessionInfo
  | .sessionInfo m => .ok m
  | _ => .error .badAnyCast

def castData : BulkData → Except Fault Monitor.Data
  | .data m => .ok m
  | _ => .error .badAnyCast

def castStatus : BulkData → Except Fault Monitor.Status
  | .status m => .ok m
  | _ => .error .badAnyCast

def castDeviceData : BulkData → Except Fault Control.DeviceData
  | .deviceData m => .ok m
  | _ => .error .badAnyCast

def castSessionData : BulkData → Except Fault Control.SessionData
  | .sessionData m => .ok m
  | _ => .error .badAnyCast

end BulkData

/-- A queue entry. A missing client is the null pointer of the source. -/
structure Request (Action : Type) where
  client : Option ClientId
  action : Action
  args : Args
  bulkData : BulkData
  deriving DecidableEq

namespace IDevice

inductive Action where
  | connect | disconnect | sendDescriptor | requestSession | setSession
  | startCollecting | stopCollecting | startStream | stopStream | processData | status
  deriving DecidableEq

abbrev Request := TkmCollector.Request Action

end IDevice

namespace IDatabase

inductive Action where
  | checkDatabase | initDatabase | connect | disconnect | getDevices | addDevice
  | removeDevice | loadDevices | getSessions | addSession | remSession | endSession
  | cleanSessions | addData
  deriving DecidableEq

abbrev Request := TkmCollector.Request Action

end IDatabase

namespace Dispatcher

inductive Action where
  | initDatabase | quitCollector | getDevices | getSessions | removeSession | addDevice
  | removeDevice | connectDevice | disconnectDevice | startCollecting | stopCollecting
  | sendStatus | quit
  deriving DecidableEq

abbrev Request := TkmCollector.Request Action

end Dispatcher

end TkmCollector
