import TkmCollector.MonitorDevice
import TkmCollector.Database

/-!
# The collector

The device manager, the database with its queue, and the event loop over all of them. The
loop may dispatch any source next; every queue is served from its front.
-/

namespace TkmCollector

/-- The devices of the device manager. -/
abbrev DeviceManager := List MonitorDevice

namespace DeviceManager

/-- `getDevice`: the last entry with the hash. -/
def getDevice (devices : DeviceManager) (hash : String) : Option MonitorDevice :=
  devices.reverse.find? fun entry => entry.deviceData.hash = hash

/-- `addDevice`: nothing is added for a hash that is taken. -/
def addDevice (devices : DeviceManager) (device : MonitorDevice) : DeviceManager :=
  if devices.any fun entry => entry.deviceData.hash = device.deviceData.hash then devices
  else devices ++ [device]

/-- The entries with the hash are one object, which has changed. -/
def update (devices : DeviceManager) (hash : String) (device : MonitorDevice) : DeviceManager :=
  devices.map fun entry => if entry.deviceData.hash = hash then device else entry

/-- The loop of `doLoadDevices`: a device that the manager knows stays. -/
def load (devices : DeviceManager) : List Control.DeviceData → DeviceManager
  | [] => devices
  | deviceData :: rest =>
    match devices.getDevice deviceData.hash with
    | some _ => load devices rest
    | none => load (devices.addDevice (MonitorDevice.loaded deviceData)) rest

end DeviceManager

/-- An entry of the database queue. `device` is a history variable that no code reads: the
device that pushed the request, if one did. -/
structure DbEntry where
  request : IDatabase.Request
  device : Option String
  deriving DecidableEq

/-- The state between two dispatches. `handled` is a history variable that no code reads:
the entries of the database queue that were handled so far. -/
structure Collector where
  devices : DeviceManager
  tables : Tables
  queue : List DbEntry
  handled : List DbEntry

namespace Collector

/-- The requests that `enableEvents`, `loadDevices` and `cleanSessions` push at start. -/
def startRequest (action : IDatabase.Action) : DbEntry where
  request := ⟨none, action, [], .int 0⟩
  device := none

/-- The collector after `Application` is constructed, with what earlier runs left in the
database. -/
def start (tables : Tables) : Collector where
  devices := []
  tables := tables
  queue := [startRequest .checkDatabase, startRequest .loadDevices, startRequest .cleanSessions]
  handled := []

/-- The requests of a client that the dispatcher hands to the database. -/
inductive ClientAction where
  | initDatabase | getDevices | addDevice | removeDevice | getSessions | remSession
  deriving DecidableEq

def ClientAction.toAction : ClientAction → IDatabase.Action
  | .initDatabase => .initDatabase
  | .getDevices => .getDevices
  | .addDevice => .addDevice
  | .removeDevice => .removeDevice
  | .getSessions => .getSessions
  | .remSession => .remSession

/-- What the event loop does next: something for the device with a hash, the database
queue, or a client's request to the database arrives. -/
inductive Event where
  | device (hash : String) (e : MonitorDevice.Event)
  | database (io : DbIo)
  | request (action : ClientAction) (client : ClientId) (args : Args) (bulkData : BulkData)

/-- The states of the devices, for the list of `doGetDevices`. -/
def deviceState (c : Collector) (hash : String) : Option Control.DeviceState :=
  (c.devices.getDevice hash).map MonitorDevice.state

def step (b : Backend) (c : Collector) : Event → Except Fault Collector
  | .device hash e =>
    match c.devices.getDevice hash with
    | none => .ok c
    | some d =>
      match d.step e with
      | .error fault => .error fault
      | .ok o => .ok { c with
          devices := c.devices.update hash o.device
          queue := c.queue ++ o.database.map fun rq => ⟨rq, some hash⟩ }
  | .database io =>
    match c.queue with
    | [] => .ok c
    | entry :: rest =>
      match Database.requestHandler b c.deviceState io c.tables entry.request with
      | .error fault => .error fault
      | .ok o => .ok {
          devices := c.devices.load o.loaded
          tables := o.tables
          queue := rest ++ o.database.map fun rq => ⟨rq, none⟩
          handled := c.handled ++ [entry] }
  | .request action client args bulkData =>
    .ok { c with queue := c.queue ++ [⟨⟨some client, action.toAction, args, bulkData⟩, none⟩] }

end Collector

end TkmCollector
