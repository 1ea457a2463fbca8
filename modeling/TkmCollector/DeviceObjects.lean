import TkmCollector.Library.SafeList
import TkmCollector.MonitorDevice

namespace TkmCollector

/-- The list of the manager, the device objects of the process by the order in which they were
made, and what they pushed to the database. -/
structure DeviceObjects where
  devices : SafeList Nat
  objects : Nat → MonitorDevice
  next : Nat
  database : List IDatabase.Request

namespace DeviceObjects

/-- A device object before it is loaded. -/
def newDevice (deviceData : Control.DeviceData) : MonitorDevice :=
  { MonitorDevice.loaded deviceData with deviceData := deviceData }

def start : DeviceObjects := ⟨.empty, fun _ => newDevice default, 0, []⟩

variable (s : DeviceObjects)

def hash (entry : Nat) : String := (s.objects entry).deviceData.hash

def setObject (entry : Nat) (device : MonitorDevice) : DeviceObjects :=
  { s with objects := Function.update s.objects entry device }

/-- `make_shared<MonitorDevice>`. -/
def make (deviceData : Control.DeviceData) : DeviceObjects :=
  { s.setObject s.next (newDevice deviceData) with next := s.next + 1 }

def addDevice (device : Nat) : DeviceObjects × Bool :=
  let found := s.devices.foreach
    (fun found entry => if s.hash entry = s.hash device then true else found) false
  if found then (s, false)
  else ({ s with devices := (s.devices.append device).commit }, true)

/-- `entry->getConnection()->disconnect()`. -/
def disconnect (entry : Nat) : Except Fault DeviceObjects :=
  match (s.objects entry).connection with
  | none => .error .nullConnection
  | some _ =>
    let (device, dbrq) := (s.objects entry).disconnect
    .ok { s.setObject entry device with database := s.database ++ dbrq }

/-- The body of the loop of `remDevice`. -/
def remEntry (device : Nat) (state : DeviceObjects × Bool) (entry : Nat) :
    Except Fault (DeviceObjects × Bool) :=
  let (s, found) := state
  if s.hash entry = s.hash device then
    match s.disconnect entry with
    | .error fault => .error fault
    | .ok s => .ok ({ s with devices := s.devices.remove entry }, true)
  else .ok (s, found)

def remDevice (device : Nat) : Except Fault (DeviceObjects × Bool) :=
  match s.devices.tryForeach (remEntry device) (s, false) with
  | .error fault => .error fault
  | .ok (s, found) => .ok ({ s with devices := s.devices.commit }, found)

/-- The last entry with the hash. -/
def getDevice (hash : String) : Option Nat :=
  s.devices.foreach (fun last entry => if s.hash entry = hash then some entry else last) none

/-- The loop of `doLoadDevices`. -/
def loadDevices (s : DeviceObjects) : List Control.DeviceData → DeviceObjects
  | [] => s
  | deviceData :: rest =>
    match s.getDevice deviceData.hash with
    | some _ => loadDevices s rest
    | none =>
      let device := s.next
      let s := ((s.make deviceData).addDevice device).1
      loadDevices (s.setObject device ((s.objects device).setState .loaded)) rest

/-- What happens next: a caller makes a device object, something happens to one, or the manager
is called. -/
inductive Event where
  | make (deviceData : Control.DeviceData)
  | device (device : Nat) (e : MonitorDevice.Event)
  | addDevice (device : Nat)
  | remDevice (device : Nat)
  | getDevice (hash : String)
  | loadDevices (rows : List Control.DeviceData)

/-- Nothing happens for a device that was not made. -/
def step (s : DeviceObjects) : Event → Except Fault DeviceObjects
  | .make deviceData => .ok (s.make deviceData)
  | .device device e =>
    if device < s.next then
      match (s.objects device).step e with
      | .error fault => .error fault
      | .ok o => .ok { s.setObject device o.device with database := s.database ++ o.database }
    else .ok s
  | .addDevice device => if device < s.next then .ok (s.addDevice device).1 else .ok s
  | .remDevice device =>
    if device < s.next then
      match s.remDevice device with
      | .error fault => .error fault
      | .ok (s, _) => .ok s
    else .ok s
  | .getDevice _ => .ok s
  | .loadDevices rows => .ok (s.loadDevices rows)

end DeviceObjects

end TkmCollector
