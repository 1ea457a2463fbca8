import TkmCollector.Library.LocalSocket

namespace TkmCollector

open LocalSocket

/-- `Defaults::ControlSocket`. -/
def controlSocket : Bytes := ".tkm-control.sock".toList.map fun c => UInt8.ofNat c.toNat

def sockPath (runtimeDirectory : Bytes) : Bytes := appendPath runtimeDirectory controlSocket

namespace UDSServer

/-- What `start` throws. -/
inductive StartError where
  | filesystem
  | runtime (what : String)
  deriving DecidableEq

/-- `start` for the socket `id`. -/
def start (sys : System) (id : Nat) (runtimeDirectory : Bytes) (h : Host) :
    Host × Except StartError Unit :=
  let path := sockPath runtimeDirectory
  let addr := sunPath path
  match if h.pathExists path then h.remove path else some (true, h) with
  | none => (h, .error .filesystem)
  | some (false, h) => (h, .error (.runtime "Fail to remove existing UDSServer socket"))
  | some (true, h) =>
    match h.bind sys id addr with
    | none => (h, .error (.runtime "UDSServer server bind failed"))
    | some h =>
      let h := h.chmod path
      match h.listen sys id with
      | none => (h, .error (.runtime "UDSServer server listen failed"))
      | some h => (h, .ok ())

end UDSServer

namespace Control.Connection

/-- `connect`, for the user of the collector or for another: what it throws, or the socket it
reaches, if any. -/
def connect (owner : Bool) (runtimeDirectory : Bytes) (h : Host) : Except String (Option Nat) :=
  let path := sockPath runtimeDirectory
  if h.pathExists path then .ok (h.connect owner (sunPath path))
  else .error "Collector IPC socket not available"

end Control.Connection

end TkmCollector
