import TkmCollector.ControlClient
import TkmCollector.Database
import TkmCollector.Dispatcher

namespace TkmCollector

/-- `IAsyncEnvelope::Status`. -/
inductive IAsyncEnvelope.Status where
  | ok | again | error | endOfFile
  deriving DecidableEq

namespace IClient

/-- What the envelope writer makes of one envelope: the result of `send`, and that of the
`flush` that may follow. -/
structure Writer where
  send : IAsyncEnvelope.Status
  flush : Bool

/-- A `send` that is not `Ok` is no failure here. -/
def writeEnvelope (writer : Writer) : Bool :=
  if writer.send = .ok then writer.flush else true

/-- The envelope was accepted and flushed to the client. -/
def Delivers (writer : Writer) : Prop :=
  writer.send = .ok ∧ writer.flush = true

instance (writer : Writer) : Decidable (Delivers writer) := by
  unfold Delivers
  infer_instance

/-- What a client gets for a request: the envelope that is handed to its writer, and the
status. -/
structure Answer where
  envelope : Option Control.Message
  status : Option Control.Status

/-- The message of a list. -/
def listMessage : ControlList → Control.Message
  | .devices list => .deviceList list
  | .sessions list => .sessionList list

/-- The status that the dispatcher sends for a request of its queue. -/
def statusOf (known : String → Bool) (rq : Dispatcher.Request) : Option Control.Status :=
  match Dispatcher.requestHandler known rq with
  | .ok { message := some (_, .status status), .. } => some status
  | _ => none

/-- The answer to a request that the dispatcher hands on to the database. What the handler
hands to the writer is the list that a write without a failure leaves behind. -/
def databaseAnswer (b : Backend) (states : String → Option Control.DeviceState)
    (known : String → Bool) (io : DbIo) (t : Tables) (writer : Writer) (rq : IDatabase.Request) :
    Except Stop Answer :=
  match Database.requestHandler b states { io with write := writeEnvelope writer } t rq,
    Database.requestHandler b states { io with write := true } t rq with
  | .ok o, .ok written =>
    .ok ⟨written.lists.head?.map fun entry => listMessage entry.2,
      o.dispatcher.head?.bind (statusOf known)⟩
  | .error fault, _ | _, .error fault => .error (.fault fault)

/-- A control request on its way through the queues, with nothing else in them. -/
def answer (b : Backend) (states : String → Option Control.DeviceState) (known : String → Bool)
    (io : DbIo) (t : Tables) (client : ClientId) (rq : Control.Request) (writer : Writer) :
    Except Stop Answer :=
  match ControlClient.requestHandler client rq (writeEnvelope writer) with
  | none => .ok ⟨none, none⟩
  | some (some message, nrq) => .ok ⟨some message, statusOf known nrq⟩
  | some (none, nrq) =>
    match Dispatcher.requestHandler known nrq with
    | .error stop => .error stop
    | .ok o =>
      match o.database with
      | [] => .ok ⟨none, none⟩
      | dbrq :: _ => databaseAnswer b states known io t writer dbrq

end IClient

end TkmCollector
