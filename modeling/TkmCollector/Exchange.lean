import TkmCollector.Application
import TkmCollector.ControlApp

/-!
# The control utility on a socket of the collector

One `tkmcontrol` beside any other clients of the collector. Both programs take their steps in any
order, and each reads what the other has written, in that order.
-/

namespace TkmCollector

/-- The two programs. `down` tells that the collector has ended, and `taken` how many requests of
the utility it has read. -/
structure Exchange where
  collector : Application
  down : Bool
  control : ControlApp.State
  taken : Nat

namespace Exchange

/-- The messages that were written to a client. -/
def stream (client : ClientId) (s : Application) : List Control.Message :=
  (s.sent.filter fun x => x.client = client ∧ x.ok).map fun x => x.message

/-- No request of a client stands in a queue. -/
def Forgotten (client : ClientId) (s : Application) : Prop :=
  (∀ e ∈ s.dispatcher, e.request.client ≠ some client) ∧
    (∀ e ∈ s.collector.queue, e.request.client ≠ some client) ∧
    ∀ d ∈ s.collector.devices, ∀ rq ∈ d.queue, rq.client ≠ some client

instance (client : ClientId) (s : Application) : Decidable (Forgotten client s) := by
  unfold Forgotten
  infer_instance

/-- The collector was told of the end of a client, and lets go of it with its last request. -/
def Gone (client : ClientId) (s : Application) : Prop :=
  client < s.nextClient ∧ client ∉ s.clients ∧ Forgotten client s

instance (client : ClientId) (s : Application) : Decidable (Gone client s) := by
  unfold Gone
  infer_instance

def start (tables : Tables) (erase failed : Bool) (commands : List ControlApp.Command.Request) :
    Exchange where
  collector := Application.start tables erase failed
  down := false
  control := ControlApp.start commands
  taken := 0

/-- What happens next: the collector does something but for the utility, or reads its requests, and
the utility does something but for the collector, or reads its messages. -/
inductive Event where
  | collector (e : Application.Event)
  | ask (writes : List Bool)
  | control (e : ControlApp.Event)
  | receive (count : Nat)

/-- The collector takes a step, or ends. -/
def onCollector (b : Backend) (s : Exchange) (e : Application.Event) (count : Nat) : Exchange :=
  match Application.step b s.collector e with
  | .ok collector => { s with collector := collector, taken := s.taken + count }
  | .error _ => { s with down := true }

/-- The utility takes a step. -/
def onControl (hashForDevice : Control.DeviceData → String) (s : Exchange) (e : ControlApp.Event) :
    Except Fault Exchange :=
  match ControlApp.step hashForDevice s.control e with
  | .ok control => .ok { s with control := control }
  | .error fault => .error fault

/-- The event reads from the client. -/
def reads (client : ClientId) : Application.Event → Bool
  | .control client' _ _ => client' = client
  | _ => false

/-- The requests that the collector reads next, and whether they are the last. -/
def asking (s : Exchange) (writes : List Bool) :
    List (ControlEnvelope × Bool) × MonitorDevice.ReadStatus :=
  let rest := s.control.sent.drop s.taken
  ((rest.zip writes).map fun (rq, write) => (⟨.control, rq⟩, write),
    if s.control.exited ∧ rest.length ≤ writes.length then .endOfFile else .again)

/-- The messages that the utility reads next, and whether they are the last. -/
def receiving (client : ClientId) (s : Exchange) (count : Nat) :
    List MessageEnvelope × MonitorDevice.ReadStatus :=
  let rest := (stream client s.collector).drop s.control.received.length
  ((rest.take count).map fun message => ⟨.collector, some message⟩,
    if (s.down ∨ Gone client s.collector) ∧ rest.length ≤ count then .endOfFile else .again)

def step (b : Backend) (hashForDevice : Control.DeviceData → String) (client : ClientId)
    (s : Exchange) : Event → Except Fault Exchange
  | .collector e => if s.down ∨ reads client e then .ok s else .ok (s.onCollector b e 0)
  | .ask writes =>
    if s.down ∨ client ∉ s.collector.clients then .ok s
    else
      let (input, last) := s.asking writes
      .ok (s.onCollector b (.control client input last) input.length)
  | .control (.connection _ _) => .ok s
  | .control e => s.onControl hashForDevice e
  | .receive count =>
    let (input, last) := receiving client s count
    s.onControl hashForDevice (.connection input last)

end Exchange

end TkmCollector
