import TkmCollector.Collector
import TkmCollector.ControlClient
import TkmCollector.Dispatcher

/-!
# The application

The whole process: the control clients, the dispatcher with its queue, and the collector. The
loop may dispatch any source next.
-/

namespace TkmCollector

/-- The message for a list that a handler of the database sends. -/
def ControlList.message : ControlList → Control.Message
  | .devices list => .deviceList list
  | .sessions list => .sessionList list

namespace Collector

/-- What a dispatch pushes to the dispatcher queue. -/
def answers (b : Backend) (c : Collector) : Event → List Dispatcher.Request
  | .device hash e =>
    match c.devices.getDevice hash with
    | none => []
    | some d =>
      match d.step e with
      | .error _ => []
      | .ok o => o.dispatcher
  | .database io =>
    match c.queue with
    | [] => []
    | entry :: _ =>
      match Database.requestHandler b c.deviceState io c.tables entry.request with
      | .error _ => []
      | .ok o => o.dispatcher
  | .request _ _ _ _ => []

/-- The lists that a dispatch sends. -/
def lists (b : Backend) (c : Collector) : Event → List (ClientId × ControlList)
  | .database io =>
    match c.queue with
    | [] => []
    | entry :: _ =>
      match Database.requestHandler b c.deviceState io c.tables entry.request with
      | .error _ => []
      | .ok o => o.lists
  | .device _ _ | .request _ _ _ _ => []

end Collector

/-- An entry of the dispatcher queue. `served` is a history variable that no code reads: which of
the entries of the database queue, in the order in which they are handled, pushed the request. -/
structure DispatcherEntry where
  request : Dispatcher.Request
  served : Option Nat
  deriving DecidableEq

/-- A message that is handed to the writer of a client, with the outcome. -/
structure Sent where
  client : ClientId
  message : Control.Message
  ok : Bool
  served : Option Nat
  deriving DecidableEq

/-- The state between two dispatches. `asked` and `sent` are history variables that no code reads:
the requests that were read from the clients, and the messages that were written to them. -/
structure Application where
  collector : Collector
  dispatcher : List DispatcherEntry
  clients : List ClientId
  nextClient : ClientId
  asked : List (ClientId × Control.Request)
  sent : List Sent

namespace Application

/-- The request that `main` pushes for `--eraseDatabase`. -/
def eraseRequest : DbEntry where
  request := ⟨none, .initDatabase, Args.emplace [] .forced (valFor .true), .int 0⟩
  device := none

/-- The request that is pushed when the database or the server cannot be opened. -/
def quitRequest : DispatcherEntry where
  request := ⟨none, .quit, [], .int 0⟩
  served := none

/-- The application before its loop runs. -/
def start (tables : Tables) (erase failed : Bool) : Application where
  collector :=
    let c := Collector.start tables
    if erase then { c with queue := c.queue ++ [eraseRequest] } else c
  dispatcher := if failed then [quitRequest] else []
  clients := []
  nextClient := 0
  asked := []
  sent := []

/-- What the event loop does next: a client is accepted, or a source is dispatched. The envelopes
of a client come with the outcome of the write that they may cause. -/
inductive Event where
  | accept
  | control (client : ClientId) (input : List (ControlEnvelope × Bool))
      (last : MonitorDevice.ReadStatus)
  | dispatcher (write : Bool)
  | connection (hash : String) (clock : MonitorDevice.Clock) (input : List Envelope)
      (last : MonitorDevice.ReadStatus)
  | finalize (hash : String)
  | queue (hash : String) (io : Io)
  | timer (hash : String) (timer : Timer)
  | database (io : DbIo)

/-- A request of a client is turned into one for the dispatcher. -/
def ask (s : Application) (client : ClientId) (rq : Control.Request) (write : Bool)
    (message : Option Control.Message) (nrq : Dispatcher.Request) : Application :=
  { s with
    dispatcher := s.dispatcher ++ [⟨nrq, none⟩]
    asked := s.asked ++ [(client, rq)]
    sent := s.sent ++ message.toList.map fun m => ⟨client, m, write, none⟩ }

/-- The read loop of a control client. -/
def readEnvelopes (client : ClientId) (last : MonitorDevice.ReadStatus) :
    Application → List (ControlEnvelope × Bool) → Application × Bool
  | s, [] => (s, last = .again)
  | s, (envelope, write) :: rest =>
    if envelope.origin ≠ .control then readEnvelopes client last s rest
    else match ControlClient.requestHandler client envelope.mesg write with
      | none => ({ s with asked := s.asked ++ [(client, envelope.mesg)] }, false)
      | some (message, nrq) =>
        readEnvelopes client last (s.ask client envelope.mesg write message nrq) rest

/-- The requests of a handler of the dispatcher join their queues, and its message is written. -/
def deliver (s : Application) (o : Dispatcher.Outcome) (write : Bool) (served : Option Nat) :
    Application :=
  { s with
    collector := { s.collector with
      devices := match o.device with
        | none => s.collector.devices
        | some (hash, rq) =>
          match s.collector.devices.getDevice hash with
          | none => s.collector.devices
          | some d => s.collector.devices.update hash (d.pushRequest rq)
      queue := s.collector.queue ++ o.database.map fun rq => ⟨rq, none⟩ }
    dispatcher := s.dispatcher ++ o.dispatcher.map fun rq => ⟨rq, none⟩
    sent := s.sent ++ o.message.toList.map fun (client, m) => ⟨client, m, write, served⟩ }

/-- A source of the collector is dispatched. -/
def onCollector (b : Backend) (s : Application) (e : Collector.Event) (served : Option Nat) :
    Except Stop Application :=
  match Collector.step b s.collector e with
  | .error fault => .error (.fault fault)
  | .ok c => .ok { s with
      collector := c
      dispatcher := s.dispatcher ++ (Collector.answers b s.collector e).map fun rq => ⟨rq, served⟩
      sent := s.sent ++ (Collector.lists b s.collector e).map fun (client, list) =>
        ⟨client, list.message, true, served⟩ }

/-- The device manager knows the device. -/
def known (s : Application) (hash : String) : Bool :=
  (s.collector.devices.getDevice hash).isSome

def step (b : Backend) (s : Application) : Event → Except Stop Application
  | .accept => .ok { s with clients := s.clients ++ [s.nextClient], nextClient := s.nextClient + 1 }
  | .control client input last =>
    if client ∉ s.clients then .ok s
    else
      let (s, keep) := readEnvelopes client last s input
      .ok (if keep then s else { s with clients := s.clients.filter (· ≠ client) })
  | .dispatcher write =>
    match s.dispatcher with
    | [] => .ok s
    | entry :: rest =>
      match Dispatcher.requestHandler s.known entry.request with
      | .error stop => .error stop
      | .ok o => .ok (deliver { s with dispatcher := rest } o write entry.served)
  | .connection hash clock input last =>
    onCollector b s (.device hash (.connection clock input last)) none
  | .finalize hash => onCollector b s (.device hash .finalize) none
  | .queue hash io => onCollector b s (.device hash (.queue io)) none
  | .timer hash timer => onCollector b s (.device hash (.timer timer)) none
  | .database io => onCollector b s (.database io) (some s.collector.handled.length)

end Application

namespace Process

/-- What happens to the collector over the years: its loop runs, or the process is started anew,
with or without `--eraseDatabase`, on the tables that the last one left. -/
inductive Event where
  | app (e : Application.Event)
  | restart (erase failed : Bool)

def step (b : Backend) (s : Application) : Event → Except Stop Application
  | .app e => Application.step b s e
  | .restart erase failed => .ok (Application.start s.collector.tables erase failed)

end Process

/-- A queue whose handler may take it out of the loop. -/
inductive EventLoop.Queue where
  | dispatcher
  | database
  | device (hash : String)
  deriving DecidableEq

/-- The application in its event loop. A queue whose handler returns false is removed and not
dispatched again; its requests stay where they are. -/
structure EventLoop where
  app : Application
  removed : List EventLoop.Queue

namespace EventLoop

def start (tables : Tables) (erase failed : Bool) : EventLoop :=
  ⟨Application.start tables erase failed, []⟩

def queueOf : Application.Event → Option Queue
  | .dispatcher _ => some .dispatcher
  | .database _ => some .database
  | .queue hash _ => some (.device hash)
  | .accept | .control _ _ _ | .connection _ _ _ _ | .finalize _ | .timer _ _ => none

/-- What the handler of a queue returns. -/
def result (b : Backend) (s : Application) : Application.Event → Bool
  | .dispatcher write =>
    match s.dispatcher with
    | [] => true
    | entry :: _ => Dispatcher.result entry.request write
  | .queue hash io =>
    match s.collector.devices.getDevice hash with
    | none => true
    | some d =>
      match d.step (.queue io) with
      | .error _ => true
      | .ok o => o.result
  | .database io =>
    match s.collector.queue with
    | [] => true
    | entry :: _ =>
      match Database.requestHandler b s.collector.deviceState io s.collector.tables entry.request with
      | .error _ => true
      | .ok o => o.result
  | .accept | .control _ _ _ | .connection _ _ _ _ | .finalize _ | .timer _ _ => true

def dispatch (b : Backend) (s : EventLoop) (e : Application.Event) : Except Stop EventLoop :=
  if ∃ queue ∈ queueOf e, queue ∈ s.removed then .ok s
  else match Application.step b s.app e with
    | .error stop => .error stop
    | .ok app =>
      .ok ⟨app, if result b s.app e then s.removed else s.removed ++ (queueOf e).toList⟩

def step (b : Backend) (s : EventLoop) : Process.Event → Except Stop EventLoop
  | .app e => dispatch b s e
  | .restart erase failed => .ok (start s.app.collector.tables erase failed)

end EventLoop

end TkmCollector
