import TkmCollector.MonitorDevice

namespace TkmCollector

/-- The session that a message of a stream announces. -/
def StreamItem.announces : StreamItem → Option String
  | .session info => some info.hash
  | .data _ => none

/-- The session that a message of a stream belongs to. -/
def StreamItem.origin : StreamItem → Option String
  | .session _ => none
  | .data message => message.origin

/-- What a device asks of the database. -/
inductive Push where
  | opened (info : Monitor.SessionInfo)
  | closed (hash : String)
  | stored (hash : String) (data : Monitor.Data)
  deriving DecidableEq

/-- The message that is carried on. -/
def Push.item : Push → Option StreamItem
  | .opened info => some (.session info)
  | .closed _ => none
  | .stored _ data => some (.data data)

/-- The hash of the session that a push is about. -/
def Push.hash : Push → String
  | .opened info => info.hash
  | .closed hash => hash
  | .stored hash _ => hash

/-- `lost` is the state `Disconnected`, `waiting` are the messages in the device queue,
and `pushed` is what went to the database queue so far. -/
structure Channel where
  up : Bool
  lost : Bool
  streams : List (List StreamItem)
  waiting : List StreamItem
  hash : String
  pushed : List Push
  deriving DecidableEq

namespace Channel

def start : Channel where
  up := false
  lost := false
  streams := []
  waiting := []
  hash := ""
  pushed := []

/-- All messages that were accepted, the oldest first. -/
def items (ch : Channel) : List StreamItem := ch.streams.reverse.flatten

/-- The session of the latest connection. -/
def session (ch : Channel) : Option String := lastSession (ch.streams.headD [])

/-- What the loss of the connection pushes. -/
def closing (ch : Channel) : List Push := if ch.hash = "" then [] else [.closed ch.hash]

/-- A step of a channel. The predicates restrict where a session is ended and where one is
set. -/
inductive Step (ends : Channel → Prop) (sets : Channel → Monitor.SessionInfo → Prop) (ch : Channel) :
    Channel → Prop where
  | resume : Step ends sets ch { ch with lost := false }
  | accept (item : StreamItem) (stream : List StreamItem) (older : List (List StreamItem))
      (hup : ch.up = true) (hs : ch.streams = stream :: older)
      (ho : ∀ data, item = .data data → data.origin = lastSession stream) :
      Step ends sets ch { ch with
        streams := (stream ++ [item]) :: older
        waiting := ch.waiting ++ [item] }
  | connect (hup : ch.up = false) :
      Step ends sets ch { ch with up := true, streams := [] :: ch.streams }
  | fail (hup : ch.up = false) (h : ends ch) :
      Step ends sets ch { ch with
        lost := true
        streams := [] :: ch.streams
        pushed := ch.pushed ++ ch.closing }
  | lose (hup : ch.up = true) (h : ends ch) :
      Step ends sets ch { ch with up := false, lost := true, pushed := ch.pushed ++ ch.closing }
  | setSession (info : Monitor.SessionInfo) (rest : List StreamItem)
      (hw : ch.waiting = .session info :: rest) (h : sets ch info) :
      Step ends sets ch { ch with
        lost := false
        waiting := rest
        hash := info.hash
        pushed := ch.pushed ++ [.opened info] }
  | processData (data : Monitor.Data) (rest : List StreamItem) (hw : ch.waiting = .data data :: rest) :
      Step ends sets ch { ch with waiting := rest, pushed := ch.pushed ++ [.stored ch.hash data] }

end Channel

end TkmCollector
