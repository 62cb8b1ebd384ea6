import TitleDock.Event.Transfer

/-! Where events go: to a channel, to nowhere, or to several sinks in order. A channel that nobody
reads any more takes events silently. -/

namespace TitleDock

inductive Sink where
  /-- Holds what it received, last event first. -/
  | channel (received : List TransferEvent)
  | closed
  | null
  | fanout (sinks : List Sink)

namespace Sink

mutual

def emit (e : TransferEvent) : Sink → Sink
  | .channel received => .channel (e :: received)
  | .closed => .closed
  | .null => .null
  | .fanout sinks => .fanout (emitAll e sinks)

def emitAll (e : TransferEvent) : List Sink → List Sink
  | [] => []
  | s :: r => emit e s :: emitAll e r

end

mutual

def received : Sink → List (List TransferEvent)
  | .channel events => [events.reverse]
  | .closed => []
  | .null => []
  | .fanout sinks => receivedAll sinks

def receivedAll : List Sink → List (List TransferEvent)
  | [] => []
  | s :: r => received s ++ receivedAll r

end

end Sink

end TitleDock
