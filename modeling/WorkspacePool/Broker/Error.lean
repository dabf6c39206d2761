import WorkspacePool.Span

/-!
What can go wrong with the message broker. Each of these ends the daemon.
-/

namespace WorkspacePool

inductive BrokerError where
  | connectTimeout (limit : Span)
  | protocol (text : String)
  | closed
deriving DecidableEq, Repr

namespace BrokerError

def message : BrokerError → String
  | .connectTimeout limit => "connect to broker timed out after " ++ limit.text
  | .protocol text => "amqp error: " ++ text
  | .closed => "consumer stream closed by broker"

end BrokerError

end WorkspacePool
