/-!
Kinds of queued requests, and the two queues of a driver that hold them.
-/
namespace DriverHub

/-- What a queued request asks for. -/
inductive RequestKind where
  | configure
  | send
  | receive
deriving DecidableEq

/-- The two queues of a driver. -/
inductive Direction where
  -- Sends and configurations.
  | send
  -- Receives.
  | receive
deriving DecidableEq

namespace RequestKind

/-- The queue for requests of this kind. -/
def direction : RequestKind → Direction
  | .configure | .send => .send
  | .receive => .receive

/-- Whether a request of this kind may take a spare slot beyond what its queue is guaranteed. -/
def usesSpares : RequestKind → Bool
  | .configure | .send => true
  | .receive => false

/-- The name of the kind in notices. -/
def label : RequestKind → String
  | .configure => "Conf"
  | .send => "Send"
  | .receive => "Recv"

end RequestKind

/-- The kind of a transfer in this direction. -/
def Direction.kind : Direction → RequestKind
  | .send => .send
  | .receive => .receive

end DriverHub
