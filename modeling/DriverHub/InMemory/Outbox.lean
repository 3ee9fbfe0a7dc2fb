import DriverHub.Transport
import DriverHub.Wire.Frame

/-!
A transport that keeps the frames of all requests handed to it, and can be told to fail.
-/
namespace DriverHub

/-- The frames handed over, in order. -/
structure Outbox where
  frames : Array (Endpoint × Frame) := #[]
  -- Whether every request is refused now.
  failing : Bool := false

namespace Outbox

instance : Transport Outbox where
  send outbox endpoint request :=
    if outbox.failing then (.error (.unreachable endpoint), outbox)
    else (.ok (), { outbox with frames := outbox.frames.push (endpoint, request.encode) })

def sent (outbox : Outbox) : List (Endpoint × Request) :=
  outbox.frames.toList.filterMap fun (endpoint, frame) =>
    match Request.decode frame.toList with
    | .ok (.ok request) => some (endpoint, request)
    | _ => none

/-- The requests handed over for one endpoint. -/
def sentTo (outbox : Outbox) (endpoint : Endpoint) : List Request :=
  (outbox.sent.filter (·.1 = endpoint)).map (·.2)

def clear (outbox : Outbox) : Outbox := { outbox with frames := #[] }

/-- Makes every later request fail, or none. -/
def failSends (outbox : Outbox) (failing : Bool) : Outbox := { outbox with failing }

end Outbox
end DriverHub
