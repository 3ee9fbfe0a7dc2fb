import DriverHub.Wire.Message

/-!
Delivery of requests to drivers. A request is handed over and forgotten; whatever keeps it from
being handed over is fatal to the hub.
-/
namespace DriverHub

/-- Why a request could not be handed over. -/
inductive TransportError where
  | unreachable (endpoint : Endpoint)
  | overflow
deriving DecidableEq

def TransportError.message : TransportError → String
  | .unreachable endpoint => s!"endpoint {endpoint} unreachable"
  | .overflow => "asynchronous send queue overflow"

/-- A carrier of requests with state `τ`. -/
class Transport (τ : Type) where
  -- Hands over a request.
  send : τ → Endpoint → Request → Except TransportError Unit × τ

end DriverHub
