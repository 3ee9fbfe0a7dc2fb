import DriverHub.Text.Bytes

/-!
Names for the parties: the endpoint at which a driver takes its messages, and the number of the
table entry a driver occupies.
-/
namespace DriverHub

/-- Where a driver takes its messages. -/
structure Endpoint where
  address : Int
deriving DecidableEq, Inhabited

instance : ToString Endpoint := ⟨fun endpoint => s!"ep{endpoint.address}"⟩

/-- Number of an entry of the driver table. A driver keeps its entry across restarts; once it is
gone, the entry may be given to another driver. -/
structure DriverId where
  index : Nat
deriving DecidableEq, Inhabited

instance : ToString DriverId := ⟨fun id => s!"#{id.index}"⟩

end DriverHub
