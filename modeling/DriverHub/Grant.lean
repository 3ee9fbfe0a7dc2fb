import DriverHub.Endpoint

/-!
Memory grants. A grant gives the driver at one endpoint access to one region of memory until it is
revoked. A grant table creates and revokes grants; it may run out of them, and a revocation that
fails means that the table can no longer be trusted.
-/
namespace DriverHub

/-- Number of a grant; numbers are below 2³¹. -/
structure GrantId where
  index : Nat
  bound : index < 0x80000000
deriving DecidableEq

/-- The grant of this number, if the number is in range. -/
def GrantId.ofNat? (index : Nat) : Option GrantId :=
  if h : index < 0x80000000 then some ⟨index, h⟩ else none

/-- What a grant lets the driver do. -/
inductive Access where
  | read
  | write
deriving DecidableEq

/-- A region of memory. Addresses and lengths are 64-bit words. -/
structure Segment where
  address : UInt64
  length : UInt64
deriving DecidableEq, Inhabited

/-- What a grant gives access to, and to whom. -/
structure Grant where
  endpoint : Endpoint
  segment : Segment
  access : Access
deriving DecidableEq

/-- Why a grant was not revoked. -/
inductive GrantError where
  | notLive (grant : GrantId)
  | corrupted
deriving DecidableEq

def GrantError.message : GrantError → String
  | .notLive grant => s!"grant GrantId({grant.index}) is not live"
  | .corrupted => "grant table corrupted"

/-- A table of grants with state `γ`. -/
class GrantTable (γ : Type) where
  -- Creates a grant; none if there are no more to be had.
  create : γ → Grant → Option GrantId × γ
  -- Revokes a grant.
  revoke : γ → GrantId → Except GrantError Unit × γ

end DriverHub
