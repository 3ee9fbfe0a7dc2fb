import DriverHub.Defect
import DriverHub.Grant

/-!
Formats of the fields of a message. A field is a value written in a fixed number of bytes. Numbers
are written with their least significant byte first. Fields stand one behind the other, so the
position of each follows from the widths of those before it.
-/
namespace DriverHub.Wire

/-- How values of type `α` are written in a fixed number of bytes. -/
structure Format (α : Type) where
  -- Number of bytes.
  width : Nat
  -- The bytes of a value.
  write : α → List UInt8
  -- The value in the bytes at the front; bytes that are missing count as zero.
  read : List UInt8 → α

/-- The lowest `width` bytes of a number, least significant first. -/
def littleEndian : (width : Nat) → Nat → List UInt8
  | 0, _ => []
  | width + 1, value => UInt8.ofNat (value % 256) :: littleEndian width (value / 256)

/-- The number these bytes write, least significant first. -/
def ofLittleEndian : List UInt8 → Nat
  | [] => 0
  | byte :: bytes => byte.toNat + 256 * ofLittleEndian bytes

namespace Format

variable {α β : Type}

/-- Reads the value at the front of some bytes, of which none may be missing. -/
def scan (format : Format α) (bytes : List UInt8) : Except Defect α :=
  if bytes.length < format.width then .error .outOfRange else .ok (format.read bytes)

def u8 : Format UInt8 where
  width := 1
  write value := [value]
  read bytes := bytes.headD 0

def u16 : Format UInt16 where
  width := 2
  write value := littleEndian 2 value.toNat
  read bytes := UInt16.ofNat (ofLittleEndian (bytes.take 2))

def u32 : Format UInt32 where
  width := 4
  write value := littleEndian 4 value.toNat
  read bytes := UInt32.ofNat (ofLittleEndian (bytes.take 4))

/-- The same bytes for a value in another form. -/
def map (format : Format α) (decode : α → β) (encode : β → α) : Format β where
  width := format.width
  write value := format.write (encode value)
  read bytes := decode (format.read bytes)

/-- Two values, one behind the other. -/
def pair (first : Format α) (second : Format β) : Format (α × β) where
  width := first.width + second.width
  write value := first.write value.1 ++ second.write value.2
  read bytes := (first.read bytes, second.read (bytes.drop first.width))

/-- A fixed number of values of one kind. -/
def array (format : Format α) (count : Nat) : Format (Vector α count) where
  width := count * format.width
  write values := values.toList.flatMap format.write
  read bytes := Vector.ofFn fun i => format.read (bytes.drop (i * format.width))

/-- A signed 32-bit number in two's complement. -/
def i32 : Format Int32 := u32.map UInt32.toInt32 Int32.toUInt32

/-- The word for "no grant". -/
def noGrant : UInt32 := 0xFFFFFFFF

/-- A grant by its number, or none. Every word with the highest bit set is read as none. -/
def grant : Format (Option GrantId) :=
  u32.map (fun word => GrantId.ofNat? word.toNat)
    (fun grant? => (grant?.map fun grant => UInt32.ofNat grant.index).getD noGrant)

end Format
end DriverHub.Wire
