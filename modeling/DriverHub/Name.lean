import DriverHub.Text.Bytes

/-!
Bounded names. A name stands at the front of a buffer of fixed size, with its length beside it. It is
not empty, leaves room for a terminating NUL and has none itself, and behind it the buffer is zero.
Driver labels and interface names are bounded names.
-/
namespace DriverHub

/-- A buffer of `capacity` bytes, of which the first `length` are in use. -/
structure NameBuffer (capacity : Nat) where
  content : Vector UInt8 capacity
  length : Nat
deriving DecidableEq

namespace NameBuffer

variable {capacity : Nat} {name : NameBuffer capacity} {raw : List UInt8}

/-- The bytes in use. -/
def bytes (name : NameBuffer capacity) : List UInt8 := name.content.toList.take name.length

/-- The name as text, if it is valid UTF-8. -/
def text? (name : NameBuffer capacity) : Option String := Bytes.text? name.bytes

/-- The name for a reader: its text, or the listing of its bytes. -/
def display (name : NameBuffer capacity) : String := Bytes.display name.bytes

/-- The displayed name between double quotes; nothing in it is escaped. -/
def quoted (name : NameBuffer capacity) : String := "\"" ++ name.display ++ "\""

/-- The whole buffer, as a message carries it. -/
def padded (name : NameBuffer capacity) : Vector UInt8 capacity := name.content

instance : ToString (NameBuffer capacity) := ⟨display⟩

/-- Copies bytes to the front of a buffer. -/
def copied (content : Vector UInt8 capacity) (bytes : List UInt8) : Vector UInt8 capacity :=
  content.mapIdx fun i byte => bytes.getD i byte

/-- The name at the front of a field: what stands before its first NUL, which must come within
`capacity` bytes and not at once. -/
def ofTerminated? (raw : List UInt8) : Option (NameBuffer capacity) :=
  let window := raw.take capacity
  match window.findIdx? (· = 0) with
  | none => none
  | some length =>
    if length = 0 then none
    else some ⟨copied (Vector.replicate capacity 0) (window.take length), length⟩

/-- The name a text spells, if it is neither empty nor too long and holds no NUL. -/
def ofText? (text : String) : Option (NameBuffer capacity) :=
  let bytes := Bytes.ofText text
  if capacity ≤ bytes.length ∨ 0 ∈ bytes then none
  else ofTerminated? (copied (Vector.replicate capacity 0) bytes).toList

/-- What holds of every name. -/
structure WellFormed (name : NameBuffer capacity) : Prop where
  nonempty : name.length ≠ 0
  fits : name.length < capacity
  noNul : 0 ∉ name.bytes
  cleared : ∀ (i : Nat) (hi : i < capacity), name.length ≤ i → name.content[i] = 0

theorem toList_copied (content : Vector UInt8 capacity) {bytes : List UInt8}
    (hroom : bytes.length ≤ capacity) :
    (copied content bytes).toList = bytes ++ content.toList.drop bytes.length := by
  apply List.ext_getElem
  · simp only [Vector.length_toList, List.length_append, List.length_drop]
    omega
  · intro i hi _
    simp only [copied, Vector.getElem_toList, Vector.getElem_mapIdx]
    by_cases hinside : i < bytes.length
    · rw [List.getElem_append_left hinside, List.getD_eq_getElem?_getD,
        List.getElem?_eq_getElem hinside, Option.getD_some]
    · have hover := Nat.le_of_not_lt hinside
      rw [List.getElem_append_right hover, List.getD_eq_getElem?_getD,
        List.getElem?_eq_none hover, Option.getD_none, List.getElem_drop, Vector.getElem_toList]
      congr 1
      omega

/-- Where the window has its first NUL at `length`, the bytes before it are what is copied. -/
theorem bytes_copied {window : List UInt8} {length : Nat} (hlength : length < window.length)
    (hroom : window.length ≤ capacity) :
    (⟨copied (Vector.replicate capacity 0) (window.take length), length⟩ :
      NameBuffer capacity).bytes = window.take length := by
  have hfront : (window.take length).length = length :=
    List.length_take_of_le (Nat.le_of_lt hlength)
  rw [bytes, toList_copied _ (by omega), List.take_left' hfront]

theorem ofTerminated?_eq_some (h : ofTerminated? raw = some name) :
    name.WellFormed ∧ ∃ hlength : name.length < (raw.take capacity).length,
      (raw.take capacity)[name.length] = 0 ∧ name.bytes = (raw.take capacity).take name.length := by
  have hroom := List.length_take_le capacity raw
  unfold ofTerminated? at h
  dsimp only at h
  generalize raw.take capacity = window at *
  split at h
  · cases h
  · next length hfind =>
    split at h
    · cases h
    · next hnonempty =>
      cases h
      obtain ⟨hlength, hnul, hbefore⟩ := List.findIdx?_eq_some_iff_getElem.mp hfind
      have hbytes := bytes_copied hlength hroom
      refine ⟨⟨hnonempty, by dsimp only; omega, ?_, ?_⟩, hlength, by simpa using hnul, hbytes⟩
      · rw [hbytes, List.mem_take_iff_getElem]
        rintro ⟨j, hj, hzero⟩
        exact hbefore j (by omega) (by simpa using hzero)
      · intro i _ hbehind
        have hover : (window.take length).length ≤ i :=
          Nat.le_trans (List.length_take_le _ _) hbehind
        simp [copied, List.getD_eq_getElem?_getD, List.getElem?_eq_none hover]

theorem WellFormed.of_ofTerminated? (h : ofTerminated? raw = some name) : name.WellFormed :=
  (ofTerminated?_eq_some h).1

theorem WellFormed.of_ofText? {text : String} (h : ofText? text = some name) : name.WellFormed := by
  unfold ofText? at h
  dsimp only at h
  split at h
  · cases h
  · exact .of_ofTerminated? h

end NameBuffer

/-- A byte string that fits, with its terminating NUL, into `capacity` bytes. -/
structure BoundedName (capacity : Nat) extends NameBuffer capacity where
  wellFormed : toNameBuffer.WellFormed
deriving DecidableEq

abbrev labelSize : Nat := 16

abbrev interfaceNameSize : Nat := 16

/-- A driver's label, by which it is known across restarts. -/
abbrev Label := BoundedName labelSize

/-- The name a driver gives to its interface. -/
abbrev InterfaceName := BoundedName interfaceNameSize

namespace BoundedName

variable {capacity : Nat}

/-- The name at the front of a field. -/
def ofTerminated? (raw : List UInt8) : Option (BoundedName capacity) :=
  (NameBuffer.ofTerminated? raw).pmap mk fun _ => .of_ofTerminated?

/-- The name a text spells. -/
def ofText? (text : String) : Option (BoundedName capacity) :=
  (NameBuffer.ofText? text).pmap mk fun _ => .of_ofText?

instance : ToString (BoundedName capacity) := ⟨fun name => name.display⟩

end BoundedName
end DriverHub
