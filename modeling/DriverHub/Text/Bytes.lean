/-!
Bytes as text: the UTF-8 bytes of a string, the text spelled by bytes that are valid UTF-8, and
the hexadecimal listing shown for bytes that are not.
-/
namespace DriverHub.Bytes

/-- The UTF-8 bytes of a text. -/
def ofText (text : String) : List UInt8 := text.toByteArray.data.toList

/-- The text these bytes spell; surrogates, overlong forms and values above U+10FFFF spell none. -/
def text? (bytes : List UInt8) : Option String := String.fromUTF8? ⟨bytes.toArray⟩

/-- Lower-case hexadecimal digits without leading zeros; zero is a single digit. -/
def hex (value : Nat) : String := String.ofList (Nat.toDigits 16 value)

/-- Hexadecimal with the mark `0x` in front. -/
def hexMarked (value : Nat) : String := "0x" ++ hex value

/-- The bytes in hexadecimal, separated by commas, in square brackets. -/
def listing (bytes : List UInt8) : String :=
  "[" ++ String.intercalate ", " (bytes.map fun byte => hex byte.toNat) ++ "]"

/-- The text where the bytes spell one, and their listing otherwise. -/
def display (bytes : List UInt8) : String := (text? bytes).getD (listing bytes)

end DriverHub.Bytes
