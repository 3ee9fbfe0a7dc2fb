import DriverHub.Config.Reader

/-!
A reader of configuration texts. A text has one pair on a line, `key = value`, with comments from
`#` to the end of a line. Keys may be bare, quoted with escapes, or quoted literally, and none may
be given twice; values are whole numbers in decimal, hexadecimal, octal or binary. A text with a
value of another kind is refused as a whole, since no setting takes one.
-/
namespace DriverHub.Config

namespace Document

def isBlank (c : Char) : Bool := c = ' ' || c = '\t'

/-- What a comment may hold: a tab, and everything that is no control character. -/
def isCommentChar (c : Char) : Bool := c = '\t' || (' ' ≤ c && c ≠ '\x7f')

def isBareKeyChar (c : Char) : Bool := c.isAlphanum || c = '_' || c = '-'

/-- The value of a digit below the radix; letters of either case count from ten. -/
def digit? (radix : Nat) (c : Char) : Option Nat :=
  let value? :=
    if c.isDigit then some (c.toNat - '0'.toNat)
    else if 'a' ≤ c ∧ c ≤ 'f' then some (c.toNat - 'a'.toNat + 10)
    else if 'A' ≤ c ∧ c ≤ 'F' then some (c.toNat - 'A'.toNat + 10)
    else none
  value?.filter (· < radix)

/-- Reads digits behind the number read so far. An underscore must stand between two digits, so
it is accepted only after a digit and not at the end. -/
def digits? (radix : Nat) : (afterDigit : Bool) → (value : Nat) → List Char → Option Nat
  | afterDigit, value, [] => if afterDigit then some value else none
  | afterDigit, value, c :: cs =>
    if c = '_' then
      if afterDigit then digits? radix false value cs else none
    else
      match digit? radix c with
      | some digit => digits? radix true (value * radix + digit) cs
      | none => none

/-- A decimal number: digits that start with zero only if they are just that zero. -/
def decimal? (cs : List Char) : Option Nat :=
  if cs.head? = some '0' ∧ cs ≠ ['0'] then none else digits? 10 false 0 cs

/-- A whole number: a sign may precede a decimal number, and the radix marks `0x`, `0o` and `0b`
are lower case and take no sign. -/
def integer? : List Char → Option Int
  | '0' :: 'x' :: cs => (digits? 16 false 0 cs).map Int.ofNat
  | '0' :: 'o' :: cs => (digits? 8 false 0 cs).map Int.ofNat
  | '0' :: 'b' :: cs => (digits? 2 false 0 cs).map Int.ofNat
  | '+' :: cs => (decimal? cs).map Int.ofNat
  | '-' :: cs => (decimal? cs).map fun n => -Int.ofNat n
  | cs => (decimal? cs).map Int.ofNat

/-- A value: a whole number of 64 bits, one of which is the sign. -/
def value? (cs : List Char) : Option Value :=
  ((integer? cs).filter fun n => -0x8000000000000000 ≤ n ∧ n < 0x8000000000000000).map .integer

/-- The character with the code that these hexadecimal digits spell, if it is a scalar value. -/
def scalar? (cs : List Char) : Option Char := do
  let ds ← cs.mapM (digit? 16)
  let code := ds.foldl (fun code d => code * 16 + d) 0
  if code.isValidChar then some (Char.ofNat code) else none

/-- The character that a single letter after a backslash stands for. -/
def escape? : Char → Option Char
  | 'b' => some '\x08'
  | 't' => some '\t'
  | 'n' => some '\n'
  | 'f' => some '\x0c'
  | 'r' => some '\r'
  | '"' => some '"'
  | '\\' => some '\\'
  | _ => none

/-- Reads the inside of a quoted key up to its closing quote, given the key read so far backwards;
answers the key and what follows it. -/
def quotedKey? : (reversed : List Char) → List Char → Option (List Char × List Char)
  | _, [] => none
  | reversed, '"' :: cs => some (reversed.reverse, cs)
  | reversed, '\\' :: 'u' :: a :: b :: c :: d :: cs =>
    match scalar? [a, b, c, d] with
    | some char => quotedKey? (char :: reversed) cs
    | none => none
  | reversed, '\\' :: 'U' :: a :: b :: c :: d :: e :: f :: g :: h :: cs =>
    match scalar? [a, b, c, d, e, f, g, h] with
    | some char => quotedKey? (char :: reversed) cs
    | none => none
  | reversed, '\\' :: c :: cs =>
    match escape? c with
    | some char => quotedKey? (char :: reversed) cs
    | none => none
  | reversed, c :: cs => if isCommentChar c then quotedKey? (c :: reversed) cs else none

/-- Reads a key at the front of a line; answers the key and what follows it. -/
def key? : List Char → Option (List Char × List Char)
  | '"' :: cs => quotedKey? [] cs
  | '\'' :: cs =>
    match cs.dropWhile (· ≠ '\'') with
    | [] => none
    | _ :: rest => some (cs.takeWhile (· ≠ '\''), rest)
  | cs =>
    let bare := cs.takeWhile isBareKeyChar
    if bare = [] then none else some (bare, cs.dropWhile isBareKeyChar)

/-- Nothing but space and perhaps a comment. -/
def isTrivia (cs : List Char) : Bool :=
  match cs.dropWhile isBlank with
  | [] => true
  | c :: rest => c = '#' && rest.all isCommentChar

/-- Reads a pair: a key, an equals sign and a value, with space and a comment around them. -/
def pair? (line : List Char) : Option (String × Value) := do
  let (key, rest) ← key? (line.dropWhile isBlank)
  match rest.dropWhile isBlank with
  | '=' :: rest =>
    let rest := rest.dropWhile isBlank
    let value ← value? (rest.takeWhile fun c => !isBlank c && c ≠ '#')
    if isTrivia (rest.dropWhile fun c => !isBlank c && c ≠ '#') then
      some (String.ofList key, value)
    else none
  | _ => none

/-- The lines of a text without their ends. A line ends with a line feed, or a carriage return and
a line feed; what follows the last end is the last line. -/
def lines : List Char → List (List Char)
  | [] => [[]]
  | '\r' :: '\n' :: cs => [] :: lines cs
  | '\n' :: cs => [] :: lines cs
  | c :: cs =>
    match lines cs with
    | [] => [[c]]
    | line :: rest => (c :: line) :: rest

/-- The pairs of the lines in order; lines without content are passed over. -/
def pairs? : List (List Char) → Option (List (String × Value))
  | [] => some []
  | line :: rest =>
    if isTrivia line then pairs? rest
    else do
      let given ← pair? line
      let others ← pairs? rest
      if others.any (·.1 = given.1) then none else some (given :: others)

/-- The pairs of a text; a byte order mark in front is skipped. -/
def table? (text : String) : Option (List (String × Value)) :=
  match text.toList with
  | '\ufeff' :: cs => pairs? (lines cs)
  | cs => pairs? (lines cs)

/-- A value as a 64-bit word. -/
def word? : Value → Option UInt64
  | .integer number =>
    if 0 ≤ number ∧ number < UInt64.size then some (UInt64.ofNat number.toNat) else none
  | .other => none

/-- The default configuration with settings replaced: each key must be that of a setting, and its
value a number that fits. -/
def config? (table : List (String × Value)) : Option Config :=
  table.foldlM (fun config pair => do
    let setting ← Setting.ofKey? pair.1
    let word ← word? pair.2
    some (config.set setting word)) {}

def reader : Reader where
  table? := table?
  config? := config?

end Document
end DriverHub.Config
