/-!
# How values are spelt

Words as bytes, bytes and numbers as hexadecimal text, and the written form of records and lists.
-/
namespace DriveMap

/-! ## Little-endian words

Every number inside a device path is written least significant byte first, in a field of fixed width.  One encoder and
one decoder serve all widths.
-/

/-- Raw bytes, as firmware hands them out. -/
abbrev Bytes := List UInt8

namespace LittleEndian

/-- The `w` bytes of `n`, least significant first; what does not fit is dropped. -/
def encode : Nat → Nat → Bytes
  | 0, _ => []
  | w + 1, n => UInt8.ofNat n :: encode w (n / 256)

/-- The number that a field of bytes holds. -/
def decode : Bytes → Nat
  | [] => 0
  | b :: rest => b.toNat + 256 * decode rest

@[simp] theorem length_encode : ∀ (w n : Nat), (encode w n).length = w
  | 0, _ => rfl
  | w + 1, n => by rw [encode, List.length_cons, length_encode w]

end LittleEndian

/-! ## Hexadecimal text

Numbers and byte strings in lower-case hexadecimal.  A byte always takes two digits, so a byte string has one spelling
and its length shows; a number takes as few digits as it can.
-/

namespace Hex

/-- A number in lower-case digits, without leading zeros. -/
def ofNat (n : Nat) : String := String.ofList (Nat.toDigits 16 n)

/-- A number in exactly `w` digits; higher ones are dropped. -/
def padded : Nat → Nat → List Char
  | 0, _ => []
  | w + 1, n => padded w (n / 16) ++ [Nat.digitChar (n % 16)]

/-- A byte string, two digits a byte. -/
def ofBytes (bs : Bytes) : String := String.ofList (bs.flatMap fun b => padded 2 b.toNat)

/-- The value of a digit, in either case. -/
def digit? (c : Char) : Option Nat :=
  if '0' ≤ c ∧ c ≤ '9' then some (c.toNat - '0'.toNat)
  else if 'a' ≤ c ∧ c ≤ 'f' then some (c.toNat - 'a'.toNat + 10)
  else if 'A' ≤ c ∧ c ≤ 'F' then some (c.toNat - 'A'.toNat + 10)
  else none

/-- Reads digit pairs onto the bytes already read, the latest first. -/
def readPairs (done : Bytes) : List Char → Option Bytes
  | [] => some done.reverse
  | [_] => none
  | hi :: lo :: rest =>
    match digit? hi, digit? lo with
    | some h, some l => readPairs (UInt8.ofNat (16 * h + l) :: done) rest
    | _, _ => none

/-- The bytes that a text of digit pairs spells. -/
def toBytes? (s : String) : Option Bytes := readPairs [] s.toList

end Hex

/-! ## Records and lists

How a value with named fields, a tagged value and a list look in diagnostics: `Name { field: value, … }`,
`Name(value)` and `[item, …]`.
-/

namespace Text

/-- Items one after another, with a comma between two. -/
def separated (items : List String) : String := ", ".intercalate items

/-- Named fields after the record's name. -/
def record (name : String) (fields : List (String × String)) : String :=
  name ++ " \x7b " ++ separated (fields.map fun f => f.1 ++ ": " ++ f.2) ++ " \x7d"

/-- A record that has more fields than it shows. -/
def openRecord (name : String) (fields : List (String × String)) : String :=
  name ++ " \x7b " ++ separated (fields.map fun f => f.1 ++ ": " ++ f.2) ++ ", .. \x7d"

/-- One value under a name. -/
def tagged (name value : String) : String := name ++ "(" ++ value ++ ")"

/-- Items in brackets. -/
def list (items : List String) : String := "[" ++ separated items ++ "]"

end Text

end DriveMap
