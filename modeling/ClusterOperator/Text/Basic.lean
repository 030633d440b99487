/-!
# Characters and numbers in text

Kinds of characters as ranges of code points, the blanks at the ends of a text, and whole numbers in
decimal and in hexadecimal digits.
-/

namespace ClusterOperator.Text

/-! ## Ranges of characters

A property of characters as the ascending list of the ranges of code points that have it.
-/

/-- Ranges of code points, each with its first and its last one. -/
abbrev CodeRanges := List (Nat × Nat)

/-- Whether a character is in one of the ranges. -/
def CodeRanges.contains (ranges : CodeRanges) (c : Char) : Bool :=
  ranges.any fun range => range.1 ≤ c.toNat && c.toNat ≤ range.2

/-! ## Blanks

The characters with the White_Space property, and cutting them off the ends of a text.
-/

/-- The White_Space property. -/
def isBlank (c : Char) : Bool :=
  let code := c.toNat
  (0x9 ≤ code && code ≤ 0xD) || code == 0x20 || code == 0x85 || code == 0xA0 || code == 0x1680 ||
    (0x2000 ≤ code && code ≤ 0x200A) || code == 0x2028 || code == 0x2029 || code == 0x202F ||
    code == 0x205F || code == 0x3000

/-- The text without the blanks at its start. -/
def trimStart (text : List Char) : List Char := text.dropWhile isBlank

/-- The text without the blanks at its start and at its end. -/
def trim (text : List Char) : List Char := ((trimStart text).reverse.dropWhile isBlank).reverse

/-! ## Whole numbers in text -/

def digitValue (c : Char) : Nat := c.toNat - '0'.toNat

def decimalValue (digits : List Char) : Nat :=
  digits.foldl (fun value c => value * 10 + digitValue c) 0

/-- Reads a whole number in decimal digits, which a plus sign may precede. -/
def readDecimal? (text : String) : Option Nat :=
  let digits := match text.toList with
    | '+' :: rest => rest
    | all => all
  if digits ≠ [] ∧ digits.all Char.isDigit then some (decimalValue digits) else none

/-- Reads a whole number below `2 ^ bits`. -/
def readWord? (bits : Nat) (text : String) : Option Nat :=
  (readDecimal? text).filter fun value => value < Nat.pow 2 bits

/-! ## Hexadecimal digits -/

/-- The value of a hexadecimal digit, in whatever case. -/
def hexValue? (c : Char) : Option Nat :=
  if '0' ≤ c ∧ c ≤ '9' then some (c.toNat - '0'.toNat)
  else if 'a' ≤ c ∧ c ≤ 'f' then some (c.toNat - 'a'.toNat + 10)
  else if 'A' ≤ c ∧ c ≤ 'F' then some (c.toNat - 'A'.toNat + 10)
  else none

/-- The lower-case hexadecimal digits of a number, without leading zeros. -/
def hexDigits (n : Nat) : String := String.ofList (Nat.toDigits 16 n)

end ClusterOperator.Text
