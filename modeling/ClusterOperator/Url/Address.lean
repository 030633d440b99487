import ClusterOperator.Text.Basic

/-!
# Addresses of hosts

The two kinds of numeric addresses that a URL can have instead of a host name.
-/

namespace ClusterOperator

/-! ## Addresses of four bytes

An address is written as up to four numbers between dots, of which the last one covers the bytes
that are left. A number is decimal, octal after a zero, or hexadecimal after `0x`; its written form
has four decimal numbers.
-/

/-- An address of four bytes. -/
structure Ipv4 where
  value : UInt32
  deriving DecidableEq

namespace Ipv4

/-- Reads digits in a base. No digits are zero. -/
def digits? (base : Nat) (digits : List Char) : Option Nat :=
  digits.foldlM
    (fun value c => ((Text.hexValue? c).filter (· < base)).map fun digit => value * base + digit) 0

def number? : List Char → Option Nat
  | [] => none
  | '0' :: 'x' :: digits => digits? 16 digits
  | '0' :: 'X' :: digits => digits? 16 digits
  | '0' :: c :: digits => digits? 8 (c :: digits)
  | digits => digits? 10 digits

/-- The parts of an address, without an empty last one. -/
def withoutEnd (parts : List (List Char)) : List (List Char) :=
  if parts.getLast? = some [] then parts.dropLast else parts

/-- Whether the parts of a host name mean an address: the last one is a number. -/
def isMeant (parts : List (List Char)) : Bool :=
  (withoutEnd parts).getLast?.any fun last =>
    last ≠ [] && last.all Char.isDigit || (number? last).isSome

/-- The value of numbers of which all but the last one are bytes, given that of those before. -/
def combine? : Nat → List Nat → Option Nat
  | _, [] => none
  | covered, [last] =>
      if last < Nat.pow 256 (4 - covered) then some last else none
  | covered, first :: rest =>
      if first < 256 then
        (combine? (covered + 1) rest).map (first * Nat.pow 256 (3 - covered) + ·)
      else none

/-- Reads the parts of an address. -/
def ofParts? (parts : List (List Char)) : Option Ipv4 := do
  let parts := withoutEnd parts
  guard (parts.length ≤ 4)
  let value ← combine? 0 (← parts.mapM number?)
  pure ⟨UInt32.ofNat value⟩

/-- The bytes of an address, the first one first. -/
def bytes (address : Ipv4) : List Nat :=
  let value := address.value.toNat
  [value / 0x1000000, value / 0x10000 % 256, value / 0x100 % 256, value % 256]

/-- The written form of an address. -/
def text (address : Ipv4) : String := ".".intercalate (address.bytes.map toString)

end Ipv4

/-! ## Addresses of eight groups

An address is written as eight groups of hexadecimal digits between colons. Two colons stand for as
many groups of zero as are missing, and the last two groups can be written as four decimal bytes. In
the written form the first of the longest runs of more than one zero is left out.
-/

/-- An address of eight groups of 16 bits. -/
structure Ipv6 where
  groups : List Nat
  deriving DecidableEq

namespace Ipv6

/-! ### Reading -/

/-- The parts of a text between the characters of a kind. -/
def split (mark : Char) : List Char → List (List Char)
  | [] => [[]]
  | c :: rest =>
      if c = mark then [] :: split mark rest
      else
        match split mark rest with
        | [] => [[c]]
        | part :: parts => (c :: part) :: parts

/-- What stands before and after the first two colons. -/
def gap? : List Char → Option (List Char × List Char)
  | ':' :: ':' :: rest => some ([], rest)
  | c :: rest => (gap? rest).map fun (before, after) => (c :: before, after)
  | [] => none

/-- Reads a group: one to four digits. -/
def group? (text : List Char) : Option Nat :=
  if text = [] ∨ 4 < text.length then none
  else
    text.foldlM (fun value c => (Text.hexValue? c).map fun digit => 16 * value + digit) 0

/-- Reads a decimal byte without needless zeros. -/
def byte? (text : List Char) : Option Nat :=
  if text = [] ∨ !text.all Char.isDigit ∨ (text.head? = some '0' ∧ text ≠ ['0']) then none
  else
    let value := Text.decimalValue text
    if value < 256 then some value else none

/-- Reads two groups that are written as four decimal bytes. -/
def bytes? (text : List Char) : Option (List Nat) := do
  match ← (split '.' text).mapM byte? with
  | [a, b, c, d] => pure [256 * a + b, 256 * c + d]
  | _ => none

/-- Reads groups between colons, of which the last ones can be bytes where an address ends. -/
def groups? (isEnd : Bool) : List (List Char) → Option (List Nat)
  | [] => some []
  | [last] =>
      if isEnd && last.contains '.' then bytes? last else (group? last).map fun group => [group]
  | first :: rest => do
      let group ← group? first
      let others ← groups? isEnd rest
      pure (group :: others)

/-- Reads the groups on one side of two colons, where there may be none. -/
def side? (isEnd : Bool) (text : List Char) : Option (List Nat) :=
  if text = [] then some [] else groups? isEnd (split ':' text)

/-- Reads an address. -/
def read? (text : List Char) : Option Ipv6 :=
  match gap? text with
  | none => do
      let groups ← groups? true (split ':' text)
      if groups.length = 8 then pure ⟨groups⟩ else none
  | some (before, after) => do
      let before ← side? false before
      let after ← side? true after
      let given := before.length + after.length
      if given < 8 then pure ⟨before ++ List.replicate (8 - given) 0 ++ after⟩ else none

/-! ### Writing -/

/-- How many groups of zero stand at the beginning. -/
def leadingZeros (groups : List Nat) : Nat := (groups.takeWhile (· = 0)).length

/-- Where the first of the longest runs of zeros begins, and its length, given the place of the
first group. -/
def longestRun (place : Nat) : List Nat → Nat × Nat
  | [] => (place, 0)
  | group :: rest =>
      let here := leadingZeros (group :: rest)
      let later := longestRun (place + 1) rest
      if later.2 ≤ here then (place, here) else later

/-- Groups between colons. -/
def joined (groups : List Nat) : String := ":".intercalate (groups.map Text.hexDigits)

/-- The written form of an address. -/
def text (address : Ipv6) : String :=
  let (start, length) := longestRun 0 address.groups
  if length < 2 then joined address.groups
  else
    joined (address.groups.take start) ++ "::" ++ joined (address.groups.drop (start + length))

end Ipv6

end ClusterOperator
