/-!
# Punycode

The ASCII form of a text with characters beyond ASCII: the ASCII characters first, then, in
ascending order of the others, how far it is from one insertion to the next. A distance is written
as a number with digits of changing weight, and is a word of 32 bits.
-/

namespace ClusterOperator.Punycode

/-- The digit of a number below 36: small letters first. -/
def digit (n : Nat) : Char :=
  if n < 26 then Char.ofNat ('a'.toNat + n) else Char.ofNat ('0'.toNat + (n - 26))

/-- The smallest value of a digit that is not the last one. -/
def threshold (position bias : Nat) : Nat :=
  if position ≤ bias then 1 else if bias + 26 ≤ position then 26 else position - bias

theorem threshold_pos (position bias : Nat) : 1 ≤ threshold position bias := by
  unfold threshold
  split
  · omega
  · split <;> omega

/-- The digits of a distance from some position on. -/
def digits (bias position distance : Nat) : List Char :=
  let least := threshold position bias
  if distance < least then [digit distance]
  else
    digit (least + (distance - least) % (36 - least)) ::
      digits bias (position + 36) ((distance - least) / (36 - least))
termination_by distance
decreasing_by
  have positive := threshold_pos position bias
  have smaller : (distance - threshold position bias) / (36 - threshold position bias) ≤
      distance - threshold position bias := Nat.div_le_self ..
  omega

/-- Divides by 35 until the number is small, and counts 36 for each division. -/
def shrink (delta steps : Nat) : Nat × Nat :=
  if 455 < delta then shrink (delta / 35) (steps + 36) else (delta, steps)
termination_by delta
decreasing_by exact Nat.div_lt_self (by omega) (by omega)

/-- The bias after a distance, given how many characters are placed. -/
def adapt (distance placed : Nat) (first : Bool) : Nat :=
  let delta := if first then distance / 700 else distance / 2
  let (delta, steps) := shrink (delta + delta / placed) 0
  steps + 36 * delta / (delta + 38)

/-- How far the insertions have come. -/
structure Progress where
  /-- The digits written, in reverse. -/
  written : List Char
  distance : Nat
  bias : Nat
  placed : Nat

/-- Passes one character of the text while the character `next` is inserted. -/
def Progress.pass (basic next : Nat) (progress : Progress) (c : Char) : Progress :=
  if c.toNat < next then { progress with distance := progress.distance + 1 }
  else if c.toNat = next then
    { written := (digits progress.bias 36 progress.distance).reverse ++ progress.written
      distance := 0
      bias := adapt progress.distance (progress.placed + 1) (progress.placed = basic)
      placed := progress.placed + 1 }
  else progress

/-- Inserts all occurrences of some characters, given in ascending order from a lowest one. -/
def insertAll (text : List Char) (basic : Nat) : List Nat → Nat → Progress → Progress
  | [], _, progress => progress
  | next :: rest, lowest, progress =>
      let start :=
        { progress with
          distance := progress.distance + (next - lowest) * (progress.placed + 1) }
      let passed := text.foldl (Progress.pass basic next) start
      insertAll text basic rest (next + 1) { passed with distance := passed.distance + 1 }

/-- The ASCII form of a text. -/
def encode (text : List Char) : List Char :=
  let basic := text.filter fun c => c.toNat < 0x80
  let others := ((text.map Char.toNat).filter fun n => 0x80 ≤ n).mergeSort.eraseDups
  let progress := insertAll text basic.length others 0x80
    { written := [], distance := 0, bias := 72, placed := basic.length }
  basic ++ (if basic.isEmpty then [] else ['-']) ++ progress.written.reverse

/-! ## Reading -/

def digitValue? (c : Char) : Option Nat :=
  if 'a' ≤ c ∧ c ≤ 'z' then some (c.toNat - 'a'.toNat)
  else if '0' ≤ c ∧ c ≤ '9' then some (c.toNat - '0'.toNat + 26)
  else none

/-- Reads a distance from some position on, given the weight of its next digit and the value of
those before. -/
def distance? (bias position weight value : Nat) : List Char → Option (Nat × List Char)
  | [] => none
  | c :: rest => do
      let digit ← digitValue? c
      let value := value + digit * weight
      guard (value < UInt32.size)
      let least := threshold position bias
      if digit < least then pure (value, rest)
      else do
        guard (weight * (36 - least) < UInt32.size)
        distance? bias (position + 36) (weight * (36 - least)) value rest

/-- Inserts the characters that are left, given the text so far, the code point of the last one and
the place after it. -/
def insertRest : Nat → List Char → Nat → Nat → Nat → List Char → Option (List Char)
  | 0, _, _, _, _, _ => none
  | _ + 1, text, _, _, _, [] => some text
  | fuel + 1, text, last, start, bias, digits => do
      let (distance, rest) ← distance? bias 36 1 0 digits
      let placed := text.length + 1
      let reached := start + distance
      let code := last + reached / placed
      guard (reached < UInt32.size ∧ code.isValidChar)
      let place := reached % placed
      insertRest fuel (text.insertIdx place (Char.ofNat code)) code (place + 1)
        (adapt distance placed (start = 0)) rest

/-- The text with an ASCII form. -/
def decode? (form : List Char) : Option (List Char) :=
  let basic := (form.reverse.dropWhile (· ≠ '-')).tail.reverse
  let digits := (form.reverse.takeWhile (· ≠ '-')).reverse
  if basic.isEmpty ∧ '-' ∈ form then none
  else insertRest (digits.length + 1) basic 0x80 0 72 digits

end ClusterOperator.Punycode
