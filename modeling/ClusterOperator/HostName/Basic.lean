import ClusterOperator.HostName.Direction
import ClusterOperator.HostName.Joining
import ClusterOperator.HostName.Mapping.Basic
import ClusterOperator.HostName.Punycode

/-!
# Host names

A host name is a list of labels between dots. A label with characters beyond ASCII has an ASCII
form, which begins with `xn--`; `HostName.ascii?` gives the name with the ASCII forms of all its
labels.
-/

namespace ClusterOperator.HostName

/-- Whether a character of ASCII can stand in a host name. -/
def isAllowed (c : Char) : Bool :=
  0x20 < c.toNat && c.toNat ≠ 0x7F &&
    c ∉ ['%', '#', '/', ':', '<', '>', '?', '@', '[', '\\', ']', '^', '|']

/-- The parts of a name between dots. -/
def labels : List Char → List (List Char)
  | [] => [[]]
  | c :: rest =>
      if c = '.' then [] :: labels rest
      else
        match labels rest with
        | [] => [[c]]
        | label :: others => (c :: label) :: others

/-- Whether all characters of a label may stand where they are. -/
def isLabel (label : List Char) : Bool :=
  label.all isAllowed && !label.head?.any isCombining && joinersFit [] label

/-- Whether a text has characters of ASCII only. -/
def isAscii (text : List Char) : Bool := text.all fun c => c.toNat < 0x80

/-- What the ASCII form of a label begins with. -/
def marker : List Char := ['x', 'n', '-', '-']

/-- The most characters that a label can have to be given an ASCII form. -/
def longestLabel : Nat := 1000

/-- A label and its ASCII form. -/
structure Label where
  plain : List Char
  ascii : List Char

/-- Reads a label that is given in its ASCII form, without what that begins with. It has to be the
form of a label that stands for itself. -/
def Label.ofDigits? (digits : List Char) : Option Label := do
  guard (isAscii digits ∧ digits.getLast?.any (· ≠ '-') ∧ digits.length ≤ 2 * longestLabel)
  let plain ← Punycode.decode? digits
  guard (plain.all isPlain ∧ compose plain = plain ∧ isLabel plain)
  pure { plain, ascii := marker ++ digits }

def Label.read? (label : List Char) : Option Label :=
  if marker.isPrefixOf label then ofDigits? (label.drop marker.length)
  else if !isLabel label then none
  else if isAscii label then some { plain := label, ascii := label }
  else if label.length ≤ longestLabel then
    some { plain := label, ascii := marker ++ Punycode.encode label }
  else none

/-- The name in ASCII of the host that a name means. -/
def ascii? (name : List Char) : Option (List Char) := do
  let meant ← meanings? name
  let labels ← (labels (compose meant)).mapM Label.read?
  guard (keepDirections (labels.map Label.plain))
  pure (['.'].intercalate (labels.map Label.ascii))

end ClusterOperator.HostName
