import ClusterOperator.Text.Quoted

/-!
# Faults in JSON text

Why a text cannot be read as a document of some shape, and where in the text that shows. A fault of
a whole object shows only where that ends; until then it is open.
-/

namespace ClusterOperator.Json

/-- A place in a text: its line, and how many bytes of the line are before it. -/
structure Place where
  line : Nat
  column : Nat
  deriving DecidableEq

/-- Why a text cannot be read. -/
inductive FaultReason where
  | endInList
  | endInObject
  | endInText
  | endInValue
  | colonExpected
  | listCommaExpected
  | objectCommaExpected
  | wordExpected
  | valueExpected
  | keyExpected
  | badEscape
  | badNumber
  | outOfRange
  | controlCharacter
  | loneSurrogate
  | cutEscape
  | trailingComma
  | trailingCharacters
  | tooDeep
  /-- A value of another type. -/
  | mismatch (found expected : String)
  /-- A value of the right type that is not allowed. -/
  | notAllowed (found expected : String)
  | wrongLength (length : Nat) (expected : String)
  /-- Another word than the known ones. -/
  | unknownWord (word : String) (known : List String)
  /-- A member that is not there. -/
  | missing (name : String)
  /-- A member that is there twice. -/
  | repeated (name : String)
  /-- A text that does not say what it should. -/
  | unreadable (problem : String)
  deriving DecidableEq

namespace FaultReason

/-- A word between grave accents. -/
def marked (word : String) : String :=
  let mark := (Char.ofNat 0x60).toString
  mark ++ word ++ mark

/-- The words that can stand in a place. -/
def choices : List String → String
  | [] => "nothing"
  | [word] => marked word
  | [first, second] => marked first ++ " or " ++ marked second
  | words => "one of " ++ ", ".intercalate (words.map marked)

/-- What is wrong, in words. -/
def message : FaultReason → String
  | endInList => "EOF while parsing a list"
  | endInObject => "EOF while parsing an object"
  | endInText => "EOF while parsing a string"
  | endInValue => "EOF while parsing a value"
  | colonExpected => "expected " ++ marked ":"
  | listCommaExpected => "expected " ++ marked "," ++ " or " ++ marked "]"
  | objectCommaExpected => "expected " ++ marked "," ++ " or " ++ marked "\x7d"
  | wordExpected => "expected ident"
  | valueExpected => "expected value"
  | keyExpected => "key must be a string"
  | badEscape => "invalid escape"
  | badNumber => "invalid number"
  | outOfRange => "number out of range"
  | controlCharacter =>
      "control character (\\u0000-\\u001F) found while parsing a string"
  | loneSurrogate => "lone leading surrogate in hex escape"
  | cutEscape => "unexpected end of hex escape"
  | trailingComma => "trailing comma"
  | trailingCharacters => "trailing characters"
  | tooDeep => "recursion limit exceeded"
  | mismatch found expected => "invalid type: " ++ found ++ ", expected " ++ expected
  | notAllowed found expected => "invalid value: " ++ found ++ ", expected " ++ expected
  | wrongLength length expected =>
      "invalid length " ++ toString length ++ ", expected " ++ expected
  | unknownWord word known =>
      "unknown variant " ++ marked word ++ ", expected " ++ choices known
  | missing name => "missing field " ++ marked name
  | repeated name => "duplicate field " ++ marked name
  | unreadable problem => problem

end FaultReason

/-- A fault at a place. -/
structure Fault where
  reason : FaultReason
  place : Place
  deriving DecidableEq

/-- A fault and its place, in words. -/
def Fault.text (fault : Fault) : String :=
  fault.reason.message ++ " at line " ++ toString fault.place.line ++ " column " ++
    toString fault.place.column

end ClusterOperator.Json
