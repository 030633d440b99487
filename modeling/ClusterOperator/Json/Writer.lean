import ClusterOperator.Json.Float
import ClusterOperator.Text.Quoted
import ClusterOperator.Text.ShortestDecimal

/-!
# Writing JSON text

The compact form of a document: no gaps, members in the order of the value, and of the characters of
a text only those escaped that cannot stand in one.
-/

namespace ClusterOperator.Json

/-- A control character as an escape with four digits. -/
def controlEscape (c : Char) : String :=
  let digits := Text.hexDigits c.toNat
  "\\u" ++ String.ofList (List.replicate (4 - digits.length) '0') ++ digits

/-- How a text writes one character. -/
def escapeChar (c : Char) : String :=
  match c with
  | '"' => "\\\""
  | '\\' => "\\\\"
  | '\x08' => "\\b"
  | '\x0c' => "\\f"
  | '\n' => "\\n"
  | '\x0d' => "\\r"
  | '\t' => "\\t"
  | _ => if c.toNat < 0x20 then controlEscape c else c.toString

/-- A text between quotes. -/
def writeText (text : String) : String :=
  "\"" ++ text.toList.foldl (fun written c => written ++ escapeChar c) "" ++ "\""

mutual

/-- The compact form of a value. -/
def write : Json → String
  | null => "null"
  | bool value => if value then "true" else "false"
  | integer value => toString value
  | decimal mantissa exponent =>
      Text.floatText ((float? (decimal mantissa exponent)).getD 0)
  | string text => writeText text
  | array [] => "[]"
  | array (item :: rest) => "[" ++ write item ++ writeItems rest ++ "]"
  | object [] => "\x7b\x7d"
  | object ((name, value) :: rest) =>
      "\x7b" ++ writeText name ++ ":" ++ write value ++ writeFields rest ++ "\x7d"

/-- The further items of an array, each after a comma. -/
def writeItems : List Json → String
  | [] => ""
  | item :: rest => "," ++ write item ++ writeItems rest

/-- The further members of an object, each after a comma. -/
def writeFields : List (String × Json) → String
  | [] => ""
  | (name, value) :: rest => "," ++ writeText name ++ ":" ++ write value ++ writeFields rest

end

end ClusterOperator.Json
