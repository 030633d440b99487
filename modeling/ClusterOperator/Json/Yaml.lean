import ClusterOperator.Json.Writer

/-!
# Documents as YAML

The block form of a document: one member or item a line, members indented under their name by two
blanks, items of a list below their name without any. A text stands without quotes where it cannot
be taken for anything else.
-/

namespace ClusterOperator.Json

/-- Words that are no texts without quotes. -/
def yamlWords : List String :=
  ["~", "null", "true", "false", "yes", "no", "on", "off", "y", "n", ".inf", ".nan"]

/-- Whether a text could be taken for a number. -/
def looksNumeric (text : List Char) : Bool :=
  match text.dropWhile fun c => c ∈ ['+', '-', '.'] with
  | c :: _ => c.isDigit
  | [] => false

/-- Whether a text has marks that only quotes take the meaning from: a colon before a blank or at
the end, or a number sign after a blank. -/
def hasMarks : List Char → Bool
  | [] => false
  | [':'] => true
  | ':' :: ' ' :: _ => true
  | ' ' :: '#' :: _ => true
  | _ :: rest => hasMarks rest

/-- The characters that mean something at the beginning of a text. -/
def yamlIndicators : List Char :=
  ['-', '?', ':', ',', '[', ']', '\x7b', '\x7d', '#', '&', '*', '!', '|', '>', '\'', '"', '%', '@',
    Char.ofNat 0x60]

/-- Whether a text can stand without quotes. -/
def isPlain (text : String) : Bool :=
  let chars := text.toList
  match chars with
  | [] => false
  | first :: _ =>
      first ∉ yamlIndicators && first ≠ ' ' && chars.getLast? ≠ some ' ' && !hasMarks chars &&
        !looksNumeric chars && String.ofList (chars.map Char.toLower) ∉ yamlWords

/-- The written form of a text: plain, between single quotes with those inside written twice, or as
in JSON where it has characters that cannot stand on a line. -/
def yamlText (text : String) : String :=
  if text.toList.any fun c => c.toNat < 0x20 || c.toNat = 0x7F then writeText text
  else if isPlain text then text
  else
    "'" ++ String.ofList (text.toList.flatMap fun c => if c = '\'' then [c, c] else [c]) ++ "'"

/-- A line after some blanks. -/
def indented (depth : Nat) (line : String) : String :=
  String.ofList (List.replicate depth ' ') ++ line

/-- The written form of a value on a line, unless it takes lines of its own. -/
def yamlInline? : Json → Option String
  | string text => some (yamlText text)
  | array [] => some "[]"
  | object [] => some "\x7b\x7d"
  | array _ => none
  | object _ => none
  | other => some other.write

/-- Lines with a mark before the first one, in the place of two blanks. -/
def withDash (depth : Nat) : List String → List String
  | [] => []
  | line :: rest =>
      indented depth ("- " ++ String.ofList (line.toList.drop (depth + 2))) :: rest

mutual

/-- The lines of a value at a depth. -/
def yamlLines (depth : Nat) : Json → List String
  | object fields => yamlFields depth fields
  | array items => yamlItems depth items
  | other => [indented depth (yamlInline? other |>.getD "")]

/-- The lines of the members of an object. -/
def yamlFields (depth : Nat) : List (String × Json) → List String
  | [] => []
  | (name, value) :: rest =>
      (match yamlInline? value, value with
        | some text, _ => [indented depth (yamlText name ++ ": " ++ text)]
        | none, array items => indented depth (yamlText name ++ ":") :: yamlItems depth items
        | none, value => indented depth (yamlText name ++ ":") :: yamlLines (depth + 2) value) ++
        yamlFields depth rest

/-- The lines of the items of a list. -/
def yamlItems (depth : Nat) : List Json → List String
  | [] => []
  | item :: rest =>
      (match yamlInline? item with
        | some text => [indented depth ("- " ++ text)]
        | none => withDash depth (yamlLines (depth + 2) item)) ++
        yamlItems depth rest

end

/-- A document as YAML, with a line break after every line. -/
def toYaml (json : Json) : String :=
  match yamlInline? json with
  | some text => text ++ "\n"
  | none => String.join ((yamlLines 0 json).map (· ++ "\n"))

end ClusterOperator.Json
