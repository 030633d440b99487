import ClusterOperator.CommandLine.Pattern
import ClusterOperator.Text.Basic

/-!
# Filters of the log

A filter is a list of directives, each of which says up to which level something is logged.
-/

namespace ClusterOperator

/-! ## Levels of the log

How much is logged. A level is read by its name, in whatever case, or by its number; without a
name only errors are meant.
-/

/-- How much is logged, each level with those before it. -/
inductive LogLevel where
  | off
  | error
  | warn
  | info
  | debug
  | trace
  deriving DecidableEq

namespace LogLevel

/-- The number of a level. -/
def rank : LogLevel → Nat
  | off => 0
  | error => 1
  | warn => 2
  | info => 3
  | debug => 4
  | trace => 5

/-- The name of a level. -/
def text : LogLevel → String
  | off => "off"
  | error => "error"
  | warn => "warn"
  | info => "info"
  | debug => "debug"
  | trace => "trace"

def all : List LogLevel := [off, error, warn, info, debug, trace]

/-- The level with a number. -/
def ofRank? (rank : Nat) : Option LogLevel := all.find? fun level => level.rank = rank

def read? (written : List Char) : Option LogLevel :=
  match (Text.readWord? 64 (String.ofList written)).bind ofRank? with
  | some level => some level
  | none =>
      if written = [] then some error
      else all.find? fun level => level.text = String.ofList (written.map Char.toLower)

end LogLevel

/-! ## Directives of the log

A directive says up to which level something is logged: everything, the lines of one part of the
program, those written during one kind of work, or those with certain fields. Work and fields stand
in brackets, the fields between braces; a field can be required to have a value.

The parts of a directive are found in its text without the blanks around it, but they are cut out of
the whole text at these places. With blanks at its start a directive therefore means something else
than it seems to, and where such a place is inside a character, the text cannot be cut at all.
-/

/-- Why a filter of the log cannot be used. -/
inductive LogFilterFault where
  /-- It is not written as filters are. -/
  | malformed
  /-- It would have to be cut inside a character. -/
  | torn
  deriving DecidableEq

/-- A field that lines have to have. -/
structure LogField where
  name : String
  /-- Whether the value of the field matters. -/
  hasValue : Bool
  deriving DecidableEq

namespace LogField

/-- Reads the digits of a number with a point among them or not. -/
def isDecimal (text : List Char) : Bool :=
  let whole := text.takeWhile Char.isDigit
  match text.dropWhile Char.isDigit with
  | [] => whole ≠ []
  | '.' :: fraction => fraction.all Char.isDigit && (whole ≠ [] || fraction ≠ [])
  | _ => false

/-- Whether a text is a number: digits with an exponent or not, or the name of a number without
digits. -/
def isNumber (text : List Char) : Bool :=
  let unsigned : List Char → List Char
    | c :: rest => if c = '+' ∨ c = '-' then rest else c :: rest
    | [] => []
  let text := (unsigned text).map Char.toLower
  String.ofList text ∈ ["inf", "infinity", "nan"] ||
    match text.dropWhile fun c => c ≠ 'e' with
    | [] => isDecimal text
    | _ :: exponent =>
        isDecimal (text.takeWhile fun c => c ≠ 'e') && unsigned exponent ≠ [] &&
          (unsigned exponent).all Char.isDigit

/-- Whether a text can be the value of a field: a number, or a pattern. -/
def isValue (text : List Char) : Bool := isNumber text || Pattern.isValid text

/-- Reads a field, which may have a value after an equals sign. -/
def read? (text : List Char) : Option LogField :=
  let name := String.ofList (text.takeWhile fun c => c ≠ '=')
  match text.dropWhile fun c => c ≠ '=' with
  | [] => if text = [] then none else some ⟨name, false⟩
  | _ :: rest => if isValue (rest.takeWhile fun c => c ≠ '=') then some ⟨name, true⟩ else none

end LogField

/-- A directive of a filter. -/
structure LogDirective where
  /-- The beginning of the names of the parts of the program that it is about. -/
  target : Option String := none
  /-- The kind of work that it is about. -/
  work : Option String := none
  /-- The fields that a line has to have. -/
  fields : List LogField := []
  level : LogLevel := .trace

namespace LogDirective

/-! ### Reading -/

/-- What stands at a place in a text, in bytes from one place up to another one. -/
def slice (text : String) (start stop : Nat) : Except LogFilterFault (List Char) :=
  let bytes := text.toUTF8.extract start stop
  let isCut := fun place => (String.Pos.Raw.mk place).isValid text
  match isCut start && isCut stop, String.fromUTF8? bytes with
  | true, some part => .ok part.toList
  | _, _ => .error .torn

/-- Where in a directive its reader is; the places are those where a part begins. -/
inductive Place where
  | start
  /-- In a level, or in a target. -/
  | word
  | work (start : Nat)
  | field (start : Nat)
  /-- After the fields. -/
  | fields
  /-- After the bracket. -/
  | bracket
  | level (start : Nat)

/-- Whether a character can stand at the beginning of a directive. -/
def canStart (c : Char) : Bool := c ∈ ['-', ':', '_'] || Text.isLetter c || Text.isNumeral c

/-- The reader after one more character, which stands at a place `here` of the text. -/
def step (text : String) (here : Nat) (c : Char) :
    Place × LogDirective → Except LogFilterFault (Place × LogDirective)
  | (.start, directive) =>
      if c = '[' then .ok (.work (here + 1), directive)
      else if canStart c then .ok (.word, directive)
      else .error .malformed
  | (.word, directive) =>
      if c = '=' ∨ c = '[' then do
        let target ← slice text 0 here
        let next := if c = '=' then Place.level (here + 1) else .work (here + 1)
        pure (next, { directive with target := some (String.ofList target) })
      else .ok (.word, directive)
  | (.work start, directive) =>
      if c = ']' then do
        let work ← slice text start here
        pure (.bracket, { directive with work := some (String.ofList work) })
      else if c = '\x7b' then do
        let work ← slice text start here
        let work := if work = [] then none else some (String.ofList work)
        pure (.field (here + 1), { directive with work })
      else .ok (.work start, directive)
  | (.field start, directive) =>
      if c = '\x7d' then do
        match LogField.read? (← slice text start here) with
        | some field => pure (.fields, { directive with fields := directive.fields ++ [field] })
        | none => .error .malformed
      else .ok (.field start, directive)
  | (.fields, directive) => if c = ']' then .ok (.bracket, directive) else .error .malformed
  | (.bracket, directive) =>
      if c = '=' then .ok (.level (here + 1), directive) else .error .malformed
  | (.level start, directive) => .ok (.level start, directive)

/-- The reader after some characters, the first of which stands at a place `here` of the text. -/
def steps (text : String) (here : Nat) :
    List Char → Place × LogDirective → Except LogFilterFault (Place × LogDirective)
  | [], state => .ok state
  | c :: rest, state => (step text here c state).bind (steps text (here + c.utf8Size) rest)

/-- What has been read at the end of a text. -/
def finish (text : String) : Place × LogDirective → Except LogFilterFault LogDirective
  | (.word, directive) =>
      match LogLevel.read? text.toList with
      | some level => .ok { directive with level }
      | none => .ok { directive with target := some text }
  | (.bracket, directive) => .ok directive
  | (.level start, directive) => do
      let written ← slice text start text.utf8ByteSize
      if written = [] then pure directive
      else
        match LogLevel.read? written with
        | some level => pure { directive with level }
        | none => .error .malformed
  | _ => .error .malformed

def read (text : String) : Except LogFilterFault LogDirective :=
  (steps text 0 (Text.trim text.toList) (.start, {})).bind (finish text)

/-! ### Meaning -/

/-- Whether a directive is about lines whatever work is going on and whatever values their fields
have. -/
def isStatic (directive : LogDirective) : Bool :=
  directive.work.isNone && directive.fields.all fun field => !field.hasValue

/-- Whether a directive says something about the lines of a part of the program that have certain
fields. -/
def covers (target : String) (present : List String) (directive : LogDirective) : Bool :=
  directive.isStatic && directive.target.all (fun start => target.startsWith start) &&
    directive.fields.all fun field => field.name ∈ present

/-- How specific a directive is compared with another one: first by the length of its target, then
by the number of its fields, and then by their names. -/
def compareSpecificity (left right : LogDirective) : Ordering :=
  let length := fun directive : LogDirective => directive.target.map String.utf8ByteSize
  let names := fun directive : LogDirective => directive.fields.map LogField.name
  (compare (length left) (length right)).then <|
    (compare left.fields.length right.fields.length).then <|
      (compare left.target right.target).then (compare (names left) (names right))

end LogDirective

/-! ## Log filters

Which lines of the log are wanted, as a list of directives separated by commas. The most specific
directive that a line falls under decides, and of two that are the same but for their level the
later one.
-/

/-- The directives of a filter. -/
abbrev LogFilter := List LogDirective

namespace LogFilter

/-- The filter that counts where none is given, or a malformed one. -/
def standard : LogFilter := [{ level := .info }]

/-- The parts of a text between commas. -/
def parts : List Char → List (List Char)
  | [] => [[]]
  | c :: rest =>
      if c = ',' then [] :: parts rest
      else
        match parts rest with
        | [] => [[c]]
        | part :: others => (c :: part) :: others

/-- Reads a filter. Without directives only errors are logged. -/
def read (written : String) : Except LogFilterFault LogFilter := do
  let texts := (parts written.toList).filter fun part => part ≠ []
  match ← texts.mapM fun part => LogDirective.read (String.ofList part) with
  | [] => pure [{ level := .error }]
  | directives => pure directives

/-- The directive that decides about a line. -/
def decisive? (filter : LogFilter) (target : String) (fields : List String) :
    Option LogDirective :=
  (filter.filter (LogDirective.covers target fields)).foldl
    (fun best directive =>
      match best with
      | none => some directive
      | some held =>
          if (directive.compareSpecificity held).isGE then some directive else some held)
    none

/-- Whether a line is logged. -/
def allows (filter : LogFilter) (target : String) (fields : List String) (level : LogLevel) :
    Bool :=
  (filter.decisive? target fields).any fun directive => level.rank ≤ directive.level.rank

end LogFilter

end ClusterOperator
