import ClusterOperator.Text.Basic
import ClusterOperator.Text.Letter

/-!
# Patterns

The regular expressions that the value of a field can be compared with. Only whether a pattern can
be compiled matters here, so that reading one keeps what decides about it: the mode, the groups that
are open, the names that are taken, and whether there is something that can be repeated.

A pattern is compiled for text: in the mode for ASCII nothing may match a part of a character, and
in the mode for all characters the ends of words cannot be told.
-/

namespace ClusterOperator

namespace Pattern

/-- How the parts of a pattern are read. -/
structure Mode where
  /-- Whether blanks and comments between the parts are skipped. -/
  spaced : Bool := false
  /-- Whether the parts are about all characters, not only about those of ASCII. -/
  unicode : Bool := true

/-- The text after the blanks and comments at its start; a comment ends with its line. -/
def skipFrom (inComment : Bool) : List Char → List Char
  | [] => []
  | c :: rest =>
      if inComment then skipFrom (c ≠ '\n') rest
      else if Text.isBlank c then skipFrom false rest
      else if c = '#' then skipFrom true rest
      else c :: rest

/-- The text after what the mode lets pass. -/
def Mode.skip (mode : Mode) (text : List Char) : List Char :=
  if mode.spaced then skipFrom false text else text

/-! ## Single characters and sets of them -/

/-- What a part of a pattern matches. -/
inductive Atom where
  /-- One character. -/
  | literal (c : Char)
  /-- The characters of a kind. -/
  | kind
  /-- A place between characters. -/
  | place

/-- Reads a number of hexadecimal digits. -/
def hexNumber? (mode : Mode) : Nat → Nat → List Char → Option (Nat × List Char)
  | 0, value, text => some (value, text)
  | digits + 1, value, c :: rest =>
      (Text.hexValue? c).bind fun digit =>
        hexNumber? mode digits (16 * value + digit) (mode.skip rest)
  | _ + 1, _, [] => none

/-- Whether a character stands for itself after a backslash. -/
def isEscapable (c : Char) : Bool := c.toNat < 0x80 && !c.isAlphanum && c ∉ ['<', '>']

/-- How many digits a character is written with by its number, by the letter before them. -/
def hexWidth? (letter : Char) : Option Nat :=
  [('x', 2), ('u', 4), ('U', 8)].lookup letter

/-- The character that a letter after a backslash stands for. -/
def control? (letter : Char) : Option Char :=
  [('a', '\x07'), ('f', '\x0c'), ('n', '\n'), ('r', '\x0d'), ('t', '\t'), ('v', '\x0b')].lookup
    letter

/-- Reads what follows a backslash. -/
def escape? (mode : Mode) : List Char → Option (Atom × List Char)
  | [] => none
  | c :: rest =>
      match hexWidth? c with
      | some width => do
          let (code, rest) ← hexNumber? mode width 0 (mode.skip rest)
          guard (code.isValidChar ∧ (mode.unicode ∨ c ≠ 'x' ∨ code < 0x80))
          pure (.literal (Char.ofNat code), rest)
      | none =>
          if c ∈ ['p', 'P'] then do
            let letter ← (mode.skip rest).head?
            guard (mode.unicode ∧ letter.toLower ∈ ['c', 'l', 'm', 'n', 'p', 's', 'z'])
            pure (.kind, mode.skip (mode.skip rest).tail)
          else if c ∈ ['d', 's', 'w'] then some (.kind, rest)
          else if c ∈ ['D', 'S', 'W'] then if mode.unicode then some (.kind, rest) else none
          else if c ∈ ['A', 'z'] then some (.place, rest)
          else if c ∈ ['b', 'B', '<', '>'] then
            if mode.unicode then none else some (.place, rest)
          else if isEscapable c then some (.literal c, rest)
          else (control? c).map fun control => (.literal control, rest)

/-! ## Sets in brackets -/

/-- The names of the kinds of characters in ASCII. -/
def asciiKinds : List String :=
  ["alnum", "alpha", "ascii", "blank", "cntrl", "digit", "graph", "lower", "print", "punct",
    "space", "upper", "word", "xdigit"]

/-- Reads the name of a kind between `[:` and `:]`, and whether the other characters are meant. -/
def asciiKind? : List Char → Option (Bool × List Char)
  | '[' :: ':' :: rest =>
      let (others, rest) := match rest with
        | '^' :: rest => (true, rest)
        | _ => (false, rest)
      let name := rest.takeWhile fun c => c ≠ ':'
      match rest.dropWhile fun c => c ≠ ':' with
      | ':' :: ']' :: rest =>
          if String.ofList name ∈ asciiKinds then some (others, rest) else none
      | _ => none
  | _ => none

/-- Reads a member of a set. -/
def member? (mode : Mode) : List Char → Option (Atom × List Char)
  | [] => none
  | '\\' :: rest => escape? mode rest
  | c :: rest => some (.literal c, rest)

/-- Whether a character can be a member of a set. -/
def Mode.canList (mode : Mode) (c : Char) : Bool := mode.unicode || c.toNat < 0x80

/-- Reads a member of a set, or a range between two characters. -/
def range? (mode : Mode) (text : List Char) : Option (List Char) := do
  let (first, rest) ← member? mode text
  let rest := mode.skip rest
  let single := match first with
    | .literal c => if mode.canList c then some rest else none
    | .kind => some rest
    | .place => none
  match rest with
  | [] => none
  | '-' :: after =>
      let next := (mode.skip after).head?
      if next = some ']' ∨ next = some '-' then single
      else
        let (last, rest) ← member? mode (mode.skip after)
        match first, last with
        | .literal low, .literal high =>
            if low ≤ high ∧ mode.canList low ∧ mode.canList high then pure rest else none
        | _, _ => none
  | _ => single

/-- The text after the hyphens that a set begins with; each is a member. -/
def dropHyphens (mode : Mode) : Nat → List Char → List Char
  | 0, text => text
  | fuel + 1, '-' :: rest => dropHyphens mode fuel (mode.skip rest)
  | _ + 1, text => text

/-- Reads the beginning of a set after its bracket. A closing bracket that comes first is a member.
-/
def openSet? (mode : Mode) (text : List Char) : Option (List Char) := do
  let text := mode.skip text
  let text ←
    match text with
    | '^' :: rest => if mode.unicode then some (mode.skip rest) else none
    | _ => some text
  let rest := dropHyphens mode text.length text
  let rest := match text, rest with
    | ']' :: after, _ => mode.skip after
    | _, rest => rest
  if rest = [] then none else pure rest

/-- Reads a set up to its closing bracket, given how many sets are open. -/
def set? (mode : Mode) : Nat → Nat → List Char → Option (List Char)
  | 0, _, _ => none
  | fuel + 1, depth, text =>
      match mode.skip text with
      | [] => none
      | ']' :: rest => if depth ≤ 1 then some rest else set? mode fuel (depth - 1) rest
      | '&' :: '&' :: rest => set? mode fuel depth rest
      | '-' :: '-' :: rest => set? mode fuel depth rest
      | '~' :: '~' :: rest => set? mode fuel depth rest
      | '[' :: rest =>
          match asciiKind? ('[' :: rest) with
          | some (others, rest) =>
              if others && !mode.unicode then none else set? mode fuel depth rest
          | none => (openSet? mode rest).bind (set? mode fuel (depth + 1))
      | text => (range? mode text).bind (set? mode fuel depth)

/-! ## Groups -/

/-- Reads the name of a group up to its closing angle bracket. -/
def groupName? (text : List Char) : Option (List Char × List Char) :=
  let name := text.takeWhile fun c => c ≠ '>'
  match name, text.dropWhile fun c => c ≠ '>' with
  | first :: others, _ :: rest =>
      let canFollow := fun c => c ∈ ['_', '.', '[', ']'] || Text.isLetter c || Text.isNumeral c
      if (first = '_' ∨ Text.isLetter first) ∧ others.all canFollow then some (name, rest)
      else none
  | _, _ => none

def Mode.set (mode : Mode) (flag : Char) (value : Bool) : Mode :=
  if flag = 'x' then { mode with spaced := value }
  else if flag = 'u' then { mode with unicode := value }
  else mode

/-- Reads flags up to a colon or a closing parenthesis: each at most once, those after a hyphen
unset. -/
def flags? (mode : Mode) (seen : List Char) : List Char → Option (Mode × List Char × List Char)
  | [] => none
  | c :: rest =>
      if c = ':' ∨ c = ')' then
        if seen.head? = some '-' then none else some (mode, seen, c :: rest)
      else if c ∈ seen then none
      else if c = '-' then flags? mode (c :: seen) rest
      else if c ∈ ['i', 'm', 's', 'U', 'u', 'R', 'x'] then
        flags? (mode.set c ('-' ∉ seen)) (c :: seen) rest
      else none

/-! ## Whole patterns -/

/-- How far a pattern has been read. -/
structure Progress where
  mode : Mode := {}
  /-- The modes outside of the groups that are open. -/
  outer : List Mode := []
  /-- The names of the groups. -/
  names : List (List Char) := []
  /-- Whether there is something before that can be repeated. -/
  repeatable : Bool := false

/-- Reads the beginning of a group after its parenthesis, or flags for the rest of the group that is
open. -/
def Progress.group? (progress : Progress) (text : List Char) : Option (Progress × List Char) :=
  let mode := progress.mode
  let enter := fun mode names =>
    { mode, outer := progress.mode :: progress.outer, names, repeatable := false : Progress }
  let named := fun text => do
    let (name, rest) ← groupName? text
    guard (name ∉ progress.names)
    pure (enter mode (name :: progress.names), rest)
  match mode.skip text with
  | '?' :: 'P' :: '<' :: rest => named rest
  | '?' :: '<' :: c :: rest => if c = '=' ∨ c = '!' then none else named (c :: rest)
  | '?' :: rest =>
      match flags? mode [] rest with
      | some (mode, seen, ')' :: rest) =>
          if seen = [] then none else some ({ progress with mode, repeatable := false }, rest)
      | some (mode, _, _ :: rest) => some (enter mode progress.names, rest)
      | _ => none
  | rest => some (enter mode progress.names, rest)

def Progress.part? (progress : Progress) : List Char → Option (Progress × List Char)
  | [] => none
  | c :: rest =>
      let mode := progress.mode
      let item := { progress with repeatable := true }
      match c with
      | '(' => progress.group? rest
      | ')' =>
          match progress.outer with
          | [] => none
          | mode :: outer => some ({ item with mode, outer }, rest)
      | '|' => some ({ progress with repeatable := false }, rest)
      | '[' => do
          let rest ← openSet? mode rest
          let rest ← set? mode (rest.length + 1) 1 rest
          pure (item, rest)
      | '?' => if progress.repeatable then some (item, rest) else none
      | '*' => if progress.repeatable then some (item, rest) else none
      | '+' => if progress.repeatable then some (item, rest) else none
      | '\x7b' => none
      | '\\' => do
          let (_, rest) ← escape? mode rest
          pure (item, rest)
      | '.' => if mode.unicode then some (item, rest) else none
      | _ => some (item, rest)

/-- Whether the rest of a pattern can be read. -/
def Progress.canFinish : Nat → Progress → List Char → Bool
  | 0, _, _ => false
  | fuel + 1, progress, text =>
      match progress.mode.skip text with
      | [] => progress.outer.isEmpty
      | text =>
          match progress.part? text with
          | none => false
          | some (progress, rest) => progress.canFinish fuel rest

/-- Whether a text is a pattern. Counts of repetitions, which take braces, cannot stand in one. -/
def isValid (text : List Char) : Bool := Progress.canFinish (text.length + 1) {} text

end Pattern

end ClusterOperator
