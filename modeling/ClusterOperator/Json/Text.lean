import ClusterOperator.Json.Cursor
import ClusterOperator.Text.Basic

/-!
# Texts in JSON text

Reading a text after its opening quote, and passing over one. A text that is read must not have half
of a pair of surrogates; one that is passed over may. Every step takes a character at least, so that
the fuel is what is left of the text.
-/

namespace ClusterOperator.Json

/-- Reads the four digits of a character's number. -/
def readHexWord (cursor : Cursor) : Except Fault (Nat × Cursor) :=
  let digits := cursor.rest.take 4
  let word := digits.foldlM (fun word c => (Text.hexValue? c).map fun digit => 16 * word + digit) 0
  match digits.length, word with
  | 4, some word => .ok (word, ⟨cursor.rest.drop 4, Cursor.placeAfterAll cursor.place digits⟩)
  | _, _ =>
      if (String.ofList digits).utf8ByteSize < 4 then .error ⟨.endInText, cursor.last⟩
      else .error ⟨.badEscape, Cursor.placeAfterBytes cursor.place 4 cursor.rest⟩

def isHighSurrogate (word : Nat) : Bool := 0xD800 ≤ word && word < 0xDC00

def isLowSurrogate (word : Nat) : Bool := 0xDC00 ≤ word && word < 0xE000

/-- Reads the second half of a pair of surrogates. -/
def readLowSurrogate (high : Nat) (cursor : Cursor) : Except Fault (Char × Cursor) :=
  match cursor.next? with
  | none => cursor.fault .endInText
  | some ('\\', after) =>
      match after.next? with
      | none => after.fault .endInText
      | some ('u', digits) => do
          let (low, rest) ← readHexWord digits
          if isLowSurrogate low then
            pure (Char.ofNat (0x10000 + (high - 0xD800) * 0x400 + (low - 0xDC00)), rest)
          else rest.fault .loneSurrogate
      | some _ => after.faultAhead .cutEscape
  | some _ => cursor.faultAhead .cutEscape

/-- Reads a character that is given by its number. -/
def readNumbered (cursor : Cursor) : Except Fault (Char × Cursor) := do
  let (word, rest) ← readHexWord cursor
  if isLowSurrogate word then rest.fault .loneSurrogate
  else if isHighSurrogate word then readLowSurrogate word rest
  else pure (Char.ofNat word, rest)

/-- The character that a letter after a backslash stands for. -/
def escaped? (letter : Char) : Option Char :=
  [('"', '"'), ('\\', '\\'), ('/', '/'), ('b', '\x08'), ('f', '\x0c'), ('n', '\n'), ('r', '\x0d'),
    ('t', '\t')].lookup letter

/-- Reads what follows a backslash. -/
def readEscape (cursor : Cursor) : Except Fault (Char × Cursor) :=
  match cursor.next? with
  | none => cursor.fault .endInText
  | some (letter, after) =>
      if letter = 'u' then readNumbered after
      else
        match escaped? letter with
        | some c => .ok (c, after)
        | none => cursor.faultAhead .badEscape

/-- Reads the rest of a text, given what may be read of it; the characters before stand in reverse.
-/
def readTextFrom : List Char → List Char → Cursor → Except Fault (String × Cursor)
  | [], _, cursor => cursor.fault .endInText
  | _ :: fuel, done, cursor =>
      match cursor.next? with
      | none => cursor.fault .endInText
      | some ('"', after) => .ok (String.ofList done.reverse, after)
      | some ('\\', after) => do
          let (c, rest) ← readEscape after
          readTextFrom fuel (c :: done) rest
      | some (c, after) =>
          if c.toNat < 0x20 then cursor.faultAhead .controlCharacter
          else readTextFrom fuel (c :: done) after

/-- Reads a text after its opening quote. -/
def readText (cursor : Cursor) : Except Fault (String × Cursor) :=
  readTextFrom cursor.rest [] cursor

/-- Passes over the rest of a text, given what may be read of it. -/
def passTextFrom : List Char → Cursor → Except Fault Cursor
  | [], cursor => cursor.fault .endInText
  | _ :: fuel, cursor =>
      match cursor.next? with
      | none => cursor.fault .endInText
      | some ('"', after) => .ok after
      | some ('\\', after) =>
          match after.next? with
          | none => after.fault .endInText
          | some (letter, rest) =>
              if letter = 'u' then
                (readHexWord rest).bind fun (_, rest) => passTextFrom fuel rest
              else if (escaped? letter).isSome then passTextFrom fuel rest
              else after.faultAhead .badEscape
      | some (c, after) =>
          if c.toNat < 0x20 then cursor.fault .controlCharacter else passTextFrom fuel after

/-- Passes over a text after its opening quote. -/
def passText (cursor : Cursor) : Except Fault Cursor := passTextFrom cursor.rest cursor

end ClusterOperator.Json
