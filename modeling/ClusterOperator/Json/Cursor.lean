import ClusterOperator.Json.Fault

/-!
# Reading positions

A cursor is the rest of a text with the place where it begins. Readers take a cursor and give what
they have read with the cursor after it, or a fault.
-/

namespace ClusterOperator.Json

/-- The rest of a text, and its place. -/
structure Cursor where
  rest : List Char
  place : Place

namespace Cursor

/-- The beginning of a text. -/
def start (text : List Char) : Cursor := ⟨text, ⟨1, 0⟩⟩

/-- The character that is next. -/
def peek (cursor : Cursor) : Option Char := cursor.rest.head?

/-- The place after a character. -/
def placeAfter (place : Place) (c : Char) : Place :=
  if c = '\n' then ⟨place.line + 1, 0⟩ else ⟨place.line, place.column + c.utf8Size⟩

/-- The character that is next, and the cursor after it. -/
def next? (cursor : Cursor) : Option (Char × Cursor) :=
  match cursor.rest with
  | [] => none
  | c :: rest => some (c, ⟨rest, placeAfter cursor.place c⟩)

/-- The cursor after the character that is next. -/
def skip (cursor : Cursor) : Cursor := (cursor.next?.map Prod.snd).getD cursor

/-- The place after some characters. -/
def placeAfterAll (place : Place) (text : List Char) : Place := text.foldl placeAfter place

/-- The place after some bytes, which may end inside a character. -/
def placeAfterBytes (place : Place) : Nat → List Char → Place
  | 0, _ => place
  | _ + 1, [] => place
  | count + 1, c :: rest =>
      if c.utf8Size ≤ count + 1 then
        placeAfterBytes (placeAfter place c) (count + 1 - c.utf8Size) rest
      else ⟨place.line, place.column + (count + 1)⟩
termination_by count => count
decreasing_by
  have := c.utf8Size_pos
  omega

/-- The place after the next byte, or at the end. -/
def ahead (cursor : Cursor) : Place := placeAfterBytes cursor.place 1 cursor.rest

/-- The place at the end of the text. -/
def last (cursor : Cursor) : Place := placeAfterAll cursor.place cursor.rest

/-- The characters of a kind that are next, and the cursor after them. -/
def span (isMember : Char → Bool) (cursor : Cursor) : List Char × Cursor :=
  let members := cursor.rest.takeWhile isMember
  (members, ⟨cursor.rest.dropWhile isMember, placeAfterAll cursor.place members⟩)

/-- The four characters that may stand between the parts of a document. -/
def isGap (c : Char) : Bool := c = ' ' || c = '\n' || c = '\t' || c = '\x0d'

/-- The cursor after the gap that is next. -/
def skipGap (cursor : Cursor) : Cursor := (cursor.span isGap).2

def fault {α : Type} (cursor : Cursor) (reason : FaultReason) : Except Fault α :=
  .error ⟨reason, cursor.place⟩

/-- A fault in the character that is next. -/
def faultAhead {α : Type} (cursor : Cursor) (reason : FaultReason) : Except Fault α :=
  .error ⟨reason, cursor.ahead⟩

/-- Reads the letters of a word. -/
def readWord (cursor : Cursor) : List Char → Except Fault Cursor
  | [] => .ok cursor
  | letter :: letters =>
      match cursor.next? with
      | none => cursor.fault .endInValue
      | some (c, after) =>
          if c = letter then after.readWord letters else cursor.faultAhead .wordExpected

end Cursor

end ClusterOperator.Json
