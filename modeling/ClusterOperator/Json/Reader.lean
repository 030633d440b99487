import ClusterOperator.Json.Pass
import ClusterOperator.Json.Shape

/-!
# Reading JSON text

`Json.readAs` reads a text as a document of a shape, and `Json.read?` as any document. The fuel of
the readers is the length of the text, which they cannot use up.

A fault of a member that its record finds shows where the record ends, and so does one of the
record: `OpenFault` keeps such a fault until then.
-/

namespace ClusterOperator.Json

/-- A fault that has its place, or one that gets it where the value that it is in ends. -/
inductive OpenFault where
  | placed (fault : Fault)
  | open (reason : FaultReason) (cursor : Cursor)

/-- A fault that has its place. -/
def settled {α : Type} (result : Except Fault α) : Except OpenFault α := result.mapError .placed

/-- A fault that has no place yet. -/
def openFault {α : Type} (reason : FaultReason) (cursor : Cursor) : Except OpenFault α :=
  .error (.open reason cursor)

/-- The cursor after the end of a list, as far as one is next. -/
def closeList (cursor : Cursor) : Cursor :=
  let cursor := cursor.skipGap
  if cursor.peek = some ']' then cursor.skip
  else if cursor.peek = some ',' then cursor.skip.skipGap
  else cursor

/-- The cursor after the end of an object, as far as one is next. -/
def closeObject (cursor : Cursor) : Cursor :=
  let cursor := cursor.skipGap
  if cursor.peek = some '\x7d' then cursor.skip else cursor

/-- Gives open faults their place, where the value ends. -/
def settle {α : Type} (close : Cursor → Cursor) (part : Except OpenFault α) : Except OpenFault α :=
  part.mapError fun
    | .open reason cursor => .placed ⟨reason, (close cursor).place⟩
    | placed => placed

/-! ## Single values -/

/-- What is wrong with a value that should be another one. -/
def mismatch {α : Type} (expected : String) (cursor : Cursor) : Except Fault α :=
  let found := fun (what : String) (after : Cursor) => after.fault (.mismatch what expected)
  match cursor.peek with
  | some 'n' => do found "null" (← cursor.skip.readWord ['u', 'l', 'l'])
  | some 't' => do
      found ("boolean " ++ FaultReason.marked "true") (← cursor.skip.readWord ['r', 'u', 'e'])
  | some 'f' => do
      found ("boolean " ++ FaultReason.marked "false")
        (← cursor.skip.readWord ['a', 'l', 's', 'e'])
  | some '"' => do
      let (text, after) ← readText cursor.skip
      found ("string " ++ Text.quote text) after
  | some '[' => found "sequence" cursor
  | some '\x7b' => found "map" cursor
  | some c =>
      if c = '-' ∨ c.isDigit then do
        let (number, after) ← readNumber cursor
        found number.describe after
      else cursor.faultAhead .valueExpected
  | none => cursor.faultAhead .endInValue

/-- Reads `null`. -/
def readNull (cursor : Cursor) : Except Fault (Json × Cursor) := do
  pure (.null, ← cursor.skip.readWord ['u', 'l', 'l'])

/-- Reads a truth value. -/
def readBool (cursor : Cursor) : Except Fault (Json × Cursor) :=
  match cursor.peek with
  | some 't' => do pure (.bool true, ← cursor.skip.readWord ['r', 'u', 'e'])
  | some 'f' => do pure (.bool false, ← cursor.skip.readWord ['a', 'l', 's', 'e'])
  | _ => mismatch "a boolean" cursor

/-- Whether a number or its sign is next. -/
def atNumber (cursor : Cursor) : Bool := cursor.peek.any fun c => c = '-' || c.isDigit

/-- Reads an integer within bounds, both included. -/
def readInteger (name : String) (low high : Int) (cursor : Cursor) :
    Except Fault (Json × Cursor) := do
  if atNumber cursor then
    let (number, after) ← readNumber cursor
    match number with
    | .whole value =>
        if low ≤ value ∧ value ≤ high then pure (.integer value, after)
        else after.fault (.notAllowed number.describe name)
    | _ => after.fault (.mismatch number.describe name)
  else mismatch name cursor

/-- Reads a text, which is called something where another value is found. -/
def readTextAs (kind : String) (cursor : Cursor) : Except Fault (String × Cursor) :=
  if cursor.peek = some '"' then readText cursor.skip else mismatch kind cursor

/-- Reads a word. -/
def readKnown (known : List String) (cursor : Cursor) : Except Fault (String × Cursor) := do
  let cursor := cursor.skipGap
  if cursor.peek = none then cursor.faultAhead .endInValue
  else
    let (word, after) ← readTextAs "variant identifier" cursor
    if word ∈ known then pure (word, after) else after.fault (.unknownWord word known)

/-- The depth below a list or an object. -/
def enter (depth : Nat) (cursor : Cursor) : Except Fault Nat :=
  if depth ≤ 1 then cursor.faultAhead .tooDeep else .ok (depth - 1)

/-- Reads the colon after the name of a member. -/
def readColon (cursor : Cursor) : Except Fault Cursor :=
  let cursor := cursor.skipGap
  match cursor.peek with
  | some ':' => .ok cursor.skip
  | some _ => cursor.faultAhead .colonExpected
  | none => cursor.faultAhead .endInObject

/-- Reads a word that is written as an object, after its opening brace. -/
def readWordMember (known : List String) (cursor : Cursor) : Except Fault (String × Cursor) := do
  let (word, after) ← readKnown known cursor
  let value := (← readColon after).skipGap
  let after ← match value.peek with
    | none => value.faultAhead .endInValue
    | some 'n' => value.skip.readWord ['u', 'l', 'l']
    | some _ => mismatch "unit" value
  let close := after.skipGap
  match close.peek with
  | some '\x7d' => pure (word, close.skip)
  | some _ => close.fault .valueExpected
  | none => close.fault .endInObject

def readWordAs (known : List String) (depth : Nat) (cursor : Cursor) :
    Except Fault (Json × Cursor) := do
  match cursor.peek with
  | some '"' =>
      let (word, after) ← readKnown known cursor
      pure (.string word, after)
  | some '\x7b' =>
      let _ ← enter depth cursor
      let (word, after) ← readWordMember known cursor.skip
      pure (.string word, after)
  | _ => cursor.faultAhead .valueExpected

/-- Reads a number of 32 bits or a text. -/
def readNumberOrText (name : String) (depth : Nat) (cursor : Cursor) :
    Except OpenFault (Json × Cursor) :=
  match cursor.peek with
  | some '"' => settled do
      let (text, after) ← readText cursor.skip
      pure (.string text, after)
  | some '[' => do
      let _ ← settled (enter depth cursor)
      settle closeList (openFault (.mismatch "sequence" name) cursor.skip)
  | some '\x7b' => do
      let _ ← settled (enter depth cursor)
      settle closeObject (openFault (.mismatch "map" name) cursor.skip)
  | _ => settled do
      if atNumber cursor then
        let (number, after) ← readNumber cursor
        match number with
        | .whole value =>
            if -2147483648 ≤ value ∧ value ≤ 2147483647 then pure (.integer value, after)
            else after.fault (.notAllowed number.describe "a 32-bit integer")
        | _ => after.fault (.mismatch number.describe name)
      else mismatch name cursor

/-! ## Lists and objects -/

/-- Whether another item is next in a list, and the cursor at it. -/
def nextItem (isFirst : Bool) (cursor : Cursor) : Except Fault (Bool × Cursor) :=
  let cursor := cursor.skipGap
  match cursor.peek with
  | none => cursor.faultAhead .endInList
  | some c =>
      if c = ']' then .ok (false, cursor)
      else if isFirst then .ok (true, cursor)
      else if c = ',' then
        let cursor := cursor.skip.skipGap
        match cursor.peek with
        | none => cursor.faultAhead .endInValue
        | some ']' => cursor.faultAhead .trailingComma
        | some _ => .ok (true, cursor)
      else cursor.faultAhead .listCommaExpected

/-- The name of the next member of an object, and the cursor after it, or the cursor at the end. -/
def nextName (isFirst : Bool) (cursor : Cursor) : Except Fault (Option String × Cursor) := do
  let readName := fun cursor : Cursor => do
    let (name, after) ← readText cursor.skip
    pure (some name, after)
  let cursor := cursor.skipGap
  match cursor.peek with
  | none => cursor.faultAhead .endInObject
  | some c =>
      if c = '\x7d' then pure (none, cursor)
      else if isFirst then
        if c = '"' then readName cursor else cursor.faultAhead .keyExpected
      else if c = ',' then
        let cursor := cursor.skip.skipGap
        match cursor.peek with
        | none => cursor.faultAhead .endInValue
        | some '"' => readName cursor
        | some '\x7d' => cursor.faultAhead .trailingComma
        | some _ => cursor.faultAhead .keyExpected
      else cursor.faultAhead .objectCommaExpected

def endList (cursor : Cursor) : Except Fault Cursor :=
  let cursor := cursor.skipGap
  match cursor.peek with
  | some ']' => .ok cursor.skip
  | some ',' =>
      let cursor := cursor.skip.skipGap
      cursor.faultAhead (if cursor.peek = some ']' then .trailingComma else .trailingCharacters)
  | some _ => cursor.faultAhead .trailingCharacters
  | none => cursor.faultAhead .endInList

/-- The first required member that is not there. -/
def missing? (members : List (Member Shape)) (given : List (String × Json)) : Option String :=
  (members.find? fun member =>
    member.presence = .required && given.all fun field => field.1 ≠ member.name).map Member.name

/-- How many members a record has, in words. -/
def countText (members : List (Member Shape)) : String :=
  toString members.length ++ (if members.length = 1 then " element" else " elements")

mutual

/-- Reads a value of a shape, given how deep it may be. -/
def readShape : Nat → Nat → Shape → Cursor → Except OpenFault (Json × Cursor)
  | 0, _, _, cursor => settled (cursor.fault .tooDeep)
  | fuel + 1, depth, shape, cursor =>
      let cursor := cursor.skipGap
      let isNull := cursor.peek = some 'n'
      match shape with
      | .optional shape =>
          if isNull then settled (readNull cursor) else readShape fuel depth shape cursor
      | shape =>
          if cursor.peek = none then settled (cursor.faultAhead .endInValue)
          else
            match shape with
            | .bool => settled (readBool cursor)
            | .signed bits =>
                let half : Int := Nat.pow 2 (bits - 1)
                settled (readInteger ("i" ++ toString bits) (-half) (half - 1) cursor)
            | .unsigned bits =>
                settled (readInteger ("u" ++ toString bits) 0 (Nat.pow 2 bits - 1) cursor)
            | .text => settled do
                let (text, after) ← readTextAs "a string" cursor
                pure (.string text, after)
            | .checked refusedAsMember kind problem? => do
                let (text, after) ← settled (readTextAs kind cursor)
                match problem? text with
                | none => pure (.string text, after)
                | some reason =>
                    if refusedAsMember then openFault reason after
                    else settled (after.fault reason)
            | .numberOrText name => readNumberOrText name depth cursor
            | .word known => settled (readWordAs known depth cursor)
            | .list item => readList fuel depth item "a sequence" cursor
            | .map value => readMap fuel depth value "a map" cursor
            | .record kind name members => readRecord fuel depth kind name members cursor
            | .optional shape => readShape fuel depth shape cursor
            | .anything =>
                if cursor.peek = some '"' then settled do
                  let (text, after) ← readText cursor.skip
                  pure (.string text, after)
                else if cursor.peek = some '[' then
                  readList fuel depth .anything "any value" cursor
                else if cursor.peek = some '\x7b' then
                  readMap fuel depth .anything "any value" cursor
                else if isNull then settled (readNull cursor)
                else if atNumber cursor then settled do
                  let (number, after) ← readNumber cursor
                  pure (number.toJson, after)
                else if cursor.peek = some 't' ∨ cursor.peek = some 'f' then
                  settled (readBool cursor)
                else settled (cursor.faultAhead .valueExpected)

def readList : Nat → Nat → Shape → String → Cursor → Except OpenFault (Json × Cursor)
  | 0, _, _, _, cursor => settled (cursor.fault .tooDeep)
  | fuel + 1, depth, item, expected, cursor =>
      if cursor.peek = some '[' then do
        let below ← settled (enter depth cursor)
        let (items, after) ← settle closeList (readItems fuel below item [] cursor.skip)
        pure (.array items, ← settled (endList after))
      else settled (mismatch expected cursor)

/-- Reads the items of a list from one on; those before stand in reverse. -/
def readItems : Nat → Nat → Shape → List Json → Cursor → Except OpenFault (List Json × Cursor)
  | 0, _, _, _, cursor => settled (cursor.fault .tooDeep)
  | fuel + 1, depth, item, done, cursor => do
      let (more, cursor) ← settled (nextItem done.isEmpty cursor)
      if more then
        let (value, cursor) ← readShape fuel depth item cursor
        readItems fuel depth item (value :: done) cursor
      else pure (done.reverse, cursor)

/-- Reads an object whose members all have one shape. -/
def readMap : Nat → Nat → Shape → String → Cursor → Except OpenFault (Json × Cursor)
  | 0, _, _, _, cursor => settled (cursor.fault .tooDeep)
  | fuel + 1, depth, value, expected, cursor =>
      if cursor.peek = some '\x7b' then do
        let below ← settled (enter depth cursor)
        let (fields, after) ← settle closeObject (readEntries fuel below value [] cursor.skip)
        pure (.object fields, after.skip)
      else settled (mismatch expected cursor)

/-- Reads the members of an object from one on; those before stand in reverse. -/
def readEntries : Nat → Nat → Shape → List (String × Json) → Cursor →
    Except OpenFault (List (String × Json) × Cursor)
  | 0, _, _, _, cursor => settled (cursor.fault .tooDeep)
  | fuel + 1, depth, shape, done, cursor => do
      match ← settled (nextName done.isEmpty cursor) with
      | (none, cursor) => pure (done.reverse, cursor)
      | (some name, cursor) =>
          let cursor ← settled (readColon cursor)
          let (value, cursor) ← readShape fuel depth shape cursor
          readEntries fuel depth shape ((name, value) :: done) cursor

def readRecord : Nat → Nat → RecordKind → String → List (Member Shape) → Cursor →
    Except OpenFault (Json × Cursor)
  | 0, _, _, _, _, cursor => settled (cursor.fault .tooDeep)
  | fuel + 1, depth, kind, name, members, cursor =>
      let title := Shape.title kind name
      if cursor.peek = some '\x7b' then do
        let below ← settled (enter depth cursor)
        let (fields, after) ←
          settle closeObject (readMembers fuel below kind members true [] cursor.skip)
        pure (.object fields, after.skip)
      else if cursor.peek = some '[' ∧ kind ≠ .gathering then do
        let below ← settled (enter depth cursor)
        let (fields, after) ← settle closeList <|
          if kind = .strict then
            readPlaces fuel below (title ++ " with " ++ countText members) members 0 [] cursor.skip
          else openFault (.mismatch "sequence" title) cursor.skip
        pure (.object fields, ← settled (endList after))
      else settled (mismatch title cursor)

/-- Reads the members of a record from one on; the known ones before stand in reverse. -/
def readMembers : Nat → Nat → RecordKind → List (Member Shape) → Bool → List (String × Json) →
    Cursor → Except OpenFault (List (String × Json) × Cursor)
  | 0, _, _, _, _, _, cursor => settled (cursor.fault .tooDeep)
  | fuel + 1, depth, kind, members, isFirst, done, cursor => do
      match ← settled (nextName isFirst cursor) with
      | (none, cursor) =>
          match kind, missing? members done with
          | .lenient, _ => pure (done.reverse, cursor)
          | _, some name => openFault (.missing name) cursor
          | _, none => pure (done.reverse, cursor)
      | (some name, cursor) =>
          match members.find? fun member => member.name = name with
          | some ⟨_, _, shape⟩ =>
              if kind ≠ .lenient ∧ done.any fun field => field.1 = name then
                openFault (.repeated name) cursor
              else
                let cursor ← settled (readColon cursor)
                let (value, cursor) ← readShape fuel depth shape cursor
                readMembers fuel depth kind members false ((name, value) :: done) cursor
          | none =>
              let cursor ← settled (readColon cursor)
              if kind = .gathering then
                let (_, cursor) ← readShape fuel depth .anything cursor
                readMembers fuel depth kind members false done cursor
              else
                let cursor ← settled (pass cursor)
                readMembers fuel depth kind members false done cursor

/-- Reads the members of a record that is written as a list, from one on, which is at an index;
those before stand in reverse. -/
def readPlaces : Nat → Nat → String → List (Member Shape) → Nat → List (String × Json) → Cursor →
    Except OpenFault (List (String × Json) × Cursor)
  | 0, _, _, _, _, _, cursor => settled (cursor.fault .tooDeep)
  | _ + 1, _, _, [], _, done, cursor => pure (done.reverse, cursor)
  | fuel + 1, depth, expected, ⟨name, presence, shape⟩ :: members, index, done, cursor => do
      match ← settled (nextItem done.isEmpty cursor) with
      | (true, cursor) =>
          let (value, cursor) ← readShape fuel depth shape cursor
          readPlaces fuel depth expected members (index + 1) ((name, value) :: done) cursor
      | (false, cursor) =>
          if presence = .defaulted then
            readPlaces fuel depth expected members (index + 1) done cursor
          else openFault (.wrongLength index expected) cursor

end

/-- How many lists and objects a value can be in. -/
def deepest : Nat := 128

/-- Reads a text as a document of a shape: one value with nothing but gaps around it. -/
def readAs (shape : Shape) (text : String) : Except Fault Json := do
  let cursor := Cursor.start text.toList
  match readShape (4 * cursor.rest.length + 8) deepest shape cursor with
  | .error (.placed fault) => .error fault
  | .error (.open reason cursor) => cursor.fault reason
  | .ok (json, cursor) =>
      let cursor := cursor.skipGap
      if cursor.rest = [] then pure json else cursor.faultAhead .trailingCharacters

/-- Reads a text as any document. -/
def read? (text : String) : Option Json := (readAs .anything text).toOption

end ClusterOperator.Json
