import ClusterOperator.Text.Basic
import ClusterOperator.Url.Host

/-!
# URLs

URLs of the `http` scheme, read as browsers read them: a backslash is a slash, dots in the
path are resolved, characters that may not stand in a part are percent-encoded, and the default port
is left out.

The written form of a URL is `Url.text`.
-/

namespace ClusterOperator

/-- Who asks, in the written form. -/
structure UrlUser where
  name : String := ""
  /-- The password, unless it is empty. -/
  password : Option String := none
  deriving DecidableEq

/-- A URL of the `http` scheme, with all parts in their written form. -/
structure Url where
  user : UrlUser
  host : Host
  /-- The port, unless it is the default one. -/
  port : Option Nat
  /-- The segments of the path, of which there is always one. -/
  path : List String
  query : Option String
  fragment : Option String
  deriving DecidableEq

/-- The written form of a user. -/
def UrlUser.text (user : UrlUser) : String :=
  let written := user.name ++ user.password.elim "" fun password => ":" ++ password
  if written = "" then "" else written ++ "@"

namespace Url

/-- The written form of a URL. -/
def text (url : Url) : String :=
  "http://" ++ url.user.text ++ url.host.text ++
    (url.port.elim "" fun port => ":" ++ toString port) ++
    "/" ++ "/".intercalate url.path ++
    (url.query.elim "" fun query => "?" ++ query) ++
    (url.fragment.elim "" fun fragment => "#" ++ fragment)

/-- Whether a character ends a segment. -/
def isSlash (c : Char) : Bool := c = '/' || c = '\\'

/-- A text without the blanks and control characters around it and without the line breaks and tabs
inside it. -/
def trimmed (text : List Char) : List Char :=
  let isOuter := fun c : Char => c.toNat ≤ 0x20
  let inner := ((text.dropWhile isOuter).reverse.dropWhile isOuter).reverse
  inner.filter fun c => c ∉ ['\t', '\n', '\r']

/-- What stands before the first character of a kind, and what stands after it. There is nothing
after where no such character is there. -/
def cut (isMark : Char → Bool) (text : List Char) : List Char × Option (List Char) :=
  match text.dropWhile fun c => !isMark c with
  | [] => (text, none)
  | _ :: rest => (text.takeWhile fun c => !isMark c, some rest)

/-- What stands before the last character of a kind, if there is one, and what stands after it. -/
def cutLast (isMark : Char → Bool) (text : List Char) : Option (List Char) × List Char :=
  match cut isMark text.reverse with
  | (after, before) => (before.map List.reverse, after.reverse)

/-- The parts between the characters of a kind. -/
def split (isMark : Char → Bool) : List Char → List (List Char)
  | [] => [[]]
  | c :: rest =>
      if isMark c then [] :: split isMark rest
      else
        match split isMark rest with
        | [] => [[c]]
        | part :: parts => (c :: part) :: parts

/-! ## Users, hosts and ports -/

/-- Reads a user: a name, and after a colon a password. -/
def readUser (text : List Char) : UrlUser :=
  let (name, password) := cut (· = ':') text
  let written := fun part => String.ofList (Percent.encode Percent.inUser part)
  { name := written name
    password := (password.filter (· ≠ [])).map written }

/-- What stands before the colon of a port, which is not in brackets, and what stands after it. -/
def cutPort (inBrackets : Bool) : List Char → List Char × Option (List Char)
  | [] => ([], none)
  | c :: rest =>
      if c = ':' ∧ !inBrackets then ([], some rest)
      else
        let inside := c = '[' || inBrackets && c ≠ ']'
        let (name, port) := cutPort inside rest
        (c :: name, port)

/-- Reads a port; the inner result is none where the port is the default one. -/
def port? (text : Option (List Char)) : Option (Option Nat) :=
  match text with
  | none => some none
  | some [] => some none
  | some digits => do
      guard (digits.all Char.isDigit)
      let port := Text.decimalValue digits
      guard (port < 65536)
      pure (if port = 80 then none else some port)

/-! ## Paths -/

/-- Whether a segment means the directory itself. -/
def isDot (segment : List Char) : Bool :=
  String.ofList (segment.map Char.toLower) ∈ [".", "%2e"]

/-- Whether a segment means the directory above. -/
def isDoubleDot (segment : List Char) : Bool :=
  String.ofList (segment.map Char.toLower) ∈ ["..", ".%2e", "%2e.", "%2e%2e"]

/-- The written form of a segment. -/
def writtenSegment (segment : List Char) : String :=
  String.ofList (Percent.encode Percent.inPath segment)

/-- Whether a segment is a letter with a colon or a bar, as the names of drives are. -/
def isDrive (segment : String) : Bool :=
  match segment.toList with
  | [letter, mark] => letter.isAlpha && (mark = ':' || mark = '|')
  | _ => false

/-- The path of the directory above, in reverse. Nothing is above a drive. -/
def parent : List String → List String
  | [] => []
  | segment :: above => if isDrive segment then segment :: above else above

/-- Resolves the dots in the segments of a path, given those before it in reverse. Dots at the end
leave an empty segment. -/
def resolve (above : List String) : List (List Char) → List String
  | [] => above
  | segment :: rest =>
      let above :=
        if isDoubleDot segment then parent above
        else if isDot segment then above
        else writtenSegment segment :: above
      match rest with
      | [] => if isDoubleDot segment || isDot segment then "" :: above else above
      | rest => resolve above rest

/-- The segments of a path, given what stands after its first slash. -/
def pathSegments (text : List Char) : List String := (resolve [] (split isSlash text)).reverse

/-! ## Reading -/

/-- The text after the scheme, if that is `http`. -/
def afterScheme? (text : List Char) : Option (List Char) :=
  if (text.take 5).map Char.toLower = ['h', 't', 't', 'p', ':'] then some (text.drop 5) else none

def read? (text : String) : Option Url := do
  let rest ← afterScheme? (trimmed text.toList)
  let (rest, fragment) := cut (· = '#') rest
  let (rest, query) := cut (· = '?') rest
  let (authority, path) := cut isSlash (rest.dropWhile isSlash)
  let (who, place) := cutLast (· = '@') authority
  let (name, port) := cutPort false place
  pure
    { user := readUser (who.getD [])
      host := ← Host.read? name
      port := ← port? port
      path := pathSegments (path.getD [])
      query := query.map fun query => String.ofList (Percent.encode Percent.inQuery query)
      fragment :=
        fragment.map fun fragment => String.ofList (Percent.encode Percent.inFragment fragment) }

/-- The URL without its user, who is asked for in another part of a request. A user whose name
cannot be read stays, as does one without a name whose password cannot be read. -/
def withoutUser (url : Url) : Url :=
  let readable := fun part : String => (Percent.decode? part.toList).isSome
  let leaves := readable url.user.name &&
    (url.user.name ≠ "" || url.user.password.any readable)
  if leaves then { url with user := {} } else url

/-- The most bytes of a URL that a request can be sent to. -/
def longestSent : Nat := 65534

/-- Whether a request can be sent to a URL: not every host name can stand in a request. -/
def isSendable (url : Url) : Bool :=
  url.text.utf8ByteSize ≤ longestSent &&
    url.host.text.toList.all fun c => c ∉ ['"', Char.ofNat 0x60, '\x7b', '\x7d']

end Url

end ClusterOperator
