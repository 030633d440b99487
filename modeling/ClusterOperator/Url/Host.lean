import ClusterOperator.HostName.Basic
import ClusterOperator.Text.Basic
import ClusterOperator.Url.Address

/-!
# Hosts of URLs

A host is given by a name or by an address. A name that ends in a number has to be an address. In a
name, characters can be percent-encoded.
-/

namespace ClusterOperator.Percent

/-! ## Percent encoding

Characters that may not stand in a part of a URL are written as the bytes of their UTF-8 form, each
as a percent sign and two hexadecimal digits. Which characters these are depends on the part.
-/

/-- The hexadecimal digit of a number below 16, with capitals. -/
def hexDigit (n : Nat) : Char :=
  if n < 10 then Char.ofNat ('0'.toNat + n) else Char.ofNat ('A'.toNat + (n - 10))

/-- The written form of a byte. -/
def encodeByte (byte : UInt8) : List Char :=
  ['%', hexDigit (byte.toNat / 16), hexDigit (byte.toNat % 16)]

/-- Control characters and all characters beyond ASCII, which are encoded in every part. -/
def isUnprintable (c : Char) : Bool := c.toNat < 0x20 || 0x7F ≤ c.toNat

/-- The characters that are encoded in a fragment. -/
def inFragment (c : Char) : Bool := isUnprintable c || c ∈ [' ', '"', '<', '>', Char.ofNat 0x60]

/-- The characters that are encoded in a path. -/
def inPath (c : Char) : Bool := inFragment c || c ∈ ['#', '?', '\x7b', '\x7d']

/-- The characters that are encoded in the name and the password of a user. -/
def inUser (c : Char) : Bool :=
  inPath c || c ∈ ['/', ':', ';', '=', '@', '[', '\\', ']', '^', '|']

/-- The characters that are encoded in a query. -/
def inQuery (c : Char) : Bool := isUnprintable c || c ∈ [' ', '"', '#', '<', '>', '\'']

/-- A text with some characters encoded. -/
def encode (escaped : Char → Bool) (text : List Char) : List Char :=
  text.flatMap fun c => if escaped c then (String.utf8EncodeChar c).flatMap encodeByte else [c]

/-- The bytes that a text stands for; a percent sign without two digits stands for itself. -/
def decodeBytes : List Char → List UInt8
  | [] => []
  | '%' :: high :: low :: rest =>
      match Text.hexValue? high, Text.hexValue? low with
      | some first, some second => UInt8.ofNat (16 * first + second) :: decodeBytes rest
      | _, _ => String.utf8EncodeChar '%' ++ decodeBytes (high :: low :: rest)
  | c :: rest => String.utf8EncodeChar c ++ decodeBytes rest
termination_by text => text.length

/-- The text that a text stands for, if its bytes are the UTF-8 form of one. -/
def decode? (text : List Char) : Option String :=
  String.fromUTF8? (ByteArray.mk (decodeBytes text).toArray)

end ClusterOperator.Percent

/-! ## Hosts -/

namespace ClusterOperator

/-- Where a URL leads. -/
inductive Host where
  | name (ascii : List Char)
  | ipv4 (address : Ipv4)
  | ipv6 (address : Ipv6)
  deriving DecidableEq

namespace Host

/-- The written form of a host. -/
def text : Host → String
  | name ascii => String.ofList ascii
  | ipv4 address => address.text
  | ipv6 address => "[" ++ address.text ++ "]"

def read? : List Char → Option Host
  | '[' :: rest => do
      guard (rest.getLast? = some ']')
      pure (ipv6 (← Ipv6.read? rest.dropLast))
  | text => do
      let decoded ← Percent.decode? text
      let ascii ← HostName.ascii? decoded.toList
      guard (ascii ≠ [])
      let parts := HostName.labels ascii
      if Ipv4.isMeant parts then pure (ipv4 (← Ipv4.ofParts? parts)) else pure (name ascii)

end Host

end ClusterOperator
