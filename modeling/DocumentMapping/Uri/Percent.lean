import DocumentMapping.Json.Reader

/-!
# Percent encoding

Each part of an address has a set of characters that it cannot hold as they are. Those, all controls
and all characters beyond ASCII are written as the bytes of their encoding, each as a percent sign
and two digits.
-/

namespace DocumentMapping.Uri

/-- Whether a character is encoded in every part. -/
def isControl (c : Char) : Bool :=
  c.toNat < 0x20 || 0x7e < c.toNat

/-- Whether a character is encoded in a fragment. -/
def inFragmentSet (c : Char) : Bool :=
  isControl c || [' ', '"', '<', '>', '\x60'].contains c

/-- Whether a character is encoded in a query. -/
def inQuerySet (special : Bool) (c : Char) : Bool :=
  isControl c || [' ', '"', '#', '<', '>'].contains c || (special && c = '\'')

/-- Whether a character is encoded in a path. -/
def inPathSet (c : Char) : Bool :=
  inFragmentSet c || ['#', '?', '\x7b', '\x7d'].contains c

/-- Whether a character is encoded in a user name or password. -/
def inUserSet (c : Char) : Bool :=
  inPathSet c || ['/', ':', ';', '=', '@', '[', '\\', ']', '^', '|'].contains c

/-- A byte as a percent sign and two digits in upper case. -/
def percentByte (byte : UInt8) : List Char :=
  ['%', (hexDigit (byte.toNat / 16)).toUpper, (hexDigit (byte.toNat % 16)).toUpper]

/-- Encodes the characters that a part cannot hold. -/
def percentEncode (mustEncode : Char → Bool) (text : List Char) : List Char :=
  text.flatMap fun c =>
    if mustEncode c then (String.utf8EncodeChar c).flatMap percentByte else [c]

/-- The bytes of a text with encoded bytes decoded. A percent sign without two digits is kept. -/
def percentDecode : List Char → List UInt8
  | [] => []
  | '%' :: a :: b :: rest =>
    match Json.hexValue? a, Json.hexValue? b with
    | some high, some low => UInt8.ofNat (high * 16 + low) :: percentDecode rest
    | _, _ => String.utf8EncodeChar '%' ++ percentDecode (a :: b :: rest)
  | c :: rest => String.utf8EncodeChar c ++ percentDecode rest

end DocumentMapping.Uri
