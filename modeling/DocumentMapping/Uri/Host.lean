import DocumentMapping.Uri.DomainName
import DocumentMapping.Uri.NumericHost

/-!
# Hosts

The host of a special address is a numeric address of one of the two families, or a domain name,
which is written in lower-case ASCII. The host of any other address is kept as it is, with its
controls encoded.
-/

namespace DocumentMapping.Uri

/-- The written host of a special address. -/
def specialHost? (text : List Char) : Option (List Char) :=
  match text with
  | '[' :: inner =>
    if inner.getLast? = some ']' then (ipv6? inner.dropLast).map ipv6Chars else none
  | _ => do
    let decoded ← String.fromUTF8? ⟨(percentDecode text).toArray⟩
    let name ← domain? decoded.toList
    if endsInNumber name then (ipv4? name).map ipv4Chars else some name

/-- Whether a character cannot be part of a host that is kept as it is. -/
def isForbiddenInHost (c : Char) : Bool :=
  ['\x00', '\t', '\n', '\r', ' ', '#', '/', ':', '<', '>', '?', '@', '[', '\\', ']', '^',
    '|'].contains c

/-- The written host of an address that is not special. -/
def opaqueHost? (text : List Char) : Option (List Char) :=
  match text with
  | '[' :: inner =>
    if inner.getLast? = some ']' then (ipv6? inner.dropLast).map ipv6Chars else none
  | _ => if text.any isForbiddenInHost then none else some (percentEncode isControl text)

end DocumentMapping.Uri
