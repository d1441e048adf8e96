import DocumentMapping.Uri.Host
import DocumentMapping.Uri.Path

/-!
# Addresses of resources

An absolute address is read leniently and kept in its canonical text: the scheme and a domain in
lower case, the usual number after the host left out, dot segments resolved and characters encoded
where a part cannot hold them. A relative address is refused.
-/

namespace DocumentMapping

/-- An absolute address in its canonical text. -/
structure Uri where
  text : String
deriving DecidableEq, Repr, Inhabited

namespace Uri

/-- The schemes with a path of segments and a required host, and the number that usually follows
their host. -/
def usualNumber? (scheme : List Char) : Option Nat :=
  [("http", 80), ("ws", 80), ("https", 443), ("wss", 443), ("ftp", 21)].lookup
    (String.ofList scheme)

/-- The text without controls and blanks at its ends and without line breaks and tabs. -/
def cleaned (text : List Char) : List Char :=
  let blank (c : Char) : Bool := c.toNat ≤ 0x20
  let trimmed := ((text.dropWhile blank).reverse.dropWhile blank).reverse
  trimmed.filter fun c => c ≠ '\t' && c ≠ '\n' && c ≠ '\r'

/-- Reads a scheme and its colon. -/
def scheme? (text : List Char) : Option (List Char × List Char) :=
  let isSchemeChar (c : Char) : Bool := c.isAlphanum || c = '+' || c = '-' || c = '.'
  match text.head?, text.dropWhile isSchemeChar with
  | some first, ':' :: rest =>
    if first.isAlpha then some ((text.takeWhile isSchemeChar).map Char.toLower, rest) else none
  | _, _ => none

/-- Whether a character ends the host of an address. -/
def endsAuthority (special : Bool) (c : Char) : Bool :=
  c = '/' || c = '?' || c = '#' || (special && c = '\\')

/-- The written query and fragment. -/
def tailChars (special : Bool) (text : List Char) : List Char :=
  let query := text.takeWhile (· ≠ '#')
  let fragment := text.dropWhile (· ≠ '#')
  percentEncode (inQuerySet special) (query.drop 1) |>
    (if query.isEmpty then fun _ => [] else ('?' :: ·)) |>
    (· ++ if fragment.isEmpty then [] else '#' :: percentEncode inFragmentSet (fragment.drop 1))

/-- Splits a text into a path and what follows from the query or fragment on. -/
def splitPath (text : List Char) : List Char × List Char :=
  let inPath (c : Char) : Bool := c ≠ '?' && c ≠ '#'
  (text.takeWhile inPath, text.dropWhile inPath)

/-- The written user name and password of the text before the last at sign. -/
def userChars (text : List Char) : List Char :=
  let name := percentEncode inUserSet (text.takeWhile (· ≠ ':'))
  let password := percentEncode inUserSet ((text.dropWhile (· ≠ ':')).drop 1)
  if name.isEmpty && password.isEmpty then []
  else name ++ (if password.isEmpty then [] else ':' :: password) ++ ['@']

/-- Reads the user before the last at sign of an authority. Gives the written user and what follows;
an empty user must have a host after it or end the address. -/
def readUser? (special : Bool) (text : List Char) : Option (List Char × List Char) :=
  let authority := text.takeWhile (!endsAuthority special ·)
  if !authority.contains '@' then some ([], text)
  else
    let afterSign := authority.reverse.takeWhile (· ≠ '@')
    let user := authority.take (authority.length - afterSign.length - 1)
    let rest := text.drop (user.length + 1)
    if user.isEmpty && rest.head?.any (endsAuthority special) then none
    else some (userChars user, rest)

/-- Splits a text after its host: before the end of the authority, or before a colon that does not
stand in brackets. -/
def splitHost (special inBrackets : Bool) : List Char → List Char × List Char
  | [] => ([], [])
  | c :: rest =>
    if endsAuthority special c || (c = ':' && !inBrackets) then ([], c :: rest)
    else
      let inBrackets := if c = '[' then true else if c = ']' then false else inBrackets
      let (host, rest) := splitHost special inBrackets rest
      (c :: host, rest)

/-- Reads the number after a host. Gives the written number, left out when it is empty or the usual
one, and what follows. -/
def readNumber? (usual : Option Nat) : List Char → Option (List Char × List Char)
  | ':' :: text =>
    let digits := text.takeWhile Char.isDigit
    let rest := text.dropWhile Char.isDigit
    let number := digitsValue digits
    if 65535 < number || rest.head?.any (!endsAuthority true ·) then none
    else if digits.isEmpty || usual = some number then some ([], rest)
    else some (':' :: digitChars number, rest)
  | text => some ([], text)

/-- The written path after an authority. A special address always has one. -/
def pathAfterHost (special : Bool) (path : List Char) : List Char :=
  if path.isEmpty && !special then []
  else
    let inner :=
      if path.head?.any fun c => c = '/' || (special && c = '\\') then path.drop 1 else path
    joinSegments (resolveSegments false [] (segmentsOf special inner))

/-- The written host of an authority. It can be empty where no user stands before it and no number
behind it. -/
def authorityHost? (special : Bool) (user hostText rest : List Char) : Option (List Char) :=
  if hostText.isEmpty then
    if special || !user.isEmpty || rest.head? = some ':' then none else some []
  else if special then specialHost? hostText
  else opaqueHost? hostText

/-- The written address after the double slash of its authority. -/
def withAuthority? (scheme text : List Char) : Option (List Char) := do
  let usual := usualNumber? scheme
  let special := usual.isSome
  let (user, rest) ← readUser? special text
  let (hostText, rest) := splitHost special false rest
  let host ← authorityHost? special user hostText rest
  let (number, rest) ← readNumber? usual rest
  let (path, tail) := splitPath rest
  some (scheme ++ [':', '/', '/'] ++ user ++ host ++ number ++ pathAfterHost special path ++
    tailChars special tail)

/-- Reads the host of a file, which may be left out. Gives the written host and the text of the
path; after a host, the path is taken without its first slash. -/
def fileHost? (text : List Char) : Option (List Char × List Char) :=
  let isSlash (c : Char) : Bool := c = '/' || c = '\\'
  match text with
  | first :: second :: after =>
    if isSlash first && isSlash second then
      let hostText := after.takeWhile (!endsAuthority true ·)
      let rest := after.drop hostText.length
      if isDrive hostText then some ([], after)
      else if hostText.isEmpty then some ([], rest)
      else
        (specialHost? hostText).map fun host =>
          if host = "localhost".toList then ([], rest)
          else (host, if rest.head?.any isSlash then rest.drop 1 else rest)
    else some ([], if isSlash first then second :: after else text)
  | _ => some ([], text)

/-- The written address of a file, after the scheme. A drive at the start of the path takes the
place of the host, and a path does not begin with empty segments. -/
def file? (text : List Char) : Option (List Char) := do
  let (host, rest) ← fileHost? text
  let (path, tail) := splitPath rest
  let segments := resolveSegments true [] (segmentsOf true path)
  let host := if segments.head?.any isDrive then [] else host
  let kept := segments.dropWhile (·.isEmpty)
  some ("file://".toList ++ host ++ joinSegments (if kept.isEmpty then [[]] else kept) ++
    tailChars true tail)

/-- The written address of a scheme without an authority: a path of segments, or a path that is
kept as it is. -/
def withoutAuthority (scheme text : List Char) : List Char :=
  let (path, tail) := splitPath text
  let pathChars :=
    match path with
    | '/' :: inner =>
      let segments := resolveSegments false [] (segmentsOf false inner)
      let joined := joinSegments segments
      if joined.take 2 = ['/', '/'] then '/' :: '.' :: joined else joined
    | _ => percentEncode isControl path
  scheme ++ ':' :: pathChars ++ tailChars false tail

/-- The canonical form of an absolute address. -/
def canonical? (text : List Char) : Option (List Char) := do
  let (scheme, rest) ← scheme? (cleaned text)
  if scheme = "file".toList then file? rest
  else if (usualNumber? scheme).isSome then
    withAuthority? scheme (rest.dropWhile fun c => c = '/' || c = '\\')
  else
    match rest with
    | '/' :: '/' :: rest => withAuthority? scheme rest
    | _ => some (withoutAuthority scheme rest)

/-- Reads an absolute address. -/
def read? (text : List Char) : Option Uri :=
  (canonical? text).map fun chars => ⟨String.ofList chars⟩

end Uri

end DocumentMapping
