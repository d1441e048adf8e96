import DocumentMapping.Uri.Percent
import DocumentMapping.Text.Split

/-!
# Paths of addresses

A path is a list of segments with a slash in front of each. A segment of one dot stands for its
place and one of two dots for its parent. A segment that names a drive, by a letter and a colon or
bar, is not left by two dots.
-/

namespace DocumentMapping.Uri

/-- Whether a segment stands for its parent. -/
def isDoubleDot (segment : List Char) : Bool :=
  ["..", ".%2e", "%2e.", "%2e%2e"].contains (String.ofList (segment.map Char.toLower))

/-- Whether a segment stands for itself. -/
def isSingleDot (segment : List Char) : Bool :=
  [".", "%2e"].contains (String.ofList (segment.map Char.toLower))

/-- Whether a segment names a drive: a letter and a colon or bar. -/
def isDrive : List Char → Bool
  | [letter, mark] => letter.isAlpha && (mark = ':' || mark = '|')
  | _ => false

/-- Whether a segment names a drive up to its first backslash. -/
def beginsWithDrive (segment : List Char) : Bool :=
  isDrive (segment.take 2) && (segment.drop 2).head?.all (· = '\\')

/-- The segments without the last one, unless that is a drive. -/
def parentOf (segments : List (List Char)) : List (List Char) :=
  if segments.getLast?.any beginsWithDrive then segments else segments.dropLast

/-- Resolves the dot segments of a path and encodes the others. The drive at the start of the path
of a file gets a colon. -/
def resolveSegments (file : Bool) : List (List Char) → List (List Char) → List (List Char)
  | done, [] => done
  | done, segment :: rest =>
    let last := if rest.isEmpty then [[]] else []
    if isDoubleDot segment then resolveSegments file (parentOf done ++ last) rest
    else if isSingleDot segment then resolveSegments file (done ++ last) rest
    else if file && done.isEmpty && isDrive segment then
      resolveSegments file [segment.take 1 ++ [':']] rest
    else resolveSegments file (done ++ [percentEncode inPathSet segment]) rest

/-- Cuts a path into segments; special addresses take backslashes for slashes. -/
def segmentsOf (special : Bool) (text : List Char) : List (List Char) :=
  Text.splitOn '/' (if special then text.map fun c => if c = '\\' then '/' else c else text)

/-- Segments with a slash in front of each. -/
def joinSegments (segments : List (List Char)) : List Char :=
  segments.flatMap ('/' :: ·)

end DocumentMapping.Uri
