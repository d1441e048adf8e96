import DocumentMapping.CommandLine.Arguments
import DocumentMapping.Mapping.Engine
import DocumentMapping.Rules.Reader

/-!
# The program

What the program answers to its arguments, given what its files and its standard input hold. Where
these are looked up is left open. An error is reported with what was being done and with its causes,
separated by colons.
-/

namespace DocumentMapping.CommandLine

/-- What the program leaves: its exit code and what it has printed. -/
structure Answer where
  exitCode : UInt8
  output : String
  errors : String
deriving DecidableEq, Repr

/-- What the program can look up in the monad `m`. A file that cannot be read gives the reason. -/
structure Surroundings (m : Type → Type) where
  file : String → m (Except String String)
  input : m String

/-- The text of an error and of its causes. -/
def errorChain : List String → String
  | [] => ""
  | [cause] => cause
  | cause :: rest => cause ++ ": " ++ errorChain rest

/-- The answer to arguments that do not follow the usage. -/
def usageError : Answer := ⟨2, "", ""⟩

/-- The answer after a success. -/
def success (output : String) : Answer := ⟨0, output, ""⟩

/-- The answer after a failure. -/
def failure (chain : List String) : Answer := ⟨1, "", "Error: " ++ errorChain chain ++ "\n"⟩

/-- The texts of an error of a mapping and of its cause. -/
def mappingChain (error : MappingError) : List String :=
  match error with
  | .grammar _ cause => [error.message, cause.message]
  | _ => [error.message]

/-- Reads a source document from its text. -/
def sourceOfText (text : String) : Except (List String) Node :=
  match Json.read text.toList with
  | .ok json => .ok (.ofJson json)
  | .error fault => .error ["parsing source JSON", fault.message text.toList]

/-- Reads a mapping document from the text of a file. -/
def documentOfText (file text : String) : Except (List String) MappingDocument :=
  (MappingDocument.read text).mapError fun fault =>
    ["parsing mapping file '" ++ file ++ "'", fault.message text.toList]

/-- A document whose target is a table if that is asked for. -/
def withTabular (document : MappingDocument) (isTabular : Bool) : MappingDocument :=
  { document with options :=
    { document.options with isTabular := document.options.isTabular || isTabular } }

/-- The answer of a mapping. -/
def mapAnswer (document : MappingDocument) (isPretty : Bool) (source : Node) : Answer :=
  match (document.map .empty source).1.result with
  | .ok target =>
    success ((if isPretty then target.indentedText else target.text) ++ "\n")
  | .error error => failure ("mapping failed" :: mappingChain error)

/-- A line for a value that a path selects. -/
def valueLine (selected : SelectedValue) : String :=
  selected.path.text ++ "\t" ++ selected.value.toJson.text ++ "\n"

/-- The answer with the values that a path selects. -/
def readAnswer (path : Path) (source : Node) : Answer :=
  if (path.select source).isEmpty then failure ["no values at " ++ path.text]
  else success (String.join ((path.select source).map valueLine))

/-- A line for an indexed element of a path. -/
def elementLine (entry : Nat × PathElement) : String :=
  "  " ++ toString entry.1 ++ ": " ++ entry.2.name ++ " " ++ entry.2.index.text ++ "\n"

/-- The answer with the parts of a path. -/
def parseAnswer (path : Path) : Answer :=
  success (path.text ++ "\n" ++ String.join (path.indexed.map elementLine))

/-- The texts of the refusal of a path. -/
def pathChain (text : String) (error : PathError) : List String :=
  ["invalid path '" ++ text ++ "'", error.message]

variable {m : Type → Type} [Monad m]

/-- The source document from a file or from the standard input. -/
def loadSource (surroundings : Surroundings m) (file : Option String) :
    m (Except (List String) Node) := do
  match file with
  | none => return sourceOfText (← surroundings.input)
  | some name =>
    match ← surroundings.file name with
    | .error reason => return .error ["reading source file '" ++ name ++ "'", reason]
    | .ok text => return sourceOfText text

/-- Answers with what becomes of the source document. -/
def answerWith (surroundings : Surroundings m) (file : Option String) (answer : Node → Answer) :
    m Answer := do
  match ← loadSource surroundings file with
  | .error chain => return failure chain
  | .ok source => return answer source

/-- Runs a command. -/
def Command.run (surroundings : Surroundings m) : Command → m Answer
  | .map source config isTabular isPretty => do
    match ← surroundings.file config with
    | .error reason => return failure ["reading mapping file '" ++ config ++ "'", reason]
    | .ok text =>
      match documentOfText config text with
      | .error chain => return failure chain
      | .ok document =>
        answerWith surroundings source (mapAnswer (withTabular document isTabular) isPretty)
  | .read path source =>
    match Path.ofString path with
    | .error error => return failure (pathChain path error)
    | .ok path => answerWith surroundings source (readAnswer path)
  | .parse path =>
    match Path.ofString path with
    | .error error => return failure (pathChain path error)
    | .ok path => return parseAnswer path

/-- Runs the program. -/
def run (surroundings : Surroundings m) (list : List String) : m Answer :=
  match Command.ofArguments? list with
  | none => return usageError
  | some command => command.run surroundings

end DocumentMapping.CommandLine
