/-!
# Arguments of the command line

There are three commands, one to map a document, one to print the values that a path selects, and
one to parse a path. Options are written long or short; short ones can be joined, and the value of
one can follow it directly. A double hyphen ends the options. The option for more log output is
admitted anywhere.
-/

namespace DocumentMapping.CommandLine

/-- What the program is asked to do. -/
inductive Command where
  /-- Map a document; without a source file it is read from the standard input. -/
  | map (source : Option String) (config : String) (isTabular isPretty : Bool)
  /-- Print the values that a path selects. -/
  | read (path : String) (source : Option String)
  /-- Parse a path. -/
  | parse (path : String)
deriving DecidableEq, Repr

/-- An option of a command. -/
structure OptionKind where
  long : String
  short : Option Char
  takesValue : Bool
  repeats : Bool
deriving DecidableEq, Repr

/-- The option for more log output. -/
def verbose : OptionKind := ⟨"verbose", some 'v', false, true⟩

/-- The option that names the source file. -/
def source : OptionKind := ⟨"source", some 's', true, false⟩

/-- The option that names the mapping document. -/
def config : OptionKind := ⟨"config", some 'c', true, false⟩

/-- The option that makes the target a table. -/
def tabular : OptionKind := ⟨"tabular", none, false, false⟩

/-- The option for output in several lines. -/
def pretty : OptionKind := ⟨"pretty", some 'p', false, false⟩

/-- The options and the other arguments that have been given. -/
structure Given where
  /-- Options by their long names, the last one first; flags have an empty value. -/
  options : List (String × String)
  /-- The other arguments in order. -/
  rest : List String
deriving DecidableEq, Repr

namespace Given

/-- Nothing. -/
def none : Given := ⟨[], []⟩

/-- Adds an option, unless it has been given already and may not be repeated. -/
def addOption (given : Given) (kind : OptionKind) (value : String) : Option Given :=
  if !kind.repeats && given.options.any (·.1 = kind.long) then Option.none
  else some { given with options := (kind.long, value) :: given.options }

/-- Adds another argument. -/
def addRest (given : Given) (argument : String) : Given :=
  { given with rest := given.rest ++ [argument] }

/-- The value of an option. -/
def value? (given : Given) (kind : OptionKind) : Option String :=
  (given.options.find? (·.1 = kind.long)).map Prod.snd

/-- Whether an option has been given. -/
def has (given : Given) (kind : OptionKind) : Bool :=
  (given.value? kind).isSome

end Given

/-- Whether an argument is read as options. -/
def looksLikeOption (argument : String) : Bool :=
  match argument.toList with
  | '-' :: _ :: _ => true
  | _ => false

/-- The value of an option from the arguments that follow it. -/
def followingValue : List String → Option (String × List String)
  | [] => none
  | argument :: rest => if looksLikeOption argument then none else some (argument, rest)

/-- The part before the first equals sign, and the part behind it if there is one. -/
def splitAtEquals (text : List Char) : List Char × Option (List Char) :=
  match text.dropWhile (· ≠ '=') with
  | [] => (text, none)
  | _ :: value => (text.takeWhile (· ≠ '='), some value)

/-- Takes a long option without its hyphens, and the arguments that follow it. -/
def takeLong (kinds : List OptionKind) (given : Given) (text : List Char)
    (rest : List String) : Option (Given × List String) := do
  let (name, attached) := splitAtEquals text
  let kind ← kinds.find? (·.long = String.ofList name)
  match kind.takesValue, attached with
  | true, some value => (given.addOption kind (String.ofList value)).map (·, rest)
  | true, none => do
    let (value, rest) ← followingValue rest
    (given.addOption kind value).map (·, rest)
  | false, none => (given.addOption kind "").map (·, rest)
  | false, some _ => none

/-- The value that follows a short option in the same argument. -/
def attachedValue : List Char → List Char
  | '=' :: value => value
  | value => value

/-- Takes joined short options, and the arguments that follow them. -/
def takeShort (kinds : List OptionKind) (given : Given) :
    List Char → List String → Option (Given × List String)
  | [], rest => some (given, rest)
  | letter :: more, rest => do
    let kind ← kinds.find? (·.short = some letter)
    if kind.takesValue then
      if more.isEmpty then do
        let (value, rest) ← followingValue rest
        (given.addOption kind value).map (·, rest)
      else (given.addOption kind (String.ofList (attachedValue more))).map (·, rest)
    else do
      let given ← given.addOption kind ""
      takeShort kinds given more rest

/-- Takes arguments: options of the given kinds, and up to `limit` others, after which the remaining
arguments are left. The first number bounds the steps. -/
def takeArguments (kinds : List OptionKind) (limit : Option Nat) :
    Nat → Given → List String → Option (Given × List String)
  | 0, _, _ => none
  | _, given, [] => some (given, [])
  | fuel + 1, given, argument :: rest =>
    match argument.toList with
    | ['-', '-'] =>
      if limit.isSome then none else some ({ given with rest := given.rest ++ rest }, [])
    | '-' :: '-' :: text =>
      match takeLong kinds given text rest with
      | none => none
      | some (given, rest) => takeArguments kinds limit fuel given rest
    | '-' :: letter :: more =>
      match takeShort kinds given (letter :: more) rest with
      | none => none
      | some (given, rest) => takeArguments kinds limit fuel given rest
    | _ =>
      if limit = some (given.rest.length + 1) then some (given.addRest argument, rest)
      else takeArguments kinds limit fuel (given.addRest argument) rest

/-- Reads the arguments of a command. -/
def arguments (kinds : List OptionKind) (list : List String) : Option Given :=
  (takeArguments (verbose :: kinds) none (list.length + 1) .none list).map Prod.fst

/-- The only argument besides the options. -/
def only : List String → Option String
  | [argument] => some argument
  | _ => none

/-- Reads the command of a name from its arguments. -/
def Command.named (name : String) (list : List String) : Option Command := do
  match name with
  | "map" => do
    let given ← arguments [source, config, tabular, pretty] list
    let file ← given.value? config
    if given.rest.isEmpty then
      some (.map (given.value? source) file (given.has tabular) (given.has pretty))
    else none
  | "read" => do
    let given ← arguments [source] list
    let path ← only given.rest
    some (.read path (given.value? source))
  | "parse" => do
    let given ← arguments [] list
    (only given.rest).map .parse
  | _ => none

/-- Reads the arguments of the program; absent when they do not follow the usage. -/
def Command.ofArguments? (list : List String) : Option Command := do
  let (given, rest) ← takeArguments [verbose] (some 1) (list.length + 1) .none list
  let name ← only given.rest
  Command.named name rest

end DocumentMapping.CommandLine
