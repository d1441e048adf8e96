import DocumentMapping.Path.Error

/-!
# Valid paths

In a valid path no wildcard run and no named tag occurs twice, and wildcards and named tags do not
occur together. Fixed positions may repeat. The first repetition in path order is reported before
any mixture.
-/

namespace DocumentMapping

/-- The lengths of the wildcard runs in order. -/
def wildcardRuns (elements : List PathElement) : List Nat :=
  elements.filterMap fun element =>
    match element.index with
    | .wildcard run => some run
    | _ => none

/-- The named tags in order. -/
def namedTags (elements : List PathElement) : List String :=
  elements.filterMap fun element =>
    match element.index with
    | .named tag => some tag
    | _ => none

/-- The fault of the first element that repeats a run or tag of the elements before it. -/
def firstRepetition? (runs : List Nat) (tags : List String) : List PathElement → Option PathError
  | [] => none
  | element :: rest =>
    match element.index with
    | .wildcard run =>
      if run ∈ runs then some (.duplicateWildcard run) else firstRepetition? (run :: runs) tags rest
    | .named tag =>
      if tag ∈ tags then some (.duplicateTag tag) else firstRepetition? runs (tag :: tags) rest
    | _ => firstRepetition? runs tags rest

/-- The path of the given elements, if their indexes are consistent. -/
def Path.ofElements (elements : List PathElement) : Except PathError Path :=
  match firstRepetition? [] [] elements with
  | some error => .error error
  | none =>
    match (wildcardRuns elements).head?, (namedTags elements).head? with
    | some run, some tag => .error (.mixedWildcardAndNamed run tag)
    | _, _ => .ok ⟨elements⟩

end DocumentMapping
