import DocumentMapping.Placement.Hints

/-!
# Correlation of indexes

An index of the source path steers the index of the destination path that has its effective tag,
which is the tag after renames. The correlation of two paths looks up, by source tag, the
destination element that is steered. Destination tags that nothing steers are listed under
themselves.
-/

namespace DocumentMapping

/-- The destination element that a tag belongs to. -/
structure CorrelationTarget where
  element : String
  tag : String
deriving DecidableEq, Repr, Inhabited

/-- Which source tags steer which destination elements. -/
structure Correlation where
  entries : OrderedMap CorrelationTarget
  /-- The destination tags that are steered by the source. -/
  steered : List String
deriving DecidableEq, Repr, Inhabited

namespace Correlation

/-- The destination of a source tag. -/
def get? (correlation : Correlation) (tag : String) : Option CorrelationTarget :=
  correlation.entries.get? tag

/-- Whether a destination tag is steered by the source. -/
def isCorrelated (correlation : Correlation) (tag : String) : Bool :=
  correlation.steered.contains tag

/-- The first element of a path with a tag. -/
def elementTagged? (path : Path) (tag : String) : Option CorrelationTarget :=
  (path.elements.find? (·.tag? = some tag)).map fun element => ⟨element.name, tag⟩

/-- The source tags that steer an element of the destination, in source order. -/
def matched (destination source : Path) (renames : Renames) :
    List (String × CorrelationTarget) :=
  source.tags.filterMap fun tag =>
    (elementTagged? destination (renames.resolve tag)).map (tag, ·)

/-- Lists a destination element under its own tag, unless the tag is steered or listed already. -/
def addUnsteered (correlation : Correlation) (element : PathElement) : Correlation :=
  match element.tag? with
  | none => correlation
  | some tag =>
    if correlation.isCorrelated tag || correlation.entries.contains tag then correlation
    else { correlation with entries := correlation.entries.insert tag ⟨element.name, tag⟩ }

/-- The correlation of a destination with what steers it. -/
def ofMatched (destination : Path) (found : List (String × CorrelationTarget)) : Correlation :=
  destination.elements.foldl addUnsteered
    ⟨OrderedMap.ofList found, found.map (·.2.tag)⟩

/-- What steers a destination; nothing without a source. -/
def matchedOptional (destination : Path) (source : Option Path) (renames : Renames) :
    List (String × CorrelationTarget) :=
  match source with
  | none => []
  | some source => matched destination source renames

/-- The correlation of a destination with an optional source. -/
def ofPaths (destination : Path) (source : Option Path) (renames : Renames) : Correlation :=
  ofMatched destination (matchedOptional destination source renames)

end Correlation

end DocumentMapping
