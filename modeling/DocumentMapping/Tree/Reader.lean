import DocumentMapping.Tree.Selection

/-!
# Reading values one by one

A reader holds the places that are still to be visited, the next one first. It gives the values that
a path selects one at a time, and can be stopped and continued at any point.
-/

namespace DocumentMapping

-- the zero of sums is that of the core library, whatever else is imported
attribute [local instance (2000)] Zero.ofOfNat0

/-- A place to be visited: a node, the elements left of the path, and the concrete elements that led
here. -/
structure Frame where
  node : Node
  remaining : List PathElement
  trail : List PathElement
deriving Repr

/-- The places still to be visited. -/
structure Reader where
  frames : List Frame
deriving Repr

namespace Frame

/-- The places one element further, in document order. -/
def children (frame : Frame) (element : PathElement) (rest : List PathElement) : List Frame :=
  (frame.node.reached element).map fun (step, next) => ⟨next, rest, frame.trail ++ [step]⟩

/-- The size of the nodes of places. -/
noncomputable def totalSize (frames : List Frame) : Nat :=
  (frames.map fun frame => sizeOf frame.node + 1).sum

end Frame

/-- A property of an object is smaller than the object. -/
theorem Node.sizeOf_lt_of_get?_properties {properties : List (String × Node)} {name : String}
    {child : Node} (h : OrderedMap.get? properties name = some child) :
    sizeOf child < sizeOf properties := by
  induction properties with
  | nil => simp [OrderedMap.get?] at h
  | cons entry rest ih =>
    obtain ⟨key, node⟩ := entry
    simp only [OrderedMap.get?] at h
    split at h
    · cases h
      simp
      omega
    · have := ih h
      simp
      omega

/-- A property is smaller than the node it belongs to. -/
theorem Node.sizeOf_lt_of_get? {node child : Node} {name : String}
    (h : node.get? name = some child) : sizeOf child < sizeOf node := by
  cases node with
  | object properties =>
    have := Node.sizeOf_lt_of_get?_properties h
    simp
    omega
  | array items => simp [Node.get?] at h
  | scalar value => simp [Node.get?] at h

/-- An item is smaller than the list it stands in. -/
theorem Node.sizeOf_lt_of_getElem? {items : List Node} {position : Nat} {item : Node}
    (h : items[position]? = some item) : sizeOf item < sizeOf items :=
  List.sizeOf_lt_of_mem (List.mem_of_getElem? h)

/-- Numbered items together are not larger than the list they stand in. -/
theorem Node.sum_numbered_le (items : List Node) (start : Nat) :
    (((items.zipIdx start).filter (·.2 < 2 ^ 32)).map fun entry => sizeOf entry.1 + 1).sum
      < sizeOf items := by
  induction items generalizing start with
  | nil => simp
  | cons item rest ih =>
    have := ih (start + 1)
    simp only [List.zipIdx_cons, List.filter_cons]
    split <;>
    · simp at this ⊢
      omega

/-- What an element reaches is together smaller than the node it starts from. -/
theorem Frame.totalSize_children_lt (frame : Frame) (element : PathElement)
    (rest : List PathElement) :
    totalSize (frame.children element rest) < sizeOf frame.node + 1 := by
  have key : ((frame.node.reached element).map fun entry => sizeOf entry.2 + 1).sum
      < sizeOf frame.node + 1 := by
    simp only [Node.reached]
    split
    · rename_i child hget
      have hlt := Node.sizeOf_lt_of_get? hget
      simp only [Node.reachedIn]
      split
      · simp
        omega
      · split
        · rename_i position _ item hitem
          cases child with
          | array items =>
            have := Node.sizeOf_lt_of_getElem? hitem
            simp at hlt ⊢
            omega
          | object properties => simp [Node.item?] at hitem
          | scalar value => simp [Node.item?] at hitem
        · simp
      · split
        · rename_i items
          have := Node.sum_numbered_le items 0
          simp only [Node.numbered, List.map_map, Function.comp_def] at this ⊢
          simp at hlt
          omega
        · simp
    · simp
  simpa [totalSize, children, Function.comp_def] using key

namespace Reader

/-- A reader at the start of a tree. -/
def start (source : Node) (path : Path) : Reader :=
  ⟨[⟨source, path.elements, []⟩]⟩

/-- The next value and the places that remain after it. -/
def nextFrom : List Frame → Option (SelectedValue × List Frame)
  | [] => none
  | frame :: stack =>
    match frame.remaining with
    | [] =>
      match frame.node with
      | .scalar value => some (⟨⟨frame.trail⟩, value⟩, stack)
      | _ => nextFrom stack
    | element :: rest => nextFrom (frame.children element rest ++ stack)
termination_by frames => Frame.totalSize frames
decreasing_by
  all_goals
    have := fun element rest => Frame.totalSize_children_lt frame element rest
    simp [Frame.totalSize] at this ⊢
  · have := this element rest
    omega

/-- After a value fewer places remain. -/
theorem totalSize_lt_of_nextFrom {frames rest : List Frame} {value : SelectedValue}
    (h : nextFrom frames = some (value, rest)) :
    Frame.totalSize rest < Frame.totalSize frames := by
  fun_induction nextFrom frames with
  | case1 => simp at h
  | case2 frame stack =>
    simp only [Option.some.injEq, Prod.mk.injEq] at h
    simp [← h.2, Frame.totalSize]
  | case3 frame stack _ _ ih =>
    have := ih h
    simp [Frame.totalSize] at this ⊢
    omega
  | case4 frame stack element left _ ih =>
    have := ih h
    have := Frame.totalSize_children_lt frame element left
    simp [Frame.totalSize] at *
    omega

/-- The next value, and the reader after it. -/
def next? (reader : Reader) : Option (SelectedValue × Reader) :=
  (nextFrom reader.frames).map fun (value, frames) => (value, ⟨frames⟩)

/-- All values that are still to come from some places. -/
def valuesFrom (frames : List Frame) : List SelectedValue :=
  match _h : nextFrom frames with
  | none => []
  | some (value, rest) => value :: valuesFrom rest
termination_by Frame.totalSize frames
decreasing_by exact totalSize_lt_of_nextFrom _h

/-- All values that are still to come. -/
def toList (reader : Reader) : List SelectedValue :=
  valuesFrom reader.frames

/-- The reader after a number of values; at the end it stays there. -/
def skip (reader : Reader) : Nat → Reader
  | 0 => reader
  | count + 1 =>
    match reader.next? with
    | none => ⟨[]⟩
    | some (_, rest) => rest.skip count

end Reader

end DocumentMapping
