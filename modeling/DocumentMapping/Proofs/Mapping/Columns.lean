import DocumentMapping.Proofs.Mapping.Steering
import DocumentMapping.Proofs.Mapping.Tasks

/-!
# Columns of a table

A value of a table goes to one row of its column, or to all rows from one row on. Which of the two
it is and at which row it starts do not depend on the target. The only thing that a list of such
writes reads from the target is how many rows there are: the writes are a list of stores, which is
determined by the number of rows before the first of them.
-/

namespace DocumentMapping

open Expression (Cache)

/-! ## Stores in columns -/

/-- The location of a cell of a table. -/
def cell (row : String) (position : Nat) (title : String) : Location :=
  [.property row, .item position, .property title]

/-- A value that is written to a column. -/
structure ColumnWrite where
  title : String
  value : Scalar
  /-- The first row that the value is written to. -/
  first : Nat
  /-- Whether it is written to all rows behind the first one too. -/
  onward : Bool
deriving DecidableEq, Repr

namespace ColumnWrite

/-- The number of rows that a value is written to in a table with some rows. -/
def span (count : Nat) (write : ColumnWrite) : Nat :=
  if write.onward then max count (write.first + 1) - write.first else 1

/-- The stores of a write in a table with some rows. -/
def deposits (row : String) (count : Nat) (write : ColumnWrite) : List Deposit :=
  (List.range' write.first (write.span count)).map fun position =>
    ⟨cell row position write.title, write.value⟩

/-- The number of rows after some writes. -/
def rowsAfter (count : Nat) (writes : List ColumnWrite) : Nat :=
  writes.foldl (fun count write => max count (write.first + 1)) count

/-- The stores of some writes, of which each may add rows for the later ones. -/
def depositsFrom (row : String) : Nat → List ColumnWrite → List Deposit
  | _, [] => []
  | count, write :: rest =>
    write.deposits row count ++ depositsFrom row (max count (write.first + 1)) rest

/-- Whether no write of a list has more rows to fill than a ceiling admits; a ceiling of zero admits
one row. -/
def FitFrom (ceiling : Nat) : Nat → List ColumnWrite → Prop
  | _, [] => True
  | count, write :: rest =>
    write.span count ≤ max ceiling 1 ∧ FitFrom ceiling (max count (write.first + 1)) rest

variable {row : String} {ceiling count : Nat}

@[simp] theorem rowsAfter_cons (write : ColumnWrite) (rest : List ColumnWrite) :
    rowsAfter count (write :: rest) = rowsAfter (max count (write.first + 1)) rest := rfl

/-- Every row that is written to is counted, and rows are only added. -/
theorem rowsAfter_eq_max (writes : List ColumnWrite) :
    rowsAfter count writes = max count (rowsAfter 0 writes) := by
  induction writes generalizing count with
  | nil => exact (Nat.max_zero count).symm
  | cons write rest ih =>
    rw [rowsAfter_cons, rowsAfter_cons, ih, @ih (max 0 (write.first + 1))]
    omega

/-- Once the rows of some writes are there, the writes add none. -/
theorem rowsAfter_rowsAfter (writes : List ColumnWrite) :
    rowsAfter (rowsAfter count writes) writes = rowsAfter count writes := by
  have hagain := @rowsAfter_eq_max (rowsAfter count writes) writes
  have honce := @rowsAfter_eq_max count writes
  omega

theorem depositsFrom_append (first second : List ColumnWrite) :
    depositsFrom row count (first ++ second) =
      depositsFrom row count first ++ depositsFrom row (rowsAfter count first) second := by
  induction first generalizing count with
  | nil => rfl
  | cons write rest ih =>
    rw [List.cons_append, depositsFrom, ih, depositsFrom, rowsAfter_cons, List.append_assoc]

theorem fitFrom_append (first second : List ColumnWrite) :
    FitFrom ceiling count (first ++ second) ↔
      FitFrom ceiling count first ∧ FitFrom ceiling (rowsAfter count first) second := by
  induction first generalizing count with
  | nil => exact ⟨fun h => ⟨trivial, h⟩, And.right⟩
  | cons write rest ih =>
    rw [List.cons_append, FitFrom, ih, FitFrom, rowsAfter_cons, and_assoc]

/-- All stores are in cells. -/
theorem exists_cell_of_mem {writes : List ColumnWrite} {deposit : Deposit}
    (h : deposit ∈ depositsFrom row count writes) :
    ∃ position title, deposit.location = cell row position title := by
  induction writes generalizing count with
  | nil => cases h
  | cons write rest ih =>
    rcases List.mem_append.mp h with hmem | hlater
    · obtain ⟨position, _, rfl⟩ := List.mem_map.mp hmem
      exact ⟨position, write.title, rfl⟩
    · exact ih hlater

/-- A write stores its value in all rows behind the first that are there before the writes. -/
theorem exists_mem_depositsFrom {writes : List ColumnWrite} {write : ColumnWrite}
    (hmem : write ∈ writes) (honward : write.onward = true) {position : Nat}
    (hfirst : write.first ≤ position) (hlt : position < count) :
    ∃ deposit ∈ depositsFrom row count writes,
      deposit.location = cell row position write.title := by
  induction writes generalizing count with
  | nil => cases hmem
  | cons other rest ih =>
    rcases List.mem_cons.mp hmem with rfl | hlater
    · refine ⟨⟨cell row position write.title, write.value⟩, ?_, rfl⟩
      apply List.mem_append_left
      refine List.mem_map.mpr ⟨position, ?_, rfl⟩
      rw [List.mem_range'_1, span, if_pos honward]
      omega
    · obtain ⟨deposit, hdeposit, hlocation⟩ := @ih (max count (other.first + 1)) hlater (by omega)
      exact ⟨deposit, List.mem_append_right _ hdeposit, hlocation⟩

end ColumnWrite

/-! ## Rows of a table -/

namespace Node

/-- A store in a cell adds the rows up to its own. -/
theorem lengthAt_store_cell (target : Node) (value : Scalar) (row title : String)
    (position : Nat) :
    (target.store value (cell row position title)).lengthAt [.property row] =
      max (target.lengthAt [.property row]) (position + 1) :=
  lengthAt_store target value [.property row] position [.property title]

/-- All cells have one shape. -/
theorem sameShape_cell (row other title heading : String) (position index : Nat) :
    (cell row position title).SameShape (cell other index heading) :=
  ⟨trivial, trivial, trivial, trivial⟩

/-- Stores of a value in rows one after the other add the rows up to the last of them. -/
theorem lengthAt_storeAll_range' (target : Node) (value : Scalar) (row title : String)
    (first length : Nat) :
    (target.storeAll ((List.range' first (length + 1)).map fun position =>
        ⟨cell row position title, value⟩)).lengthAt [.property row] =
      max (target.lengthAt [.property row]) (first + length + 1) := by
  induction length generalizing target first with
  | zero => exact lengthAt_store_cell target value row title first
  | succ length ih =>
    rw [List.range'_succ, List.map_cons, storeAll_cons, ih, lengthAt_store_cell]
    omega

/-- After a write of a column the table has its rows. -/
theorem lengthAt_storeAll_deposits {target : Node} {row : String} {count : Nat}
    (hcount : target.lengthAt [.property row] = count) (write : ColumnWrite) :
    (target.storeAll (write.deposits row count)).lengthAt [.property row] =
      max count (write.first + 1) := by
  obtain ⟨length, hlength⟩ : ∃ length, write.span count = length + 1 :=
    Nat.exists_eq_add_one_of_ne_zero (by unfold ColumnWrite.span; split <;> omega)
  have hspan := hlength
  unfold ColumnWrite.span at hspan
  rw [ColumnWrite.deposits, hlength, lengthAt_storeAll_range', hcount]
  split at hspan <;> omega

end Node

/-! ## Tasks of columns -/

/-- A decided row leads to a cell. -/
theorem locationBy?_tabularColumn (decided? : String → Option Nat) (row title : String) :
    locationBy? decided? (Path.tabularColumn row title).elements =
      (decided? "*").map fun position => cell row position title := by
  have hposition : (PathIndex.wildcard 1).positionBy? decided? = decided? "*" := rfl
  simp only [Path.tabularColumn, locationBy?, PathIndex.isIndexed, if_true, hposition,
    PathElement.property, Bool.false_eq_true, if_false, Option.map_some]
  cases decided? "*" <;> rfl

/-- The steps of a write to a cell: the length that it finds is the number of rows. -/
theorem steps_walk_tabularColumn {placement : Placement} {row title : String} {position : Nat}
    {target : Node} (hposition : placement.pinned? "*" = some position)
    (hadmits : target.Admits (cell row position title)) :
    ((Path.tabularColumn row title).walk placement target).steps =
      [.item ⟨row, .wildcard 1⟩ position (target.lengthAt [.property row]), .property title] := by
  have hlocation := locationBy?_tabularColumn placement.pinned? row title
  rw [hposition] at hlocation
  obtain ⟨hconflict, _⟩ := Node.walk_of_locationBy? hlocation hadmits
  have hlength : ((target.slotAt (.property row)).asItems?.getD []).length =
      target.lengthAt [.property row] := by
    rw [Node.lengthAt_eq, Node.at?_cons_getD]
    rfl
  have hdecided : (PathIndex.wildcard 1).positionBy? placement.pinned? = some position := hposition
  obtain ⟨_, ⟨hindex, _⟩ | ⟨length, found, _, hfoundLength, hfound, _, hrest, hwalk⟩⟩ :=
    Node.walk_cons hconflict
  · cases hindex
  · rw [hfoundLength.trans hlength] at hfound hwalk
    have heq : found = position := hfound.trans (resolve_of_positionBy? rfl hdecided _)
    obtain ⟨_, ⟨_, _, hlast⟩ | ⟨_, _, hindexed, _⟩⟩ := Node.walk_cons hrest
    · rw [Path.walk, Path.tabularColumn, hwalk, hlast, heq]
      rfl
    · cases hindexed

namespace WriteTask

/-- The title of the column that a task writes to. -/
def title (task : WriteTask) : String :=
  task.plan.rule.headerTitle.getD ""

/-- A task writes to a column: unless it fans out over the rows, its row is decided. -/
structure FillsColumn (row : String) (task : WriteTask) : Prop where
  destination_eq : task.plan.destination = Path.tabularColumn row task.title
  pinned : task.fansOut = false → ∃ position, task.placement.pinned? "*" = some position
  openTags_eq : task.fansOut = true → task.plan.openTags = ["*"]

/-- Counters of a task that fans out over the rows. -/
def Counts (counters : Counters) (task : WriteTask) : Prop :=
  task.fansOut = true → ∃ position, counters = [("*", position)]

/-- The first row that a task writes to. -/
def firstRow (counters : Counters) (task : WriteTask) : Nat :=
  ((task.placementAt counters).pinned? "*").getD 0

/-- What a task writes to its column. -/
def columnWrite (counters : Counters) (task : WriteTask) : ColumnWrite where
  title := task.title
  value := task.value
  first := task.firstRow counters
  onward := task.fansOut && !task.isOneOfMany

/-- What the tasks of one rule write to its column. -/
def columnWrites : Counters → List WriteTask → List ColumnWrite
  | _, [] => []
  | counters, task :: rest =>
    task.columnWrite counters :: columnWrites (task.countersAfter counters) rest

variable {row : String} {task : WriteTask} {counters : Counters} {target : Node}

/-- The counter of a task that fans out is its row. -/
theorem pinned?_placementAt_of_fansOut (hfansOut : task.fansOut = true) (position : Nat) :
    (task.placementAt [("*", position)]).pinned? "*" = some position := by
  have hmerge : (task.placement.merge (Counters.placement [("*", position)])).get? "*" =
      some (.position position) := by
    rw [OrderedMap.get?_merge]
    simp [Counters.placement, OrderedMap.last?]
  rw [placementAt, if_pos hfansOut, Placement.pinned?, hmerge]

theorem pinned?_placementAt (h : task.FillsColumn row) (hcounts : task.Counts counters) :
    (task.placementAt counters).pinned? "*" = some (task.firstRow counters) := by
  have hsome : ∃ position, (task.placementAt counters).pinned? "*" = some position := by
    cases hfansOut : task.fansOut with
    | true =>
      obtain ⟨position, rfl⟩ := hcounts hfansOut
      exact ⟨position, pinned?_placementAt_of_fansOut hfansOut position⟩
    | false =>
      rw [placementAt, hfansOut]
      exact h.pinned hfansOut
  obtain ⟨position, hposition⟩ := hsome
  rw [firstRow, hposition, Option.getD_some]

/-- After a task the counters are still counters of the others. -/
theorem Counts.countersAfter {other : WriteTask} (h : other.Counts counters) (task : WriteTask) :
    other.Counts (task.countersAfter counters) := by
  intro hfansOut
  obtain ⟨position, rfl⟩ := h hfansOut
  unfold WriteTask.countersAfter
  split
  · exact ⟨position + 1, rfl⟩
  · exact ⟨position, rfl⟩

/-- A single write of a task stores its value in the cell of its row, and reports further rows when
the task fans out. -/
theorem writeOnce_column (h : task.FillsColumn row) (hcounts : task.Counts counters)
    (hadmits : target.Admits (cell row (task.firstRow counters) task.title)) :
    (task.writeOnce counters target).result =
      .ok ⟨target.store task.value (cell row (task.firstRow counters) task.title),
        task.fansOut && decide (task.firstRow counters + 1 < target.lengthAt [.property row])⟩ := by
  have hpinned := pinned?_placementAt h hcounts
  have hlocation := locationBy?_tabularColumn (task.placementAt counters).pinned? row task.title
  rw [hpinned, Option.map_some, ← h.destination_eq] at hlocation
  rw [writeOnce_eq_ok_iff, Path.write_of_locationBy? hlocation hadmits, h.destination_eq,
    steps_walk_tabularColumn hpinned hadmits]
  have htag : (⟨row, .wildcard 1⟩ : PathElement).tag? = some "*" := rfl
  cases hfansOut : task.fansOut with
  | false => simp [tags, hfansOut, Step.leavesMore, htag]
  | true => simp [tags, hfansOut, h.openTags_eq hfansOut, Step.leavesMore, htag]

/-- A task that goes to one row stores its value there. -/
theorem write_once (h : task.FillsColumn row) (hcounts : task.Counts counters)
    (hadmits : target.AdmitsShape (cell row 0 ""))
    (honce : (task.fansOut && !task.isOneOfMany) = false) (ceiling : Nat) :
    (task.write ceiling counters target).result =
      .ok ⟨1, task.countersAfter counters,
        target.store task.value (cell row (task.firstRow counters) task.title)⟩ := by
  have hwrite := writeOnce_column h hcounts (hadmits _ (Node.sameShape_cell row row _ "" _ 0))
  refine writeFrom_of_not_more hwrite ?_
  cases hmany : task.isOneOfMany with
  | true => rfl
  | false =>
    rw [hmany, Bool.not_false, Bool.and_true] at honce
    rw [honce, Bool.false_and]
    rfl

/-- A task that fans out stores its value in all rows from its counter on, and succeeds when these
are no more than the writes that are left. -/
theorem writeFrom_onward_eq_ok_iff (h : task.FillsColumn row) (hfansOut : task.fansOut = true)
    (hsingle : task.isOneOfMany = false) {ceiling left writes position count : Nat} {after : Node}
    (hadmits : target.AdmitsShape (cell row 0 ""))
    (hcount : target.lengthAt [.property row] = count) :
    (∃ outcome, (task.writeFrom ceiling left writes [("*", position)] target).result =
        .ok outcome ∧ outcome.target = after) ↔
      max count (position + 1) - position ≤ left + 1 ∧
        after = target.storeAll
          ((List.range' position (max count (position + 1) - position)).map fun index =>
            ⟨cell row index task.title, task.value⟩) := by
  have hcounts : ∀ position, task.Counts [("*", position)] := fun position _ => ⟨position, rfl⟩
  have hfirst : ∀ position, task.firstRow [("*", position)] = position := fun position => by
    rw [firstRow, pinned?_placementAt_of_fansOut hfansOut, Option.getD_some]
  -- the induction is on the rows behind the counter
  obtain ⟨behind, hbehind⟩ : ∃ behind, max count (position + 1) - position = behind + 1 :=
    Nat.exists_eq_add_one_of_ne_zero (by omega)
  rw [hbehind]
  induction behind generalizing left writes position target with
  | zero =>
    have hwrite := writeOnce_column h (hcounts position)
      (hadmits _ (Node.sameShape_cell row row _ "" _ 0))
    rw [hfirst, hfansOut, Bool.true_and, hcount] at hwrite
    have hlast : ¬ position + 1 < count := by omega
    rw [writeFrom_of_not_more hwrite (by simp [hlast])]
    constructor
    · rintro ⟨_, ⟨rfl⟩, rfl⟩
      exact ⟨by omega, rfl⟩
    · rintro ⟨_, rfl⟩
      exact ⟨_, rfl, rfl⟩
  | succ behind ih =>
    have hwrite := writeOnce_column h (hcounts position)
      (hadmits _ (Node.sameShape_cell row row _ "" _ 0))
    rw [hfirst, hfansOut, Bool.true_and, hcount] at hwrite
    have hmore : position + 1 < count := by omega
    cases left with
    | zero =>
      rw [writeFrom_zero_of_more hwrite (by simp [hsingle, hmore])]
      constructor
      · rintro ⟨_, ⟨⟩, _⟩
      · rintro ⟨hle, _⟩
        omega
    | succ left =>
      have hlater : (target.store task.value (cell row position task.title)).lengthAt
          [.property row] = count := by
        rw [Node.lengthAt_store_cell, hcount]
        omega
      have hcounter : task.countersAfter [("*", position)] = [("*", position + 1)] := by
        rw [WriteTask.countersAfter, if_pos hfansOut]
        rfl
      have hrest := @ih _ left (writes + 1) (position + 1)
        (hadmits.store task.value (Node.sameShape_cell row row task.title "" position 0)) hlater
        (by omega)
      rw [writeFrom_succ_of_more hwrite (by simp [hsingle, hmore]), hcounter, List.range'_succ,
        List.map_cons, Node.storeAll_cons, Nat.add_le_add_iff_right]
      exact hrest

/-- The writes of a task are those of its column, and succeed when they fit under the ceiling. -/
theorem write_onward_eq_ok_iff (h : task.FillsColumn row) (hcounts : task.Counts counters)
    (honward : (task.fansOut && !task.isOneOfMany) = true) {ceiling count : Nat} {after : Node}
    (hadmits : target.AdmitsShape (cell row 0 ""))
    (hcount : target.lengthAt [.property row] = count) :
    (∃ outcome, (task.write ceiling counters target).result = .ok outcome ∧
        outcome.target = after) ↔
      (task.columnWrite counters).span count ≤ max ceiling 1 ∧
        after = target.storeAll ((task.columnWrite counters).deposits row count) := by
  rw [Bool.and_eq_true, Bool.not_eq_true'] at honward
  obtain ⟨hfansOut, hsingle⟩ := honward
  obtain ⟨position, rfl⟩ := hcounts hfansOut
  have hfirst : task.firstRow [("*", position)] = position := by
    rw [firstRow, pinned?_placementAt_of_fansOut hfansOut, Option.getD_some]
  have hspan : (task.columnWrite [("*", position)]).span count =
      max count (position + 1) - position := by
    simp [ColumnWrite.span, columnWrite, hfansOut, hsingle, hfirst]
  have hceiling : max ceiling 1 = ceiling - 1 + 1 := by omega
  rw [write, writeFrom_onward_eq_ok_iff h hfansOut hsingle hadmits hcount, ColumnWrite.deposits,
    hspan, hceiling]
  simp only [columnWrite, hfirst]

/-- The writes of the tasks of one rule are those of its column. Only a single task fans out over
all rows, so every other one goes to one row. -/
theorem writeEach_eq_ok_iff {tasks : List WriteTask} (hfills : ∀ task ∈ tasks, task.FillsColumn row)
    (hmany : (∀ task ∈ tasks, task.isOneOfMany = true) ∨ ∃ task, tasks = [task])
    (hcounts : ∀ task ∈ tasks, task.Counts counters) {ceiling count : Nat} {after : Node}
    (hadmits : target.AdmitsShape (cell row 0 ""))
    (hcount : target.lengthAt [.property row] = count) :
    writeEach ceiling tasks counters target = .ok after ↔
      ColumnWrite.FitFrom ceiling count (columnWrites counters tasks) ∧
        after = target.storeAll
          (ColumnWrite.depositsFrom row count (columnWrites counters tasks)) := by
  induction tasks generalizing counters target count with
  | nil =>
    constructor
    · rintro ⟨⟩
      exact ⟨trivial, rfl⟩
    · rintro ⟨_, rfl⟩
      rfl
  | cons task rest ih =>
    rw [List.forall_mem_cons] at hfills hcounts
    cases honward : task.fansOut && !task.isOneOfMany with
    | true =>
      obtain rfl : rest = [] := by
        rcases hmany with hall | ⟨_, heq⟩
        · rw [hall task List.mem_cons_self, Bool.not_true, Bool.and_false] at honward
          cases honward
        · exact (List.cons.inj heq).2
      have hwrite := @write_onward_eq_ok_iff _ _ _ _ hfills.1 hcounts.1 honward ceiling count after
        hadmits hcount
      simp only [writeEach, Except.bind_eq_ok_iff, Except.ok.injEq, hwrite, columnWrites,
        ColumnWrite.FitFrom, ColumnWrite.depositsFrom, and_true, List.append_nil]
    | false =>
      have hwrite := write_once hfills.1 hcounts.1 hadmits honward ceiling
      have hspan : (task.columnWrite counters).span count = 1 := by
        rw [ColumnWrite.span, columnWrite, honward]
        rfl
      have hdeposits : (task.columnWrite counters).deposits row count =
          [⟨cell row (task.firstRow counters) task.title, task.value⟩] := by
        rw [ColumnWrite.deposits, hspan]
        rfl
      have hrest : (∀ other ∈ rest, other.isOneOfMany = true) ∨ ∃ other, rest = [other] := by
        rcases hmany with hall | ⟨_, heq⟩
        · exact .inl fun other hother => hall other (List.mem_cons_of_mem _ hother)
        · rw [(List.cons.inj heq).2]
          exact .inl fun _ hother => by cases hother
      have hlater : (target.store task.value
          (cell row (task.firstRow counters) task.title)).lengthAt [.property row] =
            max count ((task.columnWrite counters).first + 1) := by
        rw [Node.lengthAt_store_cell, hcount]
        rfl
      have hwrites := ih hfills.2 hrest (fun other hother => (hcounts.2 other hother).countersAfter
        task) (hadmits.store task.value (Node.sameShape_cell row row task.title "" _ 0)) hlater
      have hone : 1 ≤ max ceiling 1 := Nat.le_max_right _ _
      rw [writeEach, hwrite, columnWrites, ColumnWrite.FitFrom, ColumnWrite.depositsFrom, hspan,
        hdeposits, and_iff_right hone, List.singleton_append, Node.storeAll_cons]
      exact hwrites

end WriteTask

end DocumentMapping
