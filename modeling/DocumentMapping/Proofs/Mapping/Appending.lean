import DocumentMapping.Proofs.Mapping.FixedPositions
import DocumentMapping.Proofs.Mapping.Records
import DocumentMapping.Proofs.Tree.LastWrite

/-!
# Columns that append their rows

Under a hint to append, every write of a column makes a row of its own behind the others. A pass
over such a column therefore makes one row for each of its values, and the second pass of a table
does so once more, instead of filling the rows that the first one has made.
-/

namespace DocumentMapping

open Expression (Cache)

/-! ## Rows of one column -/

namespace Node

/-- A table with one column, whose rows hold some values. Without values it has no row array. -/
def columnTable (row title : String) (values : List Scalar) : Node :=
  .object (if values = [] then []
    else [(row, .array (values.map fun value => .object [(title, .scalar value)]))])

/-- The rows of a table with one column. -/
theorem asItems?_columnTable (row title : String) (values : List Scalar) :
    ((columnTable row title values).slotAt (.property row)).asItems? =
      some (values.map fun value => .object [(title, .scalar value)]) := by
  cases values with
  | nil => rfl
  | cons value rest => simp [columnTable, slotAt, OrderedMap.get?]

/-- An item behind all others is put at the end. -/
theorem modifyItem_length (items : List Node) (change : Node → Node) :
    modifyItem items items.length change = items ++ [change .placeholder] := by
  apply List.ext_getElem?
  intro index
  rw [getElem?_modifyItem]
  rcases Nat.lt_trichotomy index items.length with hlt | rfl | hgt
  · rw [if_neg (by omega), if_pos hlt, List.getElem?_append_left hlt]
  · simp
  · rw [if_neg (by omega), if_neg (by omega), if_neg (by omega), eq_comm,
      List.getElem?_eq_none_iff, List.length_append, List.length_singleton]
    omega

/-- A change of the rows changes nothing else in the table. -/
theorem modifyChild_columnTable (row title : String) (values : List Scalar)
    (change : Node → Node) :
    (columnTable row title values).modifyChild (.property row) change =
      .object [(row, change ((columnTable row title values).slotAt (.property row)))] := by
  cases values with
  | nil => rfl
  | cons value rest =>
    simp [columnTable, modifyChild, modifyProperty, slot, slotAt, OrderedMap.get?,
      OrderedMap.insert]

/-- A row behind the others makes the table longer. -/
theorem store_columnTable (row title : String) (values : List Scalar) (value : Scalar) :
    (columnTable row title values).store value
        [.property row, .item values.length, .property title] =
      columnTable row title (values ++ [value]) := by
  have hrows := modifyItem_length (values.map fun value => .object [(title, .scalar value)])
    (store value [.property title])
  have hcell : Node.placeholder.store value [.property title] =
      .object [(title, .scalar value)] := rfl
  rw [List.length_map, hcell] at hrows
  rw [store_cons, modifyChild_columnTable, store_cons, modifyChild, asItems?_columnTable,
    Option.getD_some, hrows]
  simp [columnTable]

end Node

/-! ## Rules that append -/

namespace RulePlan

/-- A plan writes to a column of a table under a hint to append rows. -/
structure AppendsRows (row title : String) (plan : RulePlan) : Prop where
  destination_eq : plan.destination = Path.tabularColumn row title
  hint_eq : plan.placement.get? "*" = some .append

variable {plan : RulePlan} {row title : String}

/-- The hint to append holds for every value, whatever its place. -/
theorem AppendsRows.get?_placement (h : plan.AppendsRows row title) (value : Scalar)
    (place : Option SelectedValue) (isOneOfMany : Bool) :
    (plan.task value place isOneOfMany).placement.get? "*" = some .append := by
  have hcontains : plan.placement.contains "*" = true := OrderedMap.contains_of_get? h.hint_eq
  cases place with
  | none => exact h.hint_eq
  | some selected =>
    show (plan.placement.merge (plan.steer selected)).get? "*" = some .append
    rw [get?_merge_steer, get?_steer_of_contains selected hcontains, Option.none_or, h.hint_eq]

/-- A column that appends its rows leaves no tag open. -/
theorem AppendsRows.openTags_eq (h : plan.AppendsRows row title) : plan.openTags = [] := by
  have hcontains : plan.placement.contains "*" = true := OrderedMap.contains_of_get? h.hint_eq
  have hdynamic : plan.destination.dynamicTags = ["*"] := by
    rw [h.destination_eq]
    rfl
  rw [openTags, hdynamic, List.filter_cons, hcontains, Bool.not_true, Bool.and_false]
  rfl

theorem AppendsRows.fansOut_eq (h : plan.AppendsRows row title) (value : Scalar)
    (place : Option SelectedValue) (isOneOfMany : Bool) :
    (plan.task value place isOneOfMany).fansOut = false := by
  rw [Bool.eq_false_iff]
  intro hfansOut
  exact (fansOut_task_iff.mp hfansOut).2 h.openTags_eq

end RulePlan

/-- Under a hint to append, the walk to a column goes behind the last row. -/
theorem walk_columnTable {placement : Placement} (h : placement.get? "*" = some .append)
    (row title : String) (values : List Scalar) :
    (Path.tabularColumn row title).walk placement (Node.columnTable row title values) =
      ⟨[.item ⟨row, .wildcard 1⟩ values.length values.length, .property title], none⟩ := by
  let rows : List Node := values.map fun value => .object [(title, .scalar value)]
  have hrows := Node.asItems?_columnTable row title values
  have hposition : placement.resolve (.wildcard 1) rows.length = rows.length := by
    have htag : (PathIndex.wildcard 1).tag? = some "*" := rfl
    rw [resolve_of_isDynamic rfl htag, h]
  have hslot : ((Node.columnTable row title values).slotAt (.property row)).slotAt
      (.item rows.length) = .placeholder := by
    rw [Node.slotAt_item hrows, List.getD_eq_default _ _ (le_refl _)]
  have hwalk := @Node.walk_item placement ⟨row, .wildcard 1⟩ [.property title]
    (Node.columnTable row title values) rows rows.length rfl rfl hrows hposition
  rw [hslot, List.length_map] at hwalk
  exact hwalk

/-- A write under a hint to append puts its value in a row of its own. -/
theorem write_columnTable {placement : Placement} (h : placement.get? "*" = some .append)
    (row title : String) (values : List Scalar) (value : Scalar) :
    (Path.tabularColumn row title).write placement [] value (Node.columnTable row title values) =
      .ok ⟨Node.columnTable row title (values ++ [value]), false⟩ := by
  have hwalk := walk_columnTable h row title values
  rw [Path.write_of_no_conflict (congrArg Walk.conflict hwalk), hwalk, any_leavesMore_nil,
    ← Node.store_columnTable]
  rfl

namespace RulePlan

variable {plan : RulePlan} {row title : String}

/-- A value of a column that appends its rows is written once, to a row of its own. -/
theorem AppendsRows.write_eq (h : plan.AppendsRows row title) (value : Scalar)
    (place : Option SelectedValue) (isOneOfMany : Bool) (ceiling : Nat) (counters : Counters)
    (values : List Scalar) :
    ((plan.task value place isOneOfMany).write ceiling counters
        (Node.columnTable row title values)).result =
      .ok ⟨1, counters, Node.columnTable row title (values ++ [value])⟩ := by
  have hwrite : plan.destination.write (plan.task value place isOneOfMany).placement [] value
      (Node.columnTable row title values) =
        .ok ⟨Node.columnTable row title (values ++ [value]), false⟩ := by
    rw [h.destination_eq]
    exact write_columnTable (h.get?_placement value place isOneOfMany) row title values value
  rw [WriteTask.write_of_not_fansOut (h.fansOut_eq value place isOneOfMany)]
  show Except.map _ (Except.mapError _ (plan.destination.write _ [] value _)) = _
  rw [hwrite]
  rfl

/-- A column that appends its rows makes one row for each of its values. -/
theorem AppendsRows.target_of_recordValues (h : plan.AppendsRows row title)
    {context : MappingContext} {isOneOfMany : Bool} {places : List (Option SelectedValue)}
    {state last : RuleState} {values : List Scalar} {records : List ValueRecord}
    (htarget : state.target = Node.columnTable row title values)
    (hrecords : plan.recordValues context isOneOfMany places state = .ok (records, last)) :
    last.target = Node.columnTable row title (values ++ records.map (·.value)) := by
  induction places generalizing state values records with
  | nil =>
    cases hrecords
    rw [htarget, List.map_nil, List.append_nil]
  | cons place rest ih =>
    simp only [recordValues, Except.bind_eq_ok_iff, Except.map_eq_ok_iff, Prod.exists,
      Prod.mk.injEq] at hrecords
    obtain ⟨value, cache, _, outcome, hwrite, more, _, hmore, rfl, rfl⟩ := hrecords
    rw [htarget, h.write_eq] at hwrite
    cases hwrite
    rw [ih (by rfl) hmore, List.map_cons, List.append_assoc, List.singleton_append]

/-- So does a whole pass over it. -/
theorem AppendsRows.target_of_recordRule (h : plan.AppendsRows row title)
    {context : MappingContext} {state last : PassState} {values : List Scalar} {record : RuleRecord}
    (htarget : state.target = Node.columnTable row title values)
    (hrecord : plan.recordRule context state = .ok (record, last)) :
    last.target = Node.columnTable row title (values ++ record.values.map (·.value)) := by
  obtain ⟨⟨records, after⟩, hrecords, heq⟩ := Except.map_eq_ok_iff.mp hrecord
  obtain ⟨rfl, rfl⟩ := Prod.mk.inj heq
  exact h.target_of_recordValues htarget hrecords

/-- A rule that goes to a column under a hint to append is planned so. -/
theorem exists_appendsRows {rule : Rule} {lookups : Lookups} {options : MappingOptions}
    {settings : EngineSettings} {hints : Hints}
    (hplan : RulePlan.ofRule rule lookups options settings = .ok plan)
    (hcolumn : rule.destinationField = none)
    (hhints : Hints.readOptional rule.placementHint = .ok hints)
    (happend : hints.placement.get? "*" = some .append) :
    ∃ title, rule.headerTitle = some title ∧ plan.AppendsRows settings.rowProperty title := by
  obtain ⟨hplacement, _⟩ := hints_of_ofRule hplan (hintsOf_eq_ok_iff.mpr hhints)
  obtain ⟨destination, _, _, _, _, hdestination, _, _, _, _, rfl⟩ := ofRule_eq_ok_iff.mp hplan
  rw [destinationOf, hcolumn] at hdestination
  simp only at hdestination
  split at hdestination
  · rename_i title htitle
    split at hdestination
    · cases hdestination
      exact ⟨title, htitle, rfl, hplacement ▸ happend⟩
    · cases hdestination
  · cases hdestination

end RulePlan

/-! ## Two passes over rows that are appended -/

/-- A table with a single column that appends its rows has each row twice: the first pass makes a
row for each value of the column, and the second pass makes these rows again behind them. -/
theorem second_pass_appends_again {settings : EngineSettings} {modules : ModuleCache Expression}
    {source target : Node} {rules : List Rule} {rule : Rule} {lookups : Lookups}
    {options : MappingOptions} {hints : Hints} (htabular : options.isTabular = true)
    (hrules : rules.filter (!·.isDisabled) = [rule]) (hcolumn : rule.destinationField = none)
    (hhints : Hints.readOptional rule.placementHint = .ok hints)
    (happend : hints.placement.get? "*" = some .append)
    (hrun : (mapSource settings modules source rules lookups options).1.result = .ok target) :
    ∃ title plan module cache record last,
      rule.headerTitle = some title ∧
      RulePlan.ofRule rule lookups options settings = .ok plan ∧
      prepare modules source rules options = .ok (module, cache) ∧
      plan.recordRule ⟨source, module, settings⟩ ⟨cache, .object []⟩ = .ok (record, last) ∧
      record.values.map (·.place) = plan.places source ∧
      last.target =
        Node.columnTable settings.rowProperty title (record.values.map (·.value)) ∧
      target = Node.columnTable settings.rowProperty title
        (record.values.map (·.value) ++ record.values.map (·.value)) := by
  obtain ⟨plans, module, cache, firstRecords, between, secondRecords, last, hplans, hprepare,
    hfirst, hsecond, rfl⟩ := exists_recordRules_of_isTabular htabular hrun
  rw [planRules_eq_ok_iff, hrules] at hplans
  obtain ⟨plan, _, hplan, hnone, rfl⟩ := List.forall₂_cons_left_iff.mp hplans
  cases List.forall₂_nil_left_iff.mp hnone
  obtain ⟨title, htitle, happends⟩ := RulePlan.exists_appendsRows hplan hcolumn hhints happend
  simp only [recordRules, Except.bind_eq_ok_iff, Except.map_eq_ok_iff, Prod.exists,
    Prod.mk.injEq, Except.ok.injEq] at hfirst hsecond
  obtain ⟨record, after, hrecord, _, _, ⟨rfl, rfl⟩, rfl, rfl⟩ := hfirst
  obtain ⟨again, final, hagain, _, _, ⟨rfl, rfl⟩, rfl, rfl⟩ := hsecond
  -- both passes compute the same values, and the second one finds the rows of the first one
  obtain ⟨hsame, _⟩ := RulePlan.recordRule_agree (by rfl) hrecord hagain
  have hvalues : again.values.map (·.value) = record.values.map (·.value) :=
    (congrArg Prod.fst hsame).symm
  have hempty : (Node.object []) = Node.columnTable settings.rowProperty title [] := rfl
  have hbetween := happends.target_of_recordRule hempty hrecord
  have hfinal := happends.target_of_recordRule (by exact hbetween) hagain
  rw [List.nil_append] at hbetween hfinal
  rw [hvalues] at hfinal
  exact ⟨title, plan, module, cache, record, after, htitle, hplan, hprepare, hrecord,
    (RulePlan.map_place_of_recordRule hrecord).2, hbetween, hfinal⟩

/-- A rule that takes the numbers of an order to rows that are appended. -/
def appendingRule : Rule :=
  { columnRule "x" with placementHint := some "*=null" }

theorem readOptional_appendingRule :
    Hints.readOptional appendingRule.placementHint = .ok ⟨[("*", .append)], []⟩ := by cbv

theorem sourceOf_appendingRule : RulePlan.sourceOf appendingRule orderLookups =
    .ok (some lineNumbers) := by cbv

/-- In a table the numbers of an order come twice. -/
theorem mapSource_appendingRule :
    (mapSource .default ⟨[], 0⟩ order [appendingRule] orderLookups ⟨true, none, none⟩).1.result =
      .ok (Node.columnTable "row" "x" [.integer 1, .integer 5, .integer 1, .integer 5]) := by
  rw [mapSource_eq_ok_iff]
  refine ⟨_, none, [], planRules_eq_ok_iff.mpr
    (.cons (RulePlan.ofRule_eq_ok_iff.mpr ⟨_, _, _, _, _, rfl, sourceOf_appendingRule, rfl, rfl,
      RulePlan.hintsOf_eq_ok_iff.mpr readOptional_appendingRule, rfl⟩) .nil),
    prepare_of_isEmpty rfl, ?_⟩
  simp only [passes, if_true, List.foldlM_cons, List.foldlM_nil, Logged.bind_eq_ok_iff,
    Logged.result_pure, Except.ok.injEq, applyPass_eq_ok_iff]
  exact ⟨_, ⟨_, rfl, rfl⟩, _, ⟨_, rfl, rfl⟩, rfl⟩

/-- The numbers of an order are appended again. -/
theorem second_pass_appends_again_to_numbers :
    [appendingRule].filter (!·.isDisabled) = [appendingRule] ∧
    appendingRule.destinationField = none ∧
    Hints.readOptional appendingRule.placementHint = .ok ⟨[("*", .append)], []⟩ ∧
    (mapSource .default ⟨[], 0⟩ order [appendingRule] orderLookups ⟨true, none, none⟩).1.result =
      .ok (Node.columnTable "row" "x" [.integer 1, .integer 5, .integer 1, .integer 5]) ∧
    ∃ title plan module cache record last,
      appendingRule.headerTitle = some title ∧
      RulePlan.ofRule appendingRule orderLookups ⟨true, none, none⟩ .default = .ok plan ∧
      prepare ⟨[], 0⟩ order [appendingRule] ⟨true, none, none⟩ = .ok (module, cache) ∧
      plan.recordRule ⟨order, module, .default⟩ ⟨cache, .object []⟩ = .ok (record, last) ∧
      record.values.map (·.place) = plan.places order ∧
      last.target = Node.columnTable "row" title (record.values.map (·.value)) ∧
      Node.columnTable "row" "x" [.integer 1, .integer 5, .integer 1, .integer 5] =
        Node.columnTable "row" title
          (record.values.map (·.value) ++ record.values.map (·.value)) :=
  ⟨rfl, rfl, readOptional_appendingRule, mapSource_appendingRule,
    second_pass_appends_again rfl rfl rfl readOptional_appendingRule rfl mapSource_appendingRule⟩

/-- Two numbers make four rows of a table, but two rows when a rule with the same hint takes them to
the path of the column without a table. -/
theorem table_has_more_rows_than_values :
    lineNumbers.select order =
      [⟨⟨[.item "lines" 0, .property "x"]⟩, .integer 1⟩,
        ⟨⟨[.item "lines" 1, .property "x"]⟩, .integer 5⟩] ∧
    (mapSource .default ⟨[], 0⟩ order [appendingRule] orderLookups ⟨true, none, none⟩).1.result =
      .ok (Node.columnTable "row" "x" [.integer 1, .integer 5, .integer 1, .integer 5]) ∧
    (mapSource .default ⟨[], 0⟩ order [lineRule "*=null"] (lineLookups "$.row[*].x")
      .default).1.result = .ok (Node.columnTable "row" "x" [.integer 1, .integer 5]) := by
  have hcarries : (lineRule "*=null").Carries (lineLookups "$.row[*].x") lineNumbers
      ⟨[⟨"row", .wildcard 1⟩, .property "x"]⟩ ⟨[("*", .append)], []⟩ :=
    ⟨rfl, rfl, rfl, ⟨"lines", _, rfl, rfl, by cbv⟩, ⟨"rows", _, rfl, rfl, by cbv⟩, by cbv⟩
  refine ⟨rfl, mapSource_appendingRule, ?_⟩
  rw [mapSource_eq_ok_iff]
  exact ⟨_, none, [], planRules_eq_ok_iff.mpr (.cons (hcarries.ofRule_eq _ _) .nil),
    prepare_of_isEmpty (hcarries.expressionSources_isEmpty rfl), rfl⟩

end DocumentMapping
