import DocumentMapping.Proofs.Mapping.Columns

/-!
# Two passes for a table

The rules of a table write to columns of one row array. The first pass decides how many rows there
are: no later pass writes behind them. From then on every pass stores the same values in the same
cells, so a pass after the second one changes nothing. A single value without a row of its own
reaches all rows in the second pass at the latest.
-/

namespace DocumentMapping

open Expression (Cache)

namespace RulePlan

/-- A plan writes to a column of a table and has no hint to append. -/
structure IsColumn (row : String) (plan : RulePlan) : Prop where
  destination_eq : plan.destination = Path.tabularColumn row (plan.rule.headerTitle.getD "")
  correlation_eq : ∃ renames,
    plan.correlation = Correlation.ofPaths plan.destination plan.source renames
  hint_ne : plan.placement.get? "*" ≠ some .append

variable {plan : RulePlan} {row : String}

/-- The rows are open unless the source or a hint gives one. -/
theorem IsColumn.openTags_eq (h : plan.IsColumn row) :
    plan.openTags =
      if plan.correlation.isCorrelated "*" || plan.placement.contains "*" then [] else ["*"] := by
  have hdynamic : plan.destination.dynamicTags = ["*"] := by
    rw [h.destination_eq]
    rfl
  simp only [openTags, hdynamic, List.filter_cons, List.filter_nil]
  cases plan.correlation.isCorrelated "*" <;> cases plan.placement.contains "*" <;> rfl

/-- The hints for the place of a value give it a row, if there are any. -/
theorem IsColumn.pinned?_of_steer_ne_nil (h : plan.IsColumn row) {source : Path}
    {selected : SelectedValue} (hsource : plan.source = some source)
    (hne : plan.steer selected ≠ []) :
    ∃ position, Placement.pinned? (plan.placement.merge (plan.steer selected)) "*" =
      some position := by
  obtain ⟨renames, hcorrelation⟩ := h.correlation_eq
  rw [hsource] at hcorrelation
  obtain ⟨tag, htag, position, hposition⟩ := exists_get?_steer hsource hcorrelation hne
  have htags : plan.destination.tags = ["*"] := by
    rw [h.destination_eq]
    rfl
  rw [htags, List.mem_singleton] at htag
  refine ⟨position, ?_⟩
  rw [Placement.pinned?, get?_merge_steer, ← htag, hposition]
  rfl

/-- A hint gives every task its row. -/
theorem IsColumn.pinned?_of_contains (h : plan.IsColumn row) (located : Option SelectedValue)
    (hcontains : plan.placement.contains "*" = true) :
    ∃ position, Placement.pinned?
      (plan.placement.merge ((located.map plan.steer).getD [])) "*" = some position := by
  obtain ⟨hint, hhint⟩ := Option.isSome_iff_exists.mp hcontains
  have hmerged : (plan.placement.merge ((located.map plan.steer).getD [])).get? "*" =
      some hint := by
    cases located with
    | none => exact hhint
    | some selected =>
      rw [Option.map_some, Option.getD_some, get?_merge_steer,
        get?_steer_of_contains selected hcontains, Option.none_or, hhint]
  rw [Placement.pinned?, hmerged]
  cases hint with
  | append => exact (h.hint_ne hhint).elim
  | position index => exact ⟨index, rfl⟩

/-- Without a hint the rows are open for a value that its place gives none. -/
theorem IsColumn.openTags_of_steer_eq_nil (h : plan.IsColumn row)
    {located : Option SelectedValue} (hlocated : plan.Locates located)
    (hcontains : plan.placement.contains "*" = false)
    (hnil : (located.map plan.steer).getD [] = []) : plan.openTags = ["*"] := by
  obtain ⟨renames, hcorrelation⟩ := h.correlation_eq
  have huncorrelated := isCorrelated_eq_false_of_steer hlocated hcorrelation hcontains hnil
  rw [h.openTags_eq, hcontains, huncorrelated]
  rfl

/-- The tasks of a column fill it, when they belong to the source of the plan. -/
theorem IsColumn.fillsColumn (h : plan.IsColumn row) (value : Scalar)
    {located : Option SelectedValue} (isOneOfMany : Bool) (hlocated : plan.Locates located) :
    (plan.task value located isOneOfMany).FillsColumn row := by
  refine ⟨h.destination_eq, fun hfalse => ?_, fun htrue => ?_⟩
  · cases hcontains : plan.placement.contains "*" with
    | true => exact h.pinned?_of_contains located hcontains
    | false =>
      have hsteer : (located.map plan.steer).getD [] ≠ [] := by
        intro hnil
        have hopen := h.openTags_of_steer_eq_nil hlocated hcontains hnil
        rw [fansOut_task_iff.mpr ⟨hnil, by simp [hopen]⟩] at hfalse
        cases hfalse
      cases hlocated with
      | nowhere _ => exact (hsteer rfl).elim
      | covered hsource _ => exact h.pinned?_of_steer_ne_nil hsource hsteer
  · have hopen := (fansOut_task_iff.mp htrue).2
    show plan.openTags = ["*"]
    rw [h.openTags_eq] at hopen ⊢
    split at hopen
    · exact (hopen rfl).elim
    · rename_i hclosed
      exact if_neg hclosed

/-- The tasks of a rule fill a column: each of them does, only a single one can go to all rows, and
the counters of the rule are theirs. -/
structure Fills (row : String) (plan : RulePlan) (tasks : List WriteTask) : Prop where
  columns : ∀ task ∈ tasks, task.FillsColumn row
  many : (∀ task ∈ tasks, task.isOneOfMany = true) ∨ ∃ task, tasks = [task]
  counts : ∀ task ∈ tasks, task.Counts (.start plan.openTags)

/-- The tasks of a column's rule fill it. -/
theorem IsColumn.fills (h : plan.IsColumn row) {context : MappingContext}
    {cache after : Cache} {tasks : List WriteTask}
    (htasks : plan.tasks context cache = .ok (tasks, after)) : plan.Fills row tasks := by
  have hplan : ∀ task : WriteTask, task.plan = plan → task.FillsColumn row →
      task.Counts (.start plan.openTags) := by
    intro task heq hfills hfansOut
    have hopen := hfills.openTags_eq hfansOut
    rw [heq] at hopen
    rw [hopen]
    exact ⟨0, rfl⟩
  rcases tasks_cases htasks with ⟨hsource, value, rfl⟩ | ⟨path, hsource, hvalues⟩
  · have hfills := h.fillsColumn value false (.nowhere hsource)
    refine ⟨?_, .inr ⟨_, rfl⟩, ?_⟩
    · rintro task hmem
      rwa [List.mem_singleton.mp hmem]
    · rintro task hmem
      rw [List.mem_singleton.mp hmem]
      exact hplan _ rfl hfills
  · have htask : ∀ task ∈ tasks, task.plan = plan ∧ task.FillsColumn row ∧
        task.isOneOfMany = decide (1 < (path.select context.source).length) := by
      intro task hmem
      obtain ⟨selected, hselected, value, rfl⟩ := exists_mem_of_forall₂ hvalues hmem
      have hcovers := (Path.mem_select_iff.mp hselected).1
      exact ⟨rfl, h.fillsColumn value _ (.covered hsource hcovers), rfl⟩
    refine ⟨fun task hmem => (htask task hmem).2.1, ?_,
      fun task hmem => hplan task (htask task hmem).1 (htask task hmem).2.1⟩
    by_cases hmany : 1 < (path.select context.source).length
    · left
      intro task hmem
      rw [(htask task hmem).2.2]
      exact decide_eq_true hmany
    · have hlength := hvalues.length_eq
      match tasks, hlength with
      | [], _ => exact .inl fun _ hmem => by cases hmem
      | [task], _ => exact .inr ⟨task, rfl⟩
      | _ :: _ :: _, hlength =>
        rw [List.length_cons, List.length_cons] at hlength
        omega

/-- A rule has a single value, and neither a hint nor the place of the value gives it a row. -/
def HasOpenValue (plan : RulePlan) (source : Node) : Prop :=
  plan.placement.contains "*" = false ∧
    (plan.source = none ∨ ∃ path selected, plan.source = some path ∧
      path.select source = [selected] ∧ plan.steer selected = [])

/-- The single value of such a rule goes to all rows. -/
theorem IsColumn.columnWrites_of_hasOpenValue (h : plan.IsColumn row) {context : MappingContext}
    {cache after : Cache} {tasks : List WriteTask}
    (htasks : plan.tasks context cache = .ok (tasks, after))
    (hopen : plan.HasOpenValue context.source) :
    ∃ value, WriteTask.columnWrites (.start plan.openTags) tasks =
      [⟨plan.rule.headerTitle.getD "", value, 0, true⟩] := by
  obtain ⟨hcontains, hvalue⟩ := hopen
  -- a task without hints of its own fans out, and its counter starts at the first row
  have hwrites : ∀ value located, plan.Locates located → (located.map plan.steer).getD [] = [] →
      WriteTask.columnWrites (.start plan.openTags) [plan.task value located false] =
        [⟨plan.rule.headerTitle.getD "", value, 0, true⟩] := by
    intro value located hlocated hnil
    have hopenTags := h.openTags_of_steer_eq_nil hlocated hcontains hnil
    have hfansOut : (plan.task value located false).fansOut = true :=
      fansOut_task_iff.mpr ⟨hnil, by simp [hopenTags]⟩
    have hfirst := WriteTask.pinned?_placementAt_of_fansOut hfansOut 0
    have hstart : Counters.start plan.openTags = [("*", 0)] := by rw [hopenTags]; rfl
    rw [hstart, WriteTask.columnWrites, WriteTask.columnWrites, WriteTask.columnWrite,
      WriteTask.firstRow, hfirst, hfansOut]
    rfl
  rcases tasks_cases htasks with ⟨hnone, value, rfl⟩ | ⟨path, hsource, hvalues⟩
  · exact ⟨value, hwrites value none (.nowhere hnone) rfl⟩
  · rcases hvalue with hnone | ⟨found, selected, hfound, hselect, hnil⟩
    · rw [hnone] at hsource
      cases hsource
    · obtain rfl : path = found := Option.some.inj (hsource.symm.trans hfound)
      have hmem : selected ∈ path.select context.source := by
        rw [hselect]
        exact List.mem_singleton_self selected
      have hcovers := (Path.mem_select_iff.mp hmem).1
      rw [hselect, List.length_singleton] at hvalues
      obtain ⟨task, _, ⟨value, rfl⟩, hrest, rfl⟩ := List.forall₂_cons_left_iff.mp hvalues
      rw [List.forall₂_nil_left_iff.mp hrest]
      exact ⟨value, hwrites value (some selected) (.covered hsource hcovers) hnil⟩

end RulePlan

/-! ## A pass over a table -/

/-- What the tasks of a pass write to the columns of a table. -/
def tableWrites (all : List (RulePlan × List WriteTask)) : List ColumnWrite :=
  all.flatMap fun (plan, tasks) => WriteTask.columnWrites (.start plan.openTags) tasks

namespace Node

variable {target : Node} {row : String} {count : Nat}

/-- The stores of a table keep the way to its cells free. -/
theorem AdmitsShape.storeAll_depositsFrom (hadmits : target.AdmitsShape (cell row 0 ""))
    (writes : List ColumnWrite) :
    (target.storeAll (ColumnWrite.depositsFrom row count writes)).AdmitsShape (cell row 0 "") := by
  refine hadmits.storeAll fun deposit hmem => ?_
  obtain ⟨position, title, hlocation⟩ := ColumnWrite.exists_cell_of_mem hmem
  rw [hlocation]
  exact sameShape_cell row row title "" position 0

/-- After some writes of columns the table has their rows. -/
theorem lengthAt_storeAll_depositsFrom (hcount : target.lengthAt [.property row] = count)
    (writes : List ColumnWrite) :
    (target.storeAll (ColumnWrite.depositsFrom row count writes)).lengthAt [.property row] =
      ColumnWrite.rowsAfter count writes := by
  induction writes generalizing target count with
  | nil => exact hcount
  | cons write rest ih =>
    rw [ColumnWrite.depositsFrom, storeAll_append,
      ih (lengthAt_storeAll_deposits hcount write)]
    rfl

end Node

/-- The writes of a pass over a table are those of its columns. -/
theorem writePass_eq_ok_iff {row : String} {all : List (RulePlan × List WriteTask)}
    (hfill : ∀ plan tasks, (plan, tasks) ∈ all → plan.Fills row tasks)
    {ceiling count : Nat} {target after : Node} (hadmits : target.AdmitsShape (cell row 0 ""))
    (hcount : target.lengthAt [.property row] = count) :
    writePass ceiling all target = .ok after ↔
      ColumnWrite.FitFrom ceiling count (tableWrites all) ∧
        after = target.storeAll (ColumnWrite.depositsFrom row count (tableWrites all)) := by
  induction all generalizing target count with
  | nil =>
    constructor
    · rintro ⟨⟩
      exact ⟨trivial, rfl⟩
    · rintro ⟨_, rfl⟩
      rfl
  | cons entry rest ih =>
    obtain ⟨plan, tasks⟩ := entry
    have hfills := hfill plan tasks List.mem_cons_self
    have hrest := fun plan tasks hmem => hfill plan tasks (List.mem_cons_of_mem _ hmem)
    let writes := WriteTask.columnWrites (.start plan.openTags) tasks
    have hlater := ih hrest (hadmits.storeAll_depositsFrom writes)
      (Node.lengthAt_storeAll_depositsFrom hcount writes)
    have hsplit : tableWrites ((plan, tasks) :: rest) = writes ++ tableWrites rest := rfl
    simp only [writePass, Except.bind_eq_ok_iff,
      WriteTask.writeEach_eq_ok_iff hfills.columns hfills.many hfills.counts hadmits hcount]
    rw [hsplit, ColumnWrite.fitFrom_append, ColumnWrite.depositsFrom_append, Node.storeAll_append,
      and_assoc, ← hlater]
    constructor
    · rintro ⟨_, ⟨hfit, rfl⟩, hafter⟩
      exact ⟨hfit, hafter⟩
    · rintro ⟨hfit, hafter⟩
      exact ⟨_, ⟨hfit, rfl⟩, hafter⟩

/-- Two passes settle a table: a further pass succeeds and changes nothing, and what goes to all
rows from the first on stands in all of them. -/
theorem writePass_settles {row : String} {all : List (RulePlan × List WriteTask)}
    (hfill : ∀ plan tasks, (plan, tasks) ∈ all → plan.Fills row tasks)
    {ceiling : Nat} {first second : Node}
    (hfirst : writePass ceiling all (.object []) = .ok first)
    (hsecond : writePass ceiling all first = .ok second) :
    writePass ceiling all second = .ok second ∧
      ∀ write ∈ tableWrites all, write.onward = true → write.first = 0 →
        ∀ position < second.lengthAt [.property row], ∃ value,
          second.at? (cell row position write.title) = some (.scalar value) := by
  let count := ColumnWrite.rowsAfter 0 (tableWrites all)
  have hempty : (Node.object []).AdmitsShape (cell row 0 "") :=
    admitsShape_of_locationBy? (locationBy?_tabularColumn (fun _ => some 0) row "")
  have hnone : (Node.object []).lengthAt [.property row] = 0 := rfl
  obtain ⟨_, rfl⟩ := (writePass_eq_ok_iff hfill hempty hnone).mp hfirst
  have hadmits : ((Node.object []).storeAll
      (ColumnWrite.depositsFrom row 0 (tableWrites all))).AdmitsShape (cell row 0 "") :=
    hempty.storeAll_depositsFrom (tableWrites all)
  have hcount := Node.lengthAt_storeAll_depositsFrom hnone (tableWrites all)
  obtain ⟨hfit, rfl⟩ := (writePass_eq_ok_iff hfill hadmits hcount).mp hsecond
  have hdeposits : ∀ deposit ∈ ColumnWrite.depositsFrom row count (tableWrites all),
      deposit.location.SameShape (cell row 0 "") := by
    intro deposit hmem
    obtain ⟨position, title, hlocation⟩ := ColumnWrite.exists_cell_of_mem hmem
    rw [hlocation]
    exact Node.sameShape_cell row row title "" position 0
  -- the second pass has added no rows, so a further pass makes the same stores
  have hrows := Node.lengthAt_storeAll_depositsFrom hcount (tableWrites all)
  rw [ColumnWrite.rowsAfter_rowsAfter] at hrows
  refine ⟨?_, ?_⟩
  · refine (writePass_eq_ok_iff hfill (hadmits.storeAll_depositsFrom (tableWrites all))
      hrows).mpr ⟨hfit, ?_⟩
    exact (Node.storeAll_storeAll hadmits hdeposits).symm
  · intro write hmem honward hstart position hlt
    rw [hrows] at hlt
    have hle : write.first ≤ position := by omega
    obtain ⟨deposit, hdeposit, hlocation⟩ :=
      @ColumnWrite.exists_mem_depositsFrom row count _ _ hmem honward position hle hlt
    obtain ⟨value, hlast⟩ := Deposit.exists_last? hdeposit
    rw [hlocation] at hlast
    exact ⟨value, Node.at?_storeAll hadmits hdeposits
      (Node.sameShape_cell row row write.title "" position 0) hlast⟩

/-! ## Two passes -/

/-- A rule of a table is planned as a column. -/
theorem RulePlan.isColumn_of_ofRule {rule : Rule} {lookups : Lookups} {options : MappingOptions}
    {settings : EngineSettings} {plan : RulePlan}
    (hplan : RulePlan.ofRule rule lookups options settings = .ok plan)
    (hcolumn : rule.destinationField = none)
    (hhints : ∀ hints, Hints.readOptional rule.placementHint = .ok hints →
      hints.placement.get? "*" ≠ some .append) :
    plan.IsColumn settings.rowProperty := by
  obtain ⟨destination, source, mode, format, hints, hdestination, _, _, _, hhintsOf, rfl⟩ :=
    RulePlan.ofRule_eq_ok_iff.mp hplan
  refine ⟨?_, ⟨hints.renames, rfl⟩, hhints hints ?_⟩
  · unfold RulePlan.destinationOf at hdestination
    rw [hcolumn] at hdestination
    simp only at hdestination
    split at hdestination
    · rename_i title htitle
      split at hdestination
      · cases hdestination
        simp only [htitle, Option.getD_some]
      · cases hdestination
    · cases hdestination
  · unfold RulePlan.hintsOf at hhintsOf
    cases hread : Hints.readOptional rule.placementHint with
    | error problem => simp [hread, Except.mapError] at hhintsOf
    | ok found =>
      rw [hread] at hhintsOf
      cases hhintsOf
      rfl

/-- A table on which nothing is left to do. -/
structure SettledTable (plans : List RulePlan) (context : MappingContext) (cache : Cache)
    (target : Node) : Prop where
  /-- A further pass succeeds and changes nothing. -/
  stable : ∀ pass, (applyPass plans context cache target pass).result = .ok target
  /-- A single value that nothing gives a row stands in every row. -/
  filled : ∀ plan ∈ plans, plan.HasOpenValue context.source →
    ∀ title, plan.rule.headerTitle = some title →
      ∀ position < target.lengthAt [.property context.settings.rowProperty], ∃ value,
        target.at? (cell context.settings.rowProperty position title) = some (.scalar value)

/-- A table that can be mapped without hints to append rows is settled after its two passes. -/
theorem two_passes_suffice {settings : EngineSettings} {modules : ModuleCache Expression}
    {source target : Node} {rules : List Rule} {lookups : Lookups} {options : MappingOptions}
    (htabular : options.isTabular = true)
    (hcolumns : ∀ rule ∈ rules, rule.isDisabled = false → rule.destinationField = none)
    (hhints : ∀ rule ∈ rules, rule.isDisabled = false → ∀ hints,
      Hints.readOptional rule.placementHint = .ok hints → hints.placement.get? "*" ≠ some .append)
    (hrun : (mapSource settings modules source rules lookups options).1.result = .ok target) :
    ∃ plans module cache,
      (planRules lookups options settings rules).result = .ok plans ∧
      prepare modules source rules options = .ok (module, cache) ∧
      SettledTable plans ⟨source, module, settings⟩ cache target := by
  obtain ⟨plans, module, cache, hplans, hprepare, hpasses⟩ := mapSource_eq_ok_iff.mp hrun
  refine ⟨plans, module, cache, hplans, hprepare, ?_⟩
  have hcolumn : ∀ plan ∈ plans, plan.IsColumn settings.rowProperty := by
    intro plan hmem
    obtain ⟨rule, hrule, hplan⟩ := exists_mem_of_forall₂ (planRules_eq_ok_iff.mp hplans) hmem
    obtain ⟨hrule, henabled⟩ := List.mem_filter.mp hrule
    rw [Bool.not_eq_true'] at henabled
    exact RulePlan.isColumn_of_ofRule hplan (hcolumns rule hrule henabled)
      (hhints rule hrule henabled)
  -- both passes have the same tasks
  rw [passes, htabular, if_pos rfl] at hpasses
  simp only [List.foldlM_cons, List.foldlM_nil, Logged.bind_eq_ok_iff, Logged.result_pure,
    Except.ok.injEq, applyPass_eq_ok_iff] at hpasses
  obtain ⟨between, ⟨all, hall, hfirst⟩, last, ⟨again, hagain, hsecond⟩, rfl⟩ := hpasses
  obtain rfl : all = again := Except.ok.inj (hall.symm.trans hagain)
  have hfill : ∀ plan tasks, (plan, tasks) ∈ all → plan.Fills settings.rowProperty tasks := by
    intro plan tasks hmem
    obtain ⟨hplan, _, _, htasks⟩ := exists_tasks_of_mem hall hmem
    exact (hcolumn plan hplan).fills htasks
  obtain ⟨hthird, hreached⟩ := writePass_settles hfill hfirst hsecond
  refine ⟨fun pass => applyPass_eq_ok_iff.mpr ⟨all, hall, hthird⟩, ?_⟩
  intro plan hmem hopen title htitle
  obtain ⟨tasks, htasks⟩ := exists_mem_passTasks hall hmem
  obtain ⟨_, _, _, hcomputed⟩ := exists_tasks_of_mem hall htasks
  obtain ⟨value, hwrites⟩ := (hcolumn plan hmem).columnWrites_of_hasOpenValue hcomputed hopen
  rw [htitle, Option.getD_some] at hwrites
  have hwrite : (⟨title, value, 0, true⟩ : ColumnWrite) ∈ tableWrites all := by
    refine List.mem_flatMap.mpr ⟨(plan, tasks), htasks, ?_⟩
    show _ ∈ WriteTask.columnWrites (.start plan.openTags) tasks
    rw [hwrites]
    exact List.mem_singleton_self _
  exact hreached _ hwrite rfl rfl

/-- A rule that takes the values of a field to the column of its name. -/
def columnRule (name : String) : Rule :=
  { Rule.empty with sourceField := some name, headerTitle := some name }

/-- The customer and the numbers of an order as fields. -/
def orderLookups : Lookups :=
  ⟨[("customer", ⟨"customer", "$.customer"⟩), ("x", ⟨"x", "$.lines[*].x"⟩)], [], []⟩

/-- An order of two lines. -/
def order : Node :=
  .object [("customer", .scalar (.string "ada")),
    ("lines", .array
      [.object [("x", .scalar (.integer 1))], .object [("x", .scalar (.integer 5))]])]

/-- The table of the order; the customer has come to the second line in the second pass. -/
def orderTable : Node :=
  .object [("row", .array
    [.object [("customer", .scalar (.string "ada")), ("x", .scalar (.integer 1))],
      .object [("x", .scalar (.integer 5)), ("customer", .scalar (.string "ada"))]])]

/-- The table of an order is settled. -/
theorem two_passes_suffice_for_order :
    (∀ rule ∈ [columnRule "customer", columnRule "x"],
      rule.isDisabled = false → rule.destinationField = none) ∧
    (∀ rule ∈ [columnRule "customer", columnRule "x"], rule.isDisabled = false → ∀ hints,
      Hints.readOptional rule.placementHint = .ok hints → hints.placement.get? "*" ≠ some .append) ∧
    (mapSource .default ⟨[], 0⟩ order [columnRule "customer", columnRule "x"] orderLookups
      ⟨true, none, none⟩).1.result = .ok orderTable ∧
    ∃ plans module cache,
      (planRules orderLookups ⟨true, none, none⟩ .default
        [columnRule "customer", columnRule "x"]).result = .ok plans ∧
      prepare ⟨[], 0⟩ order [columnRule "customer", columnRule "x"] ⟨true, none, none⟩ =
        .ok (module, cache) ∧
      SettledTable plans ⟨order, module, .default⟩ cache orderTable := by
  have hrules : ∀ rule ∈ [columnRule "customer", columnRule "x"],
      rule.destinationField = none ∧ rule.placementHint = none := by
    intro rule hmem
    simp only [List.mem_cons, List.not_mem_nil, or_false] at hmem
    rcases hmem with rfl | rfl <;> exact ⟨rfl, rfl⟩
  have hcolumns : ∀ rule ∈ [columnRule "customer", columnRule "x"],
      rule.isDisabled = false → rule.destinationField = none :=
    fun rule hmem _ => (hrules rule hmem).1
  have hhints : ∀ rule ∈ [columnRule "customer", columnRule "x"], rule.isDisabled = false →
      ∀ hints, Hints.readOptional rule.placementHint = .ok hints →
        hints.placement.get? "*" ≠ some .append := by
    intro rule hmem _ hints hread happend
    rw [(hrules rule hmem).2] at hread
    cases hread
    cases happend
  have hcustomer : RulePlan.sourceOf (columnRule "customer") orderLookups =
      .ok (some ⟨[.property "customer"]⟩) := by cbv
  have hnumbers : RulePlan.sourceOf (columnRule "x") orderLookups =
      .ok (some ⟨[⟨"lines", .wildcard 1⟩, .property "x"]⟩) := by cbv
  have hrun : (mapSource .default ⟨[], 0⟩ order [columnRule "customer", columnRule "x"]
      orderLookups ⟨true, none, none⟩).1.result = .ok orderTable := by
    rw [mapSource_eq_ok_iff]
    refine ⟨_, none, [], planRules_eq_ok_iff.mpr
      (.cons (RulePlan.ofRule_eq_ok_iff.mpr ⟨_, _, _, _, _, rfl, hcustomer, rfl, rfl, rfl, rfl⟩)
        (.cons (RulePlan.ofRule_eq_ok_iff.mpr ⟨_, _, _, _, _, rfl, hnumbers, rfl, rfl, rfl, rfl⟩)
          .nil)), prepare_of_isEmpty rfl, ?_⟩
    simp only [passes, if_true, List.foldlM_cons, List.foldlM_nil, Logged.bind_eq_ok_iff,
      Logged.result_pure, Except.ok.injEq, applyPass_eq_ok_iff]
    refine ⟨.object [("row", .array
      [.object [("customer", .scalar (.string "ada")), ("x", .scalar (.integer 1))],
        .object [("x", .scalar (.integer 5))]])], ⟨_, rfl, rfl⟩, _, ⟨_, rfl, rfl⟩, rfl⟩
  exact ⟨hcolumns, hhints, hrun, two_passes_suffice rfl hcolumns hhints hrun⟩

end DocumentMapping
