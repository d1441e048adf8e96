import DocumentMapping.Proofs.Mapping.FanOut
import DocumentMapping.Proofs.Mapping.Tables

/-!
# What rules compute

A run can be recorded: for every rule the values that it computes, the places in the source that
they belong to, the number of writes that each of them takes, and the scratch cache that the rule
leaves. Computing and writing take turns, and how often a value is written depends on the target.
The values and the scratch cache do not: two recorded runs of the same rules from one scratch cache
have computed the same, whatever the targets are that they started from.
-/

namespace DocumentMapping

open Expression (Cache)

/-! ## Recorded runs -/

/-- A value that a rule has computed and written: the place in the source that it belongs to, and
how often it was written. -/
structure ValueRecord where
  place : Option SelectedValue
  value : Scalar
  writes : Nat
deriving Repr

/-- What a rule has done in a run: its values in order, and the scratch cache that it has left. -/
structure RuleRecord where
  plan : RulePlan
  values : List ValueRecord
  cache : Cache
deriving Repr

/-- What a rule has computed: its values, and the scratch cache after them. -/
def RuleRecord.computation (record : RuleRecord) : List Scalar × Cache :=
  (record.values.map (·.value), record.cache)

namespace RulePlan

/-- The places in the source that a rule computes values for. A rule without a source computes a
single value, which belongs to no place. -/
def places (plan : RulePlan) (source : Node) : List (Option SelectedValue) :=
  match plan.source with
  | none => [none]
  | some path => (path.select source).map some

/-- Computes and writes the values for some places one after the other, and records them. -/
def recordValues (plan : RulePlan) (context : MappingContext) (isOneOfMany : Bool) :
    List (Option SelectedValue) → RuleState → Except MappingError (List ValueRecord × RuleState)
  | [], state => .ok ([], state)
  | place :: rest, state =>
    (plan.value context.module (singleInputs context.source place) state.cache).result.bind
      fun (value, cache) =>
        ((plan.task value place isOneOfMany).write context.settings.writeCeiling state.counters
          state.target).result.bind fun outcome =>
            (plan.recordValues context isOneOfMany rest
              ⟨state.writes + outcome.writes, outcome.counters, cache, outcome.target⟩).map
                fun (records, last) => (⟨place, value, outcome.writes⟩ :: records, last)

/-- Applies a rule and records what it does. -/
def recordRule (plan : RulePlan) (context : MappingContext) (state : PassState) :
    Except MappingError (RuleRecord × PassState) :=
  (plan.recordValues context (decide (1 < (plan.places context.source).length))
    (plan.places context.source) ⟨0, .start plan.openTags, state.cache, state.target⟩).map
      fun (values, last) => (⟨plan, values, last.cache⟩, ⟨last.cache, last.target⟩)

end RulePlan

/-- Applies rules in order and records what they do. -/
def recordRules (context : MappingContext) :
    List RulePlan → PassState → Except MappingError (List RuleRecord × PassState)
  | [], state => .ok ([], state)
  | plan :: rest, state =>
    (plan.recordRule context state).bind fun (record, state) =>
      (recordRules context rest state).map fun (records, last) => (record :: records, last)

/-! ## Recording changes nothing -/

namespace RulePlan

variable {plan : RulePlan} {context : MappingContext}

/-- Recording a value and those after it is writing it and recording the others. -/
theorem map_recordValues_cons (isOneOfMany : Bool) (place : Option SelectedValue)
    (rest : List (Option SelectedValue)) (state : RuleState) :
    (plan.recordValues context isOneOfMany (place :: rest) state).map Prod.snd =
      (plan.writeValue context (singleInputs context.source place).item
        (singleInputs context.source place).value place isOneOfMany state).result.bind
          fun next => (plan.recordValues context isOneOfMany rest next).map Prod.snd := by
  have hinputs : (⟨context.source, (singleInputs context.source place).item,
      (singleInputs context.source place).value⟩ : ValueInputs) =
        singleInputs context.source place := by
    cases place <;> rfl
  rw [recordValues, writeValue, hinputs, Logged.result_bind]
  cases (plan.value context.module (singleInputs context.source place) state.cache).result with
  | error problem => rfl
  | ok computed =>
    obtain ⟨value, cache⟩ := computed
    simp only [Except.bind, Logged.result_bind]
    cases ((plan.task value place isOneOfMany).write context.settings.writeCeiling state.counters
      state.target).result with
    | error problem => rfl
    | ok outcome =>
      simp only [Logged.result_pure]
      cases plan.recordValues context isOneOfMany rest
        ⟨state.writes + outcome.writes, outcome.counters, cache, outcome.target⟩ <;> rfl

/-- Recording the values of the source is writing them, but for the records. -/
theorem map_recordValues (isOneOfMany : Bool) (values : List SelectedValue) (state : RuleState) :
    (plan.recordValues context isOneOfMany (values.map some) state).map Prod.snd =
      (values.foldlM (plan.writeSelected context isOneOfMany) state).result := by
  induction values generalizing state with
  | nil => rfl
  | cons selected rest ih =>
    rw [List.map_cons, map_recordValues_cons, List.foldlM_cons, Logged.result_bind]
    congr 1
    funext next
    exact ih next

/-- Recording a rule is applying it, but for the record. -/
theorem map_recordRule (plan : RulePlan) (context : MappingContext) (pass : Nat)
    (state : PassState) :
    (plan.recordRule context state).map Prod.snd = (plan.apply context pass state).result := by
  have hwrites : (plan.recordValues context (decide (1 < (plan.places context.source).length))
      (plan.places context.source) ⟨0, .start plan.openTags, state.cache, state.target⟩).map
        Prod.snd =
      (plan.writeAll context ⟨0, .start plan.openTags, state.cache, state.target⟩).result := by
    cases hsource : plan.source with
    | none =>
      have hplaces : plan.places context.source = [none] := by rw [places, hsource]
      rw [hplaces, map_recordValues_cons, writeAll, hsource]
      show Except.bind (plan.writeValue context .placeholder .null none false
        ⟨0, .start plan.openTags, state.cache, state.target⟩).result Except.ok = _
      cases (plan.writeValue context .placeholder .null none false
        ⟨0, .start plan.openTags, state.cache, state.target⟩).result <;> rfl
    | some path =>
      have hplaces : plan.places context.source = (path.select context.source).map some := by
        rw [places, hsource]
      rw [hplaces, map_recordValues, List.length_map, writeAll_of_source hsource]
  rw [recordRule, apply, Logged.result_bind, ← hwrites]
  cases plan.recordValues context (decide (1 < (plan.places context.source).length))
    (plan.places context.source) ⟨0, .start plan.openTags, state.cache, state.target⟩ <;> rfl

end RulePlan

/-- Recording a pass is making it, but for the records. -/
theorem map_recordRules (context : MappingContext) (plans : List RulePlan) (pass : Nat)
    (state : PassState) :
    (recordRules context plans state).map Prod.snd =
      (plans.foldlM (fun (state : PassState) plan => RulePlan.apply plan context pass state)
        state).result := by
  induction plans generalizing state with
  | nil => rfl
  | cons plan rest ih =>
    rw [recordRules, List.foldlM_cons, Logged.result_bind, ← plan.map_recordRule context pass state]
    cases plan.recordRule context state with
    | error problem => rfl
    | ok recorded =>
      simp only [Except.bind, Except.map, ← ih]
      cases recordRules context rest recorded.2 <;> rfl

/-! ## Two runs -/

namespace RulePlan

variable {plan : RulePlan} {context : MappingContext}

/-- A value is recorded for every place, in their order. -/
theorem map_place_of_recordValues {isOneOfMany : Bool} {places : List (Option SelectedValue)}
    {state last : RuleState} {records : List ValueRecord}
    (h : plan.recordValues context isOneOfMany places state = .ok (records, last)) :
    records.map (·.place) = places := by
  induction places generalizing state records with
  | nil =>
    cases h
    rfl
  | cons place rest ih =>
    simp only [recordValues, Except.bind_eq_ok_iff, Except.map_eq_ok_iff, Prod.exists,
      Prod.mk.injEq] at h
    obtain ⟨_, _, _, _, _, more, _, hmore, rfl, rfl⟩ := h
    rw [List.map_cons, ih hmore]

/-- Values are computed in the same way from the same scratch cache, however the states differ in
the rest. -/
theorem recordValues_agree {isOneOfMany : Bool} {places : List (Option SelectedValue)}
    {first second firstLast secondLast : RuleState} {firstRecords secondRecords : List ValueRecord}
    (hcache : first.cache = second.cache)
    (hfirst : plan.recordValues context isOneOfMany places first = .ok (firstRecords, firstLast))
    (hsecond : plan.recordValues context isOneOfMany places second =
      .ok (secondRecords, secondLast)) :
    firstRecords.map (·.value) = secondRecords.map (·.value) ∧
      firstLast.cache = secondLast.cache := by
  induction places generalizing first second firstRecords secondRecords with
  | nil =>
    cases hfirst
    cases hsecond
    exact ⟨rfl, hcache⟩
  | cons place rest ih =>
    simp only [recordValues, Except.bind_eq_ok_iff, Except.map_eq_ok_iff, Prod.exists,
      Prod.mk.injEq] at hfirst hsecond
    obtain ⟨value, cache, hvalue, _, _, firsts, _, hfirsts, rfl, rfl⟩ := hfirst
    obtain ⟨other, after, hother, _, _, seconds, _, hseconds, rfl, rfl⟩ := hsecond
    -- the value and the next scratch cache do not depend on what was written before
    rw [hcache, hother] at hvalue
    obtain ⟨rfl, rfl⟩ := Prod.mk.inj (Except.ok.inj hvalue)
    obtain ⟨hvalues, hlast⟩ := ih (by rfl) hfirsts hseconds
    exact ⟨congrArg (other :: ·) hvalues, hlast⟩

/-- The record of a rule has a value for each of its places. -/
theorem map_place_of_recordRule {state last : PassState} {record : RuleRecord}
    (h : plan.recordRule context state = .ok (record, last)) :
    record.plan = plan ∧ record.values.map (·.place) = plan.places context.source := by
  obtain ⟨⟨values, after⟩, hvalues, heq⟩ := Except.map_eq_ok_iff.mp h
  obtain ⟨rfl, rfl⟩ := Prod.mk.inj heq
  exact ⟨rfl, map_place_of_recordValues hvalues⟩

/-- From one scratch cache a rule computes the same for every target. -/
theorem recordRule_agree {first second firstLast secondLast : PassState}
    {firstRecord secondRecord : RuleRecord} (hcache : first.cache = second.cache)
    (hfirst : plan.recordRule context first = .ok (firstRecord, firstLast))
    (hsecond : plan.recordRule context second = .ok (secondRecord, secondLast)) :
    firstRecord.computation = secondRecord.computation ∧ firstLast.cache = secondLast.cache := by
  obtain ⟨⟨firsts, firstAfter⟩, hfirsts, heq⟩ := Except.map_eq_ok_iff.mp hfirst
  obtain ⟨rfl, rfl⟩ := Prod.mk.inj heq
  obtain ⟨⟨seconds, secondAfter⟩, hseconds, heq⟩ := Except.map_eq_ok_iff.mp hsecond
  obtain ⟨rfl, rfl⟩ := Prod.mk.inj heq
  obtain ⟨hvalues, hafter⟩ := recordValues_agree hcache hfirsts hseconds
  exact ⟨Prod.ext hvalues hafter, hafter⟩

end RulePlan

/-- Two recorded runs of some rules have computed the same: in both every rule has computed one
value for each of its places, in their order, and the values and the scratch cache that it has left
are the same. -/
structure ComputeAlike (source : Node) (plans : List RulePlan) (first second : List RuleRecord) :
    Prop where
  first_plans : first.map (·.plan) = plans
  second_plans : second.map (·.plan) = plans
  first_places : first.map (·.values.map (·.place)) = plans.map (·.places source)
  second_places : second.map (·.values.map (·.place)) = plans.map (·.places source)
  computations : first.map (·.computation) = second.map (·.computation)

/-- From one scratch cache some rules compute the same for every target. -/
theorem recordRules_agree {context : MappingContext} {plans : List RulePlan}
    {first second firstLast secondLast : PassState} {firstRecords secondRecords : List RuleRecord}
    (hcache : first.cache = second.cache)
    (hfirst : recordRules context plans first = .ok (firstRecords, firstLast))
    (hsecond : recordRules context plans second = .ok (secondRecords, secondLast)) :
    ComputeAlike context.source plans firstRecords secondRecords ∧
      firstLast.cache = secondLast.cache := by
  induction plans generalizing first second firstRecords secondRecords with
  | nil =>
    cases hfirst
    cases hsecond
    exact ⟨⟨rfl, rfl, rfl, rfl, rfl⟩, hcache⟩
  | cons plan rest ih =>
    simp only [recordRules, Except.bind_eq_ok_iff, Except.map_eq_ok_iff, Prod.exists,
      Prod.mk.injEq] at hfirst hsecond
    obtain ⟨firstRecord, firstNext, hone, firsts, _, hfirsts, rfl, rfl⟩ := hfirst
    obtain ⟨secondRecord, secondNext, htwo, seconds, _, hseconds, rfl, rfl⟩ := hsecond
    obtain ⟨hcomputation, hnext⟩ := RulePlan.recordRule_agree hcache hone htwo
    obtain ⟨halike, hlast⟩ := ih hnext hfirsts hseconds
    obtain ⟨hfirstPlan, hfirstPlaces⟩ := RulePlan.map_place_of_recordRule hone
    obtain ⟨hsecondPlan, hsecondPlaces⟩ := RulePlan.map_place_of_recordRule htwo
    exact ⟨⟨congrArg₂ List.cons hfirstPlan halike.first_plans,
      congrArg₂ List.cons hsecondPlan halike.second_plans,
      congrArg₂ List.cons hfirstPlaces halike.first_places,
      congrArg₂ List.cons hsecondPlaces halike.second_places,
      congrArg₂ List.cons hcomputation halike.computations⟩, hlast⟩

/-- A pass that succeeds can be recorded. -/
theorem exists_recordRules {context : MappingContext} {plans : List RulePlan} {pass : Nat}
    {state last : PassState}
    (h : (plans.foldlM (fun (state : PassState) plan => RulePlan.apply plan context pass state)
      state).result = .ok last) :
    ∃ records, recordRules context plans state = .ok (records, last) := by
  rw [← map_recordRules] at h
  obtain ⟨⟨records, _⟩, hrecords, rfl⟩ := Except.map_eq_ok_iff.mp h
  exact ⟨records, hrecords⟩

/-- The two passes of a table can be recorded; they start from one scratch cache. -/
theorem exists_recordRules_of_isTabular {settings : EngineSettings}
    {modules : ModuleCache Expression} {source target : Node} {rules : List Rule}
    {lookups : Lookups} {options : MappingOptions} (htabular : options.isTabular = true)
    (hrun : (mapSource settings modules source rules lookups options).1.result = .ok target) :
    ∃ plans module cache firstRecords between secondRecords last,
      (planRules lookups options settings rules).result = .ok plans ∧
      prepare modules source rules options = .ok (module, cache) ∧
      recordRules ⟨source, module, settings⟩ plans ⟨cache, .object []⟩ =
        .ok (firstRecords, between) ∧
      recordRules ⟨source, module, settings⟩ plans ⟨cache, between.target⟩ =
        .ok (secondRecords, last) ∧
      last.target = target := by
  obtain ⟨plans, module, cache, hplans, hprepare, hpasses⟩ := mapSource_eq_ok_iff.mp hrun
  rw [passes, if_pos htabular] at hpasses
  simp only [List.foldlM_cons, List.foldlM_nil, applyPass, Logged.bind_eq_ok_iff,
    Logged.result_pure, Except.ok.injEq] at hpasses
  obtain ⟨_, ⟨between, hfirst, rfl⟩, _, ⟨last, hsecond, rfl⟩, rfl⟩ := hpasses
  obtain ⟨firstRecords, hfirstRecords⟩ := exists_recordRules hfirst
  obtain ⟨secondRecords, hsecondRecords⟩ := exists_recordRules hsecond
  exact ⟨plans, module, cache, firstRecords, between, secondRecords, last, hplans, hprepare,
    hfirstRecords, hsecondRecords, rfl⟩

/-- What rules compute does not depend on the target. Any two targets on which the rules succeed
from one scratch cache see the same values, one for each place in the order of the source, and the
same scratch caches. The two passes of a table start from one scratch cache, so they compute the
same. -/
theorem values_do_not_depend_on_target :
    (∀ (context : MappingContext) (plans : List RulePlan) (cache : Cache)
      (firstPass secondPass : Nat) (first second : Node) (firstLast secondLast : PassState),
      (plans.foldlM (fun (state : PassState) plan => RulePlan.apply plan context firstPass state)
        ⟨cache, first⟩).result = .ok firstLast →
      (plans.foldlM (fun (state : PassState) plan => RulePlan.apply plan context secondPass state)
        ⟨cache, second⟩).result = .ok secondLast →
      ∃ firstRecords secondRecords,
        recordRules context plans ⟨cache, first⟩ = .ok (firstRecords, firstLast) ∧
        recordRules context plans ⟨cache, second⟩ = .ok (secondRecords, secondLast) ∧
        ComputeAlike context.source plans firstRecords secondRecords ∧
        firstLast.cache = secondLast.cache) ∧
    (∀ (settings : EngineSettings) (modules : ModuleCache Expression) (source : Node)
      (rules : List Rule) (lookups : Lookups) (options : MappingOptions) (target : Node),
      options.isTabular = true →
      (mapSource settings modules source rules lookups options).1.result = .ok target →
      ∃ plans module cache firstRecords between secondRecords last,
        (planRules lookups options settings rules).result = .ok plans ∧
        prepare modules source rules options = .ok (module, cache) ∧
        recordRules ⟨source, module, settings⟩ plans ⟨cache, .object []⟩ =
          .ok (firstRecords, between) ∧
        recordRules ⟨source, module, settings⟩ plans ⟨cache, between.target⟩ =
          .ok (secondRecords, last) ∧
        last.target = target ∧
        ComputeAlike source plans firstRecords secondRecords) := by
  refine ⟨?_, ?_⟩
  · intro context plans cache firstPass secondPass first second firstLast secondLast hfirst hsecond
    obtain ⟨firstRecords, hfirstRecords⟩ := exists_recordRules hfirst
    obtain ⟨secondRecords, hsecondRecords⟩ := exists_recordRules hsecond
    exact ⟨firstRecords, secondRecords, hfirstRecords, hsecondRecords,
      recordRules_agree (by rfl) hfirstRecords hsecondRecords⟩
  · intro settings modules source rules lookups options target htabular hrun
    obtain ⟨plans, module, cache, firstRecords, between, secondRecords, last, hplans, hprepare,
      hfirst, hsecond, hlast⟩ := exists_recordRules_of_isTabular htabular hrun
    exact ⟨plans, module, cache, firstRecords, between, secondRecords, last, hplans, hprepare,
      hfirst, hsecond, hlast, (recordRules_agree (by rfl) hfirst hsecond).1⟩

/-- A module with the total of the scratch cache and with one that adds a value to it. -/
def sums : ExpressionModule :=
  ⟨"sums", [("total", .call .get [.literal (.string "sum")]),
    ("running", .call .set [.literal (.string "sum"),
      .binary .add (.call .get [.literal (.string "sum")]) (.input .value)])], 0⟩

/-- The plan of a rule that takes the values of an expression to the column of its name. -/
def sumPlan (name : String) (source : Option Path) : RulePlan where
  rule := { Rule.empty with id := name, headerTitle := some name }
  destination := Path.tabularColumn "row" name
  source := source
  placement := []
  matched := Correlation.matchedOptional (Path.tabularColumn "row" name) source []
  correlation := Correlation.ofPaths (Path.tabularColumn "row" name) source []
  mode := .expression
  format := none

/-- The total goes to all rows, and each line of an order adds to it in a row of its own. -/
def sumPlans : List RulePlan :=
  [sumPlan "total" none, sumPlan "running" (some ⟨[⟨"lines", .wildcard 1⟩, .property "x"]⟩)]

/-- An order is mapped to its table. -/
theorem mapSource_order :
    (mapSource .default ⟨[], 0⟩ order [columnRule "customer", columnRule "x"] orderLookups
      ⟨true, none, none⟩).1.result = .ok orderTable := by
  have hcustomer : RulePlan.sourceOf (columnRule "customer") orderLookups =
      .ok (some ⟨[.property "customer"]⟩) := by cbv
  have hnumbers : RulePlan.sourceOf (columnRule "x") orderLookups =
      .ok (some ⟨[⟨"lines", .wildcard 1⟩, .property "x"]⟩) := by cbv
  rw [mapSource_eq_ok_iff]
  refine ⟨_, none, [], planRules_eq_ok_iff.mpr
    (.cons (RulePlan.ofRule_eq_ok_iff.mpr ⟨_, _, _, _, _, rfl, hcustomer, rfl, rfl, rfl, rfl⟩)
      (.cons (RulePlan.ofRule_eq_ok_iff.mpr ⟨_, _, _, _, _, rfl, hnumbers, rfl, rfl, rfl, rfl⟩)
        .nil)), prepare_of_isEmpty rfl, ?_⟩
  simp only [passes, if_true, List.foldlM_cons, List.foldlM_nil, Logged.bind_eq_ok_iff,
    Logged.result_pure, Except.ok.injEq, applyPass_eq_ok_iff]
  exact ⟨_, ⟨_, rfl, rfl⟩, _, ⟨_, rfl, rfl⟩, rfl⟩

/-- A table of two rows with a total and running sums, some of which are there. -/
def sumTable (first second : OrderedMap Node) : Node :=
  .object [("row", .array [.object first, .object second])]

/-- The total is written once to an empty target and twice to the table of the order, and is the
same in both. An order without expressions is mapped to its table in two passes. -/
theorem values_do_not_depend_on_target_of_sums :
    (recordRules ⟨order, some sums, .default⟩ sumPlans
        ⟨[("sum", .scalar (.integer 4))], .object []⟩).map
      (fun recorded => recorded.1.map (·.values.map (·.writes))) = .ok [[1], [1, 1]] ∧
    (recordRules ⟨order, some sums, .default⟩ sumPlans
        ⟨[("sum", .scalar (.integer 4))], orderTable⟩).map
      (fun recorded => recorded.1.map (·.values.map (·.writes))) = .ok [[2], [1, 1]] ∧
    (∃ firstLast secondLast firstRecords secondRecords,
      recordRules ⟨order, some sums, .default⟩ sumPlans
        ⟨[("sum", .scalar (.integer 4))], .object []⟩ = .ok (firstRecords, firstLast) ∧
      recordRules ⟨order, some sums, .default⟩ sumPlans
        ⟨[("sum", .scalar (.integer 4))], orderTable⟩ = .ok (secondRecords, secondLast) ∧
      ComputeAlike order sumPlans firstRecords secondRecords ∧
      firstLast.cache = secondLast.cache) ∧
    (mapSource .default ⟨[], 0⟩ order [columnRule "customer", columnRule "x"] orderLookups
      ⟨true, none, none⟩).1.result = .ok orderTable ∧
    ∃ plans module cache firstRecords between secondRecords last,
      (planRules orderLookups ⟨true, none, none⟩ .default
        [columnRule "customer", columnRule "x"]).result = .ok plans ∧
      prepare ⟨[], 0⟩ order [columnRule "customer", columnRule "x"] ⟨true, none, none⟩ =
        .ok (module, cache) ∧
      recordRules ⟨order, module, .default⟩ plans ⟨cache, .object []⟩ =
        .ok (firstRecords, between) ∧
      recordRules ⟨order, module, .default⟩ plans ⟨cache, between.target⟩ =
        .ok (secondRecords, last) ∧
      last.target = orderTable ∧
      ComputeAlike order plans firstRecords secondRecords := by
  have hfirst : (sumPlans.foldlM (fun (state : PassState) plan =>
      RulePlan.apply plan ⟨order, some sums, .default⟩ 1 state)
        ⟨[("sum", .scalar (.integer 4))], .object []⟩).result =
      .ok ⟨[("sum", .scalar (.integer 10))], sumTable
        [("total", .scalar (.integer 4)), ("running", .scalar (.integer 5))]
        [("running", .scalar (.integer 10))]⟩ := rfl
  have hsecond : (sumPlans.foldlM (fun (state : PassState) plan =>
      RulePlan.apply plan ⟨order, some sums, .default⟩ 2 state)
        ⟨[("sum", .scalar (.integer 4))], orderTable⟩).result =
      .ok ⟨[("sum", .scalar (.integer 10))], sumTable
        [("customer", .scalar (.string "ada")), ("x", .scalar (.integer 1)),
          ("total", .scalar (.integer 4)), ("running", .scalar (.integer 5))]
        [("x", .scalar (.integer 5)), ("customer", .scalar (.string "ada")),
          ("total", .scalar (.integer 4)), ("running", .scalar (.integer 10))]⟩ := rfl
  exact ⟨rfl, rfl,
    ⟨_, _, values_do_not_depend_on_target.1 _ _ _ _ _ _ _ _ _ hfirst hsecond⟩, mapSource_order,
    values_do_not_depend_on_target.2 _ _ _ _ _ _ _ rfl mapSource_order⟩

end DocumentMapping
