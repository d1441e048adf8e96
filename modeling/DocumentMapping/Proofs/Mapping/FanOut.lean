import DocumentMapping.Proofs.Mapping.Layout

/-!
# One value in all items

A single value whose destination has just one open tag is written to the items of one array, from
the first on. The writes go on as long as the array has further items, and as they add none but the
first, the array decides with its length before the writes how many there are: one for each of its
items, and one for an empty or missing array. A ceiling below this number stops them.
-/

namespace DocumentMapping

open Expression (Cache)

/-! ## Items under one tag -/

/-- Of elements with decided positions, of which just one has a tag to be filled, this one reports
further items when there are some behind its position. -/
theorem leavesItems_iff {placement : Placement} {tags : List String} {tree : Node}
    {before behind : List PathElement} {element : PathElement} {tag : String} {way : Location}
    {position : Nat} (hway : locationBy? placement.pinned? before = some way)
    (hindexed : element.index.isIndexed = true)
    (hposition : element.index.positionBy? placement.pinned? = some position)
    (htag : element.tag? = some tag) (hmem : tag ∈ tags)
    (hothers : ∀ other ∈ before ++ behind, ∀ key ∈ tags, other.tag? ≠ some key) :
    LeavesItems placement tags tree [] (before ++ element :: behind) ↔
      position + 1 < tree.lengthAt (way ++ [.property element.name]) := by
  have hleads : Leads placement tree [] before way := (leads_iff_of_locationBy? hway).mpr rfl
  have hpoints : ∀ other, PointsTo placement
      (tree.lengthAt (way ++ [.property element.name])) element.index other ↔
        other = position := by
    intro other
    rw [pointsTo_iff hindexed, resolve_of_positionBy? hindexed hposition]
  constructor
  · rintro ⟨first, found, last, here, other, key, hsplit, hkey, hkeys, hhere, hother, hlt⟩
    have hfound : first = before ∧ found = element := by
      rcases List.append_eq_append_iff.mp hsplit with ⟨more, hfirst, hmore⟩ | ⟨more, hbefore, hmore⟩
      · cases more with
        | nil =>
          obtain ⟨heq, _⟩ := List.cons.inj hmore
          exact ⟨by rw [hfirst, List.append_nil], heq.symm⟩
        | cons next more =>
          have hbehind : found ∈ behind := by
            rw [(List.cons.inj hmore).2]
            exact List.mem_append_right _ List.mem_cons_self
          exact (hothers found (List.mem_append_right _ hbehind) key hkeys hkey).elim
      · cases more with
        | nil =>
          obtain ⟨heq, _⟩ := List.cons.inj hmore
          exact ⟨by rw [hbefore, List.append_nil], heq⟩
        | cons next more =>
          have hfront : found ∈ before := by
            rw [hbefore, (List.cons.inj hmore).1]
            exact List.mem_append_right _ List.mem_cons_self
          exact (hothers found (List.mem_append_left _ hfront) key hkeys hkey).elim
    obtain ⟨rfl, rfl⟩ := hfound
    have hsame : here = way := (leads_iff_of_locationBy? hway).mp hhere
    rw [hsame] at hother hlt
    rwa [(hpoints other).mp hother] at hlt
  · intro hlt
    exact ⟨before, element, behind, way, position, tag, rfl, htag, hmem, hleads,
      (hpoints position).mpr rfl, hlt⟩

namespace RulePlan

/-! ## Plans with one open tag -/

/-- The indexes of the destination are fixed or pinned to a number, but for one whose tag has no
hint. The elements before it and its name lead to an array, and those behind it from an item of the
array to the place of the value. -/
inductive OpensOnly (plan : RulePlan) (tag : String) : Location → Location → Prop where
  | intro {before behind : List PathElement} {element : PathElement} {way rest : Location}
      (helements : plan.destination.elements = before ++ element :: behind)
      (hdynamic : element.index.isDynamic = true) (htag : element.tag? = some tag)
      (hunpinned : plan.placement.get? tag = none)
      (hway : locationBy? plan.placement.pinned? before = some way)
      (hrest : locationBy? plan.placement.pinned? behind = some rest) :
      OpensOnly plan tag (way ++ [.property element.name]) rest

/-- The only value of a rule: a rule without a source has one, and a rule with a source when just
one value is read, here with a place that gives no hints. -/
inductive SingleValue (plan : RulePlan) (source : Node) : Option SelectedValue → Prop where
  | scaffold (hsource : plan.source = none) : SingleValue plan source none
  | selected {path : Path} {value : SelectedValue} (hsource : plan.source = some path)
      (hvalues : path.select source = [value]) (hsteer : plan.steer value = []) :
      SingleValue plan source (some value)

/-- What the only value of a rule is computed from. -/
def singleInputs (source : Node) : Option SelectedValue → ValueInputs
  | none => ⟨source, .placeholder, .null⟩
  | some selected =>
    ⟨source, (source.enclosingItem? selected.path).getD source, selected.value⟩

variable {plan : RulePlan} {source : Node} {located : Option SelectedValue} {tag : String}
  {array rest : Location}

theorem SingleValue.locates (h : plan.SingleValue source located) : plan.Locates located := by
  cases h with
  | scaffold hsource => exact .nowhere hsource
  | @selected path value hsource hvalues hsteer =>
    have hmem : value ∈ path.select source := by
      rw [hvalues]
      exact List.mem_singleton_self value
    exact .covered hsource (Path.mem_select_iff.mp hmem).1

theorem SingleValue.steer_eq_nil (h : plan.SingleValue source located) :
    (located.map plan.steer).getD [] = [] := by
  cases h with
  | scaffold _ => rfl
  | selected _ _ hsteer => exact hsteer

/-- A rule with a single value writes this value. -/
theorem SingleValue.writeAll_eq {context : MappingContext}
    (h : plan.SingleValue context.source located) (state : RuleState) :
    (plan.writeAll context state).result =
      (plan.writeValue context (singleInputs context.source located).item
        (singleInputs context.source located).value located false state).result := by
  cases h with
  | scaffold hsource =>
    unfold writeAll
    rw [hsource]
    rfl
  | selected hsource hvalues _ => exact writeAll_of_singleton hsource hvalues state

/-- A tag of the destination that is decided while mapping is the open one or pinned. -/
theorem OpensOnly.eq_or_pinned (h : plan.OpensOnly tag array rest) {other : String}
    (hother : other ∈ plan.destination.dynamicTags) :
    other = tag ∨ ∃ position, plan.placement.get? other = some (.position position) := by
  cases h with
  | @intro before behind element way rest helements hdynamic htag hunpinned hway hrest =>
    have hpinned : ∀ {elements location}, locationBy? plan.placement.pinned? elements =
        some location → other ∈ Path.dynamicTags ⟨elements⟩ →
          ∃ position, plan.placement.get? other = some (.position position) := by
      intro elements location hlocation hmem
      obtain ⟨position, hposition⟩ := exists_decided_of_locationBy? hlocation hmem
      exact ⟨position, Placement.pinned?_eq_some_iff.mp hposition⟩
    obtain ⟨found, hfound, hfoundDynamic, hfoundTag⟩ := Path.mem_dynamicTags_iff.mp hother
    rw [helements, List.mem_append, List.mem_cons] at hfound
    rcases hfound with hbefore | rfl | hbehind
    · exact .inr (hpinned hway (Path.mem_dynamicTags_iff.mpr
        ⟨found, hbefore, hfoundDynamic, hfoundTag⟩))
    · exact .inl (Option.some.inj (hfoundTag.symm.trans htag))
    · exact .inr (hpinned hrest (Path.mem_dynamicTags_iff.mpr
        ⟨found, hbehind, hfoundDynamic, hfoundTag⟩))

/-- No other tag is open. -/
theorem OpensOnly.eq_of_mem_openTags (h : plan.OpensOnly tag array rest) {other : String}
    (hopen : other ∈ plan.openTags) : other = tag := by
  obtain ⟨hother, _, hnone⟩ := mem_openTags_iff.mp hopen
  apply (h.eq_or_pinned hother).resolve_right
  rintro ⟨position, hpinned⟩
  rw [hnone] at hpinned
  cases hpinned

/-- The places of the plan lie behind the items of the array. -/
theorem OpensOnly.place_eq (h : plan.OpensOnly tag array rest) (number : Nat) :
    plan.place number = array ++ .item number :: rest := by
  cases h with
  | @intro before behind element way rest helements hdynamic htag hunpinned hway hrest =>
    have hpinned : ∀ key position, plan.placement.pinned? key = some position →
        some ((plan.placement.pinned? key).getD number) = some position := by
      intro key position hposition
      rw [hposition, Option.getD_some]
    have hposition : element.index.positionBy?
        (fun key => some ((plan.placement.pinned? key).getD number)) = some number := by
      have hnone : plan.placement.pinned? tag = none := by rw [Placement.pinned?, hunpinned]
      rw [PathIndex.positionBy?_of_isDynamic hdynamic htag, hnone, Option.getD_none]
    have hbehind : locationBy? (fun key => some ((plan.placement.pinned? key).getD number))
        (element :: behind) = some (.property element.name :: .item number :: rest) := by
      rw [locationBy?, if_pos (PathIndex.isIndexed_of_isDynamic hdynamic), hposition,
        locationBy?_mono hrest hpinned]
      rfl
    have hall := locationBy?_append (locationBy?_mono hway hpinned) hbehind
    rw [← helements] at hall
    rw [place, Path.placeAt, hall, Option.getD_some, List.append_assoc, List.singleton_append]

section

variable {rule : Rule} {lookups : Lookups} {options : MappingOptions} {settings : EngineSettings}
  (hplan : ofRule rule lookups options settings = .ok plan)

include hplan

/-- The tag without a hint is open. -/
theorem OpensOnly.mem_openTags (h : plan.OpensOnly tag array rest)
    (hsingle : plan.SingleValue source located) : tag ∈ plan.openTags := by
  cases h with
  | @intro before behind element way rest helements hdynamic htag hunpinned hway hrest =>
    have helement : element ∈ plan.destination.elements := by
      rw [helements]
      exact List.mem_append_right _ List.mem_cons_self
    have hmem : tag ∈ plan.destination.dynamicTags :=
      Path.mem_dynamicTags_iff.mpr ⟨element, helement, hdynamic, htag⟩
    obtain ⟨_, _, _, hcorrelation⟩ := exists_hints hplan
    have hcontains := OrderedMap.contains_eq_false_iff.mpr hunpinned
    have huncorrelated := isCorrelated_eq_false_of_steer hsingle.locates hcorrelation hcontains
      hsingle.steer_eq_nil
    exact mem_openTags_iff.mpr ⟨hmem, huncorrelated, hunpinned⟩

/-- The plan lays values out. -/
theorem OpensOnly.laysOut (h : plan.OpensOnly tag array rest)
    (hsingle : plan.SingleValue source located) : plan.LaysOut where
  opened := List.ne_nil_of_mem (h.mem_openTags hplan hsingle)
  decided other hother := by
    rcases h.eq_or_pinned hother with rfl | hpinned
    · exact .inl (h.mem_openTags hplan hsingle)
    · exact .inr hpinned

end

end RulePlan

/-! ## Writes to the items -/

namespace WriteTask

variable {plan : RulePlan} {source : Node} {located : Option SelectedValue} {tag : String}
  {array rest : Location} {target current : Node} {value : Scalar} {number total : Nat}

/-- What holds before the write with a number: all items up to that number had room for the value
and hold it, and the array is as long as before or reaches up to the last of them. -/
structure Filling (plan : RulePlan) (array : Location) (value : Scalar) (target : Node)
    (number : Nat) (current : Node) : Prop where
  spread : Spread plan.place target current (List.replicate number value)
  admits : ∀ earlier < number, target.Admits (plan.place earlier)
  length_eq : current.lengthAt array = max number (target.lengthAt array)

theorem Filling.start (plan : RulePlan) (array : Location) (value : Scalar) (target : Node) :
    Filling plan array value target 0 target where
  spread := Spread.refl plan.place target
  admits _ hlt := absurd hlt (Nat.not_lt_zero _)
  length_eq := (Nat.zero_max _).symm

/-- A write fills the next item. -/
theorem Filling.store (h : Filling plan array value target number current)
    (hopens : plan.OpensOnly tag array rest) (hlays : plan.LaysOut)
    (hadmits : current.Admits (plan.place number)) :
    Filling plan array value target (number + 1)
      (current.store value (plan.place number)) where
  spread := by
    have hplace : (List.replicate number value).length = number := List.length_replicate
    have hnext := h.spread.store hlays.row_place value (by rwa [hplace])
    rwa [hplace, ← List.replicate_succ'] at hnext
  admits earlier hlt := by
    rcases Nat.lt_succ_iff_lt_or_eq.mp hlt with hbefore | rfl
    · exact h.admits earlier hbefore
    · exact (h.spread.free earlier).mp hadmits
  length_eq := by
    rw [hopens.place_eq, Node.lengthAt_store, h.length_eq]
    omega

/-- How the writes to the items of an array end under a ceiling. -/
inductive Ends (plan : RulePlan) (array : Location) (value : Scalar) (target : Node)
    (ceiling : Nat) : Except MappingError Outcome → Prop where
  /-- All items hold the value, or the first one when there was none. -/
  | filled {counters : Counters} {last : Node}
      (hceiling : target.lengthAt array ≤ max 1 ceiling)
      (hfilled : Filling plan array value target (max 1 (target.lengthAt array)) last) :
      Ends plan array value target ceiling
        (.ok ⟨max 1 (target.lengthAt array), counters, last⟩)
  /-- The ceiling is reached before the last item. -/
  | stopped {runaway : RunawayWrite} {last : Node}
      (hceiling : max 1 ceiling < target.lengthAt array)
      (hfilled : Filling plan array value target (max 1 ceiling) last)
      (hiterations : runaway.iterations = max 1 ceiling) :
      Ends plan array value target ceiling (.error (.runawayWrite runaway))
  /-- An item has no room for the value. -/
  | blocked {conflict : Conflict} {number : Nat}
      (hitem : number < max 1 (target.lengthAt array)) (hceiling : number < max 1 ceiling)
      (hblocked : ¬ target.Admits (plan.place number)) :
      Ends plan array value target ceiling
        (.error (.pathConflict plan.destination conflict))

section

variable (hopens : plan.OpensOnly tag array rest) (hopen : tag ∈ plan.openTags)
  (hdynamic : ∀ element ∈ plan.destination.elements, element.tag? = some tag →
    element.index.isDynamic = true)
  (hsteer : (located.map plan.steer).getD [] = []) (hlays : plan.LaysOut)

include hopens hopen hdynamic hsteer hlays

/-- A write reports further items when there are some in the array behind its own. -/
theorem any_leavesMore_iff_lt (hadmits : current.Admits (plan.place number)) (value : Scalar) :
    (plan.destination.walk ((plan.task value located false).placementAt
      (plan.openTags.map (·, number))) current).steps.any
        (·.leavesMore (plan.task value located false).tags) = true ↔
      number + 1 < current.lengthAt array := by
  set task := plan.task value located false
  have hfansOut : task.fansOut = true := RulePlan.fansOut_task_iff.mpr ⟨hsteer, hlays.opened⟩
  have hplacement : task.placement = plan.placement := placement_task hsteer value false
  have htags : task.tags = plan.openTags := if_pos hfansOut
  have hwalk : (Node.walk (task.placementAt (plan.openTags.map (·, number)))
      plan.destination.elements ((current.at? []).getD .placeholder)).conflict = none :=
    (Node.conflict_walk_eq_none_iff
      (locationBy?_placementAt hlays hsteer value false number)).mpr hadmits
  have hreport := @any_leavesMore_iff _ task.tags current [] _ hwalk
  rw [Node.at?_nil, Option.getD_some] at hreport
  rw [Path.walk, hreport]
  have hsame : ∀ key ∈ task.tags, key = tag := by
    rw [htags]
    exact fun key hkey => hopens.eq_of_mem_openTags hkey
  cases hopens with
  | @intro before behind element way rest helements hindexed htag hunpinned hway hrest =>
    have hnone : plan.placement.pinned? tag = none := by rw [Placement.pinned?, hunpinned]
    have hwayAt : locationBy? (task.placementAt (plan.openTags.map (·, number))).pinned? before =
        some way :=
      locationBy?_mono hway fun key position hposition =>
        pinned?_placementAt_of_pinned hplacement hposition number
    have hcounter : element.index.positionBy?
        (task.placementAt (plan.openTags.map (·, number))).pinned? = some number := by
      rw [PathIndex.positionBy?_of_isDynamic hindexed htag, Placement.pinned?_eq_some_iff]
      exact get?_placementAt_of_mem hfansOut hopen number
    have hothers : ∀ other ∈ before ++ behind, ∀ key ∈ task.tags, other.tag? ≠ some key := by
      intro other hother key hkey
      rw [hsame key hkey]
      rw [helements] at hdynamic
      rcases List.mem_append.mp hother with hbefore | hbehind
      · exact tag?_ne_of_locationBy? hway hnone hbefore
          (hdynamic other (List.mem_append_left _ hbefore))
      · exact tag?_ne_of_locationBy? hrest hnone hbehind
          (hdynamic other (List.mem_append_right _ (List.mem_cons_of_mem _ hbehind)))
    rw [helements]
    exact leavesItems_iff hwayAt (PathIndex.isIndexed_of_isDynamic hindexed) hcounter htag
      (by rwa [htags]) hothers

/-- A write that succeeds fills an item, and it says whether there are items behind this one. -/
theorem Filling.of_writeOnce {written : Written}
    (h : Filling plan array value target number current)
    (hwrite : ((plan.task value located false).writeOnce (plan.openTags.map (·, number))
      current).result = .ok written) :
    Filling plan array value target (number + 1) written.node ∧
      (written.more = true ↔ number + 1 < target.lengthAt array) := by
  have hroom : current.Admits (plan.place number) := by
    by_contra hblocked
    obtain ⟨conflict, hconflict⟩ := writeOnce_of_not_admits hlays hsteer value false hblocked
    rw [hwrite] at hconflict
    cases hconflict
  have hstored := writeOnce_of_admits hlays hsteer value false hroom
  rw [hwrite] at hstored
  obtain rfl := Except.ok.inj hstored
  have hmore := any_leavesMore_iff_lt hopens hopen hdynamic hsteer hlays hroom value
  refine ⟨h.store hopens hlays hroom, ?_⟩
  rw [hmore, h.length_eq]
  omega

/-- The course of the writes from an item on. -/
theorem Course.ends {ceiling : Nat} {counters : Counters} {result : Except MappingError Outcome}
    (h : (plan.task value located false).Course (some ceiling) number counters current total result)
    (hcounters : counters = plan.openTags.map (·, number))
    (hfilling : Filling plan array value target number current)
    (hitem : number < max 1 (target.lengthAt array)) (hbelow : number < max 1 ceiling) :
    Ends plan array value target ceiling result := by
  induction h with
  | @failed number counters current error hwrite =>
    rw [hcounters] at hwrite
    have hblocked : ¬ current.Admits (plan.place number) := by
      intro hroom
      have hstored := writeOnce_of_admits hlays hsteer value false hroom
      rw [hwrite] at hstored
      cases hstored
    obtain ⟨conflict, rfl⟩ := exists_conflict_of_writeOnce hwrite
    exact .blocked hitem hbelow fun hroom => hblocked ((hfilling.spread.free number).mpr hroom)
  | @finished number counters current written hwrite hlast =>
    rw [hcounters] at hwrite
    obtain ⟨hfilled, hmore⟩ := hfilling.of_writeOnce hopens hopen hdynamic hsteer hlays hwrite
    rw [Bool.or_eq_true, Bool.not_eq_true', ← Bool.not_eq_true, hmore] at hlast
    have hend : ¬ number + 1 < target.lengthAt array := hlast.resolve_left Bool.false_ne_true
    have hcount : number + 1 = max 1 (target.lengthAt array) := by omega
    rw [hcount] at hfilled ⊢
    exact .filled (by omega) hfilled
  | @stopped number counters current written limit hwrite hmore hceiling hreached =>
    cases hceiling
    rw [hcounters] at hwrite
    obtain ⟨hfilled, hreport⟩ := hfilling.of_writeOnce hopens hopen hdynamic hsteer hlays hwrite
    rw [Bool.or_eq_false_iff, Bool.not_eq_false'] at hmore
    have hlt := hreport.mp hmore.2
    have hlimit : number + 1 = max 1 ceiling := by omega
    rw [hlimit] at hfilled
    exact .stopped (by omega) hfilled hlimit
  | @goesOn number total counters current written result hwrite hmore hunder _ ih =>
    rw [hcounters] at hwrite ih
    obtain ⟨hfilled, hreport⟩ := hfilling.of_writeOnce hopens hopen hdynamic hsteer hlays hwrite
    rw [Bool.or_eq_false_iff, Bool.not_eq_false'] at hmore
    have hlt := hreport.mp hmore.2
    have hlimit := hunder ceiling rfl
    have hnext := countersAfter_map hlays.opened hsteer value false number
    exact ih hnext hfilled (by omega) (by omega)

end

end WriteTask

namespace RulePlan

/-- When its value is known, what is left of a value is the loop of writes. -/
theorem writeValue_of_value {plan : RulePlan} {context : MappingContext} {item : Node}
    {raw value : Scalar} {state : RuleState} {after : Cache}
    (hvalue : (plan.value context.module ⟨context.source, item, raw⟩ state.cache).result =
      .ok (value, after)) (located : Option SelectedValue) (isOneOfMany : Bool) :
    (plan.writeValue context item raw located isOneOfMany state).result =
      ((plan.task value located isOneOfMany).write context.settings.writeCeiling state.counters
        state.target).result.map fun outcome =>
          ⟨state.writes + outcome.writes, outcome.counters, after, outcome.target⟩ := by
  unfold writeValue
  rw [Logged.result_bind, hvalue, Except.bind, Logged.result_bind]
  cases ((plan.task value located isOneOfMany).write context.settings.writeCeiling state.counters
    state.target).result <;> rfl

/-- The writes of a single value to the items of an array. -/
theorem OpensOnly.ends {rule : Rule} {lookups : Lookups} {options : MappingOptions}
    {settings : EngineSettings} {plan : RulePlan} {source : Node} {located : Option SelectedValue}
    {tag : String} {array rest : Location} (h : plan.OpensOnly tag array rest)
    (hplan : ofRule rule lookups options settings = .ok plan)
    (hsingle : plan.SingleValue source located) (value : Scalar) (ceiling : Nat) (target : Node) :
    WriteTask.Ends plan array value target ceiling
      ((plan.task value located false).write ceiling (.start plan.openTags) target).result := by
  have hopen := h.mem_openTags hplan hsingle
  have hdynamic := isDynamic_of_mem_openTags hplan
  have hnarrow := @WriteTask.narrow_start target plan value located false target.widest
    fun _ _ hitems => Nat.le_trans (Nat.le_max_left _ _) (Node.widest_le_of_at? hitems)
  obtain ⟨total, result, hcourse⟩ := hnarrow.exists_course hdynamic (some ceiling)
  rw [hcourse.write_eq]
  exact hcourse.ends h hopen (hdynamic tag hopen) hsingle.steer_eq_nil (h.laysOut hplan hsingle)
    rfl (.start plan array value target) (by omega) (by omega)

end RulePlan

/-- A single value under one open tag fills the items of its array. When each item has room for the
value, there are as many writes as items, but one to an array without items. Afterwards all items
hold the value, there are no others, and nothing else changes but what makes room. When there are
more items than the ceiling admits, the writes run away after as many as it does. A conflict is met
exactly when one of the items up to the ceiling has no room for the value. -/
theorem fan_out_fills_items {rule : Rule} {lookups : Lookups} {options : MappingOptions}
    {settings : EngineSettings} {plan : RulePlan} {context : MappingContext}
    {located : Option SelectedValue} {tag : String} {array rest : Location} {cache after : Cache}
    {value : Scalar} (hplan : RulePlan.ofRule rule lookups options settings = .ok plan)
    (hsingle : plan.SingleValue context.source located) (hopens : plan.OpensOnly tag array rest)
    (hvalue : (plan.value context.module (RulePlan.singleInputs context.source located)
      cache).result = .ok (value, after)) (target : Node) :
    let count := max 1 (target.lengthAt array)
    let limit := max 1 context.settings.writeCeiling
    let place := fun number => array ++ .item number :: rest
    let result := (plan.writeAll context ⟨0, .start plan.openTags, cache, target⟩).result
    ((∀ number < min count limit, target.Admits (place number)) →
      (target.lengthAt array ≤ limit →
        ∃ last, result = .ok last ∧ last.writes = count ∧ last.target.lengthAt array = count ∧
          Spread place target last.target (List.replicate count value)) ∧
      (limit < target.lengthAt array →
        ∃ runaway, result = .error (.runawayWrite runaway) ∧ runaway.iterations = limit)) ∧
    ((∃ number < min count limit, ¬ target.Admits (place number)) →
      ∃ conflict, result = .error (.pathConflict plan.destination conflict)) := by
  intro count limit place result
  have hplace : plan.place = place := funext hopens.place_eq
  have hinputs : RulePlan.singleInputs context.source located =
      ⟨context.source, (RulePlan.singleInputs context.source located).item,
        (RulePlan.singleInputs context.source located).value⟩ := by
    cases located <;> rfl
  rw [hinputs] at hvalue
  have hresult : result =
      ((plan.task value located false).write context.settings.writeCeiling (.start plan.openTags)
        target).result.map fun outcome =>
          ⟨0 + outcome.writes, outcome.counters, after, outcome.target⟩ :=
    (hsingle.writeAll_eq _).trans (RulePlan.writeValue_of_value hvalue located false)
  have hends := hopens.ends hplan hsingle value context.settings.writeCeiling target
  generalize ((plan.task value located false).write context.settings.writeCeiling
    (.start plan.openTags) target).result = ended at hends hresult
  rw [hresult, ← hplace]
  cases hends with
  | @filled counters last hceiling hfilled =>
    refine ⟨fun _ => ⟨fun _ => ⟨_, rfl, Nat.zero_add _, ?_, hfilled.spread⟩, fun hlt => ?_⟩, ?_⟩
    · exact hfilled.length_eq.trans (by omega)
    · omega
    · rintro ⟨number, hlt, hblocked⟩
      exact (hblocked (hfilled.admits number (by omega))).elim
  | @stopped runaway last hceiling hfilled hiterations =>
    refine ⟨fun _ => ⟨fun hle => ?_, fun _ => ⟨runaway, rfl, hiterations⟩⟩, ?_⟩
    · omega
    · rintro ⟨number, hlt, hblocked⟩
      exact (hblocked (hfilled.admits number (by omega))).elim
  | @blocked conflict number hitem hceiling hblocked =>
    refine ⟨fun hadmits => ?_, fun _ => ⟨conflict, rfl⟩⟩
    exact (hblocked (hadmits number (by omega))).elim

/-- The second cells of all rows. -/
def cellPlan : RulePlan := fillingPlan "b=1" cellPath [("b", .position 1)]

/-- Two rows, the second of which has a cell. -/
def cellTarget : Node :=
  .object [("rows", .array [.placeholder,
    .object [("cells", .array [.scalar (.integer 7)])]])]

/-- The constant comes to the second cells of both rows, and a ceiling of one is reached. -/
theorem fan_out_fills_items_of_cells :
    RulePlan.ofRule (fillingRule "b=1") (cellLookups "$.rows[a].cells[b].y") .default .default =
      .ok cellPlan ∧
    cellTarget.lengthAt [.property "rows"] = 2 ∧
    (∃ last,
      (cellPlan.writeAll ⟨.object [], none, ⟨5, "row"⟩⟩
        ⟨0, .start cellPlan.openTags, [], cellTarget⟩).result = .ok last ∧
      last.writes = 2 ∧
      Spread
        (fun number =>
          [.property "rows", .item number, .property "cells", .item 1, .property "y"])
        cellTarget last.target [.boolean true, .boolean true]) ∧
    ∃ runaway,
      (cellPlan.writeAll ⟨.object [], none, ⟨1, "row"⟩⟩
        ⟨0, .start cellPlan.openTags, [], cellTarget⟩).result =
          .error (.runawayWrite runaway) ∧ runaway.iterations = 1 := by
  have hplan : RulePlan.ofRule (fillingRule "b=1") (cellLookups "$.rows[a].cells[b].y") .default
      .default = .ok cellPlan :=
    ofRule_fillingRule (by cbv) (by cbv) (by cbv)
  have hopens : cellPlan.OpensOnly "a" [.property "rows"]
      [.property "cells", .item 1, .property "y"] :=
    @RulePlan.OpensOnly.intro cellPlan "a" [] [⟨"cells", .named "b"⟩, .property "y"]
      ⟨"rows", .named "a"⟩ [] _ rfl rfl rfl rfl rfl rfl
  have hroom : ∀ number < 2, cellTarget.Admits
      [.property "rows", .item number, .property "cells", .item 1, .property "y"] := by
    rintro (_ | _ | number) hlt
    · exact ⟨rfl, rfl, rfl, rfl, rfl, trivial⟩
    · exact ⟨rfl, rfl, rfl, rfl, rfl, trivial⟩
    · omega
  obtain ⟨hfills, _⟩ := @fan_out_fills_items _ _ _ _ cellPlan ⟨.object [], none, ⟨5, "row"⟩⟩ none
    "a" _ _ [] [] (.boolean true) hplan (.scaffold rfl) hopens rfl cellTarget
  obtain ⟨hstops, _⟩ := @fan_out_fills_items _ _ _ _ cellPlan ⟨.object [], none, ⟨1, "row"⟩⟩ none
    "a" _ _ [] [] (.boolean true) hplan (.scaffold rfl) hopens rfl cellTarget
  obtain ⟨last, hlast, hwrites, _, hspread⟩ := (hfills hroom).1 (by decide)
  refine ⟨hplan, rfl, ⟨last, hlast, hwrites, hspread⟩, ?_⟩
  exact (hstops fun number hlt => hroom number (Nat.lt_of_lt_of_le hlt (by decide))).2 (by decide)

end DocumentMapping
