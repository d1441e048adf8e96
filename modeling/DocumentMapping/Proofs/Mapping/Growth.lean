import DocumentMapping.Proofs.Mapping.Layout
import Mathlib.Logic.Relation

/-!
# Positions and counters in words

A write adds one to the positions on its way, and the loop of a value adds one to its counters. In
words of 64 bits such a sum can overflow. Positions come from paths, from hints, from places in the
source, from counters and from the lengths of arrays. All of them leave room for one more, except
for a hint that pins a tag to the last word: it is read, but no array reaches that far.
-/

namespace DocumentMapping

/-! ## Hints -/

namespace Hints

/-- All positions of hints are words. -/
def InWords (hints : Hints) : Prop :=
  ∀ tag position, hints.placement.get? tag = some (.position position) → position < 2 ^ 64

theorem inWords_none : none.InWords := nofun

theorem InWords.insert {hints : Hints} (h : hints.InWords) (tag : String) {hint : ItemHint}
    (hhint : ∀ position, hint = .position position → position < 2 ^ 64) :
    Hints.InWords { hints with placement := hints.placement.insert tag hint } := by
  intro other position hget
  rw [OrderedMap.get?_insert] at hget
  split at hget
  · exact hhint position (Option.some.inj hget)
  · exact h other position hget

theorem InWords.add {hints after : Hints} {tag value : List Char} (h : hints.InWords)
    (hadd : hints.add tag value = .ok after) : after.InWords := by
  unfold Hints.add at hadd
  split at hadd
  · cases hadd
  · split at hadd
    · cases hadd
      exact h.insert _ nofun
    · split at hadd
      · split at hadd
        · rename_i hlt
          cases hadd
          refine h.insert _ fun position heq => ?_
          cases heq
          exact hlt
        · cases hadd
      · split at hadd
        · cases hadd
          exact h
        · cases hadd

theorem InWords.addPair {hints after : Hints} {pair : List Char} (h : hints.InWords)
    (hadd : hints.addPair pair = .ok after) : after.InWords := by
  unfold Hints.addPair at hadd
  split at hadd
  · cases hadd
  · exact h.add hadd

theorem InWords.foldlM_addPair {hints after : Hints} {pairs : List (List Char)}
    (h : hints.InWords) (hadd : pairs.foldlM Hints.addPair hints = .ok after) : after.InWords := by
  induction pairs generalizing hints with
  | nil =>
    cases hadd
    exact h
  | cons pair rest ih =>
    rw [List.foldlM_cons] at hadd
    obtain ⟨between, hpair, hrest⟩ := Except.bind_eq_ok_iff.mp hadd
    exact ih (h.addPair hpair) hrest

/-- A text that is read gives words only. -/
theorem inWords_of_readOptional {text : Option String} {hints : Hints}
    (h : readOptional text = .ok hints) : hints.InWords := by
  cases text with
  | none =>
    cases h
    exact inWords_none
  | some text => exact inWords_none.foldlM_addPair h

end Hints

/-- A placement pins an element to a position by a hint for its tag. -/
def Placement.Pins (placement : Placement) (element : PathElement) (position : Nat) : Prop :=
  element.index.isDynamic = true ∧
    ∃ tag, element.tag? = some tag ∧ placement.get? tag = some (.position position)

/-- An element is pinned to one position. -/
theorem Placement.Pins.unique {placement : Placement} {element : PathElement}
    {position other : Nat} (h : placement.Pins element position)
    (hother : placement.Pins element other) : position = other := by
  obtain ⟨_, tag, htag, hhint⟩ := h
  obtain ⟨_, found, hfound, hsecond⟩ := hother
  rw [htag] at hfound
  cases hfound
  rw [hhint] at hsecond
  cases hsecond
  rfl

/-! ## The writes of a rule -/

namespace WriteTask

/-- The loop of a task goes on from what there is before one write to what there is before the next
one. -/
def GoesOn (task : WriteTask) (ceiling : Nat) (before after : Outcome) : Prop :=
  ∃ written, (task.writeOnce before.counters before.target).result = .ok written ∧
    (task.isOneOfMany || !written.more) = false ∧ before.writes + 1 < ceiling ∧
      after = ⟨before.writes + 1, task.countersAfter before.counters, written.node⟩

/-- The loop of a task comes to a write. -/
def Reaches (task : WriteTask) (ceiling : Nat) (counters : Counters) (target : Node) :
    Outcome → Prop :=
  Relation.ReflTransGen (task.GoesOn ceiling) ⟨0, counters, target⟩

/-- The walk of the next write. -/
def walk (task : WriteTask) (before : Outcome) : Walk :=
  task.plan.destination.walk (task.placementAt before.counters) before.target

end WriteTask

namespace RulePlan

/-- The writes of one value: its task, and what there is before a write. -/
def WritesValue (plan : RulePlan) (context : MappingContext) (item : Node) (value : Scalar)
    (located : Option SelectedValue) (isOneOfMany : Bool) (state : RuleState) (task : WriteTask)
    (before : WriteTask.Outcome) : Prop :=
  ∃ result cache,
    (plan.value context.module ⟨context.source, item, value⟩ state.cache).result =
      .ok (result, cache) ∧
    task = plan.task result located isOneOfMany ∧
    task.Reaches context.settings.writeCeiling state.counters state.target before

/-- The writes of some values of the source, one after the other. -/
def WritesAmong (plan : RulePlan) (context : MappingContext) (isOneOfMany : Bool)
    (task : WriteTask) (before : WriteTask.Outcome) : List SelectedValue → RuleState → Prop
  | [], _ => False
  | selected :: rest, state =>
    plan.WritesValue context ((context.source.enclosingItem? selected.path).getD context.source)
        selected.value (some selected) isOneOfMany state task before ∨
      ∃ after, (plan.writeSelected context isOneOfMany state selected).result = .ok after ∧
        plan.WritesAmong context isOneOfMany task before rest after

/-- The writes of a rule from a state on. -/
def Writes (plan : RulePlan) (context : MappingContext) (state : RuleState) (task : WriteTask)
    (before : WriteTask.Outcome) : Prop :=
  match plan.source with
  | none => plan.WritesValue context .placeholder .null none false state task before
  | some path =>
    plan.WritesAmong context (decide (1 < (path.select context.source).length)) task before
      (path.select context.source) state

/-- What a rule works on is held in memory: no list has `2 ^ 63` entries. -/
structure FitsMemory (plan : RulePlan) (context : MappingContext) (target : Node) : Prop where
  target : target.widest < 2 ^ 63
  values : ∀ path, plan.source = some path → (path.select context.source).length < 2 ^ 63

/-! ## Positions of a write -/

variable {plan : RulePlan} {located : Option SelectedValue} {value : Scalar} {isOneOfMany : Bool}
  {counters : Counters} {target : Node} {tag : String} {base done : Nat}

/-- The source gives positions that a path can write. -/
theorem exists_position_of_get?_steer {selected : SelectedValue} {hint : ItemHint}
    (h : (plan.steer selected).get? tag = some hint) :
    ∃ position < 2 ^ 32, hint = .position position := by
  cases hcontains : plan.placement.contains tag with
  | true =>
    rw [get?_steer_of_contains selected hcontains] at h
    cases h
  | false =>
    cases hsource : plan.source with
    | none =>
      rw [steer, hsource] at h
      cases h
    | some source =>
      rw [get?_steer hsource hcontains] at h
      obtain ⟨position, hlast, rfl⟩ := Option.map_eq_some_iff.mp h
      obtain ⟨⟨place, element⟩, _, hfound⟩ :=
        List.mem_filterMap.mp (List.mem_of_getLast? hlast)
      obtain ⟨_, hposition⟩ := Option.ite_none_right_eq_some.mp hfound
      obtain ⟨index, _, rfl⟩ := Option.map_eq_some_iff.mp hposition
      exact ⟨_, index.toNat_lt, rfl⟩

/-- The hints of a task are those of the rule, and of the place of the value where the rule has
none. -/
theorem get?_placement_task :
    (plan.task value located isOneOfMany).placement.get? tag =
      ((located.bind fun selected => (plan.steer selected).get? tag).or
        (plan.placement.get? tag)) := by
  cases located with
  | none => rfl
  | some selected => exact get?_merge_steer plan selected tag

/-- The counters come before the hints of a task. -/
theorem get?_placementAt (task : WriteTask) (counters : Counters) (tag : String) :
    (task.placementAt counters).get? tag =
      ((if task.fansOut then OrderedMap.last? counters.placement tag else none).or
        (task.placement.get? tag)) := by
  unfold WriteTask.placementAt
  split
  · rw [OrderedMap.get?_merge]
  · rw [Option.none_or]

/-- A hint from counters is one of them. -/
theorem exists_mem_of_last?_placement {hint : ItemHint}
    (h : OrderedMap.last? counters.placement tag = some hint) :
    ∃ count, (tag, count) ∈ counters ∧ hint = .position count := by
  obtain ⟨⟨found, count⟩, hmem, heq⟩ := List.mem_map.mp (OrderedMap.mem_of_last? h)
  cases heq
  exact ⟨count, hmem, rfl⟩

/-- A hint of the rule holds in all its writes. -/
theorem get?_placementAt_of_hint {hint : ItemHint}
    (hcounters : ∀ entry ∈ counters, entry.1 ∈ plan.openTags)
    (h : plan.placement.get? tag = some hint) :
    ((plan.task value located isOneOfMany).placementAt counters).get? tag = some hint := by
  have hcontains : plan.placement.contains tag = true := OrderedMap.contains_of_get? h
  have hplace : (located.bind fun selected => (plan.steer selected).get? tag) = none := by
    cases located with
    | none => rfl
    | some selected => exact get?_steer_of_contains selected hcontains
  have hclosed : OrderedMap.last? counters.placement tag = none := by
    rw [← Option.not_isSome_iff_eq_none, Option.isSome_iff_exists]
    rintro ⟨found, hfound⟩
    obtain ⟨count, hmem, _⟩ := exists_mem_of_last?_placement hfound
    rw [(mem_openTags_iff.mp (hcounters _ hmem)).2.2] at h
    cases h
  rw [get?_placementAt, hclosed, ite_self, Option.none_or, get?_placement_task, hplace,
    Option.none_or, h]

/-- A hint of a write is a counter, or a position of the source, or a hint of the rule. -/
theorem get?_placementAt_cases {hint : ItemHint}
    (h : ((plan.task value located isOneOfMany).placementAt counters).get? tag = some hint) :
    (∃ count, (tag, count) ∈ counters ∧ hint = .position count) ∨
      (∃ position < 2 ^ 32, hint = .position position) ∨ plan.placement.get? tag = some hint := by
  rw [get?_placementAt, Option.or_eq_some_iff] at h
  rcases h with hcounter | ⟨_, hplaced⟩
  · rw [Option.ite_none_right_eq_some] at hcounter
    exact .inl (exists_mem_of_last?_placement hcounter.2)
  · rw [get?_placement_task, Option.or_eq_some_iff] at hplaced
    rcases hplaced with hsteered | ⟨_, hhint⟩
    · obtain ⟨selected, _, hsteered⟩ := Option.bind_eq_some_iff.mp hsteered
      exact .inr (.inl (exists_position_of_get?_steer hsteered))
    · exact .inr (.inr hhint)

/-- What holds before a write of a rule after a number of writes: the counters have not run ahead of
the writes, and every write has made the arrays under tags that are not pinned longer by one item at
most. -/
structure Grows (plan : RulePlan) (base done : Nat) (counters : Counters) (target : Node) :
    Prop where
  open_of_mem : ∀ entry ∈ counters, entry.1 ∈ plan.openTags
  count_le : ∀ entry ∈ counters, entry.2 ≤ done
  within : target.ArraysWithin (plan.destination.tags.filter (plan.placement.pinned? · = none))
    (base + done) plan.destination.elements

/-- Under a tag that the rule pins to no position, a write goes to an item that is there, or next to
the last one, or no further than counters and the source can tell. -/
theorem Grows.resolve_le (h : plan.Grows base done counters target) (hbase : 2 ^ 32 ≤ base)
    {element : PathElement} (htag : element.tag? = some tag)
    (hloose : plan.placement.pinned? tag = none) {length : Nat} (hlength : length ≤ base + done) :
    ((plan.task value located isOneOfMany).placementAt counters).resolve element.index length ≤
      base + done := by
  have hindexed : element.index.isIndexed = true := by
    cases hindex : element.index with
    | none => simp [PathElement.tag?, hindex, PathIndex.tag?] at htag
    | static position => rfl
    | wildcard run => rfl
    | named name => rfl
  rcases PathIndex.static_or_tagged hindexed with ⟨position, hstatic⟩ | ⟨found, hdynamic, hfound⟩
  · have hlt := position.toNat_lt
    rw [hstatic]
    show position.toNat ≤ base + done
    omega
  · obtain rfl : found = tag := Option.some.inj (hfound.symm.trans htag)
    rw [resolve_of_isDynamic hdynamic htag]
    split
    · rename_i position hhint
      rcases get?_placementAt_cases hhint with ⟨count, hmem, heq⟩ | ⟨found, hlt, heq⟩ | hpinned
      · cases heq
        exact Nat.le_trans (h.count_le _ hmem) (Nat.le_add_left _ _)
      · cases heq
        omega
      · rw [Placement.pinned?, hpinned] at hloose
        cases hloose
    · exact hlength
    · split
      · exact hlength
      · exact Nat.le_trans (Nat.sub_le _ _) hlength

/-- A step goes to where the rule pins its element, or not far behind the items that were there. -/
theorem Grows.position_cases (h : plan.Grows base done counters target) (hbase : 2 ^ 32 ≤ base)
    {element : PathElement} {position length : Nat}
    (hmem : .item element position length ∈ (plan.destination.walk
      ((plan.task value located isOneOfMany).placementAt counters) target).steps) :
    plan.placement.Pins element position ∨
      (∀ pinned, ¬plan.placement.Pins element pinned) ∧ position ≤ base + done := by
  obtain ⟨helement, hindexed, hposition, hlength⟩ := h.within.resolve_of_mem_steps hmem
  rcases PathIndex.static_or_tagged hindexed with ⟨fixed, hstatic⟩ | ⟨tag, hdynamic, htag⟩
  · right
    have hlt := fixed.toNat_lt
    rw [hstatic] at hposition
    refine ⟨fun pinned hpins => ?_, ?_⟩
    · rw [Placement.Pins, hstatic] at hpins
      cases hpins.1
    · rw [hposition]
      show fixed.toNat ≤ base + done
      omega
  · cases hpinned : plan.placement.pinned? tag with
    | some pinned =>
      left
      have hhint := Placement.pinned?_eq_some_iff.mp hpinned
      rw [resolve_of_isDynamic hdynamic htag, get?_placementAt_of_hint h.open_of_mem hhint]
        at hposition
      cases hposition
      exact ⟨hdynamic, tag, htag, hhint⟩
    | none =>
      right
      refine ⟨?_, ?_⟩
      · rintro pinned ⟨_, other, hother, hhint⟩
        obtain rfl : other = tag := Option.some.inj (hother.symm.trans htag)
        rw [← Placement.pinned?_eq_some_iff, hpinned] at hhint
        cases hhint
      · have hloose : tag ∈ plan.destination.tags.filter (plan.placement.pinned? · = none) :=
          List.mem_filter.mpr ⟨List.mem_filterMap.mpr ⟨element, helement, htag⟩,
            decide_eq_true hpinned⟩
        rw [hposition]
        exact h.resolve_le hbase htag hpinned (hlength tag hloose htag)

/-- A write lets the arrays grow by one item at most. -/
theorem Grows.writeOnce (h : plan.Grows base done counters target) (hbase : 2 ^ 32 ≤ base)
    {written : Written}
    (hwrite : ((plan.task value located isOneOfMany).writeOnce counters target).result =
      .ok written) :
    plan.Grows base (done + 1) ((plan.task value located isOneOfMany).countersAfter counters)
      written.node := by
  obtain ⟨hconflict, hnode, _⟩ := Path.write_eq_ok (WriteTask.writeOnce_eq_ok_iff.mp hwrite)
  have hafter : ∀ entry ∈ (plan.task value located isOneOfMany).countersAfter counters,
      entry.1 ∈ plan.openTags ∧ entry.2 ≤ done + 1 := by
    intro entry hmem
    unfold WriteTask.countersAfter at hmem
    split at hmem
    · obtain ⟨⟨tag, count⟩, hbefore, rfl⟩ := List.mem_map.mp hmem
      exact ⟨h.open_of_mem (tag, count) hbefore,
        Nat.succ_le_succ (h.count_le (tag, count) hbefore)⟩
    · exact ⟨h.open_of_mem _ hmem, Nat.le_succ_of_le (h.count_le _ hmem)⟩
  refine ⟨fun entry hmem => (hafter entry hmem).1, fun entry hmem => (hafter entry hmem).2, ?_⟩
  rw [hnode]
  refine h.within.store_walk_below hconflict (fun element _ tag hloose htag length hlength => ?_)
    (Nat.le_succ _) value
  exact Nat.lt_succ_of_le
    (h.resolve_le hbase htag (of_decide_eq_true (List.mem_filter.mp hloose).2) hlength)

/-- Up to a write in the loop of a value there has been one write for each turn. -/
theorem Grows.reaches (h : plan.Grows base done counters target) (hbase : 2 ^ 32 ≤ base)
    {ceiling : Nat} {before : WriteTask.Outcome}
    (hreaches : (plan.task value located isOneOfMany).Reaches ceiling counters target before) :
    plan.Grows base (done + before.writes) before.counters before.target := by
  induction hreaches with
  | refl => exact h
  | tail _ hstep ih =>
    obtain ⟨written, hwrite, _, _, rfl⟩ := hstep
    exact ih.writeOnce hbase hwrite

/-- The counters start with the first item, and a bound on all arrays is one on those that can
grow. -/
theorem grows_start (h : target.widest ≤ base) :
    plan.Grows base 0 (.start plan.openTags) target where
  open_of_mem := by
    intro entry hmem
    obtain ⟨tag, htag, rfl⟩ := List.mem_map.mp hmem
    exact htag
  count_le := by
    intro entry hmem
    obtain ⟨tag, _, rfl⟩ := List.mem_map.mp hmem
    exact Nat.le_refl _
  within := Node.arraysWithin_of_forall_at? (fun _ _ hitems => Nat.le_trans
    (Nat.le_trans (Nat.le_max_left _ _) (Node.widest_le_of_at? hitems)) h) _

end RulePlan

/-! ## The number of writes -/

namespace WriteTask

variable {task : WriteTask} {ceiling : Nat} {counters : Counters} {target : Node}
  {before : Outcome}

/-- One of many values is written once. -/
theorem Reaches.eq_of_isOneOfMany (h : task.Reaches ceiling counters target before)
    (hmany : task.isOneOfMany = true) : before = ⟨0, counters, target⟩ := by
  rcases Relation.ReflTransGen.cases_head h with heq | ⟨_, ⟨_, _, hmore, _, _⟩, _⟩
  · exact heq.symm
  · rw [hmany, Bool.true_or] at hmore
    cases hmore

/-- A single value is written no more often than the longest array has items. -/
theorem Reaches.writes_lt (h : task.Reaches ceiling counters target before) {bound : Nat}
    (hnarrow : task.Narrow bound 0 counters target)
    (hdynamic : ∀ tag ∈ task.plan.openTags, ∀ element ∈ task.plan.destination.elements,
      element.tag? = some tag → element.index.isDynamic = true) :
    before.writes < max 1 bound := by
  have hkept : task.Narrow bound before.writes before.counters before.target ∧
      before.writes < max 1 bound := by
    induction h with
    | refl => exact ⟨hnarrow, Nat.lt_of_lt_of_le Nat.one_pos (Nat.le_max_left _ _)⟩
    | tail _ hstep ih =>
      obtain ⟨written, hwrite, hmore, _, rfl⟩ := hstep
      obtain ⟨hnext, hlt⟩ := ih.1.writeOnce hdynamic hwrite
      rw [Bool.or_eq_false_iff, Bool.not_eq_false'] at hmore
      exact ⟨hnext, Nat.lt_of_lt_of_le (hlt hmore.2) (Nat.le_max_right _ _)⟩
  exact hkept.2

/-- The loop of a task is in the state that it comes to. -/
theorem Reaches.write_eq (h : task.Reaches ceiling counters target before) :
    (task.write ceiling counters target).result =
      (task.writeFrom ceiling (ceiling - 1 - before.writes) before.writes before.counters
        before.target).result := by
  induction h with
  | refl => rfl
  | @tail between after _ hstep ih =>
    obtain ⟨written, hwrite, hmore, hbelow, rfl⟩ := hstep
    obtain ⟨left, hleft⟩ : ∃ left, ceiling - 1 - between.writes = left + 1 :=
      ⟨ceiling - 1 - between.writes - 1, by omega⟩
    have hnext : ceiling - 1 - (between.writes + 1) = left := by omega
    rw [ih, hleft, writeFrom_succ_of_more hwrite hmore, hnext]

end WriteTask

namespace RulePlan

variable {plan : RulePlan} {context : MappingContext} {state after : RuleState}
  {task : WriteTask} {before : WriteTask.Outcome} {base done : Nat}

/-- A write of a rule comes after less than a number of writes, and the arrays have grown
accordingly. -/
def GrowsBelow (plan : RulePlan) (base ceiling : Nat) (task : WriteTask)
    (before : WriteTask.Outcome) : Prop :=
  ∃ value located isOneOfMany total,
    task = plan.task value located isOneOfMany ∧ before.writes ≤ total ∧ total < ceiling ∧
      plan.Grows base total before.counters before.target

theorem GrowsBelow.mono {ceiling other : Nat} (h : plan.GrowsBelow base ceiling task before)
    (hle : ceiling ≤ other) : plan.GrowsBelow base other task before := by
  obtain ⟨value, located, isOneOfMany, total, htask, hwrites, htotal, hgrows⟩ := h
  exact ⟨value, located, isOneOfMany, total, htask, hwrites, Nat.lt_of_lt_of_le htotal hle, hgrows⟩

/-- One of many values adds one write. -/
theorem Grows.writeSelected (h : plan.Grows base done state.counters state.target)
    (hbase : 2 ^ 32 ≤ base) {selected : SelectedValue}
    (hwrite : (plan.writeSelected context true state selected).result = .ok after) :
    plan.Grows base (done + 1) after.counters after.target := by
  obtain ⟨value, cache, outcome, _, houtcome, rfl⟩ := writeValue_eq_ok_iff.mp hwrite
  cases hfirst : ((plan.task value (some selected) true).writeOnce state.counters
      state.target).result with
  | error error =>
    rw [WriteTask.write, WriteTask.writeFrom_of_error hfirst] at houtcome
    cases houtcome
  | ok written =>
    rw [WriteTask.write, WriteTask.writeFrom_of_not_more hfirst (Bool.true_or _)] at houtcome
    cases houtcome
    exact h.writeOnce hbase hfirst

/-- Before a write of one of many values there have been no more writes than values. -/
theorem Grows.writesAmong {values : List SelectedValue}
    (h : plan.Grows base done state.counters state.target) (hbase : 2 ^ 32 ≤ base)
    (hwrites : plan.WritesAmong context true task before values state) :
    plan.GrowsBelow base (done + values.length) task before := by
  induction values generalizing done state with
  | nil => cases hwrites
  | cons selected rest ih =>
    rcases hwrites with ⟨value, cache, _, rfl, hreaches⟩ | ⟨after, hafter, hlater⟩
    · rw [hreaches.eq_of_isOneOfMany rfl]
      exact ⟨value, some selected, true, done, rfl, Nat.zero_le _,
        Nat.lt_add_of_pos_right (Nat.succ_pos _), h⟩
    · refine (ih (h.writeSelected hbase hafter) hlater).mono ?_
      rw [List.length_cons, Nat.add_assoc, Nat.add_comm 1]

/-- Before a write of a single value there have been no more writes than the longest array has
items. -/
theorem WritesValue.growsBelow {item : Node} {raw : Scalar} {located : Option SelectedValue}
    (hwrites : plan.WritesValue context item raw located false state task before)
    (hdynamic : ∀ tag ∈ plan.openTags, ∀ element ∈ plan.destination.elements,
      element.tag? = some tag → element.index.isDynamic = true)
    (hcounters : state.counters = .start plan.openTags) (hbase : 2 ^ 32 ≤ base)
    (hwidest : state.target.widest ≤ base) :
    plan.GrowsBelow base (max 1 state.target.widest) task before := by
  obtain ⟨value, cache, _, rfl, hreaches⟩ := hwrites
  rw [hcounters] at hreaches
  have hnarrow : (plan.task value located false).Narrow state.target.widest 0
      (.start plan.openTags) state.target := WriteTask.narrow_start fun _ _ hitems =>
    Nat.le_trans (Nat.le_max_left _ _) (Node.widest_le_of_at? hitems)
  have hgrows := (grows_start hwidest).reaches hbase hreaches
  rw [Nat.zero_add] at hgrows
  exact ⟨value, located, false, before.writes, rfl, Nat.le_refl _,
    hreaches.writes_lt hnarrow hdynamic, hgrows⟩

/-- A rule that fits into memory writes less than `2 ^ 63` times. -/
theorem Writes.growsBelow (hwrites : plan.Writes context state task before)
    (hdynamic : ∀ tag ∈ plan.openTags, ∀ element ∈ plan.destination.elements,
      element.tag? = some tag → element.index.isDynamic = true)
    (hcounters : state.counters = .start plan.openTags)
    (hfits : plan.FitsMemory context state.target) :
    plan.GrowsBelow (max (2 ^ 32) state.target.widest) (2 ^ 63) task before := by
  have hbase : 2 ^ 32 ≤ max (2 ^ 32) state.target.widest := Nat.le_max_left _ _
  have hwidest : state.target.widest ≤ max (2 ^ 32) state.target.widest := Nat.le_max_right _ _
  have hsingle : ∀ {item raw located},
      plan.WritesValue context item raw located false state task before →
        plan.GrowsBelow (max (2 ^ 32) state.target.widest) (2 ^ 63) task before := fun hvalue =>
    (hvalue.growsBelow hdynamic hcounters hbase hwidest).mono
      (Nat.max_le.mpr ⟨by decide, Nat.le_of_lt hfits.target⟩)
  unfold Writes at hwrites
  split at hwrites
  · exact hsingle hwrites
  · rename_i path hsource
    cases hmany : decide (1 < (path.select context.source).length) with
    | true =>
      rw [hmany] at hwrites
      have hstart : plan.Grows (max (2 ^ 32) state.target.widest) 0 state.counters
          state.target := hcounters ▸ grows_start hwidest
      refine (hstart.writesAmong hbase hwrites).mono ?_
      rw [Nat.zero_add]
      exact Nat.le_of_lt (hfits.values path hsource)
    | false =>
      -- There is at most one value, and its writes are those of a single one.
      rw [hmany] at hwrites
      have hfew := of_decide_eq_false hmany
      cases hselected : path.select context.source with
      | nil =>
        rw [hselected] at hwrites
        cases hwrites
      | cons selected rest =>
        rw [hselected] at hwrites hfew
        obtain rfl : rest = [] := List.length_eq_zero_iff.mp (by simpa using hfew)
        rcases hwrites with hvalue | ⟨_, _, hnone⟩
        · exact hsingle hvalue
        · cases hnone

end RulePlan

/-! ## Sums in words -/

/-- In every write of a rule, the number of writes and all counters leave room for one more in a word
of 64 bits. A position on the way does so exactly when it is not the last word, to which a hint of
the rule pins its tag. When all positions of a write do, it leaves an item at each of them. -/
theorem growth_stays_in_words {rule : Rule} {lookups : Lookups} {options : MappingOptions}
    {settings : EngineSettings} {plan : RulePlan} {hints : Hints} {context : MappingContext}
    {state : RuleState} {task : WriteTask} {before : WriteTask.Outcome}
    (hplan : RulePlan.ofRule rule lookups options settings = .ok plan)
    (hhints : Hints.readOptional rule.placementHint = .ok hints)
    (hcounters : state.counters = .start plan.openTags)
    (hfits : plan.FitsMemory context state.target)
    (hwrites : plan.Writes context state task before) :
    before.writes + 1 < 2 ^ 64 ∧ (∀ entry ∈ before.counters, entry.2 + 1 < 2 ^ 64) ∧
      (∀ element position length, .item element position length ∈ (task.walk before).steps →
        (position + 1 < 2 ^ 64 ↔ ¬hints.placement.Pins element (2 ^ 64 - 1))) ∧
      ((∀ element position length, .item element position length ∈ (task.walk before).steps →
          position + 1 < 2 ^ 64) →
        ∀ written, (task.writeOnce before.counters before.target).result = .ok written →
          ∀ way, way <+: (task.walk before).location → (written.node.at? way).isSome = true) := by
  have hplacement : plan.placement = hints.placement :=
    (RulePlan.hints_of_ofRule hplan (RulePlan.hintsOf_eq_ok_iff.mpr hhints)).1
  have hbase : max (2 ^ 32) state.target.widest < 2 ^ 63 :=
    Nat.max_lt.mpr ⟨by decide, hfits.target⟩
  obtain ⟨value, located, isOneOfMany, total, rfl, hle, htotal, hgrows⟩ :=
    hwrites.growsBelow (RulePlan.isDynamic_of_mem_openTags hplan) hcounters hfits
  refine ⟨by omega, fun entry hmem => ?_, fun element position length hmem => ?_,
    fun _ written hwrite way hway => ?_⟩
  · have hcount := hgrows.count_le entry hmem
    omega
  · rw [← hplacement]
    rcases hgrows.position_cases (Nat.le_max_left _ _) hmem with hpins | ⟨hloose, hposition⟩
    · have hword : position < 2 ^ 64 := by
        obtain ⟨_, tag, _, hhint⟩ := hpins
        rw [hplacement] at hhint
        exact Hints.inWords_of_readOptional hhints tag position hhint
      constructor
      · intro hroom hlast
        rw [hpins.unique hlast] at hroom
        exact absurd hroom (by decide)
      · intro hother
        have hne : position ≠ 2 ^ 64 - 1 := fun heq => hother (heq ▸ hpins)
        omega
    · exact iff_of_true (by omega) (hloose _)
  · obtain ⟨_, hnode, _⟩ := Path.write_eq_ok (WriteTask.writeOnce_eq_ok_iff.mp hwrite)
    obtain ⟨rest, hrest⟩ := hway
    have hplaced := Node.at?_store before.target value
      ((plan.task value located isOneOfMany).walk before).location
    obtain ⟨found, hfound, _⟩ := Option.bind_eq_some_iff.mp
      ((Node.at?_append ..).symm.trans ((congrArg _ hrest).trans hplaced))
    rw [hnode]
    exact Option.isSome_iff_exists.mpr ⟨found, hfound⟩

/-- The second write into nested lists: the counters are at one, and the two lists below the outer
one have to grow. -/
theorem growth_stays_in_words_in_nested_lists :
    RulePlan.ofRule (fillingRule "z=null") (cellLookups "$.a[x].b[y].c[z]") .default .default =
      .ok nestedPlan ∧
    Hints.readOptional (some "z=null") = .ok ⟨[("z", .append)], []⟩ ∧
    nestedPlan.FitsMemory ⟨.object [], none, .default⟩ nestedTarget ∧
    ∃ before written,
      nestedPlan.Writes ⟨.object [], none, .default⟩
        ⟨0, .start nestedPlan.openTags, [], nestedTarget⟩
        (nestedPlan.task (.boolean true) none false) before ∧
      before.writes = 1 ∧ before.counters = [("x", 1), ("y", 1)] ∧
      before.writes + 1 < 2 ^ 64 ∧ (∀ entry ∈ before.counters, entry.2 + 1 < 2 ^ 64) ∧
      (∀ element position length,
        .item element position length ∈
            ((nestedPlan.task (.boolean true) none false).walk before).steps →
          position + 1 < 2 ^ 64) ∧
      ((nestedPlan.task (.boolean true) none false).writeOnce before.counters
        before.target).result = .ok written ∧
      ∀ way, way <+: ((nestedPlan.task (.boolean true) none false).walk before).location →
        (written.node.at? way).isSome = true := by
  have hplan : RulePlan.ofRule (fillingRule "z=null") (cellLookups "$.a[x].b[y].c[z]") .default
      .default = .ok nestedPlan := ofRule_fillingRule (by cbv) (by cbv) (by cbv)
  have hhints : Hints.readOptional (some "z=null") = .ok ⟨[("z", .append)], []⟩ := by cbv
  have hfits : nestedPlan.FitsMemory ⟨.object [], none, .default⟩ nestedTarget := by
    refine ⟨by decide, fun path hsource => ?_⟩
    cases hsource
  have hwrites : nestedPlan.Writes ⟨.object [], none, .default⟩
      ⟨0, .start nestedPlan.openTags, [], nestedTarget⟩
      (nestedPlan.task (.boolean true) none false) ⟨1, _, _⟩ :=
    ⟨.boolean true, [], rfl, rfl, .single ⟨_, rfl, rfl, by decide, rfl⟩⟩
  have hloose : ∀ element, ¬Placement.Pins [("z", .append)] element (2 ^ 64 - 1) := by
    rintro element ⟨_, tag, _, hhint⟩
    cases List.mem_singleton.mp ((OrderedMap.get?_eq_some_iff (by decide)).mp hhint)
  obtain ⟨hmore, hcounters, hsteps, hitems⟩ :=
    growth_stays_in_words hplan hhints rfl hfits hwrites
  have hroom := fun element position length hmem =>
    (hsteps element position length hmem).mpr (hloose element)
  exact ⟨hplan, hhints, hfits, _, _, hwrites, rfl, rfl, hmore, hcounters, hroom, rfl,
    hitems hroom _ rfl⟩

/-- The plan of a constant under a hint for the last word. -/
def lastWordPlan : RulePlan :=
  fillingPlan "a=18446744073709551615" ⟨[⟨"rows", .named "a"⟩]⟩ [("a", .position (2 ^ 64 - 1))]

/-- A hint for the last word is read, and the first write under it adds one to this word. -/
theorem growth_passes_last_word :
    Hints.readOptional (some "a=18446744073709551615") =
      .ok ⟨[("a", .position (2 ^ 64 - 1))], []⟩ ∧
    RulePlan.ofRule (fillingRule "a=18446744073709551615") (cellLookups "$.rows[a]") .default
      .default = .ok lastWordPlan ∧
    ∃ task before,
      lastWordPlan.Writes ⟨.object [], none, .default⟩
        ⟨0, .start lastWordPlan.openTags, [], .object []⟩ task before ∧
      ∃ element position length, .item element position length ∈ (task.walk before).steps ∧
        ¬position + 1 < 2 ^ 64 := by
  have hhints : Hints.readOptional (some "a=18446744073709551615") =
      .ok ⟨[("a", .position (2 ^ 64 - 1))], []⟩ := by cbv
  refine ⟨hhints, ofRule_fillingRule (by cbv) (by cbv) hhints,
    lastWordPlan.task (.boolean true) none false, ⟨0, .start lastWordPlan.openTags, .object []⟩,
    ⟨.boolean true, [], rfl, rfl, .refl⟩, ⟨"rows", .named "a"⟩, 2 ^ 64 - 1, 0, ?_, by decide⟩
  exact List.mem_cons_self

end DocumentMapping
