import DocumentMapping.Proofs.Mapping.Runs
import DocumentMapping.Proofs.Tree.Reading

/-!
# Which positions the source gives to the destination

A destination tag is correlated when it is the effective tag of an indexed element of the source.
What the correlation of two paths holds under a tag is described here first. From it follows the
position that a value of the source gives to a correlated tag: that of the last element with this
effective tag in the concrete path of the value.
-/

namespace DocumentMapping

/-! ## Correlated tags -/

namespace Correlation

/-- The element that is found under a tag bears the tag. -/
theorem elementTagged?_eq_some {path : Path} {tag : String} {target : CorrelationTarget}
    (h : elementTagged? path tag = some target) : target.tag = tag ∧ tag ∈ path.tags := by
  obtain ⟨element, hfind, rfl⟩ := Option.map_eq_some_iff.mp h
  refine ⟨rfl, List.mem_filterMap.mpr ⟨element, List.mem_of_find?_eq_some hfind, ?_⟩⟩
  simpa using List.find?_some hfind

/-- Under every tag of a path an element is found. -/
theorem exists_elementTagged? {path : Path} {tag : String} (h : tag ∈ path.tags) :
    ∃ target, elementTagged? path tag = some target := by
  obtain ⟨element, hmem, htag⟩ := List.mem_filterMap.mp h
  cases hfind : path.elements.find? (·.tag? = some tag) with
  | some found => exact ⟨⟨found.name, tag⟩, by rw [elementTagged?, hfind, Option.map_some]⟩
  | none => exact absurd (decide_eq_true htag) (List.find?_eq_none.mp hfind element hmem)

/-- A source tag is matched with the element under its effective tag. -/
theorem last?_matched (destination source : Path) (renames : Renames) (tag : String) :
    OrderedMap.last? (matched destination source renames) tag =
      if tag ∈ source.tags then elementTagged? destination (renames.resolve tag) else none :=
  OrderedMap.last?_filterMap source.tags
    (fun sourceTag => elementTagged? destination (renames.resolve sourceTag)) tag

theorem isCorrelated_addUnsteered (correlation : Correlation) (element : PathElement)
    (tag : String) :
    (correlation.addUnsteered element).isCorrelated tag = correlation.isCorrelated tag := by
  unfold addUnsteered
  split
  · rfl
  · split <;> rfl

/-- An element is listed under its own tag when the tag is neither steered nor listed yet. -/
theorem get?_addUnsteered (correlation : Correlation) (element : PathElement) (key : String) :
    (correlation.addUnsteered element).get? key =
      (correlation.get? key).or
        (if !correlation.isCorrelated key && element.tag? = some key then
          some ⟨element.name, key⟩ else none) := by
  unfold addUnsteered
  cases htag : element.tag? with
  | none => simp
  | some tag =>
    by_cases hkey : tag = key
    · subst hkey
      cases hsteered : correlation.isCorrelated tag with
      | true => simp [hsteered]
      | false =>
        cases hentry : correlation.get? tag with
        | some target =>
          have hcontains := OrderedMap.contains_of_get? hentry
          simp [hsteered, hcontains, hentry]
        | none =>
          have hcontains := OrderedMap.contains_eq_false_iff.mpr hentry
          simp [hsteered, hcontains, get?, OrderedMap.get?_insert]
    · simp only [Option.some.injEq, hkey, decide_false, Bool.and_false, Bool.false_eq_true,
        if_false, Option.or_none]
      split
      · rfl
      · rw [get?, OrderedMap.get?_insert, if_neg hkey, get?]

/-- Listing several elements keeps what is there and adds the first element under every tag that is
not steered. -/
theorem get?_foldl_addUnsteered (elements : List PathElement) (correlation : Correlation)
    (key : String) :
    (elements.foldl addUnsteered correlation).get? key =
      (correlation.get? key).or
        (if correlation.isCorrelated key then none
          else (elements.find? (·.tag? = some key)).map fun element => ⟨element.name, key⟩) := by
  induction elements generalizing correlation with
  | nil => cases correlation.isCorrelated key <;> simp
  | cons element rest ih =>
    rw [List.foldl_cons, ih, get?_addUnsteered, isCorrelated_addUnsteered, Option.or_assoc]
    congr 1
    cases correlation.isCorrelated key with
    | true => rfl
    | false =>
      rw [List.find?_cons]
      by_cases htag : element.tag? = some key <;> simp [htag]

theorem isCorrelated_foldl_addUnsteered (elements : List PathElement) (correlation : Correlation)
    (key : String) :
    (elements.foldl addUnsteered correlation).isCorrelated key = correlation.isCorrelated key := by
  induction elements generalizing correlation with
  | nil => rfl
  | cons element rest ih => rw [List.foldl_cons, ih, isCorrelated_addUnsteered]

/-- A tag is steered when something that steers the destination has it. -/
theorem isCorrelated_ofMatched (destination : Path) (found : List (String × CorrelationTarget))
    (tag : String) :
    (ofMatched destination found).isCorrelated tag = (found.map (·.2.tag)).contains tag :=
  isCorrelated_foldl_addUnsteered destination.elements _ tag

/-- A key holds what it steers, or else the first element of the destination that it is the tag of,
unless that is steered. -/
theorem get?_ofMatched (destination : Path) (found : List (String × CorrelationTarget))
    (key : String) :
    (ofMatched destination found).get? key =
      (OrderedMap.last? found key).or
        (if (ofMatched destination found).isCorrelated key then none
          else elementTagged? destination key) := by
  rw [ofMatched, get?_foldl_addUnsteered, isCorrelated_foldl_addUnsteered, get?,
    OrderedMap.get?_ofList]
  rfl

variable {destination source : Path} {renames : Renames} {tag : String}

/-- The correlated tags are those of the destination that are effective tags of the source. -/
theorem isCorrelated_ofPaths_iff :
    (ofPaths destination (some source) renames).isCorrelated tag = true ↔
      tag ∈ destination.tags ∧ ∃ sourceTag ∈ source.tags, renames.resolve sourceTag = tag := by
  rw [ofPaths, matchedOptional, isCorrelated_ofMatched, List.contains_iff_mem, List.mem_map]
  constructor
  · rintro ⟨⟨sourceTag, target⟩, hmem, rfl⟩
    obtain ⟨_, hsource, hmap⟩ := List.mem_filterMap.mp hmem
    obtain ⟨_, hfound, heq⟩ := Option.map_eq_some_iff.mp hmap
    cases heq
    obtain ⟨htarget, hdestination⟩ := elementTagged?_eq_some hfound
    rw [htarget]
    exact ⟨hdestination, sourceTag, hsource, rfl⟩
  · rintro ⟨hdestination, sourceTag, hsource, rfl⟩
    obtain ⟨target, htarget⟩ := exists_elementTagged? hdestination
    refine ⟨(sourceTag, target), List.mem_filterMap.mpr ⟨sourceTag, hsource, ?_⟩,
      (elementTagged?_eq_some htarget).1⟩
    rw [htarget]
    rfl

/-- Without a source nothing is correlated. -/
theorem isCorrelated_ofPaths_none (destination : Path) (renames : Renames) (tag : String) :
    (ofPaths destination none renames).isCorrelated tag = false :=
  isCorrelated_ofMatched destination [] tag

/-- A source tag is listed with the element under its effective tag. When there is none it is looked
up among the tags of the destination that are not correlated. -/
theorem get?_ofPaths (hsource : tag ∈ source.tags) :
    (ofPaths destination (some source) renames).get? tag =
      (elementTagged? destination (renames.resolve tag)).or
        (if (ofPaths destination (some source) renames).isCorrelated tag then none
          else elementTagged? destination tag) := by
  rw [ofPaths, matchedOptional, get?_ofMatched, last?_matched, if_pos hsource]

/-- What a source tag is listed with is a tag of the destination. -/
theorem tag_mem_of_get? {target : CorrelationTarget} (hsource : tag ∈ source.tags)
    (htarget : (ofPaths destination (some source) renames).get? tag = some target) :
    target.tag ∈ destination.tags := by
  rw [get?_ofPaths hsource, Option.or_eq_some_iff] at htarget
  rcases htarget with hfound | ⟨_, hother⟩
  · obtain ⟨htag, hmem⟩ := elementTagged?_eq_some hfound
    rwa [htag]
  · split at hother
    · cases hother
    · obtain ⟨htag, hmem⟩ := elementTagged?_eq_some hother
      rwa [htag]

/-- A source tag is listed with a correlated tag exactly when that is its effective tag. -/
theorem map_tag_get?_iff {sourceTag : String} (hsource : sourceTag ∈ source.tags)
    (hcorrelated : (ofPaths destination (some source) renames).isCorrelated tag = true) :
    ((ofPaths destination (some source) renames).get? sourceTag).map (·.tag) = some tag ↔
      renames.resolve sourceTag = tag := by
  rw [get?_ofPaths hsource]
  cases hfound : elementTagged? destination (renames.resolve sourceTag) with
  | some found =>
    rw [Option.some_or, Option.map_some, (elementTagged?_eq_some hfound).1, Option.some.injEq]
  | none =>
    have hforeign : renames.resolve sourceTag ≠ tag := by
      rintro rfl
      obtain ⟨_, hsome⟩ := exists_elementTagged? (isCorrelated_ofPaths_iff.mp hcorrelated).1
      rw [hfound] at hsome
      cases hsome
    rw [Option.none_or, iff_false_right hforeign]
    split
    · exact nofun
    · rename_i huncorrelated
      intro hlisted
      obtain ⟨other, hother, rfl⟩ := Option.map_eq_some_iff.mp hlisted
      rw [(elementTagged?_eq_some hother).1] at hcorrelated
      exact huncorrelated hcorrelated

/-- A source tag is listed with a tag of the destination that is not correlated exactly when it is
this tag and the destination lacks its effective tag. -/
theorem map_tag_get?_iff_of_not_isCorrelated {sourceTag : String}
    (hsource : sourceTag ∈ source.tags) (hdestination : tag ∈ destination.tags)
    (huncorrelated : (ofPaths destination (some source) renames).isCorrelated tag = false) :
    ((ofPaths destination (some source) renames).get? sourceTag).map (·.tag) = some tag ↔
      sourceTag = tag ∧ renames.resolve sourceTag ∉ destination.tags := by
  rw [get?_ofPaths hsource]
  cases hfound : elementTagged? destination (renames.resolve sourceTag) with
  | some found =>
    obtain ⟨htag, hmem⟩ := elementTagged?_eq_some hfound
    have hother : renames.resolve sourceTag ≠ tag := by
      rintro rfl
      rw [isCorrelated_ofPaths_iff.mpr ⟨hdestination, sourceTag, hsource, rfl⟩] at huncorrelated
      cases huncorrelated
    rw [Option.some_or, Option.map_some, htag, Option.some.injEq]
    exact iff_of_false hother fun hlacks => hlacks.2 hmem
  | none =>
    have hlacks : renames.resolve sourceTag ∉ destination.tags := by
      intro hmem
      obtain ⟨_, hsome⟩ := exists_elementTagged? hmem
      rw [hfound] at hsome
      cases hsome
    rw [Option.none_or, and_iff_left hlacks]
    constructor
    · split
      · exact nofun
      · intro hlisted
        obtain ⟨other, hother, rfl⟩ := Option.map_eq_some_iff.mp hlisted
        exact (elementTagged?_eq_some hother).1.symm
    · rintro rfl
      obtain ⟨found, hown⟩ := exists_elementTagged? hdestination
      rw [huncorrelated, if_neg Bool.false_ne_true, hown, Option.map_some,
        (elementTagged?_eq_some hown).1]

end Correlation

/-! ## Steered positions -/

/-- The position that a value of the source gives to a tag: in its concrete path, the position of
the last element that has the tag after renames. -/
def steeredPosition? (source : Path) (renames : Renames) (value : SelectedValue) (tag : String) :
    Option Nat :=
  (source.indexed.filterMap fun (place, element) =>
    if element.tag?.map renames.resolve = some tag then value.position? place
    else none).getLast?

theorem Path.mem_indexed_iff {path : Path} {place : Nat} {element : PathElement} :
    (place, element) ∈ path.indexed ↔
      path.elements[place]? = some element ∧ element.index.isIndexed = true := by
  unfold indexed
  rw [List.mem_map]
  constructor
  · rintro ⟨⟨found, index⟩, hmem, heq⟩
    cases heq
    rw [List.mem_filter, List.mem_zipIdx_iff_getElem?] at hmem
    exact hmem
  · rintro ⟨helement, hindexed⟩
    refine ⟨(element, place), ?_, rfl⟩
    rw [List.mem_filter, List.mem_zipIdx_iff_getElem?]
    exact ⟨helement, hindexed⟩

/-- The tag of an indexed element is one of the path. -/
theorem Path.mem_tags_of_mem_indexed {path : Path} {place : Nat} {element : PathElement}
    {tag : String} (hmem : (place, element) ∈ path.indexed) (htag : element.tag? = some tag) :
    tag ∈ path.tags :=
  List.mem_filterMap.mpr
    ⟨element, List.mem_of_getElem? (Path.mem_indexed_iff.mp hmem).1, htag⟩

/-- The concrete path of a value has a position for every indexed element of its path. -/
theorem Path.exists_position? {path : Path} {value : SelectedValue} {place : Nat}
    {element : PathElement} (hcovers : path.Covers value.path)
    (hmem : (place, element) ∈ path.indexed) :
    ∃ position, value.position? place = some position := by
  obtain ⟨helement, hindexed⟩ := Path.mem_indexed_iff.mp hmem
  obtain ⟨hlt, hget⟩ := List.getElem?_eq_some_iff.mp helement
  have hstep : place < value.path.elements.length := by rw [← hcovers.length_eq]; exact hlt
  obtain ⟨_, hindex⟩ := hcovers.get hlt hstep
  rw [List.get_eq_getElem, List.get_eq_getElem, hget] at hindex
  have hposition : ∃ position, value.path.elements[place].index = .static position := by
    generalize value.path.elements[place].index = concrete at hindex
    generalize element.index = index at hindex hindexed
    cases hindex with
    | none => cases hindexed
    | static position => exact ⟨position, rfl⟩
    | wildcard run position => exact ⟨position, rfl⟩
    | named tag position => exact ⟨position, rfl⟩
  obtain ⟨position, hposition⟩ := hposition
  refine ⟨position.toNat, ?_⟩
  rw [SelectedValue.position?, List.getElem?_eq_getElem hstep, Option.bind_some, hposition]
  rfl

/-- An effective tag of the source has a position in every concrete path. -/
theorem exists_steeredPosition? {source : Path} {renames : Renames} {value : SelectedValue}
    {sourceTag : String} (hcovers : source.Covers value.path) (hsource : sourceTag ∈ source.tags) :
    ∃ position, steeredPosition? source renames value (renames.resolve sourceTag) =
      some position := by
  obtain ⟨element, hmem, htag⟩ := List.mem_filterMap.mp hsource
  obtain ⟨place, hplace⟩ := List.mem_iff_getElem?.mp hmem
  have hindexed : element.index.isIndexed = true := by
    unfold PathElement.tag? at htag
    cases hindex : element.index with
    | none => simp [hindex, PathIndex.tag?] at htag
    | static position => rfl
    | wildcard run => rfl
    | named tag => rfl
  have hplaced := Path.mem_indexed_iff.mpr ⟨hplace, hindexed⟩
  obtain ⟨position, hposition⟩ := Path.exists_position? hcovers hplaced
  have hfound : position ∈ source.indexed.filterMap fun (place, element) =>
      if element.tag?.map renames.resolve = some (renames.resolve sourceTag) then
        value.position? place else none := by
    refine List.mem_filterMap.mpr ⟨(place, element), hplaced, ?_⟩
    simp only [htag, Option.map_some, if_true, hposition]
  exact ⟨_, List.getLast?_eq_some_getLast (List.ne_nil_of_mem hfound)⟩

/-- A tag that the source lacks has no position when nothing is renamed. -/
theorem steeredPosition?_eq_none {source : Path} {value : SelectedValue} {tag : String}
    (hforeign : tag ∉ source.tags) : steeredPosition? source [] value tag = none := by
  rw [steeredPosition?, List.getLast?_eq_none_iff, List.filterMap_eq_nil_iff]
  rintro ⟨place, element⟩ hmem
  refine if_neg fun htag => ?_
  obtain ⟨sourceTag, hsourceTag, rfl⟩ := Option.map_eq_some_iff.mp htag
  exact hforeign (Path.mem_tags_of_mem_indexed hmem hsourceTag)

namespace RulePlan

variable {plan : RulePlan} {source : Path}

/-- The hint that follows from an indexed element of the source, if it steers a tag that is not
pinned. -/
def steering? (plan : RulePlan) (value : SelectedValue) (indexed : Nat × PathElement) :
    Option (String × ItemHint) :=
  (indexed.2.tag?.bind plan.correlation.get?).bind fun target =>
    (value.position? indexed.1).bind fun position =>
      if plan.placement.contains target.tag then none else some (target.tag, .position position)

/-- The hints that follow from the place of a value are those of the indexed elements, of which the
last one counts. -/
theorem steer_eq_ofList (hsource : plan.source = some source) (value : SelectedValue) :
    plan.steer value = OrderedMap.ofList (source.indexed.filterMap (plan.steering? value)) := by
  unfold steer OrderedMap.ofList
  rw [hsource, List.foldl_filterMap]
  simp only
  congr 1
  funext placement ⟨place, element⟩
  unfold steering?
  cases element.tag?.bind plan.correlation.get? with
  | none => rfl
  | some target =>
    cases value.position? place with
    | none => rfl
    | some position =>
      simp only [Option.bind_some]
      cases plan.placement.contains target.tag <;> rfl

/-- A pinned tag gets no hint from the source. -/
theorem get?_steer_of_contains {tag : String} (value : SelectedValue)
    (hpinned : plan.placement.contains tag = true) : (plan.steer value).get? tag = none := by
  cases hsource : plan.source with
  | none => rw [steer, hsource, OrderedMap.get?_nil]
  | some source =>
    rw [steer_eq_ofList hsource, OrderedMap.get?_ofList, OrderedMap.last?, List.filter_filterMap,
      Option.map_eq_none_iff, List.getLast?_eq_none_iff, List.filterMap_eq_nil_iff]
    rintro ⟨place, element⟩ _
    rw [Option.filter_eq_none_iff]
    intro entry hentry htag
    obtain ⟨target, _, hentry⟩ := Option.bind_eq_some_iff.mp hentry
    obtain ⟨position, _, hentry⟩ := Option.bind_eq_some_iff.mp hentry
    split at hentry
    · cases hentry
    · rename_i hunpinned
      cases hentry
      have heq : target.tag = tag := of_decide_eq_true htag
      rw [heq] at hunpinned
      exact hunpinned hpinned

/-- A tag that is not pinned gets the position of the last source element that is listed with it. -/
theorem get?_steer {tag : String} (hsource : plan.source = some source)
    (hunpinned : plan.placement.contains tag = false) (value : SelectedValue) :
    (plan.steer value).get? tag =
      (source.indexed.filterMap fun (place, element) =>
        if (element.tag?.bind plan.correlation.get?).map (·.tag) = some tag then
          value.position? place
        else none).getLast?.map .position := by
  rw [steer_eq_ofList hsource, OrderedMap.get?_ofList, OrderedMap.last?, List.filter_filterMap,
    ← List.getLast?_map, ← List.getLast?_map, List.map_filterMap, List.map_filterMap]
  congr 1
  apply List.filterMap_congr
  rintro ⟨place, element⟩ _
  simp only [steering?]
  cases element.tag?.bind plan.correlation.get? with
  | none => rfl
  | some target =>
    simp only [Option.bind_some, Option.map_some, Option.some.injEq]
    by_cases heq : target.tag = tag
    · rw [if_pos heq, heq, hunpinned]
      cases value.position? place <;> simp
    · rw [if_neg heq]
      cases value.position? place with
      | none => rfl
      | some position => split <;> simp [heq]

/-- A correlated tag that is not pinned gets the position of the last source element with this
effective tag. -/
theorem get?_steer_of_isCorrelated {renames : Renames} {tag : String}
    (hsource : plan.source = some source)
    (hcorrelation : plan.correlation =
      Correlation.ofPaths plan.destination (some source) renames)
    (hunpinned : plan.placement.contains tag = false)
    (hcorrelated : plan.correlation.isCorrelated tag = true) (value : SelectedValue) :
    (plan.steer value).get? tag =
      (steeredPosition? source renames value tag).map .position := by
  rw [get?_steer hsource hunpinned, steeredPosition?]
  congr 2
  apply List.filterMap_congr
  rintro ⟨place, element⟩ hmem
  rw [hcorrelation] at hcorrelated ⊢
  cases htag : element.tag? with
  | none => simp [htag]
  | some sourceTag =>
    have hsourceTag := Path.mem_tags_of_mem_indexed hmem htag
    have hlisted := Correlation.map_tag_get?_iff hsourceTag hcorrelated
    simp only [htag, Option.bind_some, hlisted, Option.map_some, Option.some.injEq]

/-- A tag of the destination that is neither pinned nor correlated gets a position only when the
destination lacks its effective tag: that of the last source element with the tag itself. -/
theorem get?_steer_of_not_isCorrelated {renames : Renames} {tag : String}
    (hsource : plan.source = some source)
    (hcorrelation : plan.correlation =
      Correlation.ofPaths plan.destination (some source) renames)
    (hunpinned : plan.placement.contains tag = false) (hdestination : tag ∈ plan.destination.tags)
    (huncorrelated : plan.correlation.isCorrelated tag = false) (value : SelectedValue) :
    (plan.steer value).get? tag =
      if renames.resolve tag ∈ plan.destination.tags then none
      else (steeredPosition? source [] value tag).map .position := by
  have hlisted : ∀ sourceTag ∈ source.tags,
      (plan.correlation.get? sourceTag).map (·.tag) = some tag ↔
        sourceTag = tag ∧ renames.resolve sourceTag ∉ plan.destination.tags := by
    intro sourceTag hsourceTag
    rw [hcorrelation] at huncorrelated ⊢
    exact Correlation.map_tag_get?_iff_of_not_isCorrelated hsourceTag hdestination huncorrelated
  rw [get?_steer hsource hunpinned]
  split
  · rename_i hkept
    rw [Option.map_eq_none_iff, List.getLast?_eq_none_iff, List.filterMap_eq_nil_iff]
    rintro ⟨place, element⟩ hmem
    cases htag : element.tag? with
    | none => simp [htag]
    | some sourceTag =>
      have hsourceTag := Path.mem_tags_of_mem_indexed hmem htag
      simp only [htag, Option.bind_some, hlisted sourceTag hsourceTag]
      exact if_neg fun ⟨hsame, hlacks⟩ => hlacks (hsame ▸ hkept)
  · rename_i hlacks
    rw [steeredPosition?]
    congr 2
    apply List.filterMap_congr
    rintro ⟨place, element⟩ hmem
    cases htag : element.tag? with
    | none => simp [htag]
    | some sourceTag =>
      have hsourceTag := Path.mem_tags_of_mem_indexed hmem htag
      have hown : Renames.resolve [] sourceTag = sourceTag := rfl
      simp only [htag, Option.bind_some, hlisted sourceTag hsourceTag, Option.map_some,
        Option.some.injEq, hown]
      congr 1
      exact propext ⟨fun h => h.1, fun h => ⟨h, h ▸ hlacks⟩⟩

/-- A value that the source reads gets a hint under every correlated tag that is not pinned. -/
theorem steer_ne_nil {renames : Renames} {tag : String} {value : SelectedValue}
    (hsource : plan.source = some source)
    (hcorrelation : plan.correlation =
      Correlation.ofPaths plan.destination (some source) renames)
    (hcovers : source.Covers value.path) (hunpinned : plan.placement.contains tag = false)
    (hcorrelated : plan.correlation.isCorrelated tag = true) : plan.steer value ≠ [] := by
  have hsteer := get?_steer_of_isCorrelated hsource hcorrelation hunpinned hcorrelated value
  rw [hcorrelation] at hcorrelated
  obtain ⟨_, sourceTag, hsourceTag, htag⟩ := Correlation.isCorrelated_ofPaths_iff.mp hcorrelated
  obtain ⟨position, hposition⟩ := exists_steeredPosition? hcovers hsourceTag
  rw [htag] at hposition
  intro hnil
  rw [hnil, hposition] at hsteer
  cases hsteer

/-- The places of the values of a plan: those that its source covers, and none without a source. -/
inductive Locates (plan : RulePlan) : Option SelectedValue → Prop where
  | nowhere (hsource : plan.source = none) : Locates plan none
  | covered {source : Path} {selected : SelectedValue} (hsource : plan.source = some source)
      (hcovers : source.Covers selected.path) : Locates plan (some selected)

/-- A tag without a hint is not correlated when the place of a value gives no hints. -/
theorem isCorrelated_eq_false_of_steer {renames : Renames} {tag : String}
    {located : Option SelectedValue} (hlocated : plan.Locates located)
    (hcorrelation : plan.correlation =
      Correlation.ofPaths plan.destination plan.source renames)
    (hunpinned : plan.placement.contains tag = false)
    (hnil : (located.map plan.steer).getD [] = []) : plan.correlation.isCorrelated tag = false := by
  cases hlocated with
  | nowhere hsource =>
    rw [hcorrelation, hsource]
    exact Correlation.isCorrelated_ofPaths_none _ _ _
  | covered hsource hcovers =>
    rw [hsource] at hcorrelation
    rw [← Bool.not_eq_true]
    exact fun hcorrelated => steer_ne_nil hsource hcorrelation hcovers hunpinned hcorrelated hnil

/-- When the place of a value gives hints at all, it gives a tag of the destination a position. -/
theorem exists_get?_steer {renames : Renames} {value : SelectedValue}
    (hsource : plan.source = some source)
    (hcorrelation : plan.correlation =
      Correlation.ofPaths plan.destination (some source) renames)
    (hne : plan.steer value ≠ []) :
    ∃ tag ∈ plan.destination.tags, ∃ position,
      (plan.steer value).get? tag = some (.position position) := by
  have hentries : ∀ entry ∈ source.indexed.filterMap (plan.steering? value),
      entry.1 ∈ plan.destination.tags ∧ ∃ position, entry.2 = .position position := by
    intro entry hmem
    obtain ⟨⟨place, element⟩, hindexed, hentry⟩ := List.mem_filterMap.mp hmem
    obtain ⟨target, htarget, hentry⟩ := Option.bind_eq_some_iff.mp hentry
    obtain ⟨position, _, hentry⟩ := Option.bind_eq_some_iff.mp hentry
    obtain ⟨sourceTag, htag, hget⟩ := Option.bind_eq_some_iff.mp htarget
    rw [hcorrelation] at hget
    split at hentry
    · cases hentry
    · cases hentry
      have hsourceTag := Path.mem_tags_of_mem_indexed hindexed htag
      exact ⟨Correlation.tag_mem_of_get? hsourceTag hget, position, rfl⟩
  rw [steer_eq_ofList hsource] at hne ⊢
  cases hcase : source.indexed.filterMap (plan.steering? value) with
  | nil =>
    rw [hcase] at hne
    exact (hne rfl).elim
  | cons entry rest =>
    rw [hcase] at hentries
    have hfirst : entry ∈ entry :: rest := List.mem_cons_self
    obtain ⟨hint, hlast⟩ := OrderedMap.exists_last? hfirst
    obtain ⟨htag, position, hposition⟩ := hentries _ (OrderedMap.mem_of_last? hlast)
    refine ⟨entry.1, htag, position, ?_⟩
    rw [OrderedMap.get?_ofList, hlast]
    exact congrArg some hposition

/-- The hints of a rule hold unless the place of the value gives one. -/
theorem get?_merge_steer (plan : RulePlan) (value : SelectedValue) (tag : String) :
    (plan.placement.merge (plan.steer value)).get? tag =
      ((plan.steer value).get? tag).or (plan.placement.get? tag) := by
  have hnodup : (OrderedMap.keys (plan.steer value)).Nodup := by
    cases hsource : plan.source with
    | none =>
      rw [steer, hsource]
      exact List.nodup_nil
    | some source =>
      rw [steer_eq_ofList hsource]
      exact OrderedMap.nodup_keys_ofList _
  rw [OrderedMap.get?_merge, OrderedMap.last?_of_nodup hnodup]

end RulePlan

end DocumentMapping
