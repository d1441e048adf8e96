import DocumentMapping.Proofs.Path.Reading
import DocumentMapping.Proofs.Tree.Reading

/-!
# Consistent indexes

The indexes of elements are consistent when no wildcard run and no named tag occurs twice and the
two kinds do not occur together. Elements form a path exactly when their indexes are consistent, and
otherwise the fault is that of the first repetition, or of the mixture when nothing repeats. The
columns of tables and the concrete paths of selected values are consistent too, although nobody
checks them.
-/

namespace DocumentMapping

open PathText (WrittenElement)

/-- The indexes of elements are consistent. -/
structure Consistent (elements : List PathElement) : Prop where
  /-- No wildcard run occurs twice. -/
  run_once : ∀ run, (elements.map (·.index)).count (.wildcard run) ≤ 1
  /-- No named tag occurs twice. -/
  tag_once : ∀ tag, (elements.map (·.index)).count (.named tag) ≤ 1
  /-- Wildcards and named tags do not both occur. -/
  unmixed : ∀ run tag, .wildcard run ∈ elements.map (·.index) →
    .named tag ∉ elements.map (·.index)

/-! ## Repetitions -/

/-- The fault of an index that occurs twice. Fixed positions may repeat. -/
def PathIndex.repetition? : PathIndex → Option PathError
  | .wildcard run => some (.duplicateWildcard run)
  | .named tag => some (.duplicateTag tag)
  | _ => Option.none

/-- An element repeats the run or the tag of one of the elements before it. -/
def Repeats (before : List PathElement) (element : PathElement) (error : PathError) : Prop :=
  element.index.repetition? = some error ∧ ∃ earlier ∈ before, earlier.index = element.index

/-- No element repeats the run or the tag of one before it. -/
def Unrepeated (elements : List PathElement) : Prop :=
  elements.Pairwise fun earlier element =>
    element.index.repetition? ≠ Option.none → earlier.index ≠ element.index

/-- The first element that repeats an earlier one has the given fault. -/
def FirstRepeats (elements : List PathElement) (error : PathError) : Prop :=
  ∃ before element after,
    elements = before ++ element :: after ∧ Unrepeated before ∧ Repeats before element error

theorem unrepeated_concat_iff {before : List PathElement} {element : PathElement} :
    Unrepeated (before ++ [element]) ↔
      Unrepeated before ∧ ∀ error, ¬ Repeats before element error := by
  unfold Unrepeated
  rw [List.pairwise_append, and_iff_right (List.pairwise_singleton _ _)]
  apply and_congr_right'
  constructor
  · rintro h error ⟨hfault, earlier, hmem, heq⟩
    exact h earlier hmem element (List.mem_singleton_self _) (by simp [hfault]) heq
  · intro h earlier hmem last hlast hdynamic heq
    rw [List.mem_singleton] at hlast
    subst hlast
    obtain ⟨error, hfault⟩ := Option.ne_none_iff_exists'.mp hdynamic
    exact h error ⟨hfault, earlier, hmem, heq⟩

/-- An element that repeats one before it repeats one of its list. -/
theorem not_unrepeated_of_repeats {before after : List PathElement} {element : PathElement}
    {error : PathError} (h : Repeats before element error) :
    ¬ Unrepeated (before ++ element :: after) := by
  intro hall
  have hprefix : Unrepeated (before ++ [element]) :=
    hall.sublist (by simp)
  exact (unrepeated_concat_iff.mp hprefix).2 error h

/-- Where nothing repeats there is no first repetition. -/
theorem not_firstRepeats_of_unrepeated {elements : List PathElement} {error : PathError}
    (h : Unrepeated elements) : ¬ FirstRepeats elements error := by
  rintro ⟨before, element, after, rfl, _, hrepeats⟩
  exact not_unrepeated_of_repeats hrepeats h

/-- Nothing repeats when there is no first repetition. -/
theorem unrepeated_iff {elements : List PathElement} :
    Unrepeated elements ↔ ∀ error, ¬ FirstRepeats elements error := by
  refine ⟨fun h error => not_firstRepeats_of_unrepeated h, ?_⟩
  intro h
  induction elements using List.reverseRecOn with
  | nil => exact .nil
  | append_singleton before element ih =>
    have hbefore : Unrepeated before := by
      refine ih fun error hfirst => h error ?_
      obtain ⟨earlier, repeated, after, rfl, hunrepeated, hrepeats⟩ := hfirst
      exact ⟨earlier, repeated, after ++ [element], by simp, hunrepeated, hrepeats⟩
    exact unrepeated_concat_iff.mpr
      ⟨hbefore, fun error hrepeats => h error ⟨before, element, [], rfl, hbefore, hrepeats⟩⟩

/-- When the first repetition is that of an element, no other one is. -/
theorem firstRepeats_iff_of_repeats {before after : List PathElement} {element : PathElement}
    {error other : PathError} (hbefore : Unrepeated before)
    (hrepeats : Repeats before element error) :
    FirstRepeats (before ++ element :: after) other ↔ other = error := by
  constructor
  · rintro ⟨first, last, rest, hsplit, hfirst, hlast⟩
    rcases List.append_eq_append_iff.mp hsplit with ⟨more, rfl, hrest⟩ | ⟨more, rfl, hrest⟩
    · cases more with
      | nil =>
        obtain ⟨rfl, _⟩ := List.cons.inj hrest
        rw [List.append_nil] at hlast
        exact Option.some.inj (hlast.1.symm.trans hrepeats.1)
      | cons next more =>
        obtain ⟨rfl, _⟩ := List.cons.inj hrest
        exact (not_unrepeated_of_repeats hrepeats hfirst).elim
    · cases more with
      | nil =>
        obtain ⟨rfl, _⟩ := List.cons.inj hrest
        rw [List.append_nil] at hrepeats
        exact Option.some.inj (hlast.1.symm.trans hrepeats.1)
      | cons next more =>
        obtain ⟨rfl, _⟩ := List.cons.inj hrest
        exact (not_unrepeated_of_repeats hlast hbefore).elim
  · rintro rfl
    exact ⟨before, element, after, rfl, hbefore, hrepeats⟩

/-- The search for a repetition, with the runs and tags of the elements before it, finds the first
one. -/
theorem firstRepetition?_eq_some_iff {before elements : List PathElement} {runs : List Nat}
    {tags : List String} {error : PathError} (hbefore : Unrepeated before)
    (hruns : ∀ run, run ∈ runs ↔ ∃ earlier ∈ before, earlier.index = .wildcard run)
    (htags : ∀ tag, tag ∈ tags ↔ ∃ earlier ∈ before, earlier.index = .named tag) :
    firstRepetition? runs tags elements = some error ↔
      FirstRepeats (before ++ elements) error := by
  induction elements generalizing before runs tags with
  | nil =>
    rw [List.append_nil]
    constructor
    · intro h
      cases h
    · intro h
      exact (not_firstRepeats_of_unrepeated hbefore h).elim
  | cons element rest ih =>
    -- an element that repeats nothing joins those before it
    have hstep : ∀ {runs tags}, (∀ error, ¬ Repeats before element error) →
        (∀ run, run ∈ runs ↔ ∃ earlier ∈ before ++ [element], earlier.index = .wildcard run) →
        (∀ tag, tag ∈ tags ↔ ∃ earlier ∈ before ++ [element], earlier.index = .named tag) →
        (firstRepetition? runs tags rest = some error ↔
          FirstRepeats (before ++ element :: rest) error) := by
      intro runs tags hfree hruns htags
      rw [ih (unrepeated_concat_iff.mpr ⟨hbefore, hfree⟩) hruns htags, List.append_assoc,
        List.singleton_append]
    have hother : element.index.repetition? = Option.none →
        ∀ error, ¬ Repeats before element error := by
      rintro hnone error ⟨hfault, _⟩
      rw [hnone] at hfault
      cases hfault
    rw [firstRepetition?]
    cases hindex : element.index with
    | none =>
      exact hstep (hother (by rw [hindex]; rfl)) (by simp [hruns, hindex]) (by simp [htags, hindex])
    | static position =>
      exact hstep (hother (by rw [hindex]; rfl)) (by simp [hruns, hindex]) (by simp [htags, hindex])
    | wildcard run =>
      dsimp only
      by_cases hmem : run ∈ runs
      · obtain ⟨earlier, hearlier, heq⟩ := (hruns run).mp hmem
        have hrepeats : Repeats before element (.duplicateWildcard run) :=
          ⟨by rw [hindex]; rfl, earlier, hearlier, by rw [heq, hindex]⟩
        rw [if_pos hmem, firstRepeats_iff_of_repeats hbefore hrepeats, Option.some.injEq, eq_comm]
      · rw [if_neg hmem]
        refine hstep ?_ ?_ (by simp [htags, hindex])
        · rintro error ⟨_, earlier, hearlier, heq⟩
          exact hmem ((hruns run).mpr ⟨earlier, hearlier, by rw [heq, hindex]⟩)
        · intro other
          simp [hruns, hindex, or_comm, eq_comm]
    | named tag =>
      dsimp only
      by_cases hmem : tag ∈ tags
      · obtain ⟨earlier, hearlier, heq⟩ := (htags tag).mp hmem
        have hrepeats : Repeats before element (.duplicateTag tag) :=
          ⟨by rw [hindex]; rfl, earlier, hearlier, by rw [heq, hindex]⟩
        rw [if_pos hmem, firstRepeats_iff_of_repeats hbefore hrepeats, Option.some.injEq, eq_comm]
      · rw [if_neg hmem]
        refine hstep ?_ (by simp [hruns, hindex]) ?_
        · rintro error ⟨_, earlier, hearlier, heq⟩
          exact hmem ((htags tag).mpr ⟨earlier, hearlier, by rw [heq, hindex]⟩)
        · intro other
          simp [htags, hindex, or_comm, eq_comm]

/-- From the start of the elements the search finds their first repetition. -/
theorem firstRepetition?_nil_eq_some_iff {elements : List PathElement} {error : PathError} :
    firstRepetition? [] [] elements = some error ↔ FirstRepeats elements error :=
  @firstRepetition?_eq_some_iff [] elements [] [] error .nil (by simp) (by simp)

/-- Nothing repeats when each run and each tag occurs at most once. -/
theorem unrepeated_iff_count {elements : List PathElement} :
    Unrepeated elements ↔
      ∀ index : PathIndex, index.repetition? ≠ Option.none →
        (elements.map (·.index)).count index ≤ 1 := by
  induction elements with
  | nil =>
    constructor
    · intro _ index _
      simp
    · intro _
      exact .nil
  | cons element rest ih =>
    have hcons : Unrepeated (element :: rest) ↔
        (∀ later ∈ rest, later.index.repetition? ≠ Option.none → element.index ≠ later.index) ∧
          Unrepeated rest := List.pairwise_cons
    rw [hcons, ih]
    simp only [List.map_cons, List.count_cons]
    constructor
    · rintro ⟨hfirst, hrest⟩ index hdynamic
      have hle := hrest index hdynamic
      split
      · rename_i heq
        rw [beq_iff_eq] at heq
        subst heq
        -- no later element has the index of the first one
        have hzero : (rest.map (·.index)).count element.index = 0 := by
          rw [List.count_eq_zero, List.mem_map]
          rintro ⟨later, hmem, hindex⟩
          exact hfirst later hmem (by rw [hindex]; exact hdynamic) hindex.symm
        omega
      · omega
    · intro h
      refine ⟨?_, ?_⟩
      · intro later hmem hdynamic heq
        have hle := h later.index hdynamic
        have hpos : 0 < (rest.map (·.index)).count later.index :=
          List.count_pos_iff.mpr (List.mem_map_of_mem hmem)
        rw [if_pos (by rw [heq]; exact beq_self_eq_true _)] at hle
        omega
      · intro index hdynamic
        have hle := h index hdynamic
        omega

/-! ## Mixtures -/

/-- The first index of a kind. -/
def IsFirst {α : Type} (mark : α → PathIndex) (elements : List PathElement) (found : α) : Prop :=
  ∃ before element after,
    elements = before ++ element :: after ∧ element.index = mark found ∧
      ∀ earlier ∈ before, ∀ other, earlier.index ≠ mark other

/-- Collecting what the indexes of a kind hold starts with the first of them. -/
theorem head?_filterMap_eq_some_iff {α : Type} {mark : α → PathIndex}
    {held? : PathElement → Option α}
    (hheld : ∀ element found, held? element = some found ↔ element.index = mark found)
    {elements : List PathElement} {found : α} :
    (elements.filterMap held?).head? = some found ↔ IsFirst mark elements found := by
  rw [List.head?_filterMap, List.findSome?_eq_some_iff]
  unfold IsFirst
  simp only [hheld, Option.eq_none_iff_forall_ne_some, ne_eq]

theorem head?_wildcardRuns_eq_some_iff {elements : List PathElement} {run : Nat} :
    (wildcardRuns elements).head? = some run ↔ IsFirst .wildcard elements run := by
  refine head?_filterMap_eq_some_iff ?_
  rintro ⟨name, index⟩ found
  cases index <;> simp

theorem head?_namedTags_eq_some_iff {elements : List PathElement} {tag : String} :
    (namedTags elements).head? = some tag ↔ IsFirst .named elements tag := by
  refine head?_filterMap_eq_some_iff ?_
  rintro ⟨name, index⟩ found
  cases index <;> simp

/-- Some index of a kind is the first one. -/
theorem exists_isFirst_iff {α : Type} {mark : α → PathIndex} {elements : List PathElement} :
    (∃ found, IsFirst mark elements found) ↔ ∃ found, mark found ∈ elements.map (·.index) := by
  constructor
  · rintro ⟨found, before, element, after, rfl, hindex, _⟩
    exact ⟨found, List.mem_map.mpr ⟨element, by simp, hindex⟩⟩
  · rintro ⟨found, hmem⟩
    induction elements with
    | nil => cases hmem
    | cons element rest ih =>
      by_cases hkind : ∃ other, element.index = mark other
      · obtain ⟨other, hindex⟩ := hkind
        exact ⟨other, [], element, rest, rfl, hindex, fun _ hearlier => nomatch hearlier⟩
      · rw [List.map_cons, List.mem_cons] at hmem
        rcases hmem with heq | hlater
        · exact (hkind ⟨found, heq.symm⟩).elim
        · obtain ⟨first, before, last, after, rfl, hindex, hbefore⟩ := ih hlater
          refine ⟨first, element :: before, last, after, rfl, hindex, ?_⟩
          rw [List.forall_mem_cons]
          exact ⟨fun other heq => hkind ⟨other, heq⟩, hbefore⟩

/-! ## Paths -/

/-- Why elements form no path. -/
inductive Refused (elements : List PathElement) : PathError → Prop where
  /-- An element repeats an earlier one; the fault is that of the first such element. -/
  | repeated {error : PathError} (hfirst : FirstRepeats elements error) : Refused elements error
  /-- Nothing repeats, but wildcards and named tags both occur; the first of each is given. -/
  | mixed {run : Nat} {tag : String} (hunrepeated : Unrepeated elements)
      (hrun : IsFirst .wildcard elements run) (htag : IsFirst .named elements tag) :
      Refused elements (.mixedWildcardAndNamed run tag)

/-- Consistent indexes are those that neither repeat nor mix. -/
theorem consistent_iff {elements : List PathElement} :
    Consistent elements ↔
      Unrepeated elements ∧
        ¬ ((∃ run, IsFirst .wildcard elements run) ∧ ∃ tag, IsFirst .named elements tag) := by
  rw [exists_isFirst_iff, exists_isFirst_iff, unrepeated_iff_count]
  constructor
  · rintro ⟨hruns, htags, hunmixed⟩
    refine ⟨?_, ?_⟩
    · intro index hdynamic
      cases index with
      | none => exact (hdynamic rfl).elim
      | static position => exact (hdynamic rfl).elim
      | wildcard run => exact hruns run
      | named tag => exact htags tag
    · rintro ⟨⟨run, hrun⟩, tag, htag⟩
      exact hunmixed run tag hrun htag
  · rintro ⟨honce, hunmixed⟩
    exact ⟨fun run => honce _ (Option.some_ne_none _), fun tag => honce _ (Option.some_ne_none _),
      fun run tag hrun htag => hunmixed ⟨⟨run, hrun⟩, tag, htag⟩⟩

/-- Elements form a path when no repetition and no mixture is found. -/
theorem Path.ofElements_eq_ok_iff {elements : List PathElement} {path : Path} :
    Path.ofElements elements = .ok path ↔ path = ⟨elements⟩ ∧ Consistent elements := by
  rw [consistent_iff, unrepeated_iff]
  simp only [← firstRepetition?_nil_eq_some_iff, ← head?_wildcardRuns_eq_some_iff,
    ← head?_namedTags_eq_some_iff]
  unfold Path.ofElements
  cases firstRepetition? [] [] elements with
  | some error => simp
  | none =>
    cases (wildcardRuns elements).head? with
    | none => simp [eq_comm]
    | some run =>
      cases (namedTags elements).head? with
      | none => simp [eq_comm]
      | some tag => simp

/-- Elements that form no path are refused for their first repetition, or for their first wildcard
and their first tag when nothing repeats. -/
theorem Path.ofElements_eq_error_iff {elements : List PathElement} {error : PathError} :
    Path.ofElements elements = .error error ↔ Refused elements error := by
  have hrefused : Refused elements error ↔ FirstRepeats elements error ∨
      ∃ run tag, error = .mixedWildcardAndNamed run tag ∧ Unrepeated elements ∧
        IsFirst .wildcard elements run ∧ IsFirst .named elements tag := by
    constructor
    · rintro (hfirst | ⟨hunrepeated, hrun, htag⟩)
      · exact .inl hfirst
      · exact .inr ⟨_, _, rfl, hunrepeated, hrun, htag⟩
    · rintro (hfirst | ⟨run, tag, rfl, hunrepeated, hrun, htag⟩)
      · exact .repeated hfirst
      · exact .mixed hunrepeated hrun htag
  rw [hrefused, unrepeated_iff]
  simp only [← firstRepetition?_nil_eq_some_iff, ← head?_wildcardRuns_eq_some_iff,
    ← head?_namedTags_eq_some_iff]
  unfold Path.ofElements
  cases firstRepetition? [] [] elements with
  | some found => simp
  | none =>
    cases (wildcardRuns elements).head? with
    | none => simp
    | some run =>
      cases (namedTags elements).head? with
      | none => simp
      | some tag => simp [eq_comm]

/-- The path of a text has consistent indexes. -/
theorem Path.consistent_of_ofString {text : String} {path : Path}
    (h : Path.ofString text = .ok path) : Consistent path.elements := by
  obtain ⟨tree, htree⟩ := Path.exists_derives h
  obtain rfl : path = ⟨tree.map WrittenElement.value⟩ :=
    Except.ok.inj (h.symm.trans (Path.ofChars_of_derives htree))
  obtain ⟨path, hpath⟩ := htree.consistent
  exact (Path.ofElements_eq_ok_iff.mp hpath).2

/-- Indexes that are absent or fixed are consistent. -/
theorem consistent_of_not_isDynamic {elements : List PathElement}
    (h : ∀ element ∈ elements, element.index.isDynamic = false) : Consistent elements := by
  have hrun : ∀ run, PathIndex.wildcard run ∉ elements.map (·.index) := by
    intro run hmem
    obtain ⟨element, helement, hindex⟩ := List.mem_map.mp hmem
    have hstatic := h element helement
    rw [hindex] at hstatic
    cases hstatic
  have htag : ∀ tag, PathIndex.named tag ∉ elements.map (·.index) := by
    intro tag hmem
    obtain ⟨element, helement, hindex⟩ := List.mem_map.mp hmem
    have hstatic := h element helement
    rw [hindex] at hstatic
    cases hstatic
  refine ⟨fun run => ?_, fun tag => ?_, fun run _ hmem => (hrun run hmem).elim⟩
  · rw [List.count_eq_zero.mpr (hrun run)]
    exact Nat.zero_le 1
  · rw [List.count_eq_zero.mpr (htag tag)]
    exact Nat.zero_le 1

/-- Concrete elements have no index whose position is still open. -/
theorem isDynamic_eq_false_of_covers {elements steps : List PathElement}
    (h : List.Forall₂ PathElement.Covers elements steps) :
    ∀ step ∈ steps, step.index.isDynamic = false := by
  induction h with
  | nil => exact fun _ hmem => nomatch hmem
  | @cons element step _ _ hcovers _ ih =>
    rw [List.forall_mem_cons]
    refine ⟨?_, ih⟩
    obtain ⟨_, hindex⟩ := hcovers
    generalize step.index = concrete at hindex ⊢
    generalize element.index = index at hindex
    cases hindex <;> rfl

/-- The indexes of every path are consistent. Elements form a path exactly when no run and no tag
occurs twice and the two kinds do not mix; otherwise the first repetition is their fault, and only
without a repetition the mixture. What is read from a text is consistent, and so are the columns of
tables and the concrete paths of all values that a reader yields, which are built without a
check. -/
theorem paths_are_consistent :
    (∀ elements path, Path.ofElements elements = .ok path ↔
      path = ⟨elements⟩ ∧ Consistent elements) ∧
    (∀ elements error, Path.ofElements elements = .error error ↔ Refused elements error) ∧
    (∀ text path, Path.ofString text = .ok path → Consistent path.elements) ∧
    (∀ row title, Consistent (Path.tabularColumn row title).elements) ∧
    ∀ source path, ∀ selected ∈ (Reader.start source path).toList,
      Consistent selected.path.elements := by
  refine ⟨fun _ _ => Path.ofElements_eq_ok_iff, fun _ _ => Path.ofElements_eq_error_iff,
    fun _ _ => Path.consistent_of_ofString, ?_, ?_⟩
  · intro row title
    have hpath : Path.ofElements (Path.tabularColumn row title).elements =
        .ok (Path.tabularColumn row title) := rfl
    exact (Path.ofElements_eq_ok_iff.mp hpath).2
  · intro source path selected hmem
    rw [Reader.toList_start] at hmem
    exact consistent_of_not_isDynamic
      (isDynamic_eq_false_of_covers (Path.mem_select_iff.mp hmem).1)

/-- Lines with taxes: a path with two runs, and one whose second tag repeats the first. -/
theorem paths_are_consistent_of_lines :
    Path.ofElements [⟨"lines", .named "a"⟩, ⟨"tax", .static 3⟩, ⟨"rate", .named "a"⟩] =
      .error (.duplicateTag "a") ∧
    Path.ofString "$.lines[*].tax[**]" = .ok ⟨[⟨"lines", .wildcard 1⟩, ⟨"tax", .wildcard 2⟩]⟩ ∧
    Consistent [⟨"lines", .wildcard 1⟩, ⟨"tax", .wildcard 2⟩] ∧
    Consistent [.item "lines" 0, .item "tax" 1] := by
  obtain ⟨_, _, hread, _, hselected⟩ := paths_are_consistent
  have htext : Path.ofString "$.lines[*].tax[**]" =
      .ok ⟨[⟨"lines", .wildcard 1⟩, ⟨"tax", .wildcard 2⟩]⟩ := by cbv
  have hmem : (⟨⟨[.item "lines" 0, .item "tax" 1]⟩, .integer 5⟩ : SelectedValue) ∈
      (Reader.start (.object [("lines", .array [.object [("tax", .array [.object [],
        .scalar (.integer 5)])]])]) ⟨[⟨"lines", .wildcard 1⟩, ⟨"tax", .wildcard 2⟩]⟩).toList := by
    rw [Reader.toList_start]
    decide
  exact ⟨rfl, htext, hread _ _ htext, hselected _ _ _ hmem⟩

end DocumentMapping
