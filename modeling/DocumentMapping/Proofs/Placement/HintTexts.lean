import DocumentMapping.Proofs.Path.RoundTrip
import DocumentMapping.Proofs.Placement.Overriding
import DocumentMapping.Proofs.Text.Trimming
import Mathlib

/-!
# Hint texts compose

A hint text is read pair by pair, so texts that are joined by a separator say what both of them say,
the second one overriding the first. Blanks around pairs, tags and values and pairs without content
do not count. Every tag of a path can be hinted.
-/

namespace DocumentMapping.Hints

/-! ## Joined texts -/

theorem split_ne_nil (text : List Char) : split text ≠ [] := by
  cases text with
  | nil => exact List.cons_ne_nil _ _
  | cons c rest =>
    rw [split]
    split
    · exact List.cons_ne_nil _ _
    · cases split rest with
      | nil => exact List.cons_ne_nil _ _
      | cons first more => exact List.cons_ne_nil _ _

theorem consFirst_append (c : Char) {texts : List (List Char)} (h : texts ≠ [])
    (more : List (List Char)) : consFirst c (texts ++ more) = consFirst c texts ++ more := by
  cases texts with
  | nil => exact absurd rfl h
  | cons first rest => rfl

/-- A separator divides a text into what stands before and behind it. -/
theorem split_append_cons {separator : Char} (h : isSeparator separator = true)
    (before after : List Char) :
    split (before ++ separator :: after) = split before ++ split after := by
  induction before with
  | nil =>
    rw [List.nil_append, split.eq_2, if_pos h]
    rfl
  | cons c rest ih =>
    rw [List.cons_append, split, split, ih]
    split
    · rfl
    · exact consFirst_append c (split_ne_nil rest) _

/-- A text without separators is not divided. -/
theorem split_eq_singleton {text : List Char} (h : ∀ c ∈ text, isSeparator c = false) :
    split text = [text] := by
  induction text with
  | nil => rfl
  | cons c rest ih =>
    obtain ⟨hc, hrest⟩ := List.forall_mem_cons.mp h
    rw [split, hc, ih hrest]
    rfl

theorem pairs_append_cons {separator : Char} (h : isSeparator separator = true)
    (before after : List Char) :
    pairs (before ++ separator :: after) = pairs before ++ pairs after := by
  rw [pairs, split_append_cons h, List.map_append, List.filter_append]
  rfl

/-- A text without separators is one pair, or none if it is blank. -/
theorem pairs_of_undivided {text : List Char} (h : ∀ c ∈ text, isSeparator c = false) :
    pairs text = [Text.trimChars text].filter (!·.isEmpty) := by
  rw [pairs, split_eq_singleton h]
  rfl

/-- Joined texts say what the first one says, overridden by the second one. -/
theorem read_append {separator : String} (h : separator = ";" ∨ separator = ",")
    (first second : String) :
    read (first ++ separator ++ second) =
      (read first).bind fun earlier => (read second).map earlier.overriddenBy := by
  have hpairs : pairs (first ++ separator ++ second).toList =
      pairs first.toList ++ pairs second.toList := by
    rw [String.toList_append, String.toList_append, List.append_assoc]
    rcases h with rfl | rfl
    · exact pairs_append_cons (show isSeparator ';' = true from rfl) _ _
    · exact pairs_append_cons (show isSeparator ',' = true from rfl) _ _
  rw [read, hpairs, foldlM_addPair_append]
  rfl

/-! ## Blanks and empty pairs -/

/-- Whether a pair may begin behind a text: it is empty or ends with a separator. -/
def EndsPair (before : List Char) : Prop :=
  ∀ c ∈ before.getLast?, isSeparator c = true

/-- Whether a pair may end in front of a text: it is empty or begins with a separator. -/
def StartsPair (after : List Char) : Prop :=
  ∀ c ∈ after.head?, isSeparator c = true

/-- A text that stays within a pair. -/
def Undivided (text : List Char) : Prop :=
  ∀ c ∈ text, isSeparator c = false

/-- A text of white space. -/
def Blank (text : List Char) : Prop :=
  ∀ c ∈ text, Text.isBlank c = true

/-- What white space and empty pairs can be added to a text: blanks around a pair, around a tag in
front of the first equals sign of its pair, and around the value behind it; and a pair that is empty
or blank, with a separator, at the end or at the start of another pair. -/
inductive Loosens : List Char → List Char → Prop where
  | aroundPair {before pair after left right : List Char} (hbefore : EndsPair before)
      (hafter : StartsPair after) (hpair : Undivided pair) (hleft : Blank left)
      (hright : Blank right) :
      Loosens (before ++ pair ++ after) (before ++ (left ++ pair ++ right) ++ after)
  | aroundSides {before tag value after left right valueLeft valueRight : List Char}
      (hbefore : EndsPair before) (hafter : StartsPair after) (htag : Undivided tag)
      (hvalue : Undivided value) (hequals : '=' ∉ tag) (hleft : Blank left) (hright : Blank right)
      (hvalueLeft : Blank valueLeft) (hvalueRight : Blank valueRight) :
      Loosens (before ++ (tag ++ '=' :: value) ++ after)
        (before ++ ((left ++ tag ++ right) ++ '=' :: (valueLeft ++ value ++ valueRight)) ++ after)
  | emptyPairBehind {before after blanks : List Char} {separator : Char}
      (hseparator : isSeparator separator = true) (hafter : StartsPair after)
      (hblanks : Blank blanks) :
      Loosens (before ++ after) (before ++ separator :: (blanks ++ after))
  | emptyPairInFront {before after blanks : List Char} {separator : Char}
      (hseparator : isSeparator separator = true) (hbefore : EndsPair before)
      (hblanks : Blank blanks) :
      Loosens (before ++ after) (before ++ blanks ++ separator :: after)

section

variable {before after text blanks left right : List Char}

/-- No separator is white space. -/
theorem isBlank_of_isSeparator {c : Char} (h : isSeparator c = true) : Text.isBlank c = false := by
  have hvisible : Text.IsVisible c := by
    rw [isSeparator, Bool.or_eq_true, decide_eq_true_eq, decide_eq_true_eq] at h
    rcases h with rfl | rfl <;> decide
  exact hvisible.isBlank_eq_false

theorem Blank.undivided (h : Blank blanks) : Undivided blanks := by
  intro c hc
  rw [← Bool.not_eq_true]
  intro hseparator
  exact absurd (h c hc) (by simp [isBlank_of_isSeparator hseparator])

theorem Undivided.append {rest : List Char} (h : Undivided text) (hrest : Undivided rest) :
    Undivided (text ++ rest) :=
  List.forall_mem_append.mpr ⟨h, hrest⟩

theorem Blank.equals_not_mem (h : Blank blanks) : '=' ∉ blanks := by
  have hvisible : Text.IsVisible '=' := by decide
  exact fun hmem => absurd (h _ hmem) (by simp [hvisible.isBlank_eq_false])

theorem pairs_of_blank (h : Blank blanks) : pairs blanks = [] := by
  rw [pairs_of_undivided h.undivided, Text.trimChars_of_blank h]
  rfl

theorem pairs_append_of_endsPair (h : EndsPair before) (rest : List Char) :
    pairs (before ++ rest) = pairs before ++ pairs rest := by
  rcases List.eq_nil_or_concat' before with rfl | ⟨init, c, rfl⟩
  · rfl
  · have hc : isSeparator c = true := h c List.getLast?_concat
    have hrest := pairs_append_cons hc init rest
    have hnil := pairs_append_cons hc init []
    rw [pairs_of_blank (List.forall_mem_nil _), List.append_nil] at hnil
    rw [List.append_assoc, List.singleton_append, hrest, hnil]

theorem pairs_append_of_startsPair (h : StartsPair after) (text : List Char) :
    pairs (text ++ after) = pairs text ++ pairs after := by
  cases after with
  | nil => rw [pairs_of_blank (List.forall_mem_nil _), List.append_nil, List.append_nil]
  | cons c rest =>
    have hc : isSeparator c = true := h c rfl
    have hnil := pairs_append_cons hc [] rest
    rw [pairs_of_blank (List.forall_mem_nil _), List.nil_append, List.nil_append] at hnil
    rw [pairs_append_cons hc, hnil]

/-- Blanks around a pair do not belong to it. -/
theorem pairs_around (hpair : Undivided text) (hleft : Blank left) (hright : Blank right) :
    pairs (left ++ text ++ right) = pairs text := by
  rw [pairs_of_undivided ((hleft.undivided.append hpair).append hright.undivided),
    pairs_of_undivided hpair, Text.trimChars_append hleft hright]

theorem sides?_append_cons {tag : List Char} (h : '=' ∉ tag) (value : List Char) :
    sides? (tag ++ '=' :: value) = some (tag, value) := by
  have htag : ∀ c ∈ tag, decide (c ≠ '=') = true := by
    intro c hc
    rw [decide_eq_true_eq]
    rintro rfl
    exact h hc
  rw [sides?, List.dropWhile_append_of_pos htag, List.takeWhile_append_of_pos htag]
  simp

/-- What a tag and a value say, with any blanks around them. -/
theorem foldlM_sides {tag value : List Char} (htag : Undivided tag) (hvalue : Undivided value)
    (hequals : '=' ∉ tag) (hints : Hints) :
    (pairs (tag ++ '=' :: value)).foldlM addPair hints =
      hints.add (Text.trimChars tag) (Text.trimChars value) := by
  have hundivided : Undivided (tag ++ '=' :: value) :=
    htag.append (List.forall_mem_cons.mpr ⟨rfl, hvalue⟩)
  have hvisible : Text.IsVisible '=' := by decide
  have htrimmed := Text.trimChars_append_cons hvisible.isBlank_eq_false tag value
  have hequals' : '=' ∉ tag.dropWhile Text.isBlank :=
    fun hmem => hequals ((List.dropWhile_sublist _).subset hmem)
  rw [pairs_of_undivided hundivided, htrimmed, List.filter_cons_of_pos (by simp),
    List.filter_nil, List.foldlM_cons, addPair, sides?_append_cons hequals']
  simp only [Text.trimChars_dropWhile, Text.trimChars_reverse_dropWhile, List.foldlM_nil,
    bind_pure]

/-- Texts that say the same say the same between other pairs. -/
theorem foldlM_pairs_congr {other : List Char} (hbefore : EndsPair before)
    (hafter : StartsPair after)
    (h : ∀ hints, (pairs text).foldlM addPair hints = (pairs other).foldlM addPair hints) :
    (pairs (before ++ text ++ after)).foldlM addPair none =
      (pairs (before ++ other ++ after)).foldlM addPair none := by
  rw [pairs_append_of_startsPair hafter, pairs_append_of_endsPair hbefore,
    pairs_append_of_startsPair hafter, pairs_append_of_endsPair hbefore,
    List.foldlM_append, List.foldlM_append, List.foldlM_append, List.foldlM_append]
  simp only [h]

/-- Added white space and an added empty pair say nothing. -/
theorem Loosens.foldlM_pairs_eq {loosened : List Char} (h : Loosens text loosened) :
    (pairs loosened).foldlM addPair none = (pairs text).foldlM addPair none := by
  cases h with
  | aroundPair hbefore hafter hpair hleft hright =>
    refine foldlM_pairs_congr hbefore hafter fun hints => ?_
    rw [pairs_around hpair hleft hright]
  | aroundSides hbefore hafter htag hvalue hequals hleft hright hvalueLeft hvalueRight =>
    refine foldlM_pairs_congr hbefore hafter fun hints => ?_
    rw [foldlM_sides htag hvalue hequals,
      foldlM_sides ((hleft.undivided.append htag).append hright.undivided)
        ((hvalueLeft.undivided.append hvalue).append hvalueRight.undivided)
        (by simp [hleft.equals_not_mem, hequals, hright.equals_not_mem]),
      Text.trimChars_append hleft hright, Text.trimChars_append hvalueLeft hvalueRight]
  | emptyPairBehind hseparator hafter hblanks =>
    rw [pairs_append_cons hseparator, pairs_append_of_startsPair hafter,
      pairs_append_of_startsPair hafter, pairs_of_blank hblanks, List.nil_append]
  | emptyPairInFront hseparator hbefore hblanks =>
    rw [pairs_append_cons hseparator, pairs_append_of_endsPair hbefore,
      pairs_append_of_endsPair hbefore, pairs_of_blank hblanks, List.append_nil]

/-- So any number of such additions changes nothing that is read, also no fault. -/
theorem read_of_loosens {text loosened : String}
    (h : Relation.ReflTransGen Loosens text.toList loosened.toList) :
    read loosened = read text := by
  have hpairs : ∀ {first last : List Char}, Relation.ReflTransGen Loosens first last →
      (pairs last).foldlM addPair none = (pairs first).foldlM addPair none := by
    intro first last hsteps
    induction hsteps with
    | refl => rfl
    | tail _ hstep ih => exact hstep.foldlM_pairs_eq.trans ih
  exact hpairs h

end

/-! ## Tags of paths -/

/-- The characters of a tag are asterisks, letters, digits, underscores and hyphens. -/
theorem char_of_isTag {text : List Char} (h : isTag text = true) {c : Char} (hc : c ∈ text) :
    c = '*' ∨ isTagChar c = true := by
  rw [isTag, isWildcardMarker, Bool.or_eq_true, Bool.and_eq_true, Bool.and_eq_true,
    List.all_eq_true, List.all_eq_true] at h
  rcases h with ⟨-, hall⟩ | ⟨-, hall⟩
  · exact .inl (of_decide_eq_true (hall c hc))
  · exact .inr (hall c hc)

theorem isVisible_of_isTag {text : List Char} (h : isTag text = true) : Text.AllVisible text := by
  intro c hc
  rcases char_of_isTag h hc with rfl | htag
  · decide
  · rw [isTagChar, Bool.or_eq_true, Bool.or_eq_true, decide_eq_true_eq, decide_eq_true_eq] at htag
    rcases htag with (hword | rfl) | rfl
    · exact Text.isVisible_of_isAlphanum hword
    · decide
    · decide

theorem isSeparator_of_isTagChar {c : Char} (h : isTagChar c = true) : isSeparator c = false := by
  rw [← Bool.not_eq_true]
  intro hseparator
  rw [isSeparator, Bool.or_eq_true, decide_eq_true_eq, decide_eq_true_eq] at hseparator
  rcases hseparator with rfl | rfl
  · exact absurd h (by decide)
  · exact absurd h (by decide)

theorem undivided_of_isTag {text : List Char} (h : isTag text = true) : Undivided text := by
  intro c hc
  rcases char_of_isTag h hc with rfl | htag
  · rfl
  · exact isSeparator_of_isTagChar htag

theorem equals_not_mem_of_isTag {text : List Char} (h : isTag text = true) : '=' ∉ text := by
  intro hmem
  rcases char_of_isTag h hmem with heq | htag
  · exact absurd heq (by decide)
  · exact absurd htag (by decide)

/-- A text of word characters can be a tag. -/
theorem isTag_of_forall {text : List Char} (hne : text ≠ [])
    (h : ∀ c ∈ text, isTagChar c = true) : isTag text = true := by
  have hall : text.all isTagChar = true := List.all_eq_true.mpr h
  simp [isTag, hne, hall]

theorem isTagChar_of_isDigit {c : Char} (h : c.isDigit = true) : isTagChar c = true := by
  simp [isTagChar, Char.isAlphanum, h]

/-- Digits are no word for appending. -/
theorem isAppend_of_isDigits {digits : List Char} (h : isDigits digits = true) :
    isAppend digits = false := by
  obtain ⟨hne, hall⟩ := isDigits_iff.mp h
  obtain ⟨c, rest, rfl⟩ := List.exists_cons_of_ne_nil hne
  have hc : c.isDigit = true := hall c List.mem_cons_self
  have hlower : c.toLower ≠ 'n' := by
    have hbounds := hc
    simp only [Char.isDigit, Bool.and_eq_true, decide_eq_true_eq] at hbounds
    have hupper : ¬('A'.val ≤ c.val ∧ c.val ≤ 'Z'.val) :=
      fun h => absurd (UInt32.le_trans h.1 hbounds.2) (by decide)
    rw [Char.toLower, dif_neg hupper]
    rintro rfl
    exact absurd hc (by decide)
  simp [isAppend, hlower]

/-- A tag with a number pins the tag to that position and says nothing else. -/
theorem read_position {tag : String} (htag : isTag tag.toList = true) {n : Nat} (hn : n < 2 ^ 64) :
    read (tag ++ "=" ++ String.ofList (digitChars n)) = .ok ⟨[(tag, .position n)], []⟩ := by
  have hdigits : isDigits (digitChars n) = true := isDigits_digitChars n
  have hall : ∀ c ∈ digitChars n, c.isDigit = true := (isDigits_iff.mp hdigits).2
  have htext : (tag ++ "=" ++ String.ofList (digitChars n)).toList =
      tag.toList ++ '=' :: digitChars n := by
    rw [String.toList_append, String.toList_append, List.append_assoc, String.toList_ofList,
      String.toList_ofList]
    rfl
  have hundivided : Undivided (digitChars n) :=
    fun c hc => isSeparator_of_isTagChar (isTagChar_of_isDigit (hall c hc))
  rw [read, htext, foldlM_sides (undivided_of_isTag htag) hundivided (equals_not_mem_of_isTag htag),
    (isVisible_of_isTag htag).trimChars_eq, (Text.AllVisible.of_digits hall).trimChars_eq, add,
    htag, isAppend_of_isDigits hdigits, digitsValue_digitChars, if_pos hn, String.ofList_toList]
  simp [List.all_eq_true.mpr hall, none, OrderedMap.insert]

end DocumentMapping.Hints

namespace DocumentMapping

open Hints (isTag)

/-- The tag of an index that can be written can be hinted. -/
theorem PathIndex.isTag_of_tag? {index : PathIndex} (h : index.IsWritable) {tag : String}
    (htag : index.tag? = some tag) : isTag tag.toList = true := by
  cases index with
  | none => cases htag
  | static position =>
    obtain rfl : String.ofList (digitChars position.toNat) = tag := Option.some.inj htag
    obtain ⟨hne, hall⟩ := isDigits_iff.mp (isDigits_digitChars position.toNat)
    rw [String.toList_ofList]
    exact Hints.isTag_of_forall hne fun c hc => Hints.isTagChar_of_isDigit (hall c hc)
  | wildcard run =>
    obtain rfl : PathIndex.marker run = tag := Option.some.inj htag
    have hmarker : isWildcardMarker (List.replicate run '*') = true := by
      have hrun : run ≠ 0 := Nat.ne_of_gt h
      simp [isWildcardMarker, hrun]
    rw [PathIndex.marker, String.toList_ofList, isTag, hmarker, Bool.true_or]
  | named name =>
    obtain rfl : name = tag := Option.some.inj htag
    obtain ⟨written, hchars⟩ := h
    rw [← hchars]
    refine Hints.isTag_of_forall (by simp [PathText.WrittenTag.chars, written.word_ne_nil]) ?_
    intro c hc
    rcases List.mem_append.mp hc with hword | hending
    · have hc := written.isWord c hword
      rw [PathText.isTagChar, Bool.or_eq_true] at hc
      rcases hc with hc | hc <;> simp [Hints.isTagChar, hc]
    · cases hnumber : written.number with
      | none =>
        rw [hnumber] at hending
        cases hending
      | some digits =>
        rw [hnumber] at hending
        rcases List.mem_cons.mp hending with rfl | hdigit
        · rfl
        · have hdigits := (isDigits_iff.mp (written.isNumber digits hnumber)).2
          exact Hints.isTagChar_of_isDigit (hdigits c hdigit)

/-- Every tag of a path that comes from a text can be hinted. -/
theorem Path.isTag_of_mem_tags {text : String} {path : Path} (h : Path.ofString text = .ok path)
    {tag : String} (hmem : tag ∈ path.tags) : isTag tag.toList = true := by
  obtain ⟨element, helement, htag⟩ := List.mem_filterMap.mp hmem
  exact PathIndex.isTag_of_tag? (Path.isWritable_of_ofString h element helement) htag

/-- Hint texts compose. Two texts that are joined by a separator are read exactly when both of them
are, and then every tag has the hint of the second text, or else of the first one, and every run is
renamed likewise. White space around pairs, tags and values and empty pairs change nothing. A tag of
a path with a number of 64 bits is read as the hint that pins this tag to the number. -/
theorem hint_texts_compose :
    (∀ first second separator, separator = ";" ∨ separator = "," →
      ((∃ hints, Hints.read (first ++ separator ++ second) = .ok hints) ↔
        (∃ hints, Hints.read first = .ok hints) ∧ ∃ hints, Hints.read second = .ok hints) ∧
      ∀ earlier later, Hints.read first = .ok earlier → Hints.read second = .ok later →
        Hints.read (first ++ separator ++ second) = .ok (earlier.overriddenBy later) ∧
        (∀ tag, (earlier.overriddenBy later).placement.get? tag =
          (later.placement.get? tag).or (earlier.placement.get? tag)) ∧
        ∀ marker, (earlier.overriddenBy later).renames.get? marker =
          (later.renames.get? marker).or (earlier.renames.get? marker)) ∧
    (∀ text loosened : String,
      Relation.ReflTransGen Hints.Loosens text.toList loosened.toList →
        Hints.read loosened = Hints.read text) ∧
    ∀ text path, Path.ofString text = .ok path → ∀ tag ∈ path.tags, ∀ n < 2 ^ 64,
      Hints.read (tag ++ "=" ++ String.ofList (digitChars n)) =
        .ok ⟨[(tag, .position n)], []⟩ := by
  refine ⟨?_, ?_, ?_⟩
  · intro first second separator hseparator
    have hread := Hints.read_append hseparator first second
    refine ⟨⟨?_, ?_⟩, ?_⟩
    · rintro ⟨hints, hboth⟩
      rw [hread] at hboth
      obtain ⟨earlier, hfirst, hrest⟩ := Except.bind_eq_ok_iff.mp hboth
      obtain ⟨later, hsecond, -⟩ := Except.map_eq_ok_iff.mp hrest
      exact ⟨⟨earlier, hfirst⟩, later, hsecond⟩
    · rintro ⟨⟨earlier, hfirst⟩, later, hsecond⟩
      rw [hread, hfirst, hsecond]
      exact ⟨_, rfl⟩
    · intro earlier later hfirst hsecond
      have hunrepeated := Hints.unrepeated_of_read hsecond
      refine ⟨?_, Hints.get?_placement_overriddenBy hunrepeated earlier,
        Hints.get?_renames_overriddenBy hunrepeated earlier⟩
      rw [hread, hfirst, hsecond]
      rfl
  · exact fun text loosened h => Hints.read_of_loosens h
  · intro text path hpath tag hmem n hn
    exact Hints.read_position (Path.isTag_of_mem_tags hpath hmem) hn

/-- A text that overrides another one, blanks and an empty pair in a text, and the tag of a path. -/
theorem hint_texts_compose_of_lines :
    (Hints.read "a1=2;b=7" = .ok ⟨[("a1", .position 2), ("b", .position 7)], []⟩ ∧
      Hints.read "c=**,a1=" = .ok ⟨[("a1", .append)], [("**", "c")]⟩ ∧
      Hints.read "a1=2;b=7;c=**,a1=" =
        .ok ⟨[("a1", .append), ("b", .position 7)], [("**", "c")]⟩) ∧
    (Relation.ReflTransGen Hints.Loosens "a1=2".toList "a1 = 2; ".toList ∧
      Hints.read "a1 = 2; " = Hints.read "a1=2") ∧
    Path.ofString "$.lines[a1-2].tax[3]" = .ok ⟨[⟨"lines", .named "a1-2"⟩, ⟨"tax", .static 3⟩]⟩ ∧
      Hints.read "a1-2=40" = .ok ⟨[("a1-2", .position 40)], []⟩ := by
  have hfirst : Hints.read "a1=2;b=7" = .ok ⟨[("a1", .position 2), ("b", .position 7)], []⟩ := by
    cbv
  have hsecond : Hints.read "c=**,a1=" = .ok ⟨[("a1", .append)], [("**", "c")]⟩ := by cbv
  have hspaces : Hints.Blank [' '] := by
    rintro c hc
    rw [List.mem_singleton.mp hc]
    decide +kernel
  have hends : Hints.EndsPair [] := by simp [Hints.EndsPair]
  have hstarts : Hints.StartsPair [] := by simp [Hints.StartsPair]
  have hsides : Hints.Loosens ([] ++ (['a', '1'] ++ '=' :: ['2']) ++ [])
      ([] ++ (([] ++ ['a', '1'] ++ [' ']) ++ '=' :: ([' '] ++ ['2'] ++ [])) ++ []) :=
    .aroundSides hends hstarts (List.forall_mem_cons.mpr
      ⟨rfl, List.forall_mem_cons.mpr ⟨rfl, List.forall_mem_nil _⟩⟩)
      (List.forall_mem_cons.mpr ⟨rfl, List.forall_mem_nil _⟩) (by decide) (List.forall_mem_nil _)
      hspaces hspaces (List.forall_mem_nil _)
  have hempty : Hints.Loosens ("a1 = 2".toList ++ []) ("a1 = 2".toList ++ ';' :: ([' '] ++ [])) :=
    .emptyPairBehind rfl hstarts hspaces
  have hloosens : Relation.ReflTransGen Hints.Loosens "a1=2".toList "a1 = 2; ".toList :=
    .tail (.single hsides) hempty
  have hpath : Path.ofString "$.lines[a1-2].tax[3]" =
      .ok ⟨[⟨"lines", .named "a1-2"⟩, ⟨"tax", .static 3⟩]⟩ := by cbv
  refine ⟨⟨hfirst, hsecond, ?_⟩, ⟨hloosens, ?_⟩, hpath, ?_⟩
  · exact ((hint_texts_compose.1 "a1=2;b=7" "c=**,a1=" ";" (.inl rfl)).2 _ _ hfirst hsecond).1
  · exact hint_texts_compose.2.1 _ _ hloosens
  · exact hint_texts_compose.2.2 _ _ hpath "a1-2" List.mem_cons_self 40 (by decide)

end DocumentMapping
