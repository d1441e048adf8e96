import DocumentMapping.Proofs.Json.Values
import DocumentMapping.Proofs.Tree.JsonForm

/-!
# Written values are read back

A string, an integer of 64 bits and a container of such values are read from their compact text as
they were, wherever that text stands. Of a double this is asked for, as the digits of a double need
not be read as the same double.
-/

namespace DocumentMapping.Json

/-! ## Strings -/

theorem hexValue?_hexDigit : ∀ digit < 16, hexValue? (hexDigit digit) = some digit := by
  decide

/-- The escape of a control is read as that control. -/
theorem escape_control {c : Char} (hc : c.toNat < 32) (rest : List Char) :
    escape ('u' :: '0' :: '0' :: hexDigit (c.toNat / 16) :: hexDigit (c.toNat % 16) :: rest) =
      .ok (c, rest) := by
  have hhigh := hexValue?_hexDigit (c.toNat / 16) (by omega)
  have hlow := hexValue?_hexDigit (c.toNat % 16) (by omega)
  have hzero : hexValue? '0' = some 0 := rfl
  have hcode : ((0 * 16 + 0) * 16 + c.toNat / 16) * 16 + c.toNat % 16 = c.toNat := by omega
  have hdigits : fourHexDigits
      ('0' :: '0' :: hexDigit (c.toNat / 16) :: hexDigit (c.toNat % 16) :: rest) =
        .ok (c.toNat, rest) := by
    unfold fourHexDigits
    simp only [hzero, hhigh, hlow, hcode]
  change (fourHexDigits _).bind _ = _
  rw [hdigits]
  dsimp only [Except.bind]
  rw [if_neg (by omega), if_neg (by omega), Char.ofNat_toNat]

/-- A character of a string is read back, and the string goes on behind it. -/
theorem stringBody_escapedChar (c : Char) {fuel : Nat} {content rest left : List Char}
    (h : stringBody fuel rest = .ok (content, left)) :
    stringBody (fuel + 1) (escapedChar c ++ rest) = .ok (c :: content, left) := by
  have hescaped : ∀ text after, escape text = .ok (c, after) → stringBody fuel after =
      .ok (content, left) → stringBody (fuel + 1) ('\\' :: text) = .ok (c :: content, left) := by
    intro text after hescape hafter
    rw [stringBody, if_neg (by decide), if_pos rfl, hescape]
    change (stringBody fuel after).bind _ = _
    rw [hafter]
    rfl
  unfold escapedChar
  split_ifs with hquote hbackslash hback hfeed hline hreturn htab hcontrol
  · exact hescaped _ rest (by rw [hquote]; rfl) h
  · exact hescaped _ rest (by rw [hbackslash]; rfl) h
  · exact hescaped _ rest (by rw [hback]; rfl) h
  · exact hescaped _ rest (by rw [hfeed]; rfl) h
  · exact hescaped _ rest (by rw [hline]; rfl) h
  · exact hescaped _ rest (by rw [hreturn]; rfl) h
  · exact hescaped _ rest (by rw [htab]; rfl) h
  · exact hescaped _ rest (escape_control hcontrol rest) h
  · rw [List.singleton_append, stringBody, if_neg hquote, if_neg hbackslash, if_neg hcontrol]
    change (stringBody fuel rest).bind _ = _
    rw [h]
    rfl

theorem length_escapedChar_pos (c : Char) : 0 < (escapedChar c).length := by
  unfold escapedChar
  split_ifs <;> exact Nat.succ_pos _

theorem length_le_length_flatMap_escapedChar (content : List Char) :
    content.length ≤ (content.flatMap escapedChar).length := by
  induction content with
  | nil => exact Nat.le_refl 0
  | cons c rest ih =>
    have hpos := length_escapedChar_pos c
    rw [List.flatMap_cons, List.length_append, List.length_cons]
    omega

theorem stringBody_flatMap_escapedChar {content : List Char} {fuel : Nat}
    (h : content.length < fuel) (rest : List Char) :
    stringBody fuel (content.flatMap escapedChar ++ '"' :: rest) = .ok (content, rest) := by
  induction content generalizing fuel with
  | nil =>
    obtain ⟨fuel, rfl⟩ := Nat.exists_eq_add_of_lt h
    rw [List.flatMap_nil, List.nil_append, stringBody, if_pos rfl]
  | cons c more ih =>
    obtain ⟨fuel, rfl⟩ : ∃ less, fuel = less + 1 := ⟨fuel - 1, by omega⟩
    rw [List.flatMap_cons, List.append_assoc]
    exact stringBody_escapedChar c (ih (Nat.lt_of_succ_lt_succ h))

/-- A string is read back behind its opening quote. -/
theorem stringAfterQuote_flatMap_escapedChar (text : String) (rest : List Char) :
    stringAfterQuote (text.toList.flatMap escapedChar ++ '"' :: rest) = .ok (text, rest) := by
  have hlength := length_le_length_flatMap_escapedChar text.toList
  unfold stringAfterQuote
  rw [stringBody_flatMap_escapedChar (by rw [List.length_append]; omega)]
  change Except.ok (String.ofList text.toList, rest) = _
  rw [String.ofList_toList]

theorem stringChars_append (text : String) (rest : List Char) :
    stringChars text ++ rest = '"' :: (text.toList.flatMap escapedChar ++ '"' :: rest) := by
  simp [stringChars]

/-! ## Parts of containers -/

/-- Parts behind one another, each with a comma in front but the first of all. -/
def listed (first : Bool) : List (List Char) → List Char
  | [] => []
  | part :: rest => (if first then [] else [',']) ++ part ++ listed false rest

theorem separated_eq_listed (parts : List (List Char)) : separated parts = listed true parts := by
  have hcons : ∀ (rest : List (List Char)) (part : List Char),
      separated (part :: rest) = part ++ listed false rest := by
    intro rest
    induction rest with
    | nil => intro part; simp [separated, listed]
    | cons next rest ih => intro part; simp [separated, ih next, listed]
  cases parts with
  | nil => rfl
  | cons part rest => rw [hcons, listed, if_pos rfl, List.nil_append]

/-- The parts of a container leave off where a value ends. -/
theorem endsValue_listed {closing : Char} (hclosing : closing = ']' ∨ closing = '\x7d')
    (parts : List (List Char)) (rest : List Char) :
    EndsValue (listed false parts ++ closing :: rest) := by
  cases parts with
  | nil => exact .cons (.inr hclosing) rest
  | cons part more => exact .cons (.inl rfl) _

/-- A text that starts like a value. -/
def StartsValue (text : List Char) : Prop :=
  ∃ c rest, text = c :: rest ∧ isSpace c = false ∧ c ≠ ']'

theorem StartsValue.ne_nil {text : List Char} (h : StartsValue text) : text ≠ [] := by
  obtain ⟨c, rest, rfl, -⟩ := h
  exact List.cons_ne_nil c rest

theorem length_listed_lt {first : Bool} {part : List Char} {parts : List (List Char)} {fuel : Nat}
    (hpart : part ≠ []) (h : (listed first (part :: parts)).length < fuel + 1) :
    (listed false parts).length < fuel := by
  have hpos := List.length_pos_of_ne_nil hpart
  rw [listed, List.length_append, List.length_append] at h
  omega

theorem skipSpaces_of_not_isSpace {c : Char} (hc : isSpace c = false) (rest : List Char) :
    skipSpaces (c :: rest) = c :: rest :=
  List.dropWhile_cons_of_neg (by rw [hc]; decide)

/-- The next item of a list is the next part. -/
theorem nextItem_listed (first : Bool) {part : List Char} (h : StartsValue part)
    (parts : List (List Char)) (rest : List Char) :
    nextItem first (listed first (part :: parts) ++ rest) =
      .ok (true, part ++ (listed false parts ++ rest)) := by
  obtain ⟨c, more, rfl, hspace, hc⟩ := h
  cases first with
  | true =>
    rw [listed, if_pos rfl, List.nil_append, List.append_assoc, List.cons_append, nextItem,
      skipSpaces_of_not_isSpace hspace]
    split
    · cases ‹_›
    · cases ‹_›
      exact absurd rfl hc
    · cases ‹_›
      exact if_pos rfl
  | false =>
    have hcomma : skipSpaces (',' :: (c :: more ++ (listed false parts ++ rest))) =
        ',' :: (c :: more ++ (listed false parts ++ rest)) := skipSpaces_of_not_isSpace rfl _
    rw [listed, if_neg (by decide), List.append_assoc, List.append_assoc, List.singleton_append,
      nextItem, hcomma]
    split
    · cases ‹_›
    · cases ‹_›
    · cases ‹_›
      rw [if_neg (by decide), if_pos rfl, List.cons_append, skipSpaces_of_not_isSpace hspace]
      split
      · cases ‹_›
      · cases ‹_›
        exact absurd rfl hc
      · rfl

/-- The next key of an object starts the next part. -/
theorem nextKey_listed (first : Bool) (part : List Char) (parts : List (List Char))
    (rest : List Char) :
    nextKey first (listed first (('"' :: part) :: parts) ++ rest) =
      .ok (true, '"' :: part ++ (listed false parts ++ rest)) := by
  cases first with
  | true =>
    rw [listed, if_pos rfl, List.nil_append, List.append_assoc]
    rfl
  | false =>
    rw [listed, if_neg (by decide), List.append_assoc, List.append_assoc]
    rfl

/-- A list whose items are read back is read back. -/
theorem listItems_listed {α : Type} {read : Reader α} {write : α → List Char} {items : List α}
    (hstart : ∀ item ∈ items, StartsValue (write item))
    (hread : ∀ item ∈ items, ReadsAs read (write item) item) (first : Bool) {fuel : Nat}
    (hfuel : (listed first (items.map write)).length < fuel) (rest : List Char) :
    listItems read first fuel (listed first (items.map write) ++ ']' :: rest) =
      .ok (items, rest) := by
  induction items generalizing first fuel with
  | nil =>
    obtain ⟨fuel, rfl⟩ : ∃ less, fuel = less + 1 := ⟨fuel - 1, by omega⟩
    rfl
  | cons item items ih =>
    obtain ⟨fuel, rfl⟩ : ∃ less, fuel = less + 1 := ⟨fuel - 1, by omega⟩
    obtain ⟨hstartItem, hstartItems⟩ := List.forall_mem_cons.mp hstart
    obtain ⟨hreadItem, hreadItems⟩ := List.forall_mem_cons.mp hread
    have hmore := ih hstartItems hreadItems false (length_listed_lt hstartItem.ne_nil hfuel)
    have hitem := hreadItem _ (endsValue_listed (.inl rfl) (items.map write) rest)
    rw [listItems, List.map_cons, nextItem_listed first hstartItem]
    change (read (write item ++ _)).bind _ = _
    rw [hitem]
    change (listItems read false fuel _).bind _ = _
    rw [hmore]
    rfl

/-- The text of a member, given the text of its value. -/
def memberText (name : String) (value : List Char) : List Char :=
  stringChars name ++ ':' :: value

theorem nextKey_memberText (first : Bool) (name : String) (value : List Char)
    (parts : List (List Char)) (rest : List Char) :
    nextKey first (listed first (memberText name value :: parts) ++ rest) =
      .ok (true, '"' :: (name.toList.flatMap escapedChar ++ '"' :: ':' ::
        (value ++ (listed false parts ++ rest)))) := by
  rw [memberText, stringChars_append, nextKey_listed]
  simp

/-- An object whose values are read back is read back. -/
theorem objectMembers_listed {α : Type} {read : Reader α} {write : α → List Char}
    {members : List (String × α)}
    (hread : ∀ member ∈ members, ReadsAs read (write member.2) member.2) (first : Bool) {fuel : Nat}
    (hfuel : (listed first
      (members.map fun member => memberText member.1 (write member.2))).length < fuel)
    (rest : List Char) :
    objectMembers read first fuel
      (listed first (members.map fun member => memberText member.1 (write member.2)) ++
        '\x7d' :: rest) = .ok (members, rest) := by
  induction members generalizing first fuel with
  | nil =>
    obtain ⟨fuel, rfl⟩ : ∃ less, fuel = less + 1 := ⟨fuel - 1, by omega⟩
    rfl
  | cons member members ih =>
    obtain ⟨fuel, rfl⟩ : ∃ less, fuel = less + 1 := ⟨fuel - 1, by omega⟩
    obtain ⟨name, content⟩ := member
    obtain ⟨hreadMember, hreadMembers⟩ := List.forall_mem_cons.mp hread
    have hmore := ih hreadMembers false (length_listed_lt (List.cons_ne_nil _ _) hfuel)
    have hmember := hreadMember _ (endsValue_listed (.inr rfl)
      (members.map fun member => memberText member.1 (write member.2)) rest)
    rw [objectMembers, List.map_cons, nextKey_memberText]
    change (stringAfterQuote (name.toList.flatMap escapedChar ++ _)).bind _ = _
    rw [stringAfterQuote_flatMap_escapedChar]
    change (read (write content ++ _)).bind _ = _
    rw [hmember]
    change (objectMembers read false fuel _).bind _ = _
    rw [hmore]
    rfl

/-! ## Values -/

theorem itemChars_eq_map (items : List Json) : itemChars items = items.map chars := by
  induction items with
  | nil => rfl
  | cons item rest ih => rw [itemChars, ih, List.map_cons]

theorem memberChars_eq_map (members : List (String × Json)) :
    memberChars members = members.map fun member => memberText member.1 member.2.chars := by
  induction members with
  | nil => rfl
  | cons member rest ih =>
    obtain ⟨name, content⟩ := member
    rw [memberChars, ih, List.map_cons, memberText]

/-- What follows the opening bracket of an array. -/
theorem chars_array_append (items : List Json) (rest : List Char) :
    chars (.array items) ++ rest = '[' :: (listed true (items.map chars) ++ ']' :: rest) := by
  simp [chars, itemChars_eq_map, separated_eq_listed]

/-- What follows the opening brace of an object. -/
theorem chars_object_append (members : List (String × Json)) (rest : List Char) :
    chars (.object members) ++ rest =
      '\x7b' :: (listed true (members.map fun member => memberText member.1 member.2.chars) ++
        '\x7d' :: rest) := by
  simp [chars, memberChars_eq_map, separated_eq_listed]

/-- Whether all doubles of a value are read back from their digits. -/
def DoublesReturn (value : Json) : Prop :=
  ∀ x, JsonNumber.double x ∈ value.numbers → read x.jsonChars = .ok (.number (.double x))

/-- A number that a whole text is read as is read from that text anywhere. -/
theorem readsNumber_of_read {text : List Char} (hspaces : ∀ c ∈ text, isSpace c = false)
    {number : JsonNumber} (h : read text = .ok (.number number)) : ReadsNumber text number := by
  obtain ⟨⟨value, left⟩, hvalue, h⟩ := Except.bind_eq_ok_iff.mp h
  obtain ⟨_, hfinish, h⟩ := Except.bind_eq_ok_iff.mp h
  cases h
  have hblank : ∀ taken, text = taken ++ left → left = [] := by
    rintro taken rfl
    have hskip := skipSpaces_of_forall fun c hc => hspaces c (List.mem_append_right taken hc)
    rw [finish, hskip] at hfinish
    cases left with
    | nil => rfl
    | cons c rest => cases hfinish
  obtain ⟨container, hcontainer, hgives⟩ := exists_value_eq nestingLimit
  rw [hcontainer] at hvalue
  have hstart := startsWith_of_valueWith hvalue
  rw [skipSpaces_of_forall hspaces] at hstart
  cases hstart with
  | negative hnumber =>
    obtain ⟨taken, htext, -⟩ := numberAfterSign_local _ _ _ hnumber
    rw [hblank ('-' :: taken) (by rw [htext]; rfl)] at hnumber
    exact .negative (numberAfterSign_local.readsAs hnumber)
  | positive hc hnumber =>
    obtain ⟨taken, htext, -⟩ := numberAfterSign_local _ _ _ hnumber
    rw [hblank taken htext] at hnumber
    exact .positive hc (numberAfterSign_local.readsAs hnumber)
  | container hnumber => exact (hgives _ _ _ hnumber).elim

theorem readsNumber_double {x : Double} (h : read x.jsonChars = .ok (.number (.double x))) :
    ReadsNumber x.jsonChars (.double x) := by
  refine readsNumber_of_read (fun c hc => ?_) h
  rw [← x.jsonNumeral_chars] at hc
  exact isSpace_eq_false_of_mem_numeral hc

/-- Numbers are read like values from their sign or first digit on. -/
theorem ReadsNumber.readsAs {text : List Char} {number : JsonNumber} (h : ReadsNumber text number)
    (container : Reader Json) : ReadsAs (valueWith container) text (.number number) := by
  intro rest hends
  cases h with
  | @negative digits _ h =>
    change (numberAfterSign true (digits ++ rest)).bind _ = _
    rw [h rest hends]
    rfl
  | @positive c more _ hc h =>
    have hne : ∀ {other : Char}, other.isDigit = false → c ≠ other :=
      fun hother => Decimal.ne_of_isDigit hc hother
    have hread : numberAfterSign false (c :: (more ++ rest)) = .ok (number, rest) := h rest hends
    rw [List.cons_append, valueWith, skipSpaces_of_not_isSpace (isSpace_eq_false_of_isDigit hc)]
    dsimp only
    rw [if_neg (hne rfl), if_neg (hne rfl), if_neg (hne rfl), if_neg (hne rfl), if_pos hc, hread]
    rfl

/-- A number that is read anywhere is read from its text alone. -/
theorem ReadsNumber.read {text : List Char} {number : JsonNumber} (h : ReadsNumber text number) :
    read text = .ok (.number number) := by
  obtain ⟨container, hcontainer, -⟩ := exists_value_eq nestingLimit
  have hvalue := h.readsAs container [] endsValue_nil
  rw [List.append_nil] at hvalue
  rw [Json.read, hcontainer, hvalue]
  rfl

/-- Numbers of 64 bits and doubles that return are read from their text. -/
theorem readsNumber_numberChars {number : JsonNumber} (hfits : number.Fits)
    (hdoubles : DoublesReturn (.number number)) : ReadsNumber (numberChars number) number := by
  cases number with
  | integer value => exact readsNumber_integer hfits.1 hfits.2
  | double x => exact readsNumber_double (hdoubles x List.mem_cons_self)

/-- What a text begins with that is read as a number. -/
theorem ReadsNumber.exists_eq {text : List Char} {number : JsonNumber}
    (h : ReadsNumber text number) :
    ∃ c rest, text = c :: rest ∧ (c = '-' ∨ c.isDigit = true) := by
  cases h with
  | negative h => exact ⟨_, _, rfl, .inl rfl⟩
  | positive hc h => exact ⟨_, _, rfl, .inr hc⟩

/-- How the text of a value that can be read begins. -/
theorem exists_chars_eq {depth : Nat} {value : Json} (h : IsReadable depth value)
    (hdoubles : DoublesReturn value) :
    ∃ c rest, value.chars = c :: rest ∧ isSpace c = false ∧ c ≠ ']' ∧
      (value ≠ .null → c ≠ 'n') := by
  cases h with
  | null => exact ⟨_, _, rfl, rfl, by decide, fun hnull => absurd rfl hnull⟩
  | boolean value => cases value <;> exact ⟨_, _, rfl, rfl, by decide, fun _ => by decide⟩
  | number hfits =>
    obtain ⟨c, rest, htext, hc⟩ := (readsNumber_numberChars hfits hdoubles).exists_eq
    refine ⟨c, rest, htext, ?_⟩
    obtain rfl | hc := hc
    · exact ⟨rfl, by decide, fun _ => by decide⟩
    · exact ⟨isSpace_eq_false_of_isDigit hc, Decimal.ne_of_isDigit hc rfl,
        fun _ => Decimal.ne_of_isDigit hc rfl⟩
  | string text => exact ⟨_, _, rfl, rfl, by decide, fun _ => by decide⟩
  | array hitems => exact ⟨_, _, rfl, rfl, by decide, fun _ => by decide⟩
  | object hkeys hmembers => exact ⟨_, _, rfl, rfl, by decide, fun _ => by decide⟩

theorem startsValue_chars {depth : Nat} {value : Json} (h : IsReadable depth value)
    (hdoubles : DoublesReturn value) : StartsValue value.chars := by
  obtain ⟨c, rest, htext, hspace, hc, -⟩ := exists_chars_eq h hdoubles
  exact ⟨c, rest, htext, hspace, hc⟩

theorem startsValue_object (members : List (String × Json)) :
    StartsValue (Json.object members).chars :=
  ⟨_, _, rfl, rfl, by decide⟩

theorem itemNumbers_eq_flatMap (items : List Json) : itemNumbers items = items.flatMap numbers := by
  induction items with
  | nil => rfl
  | cons item rest ih => rw [itemNumbers, ih, List.flatMap_cons]

theorem memberNumbers_eq_flatMap (members : List (String × Json)) :
    memberNumbers members = members.flatMap (·.2.numbers) := by
  induction members with
  | nil => rfl
  | cons member rest ih => rw [memberNumbers, ih, List.flatMap_cons]

theorem DoublesReturn.item {items : List Json} (h : DoublesReturn (.array items)) {item : Json}
    (hitem : item ∈ items) : DoublesReturn item := by
  intro x hx
  refine h x ?_
  rw [numbers, itemNumbers_eq_flatMap]
  exact List.mem_flatMap.mpr ⟨item, hitem, hx⟩

theorem DoublesReturn.member {members : List (String × Json)} (h : DoublesReturn (.object members))
    {member : String × Json} (hmember : member ∈ members) : DoublesReturn member.2 := by
  intro x hx
  refine h x ?_
  rw [numbers, memberNumbers_eq_flatMap]
  exact List.mem_flatMap.mpr ⟨member, hmember, hx⟩

/-- A value that can be read is read back from its text. -/
theorem IsReadable.readsAs {depth : Nat} {value : Json} (h : IsReadable depth value)
    (hdoubles : DoublesReturn value) : ReadsAs (Json.value depth) value.chars value := by
  induction h with
  | @null depth =>
    obtain ⟨container, hcontainer, -⟩ := exists_value_eq depth
    rw [hcontainer]
    exact fun rest _ => rfl
  | @boolean depth value =>
    obtain ⟨container, hcontainer, -⟩ := exists_value_eq depth
    rw [hcontainer]
    cases value <;> exact fun rest _ => rfl
  | @number depth number hfits =>
    obtain ⟨container, hcontainer, -⟩ := exists_value_eq depth
    rw [hcontainer]
    exact (readsNumber_numberChars hfits hdoubles).readsAs container
  | @string depth text =>
    obtain ⟨container, hcontainer, -⟩ := exists_value_eq depth
    intro rest _
    rw [hcontainer, chars, stringChars_append]
    change (stringAfterQuote _).bind _ = _
    rw [stringAfterQuote_flatMap_escapedChar]
    rfl
  | @array depth items h ih =>
    intro rest _
    have hread : ∀ item ∈ items, ReadsAs (Json.value depth) item.chars item :=
      fun item hitem => ih item hitem (hdoubles.item hitem)
    have hstart : ∀ item ∈ items, StartsValue item.chars :=
      fun item hitem => startsValue_chars (h item hitem) (hdoubles.item hitem)
    rw [chars_array_append]
    change (listItems (Json.value depth) true _ _).bind _ = _
    rw [listItems_listed hstart hread true (by rw [List.length_append]; omega)]
    rfl
  | @object depth members hkeys h ih =>
    intro rest _
    have hread : ∀ member ∈ members, ReadsAs (Json.value depth) member.2.chars member.2 :=
      fun member hmember => ih member hmember (hdoubles.member hmember)
    rw [chars_object_append]
    change (objectMembers (Json.value depth) true _ _).bind _ = _
    rw [List.drop_succ_cons, List.drop_zero, objectMembers_listed hread true
      (by rw [List.length_cons, List.length_append]; omega)]
    change Except.ok (Json.object (OrderedMap.ofList members), rest) = _
    rw [OrderedMap.ofList_of_nodup hkeys]

end DocumentMapping.Json
