import DocumentMapping.Node
import DocumentMapping.Proofs.Number.Exactness

/-!
# JSON values come back from a tree

A JSON value becomes a tree and the tree becomes JSON again. Only numbers can change on the way: one
that is held as a decimal comes back as the double of the decimal, or as a string.
-/

namespace DocumentMapping

/-! ## Numbers -/

namespace JsonNumber

/-- The number that is meant. -/
def value : JsonNumber → ℚ
  | .integer value => value
  | .double x => x.decimalValue .even

/-- An integer has 64 bits, with a sign or without, and a double is canonical. -/
def Valid : JsonNumber → Prop
  | .integer value => -2 ^ 63 ≤ value ∧ value < 2 ^ 64
  | .double x => x.Canonical

/-- The number of places after the point that the number needs. -/
def places : JsonNumber → Nat
  | .integer _ => 0
  | .double x => (Double.shortest .even x).places

/-- A number is out of the range of decimals when it is too large for any decimal, or when its first
digit stands behind the last place of a decimal. -/
def OutOfRange (number : JsonNumber) : Prop :=
  2 ^ 96 ≤ |number.value| ∨ number.value ≠ 0 ∧ |number.value| < 10 ^ (-28 : ℤ)

/-- An integer that has 64 bits with its sign. -/
def IsInt64 (number : JsonNumber) : Prop :=
  ∃ value : Int, number = .integer value ∧ -2 ^ 63 ≤ value ∧ value < 2 ^ 63

/-- The number is held as a decimal, exactly when the decimal has enough places. -/
structure HeldAs (number : JsonNumber) (held : Decimal) : Prop where
  not_isInt64 : ¬number.IsInt64
  inRange : ¬number.OutOfRange
  value_eq : number.places ≤ 28 → held.value = number.value

/-- How a number comes back from a tree. -/
inductive Returns (number : JsonNumber) : Json → Prop where
  /-- A number that is not held as a decimal is the same again. -/
  | itself (h : number.IsInt64 ∨ number.OutOfRange) : Returns number (.number number)
  /-- A decimal that its double denotes is that double, which is the number again. -/
  | double {held : Decimal} {y : Double} (hheld : number.HeldAs held)
      (hdouble : held.toDouble? = some y)
      (hvalue : number.places ≤ 28 → (Double.shortest .up y).places ≤ 28 →
        (JsonNumber.double y).value = number.value) :
      Returns number (.number (.double y))
  /-- A decimal that its double does not denote is a string that denotes the number. -/
  | text {held : Decimal} (hheld : number.HeldAs held)
      (hdouble : ∀ y, held.toDouble? = some y → (Double.shortest .up y).places ≤ 28 →
        y.decimalValue .up ≠ held.value)
      (hvalue : number.places ≤ 28 → Denotes held.text.toList number.value) :
      Returns number (.string held.text)

section

variable {number : JsonNumber} {held : Decimal} {y : Double}

/-- The text of a JSON number denotes it. -/
theorem denotes_numberChars (number : JsonNumber) :
    Denotes (Json.numberChars number) number.value := by
  cases number with
  | integer value => exact Decimal.denotes_integerChars value
  | double x => exact x.denotes_jsonChars

/-- An integer of 64 bits without a sign that is not one with a sign is large. -/
theorem two_pow_le_of_not_isInt64 {value : Int} (hvalid : (integer value).Valid)
    (hwide : ¬(integer value).IsInt64) : 2 ^ 63 ≤ value := by
  by_contra hlt
  exact hwide ⟨value, rfl, hvalid.1, not_le.mp hlt⟩

/-- A number that is no signed integer of 64 bits is read as a decimal when it is in range. -/
theorem read?_numberChars_eq_none_iff (hvalid : number.Valid) (hwide : ¬number.IsInt64) :
    Decimal.read? (Json.numberChars number) = none ↔ number.OutOfRange := by
  cases number with
  | integer value =>
    have hlarge := two_pow_le_of_not_isInt64 hvalid hwide
    have hsmall : value < 2 ^ 64 := hvalid.2
    refine iff_of_false (Decimal.read?_integerChars_ne_none (by omega)) ?_
    have hlower : (2 : ℚ) ^ 63 ≤ value := by exact_mod_cast hlarge
    have hupper : (value : ℚ) < 2 ^ 64 := by exact_mod_cast hsmall
    rw [OutOfRange, JsonNumber.value, abs_of_nonneg (by linarith)]
    rintro (hout | ⟨-, hout⟩)
    · linarith
    · norm_num at hout
      linarith
  | double x => exact Decimal.read?_jsonChars_eq_none_iff hvalid

/-- A number with few enough places is read as itself. -/
theorem value_of_numberChars (hvalid : number.Valid) (hplaces : number.places ≤ 28)
    (h : Decimal.read? (Json.numberChars number) = some held) : held.value = number.value := by
  cases number with
  | integer value => exact Decimal.value_of_integerChars h
  | double x => exact Decimal.value_of_jsonChars hvalid hplaces h

/-- A double that denotes the decimal of a number is the number again. -/
theorem value_of_plainForm (hvalid : number.Valid) (hwide : ¬number.IsInt64) (hy : y.Canonical)
    (h : y.decimalValue .up = number.value) : (JsonNumber.double y).value = number.value := by
  cases number with
  | integer value =>
    have hlarge : (2 : ℚ) ^ 63 ≤ value := by
      exact_mod_cast two_pow_le_of_not_isInt64 hvalid hwide
    refine (Double.decimalValue_up_eq_even hy ?_).symm.trans h
    rw [h, JsonNumber.value, abs_of_nonneg (by linarith)]
    linarith
  | double x => exact Double.decimalValue_congr hvalid hy h

/-- What comes back of a number that is no signed integer of 64 bits. -/
theorem returns_of_wide (hvalid : number.Valid) (hwide : ¬number.IsInt64) :
    number.Returns (Scalar.ofWideNumber number).toJson := by
  cases hread : Decimal.read? (Json.numberChars number) with
  | none =>
    rw [Scalar.ofWideNumber, hread]
    exact .itself (.inr ((read?_numberChars_eq_none_iff hvalid hwide).mp hread))
  | some held =>
    have hinRange : ¬number.OutOfRange := by
      rw [← read?_numberChars_eq_none_iff hvalid hwide, hread]
      exact Option.some_ne_none held
    have hheld : number.HeldAs held :=
      ⟨hwide, hinRange, fun hplaces => value_of_numberChars hvalid hplaces hread⟩
    rw [Scalar.ofWideNumber, hread]
    dsimp only
    rw [Scalar.toJson]
    cases hexact : held.exactDouble? with
    | none =>
      refine .text hheld (fun y hy hplaces => held.exactDouble?_eq_none hexact hy hplaces) ?_
      intro hplaces
      rw [Decimal.text, String.toList_ofList, ← hheld.value_eq hplaces]
      exact held.denotes_chars
    | some y =>
      obtain ⟨hdouble, hvalue⟩ := held.exactDouble?_eq_some hexact
      refine .double hheld hdouble fun hplaces hplaces' => ?_
      exact value_of_plainForm hvalid hwide (Decimal.toDouble?_canonical hdouble)
        ((hvalue hplaces').trans (hheld.value_eq hplaces))

/-- What comes back of a number. -/
theorem returns_ofNumber (hvalid : number.Valid) :
    number.Returns (Scalar.ofNumber number).toJson := by
  by_cases hwide : number.IsInt64
  · obtain ⟨value, rfl, hlower, hupper⟩ := hwide
    rw [Scalar.ofNumber, Scalar.int64?, if_pos ⟨hlower, hupper⟩]
    dsimp only
    rw [Scalar.toJson, Int64.toInt_ofInt_of_le hlower hupper]
    exact .itself (.inl ⟨value, rfl, hlower, hupper⟩)
  · have hofNumber : Scalar.ofNumber number = Scalar.ofWideNumber number := by
      cases number with
      | integer value =>
        have hlarge := two_pow_le_of_not_isInt64 hvalid hwide
        rw [Scalar.ofNumber, Scalar.int64?, if_neg (by omega)]
      | double x => rfl
    rw [hofNumber]
    exact returns_of_wide hvalid hwide

end

end JsonNumber

/-! ## Values -/

namespace Json

mutual

/-- The numbers of a value. -/
def numbers : Json → List JsonNumber
  | .number value => [value]
  | .array items => itemNumbers items
  | .object members => memberNumbers members
  | .null | .boolean _ | .string _ => []

/-- The numbers of items. -/
def itemNumbers : List Json → List JsonNumber
  | [] => []
  | item :: rest => item.numbers ++ itemNumbers rest

/-- The numbers of members. -/
def memberNumbers : List (String × Json) → List JsonNumber
  | [] => []
  | (_, value) :: rest => value.numbers ++ memberNumbers rest

end

mutual

/-- How a value comes back from a tree: everything but its numbers is the same. -/
inductive Returns : Json → Json → Prop where
  | null : Returns .null .null
  | boolean (value : Bool) : Returns (.boolean value) (.boolean value)
  | string (value : String) : Returns (.string value) (.string value)
  | number {number : JsonNumber} {returned : Json} (h : number.Returns returned) :
      Returns (.number number) returned
  | array {items returned : List Json} (h : ItemsReturn items returned) :
      Returns (.array items) (.array returned)
  | object {members returned : List (String × Json)} (h : MembersReturn members returned) :
      Returns (.object members) (.object returned)

/-- Items come back one by one. -/
inductive ItemsReturn : List Json → List Json → Prop where
  | nil : ItemsReturn [] []
  | cons {item returned : Json} {rest returnedRest : List Json} (hitem : Returns item returned)
      (hrest : ItemsReturn rest returnedRest) :
      ItemsReturn (item :: rest) (returned :: returnedRest)

/-- Members come back one by one, each under its name. -/
inductive MembersReturn : List (String × Json) → List (String × Json) → Prop where
  | nil : MembersReturn [] []
  | cons {name : String} {value returned : Json} {rest returnedRest : List (String × Json)}
      (hvalue : Returns value returned) (hrest : MembersReturn rest returnedRest) :
      MembersReturn ((name, value) :: rest) ((name, returned) :: returnedRest)

end

/-- Every value comes back from a tree with the same structure, names, texts and truth values, and
every number of it comes back. -/
theorem returns_of_tree {value : Json} (hvalid : ∀ number ∈ value.numbers, number.Valid) :
    Returns value (Node.ofJson value).toJson := by
  -- the induction runs along the members and items of a value, which are valid with it
  refine Node.ofJson.induct
    (fun value => (∀ number ∈ value.numbers, number.Valid) →
      Returns value (Node.ofJson value).toJson)
    (fun items => (∀ number ∈ itemNumbers items, number.Valid) →
      ItemsReturn items (Node.itemsToJson (Node.itemsOfJson items)))
    (fun members => (∀ number ∈ memberNumbers members, number.Valid) →
      MembersReturn members (Node.propertiesToJson (Node.propertiesOfJson members)))
    ?object ?array ?null ?boolean ?number ?string ?noItems ?items ?noMembers ?members value hvalid
  case object => exact fun members ih hvalid => .object (ih hvalid)
  case array => exact fun items ih hvalid => .array (ih hvalid)
  case null => exact fun _ => .null
  case boolean => exact fun value _ => .boolean value
  case number =>
    exact fun number hvalid => .number (number.returns_ofNumber (hvalid number (by simp [numbers])))
  case string => exact fun value _ => .string value
  case noItems => exact fun _ => .nil
  case items =>
    intro item rest hitem hrest hvalid
    obtain ⟨hvalid, hvalidRest⟩ := List.forall_mem_append.mp hvalid
    exact .cons (hitem hvalid) (hrest hvalidRest)
  case noMembers => exact fun _ => .nil
  case members =>
    intro name value rest hvalue hrest hvalid
    obtain ⟨hvalid, hvalidRest⟩ := List.forall_mem_append.mp hvalid
    exact .cons (hvalue hvalid) (hrest hvalidRest)

/-- An object with numbers of every kind comes back. -/
theorem order_returns_of_tree :
    let order := object [("total", .number (.integer 18446744073709551615)),
      ("prices", .array [.number (.double ⟨false, 5 * 2 ^ 50, -51⟩), .null, .boolean true]),
      ("mass", .number (.double ⟨true, 2 ^ 52, 900⟩)), ("count", .number (.integer (-7)))]
    (∀ number ∈ order.numbers, number.Valid) ∧ Returns order (Node.ofJson order).toJson := by
  intro order
  have hvalid : ∀ number ∈ order.numbers, number.Valid := by
    intro number hnumber
    simp only [order, numbers, memberNumbers, itemNumbers, List.append_nil, List.nil_append,
      List.cons_append, List.mem_cons, List.not_mem_nil, or_false] at hnumber
    obtain rfl | rfl | rfl | rfl := hnumber
    · exact ⟨by decide, by decide⟩
    · exact ⟨by norm_num, by decide, by norm_num⟩
    · exact ⟨by norm_num, by decide, by norm_num⟩
    · exact ⟨by decide, by decide⟩
  exact ⟨hvalid, returns_of_tree hvalid⟩

/-- The largest integer without a sign comes back as a string and not as a number, because its
double is greater. -/
theorem toJson_largest_integer :
    (JsonNumber.integer 18446744073709551615).Valid ∧
      (Node.ofJson (.number (.integer 18446744073709551615))).toJson =
        .string "18446744073709551615" ∧
      ∀ number, (Node.ofJson (.number (.integer 18446744073709551615))).toJson ≠
        .number number := by
  let held : Decimal := ⟨false, 18446744073709551615, 0, by decide, by decide⟩
  have hread : Decimal.read? (numberChars (.integer 18446744073709551615)) = some held := by
    decide +kernel
  have hexact : held.exactDouble? = none := by decide +kernel
  have hnumber : Scalar.ofNumber (.integer 18446744073709551615) = .decimal held := by
    rw [Scalar.ofNumber, Scalar.int64?, if_neg (by decide)]
    dsimp only
    rw [Scalar.ofWideNumber, hread]
  have htext : held.text = "18446744073709551615" := by decide +kernel
  have hreturned : (Node.ofJson (.number (.integer 18446744073709551615))).toJson =
      .string "18446744073709551615" := by
    rw [Node.ofJson, Node.toJson, hnumber, Scalar.toJson, hexact]
    exact congrArg _ htext
  refine ⟨⟨by decide, by decide⟩, hreturned, fun number hsame => ?_⟩
  rw [hreturned] at hsame
  cases hsame

end Json

end DocumentMapping
