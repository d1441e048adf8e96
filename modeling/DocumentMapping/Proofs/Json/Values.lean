import DocumentMapping.Proofs.Json.Numbers

/-!
# Values that are read

Every value that is read keeps to the depth of nesting that was allowed, its integers have 64 bits,
and its objects do not repeat a name. Such values are the ones that can be written and read again.
-/

namespace DocumentMapping

/-- Whether an integer has 64 bits, with a sign or without. -/
def JsonNumber.Fits : JsonNumber → Prop
  | .integer value => -2 ^ 63 ≤ value ∧ value < 2 ^ 64
  | .double _ => True

namespace Json

/-- A value whose containers are nested at most as deep as the number says. -/
inductive IsReadable : Nat → Json → Prop where
  | null {depth : Nat} : IsReadable depth .null
  | boolean {depth : Nat} (value : Bool) : IsReadable depth (.boolean value)
  | number {depth : Nat} {number : JsonNumber} (h : number.Fits) : IsReadable depth (.number number)
  | string {depth : Nat} (text : String) : IsReadable depth (.string text)
  | array {depth : Nat} {items : List Json} (h : ∀ item ∈ items, IsReadable depth item) :
      IsReadable (depth + 1) (.array items)
  | object {depth : Nat} {members : List (String × Json)} (hkeys : (OrderedMap.keys members).Nodup)
      (h : ∀ member ∈ members, IsReadable depth member.2) :
      IsReadable (depth + 1) (.object members)

/-- Whether everything that a reader gives has a property. -/
def Gives {α : Type} (read : Reader α) (good : α → Prop) : Prop :=
  ∀ text value left, read text = .ok (value, left) → good value

/-! ## Numbers -/

section

variable {negative : Bool} {significand : Nat} {start exponent : Int}

theorem absorb_lt {digits : List Char} (h : significand < 2 ^ 64) :
    (absorb significand digits).1 < 2 ^ 64 := by
  induction digits generalizing significand with
  | nil => exact h
  | cons c rest ih =>
    rw [absorb]
    split
    · rename_i hnext
      exact ih hnext
    · exact h

theorem gives_finishDouble :
    Gives (finishDouble negative significand exponent) JsonNumber.Fits := by
  intro text number left h
  unfold finishDouble at h
  split at h
  · cases h
    trivial
  · cases h

theorem gives_wholeNumber {magnitude : Nat} (hmagnitude : magnitude < 2 ^ 64) :
    Gives (wholeNumber negative magnitude) JsonNumber.Fits := by
  intro text number left h
  unfold wholeNumber at h
  split at h
  · cases h
    exact ⟨by omega, by omega⟩
  · split at h
    · rename_i hrange
      cases h
      exact ⟨by omega, by omega⟩
    · exact gives_finishDouble _ _ _ h

theorem gives_exponentDigits (down : Bool) (power : Nat) :
    Gives (exponentDigits negative significand start down power) JsonNumber.Fits := by
  intro text number left h
  induction text generalizing power with
  | nil => exact gives_finishDouble _ _ _ h
  | cons c rest ih =>
    rw [exponentDigits] at h
    split at h
    · dsimp only at h
      split at h
      · exact ih _ h
      · split at h
        · cases h
        · exact gives_finishDouble _ _ _ h
    · exact gives_finishDouble _ _ _ h

theorem gives_exponentPart : Gives (exponentPart negative significand start) JsonNumber.Fits := by
  intro text number left h
  obtain ⟨sign, down, c, more, rfl, hpart⟩ := exists_of_exponentPart h
  rw [hpart] at h
  exact gives_exponentDigits _ _ _ _ _ h

theorem gives_fractionPart : Gives (fractionPart negative significand start) JsonNumber.Fits := by
  intro text number left h
  unfold fractionPart at h
  split at h
  · cases h
  · split at h
    · cases h
    · dsimp only at h
      split at h
      · exact gives_exponentPart _ _ _ h
      · exact gives_exponentPart _ _ _ h
      · exact gives_finishDouble _ _ _ h

theorem gives_numberTail (whole : List Char) :
    Gives (numberTail negative whole) JsonNumber.Fits := by
  intro text number left h
  unfold numberTail at h
  dsimp only at h
  split at h
  · exact gives_fractionPart _ _ _ h
  · exact gives_exponentPart _ _ _ h
  · exact gives_exponentPart _ _ _ h
  · split at h
    · exact gives_wholeNumber (absorb_lt (by omega)) _ _ _ h
    · exact gives_finishDouble _ _ _ h

theorem gives_numberAfterSign : Gives (numberAfterSign negative) JsonNumber.Fits := by
  intro text number left h
  unfold numberAfterSign at h
  split at h
  · cases h
  · split at h
    · split at h
      · cases h
      · exact gives_numberTail _ _ _ _ h
    · exact gives_numberTail _ _ _ _ h
  · split at h
    · exact gives_numberTail _ _ _ _ h
    · cases h

end

/-! ## Containers -/

section

variable {α : Type} {read : Reader α} {good : α → Prop}

theorem gives_listItems (h : Gives read good) (first : Bool) (fuel : Nat) :
    Gives (listItems read first fuel) fun items => ∀ item ∈ items, good item := by
  intro text items left hread
  induction fuel generalizing first text items with
  | zero => cases hread
  | succ fuel ih =>
    obtain ⟨⟨more, rest⟩, -, hread⟩ := Except.bind_eq_ok_iff.mp hread
    dsimp only at hread
    split at hread
    · obtain ⟨⟨item, rest⟩, hitem, hread⟩ := Except.bind_eq_ok_iff.mp hread
      obtain ⟨⟨others, rest⟩, hothers, hread⟩ := Except.bind_eq_ok_iff.mp hread
      cases hread
      exact List.forall_mem_cons.mpr ⟨h _ _ _ hitem, ih false _ _ hothers⟩
    · cases hread
      exact nofun

theorem gives_objectMembers (h : Gives read good) (first : Bool) (fuel : Nat) :
    Gives (objectMembers read first fuel) fun members => ∀ member ∈ members, good member.2 := by
  intro text members left hread
  induction fuel generalizing first text members with
  | zero => cases hread
  | succ fuel ih =>
    obtain ⟨⟨more, rest⟩, -, hread⟩ := Except.bind_eq_ok_iff.mp hread
    dsimp only at hread
    split at hread
    · obtain ⟨⟨name, rest⟩, -, hread⟩ := Except.bind_eq_ok_iff.mp hread
      obtain ⟨rest, -, hread⟩ := Except.bind_eq_ok_iff.mp hread
      obtain ⟨⟨content, rest⟩, hcontent, hread⟩ := Except.bind_eq_ok_iff.mp hread
      obtain ⟨⟨others, rest⟩, hothers, hread⟩ := Except.bind_eq_ok_iff.mp hread
      cases hread
      exact List.forall_mem_cons.mpr ⟨h _ _ _ hcontent, ih false _ _ hothers⟩
    · cases hread
      exact nofun

end

/-! ## Values -/

/-- What a text that starts with a value is read as, and what remains of the text. -/
inductive StartsWith (container : Reader Json) : List Char → Json → List Char → Prop where
  | null {rest left : List Char} : StartsWith container ('n' :: rest) .null left
  | boolean {text left : List Char} (value : Bool) : StartsWith container text (.boolean value) left
  | negative {rest left : List Char} {number : JsonNumber}
      (h : numberAfterSign true rest = .ok (number, left)) :
      StartsWith container ('-' :: rest) (.number number) left
  | positive {c : Char} {rest left : List Char} {number : JsonNumber} (hc : c.isDigit = true)
      (h : numberAfterSign false (c :: rest) = .ok (number, left)) :
      StartsWith container (c :: rest) (.number number) left
  | string {text left : List Char} (content : String) :
      StartsWith container text (.string content) left
  | container {text left : List Char} {value : Json} (h : container text = .ok (value, left)) :
      StartsWith container text value left

theorem startsWith_of_valueWith {container : Reader Json} {text left : List Char} {value : Json}
    (h : valueWith container text = .ok (value, left)) :
    StartsWith container (skipSpaces text) value left := by
  unfold valueWith at h
  split at h
  · cases h
  · rename_i c rest htext
    rw [htext]
    split at h
    · rename_i hc
      obtain ⟨_, -, h⟩ := Except.bind_eq_ok_iff.mp h
      cases h
      rw [hc]
      exact .null
    · split at h
      · obtain ⟨_, -, h⟩ := Except.bind_eq_ok_iff.mp h
        cases h
        exact .boolean true
      · split at h
        · obtain ⟨_, -, h⟩ := Except.bind_eq_ok_iff.mp h
          cases h
          exact .boolean false
        · split at h
          · rename_i hc
            obtain ⟨⟨number, _⟩, hnumber, h⟩ := Except.bind_eq_ok_iff.mp h
            cases h
            rw [hc]
            exact .negative hnumber
          · split at h
            · rename_i hc
              obtain ⟨⟨number, _⟩, hnumber, h⟩ := Except.bind_eq_ok_iff.mp h
              cases h
              exact .positive hc hnumber
            · split at h
              · obtain ⟨⟨content, _⟩, -, h⟩ := Except.bind_eq_ok_iff.mp h
                cases h
                exact .string content
              · split at h
                · exact .container h
                · cases h

/-- Whether a value is an array or an object. -/
def IsContainer : Json → Prop
  | .array _ | .object _ => True
  | _ => False

/-- All values but containers are read in the same way at every depth. -/
theorem exists_value_eq (depth : Nat) :
    ∃ container, value depth = valueWith container ∧ Gives container IsContainer := by
  cases depth with
  | zero => exact ⟨_, rfl, nofun⟩
  | succ depth =>
    refine ⟨_, rfl, ?_⟩
    intro text value left hread
    dsimp only at hread
    split at hread
    · obtain ⟨_, -, hread⟩ := Except.bind_eq_ok_iff.mp hread
      cases hread
      trivial
    · obtain ⟨_, -, hread⟩ := Except.bind_eq_ok_iff.mp hread
      cases hread
      trivial

/-- The members of an object stand among those that were read, under names of their own. -/
theorem isReadable_object {depth : Nat} {entries : List (String × Json)}
    (h : ∀ entry ∈ entries, IsReadable depth entry.2) :
    IsReadable (depth + 1) (.object (OrderedMap.ofList entries)) := by
  have hkeys := OrderedMap.nodup_keys_ofList entries
  refine .object hkeys fun member hmember => ?_
  have hget := (OrderedMap.get?_eq_some_iff hkeys).mpr hmember
  rw [OrderedMap.get?_ofList] at hget
  exact h _ (OrderedMap.mem_of_last? hget)

theorem gives_valueWith {container : Reader Json} {depth : Nat}
    (h : Gives container (IsReadable depth)) : Gives (valueWith container) (IsReadable depth) := by
  intro text value left hread
  have hstart := startsWith_of_valueWith hread
  generalize skipSpaces text = start at hstart
  cases hstart with
  | null => exact .null
  | boolean value => exact .boolean value
  | negative hnumber => exact .number (gives_numberAfterSign _ _ _ hnumber)
  | positive hc hnumber => exact .number (gives_numberAfterSign _ _ _ hnumber)
  | string content => exact .string content
  | container hcontainer => exact h _ _ _ hcontainer

theorem gives_value (depth : Nat) : Gives (value depth) (IsReadable depth) := by
  induction depth with
  | zero => exact gives_valueWith nofun
  | succ depth ih =>
    refine gives_valueWith ?_
    intro text value left hread
    dsimp only at hread
    split at hread
    · obtain ⟨⟨items, _⟩, hitems, hread⟩ := Except.bind_eq_ok_iff.mp hread
      cases hread
      exact .array (gives_listItems ih _ _ _ _ _ hitems)
    · obtain ⟨⟨members, _⟩, hmembers, hread⟩ := Except.bind_eq_ok_iff.mp hread
      cases hread
      exact isReadable_object (gives_objectMembers ih _ _ _ _ _ hmembers)

end Json

end DocumentMapping
