import DocumentMapping.Proofs.Json.Shapes

/-!
# Records are read back

An object that gives fields of a record in their order, and all the required ones, is read as the
record after the changes of these fields. A property of records that holds at the start and is kept
by the change of every field holds of every record that is read.
-/

namespace DocumentMapping.Json

variable {ρ α : Type} {depth : Nat}

/-! ## What is read into a record -/

/-- Whether everything that a field reads keeps a property of records. -/
def Field.Keeps (field : Field ρ) (depth : Nat) (good : ρ → Prop) : Prop :=
  Gives (field.read depth) fun change => ∀ record, good record → good (change record)

theorem keeps_optionalField {name : String} {shape : Shape α} {put : ρ → α → ρ} {good : ρ → Prop}
    {fit : α → Prop} (hshape : Gives (shape depth) fit)
    (hput : ∀ record value, fit value → good record → good (put record value)) :
    (optionalField name shape put).Keeps depth good := by
  intro text change left h
  obtain ⟨⟨value, rest⟩, hvalue, h⟩ := Except.map_eq_ok_iff.mp h
  cases h
  exact fun record => hput record value (hshape _ _ _ hvalue)

/-- A field keeps a property that does not depend on its content. -/
theorem keeps_of_put {name : String} {shape : Shape α} {put : ρ → α → ρ} {good : ρ → Prop}
    (hput : ∀ record value, good record → good (put record value)) :
    (optionalField name shape put).Keeps depth good := by
  have hshape : Gives (shape depth) fun _ => True := fun _ _ _ _ => trivial
  exact keeps_optionalField hshape fun record value _ => hput record value

namespace RecordKind

variable {kind : RecordKind ρ} {good : ρ → Prop}

theorem behind_ne_ok {finish : List Char → Except Fault (List Char)} {problem : ShapeProblem}
    {text : List Char} {result : α × List Char} : behind finish problem text ≠ .ok result := by
  unfold behind
  split
  · exact nofun
  · exact nofun

theorem gives_readItems {fields : List (Field ρ)}
    (hfields : ∀ field ∈ fields, field.Keeps depth good) {place : Nat} {record : ρ}
    (hrecord : good record) : Gives (kind.readItems depth fields place record) good := by
  intro text result left h
  induction fields generalizing place record text with
  | nil =>
    obtain ⟨_, -, h⟩ := Except.map_eq_ok_iff.mp h
    cases h
    exact hrecord
  | cons field fields ih =>
    obtain ⟨hfield, hrest⟩ := List.forall_mem_cons.mp hfields
    obtain ⟨⟨more, rest⟩, -, h⟩ := Except.bind_eq_ok_iff.mp h
    dsimp only at h
    split at h
    · obtain ⟨⟨change, rest⟩, hchange, h⟩ := Except.bind_eq_ok_iff.mp h
      exact ih hrest (hfield _ _ _ hchange record hrecord) _ h
    · split at h
      · exact absurd h behind_ne_ok
      · cases h
        exact hrecord

theorem gives_readMembers (hfields : ∀ field ∈ kind.fields, field.Keeps depth good) {fuel : Nat}
    {seen : List String} {first : Bool} {record : ρ} (hrecord : good record) :
    Gives (kind.readMembers depth fuel seen first record) good := by
  intro text result left h
  induction fuel generalizing seen first record text with
  | zero => cases h
  | succ fuel ih =>
    obtain ⟨⟨more, rest⟩, -, h⟩ := Except.bind_eq_ok_iff.mp h
    dsimp only at h
    split at h
    · obtain ⟨⟨name, rest⟩, -, h⟩ := Except.bind_eq_ok_iff.mp h
      dsimp only at h
      split at h
      · obtain ⟨rest, -, h⟩ := Except.bind_eq_ok_iff.mp h
        exact ih hrecord _ h
      · rename_i field hfind
        split at h
        · exact absurd h behind_ne_ok
        · obtain ⟨rest, -, h⟩ := Except.bind_eq_ok_iff.mp h
          obtain ⟨⟨change, rest⟩, hchange, h⟩ := Except.bind_eq_ok_iff.mp h
          have hkeeps := hfields field (List.mem_of_find?_eq_some hfind)
          exact ih (hkeeps _ _ _ hchange record hrecord) _ h
    · split at h
      · exact absurd h behind_ne_ok
      · cases h
        exact hrecord

/-- Every record that is read has a property that the start has and every field keeps. -/
theorem gives_shape (hstart : good kind.start)
    (hfields : ∀ field ∈ kind.fields, field.Keeps depth good) :
    Gives (kind.shape (depth + 1)) good := by
  intro text record left h
  obtain ⟨c, rest, -, h⟩ := exists_of_atValue h
  split at h
  · exact gives_readItems hfields hstart _ _ _ h
  · split at h
    · exact gives_readMembers hfields hstart _ _ _ h
    · exact absurd h wrongType_ne_ok

end RecordKind

/-! ## Reading what is written -/

theorem readsAs_optionalField {name : String} {shape : Shape α} {put : ρ → α → ρ}
    {text : List Char} {value : α} (h : ReadsAs (shape depth) text value) :
    ReadsAs ((optionalField name shape put).read depth) text (put · value) := by
  intro rest hends
  change (shape depth (text ++ rest)).map _ = _
  rw [h rest hends]
  rfl

/-- Whether members give the contents of fields in their order, which take one record to another. A
field that is not required can be left out. -/
inductive Fills (depth : Nat) : List (Field ρ) → ρ → List (String × Json) → ρ → Prop where
  | nil {record : ρ} : Fills depth [] record [] record
  | absent {field : Field ρ} {fields : List (Field ρ)} {record result : ρ}
      {members : List (String × Json)} (hfield : field.isRequired = false)
      (hrest : Fills depth fields record members result) :
      Fills depth (field :: fields) record members result
  | present {field : Field ρ} {fields : List (Field ρ)} {record result : ρ} {change : ρ → ρ}
      {value : Json} {members : List (String × Json)}
      (hfield : ReadsAs (field.read depth) value.chars change)
      (hrest : Fills depth fields (change record) members result) :
      Fills depth (field :: fields) record ((field.name, value) :: members) result

section

variable {name : String} {shape : Shape α} {put : ρ → α → ρ} {fields : List (Field ρ)}
  {record result : ρ} {value : Json} {content : α} {members : List (String × Json)}

theorem fills_optionalField (hread : ReadsAs (shape depth) value.chars content)
    (hrest : Fills depth fields (put record content) members result) :
    Fills depth (optionalField name shape put :: fields) record ((name, value) :: members) result :=
  .present (readsAs_optionalField hread) hrest

theorem fills_requiredField (hread : ReadsAs (shape depth) value.chars content)
    (hrest : Fills depth fields (put record content) members result) :
    Fills depth (requiredField name shape put :: fields) record ((name, value) :: members)
      result := by
  have hfield : ReadsAs ((requiredField name shape put).read depth) value.chars (put · content) :=
    @readsAs_optionalField _ _ depth name shape put value.chars content hread
  exact .present hfield hrest

end

namespace RecordKind

variable {kind : RecordKind ρ}

/-- A field is found by its name when no name comes twice. -/
theorem find?_eq_some {before after : List (Field ρ)} {field : Field ρ}
    (hfields : kind.fields = before ++ field :: after)
    (hnames : (kind.fields.map (·.name)).Nodup) :
    field.name ∉ before.map (·.name) ∧ kind.fields.find? (·.name = field.name) = some field := by
  rw [hfields, List.map_append, List.map_cons, List.nodup_append] at hnames
  have hnew : field.name ∉ before.map (·.name) :=
    fun hmem => hnames.2.2 _ hmem _ List.mem_cons_self rfl
  have hbefore : before.find? (·.name = field.name) = none := by
    rw [List.find?_eq_none]
    intro other hother hname
    exact hnew (List.mem_map.mpr ⟨other, hother, of_decide_eq_true hname⟩)
  refine ⟨hnew, ?_⟩
  rw [hfields, List.find?_append, hbefore, Option.none_or, List.find?_cons_of_pos (by simp)]

/-- One member: its field is found by its name, and its content changes the record. -/
theorem readMembers_cons {field : Field ρ} {seen : List String} {record : ρ} {change : ρ → ρ}
    {value : Json} (hfind : kind.fields.find? (·.name = field.name) = some field)
    (hnew : field.name ∉ seen) (hread : ReadsAs (field.read depth) value.chars change)
    (first : Bool) (fuel : Nat) (parts : List (List Char)) (rest : List Char) :
    kind.readMembers depth (fuel + 1) seen first record
        (listed first (memberText field.name value.chars :: parts) ++ '\x7d' :: rest) =
      kind.readMembers depth fuel (field.name :: seen) false (change record)
        (listed false parts ++ '\x7d' :: rest) := by
  have hvalue := hread _ (endsValue_listed (.inr rfl) parts rest)
  have hseen : seen.contains field.name = false := by simpa using hnew
  rw [readMembers, nextKey_memberText]
  change (stringAfterQuote (field.name.toList.flatMap escapedChar ++ _)).bind _ = _
  rw [stringAfterQuote_flatMap_escapedChar]
  dsimp only [Except.bind]
  rw [hfind]
  dsimp only
  rw [hseen, if_neg (by decide)]
  change (field.read depth (value.chars ++ _)).bind _ = _
  rw [hvalue]
  rfl

/-- Whether the names that were seen are names of fields that have had their turn, among them all
that are required. -/
structure Accounts (fields : List (Field ρ)) (seen : List String) : Prop where
  subset : ∀ name ∈ seen, name ∈ fields.map (·.name)
  required : ∀ field ∈ fields, field.isRequired = true → field.name ∈ seen

theorem accounts_nil : Accounts ([] : List (Field ρ)) [] where
  subset _ hname := absurd hname List.not_mem_nil
  required _ hfield := absurd hfield List.not_mem_nil

theorem Accounts.absent {fields : List (Field ρ)} {seen : List String} (h : Accounts fields seen)
    {field : Field ρ} (hfield : field.isRequired = false) : Accounts (fields ++ [field]) seen where
  subset name hname := by
    rw [List.map_append, List.mem_append]
    exact .inl (h.subset name hname)
  required other hother hrequired := by
    rcases List.mem_append.mp hother with hbefore | hlast
    · exact h.required other hbefore hrequired
    · rw [List.mem_singleton.mp hlast, hfield] at hrequired
      cases hrequired

theorem Accounts.present {fields : List (Field ρ)} {seen : List String} (h : Accounts fields seen)
    (field : Field ρ) : Accounts (fields ++ [field]) (field.name :: seen) where
  subset name hname := by
    rw [List.map_append, List.mem_append]
    rcases List.mem_cons.mp hname with rfl | hseen
    · exact .inr List.mem_cons_self
    · exact .inl (h.subset name hseen)
  required other hother hrequired := by
    rcases List.mem_append.mp hother with hbefore | hlast
    · exact List.mem_cons_of_mem _ (h.required other hbefore hrequired)
    · rw [List.mem_singleton.mp hlast]
      exact List.mem_cons_self

theorem missing?_of_accounts {seen : List String} (h : Accounts kind.fields seen) :
    kind.missing? seen = none := by
  rw [missing?, Option.map_eq_none_iff, List.find?_eq_none]
  intro field hfield hmissing
  simp only [Bool.and_eq_true, Bool.not_eq_true', List.contains_eq_mem,
    decide_eq_false_iff_not] at hmissing
  exact hmissing.2 (h.required field hfield hmissing.1)

/-- The remaining members give the remaining fields, as long as the names that were seen account for
the fields before. -/
theorem readMembers_of_fills {before fields : List (Field ρ)} {record result : ρ}
    {members : List (String × Json)} (hnames : (kind.fields.map (·.name)).Nodup)
    (hfields : kind.fields = before ++ fields) (h : Fills depth fields record members result)
    {seen : List String} (hseen : Accounts before seen) (first : Bool) {fuel : Nat}
    (hfuel : (listed first (memberChars members)).length < fuel) (rest : List Char) :
    kind.readMembers depth fuel seen first record
      (listed first (memberChars members) ++ '\x7d' :: rest) = .ok (result, rest) := by
  induction h generalizing before seen first fuel with
  | nil =>
    obtain ⟨fuel, rfl⟩ : ∃ less, fuel = less + 1 := ⟨fuel - 1, by omega⟩
    have hkey : ∀ first, nextKey first ('\x7d' :: rest) = .ok (false, '\x7d' :: rest) := by
      rintro (_ | _) <;> rfl
    rw [List.append_nil] at hfields
    rw [memberChars, listed, List.nil_append, readMembers, hkey]
    dsimp only [bind, Except.bind]
    rw [if_neg (by decide), missing?_of_accounts (hfields ▸ hseen)]
    rfl
  | absent hfield _ ih =>
    exact ih (by rw [hfields, List.append_cons]) (hseen.absent hfield) first hfuel
  | @present field fields record result change value members hread _ ih =>
    obtain ⟨fuel, rfl⟩ : ∃ less, fuel = less + 1 := ⟨fuel - 1, by omega⟩
    obtain ⟨hnew, hfind⟩ := find?_eq_some hfields hnames
    have hunseen : field.name ∉ seen := fun hmem => hnew (hseen.subset _ hmem)
    rw [memberChars, ← memberText] at hfuel ⊢
    rw [readMembers_cons hfind hunseen hread]
    exact ih (by rw [hfields, List.append_cons]) (hseen.present field) false
      (length_listed_lt (List.cons_ne_nil _ _) hfuel)

/-- An object that gives the fields of a kind in their order is read as the record. -/
theorem readsAs_shape {members : List (String × Json)} {result : ρ}
    (hnames : (kind.fields.map (·.name)).Nodup)
    (h : Fills depth kind.fields kind.start members result) :
    ReadsAs (kind.shape (depth + 1)) (Json.object members).chars result := by
  intro rest _
  have hmembers : memberChars members =
      members.map fun member => memberText member.1 member.2.chars := memberChars_eq_map members
  rw [chars_object_append, ← hmembers]
  refine readMembers_of_fills hnames (List.nil_append _).symm h accounts_nil true ?_ rest
  rw [List.length_append]
  omega

end RecordKind

end DocumentMapping.Json
