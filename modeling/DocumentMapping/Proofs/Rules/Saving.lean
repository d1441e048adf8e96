import DocumentMapping.Proofs.Json.Records
import DocumentMapping.Rules.Printer
import DocumentMapping.Rules.Reader

/-!
# Documents are stable under saving

A mapping document that was read from any text is read again from the text it is written as, and is
the same document. Fields that are left out, records given as lists, null constants and members that
are not known are settled by the first reading. What is kept of a constant keeps to the depth that
the second reading allows.
-/

namespace DocumentMapping

open Json (Gives IsReadable DoublesReturn ReadsAs Fills RecordKind Shape optionalField optionShape
  fills_optionalField fills_requiredField readsAs_textShape readsAs_booleanShape)

variable {depth : Nat}

/-! ## What a document can hold -/

/-- Whether the constant of a rule, if there is one, is not null and can be read at a depth. -/
def Rule.HoldsReadable (depth : Nat) (rule : Rule) : Prop :=
  ∀ constant ∈ rule.constant, constant ≠ .null ∧ IsReadable depth constant

/-- The numbers in the constants of a document. -/
def MappingDocument.numbers (document : MappingDocument) : List JsonNumber :=
  document.rules.flatMap fun rule => rule.constant.toList.flatMap Json.numbers

theorem MappingDocument.mem_numbers {document : MappingDocument} {rule : Rule} {constant : Json}
    {number : JsonNumber} (hrule : rule ∈ document.rules) (hconstant : constant ∈ rule.constant)
    (hnumber : number ∈ constant.numbers) : number ∈ document.numbers := by
  refine List.mem_flatMap.mpr ⟨rule, hrule, List.mem_flatMap.mpr ⟨constant, ?_, hnumber⟩⟩
  exact Option.mem_toList.mpr hconstant

/-- What is known of a document that was read. -/
structure MappingDocument.WellRead (depth : Nat) (document : MappingDocument) : Prop where
  rules : ∀ rule ∈ document.rules, rule.HoldsReadable depth
  writeCeiling_lt : document.engine.writeCeiling < 2 ^ 64

theorem Rule.gives_shape : Gives (kind.shape (depth + 1)) (HoldsReadable depth) := by
  refine RecordKind.gives_shape nofun fun field hfield => ?_
  simp only [kind, List.mem_cons, List.not_mem_nil, or_false] at hfield
  rcases hfield with rfl | rfl | rfl | rfl | rfl | rfl | rfl | rfl | rfl | rfl
  iterate 6 exact Json.keeps_of_put fun _ _ h => h
  · exact Json.keeps_optionalField Json.gives_optionShape_anyShape fun _ _ h _ => h
  all_goals exact Json.keeps_of_put fun _ _ h => h

theorem EngineSettings.gives_shape :
    Gives (kind.shape (depth + 1)) fun settings => settings.writeCeiling < 2 ^ 64 := by
  refine RecordKind.gives_shape (by decide) fun field hfield => ?_
  simp only [kind, List.mem_cons, List.not_mem_nil, or_false] at hfield
  rcases hfield with rfl | rfl
  · exact Json.keeps_optionalField Json.gives_countShape fun _ _ h _ => h
  · exact Json.keeps_of_put fun _ _ h => h

theorem MappingDocument.gives_shape : Gives (kind.shape (depth + 3)) (WellRead depth) := by
  have hstart : WellRead depth kind.start :=
    ⟨fun _ hrule => absurd hrule List.not_mem_nil, by decide⟩
  refine RecordKind.gives_shape hstart fun field hfield => ?_
  simp only [kind, List.mem_cons, List.not_mem_nil, or_false] at hfield
  rcases hfield with rfl | rfl | rfl | rfl | rfl | rfl
  · exact Json.keeps_optionalField (Json.gives_listShape Rule.gives_shape)
      fun _ _ hrules h => ⟨hrules, h.writeCeiling_lt⟩
  iterate 4 exact Json.keeps_of_put fun _ _ h => ⟨h.rules, h.writeCeiling_lt⟩
  · exact Json.keeps_optionalField EngineSettings.gives_shape
      fun _ _ hceiling h => ⟨h.rules, hceiling⟩

/-- The constants of a whole document stand three containers deep: in the document, in its list of
rules and in a rule. -/
theorem MappingDocument.wellRead_of_read {text : String} {document : MappingDocument}
    (h : read text = .ok document) : document.WellRead 124 := by
  obtain ⟨⟨found, rest⟩, hfound, h⟩ := Except.bind_eq_ok_iff.mp h
  obtain ⟨_, -, h⟩ := Except.bind_eq_ok_iff.mp h
  cases h
  exact gives_shape _ _ _ hfound

/-! ## Members -/

section

variable {ρ α : Type} {name : String} {fields : List (Json.Field ρ)} {record result : ρ}
  {members : List (String × Json)}

/-- A field that holds an option is given by its member, or left out with it. -/
theorem fills_option {shape : Shape α} {put : ρ → Option α → ρ} {toJson : α → Json}
    {option : Option α} (hput : put record none = record)
    (hread : ∀ value ∈ option,
      ReadsAs (optionShape shape depth) (toJson value).chars (some value))
    (hrest : Fills depth fields (put record option) members result) :
    Fills depth (optionalField name (optionShape shape) put :: fields) record
      (optionalMember name (option.map toJson) ++ members) result := by
  cases option with
  | none =>
    rw [hput] at hrest
    exact .absent rfl hrest
  | some value => exact fills_optionalField (hread value rfl) hrest

theorem fills_text {put : ρ → Option String → ρ} {option : Option String}
    (hput : put record none = record)
    (hrest : Fills depth fields (put record option) members result) :
    Fills depth (optionalField name (optionShape Json.textShape) put :: fields) record
      (optionalMember name (option.map .string) ++ members) result :=
  fills_option hput (fun text _ => Json.readsAs_optionShape_textShape text) hrest

end

/-! ## Records -/

theorem FieldDefinition.readsAs_toJson (field : FieldDefinition) :
    ReadsAs (kind.shape (depth + 1)) field.toJson.chars field := by
  refine RecordKind.readsAs_shape (by decide) ?_
  refine fills_requiredField (readsAs_textShape field.id) ?_
  refine fills_requiredField (readsAs_textShape field.path) ?_
  exact .nil

theorem get?_sourceTypes (type : SourceType) :
    OrderedMap.get? (SourceType.all.map fun type => (type.name, type)) type.name = some type := by
  cases type <;> rfl

theorem ValueFormat.readsAs_toJson (format : ValueFormat) :
    ReadsAs (kind.shape (depth + 1)) format.toJson.chars format := by
  refine RecordKind.readsAs_shape (by decide) ?_
  refine fills_requiredField (readsAs_textShape format.id) ?_
  refine fills_optionalField (Json.readsAs_choiceShape (get?_sourceTypes format.sourceType)) ?_
  rw [← List.append_nil (optionalMember _ _)]
  exact fills_text rfl .nil

theorem MappingOptions.readsAs_toJson (options : MappingOptions) :
    ReadsAs (kind.shape (depth + 1)) options.toJson.chars options := by
  refine RecordKind.readsAs_shape (by decide) ?_
  rw [List.append_assoc, List.singleton_append, ← List.append_nil (optionalMember "fingerprint" _)]
  refine fills_optionalField (readsAs_booleanShape options.isTabular) ?_
  exact fills_text rfl (fills_text rfl .nil)

theorem EngineSettings.readsAs_toJson {settings : EngineSettings}
    (h : settings.writeCeiling < 2 ^ 64) :
    ReadsAs (kind.shape (depth + 1)) settings.toJson.chars settings := by
  refine RecordKind.readsAs_shape (by decide) ?_
  refine fills_optionalField (Json.readsAs_countShape h) ?_
  refine fills_optionalField (readsAs_textShape settings.rowProperty) ?_
  exact .nil

theorem Rule.readsAs_toJson {rule : Rule} (h : rule.HoldsReadable depth)
    (hdoubles : ∀ constant ∈ rule.constant, DoublesReturn constant) :
    ReadsAs (kind.shape (depth + 1)) rule.toJson.chars rule := by
  have hconstant : ∀ constant ∈ rule.constant,
      ReadsAs (optionShape Json.anyShape depth) constant.chars (some constant) :=
    fun constant hmem => Json.readsAs_optionShape_anyShape (h constant hmem).1 (h constant hmem).2
      (hdoubles constant hmem)
  have hwritten : rule.constant = rule.constant.map fun value => value := Option.map_id'.symm
  refine RecordKind.readsAs_shape (by decide) ?_
  rw [hwritten]
  simp only [List.append_assoc, List.cons_append, List.nil_append]
  rw [← List.append_nil (optionalMember "valueExpression" _)]
  refine fills_optionalField (readsAs_textShape rule.id) ?_
  refine fills_optionalField (readsAs_booleanShape rule.isDisabled) ?_
  refine fills_text rfl (fills_text rfl (fills_text rfl (fills_text rfl ?_)))
  refine fills_option rfl hconstant (fills_text rfl ?_)
  refine fills_optionalField (readsAs_booleanShape rule.usesExpression) ?_
  exact fills_text rfl .nil

theorem MappingDocument.readsAs_toJson {document : MappingDocument} (h : document.WellRead depth)
    (hdoubles : ∀ rule ∈ document.rules, ∀ constant ∈ rule.constant, DoublesReturn constant) :
    ReadsAs (kind.shape (depth + 3)) document.toJson.chars document := by
  have hrules : ∀ rule ∈ document.rules,
      ReadsAs (Rule.kind.shape (depth + 1)) rule.toJson.chars rule :=
    fun rule hrule => Rule.readsAs_toJson (h.rules rule hrule) (hdoubles rule hrule)
  refine RecordKind.readsAs_shape (by decide) ?_
  refine fills_optionalField
    (Json.readsAs_listShape (fun rule _ => Json.startsValue_object _) hrules) ?_
  refine fills_optionalField
    (Json.readsAs_listShape (fun field _ => Json.startsValue_object _)
      fun field _ => field.readsAs_toJson) ?_
  refine fills_optionalField
    (Json.readsAs_listShape (fun field _ => Json.startsValue_object _)
      fun field _ => field.readsAs_toJson) ?_
  refine fills_optionalField
    (Json.readsAs_listShape (fun format _ => Json.startsValue_object _)
      fun format _ => format.readsAs_toJson) ?_
  refine fills_optionalField document.options.readsAs_toJson ?_
  refine fills_optionalField (EngineSettings.readsAs_toJson h.writeCeiling_lt) ?_
  exact .nil

/-! ## Saving -/

/-- A document that was read is read again from the text it is written as, is the same document, and
is written as the same text. It is only asked that the doubles in its constants are read back from
their digits. -/
theorem MappingDocument.saved_documents_return {text : String} {document : MappingDocument}
    (h : read text = .ok document)
    (hdoubles : ∀ x, JsonNumber.double x ∈ document.numbers →
      Json.read x.jsonChars = .ok (.number (.double x))) :
    ∃ again, read document.text = .ok again ∧ again = document ∧ again.text = document.text := by
  have hconstants : ∀ rule ∈ document.rules, ∀ constant ∈ rule.constant, DoublesReturn constant :=
    fun rule hrule constant hconstant x hx => hdoubles x (mem_numbers hrule hconstant hx)
  have hread : kind.shape Json.nestingLimit (document.toJson.chars ++ []) = .ok (document, []) :=
    readsAs_toJson (wellRead_of_read h) hconstants [] Json.endsValue_nil
  refine ⟨document, ?_, rfl, rfl⟩
  rw [List.append_nil] at hread
  rw [read, Json.readShape, MappingDocument.text, Json.text, String.toList_ofList, hread]
  rfl

/-- A document with a member that is not known, records as lists, a constant that holds a double and
null, and a constant that is null. -/
theorem MappingDocument.saved_order_returns :
    let text := "\x7b\"note\":[1],\"rules\":[[\"total\",true]," ++
      "\x7b\"destinationConstantValue\":[2.5,\x7b\"a\":null\x7d]\x7d," ++
      "\x7b\"destinationConstantValue\":null\x7d],\"engine\":[7]\x7d"
    let x : Double := ⟨false, 5629499534213120, -51⟩
    ∃ document, read text = .ok document ∧
      document.rules.map (·.constant.isSome) = [false, true, false] ∧
      document.numbers = [.double x] ∧ Json.read x.jsonChars = .ok (.number (.double x)) ∧
      ∃ again, read document.text = .ok again ∧ again = document ∧
        again.text = document.text := by
  intro text x
  have hx : Json.read x.jsonChars = .ok (.number (.double x)) := by
    have hchars : x.jsonChars = ['2', '.', '5'] := by decide +kernel
    have hdouble : Double.ofSignificand? false 25 (-1) = some x := by decide +kernel
    have hnumber : Json.numberAfterSign false ['2', '.', '5'] =
        Json.finishDouble false 25 (-1) [] := rfl
    rw [Json.finishDouble, hdouble] at hnumber
    rw [hchars]
    exact (Json.ReadsNumber.positive rfl (Json.numberAfterSign_local.readsAs hnumber)).read
  have hfound : (read text).toOption.map (fun document =>
      (document.rules.map (·.constant.isSome), document.numbers)) =
        some ([false, true, false], [.double x]) := by decide +kernel
  obtain ⟨document, hread, hfacts⟩ := Option.map_eq_some_iff.mp hfound
  obtain ⟨hrules, hnumbers⟩ := Prod.mk.inj hfacts
  have hread := Except.toOption_eq_some_iff.mp hread
  refine ⟨document, hread, hrules, hnumbers, hx, saved_documents_return hread fun y hy => ?_⟩
  rw [hnumbers, List.mem_singleton] at hy
  cases hy
  exact hx

end DocumentMapping
