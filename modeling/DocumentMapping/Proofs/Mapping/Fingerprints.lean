import DocumentMapping.Mapping.Fingerprint
import Mathlib.Data.List.Basic
import Mathlib.Data.List.Forall2

/-!
# What a fingerprint takes in

The content of a configuration goes into its fingerprint as words and bytes, one after the other and
without a frame around the fields and the rules. The words and bytes of every field tell where the
field ends, whatever follows. So those of a rule do, and different configurations are never taken in
alike.
-/

namespace DocumentMapping

/-! ## The bytes of a text -/

theorem ByteArray.toList_loop (bytes : ByteArray) (position : Nat) (collected : List UInt8) :
    ByteArray.toList.loop bytes position collected =
      collected.reverse ++ bytes.data.toList.drop position := by
  fun_induction ByteArray.toList.loop bytes position collected with
  | case1 position collected hlt ih =>
    have hlength : position < bytes.data.toList.length := hlt
    have hget : bytes.get! position = bytes.data.toList[position] := by
      show bytes.data[position]! = _
      rw [getElem!_pos bytes.data position hlt, Array.getElem_toList]
    rw [ih, List.reverse_cons, List.append_assoc, hget, List.singleton_append,
      List.getElem_cons_drop hlength]
  | case2 position collected hge =>
    rw [List.drop_eq_nil_of_le (Nat.le_of_not_lt hge), List.append_nil]

theorem ByteArray.toList_eq (bytes : ByteArray) : bytes.toList = bytes.data.toList := by
  rw [ByteArray.toList, ByteArray.toList_loop, List.reverse_nil, List.nil_append, List.drop_zero]

/-- The bytes of a text are those of its characters. -/
theorem toUTF8_toList (text : String) :
    text.toUTF8.toList = text.toList.flatMap String.utf8EncodeChar := by
  rw [ByteArray.toList_eq, String.toUTF8_eq_toByteArray, ← String.utf8Encode_toList,
    List.utf8Encode, List.toList_data_toByteArray]

theorem toUTF8_toList_inj {text other : String} :
    text.toUTF8.toList = other.toUTF8.toList ↔ text = other := by
  rw [ByteArray.toList_eq, ByteArray.toList_eq, Array.toList_inj, String.toUTF8_eq_toByteArray,
    String.toUTF8_eq_toByteArray, ← String.toByteArray_inj]
  exact ⟨ByteArray.ext, congrArg _⟩

/-- The bytes of a character are less than the one that closes a text. -/
theorem toNat_lt_of_mem_utf8EncodeChar {c : Char} {byte : UInt8}
    (h : byte ∈ String.utf8EncodeChar c) : byte.toNat < 255 := by
  unfold String.utf8EncodeChar at h
  dsimp only at h
  split at h
  · rename_i hascii
    rw [List.mem_singleton.mp h, UInt8.toNat_ofNat']
    omega
  · split at h
    · simp only [List.mem_cons, List.not_mem_nil, or_false] at h
      rcases h with rfl | rfl <;> rw [UInt8.toNat_ofNat'] <;> omega
    · split at h
      · simp only [List.mem_cons, List.not_mem_nil, or_false] at h
        rcases h with rfl | rfl | rfl <;> rw [UInt8.toNat_ofNat'] <;> omega
      · simp only [List.mem_cons, List.not_mem_nil, or_false] at h
        rcases h with rfl | rfl | rfl | rfl <;> rw [UInt8.toNat_ofNat'] <;> omega

theorem closing_not_mem_toUTF8 (text : String) : 0xff ∉ text.toUTF8.toList := by
  rw [toUTF8_toList]
  intro hmem
  obtain ⟨c, _, hbyte⟩ := List.mem_flatMap.mp hmem
  exact absurd (toNat_lt_of_mem_utf8EncodeChar hbyte) (by decide)

/-! ## Words and bytes -/

/-- What a hash takes in at once. -/
inductive HashSymbol where
  | word (value : UInt64)
  | byte (value : UInt8)
deriving DecidableEq, Repr

/-- The words and bytes of an item. A text is its bytes and a closing one. -/
def HashItem.symbols : HashItem → List HashSymbol
  | .word value => [.word value]
  | .byte value => [.byte value]
  | .text value => value.toUTF8.toList.map .byte ++ [.byte 0xff]

/-- Two rules agree in all fields; of their constants the texts count. -/
structure Rule.AgreesWith (rule other : Rule) : Prop where
  id : rule.id = other.id
  isDisabled : rule.isDisabled = other.isDisabled
  sourceField : rule.sourceField = other.sourceField
  destinationField : rule.destinationField = other.destinationField
  headerTitle : rule.headerTitle = other.headerTitle
  placementHint : rule.placementHint = other.placementHint
  constant : rule.constant.map Json.text = other.constant.map Json.text
  format : rule.format = other.format
  usesExpression : rule.usesExpression = other.usesExpression
  expressionText : rule.expressionText = other.expressionText

namespace Fingerprint

/-- The words and bytes of items in their order. -/
def symbols (items : List HashItem) : List HashSymbol :=
  items.flatMap HashItem.symbols

@[simp] theorem symbols_append (first second : List HashItem) :
    symbols (first ++ second) = symbols first ++ symbols second :=
  List.flatMap_append

/-- The words and bytes of a value tell how far they reach and, up to a likeness, which value it
is. -/
def Delimits {α : Type} (encode : α → List HashItem) (alike : α → α → Prop) : Prop :=
  ∀ x y rest others,
    symbols (encode x) ++ rest = symbols (encode y) ++ others ↔ alike x y ∧ rest = others

/-- Two lists that go on behind a mark they do not contain are told apart from what follows it. -/
theorem append_cons_inj_of_not_mem {α : Type} {mark : α} {xs ys rest others : List α}
    (hx : mark ∉ xs) (hy : mark ∉ ys) :
    xs ++ mark :: rest = ys ++ mark :: others ↔ xs = ys ∧ rest = others := by
  induction xs generalizing ys with
  | nil =>
    cases ys with
    | nil => simp
    | cons y ys => simp [List.ne_of_not_mem_cons hy]
  | cons x xs ih =>
    have hlater := fun ys hys => @ih ys (List.not_mem_of_not_mem_cons hx) hys
    cases ys with
    | nil => simp [(List.ne_of_not_mem_cons hx).symm]
    | cons y ys => simp [hlater ys (List.not_mem_of_not_mem_cons hy), and_assoc]

theorem delimits_ofText : Delimits ofText (· = ·) := by
  intro text other rest others
  have hsymbols : ∀ (text : String) (rest : List HashSymbol), symbols (ofText text) ++ rest =
      text.toUTF8.toList.map .byte ++ .byte 0xff :: rest := by
    intro text rest
    simp [symbols, ofText, HashItem.symbols]
  have hclosing : ∀ text : String, HashSymbol.byte 0xff ∉ text.toUTF8.toList.map .byte := by
    intro text hmem
    obtain ⟨byte, hbyte, heq⟩ := List.mem_map.mp hmem
    cases heq
    exact closing_not_mem_toUTF8 text hbyte
  have hinjective : Function.Injective HashSymbol.byte := fun _ _ => HashSymbol.byte.inj
  rw [hsymbols, hsymbols, append_cons_inj_of_not_mem (hclosing text) (hclosing other),
    (List.map_injective_iff.mpr hinjective).eq_iff, toUTF8_toList_inj]

theorem delimits_ofBool : Delimits ofBool (· = ·) := by
  intro value other rest others
  cases value <;> cases other <;> simp [symbols, ofBool, HashItem.symbols]

theorem delimits_ofOption : Delimits ofOption (· = ·) := by
  intro value other rest others
  have hsymbols : ∀ (text : String) (rest : List HashSymbol),
      symbols (ofOption (some text)) ++ rest = .word 1 :: (symbols (ofText text) ++ rest) :=
    fun _ _ => rfl
  cases value with
  | none => cases other <;> simp [symbols, ofOption, HashItem.symbols]
  | some text =>
    cases other with
    | none => simp [symbols, ofOption, HashItem.symbols]
    | some second =>
      rw [hsymbols, hsymbols, List.cons_inj_right, delimits_ofText text second]
      simp only [Option.some.injEq]

/-- A field is delimited when its kind of values is. -/
theorem Delimits.field {α β : Type} {encode : α → List HashItem} {alike : α → α → Prop}
    (h : Delimits encode alike) (field : β → α) :
    Delimits (fun x => encode (field x)) fun x y => alike (field x) (field y) :=
  fun x y => h (field x) (field y)

/-- What consists of two delimited parts is delimited. -/
theorem Delimits.append {α : Type} {first second : α → List HashItem} {alike near : α → α → Prop}
    (hfirst : Delimits first alike) (hsecond : Delimits second near) :
    Delimits (fun x => first x ++ second x) fun x y => alike x y ∧ near x y := by
  intro x y rest others
  rw [symbols_append, symbols_append, List.append_assoc, List.append_assoc, hfirst, hsecond,
    and_assoc]

/-- The words and bytes of a rule tell where it ends, and its fields. -/
theorem delimits_ofRule : Delimits ofRule Rule.AgreesWith := by
  have hfields :=
    (delimits_ofText.field Rule.id).append (delimits_ofBool.field Rule.isDisabled)
      |>.append (delimits_ofOption.field Rule.sourceField)
      |>.append (delimits_ofOption.field Rule.destinationField)
      |>.append (delimits_ofOption.field Rule.headerTitle)
      |>.append (delimits_ofOption.field Rule.placementHint)
      |>.append (delimits_ofOption.field fun rule : Rule => rule.constant.map Json.text)
      |>.append (delimits_ofOption.field Rule.format)
      |>.append (delimits_ofBool.field Rule.usesExpression)
      |>.append (delimits_ofOption.field Rule.expressionText)
  intro rule other rest others
  refine (hfields rule other rest others).trans (and_congr_left fun _ => ?_)
  constructor
  · rintro ⟨⟨⟨⟨⟨⟨⟨⟨⟨hid, hdisabled⟩, hsource⟩, hdestination⟩, htitle⟩, hhint⟩, hconstant⟩,
      hformat⟩, huses⟩, htext⟩
    exact ⟨hid, hdisabled, hsource, hdestination, htitle, hhint, hconstant, hformat, huses, htext⟩
  · rintro ⟨hid, hdisabled, hsource, hdestination, htitle, hhint, hconstant, hformat, huses, htext⟩
    exact ⟨⟨⟨⟨⟨⟨⟨⟨⟨hid, hdisabled⟩, hsource⟩, hdestination⟩, htitle⟩, hhint⟩, hconstant⟩,
      hformat⟩, huses⟩, htext⟩

/-! ## Configurations -/

/-- A rule starts with a byte. -/
theorem head?_symbols_ofRule (rule : Rule) (rest : List HashSymbol) :
    ∃ value, (symbols (ofRule rule) ++ rest).head? = some (.byte value) := by
  simp only [ofRule, symbols_append, List.append_assoc]
  simp only [symbols, ofText, List.flatMap_cons, HashItem.symbols, List.flatMap_nil,
    List.append_nil, List.append_assoc]
  cases rule.id.toUTF8.toList with
  | nil => exact ⟨_, rfl⟩
  | cons first more => exact ⟨first, rfl⟩

/-- An option starts with a word. -/
theorem head?_symbols_ofOption (value : Option String) :
    ∃ word, (symbols (ofOption value)).head? = some (.word word) := by
  cases value <;> exact ⟨_, rfl⟩

/-- The words and bytes of rules and an option tell where the rules end. -/
theorem symbols_rules_inj {rules others : List Rule} {preprocessor other : Option String} :
    symbols (rules.flatMap ofRule ++ ofOption preprocessor) =
        symbols (others.flatMap ofRule ++ ofOption other) ↔
      List.Forall₂ Rule.AgreesWith rules others ∧ preprocessor = other := by
  have hkinds : ∀ (rule : Rule) (rest : List HashSymbol) (value : Option String),
      symbols (ofRule rule) ++ rest ≠ symbols (ofOption value) := by
    intro rule rest value heq
    obtain ⟨byte, hbyte⟩ := head?_symbols_ofRule rule rest
    obtain ⟨word, hword⟩ := head?_symbols_ofOption value
    rw [heq, hword] at hbyte
    cases hbyte
  induction rules generalizing others with
  | nil =>
    cases others with
    | nil =>
      have hoption := delimits_ofOption preprocessor other [] []
      simpa using hoption
    | cons second more =>
      simp [List.append_assoc, (hkinds second _ preprocessor).symm]
  | cons rule rest ih =>
    cases others with
    | nil => simp [List.append_assoc, hkinds rule _ other]
    | cons second more =>
      rw [List.flatMap_cons, List.flatMap_cons, List.append_assoc, List.append_assoc,
        symbols_append (ofRule rule), symbols_append (ofRule second), delimits_ofRule,
        List.forall₂_cons, and_assoc]
      exact and_congr_right fun _ => ih

end Fingerprint

/-- Two configurations go into the fingerprint as the same words and bytes exactly when their
preprocessors are the same and their rules agree in all fields, one by one. -/
theorem fingerprint_input_determines_configuration (rules others : List Rule)
    (preprocessor other : Option String) :
    Fingerprint.symbols (Fingerprint.items rules preprocessor) =
        Fingerprint.symbols (Fingerprint.items others other) ↔
      List.Forall₂ Rule.AgreesWith rules others ∧ preprocessor = other := by
  have hcons : ∀ (rules : List Rule) (preprocessor : Option String),
      Fingerprint.symbols (Fingerprint.items rules preprocessor) =
        .word (UInt64.ofNat rules.length) ::
          Fingerprint.symbols (rules.flatMap Fingerprint.ofRule ++
            Fingerprint.ofOption preprocessor) := fun _ _ => rfl
  rw [hcons, hcons, List.cons.injEq, Fingerprint.symbols_rules_inj]
  constructor
  · rintro ⟨_, halike⟩
    exact halike
  · rintro ⟨hrules, hpreprocessor⟩
    exact ⟨by rw [hrules.length_eq], hrules, hpreprocessor⟩

end DocumentMapping
