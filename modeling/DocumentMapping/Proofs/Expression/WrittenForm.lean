import DocumentMapping.Proofs.Expression.Grammar
import DocumentMapping.Proofs.Expression.Properness
import DocumentMapping.Proofs.Number.DecimalRange

/-!
# What a printed expression is derived from

The text of an expression puts every binary operator in parentheses, and nothing else. It writes the
name of a member as it is, and it marks the single quotes of a string but not the backslashes. So it
has a derivation only when every name is a word and no operator or sign in front of an operand is
followed by a member or an index of the whole. A negative number is derived as a minus in front of
its magnitude. The derivation denotes the expression.
-/

namespace DocumentMapping

theorem Decimal.neg_neg (x : Decimal) : x.neg.neg = x := by
  simp [Decimal.neg]

namespace Expression

/-! ## Legible expressions -/

/-- Whether an expression is printed with an operator or a sign in front. -/
def isSigned : Expression → Bool
  | .literal (.integer value) => value.toInt < 0
  | .literal (.decimal value) => value.negative
  | .unary _ _ => true
  | _ => false

/-- What an expression must be like, apart from its parts, for its text to mean the same: there is no
backslash in a string, the name of a member is a word, and a member or an index is not taken of
something with a sign in front. -/
def LegiblePart : Expression → Prop
  | .literal (.string text) => '\\' ∉ text.toList
  | .member base name => base.isSigned = false ∧ isWord name.toList = true
  | .index base _ => base.isSigned = false
  | _ => True

/-- An expression whose text means the same. -/
def Legible (expression : Expression) : Prop :=
  ∀ part ∈ expression.parts, LegiblePart part

section

variable {base position left right operand : Expression} {name : String} {function : Function}
  {arguments : List Expression}

theorem legible_member :
    Legible (.member base name) ↔
      (base.isSigned = false ∧ isWord name.toList = true) ∧ Legible base :=
  List.forall_mem_cons

theorem legible_index :
    Legible (.index base position) ↔ base.isSigned = false ∧ Legible base ∧ Legible position :=
  List.forall_mem_cons.trans (and_congr_right' List.forall_mem_append)

theorem legible_unary {op : UnaryOperator} :
    Legible (.unary op operand) ↔ Legible operand :=
  List.forall_mem_cons.trans (and_iff_right trivial)

theorem legible_binary {op : BinaryOperator} :
    Legible (.binary op left right) ↔ Legible left ∧ Legible right :=
  (List.forall_mem_cons.trans (and_iff_right trivial)).trans List.forall_mem_append

theorem legible_call :
    Legible (.call function arguments) ↔ ∀ argument ∈ arguments, Legible argument := by
  refine (List.forall_mem_cons.trans (and_iff_right trivial)).trans ⟨?_, ?_⟩
  · intro h argument hargument part hpart
    exact h part (mem_argumentParts_iff.mpr ⟨argument, hargument, hpart⟩)
  · intro h part hpart
    obtain ⟨argument, hargument, hpart⟩ := mem_argumentParts_iff.mp hpart
    exact h argument hargument part hpart

end

/-! ## Derivations of printed expressions -/

/-- The derivation of a printed literal. -/
def literalForm : Scalar → Written
  | .boolean true => .word .true
  | .boolean false => .word .false
  | .integer value =>
    if value.toInt < 0 then .unary .negate (.integer (-value)) else .integer value
  | .decimal value =>
    if value.negative then .unary .negate (.decimal value.neg.text value.neg)
    else .decimal value.text value
  | .string text => .string text
  | _ => .word .null

mutual

/-- The derivation of a printed expression. -/
def form : Expression → Written
  | .literal value => literalForm value
  | .input root => .word (.input root)
  | .member base name => .member base.form (.bare name)
  | .index base position => .index base.form position.form
  | .unary op operand => .unary op operand.form
  | .binary op left right => .grouped (.binary op left.form right.form)
  | .call function arguments => .call function (forms arguments)

/-- The derivations of printed arguments. -/
def forms : List Expression → List Written
  | [] => []
  | argument :: rest => argument.form :: forms rest

end

theorem forms_eq_map (arguments : List Expression) : forms arguments = arguments.map form := by
  induction arguments with
  | nil => rfl
  | cons argument rest ih => rw [forms, ih, List.map_cons]

theorem tree_negate (operand : Written) :
    (Written.unary .negate operand).tree = negated operand.tree := by
  rw [Written.tree]
  rfl

theorem negated_of_not_number {operand : Expression} (h : operand.isNumber = false) :
    negated operand = .unary .negate operand := by
  unfold negated
  split
  · cases h
  · cases h
  · rfl

theorem ProperLiteral.tree_literalForm {value : Scalar} (h : ProperLiteral value) :
    (literalForm value).tree = .literal value := by
  cases h with
  | null => rfl
  | boolean value => cases value <;> rfl
  | string value => rfl
  | @integer value _ =>
    rw [literalForm]
    split
    · rw [tree_negate, Written.tree, negated, Int64.neg_neg]
    · rfl
  | @decimal value _ =>
    rw [literalForm]
    split
    · rw [tree_negate, Written.tree, negated, Decimal.neg_neg]
    · rfl

/-- The derivation of a printed expression denotes the expression. -/
theorem Proper.tree_form {expression : Expression} (h : Proper expression) :
    expression.form.tree = expression := by
  induction h with
  | literal hvalue => exact hvalue.tree_literalForm
  | input root => rfl
  | member name _ ih => rw [form, Written.tree, ih, WrittenName.value]
  | index _ _ ihbase ihposition => rw [form, Written.tree, ihbase, ihposition]
  | negate hnumber _ ih => rw [form, tree_negate, ih, negated_of_not_number hnumber]
  | not _ ih => rw [form, Written.tree, ih]
  | binary op _ _ ihleft ihright => rw [form, Written.tree, Written.tree, ihleft, ihright]
  | @call function arguments _ _ ih =>
    have htrees : Written.trees (forms arguments) = arguments := by
      clear * - ih
      induction arguments with
      | nil => rfl
      | cons argument rest ihrest =>
        rw [forms, Written.trees, ih argument List.mem_cons_self,
          ihrest fun argument hmem => ih argument (.tail _ hmem)]
    rw [form, Written.tree, htrees]

theorem derives_decimal {value : Decimal} (h : value.negative = false) :
    Derives 10 (.decimal value.text value) := by
  refine .decimal ?_
  rw [Decimal.text, String.toList_ofList, Decimal.ofPositional?_chars,
    Decimal.unsignedZero_of_positive h]

/-- A printed literal is derived as an operand, or as a signed one. -/
theorem derives_literalForm (value : Scalar) :
    Derives 8 (literalForm value) ∧
      ((Expression.literal value).isSigned = false → Derives 9 (literalForm value)) := by
  -- what is derived as a primary is derived on every level
  have hprimary {written : Written} {P : Prop} (h : Derives 10 written) :
      Derives 8 written ∧ (P → Derives 9 written) :=
    ⟨h.loosen (by decide), fun _ => h.loosen (by decide)⟩
  cases value with
  | boolean value => cases value <;> exact hprimary (.word _)
  | integer value =>
    by_cases hsign : value.toInt < 0
    · rw [literalForm, if_pos hsign]
      exact ⟨.sign ((Derives.integer _).loosen (by decide)), fun h => by simp [isSigned, hsign] at h⟩
    · rw [literalForm, if_neg hsign]
      exact hprimary (.integer value)
  | decimal value =>
    by_cases hsign : value.negative = true
    · rw [literalForm, if_pos hsign]
      have hmagnitude : value.neg.negative = false := by simp [Decimal.neg, hsign]
      exact ⟨.sign ((derives_decimal hmagnitude).loosen (by decide)),
        fun h => by simp [isSigned, hsign] at h⟩
    · rw [literalForm, if_neg hsign]
      exact hprimary (derives_decimal (by simpa using hsign))
  | string value => exact hprimary (.string value)
  | _ => exact hprimary (.word .null)

/-- A legible expression is derived as printed: with a sign in front on the level of signs, and
otherwise on the level of members and indexes. -/
theorem Proper.derives_form {expression : Expression} (h : Proper expression)
    (hlegible : expression.Legible) :
    Derives 8 expression.form ∧ (expression.isSigned = false → Derives 9 expression.form) := by
  -- whatever has no sign in front is derived on the tighter level
  have hunsigned {written : Written} {P : Prop} (h : Derives 9 written) :
      Derives 8 written ∧ (P → Derives 9 written) :=
    ⟨h.looser, fun _ => h⟩
  induction h with
  | @literal value _ => exact derives_literalForm value
  | input root => exact hunsigned (Derives.word _).looser
  | member name _ ih =>
    obtain ⟨⟨hbase, -⟩, hrest⟩ := legible_member.mp hlegible
    exact hunsigned (.member ((ih hrest).2 hbase))
  | index _ _ ihbase ihposition =>
    obtain ⟨hbase, hrest, hposition⟩ := legible_index.mp hlegible
    exact hunsigned (.index ((ihbase hrest).2 hbase) ((ihposition hposition).1.loosen (by decide)))
  | negate _ _ ih => exact ⟨.sign (ih (legible_unary.mp hlegible)).1, nofun⟩
  | not _ ih => exact ⟨.sign (ih (legible_unary.mp hlegible)).1, nofun⟩
  | binary op _ _ ihleft ihright =>
    obtain ⟨hleft, hright⟩ := legible_binary.mp hlegible
    have hbinary : Derives op.level _ :=
      .binary ((ihleft hleft).1.loosen (op.leftLevel_le_seven.trans (by decide)))
        ((ihright hright).1.loosen op.rightLevel_le_eight)
    exact hunsigned (Derives.grouped (hbinary.loosen op.one_le_level)).looser
  | @call function arguments hcount _ ih =>
    refine hunsigned (Derives.call ?_ ?_).looser
    · rwa [forms_eq_map, List.length_map]
    · rw [forms_eq_map]
      exact List.forall_mem_map.mpr fun argument hmem =>
        (ih argument hmem (legible_call.mp hlegible argument hmem)).1.loosen (by decide)

end Expression

end DocumentMapping
