import DocumentMapping.Mapping.Engine
import DocumentMapping.Proofs.Sequencing

/-!
# Compiling expressions

The texts of a configuration are compiled in order under their names. That succeeds exactly when
each text is an expression, and then every name holds the expression of its text.
-/

namespace DocumentMapping

/-- Whether a text is an expression. -/
def Expression.isReadable (source : String) : Bool :=
  (Expression.read source).isOk

/-- The expression that a text is, if it is one. -/
def Expression.read? (source : String) : Option Expression :=
  (Expression.read source).toOption

theorem Expression.isSome_read? (source : String) :
    (Expression.read? source).isSome = Expression.isReadable source := by
  unfold Expression.read? Expression.isReadable
  cases Expression.read source <;> rfl

namespace ModuleCache

variable {key : String} {sources : OrderedMap String}

/-- The first of some texts is compiled when it is an expression. -/
theorem compileAll_cons_eq_ok_iff {name source : String} {rest : List (String × String)}
    {expressions : List (String × Expression)} :
    compileAll Expression.compile key ((name, source) :: rest) = .ok expressions ↔
      ∃ expression compiled, Expression.read? source = some expression ∧
        compileAll Expression.compile key rest = .ok compiled ∧
        expressions = (name, expression) :: compiled := by
  rw [compileAll, Expression.compile, Expression.read?]
  cases Expression.read source with
  | error fault =>
    constructor
    · intro h
      cases h
    · rintro ⟨_, _, h, _⟩
      cases h
  | ok expression =>
    show (compileAll Expression.compile key rest).map ((name, expression) :: ·) = _ ↔ _
    rw [Except.map_eq_ok_iff]
    constructor
    · rintro ⟨compiled, hrest, rfl⟩
      exact ⟨expression, compiled, rfl, hrest, rfl⟩
    · rintro ⟨_, compiled, h, hrest, rfl⟩
      cases h
      exact ⟨compiled, hrest, rfl⟩

/-- Texts are compiled together when each of them can be compiled. -/
theorem exists_compileAll_iff :
    (∃ expressions, compileAll Expression.compile key sources = .ok expressions) ↔
      sources.all fun entry => Expression.isReadable entry.2 := by
  induction sources with
  | nil => simp [compileAll]
  | cons entry rest ih =>
    obtain ⟨name, source⟩ := entry
    rw [List.all_cons, Bool.and_eq_true, ← ih, ← Expression.isSome_read?, Option.isSome_iff_exists]
    constructor
    · rintro ⟨_, h⟩
      obtain ⟨expression, compiled, hread, hrest, _⟩ := compileAll_cons_eq_ok_iff.mp h
      exact ⟨⟨expression, hread⟩, compiled, hrest⟩
    · rintro ⟨⟨expression, hread⟩, compiled, hrest⟩
      exact ⟨_, compileAll_cons_eq_ok_iff.mpr ⟨expression, compiled, hread, hrest, rfl⟩⟩

/-- Each name holds the expression of its text. -/
theorem get?_compileAll {expressions : OrderedMap Expression}
    (h : compileAll Expression.compile key sources = .ok expressions) (name : String) :
    OrderedMap.get? expressions name = (sources.get? name).bind Expression.read? := by
  induction sources generalizing expressions with
  | nil =>
    cases h
    rfl
  | cons entry rest ih =>
    obtain ⟨first, source⟩ := entry
    obtain ⟨expression, compiled, hread, hrest, rfl⟩ := compileAll_cons_eq_ok_iff.mp h
    rw [OrderedMap.get?, OrderedMap.get?]
    split
    · rw [Option.bind_some, hread]
    · exact ih hrest

end ModuleCache

/-- Where there is no module under its key, what a configuration has in expressions is compiled. -/
theorem compileRules_of_new {modules : ModuleCache Expression} {rules : List Rule}
    {options : MappingOptions} (hnew : modules.get? (moduleKey rules options) = none) :
    (compileRules modules rules options).1 =
      if (expressionSources rules options).isEmpty then .ok none
      else (ModuleCache.compileAll Expression.compile (moduleKey rules options)
        (expressionSources rules options)).map
          fun expressions => some ⟨moduleKey rules options, expressions, modules.compilations⟩ := by
  unfold compileRules
  split
  · rfl
  · unfold ModuleCache.getOrCompile
    rw [hnew]
    cases ModuleCache.compileAll Expression.compile (moduleKey rules options)
      (expressionSources rules options) <;> rfl

end DocumentMapping
