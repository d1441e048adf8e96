import DocumentMapping.Proofs.Expression.Scanning

/-!
# The tokens of a text cover it

The tokens of a text stand behind each other, each in a piece of the text that is read as this token
alone, and between the pieces there are only blanks. Further blanks between the pieces change
nothing but the places of the tokens behind them.
-/

namespace DocumentMapping

namespace Text

@[simp] theorem byteLength_nil : byteLength [] = 0 := rfl

@[simp] theorem byteLength_cons (c : Char) (text : List Char) :
    byteLength (c :: text) = c.utf8Size + byteLength text := by
  simp [byteLength]

@[simp] theorem byteLength_append (first second : List Char) :
    byteLength (first ++ second) = byteLength first + byteLength second := by
  simp [byteLength]

theorem byteLength_pos {text : List Char} (h : text ≠ []) : 0 < byteLength text := by
  obtain ⟨c, rest, rfl⟩ := List.exists_cons_of_ne_nil h
  rw [byteLength_cons]
  exact Nat.add_pos_left c.utf8Size_pos _

/-- A text that is no longer than another one at the same place is the beginning of it. -/
theorem exists_of_append_eq {first rest before after : List Char}
    (h : first ++ rest = before ++ after) (hle : byteLength first ≤ byteLength before) :
    ∃ between, before = first ++ between ∧ rest = between ++ after := by
  obtain ⟨between, hbefore, hrest⟩ | ⟨between, rfl, rfl⟩ := List.append_eq_append_iff.mp h
  · exact ⟨between, hbefore, hrest⟩
  · rw [byteLength_append] at hle
    have hnil : between = [] := by
      by_contra hne
      have hpos := byteLength_pos hne
      omega
    subst hnil
    exact ⟨[], by simp, rfl⟩

end Text

namespace Expression

theorem utf8Size_of_isSpace {c : Char} (h : isSpace c = true) : c.utf8Size = 1 := by
  have hblanks : ∀ c ∈ blanks, c.utf8Size = 1 := forall_mem_of_all (by decide)
  exact hblanks c (isSpace_iff.mp h)

/-- Characters that may all stand between tokens. -/
def AllBlank (text : List Char) : Prop :=
  ∀ c ∈ text, isSpace c = true

/-- The byte offset at which the piece of a token ends. -/
def Lexeme.stop (lexeme : Lexeme) : Nat :=
  lexeme.position + Text.byteLength lexeme.text

/-- A lexeme that has moved by some bytes if it stands at an offset or behind it. -/
def Lexeme.moved (offset distance : Nat) (lexeme : Lexeme) : Lexeme :=
  if lexeme.position < offset then lexeme
  else { lexeme with position := lexeme.position + distance }

/-- An offset is not inside the piece of any of the lexemes. -/
def IsBetween (lexemes : List Lexeme) (offset : Nat) : Prop :=
  ∀ lexeme ∈ lexemes, lexeme.stop ≤ offset ∨ offset ≤ lexeme.position

namespace Lexed

variable {position : Nat} {text : List Char} {lexemes : List Lexeme}

theorem position_le (h : Lexed position text lexemes) :
    ∀ lexeme ∈ lexemes, position ≤ lexeme.position := by
  induction h with
  | nil => nofun
  | blank _ _ ih => exact fun lexeme hmem => Nat.le_of_succ_le (ih lexeme hmem)
  | token _ _ ih =>
    intro lexeme hmem
    obtain rfl | hmem := List.mem_cons.mp hmem
    · exact Nat.le_refl _
    · exact Nat.le_trans (Nat.le_add_right _ _) (ih lexeme hmem)

/-- Every lexeme stands in the text where its offset says, and what follows leaves it as it is. -/
theorem exists_place (h : Lexed position text lexemes) :
    ∀ lexeme ∈ lexemes, ∃ before after, text = before ++ lexeme.text ++ after ∧
      lexeme.position = position + Text.byteLength before ∧
      Reads lexeme.token lexeme.text after := by
  induction h with
  | nil => nofun
  | @blank _ c _ _ hc _ ih =>
    intro lexeme hmem
    obtain ⟨before, after, rfl, hposition, hreads⟩ := ih lexeme hmem
    refine ⟨c :: before, after, rfl, ?_, hreads⟩
    rw [hposition, Text.byteLength_cons, utf8Size_of_isSpace hc]
    omega
  | @token _ _ piece tail _ htoken _ ih =>
    intro lexeme hmem
    obtain rfl | hmem := List.mem_cons.mp hmem
    · exact ⟨[], tail, rfl, rfl, htoken⟩
    · obtain ⟨before, after, rfl, hposition, hreads⟩ := ih lexeme hmem
      refine ⟨piece ++ before, after, by simp, ?_, hreads⟩
      rw [hposition, Text.byteLength_append]
      omega

/-- The pieces of tokens do not overlap. -/
theorem pairwise_stop_le (h : Lexed position text lexemes) :
    lexemes.Pairwise fun first second => first.stop ≤ second.position := by
  induction h with
  | nil => exact .nil
  | blank _ _ ih => exact ih
  | token _ hrest ih => exact .cons hrest.position_le ih

/-- What no token takes up is blank. -/
theorem isSpace_of_outside (h : Lexed position text lexemes) {before after : List Char} {c : Char}
    (htext : text = before ++ c :: after)
    (houtside : ∀ lexeme ∈ lexemes, position + Text.byteLength before < lexeme.position ∨
      lexeme.stop ≤ position + Text.byteLength before) : isSpace c = true := by
  induction h generalizing before with
  | nil => simp at htext
  | @blank position first rest _ hfirst _ ih =>
    cases before with
    | nil =>
      cases htext
      exact hfirst
    | cons other before =>
      rw [List.cons_append, List.cons.injEq] at htext
      obtain ⟨rfl, rfl⟩ := htext
      rw [Text.byteLength_cons, utf8Size_of_isSpace hfirst, ← Nat.add_assoc] at houtside
      exact ih rfl houtside
  | @token position _ piece tail _ htoken hrest ih =>
    have hpiece : Text.byteLength piece ≤ Text.byteLength before := by
      have hfirst := houtside _ List.mem_cons_self
      simp only [Lexeme.stop] at hfirst
      omega
    obtain ⟨between, rfl, hbetween⟩ := Text.exists_of_append_eq htext hpiece
    refine ih hbetween fun lexeme hmem => ?_
    have hlater := houtside lexeme (List.mem_cons_of_mem _ hmem)
    rw [Text.byteLength_append] at hlater
    omega

/-- Lexemes behind an offset all move. -/
theorem map_moved_cons {offset distance : Nat} (first : Lexeme) (hfirst : offset ≤ first.position) :
    (first :: lexemes).map (Lexeme.moved offset distance) =
      { first with position := first.position + distance } ::
        lexemes.map (Lexeme.moved offset distance) := by
  rw [List.map_cons, Lexeme.moved, if_neg (Nat.not_lt.mpr hfirst)]

/-- A text that stands further behind has its tokens further behind. -/
theorem move {offset distance : Nat} (h : Lexed position text lexemes) (hle : offset ≤ position) :
    Lexed (position + distance) text (lexemes.map (Lexeme.moved offset distance)) := by
  induction h with
  | nil => exact .nil _
  | blank hc _ ih =>
    refine .blank hc ?_
    rw [Nat.add_right_comm]
    exact ih (Nat.le_succ_of_le hle)
  | token htoken _ ih =>
    rw [map_moved_cons _ hle]
    refine .token htoken ?_
    rw [Nat.add_right_comm]
    exact ih (Nat.le_add_right_of_le hle)

theorem blanks_append {spaces : List Char} (hspaces : AllBlank spaces)
    (h : Lexed (position + spaces.length) text lexemes) :
    Lexed position (spaces ++ text) lexemes := by
  induction spaces generalizing position with
  | nil => exact h
  | cons c rest ih =>
    refine .blank (hspaces c List.mem_cons_self) (ih (fun c hc => hspaces c (.tail _ hc)) ?_)
    rwa [List.length_cons, ← Nat.add_assoc, Nat.add_right_comm] at h

theorem insert_front (h : Lexed position text lexemes) {spaces : List Char}
    (hspaces : AllBlank spaces) :
    Lexed position (spaces ++ text) (lexemes.map (Lexeme.moved position spaces.length)) :=
  blanks_append hspaces (h.move (Nat.le_refl position))

/-- Blanks between the tokens of a text move the tokens behind them. -/
theorem insert (h : Lexed position text lexemes) {before after spaces : List Char}
    (htext : text = before ++ after) (hspaces : AllBlank spaces)
    (hbetween : IsBetween lexemes (position + Text.byteLength before)) :
    Lexed position (before ++ (spaces ++ after))
      (lexemes.map (Lexeme.moved (position + Text.byteLength before) spaces.length)) := by
  induction h generalizing before with
  | nil position =>
    obtain ⟨rfl, rfl⟩ := List.append_eq_nil_iff.mp htext.symm
    exact insert_front (.nil position) hspaces
  | @blank position c rest _ hc hrest ih =>
    cases before with
    | nil =>
      subst htext
      exact insert_front (.blank hc hrest) hspaces
    | cons first before =>
      rw [List.cons_append, List.cons.injEq] at htext
      obtain ⟨rfl, rfl⟩ := htext
      rw [Text.byteLength_cons, utf8Size_of_isSpace hc, ← Nat.add_assoc] at hbetween ⊢
      exact .blank hc (ih rfl hbetween)
  | @token position token piece tail _ htoken hrest ih =>
    cases before with
    | nil =>
      rw [List.nil_append] at htext
      rw [← htext]
      exact insert_front (.token htoken hrest) hspaces
    | cons first more =>
      have hpos := first.utf8Size_pos
      -- the place is behind the first token, as it is not at its start
      have hbehind : Text.byteLength piece ≤ Text.byteLength (first :: more) := by
        have hfirst := hbetween _ List.mem_cons_self
        simp only [Lexeme.stop, Text.byteLength_cons] at hfirst ⊢
        omega
      obtain ⟨between, heq, rfl⟩ := Text.exists_of_append_eq htext hbehind
      rw [heq, Text.byteLength_append, ← Nat.add_assoc] at hbetween ⊢
      have hlater := ih rfl fun lexeme hmem => hbetween lexeme (.tail _ hmem)
      have hkept : Reads token piece (between ++ (spaces ++ after)) := by
        cases spaces with
        | nil => exact htoken
        | cons c rest =>
          refine htoken.of_breaks fun c hc => ?_
          cases hc
          exact hspaces c List.mem_cons_self
      obtain ⟨_, _, hpiece, -⟩ := htoken.exists_cons
      have hstart : position < position + Text.byteLength piece + Text.byteLength between := by
        have hne : 0 < Text.byteLength piece := Text.byteLength_pos (by simp [hpiece])
        omega
      rw [List.map_cons, Lexeme.moved, if_pos hstart, List.append_assoc]
      exact .token hkept hlater

end Lexed

/-- Lexemes cover a text: they are the pieces of the text between its blanks. -/
structure Covers (text : List Char) (lexemes : List Lexeme) : Prop where
  increasing : lexemes.Pairwise fun first second => first.position < second.position
  /-- A lexeme stands where its offset says, which is a boundary of characters. -/
  placed : ∀ lexeme ∈ lexemes, ∃ before after,
    text = before ++ lexeme.text ++ after ∧ lexeme.position = Text.byteLength before
  nonempty : ∀ lexeme ∈ lexemes, lexeme.text ≠ []
  disjoint : lexemes.Pairwise fun first second => first.stop ≤ second.position
  blankOutside : ∀ before c after, text = before ++ c :: after →
    (∀ lexeme ∈ lexemes, Text.byteLength before < lexeme.position ∨
      lexeme.stop ≤ Text.byteLength before) → isSpace c = true
  alone : ∀ lexeme ∈ lexemes, tokens lexeme.text = .ok [⟨lexeme.token, lexeme.text, 0⟩]
  /-- Blanks in front, behind or between tokens only move the tokens behind them. -/
  spaced : ∀ before after spaces, text = before ++ after → AllBlank spaces →
    IsBetween lexemes (Text.byteLength before) →
    tokens (before ++ (spaces ++ after)) =
      .ok (lexemes.map (Lexeme.moved (Text.byteLength before) spaces.length))

/-- A piece alone is the token that was read from it. -/
theorem Reads.tokens_eq {token : Token} {piece tail : List Char} (h : Reads token piece tail) :
    tokens piece = .ok [⟨token, piece, 0⟩] := by
  have halone : Reads token piece ([] ++ []) := Reads.of_breaks h breaks_nil
  have hlexed : Lexed 0 (piece ++ []) [⟨token, piece, 0⟩] := .token halone (.nil _)
  rw [List.append_nil] at hlexed
  exact tokensFrom_eq_ok_iff.mpr hlexed

/-- The tokens of a text cover it. -/
theorem covers_of_tokens {text : List Char} {lexemes : List Lexeme}
    (h : tokens text = .ok lexemes) : Covers text lexemes := by
  have hlexed : Lexed 0 text lexemes := tokensFrom_eq_ok_iff.mp h
  have hplaced := hlexed.exists_place
  have hnonempty : ∀ lexeme ∈ lexemes, lexeme.text ≠ [] := fun lexeme hmem => by
    obtain ⟨_, _, _, _, hreads⟩ := hplaced lexeme hmem
    obtain ⟨_, _, hpiece, -⟩ := hreads.exists_cons
    simp [hpiece]
  have hdisjoint := hlexed.pairwise_stop_le
  exact {
    increasing := hdisjoint.imp_of_mem fun {first second} hfirst _ hstop => by
      have hpos := Text.byteLength_pos (hnonempty first hfirst)
      rw [Lexeme.stop] at hstop
      omega
    placed := fun lexeme hmem => by
      obtain ⟨before, after, htext, hposition, -⟩ := hplaced lexeme hmem
      exact ⟨before, after, htext, by omega⟩
    nonempty := hnonempty
    disjoint := hdisjoint
    blankOutside := fun before c after htext houtside =>
      hlexed.isSpace_of_outside htext (by simpa using houtside)
    alone := fun lexeme hmem => by
      obtain ⟨_, _, _, _, hreads⟩ := hplaced lexeme hmem
      exact hreads.tokens_eq
    spaced := fun before after spaces htext hspaces hbetween => by
      have hinserted := hlexed.insert htext hspaces (by simpa using hbetween)
      rw [Nat.zero_add] at hinserted
      exact tokensFrom_eq_ok_iff.mpr hinserted }

end Expression

end DocumentMapping
