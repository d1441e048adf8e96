import DocumentMapping.Number.Power

/-!
# Punycode

A label with characters beyond ASCII is written in ASCII: its ASCII characters come first, then a
hyphen, and then where the other characters go. These are put in by increasing code points. A number
says how many steps lie between one and the next, when a step goes to the next place of the label
and, from its end, to the next code point. The digits of the numbers count from `a` to `z` and from
`0` to `9`, and their range varies with the place of the digit and with the numbers before.
-/

namespace DocumentMapping.Uri.Punycode

/-- A digit: the letters come first. -/
def digitChar (n : Nat) : Char :=
  if n < 26 then Char.ofNat (n + 97) else Char.ofNat (n + 22)

/-- The value of a digit. -/
def digitValue? (c : Char) : Option Nat :=
  if 'a' ≤ c ∧ c ≤ 'z' then some (c.toNat - 97)
  else if c.isDigit then some (c.toNat - 22)
  else none

/-- The least digit that is not the last one of its number. -/
def threshold (bias position : Nat) : Nat :=
  if position ≤ bias then 1 else if bias + 26 ≤ position then 26 else position - bias

theorem threshold_pos (bias position : Nat) : 0 < threshold bias position := by
  unfold threshold
  split
  · decide
  · split <;> omega

/-- The bias of a number of steps that has been scaled down. -/
def biasOf (steps : Nat) : Nat :=
  if 455 < steps then 36 + biasOf (steps / 35) else 36 * steps / (steps + 38)
termination_by steps
decreasing_by omega

/-- The bias after a number of steps, when the label has grown to `count` characters. -/
def nextBias (steps count : Nat) (first : Bool) : Nat :=
  let scaled := if first then steps / 700 else steps / 2
  biasOf (scaled + scaled / count)

/-! ## Writing -/

/-- The digits of a number of steps. -/
def stepDigits (bias position steps : Nat) : List Char :=
  let least := threshold bias position
  if steps < least then [digitChar steps]
  else
    digitChar (least + (steps - least) % (36 - least)) ::
      stepDigits bias (position + 36) ((steps - least) / (36 - least))
termination_by steps
decreasing_by
  have hleast := threshold_pos bias position
  exact Nat.lt_of_le_of_lt (Nat.div_le_self _ _) (by omega)

/-- A label that is being written: the text so far, the steps since the last character that was put
in, the bias, and the number of characters so far. -/
structure Writing where
  text : List Char
  steps : Nat
  bias : Nat
  count : Nat

/-- Passes a place of the label while the characters with one code point are put in. -/
def Writing.pass (codePoint basicCount : Nat) (state : Writing) (c : Char) : Writing :=
  if c.toNat < codePoint then { state with steps := state.steps + 1 }
  else if c.toNat = codePoint then
    { text := state.text ++ stepDigits state.bias 36 state.steps
      steps := 0
      bias := nextBias state.steps (state.count + 1) (state.count = basicCount)
      count := state.count + 1 }
  else state

/-- Puts in the characters with the given code points, which increase from `least` on. -/
def Writing.passAll (label : List Char) (basicCount : Nat) :
    Nat → List Nat → Writing → Writing
  | _, [], state => state
  | least, codePoint :: rest, state =>
    let skipped := (codePoint - least) * (state.count + 1)
    let after := label.foldl (Writing.pass codePoint basicCount)
      { state with steps := state.steps + skipped }
    passAll label basicCount (codePoint + 1) rest { after with steps := after.steps + 1 }

/-- The written form of a label. -/
def encode (label : List Char) : List Char :=
  let basic := label.filter (·.toNat < 128)
  let others := ((label.map Char.toNat).filter (128 ≤ ·)).mergeSort.eraseDups
  let start := if basic.isEmpty then [] else basic ++ ['-']
  (Writing.passAll label basic.length 128 others ⟨start, 0, 72, basic.length⟩).text

/-! ## Reading -/

/-- Reads a number of steps. A digit that counts for more than a word of 32 bits is refused. -/
def readSteps? (bias : Nat) : Nat → Nat → List Char → Option (Nat × List Char)
  | _, _, [] => none
  | position, weight, c :: rest =>
    match digitValue? c with
    | none => none
    | some digit =>
      let least := threshold bias position
      if digit < least then some (digit * weight, rest)
      else if 2 ^ 32 ≤ weight * (36 - least) then none
      else
        (readSteps? bias (position + 36) (weight * (36 - least)) rest).map
          fun (more, rest) => (digit * weight + more, rest)

/-- A number of steps takes up at least one character. -/
theorem length_lt_of_readSteps? {bias : Nat} {text : List Char} {position weight : Nat}
    {result : Nat × List Char} (h : readSteps? bias position weight text = some result) :
    result.2.length < text.length := by
  induction text generalizing position weight result with
  | nil => simp [readSteps?] at h
  | cons c rest ih =>
    unfold readSteps? at h
    split at h
    · simp at h
    · dsimp only at h
      split at h
      · simp only [Option.some.injEq] at h
        simp [← h]
      · split at h
        · simp at h
        · obtain ⟨inner, hinner, rfl⟩ := Option.map_eq_some_iff.mp h
          have := ih hinner
          simp only [List.length_cons]
          omega

/-- Puts in the characters that are left to read. -/
def insertAll? (bias codePoint place : Nat) (label text : List Char) : Option (List Char) :=
  if text.isEmpty then some label
  else
    match h : readSteps? bias 36 1 text with
    | none => none
    | some (steps, rest) =>
      let count := label.length + 1
      let codePoint := codePoint + (place + steps) / count
      let spot := (place + steps) % count
      if codePoint.isValidChar then
        insertAll? (nextBias steps count (place = 0)) codePoint (spot + 1)
          (label.insertIdx spot (Char.ofNat codePoint)) rest
      else none
termination_by text.length
decreasing_by exact length_lt_of_readSteps? h

/-- The label of a written form. -/
def decode? (text : List Char) : Option (List Char) :=
  let numbers := (text.reverse.takeWhile (· ≠ '-')).reverse
  let basic := text.take (text.length - numbers.length - 1)
  if text.any (128 ≤ ·.toNat) then none
  else if basic.isEmpty then insertAll? 72 128 0 [] text
  else insertAll? 72 128 0 basic numbers

end DocumentMapping.Uri.Punycode
