import DocumentMapping.Proofs.Number.Digits
import DocumentMapping.Proofs.Number.Hexadecimal
import DocumentMapping.Uri.Basic

/-!
# The canonical text of an address is ASCII

Every part of a written address is encoded into ASCII: what is beyond it becomes bytes behind
percent signs, and in a domain name the letters and digits of its mark. So white space beyond ASCII
never stands at the end of a canonical text, and trimming changes nothing for the reader.
-/

namespace DocumentMapping.Uri

/-- A text of ASCII characters. -/
def AllAscii (text : List Char) : Prop :=
  ∀ c ∈ text, c.toNat < 128

namespace AllAscii

variable {text rest : List Char}

theorem nil : AllAscii [] :=
  List.forall_mem_nil _

theorem cons {c : Char} (hc : c.toNat < 128) (h : AllAscii text) : AllAscii (c :: text) :=
  List.forall_mem_cons.mpr ⟨hc, h⟩

theorem append (h : AllAscii text) (hrest : AllAscii rest) : AllAscii (text ++ rest) :=
  List.forall_mem_append.mpr ⟨h, hrest⟩

theorem flatMap {α : Type} {items : List α} {f : α → List Char}
    (h : ∀ item ∈ items, AllAscii (f item)) : AllAscii (items.flatMap f) := by
  intro c hc
  obtain ⟨item, hitem, hmem⟩ := List.mem_flatMap.mp hc
  exact h item hitem c hmem

theorem of_visible (h : Text.AllVisible text) : AllAscii text :=
  fun c hc => Nat.lt_of_le_of_lt (h c hc).2 (by decide)

theorem ite {p : Prop} [Decidable p] (h : AllAscii text) (hrest : AllAscii rest) :
    AllAscii (if p then text else rest) := by
  split
  · exact h
  · exact hrest

end AllAscii

/-! ## Digits -/

theorem allAscii_digitChars (n : Nat) : AllAscii (digitChars n) :=
  .of_visible (.of_digits fun _ hc => isDigit_of_mem_digitChars hc)

theorem allAscii_toDigits (n : Nat) : AllAscii (Nat.toDigits 16 n) :=
  .of_visible fun c hc => ((toDigits_sixteen n).1 c hc).isVisible

/-! ## Encoded parts -/

theorem allAscii_percentByte (byte : UInt8) : AllAscii (percentByte byte) := by
  have hall : ∀ digit : Fin 16, (Nat.digitChar digit).toUpper.toNat < 128 := by decide
  have hdigit {digit : Nat} (h : digit < 16) : (hexDigit digit).toUpper.toNat < 128 := by
    rw [hexDigit_eq h]
    exact hall ⟨digit, h⟩
  have hbyte := byte.toNat_lt
  exact .cons (by decide) (.cons (hdigit (by omega)) (.cons (hdigit (by omega)) .nil))

/-- A part is ASCII when it encodes what is beyond ASCII. -/
theorem allAscii_percentEncode {mustEncode : Char → Bool}
    (h : ∀ c, isControl c = true → mustEncode c = true) (text : List Char) :
    AllAscii (percentEncode mustEncode text) := by
  refine .flatMap fun c _ => ?_
  split
  · exact .flatMap fun byte _ => allAscii_percentByte byte
  · rename_i hkept
    refine .cons ?_ .nil
    have hcontrol : isControl c = false := by
      rw [← Bool.not_eq_true]
      exact fun hcontrol => hkept (h c hcontrol)
    simp only [isControl, Bool.or_eq_false_iff, decide_eq_false_iff_not] at hcontrol
    omega

theorem inFragmentSet_of_isControl (c : Char) (h : isControl c = true) :
    inFragmentSet c = true := by
  rw [inFragmentSet, h, Bool.true_or]

theorem inQuerySet_of_isControl (special : Bool) (c : Char) (h : isControl c = true) :
    inQuerySet special c = true := by
  rw [inQuerySet, h, Bool.true_or, Bool.true_or]

theorem inPathSet_of_isControl (c : Char) (h : isControl c = true) : inPathSet c = true := by
  rw [inPathSet, inFragmentSet_of_isControl c h, Bool.true_or]

theorem inUserSet_of_isControl (c : Char) (h : isControl c = true) : inUserSet c = true := by
  rw [inUserSet, inPathSet_of_isControl c h, Bool.true_or]

theorem allAscii_tailChars (special : Bool) (text : List Char) :
    AllAscii (tailChars special text) := by
  have hquery := allAscii_percentEncode (inQuerySet_of_isControl special)
    ((text.takeWhile (· ≠ '#')).drop 1)
  have hfragment := allAscii_percentEncode inFragmentSet_of_isControl
    ((text.dropWhile (· ≠ '#')).drop 1)
  unfold tailChars
  dsimp only
  refine .append ?_ (.ite .nil (.cons (by decide) hfragment))
  split
  · exact .nil
  · exact .cons (by decide) hquery

theorem allAscii_userChars (text : List Char) : AllAscii (userChars text) := by
  have hname := allAscii_percentEncode inUserSet_of_isControl (text.takeWhile (· ≠ ':'))
  have hpassword := allAscii_percentEncode inUserSet_of_isControl
    ((text.dropWhile (· ≠ ':')).drop 1)
  exact .ite .nil
    (.append (.append hname (.ite .nil (.cons (by decide) hpassword))) (.cons (by decide) .nil))

/-! ## Schemes -/

theorem toNat_lt_of_isAlpha {c : Char} (h : c.isAlpha = true) : c.toNat < 128 := by
  have hletter : (decide (c.val ≥ 'A'.val ∧ c.val ≤ 'Z'.val) ||
      decide (c.val ≥ 'a'.val) && decide (c.val ≤ 'z'.val)) = true := h
  simp only [Bool.or_eq_true, Bool.and_eq_true, decide_eq_true_eq] at hletter
  obtain ⟨-, hupper⟩ | ⟨-, hupper⟩ := hletter
  · exact Nat.lt_of_le_of_lt (UInt32.le_iff_toNat_le.mp hupper) (by decide)
  · exact Nat.lt_of_le_of_lt (UInt32.le_iff_toNat_le.mp hupper) (by decide)

theorem toNat_toLower_lt {c : Char} (h : c.toNat < 128) : c.toLower.toNat < 128 := by
  have hall : ∀ n : Fin 128, (Char.ofNat n).toLower.toNat < 128 := by decide
  have hc := hall ⟨c.toNat, h⟩
  rwa [Char.ofNat_toNat] at hc

theorem allAscii_scheme {text scheme rest : List Char} (h : scheme? text = some (scheme, rest)) :
    AllAscii scheme := by
  unfold scheme? at h
  dsimp only at h
  split at h
  · split at h
    · cases h
      intro c hc
      obtain ⟨letter, hletter, rfl⟩ := List.mem_map.mp hc
      have hkind := List.mem_takeWhile_imp hletter
      refine toNat_toLower_lt ?_
      simp only [Char.isAlphanum, Bool.or_eq_true, decide_eq_true_eq] at hkind
      obtain (((halpha | hdigit) | rfl) | rfl) | rfl := hkind
      · exact toNat_lt_of_isAlpha halpha
      · exact Nat.lt_of_le_of_lt (Text.isVisible_of_isDigit hdigit).2 (by decide)
      · decide
      · decide
      · decide
    · cases h
  · cases h

/-! ## Hosts -/

theorem allAscii_pieceChars (pieces : List Nat) : AllAscii (pieceChars pieces) := by
  fun_induction pieceChars pieces with
  | case1 => exact .nil
  | case2 piece => exact allAscii_toDigits piece
  | case3 piece rest _ ih => exact (allAscii_toDigits piece).append (.cons (by decide) ih)

theorem allAscii_ipv6Chars (pieces : List Nat) : AllAscii (ipv6Chars pieces) := by
  unfold ipv6Chars
  dsimp only
  split
  · exact (AllAscii.cons (by decide) (allAscii_pieceChars _)).append (.cons (by decide) .nil)
  · exact (AllAscii.cons (by decide) ((allAscii_pieceChars _).append
      (.cons (by decide) (.cons (by decide) (allAscii_pieceChars _))))).append
      (.cons (by decide) .nil)

theorem allAscii_ipv4Chars (address : Nat) : AllAscii (ipv4Chars address) :=
  (((allAscii_digitChars _).append (.cons (by decide) (allAscii_digitChars _))).append
    (.cons (by decide) (allAscii_digitChars _))).append (.cons (by decide) (allAscii_digitChars _))

namespace Punycode

theorem toNat_digitChar_lt {n : Nat} (h : n < 36) : (digitChar n).toNat < 128 := by
  have hall : ∀ n : Fin 36, (digitChar n).toNat < 128 := by decide
  exact hall ⟨n, h⟩

theorem threshold_le (bias position : Nat) : threshold bias position ≤ 26 := by
  unfold threshold
  split
  · decide
  · split <;> omega

theorem allAscii_stepDigits (bias position steps : Nat) :
    AllAscii (stepDigits bias position steps) := by
  fun_induction stepDigits bias position steps with
  | case1 position steps least hlast =>
    have hleast : least ≤ 26 := threshold_le bias position
    exact .cons (toNat_digitChar_lt (by omega)) .nil
  | case2 position steps least hmore ih =>
    have hleast : least ≤ 26 := threshold_le bias position
    have hmod : (steps - least) % (36 - least) < 36 - least := Nat.mod_lt _ (by omega)
    exact .cons (toNat_digitChar_lt (by omega)) ih

theorem allAscii_pass {state : Writing} (codePoint basicCount : Nat) (c : Char)
    (h : AllAscii state.text) : AllAscii (state.pass codePoint basicCount c).text := by
  unfold Writing.pass
  split
  · exact h
  split
  · exact h.append (allAscii_stepDigits _ _ _)
  · exact h

theorem allAscii_passAll (label : List Char) (basicCount : Nat) {least : Nat}
    {codePoints : List Nat} {state : Writing} (h : AllAscii state.text) :
    AllAscii (Writing.passAll label basicCount least codePoints state).text := by
  have hpasses (codePoint : Nat) {passed : Writing} (places : List Char)
      (h : AllAscii passed.text) :
      AllAscii (places.foldl (Writing.pass codePoint basicCount) passed).text := by
    induction places generalizing passed with
    | nil => exact h
    | cons c places ih => exact ih (allAscii_pass codePoint basicCount c h)
  induction codePoints generalizing least state with
  | nil => exact h
  | cons codePoint rest ih => exact ih (hpasses codePoint label h)

theorem allAscii_encode (label : List Char) : AllAscii (encode label) := by
  have hbasic : AllAscii (label.filter (·.toNat < 128)) := fun c hc => by
    simpa using (List.mem_filter.mp hc).2
  exact allAscii_passAll label _ (.ite .nil (hbasic.append (.cons (by decide) .nil)))

end Punycode

theorem allAscii_asciiLabel (label : List Char) : AllAscii (asciiLabel label) := by
  unfold asciiLabel
  split
  · rename_i hall
    simpa [AllAscii] using hall
  · have hmark : AllAscii encodedMark := by simp [AllAscii, encodedMark]
    exact hmark.append (Punycode.allAscii_encode label)

theorem allAscii_intercalate {parts : List (List Char)} (h : ∀ part ∈ parts, AllAscii part) :
    AllAscii (['.'].intercalate parts) := by
  induction parts with
  | nil => exact .nil
  | cons part parts ih =>
    obtain ⟨hpart, hparts⟩ := List.forall_mem_cons.mp h
    cases parts with
    | nil => simpa using hpart
    | cons next parts =>
      rw [List.intercalate_cons_cons]
      exact (hpart.append (.cons (by decide) .nil)).append (ih hparts)

theorem allAscii_domain {name ascii : List Char} (h : domain? name = some ascii) :
    AllAscii ascii := by
  obtain ⟨usual, -, h⟩ := Option.bind_eq_some_iff.mp h
  obtain ⟨labels, -, h⟩ := Option.bind_eq_some_iff.mp h
  dsimp only at h
  split at h
  · cases h
    refine allAscii_intercalate fun part hpart => ?_
    obtain ⟨label, -, rfl⟩ := List.mem_map.mp hpart
    exact allAscii_asciiLabel label
  · cases h

/-- A numeric host in brackets. -/
theorem allAscii_bracketedHost {inner host : List Char}
    (h : (if inner.getLast? = some ']' then (ipv6? inner.dropLast).map ipv6Chars else none) =
      some host) : AllAscii host := by
  split at h
  · obtain ⟨pieces, -, rfl⟩ := Option.map_eq_some_iff.mp h
    exact allAscii_ipv6Chars pieces
  · cases h

theorem allAscii_specialHost {text host : List Char} (h : specialHost? text = some host) :
    AllAscii host := by
  unfold specialHost? at h
  split at h
  · exact allAscii_bracketedHost h
  · obtain ⟨decoded, -, h⟩ := Option.bind_eq_some_iff.mp h
    obtain ⟨name, hname, h⟩ := Option.bind_eq_some_iff.mp h
    split at h
    · obtain ⟨address, -, rfl⟩ := Option.map_eq_some_iff.mp h
      exact allAscii_ipv4Chars address
    · cases h
      exact allAscii_domain hname

theorem allAscii_opaqueHost {text host : List Char} (h : opaqueHost? text = some host) :
    AllAscii host := by
  unfold opaqueHost? at h
  split at h
  · exact allAscii_bracketedHost h
  · split at h
    · cases h
    · cases h
      exact allAscii_percentEncode (fun _ hc => hc) text

/-! ## Paths -/

theorem allAscii_percentEncode_path (text : List Char) :
    AllAscii (percentEncode inPathSet text) :=
  allAscii_percentEncode inPathSet_of_isControl text

/-- A drive is named by a letter. -/
theorem allAscii_take_drive {segment : List Char} (h : isDrive segment = true) :
    AllAscii (segment.take 1) := by
  unfold isDrive at h
  split at h
  · rw [Bool.and_eq_true] at h
    exact .cons (toNat_lt_of_isAlpha h.1) .nil
  · cases h

/-- Resolved segments are encoded, or stand for drives. -/
theorem allAscii_resolveSegments {file : Bool} {done rest : List (List Char)}
    (h : ∀ segment ∈ done, AllAscii segment) :
    ∀ segment ∈ resolveSegments file done rest, AllAscii segment := by
  have hparent {segments : List (List Char)} (h : ∀ segment ∈ segments, AllAscii segment) :
      ∀ segment ∈ parentOf segments, AllAscii segment := by
    unfold parentOf
    split
    · exact h
    · exact fun segment hsegment => h segment (List.dropLast_subset _ hsegment)
  have hlast {segments : List (List Char)} (h : ∀ segment ∈ segments, AllAscii segment)
      (isLast : Bool) :
      ∀ segment ∈ segments ++ (if isLast then [[]] else []), AllAscii segment := by
    refine List.forall_mem_append.mpr ⟨h, ?_⟩
    split
    · exact List.forall_mem_singleton.mpr .nil
    · exact List.forall_mem_nil _
  induction rest generalizing done with
  | nil => exact h
  | cons segment rest ih =>
    rw [resolveSegments]
    split
    · exact ih (hlast (hparent h) _)
    split
    · exact ih (hlast h _)
    split
    · rename_i hdrive
      rw [Bool.and_eq_true] at hdrive
      exact ih (List.forall_mem_singleton.mpr
        ((allAscii_take_drive hdrive.2).append (.cons (by decide) .nil)))
    · exact ih (List.forall_mem_append.mpr
        ⟨h, List.forall_mem_singleton.mpr (allAscii_percentEncode_path segment)⟩)

theorem allAscii_joinSegments {segments : List (List Char)}
    (h : ∀ segment ∈ segments, AllAscii segment) : AllAscii (joinSegments segments) :=
  .flatMap fun segment hsegment => .cons (by decide) (h segment hsegment)

theorem allAscii_pathAfterHost (special : Bool) (path : List Char) :
    AllAscii (pathAfterHost special path) :=
  .ite .nil (allAscii_joinSegments (allAscii_resolveSegments (List.forall_mem_nil _)))

/-! ## Addresses -/

theorem allAscii_readUser {special : Bool} {text user rest : List Char}
    (h : readUser? special text = some (user, rest)) : AllAscii user := by
  unfold readUser? at h
  dsimp only at h
  split at h
  · cases h
    exact .nil
  split at h
  · cases h
  · cases h
    exact allAscii_userChars _

theorem allAscii_readNumber {usual : Option Nat} {text number rest : List Char}
    (h : readNumber? usual text = some (number, rest)) : AllAscii number := by
  unfold readNumber? at h
  split at h
  · dsimp only at h
    split at h
    · cases h
    split at h
    · cases h
      exact .nil
    · cases h
      exact .cons (by decide) (allAscii_digitChars _)
  · cases h
    exact .nil

theorem allAscii_authorityHost {special : Bool} {user hostText rest host : List Char}
    (h : authorityHost? special user hostText rest = some host) : AllAscii host := by
  unfold authorityHost? at h
  split at h
  · split at h
    · cases h
    · cases h
      exact .nil
  split at h
  · exact allAscii_specialHost h
  · exact allAscii_opaqueHost h

theorem allAscii_withAuthority {scheme text chars : List Char} (hscheme : AllAscii scheme)
    (h : withAuthority? scheme text = some chars) : AllAscii chars := by
  obtain ⟨⟨user, rest⟩, huser, h⟩ := Option.bind_eq_some_iff.mp h
  obtain ⟨host, hhost, h⟩ := Option.bind_eq_some_iff.mp h
  obtain ⟨⟨number, rest⟩, hnumber, h⟩ := Option.bind_eq_some_iff.mp h
  cases h
  have hslashes : AllAscii [':', '/', '/'] := by simp [AllAscii]
  exact (((((hscheme.append hslashes).append (allAscii_readUser huser)).append
    (allAscii_authorityHost hhost)).append (allAscii_readNumber hnumber)).append
    (allAscii_pathAfterHost _ _)).append (allAscii_tailChars _ _)

theorem allAscii_fileHost {text host rest : List Char} (h : fileHost? text = some (host, rest)) :
    AllAscii host := by
  unfold fileHost? at h
  dsimp only at h
  split at h
  · split at h
    · split at h
      · cases h
        exact .nil
      split at h
      · cases h
        exact .nil
      · obtain ⟨written, hwritten, hpair⟩ := Option.map_eq_some_iff.mp h
        split at hpair
        · cases hpair
          exact .nil
        · cases hpair
          exact allAscii_specialHost hwritten
    · cases h
      exact .nil
  · cases h
    exact .nil

theorem allAscii_file {text chars : List Char} (h : file? text = some chars) :
    AllAscii chars := by
  obtain ⟨⟨host, rest⟩, hhost, h⟩ := Option.bind_eq_some_iff.mp h
  cases h
  have hscheme : AllAscii "file://".toList := by simp [AllAscii]
  have hsegments : ∀ segment ∈ resolveSegments true [] (segmentsOf true (splitPath rest).1),
      AllAscii segment :=
    allAscii_resolveSegments (List.forall_mem_nil _)
  refine ((hscheme.append (.ite .nil (allAscii_fileHost hhost))).append
    (allAscii_joinSegments ?_)).append (allAscii_tailChars _ _)
  split
  · exact List.forall_mem_singleton.mpr .nil
  · exact fun segment hsegment => hsegments segment
      ((List.dropWhile_sublist _).subset hsegment)

theorem allAscii_withoutAuthority {scheme : List Char} (hscheme : AllAscii scheme)
    (text : List Char) : AllAscii (withoutAuthority scheme text) := by
  unfold withoutAuthority
  dsimp only
  refine (hscheme.append (.cons (by decide) ?_)).append (allAscii_tailChars _ _)
  split
  · have hjoined {inner : List Char} :
        AllAscii (joinSegments (resolveSegments false [] (segmentsOf false inner))) :=
      allAscii_joinSegments (allAscii_resolveSegments (List.forall_mem_nil _))
    exact .ite (.cons (by decide) (.cons (by decide) hjoined)) hjoined
  · exact allAscii_percentEncode (fun _ hc => hc) _

/-- The canonical text of an address is ASCII. -/
theorem allAscii_canonical {text chars : List Char} (h : canonical? text = some chars) :
    AllAscii chars := by
  obtain ⟨⟨scheme, rest⟩, hscheme, h⟩ := Option.bind_eq_some_iff.mp h
  have hascii := allAscii_scheme hscheme
  dsimp only at h
  split at h
  · exact allAscii_file h
  split at h
  · exact allAscii_withAuthority hascii h
  split at h
  · exact allAscii_withAuthority hascii h
  · cases h
    exact allAscii_withoutAuthority hascii _

/-! ## Trimming -/

/-- Controls and blanks at the ends of an address are passed over. -/
theorem cleaned_append {before after : List Char} (hbefore : ∀ c ∈ before, c.toNat ≤ 0x20)
    (hafter : ∀ c ∈ after, c.toNat ≤ 0x20) (text : List Char) :
    cleaned (before ++ text ++ after) = cleaned text := by
  have hstart : ∀ c ∈ before, decide (c.toNat ≤ 0x20) = true := fun c hc =>
    decide_eq_true (hbefore c hc)
  have hend : ∀ c ∈ after.reverse, decide (c.toNat ≤ 0x20) = true := fun c hc =>
    decide_eq_true (hafter c (List.mem_reverse.mp hc))
  have hnone : after.dropWhile (fun c => decide (c.toNat ≤ 0x20)) = [] :=
    List.dropWhile_eq_nil_iff.mpr fun c hc => decide_eq_true (hafter c hc)
  simp only [cleaned, List.append_assoc, List.dropWhile_append_of_pos hstart]
  rw [List.dropWhile_append]
  split
  · rename_i hempty
    rw [hnone, List.isEmpty_iff.mp hempty]
  · rw [List.reverse_append, List.dropWhile_append_of_pos hend]

/-- White space in ASCII is passed over by the reader of addresses. -/
theorem toNat_le_of_isBlank {c : Char} (hblank : Text.isBlank c = true) (hascii : c.toNat < 128) :
    c.toNat ≤ 0x20 := by
  by_contra hlarge
  have hlarge : 0x21 ≤ c.toNat := by omega
  by_cases hvisible : c.toNat ≤ 0x7e
  · have hnot := Text.IsVisible.isBlank_eq_false ⟨hlarge, hvisible⟩
    rw [hblank] at hnot
    cases hnot
  · have hdelete : c = '\x7f' := Char.toNat_inj.mp (show c.toNat = 0x7f by omega)
    have hnot : Text.isBlank '\x7f' = false := by decide +kernel
    rw [hdelete, hnot] at hblank
    cases hblank

/-- An address in ASCII is read the same when it is trimmed. -/
theorem read?_trimChars {text : List Char} (h : AllAscii text) :
    read? (Text.trimChars text) = read? text := by
  obtain ⟨before, after, htext, hbefore, hafter⟩ := Text.exists_append_trimChars text
  have hmem {c : Char} (hc : c ∈ before ∨ c ∈ after) : c ∈ text := by
    rw [htext, List.append_assoc, List.mem_append, List.mem_append]
    exact hc.imp_right .inr
  have hcleaned : cleaned (before ++ Text.trimChars text ++ after) =
      cleaned (Text.trimChars text) := by
    refine cleaned_append (fun c hc => ?_) (fun c hc => ?_) _
    · exact toNat_le_of_isBlank (hbefore c hc) (h c (hmem (.inl hc)))
    · exact toNat_le_of_isBlank (hafter c hc) (h c (hmem (.inr hc)))
  rw [← htext] at hcleaned
  rw [read?, read?, canonical?, canonical?, hcleaned]

/-- The text of an address that has been read is ASCII. -/
theorem allAscii_text {text : List Char} {uri : Uri} (h : read? text = some uri) :
    AllAscii uri.text.toList := by
  obtain ⟨chars, hchars, rfl⟩ := Option.map_eq_some_iff.mp h
  rw [String.toList_ofList]
  exact allAscii_canonical hchars

end DocumentMapping.Uri
