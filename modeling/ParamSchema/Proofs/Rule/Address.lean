import ParamSchema.Proofs.Pattern
import ParamSchema.Rule.Builtin

/-!
Addresses. `IsAddress` says what an address is by cutting it at its at sign and its host at every
point, with no pattern; the rule `isEmail` accepts the strings that are addresses and nothing else
(`isEmail_iff`).
-/

namespace ParamSchema

namespace Rule

open Pattern

variable {text label inner before word after : List Char} {c d : Char} {s : String}

/-- What may stand before the at sign besides letters and digits. -/
def localMarks : List Char := ".!#$%&'*+/=?^_`\x7b|\x7d~-".toList

/-- What stands before the at sign. -/
structure IsLocalPart (text : List Char) : Prop where
  ne_nil : text ≠ []
  each : ∀ c ∈ text, c.isAlphanum = true ∨ c ∈ localMarks

/-- A label of a host name: 1 to 63 letters, digits and hyphens, with no hyphen at either end. -/
structure IsLabel (label : List Char) : Prop where
  least : 1 ≤ label.length
  most : label.length ≤ 63
  each : ∀ c ∈ label, c.isAlphanum = true ∨ c = '-'
  first : label.head? ≠ some '-'
  last : label.getLast? ≠ some '-'

/-- A host name: two or more labels with points between. -/
structure IsHost (text : List Char) : Prop where
  least : 2 ≤ (text.splitOn '.').length
  each : ∀ label ∈ text.splitOn '.', IsLabel label

/-- An address: a local part, the only at sign and a host name. -/
structure IsAddress (text : List Char) : Prop where
  one : text.count '@' = 1
  parts : ∃ before after, text = before ++ '@' :: after ∧ IsLocalPart before ∧ IsHost after

/-! ### Characters -/

theorem isAlphanum_iff : c.isAlphanum = true ↔ 0x30 ≤ c.toNat ∧ c.toNat ≤ 0x39 ∨
    0x41 ≤ c.toNat ∧ c.toNat ≤ 0x5A ∨ 0x61 ≤ c.toNat ∧ c.toNat ≤ 0x7A := by
  have hranges : c.isAlphanum = (decide (0x41 ≤ c.val ∧ c.val ≤ 0x5A) ||
    decide (0x61 ≤ c.val) && decide (c.val ≤ 0x7A) ||
    decide (0x30 ≤ c.val) && decide (c.val ≤ 0x39)) := rfl
  simp only [hranges, Bool.or_eq_true, Bool.and_eq_true, decide_eq_true_eq,
    UInt32.le_iff_toNat_le, UInt32.reduceToNat, Char.toNat_val]
  omega

theorem has_alnumSet_iff : alnumSet.has c = true ↔ c.isAlphanum = true := by
  rw [CharSet.has_iff, isAlphanum_iff]
  simp [alnumSet]

theorem has_labelSet_iff :
    CharSet.has ⟨(0x2D, 0x2D) :: alnumSet.ranges⟩ c = true ↔ c.isAlphanum = true ∨ c = '-' := by
  rw [← has_alnumSet_iff, CharSet.has_iff, CharSet.has_iff, ← Char.toNat_inj]
  simp only [List.mem_cons, exists_eq_or_imp]
  rw [or_comm, Nat.le_antisymm_iff, and_comm]
  rfl

theorem map_toNat_localMarks : localMarks.map Char.toNat =
    [0x2E, 0x21, 0x23, 0x24, 0x25, 0x26, 0x27, 0x2A, 0x2B, 0x2F, 0x3D, 0x3F, 0x5E, 0x5F, 0x60,
      0x7B, 0x7C, 0x7D, 0x7E, 0x2D] := rfl

theorem mem_localMarks_iff : c ∈ localMarks ↔ c.toNat ∈ localMarks.map Char.toNat := by
  simp [Char.toNat_inj]

theorem has_localSet_iff : localSet.has c = true ↔ c.isAlphanum = true ∨ c ∈ localMarks := by
  rw [CharSet.has_iff, isAlphanum_iff, mem_localMarks_iff, map_toNat_localMarks]
  simp only [localSet, List.mem_cons, List.not_mem_nil, or_false, exists_eq_or_imp,
    exists_eq_left]
  omega

/-- What stands in a label may stand at an end of one unless it is a hyphen. -/
theorem isAlphanum_iff_ne_hyphen :
    c.isAlphanum = true ↔ (c.isAlphanum = true ∨ c = '-') ∧ some c ≠ some '-' := by
  constructor
  · intro h
    refine ⟨.inl h, ?_⟩
    rintro ⟨⟩
    cases h
  · rintro ⟨halnum | rfl, hne⟩
    · exact halnum
    · exact absurd rfl hne

theorem IsLabel.not_mem (h : IsLabel label) (hc : c.isAlphanum = false) (hne : c ≠ '-') :
    c ∉ label := by
  intro hmem
  rcases h.each c hmem with halnum | heq
  · rw [hc] at halnum
    cases halnum
  · exact hne heq

theorem IsLocalPart.at_not_mem (h : IsLocalPart text) : '@' ∉ text := by
  intro hmem
  have hat : localSet.has '@' = true := has_localSet_iff.mpr (h.each '@' hmem)
  cases hat

theorem matches_localPart_iff :
    (plus (.char localSet)).Matches before word after ↔ IsLocalPart word := by
  simp only [matches_plus_char_iff, has_localSet_iff]
  exact ⟨fun ⟨hne, heach⟩ => ⟨hne, heach⟩, fun ⟨hne, heach⟩ => ⟨hne, heach⟩⟩

/-! ### Labels -/

theorem isLabel_singleton_iff : IsLabel [c] ↔ c.isAlphanum = true := by
  rw [isAlphanum_iff_ne_hyphen]
  constructor
  · rintro ⟨-, -, heach, hne, -⟩
    exact ⟨heach c List.mem_cons_self, hne⟩
  · rintro ⟨hc, hne⟩
    exact ⟨Nat.le_refl 1, by simp, by simpa using hc, hne, hne⟩

/-- A label of two characters or more has room for 61 between its ends. -/
theorem isLabel_ends_iff : IsLabel (c :: (inner ++ [d])) ↔ c.isAlphanum = true ∧
    (inner.length ≤ 61 ∧ ∀ x ∈ inner, x.isAlphanum = true ∨ x = '-') ∧ d.isAlphanum = true := by
  have hlength : (c :: (inner ++ [d])).length = inner.length + 2 := by simp
  have hlast : (c :: (inner ++ [d])).getLast? = some d := by simp [List.getLast?_cons]
  rw [isAlphanum_iff_ne_hyphen, isAlphanum_iff_ne_hyphen (c := d)]
  constructor
  · rintro ⟨-, hmost, heach, hfirst, hlast'⟩
    rw [List.forall_mem_cons, List.forall_mem_append, List.forall_mem_singleton] at heach
    obtain ⟨hc, hinner, hd⟩ := heach
    rw [hlast] at hlast'
    exact ⟨⟨hc, hfirst⟩, ⟨by omega, hinner⟩, hd, hlast'⟩
  · rintro ⟨⟨hc, hfirst⟩, ⟨hmost, hinner⟩, hd, hlast'⟩
    refine ⟨by omega, by omega, ?_, hfirst, hlast ▸ hlast'⟩
    rw [List.forall_mem_cons, List.forall_mem_append, List.forall_mem_singleton]
    exact ⟨hc, hinner, hd⟩

theorem matches_label_iff : labelPattern.Matches before word after ↔ IsLabel word := by
  constructor
  · rintro ⟨_, rest, rfl, ⟨c, hc, rfl⟩, hrest⟩
    have hfirst := has_alnumSet_iff.mp hc
    rcases (matches_optional_iff _).mp hrest with rfl | ⟨inner, _, rfl, hinner, d, hd, rfl⟩
    · exact isLabel_singleton_iff.mpr hfirst
    · obtain ⟨-, hmost, heach⟩ := matches_many_char_iff.mp hinner
      simp only [has_labelSet_iff] at heach
      exact isLabel_ends_iff.mpr ⟨hfirst, ⟨hmost 61 rfl, heach⟩, has_alnumSet_iff.mp hd⟩
  · intro h
    cases word with
    | nil => exact absurd h.least (by decide)
    | cons c rest =>
      have halnum {x : Char} (hx : x.isAlphanum = true) :
          ∃ y, alnumSet.has y = true ∧ [x] = [y] := ⟨x, has_alnumSet_iff.mpr hx, rfl⟩
      -- The optional part of the pattern has its own last character.
      obtain rfl | ⟨inner, d, rfl⟩ := rest.eq_nil_or_concat'
      · have hc := isLabel_singleton_iff.mp h
        exact ⟨[c], [], rfl, halnum hc, (matches_optional_iff _).mpr (.inl rfl)⟩
      · obtain ⟨hc, ⟨hmost, heach⟩, hd⟩ := isLabel_ends_iff.mp h
        simp only [← has_labelSet_iff] at heach
        refine ⟨[c], inner ++ [d], rfl, halnum hc, (matches_optional_iff _).mpr (.inr ?_)⟩
        refine ⟨inner, [d], rfl, matches_many_char_iff.mpr ⟨Nat.zero_le _, ?_, heach⟩, halnum hd⟩
        rintro _ ⟨⟩
        exact hmost

/-! ### Hosts -/

theorem intercalate_point (label : List Char) (labels : List (List Char)) :
    ['.'].intercalate (label :: labels) = label ++ labels.flatMap ('.' :: ·) := by
  induction labels generalizing label with
  | nil => simp
  | cons next labels ih => simp [List.intercalate_cons_cons, ih]

/-- A host name is a label and then one or more labels, each after a point. -/
theorem isHost_iff : IsHost text ↔ ∃ label labels, labels ≠ [] ∧ IsLabel label ∧
    (∀ label ∈ labels, IsLabel label) ∧ text = label ++ labels.flatMap ('.' :: ·) := by
  constructor
  · rintro ⟨hleast, heach⟩
    obtain ⟨label, labels, hsplit⟩ := List.exists_cons_of_ne_nil (List.splitOn_ne_nil '.' text)
    rw [hsplit] at hleast heach
    refine ⟨label, labels, ?_, heach label List.mem_cons_self, ?_, ?_⟩
    · rintro rfl
      exact absurd hleast (by simp)
    · exact (List.forall_mem_cons.mp heach).2
    · rw [← intercalate_point, ← hsplit, List.intercalate_splitOn]
  · rintro ⟨label, labels, hne, hlabel, hlabels, rfl⟩
    have heach : ∀ l ∈ label :: labels, IsLabel l := List.forall_mem_cons.mpr ⟨hlabel, hlabels⟩
    -- No label has a point, so that cutting at the points gives the labels back.
    have hsplit : (label ++ labels.flatMap ('.' :: ·)).splitOn '.' = label :: labels := by
      rw [← intercalate_point]
      exact List.splitOn_intercalate '.' (fun l hl => (heach l hl).not_mem rfl (by decide))
        (List.cons_ne_nil _ _)
    rw [← hsplit] at heach
    refine ⟨?_, heach⟩
    have hlength := List.length_pos_of_ne_nil hne
    rw [hsplit, List.length_cons]
    omega

theorem IsHost.at_not_mem (h : IsHost text) : '@' ∉ text := by
  obtain ⟨label, labels, -, hlabel, hlabels, rfl⟩ := isHost_iff.mp h
  have hat {l : List Char} (hl : IsLabel l) : '@' ∉ l := hl.not_mem rfl (by decide)
  rw [List.mem_append, List.mem_flatMap]
  rintro (hmem | ⟨next, hnext, hmem⟩)
  · exact hat hlabel hmem
  · exact hat (hlabels next hnext) (List.mem_of_ne_of_mem (by decide) hmem)

theorem matches_pointLabel_iff :
    (Pattern.both (.char (.single '.')) labelPattern).Matches before word after ↔
      ∃ label, IsLabel label ∧ word = '.' :: label := by
  constructor
  · rintro ⟨point, label, rfl, hpoint, hlabel⟩
    rw [matches_single_iff.mp hpoint]
    exact ⟨label, matches_label_iff.mp hlabel, rfl⟩
  · rintro ⟨label, hlabel, rfl⟩
    exact ⟨['.'], label, rfl, matches_single_iff.mpr rfl, matches_label_iff.mpr hlabel⟩

theorem matches_host_iff :
    (inOrder [labelPattern, .plus (.both (.char (.single '.')) labelPattern)]).Matches
      before word after ↔ IsHost word := by
  rw [isHost_iff, matches_inOrder_cons]
  constructor
  · rintro ⟨label, _, rfl, hlabel, hlabels⟩
    obtain ⟨labels, hsome, -, heach, rfl⟩ :=
      (matches_many_iff fun _ _ _ => matches_pointLabel_iff).mp hlabels
    exact ⟨label, labels, List.ne_nil_of_length_pos hsome, matches_label_iff.mp hlabel, heach, rfl⟩
  · rintro ⟨label, labels, hne, hlabel, heach, rfl⟩
    refine ⟨label, _, rfl, matches_label_iff.mpr hlabel, ?_⟩
    exact (matches_many_iff fun _ _ _ => matches_pointLabel_iff).mpr
      ⟨labels, List.length_pos_of_ne_nil hne, nofun, heach, rfl⟩

/-! ### Addresses -/

/-- The at sign between a local part and a host name is the only one, as neither has one. -/
theorem isAddress_iff : IsAddress text ↔
    ∃ before after, text = before ++ '@' :: after ∧ IsLocalPart before ∧ IsHost after := by
  constructor
  · intro h
    exact h.parts
  · rintro ⟨before, after, rfl, hlocal, hhost⟩
    refine ⟨?_, before, after, rfl, hlocal, hhost⟩
    rw [List.count_append, List.count_cons_self, List.count_eq_zero.mpr hlocal.at_not_mem,
      List.count_eq_zero.mpr hhost.at_not_mem]

theorem isFoundIn_emailPattern_iff : emailPattern.isFoundIn s = true ↔ IsAddress s.toList := by
  refine (isFoundIn_anchored_iff [.plus (.char localSet), .char (.single '@'), labelPattern,
    .plus (.both (.char (.single '.')) labelPattern)]).trans ?_
  rw [isAddress_iff, matches_inOrder_cons, matches_inOrder_cons]
  constructor
  · rintro ⟨before, _, htext, hlocal, sign, after, rfl, hsign, hhost⟩
    rw [matches_single_iff.mp hsign] at htext
    exact ⟨before, after, htext, matches_localPart_iff.mp hlocal, matches_host_iff.mp hhost⟩
  · rintro ⟨before, after, htext, hlocal, hhost⟩
    exact ⟨before, '@' :: after, htext, matches_localPart_iff.mpr hlocal, ['@'], after, rfl,
      matches_single_iff.mpr rfl, matches_host_iff.mpr hhost⟩

/-- The rule accepts the strings that are addresses, whatever its arguments, and nothing else. -/
theorem isEmail_iff (v : Value) (args : List Value) :
    isEmail v args = true ↔ ∃ s, v = .string s ∧ IsAddress s.toList := by
  cases v with
  | string s => simp [isEmail, isFoundIn_emailPattern_iff]
  | _ => simp [isEmail]

/-- The marks need no letter beside them. -/
example : isEmail (.string "#@a.b-c.d") [] = true := by decide

end Rule

end ParamSchema
