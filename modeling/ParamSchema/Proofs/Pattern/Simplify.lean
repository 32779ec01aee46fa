import Mathlib.Data.List.SplitBy
import ParamSchema.Pattern.Reader
import ParamSchema.Proofs.Pattern

/-!
Simple forms of patterns match what the patterns do. `Pattern.matches_sequence` and
`Pattern.matches_choice_iff` say it of rows and choices, `Pattern.matches_repetition` of
repetitions; `Pattern.Reader.Level.matches_content_iff` and `matches_repeatLast` say it of the
groups and repetitions that are read.
-/

namespace ParamSchema

namespace CharSet

variable {ranges done sorted : List (ℕ × ℕ)} {next : ℕ × ℕ} {code : ℕ} {c : Char}

/-- The code point is in one of the ranges. -/
def Covers (ranges : List (ℕ × ℕ)) (code : ℕ) : Prop :=
  ∃ r ∈ ranges, r.1 ≤ code ∧ code ≤ r.2

theorem covers_cons_iff {r : ℕ × ℕ} :
    Covers (r :: ranges) code ↔ (r.1 ≤ code ∧ code ≤ r.2) ∨ Covers ranges code :=
  List.exists_mem_cons_iff ..

theorem covers_join_iff (h : ∀ r ∈ done.head?, r.1 ≤ next.1) :
    Covers (join done next) code ↔ Covers done code ∨ (next.1 ≤ code ∧ code ≤ next.2) := by
  cases done with
  | nil => simp [join, Covers]
  | cons last rest =>
    have hle : last.1 ≤ next.1 := h last rfl
    rw [join]
    split
    · rw [covers_cons_iff, covers_cons_iff, or_right_comm]
      refine or_congr_left ?_
      dsimp only
      omega
    · rw [covers_cons_iff, or_comm]

theorem head?_join_le (h : ∀ r ∈ done.head?, r.1 ≤ next.1) :
    ∀ r ∈ (join done next).head?, r.1 ≤ next.1 := by
  cases done with
  | nil => simp [join]
  | cons last rest =>
    rw [join]
    split
    · simpa using h
    · simp

/-- As each range starts no earlier than those before it, what is joined so far grows at one end
only. -/
theorem covers_foldl_join_iff (hsorted : sorted.Pairwise (·.1 ≤ ·.1))
    (h : ∀ r ∈ done.head?, ∀ next ∈ sorted, r.1 ≤ next.1) :
    Covers (sorted.foldl join done) code ↔ Covers done code ∨ Covers sorted code := by
  induction sorted generalizing done with
  | nil => simp [Covers]
  | cons next sorted ih =>
    obtain ⟨hnext, hsorted⟩ := List.pairwise_cons.mp hsorted
    have hdone : ∀ r ∈ done.head?, r.1 ≤ next.1 := fun r hr => h r hr next List.mem_cons_self
    rw [List.foldl_cons, ih hsorted, covers_join_iff hdone, covers_cons_iff, or_assoc]
    intro r hr later hlater
    exact (head?_join_le hdone r hr).trans (hnext later hlater)

theorem pairwise_mergeSort (ranges : List (ℕ × ℕ)) :
    (ranges.mergeSort fun a b => a.1 ≤ b.1).Pairwise (·.1 ≤ ·.1) := by
  refine (List.pairwise_mergeSort ?_ ?_ ranges).imp fun hle => of_decide_eq_true hle
  · intro a b d hab hbd
    exact decide_eq_true ((of_decide_eq_true hab).trans (of_decide_eq_true hbd))
  · intro a b
    rw [Bool.or_eq_true, decide_eq_true_eq, decide_eq_true_eq]
    exact Nat.le_total a.1 b.1

theorem has_ofRanges_iff : (ofRanges ranges).has c = true ↔ Covers ranges c.toNat := by
  simp only [has_iff, ofRanges, List.mem_reverse]
  rw [← Covers, covers_foldl_join_iff (pairwise_mergeSort _) (by simp)]
  simp only [Covers, List.mem_mergeSort, List.mem_filter, List.not_mem_nil, decide_eq_true_eq,
    false_and, exists_false, false_or]
  constructor
  · rintro ⟨r, ⟨hr, -⟩, hin⟩
    exact ⟨r, hr, hin⟩
  · rintro ⟨r, hr, hin⟩
    exact ⟨r, ⟨hr, hin.1.trans hin.2⟩, hin⟩

end CharSet

namespace Pattern

open InContext

variable {p : Pattern CharSet Look} {ps : List (Pattern CharSet Look)}
  {before word after : List Char}

/-! ### Rows -/

theorem matches_parts (p : Pattern CharSet Look) : (inOrder p.parts).Matches = p.Matches := by
  induction p with
  | both p q ihp ihq =>
    rw [parts, matches_inOrder_append, ihp, ihq]
    rfl
  | _ => rfl

theorem matches_sequence (ps : List (Pattern CharSet Look)) :
    (sequence ps).Matches = (inOrder ps).Matches := by
  induction ps with
  | nil => rfl
  | cons p ps ih =>
    rw [sequence, List.flatMap_cons, matches_inOrder_append, matches_parts, ← sequence, ih,
      matches_inOrder_cons]

/-! ### Choices -/

theorem exists_branches_iff (p : Pattern CharSet Look) :
    (∃ q ∈ p.branches, q.Matches before word after) ↔ p.Matches before word after := by
  induction p with
  | either p q ihp ihq =>
    simp only [branches, List.mem_append, or_and_right, exists_or, ihp, ihq]
    rfl
  | _ => simp [branches]

theorem exists_flatMap_branches_iff {γ : Type} {f : γ → Pattern CharSet Look} {xs : List γ} :
    (∃ p ∈ xs.flatMap fun x => (f x).branches, p.Matches before word after) ↔
      ∃ x ∈ xs, (f x).Matches before word after := by
  induction xs with
  | nil => simp
  | cons x xs ih =>
    simp only [List.flatMap_cons, List.mem_append, or_and_right, exists_or, exists_branches_iff, ih,
      List.exists_mem_cons_iff]

theorem matches_anyOf_iff (first : Pattern CharSet Look) (others : List (Pattern CharSet Look)) :
    (anyOf first others).Matches before word after ↔
      ∃ p ∈ first :: others, p.Matches before word after := by
  induction others generalizing first with
  | nil => simp [anyOf]
  | cons next others ih =>
    rw [List.exists_mem_cons_iff, ← ih]
    rfl

theorem has_merged?_iff {sets : List CharSet} {set : CharSet} {c : Char}
    (h : merged? sets = some set) : set.has c = true ↔ ∃ s ∈ sets, s.has c = true := by
  rw [merged?, Option.ite_none_right_eq_some] at h
  obtain ⟨-, h⟩ := h
  cases h
  rw [CharSet.has_ofRanges_iff]
  simp only [CharSet.has_iff, CharSet.Covers, List.mem_flatMap]
  constructor
  · rintro ⟨r, ⟨s, hs, hr⟩, hin⟩
    exact ⟨s, hs, r, hr, hin⟩
  · rintro ⟨s, hs, r, hr, hin⟩
    exact ⟨r, ⟨s, hs, hr⟩, hin⟩

theorem set?_eq_some_iff {set : CharSet} : p.set? = some set ↔ p = .char set := by
  cases p <;> simp [set?]

theorem mapM_set?_eq_some_iff {sets : List CharSet} :
    ps.mapM set? = some sets ↔ ps = sets.map .char := by
  induction ps generalizing sets with
  | nil => cases sets <;> simp
  | cons p ps ih =>
    cases sets <;> simp [List.mapM_cons, Option.bind_eq_some_iff, set?_eq_some_iff, ih]

theorem matches_plainChoice_iff :
    (plainChoice ps).Matches before word after ↔ ∃ p ∈ ps, p.Matches before word after := by
  rw [plainChoice.eq_def]
  split
  · simp [Matches, CharSet.has_iff, CharSet.empty]
  · simp
  case h_3 first others _ =>
    split
    case h_1 set hset =>
      obtain ⟨sets, hsets, hmerged⟩ := Option.bind_eq_some_iff.mp hset
      rw [mapM_set?_eq_some_iff.mp hsets]
      simp only [Matches, has_merged?_iff hmerged, List.mem_map]
      constructor
      · rintro ⟨c, ⟨s, hs, hc⟩, rfl⟩
        exact ⟨.char s, ⟨s, hs, rfl⟩, c, hc, rfl⟩
      · rintro ⟨_, ⟨s, hs, rfl⟩, c, hc, rfl⟩
        exact ⟨c, ⟨s, hs, hc⟩, rfl⟩
    · exact matches_anyOf_iff first others

/-! ### Common units -/

theorem flatten_units (p : Pattern CharSet Look) : p.units.flatten = p.parts :=
  List.flatten_splitBy ..

theorem sharedUnits_prefix (row other : List (List (Pattern CharSet Look))) :
    sharedUnits row other <+: row ∧ sharedUnits row other <+: other := by
  fun_induction sharedUnits row other with
  | case1 unit row next other heq ih =>
    simp only [Bool.and_eq_true, decide_eq_true_eq] at heq
    obtain ⟨rfl, -⟩ := heq
    simpa only [List.prefix_cons_inj] using ih
  | case2 => simp
  | case3 => simp

theorem foldl_sharedUnits_prefix (others : List (List (List (Pattern CharSet Look))))
    (first : List (List (Pattern CharSet Look))) :
    ∀ row ∈ first :: others, others.foldl sharedUnits first <+: row := by
  induction others generalizing first with
  | nil => simp
  | cons next others ih =>
    have hshared : (next :: others).foldl sharedUnits first <+: sharedUnits first next :=
      ih _ _ List.mem_cons_self
    obtain ⟨hfirst, hnext⟩ := sharedUnits_prefix first next
    intro row hrow
    rcases List.mem_cons.mp hrow with rfl | hrow
    · exact hshared.trans hfirst
    · rcases List.mem_cons.mp hrow with rfl | hrow
      · exact hshared.trans hnext
      · exact ih _ row (List.mem_cons_of_mem _ hrow)

theorem commonUnits_prefix {rows : List (List (List (Pattern CharSet Look)))}
    {row : List (List (Pattern CharSet Look))} (h : row ∈ rows) : commonUnits rows <+: row := by
  rw [commonUnits.eq_def]
  split
  · split
    · exact foldl_sharedUnits_prefix _ _ row h
    · exact List.nil_prefix
  · exact List.nil_prefix

/-- A pattern may be cut behind units that it starts with. -/
theorem matches_cut {start : List (List (Pattern CharSet Look))} (h : start <+: p.units) :
    p.Matches = (inOrder start.flatten).Matches.Then
      (inOrder (p.units.drop start.length).flatten).Matches := by
  rw [← matches_inOrder_append, ← List.flatten_append, List.prefix_iff_eq_append.mp h,
    flatten_units, matches_parts]

theorem matches_choice_iff :
    (choice ps).Matches before word after ↔ ∃ p ∈ ps, p.Matches before word after := by
  have hflat : (∃ p ∈ ps.flatMap branches, p.Matches before word after) ↔
      ∃ p ∈ ps, p.Matches before word after := exists_flatMap_branches_iff (f := id)
  rw [choice, ← hflat]
  dsimp only
  split
  · exact matches_plainChoice_iff
  · generalize hstart : commonUnits ((ps.flatMap branches).map units) = start
    have hcut : ∀ p ∈ ps.flatMap branches, p.Matches = (inOrder start.flatten).Matches.Then
        (inOrder (p.units.drop start.length).flatten).Matches := by
      intro p hp
      exact matches_cut (hstart ▸ commonUnits_prefix (List.mem_map_of_mem hp))
    rw [matches_sequence, matches_inOrder_append]
    constructor
    · rintro ⟨u, v, rfl, hu, hv⟩
      obtain ⟨p, hp, hv⟩ := exists_flatMap_branches_iff.mp (matches_plainChoice_iff.mp hv)
      refine ⟨p, hp, ?_⟩
      rw [hcut p hp]
      exact ⟨u, v, rfl, hu, hv⟩
    · rintro ⟨p, hp, hmatches⟩
      rw [hcut p hp] at hmatches
      obtain ⟨u, v, rfl, hu, hv⟩ := hmatches
      exact ⟨u, v, rfl, hu,
        matches_plainChoice_iff.mpr (exists_flatMap_branches_iff.mpr ⟨p, hp, hv⟩)⟩

/-! ### Repetitions -/

theorem Matches.eq_nil (hnone : p.takesNone = true) (h : p.Matches before word after) :
    word = [] := by
  induction p generalizing before word after with
  | empty => exact h
  | char set => cases hnone
  | look condition => exact h.1
  | both p q ihp ihq =>
    obtain ⟨hp, hq⟩ := Bool.and_eq_true_iff.mp hnone
    obtain ⟨u, v, rfl, hu, hv⟩ := h
    rw [ihp hp hu, ihq hq hv, List.nil_append]
  | either p q ihp ihq =>
    obtain ⟨hp, hq⟩ := Bool.and_eq_true_iff.mp hnone
    exact h.elim (ihp hp) (ihq hq)
  | many p least most few ih =>
    obtain ⟨n, -, -, htimes⟩ := h
    induction n generalizing before word with
    | zero => exact htimes
    | succ n ihn =>
      obtain ⟨u, v, rfl, hu, hv⟩ := htimes
      rw [ih hnone hu, ihn hv, List.nil_append]
  | group p ih => exact ih hnone h

/-- A pattern that takes no character matches in a row what it matches once. -/
theorem times_of_takesNone (hnone : p.takesNone = true) (n : ℕ) :
    p.Matches.Times (n + 1) = p.Matches := by
  induction n with
  | zero => exact times_one _
  | succ n ih =>
    funext before word after
    rw [Times, ih, eq_iff_iff]
    constructor
    · rintro ⟨u, v, rfl, hu, hv⟩
      cases hu.eq_nil hnone
      rwa [List.append_nil] at hv
    · intro h
      cases h.eq_nil hnone
      exact ⟨[], [], rfl, h, by rwa [List.append_nil]⟩

theorem matches_many_of_takesNone (hnone : p.takesNone = true) (least : ℕ) (most : Option ℕ)
    (few : Bool) : (many p (min least 1) (some (min (most.getD 1) 1)) few).Matches =
      (many p least most few).Matches := by
  funext before word after
  simp only [Matches, Option.some.injEq, forall_eq', eq_iff_iff]
  constructor
  · rintro ⟨n, hleast, hmost, htimes⟩
    cases n with
    | zero => exact ⟨0, by omega, by omega, htimes⟩
    | succ n =>
      rw [times_of_takesNone hnone] at htimes
      refine ⟨least - 1 + 1, by omega, ?_, by rwa [times_of_takesNone hnone]⟩
      rintro limit rfl
      rw [Option.getD_some] at hmost
      omega
  · rintro ⟨n, hleast, hmost, htimes⟩
    cases n with
    | zero => exact ⟨0, by omega, by omega, htimes⟩
    | succ n =>
      rw [times_of_takesNone hnone] at htimes
      refine ⟨0 + 1, by omega, ?_, by rwa [times_of_takesNone hnone]⟩
      cases most with
      | none => exact Nat.le_max_right ..
      | some limit =>
        have hle := hmost limit rfl
        rw [Option.getD_some]
        omega

theorem atMost_zero (M : InContext) : M.AtMost (some 0) = Nothing := by
  funext before word after
  simp [AtMost, Times]

theorem matches_plainRepetition (p : Pattern CharSet Look) (least : ℕ) (most : Option ℕ)
    (few : Bool) :
    (plainRepetition p least most few).Matches = (many p least most few).Matches := by
  rw [plainRepetition]
  split
  case isTrue hzero =>
    obtain ⟨rfl, rfl⟩ := hzero
    rw [matches_many, Option.map_some, atMost_zero, then_nothing]
    rfl
  case isFalse =>
    split
    case isTrue hone =>
      obtain ⟨rfl, rfl⟩ := hone
      rw [matches_many, Option.map_some, atMost_zero, times_one, then_nothing]
    case isFalse => rfl

theorem matches_repetition (p : Pattern CharSet Look) (least : ℕ) (most : Option ℕ) (few : Bool) :
    (repetition p least most few).Matches = (many p least most few).Matches := by
  rw [repetition]
  split
  case isTrue hnone => rw [matches_plainRepetition, matches_many_of_takesNone hnone]
  case isFalse => rw [matches_plainRepetition]

/-! ### Groups -/

namespace Reader.Level

/-- What stands in a group matches what one of its alternatives does: its parts one after the
other. -/
theorem matches_content_iff (level : Level) : level.content.pattern.Matches before word after ↔
    (∃ piece ∈ level.branches, piece.pattern.Matches before word after) ∨
      (inOrder (level.items.reverse.map Piece.pattern)).Matches before word after := by
  rw [content, matches_choice_iff]
  simp [branch, inSequence, matches_sequence, or_comm]

/-- A repetition takes the place of the last part of its alternative. -/
theorem matches_repeatLast {level repeated : Level} {least : ℕ} {most : Option ℕ} {few : Bool}
    (h : level.repeatLast least most few = some repeated) :
    ∃ last piece others, level.items = last :: others ∧ last.isRepeatable = true ∧
      repeated = { level with items := piece :: others } ∧
      piece.pattern.Matches = (many last.pattern least most few).Matches := by
  obtain ⟨isCapturing, flagsAfter, branches, items⟩ := level
  cases items with
  | nil => cases h
  | cons last others =>
    rw [repeatLast, Option.ite_none_right_eq_some] at h
    obtain ⟨hrepeatable, h⟩ := h
    cases h
    exact ⟨last, _, others, rfl, hrepeatable, rfl, matches_repetition ..⟩

end Reader.Level

end Pattern

end ParamSchema
