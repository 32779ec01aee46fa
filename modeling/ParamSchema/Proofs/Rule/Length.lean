import Mathlib.Tactic.NormNum
import ParamSchema.Proofs.Double
import ParamSchema.Rule.Builtin

/-!
Bounds of a length. Of the numbers that `isLength` is given as bounds it enforces the whole numbers
from zero on and passes over all others: a double or a negative number bounds nothing
(`isLength_bounds`).
-/

namespace ParamSchema

namespace Number

/-- The number that a JSON number stands for. -/
def value : Number → ℚ
  | whole w => w.val
  | double d => d.value

/-- Whether `isLength` enforces the number as a bound. -/
def Counts (b : Number) : Prop := ∃ w, b = whole w ∧ 0 ≤ w.val

theorem toUnsigned?_eq_some_iff {b : Number} {k : ℕ} :
    b.toUnsigned? = some k ↔ b.Counts ∧ b.value = k := by
  cases b with
  | double d => simp [toUnsigned?, Counts]
  | whole w =>
    have hcast : ((w.val : ℚ) = k) ↔ w.val = k := by exact_mod_cast Iff.rfl
    simp only [toUnsigned?, Counts, value, whole.injEq, exists_eq_left', hcast]
    split <;> simp <;> omega

theorem Counts.exists_toUnsigned? {b : Number} (h : b.Counts) :
    ∃ k : ℕ, b.toUnsigned? = some k := by
  obtain ⟨w, rfl, hw⟩ := h
  exact ⟨w.val.toNat, if_pos hw⟩

/-- What holds of each bound that is read holds of the number that it stands for. -/
theorem forall_bound_iff {bound : Option Number} {P : ℚ → Prop} :
    (∀ k ∈ bound.bind toUnsigned?, P k) ↔ ∀ b ∈ bound, b.Counts → P b.value := by
  simp only [Option.mem_def, Option.bind_eq_some_iff, forall_exists_index, and_imp]
  constructor
  · intro h b hb hcounts
    obtain ⟨k, hk⟩ := hcounts.exists_toUnsigned?
    rw [(toUnsigned?_eq_some_iff.mp hk).2]
    exact h k b hb hk
  · intro h k b hb hk
    obtain ⟨hcounts, hvalue⟩ := toUnsigned?_eq_some_iff.mp hk
    rw [← hvalue]
    exact h b hb hcounts

end Number

/-- The length of a value: the characters of its text or the items of an array. -/
inductive Value.HasLength : Value → ℕ → Prop
  | string (s : String) : HasLength (.string s) s.length
  | number (n : Number) : HasLength (.number n) n.text.length
  | bool (b : Bool) : HasLength (.bool b) (toString b).length
  | array (items : List Value) : HasLength (.array items) items.length

namespace Rule

/-- The arguments that bound a length, with the bounds that they give. -/
inductive Bounds : List Value → Option Number → Option Number → Prop
  | least (least : Number) : Bounds [.number least] (some least) none
  | both (least most : Number) : Bounds [.number least, .number most] (some least) (some most)
  | object {members : Members} {least most : Option Number}
    (min : members.lookup "min" = least.map .number)
    (max : members.lookup "max" = most.map .number) : Bounds [.object members] least most

variable {v : Value} {args : List Value} {least most : Option Number} {n : ℕ}

theorem length?_eq_some_iff : length? v = some n ↔ v.HasLength n := by
  constructor
  · intro h
    cases v with
    | null | object => cases h
    | bool b =>
      cases b <;> cases h
      · exact .bool false
      · exact .bool true
    | number m =>
      cases h
      exact .number m
    | string s =>
      cases h
      exact .string s
    | array items =>
      cases h
      exact .array items
  · intro h
    cases h with
    | bool b => cases b <;> rfl
    | _ => rfl

theorem bind_toUnsigned?_map (bound : Option Number) :
    (bound.map Value.number).bind Value.toUnsigned? = bound.bind Number.toUnsigned? := by
  cases bound <;> rfl

theorem lengthBounds_eq (h : Bounds args least most) :
    lengthBounds args = (least.bind Number.toUnsigned?, most.bind Number.toUnsigned?) := by
  cases h with
  | least | both => rfl
  | object min max =>
    rw [lengthBounds, min, max, bind_toUnsigned?_map, bind_toUnsigned?_map]

theorem isLength_iff : isLength v args = true ↔ ∃ n, v.HasLength n ∧
    (∀ k ∈ (lengthBounds args).1, k ≤ n) ∧ ∀ k ∈ (lengthBounds args).2, n ≤ k := by
  simp only [← length?_eq_some_iff, isLength]
  cases length? v <;> simp [Option.all_eq_true]

theorem isLength_eq_false (h : ∀ n, ¬v.HasLength n) (args : List Value) :
    isLength v args = false := by
  rw [← Bool.not_eq_true, isLength_iff]
  rintro ⟨n, hn, -⟩
  exact h n hn

theorem isLength_iff_counts (h : Bounds args least most) : isLength v args = true ↔
    ∃ n, v.HasLength n ∧ (∀ b ∈ least, b.Counts → b.value ≤ n) ∧
      ∀ b ∈ most, b.Counts → n ≤ b.value := by
  rw [isLength_iff, lengthBounds_eq h]
  refine exists_congr fun n => and_congr_right fun _ => and_congr ?_ ?_
  · rw [← Number.forall_bound_iff (P := (· ≤ (n : ℚ)))]
    simp only [Nat.cast_le]
  · rw [← Number.forall_bound_iff (P := ((n : ℚ) ≤ ·))]
    simp only [Nat.cast_le]

/-- The rule enforces the bounds that are whole numbers from zero on, and no others. So it is exact
if the upper bound is such a number and the lower one is such a number or excludes no length. What
has no length is never accepted. -/
theorem isLength_bounds (v : Value) (args : List Value) :
    (∀ least most, Bounds args least most →
      (isLength v args = true ↔ ∃ n, v.HasLength n ∧
        (∀ b ∈ least, b.Counts → b.value ≤ n) ∧ ∀ b ∈ most, b.Counts → n ≤ b.value) ∧
      ((∀ b ∈ least, b.Counts ∨ b.value ≤ 0) → (∀ b ∈ most, b.Counts) →
        (isLength v args = true ↔ ∃ n, v.HasLength n ∧
          (∀ b ∈ least, b.value ≤ n) ∧ ∀ b ∈ most, n ≤ b.value))) ∧
    isLength .null args = false ∧ ∀ members, isLength (.object members) args = false := by
  have hnull (n : ℕ) : ¬Value.null.HasLength n := nofun
  have hobject (members : Members) (n : ℕ) : ¬(Value.object members).HasLength n := nofun
  refine ⟨fun least most h => ⟨isLength_iff_counts h, fun hleast hmost => ?_⟩,
    isLength_eq_false hnull args, fun members => isLength_eq_false (hobject members) args⟩
  rw [isLength_iff_counts h]
  refine exists_congr fun n => and_congr_right fun _ => and_congr ?_ ?_
  · refine forall₂_congr fun b hb => ⟨fun himp => ?_, fun hle _ => hle⟩
    rcases hleast b hb with hcounts | hzero
    · exact himp hcounts
    · exact hzero.trans n.cast_nonneg
  · exact forall₂_congr fun b hb => ⟨fun himp => himp (hmost b hb), fun hle _ => hle⟩

/-- The double three. -/
def three : Number := .double ⟨false, 3 * unitsPerOne, representable_mul_unitsPerOne (by decide)⟩

theorem value_three : three.value = 3 := by
  have hvalue : three.value = (3 : ℤ) := Double.value_eq_int_iff.mpr (Nat.cast_mul 3 unitsPerOne)
  exact_mod_cast hvalue

/-- At most three, written as a double. -/
def atMostThree : List Value := [.object [("max", .number three)]]

theorem bounds_atMostThree : Bounds atMostThree none (some three) := .object rfl rfl

theorem smallWhole_lower (n : Fin 64) : -2 ^ 63 ≤ (n.val : ℤ) := by omega

theorem smallWhole_upper (n : Fin 64) : (n.val : ℤ) < 2 ^ 64 := by omega

/-- A small whole number. -/
def smallWhole (n : Fin 64) : Number := .whole ⟨n.val, smallWhole_lower n, smallWhole_upper n⟩

theorem counts_smallWhole (n : Fin 64) : (smallWhole n).Counts := ⟨_, rfl, Int.natCast_nonneg n.val⟩

/-- From two to three, written as whole numbers. -/
def twoToThree : List Value := [.number (smallWhole 2), .number (smallWhole 3)]

theorem bounds_twoToThree : Bounds twoToThree (some (smallWhole 2)) (some (smallWhole 3)) :=
  .both _ _

/-- Three as a double is no bound, and two and three as whole numbers are. -/
theorem isLength_bounds_atMostThree :
    (Bounds atMostThree none (some three) ∧
      (isLength (.string "abcd") atMostThree = true ↔ ∃ n, (Value.string "abcd").HasLength n ∧
        (∀ b ∈ (none : Option Number), b.Counts → b.value ≤ n) ∧
        ∀ b ∈ some three, b.Counts → n ≤ b.value)) ∧
    Bounds twoToThree (some (smallWhole 2)) (some (smallWhole 3)) ∧
    (∀ b ∈ some (smallWhole 2), b.Counts ∨ b.value ≤ 0) ∧ (∀ b ∈ some (smallWhole 3), b.Counts) ∧
    (isLength (.string "abc") twoToThree = true ↔ ∃ n, (Value.string "abc").HasLength n ∧
      (∀ b ∈ some (smallWhole 2), b.value ≤ n) ∧ ∀ b ∈ some (smallWhole 3), n ≤ b.value) := by
  have hleast : ∀ b ∈ some (smallWhole 2), b.Counts ∨ b.value ≤ 0 := by
    rintro _ ⟨⟩
    exact .inl (counts_smallWhole 2)
  have hmost : ∀ b ∈ some (smallWhole 3), b.Counts := by
    rintro _ ⟨⟩
    exact counts_smallWhole 3
  obtain ⟨hcounted, -⟩ := (isLength_bounds (.string "abcd") _).1 _ _ bounds_atMostThree
  obtain ⟨-, hexact⟩ := (isLength_bounds (.string "abc") _).1 _ _ bounds_twoToThree
  exact ⟨⟨bounds_atMostThree, hcounted⟩, bounds_twoToThree, hleast, hmost, hexact hleast hmost⟩

/-- Four characters pass for at most three. -/
theorem not_enforced_three : ¬∀ v args least most, Bounds args least most →
    (isLength v args = true ↔ ∃ n, v.HasLength n ∧
      (∀ b ∈ least, b.value ≤ n) ∧ ∀ b ∈ most, n ≤ b.value) := by
  intro h
  have haccepts : isLength (.string "abcd") atMostThree = true := by decide
  obtain ⟨n, hlength, -, hmost⟩ := (h _ _ _ _ bounds_atMostThree).mp haccepts
  have hle := hmost three rfl
  have hfour : "abcd".length = 4 := by decide
  cases hlength
  rw [value_three, hfour] at hle
  norm_num at hle

end Rule

end ParamSchema
