import ParamSchema.Proofs.Double.Scale
import ParamSchema.Proofs.Fallible
import ParamSchema.Proofs.Numeral
import ParamSchema.Value.Reader

/-!
Numbers in JSON text. As long as the digits of a number fit 64 bits, the state of the reader holds
the number that they write (`foldlM_digits`, `takeAll_of_fits`). So whole numbers are read as they
are (`read_whole`), and decimals of up to fifteen digits as the nearest double (`read_decimal`).
-/

namespace ParamSchema.Reader

open ParamSchema.Numeral (decimalValue decimalValue_append decimalValue_concat decimalValue_lt)

variable {frames : List Frame} {n : Numeral} {c : Char} {digits places : List Char}
  {negative beforePoint : Bool} {d : ℕ}

/-! ### Digits -/

@[simp] theorem phase_take : (n.take beforePoint d).phase = n.phase := by
  unfold Numeral.take
  dsimp only
  split <;> rfl

theorem take_of_fits (hfull : n.full = false) (hfits : n.significand * 10 + d ≤ maxSignificand) :
    n.take beforePoint d =
      { n with
        significand := n.significand * 10 + d
        scale := if beforePoint then n.scale else n.scale - 1 } := by
  simp [Numeral.take, hfull, Nat.not_lt.mpr hfits]

/-- The digits as far as they have a place. -/
def takeAll (beforePoint : Bool) (n : Numeral) (digits : List Char) : Numeral :=
  digits.foldl (fun n c => n.take beforePoint (c.toNat - '0'.toNat)) n

theorem step_digit {n' : Numeral} (hc : c.isDigit = true)
    (h : n.digit? (c.toNat - '0'.toNat) = some n') :
    step ⟨frames, .numeral n⟩ c = .ok ⟨frames, .numeral n'⟩ := by
  simp only [step, stepNumeral, hc, if_true, h]

theorem step_take (hc : c.isDigit = true)
    (hphase : n.phase = if beforePoint then .integer else .fraction) :
    step ⟨frames, .numeral n⟩ c =
      .ok ⟨frames, .numeral (n.take beforePoint (c.toNat - '0'.toNat))⟩ := by
  refine step_digit hc ?_
  obtain ⟨phase, _, _, _, _, _, _⟩ := n
  obtain rfl : phase = _ := hphase
  cases beforePoint <;> rfl

/-- The reader takes digit by digit on either side of the point. -/
theorem foldlM_digits (beforePoint : Bool) (each : ∀ c ∈ digits, c.isDigit = true)
    (hphase : n.phase = if beforePoint then .integer else .fraction) :
    digits.foldlM step ⟨frames, .numeral n⟩ =
      .ok ⟨frames, .numeral (takeAll beforePoint n digits)⟩ := by
  induction digits generalizing n with
  | nil => rfl
  | cons c rest ih =>
    obtain ⟨hc, hrest⟩ := List.forall_mem_cons.mp each
    rw [List.foldlM_cons, step_take hc hphase, ok_bind, ih hrest (by rwa [phase_take])]
    rfl

/-- Digits that fit are all taken. -/
theorem takeAll_of_fits (hfull : n.full = false)
    (hfits : n.significand * 10 ^ digits.length + decimalValue digits ≤ maxSignificand) :
    takeAll beforePoint n digits =
      { n with
        significand := n.significand * 10 ^ digits.length + decimalValue digits
        scale := if beforePoint then n.scale else n.scale - digits.length } := by
  induction digits using List.reverseRecOn with
  | nil => simp [takeAll, decimalValue]
  | append_singleton digits c ih =>
    have hvalue : n.significand * 10 ^ (digits ++ [c]).length + decimalValue (digits ++ [c]) =
        (n.significand * 10 ^ digits.length + decimalValue digits) * 10 +
          (c.toNat - '0'.toNat) := by
      rw [decimalValue_concat, List.length_append, List.length_singleton, Nat.pow_succ]
      ring
    rw [hvalue] at hfits ⊢
    have hlast : takeAll beforePoint n (digits ++ [c]) =
        (takeAll beforePoint n digits).take beforePoint (c.toNat - '0'.toNat) := by
      rw [takeAll, List.foldl_append]
      rfl
    rw [hlast, ih (by omega), take_of_fits]
    case hfull => exact hfull
    case hfits => exact hfits
    cases beforePoint with
    | true => rfl
    | false =>
      have hscale (k : ℕ) : n.scale - (k : ℤ) - 1 = n.scale - (k + 1 : ℕ) := by omega
      simp only [Bool.false_eq_true, if_false, hscale, List.length_append, List.length_singleton]

/-! ### The start of a number -/

/-- Digits as they stand before the point: one or more, and the first of several is no zero. -/
structure IsWholePart (digits : List Char) : Prop where
  some : digits ≠ []
  each : ∀ c ∈ digits, c.isDigit = true
  noZero : ∀ rest, digits = '0' :: rest → rest = []

/-- The sign of a number. -/
def signText (negative : Bool) : List Char := if negative then ['-'] else []

/-- The numeral after its sign and its whole part. -/
def begun (negative : Bool) (digits : List Char) : Numeral where
  phase := if digits = ['0'] then .zero else .integer
  negative
  significand := decimalValue digits

theorem digit_eq_zero_iff (hc : c.isDigit = true) : c.toNat - '0'.toNat = 0 ↔ c = '0' := by
  constructor
  · intro h
    have hlower := (Char.isDigit_iff_toNat.mp hc).1
    apply Char.toNat_inj.mp
    exact Nat.le_antisymm (Nat.le_of_sub_eq_zero h) hlower
  · rintro rfl
    rfl

theorem digit?_sign (negative : Bool) (hc : c.isDigit = true) :
    ({ phase := .sign, negative } : Numeral).digit? (c.toNat - '0'.toNat) =
      some (begun negative [c]) := by
  have hvalue : decimalValue [c] = c.toNat - '0'.toNat := by
    simp [decimalValue]
  simp only [Numeral.digit?, begun, hvalue, digit_eq_zero_iff hc, List.cons.injEq, and_true]

theorem startValue_digit (hc : c.isDigit = true) : startValue frames c =
    .ok ⟨frames, .numeral (begun false [c])⟩ := by
  have hdigit := digit?_sign false hc
  unfold startValue
  split
  case h_8 => rw [if_pos hc, hdigit]
  all_goals exact absurd hc (by decide)

theorem step_start_digit (hc : c.isDigit = true) :
    step {} c = .ok ⟨[], .numeral (begun false [c])⟩ := by
  have hblank : isBlank c = false := by
    refine Bool.eq_false_iff.mpr fun h => ?_
    simp only [isBlank, Bool.or_eq_true, beq_iff_eq] at h
    rcases h with ((rfl | rfl) | rfl) | rfl <;> exact absurd hc (by decide)
  rw [← startValue_digit hc]
  simp only [step, hblank, Bool.false_eq_true, if_false]

/-- After its sign and its whole part, the state holds the number so far. -/
theorem foldlM_begun (negative : Bool) (whole : IsWholePart digits)
    (hfits : decimalValue digits ≤ maxSignificand) :
    (signText negative ++ digits).foldlM step {} =
      .ok ⟨[], .numeral (begun negative digits)⟩ := by
  obtain ⟨c, rest, rfl⟩ := List.exists_cons_of_ne_nil whole.some
  obtain ⟨hc, hrest⟩ := List.forall_mem_cons.mp whole.each
  have hfirst : (signText negative ++ c :: rest).foldlM step {} =
      rest.foldlM step ⟨[], .numeral (begun negative [c])⟩ := by
    cases negative with
    | true =>
      have hminus : step {} '-' = .ok ⟨[], .numeral { phase := .sign, negative := true }⟩ := rfl
      rw [signText, if_pos rfl, List.singleton_append, List.foldlM_cons, hminus, ok_bind,
        List.foldlM_cons, step_digit hc (digit?_sign true hc), ok_bind]
    | false =>
      rw [signText, if_neg Bool.false_ne_true, List.nil_append, List.foldlM_cons,
        step_start_digit hc, ok_bind]
  rw [hfirst]
  cases rest with
  | nil => rfl
  | cons c' rest =>
    have hzero : c ≠ '0' := by
      rintro rfl
      exact List.cons_ne_nil _ _ (whole.noZero _ rfl)
    have hphase : (begun negative [c]).phase = .integer := by simp [begun, hzero]
    have hvalue := decimalValue_append [c] (c' :: rest)
    rw [List.singleton_append] at hvalue
    rw [hvalue] at hfits
    rw [foldlM_digits true hrest hphase, takeAll_of_fits rfl hfits]
    simp [begun, hzero, hvalue]

/-! ### Whole numbers -/

theorem read_ofList (text : List Char) :
    Value.read (String.ofList text) = text.foldlM step {} >>= finish := by
  rw [Value.read, String.toList_ofList]

theorem finish_numeral {number : Number} (finished : n.isFinished = true)
    (h : n.number? = some number) : finish ⟨[], .numeral n⟩ = .ok (.number number) := by
  simp [finish, finished, h]

theorem phase_begun (negative : Bool) (digits : List Char) :
    (begun negative digits).phase = .zero ∨ (begun negative digits).phase = .integer := by
  by_cases h : digits = ['0'] <;> simp [begun, h]

theorem number?_begun {w : Whole} (hvalue : w.val = Double.signed negative (decimalValue digits))
    (hzero : negative = true → w.val ≠ 0) : (begun negative digits).number? = some (.whole w) := by
  have hphase : (decide ((begun negative digits).phase = .zero) ||
      decide ((begun negative digits).phase = .integer)) = true := by
    simpa using phase_begun negative digits
  have hsigned : (if negative = true then -(decimalValue digits : ℤ) else decimalValue digits) =
      w.val := hvalue.symm
  have hnot : (negative && decimalValue digits == 0) = false := by
    cases negative with
    | false => rfl
    | true =>
      have hne := hzero rfl
      rw [hvalue] at hne
      simpa [Double.signed] using hne
  have hw : Whole.ofInt? w.val = some w := dif_pos ⟨w.lower, w.upper⟩
  have hnegative : (begun negative digits).negative = negative := rfl
  have hsignificand : (begun negative digits).significand = decimalValue digits := rfl
  have hfull : (begun negative digits).full = false := rfl
  simp only [Numeral.number?, hphase, hnegative, hsignificand, hfull, hsigned, hnot, hw,
    Bool.not_false, Bool.and_self, if_true]

/-- Whole numbers are read as they are, minus zero apart. -/
theorem read_whole {w : Whole} (whole : IsWholePart digits)
    (hvalue : w.val = Double.signed negative (decimalValue digits))
    (hzero : negative = true → w.val ≠ 0) :
    Value.read (String.ofList (signText negative ++ digits)) = .ok (.whole w) := by
  have hfits : decimalValue digits ≤ maxSignificand := by
    have hlower := w.lower
    have hupper := w.upper
    rw [hvalue] at hlower hupper
    unfold maxSignificand
    cases negative <;> simp [Double.signed] at hlower hupper <;> omega
  have hfinished : (begun negative digits).isFinished = true := by
    rcases phase_begun negative digits with h | h <;> rw [Numeral.isFinished, h]
  rw [read_ofList, foldlM_begun negative whole hfits, ok_bind,
    finish_numeral hfinished (number?_begun hvalue hzero)]
  rfl

/-! ### Decimals -/

/-- The digits after a point are read as those of one number with the digits before it. -/
theorem foldlM_places (some : places ≠ []) (each : ∀ c ∈ places, c.isDigit = true) :
    places.foldlM step ⟨frames, .numeral { n with phase := .point }⟩ =
      .ok ⟨frames, .numeral (takeAll false { n with phase := .fraction } places)⟩ := by
  obtain ⟨c, rest, rfl⟩ := List.exists_cons_of_ne_nil some
  obtain ⟨hc, hrest⟩ := List.forall_mem_cons.mp each
  have hphase : ({ n with phase := .fraction } : Numeral).phase = .fraction := rfl
  rw [List.foldlM_cons, step_digit hc rfl, ok_bind, foldlM_digits false hrest]
  · rfl
  · rw [phase_take]
    rfl

theorem step_point (h : n.phase = .zero ∨ n.phase = .integer) :
    step ⟨frames, .numeral n⟩ '.' =
      .ok ⟨frames, .numeral { n with phase := .point, full := false }⟩ := by
  simp [step, stepNumeral, h]

theorem number?_of_fraction (h : n.phase = .fraction) : n.number? = n.double?.map .double := by
  simp [Numeral.number?, h]

/-- A number with few digits and a small power of ten is the nearest double. -/
theorem exists_double?_isNearest (hexponent : n.exponent ≤ maxExponent)
    (hsignificand : n.significand ≤ 2 ^ 53) (hpower : n.power.natAbs ≤ 22) :
    ∃ x, n.double? = some x ∧ x.negative = n.negative ∧
      x.IsNearest (Double.signed n.negative n.significand * 10 ^ n.power) := by
  rw [Numeral.double?, if_neg (Nat.not_lt.mpr hexponent)]
  exact Double.exists_scale?_isNearest n.negative hsignificand hpower

/-- The numeral at the end of a decimal. -/
def placed (negative : Bool) (digits places : List Char) : Numeral where
  phase := .fraction
  negative
  significand := decimalValue (digits ++ places)
  scale := -places.length

theorem power_placed (negative : Bool) (digits places : List Char) :
    (placed negative digits places).power = -places.length := by
  simp [Numeral.power, placed]

/-- The state at the end of a decimal whose digits fit. -/
theorem foldlM_placed (negative : Bool) (whole : IsWholePart digits) (some : places ≠ [])
    (each : ∀ c ∈ places, c.isDigit = true)
    (hfits : decimalValue (digits ++ places) ≤ maxSignificand) :
    (signText negative ++ digits ++ '.' :: places).foldlM step {} =
      .ok ⟨[], .numeral (placed negative digits places)⟩ := by
  have hvalue := decimalValue_append digits places
  have hdigits : decimalValue digits ≤ maxSignificand := by
    have hpow : 0 < 10 ^ places.length := Nat.pow_pos (by decide)
    have hle := Nat.le_mul_of_pos_right (decimalValue digits) hpow
    omega
  have hplaces : takeAll false { begun negative digits with phase := .fraction } places =
      placed negative digits places := by
    rw [hvalue] at hfits
    rw [takeAll_of_fits rfl hfits, placed, hvalue]
    simp [begun]
  have hpoint : step ⟨[], .numeral (begun negative digits)⟩ '.' =
      .ok ⟨[], .numeral { begun negative digits with phase := .point }⟩ :=
    step_point (phase_begun negative digits)
  rw [List.foldlM_append, foldlM_begun negative whole hdigits, ok_bind, List.foldlM_cons, hpoint,
    ok_bind, foldlM_places some each, hplaces]

/-- A decimal of at most fifteen digits is read as the double nearest to it. -/
theorem read_decimal (negative : Bool) (whole : IsWholePart digits) (some : places ≠ [])
    (each : ∀ c ∈ places, c.isDigit = true) (short : digits.length + places.length ≤ 15) :
    ∃ x : Double,
      Value.read (String.ofList (signText negative ++ digits ++ '.' :: places)) =
        .ok (.number (.double x)) ∧ x.negative = negative ∧
      x.IsNearest (Double.signed negative (decimalValue (digits ++ places)) *
        10 ^ (-places.length : ℤ)) := by
  have hlt := decimalValue_lt (List.forall_mem_append.mpr ⟨whole.each, each⟩)
  rw [List.length_append] at hlt
  have hbound : decimalValue (digits ++ places) < 10 ^ 15 :=
    hlt.trans_le (Nat.pow_le_pow_right (by decide) short)
  have hmax : 10 ^ 15 ≤ maxSignificand := by decide
  have hbits : 10 ^ 15 ≤ 2 ^ 53 := by decide
  have hpower : (placed negative digits places).power.natAbs ≤ 22 := by
    rw [power_placed]
    omega
  obtain ⟨x, hx, hnegative, hnearest⟩ := exists_double?_isNearest
    (n := placed negative digits places) (Nat.zero_le _) (hbound.le.trans hbits) hpower
  have hnumber : (placed negative digits places).number? = .some (.double x) := by
    rw [number?_of_fraction rfl, hx, Option.map_some]
  rw [power_placed] at hnearest
  refine ⟨x, ?_, hnegative, hnearest⟩
  rw [read_ofList, foldlM_placed negative whole some each (hbound.le.trans hmax), ok_bind,
    finish_numeral rfl hnumber]

/-- Of numbers with more digits one may be refused and a greater one be read. -/
example : (Value.read "1.7976931348623158e308").toOption.isNone = true ∧
    (Value.read "1.79769313486231581e308").toOption.isSome = true := by
  decide +kernel

end ParamSchema.Reader
