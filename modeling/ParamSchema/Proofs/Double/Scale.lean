import ParamSchema.Proofs.Double.Decimal
import ParamSchema.Double.Scale

/-!
Products, quotients and scaling. A product or quotient is the double nearest to the exact one
(`isNearest_mul?`, `isNearest_div?`), and only an overflow is refused (`exists_mul?_iff`,
`exists_div?_iff`). Dividing by powers of ten never is one (`exists_scale?_negSucc`). Scaling a
whole number of up to 53 bits by one of the powers of ten that are doubles rounds only once, so it
gives the nearest double (`exists_scale?_isNearest`).
-/

namespace ParamSchema.Double

variable {a b d x : Double} {negative : Bool} {n e : ℕ}

/-! ### Products and quotients -/

theorem value_eq_div (d : Double) : d.value = signed d.negative d.units / unitsPerOne := rfl

theorem signed_mul_signed (p q : Bool) (m n : ℕ) :
    signed p m * signed q n = signed (p != q) (m * n) := by
  cases p <;> cases q <;> simp [signed]

theorem value_mul_value (a b : Double) : a.value * b.value =
    signed (a.negative != b.negative) (a.units * b.units) / (unitsPerOne * unitsPerOne : ℕ) := by
  rw [value_eq_div, value_eq_div, div_mul_div_comm, ← signed_mul_signed]
  push_cast
  rfl

theorem signed_div_signed (p q : Bool) (m : ℕ) (n : ℕ) :
    (signed p m / signed q n : ℚ) = signed (p != q) m / n := by
  cases p <;> cases q <;> simp [signed, neg_div, div_neg]

theorem value_div_value (a b : Double) :
    a.value / b.value = signed (a.negative != b.negative) a.units / b.units := by
  have hunits : (unitsPerOne : ℚ) ≠ 0 := Nat.cast_ne_zero.mpr unitsPerOne_pos.ne'
  rw [value_eq_div, value_eq_div, div_div_div_cancel_right₀ hunits, signed_div_signed]

theorem abs_signed_div (negative : Bool) (num den : ℕ) :
    |(signed negative num / den : ℚ)| = num / den := by
  have hpos : (0 : ℚ) ≤ num / den := by positivity
  cases negative <;> simp [signed, neg_div, abs_of_nonneg hpos]

theorem one_mul_one_pos : 0 < unitsPerOne * unitsPerOne :=
  Nat.mul_pos unitsPerOne_pos unitsPerOne_pos

theorem isNearest_mul? (h : a.mul? b = some d) : d.IsNearest (a.value * b.value) := by
  rw [value_mul_value]
  exact isNearest_ofRatio? one_mul_one_pos h

theorem isNearest_div? (hb : 0 < b.units) (h : a.div? b = some d) :
    d.IsNearest (a.value / b.value) := by
  rw [value_div_value]
  exact isNearest_ofRatio? hb h

theorem exists_mul?_iff :
    (∃ d, a.mul? b = some d) ↔ |a.value * b.value| < 2 ^ 1024 - 2 ^ 970 := by
  rw [value_mul_value, abs_signed_div]
  exact exists_ofRatio?_iff_lt one_mul_one_pos

theorem exists_div?_iff (hb : 0 < b.units) :
    (∃ d, a.div? b = some d) ↔ |a.value / b.value| < 2 ^ 1024 - 2 ^ 970 := by
  rw [value_div_value, abs_signed_div]
  exact exists_ofRatio?_iff_lt hb

theorem negative_of_mul? (h : a.mul? b = some d) : d.negative = (a.negative != b.negative) :=
  negative_of_ofRatio? h

theorem negative_of_div? (h : a.div? b = some d) : d.negative = (a.negative != b.negative) :=
  negative_of_ofRatio? h

theorem lt_of_lt_two_pow {k s t one : ℕ} (ht : 54 + (e + s) = t) (hone : one = 2 ^ s)
    (hk : 2 ^ excess k ∣ k) (hlt : k < 2 ^ t) : k < (2 ^ 54 - 1) * 2 ^ e * one := by
  rw [two_pow_eq_mul ht] at hlt
  rw [hone, Nat.mul_assoc, ← Nat.pow_add]
  exact (le_of_lt_two_pow hk hlt).trans_lt
    (Nat.mul_lt_mul_of_pos_right (by decide) (Nat.two_pow_pos _))

/-- Every double is below the threshold of overflow. -/
theorem abs_value_lt (d : Double) : |d.value| < 2 ^ 1024 - 2 ^ 970 := by
  have hexp : 54 + 970 = 1024 := rfl
  have hover : 54 + (970 + 1074) = 2098 := rfl
  obtain ⟨hdvd, hlt⟩ := d.representable
  rw [overflowUnits] at hlt
  have hunits := lt_of_lt_two_pow hover unitsPerOne.eq_def hdvd hlt
  have hvalue := (lt_two_pow_sub_iff d.units unitsPerOne_pos 970).mpr hunits
  rw [value_eq_div, abs_signed_div, ← hexp]
  exact hvalue

theorem units_pos_of_one_le (h : 1 ≤ d.value) : 0 < d.units := by
  refine Nat.pos_of_ne_zero fun hzero => ?_
  have hvalue : d.value = 0 := by
    have hsigned : signed d.negative 0 = 0 := by cases d.negative <;> rfl
    rw [value_eq_div, hzero, hsigned, Int.cast_zero, zero_div]
  linarith

theorem exists_div?_of_one_le (hb : 1 ≤ b.value) :
    ∃ d, a.div? b = some d ∧ d.negative = (a.negative != b.negative) := by
  have hle : |a.value / b.value| ≤ |a.value| := by
    rw [abs_div, abs_of_pos (lt_of_lt_of_le one_pos hb)]
    exact div_le_self (abs_nonneg _) hb
  obtain ⟨d, hd⟩ := (exists_div?_iff (units_pos_of_one_le hb)).mpr (hle.trans_lt a.abs_value_lt)
  exact ⟨d, hd, negative_of_div? hd⟩

/-! ### Powers of ten -/

/-- A number that is a double is nearest to itself alone. -/
theorem IsNearest.value_eq_of_value (h : d.IsNearest a.value) : d.value = a.value := by
  have hclosest := h.closest a
  rw [sub_self, abs_zero, abs_nonpos_iff, sub_eq_zero] at hclosest
  exact hclosest

/-- A whole number that is a double is not rounded. -/
theorem value_of_ofRatio?_one (hn : Representable (n * unitsPerOne))
    (h : ofRatio? negative n 1 = some d) : d.value = signed negative n := by
  have hunits : (unitsPerOne : ℚ) ≠ 0 := Nat.cast_ne_zero.mpr unitsPerOne_pos.ne'
  have hexact : value ⟨negative, n * unitsPerOne, hn⟩ = signed negative n := by
    rw [value_eq_div, div_eq_iff hunits]
    exact_mod_cast (signed_mul negative n unitsPerOne).symm
  have hnearest := isNearest_ofRatio? Nat.one_pos h
  rw [Nat.cast_one, div_one, ← hexact] at hnearest
  exact hnearest.value_eq_of_value.trans hexact

theorem representable_ten_pow (h : e ≤ 22) : Representable (10 ^ e * unitsPerOne) := by
  have hfive : 5 ^ e ≤ 2 ^ 53 := (Nat.pow_le_pow_right (by decide) h).trans (by decide)
  have hten : 10 ^ e ≤ 10 ^ 22 := Nat.pow_le_pow_right (by decide) h
  have hsplit : 10 ^ e * unitsPerOne = 5 ^ e * 2 ^ (e + 1074) := by
    rw [Nat.pow_add, ← unitsPerOne, ← Nat.mul_assoc, ← Nat.mul_pow]
  have hbits : 10 ^ 22 < 2 ^ 80 := by decide
  have hrange : 80 ≤ 1024 := by decide
  have hpow := Nat.pow_le_pow_right Nat.two_pos hrange
  have hlt := Nat.mul_lt_mul_of_pos_right (hten.trans_lt (hbits.trans_le hpow)) unitsPerOne_pos
  rw [← overflowUnits_eq] at hlt
  refine ⟨?_, hlt⟩
  rw [hsplit]
  exact two_pow_dvd_of_le hfive

theorem isNearest_powerOfTen? (h : powerOfTen? e = some d) :
    d.IsNearest (10 ^ e) ∧ d.negative = false := by
  rw [powerOfTen?, Option.ite_none_right_eq_some] at h
  have hnearest := isNearest_ofRatio? Nat.one_pos h.2
  refine ⟨?_, negative_of_ofRatio? h.2⟩
  simpa [signed] using hnearest

theorem cast_lt_sub {k t : ℕ} (h : n + 2 ^ k < 2 ^ t) : (n : ℚ) < 2 ^ t - 2 ^ k := by
  rw [lt_sub_iff_add_lt]
  exact_mod_cast h

theorem exists_powerOfTen? (h : e ≤ maxPower) : ∃ d, powerOfTen? e = some d := by
  have hmax : 10 ^ maxPower + 2 ^ 970 < 2 ^ 1024 := by decide +kernel
  have hle : 10 ^ e ≤ 10 ^ maxPower := Nat.pow_le_pow_right (by decide) h
  have hlt := cast_lt_sub ((Nat.add_le_add_right hle _).trans_lt hmax)
  rw [powerOfTen?, if_pos h, exists_ofRatio?_iff_lt Nat.one_pos, Nat.cast_one, div_one]
  exact hlt

theorem value_powerOfTen? (he : e ≤ 22) (h : powerOfTen? e = some d) : d.value = 10 ^ e := by
  rw [powerOfTen?, Option.ite_none_right_eq_some] at h
  rw [value_of_ofRatio?_one (representable_ten_pow he) h.2]
  simp [signed]

theorem one_le_powerOfTen? (h : powerOfTen? e = some d) : 1 ≤ d.value := by
  obtain ⟨one, hone⟩ := exists_powerOfTen? (Nat.zero_le maxPower)
  have hvalue := value_powerOfTen? (Nat.zero_le 22) hone
  rw [pow_zero] at hvalue
  rcases e.eq_zero_or_pos with rfl | hpos
  · cases hone.symm.trans h
    exact hvalue.ge
  · have hnearest := isNearest_value one
    rw [hvalue] at hnearest
    have hlt : (1 : ℚ) < 10 ^ e := one_lt_pow₀ (by norm_num) hpos.ne'
    rw [← hvalue]
    exact hnearest.mono (isNearest_powerOfTen? h).1 hlt

/-! ### Scaling -/

variable {p : Double}

/-- Dividing by a double from one on again and again only loses digits. -/
theorem exists_divTimes? (hp : 1 ≤ p.value) (hsign : p.negative = false) (d : Double) (count : ℕ) :
    ∃ x, d.divTimes? p count = some x ∧ x.negative = d.negative := by
  induction count generalizing d with
  | zero => exact ⟨d, rfl, rfl⟩
  | succ count ih =>
    by_cases hd : d.units = 0
    · refine ⟨d, ?_, rfl⟩
      rw [divTimes?, if_pos hd]
    · obtain ⟨quotient, hquotient, hnegative⟩ := exists_div?_of_one_le (a := d) hp
      obtain ⟨x, hx, hsame⟩ := ih quotient
      refine ⟨x, ?_, ?_⟩
      · rw [divTimes?, if_neg hd, hquotient, Option.bind_some, hx]
      · rw [hsame, hnegative, hsign, Bool.bne_false]

theorem scale?_negSucc {greatest : Double} (hgreatest : powerOfTen? maxPower = some greatest)
    (hp : powerOfTen? (e % maxPower + 1) = some p) : d.scale? (.negSucc e) =
      (d.divTimes? greatest (e / maxPower)).bind fun lowered => lowered.div? p := by
  rw [scale?, hgreatest, hp, Option.bind_eq_bind, Option.bind_some, Option.bind_some]

/-- Dividing by a power of ten never fails. -/
theorem exists_scale?_negSucc (d : Double) (e : ℕ) :
    ∃ x, d.scale? (.negSucc e) = some x ∧ x.negative = d.negative := by
  have hrest : e % maxPower + 1 ≤ maxPower := Nat.mod_lt e (by decide)
  obtain ⟨greatest, hgreatest⟩ := exists_powerOfTen? (Nat.le_refl maxPower)
  obtain ⟨p, hp⟩ := exists_powerOfTen? hrest
  obtain ⟨lowered, hlowered, hsign⟩ := exists_divTimes? (one_le_powerOfTen? hgreatest)
    (isNearest_powerOfTen? hgreatest).2 d (e / maxPower)
  obtain ⟨x, hx, hnegative⟩ := exists_div?_of_one_le (a := lowered) (one_le_powerOfTen? hp)
  refine ⟨x, ?_, ?_⟩
  · rw [scale?_negSucc hgreatest hp, hlowered, Option.bind_some, hx]
  · rw [hnegative, hsign, (isNearest_powerOfTen? hp).2, Bool.bne_false]

theorem scale?_ofNat (he : e ≤ maxPower) (hp : powerOfTen? e = some p) :
    d.scale? (.ofNat e) = d.mul? p := by
  have hrange : ¬(decide (maxPower < e) && d.units == 0) = true := by
    rw [decide_eq_false (Nat.not_lt.mpr he), Bool.false_and]
    exact Bool.false_ne_true
  rw [scale?, if_neg hrange, hp, Option.bind_eq_bind, Option.bind_some]

theorem exists_mul?_of_le (hn : n ≤ 2 ^ 53) (he : e ≤ 22) (hd : d.value = signed negative n)
    (hp : p.value = 10 ^ e) : ∃ x, d.mul? p = some x := by
  have hmax : 2 ^ 53 * 10 ^ 22 + 2 ^ 970 < 2 ^ 1024 := by decide +kernel
  have hle : n * 10 ^ e ≤ 2 ^ 53 * 10 ^ 22 :=
    Nat.mul_le_mul hn (Nat.pow_le_pow_right (by decide) he)
  have hlt := cast_lt_sub ((Nat.add_le_add_right hle _).trans_lt hmax)
  have habs : |d.value * p.value| = (n * 10 ^ e : ℕ) := by
    have hsigned := abs_signed_div negative n 1
    rw [Nat.cast_one, div_one, div_one] at hsigned
    have hpow : (0 : ℚ) < 10 ^ e := by positivity
    rw [hd, hp, abs_mul, hsigned, abs_of_pos hpow]
    push_cast
    rfl
  rw [exists_mul?_iff, habs]
  exact hlt

/-- A whole number of up to 53 bits times or divided by one of the first powers of ten is rounded
once, to the nearest double. -/
theorem exists_scale?_isNearest {exponent : ℤ} (negative : Bool) (hn : n ≤ 2 ^ 53)
    (he : exponent.natAbs ≤ 22) :
    ∃ x, (ofRatio? negative n 1).bind (·.scale? exponent) = some x ∧ x.negative = negative ∧
      x.IsNearest (signed negative n * 10 ^ exponent) := by
  obtain ⟨d, hd⟩ := exists_ofRatio?_one negative (n := n) (by omega)
  have hvalue := value_of_ofRatio?_one (representable_mul_unitsPerOne hn) hd
  have hsign := negative_of_ofRatio? hd
  rw [hd, Option.bind_some, ← hvalue]
  cases exponent with
  | ofNat e =>
    replace he : e ≤ 22 := he
    have hrange : e ≤ maxPower := he.trans (by decide)
    obtain ⟨p, hp⟩ := exists_powerOfTen? hrange
    have hpower := value_powerOfTen? he hp
    obtain ⟨x, hx⟩ := exists_mul?_of_le hn he hvalue hpower
    refine ⟨x, (scale?_ofNat hrange hp).trans hx, ?_, ?_⟩
    · rw [negative_of_mul? hx, hsign, (isNearest_powerOfTen? hp).2, Bool.bne_false]
    · rw [Int.ofNat_eq_natCast, zpow_natCast, ← hpower]
      exact isNearest_mul? hx
  | negSucc e =>
    replace he : e + 1 ≤ 22 := he
    have hlt : e < maxPower := Nat.lt_of_lt_of_le he (by decide)
    obtain ⟨greatest, hgreatest⟩ := exists_powerOfTen? (Nat.le_refl maxPower)
    obtain ⟨p, hp⟩ : ∃ p, powerOfTen? (e + 1) = some p := exists_powerOfTen? hlt
    have hrest : powerOfTen? (e % maxPower + 1) = some p := by rw [Nat.mod_eq_of_lt hlt, hp]
    have hpower := value_powerOfTen? he hp
    have hone := one_le_powerOfTen? hp
    obtain ⟨x, hx, hnegative⟩ := exists_div?_of_one_le (a := d) hone
    refine ⟨x, ?_, ?_, ?_⟩
    · rw [scale?_negSucc hgreatest hrest, Nat.div_eq_of_lt hlt, divTimes?, Option.bind_some, hx]
    · rw [hnegative, hsign, (isNearest_powerOfTen? hp).2, Bool.bne_false]
    · rw [zpow_negSucc, ← hpower, ← div_eq_mul_inv]
      exact isNearest_div? (units_pos_of_one_le hone) hx

end ParamSchema.Double
