import ParamSchema.Proofs.Value.Same
import ParamSchema.Proofs.Value.Text
import ParamSchema.Rule.Builtin

/-!
Loose equality, which the rules `equals`, `isIn` and `contains` share: two values are loosely equal
if they are the same value or have the same text. The two zeros are the same number and have
different texts, and nothing else keeps loose equality from being an equivalence relation
(`equals_trans_iff`). The rules of membership look for a loosely equal item, wherever it stands
(`membership_agrees`).
-/

namespace ParamSchema

namespace Value

variable {a b c : Value} {negative : Bool}

/-- A zero of the doubles. -/
def zero (negative : Bool) : Value := .number (.double (.zero negative))

theorem looselyEqual_iff : a.looselyEqual b = true ↔
    a.same b = true ∨ ∃ s, a.asText? = some s ∧ b.asText? = some s := by
  rw [looselyEqual, Bool.or_eq_true]
  cases a.asText? with
  | none => simp
  | some x =>
    cases b.asText? with
    | none => simp
    | some y => simp [eq_comm (a := x)]

theorem looselyEqual_self (h : a.Distinct) : a.looselyEqual a = true :=
  looselyEqual_iff.mpr (.inl (same_self h))

theorem looselyEqual_comm (ha : a.Distinct) (hb : b.Distinct) :
    a.looselyEqual b = b.looselyEqual a := by
  rw [Bool.eq_iff_iff, looselyEqual_iff, looselyEqual_iff, same_comm ha hb]
  exact or_congr_right (exists_congr fun _ => and_comm)

/-! ### Texts of equal values -/

theorem asText?_zero (negative : Bool) :
    (zero negative).asText? = some (Double.zero negative).text := rfl

theorem eq_zero_of_units {d : Double} (h : d.units = 0) :
    Value.number (.double d) = zero d.negative := by
  cases d
  cases h
  rfl

theorem same_zero (negative negative' : Bool) : (zero negative).same (zero negative') = true := by
  cases negative <;> cases negative' <;> rfl

/-- Doubles that are equal as numbers are equal, or they are the two zeros. -/
theorem eq_or_zero_of_signedUnits {d d' : Double} (h : d.signedUnits = d'.signedUnits) :
    d = d' ∨ d.units = 0 ∧ d'.units = 0 ∧ d.negative = !d'.negative := by
  obtain ⟨negative, units, _⟩ := d
  obtain ⟨negative', units', _⟩ := d'
  simp only [Double.signedUnits] at h
  cases negative <;> cases negative' <;> simp at h ⊢ <;> omega

/-- The same value has the same text, but for the sign of a zero. -/
theorem asText?_of_same (h : a.same b = true) :
    a.asText? = b.asText? ∨ ∃ negative, a = zero (!negative) ∧ b = zero negative := by
  cases a with
  | null =>
    rw [same_null_iff.mp h]
    exact .inl rfl
  | bool =>
    rw [same_bool_iff.mp h]
    exact .inl rfl
  | string =>
    rw [same_string_iff.mp h]
    exact .inl rfl
  | array =>
    obtain ⟨items, rfl, -⟩ := same_array_iff.mp h
    exact .inl rfl
  | object =>
    obtain ⟨members, rfl, -⟩ := same_object_iff.mp h
    exact .inl rfl
  | number m =>
    obtain ⟨n, rfl, hsame⟩ := same_number_iff.mp h
    cases m <;> cases n <;> simp only [Number.same, beq_iff_eq, reduceCtorEq] at hsame
    case whole.whole w w' => exact .inl (by simp only [asText?, Number.text, hsame])
    case double.double d d' =>
      obtain rfl | ⟨hd, hd', hsign⟩ := eq_or_zero_of_signedUnits hsame
      · exact .inl rfl
      · rw [eq_zero_of_units hd, eq_zero_of_units hd', hsign]
        exact .inr ⟨d'.negative, rfl, rfl⟩

/-- What has the text of a zero is a zero or a string. -/
theorem zero_or_string_of_text (h : a.asText? = (zero negative).asText?) :
    (∃ negative', a = zero negative') ∨ a = string (Double.zero negative).text := by
  rw [asText?_zero] at h
  cases a with
  | null | array | object => cases h
  | bool b =>
    rw [Double.text_zero] at h
    cases b <;> cases negative <;> simp [asText?] at h
  | string s => exact .inr (congrArg string (Option.some.inj h))
  | number n =>
    have htext : n.text = (Double.zero negative).text := Option.some.inj h
    cases n with
    | whole w =>
      have hpoint := Number.point_notMem_text w
      rw [htext, Double.text_zero] at hpoint
      cases negative <;> simp at hpoint
    | double d => exact .inl ⟨d.negative, eq_zero_of_units (Double.units_of_text htext)⟩

/-! ### Three values -/

/-- The value in the middle is a zero; of the others, one is the text of this zero and one the zero
of the other sign. -/
inductive ZeroText : Value → Value → Value → Prop
  | last (negative : Bool) :
    ZeroText (zero !negative) (zero negative) (string (Double.zero negative).text)
  | first (negative : Bool) :
    ZeroText (string (Double.zero negative).text) (zero negative) (zero !negative)

theorem not_looselyEqual_of_zeroText (h : ZeroText a b c) : ¬a.looselyEqual c = true := by
  rw [looselyEqual_iff]
  cases h with
  | last negative | first negative =>
    rintro (h | ⟨s, ha, hc⟩)
    · cases h
    · cases ha
      revert hc
      cases negative <;> decide

/-- A zero and what has its text, beside a zero. -/
theorem looselyEqual_or_zeroText (h : c.asText? = (zero negative).asText?) :
    (zero !negative).looselyEqual c = true ∧ c.looselyEqual (zero !negative) = true ∨
      c = string (Double.zero negative).text := by
  refine (zero_or_string_of_text h).imp_left ?_
  rintro ⟨negative', rfl⟩
  exact ⟨looselyEqual_iff.mpr (.inl (same_zero _ _)), looselyEqual_iff.mpr (.inl (same_zero _ _))⟩

theorem looselyEqual_trans_or (hab : a.looselyEqual b = true) (hbc : b.looselyEqual c = true) :
    a.looselyEqual c = true ∨ ZeroText a b c := by
  have htext (h : a.asText? = b.asText?) {s : String} (hb : b.asText? = some s)
      (hc : c.asText? = some s) : a.looselyEqual c = true :=
    looselyEqual_iff.mpr (.inr ⟨s, h.trans hb, hc⟩)
  rcases looselyEqual_iff.mp hab with hab | ⟨s, ha, hb⟩ <;>
    rcases looselyEqual_iff.mp hbc with hbc | ⟨t, hb', hc⟩
  · exact .inl (looselyEqual_iff.mpr (.inl (same_trans hab hbc)))
  · obtain hsame | ⟨negative, rfl, rfl⟩ := asText?_of_same hab
    · exact .inl (htext hsame hb' hc)
    · rcases looselyEqual_or_zeroText (hc.trans hb'.symm) with ⟨h, -⟩ | rfl
      · exact .inl h
      · exact .inr (.last negative)
  · obtain hsame | ⟨negative, rfl, rfl⟩ := asText?_of_same hbc
    · exact .inl (htext (ha.trans hb.symm) hb (hsame ▸ hb))
    · rcases looselyEqual_or_zeroText (ha.trans hb.symm) with ⟨-, h⟩ | rfl
      · rw [Bool.not_not] at h
        exact .inl h
      · have hfirst := ZeroText.first !negative
        rw [Bool.not_not] at hfirst
        exact .inr hfirst
  · exact .inl (htext (ha.trans hb.symm) hb' hc)

/-- The values that a document can hold, other than the zero with a minus. -/
def Plain (v : Value) : Prop := v.Distinct ∧ v ≠ zero true

/-- The two zeros of an exception are not both plain. -/
theorem not_zeroText_of_plain (ha : a.Plain) (hb : b.Plain) (hc : c.Plain) : ¬ZeroText a b c := by
  rintro (negative | negative)
  · cases negative
    · exact ha.2 rfl
    · exact hb.2 rfl
  · cases negative
    · exact hc.2 rfl
    · exact hb.2 rfl

end Value

namespace Rule

open Value

variable {a b c v : Value} {items : List Value}

theorem equals_single (a b : Value) : equals a [b] = a.looselyEqual b := rfl

theorem equals_trans_iff (hab : equals a [b] = true) (hbc : equals b [c] = true) :
    equals a [c] = true ↔ ¬ZeroText a b c :=
  ⟨fun hac hzero => not_looselyEqual_of_zeroText hzero hac,
    (looselyEqual_trans_or hab hbc).resolve_right⟩

/-- Equality is transitive but for the two zeros and the text of one of them; without the zero with
a minus it is an equivalence relation. -/
theorem equals_equivalence :
    (∀ a b c, equals a [b] = true → equals b [c] = true →
      (equals a [c] = true ↔ ¬ZeroText a b c)) ∧
    (∀ a b : Value, a.Distinct → b.Distinct →
      equals a [a] = true ∧ equals a [b] = equals b [a]) ∧
    Equivalence fun a b : {v : Value // v.Plain} => equals a.1 [b.1] = true := by
  refine ⟨fun a b c hab hbc => equals_trans_iff hab hbc,
    fun a b ha hb => ⟨looselyEqual_self ha, looselyEqual_comm ha hb⟩, ?_, ?_, ?_⟩
  · intro a
    exact looselyEqual_self a.2.1
  · intro a b hab
    exact (looselyEqual_comm b.2.1 a.2.1).trans hab
  · intro a b c hab hbc
    exact (equals_trans_iff hab hbc).mpr (not_zeroText_of_plain a.2 b.2 c.2)

theorem equals_equivalence_zero :
    (zero true).Distinct ∧ (string "-0.0").Distinct ∧
    equals (string "-0.0") [zero true] = true ∧ equals (zero true) [zero true] = true ∧
    (equals (string "-0.0") [zero true] = true ↔
      ¬ZeroText (string "-0.0") (zero true) (zero true)) ∧
    equals (zero true) [string "-0.0"] = equals (string "-0.0") [zero true] := by
  have hab : equals (string "-0.0") [zero true] = true := by decide
  have hbc : equals (zero true) [zero true] = true := by decide
  obtain ⟨htrans, hsymm, -⟩ := equals_equivalence
  have hcomm := hsymm (zero true) (string "-0.0") (distinct_number _) (distinct_string _)
  exact ⟨distinct_number _, distinct_string _, hab, hbc, htrans _ _ _ hab hbc, hcomm.2⟩

/-- Zero equals minus zero, and minus zero equals its text, which zero does not equal. -/
theorem equals_not_trans_zero : ¬∀ a b c,
    equals a [b] = true → equals b [c] = true → equals a [c] = true := by
  intro h
  have hzeros : equals (zero false) [zero true] = true := by decide
  have htext : equals (zero true) [string "-0.0"] = true := by decide
  have hnot : equals (zero false) [string "-0.0"] = false := by decide
  rw [h _ _ _ hzeros htext] at hnot
  cases hnot

/-! ### Membership -/

theorem isIn_iff : isIn v [array items] = true ↔ ∃ item ∈ items, equals v [item] = true := by
  simp [isIn, equals_single]

theorem contains_iff :
    contains (array items) [v] = true ↔ ∃ item ∈ items, equals item [v] = true := by
  simp [contains, equals_single]

theorem contains_eq_isIn (hv : v.Distinct) (hitems : (array items).Distinct) :
    contains (array items) [v] = isIn v [array items] := by
  rw [Bool.eq_iff_iff, contains_iff, isIn_iff]
  have each := distinct_array_iff.mp hitems
  constructor
  · rintro ⟨item, hitem, hequals⟩
    exact ⟨item, hitem, (looselyEqual_comm hv (each item hitem)).trans hequals⟩
  · rintro ⟨item, hitem, hequals⟩
    exact ⟨item, hitem, (looselyEqual_comm (each item hitem) hv).trans hequals⟩

/-- More items keep a value that was among them. -/
theorem isIn_mono {more : List Value} (hsub : items ⊆ more) (h : isIn v [array items] = true) :
    isIn v [array more] = true := by
  obtain ⟨item, hitem, hequals⟩ := isIn_iff.mp h
  exact isIn_iff.mpr ⟨item, hsub hitem, hequals⟩

theorem contains_mono {more : List Value} (hsub : items ⊆ more)
    (h : contains (array items) [v] = true) : contains (array more) [v] = true := by
  obtain ⟨item, hitem, hequals⟩ := contains_iff.mp h
  exact contains_iff.mpr ⟨item, hsub hitem, hequals⟩

/-- Equality is reflexive and symmetric. A value is in an array exactly if the array contains it,
which means that it equals an item: the order of the items and how often each is there play no part,
and more items do no harm. -/
theorem membership_agrees (hv : v.Distinct) (hitems : (array items).Distinct) :
    (equals v [v] = true ∧ ∀ w : Value, w.Distinct → equals v [w] = equals w [v]) ∧
    isIn v [array items] = contains (array items) [v] ∧
    (isIn v [array items] = true ↔ ∃ item ∈ items, equals v [item] = true) ∧
    (∀ others, (∀ item, item ∈ others ↔ item ∈ items) →
      isIn v [array others] = isIn v [array items] ∧
      contains (array others) [v] = contains (array items) [v]) ∧
    (∀ more, (isIn v [array items] = true → isIn v [array (items ++ more)] = true) ∧
      (contains (array items) [v] = true → contains (array (items ++ more)) [v] = true)) := by
  refine ⟨⟨looselyEqual_self hv, fun w hw => looselyEqual_comm hv hw⟩,
    (contains_eq_isIn hv hitems).symm, isIn_iff, fun others hsame => ⟨?_, ?_⟩, fun more => ⟨?_, ?_⟩⟩
  · rw [Bool.eq_iff_iff]
    exact ⟨isIn_mono fun item => (hsame item).mp, isIn_mono fun item => (hsame item).mpr⟩
  · rw [Bool.eq_iff_iff]
    exact ⟨contains_mono fun item => (hsame item).mp, contains_mono fun item => (hsame item).mpr⟩
  · exact isIn_mono (List.subset_append_left items more)
  · exact contains_mono (List.subset_append_left items more)

/-- A point, and the same point with its coordinates in the other order. -/
def point : Value := .object [("x", .bool true), ("y", .zero false)]

def turned : Value := .object [("y", .zero true), ("x", .bool true)]

theorem membership_agrees_point :
    point.Distinct ∧ (array [null, turned]).Distinct ∧ turned.Distinct ∧
    equals point [turned] = equals turned [point] ∧
    isIn point [array [null, turned]] = contains (array [null, turned]) [point] ∧
    isIn point [array [turned, null, turned]] = isIn point [array [null, turned]] ∧
    isIn point [array [null, turned, point]] = true := by
  have hpoint : point.Distinct := by simp [point, zero]
  have hturned : turned.Distinct := by simp [turned, zero]
  have hitems : (array [null, turned]).Distinct := by simp [hturned]
  have hin : isIn point [array [null, turned]] = true := by decide
  obtain ⟨⟨-, hcomm⟩, hagree, -, hsame, hmore⟩ := membership_agrees hpoint hitems
  have hothers : ∀ item, item ∈ [turned, null, turned] ↔ item ∈ [null, turned] := by
    intro item
    simp only [List.mem_cons, List.not_mem_nil, or_false]
    exact ⟨fun h => h.elim .inr id, fun h => .inr h⟩
  exact ⟨hpoint, hitems, hturned, hcomm turned hturned, hagree, (hsame _ hothers).1,
    (hmore [point]).1 hin⟩

end Rule

end ParamSchema
