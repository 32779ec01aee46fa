import Mathlib.Data.List.Basic
import Mathlib.Data.Nat.Bitwise
import ParamSchema.Pattern

/-!
What a pattern matches. `Pattern.Matches` says which words between two others a pattern matches, and
`Pattern.isFoundIn` tells whether a text has such a word (`isFoundIn_iff`): the sets of places that
the search keeps are those where the words from a place on may end (`ends_sends`).
-/

namespace ParamSchema

namespace CharSet

variable {set : CharSet} {c c' : Char}

theorem has_iff : set.has c = true ↔ ∃ r ∈ set.ranges, r.1 ≤ c.toNat ∧ c.toNat ≤ r.2 := by
  simp [has, hasCode]

theorem has_single_iff : (single c').has c = true ↔ c = c' := by
  rw [has_iff, ← Char.toNat_inj]
  simp only [single, List.mem_singleton, exists_eq_left]
  omega

end CharSet

/-- A property of a word that stands between two others. -/
abbrev InContext := List Char → List Char → List Char → Prop

namespace InContext

/-- The empty word. -/
def Nothing : InContext := fun _ word _ => word = []

/-- A word of the first kind and then one of the second. -/
def Then (M N : InContext) : InContext := fun before word after =>
  ∃ u v, word = u ++ v ∧ M before u (v ++ after) ∧ N (before ++ u) v after

/-- So many words of a kind, one after the other. -/
def Times (M : InContext) : ℕ → InContext
  | 0 => Nothing
  | n + 1 => M.Then (M.Times n)

/-- Words of a kind one after the other, no more than the limit if there is one. -/
def AtMost (M : InContext) (most : Option ℕ) : InContext := fun before word after =>
  ∃ n, (∀ limit, most = some limit → n ≤ limit) ∧ M.Times n before word after

end InContext

open InContext

namespace Pattern

/-- The words that a pattern matches, each between the words around it. -/
def Matches : Pattern CharSet Look → InContext
  | .empty => Nothing
  | .char set => fun _ word _ => ∃ c, set.has c = true ∧ word = [c]
  | .look condition => fun before word after =>
    word = [] ∧ condition.holds before.getLast? after.head? = true
  | .both p q => p.Matches.Then q.Matches
  | .either p q => fun before word after =>
    p.Matches before word after ∨ q.Matches before word after
  | .many p least most _ => fun before word after =>
    ∃ n, least ≤ n ∧ (∀ limit, most = some limit → n ≤ max least limit) ∧
      p.Matches.Times n before word after
  | .group p => p.Matches

end Pattern

namespace InContext

variable {M N : InContext} {before word after : List Char} {m n : ℕ}

theorem nothing_then (M : InContext) : Nothing.Then M = M := by
  funext before word after
  simp [Then, Nothing]

theorem then_nothing (M : InContext) : M.Then Nothing = M := by
  funext before word after
  simp [Then, Nothing]

theorem then_assoc (M N P : InContext) : (M.Then N).Then P = M.Then (N.Then P) := by
  funext before word after
  rw [eq_iff_iff]
  constructor
  · rintro ⟨_, w, rfl, ⟨u, v, rfl, hM, hN⟩, hP⟩
    refine ⟨u, v ++ w, List.append_assoc .., ?_, v, w, rfl, hN, ?_⟩
    · rwa [List.append_assoc]
    · rwa [List.append_assoc]
  · rintro ⟨u, _, rfl, hM, v, w, rfl, hN, hP⟩
    refine ⟨u ++ v, w, (List.append_assoc ..).symm, ⟨u, v, rfl, ?_, hN⟩, ?_⟩
    · rwa [← List.append_assoc]
    · rwa [← List.append_assoc]

theorem times_one (M : InContext) : M.Times 1 = M := then_nothing M

theorem times_add (M : InContext) (m n : ℕ) : M.Times (m + n) = (M.Times m).Then (M.Times n) := by
  induction m with
  | zero => rw [Nat.zero_add, Times, nothing_then]
  | succ m ih => rw [Nat.succ_add, Times, Times, ih, then_assoc]

/-- If `f` makes the words of a kind, wherever they stand, then it makes so many of them in a row
from a list of that length. -/
theorem times_iff {γ : Type} {P : γ → Prop} {f : γ → List Char}
    (h : ∀ before word after, M before word after ↔ ∃ x, P x ∧ word = f x) :
    M.Times n before word after ↔
      ∃ xs : List γ, xs.length = n ∧ (∀ x ∈ xs, P x) ∧ word = xs.flatMap f := by
  induction n generalizing before word with
  | zero =>
    constructor
    · rintro rfl
      exact ⟨[], rfl, nofun, rfl⟩
    · rintro ⟨xs, hlength, -, rfl⟩
      cases List.length_eq_zero_iff.mp hlength
      rfl
  | succ n ih =>
    constructor
    · rintro ⟨_, _, rfl, hfirst, hrest⟩
      obtain ⟨x, hx, rfl⟩ := (h ..).mp hfirst
      obtain ⟨xs, rfl, heach, rfl⟩ := ih.mp hrest
      exact ⟨x :: xs, rfl, List.forall_mem_cons.mpr ⟨hx, heach⟩, List.flatMap_cons.symm⟩
    · rintro ⟨xs, hlength, heach, rfl⟩
      obtain ⟨x, xs, rfl⟩ := List.exists_cons_of_length_eq_add_one hlength
      obtain ⟨hx, heach⟩ := List.forall_mem_cons.mp heach
      exact ⟨f x, xs.flatMap f, List.flatMap_cons, (h ..).mpr ⟨x, hx, rfl⟩,
        ih.mpr ⟨xs, Nat.succ.inj hlength, heach, rfl⟩⟩

/-- Words that are empty may be left out, so no more are needed than there are characters. -/
theorem Times.shorten (h : M.Times n before word after) :
    ∃ m ≤ word.length, M.Times m before word after := by
  induction n generalizing before word with
  | zero => exact ⟨0, Nat.zero_le _, h⟩
  | succ n ih =>
    obtain ⟨u, v, rfl, hu, hv⟩ := h
    obtain ⟨m, hm, hv⟩ := ih hv
    -- An empty first word is dropped; any other pays for itself with a character.
    cases u with
    | nil => exact ⟨m, hm, by simpa using hv⟩
    | cons c u =>
      refine ⟨m + 1, ?_, _, _, rfl, hu, hv⟩
      simp only [List.cons_append, List.length_cons, List.length_append]
      omega

/-! ### Places in a text -/

/-- Such a word stands in the text from one place to another. -/
def Spans (text : List Char) (M : InContext) (i j : ℕ) : Prop :=
  ∃ before word after, text = before ++ word ++ after ∧ before.length = i ∧
    (before ++ word).length = j ∧ M before word after

variable {text : List Char} {i j k : ℕ}

theorem Spans.le (h : M.Spans text i j) : j ≤ text.length := by
  obtain ⟨before, word, after, rfl, -, rfl, -⟩ := h
  simp

theorem spans_empty_iff {P : List Char → List Char → Prop} (h : i ≤ text.length) :
    Spans text (fun before word after => word = [] ∧ P before after) i j ↔
      i = j ∧ P (text.take i) (text.drop i) := by
  constructor
  · rintro ⟨before, word, after, rfl, rfl, rfl, rfl, hP⟩
    simpa using hP
  · rintro ⟨rfl, hP⟩
    have hlength : (text.take i).length = i := List.length_take_of_le h
    exact ⟨text.take i, [], text.drop i, by simp, hlength, by simpa using hlength, rfl, hP⟩

theorem spans_nothing_iff (h : i ≤ text.length) : Nothing.Spans text i j ↔ i = j := by
  have hempty := spans_empty_iff (P := fun _ _ => True) (j := j) h
  simp only [and_true] at hempty
  exact hempty

theorem spans_or_iff : Spans text (fun before word after => M before word after ∨
    N before word after) i j ↔ M.Spans text i j ∨ N.Spans text i j := by
  constructor
  · rintro ⟨before, word, after, htext, hi, hj, hM | hN⟩
    · exact .inl ⟨before, word, after, htext, hi, hj, hM⟩
    · exact .inr ⟨before, word, after, htext, hi, hj, hN⟩
  · rintro (⟨before, word, after, htext, hi, hj, hM⟩ | ⟨before, word, after, htext, hi, hj, hN⟩)
    · exact ⟨before, word, after, htext, hi, hj, .inl hM⟩
    · exact ⟨before, word, after, htext, hi, hj, .inr hN⟩

theorem spans_then_iff :
    (M.Then N).Spans text i j ↔ ∃ k, M.Spans text i k ∧ N.Spans text k j := by
  constructor
  · rintro ⟨before, word, after, rfl, rfl, rfl, u, v, rfl, hM, hN⟩
    exact ⟨(before ++ u).length, ⟨before, u, v ++ after, by simp, rfl, rfl, hM⟩,
      ⟨before ++ u, v, after, by simp, rfl, by simp, hN⟩⟩
  · rintro ⟨k, ⟨before, u, rest, rfl, rfl, rfl, hM⟩, before', v, after, htext, hlength, rfl, hN⟩
    rw [List.append_assoc before'] at htext
    obtain ⟨rfl, rfl⟩ := List.append_inj htext hlength.symm
    exact ⟨before, u ++ v, after, by simp, rfl, by simp, u, v, rfl, hM, hN⟩

theorem spans_atMost_iff : (M.AtMost (some n)).Spans text i j ↔
    ∃ m ≤ n, (M.Times m).Spans text i j := by
  constructor
  · rintro ⟨before, word, after, htext, hi, hj, m, hm, htimes⟩
    exact ⟨m, hm n rfl, before, word, after, htext, hi, hj, htimes⟩
  · rintro ⟨m, hm, before, word, after, htext, hi, hj, htimes⟩
    exact ⟨before, word, after, htext, hi, hj, m, fun _ h => Option.some.inj h ▸ hm, htimes⟩

/-- A text has no room for more words, but for empty ones, than it has characters. -/
theorem spans_atMost_none_iff :
    (M.AtMost none).Spans text i j ↔ (M.AtMost (some text.length)).Spans text i j := by
  constructor
  · rintro ⟨before, word, after, htext, hi, hj, n, -, htimes⟩
    obtain ⟨m, hm, htimes⟩ := htimes.shorten
    have hle : m ≤ text.length := by
      rw [htext, List.length_append, List.length_append]
      omega
    exact spans_atMost_iff.mpr ⟨m, hle, before, word, after, htext, hi, hj, htimes⟩
  · rintro ⟨before, word, after, htext, hi, hj, n, -, htimes⟩
    exact ⟨before, word, after, htext, hi, hj, n, nofun, htimes⟩

end InContext

namespace Places

variable {text : List Char} {step step' : Places → Places} {M N : InContext} {here : Places}
  {i j : ℕ}

/-- The places are places of the text. -/
def Within (text : List Char) (here : Places) : Prop := ∀ i, here.testBit i = true → i ≤ text.length

/-- The step leads from where words may start to where they may end. -/
def Sends (text : List Char) (step : Places → Places) (M : InContext) : Prop :=
  ∀ here, Within text here → ∀ j, (step here).testBit j = true ↔
    ∃ i, here.testBit i = true ∧ M.Spans text i j

theorem Sends.within (h : Sends text step M) (hhere : Within text here) :
    Within text (step here) := by
  intro j hj
  obtain ⟨i, -, hspans⟩ := (h here hhere j).mp hj
  exact hspans.le

theorem sends_nothing : Sends text id Nothing := by
  intro here hhere j
  constructor
  · intro hj
    exact ⟨j, hj, (spans_nothing_iff (hhere j hj)).mpr rfl⟩
  · rintro ⟨i, hi, hspans⟩
    rwa [← (spans_nothing_iff (hhere i hi)).mp hspans]

theorem Sends.then (h : Sends text step M) (h' : Sends text step' N) :
    Sends text (step' ∘ step) (M.Then N) := by
  intro here hhere j
  rw [Function.comp_apply, h' _ (h.within hhere)]
  simp only [h here hhere, spans_then_iff]
  grind

theorem Sends.times (h : Sends text step M) (n : ℕ) :
    Sends text (repeated step n) (M.Times n) := by
  induction n with
  | zero => exact sends_nothing
  | succ n ih =>
    intro here hhere j
    rw [repeated]
    split
    · subst here
      simp
    · exact h.then ih here hhere j

/-- Words of the kind lead out of a set of places that the step leaves as it is to no others. -/
theorem Sends.closed (h : Sends text step M) (hhere : Within text here)
    (hclosed : here ||| step here = here) {n : ℕ} (hi : here.testBit i = true)
    (hspans : (M.Times n).Spans text i j) : here.testBit j = true := by
  induction n generalizing i with
  | zero => rwa [← (spans_nothing_iff (hhere i hi)).mp hspans]
  | succ n ih =>
    obtain ⟨k, hk, hrest⟩ := spans_then_iff.mp hspans
    have hstep : (step here).testBit k = true := (h here hhere k).mpr ⟨i, hi, hk⟩
    refine ih ?_ hrest
    rw [← hclosed, Nat.testBit_or, hstep, Bool.or_true]

theorem testBit_or_iff (here there : Places) (i : ℕ) :
    (here ||| there).testBit i = true ↔ here.testBit i = true ∨ there.testBit i = true := by
  rw [Nat.testBit_or, Bool.or_eq_true]

/-- From the places that the step adds, one word less is needed. -/
theorem Sends.extend (h : Sends text step M) (hhere : Within text here) (fuel j : ℕ) :
    (∃ i, (here ||| step here).testBit i = true ∧ ∃ n ≤ fuel, (M.Times n).Spans text i j) ↔
      ∃ i, here.testBit i = true ∧ ∃ n ≤ fuel + 1, (M.Times n).Spans text i j := by
  constructor
  · rintro ⟨i, hi, n, hn, hspans⟩
    rcases (testBit_or_iff _ _ i).mp hi with hi | hi
    · exact ⟨i, hi, n, by omega, hspans⟩
    · obtain ⟨k, hk, hfirst⟩ := (h here hhere i).mp hi
      exact ⟨k, hk, n + 1, by omega, spans_then_iff.mpr ⟨i, hfirst, hspans⟩⟩
  · rintro ⟨i, hi, n, hn, hspans⟩
    cases n with
    | zero => exact ⟨i, (testBit_or_iff _ _ i).mpr (.inl hi), 0, Nat.zero_le _, hspans⟩
    | succ n =>
      obtain ⟨k, hfirst, hrest⟩ := spans_then_iff.mp hspans
      have hk : (step here).testBit k = true := (h here hhere k).mpr ⟨i, hi, hfirst⟩
      exact ⟨k, (testBit_or_iff _ _ k).mpr (.inr hk), n, by omega, hrest⟩

theorem grow_sends (h : Sends text step M) (fuel : ℕ) :
    Sends text (grow step fuel) (M.AtMost (some fuel)) := by
  intro here hhere j
  simp only [spans_atMost_iff]
  induction fuel generalizing here with
  | zero =>
    simp only [Places.grow, Nat.le_zero, exists_eq_left]
    exact sends_nothing here hhere j
  | succ fuel ih =>
    rw [Places.grow]
    split
    case isTrue hclosed =>
      -- The search stops early: from these places no number of words leads to others.
      constructor
      · intro hj
        exact ⟨j, hj, 0, Nat.zero_le _, (spans_nothing_iff (hhere j hj)).mpr rfl⟩
      · rintro ⟨i, hi, n, -, hspans⟩
        exact h.closed hhere hclosed hi hspans
    case isFalse =>
      have hwithin : Within text (here ||| step here) := by
        intro i hi
        exact ((testBit_or_iff _ _ i).mp hi).elim (hhere i) (h.within hhere i)
      exact (ih _ hwithin).trans (h.extend hhere fuel j)

theorem Sends.atMost (h : Sends text step M) (most : Option ℕ) :
    Sends text (grow step (most.getD text.length)) (M.AtMost most) := by
  cases most with
  | some limit => exact grow_sends h limit
  | none =>
    intro here hhere j
    simp only [spans_atMost_none_iff]
    exact grow_sends h text.length here hhere j

/-! ### Leaves -/

theorem testBit_ofFlags (flags : List Bool) (i : ℕ) :
    (ofFlags flags).testBit i = flags[i]?.getD false := by
  induction flags generalizing i with
  | nil => simp [ofFlags]
  | cons flag flags ih =>
    rw [ofFlags, List.foldr_cons, ← ofFlags]
    cases i with
    | zero => cases flag <;> simp [Nat.testBit_zero, Nat.add_mod]
    | succ i =>
      have hhalf : (2 * ofFlags flags + flag.toNat) / 2 = ofFlags flags := by
        rw [Nat.mul_add_div Nat.two_pos, Nat.div_eq_of_lt flag.toNat_lt, Nat.add_zero]
      rw [Nat.testBit_succ, hhalf, ih, List.getElem?_cons_succ]

theorem testBit_all (size i : ℕ) : (all size).testBit i = true ↔ i ≤ size := by
  rw [all, Nat.testBit_two_pow_sub_one, decide_eq_true_eq, Nat.lt_succ_iff]

end Places

namespace Pattern

variable {text : List Char} {p : Pattern CharSet Look}

theorem getElem?_lookFlags (condition : Look) (before : Option Char) (text : List Char) (i : ℕ) :
    (lookFlags condition before text)[i]? =
      if i ≤ text.length then
        some (condition.holds ((text.take i).getLast?.or before) (text.drop i).head?)
      else none := by
  induction text generalizing before i with
  | nil => cases i <;> simp [lookFlags]
  | cons c text ih =>
    cases i with
    | zero => simp [lookFlags]
    | succ i =>
      rw [lookFlags, List.getElem?_cons_succ, ih]
      simp [List.getLast?_cons]

theorem spans_char_iff {set : CharSet} {i j : ℕ} :
    (Matches (.char set)).Spans text i j ↔
      j = i + 1 ∧ ∃ c, text[i]? = some c ∧ set.has c = true := by
  constructor
  · rintro ⟨before, word, after, rfl, rfl, rfl, c, hc, rfl⟩
    exact ⟨by simp, c, by simp, hc⟩
  · rintro ⟨rfl, c, hget, hc⟩
    obtain ⟨hi, rfl⟩ := List.getElem?_eq_some_iff.mp hget
    have hlength : (text.take i).length = i := List.length_take_of_le hi.le
    exact ⟨text.take i, [text[i]], text.drop (i + 1), by simp, hlength, by simp; omega, _, hc, rfl⟩

theorem testBit_chars (text : List Char) (set : CharSet) (i : ℕ) :
    (Places.ofFlags (text.map set.has)).testBit i = true ↔
      ∃ c, text[i]? = some c ∧ set.has c = true := by
  rw [Places.testBit_ofFlags, List.getElem?_map]
  cases text[i]? <;> simp

theorem testBit_looks (text : List Char) (condition : Look) (i : ℕ) :
    (Places.ofFlags (lookFlags condition none text)).testBit i = true ↔
      i ≤ text.length ∧ condition.holds (text.take i).getLast? (text.drop i).head? = true := by
  rw [Places.testBit_ofFlags, getElem?_lookFlags, Option.or_none]
  split <;> simp [*]

theorem sends_char (text : List Char) (set : CharSet) :
    Places.Sends text (fun here => (here &&& Places.ofFlags (text.map set.has)) <<< 1)
      (Matches (.char set)) := by
  intro here hhere j
  simp only [spans_char_iff, ← testBit_chars, Nat.testBit_shiftLeft, Nat.testBit_and]
  cases j with
  | zero => simp
  | succ i => simp

theorem sends_look (text : List Char) (condition : Look) :
    Places.Sends text (fun here => here &&& Places.ofFlags (lookFlags condition none text))
      (Matches (.look condition)) := by
  intro here hhere j
  rw [Nat.testBit_and, Bool.and_eq_true, testBit_looks]
  constructor
  · rintro ⟨hj, hlength, hholds⟩
    exact ⟨j, hj, (spans_empty_iff hlength).mpr ⟨rfl, hholds⟩⟩
  · rintro ⟨i, hi, hspans⟩
    obtain ⟨rfl, hholds⟩ := (spans_empty_iff (hhere i hi)).mp hspans
    exact ⟨hi, hhere i hi, hholds⟩

theorem matches_many (p : Pattern CharSet Look) (least : ℕ) (most : Option ℕ) (few : Bool) :
    Matches (.many p least most few) =
      (p.Matches.Times least).Then (p.Matches.AtMost (most.map (· - least))) := by
  funext before word after
  simp only [Matches, Then, AtMost, Option.map_eq_some_iff, eq_iff_iff]
  constructor
  · rintro ⟨n, hleast, hmost, htimes⟩
    obtain ⟨k, rfl⟩ := Nat.exists_eq_add_of_le hleast
    rw [times_add] at htimes
    obtain ⟨u, v, rfl, hu, hv⟩ := htimes
    refine ⟨u, v, rfl, hu, k, ?_, hv⟩
    rintro _ ⟨limit, hlimit, rfl⟩
    have hle := hmost limit hlimit
    omega
  · rintro ⟨u, v, rfl, hu, k, hmost, hv⟩
    have htimes : (p.Matches.Times (least + k)) before (u ++ v) after := by
      rw [times_add]
      exact ⟨u, v, rfl, hu, hv⟩
    refine ⟨least + k, Nat.le_add_right .., fun limit hlimit => ?_, htimes⟩
    have hle := hmost _ ⟨limit, hlimit, rfl⟩
    omega

/-- The places where a pattern may end are those where the words that it matches end. -/
theorem ends_sends (text : List Char) (p : Pattern CharSet Look) :
    Places.Sends text ((p.located text).ends text.length) p.Matches := by
  induction p with
  | empty => exact Places.sends_nothing
  | char set => exact sends_char text set
  | look condition => exact sends_look text condition
  | both p q ihp ihq => exact ihp.then ihq
  | either p q ihp ihq =>
    intro here hhere j
    simp only [Matches, spans_or_iff, and_or_left, exists_or, ← ihp here hhere j,
      ← ihq here hhere j]
    rw [← Bool.or_eq_true, ← Nat.testBit_or]
    rfl
  | many p least most few ih =>
    rw [matches_many]
    have hsends := (ih.times least).then (ih.atMost (most.map (· - least)))
    cases most <;> exact hsends
  | group p ih => exact ih

/-- A pattern is found in a text if the text has a word that it matches. -/
theorem isFoundIn_iff {s : String} : p.isFoundIn s = true ↔
    ∃ before word after, s.toList = before ++ word ++ after ∧ p.Matches before word after := by
  have hall : Places.Within s.toList (Places.all s.toList.length) := by
    intro i hi
    exact (Places.testBit_all _ i).mp hi
  have hsends := ends_sends s.toList p (Places.all s.toList.length) hall
  rw [isFoundIn, bne_iff_ne]
  constructor
  · intro hne
    obtain ⟨j, hj⟩ := Nat.exists_testBit_of_ne_zero hne
    obtain ⟨i, -, before, word, after, htext, -, -, hmatches⟩ := (hsends j).mp hj
    exact ⟨before, word, after, htext, hmatches⟩
  · rintro ⟨before, word, after, htext, hmatches⟩ hzero
    have hi : before.length ≤ s.toList.length := by
      rw [htext]
      simp
    have hj := (hsends (before ++ word).length).mpr ⟨before.length, (Places.testBit_all _ _).mpr hi,
      before, word, after, htext, rfl, rfl, hmatches⟩
    rw [hzero, Nat.zero_testBit] at hj
    cases hj

/-! ### Rows and repetitions -/

variable {set : CharSet} {before word after : List Char} {n : ℕ}

theorem matches_inOrder_cons (p : Pattern CharSet Look) (ps : List (Pattern CharSet Look)) :
    (inOrder (p :: ps)).Matches = p.Matches.Then (inOrder ps).Matches := by
  cases ps with
  | nil => exact (then_nothing _).symm
  | cons => rfl

theorem matches_inOrder_append (ps qs : List (Pattern CharSet Look)) :
    (inOrder (ps ++ qs)).Matches = (inOrder ps).Matches.Then (inOrder qs).Matches := by
  induction ps with
  | nil => exact (nothing_then _).symm
  | cons first ps ih =>
    rw [List.cons_append, matches_inOrder_cons, ih, matches_inOrder_cons, then_assoc]

/-- A pattern between anchors is found in the texts that it matches as a whole. -/
theorem isFoundIn_anchored_iff (ps : List (Pattern CharSet Look)) {s : String} :
    (inOrder (.look .start :: ps ++ [.look .stop])).isFoundIn s = true ↔
      (inOrder ps).Matches [] s.toList [] := by
  rw [isFoundIn_iff, matches_inOrder_append, matches_inOrder_cons]
  constructor
  · rintro ⟨before, word, after, htext, u, v, rfl, hrow, rfl, hstop⟩
    obtain ⟨u, v, rfl, ⟨rfl, hstart⟩, hps⟩ := hrow
    have hbefore : before = [] := List.getLast?_eq_none_iff.mp (Option.isNone_iff_eq_none.mp hstart)
    have hafter : after = [] := List.head?_eq_none_iff.mp (Option.isNone_iff_eq_none.mp hstop)
    subst hbefore hafter
    simpa [htext] using hps
  · intro h
    exact ⟨[], s.toList, [], by simp, s.toList, [], by simp, ⟨[], s.toList, rfl, ⟨rfl, rfl⟩, h⟩,
      rfl, rfl⟩

theorem matches_single_iff {c : Char} :
    Matches (.char (.single c)) before word after ↔ word = [c] := by
  simp [Matches, CharSet.has_single_iff]

theorem matches_optional_iff (p : Pattern CharSet Look) :
    p.optional.Matches before word after ↔ word = [] ∨ p.Matches before word after := by
  constructor
  · rintro ⟨n, -, hmost, htimes⟩
    have hn : n ≤ 1 := hmost 1 rfl
    obtain rfl | rfl := Nat.le_one_iff_eq_zero_or_eq_one.mp hn
    · exact .inl htimes
    · rw [times_one] at htimes
      exact .inr htimes
  · rintro (h | h)
    · exact ⟨0, Nat.zero_le _, fun _ _ => Nat.zero_le _, h⟩
    · rw [← times_one p.Matches] at h
      refine ⟨1, Nat.zero_le _, fun limit hlimit => ?_, h⟩
      cases hlimit
      exact Nat.le_refl 1

/-- If `f` makes the words that a pattern matches, then it makes those that a repetition matches
from lists. -/
theorem matches_many_iff {γ : Type} {P : γ → Prop} {f : γ → List Char} {least : ℕ}
    {most : Option ℕ} {few : Bool}
    (h : ∀ before word after, p.Matches before word after ↔ ∃ x, P x ∧ word = f x) :
    (many p least most few).Matches before word after ↔
      ∃ xs : List γ, least ≤ xs.length ∧
        (∀ limit, most = some limit → xs.length ≤ max least limit) ∧
        (∀ x ∈ xs, P x) ∧ word = xs.flatMap f := by
  constructor
  · rintro ⟨n, hleast, hmost, htimes⟩
    obtain ⟨xs, rfl, heach, rfl⟩ := (times_iff h).mp htimes
    exact ⟨xs, hleast, hmost, heach, rfl⟩
  · rintro ⟨xs, hleast, hmost, heach, rfl⟩
    exact ⟨xs.length, hleast, hmost, (times_iff h).mpr ⟨xs, rfl, heach, rfl⟩⟩

theorem matches_many_char_iff {least : ℕ} {most : Option ℕ} {few : Bool} :
    (many (.char set) least most few).Matches before word after ↔
      least ≤ word.length ∧ (∀ limit, most = some limit → word.length ≤ max least limit) ∧
        ∀ c ∈ word, set.has c = true := by
  rw [matches_many_iff (P := fun c => set.has c = true) (f := fun c => [c])
    fun _ _ _ => Iff.rfl]
  simp only [List.flatMap_singleton', ← and_assoc, exists_eq_right']

theorem matches_star_char_iff : (star (.char set)).Matches before word after ↔
    ∀ c ∈ word, set.has c = true := by
  simp [star, matches_many_char_iff]

theorem matches_plus_char_iff : (plus (.char set)).Matches before word after ↔
    word ≠ [] ∧ ∀ c ∈ word, set.has c = true := by
  simp [plus, matches_many_char_iff, Nat.one_le_iff_ne_zero]

end Pattern

end ParamSchema
