import ParamSchema.Check
import ParamSchema.Proofs.Fallible

/-!
A list of rules as a conjunction in order: `Rule.applyAll` succeeds when every rule is met, and its
fault is that of the first rule that is not (`applyAll_conjunction`).
-/

namespace ParamSchema.Rule

/-- The value meets the rule: the rule has a verdict, and its negation does not undo it. -/
def Met (context : Context) (v : Value) (rule : Rule) : Prop :=
  rule.verdict context v = .ok (!rule.negate)

/-- The rule has a verdict on every value: it holds its own predicate, or its name is registered. -/
def Known (context : Context) (rule : Rule) : Prop :=
  ∀ args, rule.check = .named args → ∃ fn, context.rules.get? rule.name = some fn

/-- The fault of a rule on a value. -/
inductive Breaks (context : Context) (v : Value) (rule : Rule) : Fault → Prop
  | rejected (verdict : rule.verdict context v = .ok rule.negate) :
    Breaks context v rule (.rejected rule.name (some v) (.rule rule.name))
  | unknown {args : List Value} (named : rule.check = .named args)
    (unregistered : context.rules.get? rule.name = none) :
    Breaks context v rule (.unknownRule rule.name)

variable {context : Context} {v : Value} {rule : Rule} {rules : List Rule} {e : Fault}

theorem verdict_eq_error (h : rule.verdict context v = .error e) : rule.Breaks context v e := by
  unfold verdict at h
  split at h
  case h_1 => cases h
  case h_2 args hcheck =>
    split at h
    case h_1 => cases h
    case h_2 hget =>
      cases h
      exact .unknown hcheck hget

theorem verdict_of_unknown {args : List Value} (named : rule.check = .named args)
    (unregistered : context.rules.get? rule.name = none) :
    rule.verdict context v = .error (.unknownRule rule.name) := by
  simp [verdict, named, unregistered]

theorem met_or_breaks (context : Context) (v : Value) (rule : Rule) :
    rule.Met context v ∨ ∃ e, rule.Breaks context v e := by
  cases h : rule.verdict context v with
  | error e => exact .inr ⟨e, verdict_eq_error h⟩
  | ok b =>
    by_cases hb : b = rule.negate
    · exact .inr ⟨_, .rejected (hb ▸ h)⟩
    · exact .inl (h.trans (congrArg _ (Bool.eq_not.mpr hb)))

theorem not_met_of_breaks (h : rule.Breaks context v e) : ¬rule.Met context v := by
  intro hmet
  cases h with
  | rejected verdict =>
    rw [Met, verdict] at hmet
    simp at hmet
  | unknown named unregistered =>
    rw [Met, verdict_of_unknown named unregistered] at hmet
    cases hmet

theorem exists_verdict_iff : (∃ b, rule.verdict context v = .ok b) ↔ rule.Known context := by
  unfold verdict Known
  cases rule.check with
  | inline check => exact iff_of_true ⟨_, rfl⟩ nofun
  | named args => cases hget : context.rules.get? rule.name <;> simp

theorem met_iff_known : rule.Met context v ↔
    rule.Known context ∧ rule.verdict context v ≠ .ok rule.negate := by
  rw [← exists_verdict_iff (v := v), Met]
  cases rule.verdict context v with
  | error e => simp
  | ok b => simp [Bool.eq_not]

theorem breaks_iff_known : rule.Breaks context v e ↔
    ¬rule.Known context ∧ e = .unknownRule rule.name ∨
      rule.verdict context v = .ok rule.negate ∧
        e = .rejected rule.name (some v) (.rule rule.name) := by
  constructor
  · rintro (verdict | ⟨named, unregistered⟩)
    · exact .inr ⟨verdict, rfl⟩
    · refine .inl ⟨fun hknown => ?_, rfl⟩
      obtain ⟨fn, hfn⟩ := hknown _ named
      cases unregistered.symm.trans hfn
  · rintro (⟨hunknown, rfl⟩ | ⟨verdict, rfl⟩)
    · simp only [Known, not_forall, not_exists] at hunknown
      obtain ⟨args, named, hget⟩ := hunknown
      exact .unknown named (Option.eq_none_iff_forall_ne_some.mpr hget)
    · exact .rejected verdict

theorem applyAll_cons_of_met (h : rule.Met context v) :
    applyAll context v (rule :: rules) = applyAll context v rules := by
  unfold Met at h
  cases hn : rule.negate <;> simp [applyAll, h, hn, bind, Except.bind]

theorem applyAll_cons_of_breaks (h : rule.Breaks context v e) :
    applyAll context v (rule :: rules) = .error e := by
  cases h with
  | rejected verdict => simp [applyAll, verdict, bind, Except.bind]
  | unknown named unregistered =>
    simp [applyAll, verdict_of_unknown named unregistered, bind, Except.bind]

theorem applyAll_singleton_eq_ok_iff : applyAll context v [rule] = .ok () ↔ rule.Met context v := by
  rcases met_or_breaks context v rule with hmet | ⟨e, hbreaks⟩
  · rw [applyAll_cons_of_met hmet]
    exact iff_of_true rfl hmet
  · simp [applyAll_cons_of_breaks hbreaks, not_met_of_breaks hbreaks]

theorem applyAll_singleton_eq_error_iff :
    applyAll context v [rule] = .error e ↔ rule.Breaks context v e := by
  refine ⟨fun h => ?_, applyAll_cons_of_breaks⟩
  rcases met_or_breaks context v rule with hmet | ⟨e', hbreaks⟩
  · cases (applyAll_cons_of_met hmet).symm.trans h
  · cases (applyAll_cons_of_breaks hbreaks).symm.trans h
    exact hbreaks

/-- Rules that follow others are applied once these have passed. -/
theorem applyAll_append (rules rules' : List Rule) :
    applyAll context v (rules ++ rules') =
      applyAll context v rules >>= fun _ => applyAll context v rules' := by
  induction rules with
  | nil => rfl
  | cons rule rules ih =>
    rw [List.cons_append]
    rcases met_or_breaks context v rule with hmet | ⟨e, hbreaks⟩
    · rw [applyAll_cons_of_met hmet, applyAll_cons_of_met hmet, ih]
    · rw [applyAll_cons_of_breaks hbreaks, applyAll_cons_of_breaks hbreaks]
      rfl

theorem applyAll_stepwise (context : Context) (v : Value) :
    Stepwise (fun rule => applyAll context v [rule]) (applyAll context v) where
  nil := ⟨(), rfl⟩
  cons rule rest := by
    refine ⟨fun _ passed => passed, ?_⟩
    rw [← List.singleton_append, applyAll_append]
    cases applyAll context v rest <;> rfl

/-- All rules pass exactly when each is met. -/
theorem applyAll_eq_ok_iff :
    applyAll context v rules = .ok () ↔ ∀ rule ∈ rules, rule.Met context v := by
  rw [← exists_unit_eq_ok_iff, (applyAll_stepwise context v).exists_ok_iff]
  simp only [exists_unit_eq_ok_iff, applyAll_singleton_eq_ok_iff]

/-- The first rule that is not met gives the fault. -/
theorem applyAll_eq_error_iff :
    applyAll context v rules = .error e ↔ ∃ before rule after, rules = before ++ rule :: after ∧
      (∀ earlier ∈ before, earlier.Met context v) ∧ rule.Breaks context v e := by
  rw [(applyAll_stepwise context v).eq_error_iff]
  simp only [exists_unit_eq_ok_iff, applyAll_singleton_eq_ok_iff, applyAll_singleton_eq_error_iff]

/-- Of a rule that has a verdict and its negation, a value meets exactly one. -/
theorem met_negated_iff (known : rule.Known context) :
    rule.negated.Met context v ↔ ¬rule.Met context v := by
  obtain ⟨b, hb⟩ := (exists_verdict_iff (v := v)).mpr known
  have hnegated : rule.negated.verdict context v = .ok b := hb
  rw [Met, Met, hb, hnegated]
  cases b <;> cases h : rule.negate <;> simp [negated, h]

/-- A list of rules is a conjunction in order. It passes exactly when every rule is known and its
verdict differs from its negation flag, so neither order nor repetition matters for that. The first
rule that is unknown or not met gives the fault, and what comes after it is not applied. A known
rule passes exactly when its negation does not. -/
theorem applyAll_conjunction (context : Context) (v : Value) (rules : List Rule) :
    (applyAll context v rules = .ok () ↔
      ∀ rule ∈ rules, rule.Known context ∧ rule.verdict context v ≠ .ok rule.negate) ∧
    (∀ rules' : List Rule, (∀ rule, rule ∈ rules' ↔ rule ∈ rules) →
      (applyAll context v rules' = .ok () ↔ applyAll context v rules = .ok ())) ∧
    (∀ e, applyAll context v rules = .error e ↔ ∃ before rule after,
      rules = before ++ rule :: after ∧
      (∀ earlier ∈ before,
        earlier.Known context ∧ earlier.verdict context v ≠ .ok earlier.negate) ∧
      (¬rule.Known context ∧ e = .unknownRule rule.name ∨
        rule.verdict context v = .ok rule.negate ∧
          e = .rejected rule.name (some v) (.rule rule.name))) ∧
    (∀ rules' : List Rule,
      (∀ e, applyAll context v rules = .error e →
        applyAll context v (rules ++ rules') = .error e) ∧
      (applyAll context v rules = .ok () →
        applyAll context v (rules ++ rules') = applyAll context v rules')) ∧
    ∀ rule : Rule, rule.Known context →
      (applyAll context v [rule] = .ok () ↔ ¬applyAll context v [rule.negated] = .ok ()) := by
  simp only [← met_iff_known, ← breaks_iff_known]
  refine ⟨applyAll_eq_ok_iff, fun rules' hsame => ?same, fun e => applyAll_eq_error_iff,
    fun rules' => ⟨fun e h => ?fails, fun h => ?passes⟩, fun rule known => ?negation⟩
  case same => simp only [applyAll_eq_ok_iff, hsame]
  case fails => rw [applyAll_append, h, error_bind]
  case passes => rw [applyAll_append, h, ok_bind]
  case negation =>
    rw [applyAll_singleton_eq_ok_iff, applyAll_singleton_eq_ok_iff, met_negated_iff known, not_not]

namespace Nickname

def plain : Rule := { name := "isAlphanumeric", check := .named [] }

def notRoot : Rule := { name := "equals", negate := true, check := .named [.string "root"] }

/-- A rule that is not registered. -/
def shiny : Rule := { name := "isShiny", check := .named [] }

theorem known_plain : plain.Known .builtins := by
  intro args _
  exact ⟨isAlphanumeric, rfl⟩

/-- The order of the two rules and a repetition do not matter, a nickname that is refused is refused
before the rule that is not registered, and the negation of a rule that passes does not. -/
theorem applyAll_rules :
    applyAll .builtins (.string "ada") [notRoot, plain, notRoot] = .ok () ∧
    applyAll .builtins (.string "root") ([plain, notRoot] ++ [shiny]) =
      .error (.rejected "equals" (some (.string "root")) (.rule "equals")) ∧
    applyAll .builtins (.string "ada") ([plain, notRoot] ++ [shiny]) =
      .error (.unknownRule "isShiny") ∧
    ¬applyAll .builtins (.string "ada") [plain.negated] = .ok () := by
  have hada : applyAll .builtins (.string "ada") [plain, notRoot] = .ok () := rfl
  have hroot : applyAll .builtins (.string "root") [plain, notRoot] =
      .error (.rejected "equals" (some (.string "root")) (.rule "equals")) := rfl
  obtain ⟨-, hsame, -, hafter, hnegated⟩ :=
    applyAll_conjunction .builtins (.string "ada") [plain, notRoot]
  obtain ⟨-, -, -, hroot_after, -⟩ :=
    applyAll_conjunction .builtins (.string "root") [plain, notRoot]
  refine ⟨(hsame _ fun rule => ?_).mpr hada, (hroot_after [shiny]).1 _ hroot, ?_,
    (hnegated plain known_plain).mp rfl⟩
  · simp [or_comm]
  · rw [(hafter [shiny]).2 hada]
    rfl

end Nickname

end ParamSchema.Rule
