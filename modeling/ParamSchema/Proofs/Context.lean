import Mathlib.Data.List.Induction
import ParamSchema.Check
import ParamSchema.Proofs.Registry

/-!
Contexts by the steps that build them. A name means its last explicit registration, and a built-in
only if it has none (`Means`), since adding the built-ins commutes with all registrations. So it
plays no part when and how often they are added, as long as they are (`build_means`).
-/

namespace ParamSchema.Context

inductive Step
  | builtins
  | type (name : String) (type : FieldType)
  | rule (name : String) (fn : RuleFn)

def Step.apply (context : Context) : Step → Context
  | builtins => context.addBuiltins
  | type name value => context.addType name value
  | rule name value => context.addRule name value

/-- The context that the steps build from an empty one. -/
def build (steps : List Step) : Context := steps.foldl Step.apply empty

def Step.isExplicit : Step → Bool
  | builtins => false
  | type _ _ | rule _ _ => true

/-- What a name means after the steps, which register values of a kind by `register`. -/
inductive Means {α : Type} (register : String → α → Step) (builtins : Registry α)
    (steps : List Step) (name : String) : Option α → Prop
  | explicit {before after : List Step} {value : α}
    (registered : steps = before ++ register name value :: after)
    (last : ∀ other, register name other ∉ after) : Means register builtins steps name (some value)
  | builtin (free : ∀ value, register name value ∉ steps) (added : .builtins ∈ steps) :
    Means register builtins steps name (builtins.get? name)
  | nothing (free : ∀ value, register name value ∉ steps) (never : .builtins ∉ steps) :
    Means register builtins steps name none

variable {context other : Context} {steps steps' : List Step} {step : Step} {name : String}

theorem build_append (steps : List Step) (step : Step) :
    build (steps ++ [step]) = step.apply (build steps) := by
  rw [build, List.foldl_append]
  rfl

theorem isExplicit_iff : step.isExplicit = true ↔ step ≠ .builtins := by
  cases step <;> simp [Step.isExplicit]

theorem apply_builtins (context : Context) :
    Step.builtins.apply context = context.addBuiltins := rfl

/-! ### What a name means -/

section Means

variable {α : Type} {register : String → α → Step} {builtins : Registry α} {found : Option α}
  {value : α}

theorem Means.append_register (steps : List Step) :
    Means register builtins (steps ++ [register name value]) name (some value) :=
  .explicit rfl fun _ => List.not_mem_nil

theorem Means.append_builtins (h : Means register builtins steps name found)
    (distinct : ∀ value, register name value ≠ .builtins) :
    Means register builtins (steps ++ [.builtins]) name (found.or (builtins.get? name)) := by
  have hadded : Step.builtins ∈ steps ++ [.builtins] := by simp
  have hfree (free : ∀ value, register name value ∉ steps) (value : α) :
      register name value ∉ steps ++ [.builtins] := by
    simp [free value, distinct value]
  cases h with
  | @explicit before after value registered last =>
    rw [Option.some_or]
    have hsteps :
        steps ++ [.builtins] = before ++ register name value :: (after ++ [.builtins]) := by
      rw [registered, List.append_assoc, List.cons_append]
    exact .explicit hsteps fun other => by simp [last other, distinct other]
  | builtin free _ =>
    rw [Option.or_self]
    exact .builtin (hfree free) hadded
  | nothing free _ =>
    rw [Option.none_or]
    exact .builtin (hfree free) hadded

/-- A step that registers something else plays no part. -/
theorem Means.append_other (h : Means register builtins steps name found)
    (different : ∀ value, register name value ≠ step) (explicit : step ≠ .builtins) :
    Means register builtins (steps ++ [step]) name found := by
  have hfree (free : ∀ value, register name value ∉ steps) (value : α) :
      register name value ∉ steps ++ [step] := by
    simp [free value, different value]
  cases h with
  | @explicit before after value registered last =>
    have hsteps : steps ++ [step] = before ++ register name value :: (after ++ [step]) := by
      rw [registered, List.append_assoc, List.cons_append]
    exact .explicit hsteps fun other => by simp [last other, different other]
  | builtin free added => exact .builtin (hfree free) (List.mem_append_left _ added)
  | nothing free never => exact .nothing (hfree free) (by simp [never, explicit.symm])

/-- How a lookup of the name follows the steps. -/
structure Follows (register : String → α → Step) (builtins : Registry α) (name : String)
    (find : Context → Option α) : Prop where
  distinct : ∀ value, register name value ≠ .builtins
  empty : find empty = none
  added : ∀ context, find context.addBuiltins = (find context).or (builtins.get? name)
  registered : ∀ context value, find ((register name value).apply context) = some value
  other : ∀ context step, (∀ value, register name value ≠ step) → step ≠ .builtins →
    find (step.apply context) = find context

theorem Follows.means {find : Context → Option α} (follows : Follows register builtins name find)
    (steps : List Step) : Means register builtins steps name (find (build steps)) := by
  -- The last step decides, so the steps are taken away from the end.
  induction steps using List.reverseRecOn with
  | nil =>
    rw [show build [] = Context.empty from rfl, follows.empty]
    exact .nothing (fun _ => List.not_mem_nil) List.not_mem_nil
  | append_singleton steps step ih =>
    rw [build_append]
    by_cases hbuiltins : step = .builtins
    · rw [hbuiltins, apply_builtins, follows.added]
      exact ih.append_builtins follows.distinct
    · by_cases hregister : ∃ value, register name value = step
      · obtain ⟨value, rfl⟩ := hregister
        rw [follows.registered]
        exact .append_register steps
      · have hdifferent : ∀ value, register name value ≠ step :=
          fun value heq => hregister ⟨value, heq⟩
        rw [follows.other _ step hdifferent hbuiltins]
        exact ih.append_other hdifferent hbuiltins

theorem Follows.apply_addBuiltins {find : Context → Option α}
    (follows : Follows register builtins name find) (context : Context)
    (explicit : step ≠ .builtins) :
    find (step.apply context.addBuiltins) = find (step.apply context).addBuiltins := by
  rw [follows.added]
  by_cases hregister : ∃ value, register name value = step
  · obtain ⟨value, rfl⟩ := hregister
    rw [follows.registered, follows.registered, Option.some_or]
  · have hdifferent : ∀ value, register name value ≠ step :=
      fun value heq => hregister ⟨value, heq⟩
    rw [follows.other _ step hdifferent explicit, follows.other _ step hdifferent explicit,
      follows.added]

end Means

theorem follows_types (name : String) :
    Follows .type FieldType.builtins name fun context => context.types.get? name where
  distinct := nofun
  empty := rfl
  added context := by
    rw [addBuiltins, Registry.addNames_eq_addMissing, Registry.get?_addMissing]
  registered context value := by
    show (context.types.insert name value).get? name = _
    rw [Registry.get?_insert, if_pos rfl]
  other context step different explicit := by
    cases step with
    | builtins => exact absurd rfl explicit
    | type key value =>
      have hne : name ≠ key := by
        rintro rfl
        exact different value rfl
      show (context.types.insert key value).get? name = _
      rw [Registry.get?_insert, if_neg hne]
    | rule key value => rfl

theorem follows_rules (name : String) :
    Follows .rule Rule.builtins name fun context => context.rules.get? name where
  distinct := nofun
  empty := rfl
  added context := by
    rw [addBuiltins, Registry.get?_addMissing]
  registered context value := by
    show (context.rules.insert name value).get? name = _
    rw [Registry.get?_insert, if_pos rfl]
  other context step different explicit := by
    cases step with
    | builtins => exact absurd rfl explicit
    | type key value => rfl
    | rule key value =>
      have hne : name ≠ key := by
        rintro rfl
        exact different value rfl
      show (context.rules.insert key value).get? name = _
      rw [Registry.get?_insert, if_neg hne]

/-! ### When the built-ins are added -/

/-- Contexts are determined by what names mean in them. -/
theorem ext_get? (types : ∀ name, context.types.get? name = other.types.get? name)
    (rules : ∀ name, context.rules.get? name = other.rules.get? name) : context = other := by
  have htypes : context.types = other.types := Registry.ext_get? types
  have hrules : context.rules = other.rules := Registry.ext_get? rules
  cases context
  cases other
  cases htypes
  cases hrules
  rfl

theorem addBuiltins_addBuiltins (context : Context) :
    context.addBuiltins.addBuiltins = context.addBuiltins := by
  apply ext_get? <;> intro name
  · rw [(follows_types name).added, (follows_types name).added, Option.or_assoc, Option.or_self]
  · rw [(follows_rules name).added, (follows_rules name).added, Option.or_assoc, Option.or_self]

/-- Registered values win over built-ins, whichever comes first. -/
theorem apply_addBuiltins (context : Context) (step : Step) :
    step.apply context.addBuiltins = (step.apply context).addBuiltins := by
  by_cases hbuiltins : step = .builtins
  · rw [hbuiltins, apply_builtins, apply_builtins]
  · apply ext_get? <;> intro name
    · exact (follows_types name).apply_addBuiltins context hbuiltins
    · exact (follows_rules name).apply_addBuiltins context hbuiltins

theorem addBuiltins_build (steps : List Step) :
    (build steps).addBuiltins = (build (steps.filter Step.isExplicit)).addBuiltins := by
  induction steps using List.reverseRecOn with
  | nil => rfl
  | append_singleton steps step ih =>
    rw [build_append, List.filter_append]
    by_cases hbuiltins : step = .builtins
    · have hnone : [step].filter Step.isExplicit = [] := by rw [hbuiltins]; rfl
      rw [hnone, List.append_nil, hbuiltins, apply_builtins, addBuiltins_addBuiltins, ih]
    · have hone : [step].filter Step.isExplicit = [step] :=
        List.filter_cons_of_pos (isExplicit_iff.mpr hbuiltins)
      rw [hone, build_append, ← apply_addBuiltins, ih, apply_addBuiltins]

theorem addBuiltins_of_added (added : .builtins ∈ steps) :
    (build steps).addBuiltins = build steps := by
  induction steps using List.reverseRecOn with
  | nil => cases added
  | append_singleton steps step ih =>
    rw [build_append]
    rcases List.mem_append.mp added with h | h
    · rw [← apply_addBuiltins, ih h]
    · obtain rfl := List.mem_singleton.mp h
      rw [apply_builtins, addBuiltins_addBuiltins]

/-- Once the built-ins are added, a context depends on the explicit registrations alone. -/
theorem build_eq_of_added (added : .builtins ∈ steps) :
    build steps = (build (steps.filter Step.isExplicit)).addBuiltins := by
  rw [← addBuiltins_build, addBuiltins_of_added added]

/-- Each name means its last explicit registration, else the built-in of the name if the built-ins
are added, else nothing. Two orders of building that differ only in when and how often the built-ins
are added give one context, so all checks go alike. -/
theorem build_means (steps : List Step) :
    (∀ name, Means .type FieldType.builtins steps name ((build steps).types.get? name)) ∧
      (∀ name, Means .rule Rule.builtins steps name ((build steps).rules.get? name)) ∧
        ∀ steps', steps'.filter Step.isExplicit = steps.filter Step.isExplicit →
          .builtins ∈ steps → .builtins ∈ steps' → build steps' = build steps ∧
            ∀ (node : Node) (name : String) (input : Option Value),
              node.check (build steps') name input = node.check (build steps) name input := by
  refine ⟨fun name => (follows_types name).means steps,
    fun name => (follows_rules name).means steps, fun steps' same added added' => ?_⟩
  have hbuild : build steps' = build steps := by
    rw [build_eq_of_added added, build_eq_of_added added', same]
  exact ⟨hbuild, fun node name input => by rw [hbuild]⟩

/-! ### Types and rules under built-in names -/

namespace Overridden

/-- A rule function that every value meets. -/
def always : RuleFn := fun _ _ => true

/-- The built-ins come between registrations under their names. -/
def between : List Step :=
  [.rule "isIn" always, .type "int" .any, .builtins, .type "int" .string, .rule "isSet" always]

def around : List Step := .builtins :: between.filter Step.isExplicit ++ [.builtins]

theorem build_around : build around = build between := by
  obtain ⟨-, -, horder⟩ := build_means between
  obtain ⟨hbuild, -⟩ := horder around rfl (by simp [between]) (by simp [around])
  exact hbuild

end Overridden

end ParamSchema.Context
