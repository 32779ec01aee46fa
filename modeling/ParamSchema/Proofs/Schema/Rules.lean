import Mathlib.Data.List.Forall2
import ParamSchema.Proofs.Fallible
import ParamSchema.Schema.Loader

/-!
Rule maps. A key is negated exactly if it starts with the negation (`Rule.ofKey_eq_iff`), each entry
that is not disabled stands for one rule, and a map fails at its first entry that stands for none.
-/

namespace ParamSchema

namespace Rule

theorem isPrefixOf_toList_iff {front text : String} :
    front.toList.isPrefixOf text.toList = true ↔ ∃ rest, text = front ++ rest := by
  rw [List.isPrefixOf_iff_prefix]
  constructor
  · rintro ⟨rest, h⟩
    exact ⟨String.ofList rest, String.toList_injective (by simp [h])⟩
  · rintro ⟨rest, rfl⟩
    exact ⟨rest.toList, by simp⟩

theorem ofKey_eq_iff {key name : String} {negate : Bool} : Rule.ofKey key = (name, negate) ↔
    if negate then key = negation ++ name else key = name ∧ ∀ rest, key ≠ negation ++ rest := by
  unfold ofKey
  split
  case isTrue h =>
    obtain ⟨rest, rfl⟩ := isPrefixOf_toList_iff.mp h
    have hdrop : String.ofList ((negation ++ rest).toList.drop negation.length) = rest := by
      rw [String.toList_append, ← String.length_toList, List.drop_left, String.ofList_toList]
    rw [hdrop]
    cases negate <;> simp [eq_comm]
  case isFalse h =>
    have hnot := mt isPrefixOf_toList_iff.mpr h
    cases negate
    · simpa [eq_comm] using fun _ rest heq => hnot ⟨rest, heq⟩
    · simpa using fun heq => hnot ⟨name, heq⟩

end Rule

namespace Loader

/-- The rule that an entry of a rule map stands for. -/
structure EntryRule (entry : String × Value) (rule : Rule) : Prop where
  /-- One negation before the name is taken for `negate`; further ones belong to the name. -/
  key : if rule.negate then entry.1 = "NOT_" ++ rule.name
    else entry.1 = rule.name ∧ ∀ rest, entry.1 ≠ "NOT_" ++ rest
  check : entry.2 = .bool true ∧ rule.check = .named [] ∨
    ∃ args, entry.2 = .array args ∧ rule.check = .named args

/-- Documents write the rule with the key of its entry. -/
theorem EntryRule.key_eq {entry : String × Value} {rule : Rule} (h : EntryRule entry rule) :
    rule.key = entry.1 := by
  have hkey := h.key
  rw [Rule.key]
  split at hkey
  case isTrue hnegate =>
    rw [if_pos hnegate, hkey]
    rfl
  case isFalse hnegate => rw [if_neg hnegate, hkey.1]

/-- The entries of a rule map that are not disabled. -/
def enabled (entries : Members) : Members :=
  entries.filter fun entry =>
    match entry.2 with
    | .bool false => false
    | _ => true

/-- A rule map may give an entry this value. -/
def TakesEntry (loader : Loader) (setting : Value) : Prop :=
  setting = .bool true ∨ (∃ args, setting = .array args) ∨
    setting = .bool false ∧ loader.options.allowDisabledRules = true

variable {loader : Loader} {path : DocumentPath} {key : String} {setting : Value}
  {entries : Members} {rules : List Rule} {rule : Rule} {e : LoadError}

/-- The rule of a key with the given arguments. -/
def ruleOfKey (key : String) (args : List Value) : Rule :=
  { name := (Rule.ofKey key).1, negate := (Rule.ofKey key).2, check := .named args }

theorem entryRule_iff : EntryRule (key, setting) rule ↔ ∃ args, rule = ruleOfKey key args ∧
    (setting = .bool true ∧ args = [] ∨ setting = .array args) := by
  constructor
  · rintro ⟨hkey, hcheck⟩
    obtain ⟨name, negate, check⟩ := rule
    have hname : Rule.ofKey key = (name, negate) := Rule.ofKey_eq_iff.mpr hkey
    rcases hcheck with ⟨hsetting, rfl⟩ | ⟨args, hsetting, rfl⟩
    · exact ⟨[], by simp [ruleOfKey, hname], .inl ⟨hsetting, rfl⟩⟩
    · exact ⟨args, by simp [ruleOfKey, hname], .inr hsetting⟩
  · rintro ⟨args, rfl, hsetting⟩
    refine ⟨Rule.ofKey_eq_iff.mp rfl, ?_⟩
    rcases hsetting with ⟨hsetting, rfl⟩ | hsetting
    · exact .inl ⟨hsetting, rfl⟩
    · exact .inr ⟨args, hsetting, rfl⟩

theorem ruleOfEntry_of_refused (h : ¬loader.TakesEntry setting) :
    loader.ruleOfEntry path key setting = .error ⟨path, .invalidRule key setting.kind⟩ := by
  cases setting with
  | bool b =>
    cases b with
    | true => exact absurd (.inl rfl) h
    | false =>
      have hallow : loader.options.allowDisabledRules = false :=
        Bool.eq_false_iff.mpr fun hallow => h (.inr (.inr ⟨rfl, hallow⟩))
      simp [ruleOfEntry, hallow]
  | array args => exact absurd (.inr (.inl ⟨args, rfl⟩)) h
  | _ => rfl

theorem ruleOfEntry_true : loader.ruleOfEntry path key (.bool true) =
    .ok (some (ruleOfKey key [])) := rfl

theorem ruleOfEntry_array (args : List Value) : loader.ruleOfEntry path key (.array args) =
    .ok (some (ruleOfKey key args)) := rfl

theorem ruleOfEntry_false (h : loader.options.allowDisabledRules = true) :
    loader.ruleOfEntry path key (.bool false) = .ok none := by
  simp [ruleOfEntry, h]

theorem ruleOfEntry_eq_ok_iff {result : Option Rule} :
    loader.ruleOfEntry path key setting = .ok result ↔ loader.TakesEntry setting ∧
      ((∃ rule, EntryRule (key, setting) rule ∧ result = some rule) ∨
        setting = .bool false ∧ result = none) := by
  by_cases htakes : loader.TakesEntry setting
  · rw [and_iff_right htakes]
    simp only [entryRule_iff]
    rcases htakes with rfl | ⟨args, rfl⟩ | ⟨rfl, hallow⟩
    · simpa [ruleOfEntry_true] using eq_comm
    · simpa [ruleOfEntry_array] using eq_comm
    · simpa [ruleOfEntry_false hallow] using eq_comm
  · simp [ruleOfEntry_of_refused htakes, htakes]

theorem exists_entryRule (key : String) (htakes : loader.TakesEntry setting)
    (hfalse : setting ≠ .bool false) : ∃ rule, EntryRule (key, setting) rule := by
  simp only [entryRule_iff]
  rcases htakes with rfl | ⟨args, rfl⟩ | ⟨rfl, _⟩
  · exact ⟨_, [], rfl, .inl ⟨rfl, rfl⟩⟩
  · exact ⟨_, args, rfl, .inr rfl⟩
  · exact absurd rfl hfalse

theorem exists_ruleOfEntry_iff : (∃ result, loader.ruleOfEntry path key setting = .ok result) ↔
    loader.TakesEntry setting := by
  simp only [ruleOfEntry_eq_ok_iff, exists_and_left, and_iff_left_iff_imp]
  intro htakes
  by_cases hfalse : setting = .bool false
  · exact ⟨none, .inr ⟨hfalse, rfl⟩⟩
  · obtain ⟨rule, hrule⟩ := exists_entryRule key htakes hfalse
    exact ⟨some rule, .inl ⟨rule, hrule, rfl⟩⟩

theorem ruleOfEntry_eq_error_iff : loader.ruleOfEntry path key setting = .error e ↔
    ¬loader.TakesEntry setting ∧ e = ⟨path, .invalidRule key setting.kind⟩ := by
  by_cases htakes : loader.TakesEntry setting
  · have hok : ∃ result, loader.ruleOfEntry path key setting = .ok result :=
      exists_ruleOfEntry_iff.mpr htakes
    obtain ⟨result, hresult⟩ := hok
    simp [hresult, htakes]
  · simp [ruleOfEntry_of_refused htakes, htakes, eq_comm]

theorem enabled_cons_of_rule (h : EntryRule (key, setting) rule) :
    enabled ((key, setting) :: entries) = (key, setting) :: enabled entries := by
  obtain ⟨_, _, ⟨rfl, _⟩ | rfl⟩ := entryRule_iff.mp h <;> rfl

@[simp] theorem rulesOfMembers_nil : loader.rulesOfMembers path [] = .ok [] := rfl

theorem rulesOfMembers_cons : loader.rulesOfMembers path ((key, setting) :: entries) =
    loader.ruleOfEntry path key setting >>= fun rule =>
      loader.rulesOfMembers path entries >>= fun rules => .ok (rule.toList ++ rules) := rfl

/-- A rule map gives its rules in order if it takes every entry. -/
theorem rulesOfMembers_eq_ok_iff : loader.rulesOfMembers path entries = .ok rules ↔
    (∀ entry ∈ entries, loader.TakesEntry entry.2) ∧
      List.Forall₂ EntryRule (enabled entries) rules := by
  induction entries generalizing rules with
  | nil => simp [enabled, eq_comm]
  | cons entry entries ih =>
    obtain ⟨key, setting⟩ := entry
    simp only [rulesOfMembers_cons, bind_eq_ok_iff, ruleOfEntry_eq_ok_iff, ih, List.forall_mem_cons]
    constructor
    · rintro ⟨result, ⟨htakes, hresult⟩, more, ⟨hall, hmore⟩, h⟩
      cases h
      refine ⟨⟨htakes, hall⟩, ?_⟩
      rcases hresult with ⟨rule, hrule, rfl⟩ | ⟨rfl, rfl⟩
      · rw [enabled_cons_of_rule hrule]
        exact .cons hrule hmore
      · exact hmore
    · rintro ⟨⟨htakes, hall⟩, hrules⟩
      by_cases hfalse : setting = .bool false
      · subst hfalse
        exact ⟨none, ⟨htakes, .inr ⟨rfl, rfl⟩⟩, rules, ⟨hall, hrules⟩, rfl⟩
      · obtain ⟨rule, hrule⟩ := exists_entryRule key htakes hfalse
        rw [enabled_cons_of_rule hrule] at hrules
        cases hrules with
        | @cons _ first _ more hfirst hmore =>
          exact ⟨some first, ⟨htakes, .inl ⟨first, hfirst, rfl⟩⟩, more, ⟨hall, hmore⟩, rfl⟩

theorem rulesOfMembers_stepwise (loader : Loader) (path : DocumentPath) :
    Stepwise (fun entry => loader.ruleOfEntry path entry.1 entry.2)
      (loader.rulesOfMembers path) where
  nil := ⟨[], rfl⟩
  cons _ _ := ⟨fun rule rules => rule.toList ++ rules, rfl⟩

/-- A rule map fails at its first entry that it does not take. -/
theorem rulesOfMembers_eq_error_iff : loader.rulesOfMembers path entries = .error e ↔
    ∃ before key setting after, entries = before ++ (key, setting) :: after ∧
      (∀ entry ∈ before, loader.TakesEntry entry.2) ∧ ¬loader.TakesEntry setting ∧
        e = ⟨path, .invalidRule key setting.kind⟩ := by
  rw [(rulesOfMembers_stepwise loader path).eq_error_iff]
  simp only [exists_ruleOfEntry_iff, ruleOfEntry_eq_error_iff, Prod.exists]

theorem exists_rulesOfMembers_iff : (∃ rules, loader.rulesOfMembers path entries = .ok rules) ↔
    ∀ entry ∈ entries, loader.TakesEntry entry.2 := by
  rw [(rulesOfMembers_stepwise loader path).exists_ok_iff]
  simp only [exists_ruleOfEntry_iff]

end Loader

end ParamSchema
