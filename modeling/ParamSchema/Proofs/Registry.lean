import Mathlib.Data.List.Perm.Basic
import ParamSchema.Proofs.Entries
import ParamSchema.Registry

/-!
Registries by lookup: what is found after a name is set (`get?_insert`), a whole list of entries is
(`get?_insertAll`) or missing entries are added (`get?_addMissing`), be it entry by entry or name by
name (`addNames_eq_addMissing`). Registries that agree in all lookups are equal (`ext_get?`).
-/

namespace ParamSchema.Registry

variable {α : Type} {registry other : Registry α} {name key : String} {value : α}
  {entries : List (String × α)}

theorem lookup_insertEntry : (insertEntry name value entries).lookup key =
    if key = name then some value else entries.lookup key := by
  induction entries with
  | nil => rw [insertEntry, Entries.lookup_cons_eq]
  | cons first rest ih =>
    unfold insertEntry
    split
    case isTrue => rw [Entries.lookup_cons_eq]
    case isFalse =>
      split
      case isTrue hname =>
        rw [Entries.lookup_cons_eq, Entries.lookup_cons_eq, ← hname]
        split <;> rfl
      case isFalse hname =>
        rw [Entries.lookup_cons_eq, Entries.lookup_cons_eq, ih]
        by_cases hkey : key = first.1
        · have hne : key ≠ name := fun h => hname (h.symm.trans hkey)
          rw [if_pos hkey, if_pos hkey, if_neg hne]
        · rw [if_neg hkey, if_neg hkey]

@[simp] theorem get?_empty : (empty : Registry α).get? key = none := rfl

theorem get?_insert :
    (registry.insert name value).get? key = if key = name then some value else registry.get? key :=
  lookup_insertEntry

theorem nodup_names (registry : Registry α) : registry.names.Nodup := by
  rw [names, List.nodup_iff_pairwise_ne, List.pairwise_map]
  refine registry.ordered.imp fun {a b} hlt heq => ?_
  rw [heq] at hlt
  exact String.lt_irrefl _ hlt

theorem get?_eq_some_iff : registry.get? key = some value ↔ (key, value) ∈ registry.entries :=
  Entries.lookup_eq_some_iff_mem registry.nodup_names

/-- Registries are determined by what is found in them. -/
theorem ext_get? (h : ∀ key, registry.get? key = other.get? key) : registry = other := by
  have hperm : registry.entries.Perm other.entries :=
    Entries.perm_of_lookup_eq registry.nodup_names other.nodup_names h
  have hentries : registry.entries = other.entries := by
    refine hperm.eq_of_pairwise ?_ registry.ordered other.ordered
    intro a b _ _ hab hba
    exact absurd (String.lt_trans hab hba) (String.lt_irrefl _)
  cases registry
  cases other
  congr

/-- Sets the values of the names in a list, one after another. -/
def insertAll (registry : Registry α) (entries : List (String × α)) : Registry α :=
  entries.foldl (fun r entry => r.insert entry.1 entry.2) registry

theorem get?_insertAll (distinct : (entries.map (·.1)).Nodup) :
    (registry.insertAll entries).get? key = (entries.lookup key).or (registry.get? key) := by
  induction entries generalizing registry with
  | nil => rfl
  | cons first rest ih =>
    obtain ⟨hfirst, hrest⟩ := List.nodup_cons.mp distinct
    have hinsert : registry.insertAll (first :: rest) =
        (registry.insert first.1 first.2).insertAll rest := rfl
    rw [hinsert, ih hrest, get?_insert, Entries.lookup_cons_eq]
    by_cases h : key = first.1
    · have hnone : rest.lookup key = none :=
        Entries.lookup_eq_none_iff_notMem.mpr (h ▸ hfirst)
      rw [if_pos h, if_pos h, hnone]
      rfl
    · rw [if_neg h, if_neg h]

theorem get?_insertNew : (registry.insertNew name value).get? key =
    (registry.get? key).or (if key = name then some value else none) := by
  rw [insertNew, contains]
  cases hname : registry.get? name with
  | some old =>
    rw [Option.isSome_some, if_pos rfl]
    by_cases h : key = name
    · rw [h, hname, Option.some_or]
    · rw [if_neg h, Option.or_none]
  | none =>
    rw [Option.isSome_none, if_neg Bool.false_ne_true, get?_insert]
    by_cases h : key = name
    · rw [if_pos h, if_pos h, h, hname, Option.none_or]
    · rw [if_neg h, if_neg h, Option.or_none]

/-- A name that has a value keeps it; others get theirs from the other registry. -/
theorem get?_addMissing (registry other : Registry α) (key : String) :
    (registry.addMissing other).get? key = (registry.get? key).or (other.get? key) := by
  show (other.entries.foldl _ registry).get? key = (registry.get? key).or (other.entries.lookup key)
  induction other.entries generalizing registry with
  | nil => exact (Option.or_none).symm
  | cons first rest ih =>
    rw [List.foldl_cons, ih, get?_insertNew, Entries.lookup_cons_eq, Option.or_assoc]
    split <;> rfl

/-- It comes to the same whether names are looked up one by one or entries are added. -/
theorem addNames_eq_addMissing (registry other : Registry α) :
    registry.addNames other = registry.addMissing other := by
  rw [addNames, addMissing, names, List.foldl_map]
  refine List.foldl_ext _ _ _ fun r entry hentry => ?_
  have hget : other.get? entry.1 = some entry.2 := get?_eq_some_iff.mpr hentry
  rw [copyNew, insertNew, hget]

end ParamSchema.Registry
