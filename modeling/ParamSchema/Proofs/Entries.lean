import Mathlib.Data.List.Forall2
import Mathlib.Data.List.Nodup

/-!
Lists of keys and values. A lookup finds the first entry under a key; where no key is there twice,
that is the only one, and the order of the entries does not matter.
-/

namespace ParamSchema.Entries

variable {α : Type} {entries entries' : List (String × α)} {key k : String} {v : α}

theorem lookup_cons_eq (entry : String × α) (rest : List (String × α)) :
    (entry :: rest).lookup k = if k = entry.1 then some entry.2 else rest.lookup k := by
  obtain ⟨key, v⟩ := entry
  by_cases h : k = key
  · rw [if_pos h, h, List.lookup_cons_self]
  · rw [if_neg h, List.lookup_cons, beq_eq_false_iff_ne.mpr h]

theorem lookup_cons_of_ne (v : α) (rest : List (String × α)) (h : k ≠ key) :
    List.lookup k ((key, v) :: rest) = rest.lookup k := by
  rw [lookup_cons_eq, if_neg h]

theorem lookup_eq_none_iff_notMem : entries.lookup key = none ↔ key ∉ entries.map (·.1) := by
  rw [List.lookup_eq_none_iff]
  constructor
  · intro h hkey
    obtain ⟨entry, hentry, rfl⟩ := List.mem_map.mp hkey
    simpa using h entry hentry
  · intro h entry hentry
    exact bne_iff_ne.mpr fun heq => h (heq ▸ List.mem_map_of_mem hentry)

/-- Where no key is there twice, the entry under a key is the one that is found. -/
theorem lookup_eq_some_iff_mem (h : (entries.map (·.1)).Nodup) :
    entries.lookup key = some v ↔ (key, v) ∈ entries := by
  constructor
  · intro hlookup
    obtain ⟨before, after, rfl, _⟩ := List.lookup_eq_some_iff.mp hlookup
    exact List.mem_append_cons_self
  · intro hentry
    obtain ⟨before, after, rfl⟩ := List.append_of_mem hentry
    refine List.lookup_eq_some_iff.mpr ⟨before, after, rfl, fun entry hbefore => ?_⟩
    rw [List.map_append, List.nodup_append] at h
    exact bne_iff_ne.mpr (h.2.2 _ (List.mem_map_of_mem hbefore) key (by simp)).symm

theorem lookup_eq_of_perm (h : entries.Perm entries') (nodup : (entries.map (·.1)).Nodup)
    (key : String) : entries.lookup key = entries'.lookup key := by
  have nodup' : (entries'.map (·.1)).Nodup := (h.map _).nodup_iff.mp nodup
  ext v
  rw [lookup_eq_some_iff_mem nodup, lookup_eq_some_iff_mem nodup', h.mem_iff]

/-- Where no key is there twice, lists in which the same is found differ in order alone. -/
theorem perm_of_lookup_eq (nodup : (entries.map (·.1)).Nodup) (nodup' : (entries'.map (·.1)).Nodup)
    (h : ∀ key, entries.lookup key = entries'.lookup key) : entries.Perm entries' := by
  refine (List.perm_ext_iff_of_nodup nodup.of_map nodup'.of_map).mpr fun entry => ?_
  rw [← lookup_eq_some_iff_mem nodup, ← lookup_eq_some_iff_mem nodup', h]

theorem keys_eq_of_forall₂ {β : Type} {others : List (String × β)}
    (h : List.Forall₂ (fun entry other => other.1 = entry.1) entries others) :
    others.map (·.1) = entries.map (·.1) := by
  induction h with
  | nil => rfl
  | cons hkey _ ih => rw [List.map_cons, List.map_cons, hkey, ih]

end ParamSchema.Entries
