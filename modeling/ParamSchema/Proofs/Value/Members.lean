import Mathlib.Data.List.Induction
import Mathlib.Data.List.Nodup
import Mathlib.Data.List.TakeWhile
import ParamSchema.Proofs.Entries
import ParamSchema.Value

/-!
Members by key. What is found under a key after one is set or dropped (`lookup_put`,
`lookup_remove`), and members set one after another: `Members.putAll` sets a whole list of them.
Where the keys are new it appends them (`putAll_of_nodup`); in general a key stays where it is given
first (`keys_putAll`) and holds what it is given last (`lookup_putAll`).
-/

namespace ParamSchema

theorem Value.filter_ne_null (content : Option Value) :
    (content.filter fun v => !v.isNull) ≠ some .null := by
  intro h
  have := Option.filter_eq_some_iff.mp h
  simp [Value.isNull] at this

namespace Members

/-- Sets the given members one after another. -/
def putAll (members given : Members) : Members :=
  given.foldl (fun members member => members.put member.1 member.2) members

@[simp] theorem putAll_nil (members : Members) : members.putAll [] = members := rfl

theorem putAll_cons (members : Members) (member : String × Value) (given : Members) :
    members.putAll (member :: given) = (members.put member.1 member.2).putAll given := rfl

theorem putAll_append (members given more : Members) :
    members.putAll (given ++ more) = (members.putAll given).putAll more :=
  List.foldl_append

/-! ### One member -/

theorem put_append {key : String} {v : Value} {before : Members} (after : Members)
    (h : key ∉ before.map (·.1)) : put key v (before ++ after) = before ++ put key v after := by
  induction before with
  | nil => rfl
  | cons member before ih =>
    obtain ⟨hne, hnot⟩ : key ≠ member.1 ∧ key ∉ before.map (·.1) := by simpa using h
    rw [List.cons_append, put, if_neg (Ne.symm hne), ih hnot, List.cons_append]

theorem put_of_notMem {key : String} {v : Value} {members : Members}
    (h : key ∉ members.map (·.1)) : put key v members = members ++ [(key, v)] := by
  have := put_append (v := v) [] h
  simpa [put] using this

theorem mem_put {key : String} {v : Value} {members : Members} {member : String × Value}
    (h : member ∈ put key v members) : member = (key, v) ∨ member ∈ members := by
  induction members with
  | nil => simpa [put] using h
  | cons first rest ih =>
    rw [put] at h
    split at h
    case isTrue hkey =>
      rcases List.mem_cons.mp h with rfl | h
      · exact .inl (by rw [hkey])
      · exact .inr (List.mem_cons_of_mem _ h)
    case isFalse =>
      rcases List.mem_cons.mp h with rfl | h
      · exact .inr List.mem_cons_self
      · exact (ih h).imp id (List.mem_cons_of_mem _)

theorem mem_keys_put {key k : String} {v : Value} {members : Members} :
    k ∈ (put key v members).map (·.1) ↔ k = key ∨ k ∈ members.map (·.1) := by
  induction members with
  | nil => simp [put]
  | cons first rest ih =>
    rw [put]
    split
    case isTrue hkey => simp [hkey]
    case isFalse =>
      simp only [List.map_cons, List.mem_cons, ih]
      exact or_left_comm

theorem nodup_put {key : String} {v : Value} {members : Members}
    (h : (members.map (·.1)).Nodup) : ((put key v members).map (·.1)).Nodup := by
  induction members with
  | nil => simp [put]
  | cons first rest ih =>
    obtain ⟨hfirst, hrest⟩ := List.nodup_cons.mp h
    rw [put]
    split
    case isTrue => exact h
    case isFalse hkey =>
      refine List.nodup_cons.mpr ⟨fun hmem => ?_, ih hrest⟩
      exact (mem_keys_put.mp hmem).elim hkey hfirst

/-! ### Lookups -/

theorem lookup_put {key k : String} {v : Value} {members : Members} :
    (put key v members).lookup k = if k = key then some v else members.lookup k := by
  induction members with
  | nil =>
    split
    case isTrue h => rw [h, put, List.lookup_cons_self]
    case isFalse h => exact Entries.lookup_cons_of_ne v [] h
  | cons first rest ih =>
    obtain ⟨key', v'⟩ := first
    rw [put]
    by_cases hkey : key' = key
    · rw [if_pos hkey, hkey]
      split
      case isTrue h => rw [h, List.lookup_cons_self]
      case isFalse h => rw [Entries.lookup_cons_of_ne v rest h, Entries.lookup_cons_of_ne v' rest h]
    · rw [if_neg hkey]
      by_cases h : k = key'
      · rw [h, List.lookup_cons_self, List.lookup_cons_self, if_neg hkey]
      · rw [Entries.lookup_cons_of_ne v' _ h, Entries.lookup_cons_of_ne v' rest h, ih]

theorem exists_append_of_lookup {key : String} {v : Value} {members : Members}
    (h : members.lookup key = some v) :
    ∃ before after, members = before ++ (key, v) :: after ∧ key ∉ before.map (·.1) := by
  obtain ⟨before, after, hmembers, hbefore⟩ := List.lookup_eq_some_iff.mp h
  refine ⟨before, after, hmembers, fun hkey => ?_⟩
  obtain ⟨member, hmember, rfl⟩ := List.mem_map.mp hkey
  simpa using hbefore member hmember

/-- Setting what a key holds already changes nothing. -/
theorem put_of_lookup {key : String} {v : Value} {members : Members}
    (h : members.lookup key = some v) : put key v members = members := by
  obtain ⟨before, after, rfl, hbefore⟩ := exists_append_of_lookup h
  rw [put_append _ hbefore, put, if_pos rfl]

/-! ### One member less -/

theorem ne_of_notMem {key : String} {members : Members} (h : key ∉ members.map (·.1)) :
    ∀ member ∈ members, decide (member.1 ≠ key) = true :=
  fun _ hmember => decide_eq_true fun heq => h (heq ▸ List.mem_map_of_mem hmember)

theorem remove_of_notMem {key : String} {members : Members} (h : key ∉ members.map (·.1)) :
    members.remove key = members := by
  rw [remove, List.dropWhile_eq_nil_iff.mpr (ne_of_notMem h)]

/-- The last member takes the place of the one that is dropped. -/
theorem remove_perm {key : String} {before : Members} (v : Value) (after : Members)
    (h : key ∉ before.map (·.1)) :
    (remove key (before ++ (key, v) :: after)).Perm (before ++ after) := by
  have hne := ne_of_notMem h
  have htake : (before ++ (key, v) :: after).takeWhile (·.1 ≠ key) = before := by
    rw [List.takeWhile_append_of_pos hne, List.takeWhile_cons_of_neg (by simp), List.append_nil]
  have hdrop : (before ++ (key, v) :: after).dropWhile (·.1 ≠ key) = (key, v) :: after := by
    rw [List.dropWhile_append_of_pos hne, List.dropWhile_cons_of_neg (by simp)]
  rw [remove, htake, hdrop]
  rcases List.eq_nil_or_concat after with rfl | ⟨after, last, rfl⟩
  · simp
  · simpa using (List.perm_append_singleton last after).symm.append_left before

theorem exists_append_of_mem_keys {key : String} {members : Members} (h : key ∈ members.map (·.1)) :
    ∃ before v after, members = before ++ (key, v) :: after ∧ key ∉ before.map (·.1) := by
  have hfound : members.lookup key ≠ none :=
    mt Entries.lookup_eq_none_iff_notMem.mp (not_not.mpr h)
  obtain ⟨v, hv⟩ := Option.ne_none_iff_exists'.mp hfound
  obtain ⟨before, after, hmembers, hbefore⟩ := exists_append_of_lookup hv
  exact ⟨before, v, after, hmembers, hbefore⟩

theorem nodup_remove {members : Members} (h : (members.map (·.1)).Nodup) (key : String) :
    ((members.remove key).map (·.1)).Nodup := by
  by_cases hkey : key ∈ members.map (·.1)
  · obtain ⟨before, v, after, rfl, hbefore⟩ := exists_append_of_mem_keys hkey
    refine ((remove_perm v after hbefore).map _).nodup_iff.mpr (h.sublist ?_)
    exact ((List.sublist_cons_self _ _).append_left _).map _
  · rwa [remove_of_notMem hkey]

theorem lookup_remove {members : Members} (h : (members.map (·.1)).Nodup) (key k : String) :
    (members.remove key).lookup k = if k = key then none else members.lookup k := by
  by_cases hkey : key ∈ members.map (·.1)
  · obtain ⟨before, v, after, rfl, hbefore⟩ := exists_append_of_mem_keys hkey
    rw [Entries.lookup_eq_of_perm (remove_perm v after hbefore) (nodup_remove h key),
      List.lookup_append, List.lookup_append]
    by_cases hk : k = key
    · have hafter : key ∉ after.map (·.1) := by
        rw [List.map_append, List.map_cons] at h
        exact (List.nodup_cons.mp (List.nodup_append.mp h).2.1).1
      rw [if_pos hk, hk, Entries.lookup_eq_none_iff_notMem.mpr hbefore,
        Entries.lookup_eq_none_iff_notMem.mpr hafter, Option.or_none]
    · rw [if_neg hk, Entries.lookup_cons_of_ne v after hk]
  · rw [remove_of_notMem hkey]
    split
    case isTrue hk => rw [hk, Entries.lookup_eq_none_iff_notMem.mpr hkey]
    case isFalse => rfl

/-! ### Many members -/

theorem putAll_of_nodup {members given : Members} (h : ((members ++ given).map (·.1)).Nodup) :
    members.putAll given = members ++ given := by
  induction given generalizing members with
  | nil => simp
  | cons member given ih =>
    rw [List.append_cons] at h
    have hnew : member.1 ∉ members.map (·.1) := by
      intro hmem
      rw [List.map_append, List.map_append, List.append_assoc] at h
      exact (List.nodup_append.mp h).2.2 _ hmem _ (by simp) rfl
    rw [putAll_cons, put_of_notMem hnew, ih h, List.append_assoc, List.singleton_append]

/-- Members whose keys are new stay behind those that were there. -/
theorem putAll_disjoint {members given : Members}
    (h : ∀ member ∈ given, member.1 ∉ members.map (·.1)) :
    members.putAll given = members ++ putAll [] given := by
  suffices ∀ done, putAll (members ++ done) given = members ++ putAll done given by
    simpa using this []
  intro done
  induction given generalizing done with
  | nil => rfl
  | cons member given ih =>
    rw [putAll_cons, putAll_cons, put_append _ (h member List.mem_cons_self)]
    exact ih (fun other hother => h other (List.mem_cons_of_mem _ hother)) _

theorem mem_putAll {members given : Members} {member : String × Value}
    (h : member ∈ members.putAll given) : member ∈ given ∨ member ∈ members := by
  induction given generalizing members with
  | nil => exact .inr h
  | cons first rest ih =>
    rcases ih h with h | h
    · exact .inl (List.mem_cons_of_mem _ h)
    · rcases mem_put h with rfl | h
      · exact .inl List.mem_cons_self
      · exact .inr h

theorem nodup_putAll {members : Members} (given : Members) (h : (members.map (·.1)).Nodup) :
    ((members.putAll given).map (·.1)).Nodup := by
  induction given generalizing members with
  | nil => exact h
  | cons member given ih => exact ih (nodup_put h)

theorem putAll_concat (members given : Members) (member : String × Value) :
    members.putAll (given ++ [member]) = (members.putAll given).put member.1 member.2 := by
  rw [putAll_append, putAll_cons, putAll_nil]

/-- A key that is there keeps its place. -/
theorem keys_put_of_mem {key : String} {v : Value} {members : Members}
    (h : key ∈ members.map (·.1)) : (put key v members).map (·.1) = members.map (·.1) := by
  obtain ⟨before, old, after, rfl, hbefore⟩ := exists_append_of_mem_keys h
  rw [put_append _ hbefore, put, if_pos rfl, List.map_append, List.map_append, List.map_cons,
    List.map_cons]

/-- Each key stands where it is given first. -/
theorem keys_putAll (given : Members) :
    (putAll [] given).map (·.1) = (given.map (·.1)).eraseDups := by
  induction given using List.reverseRecOn with
  | nil => rfl
  | append_singleton given member ih =>
    have hmem : member.1 ∈ (putAll [] given).map (·.1) ↔ member.1 ∈ given.map (·.1) := by
      rw [ih, List.mem_eraseDups]
    rw [putAll_concat, List.map_append, List.eraseDups_append, ← ih]
    by_cases h : member.1 ∈ given.map (·.1)
    · have hnone : (List.map (·.1) [member]).removeAll (given.map (·.1)) = [] := by
        simpa [List.removeAll] using h
      rw [keys_put_of_mem (hmem.mpr h), hnone, List.eraseDups_nil, List.append_nil]
    · have hnew : (List.map (·.1) [member]).removeAll (given.map (·.1)) = [member.1] := by
        simpa [List.removeAll] using h
      rw [put_of_notMem (mt hmem.mp h), hnew, List.map_append]
      rfl

/-- Each key holds what it is given last. -/
theorem lookup_putAll (given : Members) (key : String) :
    (putAll [] given).lookup key = ((given.filter (·.1 = key)).map (·.2)).getLast? := by
  induction given using List.reverseRecOn with
  | nil => rfl
  | append_singleton given member ih =>
    rw [putAll_concat, lookup_put, List.filter_append, List.map_append]
    by_cases h : key = member.1
    · rw [if_pos h, List.filter_cons_of_pos (by simp [h])]
      simp
    · rw [if_neg h, List.filter_cons_of_neg (by simpa using Ne.symm h)]
      simpa using ih

end Members

end ParamSchema
