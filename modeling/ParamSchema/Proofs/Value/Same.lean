import Mathlib.Data.List.Perm.Subperm
import ParamSchema.Proofs.Value.Distinct
import ParamSchema.Proofs.Value.Reordered

/-!
Equality of values. `Value.same` is transitive, and on values in which no object has a key twice it
is reflexive and symmetric too (`same_trans`, `same_self`, `same_comm`).
-/

namespace ParamSchema

namespace Number

theorem same_self (n : Number) : n.same n = true := by
  cases n <;> simp [same]

theorem same_comm (m n : Number) : m.same n = n.same m := by
  cases m <;> cases n <;> simp [same, beq_eq_beq, eq_comm]

theorem same_trans {l m n : Number} (h : l.same m = true) (h' : m.same n = true) :
    l.same n = true := by
  cases l <;> cases m <;> cases n <;> simp_all [same]

end Number

namespace Value

variable {u v w : Value} {items : List Value} {members : Members}

theorem sameItems_iff {xs ys : List Value} :
    sameItems xs ys = true ↔ List.Forall₂ (fun x y => x.same y = true) xs ys := by
  induction xs generalizing ys with
  | nil => cases ys <;> simp [sameItems]
  | cons x xs ih => cases ys <;> simp [sameItems, ih]

theorem sameMembers_iff {xs ys : Members} : sameMembers xs ys = true ↔
    ∀ member ∈ xs, ∃ y, ys.lookup member.1 = some y ∧ member.2.same y = true := by
  simp [sameMembers_eq_all, Option.any_eq_true]

theorem same_null_iff : null.same v = true ↔ v = null := by
  cases v <;> simp [same]

theorem same_bool_iff {b : Bool} : (bool b).same v = true ↔ v = bool b := by
  cases v <;> simp [same, eq_comm (a := b)]

theorem same_string_iff {s : String} : (string s).same v = true ↔ v = string s := by
  cases v <;> simp [same, eq_comm (a := s)]

theorem same_number_iff {m : Number} :
    (number m).same v = true ↔ ∃ n, v = number n ∧ m.same n = true := by
  cases v <;> simp [same]

theorem same_array_iff : (array items).same v = true ↔
    ∃ items', v = array items' ∧ List.Forall₂ (fun x y => x.same y = true) items items' := by
  cases v <;> simp [same, sameItems_iff]

theorem same_object_iff : (object members).same v = true ↔
    ∃ members', v = object members' ∧ members.length = members'.length ∧
      ∀ member ∈ members, ∃ y, members'.lookup member.1 = some y ∧ member.2.same y = true := by
  cases v <;> simp [same, sameMembers_iff]

/-! ### Transitivity -/

theorem same_trans_items {us vs ws : List Value}
    (h : List.Forall₂ (fun x y => x.same y = true) us vs)
    (h' : List.Forall₂ (fun x y => x.same y = true) vs ws)
    (each : ∀ u ∈ us, ∀ v w, u.same v = true → v.same w = true → u.same w = true) :
    List.Forall₂ (fun x y => x.same y = true) us ws := by
  induction h generalizing ws with
  | nil => exact h'
  | cons huv _ ih =>
    obtain ⟨hfirst, hrest⟩ := List.forall_mem_cons.mp each
    cases h' with
    | cons hvw htail => exact .cons (hfirst _ _ huv hvw) (ih htail hrest)

theorem same_trans (h : u.same v = true) (h' : v.same w = true) : u.same w = true := by
  induction u using Value.induct generalizing v w with
  | null =>
    rw [same_null_iff.mp h] at h'
    exact h'
  | bool b =>
    rw [same_bool_iff.mp h] at h'
    exact h'
  | string s =>
    rw [same_string_iff.mp h] at h'
    exact h'
  | number m =>
    obtain ⟨n, rfl, hmn⟩ := same_number_iff.mp h
    obtain ⟨l, rfl, hnl⟩ := same_number_iff.mp h'
    exact same_number_iff.mpr ⟨l, rfl, Number.same_trans hmn hnl⟩
  | array items ih =>
    obtain ⟨vs, rfl, huv⟩ := same_array_iff.mp h
    obtain ⟨ws, rfl, hvw⟩ := same_array_iff.mp h'
    refine same_array_iff.mpr ⟨ws, rfl, same_trans_items huv hvw ?_⟩
    intro item hitem v w hv hw
    exact ih item hitem hv hw
  | object members ih =>
    obtain ⟨vs, rfl, hlength, huv⟩ := same_object_iff.mp h
    obtain ⟨ws, rfl, hlength', hvw⟩ := same_object_iff.mp h'
    refine same_object_iff.mpr ⟨ws, rfl, hlength.trans hlength', ?_⟩
    intro member hmember
    obtain ⟨y, hy, hsame⟩ := huv member hmember
    -- What is found under the key is a member, so the second equality speaks of it.
    obtain ⟨before, after, rfl, -⟩ := List.lookup_eq_some_iff.mp hy
    obtain ⟨z, hz, hsame'⟩ := hvw (member.1, y) List.mem_append_cons_self
    exact ⟨z, hz, ih member hmember hsame hsame'⟩

/-! ### Reflexivity and symmetry -/

theorem same_self (h : v.Distinct) : v.same v = true := by
  induction v using Value.induct with
  | null => exact same_null_iff.mpr rfl
  | bool b => exact same_bool_iff.mpr rfl
  | string s => exact same_string_iff.mpr rfl
  | number n => exact Number.same_self n
  | array items ih =>
    have each := distinct_array_iff.mp h
    refine same_array_iff.mpr ⟨items, rfl, List.forall₂_same.mpr ?_⟩
    intro item hitem
    exact ih item hitem (each item hitem)
  | object members ih =>
    obtain ⟨keys, each⟩ := distinct_object_iff.mp h
    refine same_object_iff.mpr ⟨members, rfl, rfl, ?_⟩
    intro member hmember
    have hlookup := (Entries.lookup_eq_some_iff_mem keys).mpr hmember
    exact ⟨member.2, hlookup, ih member hmember (each member hmember)⟩

/-- A list of keys without repetition that is inside one of the same length is all of it. -/
theorem keys_subset_of_subset {members members' : Members} (keys : (members.map (·.1)).Nodup)
    (hlength : members.length = members'.length)
    (h : members.map (·.1) ⊆ members'.map (·.1)) : members'.map (·.1) ⊆ members.map (·.1) := by
  have hle : (members'.map (·.1)).length ≤ (members.map (·.1)).length := by
    rw [List.length_map, List.length_map, hlength]
  exact ((List.subperm_of_subset keys h).perm_of_length_le hle).symm.subset

theorem same_symm (hv : v.Distinct) (hw : w.Distinct) (h : v.same w = true) :
    w.same v = true := by
  induction v using Value.induct generalizing w with
  | null =>
    rw [same_null_iff.mp h]
    exact same_null_iff.mpr rfl
  | bool b =>
    rw [same_bool_iff.mp h]
    exact same_bool_iff.mpr rfl
  | string s =>
    rw [same_string_iff.mp h]
    exact same_string_iff.mpr rfl
  | number m =>
    obtain ⟨n, rfl, hmn⟩ := same_number_iff.mp h
    exact (Number.same_comm n m).trans hmn
  | array items ih =>
    obtain ⟨items', rfl, hsame⟩ := same_array_iff.mp h
    have each := distinct_array_iff.mp hv
    have each' := distinct_array_iff.mp hw
    refine same_array_iff.mpr ⟨items, rfl, List.Forall₂.flip ?_⟩
    refine List.forall₂_iff_zip.mpr ⟨hsame.length_eq, ?_⟩
    intro x y hmem
    obtain ⟨hx, hy⟩ := List.of_mem_zip hmem
    exact ih x hx (each x hx) (each' y hy) ((List.forall₂_iff_zip.mp hsame).2 hmem)
  | object members ih =>
    obtain ⟨members', rfl, hlength, hsame⟩ := same_object_iff.mp h
    obtain ⟨keys, each⟩ := distinct_object_iff.mp hv
    obtain ⟨keys', each'⟩ := distinct_object_iff.mp hw
    refine same_object_iff.mpr ⟨members, rfl, hlength.symm, ?_⟩
    have hsubset : members.map (·.1) ⊆ members'.map (·.1) := by
      intro key hkey
      obtain ⟨member, hmember, rfl⟩ := List.mem_map.mp hkey
      obtain ⟨y, hy, -⟩ := hsame member hmember
      exact List.mem_map.mpr ⟨_, (Entries.lookup_eq_some_iff_mem keys').mp hy, rfl⟩
    intro member' hmember'
    have hkey := keys_subset_of_subset keys hlength hsubset (List.mem_map_of_mem hmember')
    obtain ⟨member, hmember, heq⟩ := List.mem_map.mp hkey
    obtain ⟨y, hy, hxy⟩ := hsame member hmember
    have hy' := (Entries.lookup_eq_some_iff_mem keys').mpr hmember'
    rw [heq, hy', Option.some.injEq] at hy
    subst hy
    have hx := (Entries.lookup_eq_some_iff_mem keys).mpr hmember
    rw [heq] at hx
    exact ⟨member.2, hx, ih member hmember (each member hmember) (each' member' hmember') hxy⟩

theorem same_comm (hv : v.Distinct) (hw : w.Distinct) : v.same w = w.same v :=
  Bool.eq_iff_iff.mpr ⟨same_symm hv hw, same_symm hw hv⟩

end Value

end ParamSchema
