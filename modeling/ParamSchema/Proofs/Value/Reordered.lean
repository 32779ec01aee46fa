import Mathlib.Data.List.Forall2
import ParamSchema.Proofs.Value.Members

/-!
Values that differ only in the order of keys, at any depth. `Value.same` does not tell them apart
(`Reordered.same_eq`), and where no key is there twice, the members that they hold under a key are
such values again (`Reordered.lookup`).
-/

namespace ParamSchema

/-- What holds of a value once it holds of its items or members holds of every value. -/
@[elab_as_elim]
theorem Value.induct {P : Value → Prop} (null : P .null) (bool : ∀ b, P (.bool b))
    (number : ∀ n, P (.number n)) (string : ∀ s, P (.string s))
    (array : ∀ items : List Value, (∀ item ∈ items, P item) → P (.array items))
    (object : ∀ members : Members, (∀ member ∈ members, P member.2) → P (.object members))
    (v : Value) : P v := by
  refine @Value.rec P (fun items => ∀ item ∈ items, P item)
    (fun members => ∀ member ∈ members, P member.2) (fun member => P member.2) null bool number
    string array object ?nil ?cons ?nil' ?cons' ?pair v
  case nil | nil' => simp
  case cons | cons' => exact fun _ _ hfirst hrest => List.forall_mem_cons.mpr ⟨hfirst, hrest⟩
  case pair => exact fun _ _ h => h

/-- The second value is the first with the keys of its objects in another order, at any depth. -/
inductive Value.Reordered : Value → Value → Prop
  | refl (v : Value) : Reordered v v
  | array {items items' : List Value} (each : List.Forall₂ Reordered items items') :
    Reordered (.array items) (.array items')
  /-- The values under the keys are reordered, then the members themselves. -/
  | object {members middle members' : Members}
    (keys : members.map (·.1) = middle.map (·.1))
    (each : List.Forall₂ Reordered (members.map (·.2)) (middle.map (·.2)))
    (order : middle.Perm members') : Reordered (.object members) (.object members')

/-- The members have the same keys in the same order, and reordered values. -/
def Members.Aligned (members members' : Members) : Prop :=
  List.Forall₂ (fun member member' => member.1 = member'.1 ∧ member.2.Reordered member'.2)
    members members'

namespace Members

variable {members members' before before' : Members} {key : String} {v v' : Value}

theorem aligned_iff : members.Aligned members' ↔ members.map (·.1) = members'.map (·.1) ∧
    List.Forall₂ Value.Reordered (members.map (·.2)) (members'.map (·.2)) := by
  rw [List.forall₂_map_left_iff, List.forall₂_map_right_iff, Aligned]
  constructor
  · intro h
    refine ⟨?_, h.imp fun _ _ h => h.2⟩
    induction h with
    | nil => rfl
    | cons h _ ih => rw [List.map_cons, List.map_cons, h.1, ih]
  · rintro ⟨hkeys, h⟩
    induction h with
    | nil => exact .nil
    | cons h _ ih =>
      obtain ⟨hkey, hkeys⟩ := List.cons_eq_cons.mp hkeys
      exact .cons ⟨hkey, h⟩ (ih hkeys)

theorem Aligned.refl (members : Members) : members.Aligned members :=
  List.forall₂_same.mpr fun _ _ => ⟨rfl, .refl _⟩

theorem Aligned.keys (h : members.Aligned members') : members.map (·.1) = members'.map (·.1) :=
  (aligned_iff.mp h).1

theorem Aligned.append (hbefore : before.Aligned before') (h : members.Aligned members') :
    Aligned (before ++ members) (before' ++ members') :=
  List.rel_append hbefore h

theorem Aligned.put (h : members.Aligned members') (key : String) (hv : v.Reordered v') :
    (members.put key v).Aligned (members'.put key v') := by
  induction h with
  | nil => exact .cons ⟨rfl, hv⟩ .nil
  | @cons member member' rest rest' hmember hrest ih =>
    obtain ⟨k, u⟩ := member
    obtain ⟨k', u'⟩ := member'
    obtain ⟨rfl, hu⟩ := hmember
    rw [Members.put, Members.put]
    split
    · exact .cons ⟨rfl, hv⟩ hrest
    · exact .cons ⟨rfl, hu⟩ ih

theorem Aligned.filter (h : members.Aligned members') (p : String → Bool) :
    Aligned (members.filter fun member => p member.1) (members'.filter fun member => p member.1) :=
  List.rel_filter (fun _ _ hmember => by simp [hmember.1]) h

theorem Aligned.lookup (h : members.Aligned members') (key : String) :
    Option.Rel Value.Reordered (members.lookup key) (members'.lookup key) := by
  induction h with
  | nil => exact .none
  | @cons member member' rest rest' hmember hrest ih =>
    obtain ⟨k, u⟩ := member
    obtain ⟨k', u'⟩ := member'
    obtain ⟨rfl, hu⟩ := hmember
    by_cases hkey : key = k
    · rw [hkey, List.lookup_cons_self, List.lookup_cons_self]
      exact .some hu
    · rw [Entries.lookup_cons_of_ne u rest hkey, Entries.lookup_cons_of_ne u' rest' hkey]
      exact ih

end Members

namespace Value

variable {items : List Value} {members members' : Members} {key : String} {u v v' w : Value}

theorem Reordered.refl_option (input : Option Value) : Option.Rel Reordered input input := by
  cases input with
  | none => exact .none
  | some v => exact .some (.refl v)

theorem reordered_some_iff {input : Option Value} :
    Option.Rel Reordered (some v) input ↔ ∃ v', input = some v' ∧ v.Reordered v' := by
  constructor
  · rintro ⟨hv⟩
    exact ⟨_, rfl, hv⟩
  · rintro ⟨v', rfl, hv⟩
    exact .some hv

theorem reordered_array_iff :
    (array items).Reordered w ↔
      ∃ items', w = array items' ∧ List.Forall₂ Reordered items items' := by
  constructor
  · rintro (_ | each | _)
    · exact ⟨items, rfl, List.forall₂_same.mpr fun v _ => .refl v⟩
    · exact ⟨_, rfl, each⟩
  · rintro ⟨items', rfl, each⟩
    exact .array each

theorem reordered_object_iff : (object members).Reordered w ↔
    ∃ middle members', w = object members' ∧ members.Aligned middle ∧ middle.Perm members' := by
  constructor
  · rintro (_ | _ | ⟨keys, each, order⟩)
    · exact ⟨members, members, rfl, .refl members, .refl members⟩
    · exact ⟨_, _, rfl, Members.aligned_iff.mpr ⟨keys, each⟩, order⟩
  · rintro ⟨middle, members', rfl, haligned, order⟩
    obtain ⟨keys, each⟩ := Members.aligned_iff.mp haligned
    exact .object keys each order

theorem Reordered.ne_array (h : v.Reordered v') (hnot : ∀ items, v ≠ Value.array items) :
    ∀ items, v' ≠ Value.array items := by
  rintro items rfl
  cases h with
  | refl => exact hnot _ rfl
  | array => exact hnot _ rfl

theorem Reordered.ne_object (h : v.Reordered v') (hnot : ∀ members, v ≠ Value.object members) :
    ∀ members, v' ≠ Value.object members := by
  rintro members rfl
  cases h with
  | refl => exact hnot _ rfl
  | object => exact hnot _ rfl

/-- Without a key twice, reordered objects hold reordered values under each key. -/
theorem Reordered.lookup (h : (Value.object members).Reordered (Value.object members'))
    (nodup : (members.map (·.1)).Nodup) (key : String) :
    Option.Rel Reordered (members.lookup key) (members'.lookup key) := by
  obtain ⟨middle, _, heq, haligned, order⟩ := reordered_object_iff.mp h
  cases heq
  rw [← Entries.lookup_eq_of_perm order (haligned.keys ▸ nodup)]
  exact haligned.lookup key

/-- Members in the same order may stand before reordered ones. -/
theorem Reordered.append {before before' : Members} (hbefore : before.Aligned before')
    (h : (Value.object members).Reordered (Value.object members')) :
    (Value.object (before ++ members)).Reordered (Value.object (before' ++ members')) := by
  obtain ⟨middle, _, heq, haligned, order⟩ := reordered_object_iff.mp h
  cases heq
  exact reordered_object_iff.mpr
    ⟨_, _, rfl, hbefore.append haligned, order.append_left before'⟩

theorem Reordered.keys_perm (h : (Value.object members).Reordered (Value.object members')) :
    (members.map (·.1)).Perm (members'.map (·.1)) := by
  obtain ⟨middle, _, heq, haligned, order⟩ := reordered_object_iff.mp h
  cases heq
  rw [haligned.keys]
  exact order.map _

/-! ### Equality -/

theorem sameMembers_eq_all (xs ys : Members) : sameMembers xs ys =
    xs.all fun member => (ys.lookup member.1).any fun y => member.2.same y := by
  induction xs with
  | nil => rfl
  | cons member xs ih =>
    obtain ⟨key, x⟩ := member
    rw [sameMembers, ih, List.all_cons]
    cases ys.lookup key <;> rfl

theorem sameItems_eq {items items' : List Value} (h : List.Forall₂ Reordered items items')
    (each : ∀ item ∈ items, ∀ item' u, item.Reordered item' → item.same u = item'.same u)
    (us : List Value) : sameItems items us = sameItems items' us := by
  induction h generalizing us with
  | nil => rfl
  | cons hv _ ih =>
    obtain ⟨hfirst, hrest⟩ := List.forall_mem_cons.mp each
    cases us with
    | nil => rfl
    | cons u us => rw [sameItems, sameItems, hfirst _ u hv, ih hrest us]

theorem sameMembers_eq {middle : Members} (h : members.Aligned middle)
    (each : ∀ member ∈ members, ∀ v' u, member.2.Reordered v' → member.2.same u = v'.same u)
    (us : Members) : sameMembers members us = sameMembers middle us := by
  rw [sameMembers_eq_all, sameMembers_eq_all]
  induction h with
  | nil => rfl
  | cons hmember _ ih =>
    obtain ⟨hfirst, hrest⟩ := List.forall_mem_cons.mp each
    rw [List.all_cons, List.all_cons, ih hrest, hmember.1]
    simp only [hfirst _ _ hmember.2]

/-- Equality takes no notice of the order of keys. -/
theorem Reordered.same_eq (h : v.Reordered v') (u : Value) : v.same u = v'.same u := by
  induction v using Value.induct generalizing v' u with
  | null | bool | number | string =>
    cases h
    rfl
  | array items ih =>
    obtain ⟨items', rfl, each⟩ := reordered_array_iff.mp h
    cases u with
    | array us => exact sameItems_eq each (fun item hitem v' u hv => ih item hitem hv u) us
    | _ => rfl
  | object members ih =>
    obtain ⟨middle, members', rfl, haligned, order⟩ := reordered_object_iff.mp h
    cases u with
    | object us =>
      have hlength : members.length = members'.length :=
        (List.Forall₂.length_eq haligned).trans order.length_eq
      have hmembers : sameMembers members us = sameMembers members' us := by
        rw [sameMembers_eq haligned (fun member hmember v' u hv => ih member hmember hv u),
          sameMembers_eq_all, sameMembers_eq_all, order.all_eq]
      rw [same, same, hlength, hmembers]
    | _ => rfl

end Value

end ParamSchema
