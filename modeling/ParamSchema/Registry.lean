/-!
Finite maps from names. A registry keeps its entries in increasing order of name, so it is
determined by its lookups and its names are listed in order; characters compare by code point,
which is the order of the names' UTF-8 bytes.
-/

namespace ParamSchema

/-- A finite map from names, its entries in increasing order of name. -/
structure Registry (α : Type) where
  entries : List (String × α)
  ordered : entries.Pairwise (fun a b => a.1 < b.1)

namespace Registry

variable {α : Type}

/-- Sets the value of a name in an ordered list of entries. -/
def insertEntry (name : String) (value : α) : List (String × α) → List (String × α)
  | [] => [(name, value)]
  | entry :: rest =>
    if name < entry.1 then (name, value) :: entry :: rest
    else if name = entry.1 then (name, value) :: rest
    else entry :: insertEntry name value rest

theorem mem_insertEntry {name : String} {value : α} {entry : String × α}
    {entries : List (String × α)} (h : entry ∈ insertEntry name value entries) :
    entry = (name, value) ∨ entry ∈ entries := by
  induction entries with
  | nil => simpa [insertEntry] using h
  | cons first rest ih =>
    unfold insertEntry at h
    split at h
    · simpa using h
    · split at h
      · rcases List.mem_cons.mp h with h | h
        · exact .inl h
        · exact .inr (List.mem_cons_of_mem _ h)
      · rcases List.mem_cons.mp h with h | h
        · exact .inr (h ▸ List.mem_cons_self)
        · exact (ih h).imp id (List.mem_cons_of_mem _)

theorem lt_of_not_lt_of_ne {a b : String} (hlt : ¬a < b) (hne : a ≠ b) : b < a := by
  refine Decidable.byContradiction fun h => hne ?_
  exact String.le_antisymm (String.not_lt.mp h) (String.not_lt.mp hlt)

theorem pairwise_insertEntry {name : String} {value : α} {entries : List (String × α)}
    (h : entries.Pairwise (fun a b => a.1 < b.1)) :
    (insertEntry name value entries).Pairwise (fun a b => a.1 < b.1) := by
  induction entries with
  | nil => simp [insertEntry]
  | cons first rest ih =>
    obtain ⟨hfirst, hrest⟩ := List.pairwise_cons.mp h
    unfold insertEntry
    split
    case isTrue hlt =>
      refine List.pairwise_cons.mpr ⟨fun entry hentry => ?_, h⟩
      rcases List.mem_cons.mp hentry with rfl | hentry
      · exact hlt
      · exact String.lt_trans hlt (hfirst _ hentry)
    case isFalse hlt =>
      split
      case isTrue heq =>
        exact List.pairwise_cons.mpr ⟨fun entry hentry => heq ▸ hfirst _ hentry, hrest⟩
      case isFalse hne =>
        refine List.pairwise_cons.mpr ⟨fun entry hentry => ?_, ih hrest⟩
        rcases mem_insertEntry hentry with rfl | hentry
        · exact lt_of_not_lt_of_ne hlt hne
        · exact hfirst _ hentry

/-- The registry without names. -/
def empty : Registry α := ⟨[], .nil⟩

instance : Inhabited (Registry α) := ⟨empty⟩

/-- Sets the value of a name. -/
def insert (registry : Registry α) (name : String) (value : α) : Registry α :=
  ⟨insertEntry name value registry.entries, pairwise_insertEntry registry.ordered⟩

/-- The value of a name. -/
def get? (registry : Registry α) (name : String) : Option α :=
  registry.entries.lookup name

def contains (registry : Registry α) (name : String) : Bool :=
  (registry.get? name).isSome

/-- The names in increasing order. -/
def names (registry : Registry α) : List String :=
  registry.entries.map (·.1)

/-- Sets the value of a name that has none. -/
def insertNew (registry : Registry α) (name : String) (value : α) : Registry α :=
  if registry.contains name then registry else registry.insert name value

/-- Adds the entries of another registry whose names have no value yet. -/
def addMissing (registry other : Registry α) : Registry α :=
  other.entries.foldl (fun r entry => r.insertNew entry.1 entry.2) registry

/-- Sets the value of a name to the one it has in another registry, unless it has a value already
or has none there. -/
def copyNew (registry other : Registry α) (name : String) : Registry α :=
  if registry.contains name then registry
  else
    match other.get? name with
    | some value => registry.insert name value
    | none => registry

/-- Adds the names of another registry that have no value yet, one after another. -/
def addNames (registry other : Registry α) : Registry α :=
  other.names.foldl (fun r name => r.copyNew other name) registry

/-- The registry with the given entries; of two under one name the last counts. -/
def ofList (entries : List (String × α)) : Registry α :=
  entries.foldl (fun r entry => r.insert entry.1 entry.2) empty

end Registry

end ParamSchema
