import ParamSchema.Proofs.Fallible
import ParamSchema.Proofs.Value.Members
import ParamSchema.Request

/-!
What checking a request changes. The maps of a request are its query, body and parameters; each
has an answer, and `Request.Effect` says which of them are stored and that all else stays.
`check_effect` derives this from the effect of one step after another.
-/

namespace ParamSchema.Request

/-- A key and what the check of the map that is stored under it answers. -/
abbrev Step := String × Except Fault (Option Value)

/-- The steps come to store `answer` under `key`: all up to this one pass. -/
inductive Stores (key : String) (answer : Option Value) : List Step → Prop
  | here (rest : List Step) : Stores key answer ((key, .ok answer) :: rest)
  | later (other : String) (first : Option Value) {rest : List Step}
    (more : Stores key answer rest) : Stores key answer ((other, .ok first) :: rest)

/-- The first step that does not pass has this fault. -/
inductive Stops (fault : Fault) : List Step → Prop
  | here (key : String) (rest : List Step) : Stops fault ((key, .error fault) :: rest)
  | later (key : String) (first : Option Value) {rest : List Step}
    (more : Stops fault rest) : Stops fault ((key, .ok first) :: rest)

variable {request : Request} {key k : String} {answer : Option Value} {fault : Fault}
  {steps rest : List Step}

/-! ### One step -/

theorem nodup_store (h : (request.validated.map (·.1)).Nodup) (key : String)
    (answer : Option Value) : ((request.store key answer).validated.map (·.1)).Nodup := by
  cases answer with
  | some v => exact Members.nodup_put h
  | none => exact Members.nodup_remove h key

theorem lookup_store (h : (request.validated.map (·.1)).Nodup) (key k : String)
    (answer : Option Value) : (request.store key answer).validated.lookup k =
      if k = key then answer else request.validated.lookup k := by
  cases answer with
  | some v => exact Members.lookup_put
  | none => exact Members.lookup_remove h key k

theorem store_of_lookup (h : request.validated.lookup key = answer) :
    request.store key answer = request := by
  cases answer with
  | some v => rw [store, Members.put_of_lookup h]
  | none => rw [store, Members.remove_of_notMem (Entries.lookup_eq_none_iff_notMem.mp h)]

theorem store_eq_with (request : Request) (key : String) (answer : Option Value) :
    ∃ validated, request.store key answer = { request with validated } := by
  cases answer <;> exact ⟨_, rfl⟩

/-! ### All steps -/

theorem Stores.mem_keys (h : Stores key answer steps) : key ∈ steps.map (·.1) := by
  induction h with
  | here => exact List.mem_cons_self
  | later _ _ _ ih => exact List.mem_cons_of_mem _ ih

theorem storeAll_eq_with (request : Request) (steps : List Step) :
    ∃ validated, (request.storeAll steps).1 = { request with validated } := by
  induction steps generalizing request with
  | nil => exact ⟨request.validated, rfl⟩
  | cons first rest ih =>
    obtain ⟨key, result⟩ := first
    cases result with
    | error e => exact ⟨request.validated, rfl⟩
    | ok answer =>
      obtain ⟨stored, hstored⟩ := store_eq_with request key answer
      obtain ⟨validated, hvalidated⟩ := ih (request.store key answer)
      exact ⟨validated, by rw [storeAll, hvalidated, hstored]⟩

theorem storeAll_eq_none_iff :
    (request.storeAll steps).2 = none ↔ ∀ step ∈ steps, ∀ e, step.2 ≠ .error e := by
  induction steps generalizing request with
  | nil => simp [storeAll]
  | cons first rest ih =>
    obtain ⟨key, result⟩ := first
    cases result with
    | error e => simp [storeAll]
    | ok answer => simp [storeAll, ih]

theorem storeAll_eq_some_iff : (request.storeAll steps).2 = some fault ↔ Stops fault steps := by
  induction steps generalizing request with
  | nil => exact ⟨nofun, nofun⟩
  | cons first rest ih =>
    obtain ⟨key, result⟩ := first
    cases result with
    | error e =>
      constructor
      · rintro ⟨⟩
        exact .here key rest
      · rintro ⟨⟩
        rfl
    | ok answer =>
      rw [storeAll, ih]
      constructor
      · exact .later key answer
      · rintro ⟨⟩
        assumption

theorem nodup_storeAll (h : (request.validated.map (·.1)).Nodup) (steps : List Step) :
    ((request.storeAll steps).1.validated.map (·.1)).Nodup := by
  induction steps generalizing request with
  | nil => exact h
  | cons first rest ih =>
    obtain ⟨key, result⟩ := first
    cases result with
    | error e => exact h
    | ok answer => exact ih (nodup_store h key answer)

/-- What the steps do not come to store under stays as it is. -/
theorem lookup_storeAll_of_not_stores (h : (request.validated.map (·.1)).Nodup)
    (hnot : ∀ answer, ¬Stores key answer steps) :
    (request.storeAll steps).1.validated.lookup key = request.validated.lookup key := by
  induction steps generalizing request with
  | nil => rfl
  | cons first rest ih =>
    obtain ⟨other, result⟩ := first
    cases result with
    | error e => rfl
    | ok answer =>
      have hne : key ≠ other := fun heq => hnot answer (heq ▸ .here rest)
      rw [storeAll, ih (nodup_store h other answer) fun a ha => hnot a (.later other answer ha),
        lookup_store h, if_neg hne]

/-- What the steps come to store is there in the end, if each has its own key. -/
theorem lookup_storeAll_of_stores (h : (request.validated.map (·.1)).Nodup)
    (keys : (steps.map (·.1)).Nodup) (hstores : Stores key answer steps) :
    (request.storeAll steps).1.validated.lookup key = answer := by
  induction hstores generalizing request with
  | here rest =>
    have hkey := (List.nodup_cons.mp keys).1
    rw [storeAll, lookup_storeAll_of_not_stores (nodup_store h _ _) fun a ha => hkey ha.mem_keys,
      lookup_store h, if_pos rfl]
  | later other first _ ih => exact ih (nodup_store h other first) (List.nodup_cons.mp keys).2

/-! ### The maps of a request -/

/-- A map of a request, in the order in which they are checked. -/
inductive Part
  | query
  | body
  | params

namespace Part

/-- The key that the map is stored under. -/
def target (keys : TargetKeys) : Part → String
  | query => keys.query
  | body => keys.body
  | params => keys.params

/-- The answer for the map: the map as it came if it is skipped, else that of its node. Parameters
that are neither skipped nor declared have none. -/
def answer? (context : Context) (route : Route) (request : Request) :
    Part → Option (Except Fault (Option Value))
  | query =>
    some (if route.skipQuery then .ok request.query
      else route.queryNode.check context "query" request.query)
  | body =>
    some (if route.skipBody then .ok request.body
      else route.bodyNode.check context "body" request.body)
  | params =>
    if route.skipParams then some (.ok request.params)
    else route.paramsNode?.map fun node => node.check context "params" request.params

/-- The maps that are checked before. -/
def earlier : Part → List Part
  | query => []
  | body => [query]
  | params => [query, body]

/-- No map that is checked before has a fault. -/
def Reached (context : Context) (route : Route) (request : Request) (part : Part) : Prop :=
  ∀ other ∈ part.earlier, ∀ e, other.answer? context route request ≠ some (.error e)

/-- The map is reached and has this answer. -/
@[mk_iff]
structure Passes (context : Context) (route : Route) (request : Request) (part : Part)
    (answer : Option Value) : Prop where
  reached : part.Reached context route request
  answers : part.answer? context route request = some (.ok answer)

end Part

/-- What a check makes of a request, and its fault. -/
structure Effect (context : Context) (keys : TargetKeys) (route : Route) (before : Request)
    (outcome : Request × Option Fault) : Prop where
  passed : outcome.2 = none ↔
    ∀ part e, Part.answer? context route before part ≠ some (.error e)
  failed : ∀ e, outcome.2 = some e ↔ ∃ part, Part.Reached context route before part ∧
    part.answer? context route before = some (.error e)
  /-- A map that passes is stored under its key; an answer that comes to nothing clears the key. -/
  stored : ∀ part answer, Part.Passes context route before part answer →
    outcome.1.validated.lookup (part.target keys) = answer
  /-- The keys of all other maps keep what they hold. -/
  kept : ∀ part, (∀ answer, ¬Part.Passes context route before part answer) →
    outcome.1.validated.lookup (part.target keys) = before.validated.lookup (part.target keys)
  others : ∀ key, (∀ part, key ≠ Part.target keys part) →
    outcome.1.validated.lookup key = before.validated.lookup key
  distinct : (outcome.1.validated.map (·.1)).Nodup
  query : outcome.1.query = before.query
  body : outcome.1.body = before.body
  params : outcome.1.params = before.params

variable {context : Context} {keys : TargetKeys} {route : Route}

theorem stores_nil : ¬Stores key answer [] := nofun

theorem stores_cons {other : String} {result : Except Fault (Option Value)} :
    Stores key answer ((other, result) :: rest) ↔
      other = key ∧ result = .ok answer ∨ (∀ e, result ≠ .error e) ∧ Stores key answer rest := by
  constructor
  · rintro (_ | ⟨_, _, hmore⟩)
    · exact .inl ⟨rfl, rfl⟩
    · exact .inr ⟨nofun, hmore⟩
  · rintro (⟨rfl, rfl⟩ | ⟨hpasses, hmore⟩)
    · exact .here rest
    · cases result with
      | error e => exact absurd rfl (hpasses e)
      | ok first => exact .later other first hmore

theorem stops_nil : ¬Stops fault [] := nofun

theorem stops_cons {result : Except Fault (Option Value)} :
    Stops fault ((key, result) :: rest) ↔
      result = .error fault ∨ (∀ e, result ≠ .error e) ∧ Stops fault rest := by
  constructor
  · rintro (_ | ⟨_, _, hmore⟩)
    · exact .inl rfl
    · exact .inr ⟨nofun, hmore⟩
  · rintro (rfl | ⟨hpasses, hmore⟩)
    · exact .here key rest
    · cases result with
      | error e => exact absurd rfl (hpasses e)
      | ok first => exact .later key first hmore

theorem Part.exists_iff {P : Part → Prop} : (∃ part, P part) ↔ P query ∨ P body ∨ P params := by
  constructor
  · rintro ⟨_ | _ | _, h⟩ <;> simp [h]
  · rintro (h | h | h) <;> exact ⟨_, h⟩

theorem keys_answers : ((request.answers context keys route).map (·.1)).Sublist
    [keys.query, keys.body, keys.params] := by
  cases h : request.paramsAnswer? context route <;> simp [answers, h]

theorem answer?_query :
    Part.answer? context route request .query = some (request.queryAnswer context route) := rfl

theorem answer?_body :
    Part.answer? context route request .body = some (request.bodyAnswer context route) := rfl

theorem answer?_params :
    Part.answer? context route request .params = request.paramsAnswer? context route := rfl

theorem Part.forall_iff {P : Part → Prop} : (∀ part, P part) ↔ P query ∧ P body ∧ P params := by
  constructor
  · exact fun h => ⟨h query, h body, h params⟩
  · rintro ⟨hquery, hbody, hparams⟩ (_ | _ | _) <;> assumption

/-- The steps of a check store the answer of a map if and only if the map passes with it. -/
theorem stores_answers (distinct : [keys.query, keys.body, keys.params].Nodup) (part : Part) :
    Stores (part.target keys) answer (request.answers context keys route) ↔
      part.Passes context route request answer := by
  obtain ⟨⟨hqb, hqp⟩, hbp⟩ :
      (keys.query ≠ keys.body ∧ keys.query ≠ keys.params) ∧ keys.body ≠ keys.params := by
    simpa using distinct
  rw [Part.passes_iff, Part.Reached, answers]
  cases part with
  | query =>
    cases request.paramsAnswer? context route <;>
      simp [Part.target, Part.earlier, answer?_query, stores_cons, stores_nil, hqb.symm, hqp.symm]
  | body =>
    cases request.paramsAnswer? context route <;>
      simp [Part.target, Part.earlier, answer?_query, answer?_body, stores_cons, stores_nil, hqb,
        hbp.symm]
  | params =>
    cases h : request.paramsAnswer? context route <;>
      simp [Part.target, Part.earlier, answer?_query, answer?_body, answer?_params, stores_cons,
        stores_nil, hqp, hbp, h, and_assoc]

theorem stops_answers : Stops fault (request.answers context keys route) ↔
    ∃ part, Part.Reached context route request part ∧
      part.answer? context route request = some (.error fault) := by
  rw [Part.exists_iff, answers]
  cases h : request.paramsAnswer? context route <;>
    simp [Part.Reached, Part.earlier, answer?_query, answer?_body, answer?_params, stops_cons,
      stops_nil, h, and_assoc, and_or_left]

theorem passes_answers :
    (∀ step ∈ request.answers context keys route, ∀ e, step.2 ≠ .error e) ↔
      ∀ part e, Part.answer? context route request part ≠ some (.error e) := by
  rw [Part.forall_iff, answers]
  cases h : request.paramsAnswer? context route <;>
    simp [answer?_query, answer?_body, answer?_params, h]

/-- With a key of its own for each map, a check stores the answers of the maps up to the first fault
and changes nothing else. -/
theorem check_effect (distinct : [keys.query, keys.body, keys.params].Nodup)
    (once : (request.validated.map (·.1)).Nodup) :
    Effect context keys route request (request.check context keys route) := by
  have hkeys : ((request.answers context keys route).map (·.1)).Nodup :=
    distinct.sublist keys_answers
  obtain ⟨validated, hraw⟩ := storeAll_eq_with request (request.answers context keys route)
  refine ⟨?passed, ?failed, ?stored, ?kept, ?others, nodup_storeAll once _, ?query, ?body, ?params⟩
  case passed => exact storeAll_eq_none_iff.trans passes_answers
  case failed => exact fun e => storeAll_eq_some_iff.trans stops_answers
  case stored =>
    intro part answer hpasses
    exact lookup_storeAll_of_stores once hkeys ((stores_answers distinct part).mpr hpasses)
  case kept =>
    intro part hnot
    refine lookup_storeAll_of_not_stores once fun answer hstores => ?_
    exact hnot answer ((stores_answers distinct part).mp hstores)
  case others =>
    intro key hkey
    refine lookup_storeAll_of_not_stores once fun answer hstores => ?_
    have hmem := keys_answers.subset hstores.mem_keys
    simp only [List.mem_cons, List.not_mem_nil, or_false] at hmem
    rcases hmem with h | h | h
    · exact hkey .query h
    · exact hkey .body h
    · exact hkey .params h
  case query => rw [check, hraw]
  case body => rw [check, hraw]
  case params => rw [check, hraw]

/-! ### A visit -/

namespace Visit

def visit : Route where
  query := some [("page", .leaf .integer)]
  body := some [("name", .leaf .string)]
  params := some [("id", .leaf .integer)]

/-- No query this time, but one of an earlier visit, and parameters that are no number. -/
def sent : Request where
  body := some (.object [("name", .string "Ada")])
  params := some (.object [("id", .string "x")])
  validated := [("query", .object []), ("user", .string "ada"), ("params", .null)]

def checked : Request :=
  { sent with validated := [("params", .null), ("user", .string "ada"),
    ("body", .object [("name", .string "Ada")])] }

theorem check_sent :
    sent.check .builtins {} visit = (checked, some (.invalidType "id" (.string "x") "integer")) :=
  rfl

/-- The query is cleared and the body stored; the parameters keep what they held. -/
theorem effect_checked : Effect .builtins {} visit sent
    (checked, some (.invalidType "id" (.string "x") "integer")) :=
  check_sent ▸ check_effect (by decide) (by decide)

end Visit

end ParamSchema.Request
