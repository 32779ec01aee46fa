import ParamSchema.Proofs.Request

/-!
Checking a request again. What a check stores depends on the query, the body and the parameters
alone, so a second check stores the same once more (`Replays`), and what was stored before a check
shows in no key that it stores under (`check_replayed`). Keys may be shared: the last answer for a
key counts.
-/

namespace ParamSchema.Request

variable {request other : Request} {key : String} {answer : Option Value} {steps : List Step}
  {context : Context} {keys : TargetKeys} {route : Route}

/-! ### The last answer for a key -/

/-- What the steps store last under a key, if they come to store there. -/
def lastStored (key : String) : List Step → Option (Option Value)
  | [] => none
  | (_, .error _) :: _ => none
  | (first, .ok answer) :: rest =>
    (lastStored key rest).or (if key = first then some answer else none)

theorem lookup_storeAll (once : (request.validated.map (·.1)).Nodup) (key : String)
    (steps : List Step) : (request.storeAll steps).1.validated.lookup key =
      (lastStored key steps).getD (request.validated.lookup key) := by
  induction steps generalizing request with
  | nil => rfl
  | cons first rest ih =>
    obtain ⟨stored, result⟩ := first
    cases result with
    | error e =>
      -- A fault ends the run, so nothing after it is stored.
      rfl
    | ok answer =>
      have hrest := ih (nodup_store once stored answer)
      rw [storeAll, hrest, lookup_store once, lastStored]
      cases lastStored key rest with
      | some last => rfl
      | none => split <;> rfl

theorem Stores.exists_last (h : Stores key answer steps) :
    ∃ last, lastStored key steps = some last := by
  induction h with
  | here rest =>
    rw [lastStored, if_pos rfl]
    cases lastStored key rest with
    | some last => exact ⟨last, rfl⟩
    | none => exact ⟨_, rfl⟩
  | later _ _ _ ih =>
    obtain ⟨last, hlast⟩ := ih
    exact ⟨last, by rw [lastStored, hlast, Option.some_or]⟩

/-! ### Two runs of the same steps -/

theorem fault_storeAll (request other : Request) (steps : List Step) :
    (request.storeAll steps).2 = (other.storeAll steps).2 :=
  Option.ext fun _ => storeAll_eq_some_iff.trans storeAll_eq_some_iff.symm

/-- What was stored before plays no part where the steps store. -/
theorem Stores.lookup_eq (h : Stores key answer steps)
    (once : (request.validated.map (·.1)).Nodup) (once' : (other.validated.map (·.1)).Nodup) :
    (request.storeAll steps).1.validated.lookup key =
      (other.storeAll steps).1.validated.lookup key := by
  obtain ⟨last, hlast⟩ := h.exists_last
  rw [lookup_storeAll once, lookup_storeAll once', hlast, Option.getD_some, Option.getD_some]

theorem lookup_storeAll_again (once : (request.validated.map (·.1)).Nodup) (key : String)
    (steps : List Step) :
    ((request.storeAll steps).1.storeAll steps).1.validated.lookup key =
      (request.storeAll steps).1.validated.lookup key := by
  have hstored := nodup_storeAll once steps
  rw [lookup_storeAll hstored, lookup_storeAll once]
  cases lastStored key steps <;> rfl

/-- Storing what is there already changes nothing, not even the order. -/
theorem storeAll_of_stored
    (h : ∀ key answer, Stores key answer steps → request.validated.lookup key = answer) :
    (request.storeAll steps).1 = request := by
  induction steps with
  | nil => rfl
  | cons first rest ih =>
    obtain ⟨key, result⟩ := first
    cases result with
    | error e => rfl
    | ok answer =>
      have hsame : request.store key answer = request := store_of_lookup (h key answer (.here rest))
      rw [storeAll, hsame]
      exact ih fun other later hlater => h other later (.later key answer hlater)

/-! ### Two checks -/

/-- The requests came with the same query, body and parameters. -/
structure SameMaps (request other : Request) : Prop where
  query : other.query = request.query
  body : other.body = request.body
  params : other.params = request.params

theorem SameMaps.answers_eq (h : request.SameMaps other) (context : Context) (keys : TargetKeys)
    (route : Route) : other.answers context keys route = request.answers context keys route := by
  simp only [answers, queryAnswer, bodyAnswer, paramsAnswer?, h.query, h.body, h.params]

theorem sameMaps_storeAll (request : Request) (steps : List Step) :
    request.SameMaps (request.storeAll steps).1 := by
  obtain ⟨validated, h⟩ := storeAll_eq_with request steps
  rw [h]
  exact ⟨rfl, rfl, rfl⟩

theorem check_check (context : Context) (keys : TargetKeys) (route : Route) (request : Request) :
    (request.check context keys route).1.check context keys route =
      (request.check context keys route).1.storeAll (request.answers context keys route) := by
  have hmaps := sameMaps_storeAll request (request.answers context keys route)
  rw [check, check, hmaps.answers_eq]

/-- Every map that passes is stored, whether or not it shares its key. -/
theorem stores_of_passes {part : Part} (h : part.Passes context route request answer) :
    Stores (part.target keys) answer (request.answers context keys route) := by
  obtain ⟨hreached, hanswers⟩ := h
  cases part with
  | query =>
    have hquery : request.queryAnswer context route = .ok answer := Option.some.inj hanswers
    exact stores_cons.mpr (.inl ⟨rfl, hquery⟩)
  | body =>
    have hquery (e) (he : request.queryAnswer context route = .error e) : False :=
      hreached .query (by simp [Part.earlier]) e (congrArg some he)
    have hbody : request.bodyAnswer context route = .ok answer := Option.some.inj hanswers
    exact stores_cons.mpr (.inr ⟨hquery, stores_cons.mpr (.inl ⟨rfl, hbody⟩)⟩)
  | params =>
    have hquery (e) (he : request.queryAnswer context route = .error e) : False :=
      hreached .query (by simp [Part.earlier]) e (congrArg some he)
    have hbody (e) (he : request.bodyAnswer context route = .error e) : False :=
      hreached .body (by simp [Part.earlier]) e (congrArg some he)
    have hparams : request.paramsAnswer? context route = some (.ok answer) := hanswers
    rw [answers, hparams]
    exact stores_cons.mpr (.inr ⟨hquery, stores_cons.mpr (.inr ⟨hbody, .here []⟩)⟩)

/-- What a second check makes of the request that the first one left. -/
structure Replays (keys : TargetKeys) (first second : Request × Option Fault) : Prop where
  fault : second.2 = first.2
  maps : first.1.SameMaps second.1
  /-- The same members are stored, if not in the same order. -/
  members : second.1.validated.Perm first.1.validated
  order : [keys.query, keys.body, keys.params].Nodup → second.1.validated = first.1.validated

theorem replays_check (context : Context) (keys : TargetKeys) (route : Route)
    (once : (request.validated.map (·.1)).Nodup) :
    Replays keys (request.check context keys route)
      ((request.check context keys route).1.check context keys route) := by
  have hfirst := nodup_storeAll once (request.answers context keys route)
  rw [check_check, check]
  refine ⟨?fault, sameMaps_storeAll _ _, ?members, ?order⟩
  case fault => exact fault_storeAll _ _ _
  case members =>
    exact Entries.perm_of_lookup_eq (nodup_storeAll hfirst _) hfirst fun key =>
      lookup_storeAll_again once key _
  case order =>
    intro distinct
    have hkeys : ((request.answers context keys route).map (·.1)).Nodup :=
      distinct.sublist keys_answers
    rw [storeAll_of_stored fun _ _ => lookup_storeAll_of_stores once hkeys]

/-- A second check of the request that a first one left changes nothing but, where keys are shared,
the order of what is stored. A check of the same maps with other contents stored before finds the
same fault, and leaves the same under every key that it stores under. -/
theorem check_replayed (context : Context) (keys : TargetKeys) (route : Route)
    (once : (request.validated.map (·.1)).Nodup) :
    Replays keys (request.check context keys route)
        ((request.check context keys route).1.check context keys route) ∧
      ∀ other, request.SameMaps other → (other.validated.map (·.1)).Nodup →
        (other.check context keys route).2 = (request.check context keys route).2 ∧
          ∀ part answer, Part.Passes context route request part answer →
            (other.check context keys route).1.validated.lookup (part.target keys) =
              (request.check context keys route).1.validated.lookup (part.target keys) := by
  refine ⟨replays_check context keys route once, fun other maps once' => ?_⟩
  simp only [check, maps.answers_eq]
  refine ⟨fault_storeAll _ _ _, fun part answer passes => ?_⟩
  exact (stores_of_passes passes).lookup_eq once' once

/-! ### A visit whose maps share a key -/

namespace Visit

/-- The query and the body are stored under one key. -/
def shared : TargetKeys := { query := "input", body := "input" }

def complete : Request where
  body := some (.object [("name", .string "Ada")])
  params := some (.object [("id", .string "12")])

/-- What stands under the shared key once the body is stored. -/
def input : String × Value := ("input", .object [("name", .string "Ada")])

def params : String × Value := ("params", .object [("id", .whole ⟨12, by decide, by decide⟩)])

theorem passes_body : Part.Passes .builtins visit complete .body (some input.2) where
  reached other hother e := by
    obtain rfl := List.mem_singleton.mp hother
    nofun
  answers := rfl

/-- The second check drops the body first, as there is no query, so the body goes to the end. What
the shared key held before the checks does not matter. -/
theorem replay_complete :
    Replays shared ({ complete with validated := [input, params] }, none)
        ({ complete with validated := [params, input] }, none) ∧
      ({ complete with validated := [("input", .null)] } : Request).check .builtins shared visit =
        ({ complete with validated := [input, params] }, none) ∧
      some input.2 = List.lookup "input" [input, params] := by
  have once : (complete.validated.map (·.1)).Nodup := by decide
  obtain ⟨hreplays, hothers⟩ := check_replayed .builtins shared visit once
  obtain ⟨-, hstored⟩ := hothers { complete with validated := [("input", .null)] } ⟨rfl, rfl, rfl⟩
    (by decide)
  exact ⟨hreplays, rfl, hstored .body _ passes_body⟩

end Visit

end ParamSchema.Request
