import ParamSchema.Proofs.Check.Outcome

/-!
The check of an array. A node that asks for an array checks each item, in order, as `Node.single`
checks a value, and an item that comes to nothing becomes null. So the check of an array is a map
over its items, and the check of two arrays put together is the check of one after the other
(`Node.check_array_each`).
-/

namespace ParamSchema.Node

variable {context : Context} {node : Node} {name : String} {items more us ws : List Value}
  {result : Option Value} {e : Fault}

theorem checkItems_eq_mapM (check : Value → Except Fault (Option Value)) (items : List Value) :
    checkItems check items = items.mapM fun v => (check v).map (·.getD .null) := by
  induction items with
  | nil => rfl
  | cons v items ih =>
    rw [checkItems, List.mapM_cons, ih]
    cases check v <;> rfl

theorem checkItems_append (check : Value → Except Fault (Option Value)) (items more : List Value) :
    checkItems check (items ++ more) =
      checkItems check items >>= fun us => checkItems check more >>= fun ws => .ok (us ++ ws) := by
  simp only [checkItems_eq_mapM, List.mapM_append]
  rfl

section Array

variable (skip : node.skip = false) (multiple : node.multiple = true)

include skip multiple

theorem check_array_eq_ok_iff :
    node.check context name (some (.array items)) = .ok result ↔
      ∃ ws, checkItems (fun v => node.single.check context name (some v)) items = .ok ws ∧
        result = some (.array ws) := by
  simp only [check_array skip multiple, bind_eq_ok_iff, pure_eq_ok_iff, eq_comm (a := result)]

theorem check_array_eq_error_iff :
    node.check context name (some (.array items)) = .error e ↔
      checkItems (fun v => node.single.check context name (some v)) items = .error e := by
  rw [check_array skip multiple]
  exact map_eq_error_iff

theorem check_array_append_of_ok
    (h : node.check context name (some (.array items)) = .ok (some (.array us)))
    (hmore : node.check context name (some (.array more)) = .ok (some (.array ws))) :
    node.check context name (some (.array (items ++ more))) = .ok (some (.array (us ++ ws))) := by
  obtain ⟨_, hitems, heq⟩ := (check_array_eq_ok_iff skip multiple).mp h
  cases heq
  obtain ⟨_, hafter, heq⟩ := (check_array_eq_ok_iff skip multiple).mp hmore
  cases heq
  refine (check_array_eq_ok_iff skip multiple).mpr ⟨_, ?_, rfl⟩
  rw [checkItems_append, hitems, ok_bind, hafter, ok_bind]

theorem check_array_append_of_error
    (h : node.check context name (some (.array items)) = .error e) (more : List Value) :
    node.check context name (some (.array (items ++ more))) = .error e := by
  rw [check_array_eq_error_iff skip multiple] at h ⊢
  rw [checkItems_append, h, error_bind]

theorem check_array_append_of_error_after
    (h : node.check context name (some (.array items)) = .ok result)
    (hmore : node.check context name (some (.array more)) = .error e) :
    node.check context name (some (.array (items ++ more))) = .error e := by
  obtain ⟨us, hitems, -⟩ := (check_array_eq_ok_iff skip multiple).mp h
  rw [check_array_eq_error_iff skip multiple] at hmore ⊢
  rw [checkItems_append, hitems, ok_bind, hmore, error_bind]

end Array

/-- A node that asks for an array maps the check by `Node.single` over the items, from the first to
the last. It finds no fault exactly if none of the items has one; then the answer is the array of
the items' answers, in order, with null for nothing. Otherwise its fault is that of the first item
that has one. Two arrays put together come to both answers put together, or to the fault of the
first one, or else to that of the second. -/
theorem check_array_each (context : Context) (node : Node) (name : String)
    (skip : node.skip = false) (multiple : node.multiple = true) (items : List Value) :
    node.check context name (some (.array items)) =
      (items.mapM fun v => (node.single.check context name (some v)).map (·.getD .null)).map
        (fun ws => some (.array ws)) ∧
    ((∃ result, node.check context name (some (.array items)) = .ok result) ↔
      ∀ v ∈ items, ∃ result, node.single.check context name (some v) = .ok result) ∧
    (∀ result, node.check context name (some (.array items)) = .ok result →
      ∃ results, result = some (.array (results.map (·.getD .null))) ∧
        List.Forall₂ (fun v answer => node.single.check context name (some v) = .ok answer)
          items results) ∧
    (∀ e, node.check context name (some (.array items)) = .error e ↔
      ∃ before v after, items = before ++ v :: after ∧
        (∀ u ∈ before, ∃ result, node.single.check context name (some u) = .ok result) ∧
          node.single.check context name (some v) = .error e) ∧
    ∀ more : List Value,
      (∀ us ws, node.check context name (some (.array items)) = .ok (some (.array us)) →
        node.check context name (some (.array more)) = .ok (some (.array ws)) →
        node.check context name (some (.array (items ++ more))) = .ok (some (.array (us ++ ws)))) ∧
      (∀ e, node.check context name (some (.array items)) = .error e →
        node.check context name (some (.array (items ++ more))) = .error e) ∧
      (∀ result e, node.check context name (some (.array items)) = .ok result →
        node.check context name (some (.array more)) = .error e →
        node.check context name (some (.array (items ++ more))) = .error e) := by
  refine ⟨?map, ?succeeds, fun result h => ?answer, fun e => ?fails,
    fun more => ⟨?both, ?first, ?second⟩⟩
  case map =>
    rw [← checkItems_eq_mapM, check_array skip multiple]
    rfl
  case succeeds =>
    rw [← (checkItems_stepwise _).exists_ok_iff, check_array skip multiple]
    exact exists_bind_pure_iff
  case answer =>
    obtain ⟨ws, hws, rfl⟩ := (check_array_eq_ok_iff skip multiple).mp h
    obtain ⟨results, heach, rfl⟩ := checkItems_eq_ok_iff.mp hws
    exact ⟨results, rfl, heach⟩
  case fails => rw [check_array_eq_error_iff skip multiple, checkItems_eq_error_iff]
  case both => exact fun us ws => check_array_append_of_ok skip multiple
  case first => exact fun e h => check_array_append_of_error skip multiple h more
  case second => exact fun result e => check_array_append_of_error_after skip multiple

namespace Ratings

def allowed : List Value := ["0", "1", "2", "3", "4", "5"].map .string

/-- A whole number from 0 to 5 for each rating, 0 for none. -/
def schema : Node where
  multiple := true
  type := some .integer
  defaultValue := some (.whole ⟨0, by decide, by decide⟩)
  rules := [{ name := "isIn", check := .named [.array allowed] }]

def given : List Value := [.string "3", .null, .string ""]

def stored : List Value :=
  [.whole ⟨3, by decide, by decide⟩, .whole ⟨0, by decide, by decide⟩,
    .whole ⟨0, by decide, by decide⟩]

theorem check_given : schema.check .builtins "ratings" (some (.array given)) =
    .ok (some (.array stored)) := rfl

/-- Given twice, the ratings are stored twice; the first of two that are refused gives the fault. -/
theorem check_more : schema.skip = false ∧ schema.multiple = true ∧
    schema.check .builtins "ratings" (some (.array (given ++ given))) =
      .ok (some (.array (stored ++ stored))) ∧
    schema.check .builtins "ratings" (some (.array (given ++ [.string "good", .string "6"]))) =
      .error (.invalidType "ratings" (.string "good") "integer") := by
  obtain ⟨-, -, -, -, happend⟩ := check_array_each .builtins schema "ratings" rfl rfl given
  exact ⟨rfl, rfl, (happend given).1 _ _ check_given check_given,
    (happend [.string "good", .string "6"]).2.2 _ _ check_given rfl⟩

end Ratings

end ParamSchema.Node
