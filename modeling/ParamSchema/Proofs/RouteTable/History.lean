import Mathlib.Data.List.Induction
import ParamSchema.Proofs.Fallible
import ParamSchema.Proofs.Registry
import ParamSchema.Proofs.Text.ByteOrder
import ParamSchema.RouteTable

/-!
Route tables over a history of calls. Each call gives one id a route or changes nothing
(`Call.Sets`), so what a table says of an id is settled by the last call that gave that id a route
(`get?_after_eq_some_iff`). A table made of texts is one with such a history
(`ofTexts_eq_ok_iff`).
-/

namespace ParamSchema.RouteTable

section Calls

variable {types : Registry FieldType} {table result : RouteTable} {id key text : String}
  {route other : Route} {c : Call} {calls : List Call} {e : RouteError}
  {texts : List (String × String)}

/-! ### One call -/

/-- The call gives the id this route: it inserts it, or its text loads as it. -/
inductive Call.Sets (types : Registry FieldType) : Call → String → Route → Prop
  | insert (id : String) (route : Route) : Sets types (.insert id route) id route
  | register {text : String} {route : Route} (id : String)
    (loads : ({ types } : Loader).readRoute text = .ok route) :
    Sets types (.register id text) id route

theorem register_eq_map (types : Registry FieldType) (table : RouteTable) (id text : String) :
    table.register types id text =
      (({ types } : Loader).readRoute text).map (table.insert id) := rfl

theorem call_of_sets (h : c.Sets types id route) :
    table.call types c = (.ok (), table.insert id route) := by
  cases h with
  | insert => rfl
  | register _ loads =>
    rw [call, register_eq_map, loads]
    rfl

theorem call_of_fails (h : ({ types } : Loader).readRoute text = .error e) :
    table.call types (.register id text) = (.error e, table) := by
  rw [call, register_eq_map, h]
  rfl

/-- A call gives an id a route, or it is a registration whose text does not load. -/
theorem sets_or_fails (types : Registry FieldType) (c : Call) :
    (∃ id route, c.Sets types id route) ∨
      ∃ id text e, c = .register id text ∧ ({ types } : Loader).readRoute text = .error e := by
  cases c with
  | insert id route => exact .inl ⟨id, route, .insert id route⟩
  | register id text =>
    cases h : ({ types } : Loader).readRoute text with
    | ok route => exact .inl ⟨id, route, .register id h⟩
    | error e => exact .inr ⟨id, text, e, rfl, h⟩

theorem not_sets_of_fails (h : ({ types } : Loader).readRoute text = .error e) :
    ¬(Call.register id text).Sets types key route := by
  intro hsets
  cases hsets with
  | register _ loads => cases h.symm.trans loads

theorem Call.Sets.unique (h : c.Sets types id route) (h' : c.Sets types key other) :
    key = id ∧ other = route := by
  cases h with
  | insert =>
    cases h'
    exact ⟨rfl, rfl⟩
  | register _ loads =>
    cases h' with
    | register _ loads' =>
      cases loads.symm.trans loads'
      exact ⟨rfl, rfl⟩

theorem get?_insert : (table.insert id route).get? key =
    if key = id then some route else table.get? key :=
  Registry.get?_insert

theorem call_register_eq_error_iff : (table.call types (.register id text)).1 = .error e ↔
    ({ types } : Loader).readRoute text = .error e := by
  rw [call, register_eq_map]
  cases ({ types } : Loader).readRoute text <;> simp [Except.map]

/-- A call that fails leaves the table as it was. -/
theorem call_eq_of_error (h : (table.call types c).1 = .error e) :
    (table.call types c).2 = table := by
  rcases sets_or_fails types c with ⟨id, route, hsets⟩ | ⟨id, text, e', rfl, hfails⟩
  · rw [call_of_sets hsets] at h
    cases h
  · rw [call_of_fails hfails]

/-- What is found after a call: what the call sets, else what was there. -/
theorem get?_call_eq_some_iff : (table.call types c).2.get? id = some route ↔
    c.Sets types id route ∨ (∀ other, ¬c.Sets types id other) ∧ table.get? id = some route := by
  rcases sets_or_fails types c with ⟨key, set, hsets⟩ | ⟨key, text, e, rfl, hfails⟩
  · rw [call_of_sets hsets, get?_insert]
    by_cases hid : id = key
    · subst hid
      rw [if_pos rfl, Option.some.injEq]
      constructor
      · rintro rfl
        exact .inl hsets
      · rintro (h | ⟨hnone, -⟩)
        · exact (hsets.unique h).2.symm
        · exact absurd hsets (hnone set)
    · rw [if_neg hid]
      have hnone (other : Route) : ¬c.Sets types id other := fun h => hid (hsets.unique h).1
      simp [hnone]
  · rw [call_of_fails hfails]
    simp [not_sets_of_fails hfails]

/-! ### All calls -/

/-- The table after calls one after another. -/
def after (types : Registry FieldType) (table : RouteTable) (calls : List Call) : RouteTable :=
  calls.foldl (fun table c => (table.call types c).2) table

theorem after_concat (calls : List Call) (c : Call) :
    table.after types (calls ++ [c]) = ((table.after types calls).call types c).2 := by
  rw [after, List.foldl_append]
  rfl

/-- Of the calls that give the id a route, the last one gives it this route. -/
def LastSets (types : Registry FieldType) (calls : List Call) (id : String) (route : Route) :
    Prop :=
  ∃ before c later, calls = before ++ c :: later ∧ c.Sets types id route ∧
    ∀ call ∈ later, ∀ other, ¬call.Sets types id other

theorem lastSets_concat_iff : LastSets types (calls ++ [c]) id route ↔
    c.Sets types id route ∨ (∀ other, ¬c.Sets types id other) ∧ LastSets types calls id route := by
  constructor
  · rintro ⟨before, last, later, hcalls, hsets, hlater⟩
    rcases List.eq_nil_or_concat later with rfl | ⟨later, c', rfl⟩
    · obtain ⟨-, rfl⟩ := List.append_singleton_inj.mp hcalls
      exact .inl hsets
    · rw [List.concat_eq_append] at hcalls hlater
      rw [← List.cons_append, ← List.append_assoc] at hcalls
      obtain ⟨rfl, rfl⟩ := List.append_singleton_inj.mp hcalls
      refine .inr ⟨hlater c (by simp), before, last, later, rfl, hsets, fun call hcall => ?_⟩
      exact hlater call (List.mem_append_left _ hcall)
  · rintro (hsets | ⟨hnone, before, last, later, rfl, hsets, hlater⟩)
    · exact ⟨calls, c, [], rfl, hsets, by simp⟩
    · refine ⟨before, last, later ++ [c], by simp, hsets, fun call hcall => ?_⟩
      rcases List.mem_append.mp hcall with hcall | hcall
      · exact hlater call hcall
      · rw [List.mem_singleton.mp hcall]
        exact hnone

theorem exists_lastSets_iff : (∃ route, LastSets types calls id route) ↔
    ∃ c ∈ calls, ∃ route, c.Sets types id route := by
  constructor
  · rintro ⟨route, before, c, later, rfl, hsets, -⟩
    exact ⟨c, by simp, route, hsets⟩
  · rintro ⟨c, hc, route, hsets⟩
    induction calls using List.reverseRecOn with
    | nil => cases hc
    | append_singleton calls last ih =>
      by_cases hlast : ∃ route, last.Sets types id route
      · obtain ⟨route, hroute⟩ := hlast
        exact ⟨route, lastSets_concat_iff.mpr (.inl hroute)⟩
      · have hnone := not_exists.mp hlast
        have hmem : c ∈ calls := by
          rcases List.mem_append.mp hc with hc | hc
          · exact hc
          · exact absurd hsets (List.mem_singleton.mp hc ▸ hnone route)
        obtain ⟨route, hroute⟩ := ih hmem
        exact ⟨route, lastSets_concat_iff.mpr (.inr ⟨hnone, hroute⟩)⟩

/-- What is found after calls: what the last call that sets the id gave it, else what was there. -/
theorem get?_after_eq_some_iff : (table.after types calls).get? id = some route ↔
    LastSets types calls id route ∨
      (∀ call ∈ calls, ∀ other, ¬call.Sets types id other) ∧ table.get? id = some route := by
  induction calls using List.reverseRecOn with
  | nil => simp [after, LastSets]
  | append_singleton calls c ih =>
    rw [after_concat, get?_call_eq_some_iff, ih, lastSets_concat_iff]
    simp only [List.forall_mem_append, List.forall_mem_singleton]
    tauto

theorem mem_ids_iff_get? : id ∈ table.ids ↔ ∃ route, table.get? id = some route := by
  simp only [ids, Registry.names, get?, Registry.get?_eq_some_iff]
  simp

theorem pairwise_ids (table : RouteTable) :
    table.ids.Pairwise fun id id' => utf8Bytes id < utf8Bytes id' := by
  rw [ids, Registry.names, List.pairwise_map]
  exact table.routes.ordered.imp utf8Bytes_lt_iff.mpr

theorem route_eq_ok_iff : table.route id = .ok route ↔ table.get? id = some route := by
  rw [RouteTable.route]
  cases table.get? id <;> simp

theorem route_eq_error_iff {fault : UnknownRoute} :
    table.route id = .error fault ↔ fault = ⟨id⟩ ∧ id ∉ table.ids := by
  rw [mem_ids_iff_get?, RouteTable.route]
  cases table.get? id <;> simp [eq_comm]

/-! ### Texts -/

/-- The routes of texts under their ids, if all of the texts load. -/
def loadAll (types : Registry FieldType) (texts : List (String × String)) :
    Except RouteError (List (String × Route)) :=
  texts.mapM fun (id, text) => (({ types } : Loader).readRoute text).map (id, ·)

/-- The calls that insert routes under their ids. -/
def inserts (loaded : List (String × Route)) : List Call :=
  loaded.map fun (id, route) => .insert id route

theorem foldlM_register (types : Registry FieldType) (table : RouteTable)
    (texts : List (String × String)) :
    texts.foldlM (fun table (id, text) => table.register types id text) table =
      (loadAll types texts).map fun loaded => table.after types (inserts loaded) := by
  induction texts generalizing table with
  | nil => rfl
  | cons first rest ih =>
    obtain ⟨id, text⟩ := first
    have hload : loadAll types ((id, text) :: rest) =
        (({ types } : Loader).readRoute text).map (id, ·) >>= fun route =>
          loadAll types rest >>= fun loaded => .ok (route :: loaded) := List.mapM_cons
    rw [List.foldlM_cons, hload]
    simp only [ih]
    rw [register_eq_map]
    cases ({ types } : Loader).readRoute text with
    | error e => rfl
    | ok route => cases loadAll types rest <;> rfl

theorem ofTexts_eq : ofTexts types texts =
    (loadAll types texts).map fun loaded => after types {} (inserts loaded) :=
  foldlM_register types {} texts

theorem loadAll_eq_ok_iff {loaded : List (String × Route)} : loadAll types texts = .ok loaded ↔
    List.Forall₂ (fun given route => route.1 = given.1 ∧
      ({ types } : Loader).readRoute given.2 = .ok route.2) texts loaded := by
  have heach (given : String × String) (route : String × Route) :
      (({ types } : Loader).readRoute given.2).map (given.1, ·) = .ok route ↔
        route.1 = given.1 ∧ ({ types } : Loader).readRoute given.2 = .ok route.2 := by
    rw [map_eq_ok_iff]
    constructor
    · rintro ⟨loaded, hload, rfl⟩
      exact ⟨rfl, hload⟩
    · rintro ⟨hid, hload⟩
      exact ⟨route.2, hload, by rw [← hid]⟩
  simp only [loadAll, mapM_eq_ok_iff, heach]

theorem loadAll_eq_error_iff : loadAll types texts = .error e ↔
    ∃ before given later, texts = before ++ given :: later ∧
      (∀ earlier ∈ before, ∃ route, ({ types } : Loader).readRoute earlier.2 = .ok route) ∧
      ({ types } : Loader).readRoute given.2 = .error e := by
  rw [loadAll, (mapM_stepwise _).eq_error_iff]
  simp only [map_eq_ok_iff, map_eq_error_iff]
  simp

theorem ofTexts_eq_ok_iff : ofTexts types texts = .ok result ↔
    ∃ loaded, List.Forall₂ (fun given route => route.1 = given.1 ∧
        ({ types } : Loader).readRoute given.2 = .ok route.2) texts loaded ∧
      result = after types {} (inserts loaded) := by
  simp only [ofTexts_eq, map_eq_ok_iff, loadAll_eq_ok_iff, eq_comm (a := result)]

theorem ofTexts_eq_error_iff : ofTexts types texts = .error e ↔
    ∃ before given later, texts = before ++ given :: later ∧
      (∀ earlier ∈ before, ∃ route, ({ types } : Loader).readRoute earlier.2 = .ok route) ∧
      ({ types } : Loader).readRoute given.2 = .error e := by
  rw [ofTexts_eq, map_eq_error_iff, loadAll_eq_error_iff]

theorem exists_ofTexts_error_iff : (∃ e, ofTexts types texts = .error e) ↔
    ∃ given ∈ texts, ∃ e, ({ types } : Loader).readRoute given.2 = .error e := by
  simp only [ofTexts_eq, map_eq_error_iff, loadAll]
  rw [exists_error_iff, (mapM_stepwise _).exists_ok_iff]
  simp only [not_forall, exists_prop, ← exists_error_iff, map_eq_error_iff]

/-! ### History -/

/-- What a table tells after calls on an empty one. -/
structure Tells (types : Registry FieldType) (calls : List Call) (table : RouteTable) : Prop where
  found : ∀ id route, table.get? id = some route ↔ LastSets types calls id route
  missing : ∀ id, table.get? id = none ↔ ∀ c ∈ calls, ∀ route, ¬c.Sets types id route
  fails : ∀ id text e, (table.call types (.register id text)).1 = .error e ↔
    ({ types } : Loader).readRoute text = .error e
  unchanged : ∀ c e, (table.call types c).1 = .error e →
    (∀ id, (table.call types c).2.get? id = table.get? id) ∧
      (table.call types c).2.ids = table.ids
  increasing : table.ids.Pairwise fun id id' => utf8Bytes id < utf8Bytes id'
  listed : ∀ id, id ∈ table.ids ↔ ∃ route, table.get? id = some route
  known : ∀ id route, table.route id = .ok route ↔ table.get? id = some route
  unknown : ∀ id fault, table.route id = .error fault ↔ fault = ⟨id⟩ ∧ id ∉ table.ids

theorem get?_after_empty {limits : TableLimits} :
    (after types { limits } calls).get? id = some route ↔ LastSets types calls id route :=
  get?_after_eq_some_iff.trans (or_iff_left fun h => nomatch h.2)

theorem tells_after (types : Registry FieldType) (limits : TableLimits) (calls : List Call) :
    Tells types calls (after types { limits } calls) where
  found _ _ := get?_after_empty
  missing id := by
    rw [Option.eq_none_iff_forall_ne_some]
    simp only [ne_eq, get?_after_empty, ← not_exists]
    rw [exists_lastSets_iff]
    simp only [not_exists, not_and]
  fails _ _ _ := call_register_eq_error_iff
  unchanged _ _ h := by
    rw [call_eq_of_error h]
    exact ⟨fun _ => rfl, rfl⟩
  increasing := pairwise_ids _
  listed _ := mem_ids_iff_get?
  known _ _ := route_eq_ok_iff
  unknown _ _ := route_eq_error_iff

/-- After any calls, a table holds under each id the route that the last call gave it, lists the ids
that have one in the order of their bytes, and knows no others; a registration that fails changes
nothing. A list of texts makes the table of the calls that insert their routes in order, or fails
with the error of the first text that does not load. -/
theorem history_told (types : Registry FieldType) :
    (∀ limits calls, Tells types calls (after types { limits } calls)) ∧
    ∀ texts,
      ((∃ e, ofTexts types texts = .error e) ↔
        ∃ given ∈ texts, ∃ e, ({ types } : Loader).readRoute given.2 = .error e) ∧
      (∀ e, ofTexts types texts = .error e ↔ ∃ before given later,
        texts = before ++ given :: later ∧
        (∀ earlier ∈ before, ∃ route, ({ types } : Loader).readRoute earlier.2 = .ok route) ∧
        ({ types } : Loader).readRoute given.2 = .error e) ∧
      ∀ table, ofTexts types texts = .ok table ↔ ∃ loaded,
        List.Forall₂ (fun given route => route.1 = given.1 ∧
          ({ types } : Loader).readRoute given.2 = .ok route.2) texts loaded ∧
        table = after types {} (inserts loaded) := by
  refine ⟨fun limits calls => tells_after types limits calls, fun texts => ⟨?fails, ?first, ?loads⟩⟩
  case fails => exact exists_ofTexts_error_iff
  case first => exact fun e => ofTexts_eq_error_iff
  case loads => exact fun table => ofTexts_eq_ok_iff

end Calls

/-! ### A history -/

namespace Kiosk

def closed : Route := { skipBody := true }

/-- The second registration fails, and the last call replaces what the first one inserted. -/
def calls : List Call := [.insert "stock" closed, .register "orders" "{}",
  .register "orders" "[", .register "Stock" "{}", .register "stock" "{}"]

def table : RouteTable := after FieldType.builtins {} calls

set_option maxRecDepth 10000 in
theorem load_blank : ({ types := FieldType.builtins } : Loader).readRoute "{}" = .ok {} := rfl

theorem load_cut :
    ({ types := FieldType.builtins } : Loader).readRoute "[" = .error (.notJson .ended) := rfl

theorem lastSets_stock : LastSets FieldType.builtins calls "stock" {} :=
  ⟨calls.dropLast, _, [], rfl, .register _ load_blank, nofun⟩

/-- The stock is as it was registered last, a registration that fails now changes none of this, and
a table is not made of these texts, the first fault of which is the cut. -/
theorem table_told :
    table.get? "stock" = some {} ∧
    (table.call FieldType.builtins (.register "orders" "[")).2.ids = table.ids ∧
    table.route "Orders" = .error ⟨"Orders"⟩ ∧
    ofTexts FieldType.builtins [("a", "{}"), ("b", "["), ("c", "3")] =
      .error (.notJson .ended) := by
  obtain ⟨htells, htexts⟩ := history_told FieldType.builtins
  have htable : Tells FieldType.builtins calls table := htells {} calls
  obtain ⟨-, hfirst, -⟩ := htexts [("a", "{}"), ("b", "["), ("c", "3")]
  have hmissing : table.get? "Orders" = none := by
    refine (htable.missing _).mpr fun c hc route hsets => ?_
    cases hsets <;> simp [calls] at hc
  refine ⟨(htable.found _ _).mpr lastSets_stock, ?_, ?_, ?_⟩
  · have hfails := (htable.fails "orders" "[" _).mpr load_cut
    exact (htable.unchanged _ _ hfails).2
  · refine (htable.unknown _ _).mpr ⟨rfl, fun hlisted => ?_⟩
    obtain ⟨route, hroute⟩ := (htable.listed _).mp hlisted
    cases hmissing.symm.trans hroute
  · refine (hfirst _).mpr ⟨[("a", "{}")], ("b", "["), [("c", "3")], rfl, ?_, load_cut⟩
    intro earlier hearlier
    rw [List.mem_singleton.mp hearlier]
    exact ⟨_, load_blank⟩

end Kiosk

end ParamSchema.RouteTable
