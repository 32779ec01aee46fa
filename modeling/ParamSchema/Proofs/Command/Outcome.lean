import ParamSchema.Proofs.Command.Loading

/-!
How checks and requests end. A run loads its document, reads its JSON texts and asks the library, in
this order; `Outcome` says what the first stage that fails, or the answer, makes of the exit code
and the output.
-/

namespace ParamSchema

/-- The JSON text of a value. -/
def Denotes (text : String) (v : Value) : Prop := Value.read text = .ok v

/-- The value that a check is given, if it is given one. -/
inductive CheckInput.Gives (disk : Disk) : CheckInput → Option Value → Prop
  | absent : Gives disk .absent none
  | json {text : String} {v : Value} (denotes : Denotes text v) : Gives disk (.json text) (some v)
  | text (s : String) : Gives disk (.text s) (some (.string s))
  | file {path text : String} {v : Value} (holds : disk.Holds path text)
    (denotes : Denotes text v) : Gives disk (.file path) (some v)

/-- How a fault is reported: its kind, the field or rule that it is about, the value if there is
one, and the code of the reason. -/
inductive Fault.Says : Fault → String → String → Option Value → String → Prop
  | notArray (field : String) (value : Option Value) :
    Says (.rejected field value .notArray) "validation" field value "NotArray"
  | notObject (field : String) (value : Option Value) :
    Says (.rejected field value .notObject) "validation" field value "NotObject"
  | required (field : String) (value : Option Value) :
    Says (.rejected field value .required) "validation" field value "Required"
  | unexpected (field : String) (value : Option Value) :
    Says (.rejected field value .unexpected) "validation" field value "Unexpected"
  | rule (field : String) (value : Option Value) (name : String) :
    Says (.rejected field value (.rule name)) "validation" field value name
  | invalidType (field : String) (value : Value) (typeName : String) :
    Says (.invalidType field value typeName) "invalid_type" field (some value) "InvalidType"
  | missingType (field : String) : Says (.missingType field) "schema" field none "MissingType"
  | unknownRule (name : String) : Says (.unknownRule name) "schema" name none "UnknownRule"

theorem Fault.says_diagnostic (fault : Fault) :
    fault.Says fault.diagnostic.kind fault.diagnostic.field fault.diagnostic.value
      fault.diagnostic.reason := by
  cases fault with
  | rejected field value reason => cases reason <;> constructor
  | invalidType field value typeName => exact .invalidType field value typeName
  | missingType field => exact .missingType field
  | unknownRule name => exact .unknownRule name

namespace Command

/-- The command checks something. -/
def Checks : Command → Prop
  | .check _ | .request _ => True
  | .describe _ | .version _ => False

/-- A text that the command is given as JSON. -/
inductive JsonText (disk : Disk) : Command → String → Prop
  | value {checks : CheckArguments} {text : String} (given : checks.input = .json text) :
    JsonText disk (.check checks) text
  | file {checks : CheckArguments} {path text : String} (given : checks.input = .file path)
    (holds : disk.Holds path text) : JsonText disk (.check checks) text
  | query {requests : RequestArguments} {text : String} (given : requests.query = some text) :
    JsonText disk (.request requests) text
  | body {requests : RequestArguments} {text : String} (given : requests.body = some text) :
    JsonText disk (.request requests) text
  | params {requests : RequestArguments} {text : String} (given : requests.params = some text) :
    JsonText disk (.request requests) text

/-- The schema of the document that the command prints. -/
def documentSchema : Command → String
  | .check _ => Output.checkSchema
  | .request _ => Output.requestSchema
  | .describe _ | .version _ => Output.routeDocSchema

/-- What the library answers: what is checked, with the member of the document that has it, and the
fault if there is one. -/
structure Answer where
  member : String
  checked : Option Value
  fault : Option Fault

/-- The library gives the answer to the command. -/
inductive Answers (disk : Disk) : Command → Answer → Prop
  | passes {checks : CheckArguments} {text : String} {node : Node} {input value : Option Value}
    (holds : disk.Holds checks.schema text) (loads : checks.loader.readNode text = .ok node)
    (gives : checks.input.Gives disk input)
    (check : node.check Context.builtins checks.name input = .ok value) :
    Answers disk (.check checks) ⟨"value", value, none⟩
  | fails {checks : CheckArguments} {text : String} {node : Node} {input : Option Value}
    {fault : Fault} (holds : disk.Holds checks.schema text)
    (loads : checks.loader.readNode text = .ok node) (gives : checks.input.Gives disk input)
    (check : node.check Context.builtins checks.name input = .error fault) :
    Answers disk (.check checks) ⟨"value", none, some fault⟩
  | request {requests : RequestArguments} {text : String} {route : Route}
    {request checked : Request} {fault : Option Fault} (holds : disk.Holds requests.route text)
    (loads : routeLoader.readRoute text = .ok route)
    (query : Option.Rel Denotes requests.query request.query)
    (body : Option.Rel Denotes requests.body request.body)
    (params : Option.Rel Denotes requests.params request.params) (fresh : request.validated = [])
    (check : request.check Context.builtins (targetKeys requests) route = (checked, fault)) :
    Answers disk (.request requests) ⟨"validated", some (.object checked.validated), fault⟩

/-- The text begins as a document of the schema does that is valid, or not. -/
def Opens (schema : String) (valid : Bool) (output : String) : Prop :=
  ∃ rest, output =
    "\x7b\"schema_id\":" ++ Value.quoted schema ++ ",\"valid\":" ++ (Value.bool valid).text ++ rest

/-- The members of the object that reports a fault, without a value if the fault has none. -/
structure Reports (members : Members) (kind field : String) (value : Option Value)
    (reason : String) : Prop where
  keys : members.map (·.1) =
    ["kind", "field"] ++ (value.map fun _ => "value").toList ++ ["reason"]
  kind : members.lookup "kind" = some (.string kind)
  field : members.lookup "field" = some (.string field)
  value : members.lookup "value" = value
  reason : members.lookup "reason" = some (.string reason)

/-- The output is one line with a document that tells the answer. -/
structure Tells (schema : String) (answer : Answer) (output : String) (document : Members) :
    Prop where
  line : output = Output.line (Value.object document).text
  keys : (document.map (·.1)).Nodup
  opens : Opens schema answer.fault.isNone output
  valid : document.lookup "valid" = some (.bool answer.fault.isNone)
  error : document.lookup "error" = answer.fault.map fun fault => fault.diagnostic.toValue
  reports : ∀ fault, answer.fault = some fault → ∃ kind field value reason members,
    fault.Says kind field value reason ∧ document.lookup "error" = some (.object members) ∧
      Reports members kind field value reason
  checked : document.lookup answer.member = answer.checked

/-- How a run ends that comes to an answer. -/
inductive Ended (schema : String) (answer : Answer) (result : RunResult) : Prop
  | passed (fault : answer.fault = none) (code : result.code = ExitCode.success)
    (tells : ∃ document, Tells schema answer result.out document)
  | refused {fault : Fault} (found : answer.fault = some fault) (input : fault.isInputError = true)
    (code : result.code = ExitCode.dataInvalid)
    (tells : ∃ document, Tells schema answer result.out document)
  | defective {fault : Fault} (found : answer.fault = some fault)
    (input : fault.isInputError = false) (code : result.code = ExitCode.configInvalid)
    (silent : result.out = "")

/-- How a run of a check or a request ends. -/
structure Outcome (disk : Disk) (command : Command) (result : RunResult) : Prop where
  unloadable : ¬command.Loads disk → result.code = ExitCode.configInvalid ∧ result.out = ""
  notJson : command.Loads disk → ∀ text, command.JsonText disk text → (∀ v, ¬Denotes text v) →
    result.code = ExitCode.usage ∧ result.out = ""
  answered : command.Loads disk → (∀ text, command.JsonText disk text → ∃ v, Denotes text v) →
    ∃ answer, command.Answers disk answer
  ended : ∀ answer, command.Answers disk answer → Ended command.documentSchema answer result
  valid : result.code = ExitCode.success ↔ Opens command.documentSchema true result.out
  invalid : result.code = ExitCode.dataInvalid ↔ Opens command.documentSchema false result.out
  silent : result.code = ExitCode.usage ∨ result.code = ExitCode.configInvalid ↔ result.out = ""

section Runs

variable {surroundings : Surroundings} {arguments : List String} {disk : Disk}
  {target option text schema output : String} {command : Command} {error : RunError}
  {input : CheckInput} {checks : CheckArguments} {requests : RequestArguments}
  {given : Option String} {value : Option Value} {v : Value} {request : Request} {answer : Answer}
  {valid valid' : Bool} {document : Members} {result : RunResult}

/-! ### Inputs -/

theorem jsonArgument_eq_ok_iff : jsonArgument option text = .ok v ↔ Denotes text v :=
  mapError_eq_ok_iff

theorem code_of_jsonArgument (h : jsonArgument option text = .error error) :
    error.code = ExitCode.usage := by
  obtain ⟨fault, -, rfl⟩ := mapError_eq_error_iff.mp h
  rfl

theorem jsonOption_eq_ok_iff :
    jsonOption option given = .ok value ↔ Option.Rel Denotes given value := by
  cases given with
  | none =>
    constructor
    · rintro ⟨⟩
      exact .none
    · rintro ⟨⟩
      rfl
  | some text =>
    constructor
    · intro h
      obtain ⟨v, hv, rfl⟩ := map_eq_ok_iff.mp h
      exact .some (jsonArgument_eq_ok_iff.mp hv)
    · rintro ⟨denotes⟩
      exact map_eq_ok_iff.mpr ⟨_, jsonArgument_eq_ok_iff.mpr denotes, rfl⟩

theorem code_of_jsonOption (h : jsonOption option given = .error error) :
    error.code = ExitCode.usage := by
  cases given with
  | none => cases h
  | some text => exact code_of_jsonArgument (map_eq_error_iff.mp h)

theorem exists_rel_iff : (∃ value, Option.Rel Denotes given value) ↔
    ∀ text, given = some text → ∃ v, Denotes text v := by
  constructor
  · rintro ⟨_, denotes⟩ text rfl
    cases denotes with
    | some denotes => exact ⟨_, denotes⟩
  · intro h
    cases given with
    | none => exact ⟨none, .none⟩
    | some text =>
      obtain ⟨v, denotes⟩ := h text rfl
      exact ⟨some v, .some denotes⟩

theorem readRequest_eq_ok_iff : readRequest requests = .ok request ↔
    Option.Rel Denotes requests.query request.query ∧
      Option.Rel Denotes requests.body request.body ∧
      Option.Rel Denotes requests.params request.params ∧ request.validated = [] := by
  simp only [readRequest, bind_eq_ok_iff, pure_eq_ok_iff, jsonOption_eq_ok_iff]
  constructor
  · rintro ⟨query, hquery, body, hbody, params, hparams, rfl⟩
    exact ⟨hquery, hbody, hparams, rfl⟩
  · rintro ⟨hquery, hbody, hparams, hfresh⟩
    obtain ⟨query, body, params, validated⟩ := request
    cases hfresh
    exact ⟨query, hquery, body, hbody, params, hparams, rfl⟩

theorem code_of_readRequest (h : readRequest requests = .error error) :
    error.code = ExitCode.usage := by
  rcases bind_eq_error_iff.mp h with h | ⟨query, -, h⟩
  · exact code_of_jsonOption h
  rcases bind_eq_error_iff.mp h with h | ⟨body, -, h⟩
  · exact code_of_jsonOption h
  rcases bind_eq_error_iff.mp h with h | ⟨params, -, h⟩
  · exact code_of_jsonOption h
  · cases h

theorem exists_readRequest_iff : (∃ request, readRequest requests = .ok request) ↔
    ∀ text, JsonText disk (.request requests) text → ∃ v, Denotes text v := by
  constructor
  · rintro ⟨request, hrequest⟩ text htext
    obtain ⟨hquery, hbody, hparams, -⟩ := readRequest_eq_ok_iff.mp hrequest
    cases htext with
    | query given => exact exists_rel_iff.mp ⟨_, hquery⟩ text given
    | body given => exact exists_rel_iff.mp ⟨_, hbody⟩ text given
    | params given => exact exists_rel_iff.mp ⟨_, hparams⟩ text given
  · intro h
    obtain ⟨query, hquery⟩ := exists_rel_iff.mpr fun text given => h text (.query given)
    obtain ⟨body, hbody⟩ := exists_rel_iff.mpr fun text given => h text (.body given)
    obtain ⟨params, hparams⟩ := exists_rel_iff.mpr fun text given => h text (.params given)
    exact ⟨{ query, body, params }, readRequest_eq_ok_iff.mpr ⟨hquery, hbody, hparams, rfl⟩⟩

theorem checkInput_eq_ok_iff : checkInput disk input = .ok value ↔ input.Gives disk value := by
  constructor
  · intro h
    cases input with
    | absent =>
      cases h
      exact .absent
    | json text =>
      obtain ⟨v, hv, rfl⟩ := map_eq_ok_iff.mp h
      exact .json (jsonArgument_eq_ok_iff.mp hv)
    | text s =>
      cases h
      exact .text s
    | file path =>
      obtain ⟨text, htext, h⟩ := bind_eq_ok_iff.mp h
      obtain ⟨v, hv, h⟩ := bind_eq_ok_iff.mp h
      cases h
      exact .file (readText_eq_ok_iff.mp htext) (jsonArgument_eq_ok_iff.mp hv)
  · intro gives
    cases gives with
    | absent => rfl
    | json denotes => exact map_eq_ok_iff.mpr ⟨_, jsonArgument_eq_ok_iff.mpr denotes, rfl⟩
    | text s => rfl
    | file holds denotes =>
      rw [checkInput, readText_eq_ok_iff.mpr holds, ok_bind, jsonArgument_eq_ok_iff.mpr denotes]
      rfl

/-- An input that can be read but gives no value is at fault. -/
theorem code_of_checkInput (readable : ∀ path, input = .file path → ∃ text, disk.Holds path text)
    (h : checkInput disk input = .error error) : error.code = ExitCode.usage := by
  cases input with
  | absent => cases h
  | json text => exact code_of_jsonArgument (map_eq_error_iff.mp h)
  | text s => cases h
  | file path =>
    obtain ⟨text, holds⟩ := readable path rfl
    rw [checkInput, readText_eq_ok_iff.mpr holds, ok_bind] at h
    rcases bind_eq_error_iff.mp h with h | ⟨v, -, h⟩
    · exact code_of_jsonArgument h
    · cases h

theorem exists_checkInput_iff
    (readable : ∀ path, checks.input = .file path → ∃ text, disk.Holds path text) :
    (∃ value, checkInput disk checks.input = .ok value) ↔
      ∀ text, JsonText disk (.check checks) text → ∃ v, Denotes text v := by
  simp only [checkInput_eq_ok_iff]
  constructor
  · rintro ⟨value, gives⟩ text htext
    cases htext with
    | value given =>
      rw [given] at gives
      cases gives with
      | json denotes => exact ⟨_, denotes⟩
    | file given holds =>
      rw [given] at gives
      cases gives with
      | file holds' denotes =>
        cases holds.symm.trans holds'
        exact ⟨_, denotes⟩
  · intro h
    cases hinput : checks.input with
    | absent => exact ⟨none, .absent⟩
    | json text =>
      obtain ⟨v, denotes⟩ := h text (.value hinput)
      exact ⟨some v, .json denotes⟩
    | text s => exact ⟨_, .text s⟩
    | file path =>
      obtain ⟨text, holds⟩ := readable path hinput
      obtain ⟨v, denotes⟩ := h text (.file hinput holds)
      exact ⟨some v, .file holds denotes⟩

/-! ### Documents -/

theorem opens_line (schema : String) (valid : Bool) (rest : Members) :
    Opens schema valid (Output.line (Value.object
      (("schema_id", .string schema) :: ("valid", .bool valid) :: rest)).text) := by
  have hid : Value.quoted "schema_id" = "\"schema_id\"" := by
    simp [Value.quoted, Value.escaped]
  have hvalid : Value.quoted "valid" = "\"valid\"" := by simp [Value.quoted, Value.escaped]
  obtain ⟨tail, htail⟩ : ∃ tail,
      ",".intercalate (Value.memberTexts (("valid", .bool valid) :: rest)) =
        "\"valid\":" ++ (Value.bool valid).text ++ tail := by
    cases rest with
    | nil => exact ⟨"", by simp [Value.memberTexts, hvalid]⟩
    | cons first rest =>
      refine ⟨"," ++ ",".intercalate (Value.memberTexts (first :: rest)), ?_⟩
      simp only [Value.memberTexts, hvalid, String.intercalate_cons_cons, String.append_assoc]
      rfl
  refine ⟨tail ++ "\x7d\n", ?_⟩
  rw [Output.line, Value.text, Value.memberTexts, Value.memberTexts, String.intercalate_cons_cons,
    ← Value.memberTexts, htail, hid, Value.text]
  apply String.toList_inj.mp
  simp

theorem Opens.unique (h : Opens schema valid output) (h' : Opens schema valid' output) :
    valid = valid' := by
  obtain ⟨rest, rfl⟩ := h
  obtain ⟨rest', h⟩ := h'
  simp only [String.append_assoc, String.append_right_inj] at h
  -- After what the texts share, one goes on with `true` and the other with `false`.
  have hchars := congrArg String.toList h
  cases valid <;> cases valid' <;> simp [Value.text] at hchars ⊢

theorem Opens.ne_empty (h : Opens schema valid output) : output ≠ "" := by
  obtain ⟨rest, rfl⟩ := h
  simp

theorem exists_reports (d : Diagnostic) :
    ∃ members, d.toValue = .object members ∧ Reports members d.kind d.field d.value d.reason := by
  obtain ⟨kind, field, value, reason⟩ := d
  refine ⟨_, rfl, ?_⟩
  cases value <;> exact ⟨rfl, rfl, rfl, rfl, rfl⟩

/-- A document whose error is the diagnostic of a fault reports the fault. -/
theorem exists_says {fault : Fault}
    (error : document.lookup "error" = some fault.diagnostic.toValue) :
    ∃ kind field value reason members, fault.Says kind field value reason ∧
      document.lookup "error" = some (.object members) ∧
        Reports members kind field value reason := by
  obtain ⟨members, hmembers, hreports⟩ := exists_reports fault.diagnostic
  exact ⟨_, _, _, _, members, fault.says_diagnostic, hmembers ▸ error, hreports⟩

/-- The document for a check. -/
def checkMembers (name : String) (checked : Option Value) (fault : Option Fault) : Members :=
  [("schema_id", .string Output.checkSchema), ("valid", .bool fault.isNone),
    ("name", .string name)] ++ Output.optionalMember "value" checked ++
    Output.optionalMember "error" (fault.map fun fault => fault.diagnostic.toValue)

theorem tells_checkMembers (name : String) (checked : Option Value) (fault : Option Fault) :
    Tells Output.checkSchema ⟨"value", checked, fault⟩
      (Output.line (Value.object (checkMembers name checked fault)).text)
      (checkMembers name checked fault) := by
  have herror : (checkMembers name checked fault).lookup "error" =
      fault.map fun fault => fault.diagnostic.toValue := by
    cases checked <;> cases fault <;> rfl
  refine ⟨rfl, ?keys, opens_line _ _ _, rfl, herror, ?reports, ?checked⟩
  case keys => cases checked <;> cases fault <;> simp [checkMembers, Output.optionalMember]
  case reports =>
    rintro fault ⟨⟩
    exact exists_says herror
  case checked => cases checked <;> cases fault <;> rfl

/-- The document for a request. -/
def requestMembers (validated : Members) (fault : Option Fault) : Members :=
  [("schema_id", .string Output.requestSchema), ("valid", .bool fault.isNone),
    ("validated", .object validated)] ++
    Output.optionalMember "error" (fault.map fun fault => fault.diagnostic.toValue)

theorem tells_requestMembers (validated : Members) (fault : Option Fault) :
    Tells Output.requestSchema ⟨"validated", some (.object validated), fault⟩
      (Output.line (Value.object (requestMembers validated fault)).text)
      (requestMembers validated fault) := by
  have herror : (requestMembers validated fault).lookup "error" =
      fault.map fun fault => fault.diagnostic.toValue := by
    cases fault <;> rfl
  refine ⟨rfl, ?keys, opens_line _ _ _, rfl, herror, ?reports, ?checked⟩
  case keys => cases fault <;> simp [requestMembers, Output.optionalMember]
  case reports =>
    rintro fault ⟨⟩
    exact exists_says herror
  case checked => cases fault <;> rfl

/-! ### Runs by stage -/

/-- How a run ends that comes to an answer: `source` is what a fault of the schema is reported for,
and `output` the text of the document. -/
def Answer.ends (answer : Answer) (source output : String) : Except RunError RunResult :=
  match answer.fault with
  | none => .ok { code := ExitCode.success, out := output }
  | some fault =>
    if fault.isInputError then .ok { code := ExitCode.dataInvalid, out := output }
    else .error (.ofFault source fault)

theorem exists_ends (answers : command.Answers disk answer) : ∃ source output document,
    Tells command.documentSchema answer output document ∧
      command.run target disk .json = answer.ends source output := by
  cases answers with
  | @passes checks _ _ _ value holds loads gives check =>
    refine ⟨"check", _, _, tells_checkMembers checks.name value none, ?_⟩
    rw [run, runCheck_eq holds, loads]
    simp only [Except.mapError, ok_bind, checkBy, checkInput_eq_ok_iff.mpr gives, check]
    rfl
  | @fails checks _ _ _ fault holds loads gives check =>
    refine ⟨"check", _, _, tells_checkMembers checks.name none (some fault), ?_⟩
    rw [run, runCheck_eq holds, loads]
    simp only [Except.mapError, ok_bind, checkBy, checkInput_eq_ok_iff.mpr gives, check]
    rfl
  | @request requests _ _ request checked fault holds loads query body params fresh check =>
    refine ⟨"request", _, _, tells_requestMembers checked.validated fault, ?_⟩
    have hrequest := readRequest_eq_ok_iff.mpr ⟨query, body, params, fresh⟩
    rw [run, runRequest_eq holds, loads]
    simp only [Except.mapError, ok_bind, requestBy, hrequest, check]
    cases fault <;> rfl

theorem readable_input
    (readable : ∀ path ∈ (Command.check checks).paths, ∃ text, disk.Holds path text) :
    ∀ path, checks.input = .file path → ∃ text, disk.Holds path text :=
  fun path hpath => readable path (by simp [paths, hpath])

/-- A command that loads and is given JSON only is answered. -/
theorem exists_answer (loads : command.Loads disk) (kind : command.Checks)
    (readable : ∀ path ∈ command.paths, ∃ text, disk.Holds path text)
    (json : ∀ text, command.JsonText disk text → ∃ v, Denotes text v) :
    ∃ answer, command.Answers disk answer := by
  cases loads with
  | @schema checks _ node holds loads =>
    have hreadable := readable_input readable
    obtain ⟨input, hinput⟩ := (exists_checkInput_iff hreadable).mpr json
    have hgives := checkInput_eq_ok_iff.mp hinput
    cases hcheck : node.check Context.builtins checks.name input with
    | ok value => exact ⟨_, .passes holds loads hgives hcheck⟩
    | error fault => exact ⟨_, .fails holds loads hgives hcheck⟩
  | @route requests _ route holds loads =>
    obtain ⟨request, hrequest⟩ := exists_readRequest_iff.mpr json
    obtain ⟨hquery, hbody, hparams, hfresh⟩ := readRequest_eq_ok_iff.mp hrequest
    obtain ⟨⟨checked, fault⟩, hcheck⟩ : ∃ result,
        request.check Context.builtins (targetKeys requests) route = result := ⟨_, rfl⟩
    exact ⟨_, .request holds loads hquery hbody hparams hfresh hcheck⟩
  | file holds loads => exact kind.elim
  | directory lists loads => exact kind.elim

/-- A run that is given a text that is not JSON ends with it. -/
theorem exists_usage_error (loads : command.Loads disk) (kind : command.Checks)
    (readable : ∀ path ∈ command.paths, ∃ text, disk.Holds path text)
    (given : command.JsonText disk text) (notJson : ∀ v, ¬Denotes text v) :
    ∃ error, command.run target disk .json = .error error ∧ error.code = ExitCode.usage := by
  cases loads with
  | @schema checks _ node holds loads =>
    have hreadable := readable_input readable
    cases hinput : checkInput disk checks.input with
    | ok input =>
      obtain ⟨v, denotes⟩ := (exists_checkInput_iff hreadable).mp ⟨input, hinput⟩ text given
      exact absurd denotes (notJson v)
    | error error =>
      refine ⟨error, ?_, code_of_checkInput hreadable hinput⟩
      rw [run, runCheck_eq holds, loads]
      simp only [Except.mapError, ok_bind, checkBy, hinput, error_bind]
  | @route requests _ route holds loads =>
    cases hrequest : readRequest requests with
    | ok request =>
      obtain ⟨v, denotes⟩ := exists_readRequest_iff.mp ⟨request, hrequest⟩ text given
      exact absurd denotes (notJson v)
    | error error =>
      refine ⟨error, ?_, code_of_readRequest hrequest⟩
      rw [run, runRequest_eq holds, loads]
      simp only [Except.mapError, ok_bind, requestBy, hrequest, error_bind]
  | file holds loads => exact kind.elim
  | directory lists loads => exact kind.elim

/-! ### Exit codes and output -/

theorem ended_of_answers (asks : surroundings.Asks arguments command .json)
    (answers : command.Answers surroundings.disk answer) :
    Ended command.documentSchema answer (runProgram surroundings arguments) := by
  obtain ⟨source, output, document, htells, hrun⟩ := exists_ends answers
  unfold Answer.ends at hrun
  cases hfault : answer.fault with
  | none =>
    rw [hfault] at hrun
    rw [runProgram_eq_of_ok asks hrun]
    exact .passed hfault rfl ⟨document, htells⟩
  | some fault =>
    simp only [hfault] at hrun
    cases hinput : fault.isInputError with
    | true =>
      rw [if_pos hinput] at hrun
      rw [runProgram_eq_of_ok asks hrun]
      exact .refused hfault hinput rfl ⟨document, htells⟩
    | false =>
      rw [if_neg (by simp [hinput])] at hrun
      rw [runProgram_eq_of_error asks hrun]
      refine .defective hfault hinput ?_ rfl
      simp [RunError.result, RunError.ofFault, hinput]

/-- The exit code of a run that prints whether its input is valid. -/
def printedCode (valid : Bool) : Nat :=
  if valid then ExitCode.success else ExitCode.dataInvalid

theorem printedCode_inj : printedCode valid = printedCode valid' ↔ valid = valid' := by
  cases valid <;> cases valid' <;> decide

theorem printedCode_not_silent (valid : Bool) :
    ¬(printedCode valid = ExitCode.usage ∨ printedCode valid = ExitCode.configInvalid) := by
  cases valid <;> decide

/-- A run prints the document of an input that is valid or not, or else nothing. -/
inductive Ending (schema : String) (result : RunResult) : Prop
  | silent (code : result.code = ExitCode.usage ∨ result.code = ExitCode.configInvalid)
    (out : result.out = "")
  | printed (valid : Bool) (code : result.code = printedCode valid)
    (opens : Opens schema valid result.out)

theorem Ended.ending (ended : Ended schema answer result) : Ending schema result := by
  cases ended with
  | passed fault code tells =>
    obtain ⟨document, htells⟩ := tells
    have hopens := htells.opens
    rw [fault] at hopens
    exact .printed true code hopens
  | refused found _ code tells =>
    obtain ⟨document, htells⟩ := tells
    have hopens := htells.opens
    rw [found] at hopens
    exact .printed false code hopens
  | defective _ _ code out => exact .silent (.inr code) out

theorem Ending.opens_iff (ending : Ending schema result) (valid : Bool) :
    result.code = printedCode valid ↔ Opens schema valid result.out := by
  cases ending with
  | silent code out =>
    refine iff_of_false ?_ fun opens => opens.ne_empty out
    intro h
    rw [h] at code
    exact printedCode_not_silent valid code
  | printed valid' code opens =>
    rw [code, printedCode_inj]
    constructor
    · rintro rfl
      exact opens
    · exact fun opens' => opens.unique opens'

theorem Ending.silent_iff (ending : Ending schema result) :
    result.code = ExitCode.usage ∨ result.code = ExitCode.configInvalid ↔ result.out = "" := by
  cases ending with
  | silent code out => exact iff_of_true code out
  | printed valid code opens =>
    rw [code]
    exact iff_of_false (printedCode_not_silent valid) opens.ne_empty

theorem readable_of_paths (kind : command.Checks)
    (readable : ∀ path ∈ command.paths, ∃ text, disk.Holds path text) : command.Readable disk := by
  cases command with
  | check checks =>
    obtain ⟨text, holds⟩ := readable checks.schema List.mem_cons_self
    exact .schema holds
  | request requests =>
    obtain ⟨text, holds⟩ := readable requests.route List.mem_cons_self
    exact .route holds
  | describe path => exact kind.elim
  | version extended => exact kind.elim

theorem not_lists_of_checks (kind : command.Checks) : ¬command.Lists disk := by
  rintro ⟨path, entries, rfl, -⟩
  exact kind

theorem silent_of_unloadable (asks : surroundings.Asks arguments command .json)
    (kind : command.Checks)
    (readable : ∀ path ∈ command.paths, ∃ text, surroundings.disk.Holds path text)
    (unloadable : ¬command.Loads surroundings.disk) :
    (runProgram surroundings arguments).code = ExitCode.configInvalid ∧
      (runProgram surroundings arguments).out = "" := by
  obtain ⟨error, hdefect, hrun⟩ := exists_defect (readable_of_paths kind readable) unloadable
  rw [runProgram_eq_of_error asks hrun]
  exact ⟨hdefect.code_of_not_lists (not_lists_of_checks kind), rfl⟩

theorem silent_of_notJson (asks : surroundings.Asks arguments command .json)
    (kind : command.Checks)
    (readable : ∀ path ∈ command.paths, ∃ text, surroundings.disk.Holds path text)
    (loads : command.Loads surroundings.disk) (given : command.JsonText surroundings.disk text)
    (notJson : ∀ v, ¬Denotes text v) :
    (runProgram surroundings arguments).code = ExitCode.usage ∧
      (runProgram surroundings arguments).out = "" := by
  obtain ⟨error, hrun, hcode⟩ := exists_usage_error loads kind readable given notJson
  rw [runProgram_eq_of_error asks hrun]
  exact ⟨hcode, rfl⟩

theorem ending_of_run (asks : surroundings.Asks arguments command .json) (kind : command.Checks)
    (readable : ∀ path ∈ command.paths, ∃ text, surroundings.disk.Holds path text) :
    Ending command.documentSchema (runProgram surroundings arguments) := by
  by_cases hloads : command.Loads surroundings.disk
  · by_cases hjson : ∀ text, command.JsonText surroundings.disk text → ∃ v, Denotes text v
    · obtain ⟨answer, hanswers⟩ := exists_answer hloads kind readable hjson
      exact (ended_of_answers asks hanswers).ending
    · push Not at hjson
      obtain ⟨text, hgiven, hnot⟩ := hjson
      obtain ⟨hcode, hout⟩ := silent_of_notJson asks kind readable hloads hgiven hnot
      exact .silent (.inl hcode) hout
  · obtain ⟨hcode, hout⟩ := silent_of_unloadable asks kind readable hloads
    exact .silent (.inr hcode) hout

/-- How a check or a request ends, with output as JSON: its exit code and its output tell which
stage failed, or the answer of the library. -/
theorem run_outcome (asks : surroundings.Asks arguments command .json) (kind : command.Checks)
    (readable : ∀ path ∈ command.paths, ∃ text, surroundings.disk.Holds path text) :
    Outcome surroundings.disk command (runProgram surroundings arguments) := by
  have hending := ending_of_run asks kind readable
  constructor
  case unloadable => exact silent_of_unloadable asks kind readable
  case notJson =>
    intro loads text given notJson
    exact silent_of_notJson asks kind readable loads given notJson
  case answered => exact fun loads json => exists_answer loads kind readable json
  case ended => exact fun answer answers => ended_of_answers asks answers
  case valid => exact hending.opens_iff true
  case invalid => exact hending.opens_iff false
  case silent => exact hending.silent_iff

end Runs

/-! ### A request whose body is refused -/

namespace Signup

def routeText : String :=
  "\x7b\"query\":\x7b\"trial\":\x7b\"type\":\"boolean\"\x7d\x7d," ++
    "\"body\":\x7b\"name\":\x7b\"type\":\"string\"\x7d\x7d\x7d"

def surroundings : Surroundings where
  disk path := if path = "signup.route.json" then .file routeText.toUTF8 else .missing .notFound
  target := "x86_64-unknown-linux-gnu"

def line : List String :=
  ["request", "signup.route.json", "--query", "\x7b\"trial\":\"true\"\x7d", "--body", "\x7b\x7d"]

def requests : RequestArguments where
  route := "signup.route.json"
  query := some "\x7b\"trial\":\"true\"\x7d"
  body := some "\x7b\x7d"

def route : Route where
  query := some [("trial", .leaf .boolean)]
  body := some [("name", .leaf .string)]

/-- The request as it comes. -/
def request : Request where
  query := some (.object [("trial", .string "true")])
  body := some (.object [])

/-- The request with its query checked. -/
def checked : Request :=
  { request with validated := [("query", .object [("trial", .bool true)])] }

def fault : Fault := .rejected "name" none .required

theorem asks_line : surroundings.Asks line (.request requests) .json :=
  ⟨none, by with_unfolding_all rfl, rfl⟩

set_option maxRecDepth 10000 in
theorem holds_route : surroundings.disk.Holds "signup.route.json" routeText := rfl

set_option maxRecDepth 10000 in
theorem loads_route : routeLoader.readRoute routeText = .ok route := rfl

theorem check_request :
    request.check Context.builtins (targetKeys requests) route = (checked, some fault) := rfl

theorem answers_line : (Command.request requests).Answers surroundings.disk
    ⟨"validated", some (.object checked.validated), some fault⟩ := by
  have hquery : Option.Rel Denotes requests.query request.query := .some rfl
  have hbody : Option.Rel Denotes requests.body request.body := .some rfl
  exact .request holds_route loads_route hquery hbody .none rfl check_request

/-- The body lacks a name; what the query came to is printed. -/
theorem line_refused : (runProgram surroundings line).code = ExitCode.dataInvalid ∧
    ∃ document, (runProgram surroundings line).out = Output.line (Value.object document).text ∧
      document.lookup "validated" = some (.object checked.validated) ∧
      ∃ error, document.lookup "error" = some (.object error) ∧
        Reports error "validation" "name" none "Required" := by
  have houtcome := run_outcome asks_line trivial (by
    intro path hpath
    rw [paths, List.mem_singleton] at hpath
    exact ⟨routeText, hpath ▸ holds_route⟩)
  cases houtcome.ended _ answers_line with
  | passed none => cases none
  | refused _ _ code tells =>
    obtain ⟨document, htells⟩ := tells
    obtain ⟨_, _, _, _, error, hsays, herror, hreports⟩ := htells.reports fault rfl
    cases hsays
    exact ⟨code, document, htells.line, htells.checked, error, herror, hreports⟩
  | defective found input =>
    cases found
    cases input

end Signup

end Command

end ParamSchema
