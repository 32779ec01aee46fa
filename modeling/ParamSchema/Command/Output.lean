import ParamSchema.Command.Layout
import ParamSchema.Fault
import ParamSchema.Route

/-!
What the commands print: the outcome of a check, the maps of a request and the documentation of
routes, each as JSON, as a table, as lines for people or as the bare value.
-/

namespace ParamSchema

inductive OutputFormat
  | json | table | pretty | raw
deriving DecidableEq

namespace Output

/-- Where the schemas of the JSON documents are. -/
def schemaRoot : String := "https://schemas.3leaps.dev/valprims/cli/v1/"

def checkSchema : String := schemaRoot ++ "check-result.schema.json"

def requestSchema : String := schemaRoot ++ "request-result.schema.json"

def routeDocSchema : String := schemaRoot ++ "route-doc.schema.json"

/-- A diagnostic in one line. -/
def describe (d : Diagnostic) : String :=
  s!"{d.kind} at '{d.field}': {d.reason}"

/-- A flag as a word. -/
def flagText (flag : Bool) : String := if flag then "true" else "false"

/-- Whether a field must be given, as a word. -/
def needText (required : Bool) : String := if required then "required" else "optional"

/-- A member that may be missing. -/
def optionalMember (key : String) (v : Option Value) : Members :=
  (v.map fun v => (key, v)).toList

/-- The text with an end of line. -/
def line (text : String) : String := text ++ "\n"

/-- The document for the outcome of a check. -/
def checkDocument (name : String) (outcome : Except Diagnostic (Option Value)) : Value :=
  let (value, error) := match outcome with
    | .ok value => (value, none)
    | .error d => (none, some d)
  .object ([("schema_id", .string checkSchema), ("valid", .bool error.isNone),
      ("name", .string name)] ++
    optionalMember "value" value ++ optionalMember "error" (error.map Diagnostic.toValue))

/-- The outcome of a check of a value under a name. -/
def checked (name : String) (outcome : Except Diagnostic (Option Value)) : OutputFormat → String
  | .json => line (checkDocument name outcome).text
  | .table =>
    let (valid, value, error) := match outcome with
      | .ok value => (true, value, none)
      | .error d => (false, none, some d)
    line (Layout.table ["NAME", "VALID", "VALUE", "ERROR"]
      [[name, flagText valid, (value.map Value.text).getD "-", (error.map describe).getD "-"]])
  | .pretty =>
    match outcome with
    | .error d => line s!"{name}: invalid ({describe d})"
    | .ok value => line (name ++ ": ok " ++ (value.map Value.text).getD "<absent>")
  | .raw =>
    match outcome with
    | .ok (some value) => value.text
    | _ => ""

/-- The document for the maps of a request. -/
def requestDocument (validated : Members) (error : Option Diagnostic) : Value :=
  .object ([("schema_id", .string requestSchema), ("valid", .bool error.isNone),
      ("validated", .object validated)] ++
    optionalMember "error" (error.map Diagnostic.toValue))

/-- The checked maps of a request and the diagnostic of the one that was refused. -/
def request (validated : Members) (error : Option Diagnostic) : OutputFormat → String
  | .json => line (requestDocument validated error).text
  | .table =>
    line (Layout.table ["KEY", "VALUE"]
      ((validated.map fun (key, v) => [key, v.text]) ++
        (error.map fun d => ["<error>", describe d]).toList))
  | .pretty =>
    String.join ((validated.map fun (key, v) => line s!"{key} = {v.text}") ++
      (error.map fun d => line s!"rejected: {describe d}").toList)
  | .raw => (Value.object validated).text

/-- The document for a route. -/
def routeDocument (name : String) (doc : RouteDoc) : Value :=
  .object ([("schema_id", .string routeDocSchema), ("route", .string name)] ++ doc.toMembers)

/-- The documentation of routes. -/
def routeDocs (docs : List (String × RouteDoc)) : OutputFormat → String
  | .json | .raw => String.join (docs.map fun (name, doc) => line (routeDocument name doc).text)
  | .table =>
    let rows := docs.flatMap fun (name, doc) => doc.rows.map fun row =>
      [name, row.path, row.type, flagText row.required,
        (row.defaultValue.map Value.text).getD "-", ",".intercalate row.rules]
    line (Layout.table ["ROUTE", "FIELD", "TYPE", "REQUIRED", "DEFAULT", "RULES"] rows)
  | .pretty =>
    String.join (docs.flatMap fun (name, doc) => doc.rows.map fun row =>
      line (" ".intercalate [name, row.path, row.type, needText row.required]))

end Output

end ParamSchema
