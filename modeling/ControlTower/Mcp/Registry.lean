import ControlTower.Mcp.Model

/-! The registry policy of the JSON-RPC transport: which server and flag a
`tools/call` gets, and the check of its arguments against the registered schema. -/

set_option autoImplicit false

namespace ControlTower

open Foundation
open Foundation.Procedure (demand found onlyIf)

def McpStore.projectChildServers (store : McpStore) (projectId : String) : List MCPChildServer :=
  store.mcpChildServers.values.filter fun server => server.projectId == projectId

/-- The registered tools that a call may mean, with their servers. -/
def McpStore.toolMatches (store : McpStore) (projectId toolName : String) (requestedServerName : Option String) :
    List (MCPChildServer × MCPToolDefinition) :=
  ((store.projectChildServers projectId).filter fun server =>
      (requestedServerName == none || requestedServerName == some server.name) && server.enabled).flatMap fun server =>
    (server.tools.filter fun tool => tool.name == toolName).map fun tool => (server, tool)

/-- The server, the flag and the schema that the registry gives to a call; none
where the project has no registered server. -/
def McpStore.registeredToolPolicy (store : McpStore) (projectId toolName : String)
    (requestedServerName : Option String) : Except String (Option (String × Bool × Document)) :=
  if store.projectChildServers projectId = [] then .ok none
  else match store.toolMatches projectId toolName requestedServerName with
    | [] => .error "tools/call references an unknown or disabled registered tool"
    | [(server, tool)] => .ok (some (server.name, tool.mutating, tool.inputSchema))
    | _ :: _ :: _ => .error "tools/call is ambiguous; provide server_name"

/-- Whether a value has one of the JSON types that a schema names. -/
def valueMatchesJsonType (value : Document) (expectedTypes : List Document) : Bool :=
  expectedTypes.any fun item =>
    match item, value with
    | .text "string", .text _ | .text "number", .number _ | .text "number", .fraction _ _
    | .text "integer", .number _ | .text "boolean", .flag _ | .text "object", .object _
    | .text "array", .list _ | .text "null", .null => true
    | _, _ => false

/-- The expected type as it stands in the message. -/
def expectedTypeText (runtime : Runtime) : Document → String
  | .text name => name
  | other => runtime.render other

def requireFields (arguments : List (String × Document)) : List Document → Except String Unit
  | [] => .ok ()
  | .text fieldName :: rest =>
      if (arguments.lookup fieldName).isSome then requireFields arguments rest
      else .error s!"tools/call arguments missing required field: {fieldName}"
  | _ :: _ => .error "registered tool input_schema required entries must be strings"

def checkPropertyTypes (runtime : Runtime) (properties : List (String × Document)) :
    List (String × Document) → Except String Unit
  | [] => .ok ()
  | (fieldName, value) :: rest =>
      match properties.lookup fieldName with
      | none | some .null => checkPropertyTypes runtime properties rest
      | some (.object propertySchema) =>
          match propertySchema.lookup "type" with
          | none | some .null => checkPropertyTypes runtime properties rest
          | some expectedType =>
              let expectedTypes := match expectedType with
                | .list items => items
                | single => [single]
              if valueMatchesJsonType value expectedTypes then checkPropertyTypes runtime properties rest
              else .error ("tools/call argument has wrong type: " ++ fieldName ++ " must be " ++
                expectedTypeText runtime expectedType)
      | some _ => .error s!"registered tool input_schema property is invalid: {fieldName}"

def validateArgumentsAgainstSchema (runtime : Runtime) (arguments : List (String × Document)) (schema : Document) :
    Except String Unit := do
  if (schema.field "type").getD (.text "object") ≠ .text "object" then
    .error "registered tool input_schema must be an object schema"
  match (schema.field "required").getD (.list []) with
  | .list required => requireFields arguments required
  | _ => .error "registered tool input_schema required must be a list"
  match (schema.field "properties").getD (.object []) with
  | .object properties => do
      if schema.field "additionalProperties" = some (.flag false) then
        match (arguments.map Prod.fst).filter fun name => !(properties.map Prod.fst).contains name with
        | [] => .ok ()
        | first :: rest =>
            -- the least name is the one reported
            .error s!"tools/call arguments include unsupported field: {rest.foldl min first}"
      checkPropertyTypes runtime properties arguments
  | _ => .error "registered tool input_schema properties must be an object"

/-- A parameter that is absent, null or a text. -/
def optionalText (params : List (String × Document)) (key message : String) : Except String (Option String) :=
  match params.lookup key with
  | none | some .null => .ok none
  | some (.text value) => .ok (some value)
  | some _ => .error message

def toolNameOf (params : List (String × Document)) : Except String String :=
  match params.lookup "name" with
  | some (.text name) =>
      if Text.strip name = "" then .error "tools/call params must include non-empty name" else .ok name
  | _ => .error "tools/call params must include non-empty name"

def argumentsOf (params : List (String × Document)) : Except String (List (String × Document)) :=
  match (params.lookup "arguments").getD (.object []) with
  | .object fields => .ok fields
  | _ => .error "tools/call arguments must be an object"

def requestedByOf (params : List (String × Document)) : Except String String :=
  match params.lookup "requested_by" with
  | none => .ok "mcp-jsonrpc-client"
  | some value =>
      if value.truthy = false then .ok "mcp-jsonrpc-client"
      else match value with
        | .text name => .ok name
        | _ => .error "requested_by must be a string"

def mutatingOf (params : List (String × Document)) : Except String (Option Bool) :=
  match params.lookup "mutating" with
  | none | some .null => .ok none
  | some (.flag flag) => .ok (some flag)
  | some _ => .error "mutating must be a boolean when provided"

def toolCallFromParams (runtime : Runtime) (store : McpStore) (projectId : String)
    (params : List (String × Document)) : Except String MCPGatewayToolCall := do
  let toolName ← toolNameOf params
  let arguments ← argumentsOf params
  let requestedServerName ← optionalText params "server_name" "server_name must be a string"
  let sessionId ← optionalText params "session_id" "session_id must be a string"
  let requestedBy ← requestedByOf params
  let mutating ← mutatingOf params
  match ← store.registeredToolPolicy projectId toolName requestedServerName with
  | some (serverName, registeredMutating, inputSchema) => do
      validateArgumentsAgainstSchema runtime arguments inputSchema
      .ok { serverName, toolName, arguments, sessionId, requestedBy, mutating := some registeredMutating }
  | none =>
      let serverName := if Text.present requestedServerName then requestedServerName.getD "" else "child-test-server"
      .ok { serverName, toolName, arguments, sessionId, requestedBy, mutating }

end ControlTower
