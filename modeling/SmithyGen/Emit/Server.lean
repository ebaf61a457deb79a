import SmithyGen.Emit.Artifact
import SmithyGen.Model.Resolve
import SmithyGen.UriTemplate
import SmithyGen.Value.Literal

namespace SmithyGen.Emit.Server

def contractName (s : Service) : String := s.name ++ "Contract"

def handlersName (s : Service) : String := s.name ++ "Handlers"

def methodName (o : Operation) : String := Naming.attributeName o.name

def moduleName (o : Options) (s : Service) (ending : String) : String :=
  o.moduleName "server" s.name ++ "_" ++ ending

def requestLine (h : HttpBinding) : String := h.method ++ " " ++ h.uri

def contractMethod (o : Operation) : FunctionDecl :=
  { name := methodName o
    params := selfParam :: inputParams o
    returns := some (outputType o)
    decorators := ["abstractmethod"]
    isAsync := true
    docstring := some ((present o.documentation).getD (requestLine o.http)) }

def contract (opts : Options) (s : Service) : Document :=
  let imports : Imports := {}
  let imports := imports.add "__future__" ["annotations"]
  let imports := imports.add "abc" ["ABC", "abstractmethod"]
  let imports := addTypes s imports
  { opts.document (moduleName opts s "contract") .contract
      ("Server contract of " ++ s.name ++ " " ++ s.version.display .plain ++ ".") with
    imports
    declarations := [{
      name := contractName s
      bases := ["ABC"]
      docstring := some ((present s.documentation).getD
        ("Operations of " ++ s.name ++ ". Subclass and pass an instance to build_router()."))
      methods := s.operations.map contractMethod }] }

/-- Where a handler finds the value of a member in a request. -/
inductive Source where
  | label
  | query (key : String)
  | header (key : String)
deriving DecidableEq, Repr

/-- The member that takes the whole body. -/
def payload? (input : Shape) : Option Member := input.members.find? (·.binding == some .body)

/-- Labels of the URI come first, whatever the member is bound to. -/
def source? (o : Operation) (m : Member) : Option Source :=
  if o.http.pathParams.contains m.name then some .label
  else match m.binding with
    | some .query => some (.query m.wireName)
    | some .header => some (.header m.wireName)
    | _ => none

/-- The helper that turns a text of the request into a value. -/
def coercion? : TargetKind → Option String
  | .integer => some "_to_int"
  | .float => some "_to_float"
  | .boolean => some "_to_bool"
  | _ => none

def coerced (helper : Option String) (value : String) : String :=
  helper.elim value fun h => h ++ "(" ++ value ++ ")"

/-- Takes a value out of a collection of the request, if it is there. -/
def optionalLines (m : Member) (collection key : String) (helper : Option String) : List String :=
  let k := Text.quoted key
  ["if " ++ k ++ " in " ++ collection ++ ":",
   "    data[" ++ Text.quoted m.name ++ "] = " ++ coerced helper (collection ++ "[" ++ k ++ "]")]

def memberLines (shapes : List Shape) (o : Operation) (m : Member) : List String :=
  let helper := coercion? (resolve shapes (some m.target)).kind
  match source? o m with
  | some .label =>
    ["data[" ++ Text.quoted m.name ++ "] = "
      ++ coerced helper ("request.path_params[" ++ Text.quoted m.name ++ "]")]
  | some (.query key) => optionalLines m "request.query_params" key helper
  | some (.header key) => optionalLines m "request.headers" key helper
  | none => []

def bodyLines (input : Shape) : List String :=
  match payload? input with
  | some m =>
    ["data: dict[str, Any] = \x7b\x7d",
     "data[" ++ Text.quoted m.name ++ "] = await _read_json(request)"]
  | none => ["data = await _read_body(request)"]

def decodeLines (shapes : List Shape) (o : Operation) (input : Shape) : List String :=
  bodyLines input ++ input.members.flatMap (memberLines shapes o)

def validationResponse : String := "    return _error_response(400, 'ValidationError', str(exc))"

def inputLines (shapes : List Shape) (o : Operation) : List String :=
  o.input.elim [] fun input =>
    "try:" :: (decodeLines shapes o input).map ("    " ++ ·)
      ++ ["    input_data = " ++ input.name ++ ".from_dict(data, infer_missing=True)",
          "except (ValueError, KeyError, TypeError) as exc:",
          validationResponse]

def handlerBody (shapes : List Shape) (o : Operation) : List String :=
  let argument := if o.input.isSome then "input_data" else ""
  let call := "await self.implementation." ++ methodName o ++ "(" ++ argument ++ ")"
  let code := toString o.http.code
  inputLines shapes o
    ++ ["try:",
        if o.output.isSome then "    output = " ++ call else "    " ++ call,
        "except ValueError as exc:",
        validationResponse,
        "except Exception:",
        "    logger.exception(\"Unhandled error in " ++ o.name ++ "\")",
        "    return _error_response(500, 'InternalServerError', \"Internal server error\")",
        if o.output.isSome then
          "return JSONResponse(output.to_dict(encode_json=True), status_code=" ++ code ++ ")"
        else "return Response(status_code=" ++ code ++ ")"]

def handlerMethod (shapes : List Shape) (o : Operation) : FunctionDecl :=
  { name := methodName o
    params := [selfParam, { name := "request", type := some "Request" }]
    returns := some "Response"
    body := handlerBody shapes o
    isAsync := true
    docstring := some (requestLine o.http) }

def valueParam : List ParamDecl := [{ name := "value", type := some "str" }]

def requestParam : List ParamDecl := [{ name := "request", type := some "Request" }]

def helpers : List FunctionDecl :=
  [{ name := "_to_int", params := valueParam, returns := some "int", body := ["return int(value)"] },
   { name := "_to_float", params := valueParam, returns := some "float",
     body := ["return float(value)"] },
   { name := "_to_bool", params := valueParam, returns := some "bool",
     body := [
       "if value.lower() in (\"true\", \"1\"):",
       "    return True",
       "if value.lower() in (\"false\", \"0\"):",
       "    return False",
       "raise ValueError(f\"Invalid boolean value: \x7bvalue!r\x7d\")"] },
   { name := "_read_json", params := requestParam, returns := some "Any", isAsync := true,
     body := [
       "body = await request.body()",
       "return json.loads(body) if body else None"] },
   { name := "_read_body", params := requestParam, returns := some "dict[str, Any]", isAsync := true,
     body := [
       "data = await _read_json(request)",
       "if data is None:",
       "    return \x7b\x7d",
       "if not isinstance(data, dict):",
       "    raise ValueError(\"Request body must be a JSON object\")",
       "return data"] },
   { name := "_error_response"
     params := [{ name := "status_code", type := some "int" },
       { name := "error", type := some "str" },
       { name := "message", type := some "str" }]
     returns := some "JSONResponse"
     body := [
       "return JSONResponse(\x7b\"error\": error, \"message\": message\x7d, status_code=status_code)"] }]

def handlers (opts : Options) (shapes : List Shape) (appName : Value) (s : Service) : Document :=
  let base := Naming.snake s.name
  let imports : Imports := {}
  let imports := imports.add "__future__" ["annotations"]
  let imports := imports.add "json" []
  let imports := imports.add "logging" []
  let imports := imports.add "typing" ["Any"]
  let imports := imports.add "fastapi" ["Request"]
  let imports := imports.add "fastapi.responses" ["JSONResponse", "Response"]
  let imports := imports.addRelative (base ++ "_contract") [contractName s] 1
  let imports := s.operations.foldl (fun i o => addType o.input i) imports
  { opts.document (moduleName opts s "handlers") .handlers
      ("HTTP handlers of " ++ s.name ++ ", delegating to a " ++ contractName s
        ++ " implementation.") with
    imports
    constants :=
      ["logger = logging.getLogger(" ++ Text.quoted (appName.display .plain ++ "." ++ base) ++ ")"]
    functions := helpers
    declarations := [{
      name := handlersName s
      docstring := some ("One handler per " ++ s.name ++ " operation.")
      methods :=
        { name := "__init__"
          params := [selfParam, { name := "implementation", type := some (contractName s) }]
          body := ["self.implementation = implementation"] }
        :: s.operations.map (handlerMethod shapes) }] }

def routeLine (o : Operation) : String :=
  "    (" ++ Text.quoted o.http.method ++ ", " ++ Text.quoted (UriTemplate.route o.http.uri) ++ ", "
    ++ Text.quoted (methodName o) ++ "),"

def routes (opts : Options) (s : Service) : Document :=
  let base := Naming.snake s.name
  let imports : Imports := {}
  let imports := imports.add "__future__" ["annotations"]
  let imports := imports.add "fastapi" ["APIRouter"]
  let imports := imports.addRelative (base ++ "_contract") [contractName s] 1
  let imports := imports.addRelative (base ++ "_handlers") [handlersName s] 1
  { opts.document (moduleName opts s "routes") .routes ("Route table of " ++ s.name ++ ".") with
    imports
    constants := ["# (method, uri, handler)", "ROUTES = ("] ++ s.operations.map routeLine ++ [")"]
    functions := [{
      name := "build_router"
      params := [{ name := "implementation", type := some (contractName s) },
        { name := "prefix", type := some "str", default? := some "\"\"" }]
      returns := some "APIRouter"
      docstring := some ("Attach every " ++ s.name ++ " route to one APIRouter.")
      body := [
        "handlers = " ++ handlersName s ++ "(implementation)",
        "router = APIRouter(prefix=prefix, tags=[" ++ Text.quoted s.name ++ "])",
        "for method, uri, handler_name in ROUTES:",
        "    router.add_api_route(uri, getattr(handlers, handler_name), methods=[method], name=handler_name)",
        "return router"] }] }

def artifacts (m : Model) (opts : Options) : Except Fault (List Artifact) :=
  match m.service with
  | none => .ok []
  | some s => do
    let appName ← opts.requireAppName
    let contract ← opts.render (contract opts s)
    let handlers ← opts.render (handlers opts m.shapes appName s)
    let routes ← opts.render (routes opts s)
    return [contract, handlers, routes]

end SmithyGen.Emit.Server
