import SmithyGen.Emit.Artifact
import SmithyGen.UriTemplate
import SmithyGen.Value.Literal

namespace SmithyGen.Emit.Client

def clientName (s : Service) : String := s.name ++ "Client"

def addressVariable (appName : String) (s : Service) : String :=
  Naming.constant appName ++ "_" ++ Naming.constant s.name ++ "_BASE_URL"

def param (name type : String) (default? : Option String) : ParamDecl :=
  { name, type := some type, default? }

/-- What a call does with the members of its input. -/
structure SendPlan where
  labels : List String := []
  query : List Member := []
  headers : List Member := []
  payload : Option Member := none

/-- Labels of the URI come first; of several payloads the last is sent. -/
def SendPlan.add (params : List String) (p : SendPlan) (m : Member) : SendPlan :=
  if params.contains m.name then { p with labels := p.labels ++ [m.name] }
  else match m.binding with
    | some .query => { p with query := p.query ++ [m] }
    | some .header => { p with headers := p.headers ++ [m] }
    | some .body => { p with payload := some m }
    | _ => p

def sendPlan (o : Operation) : SendPlan :=
  o.input.elim {} fun input => input.members.foldl (SendPlan.add o.http.pathParams) {}

/-- A wire name and the value taken out of the payload for it. -/
def popEntry (m : Member) : String :=
  Text.quoted m.wireName ++ ": payload.pop(" ++ Text.quoted m.name ++ ", None)"

def compact (ms : List Member) : String :=
  "_compact(\x7b" ++ ", ".intercalate (ms.map popEntry) ++ "\x7d)"

def inputLines (o : Operation) : List String :=
  if o.input.isSome then
    ["input_data.validate()", "payload = input_data.to_dict(encode_json=True)"]
  else []

def bodyArguments (o : Operation) (p : SendPlan) : List String :=
  match p.payload with
  | some m => ["json_body=payload.get(" ++ Text.quoted m.name ++ ")"]
  | none => if o.input.isSome then ["json_body=payload or None"] else []

def sendArguments (o : Operation) (p : SendPlan) : List String :=
  [Text.quoted o.name, Text.quoted o.http.method, "path", toString o.http.code]
    ++ (if p.query.isEmpty then [] else ["params=params"])
    ++ (if p.headers.isEmpty then [] else ["headers=headers"])
    ++ bodyArguments o p

def resultLines (o : Operation) : List String :=
  o.output.elim [] fun output =>
    ["return " ++ output.name ++ ".from_dict(_response_json(operation=" ++ Text.quoted o.name
      ++ ", response=response), infer_missing=True)"]

def callBody (o : Operation) : List String :=
  let p := sendPlan o
  inputLines o
    ++ ["path = " ++ UriTemplate.pathExpression o.http.uri p.labels]
    ++ (if p.query.isEmpty then [] else ["params = " ++ compact p.query])
    ++ (if p.headers.isEmpty then []
        else ["headers = \x7bk: str(v) for k, v in " ++ compact p.headers ++ ".items()\x7d"])
    ++ ["response = await self._send(" ++ ", ".intercalate (sendArguments o p) ++ ")"]
    ++ resultLines o

def callMethod (o : Operation) : FunctionDecl :=
  { name := Naming.attributeName o.name
    params := selfParam :: inputParams o
    returns := some (outputType o)
    body := callBody o
    isAsync := true
    docstring := some ((present o.documentation).getD (o.http.method ++ " " ++ o.http.uri)) }

def errorClasses (baseError : String) : List TypeDecl :=
  [{ name := baseError, bases := ["Exception"], docstring := some "Base error of the client." },
   { name := "UnexpectedStatusError"
     bases := [baseError]
     docstring := some "The server answered with a status other than the declared one."
     methods := [{
       name := "__init__"
       params := [selfParam, param "operation" "str" none, param "status_code" "int" none,
         param "body" "str" none]
       body := [
         "super().__init__(f\"\x7boperation\x7d returned unexpected status \x7bstatus_code\x7d\")",
         "self.operation = operation",
         "self.status_code = status_code",
         "self.body = body"] }] },
   { name := "TransportError"
     bases := [baseError]
     docstring := some "The request could not be sent or its response could not be read." }]

def lifecycleMethods (baseError : String) : List FunctionDecl :=
  [{ name := "__init__"
     params := [selfParam, param "base_url" "str | None" (some "None"),
       param "client" "httpx.AsyncClient | None" (some "None"), param "timeout" "float" (some "30.0")]
     body := [
       "self.base_url = (base_url or os.environ.get(BASE_URL_ENV) or \"\").rstrip(\"/\")",
       "if not self.base_url:",
       "    raise " ++ baseError ++ "(f\"No base URL given and \x7bBASE_URL_ENV\x7d is not set\")",
       "self._client = client or httpx.AsyncClient(timeout=httpx.Timeout(timeout))",
       "self._owns_client = client is None"] },
   { name := "__aenter__", params := [selfParam], body := ["return self"], isAsync := true },
   { name := "__aexit__"
     params := [selfParam, { name := "exc_type" }, { name := "exc_val" }, { name := "exc_tb" }]
     body := ["if self._owns_client:", "    await self._client.aclose()"]
     isAsync := true },
   { name := "_send"
     params := [selfParam, param "operation" "str" none, param "method" "str" none,
       param "path" "str" none, param "expected_status" "int" none,
       param "params" "dict[str, Any] | None" (some "None"),
       param "headers" "dict[str, str] | None" (some "None"), param "json_body" "Any" (some "None")]
     returns := some "httpx.Response"
     isAsync := true
     body := [
       "try:",
       "    response = await self._client.request(",
       "        method, f\"\x7bself.base_url\x7d\x7bpath\x7d\", params=params, headers=headers, json=json_body",
       "    )",
       "except httpx.HTTPError as exc:",
       "    raise TransportError(f\"\x7boperation\x7d failed: \x7bexc\x7d\") from exc",
       "if response.status_code != expected_status:",
       "    raise UnexpectedStatusError(operation, response.status_code, response.text)",
       "return response"] }]

def helpers : List FunctionDecl :=
  [{ name := "_quote"
     params := [param "value" "Any" none, param "greedy" "bool" (some "False")]
     returns := some "str"
     docstring := some "URL-quote a path label; greedy labels keep their slashes."
     body := ["return quote(str(value), safe=\"/\" if greedy else \"\")"] },
   { name := "_compact"
     params := [param "values" "dict[str, Any]" none]
     returns := some "dict[str, Any]"
     body := ["return \x7bkey: value for key, value in values.items() if value is not None\x7d"] },
   { name := "_response_json"
     params := [param "operation" "str" none, param "response" "httpx.Response" none]
     returns := some "dict[str, Any]"
     body := [
       "if not response.content:",
       "    return \x7b\x7d",
       "try:",
       "    return response.json()",
       "except ValueError as exc:",
       "    raise TransportError(f\"\x7boperation\x7d returned invalid JSON: \x7bexc\x7d\") from exc"] }]

def client (opts : Options) (appName : String) (s : Service) : Document :=
  let baseError := clientName s ++ "Error"
  let imports : Imports := {}
  let imports := imports.add "__future__" ["annotations"]
  let imports := imports.add "os" []
  let imports := imports.add "typing" ["Any"]
  let imports := imports.add "urllib.parse" ["quote"]
  let imports := imports.add "httpx" []
  let imports := addTypes s imports
  { opts.document (opts.moduleName "client" s.name ++ "_client") .client
      ("Async HTTP client for " ++ s.name ++ " " ++ s.version.display .plain ++ ".") with
    imports
    constants := ["BASE_URL_ENV = " ++ Text.quoted (addressVariable appName s)]
    declarations := errorClasses baseError ++ [{
      name := clientName s
      docstring := some ((present s.documentation).getD ("Client for " ++ s.name ++ "."))
      methods := lifecycleMethods baseError ++ s.operations.map callMethod }]
    functions := helpers }

/-- The client, if the model has a service; its application name has to be a text. -/
def artifacts (m : Model) (opts : Options) : Except Fault (List Artifact) :=
  match m.service with
  | none => .ok []
  | some s => do
    match ← opts.requireAppName with
    | .str appName => return [← opts.render (client opts appName s)]
    | _ => throw .wrongType

end SmithyGen.Emit.Client
