import SessionRegistry.Console.Endpoint
import SessionRegistry.Console.Parameter

/-!
# Requests and responses

Which endpoint a request reaches and what it gets back. A request names a target; its path is
compared letter by letter, and its query is form data. Success and failure travel in the JSON body,
with the status of the response beside it. Requests that ask which methods are allowed are answered
at once, whatever they are about.
-/

namespace SessionRegistry

/-- A request without a body. -/
structure Request where
  method : Method
  /-- What the request is about: a path, with a query and a fragment if there are any. A scheme and
  a host may stand before the path. A host without a scheme, and an asterisk for the server as a
  whole, are targets too. -/
  target : String
  deriving DecidableEq, Repr, Inhabited

namespace Request

/-- What follows the scheme and the host of a target. Behind a scheme a host alone stands for its
root; without a scheme a host has no path at all. -/
def withoutHost (target : List Char) : List Char :=
  match target with
  | '/' :: _ | ['*'] => target
  | _ =>
    match target.dropWhile (· != ':') with
    | ':' :: '/' :: '/' :: rest =>
      match rest.dropWhile (fun c => c != '/' && c != '?') with
      | '/' :: path => '/' :: path
      | query => '/' :: query
    | _ => []

/-- The target without fragment, scheme and host. -/
def location (request : Request) : List Char :=
  withoutHost (request.target.toList.takeWhile (· != '#'))

/-- The path of a request, as it is written. -/
def path (request : Request) : String :=
  String.ofList (request.location.takeWhile (· != '?'))

/-- The query of a request. A request without one has an empty query. -/
def query (request : Request) : String :=
  String.ofList ((request.location.dropWhile (· != '?')).drop 1)

end Request

/-- The body of a response. -/
inductive Body where
  | empty
  | text (s : String)
  | json (value : Json)
  deriving Inhabited

/-- A response. -/
structure Response where
  status : Nat
  /-- The methods that may be used instead. -/
  allowed : Option String := none
  contentType : Option String := none
  body : Body := .empty
  deriving Inhabited

namespace Response

/-- Pages of any origin may read a response. -/
def allowedOrigin : String := "*"

/-- The headers of a response. -/
def headers (response : Response) : List (String × String) :=
  response.contentType.toList.map (fun type => ("content-type", type))
    ++ response.allowed.toList.map (fun methods => ("allow", methods))
    ++ [("access-control-allow-origin", allowedOrigin)]

/-- A response in JSON. -/
def json (status : Nat) (value : Json) : Response where
  status
  contentType := some "application/json"
  body := .json value

/-- The response to an action. -/
def ofResult : Except Error Answer → Response
  | .ok answer => json 200 answer.toJson
  | .error e => json e.kind.httpStatus e.toJson

/-- The response to a request that gives a parameter twice. -/
def duplicate (parameter : Parameter) : Response where
  status := 400
  contentType := some "text/plain; charset=utf-8"
  body := .text s!"Failed to deserialize query string: duplicate field \x60{parameter.name}\x60"

/-- The response to a request for the allowed methods. -/
def options (endpoint : Option Endpoint) : Response where
  status := 200
  allowed := endpoint.map Endpoint.allowed

/-- The response to a request with a method that the endpoint does not take. -/
def wrongMethod (endpoint : Endpoint) : Response where
  status := 405
  allowed := some endpoint.allowed

/-- The response to a request that reaches no endpoint. -/
def unknownPath (path : String) : Response :=
  ofResult (.error (.notFound (.route path)))

/-- The response as an endpoint gives it to a request of the given method. -/
def forMethod (method : Method) (response : Response) : Response :=
  if method = .head then { response with body := .empty } else response

end Response

namespace Endpoint

/-- Answer a request with the given fields. -/
def serve (limit : UInt32) (endpoint : Endpoint) (fields : List (String × String)) :
    StateM Store Response :=
  match Parameters.ofFields endpoint.parameters fields with
  | .error parameter => return .duplicate parameter
  | .ok ps => do
    let result ← (do (← Store.answer (endpoint.action ps)).perform limit : StoreM Answer).run
    return .ofResult result

end Endpoint

/-- Answer a request. No page of a listing has more rows than the limit. -/
def Request.serve (limit : UInt32) (request : Request) : StateM Store Response :=
  let endpoint := Endpoint.ofPath? request.path
  -- asking for the methods is never refused, not even for an unknown path
  if request.method = .options then return .options endpoint
  else
    match endpoint with
    | none => return .unknownPath request.path
    | some endpoint =>
      if request.method ∈ endpoint.methods then do
        return (← endpoint.serve limit (Form.parse request.query)).forMethod request.method
      else return .wrongMethod endpoint

end SessionRegistry
