import HomeAutomation.Http.Message

/-!
# Endpoints

What a request asks for, by its path and method. A path may fit several endpoints; the first one
with the method of the request is meant (`Endpoint.find`). The last fixed word of a path may be
followed by a line break.
-/

namespace HomeAutomation

inductive Endpoint where
  | health
  | list
  | compile
  | create
  | update (id : String)
  | delete (id : String)
  | setState (id : String)
  deriving DecidableEq, Repr

inductive Lookup where
  | found (endpoint : Endpoint)
  | wrongMethod
  | unknown
  deriving DecidableEq, Repr

namespace Endpoint

def method : Endpoint → String
  | health | list => "GET"
  | compile | create | setState _ => "POST"
  | update _ => "PUT"
  | delete _ => "DELETE"

/-- What has to hold before an endpoint is served. -/
inductive Guard where
  | secret
  deriving DecidableEq, Repr

/-- The guards of each endpoint, in the order in which they are asked. -/
def guards : Endpoint → List Guard
  | health => []
  | list => [.secret]
  | compile => [.secret]
  | create => [.secret]
  | update _ => [.secret]
  | delete _ => [.secret]
  | setState _ => [.secret]

def isEnd (word : String) (segment : List Char) : Bool :=
  segment == word.toList || segment == word.toList ++ ['\n']

def ofRoot (segment : List Char) : List Endpoint :=
  if isEnd "health" segment then [health]
  else if isEnd "automations" segment then [list, create]
  else []

def ofId (segment : List Char) : List Endpoint :=
  let id := String.ofList segment
  (if isEnd "compile" segment then [compile] else []) ++
    (if segment.isEmpty then [] else [update id, delete id])

/-- The endpoints of a path, in order of preference. -/
def ofPath (path : List Char) : List Endpoint :=
  match (path.splitOn '/').map String.ofList with
  | ["", "api", root] => ofRoot root.toList
  | ["", "api", "automations", id] => ofId id.toList
  | ["", "api", "automations", id, last] =>
    if !id.isEmpty && isEnd "state" last.toList then [setState id] else []
  | _ => []

def find (method : String) (path : List Char) : Lookup :=
  let endpoints := ofPath path
  match endpoints.find? (·.method == method) with
  | some endpoint => .found endpoint
  | none => if endpoints.isEmpty then .unknown else .wrongMethod

end Endpoint

end HomeAutomation
