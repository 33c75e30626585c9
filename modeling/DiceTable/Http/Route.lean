import DiceTable.Http.Target
import DiceTable.Text.Uppercase

/-! # Requests and their routes

What counts of the target of a request is its decoded path. A known path with another method is told
apart from an unknown path.
-/

namespace DiceTable.Http

/-- A request, its method in either case and its target as it is written. -/
structure Request where
  method : String
  target : String
  body : List UInt8 := []
  deriving DecidableEq, Repr

/-- The method of a request in upper case. -/
def Request.verb (request : Request) : String :=
  Text.upper request.method

inductive Route where
  | health
  | config
  | roll
  | reroll (id : String)
  | lookup (id : String)
  | forget (id : String)
  | unknownPath
  | wrongMethod
  deriving DecidableEq, Repr

/-- The path without one line feed at its end, which a fixed path may have. -/
def dropFinalLineFeed (path : List Char) : List Char :=
  if path.getLast? = some '\n' then path.dropLast else path

def forMethod (method wanted : String) (route : Route) : Route :=
  if method = wanted then route else .wrongMethod

/-- The route of a path whose last piece is fixed. -/
def fixedRoute? (method : String) (path : List Char) : Option Route :=
  match (Target.segments (dropFinalLineFeed path)).map String.ofList with
  | ["", "health"] => some (forMethod method "GET" .health)
  | ["", "api", "v1", "config"] => some (forMethod method "GET" .config)
  | ["", "api", "v1", "roll"] => some (forMethod method "POST" .roll)
  | ["", "api", "v1", "rolls", id, "reroll"] =>
    if id = "" then none else some (forMethod method "POST" (.reroll id))
  | _ => none

/-- The route of a path that ends in an id. -/
def idRoute? (method : String) (path : List Char) : Option Route :=
  match (Target.segments path).map String.ofList with
  | ["", "api", "v1", "rolls", id] =>
    if id = "" then none
    else if method = "DELETE" then some (.forget id)
    else some (forMethod method "GET" (.lookup id))
  | _ => none

def route (request : Request) : Route :=
  let path := (Target.ofChars request.target.toList).decodedPath
  let method := request.verb
  ((fixedRoute? method path).or (idRoute? method path)).getD .unknownPath

end DiceTable.Http
