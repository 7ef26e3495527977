import HomeAutomation.Backend.Transport
import HomeAutomation.Text.Part

/-!
# Scripted transports

A script is a list of routes. A request takes the first route that fits it and is not used up; when
there is none, there is no connection.
-/

namespace HomeAutomation

open Text

structure Route where
  /-- The method; `*` for any. -/
  method : String
  url : String
  /-- How many more requests get the answer; none for no limit. -/
  uses : Option Int
  reply : Reply

namespace Route

def fits (request : Request) (route : Route) : Bool :=
  (route.method == "*" || route.method == request.method) && beginsWith route.url request.url &&
    route.uses.all (0 < ·)

def used (route : Route) : Route :=
  { route with uses := route.uses.map (· - 1) }

end Route

abbrev Script := List Route

namespace Script

def noRoute (request : Request) : Reply :=
  .error ⟨.noConnection, "no route for " ++ request.method ++ " " ++ request.url⟩

def answer : Script → Request → Reply × Script
  | [], request => (noRoute request, [])
  | route :: rest, request =>
    if route.fits request then (route.reply, route.used :: rest)
    else
      let (reply, rest) := answer rest request
      (reply, route :: rest)

end Script

end HomeAutomation
