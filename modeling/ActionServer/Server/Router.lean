import ActionServer.Server.Origins
import ActionServer.Server.Settings

/-!
# The router

Before a server answers anything, its router is put together: first what is said about origins, then
one route after the other. A list with an origin that stands for all origins is not taken, and a
route is not taken twice; the server then breaks down instead of reporting an error.
-/

namespace ActionServer

structure Router where
  /-- The origins from which browsers may call. -/
  origins : List String
  routes : List String
  deriving DecidableEq, Repr

namespace Router

/-- A router without routes. -/
def new (origins : List String) : Option Router :=
  if Origins.isUsable origins then some ⟨origins, []⟩ else none

/-- Adds a route, which must not be there yet. -/
def add (r : Router) (route : String) : Option Router :=
  if r.routes.contains route then none else some { r with routes := r.routes ++ [route] }

/-- The routes of a server: its own paths, the prefix of the actions and what goes on from it. -/
def routesFor (routePrefix : String) : List String :=
  ["/health", "/actions", routePrefix, routePrefix ++ "/\x7b*name\x7d"]

/-- The router that settings ask for. -/
def build (s : ServerSettings) : Option Router := do
  let r ← new s.corsOrigins
  (routesFor s.actions.routePrefix).foldlM add r

end Router

end ActionServer
