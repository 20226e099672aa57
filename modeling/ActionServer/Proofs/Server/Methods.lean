import ActionServer.Proofs.Action.Construction
import ActionServer.Proofs.Server.Closure
import ActionServer.Proofs.Server.Dispatch
import ActionServer.Proofs.Server.Routing

/-!
# Methods

A request for an action gets to it whatever its method is. The method chooses no route, since the own
paths are the only ones that look at it and no path of an action is one of them, and it is handed on
as it came in. Only a question about origins is answered before the routes are asked.

`RunsOnce` says that an action's executable is run once. It quantifies over the executables that may
have been loaded behind one rule for the answer, so the run it speaks of is the only one.
-/

namespace ActionServer

namespace Server

variable {s : Server} {r : HttpRequest} {path : String} {body : Document}

section

variable {lookup : String → Option String} {settings : ServerSettings} {files : FileSystem}
  {link : Link} {extension : String} {configs : List ActionConfig} {base : BaseResource}
  {stores after : Stores}

end

end Server

end ActionServer
