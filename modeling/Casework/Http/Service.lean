import Casework.Http.Route

set_option autoImplicit false

namespace Casework.Http

def Route.of? (path : List String) : Option Route := Route.all.find? (·.admits path)

-- What a request asks for. It is refused for its path, its method, what its path names, its body
-- and its case type, in this order.
def Request.plan (request : Request) : Except Refusal Plan :=
  match Target.segments? request.target with
  | none => .error .unknownPath
  | some path =>
    match Route.of? path with
    | none => .error .unknownPath
    | some route =>
      if !route.allows request.method then .error .wrongMethod
      else
        match Place.ofPath? route.pattern path with
        | none => .error .badParameter
        | some place => route.handler place request

def answer (system : System) (setting : Setting) (request : Request) : Response × System :=
  match request.plan with
  | .error refusal => (refusal.response, system)
  | .ok plan =>
    match system.perform setting plan.operation with
    | (.ok value, after) => (plan.respond value, after)
    | (.error error, after) => (.ofError error, after)

def respond (system : System) (setting : Setting) (request : Request) : Response × System :=
  let (response, after) := answer system setting request
  (if request.method = .head then response.withoutContent else response, after)

end Casework.Http
