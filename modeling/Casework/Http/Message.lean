import Casework.Http.Status
import Casework.Record.Answer

set_option autoImplicit false

namespace Casework.Http

inductive Method where
  | get
  -- A request for the status alone of the response to `get`.
  | head
  | post
  | other
deriving DecidableEq, Repr

def Method.ofText : String → Method
  | "GET" => .get
  | "HEAD" => .head
  | "POST" => .post
  | _ => .other

structure Request where
  method : Method
  -- The path, and perhaps a query that is not looked at.
  target : String
  contentType : Option String
  body : String
deriving DecidableEq, Repr

inductive Content where
  | empty
  | json (value : Json)
  | csv (fileName text : String)

def Content.type? : Content → Option String
  | .empty => none
  | .json _ => some "application/json"
  | .csv _ _ => some "text/csv; charset=utf-8"

def Content.disposition? : Content → Option String
  | .csv fileName _ => some ("attachment; filename=\"" ++ fileName ++ "\"")
  | _ => none

structure Response where
  status : Nat
  content : Content

namespace Response

def json (status : Nat) (value : Json) : Response := ⟨status, .json value⟩

def problem (status : Nat) (message : String) : Response :=
  .json status (.object [("error", .text message)])

def withoutContent (response : Response) : Response := { response with content := .empty }

end Response

def pageUnavailable : String := "This page is no longer available"

def Response.ofError (error : CaseError) : Response :=
  match error with
  | .flow _ => .problem error.httpStatus pageUnavailable
  | .validation errors =>
    .json error.httpStatus
      (.object [("error", .text error.message), ("fields", errors.toJson)])
  | _ => .problem error.httpStatus error.message

end Casework.Http
