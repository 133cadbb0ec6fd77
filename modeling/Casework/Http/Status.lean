import Casework.Case.Error

set_option autoImplicit false

namespace Casework

-- The status of a refusal: what the state of the case forbids is 403, and failures inside are 500.
def CaseError.httpStatus : CaseError → Nat
  | .flow _ => 403
  | .validation _ => 422
  | .repository (.notFound _) => 404
  | .repository (.conflict _) => 409
  | .invalid _ => 400
  | .repository .unavailable | .pack _ | .reference _ | .chief _ | .search _ => 500

end Casework
