import Casework.Record.Search
import Casework.Operation.Basic

set_option autoImplicit false

namespace Casework

def FieldErrors.toJson (errors : FieldErrors) : Json :=
  .object (errors.entries.map fun (name, messages) => (name, .ofTexts messages))

def CaseView.toJson (view : CaseView) : Json :=
  .object
    [("application", Codec.application.encode view.application),
      ("status_label", .text view.application.status.label),
      ("active_tasks", Codec.taskType.list.encode view.activeTasks),
      ("draft", Codec.pack.option.encode view.draft),
      ("issued", Codec.pack.list.encode view.issued),
      ("documents", Codec.document.list.encode view.documents)]

def Answer.toJson : Answer → Json
  | .nothing => .null
  | .application value => Codec.application.encode value
  | .view value => value.toJson
  | .pack value => Codec.pack.encode value
  | .ids values => Codec.id.list.encode values
  | .informationRequest value => Codec.informationRequest.encode value
  | .updateRequest value => Codec.updateRequest.encode value
  | .email value => Codec.caseEmail.encode value
  | .taskType value => Codec.taskType.encode value
  | .applications values => Codec.application.list.encode values
  | .results value => value.toJson
  | .spreadsheet text => .text text

end Casework
