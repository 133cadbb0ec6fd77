import Casework.Http.Input
import Casework.Http.Target

set_option autoImplicit false

namespace Casework.Http

open Text (natural? largestWord)

inductive Segment where
  | word (text : String)
  | caseType
  | id
  | entry
deriving DecidableEq, Repr

structure Place where
  caseType : String
  id : Nat
  entry : Nat
deriving DecidableEq, Repr

namespace Segment

def admits : Segment → String → Bool
  | .word expected, text => text == expected
  | _, _ => true

def name? (place : Place) (segment : Segment) (text : String) : Option Place :=
  match segment with
  | .word _ => some place
  | .caseType => (Target.unescaped? text).map fun caseType => { place with caseType }
  | .id =>
    ((Target.unescaped? text).bind (natural? largestWord)).map fun id => { place with id }
  | .entry =>
    ((Target.unescaped? text).bind (natural? largestWord)).map fun entry => { place with entry }

end Segment

namespace Place

def nowhere : Place := ⟨"", 0, 0⟩

def ofPath? (pattern : List Segment) (path : List String) : Option Place :=
  (pattern.zip path).foldlM (fun place (segment, text) => segment.name? place text) nowhere

def knownCaseType (place : Place) : Except Refusal CaseType :=
  match CaseType.ofCode? place.caseType with
  | some caseType => .ok caseType
  | none => .error .unknownCaseType

end Place

structure Plan where
  operation : Operation
  respond : Answer → Response

namespace Plan

def answering (status : Nat) (operation : Operation) : Plan :=
  ⟨operation, fun answer => .json status answer.toJson⟩

def silent (operation : Operation) : Plan := ⟨operation, fun _ => ⟨204, .empty⟩⟩

def about (id : Nat) (operation : Operation) (name : String) (result : Answer → Json) : Plan :=
  ⟨operation, fun answer =>
    .json 200 (.object [("application_id", .integer id), (name, result answer)])⟩

def saving (caseType : CaseType) (operation : Operation) : Plan :=
  ⟨operation, fun answer =>
    match answer with
    | .spreadsheet text => ⟨200, .csv (caseType.code ++ "-search-results.csv") text⟩
    | _ => ⟨200, .empty⟩⟩

end Plan

abbrev Handler := Place → Request → Except Refusal Plan

structure Route where
  method : Method
  pattern : List Segment
  handler : Handler

namespace Route

def admits (route : Route) (path : List String) : Bool :=
  route.pattern.length == path.length && path.getLast? != some "" &&
    (route.pattern.zip path).all fun (segment, text) => segment.admits text

def allows (route : Route) (method : Method) : Bool :=
  method == route.method || (method == .head && route.method == .get)

def root : List Segment := [.word "api", .word "v1"]

def onCases {α : Type} (below : List String) (form : Codec α)
    (plan : CaseType → α → Except Refusal Plan) : Route where
  method := .post
  pattern := root ++ [.word "case", .caseType] ++ below.map .word
  handler place request := do
    -- The body is read before the case type is looked at.
    let value ← request.read form
    plan (← place.knownCaseType) value

def casePattern (below : List Segment) : List Segment :=
  root ++ [.word "case", .caseType, .id] ++ below

def onCase (below : List String) (plan : CaseType → Nat → Plan) : Route where
  method := .post
  pattern := casePattern (below.map .word)
  handler place _ := do
    pure (plan (← place.knownCaseType) place.id)

def onCaseWith {α : Type} (below : List String) (form : Codec α)
    (plan : CaseType → Nat → α → Plan) : Route where
  method := .post
  pattern := casePattern (below.map .word)
  handler place request := do
    -- As above, a fault of the body comes first.
    let value ← request.read form
    pure (plan (← place.knownCaseType) place.id value)

def onEntry (entries action : String) (operation : CaseType → Nat → Nat → Operation) : Route where
  method := .post
  pattern := casePattern [.word entries, .entry, .word action]
  handler place _ := do
    pure (.answering 200 (operation (← place.knownCaseType) place.id place.entry))

def chiefPattern (below : List Segment) : List Segment := root ++ [.word "chief"] ++ below

def onLicences (name : String) (operation : Operation) : Route where
  method := .get
  pattern := chiefPattern [.word name]
  handler _ _ := .ok (.answering 200 operation)

def onLicence (action : String) (plan : Nat → Plan) : Route where
  method := .post
  pattern := chiefPattern [.id, .word action]
  handler place _ := .ok (plan place.id)

def onRejection : Route where
  method := .post
  pattern := chiefPattern [.id, .word "reject"]
  handler place request := do
    let errors ← request.read Input.rejection
    pure (.about place.id (.rejectLicence place.id errors) "result" fun _ => .text "rejected")

def view : Route :=
  { onCase [] fun caseType id => .answering 200 (.view caseType id) with method := .get }

def creation : Route :=
  onCases ["applications"] Input.creation fun caseType form =>
    if form.draft.processType.caseType = caseType then
      .ok (.answering 201 (.create form.user form.draft))
    else .error (.otherApplication form.draft.processType caseType)

def searching (below : List String) (plan : CaseType → Input.Search → Plan) : Route :=
  onCases below Input.search fun caseType form =>
    if form.terms.caseType = caseType then .ok (plan caseType form)
    else .error (.otherTerms caseType)

def reassignment : Route :=
  onCases ["reassign"] Input.reassignment fun caseType form =>
    .ok ⟨.reassign caseType form.ids form.owner, fun answer =>
      .json 200 (.object [("reassigned", answer.toJson)])⟩

def ofCases : List Route :=
  [creation,
    searching ["search"] fun _ form => .answering 200 (.search form.terms form.limit),
    searching ["search", "download"] fun caseType form =>
      .saving caseType (.spreadsheet form.terms),
    reassignment]

def ofApplicant : List Route :=
  [view,
    onCaseWith ["edit"] .goods fun caseType id goods => .answering 200 (.edit caseType id goods),
    onCase ["cancel"] fun caseType id => .silent (.cancel caseType id),
    onCaseWith ["submit"] Input.actor fun caseType id user =>
      .answering 200 (.submit caseType id user),
    onCaseWith ["withdraw"] Input.withdrawalReason fun caseType id form =>
      .answering 200 (.requestWithdrawal caseType id form.user form.reason)]

def ofCaseworker : List Route :=
  [onCaseWith ["take-ownership"] Input.actor fun caseType id user =>
      .answering 200 (.takeOwnership caseType id user),
    onCase ["release-ownership"] fun caseType id =>
      .answering 200 (.releaseOwnership caseType id),
    onCaseWith ["checklist"] .checklist fun caseType id checklist =>
      .answering 200 (.completeChecklist caseType id checklist),
    onCaseWith ["licence"] .licenceUpdate fun caseType id changes =>
      .answering 200 (.editLicence caseType id changes),
    onCaseWith ["decision"] .decisionInput fun caseType id input =>
      .answering 200 (.decide caseType id input),
    onCaseWith ["start-authorisation"] Input.actor fun caseType id user =>
      .answering 200 (.startAuthorisation caseType id user),
    onCaseWith ["authorise-documents"] Input.actor fun caseType id user =>
      .answering 200 (.authoriseDocuments caseType id user),
    onCase ["documents-signed"] fun caseType id => .answering 200 (.documentsSigned caseType id),
    onCase ["documents-failed"] fun caseType id => .answering 200 (.documentsFailed caseType id),
    onCase ["retry-signing"] fun caseType id => .answering 200 (.retrySigning caseType id),
    onCaseWith ["withdraw", "response"] Input.withdrawalReply fun caseType id form =>
      .answering 200 (.respondToWithdrawal caseType id form.user form.accept form.answer),
    onCase ["stop"] fun caseType id => .answering 200 (.stop caseType id),
    onCase ["reopen"] fun caseType id => .answering 200 (.reopen caseType id),
    onCaseWith ["revoke"] .revokeInput fun caseType id input =>
      .answering 200 (.revoke caseType id input),
    onCaseWith ["request-variation"] Input.variation fun caseType id form =>
      .answering 200 (.requestVariation caseType id form.user form.whatVaried)]

def ofCorrespondence : List Route :=
  [onCaseWith ["further-information-requests"] Input.subject fun caseType id subject =>
      .answering 201 (.addInformationRequest caseType id subject),
    onEntry "further-information-requests" "respond" .respondToInformationRequest,
    onEntry "further-information-requests" "close" .closeInformationRequest,
    onCaseWith ["update-requests"] Input.subject fun caseType id subject =>
      .answering 201 (.addUpdateRequest caseType id subject),
    onEntry "update-requests" "start" .startUpdate,
    onEntry "update-requests" "close" .closeUpdateRequest,
    onCaseWith ["case-emails"] Input.recipient fun caseType id recipient =>
      .answering 201 (.addEmail caseType id recipient),
    onEntry "case-emails" "close" .closeEmail]

def ofChief : List Route :=
  [onLicences "pending" .pendingLicences,
    onLicences "failed" .failedLicences,
    onLicence "approve" fun id =>
      .about id (.approveLicence id) "result" fun _ => .text "approved",
    onRejection,
    onLicence "resend" fun id => .about id (.resendLicence id) "task" Answer.toJson,
    onLicence "revert" fun id => .silent (.revertLicence id)]

-- All routes. Where several admit a path, the first is meant.
def all : List Route := ofCases ++ ofApplicant ++ ofCaseworker ++ ofCorrespondence ++ ofChief

end Route

end Casework.Http
