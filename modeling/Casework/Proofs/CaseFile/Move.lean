import Casework.Proofs.CaseFile.Basic
import Casework.Operation.Basic

set_option autoImplicit false

namespace Casework

open Calendar

def Withdrawal.asked (id : Nat) (user : User) (reason : String) : Withdrawal :=
  { id, status := .opened, reason, requestedBy := user.id, answeredBy := none, answer := none }

def VariationRequest.asked (id : Nat) (user : User) (whatVaried : String) (now : Instant) :
    VariationRequest :=
  { id, status := .opened, whatVaried, requestedBy := user.id, requestedAt := now
    closedAt := none, rejectionReason := none }

namespace Application

def taken (application : Application) (user : User) : Application :=
  { application with
    status := if application.status = .submitted then .processing else application.status
    owner := some user }

def released (application : Application) : Application :=
  { application with
    status :=
      if application.status = .variationRequested then application.status else .submitted
    owner := none }

def authorising (application : Application) (licenceNumber : Option Nat) : Application :=
  { application with
    status :=
      if application.status = .variationRequested then application.status else .processing
    licenceNumber }

def varied (application : Application) (variation : VariationRequest) : Application :=
  { application with
    variations := application.variations ++ [variation], status := .variationRequested
    variationDecision := none, variationRefuseReason := none, owner := none }

end Application

inductive Edit (context : Context) (id : Nat) : Operation → CaseFile → Application → Prop where
  | goods {file : CaseFile} {caseType : CaseType} {goods : Goods}
      (kind : file.application.caseType = caseType) (editing : file.Editing)
      (suited : goods.suits file.application.processType = true) :
      Edit context id (.edit caseType id goods) file { file.application with goods }
  | takeOwnership {file : CaseFile} {caseType : CaseType} {user : User} {task : Task}
      (kind : file.application.caseType = caseType)
      (current : file.Current [.submitted, .variationRequested] .process task)
      (started : file.application.isImport = true →
        ∃ draft, file.packs.filter (Pack.isIn .draft) = [draft] ∧ draft.startDate.isSome = true) :
      Edit context id (.takeOwnership caseType id user) file (file.application.taken user)
  | releaseOwnership {file : CaseFile} {caseType : CaseType} {task : Task}
      (kind : file.application.caseType = caseType)
      (current : file.Current openStates .process task) :
      Edit context id (.releaseOwnership caseType id) file file.application.released
  | reassign {file : CaseFile} {caseType : CaseType} {ids : List Nat} {owner : User}
      (kind : file.application.caseType = caseType) (member : id ∈ ids)
      (stage : file.application.status ∈ processingStates) :
      Edit context id (.reassign caseType ids owner) file
        { file.application with owner := some owner }
  | checklist {file : CaseFile} {caseType : CaseType} {checklist : Checklist} {task : Task}
      (kind : file.application.caseType = caseType)
      (current : file.Current processingStates .process task)
      (listed : file.application.terms.hasChecklist = true) :
      Edit context id (.completeChecklist caseType id checklist) file
        { file.application with checklist := some checklist }
  | decision {file : CaseFile} {caseType : CaseType} {input : DecisionInput} {task : Task}
      {reason : Option String} (kind : file.application.caseType = caseType)
      (current : file.Current processingStates .process task)
      (reasoned : match input.decision with
        | .approve => reason = none
        | .refuse => ∃ text, input.refuseReason = some text ∧ Text.isBlankText text = false ∧
          reason = some text) :
      Edit context id (.decide caseType id input) file
        (file.application.withDecision input.decision reason)
  | withdrawal {file : CaseFile} {caseType : CaseType} {user : User} {reason : String}
      {record : Nat}
      (kind : file.application.caseType = caseType)
      (stage : file.application.status ∈ openStates)
      (free : file.application.withdrawals.any (·.isOpen) = false) :
      Edit context id (.requestWithdrawal caseType id user reason) file
        { file.application with
          withdrawals := file.application.withdrawals ++ [.asked record user reason] }
  | informationRequest {file : CaseFile} {caseType : CaseType} {subject : String} {task : Task}
      (kind : file.application.caseType = caseType)
      (current : file.Current processingStates .process task) :
      Edit context id (.addInformationRequest caseType id subject) file
        { file.application with
          informationRequests := file.application.informationRequests ++
            [⟨file.application.informationRequests.length + 1, .opened, subject⟩] }
  | informationResponse {file : CaseFile} {caseType : CaseType} {entry : Nat}
      {request : InformationRequest} (kind : file.application.caseType = caseType)
      (stage : file.application.status ∈ openStates)
      (found : file.application.informationRequests.find? (·.id == entry) = some request)
      (opened : request.status = .opened) :
      Edit context id (.respondToInformationRequest caseType id entry) file
        { file.application with
          informationRequests := changeFirst (·.id == entry) ({ · with status := .responded })
            file.application.informationRequests }
  | informationClosed {file : CaseFile} {caseType : CaseType} {entry : Nat} {task : Task}
      {request : InformationRequest} (kind : file.application.caseType = caseType)
      (current : file.Current processingStates .process task)
      (found : file.application.informationRequests.find? (·.id == entry) = some request)
      (closable : request.status = .opened ∨ request.status = .responded) :
      Edit context id (.closeInformationRequest caseType id entry) file
        { file.application with
          informationRequests := changeFirst (·.id == entry) ({ · with status := .closed })
            file.application.informationRequests }
  | startUpdate {file : CaseFile} {caseType : CaseType} {entry : Nat} {request : UpdateRequest}
      (kind : file.application.caseType = caseType)
      (stage : file.application.status ∈ openStates)
      (found : file.application.updateRequests.find? (·.id == entry) = some request)
      (opened : request.status = .opened) :
      Edit context id (.startUpdate caseType id entry) file
        { file.application with
          updateRequests := changeFirst (·.id == entry) ({ · with status := .inProgress })
            file.application.updateRequests }
  | closeUpdate {file : CaseFile} {caseType : CaseType} {entry : Nat} {task : Task}
      {request : UpdateRequest} (kind : file.application.caseType = caseType)
      (current : file.Current processingStates .process task)
      (found : file.application.updateRequests.find? (·.id == entry) = some request)
      (responded : request.status = .responded) :
      Edit context id (.closeUpdateRequest caseType id entry) file
        { file.application with
          updateRequests := changeFirst (·.id == entry) ({ · with status := .closed })
            file.application.updateRequests }
  | email {file : CaseFile} {caseType : CaseType} {recipient : String} {task : Task}
      (kind : file.application.caseType = caseType)
      (current : file.Current processingStates .process task) :
      Edit context id (.addEmail caseType id recipient) file
        { file.application with
          emails := file.application.emails ++
            [⟨file.application.emails.length + 1, .opened, recipient⟩] }
  | emailClosed {file : CaseFile} {caseType : CaseType} {entry : Nat} {task : Task}
      {email : CaseEmail} (kind : file.application.caseType = caseType)
      (current : file.Current processingStates .process task)
      (found : file.application.emails.find? (·.id == entry) = some email)
      (closable : email.status = .opened ∨ email.status = .responded) :
      Edit context id (.closeEmail caseType id entry) file
        { file.application with
          emails := changeFirst (·.id == entry) ({ · with status := .closed })
            file.application.emails }

namespace Edit

variable {context : Context} {id : Nat} {operation : Operation} {file : CaseFile}
  {application : Application}

theorem processType_eq (edit : Edit context id operation file application) :
    application.processType = file.application.processType := by
  cases edit with
  | decision => unfold Application.withDecision; split <;> rfl
  | _ => rfl

theorem reference_eq (edit : Edit context id operation file application) :
    application.reference = file.application.reference := by
  cases edit with
  | decision => unfold Application.withDecision; split <;> rfl
  | _ => rfl

theorem status_cases (edit : Edit context id operation file application) :
    application.status = file.application.status ∨
      (file.application.status ∈ openStates ∧ application.status ∈ openStates) := by
  cases edit with
  | takeOwnership _ current =>
    have stage := current.status
    simp only [List.mem_cons, List.not_mem_nil, or_false] at stage
    rcases stage with stage | stage <;> simp [Application.taken, stage, openStates]
  | releaseOwnership _ current =>
    have stage := current.status
    simp only [openStates, List.mem_cons, List.not_mem_nil, or_false] at stage
    rcases stage with stage | stage | stage <;> simp [Application.released, stage, openStates]
  | decision => exact .inl (by unfold Application.withDecision; split <;> rfl)
  | _ => exact .inl rfl

end Edit

/-- What an operation does to the file of a case. New records take numbers above all others. -/
inductive Move (context : Context) (id : Nat) : Operation → CaseFile → CaseFile → Prop where
  | edit {operation : Operation} {file : CaseFile} {application : Application}
      (edit : Edit context id operation file application) :
      Move context id operation file (file.put application)
  | startLicence {file : CaseFile} {caseType : CaseType} {user : User} {task : Task} {draft : Pack}
      (kind : file.application.caseType = caseType)
      (current : file.Current [.submitted, .variationRequested] .process task)
      (imported : file.application.isImport = true)
      (only : file.packs.filter (Pack.isIn .draft) = [draft]) (unset : draft.startDate = none) :
      Move context id (.takeOwnership caseType id user) file
        ((file.changePack draft.id (·.update ⟨some context.now.date, none, none⟩)).put
          (file.application.taken user))
  | editLicence {file : CaseFile} {caseType : CaseType} {changes : LicenceUpdate} {task : Task}
      {draft : Pack} (kind : file.application.caseType = caseType)
      (imported : file.application.isImport = true)
      (current : file.Current processingStates .process task)
      (supported : (changes.paperOnly.map file.application.terms.supports).getD true = true)
      (only : file.packs.filter (Pack.isIn .draft) = [draft])
      (ordered : Work.datesInOrder (draft.update changes).startDate
        (draft.update changes).endDate = true) :
      Move context id (.editLicence caseType id changes) file
        (file.changePack draft.id (·.update changes))
  | submit {file : CaseFile} {caseType : CaseType} {user : User} {task : Task} {new : Nat}
      {reference : String} (kind : file.application.caseType = caseType) (editing : file.Editing)
      (active : file.application.isActive = true)
      (only : file.tasks.filter (Task.isOpen .prepare) = [task])
      (complete : file.application.submissionErrors.isEmpty = true)
      (kept : ∀ given, file.application.reference = some given → reference = given)
      (fresh : ∀ task ∈ file.tasks, task.id < new) :
      Move context id (.submit caseType id user) file
        (((file.finish task.id (some user.id) context.now).ensureTask
          (.opened new id .process (some task.id) context.now)).put
            (file.application.afterSubmission user reference context.now))
  | refuseVariation {file : CaseFile} {caseType : CaseType} {user : User} {task : Task}
      {draft : Pack} (kind : file.application.caseType = caseType)
      (current : file.Current processingStates .process task)
      (decided : file.application.currentDecision = some .refuse)
      (closed : file.application.hasOpenUpdateRequests = false)
      (varied : file.application.isImportVariation = true)
      (only : file.packs.filter (Pack.isIn .draft) = [draft]) :
      Move context id (.startAuthorisation caseType id user) file
        (((file.finish task.id (some user.id) context.now).changePack draft.id .archived).put
          (file.application.rejectVariation context.now))
  | refuse {file : CaseFile} {caseType : CaseType} {user : User} {task : Task} {new : Nat}
      {draft : Pack} (kind : file.application.caseType = caseType)
      (current : file.Current processingStates .process task)
      (decided : file.application.currentDecision = some .refuse)
      (closed : file.application.hasOpenUpdateRequests = false)
      (varied : file.application.isImportVariation = false)
      (only : file.packs.filter (Pack.isIn .draft) = [draft])
      (fresh : ∀ task ∈ file.tasks, task.id < new) :
      Move context id (.startAuthorisation caseType id user) file
        ((((file.finish task.id (some user.id) context.now).addTask
          (.opened new id .rejected (some task.id) context.now)).changePack draft.id .archived).put
            { file.application with status := .completed })
  | approve {file : CaseFile} {caseType : CaseType} {user : User} {task : Task} {new : Nat}
      {draft : Pack} {documents : List Document} {licenceNumber : Option Nat}
      (kind : file.application.caseType = caseType)
      (current : file.Current processingStates .process task)
      (decided : file.application.currentDecision = some .approve)
      (closed : file.application.hasOpenUpdateRequests = false)
      (only : file.packs.filter (Pack.isIn .draft) = [draft])
      (terms : file.application.isImport = true →
        draft.startDate.isSome = true ∧ draft.endDate.isSome = true ∧
          ∃ paperOnly, draft.paperOnly = some paperOnly ∧
            file.application.terms.supports paperOnly = true)
      (fresh : ∀ task ∈ file.tasks, task.id < new)
      (own : ∀ document ∈ documents, document.packId = draft.id) :
      Move context id (.startAuthorisation caseType id user) file
        ((((file.finish task.id (some user.id) context.now).addTask
          (.opened new id .authorise (some task.id) context.now)).redocument draft.id documents).put
            (file.application.authorising licenceNumber))
  | authoriseDocuments {file : CaseFile} {caseType : CaseType} {user : User} {task : Task}
      {new : Nat} (kind : file.application.caseType = caseType)
      (current : file.Current processingStates .authorise task)
      (fresh : ∀ task ∈ file.tasks, task.id < new) :
      Move context id (.authoriseDocuments caseType id user) file
        ((file.finish task.id (some user.id) context.now).addTask
          (.opened new id .documentSigning (some task.id) context.now))
  | sendDocuments {file : CaseFile} {caseType : CaseType} {task : Task} {requestId new : Nat}
      (kind : file.application.caseType = caseType)
      (current : file.Current processingStates .documentSigning task)
      (sent : file.application.goesToChief = true)
      (freshRequest : ∀ request ∈ file.requests, request.id < requestId)
      (fresh : ∀ task ∈ file.tasks, task.id < new) :
      Move context id (.documentsSigned caseType id) file
        ((file.finish task.id none context.now).send context file.application false requestId new
          (some task.id))
  | issueDocuments {file : CaseFile} {caseType : CaseType} {task : Task} {draft : Pack}
      {earlier : Option Pack} (kind : file.application.caseType = caseType)
      (current : file.Current processingStates .documentSigning task)
      (kept : file.application.goesToChief = false)
      (only : file.packs.filter (Pack.isIn .draft) = [draft])
      (before : file.packs.filter (Pack.isIn .active) = earlier.toList) :
      Move context id (.documentsSigned caseType id) file
        (((file.finish task.id none context.now).issue draft earlier file.application.reference
          context.now).put (file.application.complete
            (if file.application.isImport then .accepted else .closed) context.now))
  | failSigning {file : CaseFile} {caseType : CaseType} {task : Task} {new : Nat}
      (kind : file.application.caseType = caseType)
      (current : file.Current processingStates .documentSigning task)
      (fresh : ∀ task ∈ file.tasks, task.id < new) :
      Move context id (.documentsFailed caseType id) file
        ((file.finish task.id none context.now).addTask
          (.opened new id .documentError (some task.id) context.now))
  | retrySigning {file : CaseFile} {caseType : CaseType} {task : Task} {new : Nat}
      (kind : file.application.caseType = caseType)
      (current : file.Current processingStates .documentError task)
      (fresh : ∀ task ∈ file.tasks, task.id < new) :
      Move context id (.retrySigning caseType id) file
        ((file.finish task.id none context.now).addTask
          (.opened new id .documentSigning (some task.id) context.now))
  | acceptWithdrawal {file : CaseFile} {caseType : CaseType} {user : User}
      {answer : Option String} {draft : Pack} (kind : file.application.caseType = caseType)
      (stage : file.application.status ∈ openStates)
      (asked : file.application.withdrawals.any (·.isOpen) = true)
      (only : file.packs.filter (Pack.isIn .draft) = [draft]) :
      Move context id (.respondToWithdrawal caseType id user true answer) file
        (((file.finishAll context.now).changePack draft.id .archived).put
          ((file.application.answerWithdrawal user .accepted answer).withdraw context.now))
  | rejectWithdrawal {file : CaseFile} {caseType : CaseType} {user : User}
      {answer : Option String} {new : Nat} (kind : file.application.caseType = caseType)
      (stage : file.application.status ∈ openStates)
      (asked : file.application.withdrawals.any (·.isOpen) = true)
      (fresh : ∀ task ∈ file.tasks, task.id < new) :
      Move context id (.respondToWithdrawal caseType id user false answer) file
        ((file.ensureTask (.opened new id .process none context.now)).put
          (file.application.answerWithdrawal user .rejected answer))
  | stop {file : CaseFile} {caseType : CaseType} {task : Task} {draft : Pack}
      (kind : file.application.caseType = caseType)
      (current : file.Current openStates .process task)
      (only : file.packs.filter (Pack.isIn .draft) = [draft]) :
      Move context id (.stop caseType id) file
        (((file.finishAll context.now).changePack draft.id .archived).put
          { file.application.closeOpenVariation .cancelled context.now with status := .stopped })
  | reopen {file : CaseFile} {caseType : CaseType} {new pack : Nat}
      (kind : file.application.caseType = caseType)
      (stage : file.application.status ∈ [CaseStatus.stopped, .withdrawn])
      (fresh : ∀ task ∈ file.tasks, task.id < new)
      (freshPack : ∀ found ∈ file.packs, found.id < pack) :
      Move context id (.reopen caseType id) file
        (((file.addTask (.opened new id .process none context.now)).addPack
          (.drafted pack id file.application.firstTerms context.now)).put
            { file.application with status := .submitted, isActive := true, owner := none })
  | revoke {file : CaseFile} {caseType : CaseType} {input : RevokeInput} {pack : Pack}
      (kind : file.application.caseType = caseType)
      (stage : file.application.status = .completed)
      (only : file.packs.filter (Pack.isIn .active) = [pack])
      (kept : file.application.goesToChief = false) :
      Move context id (.revoke caseType id input) file
        ((file.changePack pack.id (·.revoke input.reason input.sendEmail)).put
          { file.application with status := .revoked })
  | revokeAtChief {file : CaseFile} {caseType : CaseType} {input : RevokeInput} {pack : Pack}
      {requestId new : Nat} (kind : file.application.caseType = caseType)
      (stage : file.application.status = .completed)
      (only : file.packs.filter (Pack.isIn .active) = [pack])
      (sent : file.application.goesToChief = true)
      (freshRequest : ∀ request ∈ file.requests, request.id < requestId)
      (fresh : ∀ task ∈ file.tasks, task.id < new) :
      Move context id (.revoke caseType id input) file
        (((file.changePack pack.id (·.revoke input.reason input.sendEmail)).send context
          { file.application with status := .revoked } true requestId new none).put
            { file.application with status := .revoked })
  | requestVariation {file : CaseFile} {caseType : CaseType} {user : User} {whatVaried : String}
      {varied : Application} {reference : String} {record new pack : Nat} {terms : LicenceUpdate}
      (kind : file.application.caseType = caseType)
      (stage : file.application.status = .completed)
      (opened : varied = file.application.varied (.asked record user whatVaried context.now))
      (named : Reference.variation varied = .ok reference)
      (initial : file.VariationTerms varied terms)
      (fresh : ∀ task ∈ file.tasks, task.id < new)
      (freshPack : ∀ found ∈ file.packs, found.id < pack) :
      Move context id (.requestVariation caseType id user whatVaried) file
        (((file.addTask (.opened new id .process none context.now)).addPack
          (.drafted pack id terms context.now)).put { varied with reference := some reference })
  | addUpdateRequest {file : CaseFile} {caseType : CaseType} {subject : String} {task : Task}
      {new : Nat} (kind : file.application.caseType = caseType)
      (current : file.Current processingStates .process task)
      (free : file.application.currentUpdateRequests = [])
      (fresh : ∀ task ∈ file.tasks, task.id < new) :
      Move context id (.addUpdateRequest caseType id subject) file
        ((file.addTask (.opened new id .prepare (some task.id) context.now)).put
          { file.application with
            updateRequests := file.application.updateRequests ++
              [⟨file.application.updateRequests.length + 1, .opened, subject⟩]
            ordered := context.now })
  | withdrawUpdateRequest {file : CaseFile} {caseType : CaseType} {entry : Nat}
      {request : UpdateRequest} {task prepare : Task}
      (kind : file.application.caseType = caseType)
      (current : file.Current processingStates .process task)
      (found : file.application.updateRequests.find? (·.id == entry) = some request)
      (opened : request.status = .opened)
      (only : file.tasks.filter (Task.isOpen .prepare) = [prepare]) :
      Move context id (.closeUpdateRequest caseType id entry) file
        ((file.finish prepare.id none context.now).put
          { file.application with
            updateRequests := changeFirst (·.id == entry) ({ · with status := .draft })
              file.application.updateRequests })
  | approveLicence {file : CaseFile} {task : Task} {draft : Pack} {earlier : Option Pack}
      (current : file.Current processingStates .chiefWait task)
      (only : file.packs.filter (Pack.isIn .draft) = [draft])
      (before : file.packs.filter (Pack.isIn .active) = earlier.toList) :
      Move context id (.approveLicence id) file
        ((((file.finish task.id none context.now).issue draft earlier file.application.reference
          context.now).answer (·.completed context.now)).put
            (file.application.complete .accepted context.now))
  | approveRevocation {file : CaseFile} {task : Task}
      (current : file.Current [.revoked] .chiefRevokeWait task) :
      Move context id (.approveLicence id) file
        (((file.finish task.id none context.now).answer (·.completed context.now)).put
          file.application)
  | rejectLicence {file : CaseFile} {errors : List ChiefResponseError} {task : Task} {new : Nat}
      (current : file.Current (awaitedReply file.application.status).1
        (awaitedReply file.application.status).2 task)
      (fresh : ∀ task ∈ file.tasks, task.id < new) :
      Move context id (.rejectLicence id errors) file
        (((file.finish task.id none context.now).addTask
          (.opened new id .chiefError (some task.id) context.now)).answer
            (·.failed errors context.now))
  | resendLicence {file : CaseFile} {task : Task} {requestId new : Nat}
      (current : file.Current
        (if file.application.status = .revoked then [.revoked] else processingStates)
        .chiefError task)
      (freshRequest : ∀ request ∈ file.requests, request.id < requestId)
      (fresh : ∀ task ∈ file.tasks, task.id < new) :
      Move context id (.resendLicence id) file
        ((file.finish task.id none context.now).send context file.application
          (file.application.status == .revoked) requestId new (some task.id))
  | revertLicence {file : CaseFile} {task : Task} {new : Nat}
      (current : file.Current processingStates .chiefError task)
      (fresh : ∀ task ∈ file.tasks, task.id < new) :
      Move context id (.revertLicence id) file
        ((file.finish task.id none context.now).addTask
          (.opened new id .process (some task.id) context.now))

def CaseFile.started (application : Application) (task pack : Nat) (now : Instant) : CaseFile :=
  { application
    tasks := [.opened task application.id .prepare none now]
    packs := [.drafted pack application.id application.firstTerms now]
    documents := []
    requests := [] }

/-- What an operation does to the file of a number, whether or not there is one. -/
inductive Change (context : Context) (id : Nat) (operation : Operation) :
    Option CaseFile → Option CaseFile → Prop where
  | same {file : Option CaseFile} : Change context id operation file file
  | started {user : User} {draft : NewApplication} {task pack : Nat}
      (named : operation = .create user draft)
      (suited : draft.givenGoods.suits draft.processType = true) :
      Change context id operation none
        (some (.started (draft.toApplication id context.now) task pack context.now))
  | removed {file : CaseFile} {caseType : CaseType} {task : Task}
      (named : operation = .cancel caseType id) (kind : file.application.caseType = caseType)
      (current : file.Current [.inProgress] .prepare task) :
      Change context id operation (some file) none
  | moved {before after : CaseFile} (move : Move context id operation before after) :
      Change context id operation (some before) (some after)

end Casework
