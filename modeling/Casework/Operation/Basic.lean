import Casework.Operation.View
import Casework.Search.Results

set_option autoImplicit false

namespace Casework

inductive Operation where
  | create (user : User) (draft : NewApplication)
  | get (caseType : CaseType) (id : Nat)
  | view (caseType : CaseType) (id : Nat)
  | edit (caseType : CaseType) (id : Nat) (goods : Goods)
  | cancel (caseType : CaseType) (id : Nat)
  | submit (caseType : CaseType) (id : Nat) (user : User)
  | takeOwnership (caseType : CaseType) (id : Nat) (user : User)
  | releaseOwnership (caseType : CaseType) (id : Nat)
  | reassign (caseType : CaseType) (ids : List Nat) (owner : User)
  | completeChecklist (caseType : CaseType) (id : Nat) (checklist : Checklist)
  | editLicence (caseType : CaseType) (id : Nat) (changes : LicenceUpdate)
  | decide (caseType : CaseType) (id : Nat) (input : DecisionInput)
  | startAuthorisation (caseType : CaseType) (id : Nat) (user : User)
  | authoriseDocuments (caseType : CaseType) (id : Nat) (user : User)
  | documentsSigned (caseType : CaseType) (id : Nat)
  | documentsFailed (caseType : CaseType) (id : Nat)
  | retrySigning (caseType : CaseType) (id : Nat)
  | requestWithdrawal (caseType : CaseType) (id : Nat) (user : User) (reason : String)
  | respondToWithdrawal (caseType : CaseType) (id : Nat) (user : User) (accept : Bool)
      (answer : Option String)
  | stop (caseType : CaseType) (id : Nat)
  | reopen (caseType : CaseType) (id : Nat)
  | revoke (caseType : CaseType) (id : Nat) (input : RevokeInput)
  | requestVariation (caseType : CaseType) (id : Nat) (user : User) (whatVaried : String)
  | addInformationRequest (caseType : CaseType) (id : Nat) (subject : String)
  | respondToInformationRequest (caseType : CaseType) (id entry : Nat)
  | closeInformationRequest (caseType : CaseType) (id entry : Nat)
  | addUpdateRequest (caseType : CaseType) (id : Nat) (subject : String)
  | startUpdate (caseType : CaseType) (id entry : Nat)
  | closeUpdateRequest (caseType : CaseType) (id entry : Nat)
  | addEmail (caseType : CaseType) (id : Nat) (recipient : String)
  | closeEmail (caseType : CaseType) (id entry : Nat)
  | approveLicence (id : Nat)
  | rejectLicence (id : Nat) (errors : List ChiefResponseError)
  | resendLicence (id : Nat)
  | revertLicence (id : Nat)
  | pendingLicences
  | failedLicences
  | search (terms : SearchTerms) (limit : Option Nat)
  | spreadsheet (terms : SearchTerms)
deriving DecidableEq, Repr

inductive Answer where
  | nothing
  | application (application : Application)
  | view (view : CaseView)
  | pack (pack : Pack)
  | ids (ids : List Nat)
  | informationRequest (request : InformationRequest)
  | updateRequest (request : UpdateRequest)
  | email (email : CaseEmail)
  | taskType (taskType : TaskType)
  | applications (applications : List Application)
  | results (results : SearchResults)
  | spreadsheet (text : String)
deriving DecidableEq, Repr

namespace Operation

def work : Operation → Work Answer
  | .create _ draft => .application <$> Work.create draft
  | .get caseType id => .application <$> Work.load caseType id
  | .view caseType id => .view <$> Work.view caseType id
  | .edit caseType id goods => .application <$> Work.edit caseType id goods
  | .cancel caseType id => (fun _ => .nothing) <$> Work.cancel caseType id
  | .submit caseType id user => .application <$> Work.submit caseType id user
  | .takeOwnership caseType id user => .application <$> Work.takeOwnership caseType id user
  | .releaseOwnership caseType id => .application <$> Work.releaseOwnership caseType id
  | .reassign caseType ids owner => .ids <$> Work.reassign caseType ids owner
  | .completeChecklist caseType id checklist =>
    .application <$> Work.completeChecklist caseType id checklist
  | .editLicence caseType id changes => .pack <$> Work.editLicence caseType id changes
  | .decide caseType id input => .application <$> Work.decide caseType id input
  | .startAuthorisation caseType id user =>
    .application <$> Work.startAuthorisation caseType id user
  | .authoriseDocuments caseType id user =>
    .application <$> Work.authoriseDocuments caseType id user
  | .documentsSigned caseType id => .application <$> Work.documentsSigned caseType id
  | .documentsFailed caseType id => .application <$> Work.documentsFailed caseType id
  | .retrySigning caseType id => .application <$> Work.retrySigning caseType id
  | .requestWithdrawal caseType id user reason =>
    .application <$> Work.requestWithdrawal caseType id user reason
  | .respondToWithdrawal caseType id user accept answer =>
    .application <$> Work.respondToWithdrawal caseType id user accept answer
  | .stop caseType id => .application <$> Work.stop caseType id
  | .reopen caseType id => .application <$> Work.reopen caseType id
  | .revoke caseType id input => .application <$> Work.revoke caseType id input
  | .requestVariation caseType id user whatVaried =>
    .application <$> Work.requestVariation caseType id user whatVaried
  | .addInformationRequest caseType id subject =>
    .informationRequest <$> Work.addInformationRequest caseType id subject
  | .respondToInformationRequest caseType id entry =>
    .informationRequest <$> Work.respondToInformationRequest caseType id entry
  | .closeInformationRequest caseType id entry =>
    .informationRequest <$> Work.closeInformationRequest caseType id entry
  | .addUpdateRequest caseType id subject =>
    .updateRequest <$> Work.addUpdateRequest caseType id subject
  | .startUpdate caseType id entry => .updateRequest <$> Work.startUpdate caseType id entry
  | .closeUpdateRequest caseType id entry =>
    .updateRequest <$> Work.closeUpdateRequest caseType id entry
  | .addEmail caseType id recipient => .email <$> Work.addEmail caseType id recipient
  | .closeEmail caseType id entry => .email <$> Work.closeEmail caseType id entry
  | .approveLicence id => (fun _ => .nothing) <$> Work.approveLicence id
  | .rejectLicence id errors => (fun _ => .nothing) <$> Work.rejectLicence id errors
  | .resendLicence id => .taskType <$> Work.resendLicence id
  | .revertLicence id => (fun _ => .nothing) <$> Work.revertLicence id
  | .pendingLicences => .applications <$> Work.pendingLicences
  | .failedLicences => .applications <$> Work.failedLicences
  | .search terms limit => .results <$> Work.search terms limit
  | .spreadsheet terms => .spreadsheet <$> Work.spreadsheet terms

end Operation

structure Setting where
  now : Calendar.Instant
  clock : Nat → Calendar.Instant := fun _ => now
  sendsLicences : Bool
  searchLimit : Nat
  -- Why the register refuses a payload, if it does.
  transport : LicencePayload → Option String

structure System where
  store : Store
  -- The payloads that the register has taken, in order.
  accepted : List LicencePayload
  -- A unit of work broke off, so the tables stay locked.
  isPoisoned : Bool

namespace System

def initial : System := ⟨.empty, [], false⟩

-- Runs a unit of work. Its changes are kept only if it succeeds, but deliveries cannot be undone.
def run {α : Type} (system : System) (setting : Setting) (work : Work α) :
    Except CaseError α × System :=
  let context : Context :=
    { now := setting.now, clock := setting.clock, sendsLicences := setting.sendsLicences
      searchLimit := setting.searchLimit, transport := setting.transport
      available := !system.isPoisoned }
  match work context ⟨system.store, system.accepted⟩ with
  | (.ok value, desk) => (.ok value, { system with store := desk.store, accepted := desk.accepted })
  | (.error error, desk) => (.error error, { system with accepted := desk.accepted })

def perform (system : System) (setting : Setting) (operation : Operation) :
    Except CaseError Answer × System :=
  system.run setting operation.work

def poison (system : System) : System := { system with isPoisoned := true }

end System

/-- The states that operations lead to from the empty store, whatever happens around them. -/
inductive Reachable : System → Prop where
  | initial : Reachable .initial
  | perform {system : System} (reached : Reachable system) (setting : Setting)
      (operation : Operation) : Reachable (system.perform setting operation).2

end Casework
