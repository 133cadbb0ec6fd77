import Casework.Record.Case
import Casework.Operation.Caseworker

set_option autoImplicit false

namespace Casework.Codec

def packStatus : Codec PackStatus := choice PackStatus.all PackStatus.recordName

def documentType : Codec DocumentType := choice DocumentType.all DocumentType.recordName

def pack : Codec Pack := record <|
  (Fields.of Pack.mk)
    |>.required "id" id (·.id)
    |>.required "process_id" id (·.processId)
    |>.required "status" packStatus (·.status)
    |>.required "created_at" instant (·.created)
    |>.optional "case_reference" text (·.caseReference)
    |>.optional "case_completion_datetime" instant (·.completed)
    |>.optional "issue_paper_licence_only" flag (·.paperOnly)
    |>.optional "licence_start_date" date (·.startDate)
    |>.optional "licence_end_date" date (·.endDate)
    |>.optional "revoke_reason" text (·.revokeReason)
    |>.required "revoke_email_sent" flag (·.revokeEmailSent)

def document : Codec Document := record <|
  (Fields.of Document.mk)
    |>.required "id" id (·.id)
    |>.required "pack_id" id (·.packId)
    |>.required "document_type" documentType (·.documentType)
    |>.optional "reference" text (·.reference)
    |>.optional "check_code" text (·.checkCode)
    |>.optional "country" text (·.country)
    |>.optional "brand" text (·.brand)

def licenceUpdate : Codec LicenceUpdate := record <|
  (Fields.of LicenceUpdate.mk)
    |>.defaulted none "licence_start_date" date.option (·.startDate)
    |>.defaulted none "licence_end_date" date.option (·.endDate)
    |>.defaulted none "issue_paper_licence_only" flag.option (·.paperOnly)

def decisionInput : Codec DecisionInput := record <|
  (Fields.of DecisionInput.mk)
    |>.required "decision" decision (·.decision)
    |>.defaulted none "refuse_reason" text.option (·.refuseReason)

def revokeInput : Codec RevokeInput := record <|
  (Fields.of RevokeInput.mk)
    |>.defaulted none "reason" text.option (·.reason)
    |>.defaulted false "send_email" flag (·.sendEmail)

def chiefAction : Codec ChiefAction := choice ChiefAction.all ChiefAction.code

def chiefLicenceType : Codec ChiefLicenceType :=
  choice ChiefLicenceType.all ChiefLicenceType.code

def chiefRequestStatus : Codec ChiefRequestStatus :=
  choice ChiefRequestStatus.all ChiefRequestStatus.code

def licencePayload : Codec LicencePayload := record <|
  (Fields.of LicencePayload.mk)
    |>.required "action" chiefAction (·.action)
    |>.required "licence_type" chiefLicenceType (·.licenceType)
    |>.required "case_reference" text (·.caseReference)
    |>.required "licence_reference" text (·.licenceReference)
    |>.required "organisation_name" text (·.organisation)
    |>.optional "start_date" date (·.startDate)
    |>.optional "end_date" date (·.endDate)

def chiefResponseError : Codec ChiefResponseError := record <|
  (Fields.of ChiefResponseError.mk)
    |>.required "error_code" text (·.code)
    |>.required "error_msg" text (·.message)

def chiefRequest : Codec ChiefRequest := record <|
  (Fields.of ChiefRequest.mk)
    |>.required "id" id (·.id)
    |>.required "process_id" id (·.processId)
    |>.required "case_reference" text (·.caseReference)
    |>.optional "request_data" licencePayload (·.payload)
    |>.required "request_sent_datetime" instant (·.sent)
    |>.optional "response_received_datetime" instant (·.answered)
    |>.required "status" chiefRequestStatus (·.status)
    |>.required "response_errors" chiefResponseError.list (·.errors)

end Casework.Codec
