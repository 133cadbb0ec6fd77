import Casework.Case.Application
import Casework.Workflow.Task
import Casework.Json.Codec
import Casework.Text.Numeral

set_option autoImplicit false

namespace Casework.Codec

open Calendar

def id : Codec Nat := natural Text.largestWord

def year : Codec Int := integer (-2147483648) 2147483647

def sequenceNumber : Codec Nat := natural 0xffffffff

def date : Codec Date := textual Date.text Date.ofText?

def instant : Codec Instant := textual Instant.text Instant.ofText?

def caseType : Codec CaseType := choice CaseType.all CaseType.code

def processType : Codec ProcessType := choice ProcessType.all ProcessType.code

def caseStatus : Codec CaseStatus := choice CaseStatus.all CaseStatus.code

def decision : Codec Decision := choice Decision.all Decision.code

def licenceUsage : Codec LicenceUsage := choice LicenceUsage.all LicenceUsage.code

def firearmCommodity : Codec FirearmCommodity :=
  choice FirearmCommodity.all FirearmCommodity.recordName

def taskType : Codec TaskType := choice TaskType.all TaskType.recordName

def correspondenceStatus : Codec CorrespondenceStatus :=
  choice CorrespondenceStatus.all CorrespondenceStatus.code

def updateStatus : Codec UpdateStatus := choice UpdateStatus.all UpdateStatus.code

def variationStatus : Codec VariationStatus := choice VariationStatus.all VariationStatus.code

def withdrawalStatus : Codec WithdrawalStatus :=
  choice WithdrawalStatus.all WithdrawalStatus.code

def checklistAnswer : Codec ChecklistAnswer := choice ChecklistAnswer.all ChecklistAnswer.code

def user : Codec User := record <|
  (Fields.of User.mk)
    |>.required "id" id (·.id)
    |>.required "first_name" text (·.firstName)
    |>.required "last_name" text (·.lastName)
    |>.required "email" text (·.email)

def commodityGroup : Codec CommodityGroup := record <|
  (Fields.of CommodityGroup.mk)
    |>.required "group_code" text (·.code)
    |>.required "group_name" text (·.name)

def sanctionedGoods : Codec SanctionedGoods := record <|
  (Fields.of SanctionedGoods.mk)
    |>.required "commodity_code" text (·.commodityCode)
    |>.required "goods_description" text (·.description)

def codedGoods : Fields CodedGoods CodedGoods :=
  (Fields.of CodedGoods.mk)
    |>.optional "origin_country" text (·.origin)
    |>.optional "consignment_country" text (·.consignment)
    |>.optional "commodity_code" text (·.commodityCode)

def firearmGoods : Fields FirearmGoods FirearmGoods :=
  (Fields.of FirearmGoods.mk)
    |>.optional "origin_country" text (·.origin)
    |>.optional "consignment_country" text (·.consignment)
    |>.optional "commodity" firearmCommodity (·.commodity)

def quotaGoods : Fields QuotaGoods QuotaGoods :=
  (Fields.of QuotaGoods.mk)
    |>.optional "origin_country" text (·.origin)
    |>.optional "consignment_country" text (·.consignment)
    |>.optional "shipping_year" year (·.shippingYear)
    |>.optional "category_commodity_group" commodityGroup (·.group)
    |>.optional "commodity_code" text (·.commodityCode)

def processedGoods : Fields ProcessedGoods ProcessedGoods :=
  (Fields.of ProcessedGoods.mk)
    |>.optional "cp_origin_country" text (·.origin)
    |>.optional "cp_processing_country" text (·.processing)
    |>.optional "cp_category" text (·.category)
    |>.defaulted [] "cp_commodity_codes" text.list (·.productCodes)
    |>.defaulted [] "teg_commodity_codes" text.list (·.exportCodes)

def sanctionsGoods : Fields SanctionsGoods SanctionsGoods :=
  (Fields.of SanctionsGoods.mk)
    |>.optional "origin_country" text (·.origin)
    |>.optional "consignment_country" text (·.consignment)
    |>.defaulted [] "goods" sanctionedGoods.list (·.goods)

def woodGoods : Fields WoodGoods WoodGoods :=
  (Fields.of WoodGoods.mk)
    |>.optional "shipping_year" year (·.shippingYear)
    |>.optional "commodity_code" text (·.commodityCode)

def certifiedGoods : Fields CertifiedGoods CertifiedGoods :=
  (Fields.of CertifiedGoods.mk)
    |>.defaulted [] "countries" text.list (·.countries)
    |>.defaulted [] "manufacturer_countries" text.list (·.manufacturerCountries)
    |>.defaulted [] "brands" text.list (·.brands)

def goodsVariants : List (Variant Goods) :=
  [.of "derogations" codedGoods .derogations
      fun | .derogations goods => some goods | _ => none,
    .of "firearms" firearmGoods .firearms
      fun | .firearms goods => some goods | _ => none,
    .of "iron_steel" quotaGoods .ironSteel
      fun | .ironSteel goods => some goods | _ => none,
    .of "opt" processedGoods .outwardProcessing
      fun | .outwardProcessing goods => some goods | _ => none,
    .of "sanctions" sanctionsGoods .sanctions
      fun | .sanctions goods => some goods | _ => none,
    .of "sps" codedGoods .priorSurveillance
      fun | .priorSurveillance goods => some goods | _ => none,
    .of "textiles" quotaGoods .textiles
      fun | .textiles goods => some goods | _ => none,
    .of "wood" woodGoods .wood
      fun | .wood goods => some goods | _ => none,
    .of "export" certifiedGoods .certified
      fun | .certified goods => some goods | _ => none]

def goods : Codec Goods := tagged "kind" goodsVariants

def informationRequest : Codec InformationRequest := record <|
  (Fields.of InformationRequest.mk)
    |>.required "id" id (·.id)
    |>.required "status" correspondenceStatus (·.status)
    |>.required "request_subject" text (·.subject)

def updateRequest : Codec UpdateRequest := record <|
  (Fields.of UpdateRequest.mk)
    |>.required "id" id (·.id)
    |>.required "status" updateStatus (·.status)
    |>.required "request_subject" text (·.subject)

def caseEmail : Codec CaseEmail := record <|
  (Fields.of CaseEmail.mk)
    |>.required "id" id (·.id)
    |>.required "status" correspondenceStatus (·.status)
    |>.required "to" text (·.recipient)

def variationRequest : Codec VariationRequest := record <|
  (Fields.of VariationRequest.mk)
    |>.required "id" id (·.id)
    |>.required "status" variationStatus (·.status)
    |>.required "what_varied" text (·.whatVaried)
    |>.required "requested_by" id (·.requestedBy)
    |>.required "requested_datetime" instant (·.requestedAt)
    |>.optional "closed_datetime" instant (·.closedAt)
    |>.optional "reject_cancellation_reason" text (·.rejectionReason)

def withdrawal : Codec Withdrawal := record <|
  (Fields.of Withdrawal.mk)
    |>.required "id" id (·.id)
    |>.required "status" withdrawalStatus (·.status)
    |>.required "reason" text (·.reason)
    |>.required "request_by" id (·.requestedBy)
    |>.optional "response_by" id (·.answeredBy)
    |>.optional "response" text (·.answer)

def checklist : Codec Checklist := record <|
  (Fields.of Checklist.mk)
    |>.optional "case_update" checklistAnswer (·.caseUpdate)
    |>.optional "fir_required" checklistAnswer (·.informationRequired)
    |>.optional "validity_period_correct" checklistAnswer (·.validityPeriodCorrect)
    |>.optional "endorsements_listed" checklistAnswer (·.endorsementsListed)
    |>.defaulted false "response_preparation" flag (·.responsePrepared)
    |>.defaulted false "authorisation" flag (·.authorised)

def newApplication : Codec NewApplication := record <|
  (Fields.of NewApplication.mk)
    |>.required "process_type" processType (·.processType)
    |>.required "contact" user (·.contact)
    |>.required "organisation_name" text (·.organisation)
    |>.defaulted none "agent_name" text.option (·.agent)
    |>.defaulted none "applicant_reference" text.option (·.applicantReference)
    |>.defaulted none "detail" goods.option (·.goods)

def application : Codec Application := record <|
  (Fields.of Application.mk)
    |>.required "id" id (·.id)
    |>.required "process_type" processType (·.processType)
    |>.required "is_active" flag (·.isActive)
    |>.required "status" caseStatus (·.status)
    |>.optional "reference" text (·.reference)
    |>.optional "applicant_reference" text (·.applicantReference)
    |>.optional "decision" decision (·.decision)
    |>.optional "refuse_reason" text (·.refuseReason)
    |>.optional "variation_decision" decision (·.variationDecision)
    |>.optional "variation_refuse_reason" text (·.variationRefuseReason)
    |>.optional "case_owner" user (·.owner)
    |>.required "created" instant (·.created)
    |>.optional "submit_datetime" instant (·.submitted)
    |>.optional "submitted_by" id (·.submittedBy)
    |>.required "order_datetime" instant (·.ordered)
    |>.required "contact" user (·.contact)
    |>.required "organisation_name" text (·.organisation)
    |>.optional "agent_name" text (·.agent)
    |>.optional "chief_usage_status" licenceUsage (·.usage)
    |>.optional "licence_reference" sequenceNumber (·.licenceNumber)
    |>.optional "checklist" checklist (·.checklist)
    |>.required "variation_requests" variationRequest.list (·.variations)
    |>.required "further_information_requests" informationRequest.list (·.informationRequests)
    |>.required "update_requests" updateRequest.list (·.updateRequests)
    |>.required "case_emails" caseEmail.list (·.emails)
    |>.required "withdrawals" withdrawal.list (·.withdrawals)
    |>.required "detail" goods (·.goods)

def task : Codec Task := record <|
  (Fields.of Task.mk)
    |>.required "id" id (·.id)
    |>.required "process_id" id (·.processId)
    |>.required "task_type" taskType (·.taskType)
    |>.required "is_active" flag (·.isActive)
    |>.required "created" instant (·.created)
    |>.optional "finished" instant (·.finished)
    |>.optional "previous" id (·.previous)
    |>.optional "owner" id (·.owner)

end Casework.Codec
