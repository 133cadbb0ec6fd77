import Casework.Document.Issue
import Casework.Text.Blank

set_option autoImplicit false

namespace Casework

open Text (isBlankText)

namespace FieldErrors

def requireCoded (errors : FieldErrors) (goods : CodedGoods) : FieldErrors :=
  ((errors.require "origin_country" goods.origin).require
    "consignment_country" goods.consignment).require "commodity_code" goods.commodityCode

def requireQuota (errors : FieldErrors) (goods : QuotaGoods) : FieldErrors :=
  ((((errors.require "origin_country" goods.origin).require
    "consignment_country" goods.consignment).require
    "shipping_year" goods.shippingYear).require
    "category_commodity_group" goods.group).require "commodity_code" goods.commodityCode

def requireGoods (errors : FieldErrors) (processType : ProcessType) : Goods → FieldErrors
  | .derogations goods | .priorSurveillance goods => errors.requireCoded goods
  | .firearms goods =>
    ((errors.require "origin_country" goods.origin).require
      "consignment_country" goods.consignment).require "commodity_code" goods.commodity
  | .ironSteel goods | .textiles goods => errors.requireQuota goods
  | .outwardProcessing goods =>
    (((errors.require "cp_origin_country" goods.origin).require
      "cp_processing_country" goods.processing).require
      "cp_category" goods.category).requireAny "cp_commodity_codes" goods.productCodes
  | .sanctions goods =>
    ((errors.require "origin_country" goods.origin).require
      "consignment_country" goods.consignment).requireAny "goods" goods.goods
  | .wood goods =>
    (errors.require "shipping_year" goods.shippingYear).require
      "commodity_code" goods.commodityCode
  | .certified goods =>
    let errors := errors.requireAny "countries" goods.countries
    if processType = .goodManufacturing then errors.requireAny "brands" goods.brands else errors

end FieldErrors

def goodsMismatch : String := "Application details do not match the application type"

def mediumUnavailable : String :=
  "This licence type cannot be issued in the selected format."

namespace Application

def submissionErrors (application : Application) : FieldErrors :=
  let errors := FieldErrors.empty.addIf (isBlankText application.organisation)
    "organisation_name" FieldErrors.fieldRequired
  if application.goods.suits application.processType then
    errors.requireGoods application.processType application.goods
  else errors.add "detail" goodsMismatch

def isImportVariation (application : Application) : Bool :=
  application.isImport && application.status == .variationRequested

def currentDecision (application : Application) : Option Decision :=
  if application.isImportVariation then application.variationDecision else application.decision

def currentRefuseReason (application : Application) : Option String :=
  if application.isImportVariation then application.variationRefuseReason
  else application.refuseReason

def decisionErrors (application : Application) (errors : FieldErrors) : FieldErrors :=
  match application.currentDecision with
  | none => errors.add "decision" FieldErrors.fieldRequired
  | some .refuse =>
    errors.addIf ((application.currentRefuseReason.map isBlankText).getD true)
      "refuse_reason" FieldErrors.fieldRequired
  | some .approve => errors

def draftErrors (application : Application) (draft : Except PackError Pack)
    (errors : FieldErrors) : FieldErrors :=
  match draft with
  | .error _ => errors.add "licence" "No draft licence exists for this application."
  | .ok draft =>
    let errors := (errors.require "licence_start_date" draft.startDate).require
      "licence_end_date" draft.endDate
    match draft.paperOnly with
    | none => errors.add "issue_paper_licence_only" FieldErrors.fieldRequired
    | some paperOnly =>
      errors.addIf (!application.terms.supports paperOnly)
        "issue_paper_licence_only" mediumUnavailable

def authorisationErrors (application : Application) (store : Store) : FieldErrors :=
  let errors := application.decisionErrors .empty
  let errors := errors.addIf
    (application.terms.hasChecklist &&
      !(application.checklist.map Checklist.isComplete).getD false)
    "checklist" "Please complete checklist prior to authorising."
  let errors := errors.addIf application.hasOpenInformationRequests
    "further_information_requests" "Please close or withdraw open further information requests."
  let errors := errors.addIf application.hasOpenUpdateRequests
    "update_requests" "Please close open update requests prior to authorising."
  let errors := errors.addIf (!application.isImport && application.hasOpenEmails)
    "case_emails" "Please close open case emails prior to authorising."
  if application.isImport && application.currentDecision == some .approve then
    application.draftErrors (store.draftPack application.id) errors
  else errors

end Application

end Casework
