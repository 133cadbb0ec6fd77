import Casework.Record.Document
import Casework.Search.Results

set_option autoImplicit false

namespace Casework

namespace Codec

def licenceMedium : Codec LicenceMedium := choice LicenceMedium.all LicenceMedium.code

def searchTerms : Codec SearchTerms := record <|
  (Fields.of SearchTerms.mk)
    |>.required "case_type" caseType (·.caseType)
    |>.defaulted none "app_type" text.option (·.typeCode)
    |>.defaulted none "case_status" text.option (·.status)
    |>.defaulted none "case_ref" text.option (·.reference)
    |>.defaulted none "licence_ref" text.option (·.documentReference)
    |>.defaulted none "response_decision" decision.option (·.decision)
    |>.defaulted none "submitted_date_start" date.option (·.submittedFrom)
    |>.defaulted none "submitted_date_end" date.option (·.submittedTo)
    |>.defaulted false "reassignment_search" flag (·.forReassignment)
    |>.defaulted none "reassignment_user" id.option (·.owner)
    |>.defaulted none "application_contact" text.option (·.contact)
    |>.defaulted false "pending_firs" flag (·.awaitsInformation)
    |>.defaulted false "pending_update_reqs" flag (·.awaitsUpdate)
    |>.defaulted none "app_sub_type" text.option (·.subType)
    |>.defaulted none "applicant_ref" text.option (·.applicantReference)
    |>.defaulted none "importer_agent_name" text.option (·.importer)
    |>.defaulted none "licence_type" licenceMedium.option (·.medium)
    |>.defaulted none "chief_usage_status" licenceUsage.option (·.usage)
    |>.defaulted [] "origin_country" text.list (·.origins)
    |>.defaulted [] "consignment_country" text.list (·.consignments)
    |>.defaulted none "shipping_year" year.option (·.shippingYear)
    |>.defaulted none "goods_category" text.option (·.goodsCategory)
    |>.defaulted none "commodity_code" text.option (·.commodityCode)
    |>.defaulted none "under_appeal" flag.option (·.underAppeal)
    |>.defaulted none "licence_date_start" date.option (·.licenceFrom)
    |>.defaulted none "licence_date_end" date.option (·.licenceTo)
    |>.defaulted none "issue_date_start" date.option (·.issuedFrom)
    |>.defaulted none "issue_date_end" date.option (·.issuedTo)
    |>.defaulted none "exporter_agent_name" text.option (·.exporter)
    |>.defaulted none "closed_date_start" date.option (·.closedFrom)
    |>.defaulted none "closed_date_end" date.option (·.closedTo)
    |>.defaulted [] "certificate_country" text.list (·.certificateCountries)
    |>.defaulted [] "manufacture_country" text.list (·.manufactureCountries)

end Codec

def Json.ofText? (value : Option String) : Json := Codec.text.option.encode value

def Json.ofTexts (values : List String) : Json := .list (values.map .text)

def SearchAction.toJson (action : SearchAction) : Json :=
  .object
    [("url", .text action.url), ("name", .text action.name), ("label", .text action.label),
      ("icon", .text action.icon), ("is_post", .flag action.isPost)]

def CaseSummary.toJson (summary : CaseSummary) : Json :=
  .object
    [("case_reference", .text summary.reference),
      ("application_type", .text summary.typeLabel),
      ("application_sub_type", .text summary.subTypeLabel),
      ("status", .text summary.status),
      ("licence_type", .text summary.medium),
      ("licence_start_date", .ofText? summary.startDate),
      ("licence_end_date", .ofText? summary.endDate),
      ("chief_usage_status", .ofText? summary.usage),
      ("applicant_reference", .ofText? summary.applicantReference),
      ("licence_reference", .ofText? summary.licenceReference),
      ("licence_validity", .ofText? summary.validity)]

def ApplicantSummary.toJson (applicant : ApplicantSummary) : Json :=
  .object
    [("organisation_name", .text applicant.organisation),
      ("application_contact", .text applicant.contact),
      ("agent_name", .ofText? applicant.agent)]

def CommoditySummary.toJson (commodity : CommoditySummary) : Json :=
  .object
    [("origin_country", .text commodity.origin),
      ("consignment_country", .ofText? commodity.consignment),
      ("goods_category", .ofText? commodity.category),
      ("shipping_year", (commodity.shippingYear.map .integer).getD .null),
      ("commodity_codes", (commodity.codes.map .ofTexts).getD .null)]

def AssigneeSummary.toJson (assignee : AssigneeSummary) : Json :=
  .object
    [("title", .text assignee.title), ("ownership_date", .text assignee.ownedSince),
      ("assignee_name", .text assignee.name),
      ("reassignment_date", .ofText? assignee.reassignedAt)]

def ImportRow.toJson (row : ImportRow) : Json :=
  .object
    [("app_pk", .integer row.id), ("actions", .list (row.actions.map (·.toJson))),
      ("submitted_at", .text row.submitted), ("case_status", row.summary.toJson),
      ("applicant_details", row.applicant.toJson), ("commodity_details", row.commodity.toJson),
      ("assignee_details", row.assignee.toJson),
      ("order_by_datetime", Codec.instant.encode row.ordered)]

def ExportRow.toJson (row : ExportRow) : Json :=
  .object
    [("app_pk", .integer row.id), ("actions", .list (row.actions.map (·.toJson))),
      ("case_reference", .text row.reference), ("application_type", .text row.typeLabel),
      ("status", .text row.status), ("certificates", .ofTexts row.certificates),
      ("submitted_at", .text row.submitted),
      ("order_by_datetime", Codec.instant.encode row.ordered),
      ("origin_countries", .ofTexts row.origins),
      ("organisation_name", .text row.organisation),
      ("application_contact", .text row.contact),
      ("manufacturer_countries", .ofTexts row.manufacturers),
      ("assignee_details", row.assignee.toJson), ("agent_name", .ofText? row.agent)]

def ResultRow.toJson : ResultRow → Json
  | .imported row => row.toJson
  | .exported row => row.toJson

def SearchResults.toJson (results : SearchResults) : Json :=
  .object
    [("total_rows", .integer results.total),
      ("records", .list (results.rows.map (·.toJson)))]

end Casework
