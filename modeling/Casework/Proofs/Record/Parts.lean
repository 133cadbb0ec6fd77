import Casework.Record.Search
import Casework.Proofs.Calendar.Written
import Casework.Proofs.Json.Codecs

set_option autoImplicit false

namespace Casework

open Calendar

def IsWord (number : Nat) : Prop := number ≤ Text.largestWord

-- Years that are kept as numbers have 32 bits with a sign, whatever the calendar covers.
def IsYear (year : Int) : Prop := -2147483648 ≤ year ∧ year ≤ 2147483647

instance (number : Nat) : Decidable (IsWord number) := inferInstanceAs (Decidable (_ ≤ _))

instance (year : Int) : Decidable (IsYear year) := inferInstanceAs (Decidable (_ ∧ _))

def User.IsWritable (user : User) : Prop := IsWord user.id

def Goods.IsWritable : Goods → Prop
  | .ironSteel goods | .textiles goods => ∀ year ∈ goods.shippingYear, IsYear year
  | .wood goods => ∀ year ∈ goods.shippingYear, IsYear year
  | _ => True

structure VariationRequest.IsWritable (variation : VariationRequest) : Prop where
  id : IsWord variation.id
  requestedBy : IsWord variation.requestedBy
  requestedAt : variation.requestedAt.IsWritable
  closedAt : ∀ instant ∈ variation.closedAt, instant.IsWritable

structure Withdrawal.IsWritable (withdrawal : Withdrawal) : Prop where
  id : IsWord withdrawal.id
  requestedBy : IsWord withdrawal.requestedBy
  answeredBy : ∀ id ∈ withdrawal.answeredBy, IsWord id

namespace Codec

theorem restores_id (room : Nat) {number : Nat} (word : IsWord number) :
    id.Restores room number :=
  restores_natural room word (le_refl _)

theorem restores_year (room : Nat) {value : Int} (fits : IsYear value) :
    year.Restores room value := by
  refine restores_integer room fits ?_
  have := fits.1
  have := fits.2
  unfold Text.largestWord
  omega

theorem restores_sequenceNumber (room : Nat) {number : Nat} (fits : number ≤ 0xffffffff) :
    sequenceNumber.Restores room number :=
  restores_natural room fits (by decide)

theorem restores_date (room : Nat) (value : Date) : date.Restores room value :=
  restores_textual room value.ofText?_text

theorem restores_instant (room : Nat) {value : Instant} (writable : value.IsWritable) :
    instant.Restores room value :=
  restores_textual room (Instant.ofText?_text writable)

theorem restores_caseType (room : Nat) (value : CaseType) : caseType.Restores room value :=
  restores_choice room (by cases value <;> rfl)

theorem restores_processType (room : Nat) (value : ProcessType) :
    processType.Restores room value :=
  restores_choice room (by cases value <;> rfl)

theorem restores_caseStatus (room : Nat) (value : CaseStatus) : caseStatus.Restores room value :=
  restores_choice room (by cases value <;> rfl)

theorem restores_decision (room : Nat) (value : Decision) : decision.Restores room value :=
  restores_choice room (by cases value <;> rfl)

theorem restores_licenceUsage (room : Nat) (value : LicenceUsage) :
    licenceUsage.Restores room value :=
  restores_choice room (by cases value <;> rfl)

theorem restores_firearmCommodity (room : Nat) (value : FirearmCommodity) :
    firearmCommodity.Restores room value :=
  restores_choice room (by cases value <;> rfl)

theorem restores_taskType (room : Nat) (value : TaskType) : taskType.Restores room value :=
  restores_choice room (by cases value <;> rfl)

theorem restores_correspondenceStatus (room : Nat) (value : CorrespondenceStatus) :
    correspondenceStatus.Restores room value :=
  restores_choice room (by cases value <;> rfl)

theorem restores_updateStatus (room : Nat) (value : UpdateStatus) :
    updateStatus.Restores room value :=
  restores_choice room (by cases value <;> rfl)

theorem restores_variationStatus (room : Nat) (value : VariationStatus) :
    variationStatus.Restores room value :=
  restores_choice room (by cases value <;> rfl)

theorem restores_withdrawalStatus (room : Nat) (value : WithdrawalStatus) :
    withdrawalStatus.Restores room value :=
  restores_choice room (by cases value <;> rfl)

theorem restores_checklistAnswer (room : Nat) (value : ChecklistAnswer) :
    checklistAnswer.Restores room value :=
  restores_choice room (by cases value <;> rfl)

theorem restores_packStatus (room : Nat) (value : PackStatus) : packStatus.Restores room value :=
  restores_choice room (by cases value <;> rfl)

theorem restores_documentType (room : Nat) (value : DocumentType) :
    documentType.Restores room value :=
  restores_choice room (by cases value <;> rfl)

theorem restores_chiefAction (room : Nat) (value : ChiefAction) :
    chiefAction.Restores room value :=
  restores_choice room (by cases value <;> rfl)

theorem restores_chiefLicenceType (room : Nat) (value : ChiefLicenceType) :
    chiefLicenceType.Restores room value :=
  restores_choice room (by cases value <;> rfl)

theorem restores_chiefRequestStatus (room : Nat) (value : ChiefRequestStatus) :
    chiefRequestStatus.Restores room value :=
  restores_choice room (by cases value <;> rfl)

theorem restores_licenceMedium (room : Nat) (value : LicenceMedium) :
    licenceMedium.Restores room value :=
  restores_choice room (by cases value <;> rfl)

theorem restores_text_option (room : Nat) (source : Option String) :
    text.option.Restores room source :=
  restores_option (fun value _ => restores_text room value) nofun

theorem restores_flag_option (room : Nat) (source : Option Bool) :
    flag.option.Restores room source :=
  restores_option (fun value _ => restores_flag room value) nofun

theorem restores_date_option (room : Nat) (source : Option Date) :
    date.option.Restores room source :=
  restores_option (fun value _ => restores_date room value) textual_encode_ne_null

theorem restores_instant_option (room : Nat) {source : Option Instant}
    (writable : ∀ instant ∈ source, instant.IsWritable) : instant.option.Restores room source :=
  restores_option (fun value given => restores_instant room (writable value given))
    textual_encode_ne_null

theorem restores_id_option (room : Nat) {source : Option Nat}
    (words : ∀ number ∈ source, IsWord number) : id.option.Restores room source :=
  restores_option (fun value given => restores_id room (words value given)) nofun

theorem restores_year_option (room : Nat) {source : Option Int}
    (years : ∀ value ∈ source, IsYear value) : year.option.Restores room source :=
  restores_option (fun value given => restores_year room (years value given)) nofun

theorem restores_decision_option (room : Nat) (source : Option Decision) :
    decision.option.Restores room source :=
  restores_option (fun value _ => restores_decision room value) nofun

theorem restores_licenceUsage_option (room : Nat) (source : Option LicenceUsage) :
    licenceUsage.option.Restores room source :=
  restores_option (fun value _ => restores_licenceUsage room value) nofun

theorem restores_checklistAnswer_option (room : Nat) (source : Option ChecklistAnswer) :
    checklistAnswer.option.Restores room source :=
  restores_option (fun value _ => restores_checklistAnswer room value) nofun

theorem restores_text_list (room : Nat) (values : List String) :
    text.list.Restores (room + 1) values :=
  restores_list fun value _ => restores_text room value

theorem restores_user (room : Nat) {source : User} (writable : source.IsWritable) :
    user.Restores (room + 1) source :=
  restores_record
    ((Fields.restores_of room source User.mk)
      |>.required (restores_id room writable)
      |>.required (restores_text room source.firstName)
      |>.required (restores_text room source.lastName)
      |>.required (restores_text room source.email))
    rfl (by decide) (by decide)

theorem restores_commodityGroup (room : Nat) (source : CommodityGroup) :
    commodityGroup.Restores (room + 1) source :=
  restores_record
    ((Fields.restores_of room source CommodityGroup.mk)
      |>.required (restores_text room source.code)
      |>.required (restores_text room source.name))
    rfl (by decide) (by decide)

theorem restores_sanctionedGoods (room : Nat) (source : SanctionedGoods) :
    sanctionedGoods.Restores (room + 1) source :=
  restores_record
    ((Fields.restores_of room source SanctionedGoods.mk)
      |>.required (restores_text room source.commodityCode)
      |>.required (restores_text room source.description))
    rfl (by decide) (by decide)

theorem restores_codedGoods (room : Nat) (source : CodedGoods) :
    codedGoods.Restores room source source :=
  (Fields.restores_of room source CodedGoods.mk)
    |>.optional (restores_text_option room source.origin)
    |>.optional (restores_text_option room source.consignment)
    |>.optional (restores_text_option room source.commodityCode)

theorem restores_firearmGoods (room : Nat) (source : FirearmGoods) :
    firearmGoods.Restores room source source :=
  (Fields.restores_of room source FirearmGoods.mk)
    |>.optional (restores_text_option room source.origin)
    |>.optional (restores_text_option room source.consignment)
    |>.optional (restores_option (fun value _ => restores_firearmCommodity room value) nofun)

theorem restores_quotaGoods (room : Nat) {source : QuotaGoods}
    (years : ∀ year ∈ source.shippingYear, IsYear year) :
    quotaGoods.Restores (room + 1) source source :=
  (Fields.restores_of (room + 1) source QuotaGoods.mk)
    |>.optional (restores_text_option _ source.origin)
    |>.optional (restores_text_option _ source.consignment)
    |>.optional (restores_year_option _ years)
    |>.optional (restores_option (fun value _ => restores_commodityGroup room value)
        record_encode_ne_null)
    |>.optional (restores_text_option _ source.commodityCode)

theorem restores_processedGoods (room : Nat) (source : ProcessedGoods) :
    processedGoods.Restores (room + 1) source source :=
  (Fields.restores_of (room + 1) source ProcessedGoods.mk)
    |>.optional (restores_text_option _ source.origin)
    |>.optional (restores_text_option _ source.processing)
    |>.optional (restores_text_option _ source.category)
    |>.defaulted (restores_text_list room source.productCodes)
    |>.defaulted (restores_text_list room source.exportCodes)

theorem restores_sanctionsGoods (room : Nat) (source : SanctionsGoods) :
    sanctionsGoods.Restores (room + 2) source source :=
  (Fields.restores_of (room + 2) source SanctionsGoods.mk)
    |>.optional (restores_text_option _ source.origin)
    |>.optional (restores_text_option _ source.consignment)
    |>.defaulted (restores_list fun value _ => restores_sanctionedGoods room value)

theorem restores_woodGoods (room : Nat) {source : WoodGoods}
    (years : ∀ year ∈ source.shippingYear, IsYear year) :
    woodGoods.Restores room source source :=
  (Fields.restores_of room source WoodGoods.mk)
    |>.optional (restores_year_option room years)
    |>.optional (restores_text_option room source.commodityCode)

theorem restores_certifiedGoods (room : Nat) (source : CertifiedGoods) :
    certifiedGoods.Restores (room + 1) source source :=
  (Fields.restores_of (room + 1) source CertifiedGoods.mk)
    |>.defaulted (restores_text_list room source.countries)
    |>.defaulted (restores_text_list room source.manufacturerCountries)
    |>.defaulted (restores_text_list room source.brands)

theorem restores_goods (room : Nat) {source : Goods} (writable : source.IsWritable) :
    goods.Restores (room + 3) source := by
  cases source with
  | derogations source =>
    exact restores_tagged rfl rfl (restores_codedGoods (room + 2) source) rfl (by decide)
  | firearms source =>
    exact restores_tagged rfl rfl (restores_firearmGoods (room + 2) source) rfl (by decide)
  | ironSteel source =>
    exact restores_tagged rfl rfl (restores_quotaGoods (room + 1) writable) rfl (by decide)
  | outwardProcessing source =>
    exact restores_tagged rfl rfl (restores_processedGoods (room + 1) source) rfl (by decide)
  | sanctions source =>
    exact restores_tagged rfl rfl (restores_sanctionsGoods room source) rfl (by decide)
  | priorSurveillance source =>
    exact restores_tagged rfl rfl (restores_codedGoods (room + 2) source) rfl (by decide)
  | textiles source =>
    exact restores_tagged rfl rfl (restores_quotaGoods (room + 1) writable) rfl (by decide)
  | wood source =>
    exact restores_tagged rfl rfl (restores_woodGoods (room + 2) writable) rfl (by decide)
  | certified source =>
    exact restores_tagged rfl rfl (restores_certifiedGoods (room + 1) source) rfl (by decide)

theorem restores_informationRequest (room : Nat) {source : InformationRequest}
    (word : IsWord source.id) : informationRequest.Restores (room + 1) source :=
  restores_record
    ((Fields.restores_of room source InformationRequest.mk)
      |>.required (restores_id room word)
      |>.required (restores_correspondenceStatus room source.status)
      |>.required (restores_text room source.subject))
    rfl (by decide) (by decide)

theorem restores_updateRequest (room : Nat) {source : UpdateRequest}
    (word : IsWord source.id) : updateRequest.Restores (room + 1) source :=
  restores_record
    ((Fields.restores_of room source UpdateRequest.mk)
      |>.required (restores_id room word)
      |>.required (restores_updateStatus room source.status)
      |>.required (restores_text room source.subject))
    rfl (by decide) (by decide)

theorem restores_caseEmail (room : Nat) {source : CaseEmail} (word : IsWord source.id) :
    caseEmail.Restores (room + 1) source :=
  restores_record
    ((Fields.restores_of room source CaseEmail.mk)
      |>.required (restores_id room word)
      |>.required (restores_correspondenceStatus room source.status)
      |>.required (restores_text room source.recipient))
    rfl (by decide) (by decide)

theorem restores_variationRequest (room : Nat) {source : VariationRequest}
    (writable : source.IsWritable) : variationRequest.Restores (room + 1) source :=
  restores_record
    ((Fields.restores_of room source VariationRequest.mk)
      |>.required (restores_id room writable.id)
      |>.required (restores_variationStatus room source.status)
      |>.required (restores_text room source.whatVaried)
      |>.required (restores_id room writable.requestedBy)
      |>.required (restores_instant room writable.requestedAt)
      |>.optional (restores_instant_option room writable.closedAt)
      |>.optional (restores_text_option room source.rejectionReason))
    rfl (by decide) (by decide)

theorem restores_withdrawal (room : Nat) {source : Withdrawal} (writable : source.IsWritable) :
    withdrawal.Restores (room + 1) source :=
  restores_record
    ((Fields.restores_of room source Withdrawal.mk)
      |>.required (restores_id room writable.id)
      |>.required (restores_withdrawalStatus room source.status)
      |>.required (restores_text room source.reason)
      |>.required (restores_id room writable.requestedBy)
      |>.optional (restores_id_option room writable.answeredBy)
      |>.optional (restores_text_option room source.answer))
    rfl (by decide) (by decide)

theorem restores_checklist (room : Nat) (source : Checklist) :
    checklist.Restores (room + 1) source :=
  restores_record
    ((Fields.restores_of room source Checklist.mk)
      |>.optional (restores_checklistAnswer_option room source.caseUpdate)
      |>.optional (restores_checklistAnswer_option room source.informationRequired)
      |>.optional (restores_checklistAnswer_option room source.validityPeriodCorrect)
      |>.optional (restores_checklistAnswer_option room source.endorsementsListed)
      |>.defaulted (restores_flag room source.responsePrepared)
      |>.defaulted (restores_flag room source.authorised))
    rfl (by decide) (by decide)

theorem goods_encode_ne_null (source : Goods) : goods.encode source ≠ .null := by
  cases source <;> nofun

end Codec

end Casework
