import Casework.Proofs.Record.Parts

set_option autoImplicit false

namespace Casework

open Calendar

structure NewApplication.IsWritable (draft : NewApplication) : Prop where
  contact : draft.contact.IsWritable
  goods : ∀ goods ∈ draft.goods, goods.IsWritable

structure Application.IsWritable (application : Application) : Prop where
  id : IsWord application.id
  owner : ∀ user ∈ application.owner, user.IsWritable
  created : application.created.IsWritable
  submitted : ∀ instant ∈ application.submitted, instant.IsWritable
  submittedBy : ∀ id ∈ application.submittedBy, IsWord id
  ordered : application.ordered.IsWritable
  contact : application.contact.IsWritable
  licenceNumber : ∀ number ∈ application.licenceNumber, number ≤ 0xffffffff
  variations : ∀ variation ∈ application.variations, variation.IsWritable
  informationRequests : ∀ request ∈ application.informationRequests, IsWord request.id
  updateRequests : ∀ request ∈ application.updateRequests, IsWord request.id
  emails : ∀ email ∈ application.emails, IsWord email.id
  withdrawals : ∀ withdrawal ∈ application.withdrawals, withdrawal.IsWritable
  goods : application.goods.IsWritable

structure Task.IsWritable (task : Task) : Prop where
  id : IsWord task.id
  processId : IsWord task.processId
  created : task.created.IsWritable
  finished : ∀ instant ∈ task.finished, instant.IsWritable
  previous : ∀ id ∈ task.previous, IsWord id
  owner : ∀ id ∈ task.owner, IsWord id

structure Pack.IsWritable (pack : Pack) : Prop where
  id : IsWord pack.id
  processId : IsWord pack.processId
  created : pack.created.IsWritable
  completed : ∀ instant ∈ pack.completed, instant.IsWritable

structure Document.IsWritable (document : Document) : Prop where
  id : IsWord document.id
  packId : IsWord document.packId

structure ChiefRequest.IsWritable (request : ChiefRequest) : Prop where
  id : IsWord request.id
  processId : IsWord request.processId
  sent : request.sent.IsWritable
  answered : ∀ instant ∈ request.answered, instant.IsWritable

structure SearchTerms.IsWritable (terms : SearchTerms) : Prop where
  owner : ∀ id ∈ terms.owner, IsWord id
  shippingYear : ∀ year ∈ terms.shippingYear, IsYear year

namespace Codec

theorem restores_newApplication {source : NewApplication} (writable : source.IsWritable) :
    newApplication.Restores 4 source :=
  restores_record
    ((Fields.restores_of 3 source NewApplication.mk)
      |>.required (restores_processType 3 source.processType)
      |>.required (restores_user 2 writable.contact)
      |>.required (restores_text 3 source.organisation)
      |>.defaulted (restores_text_option 3 source.agent)
      |>.defaulted (restores_text_option 3 source.applicantReference)
      |>.defaulted (restores_option
        (fun value given => restores_goods 0 (writable.goods value given)) goods_encode_ne_null))
    rfl (by decide) (by decide)

theorem restores_application {source : Application} (writable : source.IsWritable) :
    application.Restores 4 source :=
  restores_record
    ((Fields.restores_of 3 source Application.mk)
      |>.required (restores_id 3 writable.id)
      |>.required (restores_processType 3 source.processType)
      |>.required (restores_flag 3 source.isActive)
      |>.required (restores_caseStatus 3 source.status)
      |>.optional (restores_text_option 3 source.reference)
      |>.optional (restores_text_option 3 source.applicantReference)
      |>.optional (restores_decision_option 3 source.decision)
      |>.optional (restores_text_option 3 source.refuseReason)
      |>.optional (restores_decision_option 3 source.variationDecision)
      |>.optional (restores_text_option 3 source.variationRefuseReason)
      |>.optional (restores_option (fun value given => restores_user 2 (writable.owner value given))
        record_encode_ne_null)
      |>.required (restores_instant 3 writable.created)
      |>.optional (restores_instant_option 3 writable.submitted)
      |>.optional (restores_id_option 3 writable.submittedBy)
      |>.required (restores_instant 3 writable.ordered)
      |>.required (restores_user 2 writable.contact)
      |>.required (restores_text 3 source.organisation)
      |>.optional (restores_text_option 3 source.agent)
      |>.optional (restores_licenceUsage_option 3 source.usage)
      |>.optional (restores_option
        (fun value given => restores_sequenceNumber 3 (writable.licenceNumber value given)) nofun)
      |>.optional (restores_option (fun value _ => restores_checklist 2 value)
        record_encode_ne_null)
      |>.required (restores_list fun value given =>
        restores_variationRequest 1 (writable.variations value given))
      |>.required (restores_list fun value given =>
        restores_informationRequest 1 (writable.informationRequests value given))
      |>.required (restores_list fun value given =>
        restores_updateRequest 1 (writable.updateRequests value given))
      |>.required (restores_list fun value given =>
        restores_caseEmail 1 (writable.emails value given))
      |>.required (restores_list fun value given =>
        restores_withdrawal 1 (writable.withdrawals value given))
      |>.required (restores_goods 0 writable.goods))
    rfl (by decide) (by decide)

theorem restores_task {source : Task} (writable : source.IsWritable) : task.Restores 1 source :=
  restores_record
    ((Fields.restores_of 0 source Task.mk)
      |>.required (restores_id 0 writable.id)
      |>.required (restores_id 0 writable.processId)
      |>.required (restores_taskType 0 source.taskType)
      |>.required (restores_flag 0 source.isActive)
      |>.required (restores_instant 0 writable.created)
      |>.optional (restores_instant_option 0 writable.finished)
      |>.optional (restores_id_option 0 writable.previous)
      |>.optional (restores_id_option 0 writable.owner))
    rfl (by decide) (by decide)

theorem restores_pack {source : Pack} (writable : source.IsWritable) : pack.Restores 1 source :=
  restores_record
    ((Fields.restores_of 0 source Pack.mk)
      |>.required (restores_id 0 writable.id)
      |>.required (restores_id 0 writable.processId)
      |>.required (restores_packStatus 0 source.status)
      |>.required (restores_instant 0 writable.created)
      |>.optional (restores_text_option 0 source.caseReference)
      |>.optional (restores_instant_option 0 writable.completed)
      |>.optional (restores_flag_option 0 source.paperOnly)
      |>.optional (restores_date_option 0 source.startDate)
      |>.optional (restores_date_option 0 source.endDate)
      |>.optional (restores_text_option 0 source.revokeReason)
      |>.required (restores_flag 0 source.revokeEmailSent))
    rfl (by decide) (by decide)

theorem restores_document {source : Document} (writable : source.IsWritable) :
    document.Restores 1 source :=
  restores_record
    ((Fields.restores_of 0 source Document.mk)
      |>.required (restores_id 0 writable.id)
      |>.required (restores_id 0 writable.packId)
      |>.required (restores_documentType 0 source.documentType)
      |>.optional (restores_text_option 0 source.reference)
      |>.optional (restores_text_option 0 source.checkCode)
      |>.optional (restores_text_option 0 source.country)
      |>.optional (restores_text_option 0 source.brand))
    rfl (by decide) (by decide)

theorem restores_licenceUpdate (source : LicenceUpdate) : licenceUpdate.Restores 1 source :=
  restores_record
    ((Fields.restores_of 0 source LicenceUpdate.mk)
      |>.defaulted (restores_date_option 0 source.startDate)
      |>.defaulted (restores_date_option 0 source.endDate)
      |>.defaulted (restores_flag_option 0 source.paperOnly))
    rfl (by decide) (by decide)

theorem restores_decisionInput (source : DecisionInput) : decisionInput.Restores 1 source :=
  restores_record
    ((Fields.restores_of 0 source DecisionInput.mk)
      |>.required (restores_decision 0 source.decision)
      |>.defaulted (restores_text_option 0 source.refuseReason))
    rfl (by decide) (by decide)

theorem restores_revokeInput (source : RevokeInput) : revokeInput.Restores 1 source :=
  restores_record
    ((Fields.restores_of 0 source RevokeInput.mk)
      |>.defaulted (restores_text_option 0 source.reason)
      |>.defaulted (restores_flag 0 source.sendEmail))
    rfl (by decide) (by decide)

theorem restores_licencePayload (room : Nat) (source : LicencePayload) :
    licencePayload.Restores (room + 1) source :=
  restores_record
    ((Fields.restores_of room source LicencePayload.mk)
      |>.required (restores_chiefAction room source.action)
      |>.required (restores_chiefLicenceType room source.licenceType)
      |>.required (restores_text room source.caseReference)
      |>.required (restores_text room source.licenceReference)
      |>.required (restores_text room source.organisation)
      |>.optional (restores_date_option room source.startDate)
      |>.optional (restores_date_option room source.endDate))
    rfl (by decide) (by decide)

theorem restores_chiefResponseError (room : Nat) (source : ChiefResponseError) :
    chiefResponseError.Restores (room + 1) source :=
  restores_record
    ((Fields.restores_of room source ChiefResponseError.mk)
      |>.required (restores_text room source.code)
      |>.required (restores_text room source.message))
    rfl (by decide) (by decide)

theorem restores_chiefRequest {source : ChiefRequest} (writable : source.IsWritable) :
    chiefRequest.Restores 3 source :=
  restores_record
    ((Fields.restores_of 2 source ChiefRequest.mk)
      |>.required (restores_id 2 writable.id)
      |>.required (restores_id 2 writable.processId)
      |>.required (restores_text 2 source.caseReference)
      |>.optional (restores_option (fun value _ => restores_licencePayload 1 value)
        record_encode_ne_null)
      |>.required (restores_instant 2 writable.sent)
      |>.optional (restores_instant_option 2 writable.answered)
      |>.required (restores_chiefRequestStatus 2 source.status)
      |>.required (restores_list fun value _ => restores_chiefResponseError 0 value))
    rfl (by decide) (by decide)

theorem restores_searchTerms {source : SearchTerms} (writable : source.IsWritable) :
    searchTerms.Restores 2 source :=
  restores_record
    ((Fields.restores_of 1 source SearchTerms.mk)
      |>.required (restores_caseType 1 source.caseType)
      |>.defaulted (restores_text_option 1 source.typeCode)
      |>.defaulted (restores_text_option 1 source.status)
      |>.defaulted (restores_text_option 1 source.reference)
      |>.defaulted (restores_text_option 1 source.documentReference)
      |>.defaulted (restores_decision_option 1 source.decision)
      |>.defaulted (restores_date_option 1 source.submittedFrom)
      |>.defaulted (restores_date_option 1 source.submittedTo)
      |>.defaulted (restores_flag 1 source.forReassignment)
      |>.defaulted (restores_id_option 1 writable.owner)
      |>.defaulted (restores_text_option 1 source.contact)
      |>.defaulted (restores_flag 1 source.awaitsInformation)
      |>.defaulted (restores_flag 1 source.awaitsUpdate)
      |>.defaulted (restores_text_option 1 source.subType)
      |>.defaulted (restores_text_option 1 source.applicantReference)
      |>.defaulted (restores_text_option 1 source.importer)
      |>.defaulted (restores_option (fun value _ => restores_licenceMedium 1 value) nofun)
      |>.defaulted (restores_licenceUsage_option 1 source.usage)
      |>.defaulted (restores_text_list 0 source.origins)
      |>.defaulted (restores_text_list 0 source.consignments)
      |>.defaulted (restores_year_option 1 writable.shippingYear)
      |>.defaulted (restores_text_option 1 source.goodsCategory)
      |>.defaulted (restores_text_option 1 source.commodityCode)
      |>.defaulted (restores_flag_option 1 source.underAppeal)
      |>.defaulted (restores_date_option 1 source.licenceFrom)
      |>.defaulted (restores_date_option 1 source.licenceTo)
      |>.defaulted (restores_date_option 1 source.issuedFrom)
      |>.defaulted (restores_date_option 1 source.issuedTo)
      |>.defaulted (restores_text_option 1 source.exporter)
      |>.defaulted (restores_date_option 1 source.closedFrom)
      |>.defaulted (restores_date_option 1 source.closedTo)
      |>.defaulted (restores_text_list 0 source.certificateCountries)
      |>.defaulted (restores_text_list 0 source.manufactureCountries))
    rfl (by decide) (by decide)

end Codec

inductive WireRecord : Type → Type where
  | application : WireRecord Application
  | newApplication : WireRecord NewApplication
  | task : WireRecord Task
  | pack : WireRecord Pack
  | document : WireRecord Document
  | licenceUpdate : WireRecord LicenceUpdate
  | decisionInput : WireRecord DecisionInput
  | revokeInput : WireRecord RevokeInput
  | chiefRequest : WireRecord ChiefRequest
  | licencePayload : WireRecord LicencePayload
  | searchTerms : WireRecord SearchTerms

namespace WireRecord

def codec {α : Type} : WireRecord α → Codec α
  | .application => Codec.application
  | .newApplication => Codec.newApplication
  | .task => Codec.task
  | .pack => Codec.pack
  | .document => Codec.document
  | .licenceUpdate => Codec.licenceUpdate
  | .decisionInput => Codec.decisionInput
  | .revokeInput => Codec.revokeInput
  | .chiefRequest => Codec.chiefRequest
  | .licencePayload => Codec.licencePayload
  | .searchTerms => Codec.searchTerms

/-- The value holds nothing that has no written form. Texts, dates and choices always have one. -/
def IsWritable {α : Type} : WireRecord α → α → Prop
  | .application => Application.IsWritable
  | .newApplication => NewApplication.IsWritable
  | .task => Task.IsWritable
  | .pack => Pack.IsWritable
  | .document => Document.IsWritable
  | .licenceUpdate | .decisionInput | .revokeInput | .licencePayload => fun _ => True
  | .chiefRequest => ChiefRequest.IsWritable
  | .searchTerms => SearchTerms.IsWritable

end WireRecord

/-- What is written for a record is read as the same record. -/
theorem record_comes_back {α : Type} (record : WireRecord α) {value : α}
    (writable : record.IsWritable value) : record.codec.RoundTrips value := by
  cases record with
  | application => exact (Codec.restores_application writable).roundTrips (by decide)
  | newApplication => exact (Codec.restores_newApplication writable).roundTrips (by decide)
  | task => exact (Codec.restores_task writable).roundTrips (by decide)
  | pack => exact (Codec.restores_pack writable).roundTrips (by decide)
  | document => exact (Codec.restores_document writable).roundTrips (by decide)
  | licenceUpdate => exact (Codec.restores_licenceUpdate value).roundTrips (by decide)
  | decisionInput => exact (Codec.restores_decisionInput value).roundTrips (by decide)
  | revokeInput => exact (Codec.restores_revokeInput value).roundTrips (by decide)
  | chiefRequest => exact (Codec.restores_chiefRequest writable).roundTrips (by decide)
  | licencePayload => exact (Codec.restores_licencePayload 0 value).roundTrips (by decide)
  | searchTerms => exact (Codec.restores_searchTerms writable).roundTrips (by decide)

namespace Sample

def leapSecond : Instant :=
  { date := ⟨2016, 12, 31, by decide⟩, second := 86399, nano := 1500000000 }

def scribble : String := "\"quoted\" \\ \t\n\x01\x7f \u2212 \x7b\x7d"

def scribbler : User :=
  { id := Text.largestWord, firstName := scribble, lastName := "", email := scribble }

def utmost : Application where
  id := Text.largestWord
  processType := .textiles
  isActive := true
  status := .variationRequested
  reference := some scribble
  applicantReference := none
  decision := some .approve
  refuseReason := none
  variationDecision := some .refuse
  variationRefuseReason := some scribble
  owner := some scribbler
  created := leapSecond
  submitted := some leapSecond
  submittedBy := some Text.largestWord
  ordered := leapSecond
  contact := scribbler
  organisation := scribble
  agent := none
  usage := some .expired
  licenceNumber := some 0xffffffff
  checklist := some ⟨some .yes, some .no, some .notApplicable, none, true, false⟩
  variations := [⟨1, .opened, scribble, Text.largestWord, leapSecond, some leapSecond, none⟩]
  informationRequests := [⟨2, .draft, scribble⟩]
  updateRequests := [⟨3, .inProgress, scribble⟩]
  emails := [⟨4, .responded, scribble⟩]
  withdrawals := [⟨5, .rejected, scribble, Text.largestWord, some 0, some scribble⟩]
  goods := .textiles ⟨some scribble, none, some (-2147483648), some ⟨scribble, scribble⟩, none⟩

theorem utmost_writable : utmost.IsWritable where
  id := by decide
  owner := by
    rintro _ ⟨⟩
    exact le_refl Text.largestWord
  created := by decide
  submitted := by
    rintro _ ⟨⟩
    decide
  submittedBy := by decide
  ordered := by decide
  contact := le_refl Text.largestWord
  licenceNumber := by decide
  variations := by
    intro variation member
    rw [List.mem_singleton.1 member]
    refine ⟨by decide, by decide, by decide, ?_⟩
    rintro _ ⟨⟩
    decide
  informationRequests := by decide
  updateRequests := by decide
  emails := by decide
  withdrawals := by
    intro withdrawal member
    rw [List.mem_singleton.1 member]
    exact ⟨by decide, by decide, by decide⟩
  goods := by
    rintro _ ⟨⟩
    decide

def distantTerms : SearchTerms :=
  { caseType := .importing, typeCode := some scribble, owner := some Text.largestWord
    submittedFrom := some ⟨-262143, 1, 1, by decide⟩
    submittedTo := some ⟨262142, 12, 31, by decide⟩
    shippingYear := some 2147483647, origins := ["", scribble] }

end Sample

theorem utmost_comes_back :
    Sample.utmost.IsWritable ∧ Codec.application.RoundTrips Sample.utmost ∧
      Sample.distantTerms.IsWritable ∧ Codec.searchTerms.RoundTrips Sample.distantTerms := by
  have distant : Sample.distantTerms.IsWritable := ⟨by decide, by decide⟩
  exact ⟨Sample.utmost_writable, record_comes_back .application Sample.utmost_writable,
    distant, record_comes_back .searchTerms distant⟩

end Casework
