import Casework.Store.Application

set_option autoImplicit false

namespace Casework

open Calendar

namespace Store

def singlePack (store : Store) (processId : Nat) (status : PackStatus) : Except PackError Pack :=
  match (store.packsOf processId).filter (·.status == status) with
  | [pack] => .ok pack
  | [] => .error (.notFound processId status)
  | packs => .error (.multiple processId status packs.length)

def draftPack (store : Store) (processId : Nat) : Except PackError Pack :=
  store.singlePack processId .draft

def activePack (store : Store) (processId : Nat) : Except PackError Pack :=
  store.singlePack processId .active

def revokedPack (store : Store) (processId : Nat) : Except PackError Pack :=
  store.singlePack processId .revoked

def activePack? (store : Store) (processId : Nat) : Except PackError (Option Pack) :=
  match store.activePack processId with
  | .ok pack => .ok (some pack)
  | .error (.notFound _ _) => .ok none
  | .error error => .error error

end Store

namespace Work

def findDraft (processId : Nat) : Work Pack := ask .pack fun store => store.draftPack processId

def findActive (processId : Nat) : Work Pack := ask .pack fun store => store.activePack processId

def changePack (id : Nat) (change : Pack → Pack) : Work Unit :=
  write fun store => { store with packs := store.packs.modify id change }

-- The licence terms that a new draft starts with; a variation starts with those in force.
def initialTerms (application : Application) (isVariation : Bool) : Work LicenceUpdate :=
  if application.isImport then
    if isVariation then do
      let pack ← findActive application.id
      pure ⟨pack.startDate, pack.endDate, pack.paperOnly⟩
    else pure ⟨none, none, application.terms.initialPaperOnly⟩
  else pure ⟨none, none, none⟩

def createDraft (application : Application) (isVariation : Bool) : Work Nat := do
  let terms ← initialTerms application isVariation
  let id ← nextPack
  let now ← now
  write fun store =>
    { store with
      packs := store.packs.insert
        { id, processId := application.id, status := .draft, created := now
          caseReference := none, completed := none, paperOnly := terms.paperOnly
          startDate := terms.startDate, endDate := terms.endDate
          revokeReason := none, revokeEmailSent := false } }
  pure id

def issueDraft (application : Application) : Work Nat := do
  let draft ← findDraft application.id
  -- Both packs are looked up before either changes.
  let earlier ← ask .pack fun store => store.activePack? application.id
  let now ← now
  match earlier with
  | some pack => changePack pack.id ({ · with status := .archived })
  | none => pure ()
  changePack draft.id (·.issued application.reference now)
  pure draft.id

def archiveDraft (processId : Nat) : Work Unit := do
  let draft ← findDraft processId
  changePack draft.id ({ · with status := .archived })

def revokeActive (processId : Nat) (reason : Option String) (emailSent : Bool) : Work Nat := do
  let pack ← findActive processId
  changePack pack.id (·.revoke reason emailSent)
  pure pack.id

def updateDraft (processId : Nat) (changes : LicenceUpdate) : Work Unit := do
  let draft ← findDraft processId
  changePack draft.id (·.update changes)

def addDocument (packId : Nat) (documentType : DocumentType)
    (reference country brand : Option String) : Work Unit := do
  let id ← nextDocument
  write fun store =>
    { store with
      documents := store.documents.insert
        { id, packId, documentType, reference, country, brand
          checkCode := reference.map (Reference.checkCode packId) } }

def inOrder (names : List String) : List String :=
  names.mergeSort fun first second => !decide (second < first)

def certificateSubjects (application : Application) : List (String × Option String) :=
  match application.goods with
  | .certified goods =>
    (inOrder goods.countries).flatMap fun country =>
      if application.processType = .goodManufacturing then
        (inOrder goods.brands).map fun brand => (country, some brand)
      else [(country, none)]
  | _ => []

def addCertificates (packId : Nat) (processType : ProcessType) :
    Nat → List (String × Option String) → Work Unit
  | _, [] => pure ()
  | reading, (country, brand) :: subjects => do
    let reference ← drawCertificateReference (.pack ∘ .reference) processType reading
    addDocument packId .certificate (some reference) (some country) brand
    addCertificates packId processType (reading + 1) subjects

def createDocuments (application : Application) : Work Application := do
  let draft ← findDraft application.id
  -- Documents of an earlier attempt are replaced.
  write fun store => { store with documents := store.documents.keep (·.packId != draft.id) }
  match application.caseType with
  | .importing => do
    addDocument draft.id .coverLetter none none none
    let (reference, numbered) ←
      licenceReference (.pack ∘ .reference) application draft.paperOnly
    addDocument draft.id .licence (some reference) none none
    pure numbered
  | .exporting => do
    addCertificates draft.id application.processType 0 (certificateSubjects application)
    pure application

end Work

end Casework
