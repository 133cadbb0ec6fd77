import Casework.Http.MediaType
import Casework.Http.Message
import Casework.Json.Reader

set_option autoImplicit false

namespace Casework.Http

inductive Refusal where
  | unknownPath
  | wrongMethod
  | badParameter
  | notJson
  | tooLarge
  | malformed
  | mismatched
  | unknownCaseType
  | otherApplication (processType : ProcessType) (caseType : CaseType)
  | otherTerms (caseType : CaseType)
deriving DecidableEq, Repr

def Refusal.response : Refusal → Response
  | .unknownPath => ⟨404, .empty⟩
  | .wrongMethod => ⟨405, .empty⟩
  | .badParameter => ⟨400, .empty⟩
  | .notJson => ⟨415, .empty⟩
  | .tooLarge => ⟨413, .empty⟩
  | .malformed => ⟨400, .empty⟩
  | .mismatched => ⟨422, .empty⟩
  | .unknownCaseType => .problem 404 "not found"
  | .otherApplication processType caseType =>
    .problem 400 (processType.label ++ " is not a " ++ caseType.code ++ " application")
  | .otherTerms caseType =>
    .problem 400 ("search terms must be for " ++ caseType.code ++ " cases")

def Refusal.ofFault : Fault → Refusal
  | .malformed => .malformed
  | .mismatch => .mismatched

def largestBody : Nat := 2 * 1024 * 1024

def Request.read {α : Type} (request : Request) (codec : Codec α) : Except Refusal α :=
  if !(request.contentType.map MediaType.isJson).getD false then .error .notJson
  else if largestBody < request.body.utf8ByteSize then .error .tooLarge
  else (codec.decode (Json.ofText request.body)).mapError .ofFault

namespace Input

def member {α : Type} (name : String) (codec : Codec α) : Codec α :=
  .record ((Fields.of fun value => value).required name codec fun value => value)

def actor : Codec User := member "user" .user

def subject : Codec String := member "request_subject" .text

def recipient : Codec String := member "to" .text

structure Creation where
  user : User
  draft : NewApplication

def creation : Codec Creation := .record <|
  (Fields.of Creation.mk)
    |>.required "user" .user (·.user)
    |>.required "application" .newApplication (·.draft)

structure WithdrawalReason where
  user : User
  reason : String

def withdrawalReason : Codec WithdrawalReason := .record <|
  (Fields.of WithdrawalReason.mk)
    |>.required "user" .user (·.user)
    |>.required "reason" .text (·.reason)

structure WithdrawalReply where
  user : User
  accept : Bool
  answer : Option String

def withdrawalReply : Codec WithdrawalReply := .record <|
  (Fields.of WithdrawalReply.mk)
    |>.required "user" .user (·.user)
    |>.required "accept" .flag (·.accept)
    |>.defaulted none "response" Codec.text.option (·.answer)

structure Variation where
  user : User
  whatVaried : String

def variation : Codec Variation := .record <|
  (Fields.of Variation.mk)
    |>.required "user" .user (·.user)
    |>.required "what_varied" .text (·.whatVaried)

structure Reassignment where
  ids : List Nat
  owner : User

def reassignment : Codec Reassignment := .record <|
  (Fields.of Reassignment.mk)
    |>.required "applications" Codec.id.list (·.ids)
    |>.required "new_owner" .user (·.owner)

structure Search where
  terms : SearchTerms
  user : Option User
  limit : Option Nat

def search : Codec Search := .record <|
  (Fields.of Search.mk)
    |>.required "terms" .searchTerms (·.terms)
    |>.defaulted none "user" Codec.user.option (·.user)
    |>.defaulted none "limit" (Codec.natural Text.largestWord).option (·.limit)

def rejection : Codec (List ChiefResponseError) := .record <|
  (Fields.of fun errors => errors).defaulted [] "errors" Codec.chiefResponseError.list fun errors =>
    errors

end Input

end Casework.Http
