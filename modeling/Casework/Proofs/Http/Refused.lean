import Casework.Http.Service
import Casework.Proofs.Chief.Outbox

set_option autoImplicit false

namespace Casework

open Calendar

theorem Desk.eq_of_keeps {desk after : Desk} (kept : ∀ part, desk.Keeps after part) :
    after = desk := by
  obtain ⟨applications, lastProcess⟩ := kept .applications
  obtain ⟨packs, lastPack⟩ := kept .packs
  obtain ⟨documents, lastDocument⟩ := kept .documents
  obtain ⟨requests, lastRequest⟩ := kept .requests
  have tasks : after.store.tasks = desk.store.tasks := kept .tasks
  have sequences : after.store.sequences = desk.store.sequences := kept .sequences
  have lastRecord : after.store.lastRecord = desk.store.lastRecord := kept .records
  have accepted : after.accepted = desk.accepted := kept .outbox
  rcases desk with ⟨⟨⟩, _⟩
  rcases after with ⟨⟨⟩, _⟩
  simp only at *
  subst_vars
  rfl

theorem System.unchanged_of_reading (system : System) (setting : Setting) {operation : Operation}
    (reads : operation.parts = []) : (system.perform setting operation).2 = system := by
  have kept := (operation.touches_work (setting.around system) system.desk).1
  rw [reads] at kept
  have same : (operation.work (setting.around system) system.desk).2 = system.desk :=
    Desk.eq_of_keeps fun part => kept part List.not_mem_nil
  rcases ran : operation.work (setting.around system) system.desk with ⟨error | value, desk⟩
  · obtain rfl : desk = system.desk := by rw [← same, ran]
    rw [perform_of_error ran]
    rfl
  · obtain rfl : desk = system.desk := by rw [← same, ran]
    rw [perform_of_ok ran]
    rfl

namespace Http

def Plan.Succeeds (plan : Plan) : Prop := ∀ answer, (plan.respond answer).status < 400

def Route.Safe (route : Route) : Prop :=
  ∀ place request plan, route.handler place request = .ok plan →
    plan.Succeeds ∧ (route.method ≠ .post → plan.operation.parts = [])

namespace Plan

variable (operation : Operation)

theorem succeeds_answering {status : Nat} (small : status < 400) :
    (answering status operation).Succeeds := fun _ => small

theorem succeeds_silent : (silent operation).Succeeds := fun _ => by simp [silent]

theorem succeeds_about (id : Nat) (name : String) (result : Answer → Json) :
    (about id operation name result).Succeeds := fun _ => by simp [about, Response.json]

theorem succeeds_saving (caseType : CaseType) : (saving caseType operation).Succeeds := by
  intro answer
  simp only [saving]
  split <;> simp

end Plan

theorem planned_bind {α β : Type} {first : Except Refusal α} {next : α → Except Refusal β}
    {made : β} (planned : first >>= next = .ok made) : ∃ value, next value = .ok made := by
  cases first with
  | error refusal => cases planned
  | ok value => exact ⟨value, planned⟩

namespace Route

variable {α : Type}

theorem safe_of_post {route : Route} (changes : route.method = .post)
    (succeeds : ∀ place request plan, route.handler place request = .ok plan → plan.Succeeds) :
    route.Safe :=
  fun place request plan planned =>
    ⟨succeeds place request plan planned, fun reading => absurd changes reading⟩

theorem safe_onCases (below : List String) (form : Codec α)
    {plan : CaseType → α → Except Refusal Plan}
    (succeeds : ∀ caseType value made, plan caseType value = .ok made → made.Succeeds) :
    (onCases below form plan).Safe := by
  refine safe_of_post rfl fun place request made planned => ?_
  obtain ⟨value, planned⟩ := planned_bind planned
  obtain ⟨caseType, planned⟩ := planned_bind planned
  exact succeeds caseType value made planned

theorem safe_onCase (below : List String) {plan : CaseType → Nat → Plan}
    (succeeds : ∀ caseType id, (plan caseType id).Succeeds) : (onCase below plan).Safe := by
  refine safe_of_post rfl fun place request made planned => ?_
  obtain ⟨caseType, planned⟩ := planned_bind planned
  cases planned
  exact succeeds caseType place.id

theorem safe_onCaseWith (below : List String) (form : Codec α) {plan : CaseType → Nat → α → Plan}
    (succeeds : ∀ caseType id value, (plan caseType id value).Succeeds) :
    (onCaseWith below form plan).Safe := by
  refine safe_of_post rfl fun place request made planned => ?_
  obtain ⟨value, planned⟩ := planned_bind planned
  obtain ⟨caseType, planned⟩ := planned_bind planned
  cases planned
  exact succeeds caseType place.id value

theorem safe_onEntry (entries action : String)
    (operation : CaseType → Nat → Nat → Operation) : (onEntry entries action operation).Safe := by
  refine safe_of_post rfl fun place request made planned => ?_
  obtain ⟨caseType, planned⟩ := planned_bind planned
  cases planned
  exact Plan.succeeds_answering _ (by decide)

theorem safe_onLicences (name : String) {operation : Operation} (reads : operation.parts = []) :
    (onLicences name operation).Safe := by
  intro place request made planned
  cases planned
  exact ⟨Plan.succeeds_answering _ (by decide), fun _ => reads⟩

theorem safe_onLicence (action : String) {plan : Nat → Plan}
    (succeeds : ∀ id, (plan id).Succeeds) : (onLicence action plan).Safe := by
  refine safe_of_post rfl fun place request made planned => ?_
  cases planned
  exact succeeds place.id

theorem safe_onRejection : onRejection.Safe := by
  refine safe_of_post rfl fun place request made planned => ?_
  obtain ⟨errors, planned⟩ := planned_bind planned
  cases planned
  exact Plan.succeeds_about _ _ _ _

theorem safe_view : view.Safe := by
  intro place request made planned
  obtain ⟨caseType, planned⟩ := planned_bind planned
  cases planned
  exact ⟨Plan.succeeds_answering _ (by decide), fun _ => rfl⟩

theorem safe_creation : creation.Safe := by
  refine safe_onCases _ _ fun caseType form made planned => ?_
  split at planned
  next =>
    cases planned
    exact Plan.succeeds_answering _ (by decide)
  next => cases planned

theorem safe_searching (below : List String) {plan : CaseType → Input.Search → Plan}
    (succeeds : ∀ caseType form, (plan caseType form).Succeeds) : (searching below plan).Safe := by
  refine safe_onCases _ _ fun caseType form made planned => ?_
  split at planned
  next =>
    cases planned
    exact succeeds caseType form
  next => cases planned

theorem safe_reassignment : reassignment.Safe := by
  refine safe_onCases _ _ fun caseType form made planned => ?_
  cases planned
  exact fun _ => by simp [Response.json]

theorem safe_ofCases : ∀ route ∈ ofCases, route.Safe := by
  simp only [ofCases, List.forall_mem_cons, List.not_mem_nil, false_implies, implies_true, and_true]
  exact ⟨safe_creation, safe_searching _ fun _ _ => Plan.succeeds_answering _ (by decide),
    safe_searching _ fun _ _ => Plan.succeeds_saving _ _, safe_reassignment⟩

theorem safe_ofApplicant : ∀ route ∈ ofApplicant, route.Safe := by
  simp only [ofApplicant, List.forall_mem_cons, List.not_mem_nil, false_implies, implies_true,
    and_true]
  refine ⟨safe_view, ?_, ?_, ?_, ?_⟩
  case refine_2 => exact safe_onCase _ fun _ _ => Plan.succeeds_silent _
  all_goals exact safe_onCaseWith _ _ fun _ _ _ => Plan.succeeds_answering _ (by decide)

theorem safe_ofCaseworker : ∀ route ∈ ofCaseworker, route.Safe := by
  simp only [ofCaseworker, List.forall_mem_cons, List.not_mem_nil, false_implies, implies_true,
    and_true]
  and_intros
  all_goals first
    | exact safe_onCase _ fun _ _ => Plan.succeeds_answering _ (by decide)
    | exact safe_onCaseWith _ _ fun _ _ _ => Plan.succeeds_answering _ (by decide)

theorem safe_ofCorrespondence : ∀ route ∈ ofCorrespondence, route.Safe := by
  simp only [ofCorrespondence, List.forall_mem_cons, List.not_mem_nil, false_implies, implies_true,
    and_true]
  and_intros
  all_goals first
    | exact safe_onEntry _ _ _
    | exact safe_onCaseWith _ _ fun _ _ _ => Plan.succeeds_answering _ (by decide)

theorem safe_ofChief : ∀ route ∈ ofChief, route.Safe := by
  simp only [ofChief, List.forall_mem_cons, List.not_mem_nil, false_implies, implies_true, and_true]
  exact ⟨safe_onLicences _ rfl, safe_onLicences _ rfl,
    safe_onLicence _ fun _ => Plan.succeeds_about _ _ _ _, safe_onRejection,
    safe_onLicence _ fun _ => Plan.succeeds_about _ _ _ _,
    safe_onLicence _ fun _ => Plan.succeeds_silent _⟩

theorem safe_all : ∀ route ∈ all, route.Safe := by
  simp only [all, List.forall_mem_append]
  exact ⟨⟨⟨⟨safe_ofCases, safe_ofApplicant⟩, safe_ofCaseworker⟩, safe_ofCorrespondence⟩,
    safe_ofChief⟩

theorem method_of_allows {route : Route} {method : Method} (allowed : route.allows method = true)
    (reading : method = .get ∨ method = .head) : route.method ≠ .post := by
  intro changes
  rcases reading with rfl | rfl <;> rw [allows, changes] at allowed <;> cases allowed

end Route

theorem Request.plan_safe {request : Request} {plan : Plan} (planned : request.plan = .ok plan) :
    plan.Succeeds ∧
      (request.method = .get ∨ request.method = .head → plan.operation.parts = []) := by
  unfold Request.plan at planned
  split at planned
  next => cases planned
  next path _ =>
    split at planned
    next => cases planned
    next route found =>
      split at planned
      next => cases planned
      next allowed =>
        split at planned
        next => cases planned
        next place _ =>
          obtain ⟨succeeds, reads⟩ :=
            Route.safe_all route (List.mem_of_find?_eq_some found) place request plan planned
          have allowed : route.allows request.method = true := by simpa using allowed
          exact ⟨succeeds, fun reading => reads (Route.method_of_allows allowed reading)⟩

section Respond

variable {system : System} {setting : Setting} {request : Request}

theorem respond_state :
    (respond system setting request).2 = (answer system setting request).2 := rfl

theorem respond_status :
    (respond system setting request).1.status = (answer system setting request).1.status := by
  simp only [respond]
  split <;> rfl

theorem answer_of_refused {refusal : Refusal} (refused : request.plan = .error refusal) :
    answer system setting request = (refusal.response, system) := by
  simp only [answer, refused]

theorem answer_of_planned {plan : Plan} (planned : request.plan = .ok plan) :
    (answer system setting request).2 = (system.perform setting plan.operation).2 ∧
      ((∃ error, (system.perform setting plan.operation).1 = .error error) ∨
        ∃ value, (answer system setting request).1 = plan.respond value) := by
  simp only [answer, planned]
  rcases system.perform setting plan.operation with ⟨error | value, after⟩
  · exact ⟨rfl, .inl ⟨error, rfl⟩⟩
  · exact ⟨rfl, .inr ⟨value, rfl⟩⟩

end Respond

/-- A request that is refused, or that only asks to be shown something, leaves all cases, the
numbers to be given out and what the register has been sent as they were. -/
theorem refused_unchanged (steps : List Step) (setting : Setting) (request : Request)
    (without : 400 ≤ (respond (System.initial.follow steps) setting request).1.status ∨
      request.method = .get ∨ request.method = .head) :
    (respond (System.initial.follow steps) setting request).2 = System.initial.follow steps := by
  rw [respond_status] at without
  rw [respond_state]
  cases planned : request.plan with
  | error refusal => rw [answer_of_refused planned]
  | ok plan =>
    obtain ⟨succeeds, reads⟩ := Request.plan_safe planned
    obtain ⟨after, outcome⟩ := answer_of_planned planned
    rw [after]
    rcases without with refused | reading
    · rcases outcome with ⟨error, failed⟩ | ⟨value, responded⟩
      · exact System.unchanged_of_error (System.sound_follow steps) failed
      · rw [responded] at refused
        exact absurd (succeeds value) (Nat.not_lt.mpr refused)
    · exact System.unchanged_of_reading _ setting (reads reading)

end Http

namespace Sample

def signedReport : Http.Request where
  method := .post
  target := "/api/v1/case/import/1/documents-signed"
  contentType := none
  body := ""

def pendingStatus : Http.Request where
  method := .head
  target := "/api/v1/chief/pending"
  contentType := none
  body := ""

end Sample

theorem resent_unchanged :
    (Http.respond (System.initial.follow Sample.resent) Sample.signedAgain.setting
        Sample.signedReport).1.status = 403 ∧
      (Http.respond (System.initial.follow Sample.resent) Sample.signedAgain.setting
        Sample.signedReport).2 = System.initial.follow Sample.resent ∧
      (Http.respond (System.initial.follow Sample.resent) Sample.signedAgain.setting
        Sample.pendingStatus).1.status = 200 ∧
      (Http.respond (System.initial.follow Sample.resent) Sample.signedAgain.setting
        Sample.pendingStatus).2 = System.initial.follow Sample.resent := by
  have status : (Http.respond (System.initial.follow Sample.resent) Sample.signedAgain.setting
      Sample.signedReport).1.status = 403 := by decide +kernel
  exact ⟨status, Http.refused_unchanged _ _ _ (.inl (by rw [status]; decide)), by decide +kernel,
    Http.refused_unchanged _ _ _ (.inr (.inr rfl))⟩

end Casework
