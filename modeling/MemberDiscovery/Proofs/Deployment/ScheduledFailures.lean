import MemberDiscovery.Proofs.Deployment.Requests

/-! # Scheduled failures

A registry in memory can be told to fail requests. The failures wait in a queue that all transports
to the registry share: a request takes the oldest one as its answer and does nothing else, and only
a request that finds none is performed and noted. Main statement: whatever else is done with the
registry in between, every failure answers one request, in the order in which they were scheduled,
and the operations are the accepted requests in theirs (`RegistryUse.failures_in_order`).
-/

namespace MemberDiscovery

/-- What is done with a registry, through one of its transports or directly. -/
inductive RegistryUse : Type 1 where
  /-- A request through the transport with an address. -/
  | submit {α : Type} (url : String) (request : Request α)
  | scheduleFailure (error : ClientError)
  /-- A record is put there without a request. -/
  | put (record : Instance)
  | evict (app id : String)
  /-- What the registry holds or has noted is looked at. -/
  | look {α : Type} (view : Registry → α)
  | wait (milliseconds : Nat)

namespace RegistryUse

/-- The deployment after something was done with its registry with a number. -/
def after (number : Nat) (deployment : Deployment) : RegistryUse → Deployment
  | .submit url request => ((Action.submit request (.memory number url)).exec deployment).2
  | .scheduleFailure error => deployment.intervene (.scheduleFailure number error)
  | .put record => deployment.intervene (.store number record)
  | .evict app id => deployment.intervene (.evict number app id)
  | .look _ => deployment
  | .wait milliseconds => deployment.advance milliseconds

/-- The error that answers a request, or the request as it is noted when it is accepted. -/
def answer? (number : Nat) (deployment : Deployment) :
    RegistryUse → Option (Except ClientError Operation)
  | .submit url request =>
    some (((Action.submit request (.memory number url)).exec deployment).1.map fun _ =>
      request.operation)
  | _ => none

def scheduled? : RegistryUse → Option ClientError
  | .scheduleFailure error => some error
  | _ => none

def afterAll (number : Nat) (deployment : Deployment) (uses : List RegistryUse) : Deployment :=
  uses.foldl (after number) deployment

/-- The answers to the requests, in the order in which they are made. -/
def answers (number : Nat) (deployment : Deployment) :
    List RegistryUse → List (Except ClientError Operation)
  | [] => []
  | use :: uses =>
    (use.answer? number deployment).toList ++ answers number (use.after number deployment) uses

end RegistryUse

/-- The error of an answer. -/
def refusal? {α : Type} : Except ClientError α → Option ClientError
  | .error error => some error
  | .ok _ => none

namespace Registry

/-- Requests were answered and failures scheduled. The accepted requests are noted, and the failures
that answer the others are taken from the front of the queue. -/
structure Answered (before after : Registry) (answers : List (Except ClientError Operation))
    (scheduled : List ClientError) : Prop where
  operations : after.operations = before.operations ++ answers.filterMap Except.toOption
  failures : before.failures ++ scheduled = answers.filterMap refusal? ++ after.failures

namespace Answered

theorem refl (registry : Registry) : registry.Answered registry [] [] where
  operations := by simp
  failures := by simp

theorem trans {before between after : Registry}
    {earlier later : List (Except ClientError Operation)} {scheduled added : List ClientError}
    (hearlier : before.Answered between earlier scheduled)
    (hlater : between.Answered after later added) :
    before.Answered after (earlier ++ later) (scheduled ++ added) where
  operations := by
    rw [hlater.operations, hearlier.operations, List.filterMap_append, List.append_assoc]
  failures := by
    rw [← List.append_assoc, hearlier.failures, List.append_assoc, hlater.failures,
      List.filterMap_append, List.append_assoc]

theorem of_eq {before after : Registry} (hoperations : after.operations = before.operations)
    {scheduled : List ClientError} (hfailures : after.failures = before.failures ++ scheduled) :
    before.Answered after [] scheduled where
  operations := by rw [hoperations, List.filterMap_nil, List.append_nil]
  failures := by rw [hfailures, List.filterMap_nil, List.nil_append]

end Answered

end Registry

namespace RegistryUse

variable {number : Nat} {deployment : Deployment}

theorem registry_setRegistry (deployment : Deployment) (registry : Registry) :
    (deployment.setRegistry number registry).registries.get number = registry := by
  simp

/-- What is no request uses up no failure and is not noted. -/
theorem answered_of_answer?_eq_none {use : RegistryUse}
    (huse : use.answer? number deployment = none) :
    (deployment.registries.get number).Answered
      ((use.after number deployment).registries.get number) [] use.scheduled?.toList := by
  cases use with
  | submit url request => cases huse
  | scheduleFailure error =>
      rw [after, Deployment.intervene, registry_setRegistry]
      apply Registry.Answered.of_eq
      · rfl
      · rfl
  | put record =>
      rw [after, Deployment.intervene, registry_setRegistry]
      apply Registry.Answered.of_eq
      · rfl
      · exact (List.append_nil _).symm
  | evict app id =>
      rw [after, Deployment.intervene, registry_setRegistry]
      apply Registry.Answered.of_eq
      · exact Registry.evict_operations _ app id
      · rw [Registry.evict_failures]
        exact (List.append_nil _).symm
  | look view => exact .refl _
  | wait milliseconds => exact .refl _

theorem answered_after (use : RegistryUse) :
    (deployment.registries.get number).Answered
      ((use.after number deployment).registries.get number)
      (use.answer? number deployment).toList use.scheduled?.toList := by
  cases use with
  | submit url request =>
      rw [after, answer?]
      cases hfailures : (deployment.registries.get number).failures with
      | nil =>
          rw [Action.exec_submit_of_failures_eq_nil hfailures, registry_setRegistry]
          exact ⟨rfl, by rw [hfailures]; rfl⟩
      | cons error left =>
          rw [Action.exec_submit_of_failures_eq_cons hfailures, registry_setRegistry]
          exact ⟨(List.append_nil _).symm, by rw [hfailures]; exact List.append_nil _⟩
  | _ => exact answered_of_answer?_eq_none rfl

theorem answered_afterAll (uses : List RegistryUse) (deployment : Deployment) :
    (deployment.registries.get number).Answered
      ((afterAll number deployment uses).registries.get number)
      (answers number deployment uses) (uses.filterMap scheduled?) := by
  induction uses generalizing deployment with
  | nil => exact .refl _
  | cons use uses ih =>
      have hscheduled : (use :: uses).filterMap scheduled? =
          use.scheduled?.toList ++ uses.filterMap scheduled? := by
        rw [List.filterMap_cons]
        cases use.scheduled? <;> rfl
      rw [hscheduled]
      exact (answered_after use).trans (ih _)

/-- Failures that are scheduled at a registry answer the requests to come, one each and in order,
through whatever transport they are made. At every point a request takes the oldest failure and
changes nothing else, or, if there is none, it succeeds and is noted last. Nothing but requests uses
up failures or is noted, so the operations are the accepted requests in order. -/
theorem failures_in_order (number : Nat) (deployment : Deployment) (uses : List RegistryUse) :
    (deployment.registries.get number).Answered
      ((afterAll number deployment uses).registries.get number)
      (answers number deployment uses) (uses.filterMap scheduled?) ∧
    (∀ {α : Type} (url : String) (request : Request α) error left,
      ((afterAll number deployment uses).registries.get number).failures = error :: left →
        (Action.submit request (.memory number url)).exec (afterAll number deployment uses) =
          (.error error, (afterAll number deployment uses).setRegistry number
            { (afterAll number deployment uses).registries.get number with failures := left })) ∧
    (∀ {α : Type} (url : String) (request : Request α),
      ((afterAll number deployment uses).registries.get number).failures = [] →
        ∃ answer stored,
          (Action.submit request (.memory number url)).exec (afterAll number deployment uses) =
            (.ok answer, (afterAll number deployment uses).setRegistry number stored) ∧
          stored.operations =
            ((afterAll number deployment uses).registries.get number).operations ++
              [request.operation] ∧ stored.failures = []) ∧
    ∀ use : RegistryUse, use.answer? number (afterAll number deployment uses) = none →
      ((afterAll number deployment uses).registries.get number).Answered
        ((use.after number (afterAll number deployment uses)).registries.get number) []
        use.scheduled?.toList := by
  refine ⟨answered_afterAll uses deployment, ?_, ?_, ?_⟩
  · intro α url request error left hfailures
    exact Action.exec_submit_of_failures_eq_cons hfailures url request
  · intro α url request hfailures
    exact ⟨_, _, Action.exec_submit_of_failures_eq_nil hfailures url request, rfl, rfl⟩
  · exact fun use huse => answered_of_answer?_eq_none huse

end RegistryUse

end MemberDiscovery
