import MemberDiscovery.Discovery.StatusPolicy
import MemberDiscovery.Proofs.Deployment.Connection
import MemberDiscovery.Proofs.Deployment.Stability

/-! # What a policy does to a record

A policy may add metadata to a record and then sets its status. `StatusPolicy.restated` is the
manager of the record after that. Only the change of the status can lead to a publication; the
metadata alone does not.
-/

namespace MemberDiscovery

namespace StatusPolicy

/-- Whether the policy sets statuses. -/
def applies : StatusPolicy → Bool
  | .disabled | .noting _ => false
  | .forwarding => true
  | .publishing _ selfRegistration _ => selfRegistration

/-- The manager after the metadata was added. -/
def prepared (policy : StatusPolicy) (now : Timestamp) (manager : InstanceManager) :
    InstanceManager :=
  match policy with
  | .publishing address true groupName =>
    manager.addMetadata now (publishedEntries address groupName)
  | _ => manager

/-- The entries of an address are in the metadata afterwards, whatever was there before. -/
theorem get?_insertAll_publishedEntries (address : Address) (groupName : String)
    (metadata : Table String) :
    (metadata.insertAll (publishedEntries address groupName)).get? MetadataKeys.host =
        some address.host ∧
      (metadata.insertAll (publishedEntries address groupName)).get? MetadataKeys.port =
        some (Integer.render address.port.toNat) ∧
      (metadata.insertAll (publishedEntries address groupName)).get? MetadataKeys.groupName =
        some groupName := by
  have hkeys : MetadataKeys.host ≠ MetadataKeys.port ∧
      MetadataKeys.host ≠ MetadataKeys.groupName ∧ MetadataKeys.port ≠ MetadataKeys.groupName := by
    decide
  obtain ⟨hport, hhost, hgroup⟩ := hkeys
  simp [publishedEntries, Table.insertAll, hport.symm, hhost, hgroup]

/-- The manager after the policy was applied. -/
def restated (policy : StatusPolicy) (now : Timestamp) (status : InstanceStatus)
    (manager : InstanceManager) : InstanceManager :=
  if policy.applies then ((policy.prepared now manager).setStatus now status).2 else manager

section Restated

variable (policy : StatusPolicy) (now : Timestamp) (status : InstanceStatus)
  (manager : InstanceManager)

@[simp] theorem prepared_config : (policy.prepared now manager).config = manager.config := by
  unfold prepared
  split <;> rfl

@[simp] theorem prepared_listeners :
    (policy.prepared now manager).listeners = manager.listeners := by
  unfold prepared
  split <;> rfl

@[simp] theorem prepared_app : (policy.prepared now manager).record.app = manager.record.app := by
  unfold prepared
  split <;> rfl

@[simp] theorem prepared_id : (policy.prepared now manager).record.id = manager.record.id := by
  unfold prepared
  split <;> rfl

@[simp] theorem prepared_status :
    (policy.prepared now manager).record.status = manager.record.status := by
  unfold prepared
  split <;> rfl

@[simp] theorem restated_config : (policy.restated now status manager).config = manager.config := by
  unfold restated
  split <;> simp

@[simp] theorem restated_listeners :
    (policy.restated now status manager).listeners = manager.listeners := by
  unfold restated
  split <;> simp

@[simp] theorem restated_app :
    (policy.restated now status manager).record.app = manager.record.app := by
  unfold restated
  split <;> simp

@[simp] theorem restated_id :
    (policy.restated now status manager).record.id = manager.record.id := by
  unfold restated
  split <;> simp

@[simp] theorem restated_publishers :
    (policy.restated now status manager).publishers = manager.publishers := by
  simp [InstanceManager.publishers]

end Restated

variable {policy : StatusPolicy} {manager : Nat} {status : InstanceStatus}
  {deployment : Deployment}

theorem exec_apply_of_not_applies (happlies : policy.applies = false) (manager : Nat)
    (status : InstanceStatus) (deployment : Deployment) :
    ∃ trace, (policy.apply manager status).exec deployment =
      ((), { deployment.setManager manager
        (policy.restated deployment.clock status (deployment.managers.get manager)) with
        trace }) := by
  rw [restated, if_neg (by simp [happlies]), Deployment.setManager_get]
  cases policy with
  | disabled => exact ⟨deployment.trace, rfl⟩
  | forwarding => simp [applies] at happlies
  | publishing address selfRegistration groupName =>
      simp only [applies] at happlies
      subst happlies
      exact ⟨deployment.trace, rfl⟩
  | noting registers => exact ⟨_, rfl⟩

/-- A policy that sets statuses does so after its metadata was added. -/
theorem exec_apply_of_applies (happlies : policy.applies = true) :
    (policy.apply manager status).exec deployment =
      (Action.setStatus manager status).exec
        (deployment.setManager manager
          (policy.prepared deployment.clock (deployment.managers.get manager))) := by
  cases policy with
  | disabled => simp [applies] at happlies
  | forwarding =>
      simp only [prepared, Deployment.setManager_get]
      rfl
  | publishing address selfRegistration groupName =>
      simp only [applies] at happlies
      subst happlies
      rfl
  | noting registers => simp [applies] at happlies

theorem restated_setManager_prepared (happlies : policy.applies = true) :
    (deployment.setManager manager
      (policy.prepared deployment.clock (deployment.managers.get manager))).restated manager
        status =
      deployment.setManager manager
        (policy.restated deployment.clock status (deployment.managers.get manager)) := by
  simp [Deployment.restated, Deployment.setManager, restated, happlies]

theorem exec_apply_of_publishers_eq_nil
    (hpublishers : (deployment.managers.get manager).publishers = []) (policy : StatusPolicy)
    (status : InstanceStatus) :
    ∃ trace, (policy.apply manager status).exec deployment =
      ((), { deployment.setManager manager
        (policy.restated deployment.clock status (deployment.managers.get manager)) with
        trace }) := by
  cases happlies : policy.applies with
  | false => exact exec_apply_of_not_applies happlies manager status deployment
  | true =>
      have hnone : ((deployment.setManager manager (policy.prepared deployment.clock
          (deployment.managers.get manager))).managers.get manager).publishers = [] := by
        simpa [InstanceManager.publishers] using hpublishers
      obtain ⟨trace, hexec⟩ := Action.exec_setStatus_of_publishers_eq_nil hnone status
      refine ⟨trace, ?_⟩
      rw [exec_apply_of_applies happlies, hexec, restated_setManager_prepared happlies]

/-- Where nobody listens, no more is noted than while a record is set up. -/
theorem setupNoted_apply (hlisteners : (deployment.managers.get manager).listeners = ∅)
    (policy : StatusPolicy) (status : InstanceStatus) :
    SetupNoted deployment.trace ((policy.apply manager status).exec deployment).2.trace := by
  have hset : ∀ ready : Deployment, (ready.managers.get manager).listeners = ∅ →
      SetupNoted ready.trace ((Action.setStatus manager status).exec ready).2.trace := by
    intro ready hready
    by_cases hstatus : (ready.managers.get manager).record.status = status
    · rw [Action.exec_setStatus_of_eq hstatus]
      exact .refl _
    · obtain ⟨message, hexec⟩ := Action.exec_setStatus_told hstatus
      rw [hexec, hready]
      exact (SetupNoted.refl _).snoc trivial
  cases happlies : policy.applies with
  | true =>
      rw [exec_apply_of_applies happlies]
      exact hset _ (by simpa using hlisteners)
  | false =>
      cases policy with
      | disabled => exact .refl _
      | forwarding => simp [applies] at happlies
      | publishing address selfRegistration groupName =>
          simp only [applies] at happlies
          subst happlies
          exact .refl _
      | noting registers => exact (SetupNoted.refl _).snoc trivial

theorem exec_apply_of_eq (hstatus : (deployment.managers.get manager).record.status = status)
    (policy : StatusPolicy) :
    ∃ trace, (policy.apply manager status).exec deployment =
      ((), { deployment.setManager manager
        (policy.restated deployment.clock status (deployment.managers.get manager)) with
        trace }) := by
  cases happlies : policy.applies with
  | false => exact exec_apply_of_not_applies happlies manager status deployment
  | true =>
      have heq : ((deployment.setManager manager (policy.prepared deployment.clock
          (deployment.managers.get manager))).managers.get manager).record.status = status := by
        simpa using hstatus
      refine ⟨deployment.trace, ?_⟩
      rw [exec_apply_of_applies happlies, Action.exec_setStatus_of_eq heq,
        ← restated_setManager_prepared happlies, Deployment.restated_of_eq heq]
      rfl

theorem exec_apply_of_publisher {number : Nat} {client : RegistryClient}
    (hpublishers : (deployment.managers.get manager).publishers = [number])
    (hclient : deployment.clients.get number = .registry client)
    (happlies : policy.applies = true)
    (hstatus : (deployment.managers.get manager).record.status ≠ status) :
    ∃ change earlier later, (policy.apply manager status).exec deployment =
      ((), { ((Action.push client change).exec { deployment.setManager manager
        (policy.restated deployment.clock status (deployment.managers.get manager)) with
        trace := earlier }).2 with trace := later }) := by
  rw [exec_apply_of_applies happlies, ← restated_setManager_prepared happlies]
  refine Action.exec_setStatus_of_publisher ?_ hclient ?_
  · simpa [InstanceManager.publishers] using hpublishers
  · simpa using hstatus

/-- The one client that listens publishes the record with its new status. -/
theorem exec_apply_published {registry number : Nat}
    (hattached : deployment.Attached registry manager number) (happlies : policy.applies = true)
    (hstatus : (deployment.managers.get manager).record.status ≠ status) :
    ∃ answer, Deployment.Publication registry manager
      (deployment.setManager manager
        (policy.restated deployment.clock status (deployment.managers.get manager)))
      answer ((policy.apply manager status).exec deployment).2 := by
  obtain ⟨client, hclient, hmanager, hserved, hlive⟩ := hattached.client
  rw [exec_apply_of_applies happlies, ← restated_setManager_prepared happlies, ← hmanager]
  refine Action.exec_setStatus_published ?_ hclient hserved hlive ?_
  · simpa [InstanceManager.publishers, hmanager] using hattached.publishers
  · simpa [hmanager] using hstatus

/-- With one client that listens there is one publication or none. -/
theorem exec_apply_of_attached {registry number : Nat}
    (hattached : deployment.Attached registry manager number) (policy : StatusPolicy)
    (status : InstanceStatus) :
    (∃ trace, (policy.apply manager status).exec deployment =
      ((), { deployment.setManager manager
        (policy.restated deployment.clock status (deployment.managers.get manager)) with
        trace })) ∨
    ∃ answer, Deployment.Publication registry manager
      (deployment.setManager manager
        (policy.restated deployment.clock status (deployment.managers.get manager)))
      answer ((policy.apply manager status).exec deployment).2 := by
  by_cases hstatus : (deployment.managers.get manager).record.status = status
  · exact .inl (exec_apply_of_eq hstatus policy)
  · cases happlies : policy.applies with
    | false => exact .inl (exec_apply_of_not_applies happlies manager status deployment)
    | true => exact .inr (exec_apply_published hattached happlies hstatus)

theorem keeps_apply {P : Deployment → Prop} (hlasting : Action.Lasting P)
    (policy : StatusPolicy) (manager : Nat) (status : InstanceStatus) :
    Action.Keeps P (policy.apply manager status) := by
  cases policy with
  | disabled => exact .pure _
  | forwarding => exact hlasting.setStatus manager status
  | publishing address selfRegistration groupName =>
      apply Action.Keeps.ite
      · apply Action.Keeps.bind
        · exact hlasting.modifyManager (fun _ _ => rfl) (fun _ _ => rfl) fun _ _ => rfl
        · intro _
          exact hlasting.setStatus manager status
      · exact .pure _
  | noting registers =>
      exact .modify fun deployment => hlasting.network deployment deployment.network _

end StatusPolicy

end MemberDiscovery
