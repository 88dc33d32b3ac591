import MemberDiscovery.Deployment.Client
import MemberDiscovery.Proofs.Deployment.Publishing

/-! # Renewals

A renewal that succeeds leaves the registry with a copy of the record, but it sends the record only
if the registry had lost it. So the status of the copy is that of the last registration that was
taken, and `Registry.Mirrors` says when that is the present one.
-/

namespace MemberDiscovery

namespace Registry

/-- The status in the last registration of a record that was taken. -/
def registeredStatus? (registry : Registry) (app id : String) : Option InstanceStatus :=
  registry.operations.reverse.findSome? fun operation =>
    match operation with
    | .register otherApp otherId status =>
      if otherApp = app ∧ otherId = id then some status else none
    | _ => none

theorem registeredStatus?_accept_register (now : Timestamp) (record : Instance)
    (registry : Registry) :
    (registry.accept now (.register record)).2.registeredStatus? record.app record.id =
      some record.status := by
  simp [registeredStatus?, Request.operation]

theorem registeredStatus?_accept_heartbeat (now : Timestamp) (record : Instance)
    (registry : Registry) (app id : String) :
    (registry.accept now (.heartbeat record)).2.registeredStatus? app id =
      registry.registeredStatus? app id := by
  simp [registeredStatus?, Request.operation]

theorem registeredStatus?_accept_lookup (now : Timestamp) (looked : String) (registry : Registry)
    (app id : String) :
    (registry.accept now (.lookup looked)).2.registeredStatus? app id =
      registry.registeredStatus? app id := by
  simp [registeredStatus?, Request.operation]

theorem registeredStatus?_congr {left right : Registry} (h : left.operations = right.operations) :
    left.registeredStatus? = right.registeredStatus? := by
  funext app id
  rw [registeredStatus?, registeredStatus?, h]

/-- A registry holds a record at most once, with the status in which it was registered last. That is
the present status of the record unless it is dirty. -/
def Mirrors (registry : Registry) (record : Instance) : Prop :=
  registry.copies record.app record.id = [] ∨
    ∃ copy, registry.copies record.app record.id = [copy] ∧
      registry.registeredStatus? record.app record.id = some copy.status ∧
      (record.dirty = false → copy.status = record.status)

namespace Mirrors

variable {registry after : Registry} {record changed : Instance}

/-- A change of a record makes it dirty. -/
theorem of_dirty (hmirrors : registry.Mirrors record) (happ : changed.app = record.app)
    (hid : changed.id = record.id) (hdirty : changed.dirty = true) : registry.Mirrors changed := by
  rcases hmirrors with hnone | ⟨copy, hcopy, hregistered, -⟩
  · left
    rw [happ, hid]
    exact hnone
  · refine .inr ⟨copy, ?_, ?_, ?_⟩
    · rw [happ, hid]
      exact hcopy
    · rw [happ, hid]
      exact hregistered
    · intro hclean
      rw [hdirty] at hclean
      exact absurd hclean (by decide)

theorem congr (hmirrors : registry.Mirrors record) (hcopies : after.copies = registry.copies)
    (hregistered : after.registeredStatus? = registry.registeredStatus?) :
    after.Mirrors record := by
  unfold Mirrors
  rw [hcopies, hregistered]
  exact hmirrors

/-- A registration that is taken makes the copy as good as the record. -/
theorem accept_register (hmirrors : registry.Mirrors record) (now : Timestamp) :
    (registry.accept now (.register record)).2.Mirrors { record with dirty := false } := by
  -- The copy that is replaced was the only one.
  have htail : (registry.copies record.app record.id).tail = [] := by
    rcases hmirrors with hnone | ⟨copy, hcopy, -⟩
    · rw [hnone]; rfl
    · rw [hcopy]; rfl
  have hcopies : (registry.accept now (.register record)).2.copies record.app record.id =
      [stored now record] := by
    rw [copies_congr (Registry.accept_register now record registry), copies_store]
    rw [if_pos ⟨rfl, rfl⟩, htail]
  exact .inr ⟨stored now record, hcopies, registeredStatus?_accept_register now record registry,
    fun _ => rfl⟩

theorem evict (hmirrors : registry.Mirrors record) (app id : String) :
    (registry.evict app id).2.Mirrors record := by
  have hregistered : (registry.evict app id).2.registeredStatus? = registry.registeredStatus? :=
    registeredStatus?_congr (evict_operations registry app id)
  unfold Mirrors
  rw [copies_evict, hregistered]
  split
  next =>
    left
    rcases hmirrors with hnone | ⟨copy, hcopy, -⟩
    · rw [hnone]; rfl
    · rw [hcopy]; rfl
  next => exact hmirrors

end Mirrors

end Registry

namespace Deployment

/-- The deployment after a registry took a heartbeat for the record of a manager. -/
def renewed (registry manager : Nat) (deployment : Deployment) : Deployment :=
  deployment.setRegistry registry
    ((deployment.registries.get registry).accept deployment.clock
      (.heartbeat (deployment.managers.get manager).record)).2

/-- What may become of a renewal. -/
inductive Renewal (registry manager : Nat) (before : Deployment) :
    Except ClientError Unit → Deployment → Prop where
  | refused (error : ClientError) (left : List ClientError) (trace : List Event)
      (hleft : left <:+ (before.registries.get registry).failures) :
      Renewal registry manager before (.error error) { before.refused registry left with trace }
  /-- The registry knows the record, and nothing is sent. -/
  | known (trace : List Event)
      (hknown : (before.registries.get registry).knows (before.managers.get manager).record =
        true) :
      Renewal registry manager before (.ok ()) { before.renewed registry manager with trace }
  /-- The registry has lost the record, and it is sent. -/
  | lost (answer : Except ClientError Unit) (after : Deployment)
      (hlost : (before.registries.get registry).knows (before.managers.get manager).record = false)
      (hpublication : Publication registry manager (before.renewed registry manager) answer after) :
      Renewal registry manager before answer after

end Deployment

namespace Action

theorem renew_of_live {client : RegistryClient} (hlive : client.isShutDown = false) :
    renew client = renewLease client := by
  rw [renew, hlive, if_neg Bool.false_ne_true]

theorem exec_renew {registry : Nat} {client : RegistryClient} (hserved : client.ServedBy registry)
    (hlive : client.isShutDown = false) (deployment : Deployment) :
    Deployment.Renewal registry client.manager deployment
      ((renew client).exec deployment).1 ((renew client).exec deployment).2 := by
  obtain ⟨answer, after, hexec, houtcome⟩ := exec_failover_of_servedBy hserved
    (.heartbeat (deployment.managers.get client.manager).record) deployment
  rw [renew_of_live hlive]
  unfold renewLease
  simp only [exec_bind, exec_getManager, hexec]
  cases houtcome with
  | refused error left hleft hless => exact .refused error left deployment.trace hleft
  | taken =>
      cases hknows : (deployment.registries.get registry).knows
          (deployment.managers.get client.manager).record with
      | true =>
          simp only [Registry.accept, Registry.perform, hknows, if_pos]
          exact .known deployment.trace hknows
      | false =>
          simp only [Registry.accept, Registry.perform, hknows, if_neg Bool.false_ne_true,
            exec_bind, exec_inform]
          refine .lost _ _ hknows ?_
          exact (exec_register hserved _).of_trace _

end Action

end MemberDiscovery
