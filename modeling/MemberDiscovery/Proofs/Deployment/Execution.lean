import Mathlib.Control.Monad.Basic
import MemberDiscovery.Deployment.Basic

/-! # Executing actions

`Action.exec` gives the answer of an action and the deployment that it leaves behind. The equations
below take an action apart into its steps, so that what a larger action does is read off from what
its parts do.
-/

namespace MemberDiscovery

namespace Deployment

section Parts

variable (number : Nat) (registry : Registry) (manager : InstanceManager) (client : Client)
  (deployment : Deployment)

@[simp] theorem registries_setRegistry :
    (deployment.setRegistry number registry).registries =
      deployment.registries.set number registry := rfl

@[simp] theorem managers_setRegistry :
    (deployment.setRegistry number registry).managers = deployment.managers := rfl

@[simp] theorem clients_setRegistry :
    (deployment.setRegistry number registry).clients = deployment.clients := rfl

@[simp] theorem registries_setManager :
    (deployment.setManager number manager).registries = deployment.registries := rfl

@[simp] theorem managers_setManager :
    (deployment.setManager number manager).managers = deployment.managers.set number manager := rfl

@[simp] theorem clients_setManager :
    (deployment.setManager number manager).clients = deployment.clients := rfl

@[simp] theorem interventions_setManager :
    (deployment.setManager number manager).interventions = deployment.interventions := rfl

@[simp] theorem registries_setClient :
    (deployment.setClient number client).registries = deployment.registries := rfl

@[simp] theorem managers_setClient :
    (deployment.setClient number client).managers = deployment.managers := rfl

@[simp] theorem clients_setClient :
    (deployment.setClient number client).clients = deployment.clients.set number client := rfl

end Parts

@[simp] theorem setRegistry_get (number : Nat) (deployment : Deployment) :
    deployment.setRegistry number (deployment.registries.get number) = deployment := by
  simp [setRegistry]

@[simp] theorem setRegistry_setRegistry (number : Nat) (first second : Registry)
    (deployment : Deployment) :
    (deployment.setRegistry number first).setRegistry number second =
      deployment.setRegistry number second := by
  simp [setRegistry]

@[simp] theorem setManager_get (number : Nat) (deployment : Deployment) :
    deployment.setManager number (deployment.managers.get number) = deployment := by
  simp [setManager]

end Deployment

namespace Action

variable {α β : Type}

/-- The answer of an action and the deployment after it. -/
def exec (action : Action α) (deployment : Deployment) : α × Deployment :=
  action.run deployment

@[simp] theorem exec_pure (value : α) (deployment : Deployment) :
    (pure value : Action α).exec deployment = (value, deployment) := rfl

@[simp] theorem exec_bind (action : Action α) (next : α → Action β) (deployment : Deployment) :
    (action >>= next).exec deployment =
      (next (action.exec deployment).1).exec (action.exec deployment).2 := rfl

@[simp] theorem exec_map (f : α → β) (action : Action α) (deployment : Deployment) :
    (f <$> action).exec deployment = (f (action.exec deployment).1, (action.exec deployment).2) :=
  rfl

@[simp] theorem exec_get (deployment : Deployment) :
    (get : Action Deployment).exec deployment = (deployment, deployment) := rfl

@[simp] theorem exec_set (deployment after : Deployment) :
    (set after : Action PUnit).exec deployment = (⟨⟩, after) := rfl

@[simp] theorem exec_modify (change : Deployment → Deployment) (deployment : Deployment) :
    (modify change : Action PUnit).exec deployment = (⟨⟩, change deployment) := rfl

@[simp] theorem exec_modifyGet (change : Deployment → α × Deployment) (deployment : Deployment) :
    (modifyGet change : Action α).exec deployment = change deployment := rfl

theorem exec_ite (condition : Prop) [Decidable condition] (first second : Action α)
    (deployment : Deployment) :
    (if condition then first else second).exec deployment =
      if condition then first.exec deployment else second.exec deployment := by
  split <;> rfl

@[simp] theorem exec_log (level : LogLevel) (message : String) (fields : List (String × String))
    (deployment : Deployment) :
    (log level message fields).exec deployment =
      ((), deployment.note (.logged level message fields)) := rfl

@[simp] theorem exec_inform (message : String) (deployment : Deployment) :
    (inform message).exec deployment = ((), deployment.note (.logged .info message [])) := rfl

@[simp] theorem exec_warn (message : String) (deployment : Deployment) :
    (warn message).exec deployment = ((), deployment.note (.logged .warning message [])) := rfl

end Action

end MemberDiscovery
