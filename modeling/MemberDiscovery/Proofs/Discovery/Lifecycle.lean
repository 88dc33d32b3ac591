import MemberDiscovery.Discovery.Lifecycle
import MemberDiscovery.Proofs.Deployment.Publishing

/-! # The life of a member, taken apart

What starting and leaving consist of, so that the status policy and the client can be looked at one
by one.
-/

namespace MemberDiscovery

namespace Member

variable (member : Member) (before : Deployment)

theorem exec_appName : member.appName.exec before =
    ((before.managers.get member.manager).config.appName, before) := by
  rw [appName, Action.exec_bind, Action.exec_getManager, Action.exec_pure]

theorem exec_verify : member.verify.exec before =
    (awaitApplication member.client (before.managers.get member.manager).config.appName
      before.patience).exec before := by
  -- Simplifying makes the kernel evaluate `patience`; rewriting does not.
  rw [verify, Action.exec_bind, exec_appName, Action.exec_bind, Action.exec_get]

theorem exec_start_of_skips (hskips : member.skipsVerification = true) :
    member.start.exec before = (some (.ok ()),
      ((member.policy.apply member.manager .up).exec before).2.note
        (.logged .info "Skipping verification of the Eureka registration" [])) := by
  rw [start, Action.exec_bind, if_pos hskips, Action.exec_bind, Action.exec_inform]
  rfl

theorem exec_start_of_verifies (hverifies : member.skipsVerification = false) :
    member.start.exec before =
      member.verify.exec ((member.policy.apply member.manager .up).exec before).2 := by
  have hstill : ¬ member.skipsVerification = true := by simp [hverifies]
  rw [start, Action.exec_bind, if_neg hstill]

theorem exec_destroy : member.destroy.exec before =
    (Action.shutDown member.client).exec
      ((member.policy.apply member.manager .down).exec before).2 := by
  rw [destroy, Action.exec_bind]

end Member

end MemberDiscovery
