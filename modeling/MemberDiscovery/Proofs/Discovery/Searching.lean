import Mathlib.Algebra.Order.BigOperators.Group.List
import Mathlib.Algebra.Order.Ring.Nat
import MemberDiscovery.Proofs.Discovery.Filtering
import MemberDiscovery.Proofs.Discovery.Polling

/-! # How long a member searches

A member that looks for others polls the registry until an answer settles the matter, but not more
often than five times. So what it gives and what it does follow from the first answer that settles
it among those that five rounds would bring (`Member.discover_polls`). An error that it gives is
fatal, and with a client of a registry it makes no more than five requests to each server.
-/

namespace MemberDiscovery

open MemberDiscovery.Action (SameButLogs)

/-- What is given for the answer that settles a search, if there is one. -/
def CandidateRule.conclude (rule : CandidateRule) :
    Option LookupAnswer → Except DiscoveryError (List Node)
  | some (.ok (some found)) => .ok (found.instances.filterMap rule.select)
  | some (.error error) => .error (.client error)
  | _ => .ok []

theorem CandidateRule.isFatal_of_conclude {rule : CandidateRule} {heard : List LookupAnswer}
    {error : DiscoveryError}
    (herror : rule.conclude (heard.find? LookupAnswer.settles) = .error error) :
    error.isFatal = true := by
  cases hfirst : heard.find? LookupAnswer.settles with
  | none =>
      rw [hfirst] at herror
      cases herror
  | some answer =>
      have hsettles := List.find?_some hfirst
      rw [hfirst] at herror
      match answer, herror with
      | .error error, rfl => exact hsettles

namespace Member

section Rounds

variable {number : Nat} {app : String} {before after : Deployment} {answer : LookupAnswer}

/-- An answer that settles the search ends it. -/
theorem exec_findApplication_of_settles
    (hanswer : (Action.lookup number app).exec before = (answer, after))
    (hsettles : answer.settles = true) (attempt left : Nat) :
    (findApplication number app attempt (left + 1)).exec before = (answer, after) := by
  rw [findApplication, Action.exec_bind, hanswer]
  match answer, hsettles with
  | .ok (some found), _ => rfl
  | .error error, hfatal =>
      have hfatal : error.isFatal = true := hfatal
      dsimp only
      rw [if_pos hfatal]
      rfl

/-- After any other answer the search goes on, and at most says so. -/
theorem exec_findApplication_of_not_settles
    (hanswer : (Action.lookup number app).exec before = (answer, after))
    (hopen : answer.settles = false) (attempt left : Nat) :
    ∃ noted, SameButLogs noted after ∧
      (findApplication number app attempt (left + 1)).exec before =
        (pauseDiscovery left (findApplication number app (attempt + 1) left)).exec noted := by
  rw [findApplication, Action.exec_bind, hanswer]
  match answer, hopen with
  | .ok none, _ => exact ⟨after, rfl, rfl⟩
  | .error error, htransient =>
      dsimp only
      rw [if_neg (by simpa [LookupAnswer.settles] using htransient), Action.exec_bind]
      exact ⟨_, Deployment.withoutLogs_note_logged _ _ _ _, rfl⟩

theorem exec_pauseDiscovery_succ (left : Nat) (rest : Action LookupAnswer)
    (deployment : Deployment) : (pauseDiscovery (left + 1) rest).exec deployment =
      rest.exec (deployment.sleep discoveryPause) := rfl

/-- Searching is polling up to the first answer that settles the search. -/
theorem findApplication_polls (number : Nat) (app : String) (attempt left : Nat)
    {before other : Deployment} (hsame : SameButLogs before other) :
    let heard := ((Action.poll number app discoveryPause (left + 1)).exec other).1
    let result := (findApplication number app attempt (left + 1)).exec before
    result.1 = (heard.find? LookupAnswer.settles).getD (.ok none) ∧
      SameButLogs result.2 ((Action.poll number app discoveryPause
        (min (heard.findIdx LookupAnswer.settles + 1) (left + 1))).exec other).2 := by
  induction left generalizing attempt before other with
  | zero =>
      obtain ⟨answer, after, looked, hlookup, hother, hlooked⟩ :=
        Action.exists_lookup_of_sameButLogs hsame number app
      have hpoll := Action.exec_poll_one number app discoveryPause other hother
      rw [Nat.zero_add, hpoll]
      dsimp only
      rw [Nat.min_eq_right (Nat.le_add_left 1 _), hpoll]
      cases hsettles : answer.settles with
      | true =>
          rw [exec_findApplication_of_settles hlookup hsettles]
          exact ⟨by simp [hsettles], hlooked⟩
      | false =>
          obtain ⟨noted, hnoted, hresult⟩ :=
            exec_findApplication_of_not_settles hlookup hsettles attempt 0
          rw [hresult]
          exact ⟨by simp [hsettles]; rfl, hnoted.trans hlooked⟩
  | succ left ih =>
      obtain ⟨answer, after, looked, hlookup, hother, hlooked⟩ :=
        Action.exists_lookup_of_sameButLogs hsame number app
      rw [Action.exec_poll_succ number app discoveryPause other hother left]
      generalize hlater : (Action.poll number app discoveryPause (left + 1)).exec
        (looked.sleep discoveryPause) = later
      dsimp only
      cases hsettles : answer.settles with
      | true =>
          rw [exec_findApplication_of_settles hlookup hsettles]
          have hindex : min ((answer :: later.1).findIdx LookupAnswer.settles + 1) (left + 1 + 1) =
              1 := by simp [List.findIdx_cons, hsettles]
          rw [hindex, Action.exec_poll_one number app discoveryPause other hother]
          exact ⟨by simp [hsettles], hlooked⟩
      | false =>
          obtain ⟨noted, hnoted, hresult⟩ :=
            exec_findApplication_of_not_settles hlookup hsettles attempt (left + 1)
          have hslept : SameButLogs (noted.sleep discoveryPause) (looked.sleep discoveryPause) :=
            (Action.Congruent.sleep_logs discoveryPause noted _ (hnoted.trans hlooked)).2
          obtain ⟨hfound, hafter⟩ := ih (attempt + 1) hslept
          rw [hlater] at hfound hafter
          have hindex : min ((answer :: later.1).findIdx LookupAnswer.settles + 1) (left + 1 + 1) =
              min (later.1.findIdx LookupAnswer.settles) left + 1 + 1 := by
            simp [List.findIdx_cons, hsettles]
          rw [Nat.add_min_add_right] at hafter
          rw [hresult, exec_pauseDiscovery_succ, hindex,
            Action.exec_poll_succ number app discoveryPause other hother]
          exact ⟨by simpa [hsettles] using hfound, hafter⟩

end Rounds

/-- What is noted of the records that are skipped is all that choosing candidates does. -/
theorem withoutLogs_collect (survey : List (Instance × Except SkipReason Node))
    (deployment : Deployment) :
    ((collect survey).exec deployment).2.withoutLogs = deployment.withoutLogs := by
  induction survey generalizing deployment with
  | nil => rfl
  | cons entry rest ih =>
      obtain ⟨record, found⟩ := entry
      cases found with
      | ok node =>
          simp only [collect, Action.exec_bind, Action.exec_pure]
          exact ih deployment
      | error reason =>
          cases hwarning : reason.warning? record with
          | none =>
              simp only [collect, hwarning]
              exact ih deployment
          | some warning =>
              simp only [collect, hwarning, Action.exec_bind, Action.exec_warn]
              rw [ih, Deployment.withoutLogs_note_logged]

/-- What a member gives and does follows from how its search ends. -/
theorem exec_discover {member : Member} {before after : Deployment} {first : Option LookupAnswer}
    (hsettles : ∀ answer ∈ first, answer.settles = true)
    (hfound : (findApplication member.client
      (before.managers.get member.manager).config.appName 1 discoveryRounds).exec before =
        (first.getD (.ok none), after)) :
    (member.discover.exec before).1 = member.rule.conclude first ∧
      SameButLogs (member.discover.exec before).2 after := by
  rw [discover, Action.exec_bind, exec_appName, Action.exec_bind, hfound]
  rcases first with _ | error | _ | found
  · exact ⟨rfl, rfl⟩
  · exact ⟨rfl, rfl⟩
  · cases hsettles (.ok none) rfl
  · obtain ⟨trace, hcollect⟩ := exec_collect (member.rule.survey found) after
    have hquiet := withoutLogs_collect (member.rule.survey found) after
    rw [member.rule.filterMap_survey] at hcollect
    dsimp only [Option.getD_some]
    rw [Action.exec_bind, Action.exec_pure]
    exact ⟨by rw [hcollect]; rfl, hquiet⟩

/-- A member searches by polling with pauses of a second. It stops at the first answer that settles
the search, or after five lookups without one, and gives what that answer says; nobody is found if
there is none. So its errors are fatal, and its client makes at most five requests to a server. -/
theorem discover_polls (member : Member) (before : Deployment) :
    let app := (before.managers.get member.manager).config.appName
    let polled (rounds : Nat) := (Action.poll member.client app 1000 rounds).exec before
    let heard := (polled 5).1
    let position := heard.findIdx LookupAnswer.settles + 1
    let result := member.discover.exec before
    result.1 = member.rule.conclude (heard.find? LookupAnswer.settles) ∧
      result.2.withoutLogs = (polled (min position 5)).2.withoutLogs ∧
      (∀ error, result.1 = .error error → error.isFatal = true) ∧
      ∀ client, before.clients.get member.client = .registry client →
        ∃ asked : List (List Transport), asked.length = min position 5 ∧
          (∀ servers ∈ asked, servers <+: client.transports) ∧
          (asked.map List.length).sum ≤ 5 * client.transports.length ∧
          result.2.withoutLogs =
            ((Action.inquireInRounds app 1000 asked).exec before).2.withoutLogs := by
  intro app polled heard position result
  obtain ⟨hanswer, hpolled⟩ :=
    findApplication_polls member.client app 1 4 (.refl before.withoutLogs)
  have hfound : (findApplication member.client app 1 discoveryRounds).exec before =
      ((heard.find? LookupAnswer.settles).getD (.ok none),
        ((findApplication member.client app 1 discoveryRounds).exec before).2) :=
    Prod.ext hanswer rfl
  obtain ⟨hgiven, hdone⟩ := exec_discover (fun _ hfirst => List.find?_some hfirst) hfound
  have hafter : result.2.withoutLogs = (polled (min position 5)).2.withoutLogs :=
    hdone.trans hpolled
  refine ⟨hgiven, hafter, ?_, ?_⟩
  · intro error herror
    exact CandidateRule.isFatal_of_conclude (hgiven.symm.trans herror)
  · intro client hclient
    obtain ⟨asked, hlength, hasked, hrequests⟩ :=
      Action.exists_inquireInRounds_of_poll hclient app 1000 (min position 5)
    refine ⟨asked, hlength, hasked, ?_, hafter.trans (congrArg _ hrequests)⟩
    have hround : ∀ requests ∈ asked.map List.length, requests ≤ client.transports.length := by
      intro requests hmem
      obtain ⟨servers, hservers, rfl⟩ := List.mem_map.mp hmem
      exact (hasked servers hservers).length_le
    calc (asked.map List.length).sum ≤ (asked.map List.length).length * client.transports.length :=
          List.sum_le_card_nsmul _ _ hround
      _ ≤ 5 * client.transports.length := by
          rw [List.length_map, hlength]
          exact Nat.mul_le_mul_right _ (Nat.min_le_right _ _)

end Member

end MemberDiscovery
