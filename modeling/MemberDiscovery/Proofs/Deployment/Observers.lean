import Mathlib.Data.List.Chain
import MemberDiscovery.Proofs.Deployment.Stability

/-! # What observers hear

Observers note the changes of a status under their tags, and `Deployment.heard` lists what is noted
under a tag. A managed record goes through steps, in the course of which listeners come, go, and
take the places of others. Of each step an observer hears the change of the status, if there is one,
once for each id under which it listens (`RecordStep.heard_moment`). So an observer with one id
hears a chain of changes for as long as it listens (`RecordStep.observer_hears_changes`). Clients
may listen, too; what they do with a change is not heard.
-/

namespace MemberDiscovery

def Event.heard? (tag : String) : Event → Option StatusChange
  | .statusChanged other change => if other = tag then some change else none
  | _ => none

namespace StatusChange

/-- The change from one status to another. There is none to the same status. -/
def between? (before after : InstanceStatus) : Option StatusChange :=
  if before = after then none else some ⟨before, after⟩

@[simp] theorem between?_self (status : InstanceStatus) : between? status status = none :=
  if_pos rfl

theorem between?_of_ne {before after : InstanceStatus} (hne : before ≠ after) :
    between? before after = some ⟨before, after⟩ := if_neg hne

/-- Changes that lead from one status to another: each begins where the one before it ends. -/
structure Lead (start : InstanceStatus) (changes : List StatusChange) (last : InstanceStatus) :
    Prop where
  actual : ∀ change ∈ changes, change.previous ≠ change.current
  chained : changes.IsChain fun change next => change.current = next.previous
  begins : ∀ change ∈ changes.head?, change.previous = start
  ends : (changes.getLast?.map StatusChange.current).getD start = last

theorem Lead.nil (status : InstanceStatus) : Lead status [] status where
  actual := nofun
  chained := .nil
  begins := nofun
  ends := rfl

theorem Lead.snoc {start middle : InstanceStatus} {changes : List StatusChange}
    (hlead : Lead start changes middle) (last : InstanceStatus) :
    Lead start (changes ++ (between? middle last).toList) last := by
  by_cases hsame : middle = last
  · subst hsame
    simpa using hlead
  · rw [between?_of_ne hsame]
    refine ⟨?_, ?_, ?_, by simp⟩
    · simp only [Option.toList_some, List.forall_mem_append, List.forall_mem_singleton]
      exact ⟨hlead.actual, hsame⟩
    · refine List.isChain_append.mpr ⟨hlead.chained, .singleton _, ?_⟩
      intro change hchange next hnext
      obtain rfl : ⟨middle, last⟩ = next := by simpa using hnext
      simpa [Option.mem_def.mp hchange] using hlead.ends
    · intro change hchange
      cases changes with
      | nil =>
          obtain rfl : ⟨middle, last⟩ = change := by simpa using hchange
          exact hlead.ends.symm
      | cons first rest => exact hlead.begins change hchange

end StatusChange

namespace Deployment

/-- What was noted under a tag, oldest first. -/
def heard (tag : String) (deployment : Deployment) : List StatusChange :=
  deployment.trace.filterMap (Event.heard? tag)

/-- The ids under which an observer listens to a record. -/
def observing (manager : Nat) (tag : String) (deployment : Deployment) : List String :=
  (deployment.managers.get manager).listeners.toList.filterMap fun entry =>
    if entry.2 = .observer tag then some entry.1 else none

/-- What a change of one manager keeps of it, it keeps of all. -/
theorem view_setManager {α : Type} (view : InstanceManager → α) {number : Nat}
    {state : InstanceManager} {deployment : Deployment}
    (hview : view state = view (deployment.managers.get number)) (manager : Nat) :
    view ((deployment.setManager number state).managers.get manager) =
      view (deployment.managers.get manager) := by
  rw [managers_setManager, Slots.get_set]
  split
  next heq => rw [heq, hview]
  next => rfl

/-- An observer has heard some changes, and the records have status and listeners as before. -/
structure Hears (tag : String) (before : Deployment) (changes : List StatusChange)
    (after : Deployment) : Prop where
  heard : after.heard tag = before.heard tag ++ changes
  status : ∀ manager,
    (after.managers.get manager).record.status = (before.managers.get manager).record.status
  listeners : ∀ manager,
    (after.managers.get manager).listeners = (before.managers.get manager).listeners

namespace Hears

variable {tag : String} {before middle after : Deployment} {changes later : List StatusChange}

theorem refl (tag : String) (deployment : Deployment) : Hears tag deployment [] deployment where
  heard := (List.append_nil _).symm
  status _ := rfl
  listeners _ := rfl

theorem trans (hfirst : Hears tag before changes middle) (hlater : Hears tag middle later after) :
    Hears tag before (changes ++ later) after where
  heard := by rw [hlater.heard, hfirst.heard, List.append_assoc]
  status manager := (hlater.status manager).trans (hfirst.status manager)
  listeners manager := (hlater.listeners manager).trans (hfirst.listeners manager)

/-- What is not a change of a status is not heard. -/
theorem note {event : Event} (hheard : Hears tag before changes middle)
    (htrace : after.trace = middle.trace ++ [event]) (hmanagers : after.managers = middle.managers)
    (hevent : event.heard? tag = none) : Hears tag before changes after where
  heard := by
    rw [← hheard.heard, Deployment.heard, htrace, List.filterMap_append]
    simp [Deployment.heard, hevent]
  status := by rw [hmanagers]; exact hheard.status
  listeners := by rw [hmanagers]; exact hheard.listeners

theorem setManager {number : Nat} {state : InstanceManager}
    (hheard : Hears tag before changes after)
    (hstatus : state.record.status = (after.managers.get number).record.status)
    (hlisteners : state.listeners = (after.managers.get number).listeners) :
    Hears tag before changes (after.setManager number state) where
  heard := hheard.heard
  status manager :=
    (view_setManager (·.record.status) hstatus manager).trans (hheard.status manager)
  listeners manager :=
    (view_setManager (·.listeners) hlisteners manager).trans (hheard.listeners manager)

/-! What a client does with a change is not heard. -/

theorem log (level : LogLevel) (message : String) (fields : List (String × String)) :
    Action.Keeps (Hears tag before changes) (Action.log level message fields) :=
  fun _ hheard => hheard.note rfl rfl rfl

theorem submit {α : Type} (request : Request α) (server : Transport) :
    Action.Keeps (Hears tag before changes) (Action.submit request server) := by
  cases server with
  | memory registry url => exact fun _ hheard => ⟨hheard.heard, hheard.status, hheard.listeners⟩
  | remote server =>
      unfold Action.submit Action.submitRemote
      dsimp only
      split
      next => exact .pure _
      next url hurl =>
        refine .bind ?_ ?_
        · intro deployment hheard
          obtain ⟨reply, network, trace, hexec, htrace⟩ :=
            Action.exec_exchange server.proxy url (RemoteRegistry.call request) deployment
          rw [hexec]
          rcases htrace with rfl | rfl
          · exact ⟨hheard.heard, hheard.status, hheard.listeners⟩
          · exact hheard.note rfl rfl rfl
        · intro reply
          cases reply <;> exact .pure _

theorem clearDirty (number : Nat) (sent : Timestamp) :
    Action.Keeps (Hears tag before changes)
      (Action.modifyManager number fun _ manager => manager.clearDirty sent) := by
  intro deployment hheard
  refine hheard.setManager ?_ rfl
  simp only [InstanceManager.clearDirty, Instance.clearDirty]
  split <;> rfl

theorem push (client : RegistryClient) (change : StatusChange) :
    Action.Keeps (Hears tag before changes) (Action.push client change) := by
  refine .ite (.pure _) (.bind (.bind (fun _ hheard => hheard) ?_) ?_)
  · intro manager
    refine .bind (log _ _ _) ?_
    intro _
    refine .bind (.failover fun server _ => submit _ server) ?_
    intro answer
    cases answer with
    | error error => exact .pure _
    | ok => exact .bind (clearDirty _ _) fun _ => .pure _
  · intro answer
    cases answer with
    | ok => exact .pure _
    | error error => exact log _ _ _

end Hears

end Deployment

namespace Action

variable {tag : String} {deployment : Deployment}

/-- An observer hears what it is told, and nobody else does. -/
theorem hears_tell (tag : String) (change : StatusChange) (listener : Listener)
    (deployment : Deployment) :
    deployment.Hears tag (if listener = .observer tag then [change] else [])
      ((tell change listener).exec deployment).2 := by
  cases listener with
  | observer other =>
      refine ⟨?_, fun _ => rfl, fun _ => rfl⟩
      by_cases htag : other = tag <;>
        simp [tell, Deployment.heard, Deployment.note, List.filterMap_append, Event.heard?, htag]
  | client number =>
      refine Keeps.get_bind ?_ deployment (.refl tag deployment)
      intro deployment hheard
      cases hclient : deployment.clients.get number with
      | registry client => exact Deployment.Hears.push client change deployment hheard
      | scripted client => exact hheard

theorem hears_forM_tell (tag : String) (change : StatusChange)
    (entries : List (String × Listener)) (deployment : Deployment) :
    deployment.Hears tag
      ((entries.filterMap fun entry =>
        if entry.2 = .observer tag then some entry.1 else none).map fun _ => change)
      ((entries.forM fun entry => tell change entry.2).exec deployment).2 := by
  induction entries generalizing deployment with
  | nil => exact .refl tag deployment
  | cons entry rest ih =>
      have hboth := (hears_tell tag change entry.2 deployment).trans (ih _)
      rw [List.forM_eq_forM, List.forM_cons, exec_bind]
      by_cases hlistener : entry.2 = .observer tag
      · simpa [hlistener] using hboth
      · simpa [hlistener] using hboth

/-- What a deployment with the new status has when all listeners were told of it. -/
theorem hears_setStatus (tag : String) (manager : Nat) (status : InstanceStatus)
    (deployment : Deployment) :
    (deployment.restated manager status).Hears tag
      ((StatusChange.between? (deployment.managers.get manager).record.status
        status).toList.flatMap fun change =>
          (deployment.observing manager tag).map fun _ => change)
      ((setStatus manager status).exec deployment).2 := by
  by_cases hstatus : (deployment.managers.get manager).record.status = status
  · rw [exec_setStatus_of_eq hstatus, Deployment.restated_of_eq hstatus, hstatus,
      StatusChange.between?_self]
    exact .refl tag deployment
  · obtain ⟨message, hexec⟩ := exec_setStatus_told hstatus
    have hlogged : (deployment.restated manager status).Hears tag []
        ((deployment.restated manager status).note (.logged .info message [])) :=
      (Deployment.Hears.refl tag _).note rfl rfl rfl
    rw [hexec, StatusChange.between?_of_ne hstatus, Option.toList_some, List.flatMap_singleton]
    exact hlogged.trans (hears_forM_tell tag _ _ _)

end Action

/-! ## What is done with a record -/

/-- What is done with a managed record, or goes on beside it. -/
inductive RecordStep where
  | setStatus (status : InstanceStatus)
  /-- The record is changed, but not its status. -/
  | update (change : Instance → Instance)
      (hstatus : ∀ record : Instance, (change record).status = record.status)
  /-- The changes up to a moment were sent. -/
  | clearDirty (sent : Timestamp)
  | listen (id : String) (listener : Listener)
  | unlisten (id : String)
  | pause (milliseconds : Int)

namespace RecordStep

def act (manager : Nat) : RecordStep → Action Unit
  | .setStatus status => Action.setStatus manager status
  | .update change _ => Action.updateRecord manager change
  | .clearDirty sent => Action.modifyManager manager fun _ state => state.clearDirty sent
  | .listen id listener => Action.modifyManager manager fun _ state => state.listen id listener
  | .unlisten id => Action.modifyManager manager fun _ state => state.unlisten id
  | .pause milliseconds => modify (·.advance milliseconds)

def after (manager : Nat) (deployment : Deployment) (step : RecordStep) : Deployment :=
  ((step.act manager).exec deployment).2

/-- The deployment after so many of the steps. -/
def moment (manager : Nat) (steps : List RecordStep) (deployment : Deployment) (number : Nat) :
    Deployment :=
  (steps.take number).foldl (after manager) deployment

/-- The status that a step leaves. -/
def status (before : InstanceStatus) : RecordStep → InstanceStatus
  | .setStatus status => status
  | _ => before

/-- The listener that a step leaves under an id. -/
def listener? (id : String) (before : Option Listener) : RecordStep → Option Listener
  | .listen other listener => if id = other then some listener else before
  | .unlisten other => if id = other then none else before
  | _ => before

/-- What an observer is told between two moments: the change of the status, once for each id under
which it listens. -/
def told (manager : Nat) (tag : String) (before after : Deployment) : List StatusChange :=
  (StatusChange.between? (before.managers.get manager).record.status
    (after.managers.get manager).record.status).toList.flatMap fun change =>
      (before.observing manager tag).map fun _ => change

variable {manager : Nat}

theorem status_after (step : RecordStep) (deployment : Deployment) :
    ((step.after manager deployment).managers.get manager).record.status =
      step.status (deployment.managers.get manager).record.status := by
  cases step with
  | setStatus status =>
      refine ((Action.hears_setStatus "" manager status deployment).status manager).trans ?_
      simp [Deployment.restated, RecordStep.status]
  | update change hstatus =>
      simp [after, act, Action.updateRecord, InstanceManager.update, Instance.markDirty, hstatus,
        RecordStep.status]
  | clearDirty sent =>
      simp only [after, act, Action.exec_modifyManager, Deployment.managers_setManager,
        Slots.get_set, if_pos, InstanceManager.clearDirty, Instance.clearDirty]
      split <;> rfl
  | listen id listener =>
      simp [after, act, InstanceManager.listen, RecordStep.status]
  | unlisten id =>
      simp [after, act, InstanceManager.unlisten, RecordStep.status]
  | pause milliseconds => rfl

theorem listeners_after (step : RecordStep) (deployment : Deployment) (id : String) :
    ((step.after manager deployment).managers.get manager).listeners.get? id =
      step.listener? id ((deployment.managers.get manager).listeners.get? id) := by
  cases step with
  | setStatus status =>
      rw [after, act, (Action.hears_setStatus "" manager status deployment).listeners manager]
      simp [Deployment.restated, listener?]
  | update change hstatus =>
      simp [after, act, Action.updateRecord, InstanceManager.update, listener?]
  | clearDirty sent => simp [after, act, InstanceManager.clearDirty, listener?]
  | listen other listener => simp [after, act, InstanceManager.listen, listener?]
  | unlisten other => simp [after, act, InstanceManager.unlisten, listener?]
  | pause milliseconds => rfl

/-- What leaves status and notes as they are tells nobody anything. -/
theorem heard_of_unchanged {before after : Deployment}
    (hstatus : (after.managers.get manager).record.status =
      (before.managers.get manager).record.status) (htrace : after.trace = before.trace)
    (tag : String) : after.heard tag = before.heard tag ++ told manager tag before after := by
  simp [Deployment.heard, told, htrace, hstatus]

theorem heard_after (step : RecordStep) (deployment : Deployment) (tag : String) :
    (step.after manager deployment).heard tag =
      deployment.heard tag ++ told manager tag deployment (step.after manager deployment) := by
  have hstatus : ((step.after manager deployment).managers.get manager).record.status =
      step.status (deployment.managers.get manager).record.status := step.status_after deployment
  cases step with
  | setStatus status =>
      rw [told, hstatus]
      exact (Action.hears_setStatus tag manager status deployment).heard
  | update change _ => exact heard_of_unchanged hstatus rfl tag
  | clearDirty sent => exact heard_of_unchanged hstatus rfl tag
  | listen id listener => exact heard_of_unchanged hstatus rfl tag
  | unlisten id => exact heard_of_unchanged hstatus rfl tag
  | pause milliseconds => exact heard_of_unchanged hstatus rfl tag

/-! ## Runs -/

variable {steps : List RecordStep} {deployment : Deployment} {tag id : String}

theorem moment_succ {number : Nat} {step : RecordStep} (hstep : steps[number]? = some step)
    (deployment : Deployment) :
    moment manager steps deployment (number + 1) =
      step.after manager (moment manager steps deployment number) := by
  simp [moment, List.take_add_one, hstep]

theorem moment_succ_of_getElem?_eq_none {number : Nat} (hend : steps[number]? = none)
    (deployment : Deployment) :
    moment manager steps deployment (number + 1) = moment manager steps deployment number := by
  simp [moment, List.take_add_one, hend]

theorem heard_moment_succ (manager : Nat) (steps : List RecordStep) (deployment : Deployment)
    (tag : String) (number : Nat) :
    (moment manager steps deployment (number + 1)).heard tag =
      (moment manager steps deployment number).heard tag ++
        told manager tag (moment manager steps deployment number)
          (moment manager steps deployment (number + 1)) := by
  cases hstep : steps[number]? with
  | none =>
      rw [moment_succ_of_getElem?_eq_none hstep]
      exact heard_of_unchanged rfl rfl tag
  | some step =>
      rw [moment_succ hstep]
      exact step.heard_after _ tag

/-- An observer hears of every step what it is told of it. -/
theorem heard_moment (manager : Nat) (steps : List RecordStep) (deployment : Deployment)
    (tag : String) (number : Nat) :
    (moment manager steps deployment number).heard tag =
      deployment.heard tag ++ (List.range number).flatMap fun earlier =>
        told manager tag (moment manager steps deployment earlier)
          (moment manager steps deployment (earlier + 1)) := by
  induction number with
  | zero => simp [moment]
  | succ number ih =>
      rw [heard_moment_succ, ih, List.range_succ, List.flatMap_append, List.flatMap_singleton,
        List.append_assoc]

/-- An observer listens under one id at most if all that is done with it is done under that id. -/
theorem eq_of_observes
    (hbefore : ∀ other, (deployment.managers.get manager).listeners.get? other =
      some (.observer tag) → other = id)
    (hsteps : ∀ other, .listen other (.observer tag) ∈ steps → other = id) (number : Nat)
    (other : String)
    (hobserves : ((moment manager steps deployment number).managers.get manager).listeners.get?
      other = some (.observer tag)) : other = id := by
  induction number with
  | zero => exact hbefore other hobserves
  | succ number ih =>
      cases hstep : steps[number]? with
      | none =>
          rw [moment_succ_of_getElem?_eq_none hstep] at hobserves
          exact ih hobserves
      | some step =>
          rw [moment_succ hstep, listeners_after] at hobserves
          have hmem := List.mem_of_getElem? hstep
          cases step with
          | listen place listener =>
              simp only [listener?] at hobserves
              split at hobserves
              next heq =>
                obtain rfl := Option.some.inj hobserves
                exact hsteps other (heq ▸ hmem)
              next => exact ih hobserves
          | unlisten place =>
              simp only [listener?] at hobserves
              split at hobserves
              next => cases hobserves
              next => exact ih hobserves
          | setStatus status => exact ih hobserves
          | update change _ => exact ih hobserves
          | clearDirty sent => exact ih hobserves
          | pause milliseconds => exact ih hobserves

/-- What is told to an observer that listens under one id at most. -/
theorem told_eq {before : Deployment}
    (hid : ∀ other, (before.managers.get manager).listeners.get? other = some (.observer tag) →
      other = id) (after : Deployment) :
    told manager tag before after =
      Option.toList (if (before.managers.get manager).listeners.get? id = some (.observer tag) then
        StatusChange.between? (before.managers.get manager).record.status
          (after.managers.get manager).record.status
      else none) := by
  have hothers : ∀ entry ∈ (before.managers.get manager).listeners.toList, entry.1 ≠ id →
      (if entry.2 = .observer tag then some entry.1 else none) = none := by
    intro entry hmem hne
    apply if_neg
    intro hobserver
    exact hne (hid entry.1 (Table.mem_entries_iff.mp (by rw [← hobserver]; exact hmem)))
  have hobserving : before.observing manager tag =
      if (before.managers.get manager).listeners.get? id = some (.observer tag) then [id]
      else [] := by
    rw [Deployment.observing, Table.filterMap_toList _ hothers]
    cases hlistener : (before.managers.get manager).listeners.get? id with
    | none => simp
    | some listener => by_cases hobserver : listener = .observer tag <;> simp [hobserver]
  rw [told, hobserving]
  split
  next => cases StatusChange.between? _ _ <;> simp
  next => simp

/-- Observers hear the changes of the status, and nothing else. Whatever is done with a record, its
status and who listens under which id are as the calls say; setting the present status does nothing
at all; and between any two moments an observer hears the change of the status, if there is one,
once for each id under which it listens. So an observer that uses one id only hears every change
that is made while it listens, in order, and for as long as it listens the changes lead from the
status at the beginning to the status at the end. -/
theorem observer_hears_changes (manager : Nat) (steps : List RecordStep) (deployment : Deployment)
    (tag : String) :
    let moment := moment manager steps deployment
    let status := fun number => ((moment number).managers.get manager).record.status
    let listener? := fun number id =>
      ((moment number).managers.get manager).listeners.get? id
    (∀ number step, steps[number]? = some step →
      status (number + 1) = step.status (status number) ∧
        ∀ id, listener? (number + 1) id = step.listener? id (listener? number id)) ∧
    (∀ number, ((RecordStep.setStatus (status number)).act manager).exec (moment number) =
      ((), moment number)) ∧
    (∀ number, (moment number).heard tag = deployment.heard tag ++
      (List.range number).flatMap fun earlier =>
        (StatusChange.between? (status earlier) (status (earlier + 1))).toList.flatMap
          fun change => ((moment earlier).observing manager tag).map fun _ => change) ∧
    ∀ id, (∀ other, listener? 0 other = some (.observer tag) → other = id) →
      (∀ other, .listen other (.observer tag) ∈ steps → other = id) →
      (∀ number, (moment number).heard tag = deployment.heard tag ++
        (List.range number).filterMap fun earlier =>
          if listener? earlier id = some (.observer tag) then
            StatusChange.between? (status earlier) (status (earlier + 1))
          else none) ∧
      ∀ first last, first ≤ last →
        (∀ number, first ≤ number → number < last →
          listener? number id = some (.observer tag)) →
        ∃ changes, (moment last).heard tag = (moment first).heard tag ++ changes ∧
          StatusChange.Lead (status first) changes (status last) := by
  intro moment status listener?
  refine ⟨?_, ?_, heard_moment manager steps deployment tag, ?_⟩
  · intro number step hstep
    simp only [status, listener?, moment, moment_succ hstep]
    exact ⟨step.status_after _, step.listeners_after _⟩
  · exact fun number => Action.exec_setStatus_of_eq rfl
  · intro id hbefore hsteps
    have htold : ∀ number, told manager tag (moment number) (moment (number + 1)) =
        Option.toList (if listener? number id = some (.observer tag) then
          StatusChange.between? (status number) (status (number + 1)) else none) := fun number =>
      told_eq (eq_of_observes hbefore hsteps number) (moment (number + 1))
    constructor
    · intro number
      rw [List.filterMap_eq_flatMap_toList, ← funext htold]
      exact heard_moment manager steps deployment tag number
    · intro first last hle hlistens
      induction last, hle using Nat.le_induction with
      | base => exact ⟨[], (List.append_nil _).symm, .nil _⟩
      | succ last hle ih =>
          obtain ⟨changes, hheard, hlead⟩ := ih fun number hfirst hlast =>
            hlistens number hfirst (Nat.lt_succ_of_lt hlast)
          refine ⟨_, ?_, hlead.snoc (status (last + 1))⟩
          have hlast : listener? last id = some (.observer tag) :=
            hlistens last hle (Nat.lt_succ_self last)
          have hnext := heard_moment_succ manager steps deployment tag last
          rw [htold last, if_pos hlast, hheard, List.append_assoc] at hnext
          exact hnext

/-- A listener is replaced, and comes back. -/
def sampleSteps : List RecordStep :=
  [.listen "console" (.observer "first"), .setStatus .down, .setStatus .down,
   .listen "console" (.observer "second"), .setStatus .up, .clearDirty 0,
   .listen "console" (.observer "first"), .setStatus .starting, .unlisten "console",
   .setStatus .up]

/-- A record that is up, and to which nobody listens. -/
def sampleManaged : Deployment :=
  { Deployment.start 0 ⟨"node-1", "10.0.0.1"⟩ (fun _ => "") with
    managers := (Slots.empty.add
      (InstanceManager.ofRecord default (Instance.new "app" "member" 0))).2 }

/-- The observer hears two of the four changes. -/
theorem sample_observer_hears :
    (moment 0 sampleSteps sampleManaged 10).heard "first" =
        [⟨.up, .down⟩, ⟨.up, .starting⟩] ∧
      ∃ changes, (moment 0 sampleSteps sampleManaged 4).heard "first" =
          (moment 0 sampleSteps sampleManaged 1).heard "first" ++ changes ∧
        StatusChange.Lead .up changes .down := by
  obtain ⟨-, -, -, hone⟩ := observer_hears_changes 0 sampleSteps sampleManaged "first"
  obtain ⟨hheard, hlead⟩ := hone "console" nofun (by simp [sampleSteps])
  refine ⟨(hheard 10).trans (by decide +kernel), ?_⟩
  exact hlead 1 4 (by decide) (by decide +kernel)

end RecordStep

end MemberDiscovery
