import MemberDiscovery.Discovery.Lifecycle
import MemberDiscovery.Proofs.Deployment.Soundness
import MemberDiscovery.Proofs.Discovery.Building

/-! # Reachable deployments

A process makes registries, records, clients and members in any order, uses and ends them, and
others change registries and surroundings meanwhile. `Deployment.Reachable` are the deployments that
come about in this way. A property that no primitive change ends holds as long as a process runs
(`Invariant.run`, `Invariant.reachable`). So every deployment that is reachable is sound.
-/

namespace MemberDiscovery

open MemberDiscovery.Action (Keeps)
open Deployment (Sound)

namespace Deployment

/-- A sleep keeps what is no matter of the time, and what nothing that others do ends. -/
theorem sleep_keeps {P : Deployment → Prop}
    (hslept : ∀ deployment clock interventions trace, P deployment →
      P { deployment with clock, interventions, trace })
    (hintervene : ∀ deployment intervention, P deployment → P (deployment.intervene intervention))
    {deployment : Deployment} (hbefore : P deployment) (milliseconds : Nat) :
    P (deployment.sleep milliseconds) := by
  have hall : ∀ (interventions : List Intervention) (before : Deployment), P before →
      P (interventions.foldl intervene before) := by
    intro interventions
    induction interventions with
    | nil => exact fun _ hbefore => hbefore
    | cons intervention rest ih =>
        exact fun before hbefore => ih _ (hintervene before intervention hbefore)
  unfold sleep
  dsimp only
  split
  next => exact hslept deployment _ deployment.interventions _ hbefore
  next => exact hall _ _ (hslept deployment _ _ _ hbefore)

/-- While a process sleeps, its clients and its records stay as they are. -/
theorem own_sleep (deployment : Deployment) (milliseconds : Nat) :
    (deployment.sleep milliseconds).clients = deployment.clients ∧
      (deployment.sleep milliseconds).managers = deployment.managers := by
  refine sleep_keeps (P := fun after =>
    after.clients = deployment.clients ∧ after.managers = deployment.managers)
    (fun _ _ _ _ hsame => hsame) ?_ ⟨rfl, rfl⟩ milliseconds
  intro before intervention hsame
  cases intervention <;> exact hsame

end Deployment

/-- A property that is kept by what somebody does who waits for the answers of one client. -/
structure Patient (number : Nat) (P : Deployment → Prop) : Prop where
  log : ∀ level message fields, Keeps P (Action.log level message fields)
  sleep : ∀ deployment milliseconds, P deployment → P (deployment.sleep milliseconds)
  lookup : ∀ app, Keeps P (Action.lookup number app)

namespace Patient

open Member

variable {P : Deployment → Prop} {number : Nat}

theorem findApplication (hpatient : Patient number P) (app : String) (attempt left : Nat) :
    Keeps P (Member.findApplication number app attempt left) := by
  induction left generalizing attempt with
  | zero => exact .pure _
  | succ left ih =>
      have hpause : Keeps P
          (pauseDiscovery left (Member.findApplication number app (attempt + 1) left)) := by
        have hsleep : Keeps P (modify (·.sleep discoveryPause)) :=
          .modify fun deployment => hpatient.sleep deployment _
        unfold pauseDiscovery
        exact .ite (.bind hsleep fun _ => ih (attempt + 1)) (ih (attempt + 1))
      refine .bind (hpatient.lookup app) ?_
      intro answer
      cases answer with
      | ok found =>
          cases found with
          | some found => exact .pure _
          | none => exact hpause
      | error error =>
          exact .ite (.pure _) (.bind (hpatient.log _ _ _) fun _ => hpause)

theorem awaitApplication (hpatient : Patient number P) (app : String) (rounds : Nat) :
    Keeps P (Member.awaitApplication number app rounds) := by
  induction rounds with
  | zero => exact .pure _
  | succ rounds ih =>
      have hpause : Keeps P (pauseVerification (Member.awaitApplication number app rounds)) :=
        .bind (.modify fun deployment => hpatient.sleep deployment _) fun _ => ih
      refine .bind (hpatient.log _ _ _) ?_
      intro _
      refine .bind (hpatient.lookup app) ?_
      intro answer
      cases answer with
      | ok found =>
          cases found with
          | some found => exact .bind (hpatient.log _ _ _) fun _ => .pure _
          | none => exact hpause
      | error error => exact .ite (.pure _) hpause

theorem collect (hpatient : Patient number P)
    (survey : List (Instance × Except SkipReason Node)) : Keeps P (Member.collect survey) := by
  induction survey with
  | nil => exact .pure _
  | cons entry rest ih =>
      obtain ⟨record, found⟩ := entry
      cases found with
      | ok node => exact .bind ih fun _ => .pure _
      | error reason =>
          unfold Member.collect
          dsimp only
          cases hwarning : reason.warning? record with
          | none => exact ih
          | some warning => exact .bind (hpatient.log _ _ _) fun _ => ih

theorem verify {member : Member} (hpatient : Patient member.client P) : Keeps P member.verify := by
  refine .bind (fun _ hbefore => hbefore) fun app => .get_bind ?_
  intro deployment hbefore
  exact hpatient.awaitApplication app deployment.patience deployment hbefore

theorem discover {member : Member} (hpatient : Patient member.client P) :
    Keeps P member.discover := by
  refine .bind (fun _ hbefore => hbefore) ?_
  intro app
  refine .bind (hpatient.findApplication app 1 discoveryRounds) ?_
  intro answer
  cases answer with
  | error error => exact .pure _
  | ok found =>
      cases found with
      | none => exact .pure _
      | some found => exact .bind (hpatient.collect _) fun _ => .pure _

/-- Starting is what the policy does, and then perhaps waiting. -/
theorem start {member : Member} (hpatient : Patient member.client P)
    (happly : Keeps P (member.policy.apply member.manager .up)) : Keeps P member.start :=
  .bind happly fun _ => .ite (.bind (hpatient.log _ _ _) fun _ => .pure _) hpatient.verify

end Patient

/-- A lasting property that sleeps, lookups and ends of clients do not end either. -/
structure Enduring (P : Deployment → Prop) : Prop extends Action.Lasting P where
  sleep : ∀ deployment milliseconds, P deployment → P (deployment.sleep milliseconds)
  lookup : ∀ number app, Keeps P (Action.lookup number app)
  shutDown : ∀ number, Keeps P (Action.shutDown number)

/-! What a member does in its life keeps such a property. -/

namespace Enduring

variable {P : Deployment → Prop}

theorem patient (henduring : Enduring P) (number : Nat) : Patient number P where
  log := henduring.log
  sleep := henduring.sleep
  lookup := henduring.lookup number

/-- To let go of a client that nobody holds is to end it, unless it is scripted. -/
theorem release (henduring : Enduring P) (number : Nat) : Keeps P (Action.release number) := by
  intro deployment hbefore
  cases hclient : deployment.clients.get number with
  | registry client =>
      rw [Action.exec_release hclient, ← Action.exec_shutDown hclient]
      exact henduring.shutDown number deployment hbefore
  | scripted client =>
      rw [Action.release, Action.exec_bind, Action.exec_get]
      dsimp only
      rw [hclient]
      exact hbefore

theorem discard (henduring : Enduring P) (plan : MemberPlan) : Keeps P plan.discard := by
  rw [MemberPlan.discard]
  cases plan.soleClient with
  | some client => exact henduring.release client
  | none => exact .pure _

theorem start (henduring : Enduring P) (member : Member) : Keeps P member.start :=
  (henduring.patient member.client).start
    (member.policy.keeps_apply henduring.toLasting member.manager .up)

theorem discover (henduring : Enduring P) (member : Member) : Keeps P member.discover :=
  (henduring.patient member.client).discover

theorem destroy (henduring : Enduring P) (member : Member) : Keeps P member.destroy :=
  .bind (member.policy.keeps_apply henduring.toLasting member.manager .down) fun _ =>
    henduring.shutDown member.client

end Enduring

/-- What a process and its surroundings may do. -/
inductive ProcessStep where
  /-- Time passes, and variables, files, network, shared settings and what others are going to do
  change. -/
  | surroundings (clock : Timestamp) (processVariables : Table String) (files : FileTree)
      (network : Network) (shared : SharedSettings) (interventions : List (List Intervention))
  | intervene (intervention : Intervention)
  | addRegistry
  | addManager (config : InstanceConfig) (record : Instance)
  | addScripted (client : ScriptedClient)
  | connect (manager : Nat) (settings : ClientSettings) (kind : TransportKind)
  | setStatus (manager : Nat) (status : InstanceStatus)
  | update (manager : Nat) (change : Instance → Instance)
  | addMetadata (manager : Nat) (entries : List (String × String))
  | observe (manager : Nat) (id tag : String)
  | unlisten (manager : Nat) (id : String)
  | renew (client : RegistryClient)
  | beat (client waited : Nat)
  | lookup (client : Nat) (app : String)
  | shutDown (client : Nat)
  | build (plan : MemberPlan)
  | start (member : Member)
  | discover (member : Member)
  | destroy (member : Member)

/-- The deployment after a step. -/
def ProcessStep.after (deployment : Deployment) : ProcessStep → Deployment
  | .surroundings clock processVariables files network shared interventions =>
    { deployment with clock, processVariables, files, network, shared, interventions }
  | .intervene intervention => deployment.intervene intervention
  | .addRegistry => deployment.addRegistry.2
  | .addManager config record => (deployment.addManager (.ofRecord config record)).2
  | .addScripted client => (deployment.addClient (.scripted client)).2
  | .connect manager settings kind => ((Action.connect manager settings kind).exec deployment).2
  | .setStatus manager status => ((Action.setStatus manager status).exec deployment).2
  | .update manager change => ((Action.updateRecord manager change).exec deployment).2
  | .addMetadata manager entries => ((Action.addMetadata manager entries).exec deployment).2
  | .observe manager id tag =>
    deployment.setManager manager
      ((deployment.managers.get manager).listen id (.observer tag))
  | .unlisten manager id =>
    deployment.setManager manager ((deployment.managers.get manager).unlisten id)
  | .renew client => ((Action.renew client).exec deployment).2
  | .beat client waited => ((Action.beat client waited).exec deployment).2
  | .lookup client app => ((Action.lookup client app).exec deployment).2
  | .shutDown client => ((Action.shutDown client).exec deployment).2
  | .build plan => (plan.build.exec deployment).2
  | .start member => (member.start.exec deployment).2
  | .discover member => (member.discover.exec deployment).2
  | .destroy member => (member.destroy.exec deployment).2

namespace Deployment

/-- What comes about in a process. -/
inductive Reachable : Deployment → Prop where
  | start (clock : Timestamp) (machine : Machine) (idSource : Nat → String) :
      Reachable (start clock machine idSource)
  | step {deployment : Deployment} (hbefore : Reachable deployment) (step : ProcessStep) :
      Reachable (step.after deployment)

end Deployment

/-! ## Properties that hold as long as a process runs -/

/-- A property of deployments that no primitive change ends, except perhaps that somebody begins or
ceases to listen to a record. -/
structure Steady (P : Deployment → Prop) : Prop where
  surroundings : ∀ deployment clock processVariables files network shared interventions idsDrawn
    trace, P deployment → P { deployment with
      clock, processVariables, files, network, shared, interventions, idsDrawn, trace }
  registry : ∀ {α : Type} deployment number (request : Request α), P deployment →
    P (deployment.setRegistry number
      ((deployment.registries.get number).submit deployment.clock request).2)
  intervene : ∀ deployment intervention, P deployment → P (deployment.intervene intervention)
  addRegistry : ∀ deployment, P deployment → P deployment.addRegistry.2
  record : ∀ deployment number state,
    state.listeners = (deployment.managers.get number).listeners → P deployment →
      P (deployment.setManager number state)
  addManager : ∀ deployment state, state.listeners = ∅ → P deployment →
    P (deployment.addManager state).2
  addScripted : ∀ deployment client, P deployment → P (deployment.addClient (.scripted client)).2
  /-- A client that does not register is just added. -/
  added : ∀ deployment client, client.IsNew → client.settings.registers = false → P deployment →
    P (deployment.addClient (.registry client)).2
  connected : ∀ deployment client, client.IsNew → client.settings.registers = true →
    P deployment → P (deployment.connected client)
  disconnected : ∀ deployment number client,
    deployment.clients.get number = .registry client → P deployment →
      P (deployment.disconnected number client)
  answered : ∀ deployment number client next,
    deployment.clients.get number = .scripted client → P deployment →
      P (deployment.setClient number (.scripted next))

/-- A property of deployments that no primitive change ends. -/
structure Invariant (P : Deployment → Prop) : Prop extends Steady P where
  observe : ∀ deployment manager id tag, P deployment →
    P (deployment.setManager manager
      ((deployment.managers.get manager).listen id (.observer tag)))
  unlisten : ∀ deployment manager id, P deployment →
    P (deployment.setManager manager ((deployment.managers.get manager).unlisten id))

/-- Somebody begins or ceases to listen to a record, not by making or ending a client. -/
def ProcessStep.SetsListener : ProcessStep → Prop
  | .observe _ _ _ | .unlisten _ _ => True
  | _ => False

namespace Steady

variable {P : Deployment → Prop}

theorem lasting (hsteady : Steady P) : Action.Lasting P where
  network deployment network trace :=
    hsteady.surroundings deployment deployment.clock deployment.processVariables deployment.files
      network deployment.shared deployment.interventions deployment.idsDrawn trace
  registry := hsteady.registry
  manager deployment number state hlisteners _ _ :=
    hsteady.record deployment number state hlisteners

theorem sleep (hsteady : Steady P) (deployment : Deployment) (milliseconds : Nat)
    (hbefore : P deployment) : P (deployment.sleep milliseconds) :=
  Deployment.sleep_keeps
    (fun deployment _ _ _ => hsteady.surroundings deployment _ _ _ _ _ _ _ _)
    hsteady.intervene hbefore milliseconds

theorem lookup (hsteady : Steady P) (number : Nat) (app : String) :
    Keeps P (Action.lookup number app) := by
  refine .get_bind ?_
  intro deployment hbefore
  cases hclient : deployment.clients.get number with
  | registry client =>
      exact Keeps.ite (.pure _) (.ite (.pure _) (hsteady.lasting.failover _ _)) deployment hbefore
  | scripted client =>
      exact hsteady.answered (deployment.note (.lookedUp app)) number client _ hclient
        (hsteady.lasting.network deployment deployment.network _ hbefore)

theorem enduring (hsteady : Steady P) : Enduring P where
  toLasting := hsteady.lasting
  sleep := hsteady.sleep
  lookup := hsteady.lookup
  shutDown number := Action.keeps_shutDown hsteady.lasting fun deployment client =>
    hsteady.disconnected deployment number client

theorem connect (hsteady : Steady P) (manager : Nat) (settings : ClientSettings)
    (kind : TransportKind) : Keeps P (Action.connect manager settings kind) :=
  Action.keeps_connect hsteady.lasting hsteady.added hsteady.connected manager settings kind

theorem prepared (hsteady : Steady P) {plan : MemberPlan} {scopeName : String}
    {policy : StatusPolicy} {source : ConfigSource} {before ready : Deployment} {manager : Nat}
    (hprepared : plan.Prepared scopeName policy source before manager ready)
    (hbefore : P before) : P ready := by
  cases hprepared with
  | given => exact hbefore
  | made config network trace =>
      refine hsteady.surroundings _ _ _ _ network _ _ _ trace
        (hsteady.addManager before _ ?_ hbefore)
      rw [StatusPolicy.restated_listeners]
      rfl

theorem build (hsteady : Steady P) (plan : MemberPlan) : Keeps P plan.build := by
  intro deployment hbefore
  have houtcome := plan.exec_build deployment
  generalize plan.build.exec deployment = result at houtcome ⊢
  obtain ⟨answer, after⟩ := result
  cases houtcome with
  | unread error network trace => exact hsteady.lasting.network deployment network trace hbefore
  | refused => exact hsteady.enduring.discard plan deployment hbefore
  | unconnected _ _ _ _ _ _ _ hready => exact hsteady.prepared hready hbefore
  | given => exact hbefore
  | connected options policy source settings client manager ready after _ _ _ _ hready _ hconnect =>
      have hafter := hsteady.connect manager settings (plan.transport.getD .http) ready
        (hsteady.prepared hready hbefore)
      rw [Action.connectWith_connect] at hconnect
      rw [hconnect] at hafter
      exact hafter

/-- Every step of a process keeps the property, if those do that are about listeners alone. -/
theorem after (hsteady : Steady P) {deployment : Deployment} (hbefore : P deployment)
    (step : ProcessStep) (hlistener : step.SetsListener → P (step.after deployment)) :
    P (step.after deployment) := by
  cases step with
  | surroundings => exact hsteady.surroundings deployment _ _ _ _ _ _ _ _ hbefore
  | intervene intervention => exact hsteady.intervene deployment intervention hbefore
  | addRegistry => exact hsteady.addRegistry deployment hbefore
  | addManager config record => exact hsteady.addManager deployment _ rfl hbefore
  | addScripted client => exact hsteady.addScripted deployment client hbefore
  | connect manager settings kind => exact hsteady.connect manager settings kind _ hbefore
  | setStatus manager status => exact hsteady.lasting.setStatus manager status _ hbefore
  | update manager change => exact hsteady.record deployment _ _ rfl hbefore
  | addMetadata manager entries => exact hsteady.record deployment _ _ rfl hbefore
  | observe | unlisten => exact hlistener trivial
  | renew client => exact hsteady.lasting.renew client _ hbefore
  | beat client waited => exact hsteady.lasting.beat client waited _ hbefore
  | lookup client app => exact hsteady.lookup client app _ hbefore
  | shutDown client => exact hsteady.enduring.shutDown client _ hbefore
  | build plan => exact hsteady.build plan _ hbefore
  | start member => exact hsteady.enduring.start member _ hbefore
  | discover member => exact hsteady.enduring.discover member _ hbefore
  | destroy member => exact hsteady.enduring.destroy member _ hbefore

end Steady

namespace Invariant

variable {P : Deployment → Prop}

theorem after (hinvariant : Invariant P) {deployment : Deployment} (hbefore : P deployment)
    (step : ProcessStep) : P (step.after deployment) := by
  apply hinvariant.toSteady.after hbefore
  intro hlistener
  cases step with
  | observe manager id tag => exact hinvariant.observe deployment manager id tag hbefore
  | unlisten manager id => exact hinvariant.unlisten deployment manager id hbefore
  | _ => exact hlistener.elim

theorem run (hinvariant : Invariant P) {deployment : Deployment} (hbefore : P deployment)
    (steps : List ProcessStep) : P (steps.foldl ProcessStep.after deployment) := by
  induction steps generalizing deployment with
  | nil => exact hbefore
  | cons step rest ih => exact ih (hinvariant.after hbefore step)

theorem reachable (hinvariant : Invariant P)
    (hstart : ∀ clock machine idSource, P (.start clock machine idSource)) {deployment : Deployment}
    (hreachable : deployment.Reachable) : P deployment := by
  induction hreachable with
  | start clock machine idSource => exact hstart clock machine idSource
  | step _ step ih => exact hinvariant.after ih step

end Invariant

namespace Deployment

theorem sound_invariant : Invariant Sound where
  surroundings _ _ _ _ _ _ _ _ _ hsound := hsound.congr rfl fun _ => rfl
  registry _ _ _ hsound := hsound.congr rfl fun _ => rfl
  intervene _ intervention hsound := by
    cases intervention <;> exact hsound.congr rfl fun _ => rfl
  addRegistry _ hsound := hsound.congr rfl fun _ => rfl
  record _ _ _ hlisteners hsound := hsound.update hlisteners
  addManager _ _ hlisteners hsound := hsound.addManager hlisteners
  addScripted _ _ hsound := hsound.addClient nofun
  added _ _ hnew _ hsound :=
    hsound.addClient fun _ hclient => Client.registry.inj hclient ▸ hnew.uniform
  connected _ _ hnew _ hsound := hsound.connected hnew.uniform
  disconnected _ _ _ hclient hsound := hsound.disconnected hclient
  answered _ _ _ next hclient hsound := hsound.setScripted hclient next
  observe _ manager id tag hsound := hsound.observe manager id tag
  unlisten _ manager id hsound := hsound.unlisten manager id

namespace Reachable

variable {deployment : Deployment}

/-- Whatever a process does, clients listen only to the records that they were made for. -/
theorem sound (hreachable : deployment.Reachable) : deployment.Sound :=
  sound_invariant.reachable sound_start hreachable

theorem run (hreachable : deployment.Reachable) (steps : List ProcessStep) :
    (steps.foldl ProcessStep.after deployment).Reachable := by
  induction steps generalizing deployment with
  | nil => exact hreachable
  | cons step rest ih => exact ih (.step hreachable step)

theorem build {built : Deployment} {plan : MemberPlan} {member : Member}
    (hreachable : deployment.Reachable)
    (hbuild : plan.build.exec deployment = (.ok member, built)) : built.Reachable := by
  have hstep := hreachable.step (.build plan)
  rw [ProcessStep.after, hbuild] at hstep
  exact hstep

end Reachable

end Deployment

end MemberDiscovery
