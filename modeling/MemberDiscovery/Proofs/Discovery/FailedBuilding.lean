import MemberDiscovery.Proofs.Deployment.Ending
import MemberDiscovery.Proofs.Deployment.Session
import MemberDiscovery.Proofs.Discovery.Building
import MemberDiscovery.Proofs.Discovery.Enrollment

/-! # Members that cannot be built

Building can fail at the options, at the configuration, for want of a server, or at the transport to
any of the servers, and by then a record may have been made or given. `MemberPlan.Undone` says what
there is after a failure: no registry was asked for anything, no client was made, a given manager is
as it was, and to a manager that was made in vain nobody listens. There is one exception: a client
that was given, that nobody else holds and that has not ended yet ends with the plan
(`Deployment.Dropped`).
-/

namespace MemberDiscovery

/-- A call that makes a request of a registry. -/
def HttpCall.IsRequest (call : HttpCall) : Prop :=
  ∃ (α : Type) (request : Request α) (proxy : Option HttpProxy) (url : Url),
    call = ((RemoteRegistry.call request).route proxy url).2

theorem HttpCall.route_method (proxy : Option HttpProxy) (url : Url) (call : HttpCall) :
    (call.route proxy url).2.method = call.method := by
  cases proxy <;> rfl

theorem HttpCall.route_accept (proxy : Option HttpProxy) (url : Url) (call : HttpCall) :
    (call.route proxy url).2.accept = call.accept := by
  cases proxy <;> rfl

/-- Queries of a provider are told from lookups in a registry by what they accept. -/
theorem HttpCall.not_isRequest_query (url : Url) :
    ¬ ((HttpCall.plain "GET").route none url).2.IsRequest := by
  rintro ⟨α, request, proxy, other, heq⟩
  have hmethod := congrArg HttpCall.method heq
  have haccept := congrArg HttpCall.accept heq
  rw [route_method, route_method] at hmethod
  rw [route_accept, route_accept] at haccept
  cases request <;> simp [HttpCall.plain, HttpCall.withJson, RemoteRegistry.call] at hmethod haccept

/-- A note of something that was asked of a registry or of a client. -/
def Event.IsRequest : Event → Prop
  | .called call => call.IsRequest
  | .lookedUp _ => True
  | .stopped => True
  | .slept _ => False
  | .statusChanged _ _ => False
  | .statusNoted _ => False
  | .logged _ _ _ => False

theorem Event.OfSetup.not_isRequest {event : Event} (hsetup : event.OfSetup) :
    ¬ event.IsRequest := by
  cases event with
  | called call =>
      obtain ⟨url, rfl⟩ := hsetup
      exact HttpCall.not_isRequest_query url
  | slept milliseconds => exact id
  | statusChanged tag change => exact id
  | lookedUp app => exact absurd hsetup id
  | stopped => exact absurd hsetup id
  | statusNoted status => exact id
  | logged level message fields => exact id

theorem SetupNoted.requests {before after : List Event} (hnoted : SetupNoted before after) :
    ∃ notes, after = before ++ notes ∧ ∀ note ∈ notes, ¬ note.IsRequest := by
  obtain ⟨notes, hafter, hsetup⟩ := hnoted
  exact ⟨notes, hafter, fun note hmem => (hsetup note hmem).not_isRequest⟩

namespace MemberPlan

/-- What a building that failed left of the deployment before it: everything, except that ids may
have been drawn and replies received. -/
structure Undone (plan : MemberPlan) (before after : Deployment) : Prop where
  /-- No registry in memory took or refused anything. -/
  registries : after.registries = before.registries
  clients : after.clients = before.clients
  requests : ∃ notes, after.trace = before.trace ++ notes ∧ ∀ note ∈ notes, ¬ note.IsRequest
  /-- A given record is as it was, and the same listen to it. -/
  given : ∀ manager, plan.givenManager before = some manager → after.managers = before.managers
  /-- At most a record was made to which nobody listens. -/
  made : after.managers = before.managers ∨
    ∃ manager, manager.listeners = ∅ ∧ after.managers = (before.managers.add manager).2
  process : before.SameProcess after
  clock : after.clock = before.clock
  shared : after.shared = before.shared
  interventions : after.interventions = before.interventions

variable {plan : MemberPlan} {before after : Deployment}

/-- What is noted while a record is set up leaves everything undone. -/
theorem Undone.of_setupNoted {network : Network} {trace : List Event}
    (hnoted : SetupNoted before.trace trace) :
    plan.Undone before { before with network, trace } where
  registries := rfl
  clients := rfl
  requests := hnoted.requests
  given _ _ := rfl
  made := .inl rfl
  process := ⟨rfl, rfl, rfl, rfl⟩
  clock := rfl
  shared := rfl
  interventions := rfl

theorem Undone.of_prepared {scopeName : String} {policy : StatusPolicy} {source : ConfigSource}
    {manager : Nat} (hprepared : plan.Prepared scopeName policy source before manager after) :
    plan.Undone before after := by
  cases hprepared with
  | given => exact .of_setupNoted (.refl before.trace)
  | made config network trace hgiven _ hnoted =>
      refine {
        registries := rfl
        clients := rfl
        requests := hnoted.requests
        given := ?_
        made := .inr ⟨_, ?_, rfl⟩
        process := ⟨rfl, rfl, rfl, rfl⟩
        clock := rfl
        shared := rfl
        interventions := rfl }
      · intro manager hsome
        rw [hgiven] at hsome
        cases hsome
      · rw [StatusPolicy.restated_listeners]
        rfl

end MemberPlan

/-! ## Clients that nobody holds any longer -/

namespace Deployment

variable {number : Nat} {client : RegistryClient} {before : Deployment}

/-- What became of a client that had not ended when the last who held it let it go. -/
structure Dropped (number : Nat) (client : RegistryClient) (before after : Deployment) : Prop where
  clients : after.clients = before.clients.set number (.registry client.ended)
  /-- No client listens to the record any more. -/
  managers : after.managers = before.managers.set client.manager
    ((before.managers.get client.manager).unlisten Action.clientListenerId)
  records : ∀ manager, (after.managers.get manager).record = (before.managers.get manager).record
  /-- Others see one round in which the record is taken back, and that only if the client
  registers. -/
  requests : after.outside =
    if client.settings.registers then
      ((client.takeBack (before.managers.get client.manager).record).exec before).2.outside
    else before.outside
  process : before.SameProcess after
  idsDrawn : after.idsDrawn = before.idsDrawn
  shared : after.shared = before.shared

/-- Surroundings have nothing to do with records and requests. -/
theorem SameProcess.lasting (before : Deployment) : Action.Lasting fun after =>
    before.SameProcess after ∧ after.idsDrawn = before.idsDrawn ∧
      after.shared = before.shared where
  network _ _ _ hsame := ⟨hsame.1.trans ⟨rfl, rfl, rfl, rfl⟩, hsame.2⟩
  registry _ _ _ hsame := ⟨hsame.1.trans ⟨rfl, rfl, rfl, rfl⟩, hsame.2⟩
  manager _ _ _ _ _ _ hsame := ⟨hsame.1.trans ⟨rfl, rfl, rfl, rfl⟩, hsame.2⟩

theorem dropped_of_release (hclient : before.clients.get number = .registry client)
    (hlive : client.isShutDown = false) :
    before.Dropped number client ((Action.release number).exec before).2 := by
  rw [Action.exec_release hclient, ← Action.exec_shutDown hclient]
  obtain ⟨hclients, hmanagers⟩ := Action.own_shutDown hclient hlive
  have hkeeps : Action.Keeps _ (if client.settings.registers then Action.unregister client
      else pure ()) := .ite ((SameProcess.lasting before).unregister client) (.pure _)
  obtain ⟨hprocess, hidsDrawn, hshared⟩ := hkeeps (before.disconnected number client)
    ⟨⟨rfl, rfl, rfl, rfl⟩, rfl, rfl⟩
  rw [← Action.exec_shutDown_of_live hclient hlive] at hprocess hidsDrawn hshared
  refine ⟨hclients, hmanagers, ?_, Action.outside_shutDown hclient hlive, hprocess, hidsDrawn,
    hshared⟩
  intro manager
  rw [hmanagers, disconnected, managers_setManager, Slots.get_set]
  split
  next heq => rw [heq]; rfl
  next => rfl

end Deployment

namespace MemberPlan

variable {plan : MemberPlan} {before after : Deployment}

/-- What there is after a building that failed. -/
structure Aborted (plan : MemberPlan) (before after : Deployment) : Prop where
  /-- Nothing is left behind unless the plan alone holds a client that has not ended yet. -/
  undone : (∀ number client, plan.soleClient = some number →
    before.clients.get number = .registry client → client.isShutDown = true) →
      plan.Undone before after
  /-- Such a client ends with the plan, and that is all. -/
  dropped : ∀ number client, plan.soleClient = some number →
    before.clients.get number = .registry client → client.isShutDown = false →
      before.Dropped number client after

theorem Aborted.of_undone (hclient : plan.client = none) (hundone : plan.Undone before after) :
    plan.Aborted before after where
  undone _ := hundone
  dropped number client hsole := by
    rw [soleClient_of_client_eq_none hclient] at hsole
    cases hsole

/-- A given client is let go of where its plan is of no use. -/
theorem aborted_discard (plan : MemberPlan) (before : Deployment) :
    plan.Aborted before (plan.discard.exec before).2 := by
  have hunchanged : plan.Undone before before := .of_setupNoted (.refl before.trace)
  cases hsole : plan.soleClient with
  | none =>
      rw [exec_discard_of_soleClient_eq_none hsole]
      refine ⟨fun _ => hunchanged, ?_⟩
      intro number client hsome
      rw [hsole] at hsome
      cases hsome
  | some number =>
      have hdiscard : plan.discard = Action.release number := by rw [discard, hsole]
      rw [hdiscard]
      constructor
      case undone =>
        intro hended
        have hexec : ((Action.release number).exec before).2 = before := by
          cases hclient : before.clients.get number with
          | scripted client => simp [Action.release, hclient]
          | registry client =>
              rw [Action.exec_release hclient,
                Action.exec_endRegistry_of_isShutDown (hended number client hsole hclient)]
        rw [hexec]
        exact hunchanged
      case dropped =>
        intro other client hother hclient hlive
        rw [hsole, Option.some.injEq] at hother
        subst hother
        exact Deployment.dropped_of_release hclient hlive

/-- A building that fails leaves nothing behind, wherever it fails and whatever makes the
transports, except that a client ends that nobody else holds. -/
theorem aborted_of_failed_build {factory : TransportFactory} {error : DiscoveryError}
    (hbuild : (plan.buildWith factory).exec before = (.error error, after)) :
    plan.Aborted before after := by
  have houtcome := plan.exec_buildWith factory before
  rw [hbuild] at houtcome
  cases houtcome with
  | unread _ network trace hclient hnoted => exact .of_undone hclient (.of_setupNoted hnoted)
  | refused => exact aborted_discard plan before
  | unconnected _ scopeName policy source manager _ hclient hprepared =>
      exact .of_undone hclient (.of_prepared hprepared)

/-- A member that is given a record and has two servers. -/
def sampleRefused : MemberPlan :=
  { sample with
    manager := some 0
    resource := some (Table.ofList
      [("hazelcast.name", "app"), ("hazelcast.serviceUrl.default", "memory://one,memory://two")]) }

/-- Somebody watches the status of the record. -/
def sampleWatched : Deployment :=
  (sampleStart.addManager
    ((InstanceManager.ofRecord default (Instance.new "app" "member" 0)).listen "watch"
      (.observer "watch"))).2

/-- Makes transports to all servers but the second. -/
def sampleRefusal : TransportFactory := fun settings url =>
  if url = "memory://two" then .error .noAnswer
  else (TransportKind.memory 0).connect settings url

/-- A plan that alone holds a client, with an option that says neither yes nor no. -/
def sampleOwner : MemberPlan :=
  { sample with
    client := some 0
    ownsClient := true
    options := Table.ofList [(OptionDefinition.selfRegistration.key, .text "maybe")] }

theorem exists_of_fails {factory : TransportFactory}
    (hfails : ((plan.buildWith factory).exec before).1.toBool = false) :
    ∃ error after, (plan.buildWith factory).exec before = (.error error, after) := by
  cases hresult : (plan.buildWith factory).exec before with
  | mk answer after =>
      rw [hresult] at hfails
      cases answer with
      | ok member => cases hfails
      | error error => exact ⟨error, after, rfl⟩

/-- One building fails at the second server and leaves nothing behind. Another one fails at its
options, and a client that registers ends. -/
theorem sample_aborted :
    (∃ error after, (sampleRefused.buildWith sampleRefusal).exec sampleWatched =
        (.error error, after) ∧ sampleRefused.Undone sampleWatched after) ∧
      ∃ error after, (sampleOwner.buildWith sampleRefusal).exec (SessionStep.sampleRun []) =
          (.error error, after) ∧
        SessionStep.sampleClient.settings.registers = true ∧
        (SessionStep.sampleRun []).Dropped 0 SessionStep.sampleClient after := by
  obtain ⟨refusal, unchanged, hrefused⟩ := exists_of_fails
    (show ((sampleRefused.buildWith sampleRefusal).exec sampleWatched).1.toBool = false by
      decide +kernel)
  obtain ⟨error, after, hbuild⟩ := exists_of_fails
    (show ((sampleOwner.buildWith sampleRefusal).exec (SessionStep.sampleRun [])).1.toBool = false
      by decide +kernel)
  refine ⟨⟨refusal, unchanged, hrefused, (aborted_of_failed_build hrefused).undone nofun⟩,
    error, after, hbuild, rfl, (aborted_of_failed_build hbuild).dropped 0 _ rfl rfl rfl⟩

/-- A plan that alone holds a client takes the client's record back where it is of no use. -/
theorem failed_build_cancels :
    ∃ error after, (sampleOwner.buildWith sampleRefusal).exec (SessionStep.sampleRun []) =
        (.error error, after) ∧
      (after.registries.get 0).operations =
        ((SessionStep.sampleRun []).registries.get 0).operations ++ [.cancel "APP" "member"] := by
  obtain ⟨error, after, hbuild⟩ := exists_of_fails
    (show ((sampleOwner.buildWith sampleRefusal).exec (SessionStep.sampleRun [])).1.toBool = false
      by decide +kernel)
  have hoperations :
      ((((sampleOwner.buildWith sampleRefusal).exec (SessionStep.sampleRun [])).2).registries.get
        0).operations =
      ((SessionStep.sampleRun []).registries.get 0).operations ++ [.cancel "APP" "member"] := by
    decide +kernel
  rw [hbuild] at hoperations
  exact ⟨error, after, hbuild, hoperations⟩

end MemberPlan

end MemberDiscovery
