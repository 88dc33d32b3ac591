import MemberDiscovery.Proofs.Discovery.Candidates
import MemberDiscovery.Proofs.Discovery.Lifecycle

/-! # A member that keeps its record in a registry

`Member.Enrolled` says that a member keeps a record in a registry by a client of its own, and that
both the record and the copy in the registry present the member's profile and its present status.
Starting, discovering and destroying are described by what becomes of the copy, whose place among
the records of the application `Deployment.Listed` gives. What belongs to other members stays as it
is: `Deployment.Frame`.
-/

namespace MemberDiscovery

namespace Deployment

/-- Surroundings that nothing in a process changes. -/
structure SameProcess (before after : Deployment) : Prop where
  machine : after.machine = before.machine
  processVariables : after.processVariables = before.processVariables
  files : after.files = before.files
  idSource : after.idSource = before.idSource

/-- Of managers and clients at most those with two numbers change. -/
structure Frame (manager client : Nat) (before after : Deployment) : Prop where
  process : before.SameProcess after
  managers : ∀ other, other ≠ manager → after.managers.get other = before.managers.get other
  clients : ∀ other, other ≠ client → after.clients.get other = before.clients.get other
  managerCount : before.managers.size ≤ after.managers.size
  clientCount : before.clients.size ≤ after.clients.size
  idsDrawn : before.idsDrawn ≤ after.idsDrawn

/-- A request of a registry that changes no record. -/
inductive Quiet (registry : Nat) (before : Deployment) : Deployment → Prop where
  | intro (state : Registry) (trace : List Event)
      (happlications : state.applications = (before.registries.get registry).applications)
      (hfailures : state.failures = (before.registries.get registry).failures) :
      Quiet registry before { before.setRegistry registry state with trace }

/-- A record is at its place among the records of an application, and no request is going to fail.
-/
structure Listed (registry : Nat) (app : String) (front : List Instance) (copy : Instance)
    (back : List Instance) (deployment : Deployment) : Prop where
  failures : (deployment.registries.get registry).failures = []
  members : (deployment.registries.get registry).members (Text.upper app) = front ++ copy :: back
  fresh : ∀ other ∈ front, other.id ≠ copy.id

theorem SameProcess.refl (deployment : Deployment) : deployment.SameProcess deployment :=
  ⟨rfl, rfl, rfl, rfl⟩

theorem SameProcess.trans {before middle after : Deployment} (hfirst : before.SameProcess middle)
    (hsecond : middle.SameProcess after) : before.SameProcess after where
  machine := hsecond.machine.trans hfirst.machine
  processVariables := hsecond.processVariables.trans hfirst.processVariables
  files := hsecond.files.trans hfirst.files
  idSource := hsecond.idSource.trans hfirst.idSource

namespace Frame

variable {manager client : Nat} {before middle after : Deployment}

theorem refl (manager client : Nat) (deployment : Deployment) :
    Frame manager client deployment deployment :=
  ⟨.refl _, fun _ _ => rfl, fun _ _ => rfl, Nat.le_refl _, Nat.le_refl _, Nat.le_refl _⟩

theorem trans (hfirst : Frame manager client before middle)
    (hsecond : Frame manager client middle after) : Frame manager client before after where
  process := hfirst.process.trans hsecond.process
  managers other hother := (hsecond.managers other hother).trans (hfirst.managers other hother)
  clients other hother := (hsecond.clients other hother).trans (hfirst.clients other hother)
  managerCount := Nat.le_trans hfirst.managerCount hsecond.managerCount
  clientCount := Nat.le_trans hfirst.clientCount hsecond.clientCount
  idsDrawn := Nat.le_trans hfirst.idsDrawn hsecond.idsDrawn

/-- Registries belong to nobody, and ids are only drawn. -/
theorem elsewhere (hframe : Frame manager client before after) {idsDrawn : Nat}
    (hdrawn : after.idsDrawn ≤ idsDrawn) (network : Network) (registries : Slots Registry)
    (trace : List Event) :
    Frame manager client before { after with idsDrawn, network, registries, trace } :=
  hframe.trans ⟨⟨rfl, rfl, rfl, rfl⟩, fun _ _ => rfl, fun _ _ => rfl, Nat.le_refl _, Nat.le_refl _,
    hdrawn⟩

theorem setManager (hframe : Frame manager client before after) (state : InstanceManager) :
    Frame manager client before (after.setManager manager state) := by
  refine hframe.trans ⟨⟨rfl, rfl, rfl, rfl⟩, ?_, fun _ _ => rfl, ?_, Nat.le_refl _, Nat.le_refl _⟩
  · intro other hother
    simp [hother]
  · simp

theorem setClient (hframe : Frame manager client before after) (state : Client) :
    Frame manager client before (after.setClient client state) := by
  refine hframe.trans ⟨⟨rfl, rfl, rfl, rfl⟩, fun _ _ => rfl, ?_, Nat.le_refl _, ?_, Nat.le_refl _⟩
  · intro other hother
    simp [hother]
  · simp

theorem addManager (client : Nat) (before : Deployment) (state : InstanceManager) :
    Frame before.managers.size client before (before.addManager state).2 := by
  refine ⟨⟨rfl, rfl, rfl, rfl⟩, ?_, fun _ _ => rfl, Nat.le_succ _, Nat.le_refl _, Nat.le_refl _⟩
  intro other hother
  simp [Deployment.addManager, hother]

theorem addClient (manager : Nat) (before : Deployment) (state : Client) :
    Frame manager before.clients.size before (before.addClient state).2 := by
  refine ⟨⟨rfl, rfl, rfl, rfl⟩, fun _ _ => rfl, ?_, Nat.le_refl _, Nat.le_succ _, Nat.le_refl _⟩
  intro other hother
  simp [Deployment.addClient, hother]

end Frame

namespace Quiet

variable {registry : Nat} {before middle after : Deployment}

theorem of_trace (registry : Nat) (deployment : Deployment) (trace : List Event) :
    Quiet registry deployment { deployment with trace } := by
  have hquiet : Quiet registry deployment { deployment.setRegistry registry
      (deployment.registries.get registry) with trace } := .intro _ trace rfl rfl
  rwa [setRegistry_get] at hquiet

theorem trans (hfirst : Quiet registry before middle) (hsecond : Quiet registry middle after) :
    Quiet registry before after := by
  cases hfirst with
  | intro first earlier happlications hfailures =>
      cases hsecond with
      | intro second trace hlater hleft =>
          simp only [Deployment.registries_setRegistry, Slots.get_set, if_pos] at hlater hleft
          have hquiet : Quiet registry before { before.setRegistry registry second with trace } :=
            .intro second trace (hlater.trans happlications) (hleft.trans hfailures)
          simp only [Deployment.registries_setRegistry, Slots.set_set] at hquiet ⊢
          exact hquiet

theorem frame (hquiet : Quiet registry before after) (manager client : Nat) :
    Frame manager client before after := by
  cases hquiet with
  | intro => exact (Frame.refl manager client before).elsewhere (Nat.le_refl _) _ _ _

theorem listed {app : String} {front back : List Instance} {copy : Instance}
    (hquiet : Quiet registry before after) (hlisted : before.Listed registry app front copy back) :
    after.Listed registry app front copy back := by
  cases hquiet with
  | intro state trace happlications hfailures =>
      have hmembers := hlisted.members
      refine ⟨?_, ?_, hlisted.fresh⟩
      · simpa [hfailures] using hlisted.failures
      · rw [← Registry.members_congr happlications] at hmembers
        simpa using hmembers

end Quiet

/-- A record that is published again stays at its place. -/
theorem Listed.published {registry : Nat} {app : String} {front back : List Instance}
    {copy : Instance} {deployment : Deployment} (manager : Nat)
    (hlisted : deployment.Listed registry app front copy back)
    (happ : (deployment.managers.get manager).record.app = Text.upper app)
    (hid : copy.id = (deployment.managers.get manager).record.id) (trace : List Event) :
    ({ deployment.published registry manager with trace } : Deployment).Listed registry app front
      (Registry.stored deployment.clock (deployment.managers.get manager).record) back where
  failures := by simp
  members := by
    have hstored : copy.id =
        (Registry.stored deployment.clock (deployment.managers.get manager).record).id := hid
    refine (members_published happ).trans ?_
    rw [hlisted.members]
    apply Application.addTo_append_cons hstored
    intro other hother
    exact hstored ▸ hlisted.fresh other hother
  fresh other hother := by
    have hstored : copy.id =
        (Registry.stored deployment.clock (deployment.managers.get manager).record).id := hid
    exact hstored ▸ hlisted.fresh other hother

end Deployment

namespace Member

/-- The deployment after the policy of a member changed its record, with nothing published yet. -/
def restated (status : InstanceStatus) (member : Member) (deployment : Deployment) : Deployment :=
  deployment.setManager member.manager (member.policy.restated deployment.clock status
    (deployment.managers.get member.manager))

/-- A member that keeps its record in a registry. -/
structure Enrolled (registry : Nat) (app : String) (profile : Profile) (status : InstanceStatus)
    (deployment : Deployment) (member : Member) (copy : Instance) : Prop where
  policy : member.policy = profile.policy
  attached : deployment.Attached registry member.manager member.client
  settings : ∃ client, deployment.clients.get member.client = .registry client ∧
    client.settings.registers = true ∧ client.settings.fetches = true
  appName : (deployment.managers.get member.manager).config.appName = app
  record : (deployment.managers.get member.manager).record.Presents app profile status
  presents : copy.Presents app profile status
  id : copy.id = (deployment.managers.get member.manager).record.id
  drawn : ∃ number, number < deployment.idsDrawn ∧ copy.id = deployment.idSource number

namespace Enrolled

open Deployment (Frame Quiet Listed)

variable {registry : Nat} {app : String} {profile : Profile} {status : InstanceStatus}
  {before after : Deployment} {member : Member} {copy : Instance} {front back : List Instance}

/-- What other members do makes no difference. -/
theorem frame {manager client : Nat}
    (henrolled : member.Enrolled registry app profile status before copy)
    (hframe : Frame manager client before after) (hmanager : member.manager ≠ manager)
    (hclient : member.client ≠ client) :
    member.Enrolled registry app profile status after copy where
  policy := henrolled.policy
  attached := by
    obtain ⟨hattached, hpublishers⟩ := henrolled.attached
    exact ⟨by rwa [hframe.clients _ hclient], by rwa [hframe.managers _ hmanager]⟩
  settings := by
    rw [hframe.clients _ hclient]
    exact henrolled.settings
  appName := by
    rw [hframe.managers _ hmanager]
    exact henrolled.appName
  record := by
    rw [hframe.managers _ hmanager]
    exact henrolled.record
  presents := henrolled.presents
  id := by
    rw [hframe.managers _ hmanager]
    exact henrolled.id
  drawn := by
    obtain ⟨number, hnumber, hid⟩ := henrolled.drawn
    exact ⟨number, Nat.lt_of_lt_of_le hnumber hframe.idsDrawn, by rw [hframe.process.idSource, hid]⟩

theorem quiet (henrolled : member.Enrolled registry app profile status before copy)
    (hquiet : Quiet registry before after) :
    member.Enrolled registry app profile status after copy := by
  cases hquiet with
  | intro =>
      exact ⟨henrolled.policy, henrolled.attached.congr rfl rfl, henrolled.settings,
        henrolled.appName, henrolled.record, henrolled.presents, henrolled.id, henrolled.drawn⟩

/-- A member whose record was just published. -/
theorem of_published (deployment : Deployment) (hpolicy : member.policy = profile.policy)
    (hattached : deployment.Attached registry member.manager member.client)
    (hsettings : ∃ client, deployment.clients.get member.client = .registry client ∧
      client.settings.registers = true ∧ client.settings.fetches = true)
    (happName : (deployment.managers.get member.manager).config.appName = app)
    (hrecord : (deployment.managers.get member.manager).record.Presents app profile status)
    (hdrawn : ∃ number, number < deployment.idsDrawn ∧
      (deployment.managers.get member.manager).record.id = deployment.idSource number)
    (trace : List Event) :
    member.Enrolled registry app profile status
      { deployment.published registry member.manager with trace }
      (Registry.stored deployment.clock (deployment.managers.get member.manager).record) where
  policy := hpolicy
  attached := hattached.publication (.taken trace)
  settings := hsettings
  appName := by simpa using happName
  record := by
    rw [Deployment.manager_published]
    exact hrecord.setDirty false
  presents := hrecord.stored deployment.clock
  id := by
    rw [Deployment.manager_published]
    rfl
  drawn := hdrawn

/-- A member whose client is made. Its copy is the last one, or in the place of one with its id. -/
theorem of_connect (member : Member) {ready : Deployment} {settings : ClientSettings}
    (hpolicy : member.policy = profile.policy) (hregisters : settings.registers = true)
    (hfetches : settings.fetches = true)
    (hfailures : (ready.registries.get registry).failures = [])
    (hpublishers : (ready.managers.get member.manager).publishers = [])
    (happName : (ready.managers.get member.manager).config.appName = app)
    (hrecord : (ready.managers.get member.manager).record.Presents app profile status)
    (hdrawn : ∃ number, number < ready.idsDrawn ∧
      (ready.managers.get member.manager).record.id = ready.idSource number)
    (hconnect : (Action.connect member.manager settings (.memory registry)).exec ready =
      (.ok member.client, after)) :
    member.client = ready.clients.size ∧ member.client < after.clients.size ∧
      Frame member.manager member.client ready after ∧
      (after.registries.get registry).failures = [] ∧
      ∃ copy, copy.id = (ready.managers.get member.manager).record.id ∧
        member.Enrolled registry app profile status after copy ∧
        (after.registries.get registry).members (Text.upper app) =
          Application.addTo copy ((ready.registries.get registry).members (Text.upper app)) := by
  obtain ⟨hurls, hclient, answer, hpublication⟩ :=
    Action.connected_of_exec_connect hregisters hconnect
  obtain ⟨trace, hafter⟩ := hpublication.eq_of_failures_eq_nil hfailures
  let client : RegistryClient := .ofMemory member.manager settings registry
    (ready.managers.get member.manager).record
  let connected := ready.connected client
  have hown : connected.managers.get member.manager =
      (ready.managers.get member.manager).listen Action.clientListenerId
        (.client member.client) := by
    simp [connected, client, Deployment.connected, RegistryClient.ofMemory, RegistryClient.fresh,
      hclient]
  have hclients : connected.clients = (ready.clients.add (.registry client)).2 := rfl
  have hattached : connected.Attached registry member.manager member.client := by
    rw [hclient]
    exact .connected registry _
      (InstanceManager.clientsShareId_of_publishers_eq_nil hpublishers) hurls
  have hpublished : member.Enrolled registry app profile status
      { connected.published registry member.manager with trace }
      (Registry.stored connected.clock (connected.managers.get member.manager).record) := by
    refine .of_published connected hpolicy hattached ?_ ?_ ?_ ?_ trace
    · exact ⟨_, by rw [hclients, hclient, Slots.get_add, if_pos rfl], hregisters, hfetches⟩
    · rwa [hown]
    · rwa [hown]
    · rwa [hown]
  have hless : member.client < connected.clients.size := by
    rw [hclients, hclient, Slots.size_add]
    exact Nat.lt_succ_self _
  have hadded : Frame member.manager member.client ready
      (ready.addClient (.registry client)).2 := by
    rw [hclient]
    exact .addClient _ ready _
  rw [hafter]
  refine ⟨hclient, hless, ((hadded.setManager _).setManager _).elsewhere (Nat.le_refl _) _ _ _, ?_,
    _, ?_, hpublished, ?_⟩
  · simp
  · rw [hown]
    rfl
  · exact Deployment.members_published (by rw [hown]; exact hrecord.app)

/-- What is the member's own stays as it should be when its policy changes the record. -/
theorem restated (henrolled : member.Enrolled registry app profile status before copy)
    (next : InstanceStatus) :
    (member.restated next before).Attached registry member.manager member.client ∧
      ((member.restated next before).managers.get member.manager).config.appName = app ∧
      ((member.restated next before).managers.get member.manager).record.Presents app profile
        next ∧
      copy.id = ((member.restated next before).managers.get member.manager).record.id := by
  have hpresents : ((member.policy.restated before.clock next
      (before.managers.get member.manager)).record).Presents app profile next := by
    rw [henrolled.policy]
    exact Profile.presents_restated henrolled.record.app henrolled.record.host
      henrolled.record.port (fun hnone => henrolled.record.group.trans hnone) before.clock next
  refine ⟨henrolled.attached.congr rfl ?_, ?_, ?_, ?_⟩
  · simp [Member.restated]
  · simpa [Member.restated] using henrolled.appName
  · simpa [Member.restated] using hpresents
  · simpa [Member.restated] using henrolled.id

/-- A member that changes its status changes its copy, too. -/
theorem apply (henrolled : member.Enrolled registry app profile status before copy)
    (hlisted : before.Listed registry app front copy back) (next : InstanceStatus) :
    Frame member.manager member.client before
        ((member.policy.apply member.manager next).exec before).2 ∧
      ∃ other, other.id = copy.id ∧
        member.Enrolled registry app profile next
          ((member.policy.apply member.manager next).exec before).2 other ∧
        ((member.policy.apply member.manager next).exec before).2.Listed registry app front other
          back := by
  obtain ⟨hattached, happName, hrecord, hid⟩ := henrolled.restated next
  have hframe : Frame member.manager member.client before (member.restated next before) :=
    (Frame.refl _ _ before).setManager _
  have hplace : (member.restated next before).Listed registry app front copy back :=
    ⟨hlisted.failures, hlisted.members, hlisted.fresh⟩
  by_cases hstatus : (before.managers.get member.manager).record.status = next
  · -- Nothing is published, but the copy says already what the record says.
    obtain ⟨trace, hexec⟩ := StatusPolicy.exec_apply_of_eq hstatus member.policy
    rw [hexec]
    have hsame : status = next := henrolled.record.status.symm.trans hstatus
    subst hsame
    refine ⟨hframe.elsewhere (Nat.le_refl _) _ _ _, copy, rfl, ?_, ?_⟩
    · exact ⟨henrolled.policy, hattached.congr rfl rfl, henrolled.settings, happName, hrecord,
        henrolled.presents, hid, henrolled.drawn⟩
    · exact ⟨hplace.failures, hplace.members, hplace.fresh⟩
  · -- The client publishes the record, which takes the place of the copy.
    have happlies : member.policy.applies = true := by
      rw [henrolled.policy]
      exact profile.applies_policy
    obtain ⟨answer, hpublication⟩ :=
      StatusPolicy.exec_apply_published henrolled.attached happlies hstatus
    obtain ⟨trace, hafter⟩ := hpublication.eq_of_failures_eq_nil hlisted.failures
    rw [hafter]
    obtain ⟨number, hnumber, hdrawn⟩ := henrolled.drawn
    refine ⟨(hframe.setManager _).elsewhere (Nat.le_refl _) _ _ _, _, ?_, ?_,
      hplace.published member.manager hrecord.app hid trace⟩
    · exact hid.symm
    · exact .of_published (member.restated next before) henrolled.policy hattached
        henrolled.settings happName hrecord ⟨number, hnumber, hid.symm.trans hdrawn⟩ trace

/-- The member finds its application, with its own record in it. -/
theorem lookup (henrolled : member.Enrolled registry app profile status before copy)
    (hlisted : before.Listed registry app front copy back) :
    ∃ found after, (Action.lookup member.client app).exec before = (.ok (some found), after) ∧
      Quiet registry before after ∧ found.instances = front ++ copy :: back := by
  obtain ⟨client, hclient, -, hserved, hlive⟩ := henrolled.attached.client
  obtain ⟨same, hsame, -, hfetches⟩ := henrolled.settings
  rw [hclient] at hsame
  cases hsame
  obtain ⟨answer, state, hexec, houtcome⟩ :=
    Action.exec_lookup_of_servedBy hclient hserved hlive hfetches app
  obtain ⟨rfl, rfl⟩ := houtcome.eq_of_failures_eq_nil hlisted.failures
  obtain ⟨hinstances, hnone⟩ := Registry.accept_lookup before.clock app
    (before.registries.get registry)
  rw [hlisted.members] at hinstances hnone
  have hquiet : Quiet registry before { before.setRegistry registry
      ((before.registries.get registry).accept before.clock (.lookup app)).2 with
      trace := before.trace } :=
    .intro _ before.trace (Registry.accept_lookup_applications _ _ _) hlisted.failures.symm
  cases hfound : ((before.registries.get registry).accept before.clock (.lookup app)).1 with
  | none => simp [hnone] at hfound
  | some found =>
      rw [hfound] at hinstances hexec
      exact ⟨found, _, hexec, hquiet, hinstances⟩

/-- The first lookup of a member that waits finds its application. -/
theorem verify (henrolled : member.Enrolled registry app profile status before copy)
    (hlisted : before.Listed registry app front copy back) :
    ∃ after, member.verify.exec before = (some (.ok ()), after) ∧ Quiet registry before after := by
  obtain ⟨rounds, hrounds⟩ : ∃ rounds, before.patience = rounds + 1 := ⟨_, rfl⟩
  have hnoted : Quiet registry before
      (before.note (.logged .info "Waiting for registration with Eureka..." [])) :=
    .of_trace registry before _
  obtain ⟨found, looked, hlookup, hlooked, -⟩ :=
    (henrolled.quiet hnoted).lookup (hnoted.listed hlisted)
  have hverified : Quiet registry looked (looked.note (.logged .info
      ("Registration of " ++ app ++ " with Eureka verified") [])) :=
    .of_trace registry looked _
  refine ⟨_, ?_, hnoted.trans (hlooked.trans hverified)⟩
  rw [exec_verify, henrolled.appName, hrounds, awaitApplication, Action.exec_bind,
    Action.exec_inform, Action.exec_bind, hlookup]
  rfl

/-- A member that is started is up, whether it was before or not, and does not wait. -/
theorem start (henrolled : member.Enrolled registry app profile status before copy)
    (hlisted : before.Listed registry app front copy back) :
    ∃ after, member.start.exec before = (some (.ok ()), after) ∧
      Frame member.manager member.client before after ∧
      ∃ other, other.id = copy.id ∧ member.Enrolled registry app profile .up after other ∧
        after.Listed registry app front other back := by
  obtain ⟨hframe, other, hid, hup, hplace⟩ := henrolled.apply hlisted .up
  have hquiet : ∃ after, member.start.exec before = (some (.ok ()), after) ∧
      Quiet registry ((member.policy.apply member.manager .up).exec before).2 after := by
    cases hskips : member.skipsVerification with
    | true => exact ⟨_, member.exec_start_of_skips before hskips, .of_trace registry _ _⟩
    | false =>
        rw [member.exec_start_of_verifies before hskips]
        exact hup.verify hplace
  obtain ⟨after, hexec, hquiet⟩ := hquiet
  exact ⟨after, hexec, hframe.trans (hquiet.frame _ _), other, hid, hup.quiet hquiet,
    hquiet.listed hplace⟩

/-- A member discovers the candidates among the records of its application. -/
theorem discover (henrolled : member.Enrolled registry app profile status before copy)
    (hlisted : before.Listed registry app front copy back) :
    ∃ after, member.discover.exec before =
        (.ok ((((front ++ copy :: back).filter (·.status = .up)).filterMap fun record =>
          (member.rule.candidate record).toOption)), after) ∧
      Quiet registry before after := by
  obtain ⟨found, looked, hlookup, hlooked, hinstances⟩ := henrolled.lookup hlisted
  obtain ⟨trace, hcollect⟩ := exec_collect (member.rule.survey found) looked
  refine ⟨_, ?_, hlooked.trans (.of_trace registry looked trace)⟩
  unfold Member.discover discoveryRounds
  rw [Action.exec_bind, exec_appName, henrolled.appName, Action.exec_bind, findApplication,
    Action.exec_bind, hlookup]
  dsimp only
  rw [Action.exec_pure]
  dsimp only
  rw [Action.exec_bind, hcollect, CandidateRule.survey, hinstances, List.filterMap_map]
  rfl

theorem destroy (henrolled : member.Enrolled registry app profile status before copy)
    (hlisted : before.Listed registry app front copy back)
    (hupper : Text.upper (Text.upper app) = Text.upper app) :
    Frame member.manager member.client before (member.destroy.exec before).2 ∧
      ((member.destroy.exec before).2.registries.get registry).failures = [] ∧
      ((member.destroy.exec before).2.registries.get registry).members (Text.upper app) =
        front ++ back := by
  obtain ⟨hframe, other, hid, hdown, hplace⟩ := henrolled.apply hlisted .down
  rw [exec_destroy]
  generalize ((member.policy.apply member.manager .down).exec before).2 = middle at *
  obtain ⟨client, hclient, hmanager, hserved, hlive⟩ := hdown.attached.client
  obtain ⟨same, hsame, hregisters, -⟩ := hdown.settings
  rw [hclient] at hsame
  cases hsame
  obtain ⟨trace, hshutDown⟩ :=
    Action.exec_shutDown_of_servedBy hclient hserved hlive hregisters hplace.failures
  rw [hshutDown, hmanager]
  refine ⟨((hframe.setClient _).setManager _).elsewhere (Nat.le_refl _) _ _ _, ?_, ?_⟩
  · simp
  · simp only [Slots.get_set, if_pos]
    rw [Registry.members_congr (Registry.accept_cancel_applications _ _ _ _),
      Registry.members_evict, hdown.record.app, hupper, if_pos rfl, hplace.members, ← hdown.id]
    exact Application.eraseP_append_cons hplace.fresh

end Enrolled

end Member

end MemberDiscovery
