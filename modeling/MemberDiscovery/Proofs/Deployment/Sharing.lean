import MemberDiscovery.Proofs.Deployment.Outside
import MemberDiscovery.Proofs.Deployment.Session
import MemberDiscovery.Proofs.Deployment.Soundness

/-! # Clients that share a record

Several clients may be made for one record. All of them listen under the same id, so a client that
registers takes the place of the one before it, and whichever client ends, nobody listens after
that. `Sharing` keeps beside the deployment which client is the speaker of the record: the last one
that was made, unless a client of the record has ended since. A change of the status is pushed by
the speaker, and by no other client (`change_pushed_iff_speaker`).
-/

namespace MemberDiscovery

/-- What is done with a record by the clients that share it. -/
inductive SharingCall where
  | connect (settings : ClientSettings) (kind : TransportKind)
  | setStatus (status : InstanceStatus)
  | shutDown (number : Nat)
  deriving DecidableEq, Repr

/-- A deployment with the client that speaks for a record, if there is one. -/
structure Sharing where
  deployment : Deployment
  speaker : Option Nat

namespace Deployment

/-- Whether a client was made for the record and has not ended. -/
def shares (manager number : Nat) (deployment : Deployment) : Bool :=
  (deployment.clients.get number).speaks fun client =>
    client.manager = manager && !client.isShutDown

/-- The registry hears of a change of the status: it gets the record with the new one. -/
def Pushes (registry manager : Nat) (status : InstanceStatus) (deployment : Deployment) : Prop :=
  (((Action.setStatus manager status).exec deployment).2.registries.get registry).operations =
    (deployment.registries.get registry).operations ++
      [.register (deployment.managers.get manager).record.app
        (deployment.managers.get manager).record.id status]

end Deployment

def SharingCall.after (manager : Nat) (deployment : Deployment) : SharingCall → Deployment
  | .connect settings kind => ((Action.connect manager settings kind).exec deployment).2
  | .setStatus status => ((Action.setStatus manager status).exec deployment).2
  | .shutDown number => ((Action.shutDown number).exec deployment).2

namespace Sharing

/-- The speaker after a call. -/
def speakerAfter (manager : Nat) (sharing : Sharing) : SharingCall → Option Nat
  | .connect settings kind =>
    match ((Action.connect manager settings kind).exec sharing.deployment).1 with
    | .ok number => if settings.registers then some number else sharing.speaker
    | .error _ => sharing.speaker
  | .setStatus _ => sharing.speaker
  | .shutDown number =>
    if sharing.deployment.shares manager number then none else sharing.speaker

def step (manager : Nat) (sharing : Sharing) (call : SharingCall) : Sharing :=
  ⟨call.after manager sharing.deployment, sharing.speakerAfter manager call⟩

def run (manager : Nat) (calls : List SharingCall) (sharing : Sharing) : Sharing :=
  calls.foldl (step manager) sharing

/-- The speaker is the one client that is told of the record, and it has not ended. -/
structure Led (manager : Nat) (sharing : Sharing) : Prop where
  sound : sharing.deployment.Sound
  publishers :
    (sharing.deployment.managers.get manager).publishers = sharing.speaker.toList
  speaker : ∀ number, sharing.speaker = some number →
    number < sharing.deployment.clients.size ∧ ∃ client,
      sharing.deployment.clients.get number = .registry client ∧ client.manager = manager ∧
        client.isShutDown = false

end Sharing

/-! ## Who listens after a call -/

namespace Action

/-- A client of the record that ends takes the listener away, even if another one listens. -/
theorem listeners_shutDown_of_shares {manager number : Nat} {deployment : Deployment}
    (hshares : deployment.shares manager number = true) :
    (((shutDown number).exec deployment).2.managers.get manager).listeners =
      ((deployment.managers.get manager).unlisten clientListenerId).listeners := by
  obtain ⟨client, hclient, htest⟩ := Client.exists_of_speaks hshares
  simp only [Bool.and_eq_true, decide_eq_true_eq, Bool.not_eq_true'] at htest
  obtain ⟨rfl, hlive⟩ := htest
  rw [(own_shutDown hclient hlive).2]
  simp [Deployment.disconnected]

/-- Whatever else ends has nothing to do with the record. -/
theorem shutDown_of_not_shares {manager number : Nat} {deployment : Deployment}
    (hshares : deployment.shares manager number = false) :
    (((shutDown number).exec deployment).2.managers.get manager).listeners =
        (deployment.managers.get manager).listeners ∧
      ∀ other client, other < deployment.clients.size →
        deployment.clients.get other = .registry client → client.manager = manager →
          other < ((shutDown number).exec deployment).2.clients.size ∧
            ((shutDown number).exec deployment).2.clients.get other =
              deployment.clients.get other := by
  cases hclient : deployment.clients.get number with
  | scripted client =>
      have hexec : (shutDown number).exec deployment = ((), deployment.note .stopped) := by
        simp [shutDown, hclient]
      rw [hexec]
      exact ⟨rfl, fun other client hless _ _ => ⟨hless, rfl⟩⟩
  | registry client =>
      cases hended : client.isShutDown with
      | true =>
          rw [exec_shutDown_of_isShutDown hclient hended]
          exact ⟨rfl, fun other client hless _ _ => ⟨hless, rfl⟩⟩
      | false =>
          have hmanager : client.manager ≠ manager := by
            intro hsame
            simp [Deployment.shares, hclient, Client.speaks, hended, hsame] at hshares
          obtain ⟨hclients, hmanagers⟩ := own_shutDown hclient hended
          rw [hclients, hmanagers]
          refine ⟨?_, ?_⟩
          · simp [Deployment.disconnected, Deployment.note, Ne.symm hmanager]
          · intro other shared hless hother hsame
            have hne : other ≠ number := by
              rintro rfl
              rw [hclient, Client.registry.injEq] at hother
              exact hmanager (hother ▸ hsame)
            refine ⟨hless, ?_⟩
            simp [Deployment.disconnected, Deployment.note, hne]

end Action

namespace Sharing

open MemberDiscovery.Action

variable {manager : Nat} {sharing : Sharing}

namespace Led

/-- What leaves the listeners and the speaker alone does not change who the speaker is. -/
theorem congr (hled : sharing.Led manager) {after : Deployment} (hsound : after.Sound)
    (hlisteners : (after.managers.get manager).listeners =
      (sharing.deployment.managers.get manager).listeners)
    (hspeaker : ∀ number, sharing.speaker = some number → number < after.clients.size ∧
      after.clients.get number = sharing.deployment.clients.get number) :
    Led manager ⟨after, sharing.speaker⟩ where
  sound := hsound
  publishers := by
    rw [InstanceManager.publishers, hlisteners]
    exact hled.publishers
  speaker number hsome := by
    obtain ⟨-, hpresent⟩ := hled.speaker number hsome
    obtain ⟨hsize, hsame⟩ := hspeaker number hsome
    refine ⟨hsize, ?_⟩
    rw [hsame]
    exact hpresent

theorem connect (hled : sharing.Led manager) (settings : ClientSettings) (kind : TransportKind) :
    (sharing.step manager (.connect settings kind)).Led manager := by
  have hsound := keeps_sound_connect manager settings kind sharing.deployment hled.sound
  cases hconnect : (Action.connect manager settings kind).exec sharing.deployment with
  | mk answer after =>
      rw [hconnect] at hsound
      cases answer with
      | error error =>
          have hafter := exec_connectWith_error (congrArg Prod.fst hconnect)
          rw [connectWith_connect, hconnect] at hafter
          simp only [step, SharingCall.after, speakerAfter, hconnect, hafter]
          exact hled
      | ok number =>
          obtain ⟨-, rfl, transports, -, hclients⟩ := clients_of_connect hconnect
          cases hregisters : settings.registers with
          | false =>
              obtain ⟨-, transports, rfl⟩ := eq_addClient_of_connect hregisters hconnect
              simp only [step, SharingCall.after, speakerAfter, hconnect, hregisters,
                if_neg Bool.false_ne_true]
              refine hled.congr hsound rfl ?_
              intro number hspeaker
              obtain ⟨hless, -⟩ := hled.speaker number hspeaker
              exact ⟨Nat.lt_succ_of_lt hless, if_neg (Nat.ne_of_lt hless)⟩
          | true =>
              simp only [step, SharingCall.after, speakerAfter, hconnect, hregisters, if_pos]
              refine ⟨hsound, ?_, ?_⟩
              · rw [InstanceManager.publishers, listeners_of_connect hregisters hconnect]
                exact InstanceManager.publishers_listen (hled.sound.clientsShareId manager) _
              · intro number hspeaker
                cases hspeaker
                rw [hclients]
                exact ⟨Nat.lt_succ_self _, _, if_pos rfl, rfl, rfl⟩

theorem setStatus (hled : sharing.Led manager) (status : InstanceStatus) :
    (sharing.step manager (.setStatus status)).Led manager := by
  obtain ⟨hclients, hlisteners⟩ := (stable_listeners manager sharing.deployment.clients
    (sharing.deployment.managers.get manager).listeners).lasting.setStatus manager status
    sharing.deployment ⟨rfl, rfl⟩
  refine hled.congr (Deployment.Sound.lasting.setStatus manager status _ hled.sound) hlisteners ?_
  intro number hspeaker
  change number < ((Action.setStatus manager status).exec sharing.deployment).2.clients.size ∧ _
  exact ⟨hclients ▸ (hled.speaker number hspeaker).1, congrArg (·.get number) hclients⟩

/-- A client of the record that ends leaves no speaker, whoever it is. -/
theorem shutDown (hled : sharing.Led manager) (number : Nat) :
    (sharing.step manager (.shutDown number)).Led manager := by
  have hsound := keeps_sound_shutDown number sharing.deployment hled.sound
  cases hshares : sharing.deployment.shares manager number with
  | true =>
      simp only [step, SharingCall.after, speakerAfter, hshares, if_pos]
      refine ⟨hsound, ?_, nofun⟩
      rw [InstanceManager.publishers_eq (hsound.clientsShareId manager),
        listeners_shutDown_of_shares hshares]
      simp [InstanceManager.unlisten]
  | false =>
      obtain ⟨hlisteners, hclients⟩ := shutDown_of_not_shares hshares
      simp only [step, SharingCall.after, speakerAfter, hshares, if_neg Bool.false_ne_true]
      refine hled.congr hsound hlisteners ?_
      intro speaker hspeaker
      obtain ⟨hless, client, hclient, hmanager, -⟩ := hled.speaker speaker hspeaker
      exact hclients speaker client hless hclient hmanager

theorem step (hled : sharing.Led manager) (call : SharingCall) :
    (sharing.step manager call).Led manager := by
  cases call with
  | connect settings kind => exact hled.connect settings kind
  | setStatus status => exact hled.setStatus status
  | shutDown number => exact hled.shutDown number

/-- There is a speaker, or nobody is told, after every number of calls. -/
theorem run (hled : sharing.Led manager) (calls : List SharingCall) :
    (sharing.run manager calls).Led manager := by
  induction calls generalizing sharing with
  | nil => exact hled
  | cons call rest ih => exact ih (hled.step call)

/-- A change that a speaker pushes is seen as one round of requests at its servers. -/
theorem outside_setStatus (hled : sharing.Led manager) {number : Nat} {client : RegistryClient}
    {status : InstanceStatus} (hspeaker : sharing.speaker = some number)
    (hclient : sharing.deployment.clients.get number = .registry client)
    (hchange : (sharing.deployment.managers.get manager).record.status ≠ status) :
    ((Action.setStatus manager status).exec sharing.deployment).2.outside =
      ((failover (submit (.register ((sharing.deployment.managers.get manager).setStatus
        sharing.deployment.clock status).2.record)) client.transports).exec
          sharing.deployment).2.outside := by
  obtain ⟨-, speaker, hpresent, hmanager, hlive⟩ := hled.speaker number hspeaker
  rw [hclient, Client.registry.injEq] at hpresent
  subst hpresent
  refine outside_setStatus_of_publisher ?_ hclient hmanager hlive hchange
  rw [hled.publishers, hspeaker]
  rfl

end Led

end Sharing

/-- Servers elsewhere leave a registry alone. -/
theorem Action.registry_failover_of_not_mem {α : Type} {registry : Nat} {servers : List Transport}
    (hservers : ∀ url, .memory registry url ∉ servers) (request : Request α)
    (deployment : Deployment) :
    ((failover (submit request) servers).exec deployment).2.registries.get registry =
      deployment.registries.get registry := by
  refine Keeps.failover (P := fun after =>
    after.registries.get registry = deployment.registries.get registry) ?_ deployment rfl
  intro server hmem
  cases server with
  | memory other url =>
      have hother : registry ≠ other := by
        rintro rfl
        exact hservers url hmem
      intro before hbefore
      simpa [exec_submit_memory, hother] using hbefore
  | remote server => exact .submitRemote server request fun _ _ _ hbefore => hbefore

/-- A registry that only one client of a record uses. -/
def Deployment.Owns (registry manager number : Nat) (deployment : Deployment) : Prop :=
  ∀ other client, other ≠ number → deployment.clients.get other = .registry client →
    client.manager = manager → ∀ url, .memory registry url ∉ client.transports

namespace Sharing.Led

open MemberDiscovery.Action

variable {manager number registry : Nat} {sharing : Sharing} {client : RegistryClient}
  {status : InstanceStatus}

/-- A change goes past the registry of a client that is not the speaker. -/
theorem registry_eq_of_speaker_ne (hled : sharing.Led manager)
    (howns : sharing.deployment.Owns registry manager number)
    (hchange : (sharing.deployment.managers.get manager).record.status ≠ status)
    (hspeaker : sharing.speaker ≠ some number) :
    ((Action.setStatus manager status).exec sharing.deployment).2.registries.get registry =
      sharing.deployment.registries.get registry := by
  cases hsome : sharing.speaker with
  | none =>
      have hnone := hled.publishers
      rw [hsome] at hnone
      have houtside := outside_setStatus_of_publishers_eq_nil hnone status
      exact congrArg (fun seen => seen.registries.get registry) houtside
  | some speaker =>
      obtain ⟨-, other, hother, hmanager, -⟩ := hled.speaker speaker hsome
      have hne : speaker ≠ number := by
        rintro rfl
        exact hspeaker hsome
      have houtside := hled.outside_setStatus hsome hother hchange
      exact (congrArg (fun seen => seen.registries.get registry) houtside).trans
        (registry_failover_of_not_mem (howns speaker other hne hother hmanager) _ _)

theorem pushes_of_speaker (hled : sharing.Led manager) (hspeaker : sharing.speaker = some number)
    (hclient : sharing.deployment.clients.get number = .registry client)
    (hserved : client.ServedBy registry)
    (hfailures : (sharing.deployment.registries.get registry).failures = [])
    (hchange : (sharing.deployment.managers.get manager).record.status ≠ status) :
    sharing.deployment.Pushes registry manager status := by
  have houtside := hled.outside_setStatus hspeaker hclient hchange
  rw [exec_failover_of_failures_eq_nil hserved hfailures] at houtside
  have hregistry := congrArg (fun seen => (seen.registries.get registry).operations) houtside
  simpa [Deployment.Pushes, Deployment.outside, Request.operation] using hregistry

end Sharing.Led

/-- A client that has not ended pushes a change of the status if and only if it is the speaker: no
client of the record has been made or has ended after it. The others are not heard, even though
none of their requests fails. -/
theorem change_pushed_iff_speaker {manager : Nat} {start : Deployment} (hsound : start.Sound)
    (hunheard : (start.managers.get manager).publishers = []) (calls : List SharingCall)
    {sharing : Sharing} (hrun : sharing = Sharing.run manager calls ⟨start, none⟩)
    {number registry : Nat} {client : RegistryClient}
    (hclient : sharing.deployment.clients.get number = .registry client)
    (hserved : client.ServedBy registry)
    (howns : sharing.deployment.Owns registry manager number)
    (hfailures : (sharing.deployment.registries.get registry).failures = [])
    {status : InstanceStatus}
    (hchange : (sharing.deployment.managers.get manager).record.status ≠ status) :
    sharing.deployment.Pushes registry manager status ↔ sharing.speaker = some number := by
  have hled : sharing.Led manager := by
    rw [hrun]
    refine Sharing.Led.run ⟨hsound, hunheard, ?_⟩ calls
    intro speaker hnone
    cases hnone
  constructor
  · intro hpushes
    by_contra hspeaker
    rw [Deployment.Pushes, hled.registry_eq_of_speaker_ne howns hchange hspeaker] at hpushes
    simp at hpushes
  · intro hspeaker
    exact hled.pushes_of_speaker hspeaker hclient hserved hfailures hchange

namespace Sharing

/-- A process with two registries and a record. -/
def sampleStart : Deployment :=
  ((Deployment.start 0 ⟨"host", "10.0.0.1"⟩ fun _ => "").addRegistry.2.addRegistry.2.addManager
    (.ofRecord default (Instance.new "app" "member" 0))).2

/-- Each of two clients has a registry of its own. -/
def sampleCalls : List SharingCall :=
  [.connect SessionStep.sampleSettings (.memory 0), .connect SessionStep.sampleSettings (.memory 1)]

def sampleRun (calls : List SharingCall) : Sharing :=
  run 0 calls ⟨sampleStart, none⟩

theorem sound_sampleStart : sampleStart.Sound := by
  have hsound : (Deployment.start 0 ⟨"host", "10.0.0.1"⟩
      fun _ => "").addRegistry.2.addRegistry.2.Sound :=
    (Deployment.sound_start 0 ⟨"host", "10.0.0.1"⟩ fun _ => "").congr rfl fun _ => rfl
  exact hsound.addManager rfl

theorem owns_sampleRun : (sampleRun sampleCalls).deployment.Owns 0 0 0 := by
  intro other client hother hclient _ url
  match other with
  | 0 => exact absurd rfl hother
  | 1 =>
      obtain rfl : RegistryClient.ofMemory 0 SessionStep.sampleSettings 1
          (sampleStart.managers.get 0).record = client := Client.registry.inj hclient
      simp [RegistryClient.ofMemory, RegistryClient.fresh]
  | other + 2 => cases hclient

end Sharing

/-- Once a second client was made, the first one pushes no change, though it has not ended. -/
theorem first_client_not_heard :
    (∃ client, (Sharing.sampleRun Sharing.sampleCalls).deployment.clients.get 0 =
        .registry client ∧ client.isShutDown = false) ∧
      ¬ (Sharing.sampleRun Sharing.sampleCalls).deployment.Pushes 0 0 .down := by
  have hclient : (Sharing.sampleRun Sharing.sampleCalls).deployment.clients.get 0 =
      .registry (.ofMemory 0 SessionStep.sampleSettings 0
        (Sharing.sampleStart.managers.get 0).record) := rfl
  refine ⟨⟨_, hclient, rfl⟩, ?_⟩
  have hpushed := change_pushed_iff_speaker Sharing.sound_sampleStart rfl Sharing.sampleCalls rfl
    hclient (RegistryClient.servedBy_ofMemory 0 0 _ (by decide)) Sharing.owns_sampleRun rfl
    (show _ ≠ InstanceStatus.down by decide)
  intro hpushes
  exact absurd (hpushed.mp hpushes) (by decide)

end MemberDiscovery
