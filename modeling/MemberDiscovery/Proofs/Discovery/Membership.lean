import MemberDiscovery.Proofs.Discovery.Cluster

/-! # Whom a member discovers

In every run of a cluster, a live member discovers the members that have been started and have not
left, in the order in which they were built, as far as it resolves their hosts and, in metadata
mode, only those of its own group. `Participant.finds` says where one member finds another one.
-/

namespace MemberDiscovery

/-- Where a member finds another one. The other one has to be up. -/
def Participant.finds (surroundings : Deployment) (seeker other : Participant) : Option Address :=
  if other.phase = .started then
    (other.plan.profile? surroundings).bind (seeker.plan.rule surroundings).finds
  else none

namespace Cluster

variable {registry : Nat} {app : String} {surroundings : Deployment} {cluster : Cluster}

theorem filterMap_finds_live (surroundings : Deployment) (seeker : Participant)
    (participants : List Participant) :
    (live participants).filterMap (seeker.finds surroundings) =
      participants.filterMap (seeker.finds surroundings) := by
  induction participants with
  | nil => rfl
  | cons participant rest ih =>
      by_cases hleft : participant.phase = .left
      · have hnone : seeker.finds surroundings participant = none := by
          simp [Participant.finds, hleft]
        rw [live_cons_of_left hleft, List.filterMap_cons, hnone, ih]
      · rw [live_cons_of_live hleft, List.filterMap_cons, List.filterMap_cons, ih]

/-- The candidates among the copies of members are where the members are found. -/
theorem map_candidates {deployment : Deployment} (seeker : Participant)
    {participants : List Participant} {copies : List Instance}
    (hkeeps : List.Forall₂ (Participant.Keeps registry app surroundings deployment) participants
      copies) :
    (((copies.filter (·.status = .up)).filterMap fun record =>
        ((seeker.plan.rule surroundings).candidate record).toOption).map fun node =>
          (node.privateAddress, node.publicAddress)) =
      (participants.filterMap (seeker.finds surroundings)).map fun address =>
        (address, address) := by
  induction hkeeps with
  | nil => rfl
  | @cons participant copy participants copies hkeep _ ih =>
      obtain ⟨-, profile, hprofile, hport, henrolled⟩ := hkeep
      have hstatus := henrolled.presents.status
      have hcandidate := (seeker.plan.rule surroundings).candidate_of_presents henrolled.presents
        hport
      by_cases hphase : participant.phase = .started
      · -- The copy is up, and it becomes a candidate just where the member is found.
        have hup : copy.status = .up := by rw [hstatus, hphase]; rfl
        have hfinds : seeker.finds surroundings participant =
            (seeker.plan.rule surroundings).finds profile := by
          rw [Participant.finds, if_pos hphase, hprofile, Option.bind_some]
        rw [List.filter_cons_of_pos (by simpa using hup), List.filterMap_cons, List.filterMap_cons,
          hfinds]
        cases hfound : (seeker.plan.rule surroundings).finds profile with
        | none =>
            rw [hfound, Option.map_none, Option.map_eq_none_iff] at hcandidate
            rw [hcandidate]
            exact ih
        | some address =>
            rw [hfound, Option.map_some, Option.map_eq_some_iff] at hcandidate
            obtain ⟨node, hnode, haddress⟩ := hcandidate
            rw [hnode]
            exact congrArg₂ List.cons haddress ih
      · -- The copy is there, but it is not up.
        have hdown : copy.status ≠ .up := by
          rw [hstatus]
          cases hother : participant.phase with
          | built => decide
          | started => exact absurd hother hphase
          | left => decide
        have hnone : seeker.finds surroundings participant = none := by
          rw [Participant.finds, if_neg hphase]
        rw [List.filter_cons_of_neg (by simpa using hdown), List.filterMap_cons, hnone]
        exact ih

/-- Starting a live member returns without an error. So `Phase.started` is what it says. -/
theorem Kept.start_returns (hkept : cluster.Kept registry app surroundings)
    {participant : Participant} (hmem : participant ∈ cluster.participants)
    (hlive : participant.phase ≠ .left) :
    ∃ after, participant.member.start.exec cluster.deployment = (some (.ok ()), after) := by
  obtain ⟨earlier, later, hsplit⟩ := List.append_of_mem hmem
  obtain ⟨front, copy, back, -, ⟨-, profile, -, -, henrolled⟩, -, hlisted⟩ :=
    hkept.listed hsplit hlive
  obtain ⟨after, hexec, -⟩ := henrolled.start hlisted
  exact ⟨after, hexec⟩

end Cluster

/-- Whatever is done in a cluster whose members join an application that no one else is in, and with
a registry that takes every request: a live member starts without an error, and it discovers exactly
the members that were started and have not left, whose host it resolves, and that are in its group
if it is in metadata mode, each at its resolved host and its port, in the order in which they were
built. -/
theorem discover_finds_started_members {registry : Nat} {app : String} {surroundings : Deployment}
    (hupper : Text.upper (Text.upper app) = Text.upper app)
    (hids : Function.Injective surroundings.idSource)
    (hnamed : ∀ number, surroundings.idSource number ≠ "")
    (hempty : (surroundings.registries.get registry).members (Text.upper app) = [])
    (hfailures : (surroundings.registries.get registry).failures = []) {steps : List ClusterStep}
    (hjoins : ∀ plan, .build plan ∈ steps → plan.Joins registry app surroundings)
    {seeker : Participant}
    (hseeker : seeker ∈ ((Cluster.empty surroundings).run steps).participants)
    (hlive : seeker.phase ≠ .left) :
    (∃ after, seeker.member.start.exec ((Cluster.empty surroundings).run steps).deployment =
        (some (.ok ()), after)) ∧
      ∃ nodes after,
        seeker.member.discover.exec ((Cluster.empty surroundings).run steps).deployment =
            (.ok nodes, after) ∧
          nodes.map (fun node => (node.privateAddress, node.publicAddress)) =
            (((Cluster.empty surroundings).run steps).participants.filterMap
              (seeker.finds surroundings)).map fun address => (address, address) := by
  have hkept := (Cluster.Kept.empty hempty hfailures).run hupper hids hnamed hjoins
  obtain ⟨earlier, later, hsplit⟩ := List.append_of_mem hseeker
  obtain ⟨front, copy, back, -, ⟨hrule, profile, -, -, henrolled⟩, -, hlisted⟩ :=
    hkept.listed hsplit hlive
  obtain ⟨after, hexec, -⟩ := henrolled.discover hlisted
  refine ⟨hkept.start_returns hseeker hlive, _, after, hexec, ?_⟩
  -- What was looked up are the copies of the live members, in the order of the members.
  rw [hrule, ← hlisted.members, Cluster.map_candidates seeker hkept.copies,
    Cluster.filterMap_finds_live]

/-- A process with an empty registry. Its ids are the numbers in the order in which they are drawn.
-/
def Deployment.sampleCluster : Deployment :=
  (Deployment.start 0 ⟨"host", "10.0.0.9"⟩ fun number => Integer.render number).addRegistry.2

def MemberPlan.sampleAt (address : Address) (groupName : String) (usesMetadata : Bool) :
    MemberPlan :=
  { sample with
    node := some ⟨address, address, ∅⟩
    groupName := some groupName
    options := Table.ofList [(OptionDefinition.useMetadata.key, .flag usesMetadata)] }

theorem MemberPlan.joins_sampleProperties :
    (ConfigSource.resource (sample.resource.getD ∅)).Joins MemberOptions.defaultScopeName "app"
      Deployment.sampleCluster.machine := by
  constructor
  · intro config hconfig
    have hread : InstanceConfig.ofScope Deployment.sampleCluster.machine
        ((sample.resource.getD ∅).scope MemberOptions.defaultScopeName) = .ok config := hconfig
    have htest : ((InstanceConfig.ofScope Deployment.sampleCluster.machine
        ((sample.resource.getD ∅).scope MemberOptions.defaultScopeName)).toOption.all
          fun config => decide (config.appName = "app" ∧
            config.metadata.get? MetadataKeys.groupName = none)) = true := by
      decide +kernel
    rw [hread] at htest
    exact of_decide_eq_true htest
  · intro settings hsettings
    have htest : (((ConfigSource.resource (sample.resource.getD ∅)).clientSettings
        MemberOptions.defaultScopeName true).toOption.all
          fun settings => decide (settings.registers = true ∧ settings.fetches = true)) = true := by
      decide +kernel
    rw [hsettings] at htest
    exact of_decide_eq_true htest

theorem MemberPlan.joins_sampleAt {address : Address} (hport : address.port ≠ 0)
    (groupName : String) (usesMetadata : Bool) :
    (sampleAt address groupName usesMetadata).Joins 0 "app" Deployment.sampleCluster := by
  have hoptions : MemberOptions.read
      ((sampleAt address groupName usesMetadata).lookup Deployment.sampleCluster) =
      .ok ⟨MemberOptions.defaultScopeName, true, usesMetadata, true, false⟩ := by
    change MemberOptions.read ⟨Table.ofList [(_, .flag usesMetadata)], fun _ => none⟩ = _
    cases usesMetadata <;> decide +kernel
  constructor
  · rfl
  · rfl
  · rfl
  · rfl
  · exact ⟨_, rfl, hport⟩
  · intro options hread
    rw [hoptions] at hread
    cases hread
    rfl
  · intro options source hread hsource
    rw [hoptions] at hread
    cases hread
    cases hsource
    exact joins_sampleProperties

/-- Two groups in metadata mode and a member in direct mode: of five members one is not started and
one leaves. -/
def Cluster.sampleRun : List ClusterStep :=
  [.build (.sampleAt ⟨"10.0.0.1", 5701⟩ "left" true),
   .build (.sampleAt ⟨"10.0.0.2", 5702⟩ "right" true),
   .build (.sampleAt ⟨"10.0.0.3", 5703⟩ "left" true),
   .build (.sampleAt ⟨"10.0.0.4", 5704⟩ "left" false),
   .start 2, .start 3, .discover 3, .start 1, .destroy 1, .start 0,
   .build (.sampleAt ⟨"10.0.0.5", 5705⟩ "left" true)]

/-- Of the members in metadata mode those of one group discover each other once they are up. -/
theorem discover_own_group_in_sampleRun :
    ∃ seeker ∈ ((Cluster.empty .sampleCluster).run Cluster.sampleRun).participants,
      ∃ nodes after, seeker.member.discover.exec
          ((Cluster.empty .sampleCluster).run Cluster.sampleRun).deployment = (.ok nodes, after) ∧
        nodes.map (fun node => (node.privateAddress, node.publicAddress)) =
          [⟨"10.0.0.1", 5701⟩, ⟨"10.0.0.3", 5703⟩].map fun address => (address, address) := by
  have hsome : (((Cluster.empty .sampleCluster).run Cluster.sampleRun).participants.any
      fun seeker => decide (seeker.phase ≠ .left ∧
        ((Cluster.empty .sampleCluster).run Cluster.sampleRun).participants.filterMap
          (seeker.finds .sampleCluster) = [⟨"10.0.0.1", 5701⟩, ⟨"10.0.0.3", 5703⟩])) = true := by
    decide +kernel
  obtain ⟨seeker, hseeker, htest⟩ := List.any_eq_true.mp hsome
  obtain ⟨hlive, hfound⟩ := of_decide_eq_true htest
  have hread : ∀ number : Nat, Integer.read? (Integer.render number) = some (number : Int) :=
    Integer.read?_render_natCast
  have hids : Function.Injective Deployment.sampleCluster.idSource := by
    intro left right (heq : Integer.render left = Integer.render right)
    have hleft := hread left
    rw [heq, hread right] at hleft
    exact Int.ofNat.inj (Option.some.inj hleft).symm
  have hnamed : ∀ number, Deployment.sampleCluster.idSource number ≠ "" := by
    intro number (heq : Integer.render number = "")
    have hnumber := hread number
    rw [heq] at hnumber
    cases hnumber
  have hjoins : ∀ plan, .build plan ∈ Cluster.sampleRun →
      plan.Joins 0 "app" Deployment.sampleCluster := by
    intro plan hplan
    simp only [Cluster.sampleRun, List.mem_cons, ClusterStep.build.injEq, reduceCtorEq,
      List.not_mem_nil, or_false, false_or] at hplan
    rcases hplan with rfl | rfl | rfl | rfl | rfl <;>
      exact MemberPlan.joins_sampleAt (by decide) _ _
  obtain ⟨-, nodes, after, hexec, hnodes⟩ := discover_finds_started_members (by decide +kernel) hids
    hnamed (by decide +kernel) rfl hjoins hseeker hlive
  exact ⟨seeker, hseeker, nodes, after, hexec, by rw [hnodes, hfound]⟩

end MemberDiscovery
