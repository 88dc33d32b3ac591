import Mathlib.Data.List.Forall2
import MemberDiscovery.Proofs.Discovery.Joining

/-! # Clusters

A `Cluster` is a process together with the members that were built in it, in this order. Its members
are built, started, asked to discover others, and destroyed in any order, but not used after they
were destroyed. `Cluster.Kept` is what every such step keeps: the records in the registry are those
of the members that have not left, in the order in which these were built.
-/

namespace MemberDiscovery

/-- Where a member is in its life. -/
inductive Phase where
  | built
  | started
  | left
  deriving DecidableEq, Repr, Inhabited

/-- The status of the record in a phase. -/
def Phase.status : Phase → InstanceStatus
  | .built => .starting
  | .started => .up
  | .left => .down

/-- A member with the plan that it was built from. -/
structure Participant where
  plan : MemberPlan
  member : Member
  phase : Phase

/-- A process with its members in the order in which they were built. -/
structure Cluster where
  deployment : Deployment
  participants : List Participant

/-- What is done in a cluster. Members are numbered in the order in which they are built. -/
inductive ClusterStep where
  | build (plan : MemberPlan)
  | start (number : Nat)
  | discover (number : Nat)
  | destroy (number : Nat)

namespace Cluster

def empty (deployment : Deployment) : Cluster :=
  ⟨deployment, []⟩

/-- Does something with a member and moves it to a phase. A member that has left is not used. -/
def act {α : Type} (number : Nat) (action : Member → Action α) (next : Phase → Phase)
    (cluster : Cluster) : Cluster :=
  match cluster.participants[number]? with
  | none => cluster
  | some participant =>
    if participant.phase = .left then cluster
    else
      { deployment := ((action participant.member).exec cluster.deployment).2
        participants := cluster.participants.set number
          { participant with phase := next participant.phase } }

/-- Builds a member. One that cannot be built does not take part. -/
def build (plan : MemberPlan) (cluster : Cluster) : Cluster :=
  match plan.build.exec cluster.deployment with
  | (.ok member, after) => ⟨after, cluster.participants ++ [⟨plan, member, .built⟩]⟩
  | (.error _, after) => { cluster with deployment := after }

/-- One step of a cluster. -/
def step (cluster : Cluster) : ClusterStep → Cluster
  | .build plan => cluster.build plan
  | .start number => cluster.act number Member.start fun _ => .started
  | .discover number => cluster.act number Member.discover id
  | .destroy number => cluster.act number Member.destroy fun _ => .left

def run (cluster : Cluster) (steps : List ClusterStep) : Cluster :=
  steps.foldl step cluster

/-- The members that have not left. -/
def live (participants : List Participant) : List Participant :=
  participants.filter (·.phase ≠ .left)

end Cluster

/-- The copy of a record in the registry belongs to a participant. -/
def Participant.Keeps (registry : Nat) (app : String) (surroundings deployment : Deployment)
    (participant : Participant) (copy : Instance) : Prop :=
  participant.member.rule = participant.plan.rule surroundings ∧
    ∃ profile, participant.plan.profile? surroundings = some profile ∧ profile.address.port ≠ 0 ∧
      participant.member.Enrolled registry app profile participant.phase.status deployment copy

/-- What every step of a cluster keeps, in surroundings that do not change. -/
structure Cluster.Kept (registry : Nat) (app : String) (surroundings : Deployment)
    (cluster : Cluster) : Prop where
  process : surroundings.SameProcess cluster.deployment
  failures : (cluster.deployment.registries.get registry).failures = []
  /-- The records of the application are those of the live members. -/
  copies : List.Forall₂ (Participant.Keeps registry app surroundings cluster.deployment)
    (live cluster.participants)
    ((cluster.deployment.registries.get registry).members (Text.upper app))
  ids : (((cluster.deployment.registries.get registry).members (Text.upper app)).map
    Instance.id).Nodup
  numbers : ∀ participant ∈ cluster.participants,
    participant.member.manager < cluster.deployment.managers.size ∧
      participant.member.client < cluster.deployment.clients.size
  managers : (cluster.participants.map (·.member.manager)).Nodup
  clients : (cluster.participants.map (·.member.client)).Nodup

/-- What a step of a participant may do: it replaces its copy at its place, or takes it back when it
leaves. -/
structure Participant.Moves (registry : Nat) (app : String) (surroundings before after : Deployment)
    (moved : Participant) (front : List Instance) (copy : Instance) (back : List Instance) :
    Prop where
  frame : before.Frame moved.member.manager moved.member.client after
  failures : (after.registries.get registry).failures = []
  copies : ∃ middle,
    (after.registries.get registry).members (Text.upper app) = front ++ (middle ++ back) ∧
      (middle.map Instance.id).Sublist [copy.id] ∧
      List.Forall₂ (Participant.Keeps registry app surroundings after) (Cluster.live [moved]) middle

section Lists

variable {α β : Type} {R : α → β → Prop}

/-- What corresponds to two lists in a row is two lists in a row. -/
theorem exists_append_of_forall₂ {left right : List α} {all : List β}
    (hall : List.Forall₂ R (left ++ right) all) :
    ∃ front back, all = front ++ back ∧ List.Forall₂ R left front ∧ List.Forall₂ R right back := by
  have hleft := List.forall₂_take left.length hall
  have hright := List.forall₂_drop left.length hall
  rw [List.take_left] at hleft
  rw [List.drop_left] at hright
  exact ⟨_, _, (List.take_append_drop left.length all).symm, hleft, hright⟩

/-- What corresponds to an item has its place as the item has it. -/
theorem exists_cons_of_forall₂ {left right : List α} {item : α} {all : List β}
    (hall : List.Forall₂ R (left ++ item :: right) all) :
    ∃ front found back, all = front ++ found :: back ∧ List.Forall₂ R left front ∧ R item found ∧
      List.Forall₂ R right back := by
  obtain ⟨front, rest, rfl, hfront, hrest⟩ := exists_append_of_forall₂ hall
  obtain ⟨found, back, hfound, hback, rfl⟩ := List.forall₂_cons_left_iff.mp hrest
  exact ⟨front, found, back, rfl, hfront, hfound, hback⟩

/-- Of values that differ one is neither before nor after itself. -/
theorem not_mem_of_nodup_map {view : α → β} {left right : List α} {item : α}
    (hnodup : ((left ++ item :: right).map view).Nodup) :
    view item ∉ left.map view ∧ view item ∉ right.map view := by
  rw [List.map_append, List.map_cons, List.nodup_append, List.nodup_cons] at hnodup
  obtain ⟨-, ⟨hright, -⟩, hapart⟩ := hnodup
  refine ⟨?_, hright⟩
  intro hleft
  exact hapart _ hleft _ List.mem_cons_self rfl

/-- A value that is new may come last. -/
theorem nodup_map_append_singleton {view : α → β} {items : List α} {last : α}
    (hnodup : (items.map view).Nodup) (hnew : view last ∉ items.map view) :
    ((items ++ [last]).map view).Nodup := by
  rw [List.map_append, List.nodup_append]
  refine ⟨hnodup, by simp, ?_⟩
  intro value hvalue other hother heq
  rw [List.map_singleton, List.mem_singleton] at hother
  apply hnew
  rwa [← hother, ← heq]

end Lists

namespace Cluster

theorem live_append (front back : List Participant) :
    live (front ++ back) = live front ++ live back :=
  List.filter_append _ _

theorem live_cons_of_live {participant : Participant} (hlive : participant.phase ≠ .left)
    (rest : List Participant) : live (participant :: rest) = participant :: live rest := by
  rw [live, List.filter_cons, if_pos (by simpa using hlive)]
  rfl

theorem live_cons_of_left {participant : Participant} (hleft : participant.phase = .left)
    (rest : List Participant) : live (participant :: rest) = live rest := by
  rw [live, List.filter_cons, if_neg (by simpa using hleft)]
  rfl

end Cluster

/-- What others do makes no difference. -/
theorem Participant.Keeps.frame {registry manager client : Nat} {app : String}
    {surroundings before after : Deployment} {participant : Participant} {copy : Instance}
    (hkeeps : participant.Keeps registry app surroundings before copy)
    (hframe : before.Frame manager client after) (hmanager : participant.member.manager ≠ manager)
    (hclient : participant.member.client ≠ client) :
    participant.Keeps registry app surroundings after copy := by
  obtain ⟨hrule, profile, hprofile, hport, henrolled⟩ := hkeeps
  exact ⟨hrule, profile, hprofile, hport, henrolled.frame hframe hmanager hclient⟩

theorem Participant.Keeps.forall₂_frame {registry manager client : Nat} {app : String}
    {surroundings before after : Deployment} {participants : List Participant}
    {copies : List Instance}
    (hkeeps : List.Forall₂ (Participant.Keeps registry app surroundings before)
      (Cluster.live participants) copies)
    (hframe : before.Frame manager client after)
    (hmanagers : manager ∉ participants.map (·.member.manager))
    (hclients : client ∉ participants.map (·.member.client)) :
    List.Forall₂ (Participant.Keeps registry app surroundings after)
      (Cluster.live participants) copies := by
  have hothers : ∀ other ∈ Cluster.live participants,
      other.member.manager ≠ manager ∧ other.member.client ≠ client := by
    intro other hother
    have hmem : other ∈ participants := List.mem_of_mem_filter hother
    constructor
    · rintro rfl
      exact hmanagers (List.mem_map.mpr ⟨other, hmem, rfl⟩)
    · rintro rfl
      exact hclients (List.mem_map.mpr ⟨other, hmem, rfl⟩)
  have hboth := List.forall₂_and_left _ _ |>.mpr ⟨hothers, hkeeps⟩
  exact hboth.imp fun other copy hother => hother.2.frame hframe hother.1.1 hother.1.2

namespace Cluster.Kept

variable {registry : Nat} {app : String} {surroundings after : Deployment} {cluster : Cluster}
  {participant moved : Participant} {earlier later : List Participant} {front back : List Instance}
  {copy : Instance}

/-- A live member has its copy at its place in the registry. -/
theorem listed (hkept : cluster.Kept registry app surroundings)
    (hsplit : cluster.participants = earlier ++ participant :: later)
    (hlive : participant.phase ≠ .left) :
    ∃ front copy back,
      List.Forall₂ (Participant.Keeps registry app surroundings cluster.deployment)
          (live earlier) front ∧
        participant.Keeps registry app surroundings cluster.deployment copy ∧
        List.Forall₂ (Participant.Keeps registry app surroundings cluster.deployment)
          (live later) back ∧
        cluster.deployment.Listed registry app front copy back := by
  have hcopies := hkept.copies
  rw [hsplit, live_append, live_cons_of_live hlive] at hcopies
  obtain ⟨front, copy, back, hmembers, hfront, hcopy, hback⟩ := exists_cons_of_forall₂ hcopies
  refine ⟨front, copy, back, hfront, hcopy, hback, hkept.failures, hmembers, ?_⟩
  intro other hother
  have hids := hkept.ids
  rw [hmembers, List.map_append, List.nodup_append] at hids
  exact hids.2.2 other.id (List.mem_map_of_mem hother) copy.id List.mem_cons_self

theorem numbers_of_frame {manager client : Nat} (hkept : cluster.Kept registry app surroundings)
    (hframe : cluster.deployment.Frame manager client after) :
    ∀ participant ∈ cluster.participants, participant.member.manager < after.managers.size ∧
      participant.member.client < after.clients.size := by
  intro participant hparticipant
  obtain ⟨hmanager, hclient⟩ := hkept.numbers participant hparticipant
  exact ⟨Nat.lt_of_lt_of_le hmanager hframe.managerCount,
    Nat.lt_of_lt_of_le hclient hframe.clientCount⟩

/-- A step of one member keeps the others as they are. -/
theorem replace (hkept : cluster.Kept registry app surroundings)
    (hsplit : cluster.participants = earlier ++ participant :: later)
    (hmember : moved.member = participant.member)
    (hfront : List.Forall₂ (Participant.Keeps registry app surroundings cluster.deployment)
      (live earlier) front)
    (hback : List.Forall₂ (Participant.Keeps registry app surroundings cluster.deployment)
      (live later) back)
    (hlisted : cluster.deployment.Listed registry app front copy back)
    (hmoves : moved.Moves registry app surroundings cluster.deployment after front copy back) :
    (⟨after, earlier ++ moved :: later⟩ : Cluster).Kept registry app surroundings := by
  obtain ⟨hframe, hfailures, middle, hmembers, hmiddle, hkeeps⟩ := hmoves
  have hmanagers := hkept.managers
  have hclients := hkept.clients
  have hids := hkept.ids
  rw [hlisted.members, List.map_append, List.map_cons] at hids
  rw [hsplit] at hmanagers hclients
  obtain ⟨hearlierManager, hlaterManager⟩ := not_mem_of_nodup_map hmanagers
  obtain ⟨hearlierClient, hlaterClient⟩ := not_mem_of_nodup_map hclients
  rw [← hmember] at hearlierManager hlaterManager hearlierClient hlaterClient
  constructor
  case process => exact hkept.process.trans hframe.process
  case failures => exact hfailures
  case copies =>
    -- The others have other managers and clients, so the frame of the step applies to them.
    have hall : live (earlier ++ moved :: later) =
        live earlier ++ (live [moved] ++ live later) := by
      rw [live_append, ← live_append [moved], List.singleton_append]
    dsimp only
    rw [hall, hmembers]
    apply List.rel_append
    · exact Participant.Keeps.forall₂_frame hfront hframe hearlierManager hearlierClient
    · apply List.rel_append hkeeps
      exact Participant.Keeps.forall₂_frame hback hframe hlaterManager hlaterClient
  case ids =>
    -- At most the moved member's own id goes.
    dsimp only
    rw [hmembers, List.map_append, List.map_append]
    exact hids.sublist ((List.Sublist.refl _).append (hmiddle.append (List.Sublist.refl _)))
  case numbers =>
    have hgrown := hkept.numbers_of_frame hframe
    rw [hsplit] at hgrown
    intro other hother
    rcases List.mem_append.mp hother with hother | hother
    · exact hgrown other (List.mem_append_left _ hother)
    · rcases List.mem_cons.mp hother with rfl | hother
      · rw [hmember]
        exact hgrown participant (List.mem_append_right _ List.mem_cons_self)
      · exact hgrown other (List.mem_append_right _ (List.mem_cons_of_mem _ hother))
  case managers => simpa [hmember] using hmanagers
  case clients => simpa [hmember] using hclients

/-- What a live member does is a step of it; nobody else does anything. -/
theorem act {α : Type} (hkept : cluster.Kept registry app surroundings) (number : Nat)
    (action : Member → Action α) (next : Phase → Phase)
    (hmoves : ∀ (participant : Participant) (front : List Instance) (copy : Instance)
      (back : List Instance), participant.phase ≠ .left →
      participant.Keeps registry app surroundings cluster.deployment copy →
      cluster.deployment.Listed registry app front copy back →
      ({ participant with phase := next participant.phase } : Participant).Moves registry app
        surroundings cluster.deployment
        ((action participant.member).exec cluster.deployment).2 front copy back) :
    (cluster.act number action next).Kept registry app surroundings := by
  unfold Cluster.act
  split
  next => exact hkept
  next participant hnumber =>
    split
    next => exact hkept
    next hlive =>
      obtain ⟨hless, rfl⟩ := List.getElem?_eq_some_iff.mp hnumber
      have hsplit : cluster.participants = cluster.participants.take number ++
          cluster.participants[number] :: cluster.participants.drop (number + 1) := by
        rw [List.getElem_cons_drop, List.take_append_drop]
      obtain ⟨front, copy, back, hfront, hkeeps, hback, hlisted⟩ := hkept.listed hsplit hlive
      rw [List.set_eq_take_append_cons_drop, if_pos hless]
      exact hkept.replace hsplit rfl hfront hback hlisted (hmoves _ _ _ _ hlive hkeeps hlisted)

end Cluster.Kept

namespace Participant

variable {registry : Nat} {app : String} {surroundings before : Deployment}
  {participant : Participant} {front back : List Instance} {copy : Instance}

/-- A member that is started replaces its copy by one that is up. -/
theorem moves_start (hkeeps : participant.Keeps registry app surroundings before copy)
    (hlisted : before.Listed registry app front copy back) :
    ({ participant with phase := .started } : Participant).Moves registry app surroundings before
      (participant.member.start.exec before).2 front copy back := by
  obtain ⟨hrule, profile, hprofile, hport, henrolled⟩ := hkeeps
  obtain ⟨after, hexec, hframe, other, hid, hup, hplace⟩ := henrolled.start hlisted
  rw [hexec]
  refine ⟨hframe, hplace.failures, [other], hplace.members, by simp [hid], ?_⟩
  exact .cons ⟨hrule, profile, hprofile, hport, hup⟩ .nil

/-- A member that discovers others leaves its copy alone. -/
theorem moves_discover (hlive : participant.phase ≠ .left)
    (hkeeps : participant.Keeps registry app surroundings before copy)
    (hlisted : before.Listed registry app front copy back) :
    participant.Moves registry app surroundings before
      (participant.member.discover.exec before).2 front copy back := by
  obtain ⟨hrule, profile, hprofile, hport, henrolled⟩ := hkeeps
  obtain ⟨after, hexec, hquiet⟩ := henrolled.discover hlisted
  rw [hexec]
  have hplace := hquiet.listed hlisted
  refine ⟨hquiet.frame _ _, hplace.failures, [copy], hplace.members, by simp, ?_⟩
  rw [Cluster.live_cons_of_live hlive]
  exact .cons ⟨hrule, profile, hprofile, hport, henrolled.quiet hquiet⟩ .nil

/-- A member that leaves takes its copy back. -/
theorem moves_destroy (hupper : Text.upper (Text.upper app) = Text.upper app)
    (hkeeps : participant.Keeps registry app surroundings before copy)
    (hlisted : before.Listed registry app front copy back) :
    ({ participant with phase := .left } : Participant).Moves registry app surroundings before
      (participant.member.destroy.exec before).2 front copy back := by
  obtain ⟨-, profile, -, -, henrolled⟩ := hkeeps
  obtain ⟨hframe, hfailures, hmembers⟩ := henrolled.destroy hlisted hupper
  exact ⟨hframe, hfailures, [], hmembers, by simp, .nil⟩

end Participant

namespace Cluster

variable {registry : Nat} {app : String} {surroundings : Deployment} {cluster : Cluster}

theorem Kept.empty (hempty : (surroundings.registries.get registry).members (Text.upper app) = [])
    (hfailures : (surroundings.registries.get registry).failures = []) :
    (Cluster.empty surroundings).Kept registry app surroundings := by
  constructor
  case process => exact .refl _
  case failures => exact hfailures
  case copies =>
    dsimp only [Cluster.empty]
    rw [hempty]
    exact .nil
  case ids =>
    dsimp only [Cluster.empty]
    rw [hempty]
    exact .nil
  case numbers =>
    intro participant hparticipant
    cases hparticipant
  case managers => exact .nil
  case clients => exact .nil

theorem Kept.fresh (hkept : cluster.Kept registry app surroundings) :
    cluster.deployment.managers.size ∉ cluster.participants.map (·.member.manager) ∧
      cluster.deployment.clients.size ∉ cluster.participants.map (·.member.client) := by
  constructor
  · intro hmem
    obtain ⟨participant, hparticipant, hnumber⟩ := List.mem_map.mp hmem
    have hless := (hkept.numbers participant hparticipant).1
    omega
  · intro hmem
    obtain ⟨participant, hparticipant, hnumber⟩ := List.mem_map.mp hmem
    have hless := (hkept.numbers participant hparticipant).2
    omega

theorem Kept.fresh_id (hkept : cluster.Kept registry app surroundings)
    (hids : Function.Injective surroundings.idSource) :
    ∀ copy ∈ (cluster.deployment.registries.get registry).members (Text.upper app),
      copy.id ≠ cluster.deployment.idSource cluster.deployment.idsDrawn := by
  intro copy hcopy hid
  obtain ⟨front, back, hmembers⟩ := List.append_of_mem hcopy
  have hcopies := hkept.copies
  rw [hmembers] at hcopies
  obtain ⟨-, participant, -, -, -, ⟨-, profile, -, -, henrolled⟩, -⟩ :=
    exists_cons_of_forall₂ (List.Forall₂.flip hcopies)
  obtain ⟨number, hless, hdrawn⟩ := henrolled.drawn
  rw [hdrawn, hkept.process.idSource] at hid
  have hsame := hids hid
  omega

theorem Kept.of_registries_eq {after : Deployment}
    (hkept : cluster.Kept registry app surroundings)
    (hframe : cluster.deployment.Frame cluster.deployment.managers.size
      cluster.deployment.clients.size after)
    (hregistries : after.registries = cluster.deployment.registries) :
    ({ cluster with deployment := after } : Cluster).Kept registry app surroundings where
  process := hkept.process.trans hframe.process
  failures := by
    rw [hregistries]
    exact hkept.failures
  copies := by
    obtain ⟨hmanagers, hclients⟩ := hkept.fresh
    rw [hregistries]
    exact Participant.Keeps.forall₂_frame hkept.copies hframe hmanagers hclients
  ids := by
    rw [hregistries]
    exact hkept.ids
  numbers := hkept.numbers_of_frame hframe
  managers := hkept.managers
  clients := hkept.clients

/-- A member that is built comes last, and its copy, too. -/
theorem Kept.build (hkept : cluster.Kept registry app surroundings)
    (hids : Function.Injective surroundings.idSource)
    (hnamed : ∀ number, surroundings.idSource number ≠ "") {plan : MemberPlan}
    (hjoins : plan.Joins registry app surroundings) :
    (cluster.build plan).Kept registry app surroundings := by
  unfold Cluster.build
  split
  next member after hbuild =>
    obtain ⟨hmanagers, hclients⟩ := hkept.fresh
    have hname : cluster.deployment.idSource cluster.deployment.idsDrawn ≠ "" := by
      rw [hkept.process.idSource]
      exact hnamed _
    obtain ⟨hframe, hmanager, hclient, hmanagerLess, hclientLess, hrule, hfailures, profile, copy,
      hprofile, hport, hid, henrolled, hmembers⟩ :=
      hjoins.build hkept.process hkept.failures hname hbuild
    -- Nobody has the id that was drawn, so the new copy does not replace another one.
    have hfresh := hkept.fresh_id hids
    rw [← hid] at hfresh
    rw [Application.addTo_eq_append hfresh] at hmembers
    have hlast : Participant.Keeps registry app surroundings after ⟨plan, member, .built⟩ copy :=
      ⟨hrule, profile, hprofile, hport, henrolled⟩
    constructor
    case process => exact hkept.process.trans hframe.process
    case failures => exact hfailures
    case copies =>
      dsimp only
      rw [hmembers, live_append]
      apply List.rel_append
      · exact Participant.Keeps.forall₂_frame hkept.copies hframe hmanagers hclients
      · exact .cons hlast .nil
    case ids =>
      dsimp only
      rw [hmembers]
      apply nodup_map_append_singleton hkept.ids
      intro hmem
      obtain ⟨other, hother, heq⟩ := List.mem_map.mp hmem
      exact hfresh other hother heq
    case numbers =>
      intro other hother
      rcases List.mem_append.mp hother with hother | hother
      · exact hkept.numbers_of_frame hframe other hother
      · rw [List.mem_singleton.mp hother]
        exact ⟨hmanagerLess, hclientLess⟩
    case managers =>
      rw [← hmanager] at hmanagers
      exact nodup_map_append_singleton hkept.managers hmanagers
    case clients =>
      rw [← hclient] at hclients
      exact nodup_map_append_singleton hkept.clients hclients
  next error after hbuild =>
    have houtcome := plan.exec_build cluster.deployment
    rw [hbuild] at houtcome
    obtain ⟨hframe, hregistries⟩ := MemberPlan.frame_of_outcome_error hjoins.client houtcome
    exact hkept.of_registries_eq hframe hregistries

/-- Every step keeps what is kept. -/
theorem Kept.step (hkept : cluster.Kept registry app surroundings)
    (hupper : Text.upper (Text.upper app) = Text.upper app)
    (hids : Function.Injective surroundings.idSource)
    (hnamed : ∀ number, surroundings.idSource number ≠ "") (step : ClusterStep)
    (hjoins : ∀ plan, step = .build plan → plan.Joins registry app surroundings) :
    (cluster.step step).Kept registry app surroundings := by
  cases step with
  | build plan => exact hkept.build hids hnamed (hjoins plan rfl)
  | start number =>
      apply hkept.act number Member.start fun _ => .started
      intro participant front copy back _ hkeeps hlisted
      exact Participant.moves_start hkeeps hlisted
  | discover number =>
      apply hkept.act number Member.discover id
      intro participant front copy back hlive hkeeps hlisted
      exact Participant.moves_discover hlive hkeeps hlisted
  | destroy number =>
      apply hkept.act number Member.destroy fun _ => .left
      intro participant front copy back _ hkeeps hlisted
      exact Participant.moves_destroy hupper hkeeps hlisted

/-- Every run keeps what is kept. -/
theorem Kept.run (hkept : cluster.Kept registry app surroundings)
    (hupper : Text.upper (Text.upper app) = Text.upper app)
    (hids : Function.Injective surroundings.idSource)
    (hnamed : ∀ number, surroundings.idSource number ≠ "") {steps : List ClusterStep}
    (hjoins : ∀ plan, .build plan ∈ steps → plan.Joins registry app surroundings) :
    (cluster.run steps).Kept registry app surroundings := by
  induction steps generalizing cluster with
  | nil => exact hkept
  | cons step rest ih =>
      apply ih
      · apply hkept.step hupper hids hnamed step
        rintro plan rfl
        exact hjoins plan List.mem_cons_self
      · intro plan hmem
        exact hjoins plan (List.mem_cons_of_mem _ hmem)

end Cluster

end MemberDiscovery
