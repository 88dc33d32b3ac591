import MemberDiscovery.Discovery.Lifecycle
import MemberDiscovery.Proofs.Discovery.Policies
import MemberDiscovery.Proofs.Number.Decimal

/-! # How members find each other in records

A `Profile` is what a member makes known of itself. Its record presents the profile: as address and
port of the record, and in metadata mode also in the metadata. `CandidateRule.finds` says where a
member is found by its profile, and a record that presents the profile becomes a candidate there and
nowhere else.
-/

namespace MemberDiscovery

/-- What a member makes known of itself. -/
structure Profile where
  address : Address
  /-- The group that is published in metadata mode. -/
  group : Option String
  deriving DecidableEq, Repr, Inhabited

def Profile.policy (profile : Profile) : StatusPolicy :=
  match profile.group with
  | some group => .publishing profile.address true group
  | none => .forwarding

/-- Where a member is found by its profile. A member that looks for its group does not find others.
-/
def CandidateRule.finds (rule : CandidateRule) (profile : Profile) : Option Address :=
  if rule.usesMetadata ∧ profile.group ≠ some rule.groupName then none
  else
    match rule.resolver profile.address.host with
    | .ok ip => some ⟨ip.render, profile.address.port⟩
    | .error _ => none

/-- The record of a member with a profile. In metadata mode the address is in the metadata, too. -/
structure Instance.Presents (record : Instance) (app : String) (profile : Profile)
    (status : InstanceStatus) : Prop where
  app : record.app = Text.upper app
  status : record.status = status
  host : record.ipAddress = profile.address.host
  port : record.port.number = Int32.ofNat profile.address.port.toNat
  group : record.metadata.get? MetadataKeys.groupName = profile.group
  published : profile.group ≠ none →
    record.metadata.get? MetadataKeys.host = some profile.address.host ∧
      record.metadata.get? MetadataKeys.port = some (Integer.render profile.address.port.toNat)

namespace CandidateRule

/-- Every port but 0 is one that others can connect to. -/
theorem port?_toNat {port : UInt16} (hport : port ≠ 0) : port? port.toNat = some port := by
  have hpositive : port.toNat ≠ 0 := fun hzero => hport (UInt16.toNat_inj.mp hzero)
  have hless := port.toNat_lt
  have hrange : 0 < (port.toNat : Int) ∧ (port.toNat : Int) ≤ 65535 := by omega
  rw [port?, if_pos hrange, Int.toNat_natCast, UInt16.ofNat_toNat]

theorem publishedPort_of_get? {record : Instance} {port : UInt16}
    (hport : record.metadata.get? MetadataKeys.port = some (Integer.render port.toNat)) :
    publishedPort record = port.toNat := by
  have hless := port.toNat_lt
  have hread := Integer.readInt64?_trim_render_natCast (n := port.toNat)
    (by unfold Integer.maxInt64; omega)
  obtain ⟨value, hvalue, hint⟩ := Option.map_eq_some_iff.mp hread
  simp only [publishedPort, hport, Option.bind_some, hvalue, hint]

theorem toInt_ofNat_toNat (port : UInt16) : (Int32.ofNat port.toNat).toInt = port.toNat := by
  have hless := port.toNat_lt
  exact Int32.toInt_ofNat_of_lt (by omega)

variable {record : Instance} {app : String} {profile : Profile} {status : InstanceStatus}

/-- In both modes a record says that its member is at the address of its profile. -/
theorem endpoint_of_presents (rule : CandidateRule)
    (hpresents : record.Presents app profile status) :
    rule.endpoint record =
      if rule.usesMetadata ∧ profile.group ≠ some rule.groupName then .error .otherGroup
      else .ok (profile.address.host, (profile.address.port.toNat : Int)) := by
  unfold endpoint
  cases hmode : rule.usesMetadata with
  | false =>
      simp [-Int32.toInt_ofNat', hpresents.host, hpresents.port, toInt_ofNat_toNat]
  | true =>
      by_cases hgroup : profile.group = some rule.groupName
      · obtain ⟨hhost, hport⟩ := hpresents.published (by simp [hgroup])
        simp [hpresents.group, hgroup, hhost, publishedPort_of_get? hport]
      · simp [hpresents.group, hgroup]

/-- A record becomes a candidate exactly where its member is found. -/
theorem candidate_of_presents (rule : CandidateRule)
    (hpresents : record.Presents app profile status) (hport : profile.address.port ≠ 0) :
    (rule.candidate record).toOption.map (fun node => (node.privateAddress, node.publicAddress)) =
      (rule.finds profile).map fun address => (address, address) := by
  unfold candidate finds
  rw [rule.endpoint_of_presents hpresents]
  split
  next => rfl
  next =>
    have hvalid := port?_toNat hport
    cases hresolved : rule.resolver profile.address.host with
    | error reason =>
        simp [bind, Except.bind, hresolved, throw, throwThe, MonadExceptOf.throw, Except.toOption]
    | ok ip =>
        simp [bind, Except.bind, hresolved, hvalid, pure, Except.pure, Except.toOption]

end CandidateRule

namespace Profile

variable {app : String} {profile : Profile}

theorem applies_policy (profile : Profile) : profile.policy.applies = true := by
  unfold policy
  split <;> rfl

theorem registers_policy (profile : Profile) : profile.policy.registers = true := by
  unfold policy
  split <;> rfl

/-- A policy that is applied makes the record of a member present its profile. -/
theorem presents_restated {manager : InstanceManager}
    (happ : manager.record.app = Text.upper app)
    (hhost : manager.record.ipAddress = profile.address.host)
    (hport : manager.record.port.number = Int32.ofNat profile.address.port.toNat)
    (hgroup : profile.group = none → manager.record.metadata.get? MetadataKeys.groupName = none)
    (now : Timestamp) (status : InstanceStatus) :
    (profile.policy.restated now status manager).record.Presents app profile status := by
  obtain ⟨address, group⟩ := profile
  cases group with
  | none =>
      constructor <;>
        simp_all [policy, StatusPolicy.restated, StatusPolicy.applies, StatusPolicy.prepared]
  | some group =>
      have hentries := StatusPolicy.get?_insertAll_publishedEntries address group
        manager.record.metadata
      constructor <;>
        simp_all [policy, StatusPolicy.restated, StatusPolicy.applies, StatusPolicy.prepared,
          InstanceManager.addMetadata, InstanceManager.update, Instance.markDirty]

end Profile

namespace Instance.Presents

variable {record : Instance} {app : String} {profile : Profile} {status : InstanceStatus}

theorem stored (hpresents : record.Presents app profile status) (now : Timestamp) :
    (Registry.stored now record).Presents app profile status :=
  ⟨hpresents.app, hpresents.status, hpresents.host, hpresents.port, hpresents.group,
    hpresents.published⟩

theorem setDirty (hpresents : record.Presents app profile status) (dirty : Bool) :
    ({ record with dirty } : Instance).Presents app profile status :=
  ⟨hpresents.app, hpresents.status, hpresents.host, hpresents.port, hpresents.group,
    hpresents.published⟩

end Instance.Presents

namespace Member

/-- Collecting keeps the candidates in order and notes the others. -/
theorem exec_collect (survey : List (Instance × Except SkipReason Node)) (deployment : Deployment) :
    ∃ trace, (collect survey).exec deployment =
      (survey.filterMap (·.2.toOption), { deployment with trace }) := by
  induction survey generalizing deployment with
  | nil => exact ⟨deployment.trace, rfl⟩
  | cons entry rest ih =>
      obtain ⟨record, found⟩ := entry
      cases found with
      | ok node =>
          obtain ⟨trace, hrest⟩ := ih deployment
          refine ⟨trace, ?_⟩
          simp only [collect, Action.exec_bind, hrest, Action.exec_pure, List.filterMap_cons,
            Except.toOption]
      | error reason =>
          cases hwarning : reason.warning? record with
          | none =>
              obtain ⟨trace, hrest⟩ := ih deployment
              refine ⟨trace, ?_⟩
              simp only [collect, hwarning, List.filterMap_cons, Except.toOption]
              exact hrest
          | some warning =>
              obtain ⟨trace, hrest⟩ := ih (deployment.note (.logged .warning warning []))
              refine ⟨trace, ?_⟩
              simp only [collect, hwarning, Action.exec_bind, Action.exec_warn, hrest,
                List.filterMap_cons, Except.toOption]
              rfl

end Member

end MemberDiscovery
