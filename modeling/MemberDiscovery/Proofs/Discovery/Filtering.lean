import MemberDiscovery.Proofs.Discovery.Building
import MemberDiscovery.Proofs.Discovery.Candidates
import MemberDiscovery.Proofs.Discovery.Lifecycle
import MemberDiscovery.Proofs.Json.Spellings

/-! # Which records become candidates

`CandidateRule.Admits` says without the rule's own reading which candidate a record gives: the
record is up, and it declares a host that the resolver knows and a port that others can connect to.
A member that finds its application discovers exactly these candidates, in the order of the records
and each by its record alone (`Member.discover_admitted`).
-/

namespace MemberDiscovery

namespace CandidateRule

/-- Where a record says that its member is. In metadata mode only records of the own group say so,
and their port is a decimal spelling that may have blanks around it. -/
inductive Declares (rule : CandidateRule) (record : Instance) : String → Int → Prop where
  | direct (hmode : rule.usesMetadata = false) :
      Declares rule record record.ipAddress record.port.number.toInt
  | published {host text word : String} {port : Int} (hmode : rule.usesMetadata = true)
      (hgroup : record.metadata.get? MetadataKeys.groupName = some rule.groupName)
      (hhost : record.metadata.get? MetadataKeys.host = some host)
      (htext : record.metadata.get? MetadataKeys.port = some text)
      (hword : Text.Padded word text) (hport : Integer.Spells port word.toList) :
      Declares rule record host port

/-- The candidate of a record. -/
structure Admits (rule : CandidateRule) (record : Instance) (node : Node) : Prop where
  up : record.status = .up
  /-- Both addresses are the one that the record declares, once its host is resolved. -/
  found : ∃ host ip port, rule.Declares record host port ∧ rule.resolver host = .ok ip ∧
    1 ≤ port ∧ port ≤ 65535 ∧ node.privateAddress = ⟨ip.render, UInt16.ofNat port.toNat⟩ ∧
    node.publicAddress = ⟨ip.render, UInt16.ofNat port.toNat⟩
  properties : node.properties = record.metadata

theorem port?_of_range {port : Int} (hlower : 1 ≤ port) (hupper : port ≤ 65535) :
    port? port = some (UInt16.ofNat port.toNat) := by
  rw [port?, if_pos ⟨by omega, hupper⟩]

theorem port?_eq_some_iff {port : Int} {number : UInt16} :
    port? port = some number ↔ 1 ≤ port ∧ port ≤ 65535 ∧ number = UInt16.ofNat port.toNat := by
  constructor
  · intro hport
    unfold port? at hport
    split at hport
    next hrange =>
      rw [Option.some.injEq] at hport
      exact ⟨by omega, hrange.2, hport.symm⟩
    next => cases hport
  · rintro ⟨hlower, hupper, rfl⟩
    exact port?_of_range hlower hupper

/-- The published port of a record, if it is one that others can connect to, is spelled in its
metadata. The -1 that stands for everything else is none. -/
theorem publishedPort_eq_iff {record : Instance} {port : Int} (hlower : 1 ≤ port)
    (hupper : port ≤ 65535) :
    publishedPort record = port ↔ ∃ text word,
      record.metadata.get? MetadataKeys.port = some text ∧ Text.Padded word text ∧
        Integer.Spells port word.toList := by
  unfold publishedPort
  cases htext : record.metadata.get? MetadataKeys.port with
  | none =>
      constructor
      · intro hport
        have : (-1 : Int) = port := hport
        omega
      · rintro ⟨text, word, hsome, -⟩
        cases hsome
  | some text =>
      rw [Option.bind_some]
      constructor
      · intro hport
        cases hread : Integer.readInt64? (Text.trim text) with
        | none =>
            rw [hread] at hport
            have : (-1 : Int) = port := hport
            omega
        | some number =>
            rw [hread] at hport
            obtain ⟨word, hpadded, hspells⟩ := Integer.readInt64?_trim_eq_some_iff.mp hread
            exact ⟨text, word, rfl, hpadded, hport ▸ hspells⟩
      · rintro ⟨same, word, hsame, hpadded, hspells⟩
        cases hsame
        have hnumber : (Int64.ofInt port).toInt = port :=
          Int64.toInt_ofInt_of_le (by omega) (by omega)
        rw [Integer.readInt64?_trim_eq_some_iff.mpr ⟨word, hpadded, hnumber.symm ▸ hspells⟩]
        exact hnumber

/-- A record is looked for exactly where it declares to be. -/
theorem endpoint_eq_ok_iff {rule : CandidateRule} {record : Instance} {host : String} {port : Int}
    (hlower : 1 ≤ port) (hupper : port ≤ 65535) :
    rule.endpoint record = .ok (host, port) ↔ rule.Declares record host port := by
  unfold endpoint
  cases hmode : rule.usesMetadata with
  | false =>
      rw [if_neg Bool.false_ne_true, Except.ok.injEq, Prod.mk.injEq]
      constructor
      · rintro ⟨rfl, rfl⟩
        exact .direct hmode
      · intro hdeclares
        cases hdeclares with
        | direct => exact ⟨rfl, rfl⟩
        | published hpublished =>
            rw [hmode] at hpublished
            cases hpublished
  | true =>
      rw [if_pos rfl]
      constructor
      · intro hendpoint
        split at hendpoint
        next => cases hendpoint
        next hgroup =>
          split at hendpoint
          next published hhost =>
            rw [Except.ok.injEq, Prod.mk.injEq] at hendpoint
            obtain ⟨rfl, hport⟩ := hendpoint
            obtain ⟨text, word, htext, hpadded, hspells⟩ :=
              (publishedPort_eq_iff hlower hupper).mp hport
            exact .published hmode (not_not.mp hgroup) hhost htext hpadded hspells
          next => cases hendpoint
      · intro hdeclares
        cases hdeclares with
        | direct hdirect =>
            rw [hmode] at hdirect
            cases hdirect
        | published _ hgroup hhost htext hpadded hspells =>
            have hport := (publishedPort_eq_iff hlower hupper).mpr
              ⟨_, _, htext, hpadded, hspells⟩
            rw [if_neg (not_not.mpr hgroup), hhost, hport]

theorem candidate_eq_ok_iff {rule : CandidateRule} {record : Instance} {node : Node} :
    rule.candidate record = .ok node ↔ ∃ host ip port number,
      rule.endpoint record = .ok (host, port) ∧ rule.resolver host = .ok ip ∧
        port? port = some number ∧ node = ⟨⟨ip.render, number⟩, ⟨ip.render, number⟩,
          record.metadata⟩ := by
  unfold candidate
  cases hendpoint : rule.endpoint record with
  | error reason =>
      constructor
      · intro hcandidate
        cases hcandidate
      · rintro ⟨host, ip, port, number, hok, -⟩
        cases hok
  | ok endpoint =>
      obtain ⟨host, port⟩ := endpoint
      simp only [bind, Except.bind]
      constructor
      · intro hcandidate
        split at hcandidate
        next => cases hcandidate
        next => cases hcandidate
        next ip number hresolved hport =>
          cases hcandidate
          exact ⟨host, ip, port, number, rfl, hresolved, hport, rfl⟩
      · rintro ⟨same, ip, number, valid, hsame, hresolved, hvalid, rfl⟩
        cases hsame
        rw [hresolved, hvalid]
        rfl

/-- The candidate of a record that is up, and nothing for any other record. -/
def select (rule : CandidateRule) (record : Instance) : Option Node :=
  if record.status = .up then (rule.candidate record).toOption else none

theorem select_eq_some_iff {rule : CandidateRule} {record : Instance} {node : Node} :
    rule.select record = some node ↔ rule.Admits record node := by
  have hcandidate : rule.select record = some node ↔
      record.status = .up ∧ rule.candidate record = .ok node := by
    unfold select
    split
    next hup => cases rule.candidate record <;> simp [hup, Except.toOption]
    next hdown => simp [hdown]
  rw [hcandidate, candidate_eq_ok_iff]
  constructor
  · rintro ⟨hup, host, ip, port, number, hendpoint, hresolved, hport, rfl⟩
    obtain ⟨hlower, hupper, rfl⟩ := port?_eq_some_iff.mp hport
    have hdeclares := (endpoint_eq_ok_iff hlower hupper).mp hendpoint
    exact ⟨hup, ⟨host, ip, port, hdeclares, hresolved, hlower, hupper, rfl, rfl⟩, rfl⟩
  · rintro ⟨hup, ⟨host, ip, port, hdeclares, hresolved, hlower, hupper, hprivate, hpublic⟩,
      hproperties⟩
    refine ⟨hup, host, ip, port, _, (endpoint_eq_ok_iff hlower hupper).mpr hdeclares, hresolved,
      port?_of_range hlower hupper, ?_⟩
    rw [← hprivate, ← hproperties]
    cases node
    simp_all

theorem filterMap_survey (rule : CandidateRule) (app : Application) :
    (rule.survey app).filterMap (·.2.toOption) = app.instances.filterMap rule.select := by
  rw [survey, List.filterMap_map, List.filterMap_filter]
  congr 1
  funext record
  simp [select]

end CandidateRule

/-- A member that finds its application discovers the candidates that its rule admits, in the order
of their records, and does nothing else but note what it skips. -/
theorem Member.discover_admitted {member : Member} {before after : Deployment}
    {found : Application}
    (hfound : (Member.findApplication member.client
      (before.managers.get member.manager).config.appName 1 Member.discoveryRounds).exec before =
        (.ok (some found), after)) :
    ∃ select : Instance → Option Node,
      (∀ record node, select record = some node ↔ member.rule.Admits record node) ∧
        ∃ trace, member.discover.exec before =
          (.ok (found.instances.filterMap select), { after with trace }) := by
  refine ⟨member.rule.select, fun _ _ => CandidateRule.select_eq_some_iff, ?_⟩
  obtain ⟨trace, hcollect⟩ := Member.exec_collect (member.rule.survey found) after
  refine ⟨trace, ?_⟩
  rw [Member.discover, Action.exec_bind, Member.exec_appName, Action.exec_bind, hfound,
    ← member.rule.filterMap_survey]
  dsimp only
  rw [Action.exec_bind, hcollect]
  rfl

namespace Member

/-- A member of a group that only looks for others. -/
def sampleSeeker : Member where
  client := 0
  manager := 0
  policy := .disabled
  rule := ⟨true, "dev", HostResolver.literal⟩
  scopeName := MemberOptions.defaultScopeName
  skipsVerification := true

/-- A record that publishes a port for a group. -/
def samplePeer (id groupName port : String) : Instance :=
  { Instance.new "app" id 0 with
    metadata := Table.ofList [(MetadataKeys.groupName, groupName), (MetadataKeys.host, "10.0.0.2"),
      (MetadataKeys.port, port)] }

/-- One peer is of another group, one has a port beyond all words, and one is down. -/
def samplePeers : Application where
  name := "APP"
  instances := [samplePeer "other" "test" "5701", samplePeer "first" "dev" " +05701\t",
    samplePeer "beyond" "dev" "18446744073709557317",
    { samplePeer "left" "dev" "5702" with status := .down }, samplePeer "last" "dev" "65535"]

/-- A process in which the peers are found. -/
def sampleMeeting : Deployment :=
  ((MemberPlan.sampleStart.addManager default).2.addClient
    (.scripted ⟨0, [], .ok (some samplePeers)⟩)).2

theorem discover_admitted_of_samplePeers :
    ∃ after select trace,
      (findApplication sampleSeeker.client
        (sampleMeeting.managers.get sampleSeeker.manager).config.appName 1 discoveryRounds).exec
          sampleMeeting = (.ok (some samplePeers), after) ∧
      (∀ record node, select record = some node ↔ sampleSeeker.rule.Admits record node) ∧
      sampleSeeker.discover.exec sampleMeeting =
        (.ok (samplePeers.instances.filterMap select), { after with trace }) ∧
      (samplePeers.instances.filterMap select).map (·.privateAddress) =
        [⟨"10.0.0.2", 5701⟩, ⟨"10.0.0.2", 65535⟩] := by
  -- The script of the client has no other answer than its last one.
  have hfound : (findApplication sampleSeeker.client
      (sampleMeeting.managers.get sampleSeeker.manager).config.appName 1 discoveryRounds).exec
        sampleMeeting = (.ok (some samplePeers), ((sampleMeeting.note (.lookedUp "")).setClient 0
          (.scripted ⟨0, [], .ok (some samplePeers)⟩))) := rfl
  obtain ⟨select, hselect, trace, hdiscover⟩ := discover_admitted hfound
  refine ⟨_, select, trace, hfound, hselect, hdiscover, ?_⟩
  have hnodes : (sampleSeeker.discover.exec sampleMeeting).1.toOption.map
      (·.map (·.privateAddress)) = some [⟨"10.0.0.2", 5701⟩, ⟨"10.0.0.2", 65535⟩] := by
    decide +kernel
  rw [hdiscover] at hnodes
  exact Option.some.inj hnodes

end Member

end MemberDiscovery
