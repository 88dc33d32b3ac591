import MemberDiscovery.Instance.Wire
import MemberDiscovery.Proofs.Json.Spellings

/-! # Spellings of records

For every part of an application there is a relation between the part and the JSON that spells it:
fields may be left out if they have their default value, a list of one instance may be the instance
alone, and single values have their own spellings. Whatever spells an application is read as the
application that is received (`Application.Spells.read`): without class markers in its maps, and
with no changes that were not sent. What is written is one of the spellings.
-/

namespace MemberDiscovery

open Json (Document Field SpellsRecord SpellsText SpellsOptional SpellsInteger SpellsFlag
  SpellsTexts Readable)

theorem Json.spellsFlag_flagText (flag : Bool) : SpellsFlag flag (Json.flagText flag) :=
  .text ⟨[], [], by simp, by simp⟩

namespace PortSetting

def spelling (port : PortSetting) : List Field :=
  [⟨["$"], SpellsInteger port.number.toInt, False⟩, ⟨["@enabled"], SpellsFlag port.enabled, False⟩]

def Spells (port : PortSetting) : Json → Prop :=
  SpellsRecord port.spelling

variable {port : PortSetting} {form : Json}

theorem Spells.read (hform : port.Spells form) : ofDocument? (.ofJson form) = some port := by
  obtain ⟨record, hrecord, hread⟩ :=
    hform.exists_record (.refl fields) (by decide) (by decide)
  simp only [spelling, List.forall_mem_cons] at hread
  obtain ⟨hnumber, henabled, -⟩ := hread
  rw [ofDocument?, hrecord]
  refine hnumber.bind_required (fun _ h => h.read32) not_false ?_
  refine henabled.bind_required (fun _ h => h.read) not_false ?_
  rfl

theorem Spells.readable (hform : port.Spells form) (depth : Nat) : Readable (depth + 1) form := by
  refine SpellsRecord.readable hform ?_
  simp only [spelling, List.forall_mem_cons]
  exact ⟨fun _ h => h.readable32 depth, fun _ h => h.readable depth, nofun⟩

theorem spells_toJson (port : PortSetting) : port.Spells port.toJson := by
  have hparts : List.Forall₂ Field.Part port.spelling _ :=
    .cons (.present List.mem_cons_self .number) <|
    .cons (.present List.mem_cons_self (Json.spellsFlag_flagText _)) .nil
  exact Json.spellsRecord_ofMembers hparts (.refl fields) (by decide) rfl

end PortSetting

namespace DataCenter

def spelling (center : DataCenter) : List Field :=
  [⟨["@class"], SpellsText center.className, center.className = genericClass⟩,
   ⟨["name"], SpellsText center.kind.name, False⟩,
   ⟨["metadata"], SpellsTexts center.metadata, center.metadata = ∅⟩]

def Spells (center : DataCenter) : Json → Prop :=
  SpellsRecord center.spelling

/-- What is left of a data center on its way: all but the class markers among its metadata. -/
def received (center : DataCenter) : DataCenter :=
  { center with metadata := center.metadata.erase Document.classKey }

variable {center : DataCenter} {form : Json}

theorem Spells.read (hform : center.Spells form) {depth : Nat} (hdepth : 1 < depth) :
    ofDocument? depth (.ofJson form) = some center.received := by
  obtain ⟨record, hrecord, hread⟩ :=
    hform.exists_record (.refl fields) (by decide) (by decide)
  simp only [spelling, List.forall_mem_cons] at hread
  obtain ⟨hclass, hname, hmetadata, -⟩ := hread
  have hkind : ∀ value, SpellsText center.kind.name value →
      ((Document.ofJson value).word?.bind DataCenterKind.ofName?) = some center.kind := by
    rintro value rfl
    exact DataCenterKind.ofName?_name center.kind
  rw [ofDocument?, hrecord]
  refine hclass.bind_withDefault (fun _ h => h.read) Eq.symm ?_
  refine hname.bind_required hkind not_false ?_
  refine hmetadata.bind_withDefault (fun _ h => h.read (Nat.sub_pos_of_lt hdepth)) ?_ rfl
  intro hempty
  rw [hempty]
  rfl

theorem Spells.readable (hform : center.Spells form) (depth : Nat) :
    Readable (depth + 2) form := by
  refine SpellsRecord.readable hform ?_
  simp only [spelling, List.forall_mem_cons]
  exact ⟨fun _ h => h.readable _, fun _ h => h.readable _, fun _ h => h.readable depth, nofun⟩

theorem spells_toJson (center : DataCenter) : center.Spells center.toJson := by
  have hmetadata : Field.Part ⟨["metadata"], SpellsTexts center.metadata, center.metadata = ∅⟩
      (if center.metadata.isEmpty then [] else [("metadata", .ofTexts center.metadata)]) := by
    split
    next hempty => exact .absent (Table.eq_empty_of_isEmpty hempty)
    next => exact .present List.mem_cons_self (Json.spellsTexts_ofTexts _)
  have hparts : List.Forall₂ Field.Part center.spelling _ :=
    .cons (.present List.mem_cons_self rfl) <|
    .cons (.present List.mem_cons_self rfl) <|
    .cons hmetadata .nil
  exact Json.spellsRecord_ofMembers hparts (.refl fields) (by decide) (by simp)

end DataCenter

namespace Lease

def spelling (lease : Lease) : List Field :=
  [⟨["renewalIntervalInSecs"], SpellsInteger lease.renewalInterval.toInt,
      lease.renewalInterval = defaultInterval⟩,
   ⟨["durationInSecs"], SpellsInteger lease.duration.toInt, lease.duration = defaultDuration⟩,
   ⟨["registrationTimestamp"], SpellsInteger lease.registeredAt.toInt, lease.registeredAt = 0⟩,
   ⟨["lastRenewalTimestamp"], SpellsInteger lease.renewedAt.toInt, lease.renewedAt = 0⟩,
   ⟨["evictionTimestamp"], SpellsInteger lease.evictedAt.toInt, lease.evictedAt = 0⟩,
   ⟨["serviceUpTimestamp"], SpellsInteger lease.upSince.toInt, lease.upSince = 0⟩]

def Spells (lease : Lease) : Json → Prop :=
  SpellsRecord lease.spelling

variable {lease : Lease} {form : Json}

theorem Spells.read (hform : lease.Spells form) : ofDocument? (.ofJson form) = some lease := by
  obtain ⟨record, hrecord, hread⟩ :=
    hform.exists_record (.refl fields) (by decide) (by decide)
  simp only [spelling, List.forall_mem_cons] at hread
  obtain ⟨hinterval, hduration, hregistered, hrenewed, hevicted, hup, -⟩ := hread
  rw [ofDocument?, hrecord]
  refine hinterval.bind_withDefault (fun _ h => h.read32) Eq.symm ?_
  refine hduration.bind_withDefault (fun _ h => h.read32) Eq.symm ?_
  refine hregistered.bind_withDefault (fun _ h => h.read64) Eq.symm ?_
  refine hrenewed.bind_withDefault (fun _ h => h.read64) Eq.symm ?_
  refine hevicted.bind_withDefault (fun _ h => h.read64) Eq.symm ?_
  refine hup.bind_withDefault (fun _ h => h.read64) Eq.symm ?_
  rfl

theorem Spells.readable (hform : lease.Spells form) (depth : Nat) :
    Readable (depth + 1) form := by
  refine SpellsRecord.readable hform ?_
  simp only [spelling, List.forall_mem_cons]
  exact ⟨fun _ h => h.readable32 depth, fun _ h => h.readable32 depth,
    fun _ h => h.readable64 depth, fun _ h => h.readable64 depth, fun _ h => h.readable64 depth,
    fun _ h => h.readable64 depth, nofun⟩

theorem spells_toJson (lease : Lease) : lease.Spells lease.toJson := by
  have hparts : List.Forall₂ Field.Part lease.spelling _ :=
    .cons (.present List.mem_cons_self .number) <|
    .cons (.present List.mem_cons_self .number) <|
    .cons (.present List.mem_cons_self .number) <|
    .cons (.present List.mem_cons_self .number) <|
    .cons (.present List.mem_cons_self .number) <|
    .cons (.present List.mem_cons_self .number) .nil
  exact Json.spellsRecord_ofMembers hparts (.refl fields) (by decide) rfl

end Lease

namespace Instance

def SpellsStatus (status : InstanceStatus) : Json → Prop :=
  SpellsText status.name

def SpellsAction (action : Option RegistryAction) : Json → Prop :=
  SpellsOptional (action.map RegistryAction.name)

/-- The fields in the order in which they are written. -/
def spelling (record : Instance) : List Field :=
  [⟨["instanceId"], SpellsText record.instanceId, record.instanceId = ""⟩,
   ⟨["hostName"], SpellsText record.hostName, record.hostName = ""⟩,
   ⟨["app"], SpellsText record.app, False⟩,
   ⟨["ipAddr"], SpellsText record.ipAddress, record.ipAddress = ""⟩,
   ⟨["status"], SpellsStatus record.status, record.status = .unknown⟩,
   ⟨["overriddenstatus", "overriddenStatus"], SpellsStatus record.overriddenStatus,
      record.overriddenStatus = .unknown⟩,
   ⟨["port"], record.port.Spells, record.port = .plainDefault⟩,
   ⟨["securePort"], record.securePort.Spells, record.securePort = .secureDefault⟩,
   ⟨["countryId"], SpellsInteger record.countryId.toInt, record.countryId = 1⟩,
   ⟨["dataCenterInfo"], record.dataCenter.Spells, record.dataCenter = .generic⟩,
   ⟨["leaseInfo"], record.lease.Spells,
      record.lease = .new Lease.defaultInterval Lease.defaultDuration⟩,
   ⟨["metadata"], SpellsTexts record.metadata, record.metadata = ∅⟩,
   ⟨["isCoordinatingDiscoveryServer"], SpellsFlag record.isRegistryServer,
      record.isRegistryServer = false⟩,
   ⟨["lastUpdatedTimestamp"], SpellsInteger record.lastUpdated.toInt, record.lastUpdated = 0⟩,
   ⟨["lastDirtyTimestamp"], SpellsInteger record.lastDirty.toInt, record.lastDirty = 0⟩,
   ⟨["appGroupName"], SpellsOptional record.appGroup, record.appGroup = none⟩,
   ⟨["homePageUrl"], SpellsOptional record.homePageUrl, record.homePageUrl = none⟩,
   ⟨["statusPageUrl"], SpellsOptional record.statusPageUrl, record.statusPageUrl = none⟩,
   ⟨["healthCheckUrl"], SpellsOptional record.healthCheckUrl, record.healthCheckUrl = none⟩,
   ⟨["secureHealthCheckUrl"], SpellsOptional record.secureHealthCheckUrl,
      record.secureHealthCheckUrl = none⟩,
   ⟨["vipAddress"], SpellsOptional record.vipAddress, record.vipAddress = none⟩,
   ⟨["secureVipAddress"], SpellsOptional record.secureVipAddress, record.secureVipAddress = none⟩,
   ⟨["asgName"], SpellsOptional record.asgName, record.asgName = none⟩,
   ⟨["actionType"], SpellsAction record.action, record.action = none⟩]

def Spells (record : Instance) : Json → Prop :=
  SpellsRecord record.spelling

/-- What is left of a record on its way: all but class markers and the mark of unsent changes. -/
def received (record : Instance) : Instance :=
  { record with
    dataCenter := record.dataCenter.received
    metadata := record.metadata.erase Document.classKey
    dirty := false }

variable {record : Instance} {form : Json}

theorem SpellsStatus.read {status : InstanceStatus} {value : Json}
    (hvalue : SpellsStatus status value) :
    InstanceStatus.ofDocument? (.ofJson value) = some status := by
  rw [hvalue, ← InstanceStatus.ofName_name status]
  simp [InstanceStatus.ofDocument?, Document.ofJson, Document.word?]

theorem SpellsAction.read {action : Option RegistryAction} {value : Json}
    (hvalue : SpellsAction action value) :
    RegistryAction.ofOptional? (.ofJson value) = some action := by
  rw [hvalue]
  cases action with
  | none => rfl
  | some action =>
      simp [RegistryAction.ofOptional?, RegistryAction.ofDocument?, Document.ofJson,
        Document.word?]

theorem fields_perm (record : Instance) : fields.Perm (record.spelling.map Field.keys) := by
  have hperm : fields.Perm
      [["instanceId"], ["hostName"], ["app"], ["ipAddr"], ["status"],
       ["overriddenstatus", "overriddenStatus"], ["port"], ["securePort"], ["countryId"],
       ["dataCenterInfo"], ["leaseInfo"], ["metadata"], ["isCoordinatingDiscoveryServer"],
       ["lastUpdatedTimestamp"], ["lastDirtyTimestamp"], ["appGroupName"], ["homePageUrl"],
       ["statusPageUrl"], ["healthCheckUrl"], ["secureHealthCheckUrl"], ["vipAddress"],
       ["secureVipAddress"], ["asgName"], ["actionType"]] := by
    decide
  exact hperm

/-- Whatever spells a record is read as what is received of it. -/
theorem Spells.read (hform : record.Spells form) {depth : Nat} (hdepth : 2 < depth) :
    ofDocument? depth (.ofJson form) = some record.received := by
  obtain ⟨members, hmembers, hread⟩ :=
    hform.exists_record record.fields_perm (by decide) (by decide)
  simp only [spelling, List.forall_mem_cons] at hread
  obtain ⟨hid, hhost, happ, haddress, hstatus, hoverridden, hport, hsecurePort, hcountry, hcenter,
    hlease, hmetadata, hserver, hupdated, hdirty, hgroup, hhomePage, hstatusPage, hhealth,
    hsecureHealth, hvip, hsecureVip, hasg, haction, -⟩ := hread
  rw [ofDocument?, hmembers]
  refine hid.bind_withDefault (fun _ h => h.read) Eq.symm ?_
  refine hhost.bind_withDefault (fun _ h => h.read) Eq.symm ?_
  refine happ.bind_required (fun _ h => h.read) not_false ?_
  refine hgroup.bind_withDefault (fun _ h => h.read) Eq.symm ?_
  refine haddress.bind_withDefault (fun _ h => h.read) Eq.symm ?_
  refine hstatus.bind_withDefault (fun _ h => h.read) Eq.symm ?_
  refine hoverridden.bind_withDefault (fun _ h => h.read) Eq.symm ?_
  refine hport.bind_withDefault (fun _ h => h.read) Eq.symm ?_
  refine hsecurePort.bind_withDefault (fun _ h => h.read) Eq.symm ?_
  refine hcountry.bind_withDefault (fun _ h => h.read32) Eq.symm ?_
  refine hcenter.bind_withDefault (fun _ h => h.read (by omega)) (fun h => by rw [h]; rfl) ?_
  refine hlease.bind_withDefault (fun _ h => h.read) Eq.symm ?_
  refine hmetadata.bind_withDefault (fun _ h => h.read (by omega)) (fun h => by rw [h]; rfl) ?_
  refine hhomePage.bind_withDefault (fun _ h => h.read) Eq.symm ?_
  refine hstatusPage.bind_withDefault (fun _ h => h.read) Eq.symm ?_
  refine hhealth.bind_withDefault (fun _ h => h.read) Eq.symm ?_
  refine hsecureHealth.bind_withDefault (fun _ h => h.read) Eq.symm ?_
  refine hvip.bind_withDefault (fun _ h => h.read) Eq.symm ?_
  refine hsecureVip.bind_withDefault (fun _ h => h.read) Eq.symm ?_
  refine hasg.bind_withDefault (fun _ h => h.read) Eq.symm ?_
  refine hserver.bind_withDefault (fun _ h => h.read) Eq.symm ?_
  refine hupdated.bind_withDefault (fun _ h => h.read64) Eq.symm ?_
  refine hdirty.bind_withDefault (fun _ h => h.read64) Eq.symm ?_
  refine haction.bind_withDefault (fun _ h => h.read) Eq.symm ?_
  rfl

theorem Spells.readable (hform : record.Spells form) (depth : Nat) :
    Readable (depth + 3) form := by
  refine SpellsRecord.readable hform ?_
  simp only [spelling, List.forall_mem_cons]
  exact ⟨fun _ h => h.readable _, fun _ h => h.readable _, fun _ h => h.readable _,
    fun _ h => h.readable _, fun _ h => SpellsText.readable h _,
    fun _ h => SpellsText.readable h _, fun _ h => h.readable (depth + 1),
    fun _ h => h.readable (depth + 1), fun _ h => h.readable32 _, fun _ h => h.readable depth,
    fun _ h => h.readable (depth + 1), fun _ h => h.readable (depth + 1), fun _ h => h.readable _,
    fun _ h => h.readable64 _, fun _ h => h.readable64 _, fun _ h => h.readable _,
    fun _ h => h.readable _, fun _ h => h.readable _, fun _ h => h.readable _,
    fun _ h => h.readable _, fun _ h => h.readable _, fun _ h => h.readable _,
    fun _ h => h.readable _, fun _ h => SpellsOptional.readable h _, nofun⟩

theorem part_optionalMember (key : String) (text : Option String) :
    Field.Part ⟨[key], SpellsOptional text, text = none⟩ (Json.optionalMember key text) := by
  cases text with
  | some text => exact .present List.mem_cons_self rfl
  | none => exact .absent rfl

theorem part_action (action : Option RegistryAction) :
    Field.Part ⟨["actionType"], SpellsAction action, action = none⟩
      (Json.optionalMember "actionType" (action.map RegistryAction.name)) := by
  cases action with
  | some action => exact .present List.mem_cons_self rfl
  | none => exact .absent rfl

/-- What is written is a spelling. -/
theorem spells_toJson (record : Instance) : record.Spells record.toJson := by
  have hparts : List.Forall₂ Field.Part record.spelling _ :=
    .cons (.present List.mem_cons_self rfl) <|
    .cons (.present List.mem_cons_self rfl) <|
    .cons (.present List.mem_cons_self rfl) <|
    .cons (.present List.mem_cons_self rfl) <|
    .cons (.present List.mem_cons_self rfl) <|
    .cons (.present List.mem_cons_self rfl) <|
    .cons (.present List.mem_cons_self record.port.spells_toJson) <|
    .cons (.present List.mem_cons_self record.securePort.spells_toJson) <|
    .cons (.present List.mem_cons_self .number) <|
    .cons (.present List.mem_cons_self record.dataCenter.spells_toJson) <|
    .cons (.present List.mem_cons_self record.lease.spells_toJson) <|
    .cons (.present List.mem_cons_self (Json.spellsTexts_ofTexts _)) <|
    .cons (.present List.mem_cons_self (Json.spellsFlag_flagText _)) <|
    .cons (.present List.mem_cons_self .number) <|
    .cons (.present List.mem_cons_self .number) <|
    .cons (part_optionalMember _ _) <|
    .cons (part_optionalMember _ _) <|
    .cons (part_optionalMember _ _) <|
    .cons (part_optionalMember _ _) <|
    .cons (part_optionalMember _ _) <|
    .cons (part_optionalMember _ _) <|
    .cons (part_optionalMember _ _) <|
    .cons (part_optionalMember _ _) <|
    .cons (part_action _) .nil
  exact Json.spellsRecord_ofMembers hparts record.fields_perm (by decide) (by simp)

end Instance

namespace Application

/-- A list of instances, the only instance alone, or null for none. -/
inductive SpellsInstances : List Instance → Json → Prop where
  | array {records : List Instance} {items : List Json}
      (hitems : List.Forall₂ Instance.Spells records items) :
      SpellsInstances records (.array items)
  | single {record : Instance} {item : Json} (hitem : record.Spells item) :
      SpellsInstances [record] item
  | null : SpellsInstances [] .null

def spelling (app : Application) : List Field :=
  [⟨["name"], SpellsText app.name, False⟩,
   ⟨["instance"], SpellsInstances app.instances, app.instances = []⟩]

def Spells (app : Application) : Json → Prop :=
  SpellsRecord app.spelling

def received (app : Application) : Application :=
  { app with instances := app.instances.map Instance.received }

variable {app : Application} {form : Json}

theorem mapM_ofItems {records : List Instance} {items : List Json}
    (hitems : List.Forall₂ Instance.Spells records items) {depth : Nat} (hdepth : 2 < depth) :
    (Document.ofItems items).mapM (Instance.ofDocument? depth) =
      some (records.map Instance.received) := by
  induction hitems with
  | nil => rfl
  | cons hitem _ ih => simp [Document.ofItems, hitem.read hdepth, ih]

theorem SpellsInstances.readable {records : List Instance}
    (hform : SpellsInstances records form) (depth : Nat) : Readable (depth + 4) form := by
  cases hform with
  | null => exact Json.readable_null
  | single hitem => exact hitem.readable (depth + 1)
  | array hitems =>
      refine Json.readable_array fun item hmem => ?_
      obtain ⟨record, -, hitem⟩ := Json.exists_of_mem_right hitems hmem
      exact hitem.readable depth

theorem SpellsInstances.read {records : List Instance} (hform : SpellsInstances records form)
    {depth : Nat} (hdepth : 3 < depth) :
    instances? depth (.ofJson form) = some (records.map Instance.received) := by
  obtain ⟨extra, rfl⟩ : ∃ extra, depth = extra + 4 := ⟨depth - 4, by omega⟩
  have hvalue : ¬ ((Document.ofJson form).toJson? (extra + 4)).isNone = true := by
    simpa [Option.isSome_iff_ne_none] using (hform.readable extra).2
  rw [instances?, if_neg hvalue]
  cases hform with
  | null => rfl
  | array hitems =>
      have hread := mapM_ofItems hitems (by decide : 2 < Document.maxDepth)
      simp only [Document.ofJson, hread, Option.some_or]
  | @single record item hitem =>
      have hread := hitem.read (by decide : 2 < Document.maxDepth)
      cases hitem
      simp only [Document.ofJson] at hread ⊢
      rw [hread]
      rfl

/-- Whatever spells an application is read as what is received of it. -/
theorem Spells.read (hform : app.Spells form) {depth : Nat} (hdepth : 4 < depth) :
    ofDocument? depth (.ofJson form) = some app.received := by
  obtain ⟨record, hrecord, hread⟩ :=
    hform.exists_record (.refl [["name"], ["instance"]]) (by decide) (by decide)
  simp only [spelling, List.forall_mem_cons] at hread
  obtain ⟨hname, hinstances, -⟩ := hread
  rw [ofDocument?, hrecord]
  refine hname.bind_required (fun _ h => h.read) not_false ?_
  refine hinstances.bind_withDefault (fun _ h => h.read (by omega)) (fun h => by rw [h]; rfl) ?_
  rfl

theorem Spells.readable (hform : app.Spells form) (depth : Nat) : Readable (depth + 5) form := by
  refine SpellsRecord.readable hform ?_
  simp only [spelling, List.forall_mem_cons]
  exact ⟨fun _ h => h.readable _, fun _ h => h.readable depth, nofun⟩

theorem spells_toJson (app : Application) : app.Spells app.toJson := by
  have hinstances : SpellsInstances app.instances (.array (app.instances.map Instance.toJson)) := by
    refine .array (List.forall₂_map_right_iff.mpr (List.forall₂_same.mpr fun record _ => ?_))
    exact record.spells_toJson
  have hparts : List.Forall₂ Field.Part app.spelling _ :=
    .cons (.present List.mem_cons_self rfl) <|
    .cons (.present List.mem_cons_self hinstances) .nil
  exact Json.spellsRecord_ofMembers hparts (.refl [["name"], ["instance"]]) (by decide) rfl

end Application

end MemberDiscovery
