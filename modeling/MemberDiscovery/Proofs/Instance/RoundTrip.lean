import MemberDiscovery.Proofs.Instance.Spellings

/-! # What is sent is received

Records and applications that are written as JSON text and read again, alone or in an envelope, come
back as what is received of them, and a text that was read once can be written and read any number
of times without a change (`roundTrip_wire`). An application comes back the same from every other
spelling of its text as well (`Application.decode?_spelling`).
-/

namespace MemberDiscovery

open Json (Document Readable SpellsRecord)

namespace Json

/-- Takes a whole text as a value of one kind. -/
def decode? {α : Type u} (read : Nat → Document → Option α) (text : String) : Option α :=
  (Document.parse? text).bind (read Document.maxDepth)

theorem Readable.decode? {α : Type u} {depth : Nat} {form : Json} (hform : Readable depth form)
    (read : Nat → Document → Option α) :
    Json.decode? read form.render = read Document.maxDepth (.ofJson form) := by
  rw [Json.decode?, Document.parse?_render hform.1, Option.bind_some]

/-- Writing and then reading changes a value only as far as receiving it does, and what was read
stays as it is. -/
structure RoundTrip {α : Type u} (write : α → Json) (read : Nat → Document → Option α)
    (received : α → α) : Prop where
  decode?_write : ∀ value, decode? read (write value).render = some (received value)
  decode?_again : ∀ text value, decode? read text = some value →
    decode? read (write value).render = some value

theorem RoundTrip.of_received {α : Type u} {write : α → Json} {read : Nat → Document → Option α}
    {received : α → α} (hwrite : ∀ value, decode? read (write value).render = some (received value))
    (hreceived : ∀ depth item value, read depth item = some value → received value = value) :
    RoundTrip write read received where
  decode?_write := hwrite
  decode?_again text value hvalue := by
    obtain ⟨item, -, hread⟩ := Option.bind_eq_some_iff.mp hvalue
    rw [hwrite, hreceived _ item value hread]

/-- The only field of an envelope is read as its content. -/
theorem SpellsRecord.read_envelope {α : Type u} {key : String} {content : Json → Prop} {form : Json}
    (hform : SpellsRecord [⟨[key], content, False⟩] form) {read : Document → Option α} {result : α}
    (hread : ∀ value, content value → read (.ofJson value) = some result) :
    ((Record.ofDocument? [[key]] (.ofJson form)).bind fun record => record.required key read) =
      some result := by
  obtain ⟨record, hrecord, hfields⟩ := hform.exists_record (.refl [[key]]) (by simp) (by simp)
  have hfield := hfields _ List.mem_cons_self
  rw [hrecord, Option.bind_some, ← Option.bind_fun_some (record.required key read)]
  exact hfield.bind_required hread not_false rfl

theorem spellsRecord_envelope {key : String} {content : Json → Prop} {value : Json}
    (hvalue : content value) :
    SpellsRecord [⟨[key], content, False⟩] (.ofMembers [(key, value)]) :=
  spellsRecord_ofMembers (.cons (.present List.mem_cons_self hvalue) .nil) (.refl [[key]])
    (by simp) rfl

theorem erase_of_textMap? {depth : Nat} {item : Document} {texts : Table String}
    (hitem : item.textMap? depth = some texts) : texts.erase Document.classKey = texts := by
  unfold Document.textMap? at hitem
  split at hitem
  next =>
    obtain rfl := Option.some.inj hitem
    rfl
  next members =>
    simp only [Option.bind_eq_bind, Option.pure_def] at hitem
    split at hitem
    next => exact absurd hitem (by simp)
    next =>
      obtain ⟨values, -, hvalues⟩ := Option.bind_eq_some_iff.mp hitem
      rw [← Option.some.inj hvalues, Table.erase_erase]
  next => exact absurd hitem (by simp)

end Json

/-! ## What was read is as received -/

/-- What a function leaves alone of all that is read and of the default, it leaves alone. -/
theorem Json.Record.fixed_of_withDefault {α : Type u} {record : Json.Record} {field : String}
    {read : Document → Option α} {default value : α} {f : α → α}
    (hvalue : record.withDefault field read default = some value)
    (hread : ∀ item, read item = some value → f value = value) (hdefault : f default = default) :
    f value = value := by
  unfold withDefault at hvalue
  split at hvalue
  next item _ => exact hread item hvalue
  next =>
    obtain rfl := Option.some.inj hvalue
    exact hdefault

theorem DataCenter.received_of_ofDocument? {depth : Nat} {item : Document} {center : DataCenter}
    (hitem : ofDocument? depth item = some center) : center.received = center := by
  simp only [ofDocument?, Option.bind_eq_bind, Option.bind_eq_some_iff, Option.pure_def,
    Option.some.injEq] at hitem
  obtain ⟨record, -, className, -, kind, -, metadata, hmetadata, rfl⟩ := hitem
  have herase : metadata.erase Document.classKey = metadata :=
    Json.Record.fixed_of_withDefault (f := fun texts => texts.erase Document.classKey) hmetadata
      (fun _ => Json.erase_of_textMap?) rfl
  rw [received, herase]

theorem Instance.received_of_ofDocument? {depth : Nat} {item : Document} {record : Instance}
    (hitem : ofDocument? depth item = some record) : record.received = record := by
  unfold ofDocument? at hitem
  -- Only the data center and the metadata are received with a difference.
  iterate 11 obtain ⟨_, -, hitem⟩ := Option.bind_eq_some_iff.mp hitem
  obtain ⟨center, hcenter, hitem⟩ := Option.bind_eq_some_iff.mp hitem
  obtain ⟨_, -, hitem⟩ := Option.bind_eq_some_iff.mp hitem
  obtain ⟨metadata, hmetadata, hitem⟩ := Option.bind_eq_some_iff.mp hitem
  iterate 11 obtain ⟨_, -, hitem⟩ := Option.bind_eq_some_iff.mp hitem
  obtain rfl := Option.some.inj hitem
  have hreceived : center.received = center :=
    Json.Record.fixed_of_withDefault hcenter (fun _ => DataCenter.received_of_ofDocument?) rfl
  have herase : metadata.erase Document.classKey = metadata :=
    Json.Record.fixed_of_withDefault (f := fun texts => texts.erase Document.classKey) hmetadata
      (fun _ => Json.erase_of_textMap?) rfl
  rw [received, hreceived, herase]

theorem Application.received_of_mapM {depth : Nat} {items : List Document}
    {records : List Instance} (hitems : items.mapM (Instance.ofDocument? depth) = some records) :
    records.map Instance.received = records := by
  induction items generalizing records with
  | nil =>
      obtain rfl : records = [] := by simpa using hitems.symm
      rfl
  | cons item rest ih =>
      rw [List.mapM_cons] at hitems
      obtain ⟨record, hrecord, hitems⟩ := Option.bind_eq_some_iff.mp hitems
      obtain ⟨others, hothers, hitems⟩ := Option.bind_eq_some_iff.mp hitems
      obtain rfl := Option.some.inj hitems
      rw [List.map_cons, Instance.received_of_ofDocument? hrecord, ih hothers]

theorem Application.received_of_instances? {depth : Nat} {item : Document}
    {records : List Instance} (hitem : instances? depth item = some records) :
    records.map Instance.received = records := by
  have hsingle : ∀ document : Document,
      ((Instance.ofDocument? Document.maxDepth document).map fun record => [record]) =
        some records → records.map Instance.received = records := by
    intro document hdocument
    obtain ⟨record, hrecord, rfl⟩ := Option.map_eq_some_iff.mp hdocument
    rw [List.map_singleton, Instance.received_of_ofDocument? hrecord]
  unfold instances? at hitem
  split at hitem
  next => exact absurd hitem (by simp)
  next =>
    split at hitem
    next =>
      obtain rfl := Option.some.inj hitem
      rfl
    next items =>
      rcases Option.or_eq_some_iff.mp hitem with hitems | ⟨-, hdocument⟩
      · exact received_of_mapM hitems
      · exact hsingle _ hdocument
    next => exact hsingle _ hitem

theorem Application.received_of_ofDocument? {depth : Nat} {item : Document} {app : Application}
    (hitem : ofDocument? depth item = some app) : app.received = app := by
  simp only [ofDocument?, Option.bind_eq_bind, Option.bind_eq_some_iff, Option.pure_def,
    Option.some.injEq] at hitem
  obtain ⟨record, -, name, -, instances, hinstances, rfl⟩ := hitem
  have hreceived : instances.map Instance.received = instances :=
    Json.Record.fixed_of_withDefault hinstances (fun _ => received_of_instances?) rfl
  rw [received, hreceived]

/-! ## Round trips -/

theorem Instance.decode?_of_spells {record : Instance} {form : Json} (hform : record.Spells form) :
    Json.decode? ofDocument? form.render = some record.received := by
  rw [(hform.readable 0).decode?, hform.read (by decide)]

theorem Application.decode?_of_spells {app : Application} {form : Json} (hform : app.Spells form) :
    Json.decode? ofDocument? form.render = some app.received := by
  rw [(hform.readable 0).decode?, hform.read (by decide)]

theorem Instance.decode?_toEnvelope (record : Instance) :
    Json.decode? ofEnvelope? record.toEnvelope.render = some record.received := by
  have hform : SpellsRecord [⟨["instance"], record.Spells, False⟩] record.toEnvelope :=
    Json.spellsRecord_envelope record.spells_toJson
  have hreadable : Readable 4 record.toEnvelope := by
    refine hform.readable ?_
    rw [List.forall_mem_singleton]
    exact fun _ hvalue => hvalue.readable 0
  have hdepth : 2 < Document.maxDepth - 1 := by decide
  rw [hreadable.decode?, ofEnvelope?]
  exact hform.read_envelope fun _ hvalue => hvalue.read hdepth

theorem Application.decode?_toEnvelope (app : Application) :
    Json.decode? ofEnvelope? app.toEnvelope.render = some app.received := by
  have hform : SpellsRecord [⟨["application"], app.Spells, False⟩] app.toEnvelope :=
    Json.spellsRecord_envelope app.spells_toJson
  have hreadable : Readable 6 app.toEnvelope := by
    refine hform.readable ?_
    rw [List.forall_mem_singleton]
    exact fun _ hvalue => hvalue.readable 0
  have hdepth : 4 < Document.maxDepth - 1 := by decide
  rw [hreadable.decode?, ofEnvelope?]
  exact hform.read_envelope fun _ hvalue => hvalue.read hdepth

theorem Instance.received_of_ofEnvelope? {depth : Nat} {item : Document} {record : Instance}
    (hitem : ofEnvelope? depth item = some record) : record.received = record := by
  obtain ⟨envelope, -, hcontent⟩ := Option.bind_eq_some_iff.mp hitem
  obtain ⟨content, -, hread⟩ := Option.bind_eq_some_iff.mp hcontent
  exact received_of_ofDocument? hread

theorem Application.received_of_ofEnvelope? {depth : Nat} {item : Document} {app : Application}
    (hitem : ofEnvelope? depth item = some app) : app.received = app := by
  obtain ⟨envelope, -, hcontent⟩ := Option.bind_eq_some_iff.mp hitem
  obtain ⟨content, -, hread⟩ := Option.bind_eq_some_iff.mp hcontent
  exact received_of_ofDocument? hread

/-- Records and applications survive being written and read, alone and in their envelopes, but for
class markers and the mark of unsent changes; and what was read is written and read as it is. -/
theorem roundTrip_wire :
    Json.RoundTrip Instance.toJson Instance.ofDocument? Instance.received ∧
      Json.RoundTrip Instance.toEnvelope Instance.ofEnvelope? Instance.received ∧
      Json.RoundTrip Application.toJson Application.ofDocument? Application.received ∧
      Json.RoundTrip Application.toEnvelope Application.ofEnvelope? Application.received := by
  refine ⟨.of_received ?_ ?_, .of_received ?_ ?_, .of_received ?_ ?_, .of_received ?_ ?_⟩
  · exact fun record => Instance.decode?_of_spells record.spells_toJson
  · exact fun _ _ _ => Instance.received_of_ofDocument?
  · exact Instance.decode?_toEnvelope
  · exact fun _ _ _ => Instance.received_of_ofEnvelope?
  · exact fun app => Application.decode?_of_spells app.spells_toJson
  · exact fun _ _ _ => Application.received_of_ofDocument?
  · exact Application.decode?_toEnvelope
  · exact fun _ _ _ => Application.received_of_ofEnvelope?

/-! ## Other spellings -/

/-- None of the maps of a record has an entry under the key of class markers. -/
def Instance.Unmarked (record : Instance) : Prop :=
  record.metadata.get? Document.classKey = none ∧
    record.dataCenter.metadata.get? Document.classKey = none

theorem Table.erase_eq_self {α : Type u} {table : Table α} {key : String}
    (hkey : table.get? key = none) : table.erase key = table := by
  refine Table.ext_get? fun other => ?_
  rw [Table.get?_erase]
  split
  next heq => rw [heq, hkey]
  next => rfl

theorem Instance.received_of_unmarked {record : Instance} (hrecord : record.Unmarked) :
    record.received = { record with dirty := false } := by
  rw [received, DataCenter.received, Table.erase_eq_self hrecord.1, Table.erase_eq_self hrecord.2]

/-- However a registry spells an application without class markers, it is received as it is, with
every change counted as sent. -/
theorem Application.decode?_spelling {app : Application} {form : Json}
    (hunmarked : ∀ record ∈ app.instances, record.Unmarked) (hform : app.Spells form) :
    Json.decode? ofDocument? form.render =
      some { app with
        instances := app.instances.map fun record => { record with dirty := false } } := by
  have hinstances : app.instances.map Instance.received =
      app.instances.map fun record => { record with dirty := false } :=
    List.map_congr_left fun record hmem => Instance.received_of_unmarked (hunmarked record hmem)
  rw [decode?_of_spells hform, received, hinstances]

/-- A record with a port and metadata. -/
def Instance.node : Instance :=
  { Instance.new "" "node-1" 0 with
    app := "CATALOG"
    port := ⟨8080, true⟩
    metadata := (∅ : Table String).insert "zone" "east" }

/-- A registry's own way to write the record: numbers and flags as padded words, a class marker, a
member that nobody knows, and most of what has its default value left out. -/
def Instance.nodeForm : Json :=
  .object
    [("instanceId", .string "node-1"),
     ("app", .string "CATALOG"),
     ("status", .string "UP"),
     ("overriddenStatus", .string "UNKNOWN"),
     ("port", .object [("$", .string " 8080\n"), ("@enabled", .string " true")]),
     ("metadata", .object [("zone", .string "east"), ("@class", .string "Collections")]),
     ("isCoordinatingDiscoveryServer", .bool false),
     ("sequence", .string "7")]

theorem Instance.spells_nodeForm : node.Spells nodeForm := by
  have hdigits : Integer.Spells (8080 : Int32).toInt "8080".toList :=
    .bare (by decide) (List.all_eq_true.mp (by decide)) (by decide)
  have hport : PortSetting.Spells ⟨8080, true⟩
      (.object [("$", .string " 8080\n"), ("@enabled", .string " true")]) :=
    .intro
      (.cons (.present List.mem_cons_self
        (.text hdigits ⟨[' '], ['\n'], List.all_eq_true.mp (by decide), by decide⟩)) <|
       .cons (.present List.mem_cons_self
        (.text ⟨[' '], [], List.all_eq_true.mp (by decide), by decide⟩)) .nil)
      (fun _ hmem => absurd hmem List.not_mem_nil) (.refl _)
  have hmarkers : Json.AreMarkers [("@class", .string "Collections")] :=
    List.forall_mem_singleton.mpr ⟨rfl, _, rfl⟩
  have hmetadata : Json.SpellsTexts ((∅ : Table String).insert "zone" "east")
      (.object [("zone", .string "east"), ("@class", .string "Collections")]) :=
    .object hmarkers (.refl _)
  have hparts : List.Forall₂ Json.Field.Part node.spelling _ :=
    .cons (.present List.mem_cons_self rfl) <|
    .cons (.absent rfl) <|
    .cons (.present List.mem_cons_self rfl) <|
    .cons (.absent rfl) <|
    .cons (.present List.mem_cons_self rfl) <|
    .cons (.present (List.mem_cons_of_mem _ List.mem_cons_self) rfl) <|
    .cons (.present List.mem_cons_self hport) <|
    .cons (.absent rfl) <|
    .cons (.absent rfl) <|
    .cons (.absent rfl) <|
    .cons (.absent rfl) <|
    .cons (.present List.mem_cons_self hmetadata) <|
    .cons (.present List.mem_cons_self .bool) <|
    .cons (.absent rfl) <|
    .cons (.absent rfl) <|
    .cons (.absent rfl) <|
    .cons (.absent rfl) <|
    .cons (.absent rfl) <|
    .cons (.absent rfl) <|
    .cons (.absent rfl) <|
    .cons (.absent rfl) <|
    .cons (.absent rfl) <|
    .cons (.absent rfl) <|
    .cons (.absent rfl) .nil
  have hextra : ∀ entry ∈ [("sequence", Json.string "7")],
      entry.1 ∉ node.spelling.flatMap Json.Field.keys ∧ ∃ text, entry.2 = .string text :=
    List.forall_mem_singleton.mpr ⟨by decide, _, rfl⟩
  exact .intro hparts hextra (.refl _)

/-- An application whose only instance stands for the list of instances. -/
theorem Application.spells_node :
    Spells ⟨"CATALOG", [Instance.node]⟩
      (.object [("instance", Instance.nodeForm), ("name", .string "CATALOG")]) :=
  .intro
    (.cons (.present List.mem_cons_self rfl) <|
     .cons (.present List.mem_cons_self (.single Instance.spells_nodeForm)) .nil)
    (fun _ hmem => absurd hmem List.not_mem_nil) (.swap _ _ _)

theorem Application.decode?_spelling_node :
    (∀ record ∈ [Instance.node], record.Unmarked) ∧
      Spells ⟨"CATALOG", [Instance.node]⟩
        (.object [("instance", Instance.nodeForm), ("name", .string "CATALOG")]) ∧
      Json.decode? ofDocument?
          (Json.object [("instance", Instance.nodeForm), ("name", .string "CATALOG")]).render =
        some ⟨"CATALOG", [Instance.node]⟩ := by
  have hunmarked : ∀ record ∈ [Instance.node], record.Unmarked :=
    List.forall_mem_singleton.mpr ⟨by decide, by decide⟩
  exact ⟨hunmarked, spells_node, decode?_spelling hunmarked spells_node⟩

/-- The mark of unsent changes is not sent: an application with a changed record comes back as
another one. -/
theorem Application.decode?_toJson_ne_of_changed :
    (∀ record ∈ [Instance.node.markDirty 5], record.Unmarked) ∧
      Spells ⟨"CATALOG", [Instance.node.markDirty 5]⟩
        (toJson ⟨"CATALOG", [Instance.node.markDirty 5]⟩) ∧
      Json.decode? ofDocument?
          (toJson ⟨"CATALOG", [Instance.node.markDirty 5]⟩).render ≠
        some ⟨"CATALOG", [Instance.node.markDirty 5]⟩ := by
  have hunmarked : ∀ record ∈ [Instance.node.markDirty 5], record.Unmarked :=
    List.forall_mem_singleton.mpr ⟨by decide, by decide⟩
  refine ⟨hunmarked, spells_toJson _, fun hsame => ?_⟩
  rw [decode?_of_spells (spells_toJson _)] at hsame
  have hdirty := congrArg (·.instances.map Instance.dirty) (Option.some.inj hsame)
  exact absurd hdirty (by decide)

end MemberDiscovery
