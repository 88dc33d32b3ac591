import Mathlib.Data.List.Forall2
import Mathlib.Data.List.Nodup
import Mathlib.Data.List.Perm.Basic
import MemberDiscovery.Json.Record
import MemberDiscovery.Proofs.Json.Writing

/-! # Objects that spell a record

What an object may look like that stands for a record: every field under one of its keys and with
one of its values, or left out where that is allowed, beside members of other keys, and all of it in
any order (`Json.SpellsRecord`). Whatever the fields are, such an object is read as a record in
which every field has the value that was written (`Json.SpellsRecord.exists_record`).
-/

namespace MemberDiscovery.Json

/-- What may stand for one field of a record. -/
structure Field where
  keys : List String
  Spells : Json → Prop
  /-- Whether it may be left out. -/
  MayMiss : Prop

namespace Field

/-- The members of an object that belong to a field. -/
inductive Part (field : Field) : List (String × Json) → Prop where
  | present {key : String} {value : Json} (hkey : key ∈ field.keys)
      (hvalue : field.Spells value) : Part field [(key, value)]
  | absent (hmiss : field.MayMiss) : Part field []

/-- The key under which a record keeps the field. -/
def name (field : Field) : String :=
  field.keys.headD ""

/-- A record has the field with one of its values, or the field may miss and does. -/
def IsRead (record : Record) (field : Field) : Prop :=
  (∃ value, field.Spells value ∧ record.lookup field.name = some (.ofJson value)) ∨
    (field.MayMiss ∧ record.lookup field.name = none)

end Field

/-- Objects with one part for each field and any members under other keys that hold texts, in any
order. -/
inductive SpellsRecord (fields : List Field) : Json → Prop where
  | intro {parts : List (List (String × Json))} {extra members : List (String × Json)}
      (hparts : List.Forall₂ Field.Part fields parts)
      (hextra : ∀ entry ∈ extra,
        entry.1 ∉ fields.flatMap Field.keys ∧ ∃ text, entry.2 = .string text)
      (hmembers : members.Perm (parts.flatten ++ extra)) : SpellsRecord fields (.object members)

theorem exists_of_mem_right {α : Type u} {β : Type v} {R : α → β → Prop} {left : List α}
    {right : List β} (hall : List.Forall₂ R left right) {b : β} (hmem : b ∈ right) :
    ∃ a ∈ left, R a b := by
  induction hall with
  | nil => exact absurd hmem List.not_mem_nil
  | cons hfirst _ ih =>
      rcases List.mem_cons.mp hmem with rfl | hmem
      · exact ⟨_, List.mem_cons_self, hfirst⟩
      · obtain ⟨a, ha, hab⟩ := ih hmem
        exact ⟨a, List.mem_cons_of_mem _ ha, hab⟩

/-! ## Values that can be read back -/

/-- The text of the value is read back as a value of at most `depth` levels. -/
def Readable (depth : Nat) (value : Json) : Prop :=
  Whole value ∧ ((Document.ofJson value).toJson? depth).isSome

section Readable

variable {depth : Nat}

theorem readable_null : Readable depth .null := by
  simp [Readable, Whole, Document.ofJson, Document.toJson?]

theorem readable_bool (value : Bool) : Readable depth (.bool value) := by
  simp [Readable, Whole, Document.ofJson, Document.toJson?]

theorem readable_string (text : String) : Readable depth (.string text) := by
  simp [Readable, Whole, Document.ofJson, Document.toJson?]

theorem readable_int {value : Int} (hlower : Integer.minInt64 ≤ value)
    (hupper : value ≤ Integer.maxInt64) : Readable depth (.int value) := by
  have hwhole : value ≤ (Integer.maxUInt64 : Int) := Int.le_trans hupper (by decide)
  simp [Readable, Whole, int, Document.ofJson, Document.toJson?, hlower, hwhole]

theorem isSome_toItems? {items : List Json}
    (hitems : ∀ item ∈ items, ((Document.ofJson item).toJson? depth).isSome) :
    (Document.toItems? depth (Document.ofItems items)).isSome := by
  induction items with
  | nil => rfl
  | cons item rest ih =>
      obtain ⟨value, hvalue⟩ := Option.isSome_iff_exists.mp (hitems item List.mem_cons_self)
      obtain ⟨values, hvalues⟩ := Option.isSome_iff_exists.mp
        (ih fun other hmem => hitems other (List.mem_cons_of_mem _ hmem))
      simp [Document.ofItems, Document.toItems?, hvalue, hvalues]

theorem isSome_toMembers? {members : List (String × Json)}
    (hmembers : ∀ entry ∈ members, ((Document.ofJson entry.2).toJson? depth).isSome) :
    (Document.toMembers? depth (Document.ofMembers members)).isSome := by
  induction members with
  | nil => rfl
  | cons entry rest ih =>
      obtain ⟨value, hvalue⟩ := Option.isSome_iff_exists.mp (hmembers entry List.mem_cons_self)
      obtain ⟨values, hvalues⟩ := Option.isSome_iff_exists.mp
        (ih fun other hmem => hmembers other (List.mem_cons_of_mem _ hmem))
      simp [Document.ofMembers, Document.toMembers?, hvalue, hvalues]

theorem readable_array {items : List Json} (hitems : ∀ item ∈ items, Readable depth item) :
    Readable (depth + 1) (.array items) := by
  refine ⟨wholeItems_iff.mpr fun item hmem => (hitems item hmem).1, ?_⟩
  simpa [Document.ofJson, Document.toJson?] using
    isSome_toItems? fun item hmem => (hitems item hmem).2

theorem readable_object {members : List (String × Json)}
    (hmembers : ∀ entry ∈ members, Readable depth entry.2) :
    Readable (depth + 1) (.object members) := by
  refine ⟨wholeMembers_iff.mpr fun entry hmem => (hmembers entry hmem).1, ?_⟩
  simpa [Document.ofJson, Document.toJson?] using
    isSome_toMembers? fun entry hmem => (hmembers entry hmem).2

theorem SpellsRecord.readable {fields : List Field} {form : Json} (hform : SpellsRecord fields form)
    (hfields : ∀ field ∈ fields, ∀ value, field.Spells value → Readable depth value) :
    Readable (depth + 1) form := by
  obtain ⟨hparts, hextra, hmembers⟩ := hform
  refine readable_object fun entry hmem => ?_
  rcases List.mem_append.mp (hmembers.mem_iff.mp hmem) with hpart | hother
  · obtain ⟨part, hpart, hentry⟩ := List.mem_flatten.mp hpart
    obtain ⟨field, hfield, hspelled⟩ := exists_of_mem_right hparts hpart
    cases hspelled with
    | present hkey hvalue =>
        obtain rfl := List.mem_singleton.mp hentry
        exact hfields field hfield _ hvalue
    | absent hmiss => exact absurd hentry List.not_mem_nil
  · obtain ⟨-, text, htext⟩ := hextra entry hother
    rw [htext]
    exact readable_string text

end Readable

/-! ## Reading a record -/

theorem ofMembers_eq_map (members : List (String × Json)) :
    Document.ofMembers members =
      members.map fun entry => (some entry.1, Document.ofJson entry.2) := by
  induction members with
  | nil => rfl
  | cons entry rest ih => rw [Document.ofMembers, ih, List.map_cons]

/-- What a part of an object says about its field. -/
def partValue (part : List (String × Json)) : Option Document :=
  part.head?.map fun entry => .ofJson entry.2

namespace Record

theorem member?_of_filter {members part : List (String × Json)} {keys : List String}
    (hfilter : (members.filter fun entry => keys.contains entry.1) = part)
    (hpart : part.length ≤ 1) :
    member? (Document.ofMembers members) keys = some (partValue part) := by
  have hmap : (Document.ofMembers members).filter (fun entry => entry.1.any keys.contains) =
      part.map fun entry => (some entry.1, Document.ofJson entry.2) := by
    rw [ofMembers_eq_map, List.filter_map, ← hfilter]
    rfl
  rw [member?, hmap]
  match part, hpart with
  | [], _ => rfl
  | [_], _ => rfl

/-- All fields are looked up if each is given at most once. -/
theorem exists_ofMembers? {members : List (Option String × Document)} {fields : List (List String)}
    {found : List String → Option Document}
    (hfound : ∀ keys ∈ fields, member? members keys = some (found keys))
    (hnames : (fields.map (·.headD "")).Nodup) :
    ∃ record, ofMembers? members fields = some record ∧
      (∀ entry ∈ record, entry.1 ∈ fields.map (·.headD "")) ∧
      ∀ keys ∈ fields, record.lookup (keys.headD "") = found keys := by
  induction fields with
  | nil => exact ⟨[], rfl, by simp, by simp⟩
  | cons keys rest ih =>
      obtain ⟨hnot, hrest⟩ :
          keys.headD "" ∉ rest.map (·.headD "") ∧ (rest.map (·.headD "")).Nodup :=
        List.nodup_cons.mp hnames
      obtain ⟨record, hrecord, hkeys, hlookup⟩ :=
        ih (fun other hmem => hfound other (List.mem_cons_of_mem _ hmem)) hrest
      have hhead := hfound keys List.mem_cons_self
      have hother : ∀ other ∈ rest, other.headD "" ≠ keys.headD "" := fun other hmem heq =>
        hnot (List.mem_map.mpr ⟨other, hmem, heq⟩)
      cases hvalue : found keys with
      | none =>
          refine ⟨record, by simp [ofMembers?, hhead, hvalue, hrecord], fun entry hmem =>
            List.mem_cons_of_mem _ (hkeys entry hmem), fun other hmem => ?_⟩
          rcases List.mem_cons.mp hmem with rfl | hmem
          · rw [hvalue, List.lookup_eq_none_iff]
            intro entry hentry
            have hne : other.headD "" ≠ entry.1 := by
              intro heq
              rw [heq] at hnot
              exact hnot (hkeys entry hentry)
            simpa using hne
          · exact hlookup other hmem
      | some item =>
          refine ⟨(keys.headD "", item) :: record, by simp [ofMembers?, hhead, hvalue, hrecord],
            fun entry hmem => ?_, fun other hmem => ?_⟩
          · rcases List.mem_cons.mp hmem with rfl | hmem
            · exact List.mem_cons_self
            · exact List.mem_cons_of_mem _ (hkeys entry hmem)
          · rcases List.mem_cons.mp hmem with rfl | hmem
            · rw [List.lookup_cons_self, hvalue]
            · rw [List.lookup_cons, beq_false_of_ne (hother other hmem)]
              exact hlookup other hmem

end Record

theorem Field.Part.length_le_one {field : Field} {part : List (String × Json)}
    (hpart : field.Part part) : part.length ≤ 1 := by
  cases hpart <;> simp

theorem Field.Part.key_mem {field : Field} {part : List (String × Json)} (hpart : field.Part part)
    {entry : String × Json} (hmem : entry ∈ part) : entry.1 ∈ field.keys := by
  cases hpart with
  | present hkey hvalue =>
      obtain rfl := List.mem_singleton.mp hmem
      exact hkey
  | absent hmiss => exact absurd hmem List.not_mem_nil

/-- Among the parts of all fields the keys of one field select its own part. -/
theorem exists_part {fields : List Field} {parts : List (List (String × Json))}
    (hparts : List.Forall₂ Field.Part fields parts) (hkeys : (fields.flatMap Field.keys).Nodup)
    {field : Field} (hfield : field ∈ fields) :
    ∃ part, field.Part part ∧
      (parts.flatten.filter fun entry => field.keys.contains entry.1) = part := by
  induction hparts with
  | nil => exact absurd hfield List.not_mem_nil
  | @cons first part others parts hfirst hothers ih =>
      rw [List.flatMap_cons] at hkeys
      obtain ⟨-, hrest, hdisjoint⟩ := List.nodup_append'.mp hkeys
      rw [List.flatten_cons]
      rcases List.mem_cons.mp hfield with rfl | hmem
      · refine ⟨part, hfirst, ?_⟩
        have hown : ∀ entry ∈ part, field.keys.contains entry.1 = true := fun entry hentry =>
          List.contains_iff_mem.mpr (hfirst.key_mem hentry)
        have hforeign : ∀ entry ∈ parts.flatten, ¬ field.keys.contains entry.1 = true := by
          intro entry hentry hcontains
          obtain ⟨other, hother, hentry⟩ := List.mem_flatten.mp hentry
          obtain ⟨owner, howner, hpart⟩ := exists_of_mem_right hothers hother
          exact hdisjoint (List.contains_iff_mem.mp hcontains)
            (List.mem_flatMap.mpr ⟨owner, howner, hpart.key_mem hentry⟩)
        rw [List.filter_append, List.filter_eq_self.mpr hown, List.filter_eq_nil_iff.mpr hforeign,
          List.append_nil]
      · obtain ⟨own, hown, hfilter⟩ := ih hrest hmem
        refine ⟨own, hown, ?_⟩
        have hforeign : ∀ entry ∈ part, ¬ field.keys.contains entry.1 = true := by
          intro entry hentry hcontains
          exact hdisjoint (hfirst.key_mem hentry)
            (List.mem_flatMap.mpr ⟨field, hmem, List.contains_iff_mem.mp hcontains⟩)
        rw [List.filter_append, List.filter_eq_nil_iff.mpr hforeign, hfilter, List.nil_append]

/-- An object that spells a record is read, and each field has what was written for it. -/
theorem SpellsRecord.exists_record {fields : List Field} {form : Json}
    (hform : SpellsRecord fields form) {spellings : List (List String)}
    (hspellings : spellings.Perm (fields.map Field.keys)) (hkeys : spellings.flatten.Nodup)
    (hnames : (spellings.map (·.headD "")).Nodup) :
    ∃ record, Record.ofDocument? spellings (.ofJson form) = some record ∧
      ∀ field ∈ fields, field.IsRead record := by
  rw [hspellings.flatten.nodup_iff, ← List.flatMap_def] at hkeys
  obtain @⟨parts, extra, members, hparts, hextra, hmembers⟩ := hform
  have hpart : ∀ field ∈ fields, ∃ part, field.Part part ∧
      (members.filter fun entry => field.keys.contains entry.1) = part := by
    intro field hfield
    obtain ⟨part, hpart, hfilter⟩ := exists_part hparts hkeys hfield
    have hforeign : ∀ entry ∈ extra, ¬ field.keys.contains entry.1 = true := by
      intro entry hentry hcontains
      exact (hextra entry hentry).1
        (List.mem_flatMap.mpr ⟨field, hfield, List.contains_iff_mem.mp hcontains⟩)
    have hperm := hmembers.filter fun entry => field.keys.contains entry.1
    rw [List.filter_append, hfilter, List.filter_eq_nil_iff.mpr hforeign, List.append_nil] at hperm
    refine ⟨part, hpart, ?_⟩
    cases hpart with
    | present hkey hvalue => exact List.perm_singleton.mp hperm
    | absent hmiss => exact List.perm_nil.mp hperm
  -- What is found for a field depends on its keys only.
  let found (keys : List String) : Option Document :=
    partValue (members.filter fun entry => keys.contains entry.1)
  have hfound : ∀ keys ∈ spellings,
      Record.member? (Document.ofMembers members) keys = some (found keys) := by
    intro keys hmem
    obtain ⟨field, hfield, rfl⟩ := List.mem_map.mp (hspellings.mem_iff.mp hmem)
    obtain ⟨part, hpart, hfilter⟩ := hpart field hfield
    exact Record.member?_of_filter rfl (hfilter ▸ hpart.length_le_one)
  obtain ⟨record, hrecord, -, hlookup⟩ := Record.exists_ofMembers? hfound hnames
  refine ⟨record, ?_, fun field hfield => ?_⟩
  · have hall : (Document.ofMembers members).all (·.1.isSome) = true := by
      rw [ofMembers_eq_map, List.all_map]
      exact List.all_eq_true.mpr fun _ _ => rfl
    rw [Document.ofJson, Record.ofDocument?, if_pos hall, hrecord]
  · obtain ⟨part, hpart, hfilter⟩ := hpart field hfield
    have hvalue := hlookup field.keys
      (hspellings.mem_iff.mpr (List.mem_map_of_mem hfield))
    rw [show found field.keys = partValue part from congrArg partValue hfilter] at hvalue
    cases hpart with
    | present hkey hspelled => exact Or.inl ⟨_, hspelled, hvalue⟩
    | absent hmiss => exact Or.inr ⟨hmiss, hvalue⟩

section Values

variable {α : Type u} {β : Type v} {record : Record} {field : Field}
  {read : Document → Option α} {result : α} {next : α → Option β} {outcome : β}

/-- A field is read as the one result that all its values have, also if it misses, and reading goes
on with that. -/
theorem Field.IsRead.bind_withDefault {default : α} (hread : field.IsRead record)
    (hvalues : ∀ value, field.Spells value → read (.ofJson value) = some result)
    (hmiss : field.MayMiss → default = result) (hnext : next result = some outcome) :
    (record.withDefault field.name read default).bind next = some outcome := by
  rcases hread with ⟨value, hspelled, hlookup⟩ | ⟨hmay, hlookup⟩
  · rw [Record.withDefault, hlookup]
    simp only [hvalues value hspelled, Option.bind_some, hnext]
  · rw [Record.withDefault, hlookup, hmiss hmay]
    exact hnext

theorem Field.IsRead.bind_required (hread : field.IsRead record)
    (hvalues : ∀ value, field.Spells value → read (.ofJson value) = some result)
    (hmiss : ¬ field.MayMiss) (hnext : next result = some outcome) :
    (record.required field.name read).bind next = some outcome := by
  rcases hread with ⟨value, hspelled, hlookup⟩ | ⟨hmay, -⟩
  · rw [Record.required, hlookup, Option.bind_some, hvalues value hspelled]
    exact hnext
  · exact absurd hmay hmiss

end Values

/-! ## The usual form -/

theorem pairwise_keys_flatten {fields : List Field} {parts : List (List (String × Json))}
    (hparts : List.Forall₂ Field.Part fields parts) (hkeys : (fields.flatMap Field.keys).Nodup) :
    parts.flatten.Pairwise fun a b => a.1 ≠ b.1 := by
  induction hparts with
  | nil => exact List.Pairwise.nil
  | @cons first part others parts hfirst hothers ih =>
      rw [List.flatMap_cons] at hkeys
      obtain ⟨-, hrest, hdisjoint⟩ := List.nodup_append'.mp hkeys
      rw [List.flatten_cons]
      refine List.pairwise_append.mpr ⟨?_, ih hrest, fun a ha b hb heq => ?_⟩
      · cases hfirst with
        | present hkey hvalue => exact List.pairwise_singleton _ _
        | absent hmiss => exact List.Pairwise.nil
      · obtain ⟨part, hpart, hb⟩ := List.mem_flatten.mp hb
        obtain ⟨field, hfield, howner⟩ := exists_of_mem_right hothers hpart
        refine hdisjoint (hfirst.key_mem ha) (List.mem_flatMap.mpr ⟨field, hfield, ?_⟩)
        rw [heq]
        exact howner.key_mem hb

/-- The object that is built of one part for each field spells the record. -/
theorem spellsRecord_ofMembers {fields : List Field} {parts : List (List (String × Json))}
    (hparts : List.Forall₂ Field.Part fields parts) {spellings : List (List String)}
    (hspellings : spellings.Perm (fields.map Field.keys)) (hkeys : spellings.flatten.Nodup)
    {members : List (String × Json)} (hmembers : members = parts.flatten) :
    SpellsRecord fields (.ofMembers members) := by
  rw [hspellings.flatten.nodup_iff, ← List.flatMap_def] at hkeys
  refine .intro hparts (fun _ hmem => absurd hmem List.not_mem_nil) ?_
  rw [List.append_nil, hmembers]
  exact Table.entries_ofList_perm (pairwise_keys_flatten hparts hkeys)

end MemberDiscovery.Json
