import Mathlib.Data.List.Induction
import MemberDiscovery.Proofs.Registry.OrderedMap

/-! # Applications built record by record

An application is built from the empty one by adding and removing records. The id of a record is its
instance id or, without one, its host name, so an id may be shared by records that are otherwise
different. A step changes what is found under one id (`ApplicationStep.find?_after`), and therefore
an application is at any time an ordered map by id (`Application.build_ordered_by_id`): under each
id stands the record that was added last, unless it was removed since.
-/

namespace MemberDiscovery

/-- What is done with an application. -/
inductive ApplicationStep where
  | add (record : Instance)
  | remove (id : String)
  deriving DecidableEq, Repr

namespace ApplicationStep

def after (app : Application) : ApplicationStep → Application
  | .add record => app.add record
  | .remove id => (app.remove id).2

/-- The id that a step is about. -/
def id : ApplicationStep → String
  | .add record => record.id
  | .remove id => id

/-- What a step leaves under its id. -/
def left : ApplicationStep → Option Instance
  | .add record => some record
  | .remove _ => none

theorem nodup_ids_after {app : Application} (hdistinct : app.ids.Nodup) (step : ApplicationStep) :
    (step.after app).ids.Nodup := by
  cases step with
  | add record => exact Application.nodup_ids_add hdistinct record
  | remove id => exact Application.nodup_ids_remove hdistinct id

end ApplicationStep

namespace Application

theorem find?_add (app : Application) (record : Instance) (id : String) :
    (app.add record).find? id = if id = record.id then some record else app.find? id := by
  by_cases hid : id = record.id
  · subst hid
    rw [if_pos rfl, find?, ← List.head?_filter]
    simp only [add, filter_addTo_id, List.head?_cons]
  · rw [if_neg hid, find?, find?, ← List.head?_filter, ← List.head?_filter, add,
      filter_addTo_of_ne _ _ hid]

/-- What is removed is not found any more, for no other record has its id. -/
theorem find?_remove {app : Application} (hdistinct : app.ids.Nodup) (removed id : String) :
    (app.remove removed).2.find? id = if id = removed then none else app.find? id := by
  have hinstances : (app.remove removed).2.instances = app.instances.filter (·.id ≠ removed) :=
    eraseP_eq_filter hdistinct removed
  by_cases hid : id = removed
  · subst hid
    rw [if_pos rfl, find?, hinstances]
    simp
  · rw [if_neg hid, find?, find?, ← List.head?_filter, ← List.head?_filter, remove,
      filter_eraseP_of_ne _ hid]

end Application

/-- A step changes what is found under its id, and under no other. -/
theorem ApplicationStep.find?_after {app : Application} (hdistinct : app.ids.Nodup)
    (step : ApplicationStep) (id : String) :
    (step.after app).find? id = if id = step.id then step.left else app.find? id := by
  cases step with
  | add record => exact app.find?_add record id
  | remove removed => exact Application.find?_remove hdistinct removed id

namespace Application

/-- The application with a name after steps from the empty one. -/
def build (name : String) (steps : List ApplicationStep) : Application :=
  steps.foldl ApplicationStep.after (.new name)

/-- The record is the last one that was added with an id, and the id was not removed since. -/
def LastAdded (steps : List ApplicationStep) (id : String) (record : Instance) : Prop :=
  ∃ earlier later, steps = earlier ++ .add record :: later ∧ record.id = id ∧
    ∀ step ∈ later, step.id ≠ id

theorem not_lastAdded_nil (id : String) (record : Instance) : ¬ LastAdded [] id record := by
  rintro ⟨earlier, later, heq, -⟩
  simp at heq

theorem lastAdded_concat_iff {steps : List ApplicationStep} {step : ApplicationStep} {id : String}
    {record : Instance} :
    LastAdded (steps ++ [step]) id record ↔
      if id = step.id then step.left = some record else LastAdded steps id record := by
  constructor
  · rintro ⟨earlier, later, heq, rfl, hlater⟩
    cases later using List.reverseRecOn with
    | nil =>
        obtain ⟨-, hlast⟩ := List.append_inj' heq rfl
        obtain rfl : step = .add record := by simpa using hlast
        exact (if_pos rfl).mpr rfl
    | append_singleton between last =>
        rw [← List.cons_append, ← List.append_assoc] at heq
        obtain ⟨rfl, hlast⟩ := List.append_inj' heq rfl
        obtain rfl : step = last := by simpa using hlast
        rw [if_neg (hlater step (by simp)).symm]
        exact ⟨earlier, between, rfl, rfl, fun other hother =>
          hlater other (List.mem_append_left _ hother)⟩
  · intro h
    split at h
    next hid =>
      cases step with
      | add added =>
          obtain rfl : added = record := by simpa [ApplicationStep.left] using h
          exact ⟨steps, [], rfl, hid.symm, by simp⟩
      | remove removed => cases h
    next hid =>
      obtain ⟨earlier, later, rfl, hrecord, hlater⟩ := h
      refine ⟨earlier, later ++ [step], by simp, hrecord, ?_⟩
      intro other hother
      rcases List.mem_append.mp hother with hmem | hmem
      · exact hlater other hmem
      · rw [List.mem_singleton.mp hmem]
        exact Ne.symm hid

variable (name : String) (steps : List ApplicationStep)

theorem nodup_ids_build : (build name steps).ids.Nodup := by
  have hall : ∀ {app : Application}, app.ids.Nodup →
      (steps.foldl ApplicationStep.after app).ids.Nodup := by
    induction steps with
    | nil => exact fun hdistinct => hdistinct
    | cons step rest ih => exact fun hdistinct => ih (step.nodup_ids_after hdistinct)
  exact hall List.nodup_nil

theorem build_concat (step : ApplicationStep) :
    build name (steps ++ [step]) = step.after (build name steps) := by
  simp [build]

theorem find?_build_iff {id : String} {record : Instance} :
    (build name steps).find? id = some record ↔ LastAdded steps id record := by
  induction steps using List.reverseRecOn with
  | nil => exact iff_of_false nofun (not_lastAdded_nil id record)
  | append_singleton steps step ih =>
      rw [build_concat, step.find?_after (nodup_ids_build name steps), lastAdded_concat_iff]
      split
      next => rfl
      next => exact ih

/-- An application is an ordered map by id, however it was built: no id occurs twice, under an id
stands the record that was added last unless it was removed since, and removing and adding a record
leave all records with other ids as they are and in their order. -/
theorem build_ordered_by_id :
    (build name steps).ids.Nodup ∧
    (∀ id record, (build name steps).find? id = some record ↔ LastAdded steps id record) ∧
    (∀ id, (∀ record, ((build name steps).remove id).1 = some record ↔ LastAdded steps id record) ∧
      id ∉ ((build name steps).remove id).2.ids ∧
      ((build name steps).remove id).2.instances =
        (build name steps).instances.filter (·.id ≠ id)) ∧
    ∀ record,
      ((build name steps).add record).ids =
        (if record.id ∈ (build name steps).ids then (build name steps).ids
        else (build name steps).ids ++ [record.id]) ∧
      ((build name steps).add record).find? record.id = some record ∧
      ((build name steps).add record).instances.filter (·.id ≠ record.id) =
        (build name steps).instances.filter (·.id ≠ record.id) := by
  have hdistinct := nodup_ids_build name steps
  refine ⟨hdistinct, fun _ _ => find?_build_iff name steps, ?_, ?_⟩
  · intro id
    have hinstances := eraseP_eq_filter hdistinct id
    refine ⟨fun _ => find?_build_iff name steps, ?_, hinstances⟩
    rw [ids, remove, hinstances]
    simp
  · intro record
    refine ⟨map_id_addTo record _, ?_, ?_⟩
    · rw [find?_add, if_pos rfl]
    · exact filter_addTo (p := fun id => id ≠ record.id) (by simp) _

/-- A record without an instance id takes the place of the one with its host name as instance id. -/
example :
    let named := Instance.new "app" "node-1" 0
    let unnamed := { Instance.new "app" "" 0 with hostName := "node-1" }
    (build "app" [.add named, .add (.new "app" "node-2" 0), .add unnamed]).instances =
      [unnamed, .new "app" "node-2" 0] := by
  decide +kernel

end Application

end MemberDiscovery
