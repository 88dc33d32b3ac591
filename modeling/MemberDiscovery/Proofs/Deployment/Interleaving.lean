import Mathlib.Logic.Function.Basic
import MemberDiscovery.Proofs.Deployment.CallStages

/-! # Calls beside the end of a client

Some callers renew the lease of a client or set the status of its record while another one ends the
client, and their stages come in any order. The end of the client does not wait for callers that
have seen it alive. So the registry has a copy of the record in the end if it kept one when the
record was taken back, or if such a caller was still going to make a request then
(`Interleaving.copies_after_end_iff`).
-/

namespace MemberDiscovery

/-! ## One stage -/

/-- What is said of a client's registry and record as long as no request fails. -/
structure SharedClient.Of (app id : String) (shared : SharedClient) : Prop where
  app : shared.manager.record.app = app
  id : shared.manager.record.id = id
  failures : shared.registry.failures = []
  distinct : shared.registry.Distinct

namespace CallStage

/-- The record that a call has taken. -/
def record? : CallStage → Option Instance
  | .heartbeat record | .publish record | .confirm record | .cancel record => some record
  | _ => none

/-- A call that has taken a record has taken that of an application with an id. -/
def Of (app id : String) (stage : CallStage) : Prop :=
  ∀ record, stage.record? = some record → record.app = app ∧ record.id = id

/-- The call has seen the client alive, and is going to make a request that may send the record. -/
def IsArmed : CallStage → Prop
  | .takeHeartbeat | .heartbeat _ | .take | .publish _ => True
  | _ => False

/-- The call has not begun and is not going to end the client, or there is none. -/
def IsFresh : CallStage → Prop
  | .renew | .setStatus _ | .returned _ => True
  | _ => False

def HasReturned : CallStage → Prop
  | .returned _ => True
  | _ => False

instance : DecidablePred HasReturned
  | .returned _ => .isTrue trivial
  | .renew | .takeHeartbeat | .heartbeat _ | .take | .publish _ | .confirm _ | .setStatus _
  | .tell | .push | .shutDown | .unlisten | .takeCancellation | .cancel _ => .isFalse id

/-- The call is about to end the client. -/
def IsEnding : CallStage → Prop
  | .shutDown | .unlisten | .takeCancellation | .cancel _ => True
  | _ => False

variable {app id : String} {number : Nat} {now : Timestamp} {stage : CallStage}
  {shared : SharedClient}

theorem IsFresh.of (hfresh : stage.IsFresh) (app id : String) : stage.Of app id := by
  intro record hrecord
  cases stage <;> first | exact hfresh.elim | cases hrecord

theorem IsFresh.not_isEnding (hfresh : stage.IsFresh) : ¬ stage.IsEnding := by
  cases stage <;> first | exact hfresh.elim | exact id

theorem HasReturned.isFresh (hreturned : stage.HasReturned) : stage.IsFresh := by
  cases stage <;> first | exact hreturned.elim | trivial

theorem HasReturned.not_isArmed (hreturned : stage.HasReturned) : ¬ stage.IsArmed := by
  cases stage <;> first | exact hreturned.elim | exact id

/-- A call keeps the record that it has taken, or takes the present one. -/
theorem Of.step (hstage : stage.Of app id) (hshared : shared.Of app id) :
    (stage.step number now shared).1.Of app id := by
  have hrecord : (stage.step number now shared).1.record? = none ∨
      (stage.step number now shared).1.record? = stage.record? ∨
      (stage.step number now shared).1.record? = some shared.manager.record := by
    cases stage <;> simp only [CallStage.step] <;> (try split) <;> simp [record?]
  intro record hnext
  rcases hrecord with hnone | hsame | htaken
  · rw [hnone] at hnext
    cases hnext
  · exact hstage record (hsame ▸ hnext)
  · rw [htaken] at hnext
    cases hnext
    exact ⟨hshared.app, hshared.id⟩

end CallStage

namespace SharedClient.Of

variable {app id : String} {shared : SharedClient}

theorem accept {α : Type} (hshared : shared.Of app id) (now : Timestamp) (request : Request α) :
    ({ shared with registry := (shared.registry.accept now request).2 } : SharedClient).Of app
      id := by
  have hdistinct := hshared.distinct.submit now request
  rw [Registry.submit_of_failures_eq_nil now request hshared.failures] at hdistinct
  exact ⟨hshared.app, hshared.id, rfl, hdistinct⟩

theorem change (hshared : shared.Of app id) {manager : InstanceManager}
    (happ : manager.record.app = shared.manager.record.app)
    (hid : manager.record.id = shared.manager.record.id) :
    ({ shared with manager } : SharedClient).Of app id :=
  ⟨happ.trans hshared.app, hid.trans hshared.id, hshared.failures, hshared.distinct⟩

theorem step (hshared : shared.Of app id) (number : Nat) (now : Timestamp) (stage : CallStage) :
    (stage.step number now shared).2.Of app id := by
  cases stage with
  | renew | tell | push =>
      simp only [CallStage.step]
      split <;> exact hshared
  | heartbeat record =>
      rw [CallStage.step_heartbeat hshared.failures]
      exact hshared.accept now _
  | publish record =>
      rw [CallStage.step_publish hshared.failures]
      exact hshared.accept now _
  | cancel record =>
      rw [CallStage.step_cancel hshared.failures]
      exact hshared.accept now _
  | confirm record =>
      refine hshared.change ?_ ?_ <;>
        · simp only [InstanceManager.clearDirty, Instance.clearDirty]
          split <;> rfl
  | setStatus status =>
      have hset := hshared.change (shared.manager.setStatus_app now status)
        (shared.manager.setStatus_id now status)
      simp only [CallStage.step]
      split
      next manager heq => rwa [heq] at hset
      next change manager heq => rwa [heq] at hset
  | shutDown =>
      simp only [CallStage.step]
      split
      · exact hshared
      · exact ⟨hshared.app, hshared.id, hshared.failures, hshared.distinct⟩
  | unlisten => exact hshared.change rfl rfl
  | takeHeartbeat | take | takeCancellation | returned => exact hshared

end SharedClient.Of

namespace CallStage

variable {app id : String} {number : Nat} {now : Timestamp} {stage : CallStage}
  {shared : SharedClient}

/-- The flag is set only by the call that ends the client, and never taken back. -/
theorem isShutDown_step (hstage : stage ≠ .shutDown) :
    (stage.step number now shared).2.isShutDown = shared.isShutDown := by
  cases stage <;> simp only [step] <;> (try split) <;> first | rfl | contradiction

theorem not_isEnding_step (hstage : ¬ stage.IsEnding) :
    ¬ (stage.step number now shared).1.IsEnding := by
  cases stage <;> simp only [step] <;> (try split) <;> simp_all [IsEnding]

/-- A call that ends a client sets the flag first, and is done when it has taken the record back. -/
theorem isEnding_step (hstage : stage.IsEnding)
    (halive : stage = .shutDown ↔ shared.isShutDown = false) :
    ((stage.step number now shared).1.IsEnding ∧
        ((stage.step number now shared).1 = .shutDown ↔
          (stage.step number now shared).2.isShutDown = false)) ∨
      (∃ record, stage = .cancel record) ∧ ¬ (stage.step number now shared).1.IsEnding ∧
        (stage.step number now shared).2.isShutDown = true := by
  cases stage with
  | shutDown =>
      have hlive := halive.mp rfl
      exact .inl (by simp [step, hlive, IsEnding])
  | unlisten | takeCancellation =>
      have hended : shared.isShutDown = true := by simpa using halive
      exact .inl (by simp [step, hended, IsEnding])
  | cancel record =>
      have hended : shared.isShutDown = true := by simpa using halive
      exact .inr ⟨⟨record, rfl⟩, id, hended⟩
  | _ => exact hstage.elim

/-- Once the client has ended, a call beside its end keeps whether there is a copy or the call is
armed: no call becomes armed, and one that is leaves a copy behind. -/
theorem copies_or_isArmed_step (hshared : shared.Of app id) (hstage : stage.Of app id)
    (hended : shared.isShutDown = true) (hbeside : ¬ stage.IsEnding) :
    (stage.step number now shared).2.registry.copies app id ≠ [] ∨
        (stage.step number now shared).1.IsArmed ↔
      shared.registry.copies app id ≠ [] ∨ stage.IsArmed := by
  cases stage with
  | renew => simp [step, hended, IsArmed]
  | takeHeartbeat => simp [step, IsArmed]
  | heartbeat record =>
      obtain ⟨happ, hid⟩ := hstage record rfl
      have hknows := Registry.knows_iff shared.registry record
      rw [happ, hid] at hknows
      rw [step_heartbeat hshared.failures,
        Registry.copies_congr (Registry.accept_heartbeat_applications _ _ _)]
      by_cases hcopies : shared.registry.knows record = true
      · simp [hcopies, hknows.mp hcopies]
      · simp [hcopies, IsArmed]
  | take => simp [step, IsArmed]
  | publish record =>
      obtain ⟨happ, hid⟩ := hstage record rfl
      rw [step_publish hshared.failures, Registry.copies_congr (Registry.accept_register _ _ _),
        Registry.copies_store, if_pos ⟨happ.symm, hid.symm⟩]
      simp [IsArmed]
  | confirm record => simp [step, IsArmed]
  | setStatus status =>
      simp only [step]
      split <;> simp [IsArmed]
  | tell =>
      simp only [step]
      split <;> simp [IsArmed]
  | push => simp [step, hended, IsArmed]
  | returned answer => simp [step, IsArmed]
  | shutDown | unlisten | takeCancellation | cancel => exact absurd trivial hbeside

end CallStage

/-! ## Calls in any order -/

/-- Calls of one client, by the number of the caller, who may also be idle. -/
structure Interleaving where
  shared : SharedClient
  calls : Nat → CallStage

namespace Interleaving

/-- A caller goes on by one stage. -/
def step (number : Nat) (state : Interleaving) (move : Timestamp × Nat) : Interleaving where
  shared := ((state.calls move.2).step number move.1 state.shared).2
  calls := Function.update state.calls move.2
    ((state.calls move.2).step number move.1 state.shared).1

def run (number : Nat) (state : Interleaving) (schedule : List (Timestamp × Nat)) : Interleaving :=
  schedule.foldl (step number) state

/-- A caller that does not get a turn stays where it is. -/
theorem calls_run_of_forall_ne {number caller : Nat} {schedule : List (Timestamp × Nat)}
    (hcaller : ∀ move ∈ schedule, caller ≠ move.2) (state : Interleaving) :
    (state.run number schedule).calls caller = state.calls caller := by
  induction schedule generalizing state with
  | nil => rfl
  | cons move rest ih =>
      refine (ih (fun other hmem => hcaller other (List.mem_cons_of_mem _ hmem)) _).trans ?_
      exact Function.update_of_ne (hcaller move List.mem_cons_self) _ _

/-- The calls are all about one record, and no request fails. -/
structure Of (app id : String) (state : Interleaving) : Prop where
  shared : state.shared.Of app id
  calls : ∀ caller, (state.calls caller).Of app id

/-- One caller is about to end the client, and no other does. -/
structure Ending (ender : Nat) (state : Interleaving) : Prop where
  ending : (state.calls ender).IsEnding
  alive : state.calls ender = .shutDown ↔ state.shared.isShutDown = false
  beside : ∀ caller, caller ≠ ender → ¬ (state.calls caller).IsEnding

/-- The client has ended, and nobody ends it again. -/
structure Over (state : Interleaving) : Prop where
  ended : state.shared.isShutDown = true
  beside : ∀ caller, ¬ (state.calls caller).IsEnding

/-- There is a copy of a record, or a call that is going to see to it. -/
def Stands (app id : String) (state : Interleaving) : Prop :=
  state.shared.registry.copies app id ≠ [] ∨ ∃ caller, (state.calls caller).IsArmed

variable {app id : String} {number ender : Nat} {state : Interleaving}

theorem Of.step (hof : state.Of app id) (move : Timestamp × Nat) :
    (state.step number move).Of app id where
  shared := hof.shared.step number move.1 _
  calls caller := by
    simp only [Interleaving.step, Function.update_apply]
    split
    · exact (hof.calls _).step hof.shared
    · exact hof.calls caller

theorem Of.run (hof : state.Of app id) (schedule : List (Timestamp × Nat)) :
    (state.run number schedule).Of app id := by
  induction schedule generalizing state with
  | nil => exact hof
  | cons move rest ih => exact ih (hof.step move)

theorem Over.step (hover : state.Over) (move : Timestamp × Nat) :
    (state.step number move).Over where
  ended := by
    have hmove : state.calls move.2 ≠ .shutDown := by
      intro heq
      exact hover.beside move.2 (by rw [heq]; trivial)
    rw [Interleaving.step, CallStage.isShutDown_step hmove]
    exact hover.ended
  beside caller := by
    simp only [Interleaving.step, Function.update_apply]
    split
    · exact CallStage.not_isEnding_step (hover.beside _)
    · exact hover.beside caller

/-- Who is armed after a move of one caller. -/
theorem exists_isArmed_update_iff (calls : Nat → CallStage) (mover : Nat) (stage : CallStage) :
    (∃ caller, (Function.update calls mover stage caller).IsArmed) ↔
      stage.IsArmed ∨ ∃ caller, caller ≠ mover ∧ (calls caller).IsArmed :=
  Function.exists_update_iff calls fun _ stage => stage.IsArmed

/-- What stands after the end of a client has stood all along. -/
theorem stands_step_iff (hof : state.Of app id) (hover : state.Over) (move : Timestamp × Nat) :
    (state.step number move).Stands app id ↔ state.Stands app id := by
  have hmove := @CallStage.copies_or_isArmed_step app id number move.1 _ _ hof.shared
    (hof.calls move.2) hover.ended (hover.beside move.2)
  have hbefore := exists_isArmed_update_iff state.calls move.2 (state.calls move.2)
  rw [Function.update_eq_self] at hbefore
  rw [Stands, Stands, Interleaving.step, exists_isArmed_update_iff, hbefore, ← or_assoc,
    ← or_assoc, hmove]

theorem stands_run_iff (hof : state.Of app id) (hover : state.Over)
    (schedule : List (Timestamp × Nat)) :
    (state.run number schedule).Stands app id ↔ state.Stands app id := by
  induction schedule generalizing state with
  | nil => rfl
  | cons move rest ih =>
      exact (ih (hof.step move) (hover.step move)).trans (stands_step_iff hof hover move)

/-- A call that ends a client goes on with that until it takes the record back. -/
theorem Ending.step (hending : state.Ending ender) (move : Timestamp × Nat) :
    (state.step number move).Ending ender ∨
      move.2 = ender ∧ (∃ record, state.calls ender = .cancel record) ∧
        (state.step number move).Over := by
  have hbeside : ∀ caller, caller ≠ ender →
      ¬ ((state.step number move).calls caller).IsEnding := by
    intro caller hcaller
    simp only [Interleaving.step, Function.update_apply]
    split
    next heq => exact CallStage.not_isEnding_step (hending.beside _ (heq ▸ hcaller))
    next => exact hending.beside caller hcaller
  by_cases hmove : move.2 = ender
  · subst hmove
    have hnext : (state.step number move).calls move.2 =
        ((state.calls move.2).step number move.1 state.shared).1 :=
      Function.update_self ..
    rcases CallStage.isEnding_step hending.ending hending.alive with
      ⟨hgoing, halive⟩ | ⟨hcancel, hdone, hended⟩
    · exact .inl ⟨by rw [hnext]; exact hgoing, by rw [hnext]; exact halive, hbeside⟩
    · refine .inr ⟨rfl, hcancel, hended, ?_⟩
      intro caller
      by_cases hcaller : caller = move.2
      · rw [hcaller, hnext]
        exact hdone
      · exact hbeside caller hcaller
  · have hender : (state.step number move).calls ender = state.calls ender :=
      Function.update_of_ne (fun heq => hmove heq.symm) _ _
    have hflag : (state.step number move).shared.isShutDown = state.shared.isShutDown := by
      refine CallStage.isShutDown_step ?_
      intro heq
      exact hending.beside move.2 hmove (by rw [heq]; trivial)
    exact .inl ⟨by rw [hender]; exact hending.ending, by rw [hender, hflag]; exact hending.alive,
      hbeside⟩

/-- The end of a client does not return before the record was taken back. -/
theorem Ending.exists_cancel (hending : state.Ending ender) {schedule : List (Timestamp × Nat)}
    (hreturned : ¬ ((state.run number schedule).calls ender).IsEnding) :
    ∃ earlier now later record, schedule = earlier ++ (now, ender) :: later ∧
      (state.run number earlier).calls ender = .cancel record ∧
        (state.run number (earlier ++ [(now, ender)])).Over := by
  induction schedule generalizing state with
  | nil => exact absurd hending.ending hreturned
  | cons move rest ih =>
      rcases hending.step move with hgoing | ⟨hmove, ⟨record, hcancel⟩, hover⟩
      · obtain ⟨earlier, now, later, record, rfl, hcancel, hover⟩ := ih hgoing hreturned
        exact ⟨move :: earlier, now, later, record, rfl, hcancel, hover⟩
      · subst hmove
        exact ⟨[], move.1, rest, record, rfl, hcancel, hover⟩

/-- Taking the record back leaves a copy only where its application is not in upper case, and does
nothing about the calls that are armed. -/
theorem stands_cancel_iff (hof : state.Of app id) {record : Instance}
    (hcancel : state.calls ender = .cancel record) (now : Timestamp) :
    (state.step number (now, ender)).Stands app id ↔
      (Text.upper app ≠ app ∧ state.shared.registry.copies app id ≠ []) ∨
        ∃ caller, (state.calls caller).IsArmed := by
  obtain ⟨happ, hid⟩ := hof.calls ender record (by rw [hcancel]; rfl)
  have hcopies : ((state.step number (now, ender)).shared.registry.copies app id ≠ []) ↔
      Text.upper app ≠ app ∧ state.shared.registry.copies app id ≠ [] := by
    have hunique := hof.shared.distinct app id
    rw [Interleaving.step, hcancel, CallStage.step_cancel hof.shared.failures,
      Registry.copies_congr (Registry.accept_cancel_applications _ _ _ _), Registry.copies_evict,
      happ, hid]
    split
    next heq =>
      have htail : (state.shared.registry.copies app id).tail = [] :=
        List.eq_nil_of_length_eq_zero (by rw [List.length_tail]; omega)
      simp [htail, heq.1.symm]
    next hne =>
      have hupper : Text.upper app ≠ app := fun heq => hne ⟨heq.symm, rfl⟩
      simp [hupper]
  have harmed : (∃ caller, ((state.step number (now, ender)).calls caller).IsArmed) ↔
      ∃ caller, (state.calls caller).IsArmed := by
    have hbefore := exists_isArmed_update_iff state.calls ender (state.calls ender)
    rw [Function.update_eq_self] at hbefore
    rw [Interleaving.step, exists_isArmed_update_iff, hbefore, hcancel, CallStage.step]
    rfl
  rw [Stands, hcopies, harmed]

end Interleaving

/-- Callers renew the lease of a client and set the status of its record, each as often as they
like, while one of them ends the client. Once everything has returned, the registry has a copy of
the record if and only if, at the moment at which the record was taken back, it had one under an
application that is not in upper case, or a call that had seen the client alive was still to make a
request. -/
theorem Interleaving.copies_after_end_iff {number ender : Nat} {start : Interleaving}
    {schedule : List (Timestamp × Nat)} (hlive : start.shared.isShutDown = false)
    (hfailures : start.shared.registry.failures = [])
    (hdistinct : start.shared.registry.Distinct) (hender : start.calls ender = .shutDown)
    (hcallers : ∀ caller, caller ≠ ender → (start.calls caller).IsFresh)
    (hreturned : ∀ caller, ((start.run number schedule).calls caller).HasReturned) :
    let app := start.shared.manager.record.app
    let id := start.shared.manager.record.id
    ∃ earlier now later record, schedule = earlier ++ (now, ender) :: later ∧
      (start.run number earlier).calls ender = .cancel record ∧
      record.app = app ∧ record.id = id ∧
      ((start.run number schedule).shared.registry.copies app id ≠ [] ↔
        (Text.upper app ≠ app ∧
          (start.run number earlier).shared.registry.copies app id ≠ []) ∨
        ∃ caller, ((start.run number earlier).calls caller).IsArmed) := by
  intro app id
  have hof : start.Of app id := by
    refine ⟨⟨rfl, rfl, hfailures, hdistinct⟩, ?_⟩
    intro caller
    by_cases hcaller : caller = ender
    · rw [hcaller, hender]
      exact fun record hrecord => by cases hrecord
    · exact (hcallers caller hcaller).of app id
  have hending : start.Ending ender :=
    ⟨by rw [hender]; trivial, by simp [hender, hlive],
      fun caller hcaller => (hcallers caller hcaller).not_isEnding⟩
  obtain ⟨earlier, now, later, record, rfl, hcancel, hover⟩ :=
    hending.exists_cancel (hreturned ender).isFresh.not_isEnding
  obtain ⟨happ, hid⟩ := (hof.run earlier).calls ender record (by rw [hcancel]; rfl)
  refine ⟨earlier, now, later, record, rfl, hcancel, happ, hid, ?_⟩
  -- In the end nothing stands but the copies themselves.
  have hlast : (start.run number (earlier ++ (now, ender) :: later)).Stands app id ↔
      (start.run number (earlier ++ (now, ender) :: later)).shared.registry.copies app id ≠ [] :=
    or_iff_left fun ⟨caller, harmed⟩ => (hreturned caller).not_isArmed harmed
  have hrun : start.run number (earlier ++ (now, ender) :: later) =
      (start.run number (earlier ++ [(now, ender)])).run number later := by
    simp [run]
  have hcancelled : start.run number (earlier ++ [(now, ender)]) =
      (start.run number earlier).step number (now, ender) := by
    simp [run]
  rw [← hlast, hrun, stands_run_iff (hof.run _) hover, hcancelled,
    stands_cancel_iff (hof.run earlier) hcancel]

namespace Interleaving

/-- A client that was just connected is about to be ended by one caller and to be renewed by
another. -/
def sample : Interleaving where
  shared := (SessionStep.sampleRun []).sharing 0 0 SessionStep.sampleClient
  calls
    | 0 => .shutDown
    | 1 => .renew
    | _ => .returned (.ok ())

/-- The renewal has seen the client alive when the client is ended, and goes on after that. -/
def sampleSchedule : List (Timestamp × Nat) :=
  [(0, 1), (0, 0), (0, 0), (0, 0), (0, 0), (0, 1), (0, 1), (0, 1), (0, 1), (0, 1)]

end Interleaving

/-- A renewal that has seen the client alive registers the record again after it was taken back. -/
theorem Interleaving.renewal_outlives_end :
    (∀ caller, ((sample.run 0 sampleSchedule).calls caller).HasReturned) ∧
      (sample.run 0 sampleSchedule).shared.registry.copies "APP" "member" ≠ [] ∧
      ∃ earlier now later record, sampleSchedule = earlier ++ (now, 0) :: later ∧
        (sample.run 0 earlier).calls 0 = .cancel record ∧
        ∃ caller, ((sample.run 0 earlier).calls caller).IsArmed := by
  have hreturned : ∀ caller, ((sample.run 0 sampleSchedule).calls caller).HasReturned := by
    intro caller
    match caller with
    | 0 | 1 => decide +kernel
    | caller + 2 =>
        rw [calls_run_of_forall_ne (by simp [sampleSchedule])]
        trivial
  have hcopies : (sample.run 0 sampleSchedule).shared.registry.copies "APP" "member" ≠ [] := by
    decide +kernel
  have hregistry : sample.shared.registry.applications = (Registry.empty.store (Registry.stored 0
      { Instance.new "app" "member" 0 with status := .starting })).applications := by
    decide +kernel
  have hdistinct : sample.shared.registry.Distinct :=
    (Registry.distinct_empty.store _).congr hregistry
  have hcallers : ∀ caller, caller ≠ 0 → (sample.calls caller).IsFresh := by
    intro caller hcaller
    match caller with
    | 1 => trivial
    | caller + 2 => trivial
  obtain ⟨earlier, now, later, record, hschedule, hcancel, -, -, hiff⟩ :=
    copies_after_end_iff (by decide +kernel) (by decide +kernel) hdistinct rfl hcallers hreturned
  have hrecord : sample.shared.manager.record.app = "APP" ∧
      sample.shared.manager.record.id = "member" ∧ Text.upper "APP" = "APP" := by
    decide +kernel
  obtain ⟨happ, hid, hupper⟩ := hrecord
  rw [happ, hid] at hiff
  rcases hiff.mp hcopies with ⟨hlower, -⟩ | harmed
  · exact absurd hupper hlower
  · exact ⟨hreturned, hcopies, earlier, now, later, record, hschedule, hcancel, harmed⟩

end MemberDiscovery
