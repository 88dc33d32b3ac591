import MemberDiscovery.Proofs.Deployment.Publishing

/-! # Pushes that run beside changes

Several callers share the record of a manager. Some change it; others push it, each by taking a
snapshot, sending that, and noting afterwards that the changes up to the snapshot were sent. Every
one of these moves happens at once, and they come in any order. The last change stays marked if and
only if every push that is finished after it has a snapshot from before the millisecond of the
change. The snapshot alone tells nothing about the order within one millisecond, so a push that
began before a change may still take its mark away.
-/

namespace MemberDiscovery

/-- A change of a managed record by one of its callers. -/
inductive RecordEdit where
  | update (change : Instance → Instance)
  | addMetadata (entries : List (String × String))
  | setStatus (status : InstanceStatus)

namespace RecordEdit

def apply (now : Timestamp) : RecordEdit → InstanceManager → InstanceManager
  | .update change, manager => manager.update now change
  | .addMetadata entries, manager => manager.addMetadata now entries
  | .setStatus status, manager => (manager.setStatus now status).2

/-- Setting the present status is no change. -/
def TakesEffect : RecordEdit → InstanceManager → Prop
  | .setStatus status, manager => manager.record.status ≠ status
  | _, _ => True

/-- A change leaves its mark. -/
theorem marks {edit : RecordEdit} {manager : InstanceManager} (heffect : edit.TakesEffect manager)
    (now : Timestamp) :
    (edit.apply now manager).record.dirty = true ∧
      (edit.apply now manager).record.lastDirty = now := by
  cases edit with
  | update change => exact ⟨rfl, rfl⟩
  | addMetadata entries => exact ⟨rfl, rfl⟩
  | setStatus status =>
      have hstatus : ¬ manager.record.status = status := heffect
      simp [apply, InstanceManager.setStatus, Instance.setStatus, hstatus, Instance.markDirty]

theorem apply_of_not_takesEffect {edit : RecordEdit} {manager : InstanceManager}
    (hnone : ¬ edit.TakesEffect manager) (now : Timestamp) : edit.apply now manager = manager := by
  cases edit with
  | update change => exact absurd trivial hnone
  | addMetadata entries => exact absurd trivial hnone
  | setStatus status =>
      have hstatus : manager.record.status = status := not_not.mp hnone
      rw [apply, InstanceManager.setStatus_of_eq hstatus]

end RecordEdit

/-- What a caller does to a shared record, at once. -/
inductive SharedMove where
  | edit (edit : RecordEdit)
  /-- A pusher takes the record that it is going to send. -/
  | snapshot (pusher : Nat)
  /-- A pusher whose snapshot was accepted notes that. -/
  | finish (pusher : Nat)

/-- A managed record, and the snapshots of those who are about to send it. -/
structure SharedRecord where
  manager : InstanceManager
  snapshots : Nat → Option Instance

namespace SharedRecord

def step (shared : SharedRecord) (now : Timestamp) : SharedMove → SharedRecord
  | .edit edit => { shared with manager := edit.apply now shared.manager }
  | .snapshot pusher =>
    { shared with
      snapshots := Function.update shared.snapshots pusher (some shared.manager.record) }
  | .finish pusher =>
    match shared.snapshots pusher with
    | none => shared
    | some sent =>
      { manager := shared.manager.clearDirty sent.lastDirty
        snapshots := Function.update shared.snapshots pusher none }

def run (shared : SharedRecord) (moves : List (Timestamp × SharedMove)) : SharedRecord :=
  moves.foldl (fun shared move => shared.step move.1 move.2) shared

/-- The snapshot whose sending a move notes. -/
def finished? (shared : SharedRecord) : SharedMove → Option Instance
  | .finish pusher => shared.snapshots pusher
  | _ => none

/-- The snapshots whose sending is noted in the course of moves. -/
def finished (shared : SharedRecord) : List (Timestamp × SharedMove) → List Instance
  | [] => []
  | move :: moves => (shared.finished? move.2).toList ++ (shared.step move.1 move.2).finished moves

/-- Nobody changes the record in the course of moves. -/
def Unchanged (shared : SharedRecord) : List (Timestamp × SharedMove) → Prop
  | [] => True
  | move :: moves =>
    (∀ edit, move.2 = .edit edit → ¬ edit.TakesEffect shared.manager) ∧
      (shared.step move.1 move.2).Unchanged moves

variable {shared : SharedRecord}

/-- A move that is no change keeps the time of the last change, and the mark unless the sending of
that change is noted. -/
theorem step_of_not_edit {move : SharedMove}
    (hnone : ∀ edit, move = .edit edit → ¬ edit.TakesEffect shared.manager) (now : Timestamp) :
    (shared.step now move).manager.record.lastDirty = shared.manager.record.lastDirty ∧
      ((shared.step now move).manager.record.dirty = true ↔
        shared.manager.record.dirty = true ∧
          ∀ sent ∈ shared.finished? move, sent.lastDirty < shared.manager.record.lastDirty) := by
  cases move with
  | edit edit =>
      rw [step, RecordEdit.apply_of_not_takesEffect (hnone edit rfl)]
      simp [finished?]
  | snapshot pusher => simp [step, finished?]
  | finish pusher =>
      simp only [step, finished?]
      cases hsent : shared.snapshots pusher with
      | none => simp
      | some sent =>
          simp only [InstanceManager.clearDirty, Instance.clearDirty]
          split
          next hle => simp [Int64.not_lt.mpr hle]
          next hlt => simp [Int64.not_le.mp hlt]

theorem dirty_run_of_unchanged {moves : List (Timestamp × SharedMove)}
    (hnone : shared.Unchanged moves) :
    (shared.run moves).manager.record.dirty = true ↔
      shared.manager.record.dirty = true ∧
        ∀ sent ∈ shared.finished moves, sent.lastDirty < shared.manager.record.lastDirty := by
  induction moves generalizing shared with
  | nil => simp [run, finished]
  | cons move rest ih =>
      obtain ⟨hmove, hrest⟩ := hnone
      obtain ⟨hlast, hdirty⟩ := step_of_not_edit hmove move.1
      have hrun := ih hrest
      rw [hlast, hdirty] at hrun
      simp only [run, List.foldl_cons] at hrun ⊢
      rw [hrun, finished]
      simp only [List.mem_append, Option.mem_toList, Option.mem_def, or_imp, forall_and, and_assoc]

/-- A client that publishes its record without anybody in between takes a snapshot, and finishes. -/
theorem run_push (registry manager pusher : Nat) (deployment : Deployment) (begun ended : Timestamp)
    (snapshots : Nat → Option Instance) :
    (run ⟨deployment.managers.get manager, snapshots⟩
        [(begun, .snapshot pusher), (ended, .finish pusher)]).manager =
      (deployment.published registry manager).managers.get manager := by
  simp [run, step, InstanceManager.clearDirty, Instance.clearDirty_lastDirty]

end SharedRecord

/-- After the last change of a record, whatever else its callers do in whatever order, it is dirty
if and only if every push that was finished since then sent a snapshot that was changed last in an
earlier millisecond. -/
theorem changed_record_stays_dirty_iff {shared : SharedRecord}
    {earlier later : List (Timestamp × SharedMove)} {edit : RecordEdit} {now : Timestamp}
    (heffect : edit.TakesEffect (shared.run earlier).manager)
    (hlast : ((shared.run earlier).step now (.edit edit)).Unchanged later) :
    (shared.run (earlier ++ (now, .edit edit) :: later)).manager.record.dirty = true ↔
      ∀ sent ∈ ((shared.run earlier).step now (.edit edit)).finished later,
        sent.lastDirty < now := by
  obtain ⟨hdirty, htime⟩ := edit.marks heffect now
  have hrun : shared.run (earlier ++ (now, .edit edit) :: later) =
      ((shared.run earlier).step now (.edit edit)).run later := by
    simp [SharedRecord.run]
  rw [hrun, SharedRecord.dirty_run_of_unchanged hlast]
  simp only [SharedRecord.step, hdirty, htime, true_and]

namespace SharedRecord

/-- A record that was changed last at time 0. -/
def sample : SharedRecord :=
  ⟨.ofRecord default (Instance.new "app" "member" 0), fun _ => none⟩

/-- A push with a change between its snapshot and its end. -/
def samplePush (now : Timestamp) : SharedRecord :=
  sample.run ([(0, .snapshot 0)] ++
    (now, .edit (.addMetadata [("zone", "a")])) :: [(now, .finish 0)])

end SharedRecord

/-- A change during a push stays marked if it is one millisecond later than the change before the
push. In the same millisecond it is marked as sent, although the snapshot does not have it. -/
theorem change_in_millisecond_of_snapshot_loses_mark :
    (SharedRecord.samplePush 1).manager.record.dirty = true ∧
      (SharedRecord.samplePush 0).manager.record.dirty = false ∧
      (SharedRecord.samplePush 0).manager.record.metadata.get? "zone" = some "a" ∧
      SharedRecord.sample.manager.record.metadata.get? "zone" = none := by
  have hstays := @changed_record_stays_dirty_iff SharedRecord.sample [(0, .snapshot 0)]
    [(1, .finish 0)] (.addMetadata [("zone", "a")]) 1 trivial (by simp [SharedRecord.Unchanged])
  exact ⟨hstays.mpr (by decide), by decide, by decide, by decide⟩

end MemberDiscovery
