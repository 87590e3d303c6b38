import ZepGpu.Core.DeviceHolding
import ZepGpu.Core.FailedPass

namespace ZepGpu
namespace Core

open Foundation Dict

/-!
# No two running tasks hold one device

The records of the machine's devices are the manager's own, so a device that a
running task holds is never idle.  A share that a running task holds can become
idle when the registry is read again; a pass is safe as long as every such share
is still locked.
-/

namespace TaskScheduler

variable {hash : String -> Int} {s after : TaskScheduler}

/-! ## Holders -/

/-- No two running tasks hold the same device. -/
structure Exclusive (s : TaskScheduler) : Prop where
  machine : ∀ id other task otherTask number, s.runningTasks.get? id = some task ->
    s.runningTasks.get? other = some otherTask -> task.HoldsMachine number ->
    otherTask.HoldsMachine number -> id = other
  share : ∀ id other task otherTask share, s.runningTasks.get? id = some task ->
    s.runningTasks.get? other = some otherTask -> task.HoldsShare share ->
    otherTask.HoldsShare share -> id = other

/-- A device of the machine that a running task holds is not idle, and a task
holds a share only of a pool. -/
structure Holding (s : TaskScheduler) : Prop where
  exclusive : Exclusive s
  machine : ∀ id task number, s.runningTasks.get? id = some task -> task.HoldsMachine number ->
    s.gpuManager.stateOf number ≠ some .idle
  pooled : ∀ id task share, s.runningTasks.get? id = some task -> task.HoldsShare share ->
    s.gpuPool ≠ none

/-- A share that a running task holds is not idle, or is locked. -/
def Guarded (s : TaskScheduler) : Prop :=
  ∀ id task share, s.runningTasks.get? id = some task -> task.HoldsShare share ->
    shareState s.gpuPool share ≠ some .idle ∨ (lockOf s.gpuPool share).isSome = true

/-- No pending task asks for a negative amount of memory that a device has. -/
def MemoryAsked (s : TaskScheduler) : Prop :=
  ∀ item, item ∈ s.pendingQueue -> MemorySound s.gpuManager item.task

/-! ## Dispatch -/

theorem guarded_of_kept {pool : Option GpuPool} (guarded : Guarded s)
    (kept : PoolKept s.gpuPool pool) {queue : List PriorityTaskItem} :
    Guarded { s with pendingQueue := queue, gpuPool := pool } := by
  intro id task share running holds
  rcases guarded id task share running holds with busy | locked
  · left
    rw [show shareState pool share = shareState s.gpuPool share from kept.states share]
    exact busy
  · right
    exact kept.locks share locked

theorem holding_of_kept {pool : Option GpuPool} (holding : Holding s)
    (kept : PoolKept s.gpuPool pool) {queue : List PriorityTaskItem} :
    Holding { s with pendingQueue := queue, gpuPool := pool } := by
  refine ⟨⟨holding.exclusive.machine, holding.exclusive.share⟩, holding.machine, ?_⟩
  intro id task share running holds gone
  exact holding.pooled id task share running holds (kept.pooled gone)

theorem get?_set_cases {d : Dict String Task} {id other : String} {task found : Task}
    (lookup : (d.set id task).get? other = some found) :
    other = id ∧ found = task ∨ other ≠ id ∧ d.get? other = some found := by
  by_cases same : other = id
  · subst same
    rw [get?_set_self] at lookup
    exact Or.inl ⟨rfl, (Option.some.inj lookup).symm⟩
  · rw [get?_set_of_ne same] at lookup
    exact Or.inr ⟨same, lookup⟩

theorem not_holdsShare_of_holdsMachine {task : Task} {number : Int} {share : String}
    (machine : task.HoldsMachine number) (holds : task.HoldsShare share) : False := by
  have named := holds.present
  rw [machine.1] at named
  cases named

theorem number_unique {task : Task} {number other : Int} (first : task.HoldsMachine number)
    (second : task.HoldsMachine other) : number = other :=
  Option.some.inj (first.2.symm.trans second.2)

section Dispatch

variable {manager : GPUManager} {pool : Option GpuPool} {placed : Task} {stats : QueueStats}
  {queue : List PriorityTaskItem}

theorem holding_machine {number : Int} (holding : Holding s) (holds : placed.HoldsMachine number)
    (taken : MachineTaken number s.gpuManager manager) (kept : PoolKept s.gpuPool pool) :
    Holding { s with
      gpuManager := manager
      gpuPool := pool
      pendingQueue := queue
      runningTasks := s.runningTasks.set placed.taskId placed
      stats := stats } := by
  -- an old holder would have kept the device from being idle
  have fresh : ∀ id task n, s.runningTasks.get? id = some task -> task.HoldsMachine n ->
      n ≠ number := by
    rintro id task n running held rfl
    exact holding.machine id task n running held taken.idle
  refine ⟨⟨?_, ?_⟩, ?_, ?_⟩
  · intro id other task otherTask n first second left right
    rcases get?_set_cases first with ⟨rfl, rfl⟩ | ⟨-, old⟩
    · rcases get?_set_cases second with ⟨rfl, rfl⟩ | ⟨-, old⟩
      · rfl
      · exact absurd (number_unique left holds) (fresh other otherTask n old right)
    · rcases get?_set_cases second with ⟨rfl, rfl⟩ | ⟨-, older⟩
      · exact absurd (number_unique right holds) (fresh id task n old left)
      · exact holding.exclusive.machine id other task otherTask n old older left right
  · intro id other task otherTask share first second left right
    rcases get?_set_cases first with ⟨rfl, rfl⟩ | ⟨-, old⟩
    · exact (not_holdsShare_of_holdsMachine holds left).elim
    · rcases get?_set_cases second with ⟨rfl, rfl⟩ | ⟨-, older⟩
      · exact (not_holdsShare_of_holdsMachine holds right).elim
      · exact holding.exclusive.share id other task otherTask share old older left right
  · intro id task n running held
    rcases get?_set_cases running with ⟨rfl, rfl⟩ | ⟨-, old⟩
    · rw [number_unique held holds]
      show manager.stateOf number ≠ some .idle
      rw [taken.taken]
      rintro ⟨⟩
    · show manager.stateOf n ≠ some .idle
      unfold GPUManager.stateOf
      rw [taken.others n (fresh id task n old held)]
      exact holding.machine id task n old held
  · intro id task share running held gone
    rcases get?_set_cases running with ⟨rfl, rfl⟩ | ⟨-, old⟩
    · exact not_holdsShare_of_holdsMachine holds held
    · exact holding.pooled id task share old held (kept.pooled gone)

theorem guarded_machine {number : Int} (guarded : Guarded s) (holds : placed.HoldsMachine number)
    (kept : PoolKept s.gpuPool pool) :
    Guarded { s with
      gpuManager := manager
      gpuPool := pool
      pendingQueue := queue
      runningTasks := s.runningTasks.set placed.taskId placed
      stats := stats } := by
  intro id task share running held
  rcases get?_set_cases running with ⟨rfl, rfl⟩ | ⟨-, old⟩
  · exact (not_holdsShare_of_holdsMachine holds held).elim
  · rcases guarded id task share old held with busy | locked
    · left
      rw [show shareState pool share = shareState s.gpuPool share from kept.states share]
      exact busy
    · exact Or.inr (kept.locks share locked)

theorem holding_share {share : String} (holding : Holding s) (guarded : Guarded s)
    (holds : placed.HoldsShare share) (taken : ShareTaken share s.gpuPool pool) :
    Holding { s with
      gpuManager := s.gpuManager
      gpuPool := pool
      pendingQueue := queue
      runningTasks := s.runningTasks.set placed.taskId placed
      stats := stats } := by
  -- an old holder would have had the share listed as busy, or locked
  have fresh : ∀ id task, s.runningTasks.get? id = some task -> ¬ task.HoldsShare share := by
    intro id task running held
    rcases guarded id task share running held with busy | locked
    · exact busy taken.idle
    · rw [taken.free] at locked
      cases locked
  refine ⟨⟨?_, ?_⟩, ?_, ?_⟩
  · intro id other task otherTask n first second left right
    rcases get?_set_cases first with ⟨rfl, rfl⟩ | ⟨-, old⟩
    · exact (not_holdsShare_of_holdsMachine left holds).elim
    · rcases get?_set_cases second with ⟨rfl, rfl⟩ | ⟨-, older⟩
      · exact (not_holdsShare_of_holdsMachine right holds).elim
      · exact holding.exclusive.machine id other task otherTask n old older left right
  · intro id other task otherTask name first second left right
    rcases get?_set_cases first with ⟨rfl, rfl⟩ | ⟨-, old⟩
    · rcases get?_set_cases second with ⟨rfl, rfl⟩ | ⟨-, old⟩
      · rfl
      · exact absurd (holds.unique left ▸ right) (fresh other otherTask old)
    · rcases get?_set_cases second with ⟨rfl, rfl⟩ | ⟨-, older⟩
      · exact absurd (holds.unique right ▸ left) (fresh id task old)
      · exact holding.exclusive.share id other task otherTask name old older left right
  · intro id task n running held
    rcases get?_set_cases running with ⟨rfl, rfl⟩ | ⟨-, old⟩
    · exact (not_holdsShare_of_holdsMachine held holds).elim
    · exact holding.machine id task n old held
  · intro id task name running held
    exact taken.pooled

theorem guarded_share {share : String} (guarded : Guarded s) (holds : placed.HoldsShare share)
    (taken : ShareTaken share s.gpuPool pool) :
    Guarded { s with
      gpuManager := s.gpuManager
      gpuPool := pool
      pendingQueue := queue
      runningTasks := s.runningTasks.set placed.taskId placed
      stats := stats } := by
  intro id task name running held
  by_cases same : name = share
  · left
    rw [same, show shareState pool share = some .allocated from taken.taken]
    rintro ⟨⟩
  · rcases get?_set_cases running with ⟨rfl, rfl⟩ | ⟨-, old⟩
    · exact absurd (held.unique holds) same
    · rcases guarded id task name old held with busy | locked
      · left
        rw [show shareState pool name = shareState s.gpuPool name from taken.others name same]
        exact busy
      · exact Or.inr (taken.locks name locked)

end Dispatch

/-! ## A pass -/

theorem memorySound_of_taken {number : Int} {manager after : GPUManager} {task : Task}
    (memory : MemorySound manager task) (taken : MachineTaken number manager after) :
    MemorySound after task := by
  intro other device found idle enough
  by_cases same : other = number
  · subst same
    have allocated := taken.taken
    unfold GPUManager.stateOf at allocated
    rw [found, Option.map_some, idle] at allocated
    cases allocated
  · rw [taken.others other same] at found
    exact memory other device found idle enough

structure PassSound (s : TaskScheduler) : Prop where
  holding : Holding s
  guarded : Guarded s
  memory : MemoryAsked s

theorem scheduleNext_passSound (sound : PassSound s) (fault : Option PoolFault) :
    PassSound (scheduleNext hash fault s).2 := by
  unfold scheduleNext
  split
  · exact sound
  · next item rest popped =>
      have taken := Heap.pop_perm popped
      have memory : MemorySound s.gpuManager item.task :=
        sound.memory item (taken.mem_iff.mpr (List.mem_cons_self ..))
      have others : ∀ other, other ∈ rest -> other ∈ s.pendingQueue :=
        fun other member => taken.mem_iff.mpr (List.mem_cons_of_mem _ member)
      have placed := @placeTask_devices hash fault s.gpuManager s.gpuPool item.task memory
      revert placed
      rcases placeTask hash fault s.gpuManager s.gpuPool item.task with
        ⟨error, pool⟩ | pool | ⟨task, manager, pool⟩
      · intro placed
        cases placed with
        | raised error after kept =>
          refine ⟨holding_of_kept sound.holding kept, guarded_of_kept sound.guarded kept, ?_⟩
          exact fun other member => sound.memory other (others other member)
      · intro placed
        cases placed with
        | refused after kept =>
          refine ⟨holding_of_kept sound.holding kept, guarded_of_kept sound.guarded kept, ?_⟩
          intro other member
          have back := (Heap.push_perm.trans taken.symm).mem_iff.mp member
          exact sound.memory other back
      · intro placed
        cases placed with
        | machine number _ _ _ holds new kept =>
          refine ⟨holding_machine sound.holding holds new kept,
            guarded_machine sound.guarded holds kept, ?_⟩
          exact fun other member =>
            memorySound_of_taken (sound.memory other (others other member)) new
        | share share _ _ holds new =>
          refine ⟨holding_share sound.holding sound.guarded holds new,
            guarded_share sound.guarded holds new, ?_⟩
          exact fun other member => sound.memory other (others other member)

theorem scheduleTurns_passSound (sound : PassSound s) (turns : Nat)
    (faults : Nat -> Option PoolFault) : PassSound (scheduleTurns hash turns faults s).2 := by
  induction turns generalizing s faults with
  | zero => exact sound
  | succ turns ih =>
    have next := @scheduleNext_passSound hash s sound (faults 0)
    unfold scheduleTurns
    split
    · next after equal =>
        rw [equal] at next
        exact ih next _
    · next after equal =>
        rw [equal] at next
        exact next
    · next error after equal =>
        rw [equal] at next
        exact next

theorem schedule_holding (sound : PassSound s) (faults : Nat -> Option PoolFault) :
    Holding (s.schedulePendingTasks hash faults).2 := by
  unfold schedulePendingTasks
  dsimp only
  split
  · exact sound.holding
  · exact (scheduleTurns_passSound sound _ faults).holding

/-! ## Giving a device back -/

def HoldsNothing (task : Task) : Prop :=
  (∀ number, ¬ task.HoldsMachine number) ∧ ∀ share, ¬ task.HoldsShare share

/-- What giving back the device of a task leaves of the devices. -/
structure Released (s : TaskScheduler) (task : Task) (manager : GPUManager) (pool : Option GpuPool) :
    Prop where
  machine : ∀ number, ¬ task.HoldsMachine number ->
    manager.stateOf number = s.gpuManager.stateOf number
  states : ∀ share, ¬ task.HoldsShare share -> shareState pool share = shareState s.gpuPool share
  locks : ∀ share, ¬ task.HoldsShare share -> lockOf pool share = lockOf s.gpuPool share
  pooled : pool = none -> s.gpuPool = none

theorem unlocked_share {pool released : GpuPool} {share task : String}
    (lock : released.remoteLock = pool.remoteLock)
    (states : ∀ other, other ≠ share ->
      shareState (some released) other = shareState (some pool) other) :
    (∀ other, other ≠ share ->
      shareState (some (if task = "" then released else released.releaseLock share task)) other =
        shareState (some pool) other) ∧
      ∀ other, other ≠ share ->
        lockOf (some (if task = "" then released else released.releaseLock share task)) other =
          lockOf (some pool) other := by
  constructor
  · intro other different
    split
    · exact states other different
    · rw [GpuPool.shareState_congr (released.releaseLock_spec share task).1]
      exact states other different
  · intro other different
    split
    · exact GpuPool.lockOf_congr lock
    · rw [(released.releaseLock_spec share task).2 other different]
      exact GpuPool.lockOf_congr lock

theorem releaseDevice_share (pool : GpuPool) (manager : GPUManager) (number : Int)
    (share task : String) (named : share ≠ "") :
    (pool.releaseDevice manager number true (some share) (some task)).1 = manager ∧
      (∀ other, other ≠ share ->
        shareState (some (pool.releaseDevice manager number true (some share) (some task)).2) other =
          shareState (some pool) other) ∧
      ∀ other, other ≠ share ->
        lockOf (some (pool.releaseDevice manager number true (some share) (some task)).2) other =
          lockOf (some pool) other := by
  have remote : (if true && present (some share) then some share else none) = some share := by
    simp [present, named]
  unfold GpuPool.releaseDevice
  rw [remote]
  cases found : pool.remoteDevices.devices.get? share with
  | none =>
    simp only [found]
    exact ⟨trivial, unlocked_share rfl fun _ _ => rfl⟩
  | some device =>
    simp only [found]
    refine ⟨trivial, unlocked_share rfl ?_⟩
    intro other different
    exact RemoteDevices.stateOf_put_of_ne
      (show other ≠ device.release.shareId from
        (pool.remoteDevices.keyed share device found).symm ▸ different)

theorem releaseGpuForTask_released (task : Task)
    (pooled : ∀ share, task.HoldsShare share -> s.gpuPool ≠ none) :
    ∃ freed manager pool,
      s.releaseGpuForTask task = (freed, { s with gpuManager := manager, gpuPool := pool }) ∧
        HoldsNothing freed ∧ Released s task manager pool := by
  by_cases remote : present task.remoteGpuShareId = true
  · rcases Task.exists_holdsShare remote with ⟨share, holds⟩
    rcases Option.ne_none_iff_exists'.mp (pooled share holds) with ⟨pool, same⟩
    rcases releaseDevice_share pool s.gpuManager (task.gpuDeviceId.getD 0) share task.taskId holds.2 with
      ⟨manager, states, locks⟩
    refine ⟨{ task with remoteGpuShareId := none, remotePeerVpnIp := none, gpuDeviceId := none },
      s.gpuManager,
      some (pool.releaseDevice s.gpuManager (task.gpuDeviceId.getD 0) true (some share)
        (some task.taskId)).2, ?_, ⟨?_, ?_⟩, ⟨fun _ _ => rfl, ?_, ?_, ?_⟩⟩
    · have unfolded : s.releaseGpuForTask task =
          ({ task with remoteGpuShareId := none, remotePeerVpnIp := none, gpuDeviceId := none },
            { s with
              gpuManager := (pool.releaseDevice s.gpuManager (task.gpuDeviceId.getD 0) true
                task.remoteGpuShareId (some task.taskId)).1
              gpuPool := some (pool.releaseDevice s.gpuManager (task.gpuDeviceId.getD 0) true
                task.remoteGpuShareId (some task.taskId)).2 }) := by
        unfold releaseGpuForTask
        rw [same, remote]
      rw [unfolded, holds.1, manager]
    · rintro number ⟨-, impossible⟩
      cases impossible
    · rintro name ⟨impossible, -⟩
      cases impossible
    · intro other free
      rw [same]
      exact states other (by rintro rfl; exact free holds)
    · intro other free
      rw [same]
      exact locks other (by rintro rfl; exact free holds)
    · rintro ⟨⟩
  · have machine : present task.remoteGpuShareId = false := by simpa using remote
    have noShare : ∀ share, ¬ task.HoldsShare share := by
      intro share holds
      exact remote holds.present
    cases number : task.gpuDeviceId with
    | none =>
      have unfolded : s.releaseGpuForTask task = (task, s) := by
        unfold releaseGpuForTask
        rw [machine, number]
        cases s.gpuPool <;> rfl
      refine ⟨task, s.gpuManager, s.gpuPool, unfolded, ⟨?_, noShare⟩,
        ⟨fun _ _ => rfl, fun _ _ => rfl, fun _ _ => rfl, fun none => none⟩⟩
      rintro other ⟨-, impossible⟩
      rw [number] at impossible
      cases impossible
    | some device =>
      have unfolded : s.releaseGpuForTask task = ({ task with gpuDeviceId := none },
          { s with gpuManager := s.gpuManager.releaseDevice device }) := by
        unfold releaseGpuForTask
        rw [machine, number]
        cases s.gpuPool <;> rfl
      refine ⟨{ task with gpuDeviceId := none }, s.gpuManager.releaseDevice device, s.gpuPool,
        unfolded, ⟨?_, noShare⟩, ⟨?_, fun _ _ => rfl, fun _ _ => rfl, fun none => none⟩⟩
      · rintro other ⟨-, impossible⟩
        cases impossible
      · intro other free
        apply GPUManager.stateOf_releaseDevice_of_ne
        rintro rfl
        exact free ⟨machine, number⟩

/-- A call that gives back the device of the running task `id`, or none. -/
inductive Frees (s : TaskScheduler) (id : String) (after : TaskScheduler) : Prop
  | nothing (running : after.runningTasks = s.runningTasks) (manager : after.gpuManager = s.gpuManager)
      (pool : after.gpuPool = s.gpuPool)
  | device (task : Task) (found : s.runningTasks.get? id = some task)
      (others : ∀ other task, after.runningTasks.get? other = some task ->
        HoldsNothing task ∨ other ≠ id ∧ s.runningTasks.get? other = some task)
      (released : Released s task after.gpuManager after.gpuPool)

theorem holding_frees {id : String} (holding : Holding s) (frees : Frees s id after) :
    Holding after := by
  cases frees with
  | nothing running manager pool =>
    refine ⟨⟨?_, ?_⟩, ?_, ?_⟩
    · rw [running]
      exact holding.exclusive.machine
    · rw [running]
      exact holding.exclusive.share
    · rw [running, manager]
      exact holding.machine
    · rw [running, pool]
      exact holding.pooled
  | device freed found others released =>
    refine ⟨⟨?_, ?_⟩, ?_, ?_⟩
    · intro first second task otherTask number here there left right
      rcases others first task here with none | ⟨-, old⟩
      · exact absurd left (none.1 number)
      · rcases others second otherTask there with none | ⟨-, older⟩
        · exact absurd right (none.1 number)
        · exact holding.exclusive.machine first second task otherTask number old older left right
    · intro first second task otherTask share here there left right
      rcases others first task here with none | ⟨-, old⟩
      · exact absurd left (none.2 share)
      · rcases others second otherTask there with none | ⟨-, older⟩
        · exact absurd right (none.2 share)
        · exact holding.exclusive.share first second task otherTask share old older left right
    · intro other task number here holds
      rcases others other task here with none | ⟨different, old⟩
      · exact absurd holds (none.1 number)
      · rw [released.machine number]
        · exact holding.machine other task number old holds
        · intro mine
          exact different (holding.exclusive.machine other id task freed number old found holds mine)
    · intro other task share here holds gone
      rcases others other task here with none | ⟨different, old⟩
      · exact absurd holds (none.2 share)
      · exact holding.pooled other task share old holds (released.pooled gone)

/-! ## Calls -/

theorem release_running {id : String} {task later : Task} (holding : Holding s)
    (found : s.runningTasks.get? id = some task) (number : later.gpuDeviceId = task.gpuDeviceId)
    (share : later.remoteGpuShareId = task.remoteGpuShareId) :
    ∃ freed manager pool,
      s.releaseGpuForTask later = (freed, { s with gpuManager := manager, gpuPool := pool }) ∧
        HoldsNothing freed ∧ Released s task manager pool := by
  have machine : ∀ n, later.HoldsMachine n ↔ task.HoldsMachine n := by
    intro n
    unfold Task.HoldsMachine
    rw [number, share]
  have shares : ∀ name, later.HoldsShare name ↔ task.HoldsShare name := by
    intro name
    unfold Task.HoldsShare
    rw [share]
  have pooled : ∀ name, later.HoldsShare name -> s.gpuPool ≠ none :=
    fun name holds => holding.pooled id task name found ((shares name).mp holds)
  rcases releaseGpuForTask_released later pooled with ⟨freed, manager, pool, equal, none, released⟩
  refine ⟨freed, manager, pool, equal, none, ?_, ?_, ?_, released.pooled⟩
  · exact fun n free => released.machine n fun holds => free ((machine n).mp holds)
  · exact fun name free => released.states name fun holds => free ((shares name).mp holds)
  · exact fun name free => released.locks name fun holds => free ((shares name).mp holds)

theorem cancelTask_frees (holding : Holding s) (id : String) : Frees s id (s.cancelTask id).2 := by
  unfold cancelTask
  split
  · exact .nothing rfl rfl rfl
  · split
    · next task found =>
        rcases @release_running s id task { task with status := .cancelled } holding found rfl rfl with
          ⟨freed, manager, pool, equal, none, released⟩
        rw [equal]
        refine .device task found ?_ released
        intro other later lookup
        rcases get?_set_cases lookup with ⟨-, rfl⟩ | old
        · exact Or.inl none
        · exact Or.inr old
    · exact .nothing rfl rfl rfl

theorem markTaskCompleted_frees (holding : Holding s) (id : String) :
    Frees s id (s.markTaskCompleted id) := by
  unfold markTaskCompleted
  split
  · exact .nothing rfl rfl rfl
  · next task found =>
      rcases @release_running s id task { task with status := .completed } holding found rfl rfl with
        ⟨freed, manager, pool, equal, none, released⟩
      rw [equal]
      exact .device task found (fun _ _ lookup => Or.inr (get?_erase_eq_some lookup)) released

theorem markTaskFailed_frees (holding : Holding s) (id error : String) (traceback : Option String) :
    Frees s id (s.markTaskFailed id error traceback) := by
  unfold markTaskFailed
  split
  · exact .nothing rfl rfl rfl
  · next task found =>
      rcases @release_running s id task
        { task with status := .failed, error := some error, traceback := traceback } holding found
        rfl rfl with ⟨freed, manager, pool, equal, none, released⟩
      rw [equal]
      exact .device task found (fun _ _ lookup => Or.inr (get?_erase_eq_some lookup)) released

theorem markTaskRunning_holding (holding : Holding s) (id : String) :
    Holding (s.markTaskRunning id) := by
  unfold markTaskRunning
  split
  · exact holding
  · next task found =>
      have before : ∀ other later,
          (s.runningTasks.set id { task with status := .running }).get? other = some later ->
          ∃ old, s.runningTasks.get? other = some old ∧
            (∀ number, later.HoldsMachine number -> old.HoldsMachine number) ∧
            ∀ share, later.HoldsShare share -> old.HoldsShare share := by
        intro other later lookup
        rcases get?_set_cases lookup with ⟨rfl, rfl⟩ | ⟨-, old⟩
        · exact ⟨task, found, fun _ holds => holds, fun _ holds => holds⟩
        · exact ⟨later, old, fun _ holds => holds, fun _ holds => holds⟩
      refine ⟨⟨?_, ?_⟩, ?_, ?_⟩
      · intro first second left right number here there holds alsoHolds
        rcases before first left here with ⟨old, found, machine, -⟩
        rcases before second right there with ⟨older, founder, alsoMachine, -⟩
        exact holding.exclusive.machine first second old older number found founder
          (machine number holds) (alsoMachine number alsoHolds)
      · intro first second left right share here there holds alsoHolds
        rcases before first left here with ⟨old, found, -, shares⟩
        rcases before second right there with ⟨older, founder, -, alsoShares⟩
        exact holding.exclusive.share first second old older share found founder
          (shares share holds) (alsoShares share alsoHolds)
      · intro other later number here holds
        rcases before other later here with ⟨old, found, machine, -⟩
        exact holding.machine other old number found (machine number holds)
      · intro other later share here holds
        rcases before other later here with ⟨old, found, -, shares⟩
        exact holding.pooled other old share found (shares share holds)

/-- The devices that other running tasks hold keep their states. -/
def KeepsOthers (s : TaskScheduler) (id : String) (after : TaskScheduler) : Prop :=
  ∀ other task, s.runningTasks.get? other = some task -> other ≠ id ->
    (∀ number, task.HoldsMachine number ->
      after.gpuManager.stateOf number = s.gpuManager.stateOf number) ∧
    ∀ share, task.HoldsShare share ->
      shareState after.gpuPool share = shareState s.gpuPool share ∧
        lockOf after.gpuPool share = lockOf s.gpuPool share

/-- A call that releases the device of a task frees no device of another one. -/
def ReleasesOwn (hash : String -> Int) (s : TaskScheduler) (call : SchedulerCall) : Prop :=
  match call with
  | .cancel id | .markCompleted id | .markFailed id _ _ => KeepsOthers s id (s.step hash call)
  | _ => True

/-- A pass finds every share that a running task holds listed as busy or locked,
and no request for a negative amount of memory that it could meet. -/
def PassGuarded (s : TaskScheduler) : SchedulerCall -> Prop
  | .schedule _ => Guarded s ∧ MemoryAsked s
  | _ => True

theorem keepsOthers_frees {id : String} (holding : Holding s) (frees : Frees s id after) :
    KeepsOthers s id after := by
  intro other task running different
  cases frees with
  | nothing _ manager pool =>
    rw [manager, pool]
    exact ⟨fun _ _ => rfl, fun _ _ => ⟨rfl, rfl⟩⟩
  | device freed found others released =>
    constructor
    · intro number holds
      apply released.machine number
      intro mine
      exact different (holding.exclusive.machine other id task freed number running found holds mine)
    · intro share holds
      have free : ¬ freed.HoldsShare share := by
        intro mine
        exact different (holding.exclusive.share other id task freed share running found holds mine)
      exact ⟨released.states share free, released.locks share free⟩

theorem refresh_holding (holding : Holding s) (remoteGpus : List RegistryEntry) :
    Holding (s.refreshRemoteGpus remoteGpus) := by
  unfold refreshRemoteGpus
  split
  · exact holding
  · split
    · exact holding
    · refine ⟨⟨holding.exclusive.machine, holding.exclusive.share⟩, holding.machine, ?_⟩
      rintro id task share running holds ⟨⟩

theorem redis_holding (holding : Holding s) (redis : Redis) : Holding (s.redisChanges redis) := by
  unfold redisChanges
  split
  · refine ⟨⟨holding.exclusive.machine, holding.exclusive.share⟩, holding.machine, ?_⟩
    rintro id task share running holds ⟨⟩
  · exact holding

theorem submit_holding (holding : Holding s) (task : Task) :
    Holding (s.step hash (.submit task)) := by
  unfold step submitTask
  by_cases allowed : s.checkUserQuota task.userId = true
  · simp only [allowed, if_true]
    exact ⟨⟨holding.exclusive.machine, holding.exclusive.share⟩, holding.machine, holding.pooled⟩
  · simp only [allowed]
    exact holding

theorem step_holding (holding : Holding s) {call : SchedulerCall} (guarded : PassGuarded s call) :
    Holding (s.step hash call) := by
  cases call with
  | submit task => exact submit_holding holding task
  | schedule faults => exact schedule_holding ⟨holding, guarded.1, guarded.2⟩ faults
  | cancel id => exact holding_frees holding (cancelTask_frees holding id)
  | markRunning id => exact markTaskRunning_holding holding id
  | markCompleted id => exact holding_frees holding (markTaskCompleted_frees holding id)
  | markFailed id error traceback =>
    exact holding_frees holding (markTaskFailed_frees holding id error traceback)
  | setQuota user quota =>
    exact ⟨⟨holding.exclusive.machine, holding.exclusive.share⟩, holding.machine, holding.pooled⟩
  | refresh remoteGpus => exact refresh_holding holding remoteGpus
  | redis redis => exact redis_holding holding redis

theorem releasesOwn_of_holding (holding : Holding s) (call : SchedulerCall) :
    ReleasesOwn hash s call := by
  cases call with
  | cancel id => exact keepsOthers_frees holding (cancelTask_frees holding id)
  | markCompleted id => exact keepsOthers_frees holding (markTaskCompleted_frees holding id)
  | markFailed id error traceback =>
    exact keepsOthers_frees holding (markTaskFailed_frees holding id error traceback)
  | submit task => trivial
  | schedule faults => trivial
  | markRunning id => trivial
  | setQuota user quota => trivial
  | refresh remoteGpus => trivial
  | redis redis => trivial

theorem initial_holding (manager : GPUManager) (pool : Option GpuPool) (limit : Int) :
    Holding (initial manager pool limit) := by
  refine ⟨⟨?_, ?_⟩, ?_, ?_⟩
  · rintro id other task otherTask number ⟨⟩
  · rintro id other task otherTask share ⟨⟩
  · rintro id task number ⟨⟩
  · rintro id task share ⟨⟩

/-- In every run whose passes find the held shares guarded, no two running tasks
hold one device in any state, and no release frees a device of another task. -/
theorem devices_exclusive (hash : String -> Int) (manager : GPUManager) (pool : Option GpuPool)
    (limit : Int) (calls : List SchedulerCall)
    (guarded : Meets (step hash) PassGuarded (initial manager pool limit) calls) :
    (∀ front back, calls = front ++ back ->
      Exclusive (front.foldl (step hash) (initial manager pool limit))) ∧
      Meets (step hash) (ReleasesOwn hash) (initial manager pool limit) calls := by
  constructor
  · rintro front back rfl
    have holding : Holding (front.foldl (step hash) (initial manager pool limit)) :=
      (meets_append.mp guarded).1.invariant (initial_holding manager pool limit)
        fun _ _ holding guarded => step_holding holding guarded
    exact holding.exclusive
  · exact guarded.gives (initial_holding manager pool limit)
      (fun _ _ holding guarded => step_holding holding guarded)
      (fun _ call holding _ => releasesOwn_of_holding holding call)

theorem memorySound_singleDevice (task : Task) : MemorySound singleDevice task := by
  intro number device found _ _
  by_cases same : number = 0
  · subst same
    have equal : (⟨0, .nvidia, 4096, .idle, none⟩ : GPUDevice) = device :=
      Option.some.inj ((get?_set_self).symm.trans found)
    rw [← equal]
    decide
  · have missing := (get?_set_of_ne same).symm.trans found
    cases missing

/-- Task "a" takes the share of its room.  The registry lists the share as idle again,
and "b" and "c" ask for devices: "b" gets the one of the machine, and "c" is
refused the share, which is locked. -/
def relistedLockedRun : List SchedulerCall :=
  [.refresh [listedShare], .submit { taskId := "a", createdAt := 0, roomId := some "n" },
    .schedule (fun _ => none), .refresh [listedShare], .submit { taskId := "b", createdAt := 1 },
    .submit { taskId := "c", createdAt := 2, roomId := some "n" }, .schedule (fun _ => none),
    .markCompleted "b"]

def relistedLockedState (count : Nat) : TaskScheduler :=
  (relistedLockedRun.take count).foldl (step fun _ => 0) (initial singleDevice (some lockedPool) 10)

theorem relistedLockedRun_guarded :
    Meets (step fun _ => 0) PassGuarded (initial singleDevice (some lockedPool) 10)
      relistedLockedRun := by
  have memory : ∀ count, (relistedLockedState count).gpuManager = singleDevice ->
      MemoryAsked (relistedLockedState count) := by
    intro count manager item _
    rw [manager]
    exact memorySound_singleDevice item.task
  have first : Guarded (relistedLockedState 2) := by
    intro id task share found
    have running : (relistedLockedState 2).runningTasks = Dict.empty := by
      with_unfolding_all rfl
    rw [running] at found
    cases found
  have second : Guarded (relistedLockedState 6) := by
    intro id task share found holds
    right
    have keys : (relistedLockedState 6).runningTasks.keys = ["a"] := by
      with_unfolding_all rfl
    have named : ((relistedLockedState 6).runningTasks.get? "a").map Task.remoteGpuShareId =
        some (some "s") := by
      with_unfolding_all rfl
    have locked : (lockOf (relistedLockedState 6).gpuPool "s").isSome = true := by
      with_unfolding_all rfl
    have same : id = "a" := by
      have member := mem_keys_of_get? found
      rw [keys] at member
      exact List.mem_singleton.mp member
    rw [← same, found] at named
    have other := Option.some.inj named
    rw [holds.1] at other
    rw [Option.some.inj other]
    exact locked
  exact ⟨trivial, trivial, ⟨first, memory 2 (by with_unfolding_all rfl)⟩, trivial, trivial, trivial,
    ⟨second, memory 6 (by with_unfolding_all rfl)⟩, trivial, trivial⟩

/-- One task holds a share that was listed again, another the local device, and the end
of the second leaves the first its share. -/
theorem devices_exclusive_relistedLockedRun :
    ((relistedLockedState 7).runningTasks.get? "a").map Task.remoteGpuShareId = some (some "s") ∧
      ((relistedLockedState 7).runningTasks.get? "b").map Task.gpuDeviceId = some (some 0) ∧
      (relistedLockedState 7).runningTasks.keys = ["a", "b"] ∧
      Exclusive (relistedLockedState 7) ∧
      KeepsOthers (relistedLockedState 7) "b" (relistedLockedState 8) := by
  have both := devices_exclusive (fun _ => 0) singleDevice (some lockedPool) 10 relistedLockedRun
    relistedLockedRun_guarded
  refine ⟨by with_unfolding_all rfl, by with_unfolding_all rfl, by with_unfolding_all rfl, ?_, ?_⟩
  · exact both.1 (relistedLockedRun.take 7) [.markCompleted "b"] rfl
  · exact @Meets.at _ _ _ _ _ (relistedLockedRun.take 7) [] _ both.2

/-- Without a lock a registry that lists a held share as idle again lets the next
pass give it to a second task. -/
def relistedRun : List SchedulerCall :=
  [.refresh [listedShare], .submit { taskId := "a", createdAt := 0 }, .schedule (fun _ => none),
    .refresh [listedShare], .submit { taskId := "b", createdAt := 0 }, .schedule (fun _ => none)]

def unlockedPool : GpuPool where
  remoteDevices := RemoteDevices.empty
  remoteLock := none

/-- A share that a refresh lists as idle is given to a second task. -/
theorem share_held_twice :
    ¬ ∀ (hash : String -> Int) (manager : GPUManager) (pool : Option GpuPool) (limit : Int)
      (calls : List SchedulerCall), (submittedIds calls).Nodup ->
      (∀ front back, calls = front ++ back ->
        Exclusive (front.foldl (step hash) (initial manager pool limit))) ∧
        Meets (step hash) (ReleasesOwn hash) (initial manager pool limit) calls := by
  intro exclusive
  have last := (exclusive (fun _ => 0) noDevice (some unlockedPool) 10 relistedRun (by decide)).1
    relistedRun [] rfl
  have first : ((relistedRun.foldl (step fun _ => 0)
      (initial noDevice (some unlockedPool) 10)).runningTasks.get? "a").map Task.remoteGpuShareId =
        some (some "s") := by
    with_unfolding_all rfl
  have second : ((relistedRun.foldl (step fun _ => 0)
      (initial noDevice (some unlockedPool) 10)).runningTasks.get? "b").map Task.remoteGpuShareId =
        some (some "s") := by
    with_unfolding_all rfl
  rcases Option.map_eq_some_iff.mp first with ⟨task, found, share⟩
  rcases Option.map_eq_some_iff.mp second with ⟨other, founder, sameShare⟩
  have same : "a" = "b" := last.share "a" "b" task other "s" found founder
    ⟨share, by decide⟩ ⟨sameShare, by decide⟩
  exact absurd same (by decide)

end TaskScheduler

end Core
end ZepGpu
