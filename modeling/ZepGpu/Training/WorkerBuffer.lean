import Mathlib.Data.List.Count
import ZepGpu.Foundation.Runs

namespace ZepGpu
namespace Training

open List

open Foundation (Meets meets_append)

/-!
# The event buffer of a training worker

A worker sends its events to the coordinator and keeps those that it could not
send in a bounded buffer.  After a reconnect it flushes the buffer from its
head.  The tasks of one worker run on one event loop: what stands between two
awaits happens at once, and other tasks take their turns at the awaits.
-/

/-- An event that a worker reports. -/
structure WorkerEvent (π : Type) where
  eventId : Nat
  kind : String
  timestamp : Int
  payload : π
deriving DecidableEq

def terminalKinds : List String :=
  ["aborted", "shutdown", "completed", "round_failed"]

def WorkerEvent.terminal {π : Type} (event : WorkerEvent π) : Bool :=
  terminalKinds.contains event.kind

/-- The events that wait for the connection to come back. -/
structure PersistentTrainingWorker (π : Type) where
  bufferLimit : Nat
  positive : 0 < bufferLimit
  buffer : List (WorkerEvent π)
  droppedEventCount : Nat

namespace PersistentTrainingWorker

variable {π : Type}

def append (worker : PersistentTrainingWorker π) (event : WorkerEvent π) :
    PersistentTrainingWorker π :=
  if worker.buffer.length = worker.bufferLimit then
    { worker with
      buffer := worker.buffer.tail ++ [event]
      droppedEventCount := worker.droppedEventCount + 1 }
  else { worker with buffer := worker.buffer ++ [event] }

def bufferEvent (worker : PersistentTrainingWorker π) (event : WorkerEvent π) :
    PersistentTrainingWorker π :=
  if event.terminal then ({ worker with buffer := [] } : PersistentTrainingWorker π).append event
  else if worker.buffer.any WorkerEvent.terminal then worker
  else worker.append event

theorem bufferEvent_terminal {worker : PersistentTrainingWorker π} {event : WorkerEvent π}
    (terminal : event.terminal = true) : (worker.bufferEvent event).buffer = [event] := by
  have room : ¬ ([] : List (WorkerEvent π)).length = worker.bufferLimit :=
    fun full => absurd worker.positive (full ▸ Nat.lt_irrefl 0)
  unfold bufferEvent append
  rw [if_pos terminal, if_neg room]
  rfl

theorem mem_bufferEvent {worker : PersistentTrainingWorker π} {event kept : WorkerEvent π}
    (other : event.terminal = false) (terminal : kept.terminal = true)
    (member : kept ∈ worker.buffer) : kept ∈ (worker.bufferEvent event).buffer := by
  have waits : worker.buffer.any WorkerEvent.terminal = true :=
    any_eq_true.mpr ⟨kept, member, terminal⟩
  unfold bufferEvent
  rw [if_neg (by rw [other]; exact Bool.false_ne_true), if_pos waits]
  exact member

theorem mem_of_mem_bufferEvent {worker : PersistentTrainingWorker π} {event kept : WorkerEvent π}
    (member : kept ∈ (worker.bufferEvent event).buffer) : kept ∈ worker.buffer ∨ kept = event := by
  by_cases terminal : event.terminal = true
  · rw [bufferEvent_terminal terminal] at member
    exact Or.inr (mem_singleton.mp member)
  · unfold bufferEvent append at member
    rw [if_neg terminal] at member
    split_ifs at member
    · exact Or.inl member
    · rcases mem_append.mp member with old | new
      · exact Or.inl (mem_of_mem_tail old)
      · exact Or.inr (mem_singleton.mp new)
    · rcases mem_append.mp member with old | new
      · exact Or.inl old
      · exact Or.inr (mem_singleton.mp new)

end PersistentTrainingWorker

/-!
The tasks of a worker at their awaits.  An `_emit` that awaits the coordinator
holds its event, and so does a `reconnect` whose flush awaits the answer for
what it read at the head of the buffer.  Three lists only record the past: the
events that reached the coordinator, the events whose `_emit` has ended, and
what a terminal event cleared from the buffer.  Event ids are numbered as they
are made, which is what `uuid4` is used for.
-/

/-- The worker with its calls that have not yet returned. -/
structure WorkerTasks (π : Type) where
  worker : PersistentTrainingWorker π
  issued : Nat
  emits : List (WorkerEvent π)
  flushes : List (WorkerEvent π)
  delivered : List (WorkerEvent π)
  emitted : List (WorkerEvent π)
  superseded : List (WorkerEvent π × WorkerEvent π)

/-- How `coordinator.event` ends.  A connection that fails may have failed after
the event had reached the coordinator.  Any other exception is a refusal. -/
inductive EventAnswer where
  | accepted
  | unreachable (reached : Bool)
  | refused
deriving DecidableEq

def EventAnswer.reached : EventAnswer -> Bool
  | .accepted => true
  | .unreachable reached => reached
  | .refused => false

/-- A call of the worker, or an answer to a request that it waits for. -/
inductive WorkerCall (π : Type) where
  | emit (kind : String) (timestamp : Int) (payload : π)
  | emitAnswered (event : WorkerEvent π) (answer : EventAnswer)
  | reconnect
  | flushAnswered (event : WorkerEvent π) (answer : EventAnswer)
deriving DecidableEq

namespace WorkerTasks

variable {π : Type}

def start (limit : Nat) (positive : 0 < limit) : WorkerTasks π where
  worker := { bufferLimit := limit, positive, buffer := [], droppedEventCount := 0 }
  issued := 0
  emits := []
  flushes := []
  delivered := []
  emitted := []
  superseded := []

def ended (tasks : WorkerTasks π) (event : WorkerEvent π) : WorkerTasks π :=
  { tasks with emitted := tasks.emitted ++ [event] }

def answered (tasks : WorkerTasks π) (event : WorkerEvent π) (answer : EventAnswer) :
    WorkerTasks π :=
  if answer.reached then { tasks with delivered := tasks.delivered ++ [event] } else tasks

def buffered (tasks : WorkerTasks π) (event : WorkerEvent π) : WorkerTasks π :=
  { tasks with
    worker := tasks.worker.bufferEvent event
    superseded := tasks.superseded ++
      if event.terminal then tasks.worker.buffer.map fun cleared => (cleared, event) else [] }

/-- `while self._buffer: await self.coordinator.event(self.worker_id, self._buffer[0])` -/
def flushHead (tasks : WorkerTasks π) : WorkerTasks π :=
  match tasks.worker.buffer with
  | [] => tasks
  | head :: _ => { tasks with flushes := tasks.flushes ++ [head] }

/-- `self._buffer.popleft()`, which ends the reconnect with an `IndexError` on an
empty buffer, and the next turn of the loop. -/
def flushNext (tasks : WorkerTasks π) : WorkerTasks π :=
  match tasks.worker.buffer with
  | [] => tasks
  | _ :: rest => ({ tasks with worker := { tasks.worker with buffer := rest } } :
      WorkerTasks π).flushHead

def emit (tasks : WorkerTasks π) (kind : String) (timestamp : Int) (payload : π) :
    WorkerTasks π :=
  let event : WorkerEvent π := { eventId := tasks.issued, kind, timestamp, payload }
  let tasks := { tasks with issued := tasks.issued + 1 }
  if tasks.worker.buffer = [] then { tasks with emits := tasks.emits ++ [event] }
  else (tasks.buffered event).ended event

variable [DecidableEq π]

def emitAnswered (tasks : WorkerTasks π) (event : WorkerEvent π) (answer : EventAnswer) :
    WorkerTasks π :=
  if event ∈ tasks.emits then
    let tasks := ({ tasks with emits := tasks.emits.erase event } :
      WorkerTasks π).answered event answer
    match answer with
    | .accepted | .refused => tasks.ended event
    | .unreachable _ => (tasks.buffered event).ended event
  else tasks

def flushAnswered (tasks : WorkerTasks π) (event : WorkerEvent π) (answer : EventAnswer) :
    WorkerTasks π :=
  if event ∈ tasks.flushes then
    let tasks := ({ tasks with flushes := tasks.flushes.erase event } :
      WorkerTasks π).answered event answer
    match answer with
    | .accepted => tasks.flushNext
    -- the exception leaves `reconnect` and the buffer as it is
    | .unreachable _ | .refused => tasks
  else tasks

def perform (tasks : WorkerTasks π) : WorkerCall π -> WorkerTasks π
  | .emit kind timestamp payload => tasks.emit kind timestamp payload
  | .emitAnswered event answer => tasks.emitAnswered event answer
  -- after it has authenticated; the `_emit` at its end is a call of its own
  | .reconnect => tasks.flushHead
  | .flushAnswered event answer => tasks.flushAnswered event answer

def runCalls (tasks : WorkerTasks π) (calls : List (WorkerCall π)) : WorkerTasks π :=
  calls.foldl perform tasks

/-- An event of which the worker can still say where it went. -/
def Kept (tasks : WorkerTasks π) (event : WorkerEvent π) : Prop :=
  event ∈ tasks.delivered ∨ event ∈ tasks.worker.buffer ∨
    ∃ later, later.terminal = true ∧ (event, later) ∈ tasks.superseded

/-- Every terminal event is delivered or still on its way. -/
def NothingLost (tasks : WorkerTasks π) : Prop :=
  ∀ event, event ∈ tasks.emitted -> event.terminal = true -> tasks.Kept event

/-- Not an answer by which the coordinator refuses an emitted event. -/
def ConnectionFailure : WorkerCall π -> Prop
  | .emitAnswered _ .refused => False
  | _ => True

/-- What the flush takes from the buffer after a delivery is the event that was
delivered, or one that was before, or no terminal event. -/
def PopsDelivered (tasks : WorkerTasks π) : WorkerCall π -> Prop
  | .flushAnswered event .accepted =>
    event ∈ tasks.flushes -> ∀ head, tasks.worker.buffer.head? = some head ->
      head.terminal = true -> head = event ∨ head ∈ tasks.delivered
  | _ => True

/-!
Where an event is.  It waits in its `_emit`, then perhaps in the buffer, and
perhaps it is cleared from there: never in two of these, and never twice in one.
-/

def places (tasks : WorkerTasks π) (event : WorkerEvent π) : Nat :=
  tasks.emits.count event + tasks.worker.buffer.count event +
    (tasks.superseded.map Prod.fst).count event

/-- No event is in two places, and what is in the buffer was emitted. -/
structure Sound (tasks : WorkerTasks π) : Prop where
  once : ∀ event, tasks.places event ≤ if event.eventId < tasks.issued then 1 else 0
  ended : ∀ event, event ∈ tasks.worker.buffer -> event ∈ tasks.emitted

theorem sound_start (limit : Nat) (positive : 0 < limit) :
    (start limit positive : WorkerTasks π).Sound where
  once _ := Nat.zero_le _
  ended _ member := absurd member not_mem_nil

theorem count_bufferEvent (worker : PersistentTrainingWorker π) (event other : WorkerEvent π) :
    (worker.bufferEvent event).buffer.count other +
        (if event.terminal then worker.buffer else []).count other ≤
      worker.buffer.count other + [event].count other := by
  by_cases terminal : event.terminal = true
  · rw [PersistentTrainingWorker.bufferEvent_terminal terminal, if_pos terminal]
    exact Nat.le_of_eq (Nat.add_comm _ _)
  · have tail : worker.buffer.tail.count other ≤ worker.buffer.count other :=
      (tail_sublist worker.buffer).count_le other
    unfold PersistentTrainingWorker.bufferEvent PersistentTrainingWorker.append
    rw [if_neg terminal, if_neg terminal]
    split_ifs
    · exact Nat.le_add_right _ _
    · simpa [count_append] using tail
    · simp [count_append]

theorem places_buffered (tasks : WorkerTasks π) (event other : WorkerEvent π) :
    (tasks.buffered event).places other ≤ tasks.places other + [event].count other := by
  have moved := count_bufferEvent tasks.worker event other
  have cleared : ((if event.terminal then tasks.worker.buffer.map fun old => (old, event)
      else []).map Prod.fst) = if event.terminal then tasks.worker.buffer else [] := by
    split_ifs
    · rw [map_map]
      exact map_id _
    · rfl
  calc (tasks.buffered event).places other
    _ = tasks.emits.count other + (tasks.worker.bufferEvent event).buffer.count other +
          ((tasks.superseded ++ if event.terminal then
            tasks.worker.buffer.map fun old => (old, event) else []).map Prod.fst).count other := rfl
    _ = tasks.emits.count other + (tasks.worker.bufferEvent event).buffer.count other +
          ((tasks.superseded.map Prod.fst).count other +
            (if event.terminal then tasks.worker.buffer else []).count other) := by
        rw [map_append, cleared, count_append]
    _ ≤ tasks.places other + [event].count other := by
        unfold places
        omega

variable {tasks : WorkerTasks π}

omit [DecidableEq π] in
theorem mem_emitted_buffered {event kept : WorkerEvent π}
    (ended : ∀ event, event ∈ tasks.worker.buffer -> event ∈ tasks.emitted)
    (member : kept ∈ ((tasks.buffered event).ended event).worker.buffer) :
    kept ∈ ((tasks.buffered event).ended event).emitted := by
  rcases PersistentTrainingWorker.mem_of_mem_bufferEvent member with old | new
  · exact mem_append_left _ (ended kept old)
  · exact mem_append_right _ (mem_singleton.mpr new)

theorem Sound.emit (sound : tasks.Sound) (kind : String) (timestamp : Int) (payload : π) :
    (tasks.emit kind timestamp payload).Sound := by
  let event : WorkerEvent π := { eventId := tasks.issued, kind, timestamp, payload }
  let next : WorkerTasks π := { tasks with issued := tasks.issued + 1 }
  have fresh : ∀ other, tasks.places other + [event].count other ≤
      if other.eventId < tasks.issued + 1 then 1 else 0 := by
    intro other
    have before := sound.once other
    by_cases same : other = event
    · have unseen : ¬ other.eventId < tasks.issued := by
        rw [same]
        exact Nat.lt_irrefl _
      have seen : other.eventId < tasks.issued + 1 := by
        rw [same]
        exact Nat.lt_succ_self _
      rw [if_neg unseen] at before
      rw [if_pos seen, same, count_singleton_self, ← same]
      omega
    · rw [count_singleton, if_neg (by simpa using Ne.symm same)]
      apply Nat.le_trans before
      split_ifs <;> omega
  unfold WorkerTasks.emit
  by_cases empty : tasks.worker.buffer = []
  · rw [if_pos empty]
    constructor
    · intro other
      apply Nat.le_trans (Nat.le_of_eq ?_) (fresh other)
      change (tasks.emits ++ [event]).count other + tasks.worker.buffer.count other +
        (tasks.superseded.map Prod.fst).count other = _
      rw [count_append, places]
      omega
    · exact sound.ended
  · rw [if_neg empty]
    constructor
    · intro other
      exact Nat.le_trans (places_buffered next event other) (fresh other)
    · intro kept member
      exact mem_emitted_buffered sound.ended member

theorem Sound.answered (sound : tasks.Sound) (event : WorkerEvent π) (answer : EventAnswer) :
    (tasks.answered event answer).Sound := by
  unfold WorkerTasks.answered
  split_ifs
  · exact ⟨sound.once, sound.ended⟩
  · exact sound

theorem Sound.emitAnswered (sound : tasks.Sound) (event : WorkerEvent π) (answer : EventAnswer) :
    (tasks.emitAnswered event answer).Sound := by
  unfold WorkerTasks.emitAnswered
  by_cases waits : event ∈ tasks.emits
  · rw [if_pos waits]
    let waiting : WorkerTasks π := { tasks with emits := tasks.emits.erase event }
    have taken : ∀ other, waiting.places other + [event].count other = tasks.places other := by
      intro other
      have counted := (perm_cons_erase waits).count_eq other
      rw [count_cons] at counted
      change (tasks.emits.erase event).count other + tasks.worker.buffer.count other +
        (tasks.superseded.map Prod.fst).count other + [event].count other = _
      rw [count_singleton, places, counted]
      omega
    have left : waiting.Sound := by
      refine ⟨fun other => ?_, sound.ended⟩
      exact Nat.le_trans (Nat.le.intro (taken other)) (sound.once other)
    have answered := left.answered event answer
    cases answer with
    | accepted => exact ⟨answered.once, fun kept member =>
      mem_append_left _ (answered.ended kept member)⟩
    | refused => exact ⟨answered.once, fun kept member =>
      mem_append_left _ (answered.ended kept member)⟩
    | unreachable reached =>
      constructor
      · intro other
        have same : (waiting.answered event (.unreachable reached)).places other =
            waiting.places other := by
          cases reached <;> rfl
        have issued : (waiting.answered event (.unreachable reached)).issued = tasks.issued := by
          cases reached <;> rfl
        have moved := places_buffered (waiting.answered event (.unreachable reached)) event other
        rw [same, taken other] at moved
        have bound := Nat.le_trans moved (sound.once other)
        rw [← issued] at bound
        exact bound
      · intro kept member
        exact mem_emitted_buffered answered.ended member
  · rw [if_neg waits]
    exact sound

theorem Sound.flushHead (sound : tasks.Sound) : tasks.flushHead.Sound := by
  unfold WorkerTasks.flushHead
  split
  · exact sound
  · exact ⟨sound.once, sound.ended⟩

theorem Sound.flushNext (sound : tasks.Sound) : tasks.flushNext.Sound := by
  unfold WorkerTasks.flushNext
  split
  case h_1 => exact sound
  case h_2 head rest waits =>
    apply Sound.flushHead
    constructor
    · intro event
      have before := sound.once event
      unfold places at before ⊢
      rw [waits, count_cons] at before
      apply Nat.le_trans _ before
      dsimp only
      omega
    · intro event member
      exact sound.ended event (waits ▸ mem_cons_of_mem head member)

theorem Sound.perform (sound : tasks.Sound) (call : WorkerCall π) : (tasks.perform call).Sound := by
  cases call with
  | emit kind timestamp payload => exact sound.emit kind timestamp payload
  | emitAnswered event answer => exact sound.emitAnswered event answer
  | reconnect => exact sound.flushHead
  | flushAnswered event answer =>
    change (tasks.flushAnswered event answer).Sound
    have left : ({ tasks with flushes := tasks.flushes.erase event } : WorkerTasks π).Sound :=
      ⟨sound.once, sound.ended⟩
    have answered := left.answered event answer
    unfold WorkerTasks.flushAnswered
    split_ifs
    · cases answer with
      | accepted => exact answered.flushNext
      | unreachable reached => exact answered
      | refused => exact answered
    · exact sound

/-!
What becomes of the terminal events.  Only the `popleft` of a flush can take one
from the buffer without another coming in its place.
-/

section Fates

omit [DecidableEq π]

variable {tasks : WorkerTasks π}

theorem Kept.traced {event : WorkerEvent π} (kept : tasks.Kept event) :
    event ∈ tasks.delivered ++ tasks.worker.buffer ++ tasks.superseded.map Prod.fst := by
  rcases kept with delivered | waits | ⟨later, _, cleared⟩
  · exact mem_append_left _ (mem_append_left _ delivered)
  · exact mem_append_left _ (mem_append_right _ waits)
  · exact mem_append_right _ (mem_map.mpr ⟨_, cleared, rfl⟩)

theorem Kept.buffered {event : WorkerEvent π} (kept : tasks.Kept event)
    (terminal : event.terminal = true) (next : WorkerEvent π) :
    (tasks.buffered next).Kept event := by
  rcases kept with delivered | waits | ⟨later, last, cleared⟩
  · exact Or.inl delivered
  · by_cases last : next.terminal = true
    · apply Or.inr ∘ Or.inr
      refine ⟨next, last, mem_append_right _ ?_⟩
      rw [if_pos last]
      exact mem_map_of_mem waits
    · apply Or.inr ∘ Or.inl
      exact PersistentTrainingWorker.mem_bufferEvent (Bool.not_eq_true _ ▸ last) terminal waits
  · exact Or.inr (Or.inr ⟨later, last, mem_append_left _ cleared⟩)

theorem NothingLost.buffered (nothing : tasks.NothingLost) (next : WorkerEvent π) :
    ((tasks.buffered next).ended next).NothingLost := by
  intro event member terminal
  rcases mem_append.mp member with old | new
  · exact (nothing event old terminal).buffered terminal next
  · rw [mem_singleton] at new
    apply Or.inr ∘ Or.inl
    have waits : ((tasks.buffered next).worker).buffer = [next] :=
      PersistentTrainingWorker.bufferEvent_terminal (new ▸ terminal)
    change event ∈ (tasks.buffered next).worker.buffer
    rw [waits, new]
    exact mem_singleton.mpr rfl

theorem Kept.answered {event : WorkerEvent π} (kept : tasks.Kept event) (next : WorkerEvent π)
    (answer : EventAnswer) : (tasks.answered next answer).Kept event := by
  unfold WorkerTasks.answered
  split_ifs
  · rcases kept with delivered | rest
    · exact Or.inl (mem_append_left _ delivered)
    · exact Or.inr rest
  · exact kept

theorem NothingLost.answered (nothing : tasks.NothingLost) (next : WorkerEvent π)
    (answer : EventAnswer) : (tasks.answered next answer).NothingLost := by
  intro event member terminal
  have old : event ∈ tasks.emitted := by
    unfold WorkerTasks.answered at member
    split_ifs at member <;> exact member
  exact (nothing event old terminal).answered next answer

theorem nothingLost_flushHead (tasks : WorkerTasks π) :
    tasks.flushHead.NothingLost ↔ tasks.NothingLost := by
  unfold WorkerTasks.flushHead
  split <;> rfl

theorem NothingLost.emit (nothing : tasks.NothingLost) (kind : String) (timestamp : Int)
    (payload : π) : (tasks.emit kind timestamp payload).NothingLost := by
  unfold WorkerTasks.emit
  dsimp only
  split_ifs
  · exact nothing
  · apply NothingLost.buffered
    exact nothing

end Fates

theorem NothingLost.emitAnswered (nothing : tasks.NothingLost) (event : WorkerEvent π)
    (answer : EventAnswer) (connection : answer ≠ .refused) :
    (tasks.emitAnswered event answer).NothingLost := by
  have left : ({ tasks with emits := tasks.emits.erase event } : WorkerTasks π).NothingLost :=
    nothing
  have answered := left.answered event answer
  unfold WorkerTasks.emitAnswered
  split_ifs
  · cases answer with
    | accepted =>
      intro other member terminal
      rcases mem_append.mp member with old | new
      · exact answered other old terminal
      · rw [mem_singleton] at new
        exact Or.inl (mem_append_right _ (mem_singleton.mpr new))
    | unreachable reached => exact answered.buffered event
    | refused => exact absurd rfl connection
  · exact nothing

theorem nothingLost_flushNext (sound : tasks.Sound) (nothing : tasks.NothingLost) :
    tasks.flushNext.NothingLost ↔ ∀ head, tasks.worker.buffer.head? = some head ->
      head.terminal = true -> head ∈ tasks.delivered := by
  unfold WorkerTasks.flushNext
  split
  case h_1 empty =>
    rw [empty]
    exact iff_of_true nothing (fun _ none => nomatch none)
  case h_2 head rest waits =>
    have member : head ∈ tasks.worker.buffer := waits ▸ mem_cons_self ..
    have counted : tasks.places head = tasks.emits.count head + (rest.count head + 1) +
        (tasks.superseded.map Prod.fst).count head := by
      unfold places
      rw [waits, count_cons_self]
    have once : tasks.places head ≤ 1 := by
      apply Nat.le_trans (sound.once head)
      split_ifs <;> omega
    rw [nothingLost_flushHead, waits, head?_cons]
    constructor
    · rintro popped _ ⟨rfl⟩ terminal
      rcases popped head (sound.ended head member) terminal with
        delivered | again | ⟨later, _, cleared⟩
      · exact delivered
      · have twice := count_pos_iff.mpr again
        dsimp only at twice
        omega
      · have both := count_pos_iff.mpr (mem_map_of_mem (f := Prod.fst) cleared)
        dsimp only at both
        omega
    · intro delivered event ended terminal
      rcases nothing event ended terminal with done | still | cleared
      · exact Or.inl done
      · rw [waits] at still
        rcases mem_cons.mp still with first | later
        · rw [first]
          exact Or.inl (delivered head rfl (first ▸ terminal))
        · exact Or.inr (Or.inl later)
      · exact Or.inr (Or.inr cleared)

theorem nothingLost_flushAnswered (sound : tasks.Sound) (nothing : tasks.NothingLost)
    (event : WorkerEvent π) (answer : EventAnswer) :
    (tasks.flushAnswered event answer).NothingLost ↔
      tasks.PopsDelivered (.flushAnswered event answer) := by
  have left : ({ tasks with flushes := tasks.flushes.erase event } : WorkerTasks π).NothingLost :=
    nothing
  have answered := left.answered event answer
  unfold WorkerTasks.flushAnswered
  by_cases flushed : event ∈ tasks.flushes
  · rw [if_pos flushed]
    cases answer with
    | accepted =>
      let taken : WorkerTasks π := { tasks with flushes := tasks.flushes.erase event }
      have soundTaken : taken.Sound := ⟨sound.once, sound.ended⟩
      have arrived := soundTaken.answered event .accepted
      refine (nothingLost_flushNext arrived answered).trans ?_
      constructor
      · intro delivered _ head first terminal
        rcases mem_append.mp (delivered head first terminal) with before | now
        · exact Or.inr before
        · exact Or.inl (mem_singleton.mp now)
      · intro pops head first terminal
        rcases pops flushed head first terminal with now | before
        · exact mem_append_right _ (mem_singleton.mpr now)
        · exact mem_append_left _ before
    | unreachable reached => exact iff_of_true answered trivial
    | refused => exact iff_of_true answered trivial
  · rw [if_neg flushed]
    cases answer with
    | accepted => exact iff_of_true nothing fun member => absurd member flushed
    | unreachable reached => exact iff_of_true nothing trivial
    | refused => exact iff_of_true nothing trivial

theorem nothingLost_perform (tasks : WorkerTasks π) (call : WorkerCall π) (sound : tasks.Sound)
    (nothing : tasks.NothingLost) (connection : ConnectionFailure call) :
    (tasks.perform call).NothingLost ↔ tasks.PopsDelivered call := by
  cases call with
  | emit kind timestamp payload => exact iff_of_true (nothing.emit kind timestamp payload) trivial
  | emitAnswered event answer =>
    refine iff_of_true (nothing.emitAnswered event answer ?_) trivial
    rintro rfl
    exact connection
  | reconnect => exact iff_of_true ((nothingLost_flushHead tasks).mpr nothing) trivial
  | flushAnswered event answer => exact nothingLost_flushAnswered sound nothing event answer

/-- A worker whose coordinator fails only by its connection keeps every terminal
event through a run exactly when no flush pops one that was not delivered. -/
theorem terminal_events_kept (limit : Nat) (positive : 0 < limit) (calls : List (WorkerCall π))
    (connection : ∀ call, call ∈ calls -> ConnectionFailure call) :
    (∀ front back, calls = front ++ back ->
        (runCalls (start limit positive) front).NothingLost) ↔
      Meets perform PopsDelivered (start limit positive) calls :=
  Foundation.meets_iff_throughout (fun _ call sound _ => sound.perform call) nothingLost_perform
    (sound_start limit positive) (fun _ member => absurd member not_mem_nil) connection

def abortedEvent : WorkerEvent Unit :=
  { eventId := 2, kind := "aborted", timestamp := 3, payload := () }

/-- Two flushes, with an event emitted during each.  The first one fails, and what is
buffered by then gives way to `aborted`, which the second one delivers. -/
def abortedCalls : List (WorkerCall Unit) :=
  let progress := { eventId := 0, kind := "progress", timestamp := 1, payload := () }
  [.emit "progress" 1 (), .emitAnswered progress (.unreachable false), .reconnect,
    .emit "progress" 2 (), .flushAnswered progress (.unreachable true), .emit "aborted" 3 (),
    .reconnect, .emit "heartbeat" 4 (), .flushAnswered abortedEvent .accepted]

/-- The last event is kept over a failed flush, and is delivered by the next. -/
theorem aborted_kept :
    (∀ call, call ∈ abortedCalls -> ConnectionFailure call) ∧
      (∀ front back, abortedCalls = front ++ back ->
        (runCalls (start 1000 (by decide)) front).NothingLost) ∧
      abortedEvent ∈ (runCalls (start 1000 (by decide)) abortedCalls).delivered := by
  have connection : ∀ call, call ∈ abortedCalls -> ConnectionFailure call := by
    simp [abortedCalls, ConnectionFailure]
  have head : (runCalls (start 1000 (by decide)) (abortedCalls.take 8)).worker.buffer.head? =
      some abortedEvent := by
    decide +kernel
  have pops : Meets perform PopsDelivered (start 1000 (by decide)) abortedCalls :=
    ⟨trivial, trivial, trivial, trivial, trivial, trivial, trivial, trivial,
      fun _ first found _ => Or.inl (Option.some.inj (found.symm.trans head)), trivial⟩
  exact ⟨connection, (terminal_events_kept 1000 (by decide) abortedCalls connection).mpr pops,
    by decide +kernel⟩

def completedEvent : WorkerEvent Unit :=
  { eventId := 1, kind := "completed", timestamp := 2, payload := () }

/-- While the flush awaits the answer for a progress event, another task emits
`completed`.  It clears the buffer and stands at its head, and the flush pops it. -/
def completedCalls : List (WorkerCall Unit) :=
  let progress := { eventId := 0, kind := "progress", timestamp := 1, payload := () }
  [.emit "progress" 1 (), .emitAnswered progress (.unreachable false), .reconnect,
    .emit "completed" 2 (), .flushAnswered progress .accepted]

/-- A terminal event that arrives during a flush is popped in place of the one that was
sent. -/
theorem completed_popped :
    (∀ call, call ∈ completedCalls -> ConnectionFailure call) ∧
      completedEvent.terminal = true ∧
      completedEvent ∈ (runCalls (start 1000 (by decide)) completedCalls).emitted ∧
      ¬ (runCalls (start 1000 (by decide)) completedCalls).Kept completedEvent ∧
      (runCalls (start 1000 (by decide)) completedCalls).emits = [] ∧
      (runCalls (start 1000 (by decide)) completedCalls).flushes = [] := by
  refine ⟨by simp [completedCalls, ConnectionFailure], by decide, by decide +kernel,
    fun kept => ?_, by decide, by decide +kernel⟩
  exact absurd kept.traced (by decide)

end WorkerTasks
end Training
end ZepGpu
