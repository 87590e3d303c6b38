import ZepGpu.Foundation.Recency
import ZepGpu.Foundation.Runs
import ZepGpu.Resources.KernelCache

namespace ZepGpu
namespace Resources

open Foundation Dict List

/-!
# Runs of the kernel cache

Over any sequence of calls the records of the cache stay in step, within its size
and in the order of last use.  What a name answers is the kernel of its last
compilation as long as no name is compiled from another source while it is cached.
-/

namespace KernelCache

/-- A call of the cache from outside. -/
inductive Call where
  | compileAndCache (name source : String)
  | get (name : String)
  | remove (name : String)
  | clear
  deriving DecidableEq

def Call.used : Call -> Option String
  | .compileAndCache name _ => some name
  | .get name => some name
  | .remove _ | .clear => none

def Call.sourceOf (name : String) : Call -> Option String
  | .compileAndCache other source => if other = name then some source else none
  | .get _ | .remove _ | .clear => none

variable {Kernel : Type}

def step (cupy : CuPy Kernel) (self : KernelCache Kernel) : Surroundings × Call -> KernelCache Kernel
  | (around, .compileAndCache name source) => (compileAndCache cupy around self name source).state
  | (_, .get name) => (self.get name).state
  | (around, .remove name) => (remove around self name).state
  | (around, .clear) => (clear around self).state

/-- The source of the most recent `compile_and_cache` of a name. -/
def lastSource (calls : List (Surroundings × Call)) (name : String) : Option String :=
  (calls.filterMap (fun call => call.2.sourceOf name)).getLast?

def UsesName (call : Surroundings × Call) (name : String) : Prop :=
  call.2.used = some name

/-- What a call answers is what compiling afresh would give. -/
def Transparent (cupy : CuPy Kernel) (history : List (Surroundings × Call)) (self : KernelCache Kernel) :
    Surroundings × Call -> Prop
  | (around, .compileAndCache name source) =>
    (compileAndCache cupy around self name source).result = .ok (cupy.rawKernel source name)
  | (_, .get name) =>
    (self.get name).result = .ok (if name ∈ self.kernels.keys then
      (lastSource history name).map (fun source => cupy.rawKernel source name) else none)
  | (_, .remove _) | (_, .clear) => True

/-- A name is compiled from the source of its cached kernel, or is not cached and
nothing stands in the way of entering it. -/
def Served (cupy : CuPy Kernel) (self : KernelCache Kernel) : Surroundings × Call -> Prop
  | (around, .compileAndCache name source) =>
    cupy.available = true ∧
      match self.kernels.get? name with
      | some kernel => cupy.code kernel = source
      | none => CanMakeRoom around self ∧ around.writable (self.kernelPath name source) = true
  | (_, .get _) | (_, .remove _) | (_, .clear) => True

variable {cupy : CuPy Kernel} {self next middle : KernelCache Kernel} {call : Surroundings × Call}
  {history : List (Surroundings × Call)} {name source : String} {around : Surroundings}
  {maxKernels : Int}

theorem lastSource_append (history : List (Surroundings × Call)) (call : Surroundings × Call)
    (name : String) :
    lastSource (history ++ [call]) name = (call.2.sourceOf name).or (lastSource history name) := by
  rw [lastSource, filterMap_append, getLast?_append]
  cases compiled : call.2.sourceOf name with
  | none => simp [compiled, lastSource]
  | some source => simp [compiled]

theorem eq_of_sourceOf {call : Call} (compiles : call.sourceOf name = some source) :
    call = .compileAndCache name source := by
  cases call with
  | compileAndCache other text =>
    simp only [Call.sourceOf, Option.ite_none_right_eq_some] at compiles
    rw [compiles.1, Option.some.inj compiles.2]
  | get other => cases compiles
  | remove other => cases compiles
  | clear => cases compiles

/-- The invariant of the cache. -/
structure Valid (cupy : CuPy Kernel) (maxKernels : Int) (cache : KernelCache Kernel) : Prop where
  inStep : InStep cache
  maxKernels_eq : cache.maxKernels = maxKernels
  bounded : cache.kernels.keys.length ≤ maxKernels
  /-- Every kernel is one of its own name. -/
  compiled : ∀ name kernel, cache.kernels.get? name = some kernel ->
    kernel = cupy.rawKernel (cupy.code kernel) name
  unavailable : cupy.available = false -> cache.kernels.keys = []

theorem valid_create (cupy : CuPy Kernel) (cacheDir : Option String) (expanded : String)
    (positive : 1 ≤ maxKernels) : Valid cupy maxKernels (create cacheDir expanded maxKernels) where
  inStep := inStep_create cacheDir expanded maxKernels
  maxKernels_eq := rfl
  bounded := zero_le_one.trans positive
  compiled := by
    intro name kernel impossible
    cases impossible
  unavailable := fun _ => rfl

/-- A call takes names away, of which the one that it asks for is not left, or uses
a cached name, or makes room and enters the name that it compiles. -/
theorem step_cases (valid : Valid cupy maxKernels self) (positive : 1 ≤ maxKernels)
    (call : Surroundings × Call) :
    (Shrinks self (step cupy self call) ∧
      ∀ name, call.2.used = some name -> name ∉ (step cupy self call).kernels.keys) ∨
    (∃ name, call.2.used = some name ∧ Uses name self (step cupy self call)) ∨
    (∃ name source middle, call.2 = .compileAndCache name source ∧ cupy.available = true ∧
      MakesRoom self middle ∧
      Enters name (cupy.rawKernel source name) middle (step cupy self call)) := by
  have inStep := valid.inStep
  rcases call with ⟨around, call⟩
  cases call with
  | compileAndCache name source =>
    have room : 1 ≤ self.maxKernels := valid.maxKernels_eq ▸ positive
    rcases compileAndCache_cases inStep room cupy around name source with
      ⟨missing, error, same⟩ | ⟨_, kernel, found, _, uses⟩ | ⟨_, absent, _, error, same⟩ |
        ⟨available, absent, _, middle, makes, same⟩
    · left
      rw [step, same]
      refine ⟨Shrinks.refl inStep, ?_⟩
      intro other _
      rw [valid.unavailable missing]
      exact not_mem_nil
    · exact Or.inr (Or.inl ⟨name, rfl, uses⟩)
    · left
      rw [step, same]
      refine ⟨Shrinks.refl inStep, ?_⟩
      intro other used
      rw [← Option.some.inj used]
      exact get?_eq_none_iff.mp absent
    · have shrunk := makes.shrinks inStep
      have fresh : name ∉ middle.kernels.keys := by
        intro cached
        rcases exists_get?_of_mem cached with ⟨kernel, found⟩
        rw [shrunk.kept name kernel found] at absent
        cases absent
      rw [step, same]
      rcases compileNew_cases shrunk.inStep cupy around source fresh with
        ⟨_, _, enters⟩ | ⟨_, error, failed⟩
      · exact Or.inr (Or.inr ⟨name, source, middle, rfl, available, makes, enters⟩)
      · left
        rw [failed]
        refine ⟨shrunk, ?_⟩
        intro other used
        rw [← Option.some.inj used]
        exact fresh
  | get name =>
    rcases get_cases inStep name with ⟨absent, same⟩ | ⟨_, _, uses⟩
    · left
      rw [step, same]
      refine ⟨Shrinks.refl inStep, ?_⟩
      intro other used
      rw [← Option.some.inj used]
      exact absent
    · exact Or.inr (Or.inl ⟨name, rfl, uses⟩)
  | remove name =>
    left
    exact ⟨shrinks_remove inStep around name, fun _ impossible => absurd impossible (by simp [Call.used])⟩
  | clear =>
    left
    exact ⟨shrinks_removeAll inStep around _, fun _ impossible => absurd impossible (by simp [Call.used])⟩

theorem Enters.length_eq {kernel : Kernel} (enters : Enters name kernel self next) :
    next.kernels.keys.length = self.kernels.keys.length + 1 := by
  rw [enters.kernels, keys_set_of_not_mem enters.fresh, length_append, length_singleton]

theorem Valid.step (valid : Valid cupy maxKernels self) (positive : 1 ≤ maxKernels)
    (call : Surroundings × Call) : Valid cupy maxKernels (step cupy self call) := by
  rcases step_cases valid positive call with
    ⟨shrinks, _⟩ | ⟨name, _, uses⟩ | ⟨name, source, middle, _, available, makes, enters⟩
  · have shorter := shrinks.length_le valid.inStep
    refine ⟨shrinks.inStep, shrinks.maxKernels.trans valid.maxKernels_eq, ?_, ?_, ?_⟩
    · exact (Int.ofNat_le.mpr shorter).trans valid.bounded
    · intro name kernel found
      exact valid.compiled name kernel (shrinks.kept name kernel found)
    · intro missing
      rw [valid.unavailable missing, length_nil, Nat.le_zero] at shorter
      exact eq_nil_of_length_eq_zero shorter
  · refine ⟨uses.inStep, uses.maxKernels.trans valid.maxKernels_eq, ?_, ?_, ?_⟩
    · rw [uses.kernels]
      exact valid.bounded
    · rw [uses.kernels]
      exact valid.compiled
    · rw [uses.kernels]
      exact valid.unavailable
  · have shrinks := makes.shrinks valid.inStep
    have less := makes.length_lt valid.inStep (valid.maxKernels_eq.symm ▸ valid.bounded)
    rw [shrinks.maxKernels, valid.maxKernels_eq] at less
    refine ⟨enters.inStep, (enters.maxKernels.trans shrinks.maxKernels).trans valid.maxKernels_eq, ?_, ?_, ?_⟩
    · rw [enters.length_eq]
      exact less
    · intro other kernel found
      rw [enters.kernels] at found
      rcases eq_or_ne other name with rfl | different
      · rw [get?_set_self, Option.some.injEq] at found
        rw [← found, cupy.code_rawKernel]
      · rw [get?_set_of_ne different] at found
        exact valid.compiled other kernel (shrinks.kept other kernel found)
    · intro missing
      rw [available] at missing
      cases missing

theorem byLastUse_step (valid : Valid cupy maxKernels self) (positive : 1 ≤ maxKernels)
    (call : Surroundings × Call) (sorted : ByLastUse UsesName history self.usageOrder) :
    ByLastUse UsesName (history ++ [call]) (step cupy self call).usageOrder := by
  rcases step_cases valid positive call with
    ⟨shrinks, gone⟩ | ⟨name, used, uses⟩ | ⟨name, source, middle, compiles, _, makes, enters⟩
  · apply (sorted.sublist shrinks.usageOrder).append
    intro name listed used
    exact gone name used (shrinks.inStep.mem_usageOrder.mp listed)
  · rw [uses.usageOrder]
    apply (sorted.sublist erase_sublist).append_used
    · intro other listed usedOther
      have same : name = other := Option.some.inj (used.symm.trans usedOther)
      rw [same] at listed
      exact valid.inStep.nodup.not_mem_erase listed
    · exact used
  · have shrinks := makes.shrinks valid.inStep
    have used : call.2.used = some name := by rw [compiles, Call.used]
    rw [enters.usageOrder]
    apply (sorted.sublist shrinks.usageOrder).append_used
    · intro other listed usedOther
      have same : name = other := Option.some.inj (used.symm.trans usedOther)
      rw [← same, shrinks.inStep.mem_usageOrder] at listed
      exact enters.fresh listed
    · exact used

/-- A name that a compilation displaces is the one that has not been used for the
longest time, and the only one. -/
def DisplacesLeastUsed (history : List (Surroundings × Call)) (before after : KernelCache Kernel)
    (call : Surroundings × Call) : Prop :=
  ∀ name source, call.2 = .compileAndCache name source ->
    ∀ displaced, displaced ∈ before.kernels.keys -> displaced ∉ after.kernels.keys ->
      (before.maxKernels ≤ before.kernels.keys.length ∧ name ∉ before.kernels.keys) ∧
        ∀ other, other ∈ before.kernels.keys -> other ≠ displaced ->
          other ∈ after.kernels.keys ∧ UsedBefore UsesName history displaced other

theorem mem_keys_without {other : String} :
    other ∈ (self.without name).kernels.keys ↔ other ∈ self.kernels.keys ∧ other ≠ name := by
  change other ∈ (self.kernels.erase name).keys ↔ _
  rw [keys_erase, mem_filter, decide_eq_true_eq]

theorem displaces_makesRoom (inStep : InStep self) (sorted : ByLastUse UsesName history self.usageOrder)
    (makes : MakesRoom self middle) {displaced : String} (cached : displaced ∈ self.kernels.keys)
    (gone : displaced ∉ middle.kernels.keys) :
    self.maxKernels ≤ self.kernels.keys.length ∧
      ∀ other, other ∈ self.kernels.keys -> other ≠ displaced ->
        other ∈ middle.kernels.keys ∧ UsedBefore UsesName history displaced other := by
  cases makes with
  | enough room => exact absurd cached gone
  | evicts lruName rest full order =>
    have same : displaced = lruName := by
      by_contra different
      exact gone (mem_keys_without.mpr ⟨cached, different⟩)
    refine ⟨full, ?_⟩
    intro other listed different
    have inOrder : other ∈ lruName :: rest := order ▸ inStep.mem_usageOrder.mpr listed
    rcases mem_cons.mp inOrder with first | later
    · exact absurd (first.trans same.symm) different
    · refine ⟨mem_keys_without.mpr ⟨listed, same ▸ different⟩, ?_⟩
      rw [same]
      exact (order ▸ sorted).first later

theorem displacesLeastUsed_step (valid : Valid cupy maxKernels self) (positive : 1 ≤ maxKernels)
    (call : Surroundings × Call) (sorted : ByLastUse UsesName history self.usageOrder) :
    DisplacesLeastUsed history self (step cupy self call) call := by
  rcases call with ⟨around, call⟩
  intro name source compiles displaced cached gone
  obtain rfl : call = .compileAndCache name source := compiles
  rw [step] at gone ⊢
  rcases compileAndCache_cases valid.inStep (valid.maxKernels_eq ▸ positive) cupy around name source with
    ⟨_, error, same⟩ | ⟨_, kernel, _, _, uses⟩ | ⟨_, _, _, error, same⟩ |
      ⟨_, absent, _, middle, makes, same⟩
  · rw [same] at gone
    exact absurd cached gone
  · rw [uses.kernels] at gone
    exact absurd cached gone
  · rw [same] at gone
    exact absurd cached gone
  · have kept : ∀ other, other ∈ middle.kernels.keys ->
        other ∈ (compileNew cupy around middle name source).state.kernels.keys := by
      intro other listed
      unfold compileNew
      dsimp only
      split_ifs
      · exact mem_keys_set.mpr (Or.inr listed)
      · exact listed
    rw [same] at gone ⊢
    have displaces := displaces_makesRoom valid.inStep sorted makes cached
      (fun left => gone (kept displaced left))
    refine ⟨⟨displaces.1, get?_eq_none_iff.mp absent⟩, ?_⟩
    intro other listed different
    have still := displaces.2 other listed different
    exact ⟨kept other still.1, still.2⟩

/-- Every cached kernel is that of the most recent compilation of its name. -/
def Current (cupy : CuPy Kernel) (history : List (Surroundings × Call)) (self : KernelCache Kernel) : Prop :=
  ∀ name kernel, self.kernels.get? name = some kernel ->
    ∃ source, lastSource history name = some source ∧ kernel = cupy.rawKernel source name

theorem compileAndCache_iff (valid : Valid cupy maxKernels self) (positive : 1 ≤ maxKernels)
    (around : Surroundings) (name source : String) :
    (compileAndCache cupy around self name source).result = .ok (cupy.rawKernel source name) ↔
      Served cupy self (around, .compileAndCache name source) := by
  rw [Served]
  rcases compileAndCache_cases valid.inStep (valid.maxKernels_eq ▸ positive) cupy around name source with
    ⟨missing, error, same⟩ | ⟨available, kernel, found, returns, _⟩ | ⟨_, absent, stuck, error, same⟩ |
      ⟨available, absent, can, middle, makes, same⟩
  · rw [same, missing]
    exact iff_of_false (fun impossible => nomatch impossible) (fun served => nomatch served.1)
  · rw [returns, found]
    constructor
    · intro afresh
      refine ⟨available, ?_⟩
      exact (congrArg cupy.code (Except.ok.inj afresh)).trans (cupy.code_rawKernel source name)
    · rintro ⟨_, sameSource⟩
      rw [valid.compiled name kernel found, sameSource]
  · rw [same, absent]
    exact iff_of_false (fun impossible => nomatch impossible) (fun served => stuck served.2.1)
  · have shrinks := makes.shrinks valid.inStep
    have path : middle.kernelPath name source = self.kernelPath name source := by
      rw [kernelPath, kernelPath, shrinks.cacheDir]
    have fresh : name ∉ middle.kernels.keys := by
      intro cached
      rcases exists_get?_of_mem cached with ⟨kernel, found⟩
      rw [shrinks.kept name kernel found] at absent
      cases absent
    rw [same, absent]
    rcases compileNew_cases shrinks.inStep cupy around source fresh with
      ⟨writes, returns, _⟩ | ⟨fails, error, failed⟩
    · exact iff_of_true returns ⟨available, can, path ▸ writes⟩
    · rw [failed]
      exact iff_of_false (fun impossible => nomatch impossible) (fun served => fails (path ▸ served.2.2))

theorem transparent_get (inStep : InStep self) (current : Current cupy history self)
    (around : Surroundings) (name : String) : Transparent cupy history self (around, .get name) := by
  rw [Transparent]
  rcases get_cases inStep name with ⟨absent, same⟩ | ⟨cached, returns, _⟩
  · rw [same, if_neg absent]
  · rcases exists_get?_of_mem cached with ⟨kernel, found⟩
    rcases current name kernel found with ⟨source, last, rfl⟩
    rw [returns, if_pos cached, found, last, Option.map_some]

theorem transparent_iff_served (valid : Valid cupy maxKernels self) (positive : 1 ≤ maxKernels)
    (current : Current cupy history self) (call : Surroundings × Call) :
    Transparent cupy history self call ↔ Served cupy self call := by
  rcases call with ⟨around, call⟩
  cases call with
  | compileAndCache name source => exact compileAndCache_iff valid positive around name source
  | get name => exact iff_of_true (transparent_get valid.inStep current around name) trivial
  | remove name => exact Iff.rfl
  | clear => exact Iff.rfl

theorem lastSource_of_ne (compiles : call.2 = .compileAndCache name source) {other : String}
    (different : other ≠ name) : lastSource (history ++ [call]) other = lastSource history other := by
  rw [lastSource_append, compiles, Call.sourceOf, if_neg different.symm, Option.none_or]

theorem Current.step (current : Current cupy history self) (valid : Valid cupy maxKernels self)
    (positive : 1 ≤ maxKernels) (served : Served cupy self call) :
    Current cupy (history ++ [call]) (step cupy self call) := by
  rcases call with ⟨around, call⟩
  intro name kernel found
  rcases step_cases valid positive (around, call) with
    ⟨shrinks, gone⟩ | ⟨used, _, uses⟩ | ⟨entered, source, middle, compiles, _, makes, enters⟩
  · rcases current name kernel (shrinks.kept name kernel found) with ⟨source, last, same⟩
    refine ⟨source, ?_, same⟩
    rw [lastSource_append]
    cases compiled : call.sourceOf name with
    | none => exact last
    | some other =>
      have used : call.used = some name := by rw [eq_of_sourceOf compiled, Call.used]
      exact absurd (mem_keys_of_get? found) (gone name used)
  · rw [uses.kernels] at found
    rw [lastSource_append]
    cases compiled : call.sourceOf name with
    | none => exact current name kernel found
    | some source =>
      refine ⟨source, rfl, ?_⟩
      have sameSource := served
      rw [eq_of_sourceOf compiled, Served, found] at sameSource
      rw [valid.compiled name kernel found, sameSource.2]
  · rw [enters.kernels] at found
    rcases eq_or_ne name entered with rfl | different
    · rw [get?_set_self, Option.some.injEq] at found
      refine ⟨source, ?_, found.symm⟩
      rw [lastSource_append, compiles, Call.sourceOf, if_pos rfl]
      rfl
    · rw [get?_set_of_ne different] at found
      rw [lastSource_of_ne compiles different]
      exact current name kernel ((makes.shrinks valid.inStep).kept name kernel found)

theorem current_create (cupy : CuPy Kernel) (cacheDir : Option String) (expanded : String)
    (maxKernels : Int) : Current cupy [] (create cacheDir expanded maxKernels) := by
  intro name kernel impossible
  cases impossible

theorem transparent_run_iff {calls : List (Surroundings × Call)} (valid : Valid cupy maxKernels self)
    (positive : 1 ≤ maxKernels) (current : Current cupy history self) :
    (∀ front call back, calls = front ++ call :: back ->
      Transparent cupy (history ++ front) (front.foldl (step cupy) self) call) ↔
    Meets (step cupy) (Served cupy) self calls := by
  induction calls generalizing self history with
  | nil =>
    refine iff_of_true ?_ trivial
    intro front call back split
    exact absurd split (by simp)
  | cons call rest ih =>
    have first := transparent_iff_served valid positive current call
    constructor
    · intro all
      have served : Served cupy self call := by
        have now := all [] call rest rfl
        rw [append_nil] at now
        exact first.mp now
      refine ⟨served, (ih (valid.step positive call) (current.step valid positive served)).mp ?_⟩
      intro front other back split
      have later := all (call :: front) other back (congrArg (call :: ·) split)
      rw [append_assoc]
      exact later
    · rintro ⟨served, meets⟩ front other back split
      cases front with
      | nil =>
        rw [nil_append, List.cons.injEq] at split
        rw [append_nil, ← split.1]
        exact first.mpr served
      | cons head front =>
        rw [cons_append, List.cons.injEq] at split
        have later := (ih (valid.step positive call) (current.step valid positive served)).mpr meets
          front other back split.2
        rw [append_assoc] at later
        rw [← split.1]
        exact later

theorem run_valid (cupy : CuPy Kernel) (cacheDir : Option String) (expanded : String)
    (positive : 1 ≤ maxKernels) (front : List (Surroundings × Call)) :
    Valid cupy maxKernels (front.foldl (step cupy) (create cacheDir expanded maxKernels)) ∧
      ByLastUse UsesName front
        (front.foldl (step cupy) (create cacheDir expanded maxKernels)).usageOrder := by
  induction front using List.reverseRecOn with
  | nil => exact ⟨valid_create cupy cacheDir expanded positive, byLastUse_nil⟩
  | append_singleton front call ih =>
    rw [foldl_append, foldl_cons, foldl_nil]
    exact ⟨ih.1.step positive call, byLastUse_step ih.1 positive call ih.2⟩

/-- The records have the same names, each once, and no more than there is room for. -/
structure Tidy (maxKernels : Int) (cache : KernelCache Kernel) : Prop where
  metadata : cache.metadata.keys = cache.kernels.keys
  usageOrder : cache.usageOrder.Perm cache.kernels.keys
  nodup : cache.usageOrder.Nodup
  bounded : cache.kernels.keys.length ≤ maxKernels

/-- The answers of a run are those of compiling afresh exactly when each compilation
is from the source of the cached kernel or can be entered.  In every run the records
stay in step and within bounds, and what is displaced was used least recently. -/
theorem transparent_iff (cupy : CuPy Kernel) (cacheDir : Option String) (expanded : String)
    (maxKernels : Int) (calls : List (Surroundings × Call)) (positive : 1 ≤ maxKernels) :
    let start := create cacheDir expanded maxKernels
    ((∀ front call back, calls = front ++ call :: back ->
        Transparent cupy front (front.foldl (step cupy) start) call) ↔
      Meets (step cupy) (Served cupy) start calls) ∧
    (∀ front back, calls = front ++ back ->
      Tidy maxKernels (front.foldl (step cupy) start)) ∧
    ∀ front call back, calls = front ++ call :: back ->
      DisplacesLeastUsed front (front.foldl (step cupy) start)
        ((front ++ [call]).foldl (step cupy) start) call := by
  refine ⟨?_, ?_, ?_⟩
  · have exact_run := @transparent_run_iff _ cupy _ [] _ calls
      (valid_create cupy cacheDir expanded positive) positive
      (current_create cupy cacheDir expanded maxKernels)
    exact exact_run
  · intro front back _
    have valid := (run_valid cupy cacheDir expanded positive front).1
    exact ⟨valid.inStep.metadata_keys, valid.inStep.usageOrder_perm, valid.inStep.nodup, valid.bounded⟩
  · intro front call back _
    have after := run_valid cupy cacheDir expanded positive front
    rw [foldl_append, foldl_cons, foldl_nil]
    exact displacesLeastUsed_step after.1 positive call after.2

namespace Sample

def plainCuPy : CuPy (String × String) where
  available := true
  rawKernel := fun source name => (source, name)
  code := Prod.fst
  code_rawKernel := fun _ _ => rfl

/-- No file is there to be removed, and every file can be written. -/
def noFiles : Surroundings where
  now := 0
  pathExists := fun _ => false
  removable := fun _ => false
  writable := fun _ => true

def start : KernelCache (String × String) :=
  create (some "/cache") "/root/.deepiri/kernel_cache" 2

/-- The third name displaces the second, as the first was asked for since. -/
def oneSourceEach : List (Surroundings × Call) :=
  [(noFiles, .compileAndCache "add" "a"), (noFiles, .compileAndCache "scale" "b"),
    (noFiles, .compileAndCache "add" "a"), (noFiles, .compileAndCache "dot" "c"),
    (noFiles, .get "scale"), (noFiles, .get "add")]

/-- Every name has one source throughout. -/
theorem oneSourceEach_transparent :
    Meets (step plainCuPy) (Served plainCuPy) start oneSourceEach ∧
      ∀ front call back, oneSourceEach = front ++ call :: back ->
        Transparent plainCuPy front (front.foldl (step plainCuPy) start) call := by
  have exact_run := (transparent_iff plainCuPy (some "/cache") "/root/.deepiri/kernel_cache" 2
    oneSourceEach (by decide)).1
  have noneStuck : ∀ self : KernelCache (String × String), CanMakeRoom noFiles self := by
    intro self _ name _ metadata _ path isFile
    rw [fileOf, Option.filter_eq_some_iff] at isFile
    simp [noFiles] at isFile
  have enters : ∀ (self : KernelCache (String × String)) (name source : String),
      self.kernels.get? name = none -> Served plainCuPy self (noFiles, .compileAndCache name source) := by
    intro self name source absent
    rw [Served, absent]
    exact ⟨rfl, noneStuck self, rfl⟩
  have hits : ∀ (self : KernelCache (String × String)) (name source : String),
      self.kernels.get? name = some (source, name) ->
        Served plainCuPy self (noFiles, .compileAndCache name source) := by
    intro self name source found
    rw [Served, found]
    exact ⟨rfl, rfl⟩
  have served : Meets (step plainCuPy) (Served plainCuPy) start oneSourceEach :=
    ⟨enters _ _ _ rfl, enters _ _ _ rfl, hits _ _ _ rfl, enters _ _ _ rfl, trivial, trivial, trivial⟩
  exact ⟨served, exact_run.mpr served⟩

def twoSources : List (Surroundings × Call) :=
  [(noFiles, .compileAndCache "add" "a"), (noFiles, .compileAndCache "add" "b")]

/-- The second compilation returns the kernel of the first source. -/
theorem twoSources_stale :
    ¬ ∀ front call back, twoSources = front ++ call :: back ->
      Transparent plainCuPy front (front.foldl (step plainCuPy) start) call := by
  intro transparent
  have second := transparent [(noFiles, .compileAndCache "add" "a")] (noFiles, .compileAndCache "add" "b") [] rfl
  have stale : Except.ok ("a", "add") = (Except.ok ("b", "add") : Except CacheError (String × String)) :=
    second
  exact absurd stale (by decide)

end Sample

end KernelCache

end Resources
end ZepGpu
