import ZepGpu.Foundation.Dict
import ZepGpu.Foundation.Sha256
import ZepGpu.Foundation.Text

namespace ZepGpu
namespace Resources

open Foundation Dict List

/-!
# The cache of compiled kernels

The cache keeps the kernels, what is known of each, and the names in the order of
their last use.  CuPy and the file system are given: whether CuPy is there at all
and what it makes of a source, and for each call which files exist, which can be
removed and which can be written.
-/

abbrev Time := Int

structure CuPy (Kernel : Type) where
  /-- `CUPY_AVAILABLE` -/
  available : Bool
  /-- `cp.RawKernel(source, name)` -/
  rawKernel : String -> String -> Kernel
  /-- `RawKernel.code`, the source of a kernel -/
  code : Kernel -> String
  code_rawKernel : ∀ source name, code (rawKernel source name) = source

structure Surroundings where
  now : Time
  /-- `os.path.exists` -/
  pathExists : String -> Bool
  /-- `os.remove` does not raise. -/
  removable : String -> Bool
  /-- Neither `open` nor `write` raises. -/
  writable : String -> Bool

inductive CacheError where
  | runtimeError (message : String)
  | osError (path : String)
  | keyError (name : String)
  | valueError (message : String)
  deriving DecidableEq

/-- What the cache records about a kernel. -/
structure KernelMetadata where
  name : String
  sourceHash : String
  compiledAt : Time
  sourceFile : Option String
  usageCount : Nat

/-- `usage_count += 1` -/
def KernelMetadata.counted (metadata : KernelMetadata) : KernelMetadata :=
  { metadata with usageCount := metadata.usageCount + 1 }

/-- The kernels by name, with their records and files. -/
structure KernelCache (Kernel : Type) where
  cacheDir : String
  maxKernels : Int
  kernels : Dict String Kernel
  metadata : Dict String KernelMetadata
  usageOrder : List String

/-- `os.path.join` of a directory and a name. -/
def joinPath (directory name : String) : String :=
  if name.startsWith "/" then name
  else if directory.isEmpty || directory.endsWith "/" then directory ++ name
  else directory ++ "/" ++ name

/-- `hashlib.sha256(source.encode()).hexdigest()` -/
def hashOf (source : String) : String :=
  hexText (sha256 (utf8 source))

namespace KernelCache

variable {Kernel : Type}

/-- `KernelCache(cache_dir, max_kernels)`, once the directory is made, where
`expanded` is what the home directory makes of `~/.deepiri/kernel_cache`. -/
def create (cacheDir : Option String) (expanded : String) (maxKernels : Int) : KernelCache Kernel where
  cacheDir := (cacheDir.filter (fun directory => !directory.isEmpty)).getD expanded
  maxKernels := maxKernels
  kernels := Dict.empty
  metadata := Dict.empty
  usageOrder := []

section Operations

variable (cupy : CuPy Kernel) (around : Surroundings) (self : KernelCache Kernel)

def kernelPath (name source : String) : String :=
  joinPath self.cacheDir (name ++ "_" ++ hashOf source ++ ".cubin")

def updateUsageOrder (name : String) : KernelCache Kernel :=
  { self with usageOrder := self.usageOrder.erase name ++ [name] }

/-- `self._metadata[name].usage_count += 1` and `_update_usage_order` -/
def use (name : String) : Except CacheError (KernelCache Kernel) :=
  match self.metadata.get? name with
  | none => .error (.keyError name)
  | some metadata =>
    .ok (updateUsageOrder { self with metadata := self.metadata.set name metadata.counted } name)

def fileOf (metadata : KernelMetadata) : Option String :=
  metadata.sourceFile.filter (fun path => !path.isEmpty && around.pathExists path)

def remove (name : String) : Outcome (KernelCache Kernel) CacheError Bool :=
  if name ∉ self.kernels.keys then ⟨.ok false, self⟩
  else match self.metadata.get? name with
    | none => ⟨.error (.keyError name), self⟩
    | some metadata =>
      match (fileOf around metadata).filter (fun path => !around.removable path) with
      | some path => ⟨.error (.osError path), self⟩
      | none =>
        let self :=
          { self with
            kernels := self.kernels.erase name
            metadata := self.metadata.erase name }
        if name ∈ self.usageOrder then
          ⟨.ok true, { self with usageOrder := self.usageOrder.erase name }⟩
        else ⟨.error (.valueError "list.remove(x): x not in list"), self⟩

def evictLru : Outcome (KernelCache Kernel) CacheError Unit :=
  match self.usageOrder with
  | [] => ⟨.ok (), self⟩
  | lruName :: _ => (remove around self lruName).andThen (fun _ self => ⟨.ok (), self⟩)

def compileNew (name source : String) : Outcome (KernelCache Kernel) CacheError Kernel :=
  let path := self.kernelPath name source
  if around.writable path = true then
    let metadata :=
      { name := name, sourceHash := hashOf source, compiledAt := around.now
        sourceFile := some path, usageCount := 0 }
    ⟨.ok (cupy.rawKernel source name),
      { self with
        kernels := self.kernels.set name (cupy.rawKernel source name)
        metadata := self.metadata.set name metadata
        usageOrder := self.usageOrder ++ [name] }⟩
  else ⟨.error (.osError path), self⟩

def compileAndCache (name source : String) : Outcome (KernelCache Kernel) CacheError Kernel :=
  if cupy.available = false then
    ⟨.error (.runtimeError "CuPy is not available for kernel compilation"), self⟩
  else match self.kernels.get? name with
    | some kernel =>
      match self.use name with
      | .error error => ⟨.error error, self⟩
      | .ok self => ⟨.ok kernel, self⟩
    | none =>
      if self.maxKernels ≤ self.kernels.keys.length then
        (evictLru around self).andThen (fun _ self => compileNew cupy around self name source)
      else compileNew cupy around self name source

def get (name : String) : Outcome (KernelCache Kernel) CacheError (Option Kernel) :=
  if name ∉ self.kernels.keys then ⟨.ok none, self⟩
  else match self.use name with
    | .error error => ⟨.error error, self⟩
    | .ok self => ⟨.ok (self.kernels.get? name), self⟩

/-- The loop of `clear` over the names. -/
def removeAll : List String -> KernelCache Kernel -> Outcome (KernelCache Kernel) CacheError Unit
  | [], self => ⟨.ok (), self⟩
  | name :: rest, self => (remove around self name).andThen (fun _ self => removeAll rest self)

def clear : Outcome (KernelCache Kernel) CacheError Unit :=
  removeAll around self.kernels.keys self

end Operations

/-! ## What the operations leave -/

/-- The three records of a cache have the same names. -/
structure InStep (cache : KernelCache Kernel) : Prop where
  metadata_keys : cache.metadata.keys = cache.kernels.keys
  usageOrder_perm : cache.usageOrder.Perm cache.kernels.keys

/-- A call that only drops entries. -/
structure Shrinks (before after : KernelCache Kernel) : Prop where
  inStep : InStep after
  maxKernels : after.maxKernels = before.maxKernels
  cacheDir : after.cacheDir = before.cacheDir
  kept : ∀ name kernel, after.kernels.get? name = some kernel ->
    before.kernels.get? name = some kernel
  usageOrder : after.usageOrder.Sublist before.usageOrder

/-- A call that moves an entry to the end. -/
structure Uses (name : String) (before after : KernelCache Kernel) : Prop where
  inStep : InStep after
  maxKernels : after.maxKernels = before.maxKernels
  cached : name ∈ before.kernels.keys
  kernels : after.kernels = before.kernels
  usageOrder : after.usageOrder = before.usageOrder.erase name ++ [name]

/-- A call that adds an entry at the end. -/
structure Enters (name : String) (kernel : Kernel) (before after : KernelCache Kernel) : Prop where
  inStep : InStep after
  maxKernels : after.maxKernels = before.maxKernels
  fresh : name ∉ before.kernels.keys
  kernels : after.kernels = before.kernels.set name kernel
  usageOrder : after.usageOrder = before.usageOrder ++ [name]

section Laws

variable {cupy : CuPy Kernel} {around : Surroundings} {self middle next : KernelCache Kernel}
  {name source : String}

theorem inStep_create (cacheDir : Option String) (expanded : String) (maxKernels : Int) :
    InStep (create cacheDir expanded maxKernels : KernelCache Kernel) :=
  ⟨rfl, List.Perm.refl _⟩

theorem InStep.mem_usageOrder (inStep : InStep self) :
    name ∈ self.usageOrder ↔ name ∈ self.kernels.keys :=
  inStep.usageOrder_perm.mem_iff

theorem InStep.nodup (inStep : InStep self) : self.usageOrder.Nodup :=
  inStep.usageOrder_perm.nodup_iff.mpr self.kernels.nodup

theorem InStep.exists_metadata (inStep : InStep self) (cached : name ∈ self.kernels.keys) :
    ∃ metadata, self.metadata.get? name = some metadata := by
  apply exists_get?_of_mem
  rw [inStep.metadata_keys]
  exact cached

theorem Shrinks.refl (inStep : InStep self) : Shrinks self self :=
  ⟨inStep, rfl, rfl, fun _ _ found => found, List.Sublist.refl _⟩

theorem Shrinks.trans (first : Shrinks self middle) (second : Shrinks middle next) : Shrinks self next where
  inStep := second.inStep
  maxKernels := second.maxKernels.trans first.maxKernels
  cacheDir := second.cacheDir.trans first.cacheDir
  kept := fun name kernel found => first.kept name kernel (second.kept name kernel found)
  usageOrder := second.usageOrder.trans first.usageOrder

theorem Shrinks.length_le (shrinks : Shrinks self next) (inStep : InStep self) :
    next.kernels.keys.length ≤ self.kernels.keys.length := by
  rw [← shrinks.inStep.usageOrder_perm.length_eq, ← inStep.usageOrder_perm.length_eq]
  exact shrinks.usageOrder.length_le

theorem exists_use (inStep : InStep self) (cached : name ∈ self.kernels.keys) :
    ∃ next, self.use name = .ok next ∧ Uses name self next := by
  rcases inStep.exists_metadata cached with ⟨metadata, found⟩
  refine ⟨updateUsageOrder { self with metadata := self.metadata.set name metadata.counted } name,
    ?_, ?_, rfl, cached, rfl, rfl⟩
  · rw [use, found]
  constructor
  · change (self.metadata.set name _).keys = self.kernels.keys
    rw [keys_set_of_mem (mem_keys_of_get? found), inStep.metadata_keys]
  · have listed : name ∈ self.usageOrder := inStep.mem_usageOrder.mpr cached
    have moved : (self.usageOrder.erase name ++ [name]).Perm self.usageOrder :=
      (perm_append_singleton name _).trans (perm_cons_erase listed).symm
    exact moved.trans inStep.usageOrder_perm

def without (self : KernelCache Kernel) (name : String) : KernelCache Kernel :=
  { self with
    kernels := self.kernels.erase name
    metadata := self.metadata.erase name
    usageOrder := self.usageOrder.erase name }

theorem shrinks_without (inStep : InStep self) (cached : name ∈ self.kernels.keys) :
    Shrinks self (self.without name) where
  inStep := by
    constructor
    · change (self.metadata.erase name).keys = (self.kernels.erase name).keys
      rw [keys_erase, keys_erase, inStep.metadata_keys]
    · have listed : name ∈ self.usageOrder := inStep.mem_usageOrder.mpr cached
      have split := (perm_cons_erase listed).symm.trans
        (inStep.usageOrder_perm.trans (perm_keys_erase cached))
      exact (perm_cons name).mp split
  maxKernels := rfl
  cacheDir := rfl
  kept := fun _ _ found => (get?_erase_eq_some found).2
  usageOrder := erase_sublist

def Removable (around : Surroundings) (self : KernelCache Kernel) (name : String) : Prop :=
  ∀ metadata, self.metadata.get? name = some metadata ->
    ∀ path, fileOf around metadata = some path -> around.removable path = true

theorem remove_cases (inStep : InStep self) (around : Surroundings) (name : String) :
    (name ∉ self.kernels.keys ∧ remove around self name = ⟨.ok false, self⟩) ∨
    (name ∈ self.kernels.keys ∧ Removable around self name ∧
      remove around self name = ⟨.ok true, self.without name⟩) ∨
    (name ∈ self.kernels.keys ∧ ¬ Removable around self name ∧
      ∃ path, remove around self name = ⟨.error (.osError path), self⟩) := by
  by_cases cached : name ∈ self.kernels.keys
  · right
    rcases inStep.exists_metadata cached with ⟨metadata, found⟩
    rw [remove, if_neg (not_not_intro cached), found]
    dsimp only
    cases stuck : (fileOf around metadata).filter (fun path => !around.removable path) with
    | none =>
      refine Or.inl ⟨cached, ?_, ?_⟩
      · intro other known path isFile
        rw [found, Option.some.injEq] at known
        rw [known, isFile, Option.filter_some] at stuck
        by_contra fixed
        rw [Bool.not_eq_true] at fixed
        simp [fixed] at stuck
      · exact if_pos (inStep.mem_usageOrder.mpr cached)
    | some path =>
      refine Or.inr ⟨cached, ?_, path, rfl⟩
      intro removable
      rcases Option.filter_eq_some_iff.mp stuck with ⟨isFile, fixed⟩
      rw [removable metadata found path isFile] at fixed
      cases fixed
  · exact Or.inl ⟨cached, if_pos cached⟩

theorem shrinks_remove (inStep : InStep self) (around : Surroundings) (name : String) :
    Shrinks self (remove around self name).state := by
  rcases remove_cases inStep around name with ⟨_, same⟩ | ⟨cached, _, same⟩ | ⟨_, _, path, same⟩
  · rw [same]
    exact Shrinks.refl inStep
  · rw [same]
    exact shrinks_without inStep cached
  · rw [same]
    exact Shrinks.refl inStep

theorem shrinks_removeAll (inStep : InStep self) (around : Surroundings) (names : List String) :
    Shrinks self (removeAll around names self).state := by
  induction names generalizing self with
  | nil => exact Shrinks.refl inStep
  | cons name rest ih =>
    have first := shrinks_remove inStep around name
    rw [removeAll, Outcome.andThen]
    cases (remove around self name).result with
    | error error => exact first
    | ok removed => exact first.trans (ih first.inStep)

/-! ### Compiling -/

/-- When the cache is full, the file of the oldest entry can be removed. -/
def CanMakeRoom (around : Surroundings) (self : KernelCache Kernel) : Prop :=
  self.maxKernels ≤ self.kernels.keys.length ->
    ∀ lruName, self.usageOrder.head? = some lruName -> Removable around self lruName

/-- There is room, or the first name in the order is taken out. -/
inductive MakesRoom (self : KernelCache Kernel) : KernelCache Kernel -> Prop where
  | enough (room : self.kernels.keys.length < self.maxKernels) : MakesRoom self self
  | evicts (lruName : String) (rest : List String) (full : self.maxKernels ≤ self.kernels.keys.length)
      (order : self.usageOrder = lruName :: rest) : MakesRoom self (self.without lruName)

theorem MakesRoom.shrinks (makes : MakesRoom self middle) (inStep : InStep self) : Shrinks self middle := by
  cases makes with
  | enough room => exact Shrinks.refl inStep
  | evicts lruName rest full order =>
    apply shrinks_without inStep
    rw [← inStep.mem_usageOrder, order]
    exact mem_cons_self

theorem MakesRoom.length_lt (makes : MakesRoom self middle) (inStep : InStep self)
    (bounded : self.kernels.keys.length ≤ self.maxKernels) :
    middle.kernels.keys.length < middle.maxKernels := by
  cases makes with
  | enough room => exact room
  | evicts lruName rest full order =>
    have cached : lruName ∈ self.kernels.keys := by
      rw [← inStep.mem_usageOrder, order]
      exact mem_cons_self
    have less : (self.without lruName).kernels.keys.length + 1 = self.kernels.keys.length :=
      length_keys_erase cached
    change ((self.without lruName).kernels.keys.length : Int) < self.maxKernels
    omega

theorem compileNew_cases (inStep : InStep self) (cupy : CuPy Kernel) (around : Surroundings)
    (source : String) (fresh : name ∉ self.kernels.keys) :
    (around.writable (self.kernelPath name source) = true ∧
      (compileNew cupy around self name source).result = .ok (cupy.rawKernel source name) ∧
      Enters name (cupy.rawKernel source name) self (compileNew cupy around self name source).state) ∨
    (¬ around.writable (self.kernelPath name source) = true ∧
      ∃ error, compileNew cupy around self name source = ⟨.error error, self⟩) := by
  unfold compileNew
  dsimp only
  split_ifs with writes
  · left
    refine ⟨writes, rfl, ?_, rfl, fresh, rfl, rfl⟩
    have unknown : name ∉ self.metadata.keys := by
      rw [inStep.metadata_keys]
      exact fresh
    constructor
    · change (self.metadata.set name _).keys = (self.kernels.set name _).keys
      rw [keys_set_of_not_mem unknown, keys_set_of_not_mem fresh, inStep.metadata_keys]
    · change (self.usageOrder ++ [name]).Perm (self.kernels.set name _).keys
      rw [keys_set_of_not_mem fresh]
      exact inStep.usageOrder_perm.append_right [name]
  · exact Or.inr ⟨writes, _, rfl⟩

/-- With room for at least one kernel, a call finds the name cached, or makes room
and enters it, or fails for want of CuPy or of a file operation. -/
theorem compileAndCache_cases (inStep : InStep self) (positive : 1 ≤ self.maxKernels)
    (cupy : CuPy Kernel) (around : Surroundings) (name source : String) :
    (cupy.available = false ∧
      ∃ error, compileAndCache cupy around self name source = ⟨.error error, self⟩) ∨
    (cupy.available = true ∧ ∃ kernel, self.kernels.get? name = some kernel ∧
      (compileAndCache cupy around self name source).result = .ok kernel ∧
      Uses name self (compileAndCache cupy around self name source).state) ∨
    (cupy.available = true ∧ self.kernels.get? name = none ∧ ¬ CanMakeRoom around self ∧
      ∃ error, compileAndCache cupy around self name source = ⟨.error error, self⟩) ∨
    (cupy.available = true ∧ self.kernels.get? name = none ∧ CanMakeRoom around self ∧
      ∃ middle, MakesRoom self middle ∧
        compileAndCache cupy around self name source = compileNew cupy around middle name source) := by
  unfold compileAndCache
  cases available : cupy.available with
  | false => exact Or.inl ⟨rfl, _, rfl⟩
  | true =>
    right
    rw [if_neg (Bool.true_eq_false ▸ not_false)]
    cases found : self.kernels.get? name with
    | some kernel =>
      left
      rcases exists_use inStep (mem_keys_of_get? found) with ⟨next, used, uses⟩
      refine ⟨rfl, kernel, rfl, ?_⟩
      rw [used]
      exact ⟨rfl, uses⟩
    | none =>
      right
      dsimp only
      split_ifs with full
      · -- The cache is full, so that the order has a first name.
        have some_order : self.usageOrder ≠ [] := by
          intro empty
          have length := inStep.usageOrder_perm.length_eq
          rw [empty, length_nil] at length
          omega
        rcases exists_cons_of_ne_nil some_order with ⟨lruName, rest, order⟩
        have cached : lruName ∈ self.kernels.keys := by
          rw [← inStep.mem_usageOrder, order]
          exact mem_cons_self
        have head : self.usageOrder.head? = some lruName := by rw [order, head?_cons]
        unfold evictLru
        rw [order]
        dsimp only
        rcases remove_cases inStep around lruName with
          ⟨absent, _⟩ | ⟨_, removable, same⟩ | ⟨_, stuck, path, same⟩
        · exact absurd cached absent
        · right
          refine ⟨rfl, rfl, ?_, self.without lruName, .evicts lruName rest full order, ?_⟩
          · intro _ other first
            rw [head, Option.some.injEq] at first
            exact first ▸ removable
          · rw [same]
            rfl
        · left
          refine ⟨rfl, rfl, fun can => stuck (can full lruName head), .osError path, ?_⟩
          rw [same]
          rfl
      · right
        exact ⟨rfl, rfl, fun needed => absurd needed full, self, .enough (not_le.mp full), rfl⟩

theorem get_cases (inStep : InStep self) (name : String) :
    (name ∉ self.kernels.keys ∧ self.get name = ⟨.ok none, self⟩) ∨
    (name ∈ self.kernels.keys ∧ (self.get name).result = .ok (self.kernels.get? name) ∧
      Uses name self (self.get name).state) := by
  unfold get
  by_cases cached : name ∈ self.kernels.keys
  · rcases exists_use inStep cached with ⟨next, used, uses⟩
    rw [if_neg (not_not_intro cached), used]
    exact Or.inr ⟨cached, congrArg _ (congrArg (fun d => d.get? name) uses.kernels), uses⟩
  · exact Or.inl ⟨cached, if_pos cached⟩

end Laws

end KernelCache

end Resources
end ZepGpu
