import ZepGpu.Training.Tensors

namespace ZepGpu
namespace Training

open Foundation Dict

/-!
# The outer optimizer

SGD with momentum, or Adam, over named arrays.  The optimizer mutates its
moments while it goes through the parameters, so that an operation that fails
leaves behind what was written before.  With moments of the shapes of the
parameters no operation fails, and the shapes are kept.

Two optimizers with the same lookups cannot be told apart: neither by what
they return nor by the JSON they are saved as.
-/

inductive OuterOptimizerKind where
  | sgd
  | adam
  deriving DecidableEq

def OuterOptimizerKind.value : OuterOptimizerKind -> String
  | .sgd => "sgd"
  | .adam => "adam"

structure OuterOptimizerConfig (N : Numpy) where
  kind : OuterOptimizerKind
  learningRate : N.Scalar
  momentum : N.Scalar
  beta1 : N.Scalar
  beta2 : N.Scalar
  epsilon : N.Scalar
  /-- `config.model_dump(mode="json")` -/
  dump : Json

/-- The optimizer with its moments by the name of the parameter. -/
structure OuterOptimizer (N : Numpy) where
  config : OuterOptimizerConfig N
  stepCount : Int
  velocity : Tensors N
  firstMoment : Tensors N
  secondMoment : Tensors N

/-- `OuterOptimizer(config)` -/
def OuterOptimizer.new {N : Numpy} (config : OuterOptimizerConfig N) : OuterOptimizer N :=
  ⟨config, 0, Dict.empty, Dict.empty, Dict.empty⟩

section Optimizer

variable {N : Numpy}

/-- The body of the loop: the new value of one parameter. -/
def OuterOptimizer.applyOne (optimizer : OuterOptimizer N) (name : String)
    (parameter delta : N.Array) : Outcome (OuterOptimizer N) TrainingError N.Array :=
  let config := optimizer.config
  match config.kind with
  | .sgd =>
    let previous := (optimizer.velocity.get? name).getD (N.zerosLike delta)
    match N.add (N.scale config.momentum previous) delta with
    | .error error => ⟨.error error, optimizer⟩
    | .ok velocity =>
      ⟨N.add parameter (N.scale config.learningRate velocity),
        { optimizer with velocity := optimizer.velocity.set name velocity }⟩
  | .adam =>
    let first := (optimizer.firstMoment.get? name).getD (N.zerosLike delta)
    let second := (optimizer.secondMoment.get? name).getD (N.zerosLike delta)
    match N.add (N.scale config.beta1 first) (N.scale (N.oneMinus config.beta1) delta),
        N.add (N.scale config.beta2 second) (N.scale (N.oneMinus config.beta2) (N.square delta)) with
    | .error error, _ => ⟨.error error, optimizer⟩
    | _, .error error => ⟨.error error, optimizer⟩
    | .ok first, .ok second =>
      let firstHat := N.divideScalar first (N.oneMinus (N.power config.beta1 optimizer.stepCount))
      let secondHat := N.divideScalar second (N.oneMinus (N.power config.beta2 optimizer.stepCount))
      ⟨do
          let applied ← N.divide (N.scale config.learningRate firstHat)
            (N.addScalar (N.sqrt secondHat) config.epsilon)
          N.add parameter applied,
        { optimizer with
          firstMoment := optimizer.firstMoment.set name first
          secondMoment := optimizer.secondMoment.set name second }⟩

def OuterOptimizer.applyNames (parameters update : Tensors N) :
    List String -> OuterOptimizer N -> Tensors N -> Outcome (OuterOptimizer N) TrainingError (Tensors N)
  | [], optimizer, result => ⟨.ok result, optimizer⟩
  | name :: rest, optimizer, result =>
    match lookup parameters name, lookup update name with
    | .ok parameter, .ok delta =>
      (optimizer.applyOne name parameter delta).andThen (fun value optimizer =>
        applyNames parameters update rest optimizer (result.set name value))
    | .error error, _ => ⟨.error error, optimizer⟩
    | _, .error error => ⟨.error error, optimizer⟩

def OuterOptimizer.apply (optimizer : OuterOptimizer N) (parameters update : Tensors N) :
    Outcome (OuterOptimizer N) TrainingError (Tensors N) :=
  match validateMatchingShapes parameters update with
  | .error error => ⟨.error error, optimizer⟩
  | .ok () =>
    applyNames parameters update parameters.sortedKeys
      { optimizer with stepCount := optimizer.stepCount + 1 } Dict.empty

/-- Whatever is stored under a name of the parameters has the parameter's shape. -/
def ShapedBy (parameters moments : Tensors N) : Prop :=
  ∀ name parameter moment, parameters.get? name = some parameter ->
    moments.get? name = some moment -> N.shape moment = N.shape parameter

/-- Every moment has the shape of its parameter. -/
structure OuterOptimizer.Shaped (optimizer : OuterOptimizer N) (parameters : Tensors N) : Prop where
  velocity : ShapedBy parameters optimizer.velocity
  firstMoment : ShapedBy parameters optimizer.firstMoment
  secondMoment : ShapedBy parameters optimizer.secondMoment

theorem ShapedBy.empty {parameters : Tensors N} : ShapedBy parameters Dict.empty := by
  intro name parameter moment _ found
  cases found

theorem ShapedBy.set {parameters moments : Tensors N} {name : String} {parameter array : N.Array}
    (shaped : ShapedBy parameters moments) (found : parameters.get? name = some parameter)
    (shape : N.shape array = N.shape parameter) : ShapedBy parameters (moments.set name array) := by
  intro other wanted moment isOther isMoment
  rcases eq_or_ne other name with rfl | different
  · rw [get?_set_self] at isMoment
    rw [found] at isOther
    rw [← Option.some.inj isMoment, ← Option.some.inj isOther]
    exact shape
  · rw [get?_set_of_ne different] at isMoment
    exact shaped other wanted moment isOther isMoment

theorem ShapedBy.of_matching {parameters other moments : Tensors N}
    (shaped : ShapedBy parameters moments) (same : Matching parameters other) :
    ShapedBy other moments := by
  intro name parameter moment found stored
  obtain ⟨original, isOriginal, shape⟩ := same.symm.get? found
  rw [← shape]
  exact shaped name original moment isOriginal stored

theorem ShapedBy.shape_getD {parameters moments : Tensors N} {name : String}
    {parameter delta : N.Array} (shaped : ShapedBy parameters moments)
    (found : parameters.get? name = some parameter) (shape : N.shape delta = N.shape parameter) :
    N.shape ((moments.get? name).getD (N.zerosLike delta)) = N.shape parameter := by
  cases stored : moments.get? name with
  | none => rw [Option.getD_none, N.shape_zerosLike, shape]
  | some moment => exact shaped name parameter moment found stored

theorem OuterOptimizer.Shaped.of_matching {optimizer : OuterOptimizer N}
    {parameters other : Tensors N} (shaped : optimizer.Shaped parameters)
    (same : Matching parameters other) : optimizer.Shaped other :=
  ⟨shaped.velocity.of_matching same, shaped.firstMoment.of_matching same,
    shaped.secondMoment.of_matching same⟩

theorem OuterOptimizer.Shaped.new {config : OuterOptimizerConfig N} {parameters : Tensors N} :
    (OuterOptimizer.new config).Shaped parameters :=
  ⟨ShapedBy.empty, ShapedBy.empty, ShapedBy.empty⟩

section Succeeds

variable {parameters update : Tensors N} {optimizer : OuterOptimizer N}

theorem OuterOptimizer.Shaped.applyOne {name : String} {parameter delta : N.Array}
    (shaped : optimizer.Shaped parameters) (found : parameters.get? name = some parameter)
    (shape : N.shape delta = N.shape parameter) :
    ∃ value, (optimizer.applyOne name parameter delta).result = .ok value ∧
      N.shape value = N.shape parameter ∧
      (optimizer.applyOne name parameter delta).state.Shaped parameters ∧
      (optimizer.applyOne name parameter delta).state.config = optimizer.config ∧
      (optimizer.applyOne name parameter delta).state.stepCount = optimizer.stepCount := by
  rw [OuterOptimizer.applyOne]
  cases kind : optimizer.config.kind with
  | sgd =>
    have start := shaped.velocity.shape_getD found shape
    obtain ⟨velocity, sum, velocityShape⟩ := N.shape_add
      (N.scale optimizer.config.momentum ((optimizer.velocity.get? name).getD (N.zerosLike delta)))
      delta (by rw [N.shape_scale, start, shape])
    rw [N.shape_scale, start] at velocityShape
    obtain ⟨value, total, valueShape⟩ := N.shape_add parameter
      (N.scale optimizer.config.learningRate velocity) (by rw [N.shape_scale, velocityShape])
    simp only [sum]
    exact ⟨value, total, valueShape,
      ⟨shaped.velocity.set found velocityShape, shaped.firstMoment, shaped.secondMoment⟩, trivial,
      trivial⟩
  | adam =>
    have firstStart := shaped.firstMoment.shape_getD found shape
    have secondStart := shaped.secondMoment.shape_getD found shape
    obtain ⟨first, firstSum, firstShape⟩ := N.shape_add
      (N.scale optimizer.config.beta1
        ((optimizer.firstMoment.get? name).getD (N.zerosLike delta)))
      (N.scale (N.oneMinus optimizer.config.beta1) delta)
      (by rw [N.shape_scale, firstStart, N.shape_scale, shape])
    rw [N.shape_scale, firstStart] at firstShape
    obtain ⟨second, secondSum, secondShape⟩ := N.shape_add
      (N.scale optimizer.config.beta2
        ((optimizer.secondMoment.get? name).getD (N.zerosLike delta)))
      (N.scale (N.oneMinus optimizer.config.beta2) (N.square delta))
      (by rw [N.shape_scale, secondStart, N.shape_scale, N.shape_square, shape])
    rw [N.shape_scale, secondStart] at secondShape
    obtain ⟨applied, quotient, appliedShape⟩ := N.shape_divide
      (N.scale optimizer.config.learningRate
        (N.divideScalar first (N.oneMinus (N.power optimizer.config.beta1 optimizer.stepCount))))
      (N.addScalar (N.sqrt (N.divideScalar second
        (N.oneMinus (N.power optimizer.config.beta2 optimizer.stepCount)))) optimizer.config.epsilon)
      (by rw [N.shape_scale, N.shape_divideScalar, N.shape_addScalar, N.shape_sqrt,
        N.shape_divideScalar, firstShape, secondShape])
    rw [N.shape_scale, N.shape_divideScalar, firstShape] at appliedShape
    obtain ⟨value, total, valueShape⟩ := N.shape_add parameter applied appliedShape.symm
    simp only [firstSum, secondSum]
    exact ⟨value, bind_eq_ok.mpr ⟨applied, quotient, total⟩, valueShape,
      ⟨shaped.velocity, shaped.firstMoment.set found firstShape,
        shaped.secondMoment.set found secondShape⟩, trivial, trivial⟩

theorem OuterOptimizer.Shaped.applyNames {names : List String} {result : Tensors N}
    (shaped : optimizer.Shaped parameters) (same : Matching parameters update)
    (inside : ∀ name, name ∈ names -> name ∈ parameters.keys) :
    ∃ values, (OuterOptimizer.applyNames parameters update names optimizer result).result =
        .ok values ∧
      (∀ name, name ∈ names ->
        (values.get? name).map N.shape = (parameters.get? name).map N.shape) ∧
      (∀ name, name ∉ names -> values.get? name = result.get? name) ∧
      (OuterOptimizer.applyNames parameters update names optimizer result).state.Shaped parameters ∧
      (OuterOptimizer.applyNames parameters update names optimizer result).state.config =
        optimizer.config ∧
      (OuterOptimizer.applyNames parameters update names optimizer result).state.stepCount =
        optimizer.stepCount := by
  induction names generalizing optimizer result with
  | nil =>
    exact ⟨result, rfl, fun name member => absurd member List.not_mem_nil, fun _ _ => rfl, shaped,
      rfl, rfl⟩
  | cons name rest ih =>
    obtain ⟨parameter, found⟩ := exists_get?_of_mem (inside name List.mem_cons_self)
    obtain ⟨delta, isDelta, deltaShape⟩ := same.get? found
    obtain ⟨value, applied, valueShape, shapedNext, sameConfig, sameCount⟩ :=
      shaped.applyOne found deltaShape
    obtain ⟨values, run, shapes, kept, shapedLast, lastConfig, lastCount⟩ :=
      @ih _ (result.set name value) shapedNext
        (fun other member => inside other (List.mem_cons_of_mem _ member))
    have step : OuterOptimizer.applyNames parameters update (name :: rest) optimizer result =
        OuterOptimizer.applyNames parameters update rest
          (optimizer.applyOne name parameter delta).state (result.set name value) := by
      rw [OuterOptimizer.applyNames, lookup_eq_ok.mpr found, lookup_eq_ok.mpr isDelta]
      simp only [Outcome.andThen, applied]
    rw [step]
    refine ⟨values, run, ?_, ?_, shapedLast, lastConfig.trans sameConfig, lastCount.trans sameCount⟩
    · intro other member
      by_cases later : other ∈ rest
      · exact shapes other later
      · obtain rfl := (List.mem_cons.mp member).resolve_right later
        rw [kept other later, get?_set_self, found, Option.map_some, Option.map_some, valueShape]
    · intro other absent
      rw [List.mem_cons, not_or] at absent
      rw [kept other absent.2, get?_set_of_ne absent.1]

theorem OuterOptimizer.Shaped.apply (shaped : optimizer.Shaped parameters)
    (same : Matching parameters update) :
    ∃ values, (optimizer.apply parameters update).result = .ok values ∧
      Matching parameters values ∧
      (optimizer.apply parameters update).state.Shaped parameters ∧
      (optimizer.apply parameters update).state.config = optimizer.config ∧
      (optimizer.apply parameters update).state.stepCount = optimizer.stepCount + 1 := by
  have shapedNext : OuterOptimizer.Shaped { optimizer with stepCount := optimizer.stepCount + 1 }
      parameters := ⟨shaped.velocity, shaped.firstMoment, shaped.secondMoment⟩
  have inside : ∀ name, name ∈ parameters.sortedKeys -> name ∈ parameters.keys :=
    fun name => mem_sortedKeys.mp
  obtain ⟨values, run, shapes, kept, shapedLast, sameConfig, sameCount⟩ :=
    @OuterOptimizer.Shaped.applyNames N parameters update _ _ Dict.empty shapedNext same inside
  rw [OuterOptimizer.apply, validateMatchingShapes_eq_ok.mpr same]
  refine ⟨values, run, ?_, shapedLast, sameConfig, sameCount⟩
  intro name
  by_cases member : name ∈ parameters.keys
  · exact (shapes name (mem_sortedKeys.mpr member)).symm
  · rw [kept name (fun sorted => member (mem_sortedKeys.mp sorted)), get?_empty,
      get?_eq_none_iff.mpr member]

end Succeeds

/-- `int(value)` -/
def intOfJson : Json -> Except TrainingError Int
  | .int value => .ok value
  | .bool value => .ok (if value then 1 else 0)
  | .float value => .ok (value.num.tdiv value.den)
  | .str text =>
    match readInt? text.toList with
    | some value => .ok value
    | none => .error (.valueError ("invalid literal for int() with base 10: " ++ text))
  | _ => .error (.typeError "int() argument must be a string, a bytes-like object or a real number")

def OuterOptimizer.stateDict (optimizer : OuterOptimizer N) : Json :=
  .obj [("kind", .str optimizer.config.kind.value), ("config", optimizer.config.dump),
    ("step_count", .int optimizer.stepCount), ("velocity", arraysToJson optimizer.velocity),
    ("first_moment", arraysToJson optimizer.firstMoment),
    ("second_moment", arraysToJson optimizer.secondMoment)]

/-- `load_state_dict`.  No caller keeps an optimizer that failed to load. -/
def OuterOptimizer.loadStateDict (optimizer : OuterOptimizer N) (state : Json) :
    Except TrainingError (OuterOptimizer N) := do
  match state.get? "kind" with
  | some (.str kind) =>
    raiseIf (kind ≠ optimizer.config.kind.value)
      (.diLoCoError "outer optimizer kind does not match checkpoint")
  | _ => .error (.diLoCoError "outer optimizer kind does not match checkpoint")
  let stepCount ← intOfJson ((state.get? "step_count").getD (.int 0))
  let velocity ← arraysFromJson N ((state.get? "velocity").getD (.obj []))
  let firstMoment ← arraysFromJson N ((state.get? "first_moment").getD (.obj []))
  let secondMoment ← arraysFromJson N ((state.get? "second_moment").getD (.obj []))
  .ok { optimizer with stepCount, velocity, firstMoment, secondMoment }

/-- Optimizers that differ at most in the order of their names. -/
structure OuterOptimizer.Alike (left right : OuterOptimizer N) : Prop where
  config : left.config = right.config
  stepCount : left.stepCount = right.stepCount
  velocity : ∀ name, left.velocity.get? name = right.velocity.get? name
  firstMoment : ∀ name, left.firstMoment.get? name = right.firstMoment.get? name
  secondMoment : ∀ name, left.secondMoment.get? name = right.secondMoment.get? name

theorem arraysToJson_congr {left right : Tensors N}
    (same : ∀ name, left.get? name = right.get? name) : arraysToJson left = arraysToJson right := by
  rw [arraysToJson, arraysToJson, sortedKeys_eq_of_get? same]
  simp only [same]

theorem OuterOptimizer.Alike.stateDict {left right : OuterOptimizer N} (alike : left.Alike right) :
    left.stateDict = right.stateDict := by
  rw [OuterOptimizer.stateDict, OuterOptimizer.stateDict, alike.config, alike.stepCount,
    arraysToJson_congr alike.velocity, arraysToJson_congr alike.firstMoment,
    arraysToJson_congr alike.secondMoment]

theorem loadStateDict_stateDict {fresh saved : OuterOptimizer N}
    (same : fresh.config = saved.config) :
    ∃ copy, fresh.loadStateDict saved.stateDict = .ok copy ∧ copy.Alike saved := by
  obtain ⟨velocity, readVelocity, velocitySame⟩ := arraysFromJson_arraysToJson saved.velocity
  obtain ⟨first, readFirst, firstSame⟩ := arraysFromJson_arraysToJson saved.firstMoment
  obtain ⟨second, readSecond, secondSame⟩ := arraysFromJson_arraysToJson saved.secondMoment
  refine ⟨⟨fresh.config, saved.stepCount, velocity, first, second⟩, ?_,
    ⟨same, rfl, velocitySame, firstSame, secondSame⟩⟩
  have kind : saved.stateDict.get? "kind" = some (.str fresh.config.kind.value) := by
    rw [same]
    rfl
  have count : saved.stateDict.get? "step_count" = some (.int saved.stepCount) := rfl
  have isVelocity : saved.stateDict.get? "velocity" = some (arraysToJson saved.velocity) := rfl
  have isFirst : saved.stateDict.get? "first_moment" = some (arraysToJson saved.firstMoment) := rfl
  have isSecond : saved.stateDict.get? "second_moment" = some (arraysToJson saved.secondMoment) := rfl
  rw [OuterOptimizer.loadStateDict, kind, count, isVelocity, isFirst, isSecond]
  simp only [Option.getD_some, raiseIf, ne_eq, not_true_eq_false, if_false, readVelocity, readFirst,
    readSecond, intOfJson]
  rfl

section Simulation

variable {parameters copies update : Tensors N} {left right : OuterOptimizer N}

theorem OuterOptimizer.Alike.applyOne (alike : left.Alike right) (name : String)
    (parameter delta : N.Array) :
    (left.applyOne name parameter delta).result = (right.applyOne name parameter delta).result ∧
      (left.applyOne name parameter delta).state.Alike (right.applyOne name parameter delta).state := by
  have stored : ∀ {first second : Tensors N} (value : N.Array),
      (∀ other, first.get? other = second.get? other) ->
      ∀ other, (first.set name value).get? other = (second.set name value).get? other := by
    intro first second value same other
    rcases eq_or_ne other name with rfl | different
    · rw [get?_set_self, get?_set_self]
    · rw [get?_set_of_ne different, get?_set_of_ne different, same]
  rw [OuterOptimizer.applyOne, OuterOptimizer.applyOne, alike.config, alike.stepCount, alike.velocity,
    alike.firstMoment, alike.secondMoment]
  cases right.config.kind with
  | sgd =>
    dsimp only
    split
    · exact ⟨rfl, alike⟩
    · exact ⟨rfl, ⟨rfl, rfl, stored _ alike.velocity, alike.firstMoment,
        alike.secondMoment⟩⟩
  | adam =>
    dsimp only
    split
    · exact ⟨rfl, alike⟩
    · exact ⟨rfl, alike⟩
    · exact ⟨rfl, ⟨rfl, rfl, alike.velocity, stored _ alike.firstMoment,
        stored _ alike.secondMoment⟩⟩

theorem OuterOptimizer.Alike.applyNames (alike : left.Alike right)
    (same : ∀ name, parameters.get? name = copies.get? name) (names : List String)
    (result : Tensors N) :
    (OuterOptimizer.applyNames parameters update names left result).result =
        (OuterOptimizer.applyNames copies update names right result).result ∧
      (OuterOptimizer.applyNames parameters update names left result).state.Alike
        (OuterOptimizer.applyNames copies update names right result).state := by
  induction names generalizing left right result with
  | nil => exact ⟨rfl, alike⟩
  | cons name rest ih =>
    have looked : lookup parameters name = lookup copies name := by
      rw [lookup, lookup, same]
    rw [OuterOptimizer.applyNames, OuterOptimizer.applyNames, looked]
    cases lookup copies name with
    | error error => exact ⟨rfl, alike⟩
    | ok parameter =>
      cases lookup update name with
      | error error => exact ⟨rfl, alike⟩
      | ok delta =>
        obtain ⟨sameResult, alikeNext⟩ := alike.applyOne name parameter delta
        dsimp only
        rw [Outcome.andThen, Outcome.andThen, sameResult]
        cases (right.applyOne name parameter delta).result with
        | error error => exact ⟨rfl, alikeNext⟩
        | ok value => exact ih alikeNext (result.set name value)

theorem OuterOptimizer.Alike.apply (alike : left.Alike right)
    (same : ∀ name, parameters.get? name = copies.get? name)
    (matching : Matching parameters update) :
    (left.apply parameters update).result = (right.apply copies update).result ∧
      (left.apply parameters update).state.Alike (right.apply copies update).state := by
  have matchingCopies : Matching copies update := by
    intro name
    rw [← same]
    exact matching name
  rw [OuterOptimizer.apply, OuterOptimizer.apply, validateMatchingShapes_eq_ok.mpr matching,
    validateMatchingShapes_eq_ok.mpr matchingCopies, sortedKeys_eq_of_get? same]
  refine OuterOptimizer.Alike.applyNames ?_ same _ _
  exact ⟨alike.config, congrArg (· + 1) alike.stepCount, alike.velocity, alike.firstMoment,
    alike.secondMoment⟩

end Simulation

end Optimizer

end Training
end ZepGpu
