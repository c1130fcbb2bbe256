import TensorKit.Script.Layers.Arithmetic

/-! # Parts of layers

Objects that never change. Their settings are what their configurations show.
-/
namespace TensorKit.Script
open Layers
inductive PartFamily where
  | initializer | constraint | regularizer | activation
deriving DecidableEq

def PartFamily.word : PartFamily → String
  | .initializer => "initializer"
  | .constraint => "constraint"
  | .regularizer => "regularizer"
  | .activation => "activation"

structure PartClass where
  (title className : String)
  family : PartFamily
  settle : Value → Script Fields
  apply : Value → Handler

variable (v : Value) (self : Value) (args : Values) (title : String)
def memberOf (name : String) : Reply := do
  if v.isNil then throw (.unreadable v.text name)
  return v name
def truthyOr (default : Float) : Value := if v.truthy then v else default
def noSettings (_ : Value) : Script Fields := return []
def settled (defaults : Named Float) (args : Value) : Script Fields :=
  defaults.mapM fun (k,d) => return (k,(← memberOf args k).orElse d)
def normsOf (w axis : Value) : Reply := tidied do core "sqrt" [← core "sum" [← core "mulStrict" [w,w],axis,true]]
def seedOf (args : Value) : Value := if args.isNil then .null else args "seed"

def fansOf (shape : Floats) : Float × Float :=
  let product := fun xs => xs.foldl (· * ·) 1
  match shape.length with
  | 2 => (shape.getD 0 0,shape.getD 1 0)
  | 3 | 4 | 5 =>
    let field := product (shape.take (shape.length - 2))
    (shape.getD (shape.length - 2) 0 * field,shape.getD (shape.length - 1) 0 * field)
  | _ => (.sqrt (product shape),.sqrt (product shape))

def requireRealType (what : String) (dtype : Value) : Reply := do
  let dtype := if dtype.truthy then dtype else "float32"
  if dtype.text != "float32" && dtype.text != "int32" then
    unsupported (what ++ " does not support dType " ++ dtype.text ++ ".")
  return dtype
def drawnTensor (shape dtype : Value) (middle spread : Float) : Reply := do
  let sizes := shape.items.map Value.toNumber
  let n := (sizes.foldl (· * ·) 1).toUInt64.toNat
  let xs ← drawMany n
  core "tensor" [.typed .float32 (xs.map fun x => Number.toSingle (middle + (x - 0.5) * 2 * spread)).toArray,
    shape,dtype]
def scaledSettings (scale : Float) (mode distribution : String) (args : Value) : Script Fields :=
  return [("scale",scale),("mode",mode),("distribution",distribution),("seed",seedOf args)]

def applyScaled : Reply := do
  let shape := args 0
  let dtype := args 1
  let (fanIn,fanOut) := fansOf (shape.items.map Value.toNumber)
  let atLeastOne := fun x => if x > 1 || x.isNaN then x else 1
  let n := match (self "mode").text with
    | "fanIn" => atLeastOne fanIn
    | "fanOut" => atLeastOne fanOut
    | _ => atLeastOne ((fanIn + fanOut) / 2)
  let scale := (self "scale").toNumber / n
  if (self "distribution").text == "normal" then
    drawnTensor shape (← requireRealType "VarianceScaling" dtype) 0 (.sqrt scale)
  else drawnTensor shape (if dtype.isAbsent then "float32" else dtype) 0 (.sqrt (3 * scale))

def scaledClasses : List PartClass :=
  let scaled title scale mode distribution (className : String := title) : PartClass :=
    ⟨title,className,.initializer,scaledSettings scale mode distribution,applyScaled⟩
  [ scaled "GlorotUniform" 1 "fanAvg" "uniform",scaled "GlorotNormal" 1 "fanAvg" "normal",
    scaled "HeNormal" 2 "fanIn" "normal",scaled "HeUniform" 2 "fanIn" "uniform",
    -- Two classes share one name in configurations, and there the later one is meant.
    scaled "LeCunUniform" 1 "fanIn" "uniform" "LeCunNormal",scaled "LeCunNormal" 1 "fanIn" "normal" ]

def applyOrthogonal : Reply := tidied do
  let shape := (args 0).items
  if shape.length != 2 then unsupported "The Orthogonal Initializer does not support non-2D shapes yet."
  let rows := (shape 0).toNumber
  let isTall := rows > ((shape 1).toNumber)
  let a ← drawnTensor (if isTall then shape.reverse else shape) "float32" 0 1
  let q ← core "linalg.gramSchmidt" [a]
  let q ← if isTall then core "transpose" [q] else pure q
  times (self "gain") q

def normalClass : PartClass :=
  ⟨title,title,.initializer,fun args => do
      return [("mean",truthyOr (← memberOf args "mean") 0),("stddev",truthyOr (← memberOf args "stddev") 0.05),
        ("seed",← memberOf args "seed")],
    fun self a => do
      drawnTensor (a 0) (← requireRealType title.decapitalize (a 1)) (self "mean").toNumber (self "stddev").toNumber⟩

def initializerClasses : List PartClass :=
  [ ⟨"Zeros","Zeros",.initializer,noSettings,fun _ a => core "zeros" a⟩,
    ⟨"Ones","Ones",.initializer,noSettings,fun _ a => core "ones" a⟩,
    ⟨"Constant","Constant",.initializer,
      fun args => do
        if typeName args != "object" then badValue ("Expected argument of type ConstantConfig but got " ++ args.text)
        let v ← memberOf args "value"
        if v.isAbsent then badValue ("config must have value set but got " ++ args.text)
        return [("value",v)],
      fun self a => tidied do times (← core "scalar" [self "value"]) (← core "ones" a)⟩,
    ⟨"RandomUniform","RandomUniform",.initializer,
      fun args => do
        return [("minval",truthyOr (← memberOf args "minval") (-0.05)),
          ("maxval",truthyOr (← memberOf args "maxval") 0.05),("seed",← memberOf args "seed")],
      fun self a =>
        let low := (self "minval").toNumber
        let high := (self "maxval").toNumber
        drawnTensor (a 0) ((a 1).orElse "float32") ((low + high) / 2) ((high - low) / 2)⟩,
    normalClass "RandomNormal",normalClass "TruncatedNormal",
    ⟨"Identity","Identity",.initializer,settled [("gain",1)],
      fun self a => tidied do
        match (a 0).items with
        | [n,m] => if n.toNumber == m.toNumber then return ← times (self "gain") (← core "eye" [n])
        | _ => pure ()
        badValue "Identity matrix initializer can only be used for 2D square matrices."⟩,
    ⟨"VarianceScaling","VarianceScaling",.initializer,
      fun args => do
        let scale ← memberOf args "scale"
        if scale.toNumber < 0 then badValue ("scale must be a positive float. Got: " ++ scale.text)
        let mode := (args "mode").orElse "fanIn"
        requireWord ["fanIn","fanOut","fanAvg"] "FanMode" mode
        let distribution := (args "distribution").orElse "normal"
        requireWord ["normal","uniform","truncatedNormal"] "Distribution" distribution
        return [("scale",scale.orElse 1),("mode",mode),("distribution",distribution),("seed",args "seed")],
      applyScaled⟩,
    ⟨"Orthogonal","Orthogonal",.initializer,
      fun args => do
        let gain := (← memberOf args "gain").orElse 1
        let seed := args "seed"
        if seed.isPresent then unsupported "Random seed is not implemented for Orthogonal Initializer yet."
        return [("gain",gain),("seed",seed)],
      applyOrthogonal⟩ ] ++ scaledClasses

def rescaled (desired : Value → Reply) : Reply := tidied do
  let norms ← normsOf (args 0) (self "axis")
  let desired ← desired norms
  times (args 0) (← per desired (← plus smallNumber norms))
def applyMaxNorm : Reply := rescaled self args fun norms => core "clipByValue" [norms,0,self "maxValue"]
def applyMinMaxNorm : Reply := rescaled self args fun norms => do
  let clipped ← core "clipByValue" [norms,self "minValue",self "maxValue"]
  let rate := self "rate"
  plus (← times rate clipped) (← times (.num (1 - rate.toNumber)) norms)

def constraintClasses : List PartClass :=
  [ ⟨"MaxNorm","MaxNorm",.constraint,settled [("maxValue",2),("axis",0)],applyMaxNorm⟩,
    ⟨"UnitNorm","UnitNorm",.constraint,settled [("axis",0)],
      fun self a => tidied do
        let norms ← normsOf (a 0) (self "axis")
        per (a 0) (← plus smallNumber norms)⟩,
    ⟨"NonNeg","NonNeg",.constraint,noSettings,fun _ a => core "relu" [a 0]⟩,
    ⟨"MinMaxNorm","MinMaxNorm",.constraint,
      settled [("minValue",0),("maxValue",1),("rate",1),("axis",0)],applyMinMaxNorm⟩ ]

def requireObjectArgs (args : Value) : Act := do
  if args.isPresent && typeName args != "object" then
    fail ("Argument to L1L2 regularizer's constructor is expected to be an object, but received: " ++ args.text)
def penaltySettings (args : Value) : Script Fields := do
  requireObjectArgs args
  return [("l1",(args "l1").orElse 0.01),("l2",(args "l2").orElse 0.01)]

def applyPenalty : Reply := tidied do
  let x := args 0
  let isOn v := v.num? != some 0
  let zero ← core "zeros" [.list [1]]
  let l1 := self "l1"
  let l2 := self "l2"
  let r ← if isOn l1 then do plus zero (← core "sum" [← times l1 (← core "abs" [x])])
    else pure zero
  let r ← if isOn l2 then do plus r (← core "sum" [← times l2 (← squareOf x)])
    else pure r
  core "reshape" [r,.list []]

def regularizerClasses : List PartClass := [⟨"L1L2","L1L2",.regularizer,penaltySettings,applyPenalty⟩]
def activationClass (f : Value → Value → Reply) : PartClass :=
  ⟨title,title.decapitalize,.activation,noSettings,fun _ a => f (a 0) (a 1)⟩
def activationClasses : List PartClass :=
  [ activationClass "Elu" eluOf,activationClass "Linear" fun x _ => return x,
    activationClass "Relu6" fun x _ => tidied do core "minimum" [6,← core "relu" [x]],
    activationClass "HardSigmoid" fun x _ => hardSigmoidOf x,activationClass "Softsign" fun x _ => softsignOf x ] ++
  ["Selu","Relu","Sigmoid","Softplus","Tanh"].map (fun t => activationClass t fun x _ => core t.decapitalize [x]) ++
  ["Softmax","LogSoftmax"].map fun t => activationClass t fun x axis =>
    core t.decapitalize [x,if axis.isAbsent then .num (-1) else axis]
def partClasses : List PartClass := initializerClasses ++ constraintClasses ++ regularizerClasses ++ activationClasses
def partClassOf : Option PartClass := partClasses.find? (·.title == title)
def isPart (family : PartFamily) (v : Value) : Bool := match v with
  | .item title _ => ((partClassOf title).map (·.family)) == some family
  | _ => false
def createPart (args : Value) : Reply := do
  let some c := partClassOf title | fail s!"no class {title}"
  return .item title (← c.settle args)
def selfNamed : Strings := scaledClasses.map (·.title)
def partName : String :=
  if selfNamed.contains title then "VarianceScaling"
  else ((partClassOf title).map (·.className)).getD title
def partConfig : Value := match v with
  | .item title fields => .record [("className",partName title),("config",.record fields)]
  | _ => .null

def applyPart : Reply := do
  match v with
  | .item title _ => (partClassOf title).elim (notAFunction "apply") (·.apply v args)
  | .record fields => (fields.lookup "apply").elim (notAFunction "apply") (call · args)
  | _ => notAFunction "apply"

def unknownClass {α : Type} (family name : String) : Script α :=
  badValue (s!"Unknown {family}: {name}. This may be due to one of the following reasons:\n1. The {family} is " ++
    "defined in Python, in which case it needs to be ported to TensorFlow.js or your JavaScript code.\n2. The " ++
    s!"custom {family} is defined in JavaScript, but is not registered properly with " ++
    "tf.serialization.registerClass().")

def plainNumbersIn : Value → Value
  | .list xs => .list (xs.map plainNumbersIn)
  | .record fs => .record (fs.map fun f => (f.1,match f.2 "type",f.2 "value" with
    | .str "ndarray",.num x => x
    | _,_ => plainNumbersIn f.2))
  | v => v
decreasing_by all_goals grind [→ List.sizeOf_lt_of_mem]

def classesInForce : InForce Script Value :=
  ⟨do return (← get).customClasses,fun r => modify fun w => { w with customClasses := r }⟩

/-- Builds an object from its configuration. A class is known by an entry that starts with it, under the
name that configurations have for it. -/
def deserializeWith (family : String) (known : Named String)
    (build : String → Value → Reply) (identifier customs : Value) : Reply := do
  let given := customs.fields
  let inForce ← classesInForce.get
  let known := known.map fun (name,title) => (name,.list [.classRef title,.native "" []])
  match identifier with
  | .str name =>
    match Registry.resolve given inForce known name with
    | some v => return v
    | none => unknownClass family name
  | config =>
    let className ← memberOf config "className"
    let settings := config "config"
    if className.isNil || settings.isNil then
      badValue (family ++ ": Improper config format: " ++ jsonText config ++ ".\n'className' and 'config' must set.")
    match Registry.resolveClass given inForce known className.text with
    | none => throw (.noMember "0")
    | some (.list (cls :: f :: _)) =>
      let settings := plainNumbersIn settings
      classesInForce.building given (match cls,f with
        | .classRef title,.native "" _ => build title settings
        | _,_ => call f [cls,.record (settings.fields.put "customObjects" (.record (inForce.overlay given))),
            customs])
    | _ => unknownClass family className.text

def deserializeAny (family : String) (identifier customs : Value) (zeroInit : Bool) : Reply :=
  call (.native "classes.deserialize" [family]) [identifier,customs,zeroInit]

variable (family : PartFamily) (v : Value)
def deserializePart (identifier customs : Value) : Reply := do
  let isPartName := match identifier "className" with
    | .str name => partClasses.any (·.className == name)
    | _ => false
  if !isPartName then deserializeAny family.word identifier customs false
  else
    deserializeWith family.word (partClasses.map fun c => (c.className,c.title)) (fun title settings => do
        match partClassOf title with
        | some c => return .item c.title (← c.settle settings)
        | none =>
          let whole := .record [("className",title),("config",settings)]
          deserializeAny family.word whole .absent false)
      identifier customs

def partAliases : Named String :=
  ("l1l2","L1L2") :: (initializerClasses ++ constraintClasses).map fun c => (c.title.decapitalize,c.title)
def namedPart (name : String) : Value := .record [("className",name),("config",.record [])]
def aliasIn (name : String) : String := match partAliases.lookup name with
  | some full => if ((partClassOf full).map (·.family)) == some family then full else name
  | none => name
def getInitializer : Reply := do
  let .str s := v | if isPart .initializer v then return v else deserializePart .initializer v .absent
  let name := aliasIn .initializer s
  if selfNamed.contains name then createPart name .absent
  else deserializePart .initializer (namedPart name) .absent
def getNamedPart : Reply := do
  match v with
  | .absent | .null => return .null
  | .str s => deserializePart family (namedPart (aliasIn family s)) .absent
  | v => if isPart family v then return v else deserializePart family v .absent
def getConstraint : Value → Reply := getNamedPart .constraint
def getRegularizer : Value → Reply := getNamedPart .regularizer
def getActivation : Reply := getNamedPart .activation (v.orElse "linear")
def activationName : Value := match v with
  | .item title _ => partName title
  | _ => .absent
def partMethod (self : Value) (title : String) (fields : Fields) (name : String) (args : Values) : Reply := do
  match name with
  | "apply" => applyPart self args
  | "getConfig" => return .record fields
  | "getClassName" => return partName title
  | "fromConfigUsesCustomObjects" => return false
  | _ => notAFunction name

def partTable : Handlers :=
  partAliases.map (fun (name,title) =>
    (((partClassOf title).map (·.family.word)).getD "" ++ "s." ++ name,on1 (createPart title ·))) ++
  ["initializers","constraints","regularizers"].map (fun f => (f ++ ".serialize",on1 fun x => return partConfig x)) ++
  [("l1","l2"),("l2","l1")].map (fun (k,other) => ("regularizers." ++ k,on1 fun x => do
    requireObjectArgs x
    createPart "L1L2" (.record [(k,x k),(other,.num 0)]))) ++
  [ ("initializers.get",on1 getInitializer),
    ("constraints.get",on1 getConstraint),
    ("regularizers.get",on1 getRegularizer),
    ("activations.get",on1 getActivation),
    ("constraints.deserialize",on2 fun x y => deserializePart .constraint x y),
    ("activations.serialize",on1 fun x => return activationName x) ]
end TensorKit.Script
