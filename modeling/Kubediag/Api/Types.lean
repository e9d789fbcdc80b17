/-
# Kubediag.Api.Types — the Abnormal resource as the recoverer chain sees it

The types of `api/v1/abnormal_types.go` that the recoverer chain reads or writes, and the
`Recoverer` descriptor it lists from the cache. Go's named string types (`AbnormalPhase`,
`AbnormalProcessorType`, `AbnormalConditionType`, `corev1.ConditionStatus`) stay strings,
so a phase the code does not name is still a value; the constants are the code's.

Left out, as no modelled function reads them: `TypeMeta`, `Spec.PrometheusAlert` and
`Spec.KubernetesEvent`, and the constants of the other stages (the InformationCollecting,
Diagnosing and Unknown phases, the InformationCollector and Diagnoser types, the
InformationCollected and Identified conditions). `resourceVersion` is the store's revision counter (a string in
Kubernetes, compared only for equality). `Spec.SkipRecovery` is read only by the chain of the
earlier API version (`Legacy.Chain`).
-/
import Mathlib.Data.List.Basic

namespace Kubediag.Api

set_option autoImplicit false

/-- `metav1.Time`, at the resolution the store keeps. -/
abbrev Time := Nat

abbrev AbnormalPhase := String

def abnormalRecovering : AbnormalPhase := "Recovering"
def abnormalSucceeded : AbnormalPhase := "Succeeded"
def abnormalFailed : AbnormalPhase := "Failed"

abbrev AbnormalProcessorType := String

def recovererType : AbnormalProcessorType := "Recoverer"

abbrev AbnormalConditionType := String

def abnormalRecovered : AbnormalConditionType := "Recovered"

/-- `corev1.ConditionStatus` and `corev1.EventType` values the chain writes. -/
def conditionTrue : String := "True"
def conditionFalse : String := "False"
def eventTypeNormal : String := "Normal"
def eventTypeWarning : String := "Warning"

/-- The two phases a recoverer chain ends an Abnormal in. -/
def Terminal (phase : AbnormalPhase) : Prop :=
  phase = abnormalSucceeded ∨ phase = abnormalFailed

@[simp] theorem succeeded_ne_recovering : abnormalSucceeded ≠ abnormalRecovering := by decide
@[simp] theorem failed_ne_recovering : abnormalFailed ≠ abnormalRecovering := by decide
@[simp] theorem succeeded_ne_failed : abnormalSucceeded ≠ abnormalFailed := by decide

theorem Terminal.ne_recovering {phase : AbnormalPhase} (terminal : Terminal phase) :
    phase ≠ abnormalRecovering := by
  rcases terminal with rfl | rfl <;> simp

structure NamespacedName where
  «namespace» : String
  name : String
deriving DecidableEq, Repr

structure PodReference where
  «namespace» : String
  name : String
  containerName : String
deriving DecidableEq, Repr

structure CommandExecutorSpec where
  command : List String
  type : AbnormalProcessorType
  timeoutSeconds : Int
deriving DecidableEq, Repr

structure GoProfilerSpec where
  source : String
deriving DecidableEq, Repr

structure JavaProfilerSpec where
  type : String
  hprofFilePath : String
deriving DecidableEq, Repr

structure ProfilerSpec where
  name : String
  type : AbnormalProcessorType
  go : Option GoProfilerSpec
  java : Option JavaProfilerSpec
  timeoutSeconds : Int
  expirationSeconds : Int
deriving DecidableEq, Repr

/-- `runtime.RawExtension`: the opaque context blob. -/
structure RawExtension where
  raw : List UInt8
deriving DecidableEq, Repr

structure AbnormalSpec where
  source : String
  nodeName : String
  podReference : Option PodReference
  assignedInformationCollectors : List NamespacedName
  assignedDiagnosers : List NamespacedName
  assignedRecoverers : List NamespacedName
  commandExecutors : List CommandExecutorSpec
  profilers : List ProfilerSpec
  context : Option RawExtension
  skipRecovery : Bool
deriving DecidableEq, Repr

structure CommandExecutorStatus where
  command : List String
  type : AbnormalProcessorType
  stdout : String
  stderr : String
  error : String
deriving DecidableEq, Repr

/-- The `{Endpoint}` record shared by the Go, Arthas and MemoryAnalyzer profiler results. -/
structure ProfilerEndpoint where
  endpoint : String
deriving DecidableEq, Repr

structure JavaProfilerStatus where
  type : String
  arthas : Option ProfilerEndpoint
  memoryAnalyzer : Option ProfilerEndpoint
deriving DecidableEq, Repr

structure ProfilerStatus where
  name : String
  type : AbnormalProcessorType
  go : Option ProfilerEndpoint
  java : Option JavaProfilerStatus
  expired : Bool
  error : String
deriving DecidableEq, Repr

structure AbnormalCondition where
  type : AbnormalConditionType
  status : String
  lastTransitionTime : Time
  reason : String
  message : String
deriving DecidableEq, Repr

structure AbnormalStatus where
  identifiable : Bool
  recoverable : Bool
  phase : AbnormalPhase
  conditions : List AbnormalCondition
  message : String
  reason : String
  startTime : Time
  diagnoser : Option NamespacedName
  recoverer : Option NamespacedName
  commandExecutors : List CommandExecutorStatus
  profilers : List ProfilerStatus
  context : Option RawExtension
deriving DecidableEq, Repr

structure ObjectMeta where
  name : String
  «namespace» : String
  uid : String
  resourceVersion : Nat
deriving DecidableEq, Repr

structure Abnormal where
  meta : ObjectMeta
  spec : AbnormalSpec
  status : AbnormalStatus
deriving DecidableEq, Repr

/-- `client.ObjectKey{Name, Namespace}` of an Abnormal: what `Get` and `Update` address. -/
def Abnormal.key (abnormal : Abnormal) : NamespacedName :=
  ⟨abnormal.meta.«namespace», abnormal.meta.name⟩

theorem Abnormal.key_of_meta {a b : Abnormal} (same : a.meta = b.meta) : a.key = b.key := by
  simp [Abnormal.key, same]

/-- Modelled from the spec: `diagnosisv1.RecovererSpec` (recoverer_types.go is not in the
sources); the fields are those `runRecovery` reads to reach the recoverer. -/
structure RecovererSpec where
  scheme : String
  ip : String
  port : Int
  path : String
  timeoutSeconds : Int
deriving DecidableEq, Repr

/-- Modelled from the spec: `diagnosisv1.Recoverer`, a catalog entry of the recoverer chain. -/
structure Recoverer where
  name : String
  «namespace» : String
  spec : RecovererSpec
deriving DecidableEq, Repr

end Kubediag.Api
