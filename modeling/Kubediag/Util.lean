/-
# Kubediag.Util — conditions, result validation and node affinity

`pkg/util/util.go` is not among the sources; only its tests (`util_test.go`) and its callers
are. The three helpers the recoverer chain relies on are modelled here from the spec (§3
"Condition", §4.3, §4.5), with the error texts of the tests:

* `updateAbnormalCondition` finds the condition by type, leaves it alone when its status is
  unchanged, and otherwise rewrites it in place or appends it, stamping `now`.
* `validateAbnormalResult` accepts a processor's result exactly when it kept the engine's
  bookkeeping (`validateAbnormalResult_ok_iff`), which makes it a validator that `Protects`.
* `isAbnormalNodeNameMatched` is the wildcard-or-equal comparison of node names.
-/
import Kubediag.Api.Types

namespace Kubediag.Util

open Kubediag.Api

set_option autoImplicit false

/-! ## Conditions -/

/-- Modelled from the spec: `util.GetAbnormalCondition`, the condition of a type. -/
def getAbnormalCondition (conditions : List AbnormalCondition) (type : AbnormalConditionType) :
    Option AbnormalCondition :=
  conditions.find? (·.type = type)

/-- Modelled from the spec: the list half of `util.UpdateAbnormalCondition` (§3). An entry of
the condition's type whose status is unchanged is left alone; one whose status differs takes
the new status, reason and message and the time `now`; a missing type is appended. The flag
says whether the list changed. -/
def updateConditions (now : Time) (condition : AbnormalCondition) :
    List AbnormalCondition → List AbnormalCondition × Bool
  | [] => ([{ condition with lastTransitionTime := now }], true)
  | existing :: rest =>
      if existing.type = condition.type then
        if existing.status = condition.status then (existing :: rest, false)
        else
          ({ existing with
              status := condition.status, reason := condition.reason,
              message := condition.message, lastTransitionTime := now } :: rest, true)
      else
        let (rest, changed) := updateConditions now condition rest
        (existing :: rest, changed)

/-- Modelled from the spec: `util.UpdateAbnormalCondition` on a status. -/
def updateAbnormalCondition (now : Time) (status : AbnormalStatus)
    (condition : AbnormalCondition) : AbnormalStatus × Bool :=
  let (conditions, changed) := updateConditions now condition status.conditions
  ({ status with conditions := conditions }, changed)

/-! ## Result validation -/

/-- The fields a processor may not change: the whole spec and the engine's bookkeeping. -/
structure Bookkeeping where
  spec : AbnormalSpec
  identifiable : Bool
  recoverable : Bool
  phase : AbnormalPhase
  conditions : List AbnormalCondition
  message : String
  reason : String
  startTime : Time
  diagnoser : Option NamespacedName
  recoverer : Option NamespacedName
deriving DecidableEq

def bookkeeping (abnormal : Abnormal) : Bookkeeping :=
  ⟨abnormal.spec, abnormal.status.identifiable, abnormal.status.recoverable,
    abnormal.status.phase, abnormal.status.conditions, abnormal.status.message,
    abnormal.status.reason, abnormal.status.startTime, abnormal.status.diagnoser,
    abnormal.status.recoverer⟩

/-- One protected field: the error text for it, and whether a result kept it. -/
structure FieldCheck where
  message : String
  kept : Abnormal → Abnormal → Bool

def fieldCheck {α : Type} [DecidableEq α] (message : String) (field : Abnormal → α) :
    FieldCheck :=
  ⟨message, fun result current => decide (field result = field current)⟩

/-- The protected fields in the order of §4.3, with the texts `util_test.go` expects. -/
def protectedFields : List FieldCheck :=
  [fieldCheck "spec field of Abnormal must not be modified" (·.spec),
   fieldCheck "identifiable filed of Abnormal must not be modified" (·.status.identifiable),
   fieldCheck "recoverable filed of Abnormal must not be modified" (·.status.recoverable),
   fieldCheck "phase filed of Abnormal must not be modified" (·.status.phase),
   fieldCheck "conditions filed of Abnormal must not be modified" (·.status.conditions),
   fieldCheck "message filed of Abnormal must not be modified" (·.status.message),
   fieldCheck "reason filed of Abnormal must not be modified" (·.status.reason),
   fieldCheck "startTime filed of Abnormal must not be modified" (·.status.startTime),
   fieldCheck "diagnoser filed of Abnormal must not be modified" (·.status.diagnoser),
   fieldCheck "recoverer filed of Abnormal must not be modified" (·.status.recoverer)]

/-- Modelled from the spec: `util.ValidateAbnormalResult` (§4.3), rejecting with the first
protected field the result changed. -/
def validateAbnormalResult (result current : Abnormal) : Except String Unit :=
  match protectedFields.find? (fun check => !check.kept result current) with
  | none => .ok ()
  | some check => .error check.message

theorem bookkeeping_eq_iff (result current : Abnormal) :
    bookkeeping result = bookkeeping current ↔
      ∀ check ∈ protectedFields, check.kept result current = true := by
  simp [bookkeeping, protectedFields, fieldCheck, and_assoc]

theorem validateAbnormalResult_ok_iff (result current : Abnormal) :
    validateAbnormalResult result current = .ok () ↔
      bookkeeping result = bookkeeping current := by
  rw [bookkeeping_eq_iff, validateAbnormalResult]
  split
  · rename_i none
    simpa using List.find?_eq_none.mp none
  · rename_i check found
    simp only [reduceCtorEq, false_iff, not_forall]
    exact ⟨check, List.mem_of_find?_eq_some found,
      by simpa using List.find?_some found⟩

/-- A validator that accepts only results keeping the bookkeeping. -/
def Protects (validate : Abnormal → Abnormal → Except String Unit) : Prop :=
  ∀ result current, validate result current = .ok () →
    bookkeeping result = bookkeeping current

theorem validateAbnormalResult_protects : Protects validateAbnormalResult :=
  fun result current accepted => (validateAbnormalResult_ok_iff result current).mp accepted

/-! ## Node affinity -/

/-- Modelled from the spec: `util.IsAbnormalNodeNameMatched` (§4.5). An empty node name is
a wildcard; otherwise the names must be equal. -/
def isAbnormalNodeNameMatched (abnormal : Abnormal) (node : String) : Bool :=
  abnormal.spec.nodeName = "" || abnormal.spec.nodeName = node

end Kubediag.Util
