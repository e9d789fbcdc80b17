/-
# Kubediag.RecovererChain.RunRecovery — one pass of the recoverer chain

`pkg/recovererchain/recovererchain.go`, function by function: the two embedded-processor loops
of `runRecovery`, the catalog loop, `setAbnormalSucceeded`/`setAbnormalFailed`, `SyncAbnormal`
and one iteration of `Run`'s loop.

Every call the chain makes out of itself is an oracle of `Env`: the store behind the manager's
client and cache, the clock `util.UpdateAbnormalCondition` reads, the embedded runners, the
remote recoverers and `util.ValidateAbnormalResult`. A theorem over every `Env` holds for
every behaviour of them. What the chain does that others observe — processor runs, requests,
status updates, events, enqueues — is returned as a list of `Effect`s, in the order the code
does it. Logging and metrics are left out.

The spec lemmas of this module give each loop in closed form, so that later proofs never
unfold it: `runCommandExecutors_eq`, `runProfilers_eq` and `runRecoverers_eq`.
-/
import Kubediag.Util

namespace Kubediag.RecovererChain

open Kubediag.Api Kubediag.Util

set_option autoImplicit false
set_option linter.dupNamespace false

/-- `url.URL` as `util.FormatURL` builds it: scheme, `host:port`, path. -/
structure URL where
  scheme : String
  host : String
  path : String
deriving DecidableEq, Repr

/-- Modelled from the spec: `util.FormatURL`, as `TestFormatURL` pins it down. -/
def formatURL (scheme host port path : String) : URL :=
  ⟨scheme, host ++ ":" ++ port, path⟩

/-- What the chain does that someone outside it observes. `queueAbnormal` is a hand-off to
`util.QueueAbnormal`; `sendAbnormal` is the blocking channel send of the earlier chain. -/
inductive Effect where
  | runCommandExecutor (executorSpec : CommandExecutorSpec)
  | runProfiler (profilerSpec : ProfilerSpec)
  | request (recoverer : Recoverer) (url : URL) (timeout : Int) (payload : Abnormal)
  | updateStatus (abnormal : Abnormal)
  | event (eventType reason message : String)
  | queueAbnormal (abnormal : Abnormal)
  | sendAbnormal (abnormal : Abnormal)
deriving DecidableEq, Repr

/-- The `client.Get` errors the chain tells apart. -/
inductive GetError where
  | notFound
  | other (message : String)
deriving DecidableEq, Repr

/-- Everything outside the chain one pass of it consults. `get` answers with the object
stored under the key it is asked for. -/
structure Env where
  get : NamespacedName → Except GetError Abnormal
  list : Except String (List Recoverer)
  statusUpdate : Abnormal → Except String Abnormal
  now : Time
  runCommandExecutor : CommandExecutorSpec → CommandExecutorStatus × Option String
  runProfiler : String → String → String → ProfilerSpec → Option PodReference →
    ProfilerStatus × Option String
  doHTTPRequestWithAbnormal : Recoverer → Abnormal → Except String Abnormal
  validateAbnormalResult : Abnormal → Abnormal → Except String Unit
  get_key : ∀ key abnormal, get key = .ok abnormal → abnormal.key = key

/-- The fields of `recovererChain` that `runRecovery` and `Run` read. -/
structure RecovererChain where
  nodeName : String
  dataRoot : String

/-- A result with the effects produced on the way to it. -/
abbrev Traced (α : Type) := List Effect × α

/-! ## Embedded processors -/

/-- The shape of both embedded-processor loops of `runRecovery`: each entry of Recoverer type
runs once, in spec order, and its status is appended whether the run failed or not. -/
def runEmbedded {σ τ : Type} (type : σ → AbnormalProcessorType) (run : σ → Effect × τ)
    (append : Abnormal → τ → Abnormal) (abnormal : Abnormal) : List σ → Traced Abnormal
  | [] => ([], abnormal)
  | spec :: rest =>
      if type spec = recovererType then
        let (effects, abnormal) := runEmbedded type run append (append abnormal (run spec).2) rest
        ((run spec).1 :: effects, abnormal)
      else runEmbedded type run append abnormal rest

/-- The command-executor loop of `runRecovery`. -/
def runCommandExecutors (env : Env) (abnormal : Abnormal) : Traced Abnormal :=
  runEmbedded (·.type)
    (fun executorSpec => (.runCommandExecutor executorSpec, (env.runCommandExecutor executorSpec).1))
    (fun abnormal executorStatus =>
      { abnormal with status.commandExecutors := abnormal.status.commandExecutors ++ [executorStatus] })
    abnormal abnormal.spec.commandExecutors

/-- The profiler loop of `runRecovery`. -/
def runProfilers (env : Env) (rc : RecovererChain) (abnormal : Abnormal) : Traced Abnormal :=
  runEmbedded (·.type)
    (fun profilerSpec => (.runProfiler profilerSpec,
      (env.runProfiler abnormal.meta.name abnormal.meta.«namespace» rc.dataRoot profilerSpec
        abnormal.spec.podReference).1))
    (fun abnormal profilerStatus =>
      { abnormal with status.profilers := abnormal.status.profilers ++ [profilerStatus] })
    abnormal abnormal.spec.profilers

/-! ## Status updates -/

/-- `rc.client.Status().Update(rc, &abnormal)`: on success the object is what the store
returned, on failure the local copy. -/
def updateStatus (env : Env) (abnormal : Abnormal) : Traced (Abnormal × Option String) :=
  match env.statusUpdate abnormal with
  | .ok stored => ([.updateStatus abnormal], stored, none)
  | .error err => ([.updateStatus abnormal], abnormal, some err)

/-- The condition `setAbnormalSucceeded` and `setAbnormalFailed` record. -/
def recoveredCondition (conditionStatus : String) : AbnormalCondition :=
  ⟨abnormalRecovered, conditionStatus, 0, "", ""⟩

/-- The object `setAbnormalSucceeded`/`setAbnormalFailed` hand to the store. -/
def withPhase (now : Time) (phase : AbnormalPhase) (recoverable : Bool)
    (conditionStatus : String) (abnormal : Abnormal) : Abnormal :=
  { abnormal with
    status := (updateAbnormalCondition now { abnormal.status with phase, recoverable }
      (recoveredCondition conditionStatus)).1 }

@[simp] theorem withPhase_meta (now : Time) (phase : AbnormalPhase) (recoverable : Bool)
    (conditionStatus : String) (abnormal : Abnormal) :
    (withPhase now phase recoverable conditionStatus abnormal).meta = abnormal.meta := rfl

@[simp] theorem withPhase_spec (now : Time) (phase : AbnormalPhase) (recoverable : Bool)
    (conditionStatus : String) (abnormal : Abnormal) :
    (withPhase now phase recoverable conditionStatus abnormal).spec = abnormal.spec := rfl

@[simp] theorem withPhase_status (now : Time) (phase : AbnormalPhase) (recoverable : Bool)
    (conditionStatus : String) (abnormal : Abnormal) :
    (withPhase now phase recoverable conditionStatus abnormal).status =
      { abnormal.status with
        phase, recoverable,
        conditions :=
          (updateConditions now (recoveredCondition conditionStatus) abnormal.status.conditions).1 } :=
  rfl

/-- The shared body of `setAbnormalSucceeded` and `setAbnormalFailed`. -/
def setAbnormalPhase (phase : AbnormalPhase) (recoverable : Bool) (conditionStatus : String)
    (env : Env) (abnormal : Abnormal) : Traced (Abnormal × Option String) :=
  updateStatus env (withPhase env.now phase recoverable conditionStatus abnormal)

def setAbnormalSucceeded : Env → Abnormal → Traced (Abnormal × Option String) :=
  setAbnormalPhase abnormalSucceeded true conditionTrue

def setAbnormalFailed : Env → Abnormal → Traced (Abnormal × Option String) :=
  setAbnormalPhase abnormalFailed false conditionFalse

/-- `if err != nil { return abnormal, err }`, then one event about the returned object. -/
def thenRecord (event : Abnormal → Effect) :
    Traced (Abnormal × Option String) → Traced (Abnormal × Option String)
  | (effects, abnormal, some err) => (effects, abnormal, some err)
  | (effects, abnormal, none) => (effects ++ [event abnormal], abnormal, none)

/-! ## The catalog loop -/

/-- A catalog recoverer is assigned when an entry has its name and namespace. -/
def matched (assigned : List NamespacedName) (recoverer : Recoverer) : Bool :=
  assigned.any fun assignedRecoverer =>
    recoverer.name = assignedRecoverer.name && recoverer.«namespace» = assignedRecoverer.«namespace»

/-- The endpoint `runRecovery` builds from the recoverer's own descriptor. -/
def recovererURL (recoverer : Recoverer) : URL :=
  formatURL recoverer.spec.scheme.toLower recoverer.spec.ip (toString recoverer.spec.port)
    recoverer.spec.path

/-- `time.Duration(TimeoutSeconds) * time.Second`, in nanoseconds. -/
def recovererTimeout (recoverer : Recoverer) : Int :=
  recoverer.spec.timeoutSeconds * 1000000000

/-- The request `runRecovery` sends a recoverer. -/
def requestOf (abnormal : Abnormal) (recoverer : Recoverer) : Effect :=
  .request recoverer (recovererURL recoverer) (recovererTimeout recoverer) abnormal

/-- A recoverer's validated result taken: its status, the recoverer recorded, the phase set
to Succeeded, and on success the `Recovered` event. -/
def recoverWith (env : Env) (recoverer : Recoverer) (result abnormal : Abnormal) :
    Traced (Abnormal × Option String) :=
  thenRecord (fun _ => .event eventTypeNormal "Recovered"
      ("Abnormal recovered by " ++ recoverer.«namespace» ++ "/" ++ recoverer.name))
    (setAbnormalSucceeded env
      { abnormal with
        status := { result.status with recoverer := some ⟨recoverer.«namespace», recoverer.name⟩ } })

/-- The catalog exhausted: the phase set to Failed, and on success the `FailedRecover` event. -/
def exhaust (env : Env) (abnormal : Abnormal) : Traced (Abnormal × Option String) :=
  thenRecord (fun abnormal => .event eventTypeWarning "FailedRecover"
      ("Unable to recover abnormal " ++ abnormal.meta.name ++ "(" ++ abnormal.meta.uid ++ ")"))
    (setAbnormalFailed env abnormal)

/-- The `for _, recoverer := range recoverers` loop, as both chains write it: each eligible
entry, in catalog order, is sent the Abnormal; the first answer that validates is taken by
`recover`, and an exhausted catalog ends in `exhausted`. -/
def tryRecoverers (env : Env) (eligible : Recoverer → Bool) (abnormal : Abnormal)
    (recover : Recoverer → Abnormal → Traced (Abnormal × Option String))
    (exhausted : Traced (Abnormal × Option String)) :
    List Recoverer → Traced (Abnormal × Option String)
  | [] => exhausted
  | recoverer :: rest =>
      if eligible recoverer then
        let (effects, result) :=
          match env.doHTTPRequestWithAbnormal recoverer abnormal with
          | .error _ => tryRecoverers env eligible abnormal recover exhausted rest
          | .ok result =>
              match env.validateAbnormalResult result abnormal with
              | .error _ => tryRecoverers env eligible abnormal recover exhausted rest
              | .ok () => recover recoverer result
        (requestOf abnormal recoverer :: effects, result)
      else tryRecoverers env eligible abnormal recover exhausted rest

/-- The catalog loop of `runRecovery`: assigned entries only; a success copies the result's
status. -/
def runRecoverers (env : Env) (abnormal : Abnormal) :
    List Recoverer → Traced (Abnormal × Option String) :=
  tryRecoverers env (matched abnormal.spec.assignedRecoverers) abnormal
    (fun recoverer result => recoverWith env recoverer result abnormal) (exhaust env abnormal)

/-- `runRecovery`: the embedded processors, then either the skip path (no assigned
recoverer) or the catalog loop. -/
def runRecovery (env : Env) (rc : RecovererChain) (recoverers : List Recoverer)
    (abnormal : Abnormal) : Traced (Abnormal × Option String) :=
  let (executed, abnormal) := runCommandExecutors env abnormal
  let (profiled, abnormal) := runProfilers env rc abnormal
  let (effects, result) :=
    if abnormal.spec.assignedRecoverers = [] then
      let (effects, result) := setAbnormalSucceeded env abnormal
      (.event eventTypeNormal "SkippingRecovery" "Skipping recovery" :: effects, result)
    else runRecoverers env abnormal recoverers
  (executed ++ profiled ++ effects, result)

/-! ## SyncAbnormal and Run -/

/-- `SyncAbnormal`: list the catalog and run the recovery; on either error the Abnormal goes
back to the queue through `addAbnormalToRecovererChainQueue`. -/
def syncAbnormal (env : Env) (rc : RecovererChain) (abnormal : Abnormal) :
    Traced (Abnormal × Option String) :=
  match env.list with
  | .error err => ([.queueAbnormal abnormal], abnormal, some err)
  | .ok recoverers =>
      match runRecovery env rc recoverers abnormal with
      | (effects, abnormal, some err) => (effects ++ [.queueAbnormal abnormal], abnormal, some err)
      | (effects, abnormal, none) => (effects, abnormal, none)

/-- One iteration of `Run`'s loop on an Abnormal taken from `recovererChainCh`: re-fetch it,
drop it unless it is Recovering and on this node, and sync it. -/
def runIteration (env : Env) (rc : RecovererChain) (queued : Abnormal) : List Effect :=
  match env.get queued.key with
  | .error .notFound => []
  | .error (.other _) => [.queueAbnormal queued]
  | .ok abnormal =>
      if abnormal.status.phase ≠ abnormalRecovering then []
      else if isAbnormalNodeNameMatched abnormal rc.nodeName then (syncAbnormal env rc abnormal).1
      else []

/-! ## What a trace shows -/

def Effect.contacted : Effect → Option Recoverer
  | .request recoverer _ _ _ => some recoverer
  | _ => none

def Effect.payload : Effect → Option Abnormal
  | .request _ _ _ payload => some payload
  | _ => none

def Effect.updated : Effect → Option Abnormal
  | .updateStatus abnormal => some abnormal
  | _ => none

def Effect.queued : Effect → Option Abnormal
  | .queueAbnormal abnormal => some abnormal
  | _ => none

def Effect.sent : Effect → Option Abnormal
  | .sendAbnormal abnormal => some abnormal
  | _ => none

/-- Whether an effect is a run of an embedded processor. -/
def Effect.embedded : Effect → Bool
  | .runCommandExecutor _ | .runProfiler _ => true
  | _ => false

/-- The recoverers a trace contacts, in order. -/
def contacts (effects : List Effect) : List Recoverer := effects.filterMap Effect.contacted

/-- The objects a trace hands to `Status().Update`, in order. -/
def updates (effects : List Effect) : List Abnormal := effects.filterMap Effect.updated

/-- The objects a trace hands to `util.QueueAbnormal`, in order. -/
def queued (effects : List Effect) : List Abnormal := effects.filterMap Effect.queued

/-- The objects a trace sends on the earlier chain's channel, in order. -/
def sent (effects : List Effect) : List Abnormal := effects.filterMap Effect.sent

/-! ## Closed forms -/

section Embedded

variable {σ τ : Type} (type : σ → AbnormalProcessorType) (run : σ → Effect × τ)
  (append : Abnormal → τ → Abnormal)

theorem runEmbedded_eq (abnormal : Abnormal) (specs : List σ) :
    runEmbedded type run append abnormal specs =
      ((specs.filter (type · = recovererType)).map (run · |>.1),
        ((specs.filter (type · = recovererType)).map (run · |>.2)).foldl append abnormal) := by
  induction specs generalizing abnormal with
  | nil => rfl
  | cons spec rest ih =>
      by_cases typed : type spec = recovererType <;> simp [runEmbedded, typed, ih]

end Embedded

/-- The statuses the command-executor loop appends. -/
def commandExecutorResults (env : Env) (abnormal : Abnormal) : List CommandExecutorStatus :=
  (abnormal.spec.commandExecutors.filter (·.type = recovererType)).map
    (env.runCommandExecutor · |>.1)

/-- The statuses the profiler loop appends. -/
def profilerResults (env : Env) (rc : RecovererChain) (abnormal : Abnormal) :
    List ProfilerStatus :=
  (abnormal.spec.profilers.filter (·.type = recovererType)).map fun profilerSpec =>
    (env.runProfiler abnormal.meta.name abnormal.meta.«namespace» rc.dataRoot profilerSpec
      abnormal.spec.podReference).1

/-- The embedded runs of `runRecovery`: command executors, then profilers, Recoverer-typed only. -/
def embeddedRuns (abnormal : Abnormal) : List Effect :=
  (abnormal.spec.commandExecutors.filter (·.type = recovererType)).map .runCommandExecutor ++
    (abnormal.spec.profilers.filter (·.type = recovererType)).map .runProfiler

/-- The Abnormal `runRecovery` goes on with: the input with its embedded results appended. -/
def withEmbeddedResults (env : Env) (rc : RecovererChain) (abnormal : Abnormal) : Abnormal :=
  { abnormal with
    status.commandExecutors := abnormal.status.commandExecutors ++ commandExecutorResults env abnormal
    status.profilers := abnormal.status.profilers ++ profilerResults env rc abnormal }

theorem runCommandExecutors_eq (env : Env) (abnormal : Abnormal) :
    runCommandExecutors env abnormal =
      ((abnormal.spec.commandExecutors.filter (·.type = recovererType)).map .runCommandExecutor,
        { abnormal with
          status.commandExecutors :=
            abnormal.status.commandExecutors ++ commandExecutorResults env abnormal }) := by
  have appended : ∀ (statuses : List CommandExecutorStatus) (a : Abnormal),
      statuses.foldl (fun a s => { a with status.commandExecutors :=
        a.status.commandExecutors ++ [s] }) a =
        { a with status.commandExecutors := a.status.commandExecutors ++ statuses } := by
    intro statuses
    induction statuses with
    | nil => simp
    | cons s rest ih => intro a; simp [ih]
  simp [runCommandExecutors, runEmbedded_eq, appended, commandExecutorResults]

theorem runProfilers_eq (env : Env) (rc : RecovererChain) (abnormal : Abnormal) :
    runProfilers env rc abnormal =
      ((abnormal.spec.profilers.filter (·.type = recovererType)).map .runProfiler,
        { abnormal with
          status.profilers := abnormal.status.profilers ++ profilerResults env rc abnormal }) := by
  have appended : ∀ (statuses : List ProfilerStatus) (a : Abnormal),
      statuses.foldl (fun a s => { a with status.profilers := a.status.profilers ++ [s] }) a =
        { a with status.profilers := a.status.profilers ++ statuses } := by
    intro statuses
    induction statuses with
    | nil => simp
    | cons s rest ih => intro a; simp [ih]
  simp [runProfilers, runEmbedded_eq, appended, profilerResults]

/-- The validated answer of a recoverer: its result, when the exchange succeeded and the
result validated against the Abnormal it was sent. -/
def validAnswer (env : Env) (abnormal : Abnormal) (recoverer : Recoverer) : Option Abnormal :=
  match env.doHTTPRequestWithAbnormal recoverer abnormal with
  | .error _ => none
  | .ok result =>
      match env.validateAbnormalResult result abnormal with
      | .error _ => none
      | .ok () => some result

/-- The first eligible catalog entry with a validated answer, and that answer. -/
def firstAnswer (env : Env) (eligible : Recoverer → Bool) (abnormal : Abnormal)
    (recoverers : List Recoverer) : Option (Recoverer × Abnormal) :=
  (recoverers.filter eligible).findSome? fun recoverer =>
    (validAnswer env abnormal recoverer).map (recoverer, ·)

/-- The first assigned catalog entry with a validated answer, and that answer. -/
def firstSuccess (env : Env) (abnormal : Abnormal) (recoverers : List Recoverer) :
    Option (Recoverer × Abnormal) :=
  firstAnswer env (matched abnormal.spec.assignedRecoverers) abnormal recoverers

/-- How the catalog loop ends: recovered by the first success, or exhausted. -/
def settle (env : Env) (abnormal : Abnormal) :
    Option (Recoverer × Abnormal) → Traced (Abnormal × Option String)
  | some (recoverer, result) => recoverWith env recoverer result abnormal
  | none => exhaust env abnormal

/-- The prefix of a list up to and including its first element satisfying `p`. -/
def takeThrough {α : Type} (p : α → Bool) : List α → List α
  | [] => []
  | a :: rest => if p a then [a] else a :: takeThrough p rest

/-- **The spec lemma of the catalog loop.** It contacts the eligible entries up to the first
success, in catalog order, and ends as that success, or exhaustion, says. -/
theorem tryRecoverers_eq (env : Env) (eligible : Recoverer → Bool) (abnormal : Abnormal)
    (recover : Recoverer → Abnormal → Traced (Abnormal × Option String))
    (exhausted : Traced (Abnormal × Option String)) (recoverers : List Recoverer) :
    tryRecoverers env eligible abnormal recover exhausted recoverers =
      let ending := match firstAnswer env eligible abnormal recoverers with
        | some (recoverer, result) => recover recoverer result
        | none => exhausted
      ((takeThrough (validAnswer env abnormal · |>.isSome) (recoverers.filter eligible)).map
          (requestOf abnormal) ++ ending.1, ending.2) := by
  induction recoverers with
  | nil => rfl
  | cons recoverer rest ih =>
      by_cases picked : eligible recoverer
      · simp only [tryRecoverers, picked, if_true, firstAnswer, List.filter_cons_of_pos picked,
          List.findSome?_cons]
        unfold validAnswer
        split
        · simp [ih, takeThrough, firstAnswer, validAnswer, *]
        · split <;> simp [ih, takeThrough, firstAnswer, validAnswer, *]
      · simp [tryRecoverers, picked, ih, firstAnswer]

/-- The catalog loop of `runRecovery` in closed form. -/
theorem runRecoverers_eq (env : Env) (abnormal : Abnormal) (recoverers : List Recoverer) :
    runRecoverers env abnormal recoverers =
      ((takeThrough (validAnswer env abnormal · |>.isSome)
          (recoverers.filter (matched abnormal.spec.assignedRecoverers))).map (requestOf abnormal) ++
        (settle env abnormal (firstSuccess env abnormal recoverers)).1,
        (settle env abnormal (firstSuccess env abnormal recoverers)).2) := by
  rw [runRecoverers, tryRecoverers_eq, firstSuccess]
  rcases firstAnswer env (matched abnormal.spec.assignedRecoverers) abnormal recoverers
    with _ | ⟨_, _⟩ <;> rfl

/-- `runRecovery` in closed form: the embedded runs, then the skip path or the catalog loop,
both on the input with its embedded results appended. -/
theorem runRecovery_eq (env : Env) (rc : RecovererChain) (recoverers : List Recoverer)
    (abnormal : Abnormal) :
    runRecovery env rc recoverers abnormal =
      let cur := withEmbeddedResults env rc abnormal
      let (effects, result) :=
        if abnormal.spec.assignedRecoverers = [] then
          (.event eventTypeNormal "SkippingRecovery" "Skipping recovery" ::
            (setAbnormalSucceeded env cur).1, (setAbnormalSucceeded env cur).2)
        else runRecoverers env cur recoverers
      (embeddedRuns abnormal ++ effects, result) := by
  simp only [runRecovery, runCommandExecutors_eq, runProfilers_eq, withEmbeddedResults,
    embeddedRuns, profilerResults, List.append_assoc]

/-! ## The one status update -/

/-- A status update, then on success one event about the stored object. -/
theorem thenRecord_updateStatus (event : Abnormal → Effect) (env : Env) (write : Abnormal) :
    thenRecord event (updateStatus env write) =
      match env.statusUpdate write with
      | .ok stored => ([.updateStatus write, event stored], stored, none)
      | .error err => ([.updateStatus write], write, some err) := by
  unfold updateStatus
  split <;> rfl

/-- The object the catalog loop hands to the store when it ends as `settle` says. -/
def settleWrite (env : Env) (abnormal : Abnormal) : Option (Recoverer × Abnormal) → Abnormal
  | some (recoverer, result) =>
      withPhase env.now abnormalSucceeded true conditionTrue
        { abnormal with
          status := { result.status with recoverer := some ⟨recoverer.«namespace», recoverer.name⟩ } }
  | none => withPhase env.now abnormalFailed false conditionFalse abnormal

/-- The object `runRecovery` hands to the store. -/
def recoveryWrite (env : Env) (rc : RecovererChain) (recoverers : List Recoverer)
    (abnormal : Abnormal) : Abnormal :=
  let cur := withEmbeddedResults env rc abnormal
  if abnormal.spec.assignedRecoverers = [] then withPhase env.now abnormalSucceeded true conditionTrue cur
  else settleWrite env cur (firstSuccess env cur recoverers)

theorem recoveryWrite_meta (env : Env) (rc : RecovererChain) (recoverers : List Recoverer)
    (abnormal : Abnormal) : (recoveryWrite env rc recoverers abnormal).meta = abnormal.meta := by
  unfold recoveryWrite
  dsimp only
  split_ifs
  · rfl
  · rcases firstSuccess env (withEmbeddedResults env rc abnormal) recoverers with _ | ⟨_, _⟩ <;> rfl

theorem recoveryWrite_spec (env : Env) (rc : RecovererChain) (recoverers : List Recoverer)
    (abnormal : Abnormal) : (recoveryWrite env rc recoverers abnormal).spec = abnormal.spec := by
  unfold recoveryWrite
  dsimp only
  split_ifs
  · rfl
  · rcases firstSuccess env (withEmbeddedResults env rc abnormal) recoverers with _ | ⟨_, _⟩ <;> rfl

theorem recoveryWrite_terminal (env : Env) (rc : RecovererChain) (recoverers : List Recoverer)
    (abnormal : Abnormal) : Terminal (recoveryWrite env rc recoverers abnormal).status.phase := by
  unfold recoveryWrite
  dsimp only
  split_ifs
  · exact .inl rfl
  · rcases firstSuccess env (withEmbeddedResults env rc abnormal) recoverers with _ | ⟨_, _⟩
    · exact .inr rfl
    · exact .inl rfl

/-- What `Status().Update` makes of a write: the stored object, or the local copy and the
error. -/
def updateResult (env : Env) (write : Abnormal) : Abnormal × Option String :=
  match env.statusUpdate write with
  | .ok stored => (stored, none)
  | .error err => (write, some err)

theorem updateStatus_eq (env : Env) (write : Abnormal) :
    updateStatus env write = ([.updateStatus write], updateResult env write) := by
  unfold updateStatus updateResult
  split <;> rfl

/-- What an event after the write `write` may say, the store having answered it with `answer`:
the outcome, once the store took the write, as the write records it. -/
def Reports (write : Abnormal) (answer : Except String Abnormal) : Effect → Prop
  | .event eventType reason message =>
      ∃ stored, answer = .ok stored ∧
        ((∃ recoverer, write.status.phase = abnormalSucceeded ∧
            write.status.recoverer = some recoverer ∧ eventType = eventTypeNormal ∧
            reason = "Recovered" ∧
            message = "Abnormal recovered by " ++ recoverer.«namespace» ++ "/" ++ recoverer.name) ∨
          (write.status.phase = abnormalFailed ∧ eventType = eventTypeWarning ∧
            reason = "FailedRecover" ∧
            message = "Unable to recover abnormal " ++ stored.meta.name ++ "(" ++ stored.meta.uid ++ ")"))
  | _ => False

theorem Reports.event {write : Abnormal} {answer : Except String Abnormal} {effect : Effect}
    (reports : Reports write answer effect) :
    ∃ eventType reason message, effect = .event eventType reason message := by
  cases effect <;> first | exact ⟨_, _, _, rfl⟩ | exact reports.elim

/-- **The spec lemma of how the catalog loop ends.** One status update, then, exactly when the
store took it, the one event that reports it. -/
theorem settle_eq (env : Env) (abnormal : Abnormal) (success : Option (Recoverer × Abnormal)) :
    ∃ trailer, (settle env abnormal success).1 =
        .updateStatus (settleWrite env abnormal success) :: trailer ∧
      (∀ effect ∈ trailer, Reports (settleWrite env abnormal success)
        (env.statusUpdate (settleWrite env abnormal success)) effect) ∧
      (∀ stored, env.statusUpdate (settleWrite env abnormal success) = .ok stored → trailer ≠ []) ∧
      (settle env abnormal success).2 = updateResult env (settleWrite env abnormal success) := by
  rcases success with _ | ⟨recoverer, result⟩ <;>
    simp only [settle, recoverWith, exhaust, setAbnormalSucceeded, setAbnormalFailed,
      setAbnormalPhase, thenRecord_updateStatus, settleWrite, updateResult] <;>
    split
  all_goals first
    | exact ⟨[], rfl, fun _ member => absurd member (List.not_mem_nil _),
        fun _ accepted => by simp_all, by simp_all⟩
    | exact ⟨[_], rfl, fun _ member => by simp_all [Reports], fun _ _ => List.cons_ne_nil _ _,
        by simp_all⟩

@[simp] theorem withEmbeddedResults_meta (env : Env) (rc : RecovererChain) (abnormal : Abnormal) :
    (withEmbeddedResults env rc abnormal).meta = abnormal.meta := rfl

@[simp] theorem withEmbeddedResults_spec (env : Env) (rc : RecovererChain) (abnormal : Abnormal) :
    (withEmbeddedResults env rc abnormal).spec = abnormal.spec := rfl

/-- The requests `runRecovery` sends: none on the skip path, otherwise one to each assigned
catalog entry up to the first success, all carrying the same Abnormal. -/
def recoveryRequests (env : Env) (rc : RecovererChain) (recoverers : List Recoverer)
    (abnormal : Abnormal) : List Effect :=
  let cur := withEmbeddedResults env rc abnormal
  if abnormal.spec.assignedRecoverers = [] then
    [.event eventTypeNormal "SkippingRecovery" "Skipping recovery"]
  else
    (takeThrough (validAnswer env cur · |>.isSome)
      (recoverers.filter (matched abnormal.spec.assignedRecoverers))).map (requestOf cur)

/-- **The spec lemma of `runRecovery`.** Its trace is the embedded runs, the skip event or the
requests, exactly one status update of `recoveryWrite`, then only events that report it, one
whenever the store took it on the catalog path; it returns what the store made of that
update. -/
theorem runRecovery_trace (env : Env) (rc : RecovererChain) (recoverers : List Recoverer)
    (abnormal : Abnormal) :
    ∃ trailer, (runRecovery env rc recoverers abnormal).1 =
        embeddedRuns abnormal ++ recoveryRequests env rc recoverers abnormal ++
          .updateStatus (recoveryWrite env rc recoverers abnormal) :: trailer ∧
      (∀ effect ∈ trailer, Reports (recoveryWrite env rc recoverers abnormal)
        (env.statusUpdate (recoveryWrite env rc recoverers abnormal)) effect) ∧
      (abnormal.spec.assignedRecoverers ≠ [] → ∀ stored,
        env.statusUpdate (recoveryWrite env rc recoverers abnormal) = .ok stored → trailer ≠ []) ∧
      (runRecovery env rc recoverers abnormal).2 =
        updateResult env (recoveryWrite env rc recoverers abnormal) := by
  rw [runRecovery_eq]
  by_cases skip : abnormal.spec.assignedRecoverers = []
  · refine ⟨[], ?_, by simp, fun assigned => absurd skip assigned, ?_⟩ <;>
      simp only [skip, if_true, recoveryRequests, recoveryWrite, setAbnormalSucceeded,
        setAbnormalPhase, updateStatus, updateResult] <;>
      split <;> simp
  · obtain ⟨trailer, effects, reports, reported, result⟩ :=
      settle_eq env (withEmbeddedResults env rc abnormal)
        (firstSuccess env (withEmbeddedResults env rc abnormal) recoverers)
    have write : recoveryWrite env rc recoverers abnormal = settleWrite env
        (withEmbeddedResults env rc abnormal)
        (firstSuccess env (withEmbeddedResults env rc abnormal) recoverers) := by
      simp [recoveryWrite, skip]
    refine ⟨trailer, ?_, write ▸ reports, fun _ => write ▸ reported, ?_⟩ <;>
      simp [skip, recoveryRequests, recoveryWrite, runRecoverers_eq, effects, result]

section Projections

@[simp] theorem contacts_nil : contacts [] = [] := rfl
@[simp] theorem updates_nil : updates [] = [] := rfl
@[simp] theorem queued_nil : queued [] = [] := rfl

@[simp] theorem contacts_cons (effect : Effect) (effects : List Effect) :
    contacts (effect :: effects) = effect.contacted.toList ++ contacts effects := by
  cases h : effect.contacted <;> simp [contacts, List.filterMap_cons, h]

@[simp] theorem updates_cons (effect : Effect) (effects : List Effect) :
    updates (effect :: effects) = effect.updated.toList ++ updates effects := by
  cases h : effect.updated <;> simp [updates, List.filterMap_cons, h]

@[simp] theorem queued_cons (effect : Effect) (effects : List Effect) :
    queued (effect :: effects) = effect.queued.toList ++ queued effects := by
  cases h : effect.queued <;> simp [queued, List.filterMap_cons, h]

@[simp] theorem contacts_append (first second : List Effect) :
    contacts (first ++ second) = contacts first ++ contacts second :=
  List.filterMap_append _ _ _

@[simp] theorem updates_append (first second : List Effect) :
    updates (first ++ second) = updates first ++ updates second :=
  List.filterMap_append _ _ _

@[simp] theorem queued_append (first second : List Effect) :
    queued (first ++ second) = queued first ++ queued second :=
  List.filterMap_append _ _ _

@[simp] theorem sent_nil : sent [] = [] := rfl

@[simp] theorem sent_cons (effect : Effect) (effects : List Effect) :
    sent (effect :: effects) = effect.sent.toList ++ sent effects := by
  cases h : effect.sent <;> simp [sent, List.filterMap_cons, h]

@[simp] theorem sent_append (first second : List Effect) :
    sent (first ++ second) = sent first ++ sent second :=
  List.filterMap_append _ _ _

@[simp] theorem sent_map_requestOf (abnormal : Abnormal) (recoverers : List Recoverer) :
    sent (recoverers.map (requestOf abnormal)) = [] := by
  induction recoverers <;> simp [requestOf, Effect.sent, *]

@[simp] theorem contacts_map_requestOf (abnormal : Abnormal) (recoverers : List Recoverer) :
    contacts (recoverers.map (requestOf abnormal)) = recoverers := by
  induction recoverers <;> simp [requestOf, Effect.contacted, *]

@[simp] theorem updates_map_requestOf (abnormal : Abnormal) (recoverers : List Recoverer) :
    updates (recoverers.map (requestOf abnormal)) = [] := by
  induction recoverers <;> simp [requestOf, Effect.updated, *]

@[simp] theorem queued_map_requestOf (abnormal : Abnormal) (recoverers : List Recoverer) :
    queued (recoverers.map (requestOf abnormal)) = [] := by
  induction recoverers <;> simp [requestOf, Effect.queued, *]

theorem events_only {trailer : List Effect} {write : Abnormal} {answer : Except String Abnormal}
    (reports : ∀ effect ∈ trailer, Reports write answer effect) :
    contacts trailer = [] ∧ updates trailer = [] ∧ queued trailer = [] ∧
      ∀ effect ∈ trailer, effect.embedded = false ∧ effect.payload = none := by
  have each : ∀ effect ∈ trailer, effect.contacted = none ∧ effect.updated = none ∧
      effect.queued = none ∧ effect.embedded = false ∧ effect.payload = none := by
    intro effect member
    obtain ⟨_, _, _, rfl⟩ := (reports effect member).event
    exact ⟨rfl, rfl, rfl, rfl, rfl⟩
  exact ⟨List.filterMap_eq_nil_iff.mpr fun e member => (each e member).1,
    List.filterMap_eq_nil_iff.mpr fun e member => (each e member).2.1,
    List.filterMap_eq_nil_iff.mpr fun e member => (each e member).2.2.1,
    fun e member => (each e member).2.2.2⟩

variable (env : Env) (rc : RecovererChain) (recoverers : List Recoverer) (abnormal : Abnormal)

@[simp] theorem contacts_embeddedRuns : contacts (embeddedRuns abnormal) = [] := by
  simp [contacts, embeddedRuns, List.filterMap_append, Effect.contacted]

@[simp] theorem updates_embeddedRuns : updates (embeddedRuns abnormal) = [] := by
  simp [updates, embeddedRuns, List.filterMap_append, Effect.updated]

@[simp] theorem queued_embeddedRuns : queued (embeddedRuns abnormal) = [] := by
  simp [queued, embeddedRuns, List.filterMap_append, Effect.queued]

@[simp] theorem updates_recoveryRequests : updates (recoveryRequests env rc recoverers abnormal) = [] := by
  unfold recoveryRequests; split <;> simp [Effect.updated]

@[simp] theorem queued_recoveryRequests : queued (recoveryRequests env rc recoverers abnormal) = [] := by
  unfold recoveryRequests; split <;> simp [Effect.queued]

theorem contacts_recoveryRequests :
    contacts (recoveryRequests env rc recoverers abnormal) =
      if abnormal.spec.assignedRecoverers = [] then []
      else takeThrough (validAnswer env (withEmbeddedResults env rc abnormal) · |>.isSome)
        (recoverers.filter (matched abnormal.spec.assignedRecoverers)) := by
  unfold recoveryRequests
  split <;> simp [Effect.contacted]

/-- `runRecovery` issues exactly one status update. -/
theorem updates_runRecovery :
    updates (runRecovery env rc recoverers abnormal).1 = [recoveryWrite env rc recoverers abnormal] := by
  obtain ⟨trailer, effects, events, -⟩ := runRecovery_trace env rc recoverers abnormal
  simp [effects, Effect.updated, (events_only events).2.1]

theorem contacts_runRecovery :
    contacts (runRecovery env rc recoverers abnormal).1 =
      contacts (recoveryRequests env rc recoverers abnormal) := by
  obtain ⟨trailer, effects, events, -⟩ := runRecovery_trace env rc recoverers abnormal
  simp [effects, Effect.contacted, (events_only events).1]

theorem queued_runRecovery : queued (runRecovery env rc recoverers abnormal).1 = [] := by
  obtain ⟨trailer, effects, events, -⟩ := runRecovery_trace env rc recoverers abnormal
  simp [effects, Effect.queued, (events_only events).2.2.1]

end Projections

end Kubediag.RecovererChain
