/-
# Kubediag.RecovererChain.Dispatch — what one pass of `runRecovery` does

Properties of `runRecovery` over every catalog, every Abnormal and every behaviour of the
processors, the store and the clock, each read off `runRecovery_trace`:

* `runRecovery_dispatch`: on the skip path no recoverer is contacted; otherwise the contacted
  recoverers are the eligible catalog entries, in catalog order, up to and including the first
  that succeeds; either way exactly one status update, whose phase, recoverability and recorded
  recoverer follow the first success.
* `runRecovery_failure_frame`: every request carries the same Abnormal, and when no contacted
  recoverer succeeds the write differs from it only in phase, recoverability and conditions.
* `runRecovery_embedded_first`: the embedded processors run first, once per Recoverer-typed
  entry, and their results reach the write on the skip and exhaustion paths.
* `runRecovery_events_report`: every event is the skip notice or reports the write the store
  took, as the write has it; on the catalog path such a write is always reported.
* `runRecovery_bookkeeping_agrees`: two runs that agree on the first success write the same
  metadata and spec, and, under a protecting validator, the same bookkeeping; the only
  difference left is the time the `Recovered` condition is stamped with, which is each run's own
  clock (`runRecovery_conditions_follow_clock`).
* `runRecovery_records_catalog_order`: the recoverer recorded is the first success in catalog
  order, not in the order the user assigned.
-/
import Kubediag.RecovererChain.RunRecovery

namespace Kubediag.RecovererChain

open Kubediag.Api Kubediag.Util

set_option autoImplicit false

/-- A recoverer succeeds when its exchange returns a result and the result validates against
the Abnormal it was sent. -/
def succeeds (env : Env) (abnormal : Abnormal) (recoverer : Recoverer) : Bool :=
  match env.doHTTPRequestWithAbnormal recoverer abnormal with
  | .error _ => false
  | .ok result =>
      match env.validateAbnormalResult result abnormal with
      | .error _ => false
      | .ok () => true

/-- The catalog entries that some assigned entry names with both name and namespace. -/
def eligible (abnormal : Abnormal) (recoverers : List Recoverer) : List Recoverer :=
  recoverers.filter fun recoverer => decide (∃ assigned ∈ abnormal.spec.assignedRecoverers,
    assigned.name = recoverer.name ∧ assigned.«namespace» = recoverer.«namespace»)

/-! ## A sample cluster -/

/-- A cluster whose recoverers all answer with the Abnormal they were sent, judged by
`util.ValidateAbnormalResult`, whose store takes every update and whose clock reads `now`. -/
def echoEnv (now : Time) : Env where
  get _ := .error .notFound
  list := .ok []
  statusUpdate abnormal := .ok abnormal
  now := now
  runCommandExecutor executorSpec := (⟨executorSpec.command, executorSpec.type, "", "", ""⟩, none)
  runProfiler _ _ _ profilerSpec _ :=
    (⟨profilerSpec.name, profilerSpec.type, none, none, false, ""⟩, none)
  doHTTPRequestWithAbnormal _ abnormal := .ok abnormal
  validateAbnormalResult := Util.validateAbnormalResult
  get_key _ _ fetched := by cases fetched

/-- A Custom Abnormal in phase Recovering, on no particular node, with the given assigned
recoverers and nothing else. -/
def recoveringAbnormal (assigned : List NamespacedName) : Abnormal :=
  ⟨⟨"abnormal", "default", "uid", 1⟩, ⟨"Custom", "", none, [], [], assigned, [], [], none, false⟩,
    ⟨false, false, abnormalRecovering, [], "", "", 0, none, none, [], [], none⟩⟩

def defaultRecoverer (name : String) : Recoverer :=
  ⟨name, "default", ⟨"http", "127.0.0.1", 8090, "/processor/" ++ name, 30⟩⟩

def agentChain : RecovererChain := ⟨"node1", "/var/lib/kubediag"⟩

/-- A cluster as `echoEnv` has it, except that `r1` cannot be reached and `r2` answers with the
phase changed, which `util.ValidateAbnormalResult` rejects. -/
def flakyEnv (now : Time) : Env :=
  { echoEnv now with
    doHTTPRequestWithAbnormal := fun recoverer abnormal =>
      if recoverer.name = "r1" then .error "dial tcp 127.0.0.1:8090: connect: connection refused"
      else if recoverer.name = "r2" then .ok { abnormal with status.phase := abnormalSucceeded }
      else .ok abnormal }

/-! ## One run -/

theorem succeeds_eq_isSome (env : Env) (abnormal : Abnormal) (recoverer : Recoverer) :
    succeeds env abnormal recoverer = (validAnswer env abnormal recoverer).isSome := by
  unfold succeeds validAnswer
  cases env.doHTTPRequestWithAbnormal recoverer abnormal with
  | error => rfl
  | ok result =>
      dsimp only
      cases env.validateAbnormalResult result abnormal <;> rfl

theorem matched_iff (assigned : List NamespacedName) (recoverer : Recoverer) :
    matched assigned recoverer = true ↔ ∃ assignedRecoverer ∈ assigned,
      assignedRecoverer.name = recoverer.name ∧
        assignedRecoverer.«namespace» = recoverer.«namespace» := by
  simp only [matched, List.any_eq_true, Bool.and_eq_true, decide_eq_true_eq]
  exact exists_congr fun _ => and_congr_right fun _ =>
    ⟨fun ⟨name, space⟩ => ⟨name.symm, space.symm⟩, fun ⟨name, space⟩ => ⟨name.symm, space.symm⟩⟩

theorem eligible_eq (abnormal : Abnormal) (recoverers : List Recoverer) :
    eligible abnormal recoverers = recoverers.filter (matched abnormal.spec.assignedRecoverers) := by
  unfold eligible
  congr 1
  funext recoverer
  rw [Bool.eq_iff_iff, decide_eq_true_iff, matched_iff]

@[simp] theorem eligible_withEmbeddedResults (env : Env) (rc : RecovererChain)
    (abnormal : Abnormal) (recoverers : List Recoverer) :
    eligible (withEmbeddedResults env rc abnormal) recoverers = eligible abnormal recoverers := rfl

/-- The first answer of a catalog loop is the answer of its first success, whatever makes an
entry eligible. -/
theorem firstAnswer_eq (env : Env) (eligible : Recoverer → Bool) (abnormal : Abnormal)
    (recoverers : List Recoverer) :
    firstAnswer env eligible abnormal recoverers =
      ((recoverers.filter eligible).find? (succeeds env abnormal)).bind fun recoverer =>
        (validAnswer env abnormal recoverer).map (recoverer, ·) := by
  rw [firstAnswer]
  induction recoverers.filter eligible with
  | nil => rfl
  | cons recoverer rest ih =>
      simp only [List.findSome?_cons, List.find?_cons, succeeds_eq_isSome]
      cases answer : validAnswer env abnormal recoverer <;> simp [ih, answer]

/-- The first success, in catalog order, among the eligible entries. -/
theorem firstSuccess_eq (env : Env) (abnormal : Abnormal) (recoverers : List Recoverer) :
    firstSuccess env abnormal recoverers =
      ((eligible abnormal recoverers).find? (succeeds env abnormal)).bind fun recoverer =>
        (validAnswer env abnormal recoverer).map (recoverer, ·) := by
  rw [firstSuccess, firstAnswer_eq, eligible_eq]

theorem find?_eq_none_of_takeThrough {α : Type} (p : α → Bool) (l : List α)
    (none_succeed : ∀ a ∈ takeThrough p l, p a = false) : l.find? p = none := by
  induction l with
  | nil => rfl
  | cons a rest ih =>
      by_cases hit : p a
      · simp [takeThrough, hit] at none_succeed
      · simp only [takeThrough, hit] at none_succeed
        simpa [hit] using ih fun b member => none_succeed b (List.mem_cons_of_mem _ member)

/-- The write of a run whose eligible entries all failed: Failed, not recoverable, and the
`Recovered` condition set to False, on the Abnormal the recoverers were sent. -/
theorem recoveryWrite_exhausted (env : Env) (rc : RecovererChain) (recoverers : List Recoverer)
    (abnormal : Abnormal) (assigned : abnormal.spec.assignedRecoverers ≠ [])
    (exhausted : (eligible abnormal recoverers).find?
      (succeeds env (withEmbeddedResults env rc abnormal)) = none) :
    recoveryWrite env rc recoverers abnormal =
      withPhase env.now abnormalFailed false conditionFalse (withEmbeddedResults env rc abnormal) := by
  simp [recoveryWrite, assigned, firstSuccess_eq, exhausted, settleWrite]

theorem contacts_runRecovery_eq (env : Env) (rc : RecovererChain) (recoverers : List Recoverer)
    (abnormal : Abnormal) (assigned : abnormal.spec.assignedRecoverers ≠ []) :
    contacts (runRecovery env rc recoverers abnormal).1 =
      takeThrough (succeeds env (withEmbeddedResults env rc abnormal))
        (eligible abnormal recoverers) := by
  rw [contacts_runRecovery, contacts_recoveryRequests, if_neg assigned, eligible_eq]
  congr
  funext recoverer
  rw [succeeds_eq_isSome]

/-- **Dispatch.** With no assigned recoverer, no recoverer is contacted and the one update is
Succeeded and recoverable. Otherwise the contacted recoverers are exactly the eligible entries
in catalog order up to and including the first success, and the one update is Succeeded,
recoverable and records that recoverer, or Failed when none succeeds. -/
theorem runRecovery_dispatch (env : Env) (rc : RecovererChain) (recoverers : List Recoverer)
    (abnormal : Abnormal) :
    let effects := (runRecovery env rc recoverers abnormal).1
    let cur := withEmbeddedResults env rc abnormal
    if abnormal.spec.assignedRecoverers = [] then
      contacts effects = [] ∧
        ∃ write, updates effects = [write] ∧
          write.status.phase = abnormalSucceeded ∧ write.status.recoverable = true
    else
      contacts effects = takeThrough (succeeds env cur) (eligible abnormal recoverers) ∧
        ∃ write, updates effects = [write] ∧
          match (eligible abnormal recoverers).find? (succeeds env cur) with
          | some recoverer =>
              write.status.phase = abnormalSucceeded ∧ write.status.recoverable = true ∧
                write.status.recoverer = some ⟨recoverer.«namespace», recoverer.name⟩
          | none => write.status.phase = abnormalFailed := by
  intro effects cur
  split_ifs with skip
  · refine ⟨by simp [effects, contacts_runRecovery, contacts_recoveryRequests, skip],
      _, updates_runRecovery env rc recoverers abnormal, ?_⟩
    simp [recoveryWrite, skip]
  · refine ⟨contacts_runRecovery_eq env rc recoverers abnormal skip,
      _, updates_runRecovery env rc recoverers abnormal, ?_⟩
    simp only [recoveryWrite, skip, if_false, firstSuccess_eq]
    split
    · next recoverer found =>
      obtain ⟨result, answer⟩ :=
        Option.isSome_iff_exists.mp ((succeeds_eq_isSome ..) ▸ List.find?_some found)
      simp [found, answer, settleWrite]
    · next none_found => simp [none_found, settleWrite]

@[simp] theorem payload_requestOf (abnormal : Abnormal) (recoverer : Recoverer) :
    (requestOf abnormal recoverer).payload = some abnormal := rfl

theorem embeddedRuns_embedded (abnormal : Abnormal) :
    ∀ effect ∈ embeddedRuns abnormal, effect.embedded = true ∧ effect.payload = none := by
  simp only [embeddedRuns, List.mem_append, List.mem_map]
  rintro _ (⟨_, -, rfl⟩ | ⟨_, -, rfl⟩) <;> exact ⟨rfl, rfl⟩

theorem recoveryRequests_not_embedded (env : Env) (rc : RecovererChain)
    (recoverers : List Recoverer) (abnormal : Abnormal) :
    ∀ effect ∈ recoveryRequests env rc recoverers abnormal, effect.embedded = false := by
  unfold recoveryRequests
  split <;> simp [requestOf, Effect.embedded]

/-- **No failed or rejected answer changes the Abnormal.** Every contacted recoverer is sent
the same Abnormal; when none of them succeeds, the one write is that Abnormal with phase
Failed, Recoverable false and the `Recovered` condition False, and nothing else changed. -/
theorem runRecovery_failure_frame (env : Env) (rc : RecovererChain)
    (recoverers : List Recoverer) (abnormal : Abnormal)
    (assigned : abnormal.spec.assignedRecoverers ≠ []) :
    let effects := (runRecovery env rc recoverers abnormal).1
    let cur := withEmbeddedResults env rc abnormal
    (∀ effect ∈ effects, ∀ payload, effect.payload = some payload → payload = cur) ∧
      ((∀ recoverer ∈ contacts effects, succeeds env cur recoverer = false) →
        updates effects =
          [{ cur with
              status := { cur.status with
                phase := abnormalFailed, recoverable := false,
                conditions := (updateConditions env.now (recoveredCondition conditionFalse)
                  cur.status.conditions).1 } }]) := by
  intro effects cur
  obtain ⟨trailer, traced, events, -⟩ := runRecovery_trace env rc recoverers abnormal
  refine ⟨fun effect member payload carried => ?_, fun none_succeed => ?_⟩
  · simp only [effects, traced, List.mem_append, List.mem_cons] at member
    rcases member with (embedded | requested) | rfl | later
    · simp [(embeddedRuns_embedded abnormal effect embedded).2] at carried
    · simp only [recoveryRequests, assigned, if_false, List.mem_map] at requested
      obtain ⟨recoverer, -, rfl⟩ := requested
      simpa using carried.symm
    · cases carried
    · simp [((events_only events).2.2.2 effect later).2] at carried
  · have exhausted := find?_eq_none_of_takeThrough _ _ <|
      (contacts_runRecovery_eq env rc recoverers abnormal assigned) ▸ none_succeed
    rw [updates_runRecovery, recoveryWrite_exhausted env rc recoverers abnormal assigned exhausted]
    rfl

/-- The exhaustion frame where one assigned recoverer cannot be reached and the other's answer
is rejected: both are contacted, with the same Abnormal, and the write is Failed. -/
theorem runRecovery_failure_frame_unreachable_and_rejected :
    contacts (runRecovery (flakyEnv 0) agentChain [defaultRecoverer "r1", defaultRecoverer "r2"]
        (recoveringAbnormal [⟨"default", "r1"⟩, ⟨"default", "r2"⟩])).1 =
      [defaultRecoverer "r1", defaultRecoverer "r2"] ∧
      (updates (runRecovery (flakyEnv 0) agentChain [defaultRecoverer "r1", defaultRecoverer "r2"]
        (recoveringAbnormal [⟨"default", "r1"⟩, ⟨"default", "r2"⟩])).1).map (·.status.phase) =
        [abnormalFailed] := by
  refine ⟨by decide, ?_⟩
  rw [(runRecovery_failure_frame (flakyEnv 0) agentChain [defaultRecoverer "r1", defaultRecoverer "r2"]
    (recoveringAbnormal [⟨"default", "r1"⟩, ⟨"default", "r2"⟩]) (by decide)).2 (by decide)]
  rfl

/-- **The events of `runRecovery` tell what the store holds.** Every event it records is the
skip notice, on the skip path only, or a report of the write the store took: `Recovered`
naming the recoverer the Succeeded write records, or `FailedRecover` naming the stored object
of a Failed write. On the skip path the notice is recorded after the embedded runs and before
the one status update, which ends the pass; on the catalog path a write the store took is
always reported, last. -/
theorem runRecovery_events_report (env : Env) (rc : RecovererChain) (recoverers : List Recoverer)
    (abnormal : Abnormal) :
    (∀ eventType reason message,
      Effect.event eventType reason message ∈ (runRecovery env rc recoverers abnormal).1 →
        (abnormal.spec.assignedRecoverers = [] ∧ eventType = eventTypeNormal ∧
          reason = "SkippingRecovery" ∧ message = "Skipping recovery") ∨
        Reports (recoveryWrite env rc recoverers abnormal)
          (env.statusUpdate (recoveryWrite env rc recoverers abnormal))
          (.event eventType reason message)) ∧
    (abnormal.spec.assignedRecoverers = [] →
      (runRecovery env rc recoverers abnormal).1 = embeddedRuns abnormal ++
        [.event eventTypeNormal "SkippingRecovery" "Skipping recovery",
          .updateStatus (recoveryWrite env rc recoverers abnormal)]) ∧
    (abnormal.spec.assignedRecoverers ≠ [] → ∀ stored,
      env.statusUpdate (recoveryWrite env rc recoverers abnormal) = .ok stored →
      ∃ effect, (runRecovery env rc recoverers abnormal).1.getLast? = some effect ∧
        Reports (recoveryWrite env rc recoverers abnormal) (.ok stored) effect) := by
  obtain ⟨trailer, traced, reports, reported, -⟩ := runRecovery_trace env rc recoverers abnormal
  refine ⟨fun eventType reason message recorded => ?_, fun skip => ?_,
    fun assigned stored accepted => ?_⟩
  · rw [traced] at recorded
    simp only [List.mem_append, List.mem_cons] at recorded
    rcases recorded with (embedded | requested) | updated | later
    · cases (embeddedRuns_embedded abnormal _ embedded).1
    · unfold recoveryRequests at requested
      split_ifs at requested with skip
      · exact .inl ⟨skip, by simpa using requested⟩
      · simp [requestOf] at requested
    · cases updated
    · exact .inr (reports _ later)
  · simp [runRecovery_eq, skip, recoveryWrite, setAbnormalSucceeded, setAbnormalPhase,
      updateStatus_eq]
  · obtain ⟨init, last, rfl⟩ :=
      (List.eq_nil_or_concat trailer).resolve_left (reported assigned stored accepted)
    refine ⟨last, ?_, accepted ▸ reports last (by simp)⟩
    rw [traced, List.concat_eq_append, ← List.cons_append, ← List.append_assoc, List.getLast?_concat]

/-! ## Two runs -/

/-- How one pass of `runRecovery` ends. -/
inductive Ending where
  | skipped
  | recovered (recoverer : Recoverer)
  | exhausted
deriving DecidableEq

def ending (env : Env) (rc : RecovererChain) (recoverers : List Recoverer)
    (abnormal : Abnormal) : Ending :=
  if abnormal.spec.assignedRecoverers = [] then .skipped
  else
    match (eligible abnormal recoverers).find? (succeeds env (withEmbeddedResults env rc abnormal)) with
    | some recoverer => .recovered recoverer
    | none => .exhausted

/-- The bookkeeping a pass that ended so writes over the Abnormal it worked on. -/
def Ending.written (now : Time) (cur : Abnormal) : Ending → Bookkeeping
  | .skipped =>
      { bookkeeping cur with
        phase := abnormalSucceeded, recoverable := true,
        conditions := (updateConditions now (recoveredCondition conditionTrue) cur.status.conditions).1 }
  | .recovered recoverer =>
      { bookkeeping cur with
        phase := abnormalSucceeded, recoverable := true,
        conditions := (updateConditions now (recoveredCondition conditionTrue) cur.status.conditions).1,
        recoverer := some ⟨recoverer.«namespace», recoverer.name⟩ }
  | .exhausted =>
      { bookkeeping cur with
        phase := abnormalFailed, recoverable := false,
        conditions := (updateConditions now (recoveredCondition conditionFalse) cur.status.conditions).1 }

theorem validAnswer_kept {env : Env} {abnormal result : Abnormal} {recoverer : Recoverer}
    (protects : Protects env.validateAbnormalResult)
    (answer : validAnswer env abnormal recoverer = some result) :
    bookkeeping result = bookkeeping abnormal := by
  unfold validAnswer at answer
  split at answer
  · cases answer
  · split at answer
    · cases answer
    · rename_i accepted
      cases answer
      exact protects _ _ accepted

/-- Under a validator that protects the bookkeeping, what `runRecovery` writes of it is
determined by how the pass ended. -/
theorem recoveryWrite_bookkeeping (env : Env) (rc : RecovererChain)
    (recoverers : List Recoverer) (abnormal : Abnormal)
    (protects : Protects env.validateAbnormalResult) :
    bookkeeping (recoveryWrite env rc recoverers abnormal) =
      (ending env rc recoverers abnormal).written env.now (withEmbeddedResults env rc abnormal) := by
  unfold recoveryWrite ending
  dsimp only
  split_ifs with skip
  · rfl
  · rw [firstSuccess_eq]
    split
    · rename_i recoverer found
      have answered := List.find?_some found
      rw [succeeds_eq_isSome, Option.isSome_iff_exists] at answered
      obtain ⟨result, answer⟩ := answered
      have kept := validAnswer_kept protects answer
      simp only [bookkeeping, Bookkeeping.mk.injEq] at kept
      simp [found, answer, settleWrite, Ending.written, bookkeeping, kept]
    · rename_i none_found
      simp [none_found, settleWrite, Ending.written, bookkeeping]

theorem Ending.written_erase (ending : Ending) (now now' : Time) (cur : Abnormal) :
    { ending.written now cur with conditions := [] } =
      { ending.written now' cur with conditions := [] } := by
  cases ending <;> rfl

/-- The `Recovered` condition a pass that ended so records. -/
def Ending.condition : Ending → AbnormalCondition
  | .exhausted => recoveredCondition conditionFalse
  | _ => recoveredCondition conditionTrue

theorem Ending.written_conditions (ending : Ending) (now : Time) (cur : Abnormal) :
    (ending.written now cur).conditions =
      (updateConditions now ending.condition cur.status.conditions).1 := by
  cases ending <;> rfl

theorem withEmbeddedResults_congr {env₁ env₂ : Env} (rc : RecovererChain) (abnormal : Abnormal)
    (sameExecutors : env₁.runCommandExecutor = env₂.runCommandExecutor)
    (sameProfilers : env₁.runProfiler = env₂.runProfiler) :
    withEmbeddedResults env₁ rc abnormal = withEmbeddedResults env₂ rc abnormal := by
  simp [withEmbeddedResults, commandExecutorResults, profilerResults, sameExecutors, sameProfilers]

/-- **What a processor's answer cannot reach.** Two runs with the same embedded results and
the same first success write the same metadata and spec whatever the processors answered.
Under validators that protect the bookkeeping they also write the same bookkeeping, except
that the `Recovered` condition is stamped by each run with its own clock: the conditions are
one list updated by one condition at each run's time, and equal when the clocks agree. -/
theorem runRecovery_bookkeeping_agrees (env₁ env₂ : Env) (rc : RecovererChain)
    (recoverers : List Recoverer) (abnormal : Abnormal)
    (sameExecutors : env₁.runCommandExecutor = env₂.runCommandExecutor)
    (sameProfilers : env₁.runProfiler = env₂.runProfiler)
    (sameFirst : (eligible abnormal recoverers).find?
        (succeeds env₁ (withEmbeddedResults env₁ rc abnormal)) =
      (eligible abnormal recoverers).find? (succeeds env₂ (withEmbeddedResults env₂ rc abnormal))) :
    ∀ write₁ ∈ updates (runRecovery env₁ rc recoverers abnormal).1,
    ∀ write₂ ∈ updates (runRecovery env₂ rc recoverers abnormal).1,
      write₁.meta = write₂.meta ∧ write₁.spec = write₂.spec ∧
        (Protects env₁.validateAbnormalResult → Protects env₂.validateAbnormalResult →
          { bookkeeping write₁ with conditions := [] } =
            { bookkeeping write₂ with conditions := [] } ∧
          (∃ conditions condition,
            write₁.status.conditions = (updateConditions env₁.now condition conditions).1 ∧
            write₂.status.conditions = (updateConditions env₂.now condition conditions).1) ∧
          (env₁.now = env₂.now → write₁.status.conditions = write₂.status.conditions)) := by
  intro write₁ member₁ write₂ member₂
  rw [updates_runRecovery, List.mem_singleton] at member₁ member₂
  subst member₁ member₂
  refine ⟨by simp [recoveryWrite_meta], by simp [recoveryWrite_spec],
    fun protects₁ protects₂ => ?_⟩
  have sameCur := withEmbeddedResults_congr rc abnormal sameExecutors sameProfilers
  have sameEnding : ending env₁ rc recoverers abnormal = ending env₂ rc recoverers abnormal := by
    simp only [ending, sameFirst]
  have written₁ := recoveryWrite_bookkeeping env₁ rc recoverers abnormal protects₁
  have written₂ := recoveryWrite_bookkeeping env₂ rc recoverers abnormal protects₂
  rw [← sameEnding, ← sameCur] at written₂
  have stamped₁ := written₁ ▸ Ending.written_conditions (ending env₁ rc recoverers abnormal)
    env₁.now (withEmbeddedResults env₁ rc abnormal)
  have stamped₂ := written₂ ▸ Ending.written_conditions (ending env₁ rc recoverers abnormal)
    env₂.now (withEmbeddedResults env₁ rc abnormal)
  refine ⟨by rw [written₁, written₂, Ending.written_erase], ⟨_, _, stamped₁, stamped₂⟩,
    fun sameNow => ?_⟩
  change (bookkeeping _).conditions = (bookkeeping _).conditions
  rw [stamped₁, stamped₂, sameNow]

/-- Two runs on one Abnormal and catalog, with the same embedded runners, the same first
success and validators that protect the bookkeeping, differing only in their clock, write
different conditions: the `Recovered` condition carries each run's own time. -/
theorem runRecovery_conditions_follow_clock :
    (echoEnv 0).runCommandExecutor = (echoEnv 1).runCommandExecutor ∧
      (echoEnv 0).runProfiler = (echoEnv 1).runProfiler ∧
      (eligible (recoveringAbnormal []) []).find? (succeeds (echoEnv 0) (recoveringAbnormal [])) =
        (eligible (recoveringAbnormal []) []).find? (succeeds (echoEnv 1) (recoveringAbnormal [])) ∧
      Protects (echoEnv 0).validateAbnormalResult ∧ Protects (echoEnv 1).validateAbnormalResult ∧
      (updates (runRecovery (echoEnv 0) agentChain [] (recoveringAbnormal [])).1).map
          (·.status.conditions) ≠
        (updates (runRecovery (echoEnv 1) agentChain [] (recoveringAbnormal [])).1).map
          (·.status.conditions) :=
  ⟨rfl, rfl, rfl, validateAbnormalResult_protects, validateAbnormalResult_protects, by decide⟩

/-- The two-run theorem at two clocks and one recoverer that answers in both runs. -/
theorem runRecovery_bookkeeping_agrees_at_two_clocks :
    (updates (runRecovery (echoEnv 0) agentChain [defaultRecoverer "r1"]
        (recoveringAbnormal [⟨"default", "r1"⟩])).1).map
        (fun write => { bookkeeping write with conditions := [] }) =
      (updates (runRecovery (echoEnv 1) agentChain [defaultRecoverer "r1"]
        (recoveringAbnormal [⟨"default", "r1"⟩])).1).map
        (fun write => { bookkeeping write with conditions := [] }) := by
  have agree := runRecovery_bookkeeping_agrees (echoEnv 0) (echoEnv 1) agentChain
    [defaultRecoverer "r1"] (recoveringAbnormal [⟨"default", "r1"⟩]) rfl rfl (by decide)
  simp only [updates_runRecovery, List.map_cons, List.map_nil, List.mem_singleton,
    forall_eq] at agree ⊢
  rw [(agree.2.2 validateAbnormalResult_protects validateAbnormalResult_protects).1]

/-- The user assigns `r2` before `r1`, both answer and validate. With the catalog listing `r1`
first the chain records `r1`; with the catalog the other way round it records `r2`. -/
theorem runRecovery_records_catalog_order :
    (updates (runRecovery (echoEnv 0) agentChain [defaultRecoverer "r1", defaultRecoverer "r2"]
        (recoveringAbnormal [⟨"default", "r2"⟩, ⟨"default", "r1"⟩])).1).map
        (·.status.recoverer) = [some ⟨"default", "r1"⟩] ∧
      (updates (runRecovery (echoEnv 0) agentChain [defaultRecoverer "r2", defaultRecoverer "r1"]
        (recoveringAbnormal [⟨"default", "r2"⟩, ⟨"default", "r1"⟩])).1).map
        (·.status.recoverer) = [some ⟨"default", "r2"⟩] := by
  decide

end Kubediag.RecovererChain
