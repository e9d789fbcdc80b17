/-
# Kubediag.Legacy.Chain — the recoverer chain of the earlier API

`recovererChainImpl` (`src/unnamed/part_000`), the chain `recovererChain` replaced. Where it
differs from the current one:

* `Run` syncs each Abnormal as it comes off `recovererChainCh`, with no re-fetch;
* `RunRecovery` skips on `Spec.SkipRecovery`, runs no embedded processor, treats an empty
  `AssignedRecoverers` as "every catalog entry", and on success records the recoverer without
  taking the result's status; it records no events;
* `SyncAbnormal` acts on a Recovering Abnormal only, and sends a failure back on its own
  channel with a blocking send of the copy `RunRecovery` returned (the `abnormal, err :=`
  of the `case` shadows the parameter).

The catalog loop is `tryRecoverers` with the earlier matcher and success action, and
`SetAbnormalSucceeded`/`SetAbnormalFailed` are the code of `setAbnormalSucceeded` and
`setAbnormalFailed`. The earlier API's `RecovererSpec.Port` is a string; the catalog here carries
the port as an integer, which both chains put in the URL as its decimal rendering.

* `runRecovery_dispatches`: on skip no recoverer is contacted; otherwise the matching catalog
  entries, all of them when none is assigned, are contacted in catalog order up to the first
  success, whose recoverer the one update records.
* `syncAbnormal_drops_refused_write`: when the store refuses the terminal write, the copy sent
  back already carries the terminal phase, so the next pass over it does nothing: the write is
  never retried.
* `runRecovery_agrees_on_common_inputs`: on the inputs both chains read the same way (assigned
  recoverers, no skip, no Recoverer-typed embedded processor) the two contact the same
  recoverers in the same order and write the same phase, recoverability and recorder.
-/
import Kubediag.RecovererChain.Dispatch

namespace Kubediag.Legacy

open Kubediag.Api Kubediag.Util
open Kubediag.RecovererChain hiding matched runRecovery syncAbnormal recoveryWrite recoveryRequests

set_option autoImplicit false

/-- The earlier matching: with no assigned recoverer every catalog entry matches. -/
def matched (assigned : List NamespacedName) (recoverer : Recoverer) : Bool :=
  if assigned = [] then true else RecovererChain.matched assigned recoverer

/-- `recovererChainImpl.RunRecovery`. -/
def runRecovery (env : Env) (recoverers : List Recoverer) (abnormal : Abnormal) :
    Traced (Abnormal × Option String) :=
  if abnormal.spec.skipRecovery then setAbnormalSucceeded env abnormal
  else
    tryRecoverers env (matched abnormal.spec.assignedRecoverers) abnormal
      (fun recoverer _ => setAbnormalSucceeded env
        { abnormal with status.recoverer := some ⟨recoverer.«namespace», recoverer.name⟩ })
      (setAbnormalFailed env abnormal) recoverers

/-- `recovererChainImpl.SyncAbnormal`: every phase but Recovering is only logged. On a failed
listing or recovery the Abnormal in hand goes back on `recovererChainCh`. -/
def syncAbnormal (env : Env) (abnormal : Abnormal) : Traced (Abnormal × Option String) :=
  if abnormal.status.phase = abnormalRecovering then
    match env.list with
    | .error err => ([.sendAbnormal abnormal], abnormal, some err)
    | .ok recoverers =>
        match runRecovery env recoverers abnormal with
        | (effects, abnormal, some err) => (effects ++ [.sendAbnormal abnormal], abnormal, some err)
        | (effects, abnormal, none) => (effects, abnormal, none)
  else ([], abnormal, none)

/-! ## Closed forms -/

/-- The object the earlier `RunRecovery` hands to the store. -/
def recoveryWrite (env : Env) (recoverers : List Recoverer) (abnormal : Abnormal) : Abnormal :=
  if abnormal.spec.skipRecovery then withPhase env.now abnormalSucceeded true conditionTrue abnormal
  else
    match firstAnswer env (matched abnormal.spec.assignedRecoverers) abnormal recoverers with
    | some (recoverer, _) =>
        withPhase env.now abnormalSucceeded true conditionTrue
          { abnormal with status.recoverer := some ⟨recoverer.«namespace», recoverer.name⟩ }
    | none => withPhase env.now abnormalFailed false conditionFalse abnormal

/-- The requests the earlier `RunRecovery` sends: none on skip, otherwise one to each matching
catalog entry up to the first success. -/
def recoveryRequests (env : Env) (recoverers : List Recoverer) (abnormal : Abnormal) :
    List Effect :=
  if abnormal.spec.skipRecovery then []
  else
    (takeThrough (validAnswer env abnormal · |>.isSome)
      (recoverers.filter (matched abnormal.spec.assignedRecoverers))).map (requestOf abnormal)

section ClosedForms

variable (env : Env) (recoverers : List Recoverer) (abnormal : Abnormal)

/-- **The spec lemma of the earlier `RunRecovery`.** The requests, then one status update,
and what the store made of it. -/
theorem runRecovery_eq :
    runRecovery env recoverers abnormal =
      (recoveryRequests env recoverers abnormal ++ [.updateStatus (recoveryWrite env recoverers abnormal)],
        updateResult env (recoveryWrite env recoverers abnormal)) := by
  unfold runRecovery recoveryRequests recoveryWrite
  split_ifs
  · simp [setAbnormalSucceeded, setAbnormalPhase, updateStatus_eq]
  · rw [tryRecoverers_eq]
    rcases firstAnswer env (matched abnormal.spec.assignedRecoverers) abnormal recoverers
      with _ | ⟨_, _⟩ <;> simp [setAbnormalSucceeded, setAbnormalFailed, setAbnormalPhase, updateStatus_eq]

theorem recoveryWrite_terminal : Terminal (recoveryWrite env recoverers abnormal).status.phase := by
  unfold recoveryWrite
  split_ifs
  · exact .inl rfl
  · rcases firstAnswer env (matched abnormal.spec.assignedRecoverers) abnormal recoverers
      with _ | ⟨_, _⟩
    · exact .inr rfl
    · exact .inl rfl

/-- The earlier write keeps the metadata of the copy it was made from. -/
theorem recoveryWrite_meta : (recoveryWrite env recoverers abnormal).meta = abnormal.meta := by
  unfold recoveryWrite
  split_ifs
  · rfl
  · rcases firstAnswer env (matched abnormal.spec.assignedRecoverers) abnormal recoverers
      with _ | ⟨_, _⟩ <;> rfl

/-- **The spec lemma of the earlier `SyncAbnormal`.** On a Recovering Abnormal: a failed
listing sends it back; otherwise the pass of `RunRecovery`, then the write the store refused,
sent back. Any other phase does nothing. -/
theorem syncAbnormal_fst :
    (syncAbnormal env abnormal).1 =
      if abnormal.status.phase = abnormalRecovering then
        match env.list with
        | .error _ => [.sendAbnormal abnormal]
        | .ok recoverers =>
            recoveryRequests env recoverers abnormal ++
              .updateStatus (recoveryWrite env recoverers abnormal) ::
              match env.statusUpdate (recoveryWrite env recoverers abnormal) with
              | .ok _ => []
              | .error _ => [.sendAbnormal (recoveryWrite env recoverers abnormal)]
      else [] := by
  unfold syncAbnormal
  split_ifs
  · cases env.list with
    | error => rfl
    | ok recoverers =>
      cases answer : env.statusUpdate (recoveryWrite env recoverers abnormal) <;>
        simp [runRecovery_eq, updateResult, answer]
  · rfl

end ClosedForms

section Projections

variable (env : Env) (recoverers : List Recoverer) (abnormal : Abnormal)

@[simp] theorem updates_recoveryRequests : updates (recoveryRequests env recoverers abnormal) = [] := by
  unfold recoveryRequests; split <;> simp

@[simp] theorem sent_recoveryRequests : sent (recoveryRequests env recoverers abnormal) = [] := by
  unfold recoveryRequests; split <;> simp

theorem contacts_recoveryRequests :
    contacts (recoveryRequests env recoverers abnormal) =
      if abnormal.spec.skipRecovery then []
      else takeThrough (validAnswer env abnormal · |>.isSome)
        (recoverers.filter (matched abnormal.spec.assignedRecoverers)) := by
  unfold recoveryRequests; split <;> simp

/-- The earlier `RunRecovery` issues exactly one status update. -/
theorem updates_runRecovery :
    updates (runRecovery env recoverers abnormal).1 = [recoveryWrite env recoverers abnormal] := by
  simp [runRecovery_eq, Effect.updated]

/-- The earlier `SyncAbnormal` issues the update of `RunRecovery` on a Recovering Abnormal
whose catalog lists, and none otherwise. -/
theorem updates_syncAbnormal :
    updates (syncAbnormal env abnormal).1 =
      if abnormal.status.phase = abnormalRecovering then
        match env.list with
        | .error _ => []
        | .ok recoverers => [recoveryWrite env recoverers abnormal]
      else [] := by
  rw [syncAbnormal_fst]
  split_ifs
  · split
    · simp [Effect.updated]
    · split <;> simp [Effect.updated]
  · rfl

/-- What the earlier `SyncAbnormal` sends back on its channel is the copy it was given, or a
write whose phase is terminal. -/
theorem sent_syncAbnormal :
    ∀ copy ∈ sent (syncAbnormal env abnormal).1, copy = abnormal ∨ Terminal copy.status.phase := by
  rw [syncAbnormal_fst]
  split_ifs
  · split
    · simp [Effect.sent]
    · next recoverers _ =>
      split <;> simp [Effect.sent, recoveryWrite_terminal env recoverers abnormal]
  · simp

/-- The earlier `SyncAbnormal` sends back at most one copy. -/
theorem sent_syncAbnormal_length_le : (sent (syncAbnormal env abnormal).1).length ≤ 1 := by
  rw [syncAbnormal_fst]
  split_ifs
  · split
    · simp [Effect.sent]
    · split <;> simp [Effect.sent]
  · simp

end Projections

/-! ## Dispatch -/

/-- **Dispatch of the earlier chain.** With `SkipRecovery` set, no recoverer is contacted and
the one update is the Abnormal set Succeeded. Otherwise the contacted recoverers are the
catalog entries the earlier matcher accepts (every entry when none is assigned), in catalog
order up to and including the first that succeeds; the one update is the Abnormal set
Succeeded with that recoverer recorded, its status otherwise kept, whatever the recoverer
answered, or set Failed when none succeeds. -/
theorem runRecovery_dispatches (env : Env) (recoverers : List Recoverer) (abnormal : Abnormal) :
    let effects := (runRecovery env recoverers abnormal).1
    let candidates := recoverers.filter (matched abnormal.spec.assignedRecoverers)
    if abnormal.spec.skipRecovery then
      contacts effects = [] ∧
        updates effects = [withPhase env.now abnormalSucceeded true conditionTrue abnormal]
    else
      contacts effects = takeThrough (succeeds env abnormal) candidates ∧
        updates effects =
          [match candidates.find? (succeeds env abnormal) with
            | some recoverer => withPhase env.now abnormalSucceeded true conditionTrue
                { abnormal with status.recoverer := some ⟨recoverer.«namespace», recoverer.name⟩ }
            | none => withPhase env.now abnormalFailed false conditionFalse abnormal] := by
  intro effects candidates
  have contacted : contacts effects = contacts (recoveryRequests env recoverers abnormal) := by
    simp [effects, runRecovery_eq, Effect.contacted]
  simp only [effects, updates_runRecovery, contacted, contacts_recoveryRequests]
  split_ifs with skip
  · simp [recoveryWrite, skip]
  · refine ⟨congrArg (takeThrough · candidates) (funext fun recoverer =>
      (succeeds_eq_isSome env abnormal recoverer).symm), ?_⟩
    rw [recoveryWrite, if_neg skip, firstAnswer_eq]
    cases found : candidates.find? (succeeds env abnormal) with
    | none => simp [candidates] at found; simp [found]
    | some recoverer =>
      obtain ⟨result, answer⟩ :=
        Option.isSome_iff_exists.mp ((succeeds_eq_isSome ..) ▸ List.find?_some found)
      simp [candidates] at found
      simp [found, answer]

/-! ## A refused write is lost -/

/-- **The retry the earlier chain never makes.** Whenever the status update a pass issues is
refused, the pass was on a Recovering Abnormal, and what it sends back on `recovererChainCh` is
exactly the refused write, whose phase is already terminal; so when `Run` takes it off the
channel, `SyncAbnormal` ignores it under every behaviour of the cluster: no request, no status
update, nothing sent. -/
theorem syncAbnormal_drops_refused_write (env : Env) (abnormal write : Abnormal) (err : String)
    (issued : write ∈ updates (syncAbnormal env abnormal).1)
    (refused : env.statusUpdate write = .error err) :
    abnormal.status.phase = abnormalRecovering ∧
      sent (syncAbnormal env abnormal).1 = [write] ∧ Terminal write.status.phase ∧
      ∀ later : Env, syncAbnormal later write = ([], write, none) := by
  rw [updates_syncAbnormal] at issued
  split_ifs at issued with recovering
  · cases listed : env.list with
    | error message => simp [listed] at issued
    | ok recoverers =>
      simp only [listed, List.mem_singleton] at issued
      subst issued
      have terminal := recoveryWrite_terminal env recoverers abnormal
      exact ⟨recovering, by simp [syncAbnormal_fst, recovering, listed, refused, Effect.sent],
        terminal, fun later => by simp [syncAbnormal, terminal.ne_recovering]⟩
  · simp at issued

/-- A store that refuses every status update, as it does when the object changed since it was
read. -/
def conflictingEnv (now : Time) : Env :=
  { echoEnv now with statusUpdate := fun _ => .error "the object has been modified" }

theorem syncAbnormal_drops_refused_write_on_conflict :
    ∃ write, write ∈ updates (syncAbnormal (conflictingEnv 0) (recoveringAbnormal [])).1 ∧
      (recoveringAbnormal []).status.phase = abnormalRecovering ∧
      sent (syncAbnormal (conflictingEnv 0) (recoveringAbnormal [])).1 = [write] ∧
      Terminal write.status.phase ∧
      ∀ later : Env, syncAbnormal later write = ([], write, none) :=
  have issued : withPhase 0 abnormalFailed false conditionFalse (recoveringAbnormal []) ∈
      updates (syncAbnormal (conflictingEnv 0) (recoveringAbnormal [])).1 := by decide
  ⟨_, issued, syncAbnormal_drops_refused_write (conflictingEnv 0) (recoveringAbnormal []) _ _ issued rfl⟩


/-! ## The two chains on their common inputs -/

section Common

variable (env : Env) (rc : RecovererChain) (abnormal : Abnormal)

theorem matched_of_assigned {assigned : List NamespacedName} (nonempty : assigned ≠ []) :
    matched assigned = RecovererChain.matched assigned := by
  funext recoverer
  simp [matched, nonempty]

variable
    (noExecutors : ∀ executorSpec ∈ abnormal.spec.commandExecutors, executorSpec.type ≠ recovererType)
    (noProfilers : ∀ profilerSpec ∈ abnormal.spec.profilers, profilerSpec.type ≠ recovererType)
include noExecutors noProfilers

/-- With no Recoverer-typed executor or profiler the current chain runs nothing embedded and
goes on with the Abnormal it was given. -/
theorem withEmbeddedResults_of_untyped : withEmbeddedResults env rc abnormal = abnormal := by
  have executors : abnormal.spec.commandExecutors.filter (·.type = recovererType) = [] := by
    simpa [List.filter_eq_nil_iff] using noExecutors
  have profilers : abnormal.spec.profilers.filter (·.type = recovererType) = [] := by
    simpa [List.filter_eq_nil_iff] using noProfilers
  simp [withEmbeddedResults, commandExecutorResults, profilerResults, executors, profilers]

end Common

/-- **The earlier chain and the current one agree where both apply.** On an Abnormal with
assigned recoverers, no skip and no Recoverer-typed embedded processor, under the same catalog
and the same answers, both contact the same recoverers in the same order and issue one status
update each, terminal, with the same phase, recoverability and recorded recoverer. -/
theorem runRecovery_agrees_on_common_inputs (env : Env) (rc : RecovererChain)
    (recoverers : List Recoverer) (abnormal : Abnormal)
    (assigned : abnormal.spec.assignedRecoverers ≠ [])
    (notSkipped : abnormal.spec.skipRecovery = false)
    (noExecutors : ∀ executorSpec ∈ abnormal.spec.commandExecutors, executorSpec.type ≠ recovererType)
    (noProfilers : ∀ profilerSpec ∈ abnormal.spec.profilers, profilerSpec.type ≠ recovererType) :
    contacts (runRecovery env recoverers abnormal).1 =
        contacts (RecovererChain.runRecovery env rc recoverers abnormal).1 ∧
      ∃ write legacyWrite,
        updates (RecovererChain.runRecovery env rc recoverers abnormal).1 = [write] ∧
        updates (runRecovery env recoverers abnormal).1 = [legacyWrite] ∧
        Terminal write.status.phase ∧
        legacyWrite.status.phase = write.status.phase ∧
        legacyWrite.status.recoverable = write.status.recoverable ∧
        legacyWrite.status.recoverer = write.status.recoverer := by
  have cur := withEmbeddedResults_of_untyped env rc abnormal noExecutors noProfilers
  have sameMatch := matched_of_assigned assigned
  refine ⟨?_, _, _, RecovererChain.updates_runRecovery .., Legacy.updates_runRecovery ..,
    RecovererChain.recoveryWrite_terminal .., ?_⟩
  · simp [runRecovery_eq, contacts_runRecovery, RecovererChain.contacts_recoveryRequests,
      Legacy.contacts_recoveryRequests, assigned, notSkipped, cur, sameMatch, Effect.contacted]
  · simp only [recoveryWrite, RecovererChain.recoveryWrite, notSkipped, assigned, cur, sameMatch,
      firstSuccess, if_false, Bool.false_eq_true]
    rcases firstAnswer env (RecovererChain.matched abnormal.spec.assignedRecoverers) abnormal
      recoverers with _ | ⟨_, _⟩ <;> simp [settleWrite]

/-- The two chains on a catalog of three, assigned in the other order: `r1` cannot be reached,
`r2`'s answer is rejected, `r3` answers. -/
theorem runRecovery_agrees_on_common_inputs_past_failures :
    contacts (runRecovery (flakyEnv 0) [defaultRecoverer "r1", defaultRecoverer "r2", defaultRecoverer "r3"]
        (recoveringAbnormal [⟨"default", "r3"⟩, ⟨"default", "r2"⟩, ⟨"default", "r1"⟩])).1 =
      contacts (RecovererChain.runRecovery (flakyEnv 0) agentChain [defaultRecoverer "r1", defaultRecoverer "r2", defaultRecoverer "r3"]
        (recoveringAbnormal [⟨"default", "r3"⟩, ⟨"default", "r2"⟩, ⟨"default", "r1"⟩])).1 ∧
      ∃ write legacyWrite,
        updates (RecovererChain.runRecovery (flakyEnv 0) agentChain [defaultRecoverer "r1", defaultRecoverer "r2", defaultRecoverer "r3"]
          (recoveringAbnormal [⟨"default", "r3"⟩, ⟨"default", "r2"⟩, ⟨"default", "r1"⟩])).1 = [write] ∧
        updates (runRecovery (flakyEnv 0) [defaultRecoverer "r1", defaultRecoverer "r2", defaultRecoverer "r3"]
          (recoveringAbnormal [⟨"default", "r3"⟩, ⟨"default", "r2"⟩, ⟨"default", "r1"⟩])).1 = [legacyWrite] ∧
        Terminal write.status.phase ∧
        legacyWrite.status.phase = write.status.phase ∧
        legacyWrite.status.recoverable = write.status.recoverable ∧
        legacyWrite.status.recoverer = write.status.recoverer :=
  runRecovery_agrees_on_common_inputs (flakyEnv 0) agentChain [defaultRecoverer "r1", defaultRecoverer "r2", defaultRecoverer "r3"]
    (recoveringAbnormal [⟨"default", "r3"⟩, ⟨"default", "r2"⟩, ⟨"default", "r1"⟩]) (by decide) rfl (by simp [recoveringAbnormal])
    (by simp [recoveringAbnormal])

end Kubediag.Legacy
