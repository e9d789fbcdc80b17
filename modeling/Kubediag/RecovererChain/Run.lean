/-
# Kubediag.RecovererChain.Run — what `Run` does with one dequeued entry

`Run` takes an Abnormal from `recovererChainCh`, re-fetches it by name and namespace into the
same variable, and syncs it only when the stored object is Recovering and on this node
(`runIteration`). Whatever the store and the processors answer, the entry ends in exactly
one of four dispositions (`runIteration_disposition`): dropped on NotFound, ignored, settled
by one accepted terminal update, or handed back to the queue once with no update accepted.
Since the entry is re-fetched, a requeued copy matters only through its key.
-/
import Kubediag.RecovererChain.Dispatch

namespace Kubediag.RecovererChain

open Kubediag.Api Kubediag.Util

set_option autoImplicit false

/-! ## SyncAbnormal -/

section Sync

variable (env : Env) (rc : RecovererChain) (abnormal : Abnormal)

/-- **The spec lemma of `SyncAbnormal`.** A failed catalog listing requeues the Abnormal;
otherwise the trace of `runRecovery`, then the write the store refused, handed back. -/
theorem syncAbnormal_fst :
    (syncAbnormal env rc abnormal).1 =
      match env.list with
      | .error _ => [.queueAbnormal abnormal]
      | .ok recoverers =>
          (runRecovery env rc recoverers abnormal).1 ++
            match env.statusUpdate (recoveryWrite env rc recoverers abnormal) with
            | .ok _ => []
            | .error _ => [.queueAbnormal (recoveryWrite env rc recoverers abnormal)] := by
  cases listed : env.list with
  | error => simp [syncAbnormal, listed]
  | ok recoverers =>
    obtain ⟨-, -, -, -, result⟩ := runRecovery_trace env rc recoverers abnormal
    simp only [syncAbnormal, listed]
    unfold updateResult at result
    split at result <;> split <;> simp_all

theorem updates_syncAbnormal :
    updates (syncAbnormal env rc abnormal).1 =
      match env.list with
      | .error _ => []
      | .ok recoverers => [recoveryWrite env rc recoverers abnormal] := by
  rw [syncAbnormal_fst]
  split
  · simp [Effect.updated]
  · split <;> simp [updates_runRecovery, Effect.updated]

theorem queued_syncAbnormal :
    queued (syncAbnormal env rc abnormal).1 =
      match env.list with
      | .error _ => [abnormal]
      | .ok recoverers =>
          match env.statusUpdate (recoveryWrite env rc recoverers abnormal) with
          | .ok _ => []
          | .error _ => [recoveryWrite env rc recoverers abnormal] := by
  rw [syncAbnormal_fst]
  split
  · simp [Effect.queued]
  · split <;> simp [queued_runRecovery, Effect.queued]

end Sync

/-! ## One iteration of `Run` -/

section Iteration

variable (env : Env) (rc : RecovererChain) (entry : Abnormal)

/-- Only the stored object decides what an iteration does: the queued copy is read for its
key and nothing else. -/
theorem runIteration_of_stored {stored : Abnormal} (fetched : env.get entry.key = .ok stored)
    (recovering : stored.status.phase = abnormalRecovering)
    (onNode : isAbnormalNodeNameMatched stored rc.nodeName = true) :
    runIteration env rc entry = (syncAbnormal env rc stored).1 := by
  simp [runIteration, fetched, recovering, onNode]

/-- Whatever an iteration hands back to the queue carries the dequeued entry's key. -/
theorem queued_runIteration_key :
    ∀ requeued ∈ queued (runIteration env rc entry), requeued.key = entry.key := by
  unfold runIteration
  split
  · simp
  · simp [Effect.queued]
  · next stored fetched =>
    have sameKey := env.get_key _ _ fetched
    split_ifs
    · simp
    · rw [queued_syncAbnormal]
      split
      · simpa using sameKey
      · split
        · simp
        · simpa [Abnormal.key_of_meta (recoveryWrite_meta ..)] using sameKey
    · simp

/-- **The inversion lemma of an iteration.** An update is issued only on the path through
`SyncAbnormal`: the fetched object was Recovering and on this node, the catalog listed, and
the update is the write of `runRecovery` on the fetched object. -/
theorem runIteration_of_issued {write : Abnormal}
    (issued : write ∈ updates (runIteration env rc entry)) :
    ∃ fetched recoverers, env.get entry.key = .ok fetched ∧
      fetched.status.phase = abnormalRecovering ∧
      isAbnormalNodeNameMatched fetched rc.nodeName = true ∧ env.list = .ok recoverers ∧
      write = recoveryWrite env rc recoverers fetched ∧
      runIteration env rc entry = (syncAbnormal env rc fetched).1 := by
  unfold runIteration at issued
  split at issued
  · simp at issued
  · simp [Effect.updated] at issued
  · next fetched got =>
    split_ifs at issued with phase onNode
    · simp at issued
    · rw [updates_syncAbnormal] at issued
      split at issued
      · simp at issued
      · next recoverers listed =>
        exact ⟨fetched, recoverers, got, not_not.mp phase, onNode, listed,
          List.mem_singleton.mp issued,
          runIteration_of_stored env rc entry got (not_not.mp phase) onNode⟩
    · simp at issued

/-- Every update an iteration issues is the terminal write of a pass over the object it
fetched, which was Recovering: same metadata, resourceVersion included. -/
theorem mem_updates_runIteration {write : Abnormal}
    (issued : write ∈ updates (runIteration env rc entry)) :
    ∃ fetched, env.get entry.key = .ok fetched ∧ fetched.status.phase = abnormalRecovering ∧
      write.meta = fetched.meta ∧ Terminal write.status.phase := by
  obtain ⟨fetched, recoverers, got, recovering, -, -, rfl, -⟩ :=
    runIteration_of_issued env rc entry issued
  exact ⟨fetched, got, recovering, recoveryWrite_meta .., recoveryWrite_terminal ..⟩

/-- **A refused write is retried.** When the store refuses the update of an iteration, the
write goes back to the queue, and when it is dequeued while the stored object is still
Recovering and on this node, and the catalog lists, `runRecovery` runs again on the stored
object and issues its write. -/
theorem runIteration_retries_refused_write {write : Abnormal} {err : String}
    (issued : write ∈ updates (runIteration env rc entry))
    (refused : env.statusUpdate write = .error err) :
    queued (runIteration env rc entry) = [write] ∧
      ∀ (later : Env) (stored : Abnormal) (recoverers : List Recoverer),
        later.get write.key = .ok stored → stored.status.phase = abnormalRecovering →
        isAbnormalNodeNameMatched stored rc.nodeName = true → later.list = .ok recoverers →
        recoveryWrite later rc recoverers stored ∈ updates (runIteration later rc write) := by
  obtain ⟨fetched, recoverers, -, -, -, listed, rfl, iteration⟩ :=
    runIteration_of_issued env rc entry issued
  refine ⟨by simp [iteration, queued_syncAbnormal, listed, refused], ?_⟩
  intro later stored laterRecoverers got recovering onNode laterListed
  simp [runIteration_of_stored later rc _ got recovering onNode, updates_syncAbnormal, laterListed]

end Iteration

/-- A cluster whose store holds one Recovering Abnormal and refuses every status update. -/
def refusingEnv : Env :=
  { echoEnv 0 with
    get := fun key =>
      if key = (recoveringAbnormal []).key then .ok (recoveringAbnormal []) else .error .notFound
    statusUpdate := fun _ =>
      .error "the object has been modified; please apply your changes to the latest version and try again"
    get_key := fun key _ fetched => by
      by_cases stored : key = (recoveringAbnormal []).key
      · simp only [stored, if_true, Except.ok.injEq] at fetched
        rw [← fetched, stored]
      · simp [stored] at fetched }

theorem runIteration_retries_refused_write_on_conflict :
    ∃ write, write ∈ updates (runIteration refusingEnv agentChain (recoveringAbnormal [])) ∧
      queued (runIteration refusingEnv agentChain (recoveringAbnormal [])) = [write] ∧
      ∀ (later : Env) (stored : Abnormal) (recoverers : List Recoverer),
        later.get write.key = .ok stored → stored.status.phase = abnormalRecovering →
        isAbnormalNodeNameMatched stored agentChain.nodeName = true → later.list = .ok recoverers →
        recoveryWrite later agentChain recoverers stored ∈ updates (runIteration later agentChain write) :=
  have issued : withPhase 0 abnormalSucceeded true conditionTrue (recoveringAbnormal []) ∈
      updates (runIteration refusingEnv agentChain (recoveringAbnormal [])) := by decide
  ⟨_, issued, runIteration_retries_refused_write refusingEnv agentChain _ issued rfl⟩

/-- The four ways `Run` is done with a dequeued entry. -/
inductive Disposition where
  | dropped
  | ignored
  | settled
  | requeued
deriving DecidableEq, Repr

/-- Get returned an object the iteration syncs: Recovering, and on this node. -/
def Ready (env : Env) (rc : RecovererChain) (entry : Abnormal) : Prop :=
  ∃ stored, env.get entry.key = .ok stored ∧ stored.status.phase = abnormalRecovering ∧
    isAbnormalNodeNameMatched stored rc.nodeName = true

/-- What each disposition says about the iteration on `entry`, with what Get answered:
dropped, Get reported NotFound and the trace is empty; ignored, Get returned an object not
Recovering or on another node and the trace is empty; settled, Get returned a ready object
and its one update was accepted with a terminal phase, nothing requeued; requeued, Get failed
otherwise than NotFound or returned a ready object, no update was accepted and one Abnormal
went to the queue. -/
def Disposition.Holds (env : Env) (rc : RecovererChain) (entry : Abnormal) : Disposition → Prop
  | .dropped => env.get entry.key = .error .notFound ∧ runIteration env rc entry = []
  | .ignored =>
      (∃ stored, env.get entry.key = .ok stored ∧
        (stored.status.phase ≠ abnormalRecovering ∨
          isAbnormalNodeNameMatched stored rc.nodeName = false)) ∧
      runIteration env rc entry = []
  | .settled =>
      Ready env rc entry ∧
      (∃ write stored, updates (runIteration env rc entry) = [write] ∧
        env.statusUpdate write = .ok stored ∧ Terminal write.status.phase) ∧
      queued (runIteration env rc entry) = []
  | .requeued =>
      ((∃ message, env.get entry.key = .error (.other message)) ∨ Ready env rc entry) ∧
      (∀ write ∈ updates (runIteration env rc entry), ∃ err, env.statusUpdate write = .error err) ∧
      (queued (runIteration env rc entry)).length = 1

section Disposition

variable {env : Env} {rc : RecovererChain} {entry : Abnormal}

/-- No two dispositions hold of one iteration. -/
theorem Disposition.Holds.unique {first second : Disposition}
    (holdsFirst : first.Holds env rc entry) (holdsSecond : second.Holds env rc entry) :
    first = second := by
  -- two different dispositions clash on Get's answer, on an empty trace against an update or
  -- a requeue, or on the store's answer to the one update
  cases first <;> cases second <;> first
    | rfl
    | (simp only [Disposition.Holds] at holdsFirst holdsSecond
       obtain ⟨first₁, first₂⟩ := holdsFirst
       obtain ⟨second₁, second₂⟩ := holdsSecond
       simp_all)

variable (env rc entry)

/-- Some disposition holds of every iteration: the case analysis of `Run`, `SyncAbnormal`
and the status update. -/
theorem Disposition.exists_holds : ∃ disposition : Disposition, disposition.Holds env rc entry := by
  cases fetched : env.get entry.key with
  | error err =>
    cases err with
    | notFound => exact ⟨.dropped, fetched, by simp [runIteration, fetched]⟩
    | other message =>
      exact ⟨.requeued, .inl ⟨message, fetched⟩, by
        simp [runIteration, fetched, Effect.updated, Effect.queued]⟩
  | ok stored =>
    by_cases ready :
        stored.status.phase = abnormalRecovering ∧ isAbnormalNodeNameMatched stored rc.nodeName
    · have iteration := runIteration_of_stored env rc entry fetched ready.1 ready.2
      have isReady : Ready env rc entry := ⟨stored, fetched, ready.1, ready.2⟩
      cases listed : env.list with
      | error message =>
        exact ⟨.requeued, .inr isReady, by simp [iteration, updates_syncAbnormal,
          queued_syncAbnormal, listed]⟩
      | ok recoverers =>
        cases answer : env.statusUpdate (recoveryWrite env rc recoverers stored) with
        | ok result =>
          exact ⟨.settled, isReady, ⟨_, result, by simp [iteration, updates_syncAbnormal, listed],
            answer, recoveryWrite_terminal ..⟩, by simp [iteration, queued_syncAbnormal, listed, answer]⟩
        | error err =>
          exact ⟨.requeued, .inr isReady, by simp [iteration, updates_syncAbnormal,
            queued_syncAbnormal, listed, answer]⟩
    · refine ⟨.ignored, ⟨stored, fetched, by simpa only [not_and_or, Bool.not_eq_true] using ready⟩,
        ?_⟩
      simp_all [runIteration]

/-- An iteration hands at most one Abnormal back to the queue. -/
theorem queued_runIteration_length_le : (queued (runIteration env rc entry)).length ≤ 1 := by
  obtain ⟨disposition, holds⟩ := Disposition.exists_holds env rc entry
  cases disposition with
  | dropped => simp [holds.2]
  | ignored => simp [holds.2]
  | settled => simp [holds.2.2]
  | requeued => exact holds.2.2.le

end Disposition

/-- **One dequeued entry.** For every behaviour of the store and the processors, exactly one
disposition holds; and whatever is requeued has the entry's key, and when dequeued again is
synced as the stored object, whenever that is Recovering and on this node. -/
theorem runIteration_disposition (env : Env) (rc : RecovererChain) (entry : Abnormal) :
    (∃! disposition : Disposition, disposition.Holds env rc entry) ∧
    ∀ requeued ∈ queued (runIteration env rc entry), requeued.key = entry.key ∧
      ∀ (later : Env) (stored : Abnormal), later.get requeued.key = .ok stored →
        stored.status.phase = abnormalRecovering →
        isAbnormalNodeNameMatched stored rc.nodeName = true →
        runIteration later rc requeued = (syncAbnormal later rc stored).1 :=
  ⟨exists_unique_of_exists_of_unique (Disposition.exists_holds env rc entry)
      fun _ _ => Disposition.Holds.unique,
    fun requeued member => ⟨queued_runIteration_key env rc entry requeued member,
      fun later _ fetched recovering onNode =>
        runIteration_of_stored later rc requeued fetched recovering onNode⟩⟩

end Kubediag.RecovererChain
