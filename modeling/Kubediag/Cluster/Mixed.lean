/-
# Kubediag.Cluster.Mixed — the earlier and the current chain on one store

While a cluster is upgraded, some nodes may run the earlier chain (`recovererChainImpl`) and
some the current one against one API server. The earlier chain does not re-fetch and does
not filter on node names: `SyncAbnormal` works on the copy it took off its channel, one the
cache listed at start-up, one another component sent, or one it sent back itself. Its only
protection against acting twice is the `resourceVersion` check of the store. Copies that come
from outside the chain are versions the store held: the cache's, and the objects other
components' updates returned.

A mixed cluster is the store and the copies in flight to earlier chains (`Mixed.pool`). A run
interleaves every step of `Cluster.Step` (other components' writes and deletions, current
iterations with stale reads) with

* `Mixed.Step.inform`: a copy of a version the store held reaches an earlier chain;
* `Mixed.Step.legacy`: an earlier chain takes any copy in flight, syncs it, and what it sends
  back is in flight again.

Copies are taken in any order, by any number of earlier chains; `Cluster.Upgrade` shows that
the channels of the earlier `Run` take them in one such order.

* `Mixed.Invariant`: the log stays guarded, and every copy in flight is a version its key held
  or has a terminal phase, since what the earlier chain sends back is its input or its
  terminal write (`Legacy.sent_syncAbnormal`).
* `mixed_updates_settle`: so in every reachable mixed cluster every copy in flight is a held
  version or terminal, an update the earlier chain issues is accepted only over a stored
  Recovering object, and stores a terminal phase; and
  between two accepted chain updates of one Abnormal, by either chain, another component
  wrote it back to Recovering.
* `update_accepted_iff_unchanged`: for both chains, an update is accepted exactly when the
  object it was computed from is still the stored one.
-/
import Kubediag.Cluster.Agents
import Kubediag.Legacy.Chain

namespace Kubediag.Cluster

open Kubediag.Api Kubediag.RecovererChain

set_option autoImplicit false

/-- The store, and the copies in flight to earlier chains. -/
structure Mixed where
  store : Store
  pool : List Abnormal

namespace Mixed

/-- The earlier chain's pass over `copy`, with the store answering its status update. -/
def legacyPass (store : Store) (outside : Env) (copy : Abnormal) : Traced (Abnormal × Option String) :=
  Legacy.syncAbnormal (store.env outside store.read store.read_stale) copy

inductive Step : Mixed → Mixed → Prop
  | cluster {s : Mixed} {store' : Store} : Cluster.Step s.store store' → Step s ⟨store', s.pool⟩
  | inform (s : Mixed) {key : NamespacedName} {copy : Abnormal} :
      copy ∈ s.store.versions key → Step s ⟨s.store, copy :: s.pool⟩
  | legacy (s : Mixed) (outside : Env) {before after : List Abnormal} {copy : Abnormal} :
      s.pool = before ++ copy :: after →
      Step s ⟨(updates (legacyPass s.store outside copy).1).foldl Store.commit s.store,
        before ++ after ++ sent (legacyPass s.store outside copy).1⟩

inductive Reachable : Mixed → Prop
  | empty : Reachable ⟨Store.empty, []⟩
  | step {s s' : Mixed} : Reachable s → Step s s' → Reachable s'

/-- A copy an earlier chain may be handed: a version its key held, or a terminal one. -/
def Copy (store : Store) (copy : Abnormal) : Prop :=
  copy ∈ store.versions copy.key ∨ Terminal copy.status.phase

structure Invariant (s : Mixed) : Prop where
  guarded : Guarded s.store.log
  copies : ∀ copy ∈ s.pool, Copy s.store copy

theorem Copy.foldl_commit {store : Store} {copy : Abnormal} (held : Copy store copy)
    (writes : List Abnormal) : Copy (writes.foldl Store.commit store) copy :=
  held.imp_left (versions_foldl_commit writes store)

/-- **The inversion lemma of an earlier pass.** It issues an update only over a Recovering
copy, and the update is terminal and carries the copy's metadata. -/
theorem mem_updates_legacyPass {store : Store} {outside : Env} {copy write : Abnormal}
    (issued : write ∈ updates (legacyPass store outside copy).1) :
    copy.status.phase = abnormalRecovering ∧ write.meta = copy.meta ∧ Terminal write.status.phase := by
  rw [legacyPass, Legacy.updates_syncAbnormal] at issued
  split_ifs at issued with recovering
  · split at issued
    · cases issued
    · rw [List.mem_singleton] at issued
      subst issued
      exact ⟨recovering, Legacy.recoveryWrite_meta .., Legacy.recoveryWrite_terminal ..⟩
  · cases issued

/-- An update of the earlier chain over a copy that may be handed to it settles a Recovering
version the store held. -/
theorem settles_of_legacy {store : Store} {outside : Env} {copy write : Abnormal}
    (held : Copy store copy) (issued : write ∈ updates (legacyPass store outside copy).1) :
    Settles store write := by
  obtain ⟨recovering, sameMeta, terminal⟩ := mem_updates_legacyPass issued
  exact ⟨terminal, copy.key, copy, held.resolve_right fun terminal => terminal.ne_recovering recovering,
    recovering, sameMeta⟩

theorem Invariant.empty : Invariant ⟨Store.empty, []⟩ :=
  ⟨trivial, fun _ member => absurd member (List.not_mem_nil _)⟩

/-- **Every step keeps the invariant.** -/
theorem Invariant.step {s s' : Mixed} (invariant : Invariant s) (step : Step s s') :
    Invariant s' := by
  cases step with
  | cluster step =>
    exact ⟨step.guarded invariant.guarded,
      fun copy member => (invariant.copies copy member).imp_left step.versions⟩
  | inform held =>
    refine ⟨invariant.guarded, fun copy member => ?_⟩
    rcases List.mem_cons.mp member with rfl | inFlight
    · exact .inl (s.store.key_of_mem_versions held ▸ held)
    · exact invariant.copies copy inFlight
  | legacy outside taken =>
    rename_i before after copy
    have taken' : Copy s.store copy := invariant.copies copy (by simp [taken])
    refine ⟨guarded_foldl_commit _ _ (fun _ => settles_of_legacy taken') invariant.guarded,
      fun other member => ?_⟩
    rcases List.mem_append.mp member with stayed | returned
    · have inFlight : other ∈ s.pool := by
        rw [taken]
        exact List.mem_append.mpr ((List.mem_append.mp stayed).imp_right (List.mem_cons_of_mem _))
      exact (invariant.copies other inFlight).foldl_commit _
    · rcases Legacy.sent_syncAbnormal _ copy other returned with rfl | terminal
      · exact taken'.foldl_commit _
      · exact .inr terminal

theorem Reachable.invariant {s : Mixed} (reachable : Reachable s) : Invariant s := by
  induction reachable with
  | empty => exact .empty
  | step _ step ih => exact ih.step step

end Mixed

/-- **Both chains settle an Abnormal at most once per Recovering.** In every reachable mixed
cluster, every copy in flight is a version its key held or has a terminal phase; an update an
earlier chain issues over a copy in flight is accepted only over a stored object in phase
Recovering, and stores Succeeded or Failed; and between two accepted recoverer-chain updates
of one Abnormal, by either chain, another component wrote it back to Recovering. -/
theorem mixed_updates_settle :
    (∀ s : Mixed, Mixed.Reachable s → ∀ copy ∈ s.pool,
      copy ∈ s.store.versions copy.key ∨ Terminal copy.status.phase) ∧
    (∀ s : Mixed, Mixed.Reachable s → ∀ (outside : Env) (copy write after : Abnormal),
      copy ∈ s.pool → write ∈ updates (Mixed.legacyPass s.store outside copy).1 →
      s.store.statusUpdate write = .ok after →
      ∃ before, s.store.get write.key = some before ∧
        before.status.phase = abnormalRecovering ∧ Terminal after.status.phase) ∧
    ∀ s : Mixed, Mixed.Reachable s →
      ∀ (newer between older : List Entry) (first second : Entry),
        s.store.log = newer ++ first :: between ++ second :: older →
        first.key = second.key →
        first.writer = .recovererChain → second.writer = .recovererChain →
        ∃ overwritten ∈ between, overwritten.key = first.key ∧ overwritten.writer = .other ∧
          ∃ object, overwritten.object = some object ∧ object.status.phase = abnormalRecovering :=
  ⟨fun _ reachable copy inFlight => reachable.invariant.copies copy inFlight,
    fun _ reachable _ copy _ _ inFlight issued accepted =>
      statusUpdate_from_recovering
        (Mixed.settles_of_legacy (reachable.invariant.copies copy inFlight) issued) accepted,
    fun _ reachable _ _ _ _ _ split sameKey firstChain secondChain =>
      reachable.invariant.guarded.separated split sameKey firstChain secondChain⟩

/-- **The version check refuses exactly the stale work.** However stale the reads: an update
a current iteration issues is accepted exactly when the object its Get returned is still the
stored one; and an update an earlier chain issues over a copy the store held is accepted
exactly when that copy is still the stored one. -/
theorem update_accepted_iff_unchanged :
    (∀ (store : Store) (rc : RecovererChain) (entry : Abnormal) (outside : Env)
        (read : NamespacedName → Except GetError Abnormal) (stale : StaleRead store read)
        (fetched write : Abnormal),
      read entry.key = .ok fetched →
      write ∈ updates (runIteration (store.env outside read stale) rc entry) →
      ((∃ after, store.statusUpdate write = .ok after) ↔ store.get entry.key = some fetched)) ∧
    ∀ (store : Store) (outside : Env) (copy write : Abnormal),
      copy ∈ store.versions copy.key →
      write ∈ updates (Mixed.legacyPass store outside copy).1 →
      ((∃ after, store.statusUpdate write = .ok after) ↔ store.get copy.key = some copy) := by
  refine ⟨fun store rc entry outside read stale fetched write got issued => ?_,
    fun store outside copy write held issued => ?_⟩
  · obtain ⟨fetched', got', -, sameMeta, -⟩ := mem_updates_runIteration _ rc entry issued
    obtain rfl : fetched' = fetched := Except.ok.inj (got'.symm.trans got)
    have version := stale _ _ got
    rw [statusUpdate_ok_iff version sameMeta, Abnormal.key_of_meta sameMeta,
      store.key_of_mem_versions version]
  · obtain ⟨-, sameMeta, -⟩ := Mixed.mem_updates_legacyPass issued
    rw [statusUpdate_ok_iff held sameMeta, Abnormal.key_of_meta sameMeta]

/-- In `reopened`, a node whose Get was answered before the object was settled and written back
issues an update the store refuses; an earlier chain handed the object as it is now stored
issues one the store accepts. -/
theorem update_accepted_iff_unchanged_after_reopening :
    (∃ write ∈ updates (runIteration (reopened.env (echoEnv 0) recoveringStore.read
        reopened_read_stale) agentChain (recoveringAbnormal [])),
      ¬ ∃ after, reopened.statusUpdate write = .ok after) ∧
    ∃ write ∈ updates (Mixed.legacyPass reopened (echoEnv 0) (Store.stamp 3 (recoveringAbnormal []))).1,
      ∃ after, reopened.statusUpdate write = .ok after := by
  have fetched : recoveringStore.read (recoveringAbnormal []).key =
      .ok (Store.stamp 1 (recoveringAbnormal [])) := rfl
  have issued : recoveryWrite (reopened.env (echoEnv 0) recoveringStore.read reopened_read_stale)
      agentChain [] (Store.stamp 1 (recoveringAbnormal [])) ∈
      updates (runIteration (reopened.env (echoEnv 0) recoveringStore.read reopened_read_stale)
        agentChain (recoveringAbnormal [])) := by
    rw [runIteration_of_stored _ agentChain _ fetched (by decide) (by decide), updates_syncAbnormal]
    exact List.mem_singleton_self _
  have legacyIssued : Legacy.recoveryWrite (reopened.env (echoEnv 0) reopened.read reopened.read_stale) []
      (Store.stamp 3 (recoveringAbnormal [])) ∈
      updates (Mixed.legacyPass reopened (echoEnv 0) (Store.stamp 3 (recoveringAbnormal []))).1 := by
    rw [Mixed.legacyPass, Legacy.updates_syncAbnormal, if_pos (by rfl)]
    exact List.mem_singleton_self _
  exact ⟨⟨_, issued, fun accepted => absurd
      ((update_accepted_iff_unchanged.1 reopened agentChain (recoveringAbnormal []) (echoEnv 0)
        recoveringStore.read reopened_read_stale _ _ fetched issued).1 accepted) (by decide)⟩,
    _, legacyIssued, (update_accepted_iff_unchanged.2 reopened (echoEnv 0) _ _ (by decide)
      legacyIssued).2 (by decide)⟩

end Kubediag.Cluster
