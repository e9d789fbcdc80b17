/-
# Kubediag.Cluster.Upgrade — the earlier chains' channels refine the mixed cluster

`Cluster.Mixed` keeps what the earlier chains have yet to sync as one pool, taken in any order
by any chain. Here each earlier chain is its `Run` as `Legacy.Channel` has it: the rest of the
start-up list, its own blocking send, and the buffer of `recovererChainCh`, moved only by
`Legacy.apply`. An `Upgrade` is the store and these chains. A run interleaves

* every step of `Cluster.Step` (other components' writes, current iterations);
* `Upgrade.Step.start`: an earlier chain starts with what `ListAbnormals` returned, versions the
  store held;
* `Upgrade.Step.chain`: one action of `Legacy.apply` on one chain, against the store
  (`Upgrade.Acts`): another component sends a version the store held, `Run`'s own send
  completes, or `Run` syncs an Abnormal with the store answering its update.

* `Upgrade.Simulates`: a mixed cluster stands for an upgrade when the stores are one and the
  pool holds, in some order, the copies the chains hold (`Legacy.State.copies`).
* `Upgrade.Step.simulate`: every step is matched by mixed steps: a start by one
  `Mixed.Step.inform` per listed Abnormal, a send by one, a sync by `Mixed.Step.legacy` on the
  copy it takes, a handoff by both, and `Run`'s own send by none.
* `upgrade_refines_mixed`: so every reachable upgrade is stood for by a reachable mixed cluster;
* `upgrade_updates_settle`: and an update an earlier chain issues over any copy it holds, in its
  start-up list, its own send or its buffer, is accepted only over a stored Recovering object
  and stores a terminal phase.
-/
import Kubediag.Cluster.Mixed
import Kubediag.Legacy.Channel

namespace Kubediag.Cluster

open Kubediag.Api Kubediag.RecovererChain

set_option autoImplicit false

namespace Mixed

/-- The earlier chains are told of versions the store held, one after another. -/
theorem Reachable.inform_all {m : Mixed} (reachable : Reachable m) {informed : List Abnormal}
    (held : ∀ copy ∈ informed, copy ∈ m.store.versions copy.key) :
    Reachable ⟨m.store, informed ++ m.pool⟩ := by
  induction informed with
  | nil => exact reachable
  | cons copy rest ih =>
    exact (ih fun other member => held other (.tail _ member)).step (.inform _ (held copy (.head _)))

/-- An earlier chain syncs a copy in flight: it leaves the pool, what is sent back joins it. -/
theorem Reachable.sync {m : Mixed} (reachable : Reachable m) (outside : Env) {copy : Abnormal}
    {before rest after : List Abnormal} (inFlight : m.pool.Perm (before ++ copy :: rest ++ after)) :
    ∃ pool, pool.Perm (before ++ (sent (legacyPass m.store outside copy).1 ++ rest) ++ after) ∧
      Reachable ⟨(updates (legacyPass m.store outside copy).1).foldl Store.commit m.store, pool⟩ := by
  have taken : copy ∈ m.pool := inFlight.mem_iff.mpr (by simp)
  obtain ⟨front, back, split⟩ := List.append_of_mem taken
  refine ⟨_, ?_, reachable.step (.legacy _ outside split)⟩
  rw [split, List.perm_iff_count] at inFlight
  rw [List.perm_iff_count]
  intro other
  have count := inFlight other
  simp only [List.count_append, List.count_cons] at count ⊢
  omega

end Mixed

/-- The store, and the earlier chains with their channels. -/
structure Upgrade where
  store : Store
  chains : List Legacy.State

namespace Upgrade

/-- The env an earlier chain syncs in, the store answering its update. -/
def legacyEnv (store : Store) (outside : Env) : Env :=
  store.env outside store.read store.read_stale

/-- The store once an earlier chain's sync of `copy` has issued its update. -/
def synced (store : Store) (outside : Env) (copy : Abnormal) : Store :=
  (updates (Mixed.legacyPass store outside copy).1).foldl Store.commit store

/-- What one action of `chain` needs of the store, and the store it leaves. -/
inductive Acts (store : Store) (chain : Legacy.State) : Legacy.Action → Store → Prop
  | produce {copy : Abnormal} : copy ∈ store.versions copy.key → Acts store chain (.produce copy) store
  | resend : Acts store chain .resend store
  | startup (outside : Env) {copy : Abnormal} {pending : List Abnormal} :
      chain.consumer = .syncing (copy :: pending) →
      Acts store chain (.startup (legacyEnv store outside)) (synced store outside copy)
  | receive (outside : Env) {copy : Abnormal} :
      chain.buffer.head? = some copy →
      Acts store chain (.receive (legacyEnv store outside)) (synced store outside copy)
  | handoff (outside : Env) {copy : Abnormal} :
      copy ∈ store.versions copy.key →
      Acts store chain (.handoff copy (legacyEnv store outside)) (synced store outside copy)

inductive Step : Upgrade → Upgrade → Prop
  | cluster {u : Upgrade} {store' : Store} : Cluster.Step u.store store' → Step u ⟨store', u.chains⟩
  | start (u : Upgrade) (capacity : Nat) {listed : List Abnormal} :
      (∀ copy ∈ listed, copy ∈ u.store.versions copy.key) →
      Step u ⟨u.store, Legacy.State.init capacity listed :: u.chains⟩
  | chain (u : Upgrade) {before after : List Legacy.State} {chain chain' : Legacy.State}
      {action : Legacy.Action} {store' : Store} :
      u.chains = before ++ chain :: after → Acts u.store chain action store' →
      Legacy.apply chain action = some chain' → Step u ⟨store', before ++ chain' :: after⟩

inductive Reachable : Upgrade → Prop
  | empty : Reachable ⟨Store.empty, []⟩
  | step {u u' : Upgrade} : Reachable u → Step u u' → Reachable u'

/-- Every Abnormal the earlier chains hold. -/
def pool (u : Upgrade) : List Abnormal := u.chains.flatMap Legacy.State.copies

/-- `m` stands for `u`: one store, and the pool holds what the chains hold, in some order. -/
structure Simulates (m : Mixed) (u : Upgrade) : Prop where
  store : m.store = u.store
  pool : m.pool.Perm u.pool

theorem pool_split (store : Store) (before after : List Legacy.State) (chain : Legacy.State) :
    pool ⟨store, before ++ chain :: after⟩ =
      before.flatMap Legacy.State.copies ++ chain.copies ++ after.flatMap Legacy.State.copies := by
  simp [pool]

/-- **The step lemma of the refinement.** -/
theorem Step.simulate {u u' : Upgrade} (step : Step u u') {m : Mixed} (reachable : m.Reachable)
    (sim : Simulates m u) : ∃ m', m'.Reachable ∧ Simulates m' u' := by
  rcases m with ⟨_, inFlight⟩
  rcases u with ⟨store, chains⟩
  obtain ⟨rfl, samePool⟩ := sim
  cases step with
  | cluster step => exact ⟨_, reachable.step (.cluster step), rfl, samePool⟩
  | start capacity held =>
    refine ⟨_, reachable.inform_all held, rfl, ?_⟩
    simpa [pool] using samePool.append_left _
  | chain split acts applied =>
    rename_i before after chain chain' action store'
    subst split
    rw [pool_split] at samePool
    suffices matched : ∃ m' : Mixed, m'.Reachable ∧ m'.store = store' ∧ m'.pool.Perm
        (before.flatMap Legacy.State.copies ++ chain'.copies ++ after.flatMap Legacy.State.copies) by
      obtain ⟨m', reachable', sameStore, perm⟩ := matched
      exact ⟨m', reachable', sameStore, by rwa [pool_split]⟩
    cases acts with
    | produce held =>
      refine ⟨_, reachable.step (.inform _ held), rfl, ?_⟩
      simpa [Legacy.apply_produce_copies applied] using (samePool.cons _).trans List.perm_middle.symm
    | resend =>
      exact ⟨_, reachable, rfl,
        samePool.trans (((Legacy.apply_resend_copies applied).symm.append_left _).append_right _)⟩
    | startup outside consumer =>
      obtain ⟨taken, returned⟩ := Legacy.apply_startup_copies consumer applied
      rw [taken] at samePool
      obtain ⟨_, perm, synced⟩ := reachable.sync outside samePool
      exact ⟨_, synced, rfl, by rw [returned]; exact perm⟩
    | receive outside head =>
      obtain ⟨taken, returned⟩ := Legacy.apply_receive_copies head applied
      rw [taken] at samePool
      obtain ⟨_, perm, synced⟩ := reachable.sync outside samePool
      exact ⟨_, synced, rfl, by rw [returned]; exact perm⟩
    | handoff outside held =>
      rename_i copy
      obtain ⟨taken, returned⟩ := Legacy.apply_handoff_copies applied
      rw [taken, List.append_nil] at samePool
      have handed : (copy :: inFlight).Perm (before.flatMap Legacy.State.copies ++ [copy] ++
          after.flatMap Legacy.State.copies) := by
        simpa using (samePool.cons copy).trans List.perm_middle.symm
      obtain ⟨_, perm, synced⟩ := (reachable.step (.inform _ held)).sync outside handed
      exact ⟨_, synced, rfl, by simpa [returned] using perm⟩

/-- **The run lemma of the refinement.** -/
theorem Reachable.simulated {u : Upgrade} (reachable : Reachable u) :
    ∃ m : Mixed, m.Reachable ∧ Simulates m u := by
  induction reachable with
  | empty => exact ⟨_, .empty, rfl, .nil⟩
  | step _ step ih =>
    obtain ⟨m, reachable, sim⟩ := ih
    exact step.simulate reachable sim

/-- Every reachable store of the cluster, with no earlier chain started. -/
theorem reachable_of_cluster {store : Store} (reachable : Cluster.Reachable store) :
    Reachable ⟨store, []⟩ := by
  induction reachable with
  | empty => exact .empty
  | step _ step ih => exact ih.step (.cluster step)

/-- `reopenedTwice` written back to Recovering once more, and an earlier chain started with
that version as what `ListAbnormals` returned. -/
def reopenedUpgrade : Upgrade :=
  ⟨reopenedTwice.record .other (recoveringAbnormal []).key (some (recoveringAbnormal []))
      fun _ same => by cases same; rfl,
    [Legacy.State.init 1 [Store.stamp 5 (recoveringAbnormal [])]]⟩

theorem reachable_reopenedUpgrade : Reachable reopenedUpgrade :=
  (reachable_of_cluster (reachable_reopenedTwice.step (.write _ _))).step (.start _ 1 (by decide))

/-- `reopenedUpgrade` once its earlier chain has synced the listed version. -/
def syncedUpgrade : Upgrade :=
  ⟨synced reopenedUpgrade.store (echoEnv 0) (Store.stamp 5 (recoveringAbnormal [])),
    [{ Legacy.State.init 1 [Store.stamp 5 (recoveringAbnormal [])] with
      consumer := Legacy.afterSync (legacyEnv reopenedUpgrade.store (echoEnv 0))
        (Store.stamp 5 (recoveringAbnormal [])) [] }]⟩

theorem reachable_syncedUpgrade : Reachable syncedUpgrade :=
  reachable_reopenedUpgrade.step (.chain _ (show _ = [] ++ _ :: [] from rfl)
    (.startup (echoEnv 0) rfl) (Legacy.apply_startup rfl _))

end Upgrade

/-- **The channels of the earlier chains refine the mixed cluster.** For every reachable
upgrade, with each earlier `Run` in its start-up loop, its own blocking send or its range
loop, there is a reachable mixed cluster with the same store whose copies in flight are, in
some order, the Abnormals the chains hold. -/
theorem upgrade_refines_mixed (u : Upgrade) (reachable : Upgrade.Reachable u) :
    ∃ m : Mixed, m.Reachable ∧ Upgrade.Simulates m u :=
  reachable.simulated

/-- After the earlier chain of `reopenedUpgrade` has synced its listed version. -/
theorem upgrade_refines_mixed_after_sync :
    Upgrade.Reachable Upgrade.syncedUpgrade ∧
      ∃ m : Mixed, m.Reachable ∧ Upgrade.Simulates m Upgrade.syncedUpgrade :=
  ⟨Upgrade.reachable_syncedUpgrade, upgrade_refines_mixed _ Upgrade.reachable_syncedUpgrade⟩

/-- **Earlier chains settle only Recovering objects, whatever their channels hold.** In every
reachable upgrade, an update an earlier chain issues when it syncs a copy it holds (the rest of
its start-up list, the copy of its own send, or a buffered one) is accepted only over a stored
object in phase Recovering, and stores Succeeded or Failed; and between two accepted
recoverer-chain updates of one Abnormal, by any chain, another component wrote it back to
Recovering. -/
theorem upgrade_updates_settle (u : Upgrade) (reachable : Upgrade.Reachable u) :
    (∀ chain ∈ u.chains, ∀ copy ∈ chain.copies, ∀ (outside : Env) (write after : Abnormal),
      write ∈ updates (Mixed.legacyPass u.store outside copy).1 →
      u.store.statusUpdate write = .ok after →
      ∃ before, u.store.get write.key = some before ∧
        before.status.phase = abnormalRecovering ∧ Terminal after.status.phase) ∧
    ∀ (newer between older : List Entry) (first second : Entry),
      u.store.log = newer ++ first :: between ++ second :: older →
      first.key = second.key →
      first.writer = .recovererChain → second.writer = .recovererChain →
      ∃ overwritten ∈ between, overwritten.key = first.key ∧ overwritten.writer = .other ∧
        ∃ object, overwritten.object = some object ∧ object.status.phase = abnormalRecovering := by
  obtain ⟨⟨_, inFlight⟩, mixed, rfl, samePool⟩ := reachable.simulated
  have invariant := mixed.invariant
  refine ⟨fun chain member copy held _ _ _ issued accepted => ?_,
    fun _ _ _ _ _ split => invariant.guarded.separated split⟩
  have taken : copy ∈ inFlight := samePool.mem_iff.mpr (List.mem_flatMap.mpr ⟨chain, member, held⟩)
  exact statusUpdate_from_recovering
    (Mixed.settles_of_legacy (invariant.copies copy taken) issued) accepted

/-- The earlier chain of `reopenedUpgrade` holds the listed Recovering version, and its update
over it is accepted; the log holds two chain writes of the key. -/
theorem upgrade_updates_settle_reopened :
    Upgrade.Reachable Upgrade.reopenedUpgrade ∧
      (∃ chain ∈ Upgrade.reopenedUpgrade.chains, ∃ copy ∈ chain.copies, ∃ write after,
        write ∈ updates (Mixed.legacyPass Upgrade.reopenedUpgrade.store (echoEnv 0) copy).1 ∧
        Upgrade.reopenedUpgrade.store.statusUpdate write = .ok after ∧
        ∃ before, Upgrade.reopenedUpgrade.store.get write.key = some before ∧
          before.status.phase = abnormalRecovering ∧ Terminal after.status.phase) ∧
      ∃ newer first between second older,
        Upgrade.reopenedUpgrade.store.log = newer ++ first :: between ++ second :: older ∧
        first.key = second.key ∧ first.writer = .recovererChain ∧
        second.writer = .recovererChain ∧
        ∃ overwritten ∈ between, overwritten.key = first.key ∧ overwritten.writer = .other ∧
          ∃ object, overwritten.object = some object ∧ object.status.phase = abnormalRecovering := by
  have settle := upgrade_updates_settle _ Upgrade.reachable_reopenedUpgrade
  have issued : Legacy.recoveryWrite (Upgrade.legacyEnv Upgrade.reopenedUpgrade.store (echoEnv 0)) []
      (Store.stamp 5 (recoveringAbnormal [])) ∈ updates (Mixed.legacyPass Upgrade.reopenedUpgrade.store
        (echoEnv 0) (Store.stamp 5 (recoveringAbnormal []))).1 := by
    rw [Mixed.legacyPass, Legacy.updates_syncAbnormal, if_pos (by rfl)]
    exact List.mem_singleton_self _
  obtain ⟨after, accepted⟩ : ∃ after, Upgrade.reopenedUpgrade.store.statusUpdate
      (Legacy.recoveryWrite (Upgrade.legacyEnv Upgrade.reopenedUpgrade.store (echoEnv 0)) []
        (Store.stamp 5 (recoveringAbnormal []))) = .ok after :=
    (statusUpdate_ok_iff (by decide : Store.stamp 5 (recoveringAbnormal []) ∈
      Upgrade.reopenedUpgrade.store.versions (recoveringAbnormal []).key)
      (Legacy.recoveryWrite_meta ..)).2 (by decide)
  obtain ⟨newer, first, between, second, older, split, sameKey, firstChain, secondChain⟩ :
      ∃ newer first between second older,
        Upgrade.reopenedUpgrade.store.log = newer ++ first :: between ++ second :: older ∧
        first.key = second.key ∧ first.writer = .recovererChain ∧ second.writer = .recovererChain :=
    ⟨[_], _, [_], _, _, rfl, by decide, rfl, rfl⟩
  exact ⟨Upgrade.reachable_reopenedUpgrade,
    ⟨_, List.mem_singleton_self _, _, List.mem_singleton_self _, _, after, issued, accepted,
      settle.1 _ (List.mem_singleton_self _) _ (List.mem_singleton_self _) _ _ _ issued accepted⟩,
    newer, first, between, second, older, split, sameKey, firstChain, secondChain,
    settle.2 newer between older first second split sameKey firstChain secondChain⟩
end Kubediag.Cluster
