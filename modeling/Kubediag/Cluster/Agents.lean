/-
# Kubediag.Cluster.Agents — a recoverer chain on every node, one store

Every node runs a `recovererChain`, and other components write Abnormals too. A run of the
cluster is any interleaving of

* another component's write or deletion of an Abnormal (`Step.write`, `Step.delete`), and
* one iteration of some node's `Run` (`Step.iterate`): `runIteration` on whatever entry its
  queue holds, for any node name, its Get answered by any version the key ever held, and its
  one status update applied only if it carries the stored `resourceVersion`.

An iteration is one step. Between its Get and its Update it touches the store nowhere else,
so a run in which other steps fall between the two is the run in which the iteration is
taken at its Update with its Get answered by the version it read: a stale read, which
`StaleRead` allows. The queues need no state of their own: an entry is any Abnormal, so
duplicate and stale copies, and whatever `QueueAbnormal` hands back, are all covered;
`Cluster.Deployment` shows that each node's `Run` with its channel takes no other steps.

* `statusUpdate_from_recovering`: a status update that settles a Recovering version is
  accepted only over that very version, and stores its terminal phase.
* `reachable_guarded`: in every reachable store, each recoverer-chain write stores a terminal
  phase on top of another component's write of a Recovering object.
* `recovererChain_updates_settle`: so every accepted update of a chain goes from Recovering to
  Succeeded or Failed, and between two of them on one Abnormal another component wrote it back
  to Recovering.
* `fresh_iteration_settles`: the version check refuses only work based on a stale read: an
  iteration that reads the stored object, Recovering and on its node, settles it.
* `freshPass_settles`: a node working through its channel while nothing else writes leaves no
  Abnormal the channel names Recovering on that node.
-/
import Kubediag.Cluster.Store
import Kubediag.RecovererChain.Dispatch

namespace Kubediag.Cluster

open Kubediag.Api Kubediag.Util Kubediag.RecovererChain

set_option autoImplicit false

/-- A read that may be stale: whatever it returns, the key held once. -/
def StaleRead (store : Store) (read : NamespacedName → Except GetError Abnormal) : Prop :=
  ∀ key abnormal, read key = .ok abnormal → abnormal ∈ store.versions key

/-- The cluster as one iteration sees it: its Get answered by `read`, its status update by the
store, and the catalog, clock, processors and validator as `outside` says. -/
def Store.env (store : Store) (outside : Env) (read : NamespacedName → Except GetError Abnormal)
    (stale : StaleRead store read) : Env :=
  { outside with
    get := read
    statusUpdate := store.statusUpdate
    get_key := fun _ _ fetched => store.key_of_mem_versions (stale _ _ fetched) }

/-- A fresh read: the stored object, or NotFound. -/
def Store.read (store : Store) (key : NamespacedName) : Except GetError Abnormal :=
  match store.get key with
  | some object => .ok object
  | none => .error .notFound

theorem Store.read_stale (store : Store) : StaleRead store store.read := by
  intro key abnormal got
  unfold Store.read at got
  split at got
  · next object stored =>
    cases got
    exact store.get_mem_versions stored
  · cases got

inductive Step : Store → Store → Prop
  | write (store : Store) (object : Abnormal) :
      Step store (store.record .other object.key (some object) fun _ same => by cases same; rfl)
  | delete (store : Store) (key : NamespacedName) :
      Step store (store.record .other key none fun _ absent => by cases absent)
  | iterate (store : Store) (rc : RecovererChain) (entry : Abnormal) (outside : Env)
      (read : NamespacedName → Except GetError Abnormal) (stale : StaleRead store read) :
      Step store
        ((updates (runIteration (store.env outside read stale) rc entry)).foldl Store.commit store)

inductive Reachable : Store → Prop
  | empty : Reachable Store.empty
  | step {store store' : Store} : Reachable store → Step store store' → Reachable store'

/-! ## The updates of an iteration -/

/-- A terminal write carrying the metadata of a Recovering version the store held. -/
def Settles (store : Store) (write : Abnormal) : Prop :=
  Terminal write.status.phase ∧ ∃ key, ∃ fetched ∈ store.versions key,
    fetched.status.phase = abnormalRecovering ∧ write.meta = fetched.meta

theorem settles_of_issued {store : Store} {outside : Env}
    {read : NamespacedName → Except GetError Abnormal} {stale : StaleRead store read}
    {rc : RecovererChain} {entry write : Abnormal}
    (issued : write ∈ updates (runIteration (store.env outside read stale) rc entry)) :
    Settles store write := by
  obtain ⟨fetched, got, recovering, sameMeta, terminal⟩ := mem_updates_runIteration _ _ _ issued
  exact ⟨terminal, entry.key, fetched, stale _ _ got, recovering, sameMeta⟩

theorem Settles.commit {store : Store} {write : Abnormal} (settles : Settles store write)
    (other : Abnormal) : Settles (store.commit other) write := by
  obtain ⟨terminal, key, fetched, read, recovering, sameMeta⟩ := settles
  exact ⟨terminal, key, fetched, store.versions_commit other read, recovering, sameMeta⟩

/-- The version check at work: an update carrying the metadata of a version the key held is
accepted only over that very version. -/
theorem updated_over_read {store : Store} {write fetched object : Abnormal} {key : NamespacedName}
    (read : fetched ∈ store.versions key) (sameMeta : write.meta = fetched.meta)
    (accepted : store.updated write = some object) :
    store.get write.key = some fetched ∧ object = { fetched with status := write.status } := by
  obtain ⟨current, got, sameVersion, rfl⟩ := Store.updated_eq_some accepted
  have same : fetched = current :=
    store.eq_of_version read (store.get_mem_versions got) (by rw [← sameMeta, sameVersion])
  subst same
  exact ⟨got, rfl⟩

/-- An accepted settling update goes from Recovering to a terminal phase. -/
theorem statusUpdate_from_recovering {store : Store} {write after : Abnormal}
    (settles : Settles store write) (accepted : store.statusUpdate write = .ok after) :
    ∃ before, store.get write.key = some before ∧
      before.status.phase = abnormalRecovering ∧ Terminal after.status.phase := by
  obtain ⟨terminal, key, fetched, read, recovering, sameMeta⟩ := settles
  unfold Store.statusUpdate at accepted
  split at accepted
  · next object updated =>
    cases accepted
    obtain ⟨got, rfl⟩ := updated_over_read read sameMeta updated
    exact ⟨fetched, got, recovering, terminal⟩
  · cases accepted

/-- An update carrying the metadata of a version the key held is accepted exactly when that
version is still the stored object. -/
theorem statusUpdate_ok_iff {store : Store} {write fetched : Abnormal} {key : NamespacedName}
    (read : fetched ∈ store.versions key) (sameMeta : write.meta = fetched.meta) :
    (∃ after, store.statusUpdate write = .ok after) ↔ store.get write.key = some fetched := by
  constructor
  · rintro ⟨after, accepted⟩
    unfold Store.statusUpdate at accepted
    split at accepted
    · next object updated => exact (updated_over_read read sameMeta updated).1
    · cases accepted
  · intro got
    exact ⟨Store.stamp (store.revision + 1) { fetched with status := write.status },
      by simp [Store.statusUpdate, Store.updated, got, sameMeta]⟩

/-! ## The log of a reachable store -/

/-- Each recoverer-chain write of the log stores a terminal phase, on top of another
component's write of a Recovering object under the same key. -/
def Guarded : List Entry → Prop
  | [] => True
  | entry :: older => Guarded older ∧
      (entry.writer = .recovererChain →
        (∃ object, entry.object = some object ∧ Terminal object.status.phase) ∧
        ∃ previous, older.find? (·.key = entry.key) = some previous ∧ previous.writer = .other ∧
          ∃ object, previous.object = some object ∧ object.status.phase = abnormalRecovering)

theorem Guarded.terminal {log : List Entry} (guarded : Guarded log) {entry : Entry}
    (member : entry ∈ log) (chain : entry.writer = .recovererChain) :
    ∃ object, entry.object = some object ∧ Terminal object.status.phase := by
  induction log with
  | nil => cases member
  | cons head older ih =>
    rcases List.mem_cons.mp member with rfl | older_member
    · exact (guarded.2 chain).1
    · exact ih guarded.1 older_member

theorem Guarded.of_append (newer : List Entry) {older : List Entry}
    (guarded : Guarded (newer ++ older)) :
    Guarded older := by
  induction newer with
  | nil => exact guarded
  | cons _ _ ih => exact ih guarded.1

theorem guarded_record_other (store : Store) (key : NamespacedName) (object : Option Abnormal)
    (keyed : ∀ written, object = some written → written.key = key) (guarded : Guarded store.log) :
    Guarded (store.record .other key object keyed).log :=
  ⟨guarded, fun chain => by cases chain⟩

theorem guarded_commit {store : Store} {write : Abnormal} (guarded : Guarded store.log)
    (settles : Settles store write) : Guarded (store.commit write).log := by
  obtain ⟨terminal, key, fetched, read, recovering, sameMeta⟩ := settles
  rw [Store.commit_log]
  split
  · next object accepted =>
    obtain ⟨got, rfl⟩ := updated_over_read read sameMeta accepted
    obtain ⟨previous, found, stored⟩ := Option.bind_eq_some.mp got
    have other : previous.writer = .other := by
      cases writer : previous.writer
      · obtain ⟨_, stored', terminal'⟩ := guarded.terminal (List.mem_of_find?_eq_some found) writer
        rw [stored] at stored'
        cases stored'
        exact absurd recovering terminal'.ne_recovering
      · rfl
    exact ⟨guarded, fun _ => ⟨⟨_, rfl, terminal⟩, previous, found, other, fetched, stored, recovering⟩⟩
  · exact guarded

theorem guarded_foldl_commit (store : Store) (writes : List Abnormal)
    (settle : ∀ write ∈ writes, Settles store write) (guarded : Guarded store.log) :
    Guarded (writes.foldl Store.commit store).log := by
  induction writes generalizing store with
  | nil => exact guarded
  | cons write rest ih =>
    exact ih (store.commit write)
      (fun later member => (settle later (List.mem_cons_of_mem _ member)).commit write)
      (guarded_commit guarded (settle write (List.mem_cons_self _ _)))

/-- Every step keeps the log guarded. -/
theorem Step.guarded {store store' : Store} (step : Step store store') (guarded : Guarded store.log) :
    Guarded store'.log := by
  cases step with
  | write object => exact guarded_record_other _ _ _ _ guarded
  | delete key => exact guarded_record_other _ _ _ _ guarded
  | iterate rc entry outside read stale =>
    exact guarded_foldl_commit _ _ (fun _ issued => settles_of_issued issued) guarded

/-- **The run invariant.** -/
theorem reachable_guarded {store : Store} (reachable : Reachable store) : Guarded store.log := by
  induction reachable with
  | empty => trivial
  | step _ step ih => exact step.guarded ih

theorem versions_foldl_commit (writes : List Abnormal) {key : NamespacedName} {held : Abnormal} :
    ∀ store : Store, held ∈ store.versions key → held ∈ (writes.foldl Store.commit store).versions key := by
  induction writes with
  | nil => exact fun _ member => member
  | cons write rest ih => exact fun store member => ih _ (store.versions_commit write member)

/-- No step forgets a version a key held. -/
theorem Step.versions {store store' : Store} (step : Step store store') {key : NamespacedName}
    {held : Abnormal} (member : held ∈ store.versions key) : held ∈ store'.versions key := by
  cases step with
  | write object => exact store.versions_record _ _ _ _ member
  | delete key => exact store.versions_record _ _ _ _ member
  | iterate rc entry outside read stale => exact versions_foldl_commit _ _ member

/-- Between two recoverer-chain writes of one key, another component wrote a Recovering
object under it. -/
theorem Guarded.separated {log : List Entry} (guarded : Guarded log)
    {newer between older : List Entry} {first second : Entry}
    (split : log = newer ++ first :: between ++ second :: older) (sameKey : first.key = second.key)
    (firstChain : first.writer = .recovererChain) (secondChain : second.writer = .recovererChain) :
    ∃ overwritten ∈ between, overwritten.key = first.key ∧ overwritten.writer = .other ∧
      ∃ object, overwritten.object = some object ∧ object.status.phase = abnormalRecovering := by
  subst split
  have suffix : Guarded (first :: (between ++ second :: older)) :=
    Guarded.of_append newer (by simpa using guarded)
  obtain ⟨-, previous, found, other, recovered⟩ := suffix.2 firstChain
  rw [List.find?_append] at found
  cases inBetween : between.find? (·.key = first.key) with
  | none =>
    rw [inBetween, Option.none_or] at found
    have atSecond : second = previous := by simpa [sameKey] using found
    rw [← atSecond, secondChain] at other
    cases other
  | some overwritten =>
    rw [inBetween, Option.or_some, Option.some.injEq] at found
    subst found
    exact ⟨overwritten, List.mem_of_find?_eq_some inBetween,
      by simpa using List.find?_some inBetween, other, recovered⟩

/-- One iteration of a node's `Run` on `entry`, its Get answered fresh, its update applied. -/
def freshIteration (rc : RecovererChain) (outside : Env) (store : Store) (entry : Abnormal) :
    Store :=
  (updates (runIteration (store.env outside store.read store.read_stale) rc entry)).foldl
    Store.commit store

/-- A store holding one Recovering Abnormal, written by another component. -/
def recoveringStore : Store :=
  Store.empty.record .other (recoveringAbnormal []).key (some (recoveringAbnormal []))
    fun _ same => by cases same; rfl

/-- `recoveringStore` settled by a node and written back to Recovering by another component. -/
def reopened : Store :=
  (freshIteration agentChain (echoEnv 0) recoveringStore (recoveringAbnormal [])).record .other
    (recoveringAbnormal []).key (some (recoveringAbnormal [])) fun _ same => by cases same; rfl

/-- The read a node took before `reopened` settled and rewrote its object is still one the
key held. -/
theorem reopened_read_stale : StaleRead reopened recoveringStore.read := fun key _ got =>
  (Step.write _ _).versions
    ((Step.iterate _ agentChain (recoveringAbnormal []) (echoEnv 0) _ (Store.read_stale _)).versions
      (recoveringStore.read_stale key _ got))

/-- `reopened`, settled again. -/
def reopenedTwice : Store :=
  freshIteration agentChain (echoEnv 0) reopened (recoveringAbnormal [])

theorem reachable_reopenedTwice : Reachable reopenedTwice :=
  .step (.step (.step (.step .empty (.write _ _)) (.iterate _ _ _ _ _ (Store.read_stale _)))
    (.write _ _)) (.iterate _ _ _ _ _ (Store.read_stale _))

/-- **Recoverer chains settle an Abnormal at most once per Recovering.** Whatever the nodes,
their queues, the interleaving and the staleness of reads: a status update an iteration
issues is accepted only over a stored object in phase Recovering, and stores Succeeded or
Failed; and in every reachable store, between two accepted recoverer-chain updates of one
Abnormal another component wrote it back to Recovering. -/
theorem recovererChain_updates_settle :
    (∀ (store : Store) (rc : RecovererChain) (entry : Abnormal) (outside : Env)
        (read : NamespacedName → Except GetError Abnormal) (stale : StaleRead store read)
        (write after : Abnormal),
      write ∈ updates (runIteration (store.env outside read stale) rc entry) →
      store.statusUpdate write = .ok after →
      ∃ before, store.get write.key = some before ∧
        before.status.phase = abnormalRecovering ∧ Terminal after.status.phase) ∧
    ∀ store : Store, Reachable store →
      ∀ (newer between older : List Entry) (first second : Entry),
        store.log = newer ++ first :: between ++ second :: older →
        first.key = second.key →
        first.writer = .recovererChain → second.writer = .recovererChain →
        ∃ overwritten ∈ between, overwritten.key = first.key ∧ overwritten.writer = .other ∧
          ∃ object, overwritten.object = some object ∧ object.status.phase = abnormalRecovering :=
  ⟨fun _ _ _ _ _ _ _ _ issued accepted =>
      statusUpdate_from_recovering (settles_of_issued issued) accepted,
    fun _ reachable _ _ _ _ _ split sameKey firstChain secondChain =>
      (reachable_guarded reachable).separated split sameKey firstChain secondChain⟩

theorem recovererChain_updates_settle_reopened :
    Reachable reopenedTwice ∧
      ∃ first between second older, reopenedTwice.log = [] ++ first :: between ++ second :: older ∧
        first.key = second.key ∧ first.writer = .recovererChain ∧ second.writer = .recovererChain ∧
        ∃ overwritten ∈ between, overwritten.key = first.key ∧ overwritten.writer = .other ∧
          ∃ object, overwritten.object = some object ∧ object.status.phase = abnormalRecovering := by
  obtain ⟨first, between, second, older, split, sameKey, firstChain, secondChain⟩ :
      ∃ first between second older, reopenedTwice.log = [] ++ first :: between ++ second :: older ∧
        first.key = second.key ∧ first.writer = .recovererChain ∧ second.writer = .recovererChain :=
    ⟨_, [_], _, _, rfl, by decide, rfl, rfl⟩
  exact ⟨reachable_reopenedTwice, first, between, second, older, split, sameKey, firstChain,
    secondChain, recovererChain_updates_settle.2 _ reachable_reopenedTwice [] between older first
      second split sameKey firstChain secondChain⟩

/-! ## Fresh reads -/

/-- An iteration that reads the stored object, Recovering and on its node, and lists the
catalog, syncs that object, and its write, under the entry's key, is one the store takes. -/
theorem fresh_iteration_write (store : Store) (rc : RecovererChain) (entry : Abnormal)
    (outside : Env) (recoverers : List Recoverer) {current : Abnormal}
    (got : store.get entry.key = some current)
    (recovering : current.status.phase = abnormalRecovering)
    (onNode : isAbnormalNodeNameMatched current rc.nodeName = true) :
    runIteration (store.env outside store.read store.read_stale) rc entry =
        (syncAbnormal (store.env outside store.read store.read_stale) rc current).1 ∧
      (recoveryWrite (store.env outside store.read store.read_stale) rc recoverers current).key =
        entry.key ∧
      store.updated (recoveryWrite (store.env outside store.read store.read_stale) rc recoverers
        current) = some { current with status := (recoveryWrite (store.env outside store.read
          store.read_stale) rc recoverers current).status } := by
  have fetched : (store.env outside store.read store.read_stale).get entry.key = .ok current := by
    simp [Store.env, Store.read, got]
  have sameKey : (recoveryWrite (store.env outside store.read store.read_stale) rc recoverers
      current).key = entry.key := by
    rw [Abnormal.key_of_meta (recoveryWrite_meta ..)]
    exact store.key_of_mem_versions (store.get_mem_versions got)
  exact ⟨runIteration_of_stored _ rc entry fetched recovering onNode, sameKey,
    by simp [Store.updated, sameKey, got, recoveryWrite_meta]⟩

/-- **The version check refuses only stale work.** An iteration that reads the stored object,
Recovering and on its node, and lists the catalog, issues one update, which the store
accepts, with a terminal phase; nothing goes back to the queue. -/
theorem fresh_iteration_settles (store : Store) (rc : RecovererChain) (entry : Abnormal)
    (outside : Env) {current : Abnormal} {recoverers : List Recoverer}
    (got : store.get entry.key = some current)
    (recovering : current.status.phase = abnormalRecovering)
    (onNode : isAbnormalNodeNameMatched current rc.nodeName = true)
    (listed : outside.list = .ok recoverers) :
    Disposition.settled.Holds (store.env outside store.read store.read_stale) rc entry := by
  obtain ⟨iteration, -, accepted⟩ :=
    fresh_iteration_write store rc entry outside recoverers got recovering onNode
  have envListed : (store.env outside store.read store.read_stale).list = .ok recoverers := listed
  set write := recoveryWrite (store.env outside store.read store.read_stale) rc recoverers current
  have answer : (store.env outside store.read store.read_stale).statusUpdate write =
      .ok (Store.stamp (store.revision + 1) { current with status := write.status }) := by
    simp [Store.env, Store.statusUpdate, accepted]
  have fetched : (store.env outside store.read store.read_stale).get entry.key = .ok current := by
    simp [Store.env, Store.read, got]
  exact ⟨⟨current, fetched, recovering, onNode⟩,
    ⟨write, _, by simp [iteration, updates_syncAbnormal, envListed, write], answer,
      recoveryWrite_terminal ..⟩, by simp [iteration, queued_syncAbnormal, envListed, answer, write]⟩

theorem fresh_iteration_settles_broadcast :
    Disposition.settled.Holds
      (recoveringStore.env (echoEnv 0) recoveringStore.read recoveringStore.read_stale)
      agentChain (recoveringAbnormal []) :=
  fresh_iteration_settles recoveringStore agentChain (recoveringAbnormal []) (echoEnv 0)
    (by decide : recoveringStore.get (recoveringAbnormal []).key =
      some (Store.stamp 1 (recoveringAbnormal [])))
    (by decide) (by decide) rfl

/-! ## A node alone -/

/-- A node's `Run` working through `jobs` in order, with no other component writing. Each job
is an entry of the channel with the cluster its iteration meets: the catalog, the clock and the
processors' answers may differ from one iteration to the next. -/
def freshPass (rc : RecovererChain) : Store → List (Env × Abnormal) → Store
  | store, [] => store
  | store, job :: rest => freshPass rc (freshIteration rc job.1 store job.2) rest

/-- No object under `key` is Recovering on this node. -/
def Settled (rc : RecovererChain) (store : Store) (key : NamespacedName) : Prop :=
  ∀ current, store.get key = some current → current.status.phase = abnormalRecovering →
    isAbnormalNodeNameMatched current rc.nodeName = false

theorem reachable_freshPass (rc : RecovererChain) (jobs : List (Env × Abnormal)) :
    ∀ store, Reachable store → Reachable (freshPass rc store jobs) := by
  induction jobs with
  | nil => exact fun _ reachable => reachable
  | cons job rest ih =>
    exact fun store reachable =>
      ih _ (reachable.step (.iterate store rc job.2 job.1 store.read store.read_stale))

/-- A settling update leaves a fresh read as it was, or stores a terminal phase. -/
theorem get_commit_of_settles {store : Store} {write : Abnormal} (settles : Settles store write)
    (key : NamespacedName) :
    (store.commit write).get key = store.get key ∨
      ∃ object, (store.commit write).get key = some object ∧ Terminal object.status.phase := by
  rw [Store.get_commit]
  split
  · next object accepted =>
    obtain ⟨current, -, -, rfl⟩ := Store.updated_eq_some accepted
    split_ifs
    · exact .inr ⟨_, rfl, settles.1⟩
    · exact .inl rfl
  · exact .inl rfl

theorem Settled.commit {rc : RecovererChain} {store : Store} {key : NamespacedName}
    (settled : Settled rc store key) {write : Abnormal} (settles : Settles store write) :
    Settled rc (store.commit write) key := by
  intro current got recovering
  rcases get_commit_of_settles settles key with same | ⟨object, stored, terminal⟩
  · exact settled current (same ▸ got) recovering
  · rw [stored, Option.some.injEq] at got
    exact absurd (got ▸ recovering) terminal.ne_recovering

theorem Settled.foldl_commit {rc : RecovererChain} {key : NamespacedName} (writes : List Abnormal) :
    ∀ store, Settled rc store key → (∀ write ∈ writes, Settles store write) →
      Settled rc (writes.foldl Store.commit store) key := by
  induction writes with
  | nil => exact fun _ settled _ => settled
  | cons write rest ih =>
    exact fun store settled settle => ih _ (settled.commit (settle write (List.mem_cons_self _ _)))
      fun later member => (settle later (List.mem_cons_of_mem _ member)).commit write

/-- A settled key stays settled while the node works on. -/
theorem Settled.freshPass {rc : RecovererChain} {key : NamespacedName}
    (jobs : List (Env × Abnormal)) :
    ∀ store, Settled rc store key → Settled rc (Cluster.freshPass rc store jobs) key := by
  induction jobs with
  | nil => exact fun _ settled => settled
  | cons job rest ih =>
    exact fun store settled => ih _ (Settled.foldl_commit _ _ settled fun _ => settles_of_issued)

/-- An iteration with a fresh read and a listed catalog settles its entry's key. -/
theorem settled_freshIteration (rc : RecovererChain) (outside : Env) {recoverers : List Recoverer}
    (listed : outside.list = .ok recoverers) (store : Store) (entry : Abnormal) :
    Settled rc (freshIteration rc outside store entry) entry.key := by
  by_cases ready : ∃ current, store.get entry.key = some current ∧
      current.status.phase = abnormalRecovering ∧ isAbnormalNodeNameMatched current rc.nodeName
  · obtain ⟨current, got, recovering, onNode⟩ := ready
    obtain ⟨iteration, sameKey, accepted⟩ :=
      fresh_iteration_write store rc entry outside recoverers got recovering onNode
    have envListed : (store.env outside store.read store.read_stale).list = .ok recoverers := listed
    intro stored fetched
    simp only [freshIteration, iteration, updates_syncAbnormal, envListed, List.foldl_cons,
      List.foldl_nil, Store.get_commit, accepted, sameKey, if_true, Option.some.injEq] at fetched
    subst fetched
    exact fun recovering' => absurd recovering' (recoveryWrite_terminal ..).ne_recovering
  · have idle : runIteration (store.env outside store.read store.read_stale) rc entry = [] := by
      cases got : store.get entry.key with
      | none => simp [runIteration, Store.env, Store.read, got]
      | some current =>
        simp only [runIteration, Store.env, Store.read, got]
        split_ifs <;> simp_all
    intro current got recovering
    simp only [freshIteration, idle, updates_nil, List.foldl_nil] at got
    simpa using fun onNode => ready ⟨current, got, recovering, onNode⟩

/-- The same Abnormal twice: first with an empty catalog, then assigned two recoverers of a
catalog that lists them, at a later clock, the first unreachable and the second's answer
rejected. -/
def retriedJobs : List (Env × Abnormal) :=
  [(echoEnv 0, recoveringAbnormal []),
    ({ flakyEnv 1 with list := .ok [defaultRecoverer "r1", defaultRecoverer "r2"] },
      recoveringAbnormal [⟨"default", "r1"⟩, ⟨"default", "r2"⟩])]

end Kubediag.Cluster
