/-
# Kubediag.Cluster.Deployment — each node's `Run` with its channel refines the cluster

`Cluster.Agents` takes an iteration on any entry as one step, so that the queues need no state
of their own. Here each node runs `recovererChain.Run` as `RecovererChain.Queue` has it: its
channel, the hand-backs of `util.QueueAbnormal`, the stop signal. The Get of an iteration is
answered by a version the key held, and its status update by the store. A `Deployment` is the
store and the nodes; other components write and delete Abnormals, send to the nodes' channels,
and start nodes.

* `Deployment.Step.store`: each step leaves the store as it was, or is a step of
  `Cluster.Step`: a receive or a handoff is `Cluster.Step.iterate` on the Abnormal it takes
  (`Queue.apply_effects`).
* `deployment_refines_cluster`: so the store of every reachable deployment is reachable in
  `Cluster.Agents`, and what is proved there of every reachable store holds of it.
-/
import Kubediag.Cluster.Agents
import Kubediag.RecovererChain.Queue

namespace Kubediag.Cluster

open Kubediag.Api Kubediag.RecovererChain

set_option autoImplicit false

/-- The store, and each node's chain with its channel. -/
structure Deployment where
  store : Store
  nodes : List (RecovererChain × Queue.State)

namespace Deployment

/-- What an action needs of the store: the Get of the iteration it starts is answered by a
version the key held, its status update by the store. -/
def Reads (store : Store) : Queue.Action → Prop
  | .receive env | .handoff _ env =>
      ∃ outside read, ∃ stale : StaleRead store read, env = store.env outside read stale
  | .produce _ | .queue | .stop => True

inductive Step : Deployment → Deployment → Prop
  | write (d : Deployment) (object : Abnormal) :
      Step d ⟨d.store.record .other object.key (some object) (fun _ same => by cases same; rfl),
        d.nodes⟩
  | delete (d : Deployment) (key : NamespacedName) :
      Step d ⟨d.store.record .other key none (fun _ absent => by cases absent), d.nodes⟩
  | start (d : Deployment) (rc : RecovererChain) (capacity : Nat) :
      Step d ⟨d.store, (rc, Queue.State.init capacity) :: d.nodes⟩
  | node (d : Deployment) {before after : List (RecovererChain × Queue.State)}
      {rc : RecovererChain} {node node' : Queue.State} {action : Queue.Action}
      {effects : List Effect} :
      d.nodes = before ++ (rc, node) :: after → Reads d.store action →
      Queue.apply rc node action = some (effects, node') →
      Step d ⟨(updates effects).foldl Store.commit d.store, before ++ (rc, node') :: after⟩

inductive Reachable : Deployment → Prop
  | empty : Reachable ⟨Store.empty, []⟩
  | step {d d' : Deployment} : Reachable d → Step d d' → Reachable d'

/-- **The step lemma of the refinement.** -/
theorem Step.store {d d' : Deployment} (step : Step d d') :
    d'.store = d.store ∨ Cluster.Step d.store d'.store := by
  cases step with
  | write object => exact .inr (.write _ object)
  | delete key => exact .inr (.delete _ key)
  | start => exact .inl rfl
  | node _ reads applied =>
    rename_i rc node node' action effects _
    have effected := Queue.apply_effects rc applied
    cases action with
    | receive env =>
      obtain ⟨outside, read, stale, rfl⟩ := reads
      obtain ⟨entry, rfl⟩ := effected
      exact .inr (.iterate _ rc entry outside read stale)
    | handoff entry env =>
      obtain ⟨outside, read, stale, rfl⟩ := reads
      exact .inr (effected ▸ .iterate _ rc entry outside read stale)
    | produce | queue | stop => exact .inl (by rw [effected]; rfl)

/-- `recoveringStore` with a node started, once the node has run an iteration on the
Abnormal handed to it, its Get answered fresh. -/
def handedOff : Deployment :=
  ⟨freshIteration agentChain (echoEnv 0) recoveringStore (recoveringAbnormal []),
    [(agentChain, { Queue.State.init 1 with
      consumer := .afterWork (queued (runIteration
        (recoveringStore.env (echoEnv 0) recoveringStore.read recoveringStore.read_stale)
        agentChain (recoveringAbnormal []))) })]⟩

theorem reachable_handedOff : Reachable handedOff :=
  ((Reachable.empty.step (.write _ (recoveringAbnormal []))).step (.start _ agentChain 1)).step
    (.node _ (show _ = [] ++ _ :: [] from rfl) (by exact ⟨echoEnv 0, _, Store.read_stale _, rfl⟩)
      (rfl : Queue.apply agentChain (Queue.State.init 1) (.handoff (recoveringAbnormal [])
        (recoveringStore.env (echoEnv 0) recoveringStore.read recoveringStore.read_stale)) = _))

end Deployment

/-- **Each node's `Run` with its channel refines the cluster model.** The store of every
reachable deployment, whatever the nodes' channels held and handed back, whenever they
stopped, is a reachable store of `Cluster.Agents`. -/
theorem deployment_refines_cluster (d : Deployment) (reachable : Deployment.Reachable d) :
    Reachable d.store := by
  induction reachable with
  | empty => exact .empty
  | step _ step ih =>
    rcases step.store with same | step
    · exact same ▸ ih
    · exact ih.step step

/-- After the node of `handedOff` has run its iteration. -/
theorem deployment_refines_cluster_after_handoff :
    Deployment.Reachable Deployment.handedOff ∧ Reachable Deployment.handedOff.store :=
  ⟨Deployment.reachable_handedOff, deployment_refines_cluster _ Deployment.reachable_handedOff⟩

end Kubediag.Cluster
