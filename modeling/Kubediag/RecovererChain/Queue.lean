/-
# Kubediag.RecovererChain.Queue — `Run` and `recovererChainCh`

`Run` is the one receiver of `recovererChainCh`. It takes an Abnormal and does the iteration's
work (`runIteration`); the iteration's last act is to hand back what it queued, through
`util.QueueAbnormal`. Other components send to the channel meanwhile. A Go channel of
capacity `c` holds at most `c` values, in order. `util.QueueAbnormal` is not among the
sources: as the spec has it, a send succeeds when the channel has room and otherwise fails,
which its callers only log, so it never blocks for good.

`apply` is what one action does, with the effects of the iteration it starts, or `none` where
the action cannot be taken; `Runs allowed s effects s'` is a run of actions `allowed` from `s`
to `s'` whose iterations do `effects`.

* `run_alone_in_order`: with no other sender, `Run` works through the buffered Abnormals front
  to back, one iteration each, and everything it hands back lands behind them. An iteration
  hands back at most one Abnormal, and its receive freed a slot for it.
* `handBack_dropped_reachable`: at every capacity, once other senders take the slot an
  iteration freed, the hand-back of the write the store refused is lost.
* `apply_effects`: only a receive or a handoff acts outside the channel, with the iteration on
  the Abnormal it takes; `Cluster.Deployment` takes that iteration as a step of the cluster.
-/
import Kubediag.RecovererChain.Run

namespace Kubediag.RecovererChain.Queue

open Kubediag.Api

set_option autoImplicit false

/-- Where `Run`'s goroutine is. -/
inductive Consumer where
  /-- In the select, waiting for an Abnormal or the stop signal. -/
  | waiting
  /-- At the end of an iteration, with `pending` still to hand to `util.QueueAbnormal`. -/
  | queueing (pending : List Abnormal)
  /-- Returned on the stop signal. -/
  | stopped
deriving DecidableEq, Repr

/-- Where `Run` goes once an iteration's work is done: into its `util.QueueAbnormal` calls, or
back to the select. -/
def Consumer.afterWork : List Abnormal → Consumer
  | [] => .waiting
  | pending => .queueing pending

structure State where
  capacity : Nat
  buffer : List Abnormal
  consumer : Consumer
  buffer_le : buffer.length ≤ capacity

inductive Action where
  /-- Another component's `util.QueueAbnormal` that finds room. -/
  | produce (abnormal : Abnormal)
  /-- `Run` takes the oldest buffered Abnormal and does the iteration's work in `env`. -/
  | receive (env : Env)
  /-- A sender hands `abnormal` straight to the waiting `Run`, which works on it in `env`. -/
  | handoff (abnormal : Abnormal) (env : Env)
  /-- `Run`'s next `util.QueueAbnormal` call returns. -/
  | queue
  /-- The stop signal, taken by the waiting `Run`. -/
  | stop

/-- The actions `Run`'s goroutine takes alone, with no other sender and no stop signal. -/
def Action.byRun : Action → Prop
  | .receive _ | .queue => True
  | .produce _ | .handoff _ _ | .stop => False

/-- `Run` once the caches synced, with an empty channel. -/
def State.init (capacity : Nat) : State := ⟨capacity, [], .waiting, Nat.zero_le _⟩

/-- A send into the buffer, if it has room; `Run` is then at `consumer`. -/
def State.push (s : State) (abnormal : Abnormal) (consumer : Consumer) : Option State :=
  if room : s.buffer.length < s.capacity then
    some ⟨s.capacity, s.buffer ++ [abnormal], consumer, by simp; omega⟩
  else none

/-- Modelled from the spec: `util.QueueAbnormal` called by `Run`. The send succeeds when the
channel has room; otherwise it fails, since the one receiver is the sender, and the failure is
only logged. `Run` moves on to `consumer` either way. -/
def State.queueAbnormal (s : State) (abnormal : Abnormal) (consumer : Consumer) : State :=
  (s.push abnormal consumer).getD { s with consumer := consumer }

def apply (rc : RecovererChain) (s : State) : Action → Option (List Effect × State)
  | .produce abnormal => (s.push abnormal s.consumer).map fun s' => ([], s')
  | .receive env =>
      match s.consumer, s.buffer.head? with
      | .waiting, some abnormal =>
          some (runIteration env rc abnormal,
            ⟨s.capacity, s.buffer.tail, .afterWork (queued (runIteration env rc abnormal)),
              by have := s.buffer_le; simp; omega⟩)
      | _, _ => none
  | .handoff abnormal env =>
      match s.consumer, s.buffer with
      | .waiting, [] =>
          some (runIteration env rc abnormal,
            { s with consumer := .afterWork (queued (runIteration env rc abnormal)) })
      | _, _ => none
  | .queue =>
      match s.consumer with
      | .queueing (abnormal :: pending) => some ([], s.queueAbnormal abnormal (.afterWork pending))
      | _ => none
  | .stop =>
      match s.consumer with
      | .waiting => some ([], { s with consumer := .stopped })
      | _ => none

/-- Runs of actions `allowed` from `s` to `s'`, whose iterations do `effects`. -/
inductive Runs (rc : RecovererChain) (allowed : Action → Prop) : State → List Effect → State → Prop
  | refl (s : State) : Runs rc allowed s [] s
  | step {s s' s'' : State} {effects rest : List Effect} (action : Action) : allowed action →
      apply rc s action = some (effects, s') → Runs rc allowed s' rest s'' →
      Runs rc allowed s (effects ++ rest) s''

section Runs

variable {rc : RecovererChain} {allowed : Action → Prop}

theorem Runs.trans {s s' s'' : State} {first second : List Effect}
    (run : Runs rc allowed s first s') (run' : Runs rc allowed s' second s'') :
    Runs rc allowed s (first ++ second) s'' := by
  induction run with
  | refl => exact run'
  | step action isAllowed applied _ rest =>
    rw [List.append_assoc]
    exact .step action isAllowed applied (rest run')

/-- One action as a run. -/
theorem Runs.single {s s' : State} {effects : List Effect} (action : Action)
    (isAllowed : allowed action) (applied : apply rc s action = some (effects, s')) :
    Runs rc allowed s effects s' := by
  simpa using Runs.step action isAllowed applied (.refl s')

end Runs

section Steps

variable (rc : RecovererChain)

/-- `Run` takes the oldest buffered Abnormal; the buffer keeps the rest. -/
theorem apply_receive (env : Env) {s : State} {entry : Abnormal} {rest : List Abnormal}
    (waiting : s.consumer = .waiting) (buffered : s.buffer = entry :: rest) :
    ∃ s', apply rc s (.receive env) = some (runIteration env rc entry, s') ∧
      s'.capacity = s.capacity ∧ s'.buffer = rest ∧
      s'.consumer = .afterWork (queued (runIteration env rc entry)) := by
  simp [apply, waiting, buffered]

/-- A hand-back of `Run` lands at the back of the channel when it has room. -/
theorem apply_queue_of_room {s : State} {abnormal : Abnormal} {pending : List Abnormal}
    (queueing : s.consumer = .queueing (abnormal :: pending)) (room : s.buffer.length < s.capacity) :
    ∃ s', apply rc s .queue = some ([], s') ∧ s'.capacity = s.capacity ∧
      s'.buffer = s.buffer ++ [abnormal] ∧ s'.consumer = .afterWork pending := by
  simp [apply, queueing, State.queueAbnormal, State.push, room]

/-- A hand-back of `Run` into a full channel is lost. -/
theorem apply_queue_of_full {s : State} {abnormal : Abnormal} {pending : List Abnormal}
    (queueing : s.consumer = .queueing (abnormal :: pending)) (full : s.buffer.length = s.capacity) :
    apply rc s .queue = some ([], { s with consumer := .afterWork pending }) := by
  simp [apply, queueing, State.queueAbnormal, State.push, full]

/-- **What an action does outside the channel.** Only a receive or a handoff does an iteration's
work, on the Abnormal it takes; the other actions do nothing outside the channel. -/
theorem apply_effects {s s' : State} {action : Action} {effects : List Effect}
    (applied : apply rc s action = some (effects, s')) :
    match action with
    | .receive env => ∃ entry, effects = runIteration env rc entry
    | .handoff entry env => effects = runIteration env rc entry
    | .produce _ | .queue | .stop => effects = [] := by
  cases action with
  | produce abnormal =>
    obtain ⟨_, -, same⟩ := Option.map_eq_some'.mp applied
    cases same
    rfl
  | receive env =>
    simp only [apply] at applied
    split at applied
    · next _ _ entry _ _ => cases applied; exact ⟨entry, rfl⟩
    · cases applied
  | handoff | queue | stop =>
    simp only [apply] at applied
    split at applied
    · cases applied; rfl
    · cases applied

/-- Other senders fill whatever room the channel has, whatever `Run` is doing. -/
theorem runs_fill (abnormal : Abnormal) (s : State) :
    ∀ room, s.buffer.length + room ≤ s.capacity →
      ∃ s', Runs rc (fun _ => True) s [] s' ∧ s'.capacity = s.capacity ∧
        s'.consumer = s.consumer ∧ s'.buffer.length = s.buffer.length + room
  | 0, _ => ⟨s, .refl s, rfl, rfl, rfl⟩
  | room + 1, fits => by
      obtain ⟨s', run, capacity, consumer, length⟩ := runs_fill abnormal s room (by omega)
      have pushed : apply rc s' (.produce abnormal) =
          some ([], ⟨s'.capacity, s'.buffer ++ [abnormal], s'.consumer, by simp; omega⟩) := by
        simp [apply, State.push]
        omega
      exact ⟨_, run.trans (.single _ trivial pushed), capacity, consumer, by simp [length]; omega⟩

end Steps

/-! ## `Run` alone -/

/-- **One iteration of `Run` alone.** It takes the oldest Abnormal and does the iteration's
work, and what it hands back lands at the back of the channel: at most one Abnormal, into the
slot its receive freed. -/
theorem iteration_alone (rc : RecovererChain) (env : Env) {s : State} {entry : Abnormal}
    {rest : List Abnormal} (waiting : s.consumer = .waiting) (buffered : s.buffer = entry :: rest) :
    ∃ s', Runs rc Action.byRun s (runIteration env rc entry) s' ∧ s'.capacity = s.capacity ∧
      s'.consumer = .waiting ∧ s'.buffer = rest ++ queued (runIteration env rc entry) := by
  have atMostOne := queued_runIteration_length_le env rc entry
  have fits : rest.length + 1 ≤ s.capacity := by simpa [buffered] using s.buffer_le
  obtain ⟨s₁, received, capacity₁, buffer₁, consumer₁⟩ := apply_receive rc env waiting buffered
  rcases handedBack : queued (runIteration env rc entry) with _ | ⟨abnormal, _ | ⟨_, _⟩⟩
  · rw [handedBack] at consumer₁
    exact ⟨s₁, .single (.receive env) trivial received, capacity₁, consumer₁, by simp [buffer₁]⟩
  · rw [handedBack] at consumer₁
    obtain ⟨s₂, queued₂, capacity₂, buffer₂, consumer₂⟩ :=
      apply_queue_of_room rc consumer₁ (by rw [buffer₁, capacity₁]; omega)
    have run : Runs rc Action.byRun s _ s₂ :=
      .step (.receive env) trivial received (.single .queue trivial queued₂)
    exact ⟨s₂, by simpa using run, by rw [capacity₂, capacity₁], consumer₂, by rw [buffer₂, buffer₁]⟩
  · rw [handedBack] at atMostOne
    simp at atMostOne

/-- **`Run` alone works through its channel in order.** With no other sender, from the select,
`Run` takes the buffered Abnormals front to back, in whatever cluster each iteration meets:
its effects are those iterations', one after another, and everything they hand back lands
behind what was buffered. `Run` never blocks on its own channel and loses no hand-back. -/
theorem run_alone_in_order (rc : RecovererChain) (jobs : List (Env × Abnormal)) (s : State)
    (rest : List Abnormal) (waiting : s.consumer = .waiting)
    (buffered : s.buffer = jobs.map Prod.snd ++ rest) :
    ∃ s', Runs rc Action.byRun s (jobs.flatMap fun job => runIteration job.1 rc job.2) s' ∧
      s'.capacity = s.capacity ∧ s'.consumer = .waiting ∧
      s'.buffer = rest ++ jobs.flatMap fun job => queued (runIteration job.1 rc job.2) := by
  induction jobs generalizing s rest with
  | nil => exact ⟨s, .refl s, rfl, waiting, by simpa using buffered⟩
  | cons job jobs ih =>
    obtain ⟨s₁, first, capacity₁, waiting₁, buffer₁⟩ := iteration_alone rc job.1 waiting buffered
    obtain ⟨s₂, others, capacity₂, waiting₂, buffer₂⟩ :=
      ih s₁ (rest ++ queued (runIteration job.1 rc job.2)) waiting₁ (by simp [buffer₁])
    exact ⟨s₂, by simpa using first.trans others, by rw [capacity₂, capacity₁], waiting₂,
      by simp [buffer₂]⟩

/-- A channel of capacity two holding two copies of the Recovering Abnormal of `refusingEnv`. -/
def twoRecovering : State :=
  ⟨2, [recoveringAbnormal [], recoveringAbnormal []], .waiting, Nat.le_refl 2⟩

/-- `Run` alone on two copies of one Abnormal: the first meets a store that refuses its write,
the second a store where the Abnormal is gone. -/
theorem run_alone_in_order_on_conflict :
    ∃ s', Runs agentChain Action.byRun twoRecovering
        ([(refusingEnv, recoveringAbnormal []), (echoEnv 0, recoveringAbnormal [])].flatMap
          fun job => runIteration job.1 agentChain job.2) s' ∧
      s'.capacity = twoRecovering.capacity ∧ s'.consumer = .waiting ∧
      s'.buffer = [(refusingEnv, recoveringAbnormal []), (echoEnv 0, recoveringAbnormal [])].flatMap
        fun job => queued (runIteration job.1 agentChain job.2) :=
  run_alone_in_order agentChain [(refusingEnv, recoveringAbnormal []), (echoEnv 0, recoveringAbnormal [])]
    twoRecovering [] rfl rfl

/-! ## Other senders -/

/-- In `refusingEnv`, an iteration on its Recovering Abnormal issues one write, which the store
refuses, and hands that write back. -/
theorem runIteration_refusingEnv (rc : RecovererChain) :
    updates (runIteration refusingEnv rc (recoveringAbnormal [])) =
        [recoveryWrite refusingEnv rc [] (recoveringAbnormal [])] ∧
      queued (runIteration refusingEnv rc (recoveringAbnormal [])) =
        [recoveryWrite refusingEnv rc [] (recoveringAbnormal [])] := by
  have fetched : refusingEnv.get (recoveringAbnormal []).key = .ok (recoveringAbnormal []) := by
    simp [refusingEnv]
  have onNode : Util.isAbnormalNodeNameMatched (recoveringAbnormal []) rc.nodeName = true := by
    simp [Util.isAbnormalNodeNameMatched, recoveringAbnormal]
  rw [runIteration_of_stored refusingEnv rc _ fetched rfl onNode]
  simp [updates_syncAbnormal, queued_syncAbnormal, refusingEnv, echoEnv]

/-- **A hand-back can be lost, at every capacity.** A sender hands `Run` a Recovering Abnormal
whose update the store refuses; while `Run` works on it, other senders fill the channel, and
the hand-back of the refused write finds no room: the channel is left as it was. -/
theorem handBack_dropped_reachable (rc : RecovererChain) (capacity : Nat) :
    ∃ effects s write s', Runs rc (fun _ => True) (State.init capacity) effects s ∧
      write ∈ updates effects ∧ s.consumer = .queueing [write] ∧
      apply rc s .queue = some ([], s') ∧ s'.consumer = .waiting ∧ s'.buffer = s.buffer := by
  obtain ⟨issued, handedBack⟩ := runIteration_refusingEnv rc
  have handedOff : apply rc (State.init capacity) (.handoff (recoveringAbnormal []) refusingEnv) =
      some (runIteration refusingEnv rc (recoveringAbnormal []),
        ⟨capacity, [], .queueing [recoveryWrite refusingEnv rc [] (recoveringAbnormal [])],
          Nat.zero_le _⟩) := by
    simp [apply, State.init, handedBack, Consumer.afterWork]
  obtain ⟨s, filled, sameCapacity, consumer, length⟩ := runs_fill rc (recoveringAbnormal [])
    ⟨capacity, [], .queueing [recoveryWrite refusingEnv rc [] (recoveringAbnormal [])], Nat.zero_le _⟩
    capacity (by simp)
  refine ⟨_, s, _, _, (Runs.single _ trivial handedOff).trans filled, by simp [issued], consumer,
    apply_queue_of_full rc consumer (by simp_all), rfl, rfl⟩

end Kubediag.RecovererChain.Queue
