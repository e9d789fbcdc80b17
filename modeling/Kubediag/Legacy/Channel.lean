/-
# Kubediag.Legacy.Channel — the earlier `Run` and its own channel

The earlier `Run` syncs every Abnormal `ListAbnormals` returned, then ranges over
`recovererChainCh`, of which it is the one receiver. Other components send to the channel,
and its own `SyncAbnormal` sends back to it with the blocking `rc.recovererChainCh <- abnormal`,
in both loops. A Go channel of capacity `c` holds at most `c` values; a send blocks while it is
full, and on an unbuffered channel completes only against a waiting receiver.

`State` is the buffer, which carries `buffer.length ≤ capacity`, and where `Run` is: syncing
what is left of the start-up list (the range loop once it is empty), or in its own send.
`apply` is what one action does, `none` where the action is blocked; `Reachable allowed` are
the states a run of actions `allowed` admits reaches from `Run`'s start.

* `blocked_stuck`: once `Run` is in its own send with the channel full, no action is enabled:
  not its send, not a receive, not any producer's send.
* `blocked_reachable`: at every capacity that state is reachable: `Run` takes an Abnormal
  whose catalog listing fails, and producers fill the channel meanwhile.
* `startup_blocked_reachable`: at every capacity `Run` reaches it alone, in its start-up loop,
  with no producer at all.

`State.copies` are the Abnormals a chain holds and will sync: the rest of the start-up list,
the copy of its own send, and the buffer. The `apply_*_copies` lemmas say what each action does
to them: a send adds one, `Run`'s own send moves one, and a sync replaces the Abnormal it takes
by what `SyncAbnormal` sent back, at most one copy (`Legacy.sent_syncAbnormal_length_le`).
-/
import Kubediag.Legacy.Chain

namespace Kubediag.Legacy

open Kubediag.Api
open Kubediag.RecovererChain hiding syncAbnormal

set_option autoImplicit false

/-- Where `Run`'s goroutine is. -/
inductive Consumer where
  /-- In `Run`'s loops with `pending` of the start-up list still to sync: the start-up loop
  while it is non-empty, then the receive of `for abnormal := range rc.recovererChainCh`. -/
  | syncing (pending : List Abnormal)
  /-- In `rc.recovererChainCh <- abnormal` of `SyncAbnormal`, with `pending` still to sync. -/
  | sending (abnormal : Abnormal) (pending : List Abnormal)
deriving DecidableEq, Repr

structure State where
  capacity : Nat
  buffer : List Abnormal
  consumer : Consumer
  buffer_le : buffer.length ≤ capacity

inductive Action where
  /-- Another component's `recovererChainCh <- abnormal`. -/
  | produce (abnormal : Abnormal)
  /-- `Run` syncs the next Abnormal of its start-up list in `env`. -/
  | startup (env : Env)
  /-- `Run` takes the oldest buffered Abnormal and syncs it in `env`. -/
  | receive (env : Env)
  /-- A sender hands `abnormal` straight to the waiting `Run`, which syncs it in `env`. -/
  | handoff (abnormal : Abnormal) (env : Env)
  /-- `Run`'s own send completes. -/
  | resend

/-- The actions `Run`'s goroutine takes alone, with no other sender. -/
def Action.byRun : Action → Prop
  | .startup _ | .receive _ | .resend => True
  | .produce _ | .handoff _ _ => False

/-- `Run` after `ListAbnormals` returned `listed`, with an empty channel. -/
def State.init (capacity : Nat) (listed : List Abnormal) : State :=
  ⟨capacity, [], .syncing listed, Nat.zero_le _⟩

/-- Where `Run` is once `SyncAbnormal` has done its work: on to `pending`, or in the send of
the copy it hands back. -/
def afterSync (env : Env) (abnormal : Abnormal) (pending : List Abnormal) : Consumer :=
  match sent (syncAbnormal env abnormal).1 with
  | [] => .syncing pending
  | resent :: _ => .sending resent pending

/-- A send into the buffer, if it has room; `Run` is then at `consumer`. -/
def State.push (s : State) (abnormal : Abnormal) (consumer : Consumer) : Option State :=
  if room : s.buffer.length < s.capacity then
    some ⟨s.capacity, s.buffer ++ [abnormal], consumer, by simp; omega⟩
  else none

def apply (s : State) : Action → Option State
  | .produce abnormal => s.push abnormal s.consumer
  | .startup env =>
      match s.consumer with
      | .syncing (abnormal :: pending) => some { s with consumer := afterSync env abnormal pending }
      | _ => none
  | .receive env =>
      match s.consumer, s.buffer.head? with
      | .syncing [], some abnormal =>
          some ⟨s.capacity, s.buffer.tail, afterSync env abnormal [],
            by have := s.buffer_le; simp; omega⟩
      | _, _ => none
  | .handoff abnormal env =>
      match s.consumer, s.buffer with
      | .syncing [], [] => some { s with consumer := afterSync env abnormal [] }
      | _, _ => none
  | .resend =>
      match s.consumer with
      | .sending abnormal pending => s.push abnormal (.syncing pending)
      | .syncing _ => none

inductive Reachable (allowed : Action → Prop) : State → Prop
  | init (capacity : Nat) (listed : List Abnormal) : Reachable allowed (State.init capacity listed)
  | step {s s' : State} (action : Action) : allowed action → Reachable allowed s →
      apply s action = some s' → Reachable allowed s'

/-- `Run` in its own send while the channel is full. -/
def Blocked (s : State) : Prop :=
  (∃ resent pending, s.consumer = .sending resent pending) ∧ s.buffer.length = s.capacity

theorem push_full {s : State} (full : s.buffer.length = s.capacity) (abnormal : Abnormal)
    (consumer : Consumer) : s.push abnormal consumer = none := by
  simp [State.push, full]

/-- `Run`'s start-up step on the next Abnormal of its list. -/
theorem apply_startup {s : State} {abnormal : Abnormal} {pending : List Abnormal}
    (consumer : s.consumer = .syncing (abnormal :: pending)) (env : Env) :
    apply s (.startup env) = some { s with consumer := afterSync env abnormal pending } := by
  simp [apply, consumer]

/-- `Run`'s own send completes while the channel has room. -/
theorem apply_resend (s : State) (resent : Abnormal) (pending : List Abnormal)
    (room : s.buffer.length < s.capacity) :
    apply { s with consumer := .sending resent pending } .resend =
      some ⟨s.capacity, s.buffer ++ [resent], .syncing pending, by simp; omega⟩ := by
  simp [apply, State.push, room]

/-- Nothing moves a blocked state: `Run` can only be woken by a receive, which only `Run`
makes. -/
theorem blocked_stuck {s : State} (blocked : Blocked s) (action : Action) : apply s action = none := by
  obtain ⟨⟨resent, pending, sending⟩, full⟩ := blocked
  cases action <;> simp [apply, sending, push_full full]

/-! ## The copies a chain holds -/

/-- The Abnormals `Run` holds outside the buffer: the rest of its start-up list, and the copy of
its own send. -/
def Consumer.copies : Consumer → List Abnormal
  | .syncing pending => pending
  | .sending resent pending => resent :: pending

/-- Every Abnormal a chain holds and will sync: `Run`'s own, then the buffer's. -/
def State.copies (s : State) : List Abnormal := s.consumer.copies ++ s.buffer

@[simp] theorem copies_init (capacity : Nat) (listed : List Abnormal) :
    (State.init capacity listed).copies = listed := by
  simp [State.copies, State.init, Consumer.copies]

/-- After a sync, `Run` holds what `SyncAbnormal` sent back, then what it held before. -/
theorem copies_afterSync (env : Env) (abnormal : Abnormal) (pending : List Abnormal) :
    (afterSync env abnormal pending).copies = sent (syncAbnormal env abnormal).1 ++ pending := by
  have atMostOne := sent_syncAbnormal_length_le env abnormal
  unfold afterSync
  split
  · next none => simp [Consumer.copies, none]
  · next resent rest one =>
    have single : rest = [] := List.length_eq_zero.mp (by simpa [one] using atMostOne)
    simp [Consumer.copies, one, single]

/-- A producer's send adds its Abnormal to what the chain holds. -/
theorem apply_produce_copies {s s' : State} {abnormal : Abnormal}
    (applied : apply s (.produce abnormal) = some s') : s'.copies = s.copies ++ [abnormal] := by
  simp only [apply, State.push] at applied
  split at applied
  · cases applied; simp [State.copies]
  · cases applied

/-- `Run`'s own send moves its copy into the buffer. -/
theorem apply_resend_copies {s s' : State} (applied : apply s .resend = some s') :
    s'.copies.Perm s.copies := by
  simp only [apply] at applied
  split at applied
  · next resent pending sending =>
    simp only [State.push] at applied
    split at applied
    · cases applied
      simpa [State.copies, sending, Consumer.copies] using
        List.perm_append_singleton resent (pending ++ s.buffer)
    · cases applied
  · cases applied

/-- The start-up step syncs the head of the start-up list; it holds what `SyncAbnormal` sent
back in its place. -/
theorem apply_startup_copies {s s' : State} {env : Env} {abnormal : Abnormal}
    {pending : List Abnormal} (consumer : s.consumer = .syncing (abnormal :: pending))
    (applied : apply s (.startup env) = some s') :
    s.copies = abnormal :: (pending ++ s.buffer) ∧
      s'.copies = sent (syncAbnormal env abnormal).1 ++ (pending ++ s.buffer) := by
  rw [apply_startup consumer] at applied
  cases applied
  simp only [State.copies, copies_afterSync, consumer]
  simp [Consumer.copies]

/-- A receive syncs the oldest buffered Abnormal; the chain holds what `SyncAbnormal` sent back
in its place. -/
theorem apply_receive_copies {s s' : State} {env : Env} {abnormal : Abnormal}
    (head : s.buffer.head? = some abnormal) (applied : apply s (.receive env) = some s') :
    s.copies = abnormal :: s.buffer.tail ∧
      s'.copies = sent (syncAbnormal env abnormal).1 ++ s.buffer.tail := by
  obtain ⟨rest, buffer⟩ := List.head?_eq_some_iff.mp head
  simp only [apply, buffer, List.head?_cons] at applied
  split at applied
  · next _ _ _ syncing same =>
    cases same
    cases applied
    simp only [State.copies, copies_afterSync, syncing, buffer]
    simp [Consumer.copies]
  · cases applied

/-- A handoff syncs the sender's Abnormal at once; the chain, which held nothing, holds what
`SyncAbnormal` sent back. -/
theorem apply_handoff_copies {s s' : State} {env : Env} {abnormal : Abnormal}
    (applied : apply s (.handoff abnormal env) = some s') :
    s.copies = [] ∧ s'.copies = sent (syncAbnormal env abnormal).1 := by
  simp only [apply] at applied
  split at applied
  · next syncing buffer =>
    cases applied
    simp only [State.copies, copies_afterSync, syncing, buffer]
    simp [Consumer.copies]
  · cases applied

/-- Producers can fill whatever room the channel has, whatever `Run` is doing. -/
theorem reachable_fill {s : State} (reachable : Reachable (fun _ => True) s) (abnormal : Abnormal) :
    ∀ room, s.buffer.length + room ≤ s.capacity →
      ∃ s', Reachable (fun _ => True) s' ∧ s'.capacity = s.capacity ∧ s'.consumer = s.consumer ∧
        s'.buffer.length = s.buffer.length + room
  | 0, _ => ⟨s, reachable, rfl, rfl, rfl⟩
  | room + 1, fits => by
      obtain ⟨s', reachable', capacity, consumer, length⟩ :=
        reachable_fill reachable abnormal room (by omega)
      have pushed : apply s' (.produce abnormal) =
          some ⟨s'.capacity, s'.buffer ++ [abnormal], s'.consumer, by simp; omega⟩ := by
        simp [apply, State.push]
        omega
      exact ⟨_, reachable'.step _ trivial pushed, capacity, consumer, by simp [length]; omega⟩

/-- A cluster whose catalog listing fails. -/
def unlistedEnv : Env :=
  { echoEnv 0 with list := .error "the cache is not started, can not read objects" }

theorem afterSync_unlisted (pending : List Abnormal) :
    afterSync unlistedEnv (recoveringAbnormal []) pending = .sending (recoveringAbnormal []) pending := by
  have resent : sent (syncAbnormal unlistedEnv (recoveringAbnormal [])).1 = [recoveringAbnormal []] := by
    decide
  simp [afterSync, resent]

/-- **`Run` can block on its own channel forever, at every capacity.** A producer hands `Run`
a Recovering Abnormal; the catalog listing fails, so `SyncAbnormal` sends it back; meanwhile
producers fill the channel. No action is enabled from there on. -/
theorem blocked_reachable (capacity : Nat) :
    ∃ s, Reachable (fun _ => True) s ∧ s.capacity = capacity ∧ Blocked s ∧
      ∀ action, apply s action = none := by
  have handedOff : apply (State.init capacity []) (.handoff (recoveringAbnormal []) unlistedEnv) =
      some ⟨capacity, [], .sending (recoveringAbnormal []) [], Nat.zero_le _⟩ := by
    simp [apply, State.init, afterSync_unlisted]
  obtain ⟨s, reachable, sameCapacity, consumer, length⟩ :=
    reachable_fill ((Reachable.init capacity []).step _ trivial handedOff) (recoveringAbnormal [])
      capacity (by simp)
  have blocked : Blocked s := ⟨⟨_, _, consumer⟩, by simp_all⟩
  exact ⟨s, reachable, sameCapacity, blocked, blocked_stuck blocked⟩

/-- The start-up loop over Recovering Abnormals whose catalog listing fails: each sync sends its
Abnormal back, and while the channel has room the send completes, one more in the buffer. -/
theorem startup_fill (capacity : Nat) :
    ∀ sent ≤ capacity, ∃ s,
      Reachable Action.byRun s ∧ s.capacity = capacity ∧ s.buffer.length = sent ∧
      s.consumer = .syncing (List.replicate (capacity + 1 - sent) (recoveringAbnormal []))
  | 0, _ => ⟨_, .init capacity (List.replicate (capacity + 1) (recoveringAbnormal [])), rfl, rfl, rfl⟩
  | sent + 1, fits => by
      obtain ⟨s, reachable, sameCapacity, length, consumer⟩ := startup_fill capacity sent (by omega)
      rw [show capacity + 1 - sent = capacity - sent + 1 by omega, List.replicate_succ] at consumer
      have synced := apply_startup consumer unlistedEnv
      rw [afterSync_unlisted] at synced
      have resent := apply_resend s (recoveringAbnormal [])
        (List.replicate (capacity - sent) (recoveringAbnormal [])) (by omega)
      exact ⟨_, (reachable.step (.startup unlistedEnv) trivial synced).step .resend trivial resent,
        sameCapacity, by simp [length], by rw [Nat.add_sub_add_right]⟩

/-- **`Run` can block itself before any producer sends, at every capacity.** When
`ListAbnormals` returns one Recovering Abnormal more than the channel holds and the catalog
listing fails, the start-up loop fills the channel with its own sends and blocks on the next,
by `Run`'s own actions alone; no action is enabled from there on. -/
theorem startup_blocked_reachable (capacity : Nat) :
    ∃ s, Reachable Action.byRun s ∧ s.capacity = capacity ∧ Blocked s ∧
      ∀ action, apply s action = none := by
  obtain ⟨s, reachable, sameCapacity, length, consumer⟩ := startup_fill capacity capacity le_rfl
  rw [Nat.add_sub_cancel_left, List.replicate_one] at consumer
  have synced := apply_startup consumer unlistedEnv
  rw [afterSync_unlisted] at synced
  have blocked : Blocked { s with consumer := .sending (recoveringAbnormal []) [] } :=
    ⟨⟨_, _, rfl⟩, by simp [length, sameCapacity]⟩
  exact ⟨_, reachable.step (.startup unlistedEnv) trivial synced, sameCapacity, blocked,
    blocked_stuck blocked⟩

end Kubediag.Legacy
