/-
# Kubediag.Cluster.Store — the Abnormals' store, with resourceVersions

The API server as the recoverer chains see it: a log of accepted writes, newest first, each
stamped with a fresh `resourceVersion`. The object under a key is the newest write to it
(`Store.get`); every object the key ever held may still come back from a stale read
(`Store.versions`). A status update is accepted only when it carries the stored object's
`resourceVersion`, and then replaces that object's status (`Store.statusUpdate`,
`Store.commit`).

`Store` carries its invariants as fields: every logged object sits under its own key, and no
two logged objects share a `resourceVersion`. So a read and the stored object with the same
version are the same object (`Store.eq_of_version`), which is what makes a status update
based on a stale read fail.
-/
import Mathlib.Data.List.Nodup
import Kubediag.RecovererChain.Run

namespace Kubediag.Cluster

open Kubediag.Api

set_option autoImplicit false

/-- Who made a write: a recoverer chain's status update, or any other component. -/
inductive Writer where
  | recovererChain
  | other
deriving DecidableEq, Repr

/-- One accepted write: `object` stored under `key`, or `none` for a deletion. -/
structure Entry where
  writer : Writer
  key : NamespacedName
  object : Option Abnormal
deriving DecidableEq, Repr

/-- The objects a log holds, newest first. -/
def objects (log : List Entry) : List Abnormal := log.filterMap (·.object)

@[simp] theorem objects_nil : objects [] = [] := rfl

@[simp] theorem objects_cons (entry : Entry) (log : List Entry) :
    objects (entry :: log) = entry.object.toList ++ objects log := by
  cases h : entry.object <;> simp [objects, List.filterMap_cons, h]

theorem mem_objects {log : List Entry} {object : Abnormal} :
    object ∈ objects log ↔ ∃ entry ∈ log, entry.object = some object := by
  simp [objects]

structure Store where
  /-- The last `resourceVersion` handed out. -/
  revision : Nat
  /-- The accepted writes, newest first. -/
  log : List Entry
  key_eq : ∀ entry ∈ log, ∀ object, entry.object = some object → object.key = entry.key
  version_le : ∀ object ∈ objects log, object.meta.resourceVersion ≤ revision
  versions_nodup : ((objects log).map (·.meta.resourceVersion)).Nodup

namespace Store

def empty : Store :=
  ⟨0, [], fun _ member => (by cases member), fun _ member => (by cases member), List.nodup_nil⟩

/-- A fresh read: the newest write to the key. -/
def get (store : Store) (key : NamespacedName) : Option Abnormal :=
  (store.log.find? (·.key = key)).bind (·.object)

/-- Every object the key ever held: what a stale read may return. -/
def versions (store : Store) (key : NamespacedName) : List Abnormal :=
  objects (store.log.filter (·.key = key))

/-- An object as the store keeps it, under a new `resourceVersion`. -/
def stamp (revision : Nat) (object : Abnormal) : Abnormal :=
  { object with meta.resourceVersion := revision }

@[simp] theorem stamp_key (revision : Nat) (object : Abnormal) :
    (stamp revision object).key = object.key := rfl

@[simp] theorem stamp_status (revision : Nat) (object : Abnormal) :
    (stamp revision object).status = object.status := rfl

/-- Accept a write under `key`, with the next `resourceVersion`. -/
def record (store : Store) (writer : Writer) (key : NamespacedName) (object : Option Abnormal)
    (keyed : ∀ written, object = some written → written.key = key) : Store where
  revision := store.revision + 1
  log := ⟨writer, key, object.map (stamp (store.revision + 1))⟩ :: store.log
  key_eq := by
    rintro entry (_ | ⟨_, member⟩) stored found
    · obtain ⟨written, rfl, rfl⟩ := Option.map_eq_some'.mp found
      simpa using keyed written rfl
    · exact store.key_eq entry member stored found
  version_le := by
    intro stored member
    rw [objects_cons, List.mem_append] at member
    rcases member with fresh | old
    · obtain ⟨written, -, rfl⟩ := Option.map_eq_some'.mp (Option.mem_toList.mp fresh)
      simp [stamp]
    · exact Nat.le_succ_of_le (store.version_le stored old)
  versions_nodup := by
    cases object with
    | none => simpa using store.versions_nodup
    | some written =>
      simp only [objects_cons, Option.map_some', Option.toList_some, List.singleton_append,
        List.map_cons, List.nodup_cons, List.mem_map]
      refine ⟨?_, store.versions_nodup⟩
      rintro ⟨older, member, same⟩
      have := store.version_le older member
      simp [stamp] at same
      omega

@[simp] theorem record_log (store : Store) (writer : Writer) (key : NamespacedName)
    (object : Option Abnormal) (keyed : ∀ written, object = some written → written.key = key) :
    (store.record writer key object keyed).log =
      ⟨writer, key, object.map (stamp (store.revision + 1))⟩ :: store.log := rfl

/-- A record keeps every version a key held. -/
theorem versions_record (store : Store) (writer : Writer) (key : NamespacedName)
    (object : Option Abnormal) (keyed : ∀ written, object = some written → written.key = key)
    {key' : NamespacedName} {held : Abnormal} (member : held ∈ store.versions key') :
    held ∈ (store.record writer key object keyed).versions key' := by
  unfold versions at member ⊢
  rw [record_log]
  by_cases sameKey : key = key' <;> simp [sameKey, member]

section Reads

variable (store : Store)

theorem mem_objects_of_mem_versions {key : NamespacedName} {object : Abnormal}
    (member : object ∈ store.versions key) : object ∈ objects store.log := by
  obtain ⟨entry, member, found⟩ := mem_objects.mp member
  exact mem_objects.mpr ⟨entry, (List.mem_filter.mp member).1, found⟩

theorem key_of_mem_versions {key : NamespacedName} {object : Abnormal}
    (member : object ∈ store.versions key) : object.key = key := by
  obtain ⟨entry, member, found⟩ := mem_objects.mp member
  obtain ⟨logged, sameKey⟩ := List.mem_filter.mp member
  rw [store.key_eq entry logged object found]
  simpa using sameKey

theorem get_mem_versions {key : NamespacedName} {object : Abnormal}
    (got : store.get key = some object) : object ∈ store.versions key := by
  obtain ⟨entry, found, stored⟩ := Option.bind_eq_some.mp got
  have sameKey : entry.key = key := by simpa using List.find?_some found
  exact mem_objects.mpr ⟨entry, List.mem_filter.mpr ⟨List.mem_of_find?_eq_some found,
    decide_eq_true sameKey⟩, stored⟩

/-- Two objects the store held with the same `resourceVersion` are one object. -/
theorem eq_of_version {key key' : NamespacedName} {object object' : Abnormal}
    (member : object ∈ store.versions key) (member' : object' ∈ store.versions key')
    (sameVersion : object.meta.resourceVersion = object'.meta.resourceVersion) :
    object = object' :=
  List.inj_on_of_nodup_map store.versions_nodup (store.mem_objects_of_mem_versions member)
    (store.mem_objects_of_mem_versions member') sameVersion

end Reads

/-! ## Status updates -/

/-- The object a status update would store, when it carries the stored object's
`resourceVersion`: that object with the update's status. -/
def updated (store : Store) (write : Abnormal) : Option Abnormal :=
  (store.get write.key).bind fun current =>
    if write.meta.resourceVersion = current.meta.resourceVersion then
      some { current with status := write.status }
    else none

/-- `Status().Update` against the store: the object as stored, or a conflict. -/
def statusUpdate (store : Store) (write : Abnormal) : Except String Abnormal :=
  match store.updated write with
  | some object => .ok (stamp (store.revision + 1) object)
  | none => .error "the object has been modified; please apply your changes to the latest version and try again"

/-- The update accepted: the stored object was the one the update carries the version of. -/
theorem updated_eq_some {store : Store} {write object : Abnormal}
    (accepted : store.updated write = some object) :
    ∃ current, store.get write.key = some current ∧
      write.meta.resourceVersion = current.meta.resourceVersion ∧
      object = { current with status := write.status } := by
  obtain ⟨current, got, kept⟩ := Option.bind_eq_some.mp accepted
  split_ifs at kept with sameVersion
  exact ⟨current, got, sameVersion, (Option.some.inj kept).symm⟩

theorem updated_key {store : Store} {write object : Abnormal}
    (accepted : store.updated write = some object) : object.key = write.key := by
  obtain ⟨current, got, -, rfl⟩ := updated_eq_some accepted
  show current.key = write.key
  exact store.key_of_mem_versions (store.get_mem_versions got)

/-- A status update, applied to the store when it is accepted. -/
def commit (store : Store) (write : Abnormal) : Store :=
  match accepted : store.updated write with
  | some object =>
      store.record .recovererChain write.key (some object) fun _ same =>
        Option.some.inj same ▸ updated_key accepted
  | none => store

/-- What a commit does to the log: nothing, or one recoverer-chain entry on top. -/
theorem commit_log (store : Store) (write : Abnormal) :
    (store.commit write).log =
      match store.updated write with
      | some object =>
          ⟨.recovererChain, write.key, some (stamp (store.revision + 1) object)⟩ :: store.log
      | none => store.log := by
  unfold commit
  split <;> simp_all

/-- A fresh read after a commit: the committed object under the write's key, when the store
took it; otherwise what the key held. -/
theorem get_commit (store : Store) (write : Abnormal) (key : NamespacedName) :
    (store.commit write).get key =
      match store.updated write with
      | some object => if write.key = key then some (stamp (store.revision + 1) object)
          else store.get key
      | none => store.get key := by
  unfold get
  rw [commit_log]
  split
  · by_cases sameKey : write.key = key <;> simp [sameKey]
  · rfl

theorem versions_commit (store : Store) (write : Abnormal) {key : NamespacedName}
    {object : Abnormal} (member : object ∈ store.versions key) :
    object ∈ (store.commit write).versions key := by
  unfold versions at member ⊢
  rw [commit_log]
  split
  · by_cases sameKey : write.key = key <;> simp [sameKey, member]
  · exact member

end Store

end Kubediag.Cluster
