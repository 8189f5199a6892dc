import Mathlib.Data.List.Forall2
import RemoteLink.Library.Bytes
import RemoteLink.Library.HashMap
import RemoteLink.Server.Session

set_option autoImplicit false

/-!
# The in-memory device registry

Devices, their credentials and the index of public ids behind one mutex. A mutating operation works
on the tables under the lock and, once it has released it, writes a snapshot of them to the registry
file when there is one.

## Main definitions

* `Store`, `MemoryDeviceRepo` — the tables and the repository.
* `MemoryDeviceRepo.createDeviceLocked` and so on — what each operation does under the lock.
* `MemoryDeviceRepo.save` — the snapshot and the write of the file.
* `RepoOp`, `RepoOp.perform` — the mutating operations, with what the file system answers.
* `RepoOp.Alters` — the calls that change the tables before they save.

## Main results

* `RepoOp.locked_cases` — under the lock an operation either returns with nothing altered or goes on
  to save.
* `MemoryDeviceRepo.rotateRefreshLocked_cases` — what a rotation does.
* `repo_error_atomic` — an operation that fails leaves the tables as they were exactly when the file
  is written or the call had nothing to change.
-/

namespace RemoteLink.Repo

open RemoteLink.Library
open RemoteLink.Server (Time DeviceStatus)

/-! ## Rows -/

/-- A row of the device table. -/
structure Device where
  id : Int
  publicId : String
  displayName : Option String
  publicKey : Bytes
  passwordHash : Option String
  protocolVersionLast : Option Int
  createdAt : Time
  lastSeenAt : Option Time
  status : DeviceStatus
  deletedAt : Option Time
  deriving Repr, DecidableEq

/-- Stored credential hashes. -/
structure DeviceCredential where
  id : Int
  deviceId : Int
  tokenHash : String
  refreshTokenHash : String
  accessExpiresAt : Time
  expiresAt : Time
  revokedAt : Option Time
  createdAt : Time
  deriving Repr, DecidableEq

/-- The fields of a new device. -/
structure NewDevice where
  publicId : String
  displayName : Option String
  publicKey : Bytes
  protocolVersionLast : Option Int

/-- The fields of a new credential. -/
structure NewCredential where
  deviceId : Int
  tokenHash : String
  refreshTokenHash : String
  accessExpiresAt : Time
  expiresAt : Time

/-- Repository errors. -/
inductive RepoError where
  | notFound
  | conflict (reason : String)
  | staleCredential
  | internal (reason : String)
  deriving Repr, DecidableEq

/-- The text of a repository error. -/
def RepoError.display : RepoError → String
  | notFound => "not found"
  | conflict reason => "conflict: " ++ reason
  | staleCredential => "stale or invalid credential"
  | internal reason => "internal: " ++ reason

/-- Equality of digests that looks at every byte. -/
def tokenHashEq (a b : String) : Bool :=
  if (utf8 a).length ≠ (utf8 b).length then false
  else
    (((utf8 a).zip (utf8 b)).foldl (fun (diff : UInt8) xy => diff ||| (xy.1 ^^^ xy.2)) 0) == 0

/-- A credential as it is inserted. -/
def NewCredential.row (new : NewCredential) (id : Int) (createdAt : Time) : DeviceCredential :=
  ⟨id, new.deviceId, new.tokenHash, new.refreshTokenHash, new.accessExpiresAt, new.expiresAt, none,
    createdAt⟩

/-- A device as it is enrolled. -/
def NewDevice.row (new : NewDevice) (id : Int) (createdAt : Time) : Device :=
  ⟨id, new.publicId, new.displayName, new.publicKey, none, new.protocolVersionLast, createdAt, none,
    .active, none⟩

/-! ## Tables -/

/-- The tables. Every row is stored under its own id. -/
structure Store where
  devices : HashMap Int Device
  byPublicId : HashMap String Int
  credentials : HashMap Int DeviceCredential
  device_id : ∀ id d, devices.lookup id = some d → d.id = id
  credential_id : ∀ id c, credentials.lookup id = some c → c.id = id

namespace Store

/-- Tables without rows. -/
def empty : Store where
  devices := ∅
  byPublicId := ∅
  credentials := ∅
  device_id id d h := by
    rw [AList.lookup_empty] at h
    cases h
  credential_id id c h := by
    rw [AList.lookup_empty] at h
    cases h

/-- Write a device row. -/
def putDevice (s : Store) (d : Device) : Store where
  devices := s.devices.insert d.id d
  byPublicId := s.byPublicId
  credentials := s.credentials
  device_id id d' h := by
    rw [HashMap.lookup_insert_if] at h
    split_ifs at h with hid
    · rw [← Option.some.inj h, hid]
    · exact s.device_id id d' h
  credential_id := s.credential_id

/-- Write an entry of the public id index. -/
def putIndex (s : Store) (publicId : String) (id : Int) : Store :=
  { s with byPublicId := s.byPublicId.insert publicId id }

/-- Write a credential row. -/
def putCredential (s : Store) (c : DeviceCredential) : Store where
  devices := s.devices
  byPublicId := s.byPublicId
  credentials := s.credentials.insert c.id c
  device_id := s.device_id
  credential_id id c' h := by
    rw [HashMap.lookup_insert_if] at h
    split_ifs at h with hid
    · rw [← Option.some.inj h, hid]
    · exact s.credential_id id c' h

/-- Revoke the live credentials of a device. -/
def revokeDevice (s : Store) (deviceId : Int) (at_ : Time) : Store where
  devices := s.devices
  byPublicId := s.byPublicId
  credentials := s.credentials.mapVals fun _ c =>
    if c.deviceId = deviceId ∧ c.revokedAt = none then { c with revokedAt := some at_ } else c
  device_id := s.device_id
  credential_id id c' h := by
    rw [HashMap.lookup_mapVals, Option.map_eq_some_iff] at h
    obtain ⟨c, hc, rfl⟩ := h
    have hid := s.credential_id id c hc
    split_ifs
    · exact hid
    · exact hid

/-- The same devices, public ids and credentials. -/
structure Same (s t : Store) : Prop where
  devices : ∀ id, t.devices.lookup id = s.devices.lookup id
  byPublicId : ∀ publicId, t.byPublicId.lookup publicId = s.byPublicId.lookup publicId
  credentials : ∀ id, t.credentials.lookup id = s.credentials.lookup id

theorem Same.refl (s : Store) : s.Same s := ⟨fun _ => rfl, fun _ => rfl, fun _ => rfl⟩

/-- The first live credential with a refresh hash. -/
def liveByRefresh (s : Store) (refreshTokenHash : String) : Option DeviceCredential :=
  s.credentials.findValue fun c =>
    c.revokedAt.isNone && tokenHashEq c.refreshTokenHash refreshTokenHash

/-- The first live credential with an access hash. -/
def liveByAccess (s : Store) (tokenHash : String) : Option DeviceCredential :=
  s.credentials.findValue fun c => c.revokedAt.isNone && tokenHashEq c.tokenHash tokenHash

/-- A credential with its device. -/
def withDevice (s : Store) : Option DeviceCredential →
    Except RepoError (Option (Device × DeviceCredential))
  | some c =>
    match s.devices.lookup c.deviceId with
    | some device => .ok (some (device, c))
    | none => .error (.internal "credential orphan")
  | none => .ok none

end Store

/-! ## The repository -/

/-- The repository: the id counters, the tables and the path of the registry file. -/
structure MemoryDeviceRepo where
  nextDeviceId : Int
  nextCredId : Int
  inner : Store
  persistPath : Option String

/-- What the registry file holds. -/
structure PersistSnapshot where
  nextDeviceId : Int
  nextCredId : Int
  devices : List Device
  credentials : List DeviceCredential
  deriving Repr, DecidableEq

/-- What the file system answers to a save. -/
inductive Disk where
  | written
  | writeFailed (reason : String)
  | renameFailed (reason : String)
  deriving Repr, DecidableEq

/-- What a call does under the lock: it returns, or goes on to save and then returns a value. -/
inductive Locked (α : Type) where
  | returns (result : Except RepoError α)
  | saves (value : α)

namespace MemoryDeviceRepo

/-- An empty repository without a file. -/
def new : MemoryDeviceRepo := ⟨0, 0, .empty, none⟩

/-- The rows of the tables and the counters. -/
def snapshot (r : MemoryDeviceRepo) : PersistSnapshot where
  nextDeviceId := r.nextDeviceId
  nextCredId := r.nextCredId
  devices := r.inner.devices.entries.map Sigma.snd
  credentials := r.inner.credentials.entries.map Sigma.snd

/-- The repository of a snapshot. -/
def load (path : String) (snap : PersistSnapshot) : MemoryDeviceRepo where
  nextDeviceId := snap.nextDeviceId
  nextCredId := snap.nextCredId
  inner := snap.credentials.foldl Store.putCredential
    (snap.devices.foldl (fun s d => (s.putIndex d.publicId d.id).putDevice d) .empty)
  persistPath := some path

/-- Write a snapshot to the registry file: to a temporary file that then replaces it. -/
def save (r : MemoryDeviceRepo) (disk : Disk) : Except RepoError Unit :=
  match r.persistPath with
  | none => .ok ()
  | some _ =>
    match disk with
    | .written => .ok ()
    | .writeFailed e => .error (.internal ("write registry tmp: " ++ e))
    | .renameFailed e => .error (.internal ("replace registry: " ++ e))

/-- The end of a call after its work under the lock. -/
def finish {α : Type} (locked : Locked α × MemoryDeviceRepo) (disk : Disk) :
    Except RepoError α × MemoryDeviceRepo :=
  match locked.1 with
  | .returns result => (result, locked.2)
  | .saves value => ((locked.2.save disk).map fun () => value, locked.2)

variable (r : MemoryDeviceRepo)

/-- Force the status of a device, without saving. -/
def setStatus (publicId : String) (status : DeviceStatus) (now : Time) :
    Except RepoError Unit × MemoryDeviceRepo :=
  match r.inner.byPublicId.lookup publicId with
  | none => (.error .notFound, r)
  | some id =>
    match r.inner.devices.lookup id with
    | none => (.error .notFound, r)
    | some device =>
      let deletedAt := if status = .deleted then some now else device.deletedAt
      (.ok (), { r with inner := r.inner.putDevice { device with status, deletedAt } })

/-- Insert a credential of a known device. -/
def insertCredentialLocked (new : NewCredential) (createdAt : Time) :
    Except RepoError DeviceCredential × MemoryDeviceRepo :=
  match r.inner.devices.lookup new.deviceId with
  | none => (.error .notFound, r)
  | some _ =>
    let id := r.nextCredId + 1
    let cred := new.row id createdAt
    (.ok cred, { r with nextCredId := id, inner := r.inner.putCredential cred })

/-- Insert a device under a public id that is not taken. -/
def createDeviceLocked (new : NewDevice) (now : Time) : Locked Device × MemoryDeviceRepo :=
  match r.inner.byPublicId.lookup new.publicId with
  | some _ =>
    (.returns (.error (.conflict ("public_id " ++ new.publicId ++ " already exists"))), r)
  | none =>
    let id := r.nextDeviceId + 1
    let device := new.row id now
    (.saves device,
      { r with
        nextDeviceId := id
        inner := (r.inner.putIndex new.publicId id).putDevice device })

/-- Mark a device deleted; whether there is one. -/
def softDeleteLocked (publicId : String) (at_ : Time) : Locked Bool × MemoryDeviceRepo :=
  match r.inner.byPublicId.lookup publicId with
  | none => (.returns (.ok false), r)
  | some id =>
    match r.inner.devices.lookup id with
    | none => (.returns (.ok false), r)
    | some device =>
      if device.status = .deleted then (.returns (.ok true), r)
      else (.saves true,
        { r with
          inner := r.inner.putDevice { device with status := .deleted, deletedAt := some at_ } })

/-- Insert a credential. -/
def insertLocked (new : NewCredential) (now : Time) : Locked DeviceCredential × MemoryDeviceRepo :=
  match r.insertCredentialLocked new now with
  | (.ok cred, r') => (.saves cred, r')
  | (.error e, r') => (.returns (.error e), r')

/-- Consume a refresh credential and insert its replacement. -/
def rotateRefreshLocked (refreshTokenHash : String) (new : NewCredential) (now : Time) :
    Locked (Device × DeviceCredential) × MemoryDeviceRepo :=
  match (r.inner.liveByRefresh refreshTokenHash).map DeviceCredential.id with
  | none => (.returns (.error .staleCredential), r)
  | some oldId =>
    match r.inner.credentials.lookup oldId with
    | none => (.returns (.error .staleCredential), r)
    | some old =>
      if old.expiresAt < now then (.returns (.error .staleCredential), r)
      else match r.inner.devices.lookup old.deviceId with
        | none => (.returns (.error (.internal "credential orphan")), r)
        | some device =>
          if device.status ≠ .active then (.returns (.error .staleCredential), r)
          else if new.deviceId ≠ old.deviceId then
            (.returns (.error (.internal "rotate_refresh device_id mismatch")), r)
          else if old.revokedAt.isSome then (.returns (.error .staleCredential), r)
          else
            let revoked := { r with
              inner := r.inner.putCredential { old with revokedAt := some now } }
            match revoked.insertCredentialLocked new now with
            | (.error e, r') => (.returns (.error e), r')
            | (.ok inserted, r') =>
              (.saves (device, inserted),
                match r'.inner.devices.lookup old.deviceId with
                | some d =>
                  { r' with inner := r'.inner.putDevice { d with lastSeenAt := some now } }
                | none => r')

/-- Revoke a live credential. -/
def revokeCredentialLocked (credentialId : Int) (at_ : Time) : Locked Unit × MemoryDeviceRepo :=
  match r.inner.credentials.lookup credentialId with
  | none => (.returns (.error .notFound), r)
  | some cred =>
    if cred.revokedAt.isSome then (.returns (.error .notFound), r)
    else (.saves (), { r with
      inner := r.inner.putCredential { cred with revokedAt := some at_ } })

/-- Revoke every live credential of a device. -/
def revokeAllForDeviceLocked (deviceId : Int) (at_ : Time) : Locked Unit × MemoryDeviceRepo :=
  (.saves (), { r with inner := r.inner.revokeDevice deviceId at_ })

/-- Note when a device was last seen. -/
def touchLastSeenLocked (deviceId : Int) (at_ : Time) : Locked Unit × MemoryDeviceRepo :=
  match r.inner.devices.lookup deviceId with
  | none => (.returns (.error .notFound), r)
  | some device =>
    (.saves (), { r with inner := r.inner.putDevice { device with lastSeenAt := some at_ } })

/-- The live credential with an access hash, and its device. -/
def findByAccessHash (tokenHash : String) : Except RepoError (Option (Device × DeviceCredential)) :=
  r.inner.withDevice (r.inner.liveByAccess tokenHash)

/-- The live credential with a refresh hash, and its device. -/
def findByRefreshHash (refreshTokenHash : String) :
    Except RepoError (Option (Device × DeviceCredential)) :=
  r.inner.withDevice (r.inner.liveByRefresh refreshTokenHash)

end MemoryDeviceRepo

/-! ## Mutating operations -/

/-- A call of a mutating operation, with the time it reads. -/
inductive RepoOp where
  | createDevice (new : NewDevice) (now : Time)
  | softDelete (publicId : String) (now : Time)
  | insertCredential (new : NewCredential) (now : Time)
  | rotateRefresh (refreshTokenHash : String) (new : NewCredential) (now : Time)
  | revokeCredential (credentialId : Int) (now : Time)
  | revokeAllForDevice (deviceId : Int) (now : Time)
  | touchLastSeen (deviceId : Int) (now : Time)
  | setStatus (publicId : String) (status : DeviceStatus) (now : Time)

/-- A refresh hash is that of a live and unexpired credential of an active device, the device of its
replacement. -/
structure MemoryDeviceRepo.Rotates (r : MemoryDeviceRepo) (refreshTokenHash : String)
    (new : NewCredential) (now : Time) (old : DeviceCredential) (device : Device) : Prop where
  live : r.inner.liveByRefresh refreshTokenHash = some old
  unexpired : now ≤ old.expiresAt
  known : r.inner.devices.lookup old.deviceId = some device
  active : device.status = .active
  sameDevice : new.deviceId = old.deviceId

/-- The operations that save what they alter: all but the one for tests. -/
def RepoOp.isSaved : RepoOp → Bool
  | setStatus _ _ _ => false
  | _ => true

/-- The work of a call under the lock without its value. -/
def Locked.forget {α : Type} (locked : Locked α × MemoryDeviceRepo) :
    Locked Unit × MemoryDeviceRepo :=
  match locked.1 with
  | .returns result => (.returns (result.map fun _ => ()), locked.2)
  | .saves _ => (.saves (), locked.2)

namespace RepoOp

/-- What a call does under the lock. -/
def locked (r : MemoryDeviceRepo) : RepoOp → Locked Unit × MemoryDeviceRepo
  | createDevice new now => Locked.forget (r.createDeviceLocked new now)
  | softDelete publicId now => Locked.forget (r.softDeleteLocked publicId now)
  | insertCredential new now => Locked.forget (r.insertLocked new now)
  | rotateRefresh hash new now => Locked.forget (r.rotateRefreshLocked hash new now)
  | revokeCredential credentialId now => r.revokeCredentialLocked credentialId now
  | revokeAllForDevice deviceId now => r.revokeAllForDeviceLocked deviceId now
  | touchLastSeen deviceId now => r.touchLastSeenLocked deviceId now
  | setStatus publicId status now =>
    (.returns (r.setStatus publicId status now).1, (r.setStatus publicId status now).2)

/-- A whole call. -/
def perform (op : RepoOp) (r : MemoryDeviceRepo) (disk : Disk) :
    Except RepoError Unit × MemoryDeviceRepo :=
  MemoryDeviceRepo.finish (op.locked r) disk

/-- **The calls that alter the tables before they save**: an enrolment under a new public id, the
deletion of a device that is not deleted, a new credential of a known device, a rotation of a live
and unexpired refresh credential of an active device, the revocation of something live, and a new
time. A row that is written over an equal one alters nothing. -/
def Alters (r : MemoryDeviceRepo) : RepoOp → Prop
  | createDevice new _ => r.inner.byPublicId.lookup new.publicId = none
  | softDelete publicId _ => ∃ id d, r.inner.byPublicId.lookup publicId = some id ∧
      r.inner.devices.lookup id = some d ∧ d.status ≠ .deleted
  | insertCredential new now => (r.inner.devices.lookup new.deviceId).isSome ∧
      r.inner.credentials.lookup (r.nextCredId + 1) ≠ some (new.row (r.nextCredId + 1) now)
  | rotateRefresh hash new now => ∃ old d, r.Rotates hash new now old d ∧
      ¬(old = new.row (r.nextCredId + 1) now ∧ d.lastSeenAt = some now)
  | revokeCredential credentialId _ => ∃ c, r.inner.credentials.lookup credentialId = some c ∧
      c.revokedAt = none
  | revokeAllForDevice deviceId _ => ∃ id c, r.inner.credentials.lookup id = some c ∧
      c.deviceId = deviceId ∧ c.revokedAt = none
  | touchLastSeen deviceId now => ∃ d, r.inner.devices.lookup deviceId = some d ∧
      d.lastSeenAt ≠ some now
  | setStatus _ _ _ => False

end RepoOp

/-! ## What a call does to the tables -/

/-- A fold of differences is zero when there is none. -/
theorem foldl_xor_eq_zero (l : List (UInt8 × UInt8)) (diff : UInt8) :
    l.foldl (fun diff xy => diff ||| (xy.1 ^^^ xy.2)) diff = 0 ↔
      diff = 0 ∧ ∀ xy ∈ l, xy.1 = xy.2 := by
  induction l generalizing diff with
  | nil => simp
  | cons xy l ih =>
    rw [List.foldl_cons, ih, UInt8.or_eq_zero_iff, UInt8.xor_eq_zero_iff, List.forall_mem_cons,
      and_assoc]

/-- Digests are compared for equality. -/
theorem tokenHashEq_iff {a b : String} : tokenHashEq a b = true ↔ a = b := by
  unfold tokenHashEq
  constructor
  · intro h
    split_ifs at h with hlen
    obtain ⟨-, hall⟩ := (foldl_xor_eq_zero _ _).mp (eq_of_beq h)
    have hforall : List.Forall₂ (· = ·) (utf8 a) (utf8 b) :=
      List.forall₂_iff_zip.mpr ⟨not_not.mp hlen, fun {x y} hxy => hall (x, y) hxy⟩
    rw [List.forall₂_eq_eq_eq] at hforall
    exact utf8_injective hforall
  · rintro rfl
    rw [if_neg (not_not.mpr rfl)]
    refine beq_iff_eq.mpr ((foldl_xor_eq_zero _ _).mpr ⟨rfl, fun xy hxy => ?_⟩)
    have hforall : List.Forall₂ (· = ·) (utf8 a) (utf8 a) := by
      rw [List.forall₂_eq_eq_eq]
    exact (List.forall₂_iff_zip.mp hforall).2 hxy

namespace Store

variable {s : Store}

theorem lookup_putDevice (d : Device) (id : Int) :
    (s.putDevice d).devices.lookup id = if id = d.id then some d else s.devices.lookup id :=
  HashMap.lookup_insert_if _ _ _ _

theorem lookup_putCredential (c : DeviceCredential) (id : Int) :
    (s.putCredential c).credentials.lookup id =
      if id = c.id then some c else s.credentials.lookup id :=
  HashMap.lookup_insert_if _ _ _ _

/-- Writing a device row changes nothing when the row is there. -/
theorem same_putDevice {d : Device} : s.Same (s.putDevice d) ↔
    s.devices.lookup d.id = some d := by
  constructor
  · intro h
    rw [← h.devices d.id, lookup_putDevice, if_pos rfl]
  · intro h
    refine ⟨fun id => ?_, fun _ => rfl, fun _ => rfl⟩
    rw [lookup_putDevice]
    split_ifs with hid
    · rw [hid, h]
    · rfl

/-- Writing a credential row changes nothing when the row is there. -/
theorem same_putCredential {c : DeviceCredential} : s.Same (s.putCredential c) ↔
    s.credentials.lookup c.id = some c := by
  constructor
  · intro h
    rw [← h.credentials c.id, lookup_putCredential, if_pos rfl]
  · intro h
    refine ⟨fun _ => rfl, fun _ => rfl, fun id => ?_⟩
    rw [lookup_putCredential]
    split_ifs with hid
    · rw [hid, h]
    · rfl

theorem lookup_revokeDevice (deviceId : Int) (now : Time) (id : Int) :
    (s.revokeDevice deviceId now).credentials.lookup id =
      (s.credentials.lookup id).map fun c => if c.deviceId = deviceId ∧ c.revokedAt = none then
        { c with revokedAt := some now } else c :=
  HashMap.lookup_mapVals _ _ _

/-- Revoking the credentials of a device changes nothing when none is live. -/
theorem same_revokeDevice {deviceId : Int} {now : Time} : s.Same (s.revokeDevice deviceId now) ↔
    ∀ id c, s.credentials.lookup id = some c → c.deviceId = deviceId → c.revokedAt ≠ none := by
  constructor
  · intro h id c hc hdevice hlive
    have hsame := h.credentials id
    rw [lookup_revokeDevice, hc, Option.map_some, if_pos ⟨hdevice, hlive⟩] at hsame
    have hrevoked := congrArg DeviceCredential.revokedAt (Option.some.inj hsame)
    rw [hlive] at hrevoked
    cases hrevoked
  · intro h
    refine ⟨fun _ => rfl, fun _ => rfl, fun id => ?_⟩
    rw [lookup_revokeDevice]
    rcases hc : s.credentials.lookup id with _ | c
    · rfl
    · rw [Option.map_some, if_neg fun hlive => h id c hc hlive.1 hlive.2]

/-- A credential that was found is live and stored under its id. -/
theorem liveByRefresh_some {hash : String} {c : DeviceCredential}
    (h : s.liveByRefresh hash = some c) :
    s.credentials.lookup c.id = some c ∧ c.revokedAt = none ∧ c.refreshTokenHash = hash := by
  obtain ⟨⟨id, hid⟩, htest⟩ := HashMap.findValue_some h
  obtain ⟨hlive, hhash⟩ := Bool.and_eq_true_iff.mp htest
  rw [s.credential_id id c hid]
  exact ⟨hid, Option.isNone_iff_eq_none.mp hlive, tokenHashEq_iff.mp hhash⟩

end Store

namespace MemoryDeviceRepo

variable (r : MemoryDeviceRepo)

/-- The repository after a device was enrolled. -/
def enrolled (device : Device) : MemoryDeviceRepo :=
  { r with
    nextDeviceId := device.id
    inner := (r.inner.putIndex device.publicId device.id).putDevice device }

/-- The repository after a credential was inserted. -/
def issued (cred : DeviceCredential) : MemoryDeviceRepo :=
  { r with nextCredId := cred.id, inner := r.inner.putCredential cred }

/-- The repository after a refresh credential was consumed. -/
def rotated (old cred : DeviceCredential) (device : Device) (now : Time) : MemoryDeviceRepo :=
  { r with
    nextCredId := cred.id
    inner := ((r.inner.putCredential { old with revokedAt := some now }).putCredential cred).putDevice
      { device with lastSeenAt := some now } }

/-- The repository after a device was marked deleted. -/
def marked (device : Device) (now : Time) : MemoryDeviceRepo :=
  { r with
    inner := r.inner.putDevice { device with status := .deleted, deletedAt := some now } }

/-- A call leaves what it did under the lock, whether it is saved or not. -/
@[simp] theorem finish_repo {α : Type} (locked : Locked α × MemoryDeviceRepo) (disk : Disk) :
    (finish locked disk).2 = locked.2 := by
  unfold finish
  split
  · rfl
  · rfl

/-- A call that returns a value has saved it, or returned it from under the lock. -/
theorem finish_ok {α : Type} {locked : Locked α × MemoryDeviceRepo} {disk : Disk} {value : α}
    (h : (finish locked disk).1 = .ok value) :
    locked.1 = .saves value ∨ locked.1 = .returns (.ok value) := by
  unfold finish at h
  split at h
  · rename_i result hreturns
    exact .inr (hreturns.trans (congrArg _ h))
  · rename_i saved hsaves
    rcases hsave : locked.2.save disk with e | _
    · rw [hsave] at h
      cases h
    · rw [hsave] at h
      exact .inl (hsaves.trans (congrArg _ (Except.ok.inj h)))

/-- A device is enrolled under a public id that is not taken. -/
theorem createDeviceLocked_cases (new : NewDevice) (now : Time) :
    (∃ e, r.createDeviceLocked new now = (.returns (.error e), r)) ∨
    r.inner.byPublicId.lookup new.publicId = none ∧ r.createDeviceLocked new now =
      (.saves (new.row (r.nextDeviceId + 1) now),
        r.enrolled (new.row (r.nextDeviceId + 1) now)) := by
  unfold createDeviceLocked
  rcases r.inner.byPublicId.lookup new.publicId with _ | id
  · exact .inr ⟨rfl, rfl⟩
  · exact .inl ⟨_, rfl⟩

/-- A credential is inserted when its device is known. -/
theorem insertCredentialLocked_cases (new : NewCredential) (now : Time) :
    r.inner.devices.lookup new.deviceId = none ∧
      r.insertCredentialLocked new now = (.error .notFound, r) ∨
    (r.inner.devices.lookup new.deviceId).isSome ∧ r.insertCredentialLocked new now =
      (.ok (new.row (r.nextCredId + 1) now), r.issued (new.row (r.nextCredId + 1) now)) := by
  unfold insertCredentialLocked
  rcases r.inner.devices.lookup new.deviceId with _ | device
  · exact .inl ⟨rfl, rfl⟩
  · exact .inr ⟨rfl, rfl⟩

/-- A deletion finds no device, one that is deleted, or marks it. -/
theorem softDeleteLocked_cases (publicId : String) (now : Time) :
    r.softDeleteLocked publicId now = (.returns (.ok false), r) ∨
    ∃ id d, r.inner.byPublicId.lookup publicId = some id ∧
      r.inner.devices.lookup id = some d ∧
      (d.status = .deleted ∧ r.softDeleteLocked publicId now = (.returns (.ok true), r) ∨
        d.status ≠ .deleted ∧ r.softDeleteLocked publicId now = (.saves true, r.marked d now)) := by
  unfold softDeleteLocked
  rcases r.inner.byPublicId.lookup publicId with _ | id
  · exact .inl rfl
  dsimp only
  rcases hd : r.inner.devices.lookup id with _ | d
  · exact .inl rfl
  dsimp only
  refine .inr ⟨id, d, rfl, hd, ?_⟩
  by_cases hdeleted : d.status = .deleted
  · exact .inl ⟨hdeleted, if_pos hdeleted⟩
  · exact .inr ⟨hdeleted, if_neg hdeleted⟩

/-- The devices after one was marked. -/
theorem marked_devices (device : Device) (now : Time) (id : Int) :
    (r.marked device now).inner.devices.lookup id =
      if id = device.id then some { device with status := .deleted, deletedAt := some now }
      else r.inner.devices.lookup id :=
  Store.lookup_putDevice _ id

/-- **A rotation** either fails with nothing changed, or revokes the credential it was given and
inserts the replacement. -/
theorem rotateRefreshLocked_cases (hash : String) (new : NewCredential) (now : Time) :
    (¬∃ old device, r.Rotates hash new now old device) ∧
      (∃ e, r.rotateRefreshLocked hash new now = (.returns (.error e), r)) ∨
    ∃ old device, r.Rotates hash new now old device ∧ r.rotateRefreshLocked hash new now =
      (.saves (device, new.row (r.nextCredId + 1) now),
        r.rotated old (new.row (r.nextCredId + 1) now) device now) := by
  unfold rotateRefreshLocked
  rcases hlive : r.inner.liveByRefresh hash with _ | old
  · refine .inl ⟨?_, _, rfl⟩
    rintro ⟨old, device, h⟩
    rw [h.live] at hlive
    cases hlive
  have honly : ∀ old' device, r.Rotates hash new now old' device → old' = old :=
    fun old' device h => Option.some.inj (h.live.symm.trans hlive)
  obtain ⟨hrow, hrevoked, -⟩ := Store.liveByRefresh_some hlive
  dsimp only [Option.map_some]
  rw [hrow]
  dsimp only
  by_cases hexpired : old.expiresAt < now
  · rw [if_pos hexpired]
    refine .inl ⟨?_, _, rfl⟩
    rintro ⟨old', device, h⟩
    obtain rfl := honly old' device h
    exact absurd h.unexpired (Int.not_le.mpr hexpired)
  rw [if_neg hexpired]
  rcases hdevice : r.inner.devices.lookup old.deviceId with _ | device
  · refine .inl ⟨?_, _, rfl⟩
    rintro ⟨old', device, h⟩
    obtain rfl := honly old' device h
    rw [h.known] at hdevice
    cases hdevice
  dsimp only
  by_cases hactive : device.status = .active
  swap
  · rw [if_pos hactive]
    refine .inl ⟨?_, _, rfl⟩
    rintro ⟨old', device', h⟩
    obtain rfl := honly old' device' h
    obtain rfl := Option.some.inj (h.known.symm.trans hdevice)
    exact hactive h.active
  rw [if_neg (not_not.mpr hactive)]
  by_cases hsame : new.deviceId = old.deviceId
  swap
  · rw [if_pos hsame]
    refine .inl ⟨?_, _, rfl⟩
    rintro ⟨old', device', h⟩
    obtain rfl := honly old' device' h
    exact hsame h.sameDevice
  rw [if_neg (not_not.mpr hsame), if_neg (by rw [hrevoked]; exact Bool.false_ne_true)]
  refine .inr ⟨old, device, ⟨hlive, Int.not_lt.mp hexpired, hdevice, hactive, hsame⟩, ?_⟩
  unfold insertCredentialLocked
  dsimp only [Store.putCredential]
  rw [hsame, hdevice]
  dsimp only
  rw [hdevice]
  rfl

/-- The credentials after a rotation. -/
theorem rotated_credentials (old cred : DeviceCredential) (device : Device) (now : Time) (id : Int) :
    (r.rotated old cred device now).inner.credentials.lookup id =
      if id = cred.id then some cred
      else if id = old.id then some { old with revokedAt := some now }
      else r.inner.credentials.lookup id := by
  show ((r.inner.putCredential _).putCredential _).credentials.lookup id = _
  rw [Store.lookup_putCredential, Store.lookup_putCredential]

/-- The devices after a rotation. -/
theorem rotated_devices (old cred : DeviceCredential) (device : Device) (now : Time) (id : Int) :
    (r.rotated old cred device now).inner.devices.lookup id =
      if id = device.id then some { device with lastSeenAt := some now }
      else r.inner.devices.lookup id :=
  Store.lookup_putDevice _ id

/-- A rotation revokes a credential, so it changes the tables unless it overwrites that credential
with an equal one. -/
theorem same_rotated {hash : String} {new : NewCredential} {now : Time} {old : DeviceCredential}
    {device : Device} (h : r.Rotates hash new now old device) :
    r.inner.Same (r.rotated old (new.row (r.nextCredId + 1) now) device now).inner ↔
      old = new.row (r.nextCredId + 1) now ∧ device.lastSeenAt = some now := by
  obtain ⟨hrow, hlive, -⟩ := Store.liveByRefresh_some h.live
  have hid := r.inner.device_id _ _ h.known
  constructor
  · intro hsame
    have hold := hsame.credentials old.id
    rw [rotated_credentials, hrow] at hold
    have hseen := hsame.devices device.id
    rw [rotated_devices, if_pos rfl, hid, h.known] at hseen
    refine ⟨?_, (congrArg Device.lastSeenAt (Option.some.inj hseen)).symm⟩
    by_cases hoverwrites : old.id = (new.row (r.nextCredId + 1) now).id
    · rw [if_pos hoverwrites] at hold
      exact (Option.some.inj hold).symm
    · rw [if_neg hoverwrites, if_pos rfl] at hold
      have hrevoked := congrArg DeviceCredential.revokedAt (Option.some.inj hold)
      rw [hlive] at hrevoked
      cases hrevoked
  · rintro ⟨heq, hseen⟩
    have holdId : old.id = (new.row (r.nextCredId + 1) now).id := congrArg DeviceCredential.id heq
    refine ⟨fun id => ?_, fun _ => rfl, fun id => ?_⟩
    · rw [rotated_devices]
      split_ifs with hdev
      · rw [hdev, show r.inner.devices.lookup device.id = some device from hid.symm ▸ h.known,
          ← hseen]
      · rfl
    · rw [rotated_credentials, holdId]
      split_ifs with hcred
      · rw [hcred, ← heq]
        exact hrow.symm
      · rfl

end MemoryDeviceRepo

namespace RepoOp

variable (r : MemoryDeviceRepo) (op : RepoOp)

/-- **What a call does under the lock**: it returns with nothing to alter, and with the tables as
they were when it fails or is one that would save, or it saves what it altered. -/
theorem locked_cases :
    (∃ result, (op.locked r).1 = .returns result ∧ ¬op.Alters r ∧
      (op.isSaved = true ∨ (∃ e, result = .error e) → (op.locked r).2 = r)) ∨
    ((op.locked r).1 = .saves () ∧ (r.inner.Same (op.locked r).2.inner ↔ ¬op.Alters r)) := by
  cases op with
  | createDevice new now =>
    dsimp only [locked, Alters, MemoryDeviceRepo.createDeviceLocked]
    rcases hindex : r.inner.byPublicId.lookup new.publicId with _ | id
    · refine .inr ⟨rfl, ⟨fun hsame => ?_, fun h => absurd rfl h⟩⟩
      have hpublic := hsame.byPublicId new.publicId
      rw [hindex] at hpublic
      exact absurd ((AList.lookup_insert _).symm.trans hpublic) (Option.some_ne_none _)
    · exact .inl ⟨_, rfl, Option.some_ne_none _, fun _ => rfl⟩
  | softDelete publicId now =>
    dsimp only [locked, Alters, MemoryDeviceRepo.softDeleteLocked]
    rcases hindex : r.inner.byPublicId.lookup publicId with _ | id
    · refine .inl ⟨_, rfl, ?_, fun _ => rfl⟩
      rintro ⟨id, d, hid, -⟩
      cases hid
    dsimp only
    rcases hdevice : r.inner.devices.lookup id with _ | device
    · refine .inl ⟨_, rfl, ?_, fun _ => rfl⟩
      rintro ⟨id', d, hid, hd, -⟩
      rw [← Option.some.inj hid, hdevice] at hd
      cases hd
    dsimp only
    by_cases hdeleted : device.status = .deleted
    · rw [if_pos hdeleted]
      refine .inl ⟨_, rfl, ?_, fun _ => rfl⟩
      rintro ⟨id', d, hid, hd, hstatus⟩
      rw [← Option.some.inj hid, hdevice] at hd
      exact hstatus (Option.some.inj hd ▸ hdeleted)
    · rw [if_neg hdeleted]
      refine .inr ⟨rfl, ⟨fun hsame => ?_, fun h => absurd ⟨id, device, rfl, hdevice, hdeleted⟩ h⟩⟩
      have hrow := Store.same_putDevice.mp hsame
      rw [show r.inner.devices.lookup device.id = some device from
        (r.inner.device_id id device hdevice).symm ▸ hdevice] at hrow
      exact absurd (congrArg Device.status (Option.some.inj hrow)) hdeleted
  | insertCredential new now =>
    dsimp only [locked, Alters, MemoryDeviceRepo.insertLocked]
    rcases r.insertCredentialLocked_cases new now with ⟨hunknown, heq⟩ | ⟨hknown, heq⟩
    · rw [heq, hunknown]
      exact .inl ⟨_, rfl, fun h => absurd h.1 Bool.false_ne_true, fun _ => rfl⟩
    · rw [heq]
      refine .inr ⟨rfl, Store.same_putCredential.trans ⟨fun hrow h => h.2 hrow, fun h => ?_⟩⟩
      exact not_not.mp fun hrow => h ⟨hknown, hrow⟩
  | rotateRefresh hash new now =>
    dsimp only [locked, Alters]
    rcases r.rotateRefreshLocked_cases hash new now with ⟨hnone, e, heq⟩ | ⟨old, d, hrot, heq⟩
    · rw [heq]
      exact .inl ⟨_, rfl, fun ⟨old, d, h, _⟩ => hnone ⟨old, d, h⟩, fun _ => rfl⟩
    · rw [heq]
      refine .inr ⟨rfl, (r.same_rotated hrot).trans ⟨?_, fun h => ?_⟩⟩
      · rintro hsame ⟨old', d', hrot', hne⟩
        obtain rfl := Option.some.inj (hrot'.live.symm.trans hrot.live)
        obtain rfl := Option.some.inj (hrot'.known.symm.trans hrot.known)
        exact hne hsame
      · exact not_not.mp fun hne => h ⟨old, d, hrot, hne⟩
  | revokeCredential credentialId now =>
    dsimp only [locked, Alters, MemoryDeviceRepo.revokeCredentialLocked]
    rcases hrow : r.inner.credentials.lookup credentialId with _ | c
    · refine .inl ⟨_, rfl, ?_, fun _ => rfl⟩
      rintro ⟨c, hc, -⟩
      cases hc
    dsimp only
    rcases hrevoked : c.revokedAt with _ | revokedAt
    · refine .inr ⟨rfl, ⟨fun hsame => ?_, fun h => absurd ⟨c, rfl, hrevoked⟩ h⟩⟩
      have hsame := Store.same_putCredential.mp hsame
      rw [show r.inner.credentials.lookup c.id = some c from
        (r.inner.credential_id _ c hrow).symm ▸ hrow] at hsame
      have hlive := congrArg DeviceCredential.revokedAt (Option.some.inj hsame)
      rw [hrevoked] at hlive
      cases hlive
    · refine .inl ⟨_, rfl, ?_, fun _ => rfl⟩
      rintro ⟨c', hc, hlive⟩
      rw [← Option.some.inj hc, hrevoked] at hlive
      cases hlive
  | revokeAllForDevice deviceId now =>
    refine .inr ⟨rfl, Store.same_revokeDevice.trans ⟨?_, fun h id c hc hdevice hlive => ?_⟩⟩
    · rintro h ⟨id, c, hc, hdevice, hlive⟩
      exact h id c hc hdevice hlive
    · exact h ⟨id, c, hc, hdevice, hlive⟩
  | touchLastSeen deviceId now =>
    dsimp only [locked, Alters, MemoryDeviceRepo.touchLastSeenLocked]
    rcases hrow : r.inner.devices.lookup deviceId with _ | d
    · refine .inl ⟨_, rfl, ?_, fun _ => rfl⟩
      rintro ⟨d, hd, -⟩
      cases hd
    · have hid := r.inner.device_id deviceId d hrow
      have hfound : r.inner.devices.lookup d.id = some d := hid.symm ▸ hrow
      refine .inr ⟨rfl, Store.same_putDevice.trans ?_⟩
      show r.inner.devices.lookup d.id = _ ↔ _
      rw [hfound]
      constructor
      · rintro hsame ⟨d', hd, hseen⟩
        rw [← Option.some.inj hd] at hseen
        exact hseen (congrArg Device.lastSeenAt (Option.some.inj hsame))
      · intro h
        have hseen : d.lastSeenAt = some now := not_not.mp fun hne => h ⟨d, rfl, hne⟩
        rw [← hseen]
  | setStatus publicId status now =>
    dsimp only [locked, Alters, MemoryDeviceRepo.setStatus]
    refine .inl ⟨_, rfl, not_false, ?_⟩
    rcases r.inner.byPublicId.lookup publicId with _ | id
    · exact fun _ => rfl
    dsimp only
    rcases r.inner.devices.lookup id with _ | device
    · exact fun _ => rfl
    · rintro (hsaved | ⟨e, he⟩)
      · cases hsaved
      · cases he

/-- No call changes whether there is a registry file. -/
theorem locked_persistPath : (op.locked r).2.persistPath = r.persistPath := by
  cases op with
  | createDevice new now =>
    dsimp only [locked, MemoryDeviceRepo.createDeviceLocked]
    rcases r.inner.byPublicId.lookup new.publicId with _ | id
    · rfl
    · rfl
  | softDelete publicId now =>
    dsimp only [locked, MemoryDeviceRepo.softDeleteLocked]
    rcases r.inner.byPublicId.lookup publicId with _ | id
    · rfl
    dsimp only
    rcases r.inner.devices.lookup id with _ | device
    · rfl
    dsimp only
    split_ifs
    · rfl
    · rfl
  | insertCredential new now =>
    dsimp only [locked, MemoryDeviceRepo.insertLocked]
    rcases r.insertCredentialLocked_cases new now with ⟨-, heq⟩ | ⟨-, heq⟩
    · rw [heq]
      rfl
    · rw [heq]
      rfl
  | rotateRefresh hash new now =>
    dsimp only [locked]
    rcases r.rotateRefreshLocked_cases hash new now with ⟨-, e, heq⟩ | ⟨old, d, -, heq⟩
    · rw [heq]
      rfl
    · rw [heq]
      rfl
  | revokeCredential credentialId now =>
    dsimp only [locked, MemoryDeviceRepo.revokeCredentialLocked]
    rcases r.inner.credentials.lookup credentialId with _ | c
    · rfl
    dsimp only
    split_ifs
    · rfl
    · rfl
  | revokeAllForDevice deviceId now => rfl
  | touchLastSeen deviceId now =>
    dsimp only [locked, MemoryDeviceRepo.touchLastSeenLocked]
    rcases r.inner.devices.lookup deviceId with _ | d
    · rfl
    · rfl
  | setStatus publicId status now =>
    dsimp only [locked, MemoryDeviceRepo.setStatus]
    rcases r.inner.byPublicId.lookup publicId with _ | id
    · rfl
    dsimp only
    rcases r.inner.devices.lookup id with _ | device
    · rfl
    · rfl

end RepoOp

/-- A save fails when there is a file and the file system refuses to write or to replace it. -/
theorem MemoryDeviceRepo.save_ok_iff (r : MemoryDeviceRepo) (disk : Disk) :
    r.save disk = .ok () ↔ r.persistPath = none ∨ disk = .written := by
  unfold save
  rcases r.persistPath with _ | path
  · exact ⟨fun _ => .inl rfl, fun _ => rfl⟩
  · cases disk with
    | written => exact ⟨fun _ => .inr rfl, fun _ => rfl⟩
    | writeFailed e => exact ⟨(nomatch ·), fun h => h.elim nofun nofun⟩
    | renameFailed e => exact ⟨(nomatch ·), fun h => h.elim nofun nofun⟩

/-- **Error atomicity of the repository.** A mutating operation leaves devices, credentials and
public ids as they were whenever it returns an error exactly when there is no registry file, the
file is written, or the call alters nothing.

**Proof sketch.** A call that returns from under the lock has altered nothing. One that goes on to
save fails exactly when the file system does, and the tables keep what it altered. -/
theorem repo_error_atomic (r : MemoryDeviceRepo) (op : RepoOp) (disk : Disk) :
    (∀ e, (op.perform r disk).1 = .error e → r.inner.Same (op.perform r disk).2.inner) ↔
      r.persistPath = none ∨ disk = .written ∨ ¬op.Alters r := by
  unfold RepoOp.perform MemoryDeviceRepo.finish
  rcases op.locked_cases r with ⟨result, hreturns, halters, herror⟩ | ⟨hsaves, hsame⟩
  · rw [hreturns]
    refine ⟨fun _ => .inr (.inr halters), fun _ e he => ?_⟩
    show r.inner.Same (op.locked r).2.inner
    rw [herror (.inr ⟨e, he⟩)]
    exact .refl _
  · rw [hsaves]
    have hpath := op.locked_persistPath r
    constructor
    · intro h
      by_contra hnone
      rw [not_or, not_or, ← hpath] at hnone
      obtain ⟨hfile, hdisk, halters⟩ := hnone
      rcases hsave : (op.locked r).2.save disk with e | _
      · refine halters (hsame.mp (h e ?_))
        show ((op.locked r).2.save disk).map _ = _
        rw [hsave]
        rfl
      · exact ((MemoryDeviceRepo.save_ok_iff _ _).mp hsave).elim hfile hdisk
    · intro h e he
      rcases or_assoc.mpr h with hwritten | halters
      · rw [← hpath] at hwritten
        have hsave := ((MemoryDeviceRepo.save_ok_iff _ _).mpr hwritten)
        dsimp only at he
        rw [hsave] at he
        cases he
      · exact hsame.mpr halters

/-- A repository with a file, one device and a live credential of it. -/
def demoRepo : MemoryDeviceRepo :=
  let device : NewDevice := ⟨"1234567897", none, [], none⟩
  let opened := { MemoryDeviceRepo.new with persistPath := some "registry.json" }
  ((RepoOp.insertCredential ⟨1, "at-1", "rt-1", 10, 20⟩ 0).perform
    ((RepoOp.createDevice device 0).perform opened .written).2 .written).2

/-- **A failed save does not take a rotation back**: the refresh credential is revoked, and its
replacement never reaches the client. -/
theorem failed_rotation_revokes :
    ¬∀ (r : MemoryDeviceRepo) (op : RepoOp) (disk : Disk) (e : RepoError),
      (op.perform r disk).1 = .error e → r.inner.Same (op.perform r disk).2.inner := by
  intro hclaim
  have hsame := hclaim demoRepo (.rotateRefresh "rt-1" ⟨1, "at-2", "rt-2", 15, 25⟩ 5)
    (.writeFailed "disk full") _ rfl
  have hrow := congrArg (Option.map DeviceCredential.revokedAt) (hsame.credentials 1)
  revert hrow
  decide +kernel

end RemoteLink.Repo
