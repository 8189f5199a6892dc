import Mathlib.Logic.Function.Basic
import RemoteLink.Library.Runs
import RemoteLink.Repo.Memory

set_option autoImplicit false

/-!
# The device registry in Postgres

The registry of the migrations: a table of devices and one of credentials, with their keys. Every
method is a few SQL statements. A statement sees the rows that are committed when it starts; an
update that finds a row locked waits for the end of the transaction that holds it, and then looks at
the row again. All methods but one run each statement in a transaction of its own; a rotation locks
the credential that it replaces, and holds the lock to the end of its transaction.

## Main definitions

* `Database` — the tables and their sequences, with the constraints of the schema.
* `RepoCall`, `RepoValue` — the calls of a repository and what they return.
* `PgWorld`, `postgres` — the committed rows, the row locks and the calls under way, and all
  interleavings of their statements.

## Main results

* `Database.byPublicId_some`, `Database.joined_some` — what the queries find.
-/

namespace RemoteLink.Repo

open RemoteLink.Library
open RemoteLink.Server (Time DeviceStatus)

/-! ## Tables -/

/-- The tables with the values of their id sequences. Every row is stored under its own id, public
ids are unique, and every credential names a device. -/
structure Database where
  devices : HashMap Int Device
  credentials : HashMap Int DeviceCredential
  devicesIdSeq : Int
  credentialsIdSeq : Int
  device_id : ∀ id d, devices.lookup id = some d → d.id = id ∧ id ≤ devicesIdSeq
  credential_id : ∀ id c, credentials.lookup id = some c → c.id = id ∧ id ≤ credentialsIdSeq
  public_id_key : ∀ id d id' d', devices.lookup id = some d → devices.lookup id' = some d' →
    d.publicId = d'.publicId → id = id'
  device_id_fkey : ∀ id c, credentials.lookup id = some c → ∃ d, devices.lookup c.deviceId = some d

namespace Database

/-- Tables without rows. -/
def empty : Database where
  devices := ∅
  credentials := ∅
  devicesIdSeq := 0
  credentialsIdSeq := 0
  device_id _ _ h := by
    rw [AList.lookup_empty] at h
    cases h
  credential_id _ _ h := by
    rw [AList.lookup_empty] at h
    cases h
  public_id_key _ _ _ _ h := by
    rw [AList.lookup_empty] at h
    cases h
  device_id_fkey _ _ h := by
    rw [AList.lookup_empty] at h
    cases h

/-- `UPDATE devices`, of columns other than the id and the public id. -/
def updateDevices (db : Database) (f : Device → Device)
    (hf : ∀ d, (f d).id = d.id ∧ (f d).publicId = d.publicId) : Database where
  devices := db.devices.mapVals fun _ d => f d
  credentials := db.credentials
  devicesIdSeq := db.devicesIdSeq
  credentialsIdSeq := db.credentialsIdSeq
  device_id id d h := by
    rw [HashMap.lookup_mapVals, Option.map_eq_some_iff] at h
    obtain ⟨d, hd, rfl⟩ := h
    rw [(hf d).1]
    exact db.device_id id d hd
  credential_id := db.credential_id
  public_id_key id d id' d' h h' hkey := by
    rw [HashMap.lookup_mapVals, Option.map_eq_some_iff] at h h'
    obtain ⟨d, hd, rfl⟩ := h
    obtain ⟨d', hd', rfl⟩ := h'
    rw [(hf d).2, (hf d').2] at hkey
    exact db.public_id_key id d id' d' hd hd' hkey
  device_id_fkey id c h := by
    obtain ⟨d, hd⟩ := db.device_id_fkey id c h
    exact ⟨f d, by rw [HashMap.lookup_mapVals, hd]; rfl⟩

/-- `UPDATE device_credentials`, of columns other than the id and the device. -/
def updateCredentials (db : Database) (f : DeviceCredential → DeviceCredential)
    (hf : ∀ c, (f c).id = c.id ∧ (f c).deviceId = c.deviceId) : Database where
  devices := db.devices
  credentials := db.credentials.mapVals fun _ c => f c
  devicesIdSeq := db.devicesIdSeq
  credentialsIdSeq := db.credentialsIdSeq
  device_id := db.device_id
  credential_id id c h := by
    rw [HashMap.lookup_mapVals, Option.map_eq_some_iff] at h
    obtain ⟨c, hc, rfl⟩ := h
    rw [(hf c).1]
    exact db.credential_id id c hc
  public_id_key := db.public_id_key
  device_id_fkey id c h := by
    rw [HashMap.lookup_mapVals, Option.map_eq_some_iff] at h
    obtain ⟨c, hc, rfl⟩ := h
    rw [(hf c).2]
    exact db.device_id_fkey id c hc

/-- `nextval` of the ids of devices. -/
def nextDevice (db : Database) : Database :=
  { db with
    devicesIdSeq := db.devicesIdSeq + 1
    device_id := fun id d h =>
      ⟨(db.device_id id d h).1, by have := (db.device_id id d h).2; omega⟩ }

/-- `nextval` of the ids of credentials. -/
def nextCredential (db : Database) : Database :=
  { db with
    credentialsIdSeq := db.credentialsIdSeq + 1
    credential_id := fun id c h =>
      ⟨(db.credential_id id c h).1, by have := (db.credential_id id c h).2; omega⟩ }

/-- The device with a public id. -/
def byPublicId (db : Database) (publicId : String) : Option Device :=
  db.devices.findValue fun d => d.publicId = publicId

/-- The first credential that is not revoked and passes a test, joined with its device. -/
def joined (db : Database) (p : DeviceCredential → Bool) : Option (Device × DeviceCredential) :=
  match db.credentials.findValue fun c => c.revokedAt.isNone && p c with
  | some c => (db.devices.lookup c.deviceId).map fun d => (d, c)
  | none => none

/-- Insert a device under a public id that is not taken. -/
def insertDevice (db : Database) (new : NewDevice) (now : Time)
    (hkey : ∀ id d, db.devices.lookup id = some d → d.publicId ≠ new.publicId) : Database where
  devices := db.devices.insert (db.devicesIdSeq + 1) (new.row (db.devicesIdSeq + 1) now)
  credentials := db.credentials
  devicesIdSeq := db.devicesIdSeq + 1
  credentialsIdSeq := db.credentialsIdSeq
  device_id id d h := by
    rw [HashMap.lookup_insert_if] at h
    split_ifs at h with hid
    · subst hid
      rw [← Option.some.inj h]
      exact ⟨rfl, Int.le_refl _⟩
    · have hle := (db.device_id id d h).2
      exact ⟨(db.device_id id d h).1, by omega⟩
  credential_id := db.credential_id
  public_id_key id d id' d' h h' hsame := by
    rw [HashMap.lookup_insert_if] at h h'
    split_ifs at h h' with hid hid' hid'
    · rw [hid, hid']
    · rw [← Option.some.inj h] at hsame
      exact absurd hsame.symm (hkey id' d' h')
    · rw [← Option.some.inj h'] at hsame
      exact absurd hsame (hkey id d h)
    · exact db.public_id_key id d id' d' h h' hsame
  device_id_fkey id c h := by
    obtain ⟨d, hd⟩ := db.device_id_fkey id c h
    rw [HashMap.lookup_insert_if]
    split_ifs
    · exact ⟨_, rfl⟩
    · exact ⟨d, hd⟩

/-- Store a credential whose id has been drawn, for a device that exists. -/
def storeCredential (db : Database) (c : DeviceCredential)
    (hc : c.id ≤ db.credentialsIdSeq ∧ ∃ d, db.devices.lookup c.deviceId = some d) : Database where
  devices := db.devices
  credentials := db.credentials.insert c.id c
  devicesIdSeq := db.devicesIdSeq
  credentialsIdSeq := db.credentialsIdSeq
  device_id := db.device_id
  credential_id id c' h := by
    rw [HashMap.lookup_insert_if] at h
    split_ifs at h with hid
    · subst hid
      rw [← Option.some.inj h]
      exact ⟨rfl, hc.1⟩
    · exact db.credential_id id c' h
  public_id_key := db.public_id_key
  device_id_fkey id c' h := by
    rw [HashMap.lookup_insert_if] at h
    split_ifs at h with hid
    · rw [← Option.some.inj h]
      exact hc.2
    · exact db.device_id_fkey id c' h

/-- Mark a device deleted, unless it is. -/
def markDeleted (db : Database) (publicId : String) (at_ : Time) : Database :=
  db.updateDevices (fun d =>
    if d.publicId = publicId ∧ d.status ≠ .deleted then
      { d with status := .deleted, deletedAt := some at_ } else d)
    fun d => by split_ifs <;> exact ⟨rfl, rfl⟩

/-- Note when a device was last seen. -/
def touch (db : Database) (deviceId : Int) (at_ : Time) : Database :=
  db.updateDevices (fun d => if d.id = deviceId then { d with lastSeenAt := some at_ } else d)
    fun d => by split_ifs <;> exact ⟨rfl, rfl⟩

/-- Revoke those of some credentials that are not revoked. -/
def revoke (db : Database) (ids : List Int) (at_ : Time) : Database :=
  db.updateCredentials (fun c =>
    if c.id ∈ ids ∧ c.revokedAt = none then { c with revokedAt := some at_ } else c)
    fun c => by split_ifs <;> exact ⟨rfl, rfl⟩

/-- Whether a credential is there and not revoked. -/
def isLive (db : Database) (credentialId : Int) : Bool :=
  (db.credentials.lookup credentialId).any fun c => c.revokedAt.isNone

/-- The credentials of a device that are not revoked. -/
def liveIds (db : Database) (deviceId : Int) : List Int :=
  db.credentials.keysWhere fun _ c => c.deviceId = deviceId && c.revokedAt.isNone

variable {db : Database}

theorem byPublicId_some {publicId : String} {d : Device} (h : db.byPublicId publicId = some d) :
    db.devices.lookup d.id = some d ∧ d.publicId = publicId := by
  obtain ⟨⟨id, hid⟩, hkey⟩ := HashMap.findValue_some h
  rw [(db.device_id id d hid).1]
  exact ⟨hid, of_decide_eq_true hkey⟩

theorem byPublicId_none {publicId : String} (h : db.byPublicId publicId = none) (id : Int)
    (d : Device) (hd : db.devices.lookup id = some d) : d.publicId ≠ publicId := by
  have hnot := HashMap.findValue_eq_none.mp h id d hd
  simpa using hnot

/-- A credential that was joined is live, passes the test and names the device. -/
theorem joined_some {p : DeviceCredential → Bool} {d : Device} {c : DeviceCredential}
    (h : db.joined p = some (d, c)) :
    db.credentials.lookup c.id = some c ∧ c.revokedAt = none ∧ p c = true ∧
      db.devices.lookup c.deviceId = some d := by
  unfold joined at h
  split at h
  · rename_i c' hfound
    obtain ⟨⟨id, hid⟩, htest⟩ := HashMap.findValue_some hfound
    obtain ⟨hlive, hp⟩ := Bool.and_eq_true_iff.mp htest
    obtain ⟨d', hd, hpair⟩ := Option.map_eq_some_iff.mp h
    obtain ⟨rfl, rfl⟩ := Prod.mk.inj hpair
    refine ⟨?_, Option.isNone_iff_eq_none.mp hlive, hp, hd⟩
    rw [(db.credential_id id c' hid).1]
    exact hid
  · cases h

/-- No credential was joined: none that passes the test is live. -/
theorem joined_none {p : DeviceCredential → Bool} (h : db.joined p = none) (id : Int)
    (c : DeviceCredential) (hc : db.credentials.lookup id = some c) (hlive : c.revokedAt = none) :
    p c = false := by
  unfold joined at h
  split at h
  · rename_i c' hfound
    obtain ⟨⟨id', hid'⟩, -⟩ := HashMap.findValue_some hfound
    obtain ⟨d, hd⟩ := db.device_id_fkey id' c' hid'
    rw [hd] at h
    cases h
  · rename_i hnone
    have htest := HashMap.findValue_eq_none.mp hnone id c hc
    rwa [hlive] at htest

theorem mem_liveIds {deviceId id : Int} : id ∈ db.liveIds deviceId ↔
    ∃ c, db.credentials.lookup id = some c ∧ c.deviceId = deviceId ∧ c.revokedAt = none := by
  unfold liveIds
  rw [HashMap.mem_keysWhere]
  refine exists_congr fun c => and_congr_right fun _ => ?_
  rw [Bool.and_eq_true_iff, decide_eq_true_iff, Option.isNone_iff_eq_none]

theorem isLive_iff {credentialId : Int} : db.isLive credentialId = true ↔
    ∃ c, db.credentials.lookup credentialId = some c ∧ c.revokedAt = none := by
  unfold isLive
  rw [Option.any_eq_true]
  refine exists_congr fun c => and_congr_right fun _ => ?_
  rw [Option.isNone_iff_eq_none]

theorem lookup_insertDevice (new : NewDevice) (now : Time)
    (hkey : ∀ id d, db.devices.lookup id = some d → d.publicId ≠ new.publicId) (id : Int) :
    (db.insertDevice new now hkey).devices.lookup id = if id = db.devicesIdSeq + 1 then
      some (new.row (db.devicesIdSeq + 1) now) else db.devices.lookup id :=
  HashMap.lookup_insert_if _ _ _ _

theorem lookup_storeCredential {c : DeviceCredential}
    (hc : c.id ≤ db.credentialsIdSeq ∧ ∃ d, db.devices.lookup c.deviceId = some d) (id : Int) :
    (db.storeCredential c hc).credentials.lookup id =
      if id = c.id then some c else db.credentials.lookup id :=
  HashMap.lookup_insert_if _ _ _ _

theorem lookup_revoke (ids : List Int) (at_ : Time) (id : Int) :
    (db.revoke ids at_).credentials.lookup id = (db.credentials.lookup id).map fun c =>
      if c.id ∈ ids ∧ c.revokedAt = none then { c with revokedAt := some at_ } else c :=
  HashMap.lookup_mapVals _ _ _

theorem lookup_touch (deviceId : Int) (at_ : Time) (id : Int) :
    (db.touch deviceId at_).devices.lookup id = (db.devices.lookup id).map fun d =>
      if d.id = deviceId then { d with lastSeenAt := some at_ } else d :=
  HashMap.lookup_mapVals _ _ _

theorem lookup_markDeleted (publicId : String) (at_ : Time) (id : Int) :
    (db.markDeleted publicId at_).devices.lookup id = (db.devices.lookup id).map fun d =>
      if d.publicId = publicId ∧ d.status ≠ .deleted then
        { d with status := .deleted, deletedAt := some at_ } else d :=
  HashMap.lookup_mapVals _ _ _

end Database

/-! ## Calls -/

/-- A call of a repository. -/
inductive RepoCall where
  | createDevice (new : NewDevice)
  | getByPublicId (publicId : String)
  | getById (id : Int)
  | softDelete (publicId : String) (at_ : Time)
  | insertCredential (new : NewCredential)
  | findByAccessHash (tokenHash : String)
  | findByRefreshHash (refreshTokenHash : String)
  | rotateRefresh (refreshTokenHash : String) (new : NewCredential) (now : Time)
  | revokeCredential (credentialId : Int) (at_ : Time)
  | revokeAllForDevice (deviceId : Int) (at_ : Time)
  | touchLastSeen (deviceId : Int) (at_ : Time)
  | ping

/-- What a call returns. -/
inductive RepoValue where
  | device (d : Device)
  | deviceFound (d? : Option Device)
  | flag (b : Bool)
  | credential (c : DeviceCredential)
  | pairFound (pair? : Option (Device × DeviceCredential))
  | pair (pair : Device × DeviceCredential)
  | done
  deriving DecidableEq

/-- A result of a call. -/
abbrev RepoOutcome := Except RepoError RepoValue

/-- Where a rotation stands: it has read the credential and waits for the lock on it, holds the
lock, has revoked it, has inserted its replacement, or has noted when the device was seen. -/
inductive RotationStage where
  | selecting
  | locked
  | revoked
  | inserted (row : DeviceCredential)
  | touched (row : DeviceCredential)

/-- Where a call stands: its update has found its row, it revokes the credentials of a device, it
looks for the device that it did not find, or it rotates a credential. -/
inductive PgPhase where
  | updating
  | revoking (ids : List Int)
  | lookingAgain
  | rotating (device : Device) (old : DeviceCredential) (stage : RotationStage)

/-- A call of the repository. -/
inductive PgCall where
  | idle
  | running (call : RepoCall) (phase : PgPhase)
  | returned (call : RepoCall) (outcome : RepoOutcome)

/-- The committed rows, the calls, and the calls that hold locks on credentials and devices. -/
structure PgWorld where
  db : Database
  calls : Nat → PgCall
  credentialLocks : Int → Option Nat
  deviceLocks : Int → Option Nat

/-- A step: a call runs its first statement, or goes on. -/
inductive PgStep where
  | start (k : Nat) (call : RepoCall) (now : Time)
  | resume (k : Nat) (now : Time)

/-- The error of a credential whose device does not exist. -/
def fkeyViolation : RepoError :=
  .internal ("error returned from database: insert or update on table \"device_credentials\" " ++
    "violates foreign key constraint \"device_credentials_device_id_fkey\"")

namespace Database

variable (db : Database)

/-- `INSERT INTO devices`. -/
def createDevice (new : NewDevice) (now : Time) : RepoOutcome × Database :=
  match h : db.byPublicId new.publicId with
  | some _ =>
    (.error (.conflict ("public_id " ++ new.publicId ++ " already exists")), db.nextDevice)
  | none =>
    (.ok (.device (new.row (db.devicesIdSeq + 1) now)),
      db.insertDevice new now (byPublicId_none h))

/-- `INSERT INTO device_credentials`, in a transaction of its own. -/
def insertCredential (new : NewCredential) (now : Time) : RepoOutcome × Database :=
  match h : db.devices.lookup new.deviceId with
  | none => (.error fkeyViolation, db.nextCredential)
  | some d =>
    (.ok (.credential (new.row (db.credentialsIdSeq + 1) now)),
      db.nextCredential.storeCredential (new.row (db.credentialsIdSeq + 1) now)
        ⟨Int.le_refl _, d, h⟩)

/-- The commit of a rotation. -/
def rotated (old : Int) (row : DeviceCredential) (deviceId : Int) (now : Time) : Database :=
  let revoked := db.revoke [old] now
  if h : row.id ≤ revoked.credentialsIdSeq ∧
      (revoked.devices.lookup row.deviceId).isSome = true then
    (revoked.storeCredential row ⟨h.1, Option.isSome_iff_exists.mp h.2⟩).touch deviceId now
  else revoked.touch deviceId now

end Database

namespace PgWorld

variable (w : PgWorld)

/-- Where a call goes on. -/
def set (k : Nat) (c : PgCall) : PgWorld := { w with calls := Function.update w.calls k c }

/-- A call returns. -/
def returns (k : Nat) (call : RepoCall) (outcome : RepoOutcome) : PgWorld :=
  w.set k (.returned call outcome)

/-- Whether another call holds a lock. -/
def isLocked (locks : Int → Option Nat) (id : Int) (k : Nat) : Bool :=
  (locks id).any (· ≠ k)

/-- The first statement of a call. -/
def start (k : Nat) (call : RepoCall) (now : Time) : PgWorld :=
  match call with
  | .createDevice new =>
    { w with db := (w.db.createDevice new now).2 }.returns k call (w.db.createDevice new now).1
  | .getByPublicId publicId => w.returns k call (.ok (.deviceFound (w.db.byPublicId publicId)))
  | .getById id => w.returns k call (.ok (.deviceFound (w.db.devices.lookup id)))
  | .softDelete publicId _ =>
    if (w.db.byPublicId publicId).any (·.status ≠ .deleted) then w.set k (.running call .updating)
    else w.set k (.running call .lookingAgain)
  | .insertCredential new =>
    { w with db := (w.db.insertCredential new now).2 }.returns k call
      (w.db.insertCredential new now).1
  | .findByAccessHash hash =>
    w.returns k call (.ok (.pairFound (w.db.joined fun c => c.tokenHash = hash)))
  | .findByRefreshHash hash =>
    w.returns k call (.ok (.pairFound (w.db.joined fun c => c.refreshTokenHash = hash)))
  | .rotateRefresh hash _ _ =>
    match w.db.joined fun c => c.refreshTokenHash = hash with
    | none => w.returns k call (.error .staleCredential)
    | some (device, old) => w.set k (.running call (.rotating device old .selecting))
  | .revokeCredential credentialId _ =>
    if w.db.isLive credentialId then w.set k (.running call .updating)
    else w.returns k call (.error .notFound)
  | .revokeAllForDevice deviceId _ =>
    w.set k (.running call (.revoking (w.db.liveIds deviceId)))
  | .touchLastSeen deviceId _ =>
    if (w.db.devices.lookup deviceId).isSome then w.set k (.running call .updating)
    else w.returns k call (.error .notFound)
  | .ping => w.returns k call (.ok .done)

/-- The end of a rotation releases its locks. -/
def release (old : Int) (device : Option Int) : PgWorld :=
  { w with
    credentialLocks := Function.update w.credentialLocks old none
    deviceLocks := fun id => if device = some id then none else w.deviceLocks id }

/-- A rotation goes on. -/
def rotate (k : Nat) (hash : String) (new : NewCredential) (now : Time) (device : Device)
    (old : DeviceCredential) (clock : Time) : RotationStage → Option PgWorld
  | .selecting =>
    let call := RepoCall.rotateRefresh hash new now
    if isLocked w.credentialLocks old.id k then none
    else match w.db.credentials.lookup old.id with
      | none => some (w.returns k call (.error .staleCredential))
      | some row =>
        -- the row is looked at again; the device stays the one that was read first
        if row.revokedAt.isSome ∨ row.refreshTokenHash ≠ hash then
          some (w.returns k call (.error .staleCredential))
        else if row.expiresAt < now then some (w.returns k call (.error .staleCredential))
        else if device.status ≠ .active then some (w.returns k call (.error .staleCredential))
        else if new.deviceId ≠ device.id then
          some (w.returns k call (.error (.internal "rotate_refresh device_id mismatch")))
        else some ({ w with
          credentialLocks := Function.update w.credentialLocks old.id (some k) }.set k
            (.running call (.rotating device row .locked)))
  | .locked =>
    let call := RepoCall.rotateRefresh hash new now
    if w.db.isLive old.id then some (w.set k (.running call (.rotating device old .revoked)))
    else some ((w.release old.id none).returns k call (.error .staleCredential))
  | .revoked =>
    let call := RepoCall.rotateRefresh hash new now
    let drawn := { w with db := w.db.nextCredential }
    if (w.db.devices.lookup new.deviceId).isSome then
      some (drawn.set k (.running call (.rotating device old
        (.inserted (new.row drawn.db.credentialsIdSeq clock)))))
    else some ((drawn.release old.id none).returns k call (.error fkeyViolation))
  | .inserted row =>
    if isLocked w.deviceLocks device.id k then none
    else some ({ w with deviceLocks := Function.update w.deviceLocks device.id (some k) }.set k
      (.running (.rotateRefresh hash new now) (.rotating device old (.touched row))))
  | .touched row =>
    some (({ w with db := w.db.rotated old.id row device.id now }.release old.id
      (some device.id)).returns k (.rotateRefresh hash new now) (.ok (.pair (device, row))))

/-- A call goes on: its statement gets the rows it has waited for and looks at them again, or it
runs the next one. -/
def resume (k : Nat) (clock : Time) : Option PgWorld :=
  match w.calls k with
  | .running (.softDelete publicId at_) .updating =>
    let call := RepoCall.softDelete publicId at_
    match w.db.byPublicId publicId with
    | none => some (w.set k (.running call .lookingAgain))
    | some d =>
      if isLocked w.deviceLocks d.id k then none
      else if d.status = .deleted then some (w.set k (.running call .lookingAgain))
      else some ({ w with db := w.db.markDeleted publicId at_ }.returns k call (.ok (.flag true)))
  | .running (.softDelete publicId at_) .lookingAgain =>
    some (w.returns k (.softDelete publicId at_) (.ok (.flag (w.db.byPublicId publicId).isSome)))
  | .running (.revokeCredential credentialId at_) .updating =>
    let call := RepoCall.revokeCredential credentialId at_
    if isLocked w.credentialLocks credentialId k then none
    else if w.db.isLive credentialId then
      some ({ w with db := w.db.revoke [credentialId] at_ }.returns k call (.ok .done))
    else some (w.returns k call (.error .notFound))
  | .running (.revokeAllForDevice deviceId at_) (.revoking ids) =>
    if ids.any fun id => isLocked w.credentialLocks id k then none
    else some ({ w with db := w.db.revoke ids at_ }.returns k (.revokeAllForDevice deviceId at_)
      (.ok .done))
  | .running (.touchLastSeen deviceId at_) .updating =>
    if isLocked w.deviceLocks deviceId k then none
    else some ({ w with db := w.db.touch deviceId at_ }.returns k (.touchLastSeen deviceId at_)
      (.ok .done))
  | .running (.rotateRefresh hash new now) (.rotating device old stage) =>
    w.rotate k hash new now device old clock stage
  | _ => none

end PgWorld

/-- Before the first call. -/
def PgWorld.new (db : Database) : PgWorld := ⟨db, fun _ => .idle, fun _ => none, fun _ => none⟩

/-- The repository in Postgres: calls start and go on in any order. -/
def postgres (db : Database) : System PgWorld PgStep where
  init w := w = .new db
  step w
    | .start k call now =>
      match w.calls k with
      | .idle => some (w.start k call now)
      | _ => none
    | .resume k clock => w.resume k clock

end RemoteLink.Repo
