import RemoteLink.Repo.Postgres

set_option autoImplicit false

/-!
# The same rows in memory

The in-memory repository with the rows of a database gives every call the outcome that it has on
these rows, up to ids and timestamps.

## Main definitions

* `SameOutcome` — outcomes that differ at most in when rows were created and devices last seen.
* `MemoryDeviceRepo.answer` — a call on the in-memory repository.
* `MemoryDeviceRepo.Asks` — the same with an outcome, up to ids and timestamps.
* `Mirrors` — the in-memory repository has the rows of a database.

## Main results

* `Explains.createDevice`, `Explains.rotated` and so on — each outcome on a database is one that the
  repository in memory gives, and the repository has the rows of the database afterwards.
-/

namespace RemoteLink.Repo

open RemoteLink.Library
open RemoteLink.Server (Time DeviceStatus)

/-! ## Up to ids and timestamps -/

/-- A device without the times of its creation and of its last sight. -/
def Device.undated (d : Device) : Device := { d with createdAt := 0, lastSeenAt := none }

/-- A credential without the time of its creation. -/
def DeviceCredential.undated (c : DeviceCredential) : DeviceCredential := { c with createdAt := 0 }

/-- Devices that are the same but for these times. -/
theorem Device.of_undated {d d' : Device} (h : d.undated = d'.undated) :
    ∃ createdAt lastSeenAt, d = { d' with createdAt, lastSeenAt } :=
  ⟨d.createdAt, d.lastSeenAt, congrArg (fun u : Device =>
    { u with createdAt := d.createdAt, lastSeenAt := d.lastSeenAt }) h⟩

/-- Credentials that are the same but for the time of their creation. -/
theorem DeviceCredential.of_undated {c c' : DeviceCredential} (h : c.undated = c'.undated) :
    ∃ t, c = { c' with createdAt := t } :=
  ⟨c.createdAt, congrArg (fun u : DeviceCredential => { u with createdAt := c.createdAt }) h⟩

/-- A value without these times. -/
def RepoValue.undated : RepoValue → RepoValue
  | .device d => .device d.undated
  | .deviceFound d? => .deviceFound (d?.map Device.undated)
  | .flag b => .flag b
  | .credential c => .credential c.undated
  | .pairFound pair? => .pairFound (pair?.map fun p => (p.1.undated, p.2.undated))
  | .pair p => .pair (p.1.undated, p.2.undated)
  | .done => .done

/-- **The same outcome**: the same error, or values that differ in these times only. -/
def SameOutcome (a b : RepoOutcome) : Prop :=
  a.map RepoValue.undated = b.map RepoValue.undated

theorem SameOutcome.refl (a : RepoOutcome) : SameOutcome a a := rfl

namespace MemoryDeviceRepo

/-- The outcome of a call that saves. -/
def saving {α : Type} (value : α → RepoValue) (locked : Locked α × MemoryDeviceRepo) :
    RepoOutcome × MemoryDeviceRepo :=
  ((finish locked .written).1.map value, (finish locked .written).2)

theorem saving_saves {α : Type} (value : α → RepoValue) (a : α) (r : MemoryDeviceRepo) :
    saving value (.saves a, r) = (.ok (value a), r) := by
  unfold saving finish save
  rcases r.persistPath with _ | path
  · rfl
  · rfl

/-- A call on the in-memory repository at a time, with a file that is written. -/
def answer (r : MemoryDeviceRepo) (now : Time) : RepoCall → RepoOutcome × MemoryDeviceRepo
  | .createDevice new => saving .device (r.createDeviceLocked new now)
  | .getByPublicId publicId =>
    (.ok (.deviceFound ((r.inner.byPublicId.lookup publicId).bind r.inner.devices.lookup)), r)
  | .getById id => (.ok (.deviceFound (r.inner.devices.lookup id)), r)
  | .softDelete publicId at_ => saving .flag (r.softDeleteLocked publicId at_)
  | .insertCredential new => saving .credential (r.insertLocked new now)
  | .findByAccessHash hash => ((r.findByAccessHash hash).map .pairFound, r)
  | .findByRefreshHash hash => ((r.findByRefreshHash hash).map .pairFound, r)
  | .rotateRefresh hash new now' => saving .pair (r.rotateRefreshLocked hash new now')
  | .revokeCredential credentialId at_ =>
    saving (fun _ => .done) (r.revokeCredentialLocked credentialId at_)
  | .revokeAllForDevice deviceId at_ =>
    saving (fun _ => .done) (r.revokeAllForDeviceLocked deviceId at_)
  | .touchLastSeen deviceId at_ => saving (fun _ => .done) (r.touchLastSeenLocked deviceId at_)
  | .ping => (.ok .done, r)

/-- The repository with other id counters. -/
def recount (r : MemoryDeviceRepo) (nextDeviceId nextCredId : Int) : MemoryDeviceRepo :=
  { r with nextDeviceId, nextCredId }

/-- **A call with an outcome**, up to ids and timestamps: the counters stand anywhere before an id
that is not taken, and the outcome differs in timestamps at most. -/
def Asks (r : MemoryDeviceRepo) (call : RepoCall) (outcome : RepoOutcome) (r' : MemoryDeviceRepo) :
    Prop :=
  ∃ now deviceId credentialId, r.inner.devices.lookup (deviceId + 1) = none ∧
    r.inner.credentials.lookup (credentialId + 1) = none ∧
    SameOutcome ((r.recount deviceId credentialId).answer now call).1 outcome ∧
    r' = ((r.recount deviceId credentialId).answer now call).2

end MemoryDeviceRepo

/-- **The repository has the rows of the database**, up to the times at which credentials were
created. -/
structure Mirrors (db : Database) (r : MemoryDeviceRepo) : Prop where
  devices : ∀ id, r.inner.devices.lookup id = db.devices.lookup id
  byPublicId : ∀ publicId id, r.inner.byPublicId.lookup publicId = some id ↔
    ∃ d, db.devices.lookup id = some d ∧ d.publicId = publicId
  credentials : ∀ id, (r.inner.credentials.lookup id).map DeviceCredential.undated =
    (db.credentials.lookup id).map DeviceCredential.undated

/-- An outcome that the repository in memory gives as well, and the rows that it leaves. -/
def Explains (r : MemoryDeviceRepo) (call : RepoCall) (outcome : RepoOutcome) (db' : Database) :
    Prop :=
  ∃ r', r.Asks call outcome r' ∧ Mirrors db' r'

/-- No two credentials have the same hash of a kind. -/
def Distinct (hash : DeviceCredential → String) (db : Database) : Prop :=
  ∀ id c id' c', db.credentials.lookup id = some c → db.credentials.lookup id' = some c' →
    hash c = hash c' → id = id'

section

variable {db db' : Database} {r : MemoryDeviceRepo} {call : RepoCall} {outcome : RepoOutcome}

namespace Mirrors

/-- Counters do not matter. -/
theorem recount (h : Mirrors db r) (deviceId credentialId : Int) :
    Mirrors db (r.recount deviceId credentialId) :=
  ⟨h.devices, h.byPublicId, h.credentials⟩

/-- The sequences are not behind. -/
theorem device_unused (h : Mirrors db r) : r.inner.devices.lookup (db.devicesIdSeq + 1) = none := by
  rw [h.devices]
  by_contra hsome
  obtain ⟨d, hd⟩ := Option.ne_none_iff_exists'.mp hsome
  have hle := (db.device_id _ d hd).2
  omega

theorem credential_unused (h : Mirrors db r) {id : Int} (hid : db.credentials.lookup id = none) :
    r.inner.credentials.lookup id = none := by
  have hsame := h.credentials id
  rw [hid, Option.map_none, Option.map_eq_none_iff] at hsame
  exact hsame

theorem index_some (h : Mirrors db r) {publicId : String} {d : Device}
    (hd : db.byPublicId publicId = some d) :
    r.inner.byPublicId.lookup publicId = some d.id ∧ r.inner.devices.lookup d.id = some d := by
  obtain ⟨hrow, hpublic⟩ := Database.byPublicId_some hd
  exact ⟨(h.byPublicId publicId d.id).mpr ⟨d, hrow, hpublic⟩, (h.devices d.id).trans hrow⟩

theorem index_none (h : Mirrors db r) {publicId : String} (hd : db.byPublicId publicId = none) :
    r.inner.byPublicId.lookup publicId = none := by
  by_contra hsome
  obtain ⟨id, hid⟩ := Option.ne_none_iff_exists'.mp hsome
  obtain ⟨d, hrow, hpublic⟩ := (h.byPublicId publicId id).mp hid
  exact Database.byPublicId_none hd id d hrow hpublic

/-- A credential in memory for one of the database. -/
theorem credential (h : Mirrors db r) {id : Int} {c : DeviceCredential}
    (hc : db.credentials.lookup id = some c) :
    ∃ t, r.inner.credentials.lookup id = some { c with createdAt := t } := by
  have hsame := h.credentials id
  rw [hc, Option.map_some, Option.map_eq_some_iff] at hsame
  obtain ⟨m, hm, hundated⟩ := hsame
  obtain ⟨t, rfl⟩ := DeviceCredential.of_undated hundated
  exact ⟨t, hm⟩

/-- A credential of the database for one in memory. -/
theorem credential' (h : Mirrors db r) {id : Int} {m : DeviceCredential}
    (hm : r.inner.credentials.lookup id = some m) :
    ∃ t, db.credentials.lookup id = some { m with createdAt := t } := by
  have hsame := (h.credentials id).symm
  rw [hm, Option.map_some, Option.map_eq_some_iff] at hsame
  obtain ⟨c, hc, hundated⟩ := hsame
  obtain ⟨t, rfl⟩ := DeviceCredential.of_undated hundated
  exact ⟨t, hc⟩

end Mirrors

/-- An outcome with counters behind an id of a device and one of a credential that are not taken. -/
theorem Explains.of_answer (h : Mirrors db r) (now : Time) {credentialId : Int}
    (hunused : db.credentials.lookup (credentialId + 1) = none)
    (houtcome : SameOutcome ((r.recount db.devicesIdSeq credentialId).answer now call).1 outcome)
    (hmirrors : Mirrors db' ((r.recount db.devicesIdSeq credentialId).answer now call).2) :
    Explains r call outcome db' :=
  ⟨_, ⟨now, db.devicesIdSeq, credentialId, h.device_unused, h.credential_unused hunused, houtcome,
    rfl⟩, hmirrors⟩

/-- The next id of a credential is not taken. -/
theorem Database.credential_next_unused (db : Database) :
    db.credentials.lookup (db.credentialsIdSeq + 1) = none := by
  by_contra hsome
  obtain ⟨c, hc⟩ := Option.ne_none_iff_exists'.mp hsome
  have hle := (db.credential_id _ c hc).2
  omega

/-- A call that leaves the repository as it is. -/
theorem Explains.of_read (h : Mirrors db r) (now : Time)
    (hanswer : ∀ r₁ : MemoryDeviceRepo, Mirrors db r₁ →
      SameOutcome (r₁.answer now call).1 outcome ∧ (r₁.answer now call).2 = r₁) :
    Explains r call outcome db := by
  have hcounted := h.recount db.devicesIdSeq db.credentialsIdSeq
  obtain ⟨houtcome, hsame⟩ := hanswer _ hcounted
  exact .of_answer h now db.credential_next_unused houtcome (by rw [hsame]; exact hcounted)

/-! ## Devices -/

/-- A row of a device that is written, with its public id as it was. -/
theorem Mirrors.putDevice (h : Mirrors db r) {d : Device} (hd : db.devices.lookup d.id = some d)
    (d' : Device) (hid : d'.id = d.id) (hpublic : d'.publicId = d.publicId)
    (hdevices : ∀ id, db'.devices.lookup id = if id = d.id then some d'
      else db.devices.lookup id)
    (hcredentials : db'.credentials = db.credentials) :
    Mirrors db' { r with inner := r.inner.putDevice d' } := by
  refine ⟨fun id => ?_, fun publicId id => (h.byPublicId publicId id).trans ?_, fun id => ?_⟩
  · rw [hdevices id, Store.lookup_putDevice, hid, h.devices]
  · rw [hdevices id]
    split_ifs with hsame
    · subst hsame
      rw [hd]
      constructor
      · rintro ⟨d₁, hd₁, rfl⟩
        exact ⟨d', rfl, hpublic.trans (congrArg _ (Option.some.inj hd₁))⟩
      · rintro ⟨d₁, hd₁, rfl⟩
        exact ⟨d, rfl, hpublic.symm.trans (congrArg _ (Option.some.inj hd₁))⟩
    · exact Iff.rfl
  · rw [hcredentials]
    exact h.credentials id

/-- A device is enrolled, unless its public id is taken. -/
theorem Explains.createDevice (h : Mirrors db r) (new : NewDevice) (now : Time) :
    Explains r (.createDevice new) (db.createDevice new now).1 (db.createDevice new now).2 := by
  have hcounted := h.recount db.devicesIdSeq db.credentialsIdSeq
  unfold Database.createDevice
  split
  · rename_i d hd
    have hanswer : ((r.recount db.devicesIdSeq db.credentialsIdSeq).answer now
        (.createDevice new)) = (.error (.conflict ("public_id " ++ new.publicId ++
          " already exists")), r.recount db.devicesIdSeq db.credentialsIdSeq) := by
      simp only [MemoryDeviceRepo.answer, MemoryDeviceRepo.createDeviceLocked,
        (hcounted.index_some hd).1]
      rfl
    refine .of_answer h now db.credential_next_unused ?_ ?_
    · rw [hanswer]
      rfl
    · rw [hanswer]
      exact ⟨hcounted.devices, hcounted.byPublicId, hcounted.credentials⟩
  · rename_i hnone
    have hanswer : ((r.recount db.devicesIdSeq db.credentialsIdSeq).answer now
        (.createDevice new)) = (.ok (.device (new.row (db.devicesIdSeq + 1) now)),
          (r.recount db.devicesIdSeq db.credentialsIdSeq).enrolled
            (new.row (db.devicesIdSeq + 1) now)) := by
      simp only [MemoryDeviceRepo.answer, MemoryDeviceRepo.createDeviceLocked,
        hcounted.index_none hnone, MemoryDeviceRepo.saving_saves]
      rfl
    refine .of_answer h now db.credential_next_unused ?_ ?_
    · rw [hanswer]
      rfl
    rw [hanswer]
    refine ⟨fun id => ?_, fun publicId id => ?_, hcounted.credentials⟩
    · rw [Database.lookup_insertDevice]
      refine (Store.lookup_putDevice _ _).trans ?_
      show (if id = db.devicesIdSeq + 1 then _ else r.inner.devices.lookup id) = _
      rw [h.devices id]
    · rw [Database.lookup_insertDevice]
      show (AList.insert new.publicId (db.devicesIdSeq + 1) r.inner.byPublicId).lookup publicId =
        some id ↔ _
      rw [HashMap.lookup_insert_if]
      have hunused := h.device_unused
      rw [h.devices] at hunused
      split_ifs with hpublic hid hid
      · subst hid
        constructor
        · exact fun _ => ⟨_, rfl, hpublic.symm⟩
        · exact fun _ => rfl
      · refine ⟨fun heq => absurd (Option.some.inj heq).symm hid, ?_⟩
        rintro ⟨d, hd, rfl⟩
        exact absurd hpublic (Database.byPublicId_none hnone id d hd)
      · subst hid
        rw [h.byPublicId, hunused]
        constructor
        · rintro ⟨d, hd, -⟩
          cases hd
        · rintro ⟨d, hd, rfl⟩
          exact absurd (congrArg Device.publicId (Option.some.inj hd)).symm hpublic
      · exact h.byPublicId publicId id

/-- A device is looked up. -/
theorem Explains.getByPublicId (h : Mirrors db r) (publicId : String) :
    Explains r (.getByPublicId publicId) (.ok (.deviceFound (db.byPublicId publicId))) db := by
  refine .of_read h 0 fun r₁ h₁ => ⟨?_, rfl⟩
  show SameOutcome (.ok (.deviceFound ((r₁.inner.byPublicId.lookup publicId).bind _))) _
  rcases hfound : db.byPublicId publicId with _ | d
  · rw [h₁.index_none hfound]
    rfl
  · obtain ⟨hindex, hrow⟩ := h₁.index_some hfound
    rw [hindex, Option.bind_some, hrow]
    exact .refl _

theorem Explains.getById (h : Mirrors db r) (id : Int) :
    Explains r (.getById id) (.ok (.deviceFound (db.devices.lookup id))) db := by
  refine .of_read h 0 fun r₁ h₁ => ⟨?_, rfl⟩
  show SameOutcome (.ok (.deviceFound (r₁.inner.devices.lookup id))) _
  rw [h₁.devices]
  exact .refl _

theorem Explains.ping (h : Mirrors db r) : Explains r .ping (.ok .done) db :=
  .of_read h 0 fun _ _ => ⟨rfl, rfl⟩

/-- A device that is deleted, or not there, stays so. -/
theorem Explains.lookedAgain (h : Mirrors db r) (publicId : String) (at_ : Time)
    (hdeleted : ∀ id d, db.devices.lookup id = some d → d.publicId = publicId →
      d.status = .deleted) :
    Explains r (.softDelete publicId at_) (.ok (.flag (db.byPublicId publicId).isSome)) db := by
  refine .of_read h 0 fun r₁ h₁ => ?_
  rcases hfound : db.byPublicId publicId with _ | d
  · simp only [MemoryDeviceRepo.answer, MemoryDeviceRepo.softDeleteLocked, h₁.index_none hfound]
    exact ⟨rfl, rfl⟩
  · obtain ⟨hindex, hrow⟩ := h₁.index_some hfound
    obtain ⟨hin, hpublic⟩ := Database.byPublicId_some hfound
    simp only [MemoryDeviceRepo.answer, MemoryDeviceRepo.softDeleteLocked, hindex, hrow,
      hdeleted d.id d hin hpublic, if_true]
    exact ⟨rfl, rfl⟩

/-- A device is marked deleted. -/
theorem Explains.markDeleted (h : Mirrors db r) {publicId : String} (at_ : Time) {d : Device}
    (hd : db.byPublicId publicId = some d) (hstatus : d.status ≠ .deleted) :
    Explains r (.softDelete publicId at_) (.ok (.flag true)) (db.markDeleted publicId at_) := by
  have hcounted := h.recount db.devicesIdSeq db.credentialsIdSeq
  obtain ⟨hindex, hrow⟩ := hcounted.index_some hd
  obtain ⟨hin, hpublic⟩ := Database.byPublicId_some hd
  have hanswer : (r.recount db.devicesIdSeq db.credentialsIdSeq).answer 0
      (.softDelete publicId at_) = (.ok (.flag true),
        (r.recount db.devicesIdSeq db.credentialsIdSeq).marked d at_) := by
    simp only [MemoryDeviceRepo.answer, MemoryDeviceRepo.softDeleteLocked, hindex, hrow,
      if_neg hstatus, MemoryDeviceRepo.saving_saves]
    rfl
  refine .of_answer h 0 db.credential_next_unused (by rw [hanswer]; rfl) ?_
  rw [hanswer]
  refine hcounted.putDevice (d := d) hin { d with status := .deleted, deletedAt := some at_ } rfl
    rfl (fun id => ?_) rfl
  rw [Database.lookup_markDeleted]
  split_ifs with hid
  · rw [hid, hin, Option.map_some, if_pos ⟨hpublic, hstatus⟩]
  · rcases hother : db.devices.lookup id with _ | d'
    · rfl
    · rw [Option.map_some, if_neg]
      rintro ⟨hpublic', -⟩
      exact hid (db.public_id_key id d' d.id d hother hin (hpublic'.trans hpublic.symm))

/-- The devices after one was touched. -/
theorem Database.lookup_touch_one {d : Device} (now : Time) (hd : db.devices.lookup d.id = some d)
    (id : Int) : (db.touch d.id now).devices.lookup id =
      if id = d.id then some { d with lastSeenAt := some now } else db.devices.lookup id := by
  rw [lookup_touch]
  split_ifs with hid
  · rw [hid, hd, Option.map_some, if_pos rfl]
  · rcases hother : db.devices.lookup id with _ | d'
    · rfl
    · rw [Option.map_some, if_neg]
      rw [(db.device_id id d' hother).1]
      exact hid

/-- A device that is there is touched. -/
theorem Explains.touch (h : Mirrors db r) {deviceId : Int} (at_ : Time) {d : Device}
    (hd : db.devices.lookup deviceId = some d) :
    Explains r (.touchLastSeen deviceId at_) (.ok .done) (db.touch deviceId at_) := by
  have hcounted := h.recount db.devicesIdSeq db.credentialsIdSeq
  obtain rfl := (db.device_id deviceId d hd).1
  have hanswer : (r.recount db.devicesIdSeq db.credentialsIdSeq).answer 0
      (.touchLastSeen d.id at_) = (.ok .done,
        { r.recount db.devicesIdSeq db.credentialsIdSeq with
          inner := r.inner.putDevice { d with lastSeenAt := some at_ } }) := by
    simp only [MemoryDeviceRepo.answer, MemoryDeviceRepo.touchLastSeenLocked, hcounted.devices, hd,
      MemoryDeviceRepo.saving_saves]
    rfl
  refine .of_answer h 0 db.credential_next_unused (by rw [hanswer]; rfl) ?_
  rw [hanswer]
  exact hcounted.putDevice (d := d) hd { d with lastSeenAt := some at_ } rfl rfl
    (Database.lookup_touch_one at_ hd) rfl

theorem Explains.touch_none (h : Mirrors db r) {deviceId : Int} (at_ : Time)
    (hd : db.devices.lookup deviceId = none) :
    Explains r (.touchLastSeen deviceId at_) (.error .notFound) db := by
  refine .of_read h 0 fun r₁ h₁ => ?_
  simp only [MemoryDeviceRepo.answer, MemoryDeviceRepo.touchLastSeenLocked, h₁.devices, hd]
  exact ⟨rfl, rfl⟩

/-! ## Credentials -/

/-- A live credential is found in memory when one is in the database. -/
theorem Mirrors.findValue_some (h : Mirrors db r) {hash : DeviceCredential → String}
    (hhash : ∀ c t, hash { c with createdAt := t } = hash c) (hdistinct : Distinct hash db)
    {text : String} {c : DeviceCredential} (hc : db.credentials.lookup c.id = some c)
    (hlive : c.revokedAt = none) (htext : hash c = text) :
    ∃ t, r.inner.credentials.findValue (fun m => m.revokedAt.isNone && tokenHashEq (hash m) text) =
        some { c with createdAt := t } ∧
      r.inner.credentials.lookup c.id = some { c with createdAt := t } := by
  obtain ⟨t, hm⟩ := h.credential hc
  refine ⟨t, ?_, hm⟩
  rcases hfound : r.inner.credentials.findValue
    (fun m => m.revokedAt.isNone && tokenHashEq (hash m) text) with _ | m'
  · have hnot := HashMap.findValue_eq_none.mp hfound c.id _ hm
    rw [hhash, tokenHashEq_iff.mpr htext, Bool.and_true, hlive] at hnot
    cases hnot
  · obtain ⟨⟨id, hid⟩, htest⟩ := HashMap.findValue_some hfound
    obtain ⟨t', hc'⟩ := h.credential' hid
    have hsame : hash m' = text := tokenHashEq_iff.mp (Bool.and_eq_true_iff.mp htest).2
    obtain rfl := hdistinct id _ c.id c hc' hc ((hhash m' t').trans (hsame.trans htext.symm))
    rw [hm] at hid
    exact hfound.trans hid.symm

/-- No live credential is found in memory when none is in the database. -/
theorem Mirrors.findValue_none (h : Mirrors db r) {hash : DeviceCredential → String}
    (hhash : ∀ c t, hash { c with createdAt := t } = hash c) {text : String}
    (hnone : ∀ id c, db.credentials.lookup id = some c → c.revokedAt = none → hash c ≠ text) :
    r.inner.credentials.findValue (fun m => m.revokedAt.isNone && tokenHashEq (hash m) text) =
      none := by
  refine HashMap.findValue_eq_none.mpr fun id m hm => ?_
  obtain ⟨t, hc⟩ := h.credential' hm
  rw [Bool.and_eq_false_imp]
  intro hlive
  refine Bool.eq_false_iff.mpr fun htext => ?_
  exact hnone id _ hc (Option.isNone_iff_eq_none.mp hlive)
    ((hhash m t).trans (tokenHashEq_iff.mp htext))

/-- A credential is found with its device, or not. -/
theorem Mirrors.found (h : Mirrors db r) {hash : DeviceCredential → String}
    (hhash : ∀ c t, hash { c with createdAt := t } = hash c) (hdistinct : Distinct hash db)
    (text : String) :
    SameOutcome ((r.inner.withDevice (r.inner.credentials.findValue
        fun m => m.revokedAt.isNone && tokenHashEq (hash m) text)).map .pairFound)
      (.ok (.pairFound (db.joined fun c => hash c = text))) := by
  rcases hjoined : db.joined (fun c => decide (hash c = text)) with _ | ⟨d, c⟩
  · have hnone : ∀ id c, db.credentials.lookup id = some c → c.revokedAt = none →
        hash c ≠ text := fun id c hc hlive =>
      of_decide_eq_false (Database.joined_none hjoined id c hc hlive)
    rw [h.findValue_none hhash hnone]
    exact .refl _
  · obtain ⟨hc, hlive, htext, hd⟩ := Database.joined_some hjoined
    obtain ⟨t, hm, -⟩ := h.findValue_some hhash hdistinct hc hlive (of_decide_eq_true htext)
    rw [hm]
    unfold Store.withDevice
    dsimp only
    rw [h.devices, hd]
    rfl

theorem Explains.findByAccessHash (h : Mirrors db r)
    (hdistinct : Distinct DeviceCredential.tokenHash db) (hash : String) :
    Explains r (.findByAccessHash hash) (.ok (.pairFound (db.joined fun c => c.tokenHash = hash)))
      db :=
  .of_read h 0 fun _ h₁ => ⟨h₁.found (fun _ _ => rfl) hdistinct hash, rfl⟩

theorem Explains.findByRefreshHash (h : Mirrors db r)
    (hdistinct : Distinct DeviceCredential.refreshTokenHash db) (hash : String) :
    Explains r (.findByRefreshHash hash)
      (.ok (.pairFound (db.joined fun c => c.refreshTokenHash = hash))) db :=
  .of_read h 0 fun _ h₁ => ⟨h₁.found (fun _ _ => rfl) hdistinct hash, rfl⟩

/-- A credential row that is written for one of the database. -/
theorem Mirrors.putCredential (h : Mirrors db r) {c : DeviceCredential} (t : Time)
    (hcredentials : ∀ id, db'.credentials.lookup id = if id = c.id then some c
      else db.credentials.lookup id)
    (hdevices : db'.devices = db.devices) :
    Mirrors db' { r with inner := r.inner.putCredential { c with createdAt := t } } := by
  refine ⟨fun id => ?_, fun publicId id => ?_, fun id => ?_⟩
  · rw [hdevices]
    exact h.devices id
  · rw [hdevices]
    exact h.byPublicId publicId id
  · rw [Store.lookup_putCredential, hcredentials id]
    split_ifs
    · rfl
    · exact h.credentials id

/-- A credential is inserted when its device exists. -/
theorem Database.insertCredential_eq {new : NewCredential} {d : Device} (now : Time)
    (hd : db.devices.lookup new.deviceId = some d) :
    ∃ hstored, db.insertCredential new now =
      (.ok (.credential (new.row (db.credentialsIdSeq + 1) now)),
        db.nextCredential.storeCredential (new.row (db.credentialsIdSeq + 1) now) hstored) := by
  unfold insertCredential
  split
  · rename_i hnone
    rw [hd] at hnone
    cases hnone
  · exact ⟨⟨Int.le_refl _, d, hd⟩, rfl⟩

/-- A credential of a device that exists is inserted. -/
theorem Explains.insertCredential (h : Mirrors db r) (new : NewCredential) (now : Time)
    {d : Device} (hd : db.devices.lookup new.deviceId = some d) :
    Explains r (.insertCredential new) (db.insertCredential new now).1
      (db.insertCredential new now).2 := by
  have hcounted := h.recount db.devicesIdSeq db.credentialsIdSeq
  obtain ⟨hstored, hinserted⟩ := Database.insertCredential_eq now hd
  rw [hinserted]
  have hanswer : (r.recount db.devicesIdSeq db.credentialsIdSeq).answer now
      (.insertCredential new) = (.ok (.credential (new.row (db.credentialsIdSeq + 1) now)),
        (r.recount db.devicesIdSeq db.credentialsIdSeq).issued
          (new.row (db.credentialsIdSeq + 1) now)) := by
    simp only [MemoryDeviceRepo.answer, MemoryDeviceRepo.insertLocked,
      MemoryDeviceRepo.insertCredentialLocked, hcounted.devices, hd,
      MemoryDeviceRepo.saving_saves]
    rfl
  refine .of_answer h now db.credential_next_unused (by rw [hanswer]; exact .refl _) ?_
  rw [hanswer]
  have hput : Mirrors (db.nextCredential.storeCredential _ hstored) _ :=
    hcounted.putCredential now (fun id => Database.lookup_storeCredential _ id) rfl
  exact ⟨hput.devices, hput.byPublicId, hput.credentials⟩

/-- The rows after one credential was revoked. -/
theorem Database.lookup_revoke_one {c : DeviceCredential} (at_ : Time)
    (hc : db.credentials.lookup c.id = some c) (hlive : c.revokedAt = none) (id : Int) :
    (db.revoke [c.id] at_).credentials.lookup id =
      if id = c.id then some { c with revokedAt := some at_ } else db.credentials.lookup id := by
  rw [lookup_revoke]
  split_ifs with hid
  · rw [hid, hc, Option.map_some, if_pos ⟨List.mem_singleton_self _, hlive⟩]
  · rcases hother : db.credentials.lookup id with _ | c'
    · rfl
    · rw [Option.map_some, if_neg]
      rintro ⟨hmem, -⟩
      exact hid ((db.credential_id id c' hother).1.symm.trans (List.mem_singleton.mp hmem))

/-- A credential is revoked. -/
theorem Explains.revokeCredential (h : Mirrors db r) {c : DeviceCredential} (at_ : Time)
    (hc : db.credentials.lookup c.id = some c) (hlive : c.revokedAt = none) :
    Explains r (.revokeCredential c.id at_) (.ok .done) (db.revoke [c.id] at_) := by
  have hcounted := h.recount db.devicesIdSeq db.credentialsIdSeq
  obtain ⟨t, hm⟩ := hcounted.credential hc
  have hanswer : (r.recount db.devicesIdSeq db.credentialsIdSeq).answer 0
      (.revokeCredential c.id at_) = (.ok .done,
        { r.recount db.devicesIdSeq db.credentialsIdSeq with
          inner := r.inner.putCredential { c with revokedAt := some at_, createdAt := t } }) := by
    simp only [MemoryDeviceRepo.answer, MemoryDeviceRepo.revokeCredentialLocked, hm, hlive,
      Option.isSome_none, Bool.false_eq_true, if_false, MemoryDeviceRepo.saving_saves]
    rfl
  refine .of_answer h 0 db.credential_next_unused (by rw [hanswer]; exact .refl _) ?_
  rw [hanswer]
  exact hcounted.putCredential (c := { c with revokedAt := some at_ }) t
    (Database.lookup_revoke_one at_ hc hlive) rfl

/-- A credential that is not live is not revoked. -/
theorem Explains.revokeCredential_none (h : Mirrors db r) {credentialId : Int} (at_ : Time)
    (hdead : db.isLive credentialId = false) :
    Explains r (.revokeCredential credentialId at_) (.error .notFound) db := by
  refine .of_read h 0 fun r₁ h₁ => ?_
  rcases hm : r₁.inner.credentials.lookup credentialId with _ | m
  · simp only [MemoryDeviceRepo.answer, MemoryDeviceRepo.revokeCredentialLocked, hm]
    exact ⟨rfl, rfl⟩
  · obtain ⟨t, hc⟩ := h₁.credential' hm
    have hrevoked : m.revokedAt.isSome = true := by
      unfold Database.isLive at hdead
      rw [hc, Option.any_some] at hdead
      simpa using hdead
    simp only [MemoryDeviceRepo.answer, MemoryDeviceRepo.revokeCredentialLocked, hm, hrevoked,
      if_true]
    exact ⟨rfl, rfl⟩

/-- All the live credentials of a device are revoked. -/
theorem Explains.revokeAllForDevice (h : Mirrors db r) {deviceId : Int} (at_ : Time)
    {ids : List Int} (hids : ∀ id c, db.credentials.lookup id = some c → c.revokedAt = none →
      (id ∈ ids ↔ c.deviceId = deviceId)) :
    Explains r (.revokeAllForDevice deviceId at_) (.ok .done) (db.revoke ids at_) := by
  have hcounted := h.recount db.devicesIdSeq db.credentialsIdSeq
  have hanswer : (r.recount db.devicesIdSeq db.credentialsIdSeq).answer 0
      (.revokeAllForDevice deviceId at_) = (.ok .done,
        { r.recount db.devicesIdSeq db.credentialsIdSeq with
          inner := r.inner.revokeDevice deviceId at_ }) := by
    simp only [MemoryDeviceRepo.answer, MemoryDeviceRepo.revokeAllForDeviceLocked,
      MemoryDeviceRepo.saving_saves]
    rfl
  refine .of_answer h 0 db.credential_next_unused (by rw [hanswer]; exact .refl _) ?_
  rw [hanswer]
  refine ⟨hcounted.devices, hcounted.byPublicId, fun id => ?_⟩
  rw [Store.lookup_revokeDevice, Database.lookup_revoke]
  rcases hc : db.credentials.lookup id with _ | c
  · rw [h.credential_unused hc]
    rfl
  obtain rfl := (db.credential_id id c hc).1
  obtain ⟨t, hm⟩ := h.credential hc
  rw [hm]
  dsimp only [Option.map_some]
  by_cases hlive : c.revokedAt = none
  · by_cases hdevice : c.deviceId = deviceId
    · rw [if_pos ⟨hdevice, hlive⟩, if_pos ⟨(hids c.id c hc hlive).mpr hdevice, hlive⟩]
      rfl
    · rw [if_neg fun hboth => hdevice hboth.1,
        if_neg fun hboth => hdevice ((hids c.id c hc hlive).mp hboth.1)]
      rfl
  · rw [if_neg fun hboth => hlive hboth.2, if_neg fun hboth => hlive hboth.2]
    rfl

/-! ## Rotations -/

/-- A rotation finds no live credential. -/
theorem Explains.rotate_none (h : Mirrors db r) {hash : String} (new : NewCredential) (now : Time)
    (hnone : ∀ id c, db.credentials.lookup id = some c → c.revokedAt = none →
      c.refreshTokenHash ≠ hash) :
    Explains r (.rotateRefresh hash new now) (.error .staleCredential) db := by
  refine .of_read h 0 fun r₁ h₁ => ?_
  have hfound : r₁.inner.liveByRefresh hash = none := h₁.findValue_none (fun _ _ => rfl) hnone
  simp only [MemoryDeviceRepo.answer, MemoryDeviceRepo.rotateRefreshLocked, hfound, Option.map_none]
  exact ⟨rfl, rfl⟩

section

variable {hash : String} {new : NewCredential} {now : Time} {c : DeviceCredential} {d : Device}

/-- A credential that a rotation finds: live, with the hash and its device. -/
structure Finds (db : Database) (hash : String) (c : DeviceCredential) (d : Device) : Prop where
  distinct : Distinct DeviceCredential.refreshTokenHash db
  row : db.credentials.lookup c.id = some c
  live : c.revokedAt = none
  hash : c.refreshTokenHash = hash
  device : db.devices.lookup c.deviceId = some d

/-- The credential is found in memory. -/
theorem Finds.liveByRefresh (hfinds : Finds db hash c d) (h : Mirrors db r) :
    ∃ t, r.inner.liveByRefresh hash = some { c with createdAt := t } ∧
      r.inner.credentials.lookup c.id = some { c with createdAt := t } :=
  h.findValue_some (fun _ _ => rfl) hfinds.distinct hfinds.row hfinds.live hfinds.hash

/-- A rotation is refused on what it finds. -/
theorem Explains.rotate_refused (h : Mirrors db r) (hfinds : Finds db hash c d) {e : RepoError}
    (hrefused : c.expiresAt < now ∧ e = .staleCredential ∨
      ¬c.expiresAt < now ∧ d.status ≠ .active ∧ e = .staleCredential ∨
      ¬c.expiresAt < now ∧ d.status = .active ∧ new.deviceId ≠ c.deviceId ∧
        e = .internal "rotate_refresh device_id mismatch") :
    Explains r (.rotateRefresh hash new now) (.error e) db := by
  refine .of_read h 0 fun r₁ h₁ => ?_
  obtain ⟨t, hlive, hrow⟩ := hfinds.liveByRefresh h₁
  have hdevice := (h₁.devices c.deviceId).trans hfinds.device
  simp only [MemoryDeviceRepo.answer, MemoryDeviceRepo.rotateRefreshLocked, hlive, Option.map_some,
    hrow, hdevice]
  rcases hrefused with ⟨hexpired, rfl⟩ | ⟨hexpired, hactive, rfl⟩ |
    ⟨hexpired, hactive, hmismatch, rfl⟩
  · rw [if_pos hexpired]
    exact ⟨rfl, rfl⟩
  · rw [if_neg hexpired, if_pos hactive]
    exact ⟨rfl, rfl⟩
  · rw [if_neg hexpired, if_neg (not_not.mpr hactive), if_pos hmismatch]
    exact ⟨rfl, rfl⟩

/-- The rows after a rotation: one credential is revoked, another stored and the device touched. -/
theorem Database.rotated_eq (hfinds : Finds db hash c d) (row : DeviceCredential) (now : Time)
    (hid : row.id ≤ db.credentialsIdSeq) (hdevice : row.deviceId = c.deviceId) :
    ∃ hstored, db.rotated c.id row d.id now =
      ((db.revoke [c.id] now).storeCredential row hstored).touch d.id now := by
  have hknown : (db.revoke [c.id] now).devices.lookup row.deviceId = some d := by
    rw [hdevice]
    exact hfinds.device
  refine ⟨⟨hid, d, hknown⟩, ?_⟩
  unfold rotated
  exact dif_pos ⟨hid, Option.isSome_iff_exists.mpr ⟨d, hknown⟩⟩

/-- The credentials after a rotation. -/
theorem Database.lookup_rotated (hfinds : Finds db hash c d) {row : DeviceCredential} (now : Time)
    (hid : row.id ≤ db.credentialsIdSeq) (hdevice : row.deviceId = c.deviceId) (id : Int) :
    (db.rotated c.id row d.id now).credentials.lookup id =
      if id = row.id then some row else (db.revoke [c.id] now).credentials.lookup id := by
  obtain ⟨hstored, hrotated⟩ := rotated_eq hfinds row now hid hdevice
  rw [hrotated]
  exact lookup_storeCredential hstored id

/-- **A rotation** revokes what it finds and inserts a replacement under an id that it has drawn. -/
theorem Explains.rotated (h : Mirrors db r) (hfinds : Finds db hash c d)
    (hexpires : ¬c.expiresAt < now) (hactive : d.status = .active)
    (hsame : new.deviceId = c.deviceId) {id : Int} {clock : Time} (hid : id ≤ db.credentialsIdSeq)
    (hunused : db.credentials.lookup id = none) {device : Device}
    (hdevice : device.undated = d.undated) :
    Explains r (.rotateRefresh hash new now) (.ok (.pair (device, new.row id clock)))
      (db.rotated c.id (new.row id clock) d.id now) := by
  have hcounted := h.recount db.devicesIdSeq (id - 1)
  have hnext : id - 1 + 1 = id := by omega
  obtain ⟨t, hlive, hrow⟩ := hfinds.liveByRefresh hcounted
  have hd : db.devices.lookup d.id = some d := by
    rw [(db.device_id _ d hfinds.device).1]
    exact hfinds.device
  have hanswer : (r.recount db.devicesIdSeq (id - 1)).answer 0 (.rotateRefresh hash new now) =
      (.ok (.pair (d, new.row id now)), (r.recount db.devicesIdSeq (id - 1)).rotated
        { c with createdAt := t } (new.row id now) d now) := by
    have hrotates : (r.recount db.devicesIdSeq (id - 1)).Rotates hash new now
        { c with createdAt := t } d :=
      ⟨hlive, Int.not_lt.mp hexpires, (h.devices _).trans hfinds.device, hactive, hsame⟩
    obtain ⟨hnot, -⟩ | ⟨old, d', h', hlocked⟩ :=
      (r.recount db.devicesIdSeq (id - 1)).rotateRefreshLocked_cases hash new now
    · exact absurd ⟨_, _, hrotates⟩ hnot
    obtain rfl := Option.some.inj (h'.live.symm.trans hlive)
    obtain rfl := Option.some.inj (h'.known.symm.trans hrotates.known)
    rw [show (r.recount db.devicesIdSeq (id - 1)).nextCredId + 1 = id from hnext] at hlocked
    simp only [MemoryDeviceRepo.answer, hlocked, MemoryDeviceRepo.saving_saves]
  refine .of_answer h 0 (by rw [hnext]; exact hunused) ?_ ?_
  · rw [hanswer]
    show Except.ok (RepoValue.pair (d.undated, _)) = Except.ok (RepoValue.pair (device.undated, _))
    rw [hdevice]
    rfl
  rw [hanswer]
  obtain ⟨hstored, hrotated⟩ :=
    Database.rotated_eq hfinds (new.row id clock) now hid hsame
  rw [hrotated]
  have hrevoked : Mirrors (db.revoke [c.id] now) _ :=
    hcounted.putCredential (c := { c with revokedAt := some now }) t
      (Database.lookup_revoke_one now hfinds.row hfinds.live) rfl
  have hput := hrevoked.putCredential (c := new.row id clock) now
    (Database.lookup_storeCredential hstored) rfl
  have htouched :
      Mirrors (((db.revoke [c.id] now).storeCredential _ hstored).touch d.id now) _ :=
    hput.putDevice (d := d) hd { d with lastSeenAt := some now } rfl rfl
      (Database.lookup_touch_one now hd) rfl
  exact ⟨htouched.devices, htouched.byPublicId, htouched.credentials⟩

end

end

end RemoteLink.Repo
