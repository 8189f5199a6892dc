import RemoteLink.Library.Serial
import RemoteLink.Repo.Interference

set_option autoImplicit false

/-!
# The back ends agree

Calls of the repository in Postgres overlap, and those of the repository in memory do not. As long
as no call gets in the way of another, the calls that have returned from Postgres can be put into an
order in which the repository in memory gives each the same outcome and ends with the same rows: a
call comes in this order when its last statement has run.

## Main results

* `PgWorld.Inv.start`, `PgWorld.Inv.resume` — every statement keeps the invariant, and the
  repository in memory accounts for it.
* `back_ends_agree` — undisturbed calls have a sequential order on the repository in memory, and no
  unrevoked credential outlives a revocation of all.
* `back_ends_differ` — two runs whose calls have no such order.
-/

namespace RemoteLink.Repo

open RemoteLink.Library
open RemoteLink.Server (Time DeviceStatus)

/-! ## What the statements write -/

/-- The devices with a public id are deleted when the one that a query finds is. -/
theorem Database.deleted_of_byPublicId {db : Database} {publicId : String}
    (h : ∀ d, db.byPublicId publicId = some d → d.status = .deleted) (id : Int) (d : Device)
    (hd : db.devices.lookup id = some d) (hpublic : d.publicId = publicId) :
    d.status = .deleted := by
  rcases hfound : db.byPublicId publicId with _ | d'
  · exact absurd hpublic (byPublicId_none hfound id d hd)
  · obtain ⟨hd', hpublic'⟩ := byPublicId_some hfound
    obtain rfl := db.public_id_key id d d'.id d' hd hd' (hpublic.trans hpublic'.symm)
    obtain rfl := Option.some.inj (hd.symm.trans hd')
    exact h d hfound

section

variable {db db' : Database} {hash : DeviceCredential → String}

/-- Credentials keep their hashes. -/
theorem Distinct.kept (h : Distinct hash db) (hrows : ∀ id c', db'.credentials.lookup id = some c' →
    ∃ c, db.credentials.lookup id = some c ∧ hash c = hash c') : Distinct hash db' := by
  intro id c id' c' hc hc' hsame
  obtain ⟨c₁, hc₁, hhash⟩ := hrows id c hc
  obtain ⟨c₂, hc₂, hhash'⟩ := hrows id' c' hc'
  exact h id c₁ id' c₂ hc₁ hc₂ (hhash.trans (hsame.trans hhash'.symm))

/-- A credential with a new hash is inserted. -/
theorem Distinct.insert (h : Distinct hash db) (row : DeviceCredential)
    (hrows : ∀ id, db'.credentials.lookup id =
      if id = row.id then some row else db.credentials.lookup id)
    (hfresh : ∀ id c, db.credentials.lookup id = some c → hash c ≠ hash row) :
    Distinct hash db' := by
  intro id c id' c' hc hc' hsame
  rw [hrows] at hc hc'
  split_ifs at hc hc' with hid hid' hid'
  · exact hid.trans hid'.symm
  · obtain rfl := Option.some.inj hc
    exact absurd hsame.symm (hfresh id' c' hc')
  · obtain rfl := Option.some.inj hc'
    exact absurd hsame (hfresh id c hc)
  · exact h id c id' c' hc hc' hsame

/-- Revoked credentials keep their hashes. -/
theorem Distinct.revoke (h : Distinct hash db)
    (hhash : ∀ c t, hash { c with revokedAt := some t } = hash c) (ids : List Int) (at_ : Time) :
    Distinct hash (db.revoke ids at_) := by
  refine h.kept fun id c' hc' => ?_
  rw [Database.lookup_revoke, Option.map_eq_some_iff] at hc'
  obtain ⟨c, hc, rfl⟩ := hc'
  refine ⟨c, hc, ?_⟩
  split_ifs
  · exact (hhash c at_).symm
  · rfl

end

/-- A new hash stays new when credentials are revoked. -/
theorem Database.IsFresh.revoke {db : Database} {new : NewCredential} (h : db.IsFresh new)
    (ids : List Int) (at_ : Time) : (db.revoke ids at_).IsFresh new := by
  refine ⟨fun id c' hc' => ?_, fun id c' hc' => ?_⟩
  all_goals
    rw [lookup_revoke, Option.map_eq_some_iff] at hc'
    obtain ⟨c, hc, rfl⟩ := hc'
    split_ifs
  · exact h.access id c hc
  · exact h.access id c hc
  · exact h.refresh id c hc
  · exact h.refresh id c hc

section

variable {w : PgWorld} {k : Nat} {db' : Database} {locks' : Int → Option Nat}

/-- A device is touched. -/
theorem DevicesKept.touched {deviceId : Int} {at_ : Time}
    (hdevices : db'.devices = (w.db.touch deviceId at_).devices) : DevicesKept w k db' where
  stays id d hd := by
    rw [hdevices, Database.lookup_touch, hd, Option.map_some]
    refine ⟨_, rfl, ?_⟩
    split_ifs
    · exact ⟨rfl, fun hdeleted => hdeleted, fun _ _ _ _ _ => rfl⟩
    · exact ⟨rfl, fun hdeleted => hdeleted, fun _ _ _ _ _ => rfl⟩
  came id d' hd' hnone := by
    rw [hdevices, Database.lookup_touch, hnone] at hd'
    cases hd'

/-- A device is deleted that no rotation is about. -/
theorem DevicesKept.marked (h : w.Inv) {publicId : String} {at_ : Time}
    (hfree : ∀ j d, (w.calls j).rotating = some d → d.publicId ≠ publicId) :
    DevicesKept w k (w.db.markDeleted publicId at_) where
  stays id d hd := by
    rw [Database.lookup_markDeleted, hd, Option.map_some]
    refine ⟨_, rfl, ?_⟩
    split_ifs with hmarked
    · refine ⟨rfl, fun _ => rfl, fun j e _ hrotating hid => ?_⟩
      obtain ⟨d₁, hd₁, hundated⟩ := h.device_of_rotating hrotating
      rw [hid] at hd₁
      obtain rfl := Option.some.inj (hd.symm.trans hd₁)
      obtain ⟨createdAt, lastSeenAt, rfl⟩ := Device.of_undated hundated
      have hother := hfree j _ hrotating
      exact absurd hmarked.1 hother
    · exact ⟨rfl, fun hdeleted => hdeleted, fun _ _ _ _ _ => rfl⟩
  came id d' hd' hnone := by
    rw [Database.lookup_markDeleted, hnone] at hd'
    cases hd'

/-- A device is enrolled that no deletion looks for. -/
theorem DevicesKept.created {new : NewDevice} {now : Time}
    (hfree : w.db.byPublicId new.publicId = none →
      ∀ j, (w.calls j).lookingAgain ≠ some new.publicId) :
    DevicesKept w k (w.db.createDevice new now).2 := by
  unfold Database.createDevice
  split
  · exact .same fun _ => rfl
  · rename_i hnone
    refine ⟨fun id d hd => ⟨d, ?_, rfl, fun hdeleted => hdeleted, fun _ _ _ _ _ => rfl⟩,
      fun id d' hd' hout j _ => ?_⟩
    · have hle := (w.db.device_id id d hd).2
      rw [Database.lookup_insertDevice, if_neg (by omega)]
      exact hd
    · rw [Database.lookup_insertDevice] at hd'
      split_ifs at hd' with hid
      · rw [← Option.some.inj hd']
        exact hfree hnone j
      · rw [hout] at hd'
        cases hd'

/-- A lock that no other call holds. -/
theorem PgWorld.eq_of_not_isLocked {locks : Int → Option Nat} {id : Int}
    (h : PgWorld.isLocked locks id k = false) {j : Nat} (hj : locks id = some j) : j = k := by
  unfold PgWorld.isLocked at h
  rw [hj, Option.any_some, decide_eq_false_iff_not, not_not] at h
  exact h

/-- Credentials are revoked that no other call has locked. -/
theorem CredentialsKept.revoked {ids : List Int} {at_ : Time}
    (hfree : ∀ id ∈ ids, PgWorld.isLocked w.credentialLocks id k = false) :
    CredentialsKept w k (w.db.revoke ids at_) w.credentialLocks where
  stays id c hc := by
    rw [Database.lookup_revoke, hc, Option.map_some]
    refine ⟨_, rfl, ?_⟩
    split_ifs with hmem
    · refine ⟨rfl, rfl, ?_, fun j hj hlock => ?_⟩
      · intro hlive
        cases hlive
      rw [(w.db.credential_id id c hc).1] at hmem
      exact absurd (PgWorld.eq_of_not_isLocked (hfree id hmem.1) hlock) hj
    · exact ⟨rfl, rfl, fun hlive => hlive, fun _ _ _ => rfl⟩
  came id c' hc' hnone := by
    rw [Database.lookup_revoke, hnone] at hc'
    cases hc'
  seq := Int.le_refl _
  locks _ _ _ hlock := hlock

/-- A credential is inserted whose id no call has drawn and whose device no call revokes. -/
theorem CredentialsKept.inserted (row : DeviceCredential)
    (hrows : ∀ id, db'.credentials.lookup id =
      if id = row.id then some row else w.db.credentials.lookup id)
    (hunused : w.db.credentials.lookup row.id = none)
    (hfree : ∀ j, (w.calls j).drawn ≠ some row.id ∧ (w.calls j).revoking ≠ some row.deviceId ∧
      (w.calls j).revoked ≠ some row.deviceId)
    (hseq : w.db.credentialsIdSeq ≤ db'.credentialsIdSeq) :
    CredentialsKept w k db' w.credentialLocks where
  stays id c hc := by
    refine ⟨c, ?_, rfl, rfl, fun hlive => hlive, fun _ _ _ => rfl⟩
    rw [hrows, if_neg, hc]
    rintro rfl
    rw [hunused] at hc
    cases hc
  came id c' hc' hnone j _ := by
    rw [hrows] at hc'
    split_ifs at hc' with hid
    · rw [hid, ← Option.some.inj hc']
      exact hfree j
    · rw [hnone] at hc'
      cases hc'
  seq := hseq
  locks _ _ _ hlock := hlock

/-- A credential is revoked that the call has locked, another is inserted and the lock released. -/
theorem CredentialsKept.rotated {old : Int} {now : Time} (row : DeviceCredential)
    (hrows : ∀ id, db'.credentials.lookup id =
      if id = row.id then some row else (w.db.revoke [old] now).credentials.lookup id)
    (hunused : w.db.credentials.lookup row.id = none) (hlock : w.credentialLocks old = some k)
    (hfree : ∀ j, j ≠ k → (w.calls j).drawn ≠ some row.id ∧
      (w.calls j).revoking ≠ some row.deviceId ∧ (w.calls j).revoked ≠ some row.deviceId)
    (hseq : w.db.credentialsIdSeq ≤ db'.credentialsIdSeq) :
    CredentialsKept w k db' (Function.update w.credentialLocks old none) where
  stays id c hc := by
    have hne : id ≠ row.id := by
      rintro rfl
      rw [hunused] at hc
      cases hc
    rw [hrows, if_neg hne, Database.lookup_revoke, hc, Option.map_some]
    refine ⟨_, rfl, ?_⟩
    split_ifs with hrevoked
    · refine ⟨rfl, rfl, ?_, fun j hj hother => ?_⟩
      · intro hlive
        cases hlive
      · have hid := List.mem_singleton.mp hrevoked.1
        rw [(w.db.credential_id id c hc).1] at hid
        rw [hid, hlock] at hother
        exact absurd (Option.some.inj hother).symm hj
    · exact ⟨rfl, rfl, fun hlive => hlive, fun _ _ _ => rfl⟩
  came id c' hc' hnone j hj := by
    rw [hrows] at hc'
    split_ifs at hc' with hid
    · rw [hid, ← Option.some.inj hc']
      exact hfree j hj
    · rw [Database.lookup_revoke, hnone] at hc'
      cases hc'
  seq := hseq
  locks id j hj hother := by
    rw [Function.update_of_ne]
    · exact hother
    · rintro rfl
      exact hj (Option.some.inj (hother.symm.trans hlock))

end

/-! ## First statements -/

namespace PgWorld.Inv

variable {w : PgWorld} {k : Nat}

/-- A device is enrolled. -/
theorem createDevice (h : w.Inv) (new : NewDevice) (now : Time)
    (hfree : w.db.byPublicId new.publicId = none →
      ∀ j, (w.calls j).lookingAgain ≠ some new.publicId) :
    Turn w k ({ w with db := (w.db.createDevice new now).2 }.returns k (.createDevice new)
      (w.db.createDevice new now).1) := by
  have hsame : (w.db.createDevice new now).2.credentials = w.db.credentials ∧
      (w.db.createDevice new now).2.credentialsIdSeq = w.db.credentialsIdSeq := by
    unfold Database.createDevice
    split
    · exact ⟨rfl, rfl⟩
    · exact ⟨rfl, rfl⟩
  have hrows : ∀ id c, (w.db.createDevice new now).2.credentials.lookup id = some c →
      w.db.credentials.lookup id = some c := fun id c hc => hsame.1 ▸ hc
  exact h.turn (.created hfree)
    (.same (fun id => by rw [hsame.1]) (Int.le_of_eq hsame.2.symm) fun _ _ _ hlock => hlock)
    (h.access.kept fun id c hc => ⟨c, hrows id c hc, rfl⟩)
    (h.refresh.kept fun id c hc => ⟨c, hrows id c hc, rfl⟩) trivial (.returned _ _)
    fun r hr => .createDevice hr new now

/-- A credential is inserted. -/
theorem insertCredential (h : w.Inv) {new : NewCredential} (now : Time) {d : Device}
    (hd : w.db.devices.lookup new.deviceId = some d) (hfresh : w.db.IsFresh new)
    (hfree : ∀ j, (w.calls j).revoking ≠ some new.deviceId ∧
      (w.calls j).revoked ≠ some new.deviceId) :
    Turn w k ({ w with db := (w.db.insertCredential new now).2 }.returns k (.insertCredential new)
      (w.db.insertCredential new now).1) := by
  obtain ⟨hstored, hinserted⟩ := Database.insertCredential_eq now hd
  have hrows : ∀ id, (w.db.insertCredential new now).2.credentials.lookup id =
      if id = w.db.credentialsIdSeq + 1 then some (new.row (w.db.credentialsIdSeq + 1) now)
      else w.db.credentials.lookup id := fun id => by
    rw [hinserted]
    exact Database.lookup_storeCredential hstored id
  have haccess := h.access.insert (new.row (w.db.credentialsIdSeq + 1) now) hrows hfresh.access
  have hrefresh := h.refresh.insert (new.row (w.db.credentialsIdSeq + 1) now) hrows hfresh.refresh
  refine h.turn (.same fun id => ?_) (.inserted (new.row (w.db.credentialsIdSeq + 1) now) hrows
    w.db.credential_next_unused (fun j => ⟨fun hdrawn => ?_, hfree j⟩) ?_) haccess hrefresh trivial
    (.returned _ _) fun r hr => .insertCredential hr new now hd
  · rw [hinserted]
    rfl
  · have hle := (h.unused_of_drawn hdrawn).1
    exact absurd hle (by show ¬w.db.credentialsIdSeq + 1 ≤ w.db.credentialsIdSeq; omega)
  · rw [hinserted]
    show w.db.credentialsIdSeq ≤ w.db.credentialsIdSeq + 1
    omega

/-- A rotation reads the credential that it is to replace. -/
theorem startRotation (h : w.Inv) (hash : String) (new : NewCredential) (now clock : Time) :
    Turn w k (w.start k (.rotateRefresh hash new now) clock) := by
  unfold PgWorld.start
  dsimp only
  split
  · rename_i hnone
    refine h.answers trivial fun r hr => .rotate_none hr new now fun id c hc hlive => ?_
    exact of_decide_eq_false (Database.joined_none hnone id c hc hlive)
  · rename_i device old hjoined
    obtain ⟨hold, -, hhash, hdevice⟩ := Database.joined_some hjoined
    have hid := (w.db.device_id _ device hdevice).1
    refine h.goesOn ?_ (.nothing rfl rfl rfl) fun r hr => hr
    refine ⟨⟨device, ?_, rfl⟩, ⟨old, hold, hid.symm, of_decide_eq_true hhash⟩,
      fun hstage => absurd rfl hstage, fun row hrow => ?_⟩
    · rw [hid]
      exact hdevice
    · cases hrow

/-- A call starts. -/
theorem start (h : w.Inv) {call : RepoCall} {now : Time}
    (hundisturbed : Undisturbed w (.start k call now)) : Turn w k (w.start k call now) := by
  cases call with
  | createDevice new => exact h.createDevice new now hundisturbed
  | getByPublicId publicId => exact h.answers trivial fun r hr => .getByPublicId hr publicId
  | getById id => exact h.answers trivial fun r hr => .getById hr id
  | softDelete publicId at_ =>
    unfold PgWorld.start
    dsimp only
    split_ifs with hany
    · exact h.goesOn trivial (.nothing rfl rfl rfl) fun r hr => hr
    · refine h.goesOn (Database.deleted_of_byPublicId fun d hd => ?_) (.nothing rfl rfl rfl)
        fun r hr => hr
      rw [hd] at hany
      simpa using hany
  | insertCredential new =>
    obtain ⟨⟨d, hd⟩, hfresh, hfree⟩ := hundisturbed
    exact h.insertCredential now hd hfresh hfree
  | findByAccessHash hash =>
    exact h.answers trivial fun r hr => .findByAccessHash hr h.access hash
  | findByRefreshHash hash =>
    exact h.answers trivial fun r hr => .findByRefreshHash hr h.refresh hash
  | rotateRefresh hash new now' => exact h.startRotation hash new now' now
  | revokeCredential credentialId at_ =>
    unfold PgWorld.start
    dsimp only
    split_ifs with hlive
    · exact h.goesOn trivial (.nothing rfl rfl rfl) fun r hr => hr
    · exact h.answers trivial fun r hr =>
        .revokeCredential_none hr at_ (Bool.eq_false_iff.mpr hlive)
  | revokeAllForDevice deviceId at_ =>
    refine h.goesOn ⟨fun id hid => ?_, fun id c hc hdevice hlive => ?_⟩ ⟨?_, ?_, ?_⟩ fun r hr => hr
    · obtain ⟨c, hc, hdevice, -⟩ := Database.mem_liveIds.mp hid
      exact ⟨c, hc, hdevice⟩
    · exact Database.mem_liveIds.mpr ⟨c, hc, hdevice, hlive⟩
    · intro id hdrawn
      cases hdrawn
    · intro d hholding
      cases hholding
    · intro d hrevoking
      obtain rfl := Option.some.inj hrevoking
      exact .inr hundisturbed
  | touchLastSeen deviceId at_ =>
    unfold PgWorld.start
    dsimp only
    split_ifs with hdevice
    · exact h.goesOn (Option.isSome_iff_exists.mp hdevice) (.nothing rfl rfl rfl) fun r hr => hr
    · exact h.answers trivial fun r hr =>
        .touch_none hr at_ (Option.not_isSome_iff_eq_none.mp hdevice)
  | ping => exact h.answers trivial fun r hr => .ping hr

end PgWorld.Inv

/-! ## Later statements -/

namespace PgWorld.Inv

variable {w w' : PgWorld} {k : Nat}

/-- A device is deleted. -/
theorem markDeleted (h : w.Inv) {publicId : String} (at_ : Time) {d : Device}
    (hd : w.db.byPublicId publicId = some d) (hstatus : d.status ≠ .deleted)
    (hfree : ∀ j d, (w.calls j).rotating = some d → d.publicId ≠ publicId) :
    Turn w k ({ w with db := w.db.markDeleted publicId at_ }.returns k (.softDelete publicId at_)
      (.ok (.flag true))) :=
  h.turn (.marked h hfree)
    (.same (fun _ => rfl) (Int.le_refl _) fun _ _ _ hlock => hlock) h.access h.refresh trivial
    (.returned _ _) fun _ hr => .markDeleted hr at_ hd hstatus

/-- A device is touched. -/
theorem touch (h : w.Inv) {deviceId : Int} (at_ : Time) {d : Device}
    (hd : w.db.devices.lookup deviceId = some d) :
    Turn w k ({ w with db := w.db.touch deviceId at_ }.returns k (.touchLastSeen deviceId at_)
      (.ok .done)) :=
  h.turn (.touched rfl) (.same (fun _ => rfl) (Int.le_refl _) fun _ _ _ hlock => hlock) h.access
    h.refresh trivial (.returned _ _) fun _ hr => .touch hr at_ hd

/-- Credentials are revoked. -/
theorem revoke (h : w.Inv) {ids : List Int} {at_ : Time} {call : RepoCall}
    (hfree : ∀ id ∈ ids, PgWorld.isLocked w.credentialLocks id k = false)
    (hfits : (PgCall.returned call (.ok .done)).Fits (w.db.revoke ids at_) w.credentialLocks k)
    (hexplains : ∀ r, Mirrors w.db r → Explains r call (.ok .done) (w.db.revoke ids at_)) :
    Turn w k ({ w with db := w.db.revoke ids at_ }.returns k call (.ok .done)) :=
  h.turn (.same fun _ => rfl) (.revoked hfree) (h.access.revoke (fun _ _ => rfl) ids at_)
    (h.refresh.revoke (fun _ _ => rfl) ids at_) hfits (.returned _ _) hexplains

/-- One credential is revoked. -/
theorem revokeCredential (h : w.Inv) {credentialId : Int} (at_ : Time)
    (hfree : PgWorld.isLocked w.credentialLocks credentialId k = false)
    (hlive : w.db.isLive credentialId = true) :
    Turn w k ({ w with db := w.db.revoke [credentialId] at_ }.returns k
      (.revokeCredential credentialId at_) (.ok .done)) := by
  obtain ⟨c, hc, hnone⟩ := Database.isLive_iff.mp hlive
  obtain rfl := (w.db.credential_id _ c hc).1
  refine h.revoke (fun id hid => ?_) trivial fun r hr => .revokeCredential hr at_ hc hnone
  rw [List.mem_singleton.mp hid]
  exact hfree

/-- All credentials of a device are revoked. -/
theorem revokeAll (h : w.Inv) {deviceId : Int} (at_ : Time) {ids : List Int}
    (hfits : (PgCall.running (.revokeAllForDevice deviceId at_) (.revoking ids)).Fits w.db
      w.credentialLocks k)
    (hfree : ∀ id ∈ ids, PgWorld.isLocked w.credentialLocks id k = false) :
    Turn w k ({ w with db := w.db.revoke ids at_ }.returns k (.revokeAllForDevice deviceId at_)
      (.ok .done)) := by
  obtain ⟨hall, hlive⟩ := hfits
  refine h.revoke hfree (fun id c' hc' hdevice hnone => ?_) fun r hr =>
    .revokeAllForDevice hr at_ fun id c hc hnone => ⟨fun hid => ?_, fun hdevice => ?_⟩
  · rw [Database.lookup_revoke, Option.map_eq_some_iff] at hc'
    obtain ⟨c, hc, rfl⟩ := hc'
    split_ifs at hdevice hnone with hrevoked
    exact hrevoked ⟨(w.db.credential_id id c hc).1 ▸ hlive id c hc hdevice hnone, hnone⟩
  · obtain ⟨c', hc', hdevice⟩ := hall id hid
    obtain rfl := Option.some.inj (hc.symm.trans hc')
    exact hdevice
  · exact hlive id c hc hdevice hnone

/-- What a rotation finds when its credential is still live. -/
theorem finds (h : w.Inv) {hash : String} {new : NewCredential} {now : Time} {device : Device}
    {old : DeviceCredential} {stage : RotationStage}
    (hfits : RotationFits w.db w.credentialLocks k hash new now device old stage)
    {row : DeviceCredential} (hrow : w.db.credentials.lookup old.id = some row)
    (hlive : row.revokedAt = none) : ∃ d, Finds w.db hash row d ∧ device.undated = d.undated ∧
      d.id = device.id ∧ row.id = old.id ∧ row.deviceId = device.id ∧ d.status = device.status := by
  obtain ⟨d, hd, hundated⟩ := hfits.sameDevice
  obtain ⟨c, hc, hdevice, hhash⟩ := hfits.sameRow
  obtain rfl := Option.some.inj (hc.symm.trans hrow)
  have hid := (w.db.credential_id _ c hc).1
  refine ⟨d, ⟨h.refresh, hid ▸ hc, hlive, hhash, hdevice ▸ hd⟩, hundated,
    (w.db.device_id _ d hd).1, hid, hdevice, ?_⟩
  obtain ⟨createdAt, lastSeenAt, rfl⟩ := Device.of_undated hundated
  rfl

/-- A rotation gets the lock on its credential and looks at it again. -/
theorem selecting (h : w.Inv) {hash : String} {new : NewCredential} {now clock : Time}
    {device : Device} {old : DeviceCredential}
    (hfits : RotationFits w.db w.credentialLocks k hash new now device old .selecting)
    (hfree : ∀ j, (w.calls j).revoking ≠ some device.id)
    (hstep : w.rotate k hash new now device old clock .selecting = some w') : Turn w k w' := by
  obtain ⟨c, hc, hdevice, hhash⟩ := hfits.sameRow
  unfold rotate at hstep
  rw [hc] at hstep
  dsimp only at hstep
  split_ifs at hstep with hlocked hchanged hexpired hactive hmismatch
  · refine Option.some.inj hstep ▸ h.answers trivial fun r hr =>
      .rotate_none hr new now fun id c' hc' hlive hsame => ?_
    obtain rfl := h.refresh id c' old.id c hc' hc (hsame.trans hhash.symm)
    obtain rfl := Option.some.inj (hc.symm.trans hc')
    rcases hchanged with hrevoked | hother
    · rw [hlive] at hrevoked
      cases hrevoked
    · exact hother hhash
  all_goals
    have hlive : c.revokedAt = none :=
      Option.not_isSome_iff_eq_none.mp fun hrevoked => hchanged (.inl hrevoked)
    obtain ⟨d, hfinds, hundated, hid, hsame, -, hstatus⟩ := h.finds hfits hc hlive
  · exact Option.some.inj hstep ▸ h.answers trivial fun r hr =>
      .rotate_refused hr hfinds (.inl ⟨hexpired, rfl⟩)
  · exact Option.some.inj hstep ▸ h.answers trivial fun r hr =>
      .rotate_refused hr hfinds (.inr (.inl ⟨hexpired, hstatus ▸ hactive, rfl⟩))
  · exact Option.some.inj hstep ▸ h.answers trivial fun r hr =>
      .rotate_refused hr hfinds (.inr (.inr ⟨hexpired, hstatus.trans (not_not.mp hactive),
        hdevice ▸ hmismatch, rfl⟩))
  -- the lock is free, and the credential is the one that will be replaced
  refine Option.some.inj hstep ▸ h.turn (.same fun _ => rfl)
    (.same (fun _ => rfl) (Int.le_refl _) fun id j hj hlock => ?_) h.access h.refresh ?_
    ⟨?_, ?_, ?_⟩ fun r hr => hr
  · show Function.update w.credentialLocks old.id (some k) id = some j
    rw [Function.update_of_ne]
    · exact hlock
    · rintro rfl
      exact hj (eq_of_not_isLocked (Bool.eq_false_iff.mpr hlocked) hlock)
  · refine ⟨hfits.sameDevice, ⟨c, hsame ▸ hc, hdevice, hhash⟩, fun _ => ⟨?_, hsame ▸ hc, hlive,
      hexpired, not_not.mp hactive, not_not.mp hmismatch⟩, fun row hrow => ?_⟩
    · show Function.update w.credentialLocks old.id (some k) c.id = some k
      rw [hsame, Function.update_self]
    · cases hrow
  · intro id hdrawn
    cases hdrawn
  · intro id hholding
    obtain rfl := Option.some.inj hholding
    exact .inr hfree
  · intro id hrevoking
    cases hrevoking

/-- A rotation that holds the lock runs its next statement. -/
theorem nextStatement (h : w.Inv) {hash : String} {new : NewCredential} {now : Time}
    {device : Device} {old : DeviceCredential} {stage stage' : RotationStage}
    {deviceLocks' : Int → Option Nat} {db' : Database}
    (hcall : w.calls k = .running (.rotateRefresh hash new now) (.rotating device old stage))
    (hstage : stage ≠ .selecting) (hstage' : stage' ≠ .selecting)
    (hdevices : db'.devices = w.db.devices) (hcredentials : db'.credentials = w.db.credentials)
    (hseq : w.db.credentialsIdSeq ≤ db'.credentialsIdSeq)
    (hrow : ∀ row, stage'.row = some row → stage.row = some row ∨
      (∃ clock, row = new.row row.id clock) ∧ w.db.credentialsIdSeq < row.id ∧
        row.id ≤ db'.credentialsIdSeq) :
    Turn w k ⟨db', Function.update w.calls k
      (.running (.rotateRefresh hash new now) (.rotating device old stage')), w.credentialLocks,
      deviceLocks'⟩ := by
  have hfits : RotationFits w.db w.credentialLocks k hash new now device old stage :=
    h.fits_of hcall
  refine h.turn (.same fun id => by rw [hdevices])
    (.same (fun id => by rw [hcredentials]) hseq fun _ _ _ hlock => hlock)
    (h.access.kept fun id c hc => ⟨c, hcredentials ▸ hc, rfl⟩)
    (h.refresh.kept fun id c hc => ⟨c, hcredentials ▸ hc, rfl⟩)
    ⟨?_, ?_, fun _ => ?_, fun row hrow' => ?_⟩ ⟨fun id hdrawn => ?_, fun d hholding => ?_, ?_⟩ ?_
  · rw [hdevices]
    exact hfits.sameDevice
  · rw [hcredentials]
    exact hfits.sameRow
  · rw [hcredentials]
    exact hfits.held hstage
  · rw [hcredentials]
    rcases hrow row hrow' with hsame | ⟨hnew, hlt, hle⟩
    · obtain ⟨hnew, hle, hunused⟩ := hfits.unused row hsame
      exact ⟨hnew, Int.le_trans hle hseq, hunused⟩
    · refine ⟨hnew, hle, ?_⟩
      by_contra htaken
      obtain ⟨c, hc⟩ := Option.ne_none_iff_exists'.mp htaken
      have hid := (w.db.credential_id _ c hc).2
      omega
  · rw [PgCall.drawn_rotating, Option.map_eq_some_iff] at hdrawn
    obtain ⟨row, hrow', rfl⟩ := hdrawn
    rcases hrow row hrow' with hsame | ⟨-, hlt, -⟩
    · left
      rw [hcall, PgCall.drawn_rotating, hsame]
      rfl
    · refine .inr fun j hother => ?_
      have hle := (h.unused_of_drawn hother).1
      omega
  · left
    rw [hcall, PgCall.holding_rotating _ _ _ _ _ hstage]
    rw [PgCall.holding_rotating _ _ _ _ _ hstage'] at hholding
    exact hholding
  · intro d hrevoking
    cases hrevoking
  · intro r hr
    refine ⟨fun id => ?_, fun publicId id => ?_, fun id => ?_⟩
    · rw [hdevices]
      exact hr.devices id
    · rw [hdevices]
      exact hr.byPublicId publicId id
    · rw [hcredentials]
      exact hr.credentials id

/-- A rotation commits. -/
theorem commit (h : w.Inv) {hash : String} {new : NewCredential} {now : Time} {device : Device}
    {old row : DeviceCredential}
    (hcall : w.calls k = .running (.rotateRefresh hash new now)
      (.rotating device old (.touched row)))
    (hfresh : w.db.IsFresh new) :
    Turn w k (({ w with db := w.db.rotated old.id row device.id now }.release old.id
      (some device.id)).returns k (.rotateRefresh hash new now) (.ok (.pair (device, row)))) := by
  have hfits : RotationFits w.db w.credentialLocks k hash new now device old (.touched row) :=
    h.fits_of hcall
  obtain ⟨hlock, hold, hlive, hexpires, hactive, hsame⟩ := hfits.held nofun
  obtain ⟨⟨clock, hrow⟩, hle, hunused⟩ := hfits.unused row rfl
  obtain ⟨d, hfinds, hundated, hid, -, hdevice, hstatus⟩ := h.finds hfits hold hlive
  have hrowDevice : row.deviceId = old.deviceId := by
    rw [hrow]
    exact hsame.trans hdevice.symm
  have hrotated := Database.rotated_eq hfinds row now hle hrowDevice
  have hrows := Database.lookup_rotated hfinds now hle hrowDevice
  have hexplains : ∀ r, Mirrors w.db r → Explains r (.rotateRefresh hash new now)
      (.ok (.pair (device, row))) (w.db.rotated old.id row d.id now) := fun r hr => by
    rw [hrow] at hle hunused ⊢
    exact .rotated hr hfinds hexpires (hstatus.trans hactive) (hsame.trans hdevice.symm) hle
      hunused hundated
  rw [hid] at hrotated hrows hexplains
  obtain ⟨hstored, hrotated⟩ := hrotated
  have hfreshRow : (w.db.revoke [old.id] now).IsFresh new := hfresh.revoke [old.id] now
  refine h.turn (.touched (by rw [hrotated]; rfl)) ?_ ?_ ?_ trivial (.returned _ _) hexplains
  · refine .rotated row hrows hunused hlock (fun j hj => ⟨fun hdrawn => ?_, fun hrevoking => ?_,
      fun hrevoked => ?_⟩) (by rw [hrotated]; exact Int.le_refl _)
    · exact hj (h.drawn j k row.id hdrawn (by rw [hcall]; rfl))
    · refine h.apart k j device.id (by rw [hcall]; rfl) ?_
      rw [hrevoking, hrowDevice, hdevice]
    · exact h.not_live_of_revoked (hrowDevice ▸ hrevoked) hold hlive
  · exact (h.access.revoke (fun _ _ => rfl) [old.id] now).insert row hrows
      (hrow ▸ hfreshRow.access)
  · exact (h.refresh.revoke (fun _ _ => rfl) [old.id] now).insert row hrows
      (hrow ▸ hfreshRow.refresh)

/-- A rotation that holds the lock goes on. -/
theorem holding (h : w.Inv) {hash : String} {new : NewCredential} {now clock : Time}
    {device : Device} {old : DeviceCredential} {stage : RotationStage} (hstage : stage ≠ .selecting)
    (hcall : w.calls k = .running (.rotateRefresh hash new now) (.rotating device old stage))
    (hfresh : ∀ row, stage = .touched row → w.db.IsFresh new)
    (hstep : w.rotate k hash new now device old clock stage = some w') : Turn w k w' := by
  have hfits : RotationFits w.db w.credentialLocks k hash new now device old stage :=
    h.fits_of hcall
  obtain ⟨-, hold, hlive, -, -, hsame⟩ := hfits.held hstage
  cases stage with
  | selecting => exact absurd rfl hstage
  | locked =>
    unfold rotate at hstep
    dsimp only at hstep
    rw [if_pos (Database.isLive_iff.mpr ⟨old, hold, hlive⟩)] at hstep
    exact Option.some.inj hstep ▸
      h.nextStatement hcall nofun nofun rfl rfl (Int.le_refl _) fun row hrow => by cases hrow
  | revoked =>
    obtain ⟨d, hd, -⟩ := hfits.sameDevice
    unfold rotate at hstep
    dsimp only at hstep
    rw [hsame, hd, Option.isSome_some, if_pos rfl] at hstep
    refine Option.some.inj hstep ▸
      h.nextStatement hcall nofun nofun rfl rfl ?_ fun row hrow => .inr ?_
    · show w.db.credentialsIdSeq ≤ w.db.credentialsIdSeq + 1
      omega
    · obtain rfl := Option.some.inj hrow
      refine ⟨⟨clock, rfl⟩, ?_, Int.le_refl _⟩
      show w.db.credentialsIdSeq < w.db.credentialsIdSeq + 1
      omega
  | inserted row =>
    unfold rotate at hstep
    dsimp only at hstep
    split_ifs at hstep
    exact Option.some.inj hstep ▸
      h.nextStatement hcall nofun nofun rfl rfl (Int.le_refl _) fun row' hrow => .inl hrow
  | touched row => exact Option.some.inj hstep ▸ h.commit hcall (hfresh row rfl)

/-- A call goes on. -/
theorem resume (h : w.Inv) {clock : Time} (hundisturbed : Undisturbed w (.resume k clock))
    (hstep : w.resume k clock = some w') : Turn w k w' := by
  have hunhindered : Unhindered w (w.calls k) := hundisturbed
  unfold PgWorld.resume at hstep
  split at hstep
  · rename_i publicId at_ hcall
    rw [hcall] at hunhindered
    dsimp only at hstep
    split at hstep
    · rename_i hnone
      refine Option.some.inj hstep ▸ h.goesOn (Database.deleted_of_byPublicId fun d hd => ?_)
        (.nothing rfl rfl rfl) fun r hr => hr
      rw [hnone] at hd
      cases hd
    · rename_i d hd
      split_ifs at hstep with hlocked hdeleted
      · refine Option.some.inj hstep ▸ h.goesOn (Database.deleted_of_byPublicId fun d' hd' => ?_)
          (.nothing rfl rfl rfl) fun r hr => hr
        obtain rfl := Option.some.inj (hd.symm.trans hd')
        exact hdeleted
      · exact Option.some.inj hstep ▸ h.markDeleted at_ hd hdeleted hunhindered
  · rename_i publicId at_ hcall
    exact Option.some.inj hstep ▸ h.answers trivial fun r hr =>
      .lookedAgain hr publicId at_ (h.fits_of hcall)
  · rename_i credentialId at_ hcall
    dsimp only at hstep
    split_ifs at hstep with hlocked hlive
    · exact Option.some.inj hstep ▸ h.revokeCredential at_ (Bool.eq_false_iff.mpr hlocked) hlive
    · exact Option.some.inj hstep ▸ h.answers trivial fun r hr =>
        .revokeCredential_none hr at_ (Bool.eq_false_iff.mpr hlive)
  · rename_i deviceId at_ ids hcall
    split_ifs at hstep with hlocked
    refine Option.some.inj hstep ▸ h.revokeAll at_ (h.fits_of hcall) fun id hid => ?_
    exact Bool.eq_false_iff.mpr fun hother => hlocked (List.any_eq_true.mpr ⟨id, hid, hother⟩)
  · rename_i deviceId at_ hcall
    split_ifs at hstep with hlocked
    obtain ⟨d, hd⟩ := h.fits_of hcall
    exact Option.some.inj hstep ▸ h.touch at_ hd
  · rename_i hash new now device old stage hcall
    rw [hcall] at hunhindered
    by_cases hstage : stage = .selecting
    · subst hstage
      exact h.selecting (h.fits_of hcall) hunhindered hstep
    · refine h.holding hstage hcall (fun row htouched => ?_) hstep
      subst htouched
      exact hunhindered
  · cases hstep

end PgWorld.Inv

/-! ## Runs -/

/-- The call of a step. -/
def PgStep.call : PgStep → Nat
  | .start k _ _ => k
  | .resume k _ => k

variable {db₀ : Database} {r₀ : MemoryDeviceRepo}

/-- **A step** keeps the invariant, is accounted for, and is not one of a call that has returned. -/
theorem turn_of_step {w w' : PgWorld} {e : PgStep} (h : w.Inv) (hundisturbed : Undisturbed w e)
    (hstep : (postgres db₀).step w e = some w') :
    Turn w e.call w' ∧ w.results e.call = none := by
  cases e with
  | start k call now =>
    simp only [postgres] at hstep
    split at hstep
    · rename_i hidle
      refine ⟨Option.some.inj hstep ▸ h.start hundisturbed, ?_⟩
      show (w.calls k).result = none
      rw [hidle]
      rfl
    · cases hstep
  | resume k clock =>
    refine ⟨h.resume hundisturbed hstep, ?_⟩
    show (w.calls k).result = none
    rcases hcall : w.calls k with _ | ⟨call, phase⟩ | ⟨call, outcome⟩
    · rfl
    · rfl
    · have hstep' : w.resume k clock = some w' := hstep
      unfold PgWorld.resume at hstep'
      rw [hcall] at hstep'
      cases hstep'

/-- The results after a step. -/
theorem Turn.results {w w' : PgWorld} {k : Nat} (h : Turn w k w') :
    w'.results = Function.update w.results k (w'.calls k).result := by
  funext j
  by_cases hj : j = k
  · rw [hj, Function.update_self]
    rfl
  · rw [Function.update_of_ne hj]
    exact congrArg PgCall.result (h.others j hj)

/-- A step of a call that has not returned: nothing returns, or the repository in memory gives the
call its outcome. -/
theorem Turn.serial {w w' : PgWorld} {k : Nat} (h : Turn w k w') (hnone : w.results k = none)
    {r : MemoryDeviceRepo} (hr : Mirrors w.db r) :
    (w'.results = w.results ∧ Mirrors w'.db r) ∨
    ∃ k call outcome r', w.results k = none ∧
      w'.results = Function.update w.results k (some (call, outcome)) ∧
      MemoryDeviceRepo.Asks r call outcome r' ∧ Mirrors w'.db r' := by
  have haccounts := h.accounts
  have hresults := h.results
  rcases hcall : w'.calls k with _ | ⟨call, phase⟩ | ⟨call, outcome⟩
  all_goals rw [hcall] at haccounts hresults
  · exact .inl ⟨hresults.trans (Function.update_eq_self_iff.mpr hnone.symm), haccounts r hr⟩
  · exact .inl ⟨hresults.trans (Function.update_eq_self_iff.mpr hnone.symm), haccounts r hr⟩
  · obtain ⟨r', hasks, hr'⟩ := haccounts r hr
    exact .inr ⟨k, call, outcome, r', hnone, hresults, hasks, hr'⟩

/-- Nothing is under way before the first call. -/
theorem PgWorld.Inv.new (haccess : Distinct DeviceCredential.tokenHash db₀)
    (hrefresh : Distinct DeviceCredential.refreshTokenHash db₀) : (PgWorld.new db₀).Inv where
  access := haccess
  refresh := hrefresh
  fits _ := trivial
  drawn _ _ _ h := by cases h
  apart _ _ _ h := by cases h

/-- Without rows no two credentials have the same hash. -/
theorem Distinct.empty (hash : DeviceCredential → String) : Distinct hash .empty := by
  intro id c id' c' hc
  rw [show Database.empty.credentials = ∅ from rfl, AList.lookup_empty] at hc
  cases hc

/-- The empty repository has the rows of the empty database. -/
theorem Mirrors.empty : Mirrors .empty .new := by
  refine ⟨fun _ => rfl, fun publicId id => ⟨fun h => ?_, ?_⟩, fun _ => rfl⟩
  · cases h
  · rintro ⟨d, hd, -⟩
    cases hd

/-- **The back ends agree**: calls on Postgres whose steps nothing gets in the way of have a
sequential order on the repository in memory that gives each its outcome and ends with the same
devices and credentials, up to ids and timestamps; and once all credentials of a device have been
revoked, it has none that is not. -/
theorem back_ends_agree (hmirrors : Mirrors db₀ r₀)
    (haccess : Distinct DeviceCredential.tokenHash db₀)
    (hrefresh : Distinct DeviceCredential.refreshTokenHash db₀) {w : PgWorld}
    (hw : (postgres db₀).ReachableVia Undisturbed w) :
    (∃ r, Mirrors w.db r ∧ Serial MemoryDeviceRepo.Asks w.results r₀ r) ∧
      ∀ k deviceId at_ outcome, w.calls k = .returned (.revokeAllForDevice deviceId at_) outcome →
        ∀ id c, w.db.credentials.lookup id = some c → c.deviceId = deviceId →
          c.revokedAt ≠ none := by
  have hrun : w.Inv ∧ ∃ r, Mirrors w.db r ∧ Serial MemoryDeviceRepo.Asks w.results r₀ r := by
    refine System.serial (R := fun w r => Mirrors w.db r) (I := PgWorld.Inv) ?_ ?_ ?_ hw
    · rintro _ rfl
      exact ⟨.new haccess hrefresh, hmirrors, fun _ => rfl⟩
    · intro w e w' hinv hundisturbed hstep
      exact (turn_of_step hinv hundisturbed hstep).1.inv
    · intro w e w' r hinv hr hundisturbed hstep
      obtain ⟨hturn, hnone⟩ := turn_of_step hinv hundisturbed hstep
      exact hturn.serial hnone hr
  obtain ⟨hinv, hserial⟩ := hrun
  refine ⟨hserial, fun k deviceId at_ outcome hcall => ?_⟩
  exact hinv.fits_of hcall

theorem back_ends_agree_live : ∃ w : PgWorld,
    w.results 2 = some (.revokeAllForDevice 1 4, .ok .done) ∧
      (∃ r, Mirrors w.db r ∧ Serial MemoryDeviceRepo.Asks w.results .new r) ∧
      ∀ k deviceId at_ outcome, w.calls k = .returned (.revokeAllForDevice deviceId at_) outcome →
        ∀ id c, w.db.credentials.lookup id = some c → c.deviceId = deviceId →
          c.revokedAt ≠ none := by
  have hnew : (postgres .empty).ReachableVia Undisturbed (.new .empty) := .init rfl
  have hcreate : Undisturbed (.new .empty) (.start 0 (.createDevice ⟨"d", none, [], none⟩) 1) :=
    fun _ j hother => by cases hother
  have hcreated := hnew.step hcreate rfl
  have hinsert : Undisturbed ((PgWorld.new .empty).start 0 (.createDevice ⟨"d", none, [], none⟩) 1)
      (.start 1 (.insertCredential ⟨1, "a", "r", 10, 20⟩) 2) := by
    refine ⟨⟨_, rfl⟩, ⟨?_, ?_⟩, fun j => ?_⟩
    · intro id c hc
      cases hc
    · intro id c hc
      cases hc
    · rcases j with _ | j
      · exact ⟨nofun, nofun⟩
      · exact ⟨nofun, nofun⟩
  have hinserted := hcreated.step hinsert rfl
  have hrevoke : Undisturbed (((PgWorld.new .empty).start 0
      (.createDevice ⟨"d", none, [], none⟩) 1).start 1
        (.insertCredential ⟨1, "a", "r", 10, 20⟩) 2)
      (.start 2 (.revokeAllForDevice 1 4) 3) := by
    intro j
    rcases j with _ | _ | j
    · exact nofun
    · exact nofun
    · exact nofun
  have hrevoking := hinserted.step hrevoke rfl
  have hrevoked := System.ReachableVia.step (e := PgStep.resume 2 4) hrevoking trivial rfl
  exact ⟨_, rfl, back_ends_agree .empty (.empty _) (.empty _) hrevoked⟩

/-! ## Where they do not -/

/-- The repository in memory does not report a device that is missing as an internal error. -/
theorem MemoryDeviceRepo.not_asks_fkeyViolation (r r' : MemoryDeviceRepo) (new : NewCredential) :
    ¬r.Asks (.insertCredential new) (.error fkeyViolation) r' := by
  rintro ⟨now, deviceId, credentialId, -, -, hsame, -⟩
  unfold SameOutcome answer insertLocked at hsame
  dsimp only at hsame
  obtain ⟨-, hmissing⟩ | ⟨-, hinserted⟩ :=
    (r.recount deviceId credentialId).insertCredentialLocked_cases new now
  · rw [hmissing] at hsame
    cases hsame
  · rw [hinserted, saving_saves] at hsame
    cases hsame

/-- A credential of the first device. -/
def firstDevices (tokenHash refreshTokenHash : String) : NewCredential :=
  ⟨1, tokenHash, refreshTokenHash, 10, 20⟩

/-- A revocation of all credentials waits for a rotation, and then misses the replacement. -/
def missedReplacement : List PgStep :=
  [.start 0 (.createDevice ⟨"d", none, [], none⟩) 1,
    .start 1 (.insertCredential (firstDevices "a" "r")) 2,
    .start 2 (.rotateRefresh "r" (firstDevices "b" "s") 3) 3, .resume 2 3, .resume 2 3,
    .start 3 (.revokeAllForDevice 1 4) 4, .resume 2 4, .resume 2 4, .resume 2 4, .resume 3 5,
    .start 4 (.softDelete "d" 6) 6, .resume 4 6]

/-- An insertion for a device that is not there has an outcome that no order gives in memory, and a
credential outlives a revocation of all credentials and the deletion of its device. -/
theorem back_ends_differ :
    (∃ w, (postgres .empty).Reachable w ∧
      ¬∃ r, Mirrors w.db r ∧ Serial MemoryDeviceRepo.Asks w.results .new r) ∧
    ∃ w, (postgres .empty).Reachable w ∧
      w.results 3 = some (.revokeAllForDevice 1 4, .ok .done) ∧
      w.results 4 = some (.softDelete "d" 6, .ok (.flag true)) ∧
      ∃ c, w.db.credentials.lookup 2 = some c ∧ c.deviceId = 1 ∧ c.revokedAt = none := by
  have hnew : (postgres .empty).Reachable (.new .empty) := .init rfl
  constructor
  · have hstep : (postgres .empty).step (.new .empty)
        (.start 0 (.insertCredential (firstDevices "a" "r")) 1) = some _ := rfl
    refine ⟨_, .step hnew trivial hstep, ?_⟩
    rintro ⟨r, -, hserial⟩
    obtain ⟨b, b', hasks⟩ := hserial.asked (k := 0) rfl
    exact b.not_asks_fkeyViolation b' _ hasks
  · have hrun : ∃ w, (postgres .empty).runFrom (.new .empty) missedReplacement = some w ∧
        w.results 3 = some (.revokeAllForDevice 1 4, .ok .done) ∧
        w.results 4 = some (.softDelete "d" 6, .ok (.flag true)) ∧
        ∃ c, w.db.credentials.lookup 2 = some c ∧ c.deviceId = 1 ∧ c.revokedAt = none :=
      ⟨_, rfl, rfl, rfl, _, rfl, rfl, rfl⟩
    obtain ⟨w, hw, hresults⟩ := hrun
    exact ⟨w, System.reachable_of_runFrom hnew hw, hresults⟩

end RemoteLink.Repo
