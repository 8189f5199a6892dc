import RemoteLink.Repo.Mirror

set_option autoImplicit false

/-!
# Calls that do not get in each other's way

A call in Postgres relies on rows that it has read: a rotation on its device and its credential, a
revocation of all credentials on those that are live, a deletion on what it did not find. Other
calls run statements in between. A step does not get in the way of what other calls rely on, unless
it meets one of four things that the statements do not guard against: a credential for a device that
is not there, or whose credentials are being revoked; a revocation of all credentials next to a
rotation; a deletion next to a rotation; an enrolment between the two statements of a deletion.

## Main definitions

* `Undisturbed` — a step that meets none of these.
* `PgCall.Fits` — what a call under way relies on.
* `PgWorld.Inv` — the invariant of undisturbed runs.
* `Turn` — a step of a call that the repository in memory accounts for.

## Main results

* `PgCall.Fits.kept` — a call keeps what it relies on when another call takes a step.
* `PgWorld.Inv.turn` — the rule of steps.
-/

namespace RemoteLink.Repo

open RemoteLink.Library
open RemoteLink.Server (Time DeviceStatus)

/-! ## Calls under way -/

namespace PgCall

/-- The device of a rotation. -/
def rotating : PgCall → Option Device
  | .running (.rotateRefresh _ _ _) (.rotating device _ _) => some device
  | _ => none

/-- The device of a rotation that holds the lock on its credential. -/
def holding : PgCall → Option Int
  | .running (.rotateRefresh _ _ _) (.rotating _ _ .selecting) => none
  | .running (.rotateRefresh _ _ _) (.rotating device _ _) => some device.id
  | _ => none

/-- The id that a rotation has drawn for its replacement. -/
def drawn : PgCall → Option Int
  | .running (.rotateRefresh _ _ _) (.rotating _ _ (.inserted row)) => some row.id
  | .running (.rotateRefresh _ _ _) (.rotating _ _ (.touched row)) => some row.id
  | _ => none

/-- The device whose credentials are being revoked. -/
def revoking : PgCall → Option Int
  | .running (.revokeAllForDevice deviceId _) (.revoking _) => some deviceId
  | _ => none

/-- The device whose credentials have been revoked. -/
def revoked : PgCall → Option Int
  | .returned (.revokeAllForDevice deviceId _) _ => some deviceId
  | _ => none

/-- The public id of a deletion before its second statement. -/
def lookingAgain : PgCall → Option String
  | .running (.softDelete publicId _) .lookingAgain => some publicId
  | _ => none

/-- A call that has returned, with its outcome. -/
def result : PgCall → Option (RepoCall × RepoOutcome)
  | .returned call outcome => some (call, outcome)
  | _ => none

end PgCall

/-- The calls that have returned. -/
def PgWorld.results (w : PgWorld) (k : Nat) : Option (RepoCall × RepoOutcome) := (w.calls k).result

/-- The hashes of a new credential are not in the tables. -/
structure Database.IsFresh (db : Database) (new : NewCredential) : Prop where
  access : ∀ id c, db.credentials.lookup id = some c → c.tokenHash ≠ new.tokenHash
  refresh : ∀ id c, db.credentials.lookup id = some c → c.refreshTokenHash ≠ new.refreshTokenHash

/-- A call goes on that nothing gets in the way of: a device is deleted while no rotation of it is
under way, a rotation gets its lock while the credentials of its device are not being revoked, and
its replacement has new hashes. -/
def Unhindered (w : PgWorld) : PgCall → Prop
  | .running (.softDelete publicId _) .updating =>
    ∀ j d, (w.calls j).rotating = some d → d.publicId ≠ publicId
  | .running (.rotateRefresh _ _ _) (.rotating device _ .selecting) =>
    ∀ j, (w.calls j).revoking ≠ some device.id
  | .running (.rotateRefresh _ new _) (.rotating _ _ (.touched _)) => w.db.IsFresh new
  | _ => True

/-- **A step that nothing gets in the way of.** An enrolment finds its public id taken, or no
deletion is about to look for it again. A credential is inserted with new hashes for a device that
is there and whose credentials are not being or have been revoked. All credentials of a device are
revoked while no rotation holds one of them. -/
def Undisturbed (w : PgWorld) : PgStep → Prop
  | .start _ (.createDevice new) _ =>
    w.db.byPublicId new.publicId = none → ∀ j, (w.calls j).lookingAgain ≠ some new.publicId
  | .start _ (.insertCredential new) _ =>
    (∃ d, w.db.devices.lookup new.deviceId = some d) ∧ w.db.IsFresh new ∧
      ∀ j, (w.calls j).revoking ≠ some new.deviceId ∧ (w.calls j).revoked ≠ some new.deviceId
  | .start _ (.revokeAllForDevice deviceId _) _ => ∀ j, (w.calls j).holding ≠ some deviceId
  | .start _ _ _ => True
  | .resume k _ => Unhindered w (w.calls k)

/-! ## What a call relies on -/

/-- The row that a rotation has drawn an id for. -/
def RotationStage.row : RotationStage → Option DeviceCredential
  | .inserted row => some row
  | .touched row => some row
  | _ => none

/-- What a rotation relies on: its device and its credential are still those that it read, and once
it has the lock the credential stays live, and the id that it has drawn is not taken. -/
structure RotationFits (db : Database) (locks : Int → Option Nat) (k : Nat) (hash : String)
    (new : NewCredential) (now : Time) (device : Device) (old : DeviceCredential)
    (stage : RotationStage) : Prop where
  sameDevice : ∃ d, db.devices.lookup device.id = some d ∧ device.undated = d.undated
  sameRow : ∃ c, db.credentials.lookup old.id = some c ∧ c.deviceId = device.id ∧
    c.refreshTokenHash = hash
  held : stage ≠ .selecting → locks old.id = some k ∧ db.credentials.lookup old.id = some old ∧
    old.revokedAt = none ∧ ¬old.expiresAt < now ∧ device.status = .active ∧
    new.deviceId = device.id
  unused : ∀ row, stage.row = some row → (∃ clock, row = new.row row.id clock) ∧
    row.id ≤ db.credentialsIdSeq ∧ db.credentials.lookup row.id = none

/-- What a call relies on. A deletion that looks again finds nothing to delete, a device that is
touched stays, all the live credentials of a device are those that a revocation has read, and none
is left when it has returned. -/
def PgCall.Fits (db : Database) (locks : Int → Option Nat) (k : Nat) : PgCall → Prop
  | .running (.softDelete publicId _) .lookingAgain =>
    ∀ id d, db.devices.lookup id = some d → d.publicId = publicId → d.status = .deleted
  | .running (.touchLastSeen deviceId _) .updating => ∃ d, db.devices.lookup deviceId = some d
  | .running (.revokeAllForDevice deviceId _) (.revoking ids) =>
    (∀ id ∈ ids, ∃ c, db.credentials.lookup id = some c ∧ c.deviceId = deviceId) ∧
      ∀ id c, db.credentials.lookup id = some c → c.deviceId = deviceId → c.revokedAt = none →
        id ∈ ids
  | .running (.rotateRefresh hash new now) (.rotating device old stage) =>
    RotationFits db locks k hash new now device old stage
  | .returned (.revokeAllForDevice deviceId _) _ =>
    ∀ id c, db.credentials.lookup id = some c → c.deviceId = deviceId → c.revokedAt ≠ none
  | _ => True

/-- **The invariant of undisturbed runs.** -/
structure PgWorld.Inv (w : PgWorld) : Prop where
  access : Distinct DeviceCredential.tokenHash w.db
  refresh : Distinct DeviceCredential.refreshTokenHash w.db
  fits : ∀ k, (w.calls k).Fits w.db w.credentialLocks k
  drawn : ∀ j k id, (w.calls j).drawn = some id → (w.calls k).drawn = some id → j = k
  apart : ∀ j k d, (w.calls j).holding = some d → (w.calls k).revoking ≠ some d

/-- Rows of devices that the calls other than `k` keep relying on: a device stays, and is deleted
only if no other call rotates a credential of it; a new one is not what a deletion looks for. -/
structure DevicesKept (w : PgWorld) (k : Nat) (db' : Database) : Prop where
  stays : ∀ id d, w.db.devices.lookup id = some d → ∃ d', db'.devices.lookup id = some d' ∧
    d'.publicId = d.publicId ∧ (d.status = .deleted → d'.status = .deleted) ∧
    ∀ j e, j ≠ k → (w.calls j).rotating = some e → e.id = id → d'.undated = d.undated
  came : ∀ id d', db'.devices.lookup id = some d' → w.db.devices.lookup id = none →
    ∀ j, j ≠ k → (w.calls j).lookingAgain ≠ some d'.publicId

/-- Rows and locks of credentials that the calls other than `k` keep relying on: a credential keeps
its device and hash and is not live again, and is kept when another call has the lock on it; a new
one has an id that no other call has drawn, and a device whose credentials are not being revoked. -/
structure CredentialsKept (w : PgWorld) (k : Nat) (db' : Database)
    (locks' : Int → Option Nat) : Prop where
  stays : ∀ id c, w.db.credentials.lookup id = some c → ∃ c', db'.credentials.lookup id = some c' ∧
    c'.deviceId = c.deviceId ∧ c'.refreshTokenHash = c.refreshTokenHash ∧
    (c'.revokedAt = none → c.revokedAt = none) ∧
    ∀ j, j ≠ k → w.credentialLocks id = some j → c' = c
  came : ∀ id c', db'.credentials.lookup id = some c' → w.db.credentials.lookup id = none →
    ∀ j, j ≠ k → (w.calls j).drawn ≠ some id ∧ (w.calls j).revoking ≠ some c'.deviceId ∧
      (w.calls j).revoked ≠ some c'.deviceId
  seq : w.db.credentialsIdSeq ≤ db'.credentialsIdSeq
  locks : ∀ id j, j ≠ k → w.credentialLocks id = some j → locks' id = some j

section

variable {w : PgWorld} {k j : Nat} {db' : Database} {locks' : Int → Option Nat}

/-- The id of a rotation's replacement is drawn. -/
theorem PgCall.drawn_rotating (hash : String) (new : NewCredential) (now : Time) (device : Device)
    (old : DeviceCredential) (stage : RotationStage) :
    (PgCall.running (.rotateRefresh hash new now) (.rotating device old stage)).drawn =
      stage.row.map DeviceCredential.id := by
  cases stage <;> rfl

/-- A rotation past its first statement holds its credential. -/
theorem PgCall.holding_rotating (hash : String) (new : NewCredential) (now : Time)
    (device : Device) (old : DeviceCredential) {stage : RotationStage}
    (hstage : stage ≠ .selecting) :
    (PgCall.running (.rotateRefresh hash new now) (.rotating device old stage)).holding =
      some device.id := by
  cases stage with
  | selecting => exact absurd rfl hstage
  | _ => rfl

/-- **A rotation keeps what it relies on** when another call takes a step. -/
theorem RotationFits.kept {hash : String} {new : NewCredential} {now : Time} {device : Device}
    {old : DeviceCredential} {stage : RotationStage} (hj : j ≠ k)
    (hcall : w.calls j = .running (.rotateRefresh hash new now) (.rotating device old stage))
    (hdevices : DevicesKept w k db') (hcredentials : CredentialsKept w k db' locks')
    (h : RotationFits w.db w.credentialLocks j hash new now device old stage) :
    RotationFits db' locks' j hash new now device old stage where
  sameDevice := by
    obtain ⟨d, hd, hundated⟩ := h.sameDevice
    obtain ⟨d', hd', -, -, hsame⟩ := hdevices.stays device.id d hd
    have hrotating : (w.calls j).rotating = some device := by rw [hcall]; rfl
    exact ⟨d', hd', hundated.trans (hsame j device hj hrotating rfl).symm⟩
  sameRow := by
    obtain ⟨c, hc, hdevice, hhash⟩ := h.sameRow
    obtain ⟨c', hc', hdevice', hhash', -, -⟩ := hcredentials.stays old.id c hc
    exact ⟨c', hc', hdevice'.trans hdevice, hhash'.trans hhash⟩
  held hstage := by
    obtain ⟨hlock, hold, hrest⟩ := h.held hstage
    obtain ⟨c', hc', -, -, -, hsame⟩ := hcredentials.stays old.id old hold
    rw [hsame j hj hlock] at hc'
    exact ⟨hcredentials.locks old.id j hj hlock, hc', hrest⟩
  unused row hrow := by
    obtain ⟨hnew, hid, hunused⟩ := h.unused row hrow
    refine ⟨hnew, Int.le_trans hid hcredentials.seq, ?_⟩
    by_contra htaken
    obtain ⟨c', hc'⟩ := Option.ne_none_iff_exists'.mp htaken
    refine (hcredentials.came row.id c' hc' hunused j hj).1 ?_
    rw [hcall, PgCall.drawn_rotating, hrow]
    rfl

/-- **A call keeps what it relies on** when another call takes a step. -/
theorem PgCall.Fits.kept (hj : j ≠ k) (hdevices : DevicesKept w k db')
    (hcredentials : CredentialsKept w k db' locks')
    (h : (w.calls j).Fits w.db w.credentialLocks j) :
    (w.calls j).Fits db' locks' j := by
  rcases hcall : w.calls j with _ | ⟨call, phase⟩ | ⟨call, outcome⟩
  · trivial
  · rw [hcall] at h
    cases call with
    | softDelete publicId at_ =>
      cases phase with
      | lookingAgain =>
        intro id d' hd' hpublic
        rcases hd : w.db.devices.lookup id with _ | d
        · refine absurd ?_ (hdevices.came id d' hd' hd j hj)
          rw [hcall, hpublic]
          rfl
        · obtain ⟨d₁, hd₁, hpublic₁, hdeleted, -⟩ := hdevices.stays id d hd
          obtain rfl := Option.some.inj (hd₁.symm.trans hd')
          exact hdeleted (h id d hd (hpublic₁.symm.trans hpublic))
      | _ => trivial
    | touchLastSeen deviceId at_ =>
      cases phase with
      | updating =>
        obtain ⟨d, hd⟩ := h
        obtain ⟨d', hd', -⟩ := hdevices.stays deviceId d hd
        exact ⟨d', hd'⟩
      | _ => trivial
    | revokeAllForDevice deviceId at_ =>
      cases phase with
      | revoking ids =>
        refine ⟨fun id hid => ?_, fun id c' hc' hdevice' hlive => ?_⟩
        · obtain ⟨c, hc, hdevice⟩ := h.1 id hid
          obtain ⟨c', hc', hdevice', -⟩ := hcredentials.stays id c hc
          exact ⟨c', hc', hdevice'.trans hdevice⟩
        rcases hc : w.db.credentials.lookup id with _ | c
        · refine absurd ?_ (hcredentials.came id c' hc' hc j hj).2.1
          rw [hcall, hdevice']
          rfl
        · obtain ⟨c₁, hc₁, hdevice, -, hlive', -⟩ := hcredentials.stays id c hc
          obtain rfl := Option.some.inj (hc₁.symm.trans hc')
          exact h.2 id c hc (hdevice.symm.trans hdevice') (hlive' hlive)
      | _ => trivial
    | rotateRefresh hash new now =>
      cases phase with
      | rotating device old stage => exact RotationFits.kept hj hcall hdevices hcredentials h
      | _ => trivial
    | _ => trivial
  · rw [hcall] at h
    cases call with
    | revokeAllForDevice deviceId at_ =>
      intro id c' hc' hdevice' hlive
      rcases hc : w.db.credentials.lookup id with _ | c
      · refine (hcredentials.came id c' hc' hc j hj).2.2 ?_
        rw [hcall, hdevice']
        rfl
      · obtain ⟨c₁, hc₁, hdevice, -, hlive', -⟩ := hcredentials.stays id c hc
        obtain rfl := Option.some.inj (hc₁.symm.trans hc')
        exact h id c hc (hdevice.symm.trans hdevice') (hlive' hlive)
    | _ => trivial

/-- A call does not hold a credential and revoke. -/
theorem PgCall.revoking_of_holding {c : PgCall} {d : Int} (h : c.holding = some d) :
    c.revoking = none := by
  rcases c with _ | ⟨call, phase⟩ | _
  · cases h
  · cases call with
    | revokeAllForDevice deviceId at_ => cases h
    | _ => rfl
  · cases h

end

/-! ### What the invariant says of a call -/

namespace PgCall

variable {c : PgCall}

theorem rotating_some {device : Device} (h : c.rotating = some device) :
    ∃ hash new now old stage,
      c = .running (.rotateRefresh hash new now) (.rotating device old stage) := by
  unfold rotating at h
  split at h
  · rename_i hash new now device' old stage
    obtain rfl := Option.some.inj h
    exact ⟨hash, new, now, old, stage, rfl⟩
  · cases h

theorem drawn_some {id : Int} (h : c.drawn = some id) : ∃ hash new now device old stage row,
    c = .running (.rotateRefresh hash new now) (.rotating device old stage) ∧
      RotationStage.row stage = some row ∧ row.id = id := by
  unfold drawn at h
  split at h
  · rename_i row
    exact ⟨_, _, _, _, _, _, row, rfl, rfl, Option.some.inj h⟩
  · rename_i row
    exact ⟨_, _, _, _, _, _, row, rfl, rfl, Option.some.inj h⟩
  · cases h

theorem revoked_some {deviceId : Int} (h : c.revoked = some deviceId) :
    ∃ at_ outcome, c = .returned (.revokeAllForDevice deviceId at_) outcome := by
  unfold revoked at h
  split at h
  · rename_i deviceId' at_ outcome
    obtain rfl := Option.some.inj h
    exact ⟨at_, outcome, rfl⟩
  · cases h

end PgCall

namespace PgWorld.Inv

variable {w : PgWorld} {j : Nat}

/-- What a call relies on, by what the call is. -/
theorem fits_of (h : w.Inv) {c : PgCall} (hcall : w.calls j = c) :
    c.Fits w.db w.credentialLocks j :=
  hcall ▸ h.fits j

/-- The device of a rotation is the one that it has read. -/
theorem device_of_rotating (h : w.Inv) {device : Device}
    (hrotating : (w.calls j).rotating = some device) :
    ∃ d, w.db.devices.lookup device.id = some d ∧ device.undated = d.undated := by
  obtain ⟨hash, new, now, old, stage, hcall⟩ := PgCall.rotating_some hrotating
  exact RotationFits.sameDevice (h.fits_of hcall)

/-- An id that has been drawn is not taken. -/
theorem unused_of_drawn (h : w.Inv) {id : Int} (hdrawn : (w.calls j).drawn = some id) :
    id ≤ w.db.credentialsIdSeq ∧ w.db.credentials.lookup id = none := by
  obtain ⟨hash, new, now, device, old, stage, row, hcall, hrow, rfl⟩ := PgCall.drawn_some hdrawn
  exact (RotationFits.unused (h.fits_of hcall) row hrow).2

/-- No credential is live whose device's credentials have been revoked. -/
theorem not_live_of_revoked (h : w.Inv) {c : DeviceCredential} {id : Int}
    (hrevoked : (w.calls j).revoked = some c.deviceId)
    (hc : w.db.credentials.lookup id = some c) : c.revokedAt ≠ none := by
  obtain ⟨at_, outcome, hcall⟩ := PgCall.revoked_some hrevoked
  exact h.fits_of hcall id c hc rfl

end PgWorld.Inv

/-! ## Steps -/

/-- What a call takes with a step is not taken by another. -/
structure Takes (w : PgWorld) (k : Nat) (call' : PgCall) : Prop where
  drawn : ∀ id, call'.drawn = some id →
    (w.calls k).drawn = some id ∨ ∀ j, (w.calls j).drawn ≠ some id
  holding : ∀ d, call'.holding = some d →
    (w.calls k).holding = some d ∨ ∀ j, (w.calls j).revoking ≠ some d
  revoking : ∀ d, call'.revoking = some d →
    (w.calls k).revoking = some d ∨ ∀ j, (w.calls j).holding ≠ some d

/-- What a step means for the repository in memory: it gives a call that returns the same outcome,
and has the rows that a call leaves that goes on. -/
def Accounts (db : Database) : PgCall → Database → Prop
  | .returned call outcome, db' => ∀ r, Mirrors db r → Explains r call outcome db'
  | _, db' => ∀ r, Mirrors db r → Mirrors db' r

/-- **A step of call `k`** that keeps the invariant and that the repository in memory accounts
for. -/
structure Turn (w : PgWorld) (k : Nat) (w' : PgWorld) : Prop where
  inv : w'.Inv
  others : ∀ j, j ≠ k → w'.calls j = w.calls j
  accounts : Accounts w.db (w'.calls k) w'.db

section

variable {w : PgWorld} {k : Nat} {call' : PgCall} {db' : Database}
  {locks' deviceLocks' : Int → Option Nat}

/-- A step that takes nothing. -/
theorem Takes.nothing (hdrawn : call'.drawn = none) (hholding : call'.holding = none)
    (hrevoking : call'.revoking = none) : Takes w k call' where
  drawn id h := by
    rw [hdrawn] at h
    cases h
  holding d h := by
    rw [hholding] at h
    cases h
  revoking d h := by
    rw [hrevoking] at h
    cases h

/-- A call that returns takes nothing. -/
theorem Takes.returned (call : RepoCall) (outcome : RepoOutcome) :
    Takes w k (.returned call outcome) :=
  .nothing rfl rfl rfl

/-- **The rule of steps**: other calls keep what they rely on, and this one has it. -/
theorem PgWorld.Inv.turn (h : w.Inv) (hdevices : DevicesKept w k db')
    (hcredentials : CredentialsKept w k db' locks')
    (haccess : Distinct DeviceCredential.tokenHash db')
    (hrefresh : Distinct DeviceCredential.refreshTokenHash db')
    (hfits : call'.Fits db' locks' k) (htakes : Takes w k call')
    (haccounts : Accounts w.db call' db') :
    Turn w k ⟨db', Function.update w.calls k call', locks', deviceLocks'⟩ where
  others j hj := Function.update_of_ne hj _ _
  accounts := by
    dsimp only
    rw [Function.update_self]
    exact haccounts
  inv := by
    refine ⟨haccess, hrefresh, fun j => ?_, fun i j id hi hj => ?_, fun i j d hi hj => ?_⟩
    · by_cases hj : j = k
      · subst hj
        dsimp only
        rw [Function.update_self]
        exact hfits
      · dsimp only
        rw [Function.update_of_ne hj]
        exact (h.fits j).kept hj hdevices hcredentials
    · dsimp only at hi hj
      by_cases hik : i = k
      · by_cases hjk : j = k
        · exact hik.trans hjk.symm
        rw [hik, Function.update_self] at hi
        rw [Function.update_of_ne hjk] at hj
        rcases htakes.drawn id hi with hsame | hfree
        · exact hik.trans (h.drawn k j id hsame hj)
        · exact absurd hj (hfree j)
      · rw [Function.update_of_ne hik] at hi
        by_cases hjk : j = k
        · rw [hjk, Function.update_self] at hj
          rcases htakes.drawn id hj with hsame | hfree
          · exact (h.drawn i k id hi hsame).trans hjk.symm
          · exact absurd hi (hfree i)
        · rw [Function.update_of_ne hjk] at hj
          exact h.drawn i j id hi hj
    · dsimp only at hi hj
      by_cases hik : i = k
      · rw [hik, Function.update_self] at hi
        by_cases hjk : j = k
        · rw [hjk, Function.update_self, PgCall.revoking_of_holding hi] at hj
          cases hj
        rw [Function.update_of_ne hjk] at hj
        rcases htakes.holding d hi with hsame | hfree
        · exact h.apart k j d hsame hj
        · exact hfree j hj
      · rw [Function.update_of_ne hik] at hi
        by_cases hjk : j = k
        · rw [hjk, Function.update_self] at hj
          rcases htakes.revoking d hj with hsame | hfree
          · exact h.apart i k d hi hsame
          · exact hfree i hi
        · rw [Function.update_of_ne hjk] at hj
          exact h.apart i j d hi hj

/-- The same devices. -/
theorem DevicesKept.same (hsame : ∀ id, db'.devices.lookup id = w.db.devices.lookup id) :
    DevicesKept w k db' where
  stays id d hd := ⟨d, (hsame id).trans hd, rfl, fun hdeleted => hdeleted, fun _ _ _ _ _ => rfl⟩
  came id d' hd' hnone := by
    rw [hsame id, hnone] at hd'
    cases hd'

/-- The same credentials. -/
theorem CredentialsKept.same
    (hsame : ∀ id, db'.credentials.lookup id = w.db.credentials.lookup id)
    (hseq : w.db.credentialsIdSeq ≤ db'.credentialsIdSeq)
    (hlocks : ∀ id j, j ≠ k → w.credentialLocks id = some j → locks' id = some j) :
    CredentialsKept w k db' locks' where
  stays id c hc := ⟨c, (hsame id).trans hc, rfl, rfl, fun hlive => hlive, fun _ _ _ => rfl⟩
  came id c' hc' hnone := by
    rw [hsame id, hnone] at hc'
    cases hc'
  seq := hseq
  locks := hlocks

/-- A call goes on without writing. -/
theorem PgWorld.Inv.goesOn (h : w.Inv) (hfits : call'.Fits w.db w.credentialLocks k)
    (htakes : Takes w k call') (haccounts : Accounts w.db call' w.db) :
    Turn w k (w.set k call') :=
  h.turn (.same fun _ => rfl) (.same (fun _ => rfl) (Int.le_refl _) fun _ _ _ hlock => hlock)
    h.access h.refresh hfits htakes haccounts

/-- A call returns without writing. -/
theorem PgWorld.Inv.answers (h : w.Inv) {call : RepoCall} {outcome : RepoOutcome}
    (hfits : (PgCall.returned call outcome).Fits w.db w.credentialLocks k)
    (hexplains : ∀ r, Mirrors w.db r → Explains r call outcome w.db) :
    Turn w k (w.returns k call outcome) :=
  h.goesOn hfits (.returned call outcome) hexplains

end

end RemoteLink.Repo
