import Mathlib.Logic.Equiv.Basic
import RemoteLink.Routes.Devices

set_option autoImplicit false

/-!
# The life of a credential

A refresh token is good for one rotation, a device has at most one live credential, and a deleted
device has none. The handlers decide between two calls of the repository, so what they found may be
out of date when they write. The repository's calls are what keeps the rules: a rotation takes a
live credential and leaves one, a deletion revokes before it marks the device.

## Main definitions

* `StoreOk` — the rules for the rows.
* `Evolves` — what a repository call may do to the rows that others rely on.
* `RequestOk` — what a request that is under way relies on.
* `LifecycleOk` — the invariant of the system.

## Main results

* `LifecycleOk.step` — every repository call of every handler keeps the rules.
* `credential_lifecycle` — a refresh token is redeemed at most once and is dead afterwards, with the
  access token minted with it; a device has at most one live credential; a deletion that succeeded
  leaves a deleted device without live credentials.
-/

namespace RemoteLink.Routes

open RemoteLink.Library RemoteLink.Repo
open RemoteLink.Server (Time DeviceStatus)

/-! ## Rows -/

/-- A live credential row. -/
def Live (r : MemoryDeviceRepo) (id : Int) (c : DeviceCredential) : Prop :=
  r.inner.credentials.lookup id = some c ∧ c.revokedAt = none

/-- **The rules for the rows**: ids are counted, a credential stores the hashes of tokens that were
minted and shares them with no other, its device exists, the index of public ids is that of the
devices, a device has at most one live credential, and none once it is deleted. -/
structure StoreOk (hashToken : String → String) (issued : List IssuedTokens)
    (r : MemoryDeviceRepo) : Prop where
  deviceIds : ∀ id d, r.inner.devices.lookup id = some d → id ≤ r.nextDeviceId
  credIds : ∀ id c, r.inner.credentials.lookup id = some c → id ≤ r.nextCredId
  minted : ∀ id c, r.inner.credentials.lookup id = some c → ∃ t ∈ issued,
    c.tokenHash = hashToken t.accessToken ∧ c.refreshTokenHash = hashToken t.refreshToken
  accessUnique : ∀ id c id' c', r.inner.credentials.lookup id = some c →
    r.inner.credentials.lookup id' = some c' → c.tokenHash = c'.tokenHash → id = id'
  refreshUnique : ∀ id c id' c', r.inner.credentials.lookup id = some c →
    r.inner.credentials.lookup id' = some c' → c.refreshTokenHash = c'.refreshTokenHash → id = id'
  known : ∀ id c, r.inner.credentials.lookup id = some c →
    ∃ d, r.inner.devices.lookup c.deviceId = some d
  indexed : ∀ publicId id, r.inner.byPublicId.lookup publicId = some id ↔
    ∃ d, r.inner.devices.lookup id = some d ∧ d.publicId = publicId
  oneLive : ∀ id c id' c', Live r id c → Live r id' c' → c.deviceId = c'.deviceId → id = id'
  deletedDead : ∀ id c d, Live r id c → r.inner.devices.lookup c.deviceId = some d →
    d.status ≠ .deleted

/-- A credential row that another one came from: the same device and hashes, and revoked if that one
was. -/
structure Descends (c' c : DeviceCredential) : Prop where
  deviceId : c'.deviceId = c.deviceId
  tokenHash : c'.tokenHash = c.tokenHash
  refreshTokenHash : c'.refreshTokenHash = c.refreshTokenHash
  live : c'.revokedAt = none → c.revokedAt = none

theorem Descends.refl (c : DeviceCredential) : Descends c c := ⟨rfl, rfl, rfl, id⟩

/-- **What a repository call may do**: rows stay, a device keeps its public id and stays deleted, a
credential stays revoked. New credentials are those of the device `dev`, and only the device `del`
becomes deleted. -/
structure Evolves (r r' : MemoryDeviceRepo) (dev del : Option Int) : Prop where
  devices : ∀ id d, r.inner.devices.lookup id = some d →
    ∃ d', r'.inner.devices.lookup id = some d' ∧ d'.publicId = d.publicId ∧
      (d.status = .deleted → d'.status = .deleted) ∧
      (d'.status = .deleted → d.status = .deleted ∨ del = some id)
  credentials : ∀ id c, r.inner.credentials.lookup id = some c →
    ∃ c', r'.inner.credentials.lookup id = some c' ∧ Descends c' c
  added : ∀ id c', r'.inner.credentials.lookup id = some c' →
    r.inner.credentials.lookup id = none → dev = some c'.deviceId
  index : ∀ publicId id, r.inner.byPublicId.lookup publicId = some id →
    r'.inner.byPublicId.lookup publicId = some id

namespace Evolves

variable {r r' : MemoryDeviceRepo} {dev del : Option Int}

theorem refl (r : MemoryDeviceRepo) : Evolves r r none none where
  devices _ d hd := ⟨d, hd, rfl, id, .inl⟩
  credentials _ c hc := ⟨c, hc, .refl c⟩
  added id c' hc hnone := by
    rw [hc] at hnone
    cases hnone
  index _ _ h := h

/-- A row after a call is new, or came from the row before. -/
theorem origin (h : Evolves r r' dev del) {id : Int} {c' : DeviceCredential}
    (hc' : r'.inner.credentials.lookup id = some c') :
    (r.inner.credentials.lookup id = none ∧ dev = some c'.deviceId) ∨
      ∃ c, r.inner.credentials.lookup id = some c ∧ Descends c' c := by
  rcases hc : r.inner.credentials.lookup id with _ | c
  · exact .inl ⟨rfl, h.added id c' hc' hc⟩
  · obtain ⟨c'', hc'', hdesc⟩ := h.credentials id c hc
    obtain rfl := Option.some.inj (hc'.symm.trans hc'')
    exact .inr ⟨c, rfl, hdesc⟩

end Evolves

/-- A credential that a call has added under the rules: under the next id, with tokens of its own,
of a device that is not deleted and has no other live credential. -/
structure Added (hashToken : String → String) (issued : List IssuedTokens)
    (r r' : MemoryDeviceRepo) (id : Int) (c : DeviceCredential) : Prop where
  id_eq : id = r.nextCredId + 1
  counted : id ≤ r'.nextCredId
  minted : ∃ t ∈ issued, c.tokenHash = hashToken t.accessToken ∧
    c.refreshTokenHash = hashToken t.refreshToken
  fresh : ∀ id₀ c₀, r.inner.credentials.lookup id₀ = some c₀ →
    c₀.tokenHash ≠ c.tokenHash ∧ c₀.refreshTokenHash ≠ c.refreshTokenHash
  device : ∃ d, r'.inner.devices.lookup c.deviceId = some d ∧ d.status ≠ .deleted
  alone : ∀ id₀ c₀, r.inner.credentials.lookup id₀ ≠ none → Live r' id₀ c₀ →
    c₀.deviceId ≠ c.deviceId

/-- **The rules are kept** by a call that adds credentials under the rules, keeps the device ids and
the index, and deletes a device only when it has no live credential. -/
theorem StoreOk.evolve {hashToken : String → String} {issued issued' : List IssuedTokens}
    {r r' : MemoryDeviceRepo} {dev del : Option Int} (h : StoreOk hashToken issued r)
    (hevolves : Evolves r r' dev del) (hissued : issued ⊆ issued')
    (hcounter : r.nextCredId ≤ r'.nextCredId)
    (hadded : ∀ id c, r'.inner.credentials.lookup id = some c →
      r.inner.credentials.lookup id = none → Added hashToken issued' r r' id c)
    (hdeviceIds : ∀ id d, r'.inner.devices.lookup id = some d → id ≤ r'.nextDeviceId)
    (hindexed : ∀ publicId id, r'.inner.byPublicId.lookup publicId = some id ↔
      ∃ d, r'.inner.devices.lookup id = some d ∧ d.publicId = publicId)
    (hdead : ∀ id c, Live r id c → del ≠ some c.deviceId) : StoreOk hashToken issued' r' := by
  have hold : ∀ id c', r'.inner.credentials.lookup id = some c' →
      r.inner.credentials.lookup id = none ∨
        ∃ c, r.inner.credentials.lookup id = some c ∧ Descends c' c :=
    fun id c' hc' => (hevolves.origin hc').imp_left And.left
  refine ⟨hdeviceIds, ?_, ?_, ?_, ?_, ?_, hindexed, ?_, ?_⟩
  · intro id c' hc'
    rcases hold id c' hc' with hnew | ⟨c, hc, -⟩
    · exact (hadded id c' hc' hnew).counted
    · exact Int.le_trans (h.credIds id c hc) hcounter
  · intro id c' hc'
    rcases hold id c' hc' with hnew | ⟨c, hc, hdesc⟩
    · exact (hadded id c' hc' hnew).minted
    · obtain ⟨t, ht, haccess, hrefresh⟩ := h.minted id c hc
      exact ⟨t, hissued ht, hdesc.tokenHash.trans haccess, hdesc.refreshTokenHash.trans hrefresh⟩
  · intro id c' id₂ c₂' hc' hc₂' heq
    rcases hold id c' hc' with hnew | ⟨c, hc, hdesc⟩
    · rcases hold id₂ c₂' hc₂' with hnew₂ | ⟨c₂, hc₂, hdesc₂⟩
      · rw [(hadded id c' hc' hnew).id_eq, (hadded id₂ c₂' hc₂' hnew₂).id_eq]
      · refine absurd ?_ ((hadded id c' hc' hnew).fresh id₂ c₂ hc₂).1
        rw [← hdesc₂.tokenHash, heq]
    · rcases hold id₂ c₂' hc₂' with hnew₂ | ⟨c₂, hc₂, hdesc₂⟩
      · refine absurd ?_ ((hadded id₂ c₂' hc₂' hnew₂).fresh id c hc).1
        rw [← hdesc.tokenHash, heq]
      · refine h.accessUnique id c id₂ c₂ hc hc₂ ?_
        rw [← hdesc.tokenHash, ← hdesc₂.tokenHash, heq]
  · intro id c' id₂ c₂' hc' hc₂' heq
    rcases hold id c' hc' with hnew | ⟨c, hc, hdesc⟩
    · rcases hold id₂ c₂' hc₂' with hnew₂ | ⟨c₂, hc₂, hdesc₂⟩
      · rw [(hadded id c' hc' hnew).id_eq, (hadded id₂ c₂' hc₂' hnew₂).id_eq]
      · refine absurd ?_ ((hadded id c' hc' hnew).fresh id₂ c₂ hc₂).2
        rw [← hdesc₂.refreshTokenHash, heq]
    · rcases hold id₂ c₂' hc₂' with hnew₂ | ⟨c₂, hc₂, hdesc₂⟩
      · refine absurd ?_ ((hadded id₂ c₂' hc₂' hnew₂).fresh id c hc).2
        rw [← hdesc.refreshTokenHash, heq]
      · refine h.refreshUnique id c id₂ c₂ hc hc₂ ?_
        rw [← hdesc.refreshTokenHash, ← hdesc₂.refreshTokenHash, heq]
  · intro id c' hc'
    rcases hold id c' hc' with hnew | ⟨c, hc, hdesc⟩
    · obtain ⟨d, hd, -⟩ := (hadded id c' hc' hnew).device
      exact ⟨d, hd⟩
    · obtain ⟨d, hd⟩ := h.known id c hc
      obtain ⟨d', hd', -⟩ := hevolves.devices _ d hd
      exact ⟨d', hdesc.deviceId ▸ hd'⟩
  · rintro id c' id₂ c₂' ⟨hc', hlive⟩ ⟨hc₂', hlive₂⟩ hdevice
    rcases hold id c' hc' with hnew | ⟨c, hc, hdesc⟩
    · rcases hold id₂ c₂' hc₂' with hnew₂ | ⟨c₂, hc₂, hdesc₂⟩
      · rw [(hadded id c' hc' hnew).id_eq, (hadded id₂ c₂' hc₂' hnew₂).id_eq]
      · have halone := (hadded id c' hc' hnew).alone id₂ c₂' (by rw [hc₂]; nofun) ⟨hc₂', hlive₂⟩
        exact absurd hdevice.symm halone
    · rcases hold id₂ c₂' hc₂' with hnew₂ | ⟨c₂, hc₂, hdesc₂⟩
      · have halone := (hadded id₂ c₂' hc₂' hnew₂).alone id c' (by rw [hc]; nofun) ⟨hc', hlive⟩
        exact absurd hdevice halone
      · refine h.oneLive id c id₂ c₂ ⟨hc, hdesc.live hlive⟩ ⟨hc₂, hdesc₂.live hlive₂⟩ ?_
        rw [← hdesc.deviceId, ← hdesc₂.deviceId, hdevice]
  · rintro id c' d' ⟨hc', hlive⟩ hd'
    rcases hold id c' hc' with hnew | ⟨c, hc, hdesc⟩
    · obtain ⟨d, hd, hstatus⟩ := (hadded id c' hc' hnew).device
      rwa [← Option.some.inj (hd.symm.trans hd')]
    · intro hdeleted
      obtain ⟨d, hd⟩ := h.known id c hc
      obtain ⟨d'', hd'', -, -, honly⟩ := hevolves.devices _ d hd
      rw [hdesc.deviceId] at hd'
      obtain rfl := Option.some.inj (hd'.symm.trans hd'')
      rcases honly hdeleted with hwas | hdel
      · exact h.deletedDead id c d ⟨hc, hdesc.live hlive⟩ hd hwas
      · exact hdead id c ⟨hc, hdesc.live hlive⟩ hdel

/-! ## Requests under way -/

/-- A device that is in its table and has had a credential. -/
structure Owned (r : MemoryDeviceRepo) (device : Device) : Prop where
  known : ∃ d, r.inner.devices.lookup device.id = some d ∧ d.publicId = device.publicId
  credential : ∃ id c, r.inner.credentials.lookup id = some c ∧ c.deviceId = device.id

/-- **What a request relies on**: an enrolled device waits for its first credential; a deletion has
found a device with a credential, which was not deleted, and once it has revoked there is no live
credential; after a deletion the device is deleted. -/
def RequestOk (r : MemoryDeviceRepo) : Request → Prop
  | .enrolled device =>
    (∃ d, r.inner.devices.lookup device.id = some d ∧ d.status ≠ .deleted) ∧
      ∀ id c, r.inner.credentials.lookup id = some c → c.deviceId ≠ device.id
  | .deleteFound _ device _ => Owned r device ∧ device.status ≠ .deleted
  | .revoked publicId device _ => device.publicId = publicId ∧ Owned r device ∧
      ∀ id c, Live r id c → c.deviceId ≠ device.id
  | .returned (.deleted publicId) => ∃ id d, r.inner.byPublicId.lookup publicId = some id ∧
      r.inner.devices.lookup id = some d ∧ d.status = .deleted
  | _ => True

/-- A request whose device a call would touch. -/
def Touched (dev del : Option Int) : Request → Prop
  | .enrolled device => dev = some device.id ∨ del = some device.id
  | .revoked _ device _ => dev = some device.id
  | _ => False

/-- A device with a credential stays one. -/
theorem Owned.evolve {r r' : MemoryDeviceRepo} {dev del : Option Int} {device : Device}
    (h : Owned r device)
    (hevolves : Evolves r r' dev del) : Owned r' device := by
  obtain ⟨⟨d, hd, hpublic⟩, id, c, hc, hdevice⟩ := h
  obtain ⟨d', hd', hpublic', -⟩ := hevolves.devices _ d hd
  obtain ⟨c', hc', hdesc⟩ := hevolves.credentials id c hc
  exact ⟨⟨d', hd', hpublic'.trans hpublic⟩, id, c', hc', hdesc.deviceId.trans hdevice⟩

namespace RequestOk

variable {r r' : MemoryDeviceRepo} {dev del : Option Int}

/-- A request goes on relying on what it did while others call the repository. -/
theorem evolve {phase : Request} (h : RequestOk r phase) (hevolves : Evolves r r' dev del)
    (htouched : ¬Touched dev del phase) : RequestOk r' phase := by
  cases phase with
  | enrolled device =>
    obtain ⟨⟨d, hd, hstatus⟩, hnone⟩ := h
    obtain ⟨d', hd', -, -, honly⟩ := hevolves.devices _ d hd
    refine ⟨⟨d', hd', fun hdeleted => ?_⟩, fun id c' hc' hdevice => ?_⟩
    · rcases honly hdeleted with hwas | hdel
      · exact hstatus hwas
      · exact htouched (.inr hdel)
    · rcases hevolves.origin hc' with ⟨-, hdev⟩ | ⟨c, hc, hdesc⟩
      · exact htouched (.inl (hdev.trans (congrArg some hdevice)))
      · exact hnone id c hc (hdesc.deviceId.symm.trans hdevice)
  | deleteFound publicId device cred => exact ⟨h.1.evolve hevolves, h.2⟩
  | revoked publicId device now =>
    obtain ⟨hpublic, howned, hdead⟩ := h
    refine ⟨hpublic, howned.evolve hevolves, fun id c' hlive hdevice => ?_⟩
    rcases hevolves.origin hlive.1 with ⟨-, hdev⟩ | ⟨c, hc, hdesc⟩
    · exact htouched (hdev.trans (congrArg some hdevice))
    · exact hdead id c ⟨hc, hdesc.live hlive.2⟩ (hdesc.deviceId.symm.trans hdevice)
  | returned outcome =>
    cases outcome with
    | deleted publicId =>
      obtain ⟨id, d, hid, hd, hdeleted⟩ := h
      obtain ⟨d', hd', -, hkeeps, -⟩ := hevolves.devices _ d hd
      exact ⟨id, d', hevolves.index _ _ hid, hd', hkeeps hdeleted⟩
    | _ => trivial
  | _ => trivial

end RequestOk

/-- **The invariant.** The rows obey the rules, refresh tokens were minted once, every request may
rely on what it does, a device is enrolled by one request, and a redeemed refresh token is that of a
revoked credential. -/
structure LifecycleOk (hashToken : String → String) (w : DevicesWorld) : Prop where
  store : StoreOk hashToken w.issued w.repo
  distinct : ∀ t ∈ w.issued, ∀ t' ∈ w.issued, t.refreshToken = t'.refreshToken → t = t'
  requests : ∀ request, RequestOk w.repo (w.requests request)
  enrolledOnce : ∀ q q' d d', w.requests q = .enrolled d → w.requests q' = .enrolled d' →
    d.id = d'.id → q = q'
  redeemedOnce : w.redeemed.Nodup
  redeemed : ∀ token ∈ w.redeemed, ∃ id c, w.repo.inner.credentials.lookup id = some c ∧
    c.refreshTokenHash = hashToken token ∧ c.revokedAt ≠ none

/-- **A request moves on** and keeps the invariant, when the rows obey the rules, no other request
is touched and it may rely on its own new phase. -/
theorem LifecycleOk.move {hashToken : String → String} {w w' : DevicesWorld} {dev del : Option Int}
    (h : LifecycleOk hashToken w) (request : Nat)
    (hstore : StoreOk hashToken w'.issued w'.repo)
    (hdistinct : ∀ t ∈ w'.issued, ∀ t' ∈ w'.issued, t.refreshToken = t'.refreshToken → t = t')
    (hevolves : Evolves w.repo w'.repo dev del)
    (hother : ∀ other, other ≠ request → w'.requests other = w.requests other)
    (htouched : ∀ other, other ≠ request → ¬Touched dev del (w.requests other))
    (hself : RequestOk w'.repo (w'.requests request))
    (henrolled : ∀ d, w'.requests request = .enrolled d → ∀ other d', other ≠ request →
      w.requests other = .enrolled d' → d'.id ≠ d.id)
    (hredeemedOnce : w'.redeemed.Nodup)
    (hredeemed : ∀ token ∈ w'.redeemed, token ∈ w.redeemed ∨ ∃ id c,
      w'.repo.inner.credentials.lookup id = some c ∧ c.refreshTokenHash = hashToken token ∧
        c.revokedAt ≠ none) : LifecycleOk hashToken w' := by
  refine ⟨hstore, hdistinct, fun other => ?_, fun q q' d d' hq hq' hid => ?_, hredeemedOnce,
    fun token htoken => ?_⟩
  · by_cases heq : other = request
    · rw [heq]
      exact hself
    · rw [hother other heq]
      exact (h.requests other).evolve hevolves (htouched other heq)
  · by_cases hqr : q = request
    · subst hqr
      by_contra hne
      rw [hother q' (Ne.symm hne)] at hq'
      exact henrolled d hq q' d' (Ne.symm hne) hq' hid.symm
    · rw [hother q hqr] at hq
      by_cases hqr' : q' = request
      · subst hqr'
        exact absurd hid (henrolled d' hq' q d hqr hq)
      · rw [hother q' hqr'] at hq'
        exact h.enrolledOnce q q' d d' hq hq' hid
  · rcases hredeemed token htoken with hold | hnew
    · obtain ⟨id, c, hc, hhash, hrevoked⟩ := h.redeemed token hold
      obtain ⟨c', hc', hdesc⟩ := hevolves.credentials id c hc
      exact ⟨id, c', hc', hdesc.refreshTokenHash.trans hhash, fun hlive => hrevoked (hdesc.live hlive)⟩
    · exact hnew

/-! ## What the repository calls do -/

section Calls

variable {hashToken : String → String} {issued : List IssuedTokens} {r : MemoryDeviceRepo}

/-- An enrolment takes a new id and a public id that is not taken. -/
theorem StoreOk.enrolled_evolves (h : StoreOk hashToken issued r) (new : NewDevice) (now : Time)
    (hfree : r.inner.byPublicId.lookup new.publicId = none) :
    Evolves r (r.enrolled (new.row (r.nextDeviceId + 1) now)) none none := by
  refine ⟨fun id d hd => ⟨d, ?_, rfl, fun h => h, .inl⟩, fun _ c hc => ⟨c, hc, .refl c⟩, ?_, ?_⟩
  · refine (Store.lookup_putDevice _ id).trans ((if_neg ?_).trans hd)
    have hle := h.deviceIds id d hd
    show id ≠ r.nextDeviceId + 1
    omega
  · intro id c hc hnone
    rw [show r.inner.credentials.lookup id = some c from hc] at hnone
    cases hnone
  · intro publicId id hid
    refine (AList.lookup_insert_ne ?_).trans hid
    rintro rfl
    rw [show r.inner.byPublicId.lookup new.publicId = some id from hid] at hfree
    cases hfree

theorem StoreOk.of_enrolled (h : StoreOk hashToken issued r) (new : NewDevice) (now : Time)
    (hfree : r.inner.byPublicId.lookup new.publicId = none) :
    StoreOk hashToken issued (r.enrolled (new.row (r.nextDeviceId + 1) now)) := by
  have hdevices : ∀ id, (r.enrolled (new.row (r.nextDeviceId + 1) now)).inner.devices.lookup id =
      if id = r.nextDeviceId + 1 then some (new.row (r.nextDeviceId + 1) now)
      else r.inner.devices.lookup id := fun id => Store.lookup_putDevice _ id
  refine h.evolve (h.enrolled_evolves new now hfree) (fun _ => id) (Int.le_refl _) ?_ ?_ ?_ nofun
  · intro id c hc hnone
    rw [show r.inner.credentials.lookup id = some c from hc] at hnone
    cases hnone
  · intro id d hd
    show id ≤ r.nextDeviceId + 1
    rw [hdevices] at hd
    split_ifs at hd with hid
    · omega
    · have hle := h.deviceIds id d hd
      omega
  · intro publicId id
    show (r.inner.byPublicId.insert new.publicId (r.nextDeviceId + 1)).lookup publicId = some id ↔ _
    rw [HashMap.lookup_insert_if, hdevices]
    by_cases hpublic : publicId = new.publicId
    · rw [if_pos hpublic]
      constructor
      · intro heq
        rw [if_pos (Option.some.inj heq).symm]
        exact ⟨_, rfl, hpublic.symm⟩
      · rintro ⟨d, hd, hd'⟩
        split_ifs at hd with hid
        · rw [hid]
        · have hindex := (h.indexed publicId id).mpr ⟨d, hd, hd'⟩
          rw [hpublic, hfree] at hindex
          cases hindex
    · rw [if_neg hpublic, h.indexed publicId id]
      constructor
      · rintro ⟨d, hd, hd'⟩
        have hle := h.deviceIds id d hd
        rw [if_neg (show id ≠ r.nextDeviceId + 1 by omega)]
        exact ⟨d, hd, hd'⟩
      · rintro ⟨d, hd, hd'⟩
        split_ifs at hd with hid
        · rw [← Option.some.inj hd] at hd'
          exact absurd hd'.symm hpublic
        · exact ⟨d, hd, hd'⟩

/-- The row of fresh tokens shares no hash with the rows there are. -/
theorem StoreOk.fresh (h : StoreOk hashToken issued r) (hinj : Function.Injective hashToken)
    {tokens : IssuedTokens}
    (hfresh : ∀ old ∈ issued, old.accessToken ≠ tokens.accessToken ∧
      old.refreshToken ≠ tokens.refreshToken)
    {id₀ : Int} {c₀ : DeviceCredential} (hc₀ : r.inner.credentials.lookup id₀ = some c₀) :
    c₀.tokenHash ≠ hashToken tokens.accessToken ∧
      c₀.refreshTokenHash ≠ hashToken tokens.refreshToken := by
  obtain ⟨t, ht, haccess, hrefresh⟩ := h.minted id₀ c₀ hc₀
  obtain ⟨hne, hne'⟩ := hfresh t ht
  rw [haccess, hrefresh]
  exact ⟨fun heq => hne (hinj heq), fun heq => hne' (hinj heq)⟩

/-- The first credential of a device. -/
theorem StoreOk.issued_evolves (h : StoreOk hashToken issued r) (new : NewCredential) (now : Time) :
    Evolves r (r.issued (new.row (r.nextCredId + 1) now)) (some new.deviceId) none := by
  have hcredentials : ∀ id, (r.issued (new.row (r.nextCredId + 1) now)).inner.credentials.lookup id =
      if id = r.nextCredId + 1 then some (new.row (r.nextCredId + 1) now)
      else r.inner.credentials.lookup id := fun id => Store.lookup_putCredential _ id
  refine ⟨fun _ d hd => ⟨d, hd, rfl, id, .inl⟩, fun id c hc => ⟨c, ?_, .refl c⟩, ?_, fun _ _ => id⟩
  · have hle := h.credIds id c hc
    rw [hcredentials, if_neg (by omega)]
    exact hc
  · intro id c hc hnone
    rw [hcredentials] at hc
    split_ifs at hc
    · rw [← Option.some.inj hc]
      rfl
    · rw [hc] at hnone
      cases hnone

theorem StoreOk.of_issued (h : StoreOk hashToken issued r) (hinj : Function.Injective hashToken)
    {tokens : IssuedTokens} {deviceId : Int} {now : Time}
    (hfresh : ∀ old ∈ issued, old.accessToken ≠ tokens.accessToken ∧
      old.refreshToken ≠ tokens.refreshToken)
    (hdevice : ∃ d, r.inner.devices.lookup deviceId = some d ∧ d.status ≠ .deleted)
    (hnone : ∀ id c, r.inner.credentials.lookup id = some c → c.deviceId ≠ deviceId) :
    StoreOk hashToken (tokens :: issued) (r.issued
      ((newCredentialFromIssued hashToken deviceId tokens now).row (r.nextCredId + 1) now)) := by
  have hcredentials : ∀ id, (r.issued ((newCredentialFromIssued hashToken deviceId tokens now).row
      (r.nextCredId + 1) now)).inner.credentials.lookup id = if id = r.nextCredId + 1 then
        some ((newCredentialFromIssued hashToken deviceId tokens now).row (r.nextCredId + 1) now)
      else r.inner.credentials.lookup id := fun id => Store.lookup_putCredential _ id
  refine h.evolve (h.issued_evolves _ now) (List.subset_cons_self _ _) (Int.le_add_one (Int.le_refl _))
    (fun id c hc hnew => ?_) h.deviceIds h.indexed nofun
  rw [hcredentials] at hc
  split_ifs at hc with hid
  · obtain rfl := Option.some.inj hc
    refine ⟨hid, Int.le_of_eq hid, ⟨tokens, List.mem_cons_self, rfl, rfl⟩,
      fun id₀ c₀ hc₀ => h.fresh hinj hfresh hc₀, hdevice, fun id₀ c₀ hold hlive => ?_⟩
    obtain ⟨c, hc⟩ := Option.ne_none_iff_exists'.mp hold
    have hlookup := hlive.1
    have hle := h.credIds id₀ c hc
    rw [hcredentials, if_neg (by omega), hc] at hlookup
    obtain rfl := Option.some.inj hlookup
    exact hnone id₀ c hc
  · rw [hc] at hnew
    cases hnew

/-- A rotation replaces the one live credential of its device. -/
theorem StoreOk.rotated_evolves (h : StoreOk hashToken issued r) {hash : String}
    {new : NewCredential} {now : Time} {old : DeviceCredential} {device : Device}
    (hrotates : r.Rotates hash new now old device) :
    Evolves r (r.rotated old (new.row (r.nextCredId + 1) now) device now) (some old.deviceId)
      none := by
  have hdeviceId := r.inner.device_id _ _ hrotates.known
  refine ⟨fun id d hd => ?_, fun id c hc => ?_, fun id c hc hnone => ?_, fun _ _ => id⟩
  · rw [MemoryDeviceRepo.rotated_devices]
    split_ifs with hid
    · rw [hid, hdeviceId, hrotates.known] at hd
      obtain rfl := Option.some.inj hd
      exact ⟨_, rfl, rfl, fun h => h, .inl⟩
    · exact ⟨d, hd, rfl, fun h => h, .inl⟩
  · have hle := h.credIds id c hc
    rw [MemoryDeviceRepo.rotated_credentials,
      if_neg (show id ≠ (new.row (r.nextCredId + 1) now).id from by
        show id ≠ r.nextCredId + 1
        omega)]
    split_ifs with hid
    · have hrow := (Store.liveByRefresh_some hrotates.live).1
      rw [hid, hrow] at hc
      obtain rfl := Option.some.inj hc
      exact ⟨_, rfl, rfl, rfl, rfl, nofun⟩
    · exact ⟨c, hc, .refl c⟩
  · rw [MemoryDeviceRepo.rotated_credentials] at hc
    split_ifs at hc with hid hold
    · rw [← Option.some.inj hc]
      exact congrArg some hrotates.sameDevice.symm
    · rw [← Option.some.inj hc]
    · rw [hc] at hnone
      cases hnone

theorem StoreOk.of_rotated (h : StoreOk hashToken issued r)
    (hinj : Function.Injective hashToken) {tokens : IssuedTokens} {deviceId : Int} {now : Time}
    {hash : String} {old : DeviceCredential} {device : Device}
    (hfresh : ∀ old ∈ issued, old.accessToken ≠ tokens.accessToken ∧
      old.refreshToken ≠ tokens.refreshToken)
    (hrotates : r.Rotates hash (newCredentialFromIssued hashToken deviceId tokens now) now old
      device) :
    StoreOk hashToken (tokens :: issued) (r.rotated old
      ((newCredentialFromIssued hashToken deviceId tokens now).row (r.nextCredId + 1) now) device
        now) := by
  have hdeviceId := r.inner.device_id _ _ hrotates.known
  obtain ⟨hrow, hlive, -⟩ := Store.liveByRefresh_some hrotates.live
  have hsame : ∀ id d, (r.rotated old ((newCredentialFromIssued hashToken deviceId tokens now).row
      (r.nextCredId + 1) now) device now).inner.devices.lookup id = some d →
        ∃ d₀, r.inner.devices.lookup id = some d₀ ∧ d.publicId = d₀.publicId := by
    intro id d hd
    rw [MemoryDeviceRepo.rotated_devices] at hd
    split_ifs at hd with hid
    · rw [hid, hdeviceId, hrotates.known, ← Option.some.inj hd]
      exact ⟨device, rfl, rfl⟩
    · exact ⟨d, hd, rfl⟩
  refine h.evolve (h.rotated_evolves hrotates) (List.subset_cons_self _ _)
    (Int.le_add_one (Int.le_refl _)) (fun id c hc hnew => ?_) (fun id d hd => ?_)
    (fun publicId id => ?_) nofun
  · rw [MemoryDeviceRepo.rotated_credentials] at hc
    split_ifs at hc with hid hold
    · obtain rfl := Option.some.inj hc
      refine ⟨hid, Int.le_of_eq hid, ⟨tokens, List.mem_cons_self, rfl, rfl⟩,
        fun id₀ c₀ hc₀ => h.fresh hinj hfresh hc₀, ?_, fun id₀ c₀ hwas halone hdevice => ?_⟩
      · refine ⟨{ device with lastSeenAt := some now }, ?_, ?_⟩
        · rw [MemoryDeviceRepo.rotated_devices]
          exact if_pos (hrotates.sameDevice.trans hdeviceId.symm)
        · show device.status ≠ .deleted
          rw [hrotates.active]
          nofun
      · -- another live credential of the device would have been live beside the old one
        obtain ⟨c, hc⟩ := Option.ne_none_iff_exists'.mp hwas
        have hlookup := halone.1
        have hne : id₀ ≠ ((newCredentialFromIssued hashToken deviceId tokens now).row
            (r.nextCredId + 1) now).id := by
          have hle := h.credIds id₀ c hc
          show id₀ ≠ r.nextCredId + 1
          omega
        rw [MemoryDeviceRepo.rotated_credentials, if_neg hne] at hlookup
        split_ifs at hlookup with hold₀
        · have hrevoked := halone.2
          rw [← Option.some.inj hlookup] at hrevoked
          cases hrevoked
        · refine hold₀ (h.oneLive id₀ c₀ old.id old ⟨hlookup, halone.2⟩ ⟨hrow, hlive⟩ ?_)
          exact hdevice.trans hrotates.sameDevice
    · rw [hold, hrow] at hnew
      cases hnew
    · rw [hc] at hnew
      cases hnew
  · obtain ⟨d₀, hd₀, -⟩ := hsame id d hd
    exact h.deviceIds id d₀ hd₀
  · show r.inner.byPublicId.lookup publicId = some id ↔ _
    rw [h.indexed publicId id]
    constructor
    · rintro ⟨d, hd, hpublic⟩
      obtain ⟨d', hd', hpublic', -⟩ := (h.rotated_evolves hrotates).devices id d hd
      exact ⟨d', hd', hpublic'.trans hpublic⟩
    · rintro ⟨d, hd, hpublic⟩
      obtain ⟨d₀, hd₀, hpublic₀⟩ := hsame id d hd
      exact ⟨d₀, hd₀, hpublic₀.symm.trans hpublic⟩

/-- A revocation of all credentials of a device. -/
theorem evolves_revokeAll (r : MemoryDeviceRepo) (deviceId : Int) (now : Time) :
    Evolves r (r.revokeAllForDeviceLocked deviceId now).2 none none := by
  refine ⟨fun _ d hd => ⟨d, hd, rfl, id, .inl⟩, fun id c hc => ?_, fun id c hc hnone => ?_,
    fun _ _ => id⟩
  · refine ⟨_, (Store.lookup_revokeDevice deviceId now id).trans (congrArg _ hc), ?_⟩
    dsimp only
    split_ifs
    · exact ⟨rfl, rfl, rfl, nofun⟩
    · exact .refl c
  · rw [show (r.revokeAllForDeviceLocked deviceId now).2.inner.credentials.lookup id = _ from
      Store.lookup_revokeDevice deviceId now id, hnone] at hc
    cases hc

theorem StoreOk.of_revokeAll (h : StoreOk hashToken issued r) (deviceId : Int) (now : Time) :
    StoreOk hashToken issued (r.revokeAllForDeviceLocked deviceId now).2 :=
  h.evolve (evolves_revokeAll r deviceId now) (fun _ => id) (Int.le_refl _)
    (fun id c hc hnone => nomatch (evolves_revokeAll r deviceId now).added id c hc hnone)
    h.deviceIds h.indexed nofun

/-- No credential of a device is live when all of them were revoked. -/
theorem not_live_revokeAll (r : MemoryDeviceRepo) (deviceId : Int) (now : Time) {id : Int}
    {c : DeviceCredential} (hlive : Live (r.revokeAllForDeviceLocked deviceId now).2 id c) :
    c.deviceId ≠ deviceId := by
  obtain ⟨hc, hrevoked⟩ := hlive
  rw [show (r.revokeAllForDeviceLocked deviceId now).2.inner.credentials.lookup id = _ from
    Store.lookup_revokeDevice deviceId now id, Option.map_eq_some_iff] at hc
  obtain ⟨c₀, hc₀, rfl⟩ := hc
  split_ifs at hrevoked ⊢ with hmine
  intro hdevice
  exact hmine ⟨hdevice, hrevoked⟩

/-- A deletion deletes the device of the public id. -/
theorem evolves_softDelete (r : MemoryDeviceRepo) (publicId : String) (now : Time) :
    Evolves r (r.softDeleteLocked publicId now).2 none (r.inner.byPublicId.lookup publicId) := by
  have hsame : Evolves r r none (r.inner.byPublicId.lookup publicId) :=
    ⟨fun _ d hd => ⟨d, hd, rfl, id, .inl⟩, (Evolves.refl r).credentials, (Evolves.refl r).added,
      fun _ _ => id⟩
  rcases r.softDeleteLocked_cases publicId now with
    heq | ⟨id, d, hid, hd, ⟨-, heq⟩ | ⟨-, heq⟩⟩
  · rw [heq]
    exact hsame
  · rw [heq]
    exact hsame
  · rw [heq]
    have hdId := r.inner.device_id id d hd
    refine ⟨fun id₀ d₀ hd₀ => ?_, hsame.credentials, hsame.added, hsame.index⟩
    rw [MemoryDeviceRepo.marked_devices]
    split_ifs with hdel
    · rw [hdel, hdId, hd] at hd₀
      obtain rfl := Option.some.inj hd₀
      exact ⟨_, rfl, rfl, fun _ => rfl, fun _ => .inr (by rw [hid, hdel, hdId])⟩
    · exact ⟨d₀, hd₀, rfl, fun h => h, .inl⟩

theorem StoreOk.of_softDelete (h : StoreOk hashToken issued r) (publicId : String) (now : Time)
    (hdead : ∀ id c, Live r id c → r.inner.byPublicId.lookup publicId ≠ some c.deviceId) :
    StoreOk hashToken issued (r.softDeleteLocked publicId now).2 := by
  have hevolves := evolves_softDelete r publicId now
  rcases r.softDeleteLocked_cases publicId now with
    heq | ⟨id, d, hid, hd, ⟨-, heq⟩ | ⟨-, heq⟩⟩
  · rw [heq]
    exact h
  · rw [heq]
    exact h
  · rw [heq] at hevolves ⊢
    have hsame : ∀ id₀ d₀, (r.marked d now).inner.devices.lookup id₀ = some d₀ →
        ∃ d₁, r.inner.devices.lookup id₀ = some d₁ ∧ d₀.publicId = d₁.publicId := by
      intro id₀ d₀ hd₀
      rw [MemoryDeviceRepo.marked_devices] at hd₀
      split_ifs at hd₀ with hdel
      · rw [hdel, r.inner.device_id id d hd, hd, ← Option.some.inj hd₀]
        exact ⟨d, rfl, rfl⟩
      · exact ⟨d₀, hd₀, rfl⟩
    refine h.evolve hevolves (List.Subset.refl _) (Int.le_refl _)
      (fun id₀ c hc hnone => nomatch hevolves.added id₀ c hc hnone) (fun id₀ d₀ hd₀ => ?_)
      (fun publicId₀ id₀ => ?_) hdead
    · obtain ⟨d₁, hd₁, -⟩ := hsame id₀ d₀ hd₀
      exact h.deviceIds id₀ d₁ hd₁
    · show r.inner.byPublicId.lookup publicId₀ = some id₀ ↔ _
      rw [h.indexed publicId₀ id₀]
      constructor
      · rintro ⟨d₀, hd₀, hpublic⟩
        obtain ⟨d', hd', hpublic', -⟩ := hevolves.devices id₀ d₀ hd₀
        exact ⟨d', hd', hpublic'.trans hpublic⟩
      · rintro ⟨d₀, hd₀, hpublic⟩
        obtain ⟨d₁, hd₁, hpublic₁⟩ := hsame id₀ d₀ hd₀
        exact ⟨d₁, hd₁, hpublic₁.symm.trans hpublic⟩

/-- A deletion that answers `true` leaves a deleted device. -/
theorem deleted_of_softDelete {publicId : String} {now : Time}
    (h : (r.softDeleteLocked publicId now).1 = .saves true ∨
      (r.softDeleteLocked publicId now).1 = .returns (.ok true)) :
    ∃ id d, (r.softDeleteLocked publicId now).2.inner.byPublicId.lookup publicId = some id ∧
      (r.softDeleteLocked publicId now).2.inner.devices.lookup id = some d ∧
      d.status = .deleted := by
  rcases r.softDeleteLocked_cases publicId now with
    heq | ⟨id, d, hid, hd, ⟨hdeleted, heq⟩ | ⟨-, heq⟩⟩
  · rw [heq] at h
    exact h.elim nofun nofun
  · rw [heq]
    exact ⟨id, d, hid, hd, hdeleted⟩
  · rw [heq]
    refine ⟨id, { d with status := .deleted, deletedAt := some now }, hid, ?_, rfl⟩
    rw [MemoryDeviceRepo.marked_devices]
    exact if_pos (r.inner.device_id id d hd).symm

/-- What is found by a test of live rows is a live row and its device. -/
theorem withDevice_findValue {p : DeviceCredential → Bool} {device : Device} {cred : DeviceCredential}
    (h : r.inner.withDevice (r.inner.credentials.findValue fun c => c.revokedAt.isNone && p c) =
      .ok (some (device, cred))) :
    Live r cred.id cred ∧ r.inner.devices.lookup cred.deviceId = some device := by
  rcases hfound : r.inner.credentials.findValue fun c => c.revokedAt.isNone && p c with _ | c
  · rw [hfound] at h
    cases h
  · rw [hfound] at h
    unfold Store.withDevice at h
    dsimp only at h
    rcases hd : r.inner.devices.lookup c.deviceId with _ | d
    · rw [hd] at h
      cases h
    · rw [hd] at h
      obtain ⟨rfl, rfl⟩ := Prod.mk.inj (Option.some.inj (Except.ok.inj h))
      obtain ⟨⟨id, hid⟩, htest⟩ := HashMap.findValue_some hfound
      rw [r.inner.credential_id id c hid]
      exact ⟨⟨hid, Option.isNone_iff_eq_none.mp (Bool.and_eq_true_iff.mp htest).1⟩, hd⟩

end Calls

/-! ## The handlers -/

section Handlers

variable {hashToken : String → String} {w : DevicesWorld} {request : Nat}

/-- A call without a device touches no request. -/
theorem not_touched_none (phase : Request) : ¬Touched none none phase := by
  cases phase with
  | enrolled device => exact fun h => h.elim nofun nofun
  | revoked publicId device now => exact nofun
  | _ => exact id

/-- A repository call that touches no other request, and mints or redeems nothing. -/
theorem LifecycleOk.call (h : LifecycleOk hashToken w) {repo : MemoryDeviceRepo}
    {dev del : Option Int} {phase : Request} (hstore : StoreOk hashToken w.issued repo)
    (hevolves : Evolves w.repo repo dev del)
    (htouched : ∀ other, other ≠ request → ¬Touched dev del (w.requests other))
    (hself : RequestOk repo phase)
    (henrolled : ∀ d, phase = .enrolled d → ∀ other d', w.requests other = .enrolled d' →
      d'.id ≠ d.id) :
    LifecycleOk hashToken ({ w with repo := repo }.advance request phase) := by
  refine h.move request hstore h.distinct hevolves
    (fun _ hne => DevicesWorld.advance_other _ request hne phase) htouched ?_ ?_ h.redeemedOnce
    fun _ => .inl
  · rw [DevicesWorld.advance_self]
    exact hself
  · intro d hd other d' _
    rw [DevicesWorld.advance_self] at hd
    exact henrolled d hd other d'

/-- Only the phase of a request changes. -/
theorem LifecycleOk.phase (h : LifecycleOk hashToken w) {phase : Request}
    (hself : RequestOk w.repo phase) (hwaits : ∀ d, phase ≠ .enrolled d) :
    LifecycleOk hashToken (w.advance request phase) :=
  h.call h.store (.refl _) (fun _ _ => not_touched_none _) hself fun d hd => absurd hd (hwaits d)

/-- A registration takes a new device or tries again. -/
theorem LifecycleOk.tryCreate (h : LifecycleOk hashToken w) (displayName : Option String)
    (publicKey : Bytes) (protocolVersion : Int) (tries : Nat) (publicId : String) (now : Time)
    (disk : Disk) : LifecycleOk hashToken
      (w.tryCreate request displayName publicKey protocolVersion tries publicId now disk) := by
  set new : NewDevice := ⟨publicId, displayName, publicKey, some protocolVersion⟩
  have hkeeps : StoreOk hashToken w.issued (w.repo.createDeviceLocked new now).2 ∧
      Evolves w.repo (w.repo.createDeviceLocked new now).2 none none := by
    rcases w.repo.createDeviceLocked_cases new now with ⟨e, heq⟩ | ⟨hfree, heq⟩
    · rw [heq]
      exact ⟨h.store, .refl _⟩
    · rw [heq]
      exact ⟨h.store.of_enrolled new now hfree, h.store.enrolled_evolves new now hfree⟩
  unfold DevicesWorld.tryCreate
  dsimp only
  rw [MemoryDeviceRepo.finish_repo]
  refine h.call hkeeps.1 hkeeps.2 (fun _ _ => not_touched_none _) ?_ ?_
  · rcases hcall : (MemoryDeviceRepo.finish (w.repo.createDeviceLocked new now) disk).1 with
      e | device
    · cases e <;> cases tries <;> trivial
    · -- the new device is in the table, and no credential knows its id
      rcases w.repo.createDeviceLocked_cases new now with ⟨e, heq⟩ | ⟨-, heq⟩
      · have hok := MemoryDeviceRepo.finish_ok hcall
        rw [heq] at hok
        exact hok.elim nofun nofun
      · have hok := MemoryDeviceRepo.finish_ok hcall
        rw [heq] at hok ⊢
        obtain rfl := Locked.saves.inj (hok.resolve_right nofun)
        refine ⟨⟨new.row (w.repo.nextDeviceId + 1) now, ?_, nofun⟩, fun id c hc heqId => ?_⟩
        · exact (Store.lookup_putDevice _ _).trans (if_pos rfl)
        · obtain ⟨d, hd⟩ := h.store.known id c hc
          have hle := h.store.deviceIds _ d hd
          rw [heqId] at hle
          exact absurd hle (Int.not_le.mpr (Int.lt_add_one_of_le (Int.le_refl _)))
  · intro device hphase other d' hother hid
    rcases hcall : (MemoryDeviceRepo.finish (w.repo.createDeviceLocked new now) disk).1 with
      e | device'
    · rw [hcall] at hphase
      cases e <;> cases tries <;> cases hphase
    · rw [hcall] at hphase
      obtain rfl := Request.enrolled.inj hphase
      have hok := MemoryDeviceRepo.finish_ok hcall
      rcases w.repo.createDeviceLocked_cases new now with ⟨e, heq⟩ | ⟨-, heq⟩
      · rw [heq] at hok
        exact hok.elim nofun nofun
      · rw [heq] at hok
        obtain rfl := Locked.saves.inj (hok.resolve_right nofun)
        have hrequest := h.requests other
        rw [hother] at hrequest
        obtain ⟨⟨d, hd, -⟩, -⟩ := hrequest
        have hle := h.store.deviceIds _ d hd
        rw [hid] at hle
        exact absurd hle (Int.not_le.mpr (Int.lt_add_one_of_le (Int.le_refl _)))

/-- More minted tokens do not break the rules. -/
theorem StoreOk.mono {issued issued' : List IssuedTokens} {r : MemoryDeviceRepo}
    (h : StoreOk hashToken issued r) (hissued : issued ⊆ issued') : StoreOk hashToken issued' r :=
  h.evolve (.refl r) hissued (Int.le_refl _)
    (fun id c hc hnone => nomatch (Evolves.refl r).added id c hc hnone) h.deviceIds h.indexed nofun

/-- Fresh tokens have a refresh token of their own. -/
theorem LifecycleOk.distinct_cons (h : LifecycleOk hashToken w) {tokens : IssuedTokens}
    (hfresh : w.Fresh tokens) : ∀ t ∈ tokens :: w.issued, ∀ t' ∈ tokens :: w.issued,
      t.refreshToken = t'.refreshToken → t = t' := by
  intro t ht t' ht' heq
  rcases List.mem_cons.mp ht with hnew | hold
  · rcases List.mem_cons.mp ht' with hnew' | hold'
    · rw [hnew, hnew']
    · rw [hnew] at heq
      exact absurd heq.symm (hfresh t' hold').2
  · rcases List.mem_cons.mp ht' with hnew' | hold'
    · rw [hnew'] at heq
      exact absurd heq (hfresh t hold).2
    · exact h.distinct t hold t' hold' heq

/-- An enrolled device gets its first credential. -/
theorem LifecycleOk.issueTokens (h : LifecycleOk hashToken w)
    (hinj : Function.Injective hashToken) {device : Device}
    (hrequest : w.requests request = .enrolled device) {tokens : IssuedTokens}
    (hfresh : w.Fresh tokens) (now : Time) (disk : Disk) :
    LifecycleOk hashToken (w.issueTokens hashToken request device tokens now disk) := by
  have henrolled := h.requests request
  rw [hrequest] at henrolled
  obtain ⟨⟨d, hd, hstatus⟩, hnone⟩ := henrolled
  have hlocked : w.repo.insertLocked (newCredentialFromIssued hashToken device.id tokens now) now =
      (.saves ((newCredentialFromIssued hashToken device.id tokens now).row
        (w.repo.nextCredId + 1) now), w.repo.issued
          ((newCredentialFromIssued hashToken device.id tokens now).row
            (w.repo.nextCredId + 1) now)) := by
    unfold MemoryDeviceRepo.insertLocked
    rcases w.repo.insertCredentialLocked_cases
      (newCredentialFromIssued hashToken device.id tokens now) now with ⟨hunknown, -⟩ | ⟨-, heq⟩
    · rw [show w.repo.inner.devices.lookup device.id = none from hunknown] at hd
      cases hd
    · rw [heq]
  unfold DevicesWorld.issueTokens
  dsimp only
  rw [MemoryDeviceRepo.finish_repo, hlocked]
  refine h.move request
    (h.store.of_issued hinj hfresh ⟨d, hd, hstatus⟩ hnone) (h.distinct_cons hfresh)
    (h.store.issued_evolves _ now) (fun _ hne => DevicesWorld.advance_other _ request hne _) ?_ ?_ ?_
    h.redeemedOnce fun _ => .inl
  · intro other hne htouched
    have hother := h.requests other
    rcases hphase : w.requests other with _ | _ | device' | _ | _ | ⟨publicId, device', _⟩ | _ <;>
      rw [hphase] at htouched hother <;> try exact htouched
    · have hid : device.id = device'.id := htouched.elim Option.some.inj nofun
      exact hne (h.enrolledOnce other request device' device hphase hrequest hid.symm)
    · have hid : device.id = device'.id := Option.some.inj htouched
      obtain ⟨id, c, hc, hdevice⟩ := hother.2.1.credential
      exact hnone id c hc (hdevice.trans hid.symm)
  · rw [DevicesWorld.advance_self]
    split <;> trivial
  · intro d' hd'
    rw [DevicesWorld.advance_self] at hd'
    split at hd' <;> cases hd'

/-- A refresh looks up a credential. -/
theorem LifecycleOk.findRefresh (h : LifecycleOk hashToken w) (publicId refreshToken : String) :
    LifecycleOk hashToken (w.findRefresh hashToken request publicId refreshToken) := by
  unfold DevicesWorld.findRefresh
  split
  · exact h.phase trivial fun _ h => nomatch h
  · exact h.phase trivial fun _ h => nomatch h
  · exact h.phase trivial fun _ h => nomatch h

/-- **A refresh consumes its credential.** A rotation that goes through leaves one live credential of
the device, the new one, and the token that was redeemed is that of a revoked one. -/
theorem LifecycleOk.rotateTokens (h : LifecycleOk hashToken w)
    (hinj : Function.Injective hashToken) (publicId refreshToken : String) (device : Device)
    (cred : DeviceCredential) {tokens : IssuedTokens} (hfresh : w.Fresh tokens) (now : Time)
    (disk : Disk) :
    LifecycleOk hashToken
      (w.rotateTokens hashToken request publicId refreshToken device cred tokens now disk) := by
  unfold DevicesWorld.rotateTokens
  rcases refreshDenied publicId device cred now with _ | denied
  swap
  · exact h.phase trivial fun _ h => nomatch h
  dsimp only
  rw [MemoryDeviceRepo.finish_repo]
  have hdone : ∀ (r : MemoryDeviceRepo) result, RequestOk r (rotateReturn tokens result) := by
    rintro r (e | value)
    · trivial
    · trivial
  have hwaits : ∀ result d, rotateReturn tokens result ≠ .enrolled d := by
    rintro (e | value) d h
    · cases h
    · cases h
  rcases w.repo.rotateRefreshLocked_cases (hashToken refreshToken)
    (newCredentialFromIssued hashToken device.id tokens now) now with
      ⟨-, e, heq⟩ | ⟨old, known, hrotates, heq⟩
  · rw [heq]
    refine h.move request (h.store.mono (List.subset_cons_self _ _))
      (h.distinct_cons hfresh) (.refl _) (fun _ hne => DevicesWorld.advance_other _ request hne _)
      (fun _ _ => not_touched_none _) ?_ ?_ h.redeemedOnce fun _ => .inl
    · rw [DevicesWorld.advance_self]
      exact hdone _ _
    · intro d' hd'
      rw [DevicesWorld.advance_self] at hd'
      exact absurd hd' (hwaits _ d')
  · rw [heq]
    obtain ⟨hrow, hlive, hhash⟩ := Store.liveByRefresh_some hrotates.live
    have hconsumed : (w.repo.rotated old ((newCredentialFromIssued hashToken device.id tokens
        now).row (w.repo.nextCredId + 1) now) known now).inner.credentials.lookup old.id =
          some { old with revokedAt := some now } := by
      have hne : old.id ≠ ((newCredentialFromIssued hashToken device.id tokens now).row
          (w.repo.nextCredId + 1) now).id :=
        Int.ne_of_lt (Int.lt_add_one_of_le (h.store.credIds old.id old hrow))
      rw [MemoryDeviceRepo.rotated_credentials, if_neg hne, if_pos rfl]
    have hunused : refreshToken ∉ w.redeemed := by
      intro hmem
      obtain ⟨id, c, hc, hhash', hrevoked⟩ := h.redeemed refreshToken hmem
      have hid := h.store.refreshUnique id c old.id old hc hrow (hhash'.trans hhash.symm)
      rw [hid, hrow] at hc
      exact hrevoked (Option.some.inj hc ▸ hlive)
    refine h.move request (h.store.of_rotated hinj hfresh hrotates)
      (h.distinct_cons hfresh) (h.store.rotated_evolves hrotates)
      (fun _ hne => DevicesWorld.advance_other _ request hne _) ?_ ?_ ?_ ?_ ?_
    · intro other _ htouched
      have hother := h.requests other
      rcases hphase : w.requests other with _ | _ | device' | _ | _ | ⟨publicId, device', _⟩ | _ <;>
        rw [hphase] at htouched hother <;> try exact htouched
      · exact hother.2 old.id old hrow (htouched.elim Option.some.inj nofun)
      · exact hother.2.2 old.id old ⟨hrow, hlive⟩ (Option.some.inj htouched)
    · rw [DevicesWorld.advance_self]
      exact hdone _ _
    · intro d' hd'
      rw [DevicesWorld.advance_self] at hd'
      exact absurd hd' (hwaits _ d')
    · dsimp only [DevicesWorld.advance]
      split
      · exact List.nodup_cons.mpr ⟨hunused, h.redeemedOnce⟩
      · exact h.redeemedOnce
    · intro token htoken
      by_cases hmine : token = refreshToken
      · exact .inr ⟨old.id, _, hconsumed, hmine ▸ hhash, nofun⟩
      · refine .inl ?_
        dsimp only [DevicesWorld.advance] at htoken
        split at htoken
        · exact (List.mem_cons.mp htoken).resolve_left hmine
        · exact htoken

/-- A deletion finds a device with a live credential, so one that is not deleted. -/
theorem LifecycleOk.findAccess (h : LifecycleOk hashToken w) (publicId accessToken : String) :
    LifecycleOk hashToken (w.findAccess hashToken request publicId accessToken) := by
  unfold DevicesWorld.findAccess
  split
  · rename_i device cred hfound
    obtain ⟨hlive, hdevice⟩ := withDevice_findValue hfound
    have hid := w.repo.inner.device_id _ _ hdevice
    refine h.phase ⟨⟨⟨device, hid.symm ▸ hdevice, rfl⟩, cred.id, cred, hlive.1, hid.symm⟩, ?_⟩
      fun _ h => nomatch h
    exact h.store.deletedDead cred.id cred device hlive hdevice
  · exact h.phase trivial fun _ h => nomatch h
  · exact h.phase trivial fun _ h => nomatch h

/-- A deletion revokes every credential of the device it found. -/
theorem LifecycleOk.revokeTokens (h : LifecycleOk hashToken w) {publicId : String}
    {device : Device} {cred : DeviceCredential}
    (hrequest : w.requests request = .deleteFound publicId device cred) (now : Time) (disk : Disk) :
    LifecycleOk hashToken (w.revokeTokens request publicId device cred now disk) := by
  have hfound := h.requests request
  rw [hrequest] at hfound
  obtain ⟨howned, hstatus⟩ := hfound
  unfold DevicesWorld.revokeTokens deleteCheck
  by_cases hpublic : device.publicId = publicId
  swap
  · rw [if_pos hpublic]
    exact h.phase trivial fun _ h => nomatch h
  rw [if_neg (not_not.mpr hpublic)]
  by_cases hexpired : cred.accessExpiresAt < now
  · rw [if_pos hexpired]
    exact h.phase trivial fun _ h => nomatch h
  rw [if_neg hexpired, decide_eq_true hstatus]
  dsimp only
  rw [MemoryDeviceRepo.finish_repo]
  have hevolves := evolves_revokeAll w.repo device.id now
  refine h.call (h.store.of_revokeAll device.id now) hevolves (fun _ _ => not_touched_none _) ?_ ?_
  · split
    · exact ⟨hpublic, howned.evolve hevolves, fun _ _ => not_live_revokeAll w.repo device.id now⟩
    · trivial
  · intro d hd
    split at hd <;> cases hd

/-- A deletion marks the device whose credentials it has revoked. -/
theorem LifecycleOk.markDeleted (h : LifecycleOk hashToken w) {publicId : String} {device : Device}
    {now : Time} (hrequest : w.requests request = .revoked publicId device now) (disk : Disk) :
    LifecycleOk hashToken (w.markDeleted request publicId now disk) := by
  have hrevoked := h.requests request
  rw [hrequest] at hrevoked
  obtain ⟨rfl, howned, hdead⟩ := hrevoked
  obtain ⟨d, hd, hpublic⟩ := howned.known
  have hindex : w.repo.inner.byPublicId.lookup device.publicId = some device.id :=
    (h.store.indexed _ _).mpr ⟨d, hd, hpublic⟩
  have hevolves := evolves_softDelete w.repo device.publicId now
  unfold DevicesWorld.markDeleted
  dsimp only
  rw [MemoryDeviceRepo.finish_repo]
  refine h.call (h.store.of_softDelete device.publicId now fun id c hlive heq => ?_) hevolves ?_ ?_ ?_
  · rw [hindex] at heq
    exact hdead id c hlive (Option.some.inj heq).symm
  · intro other _ htouched
    have hother := h.requests other
    rw [hindex] at htouched
    rcases hphase : w.requests other with _ | _ | device' | _ | _ | ⟨publicId, device', _⟩ | _ <;>
      rw [hphase] at htouched hother <;> try exact htouched
    · obtain ⟨id, c, hc, hdevice⟩ := howned.credential
      have hid : device.id = device'.id := htouched.elim nofun Option.some.inj
      exact hother.2 id c hc (hdevice.trans hid)
    · cases htouched
  · split
    · rename_i hok
      exact deleted_of_softDelete (MemoryDeviceRepo.finish_ok hok)
    · trivial
    · trivial
  · intro d' hd'
    split at hd' <;> cases hd'

/-- **The step lemma**: every repository call of every handler keeps the invariant. -/
theorem LifecycleOk.step {w' : DevicesWorld} (hinj : Function.Injective hashToken)
    (h : LifecycleOk hashToken w) {e : DevicesStep}
    (hstep : (devicesSystem hashToken).step w e = some w') : LifecycleOk hashToken w' := by
  cases e with
  | register request displayName publicKey protocolVersion =>
    rcases hcall : w.requests request with _ | _ | _ | _ | _ | _ | _ <;>
      simp only [devicesSystem, hcall, reduceCtorEq] at hstep
    obtain rfl := Option.some.inj hstep
    exact h.phase trivial fun _ h => nomatch h
  | create request publicId now disk =>
    rcases hcall : w.requests request with _ | ⟨displayName, publicKey, version, tries⟩ | _ | _ | _ |
      _ | _ <;> simp only [devicesSystem, hcall, reduceCtorEq] at hstep
    obtain rfl := Option.some.inj hstep
    exact h.tryCreate displayName publicKey version tries publicId now disk
  | issue request bodies now disk =>
    rcases hcall : w.requests request with _ | _ | device | _ | _ | _ | _ <;>
      simp only [devicesSystem, hcall, reduceCtorEq] at hstep
    obtain ⟨hfresh, hw⟩ := Option.ite_none_right_eq_some.mp hstep
    obtain rfl := Option.some.inj hw
    exact h.issueTokens hinj hcall hfresh now disk
  | refresh request publicId refreshToken =>
    rcases hcall : w.requests request with _ | _ | _ | _ | _ | _ | _ <;>
      simp only [devicesSystem, hcall, reduceCtorEq] at hstep
    obtain rfl := Option.some.inj hstep
    exact h.findRefresh publicId refreshToken
  | rotate request bodies now disk =>
    rcases hcall : w.requests request with _ | _ | _ | ⟨publicId, token, device, cred⟩ | _ | _ | _ <;>
      simp only [devicesSystem, hcall, reduceCtorEq] at hstep
    obtain ⟨hfresh, hw⟩ := Option.ite_none_right_eq_some.mp hstep
    obtain rfl := Option.some.inj hw
    exact h.rotateTokens hinj publicId token device cred hfresh now disk
  | delete request publicId accessToken =>
    rcases hcall : w.requests request with _ | _ | _ | _ | _ | _ | _ <;>
      simp only [devicesSystem, hcall, reduceCtorEq] at hstep
    obtain rfl := Option.some.inj hstep
    exact h.findAccess publicId accessToken
  | revoke request now disk =>
    rcases hcall : w.requests request with _ | _ | _ | _ | ⟨publicId, device, cred⟩ | _ | _ <;>
      simp only [devicesSystem, hcall, reduceCtorEq] at hstep
    obtain rfl := Option.some.inj hstep
    exact h.revokeTokens hcall now disk
  | softDelete request disk =>
    rcases hcall : w.requests request with _ | _ | _ | _ | _ | ⟨publicId, device, now⟩ | _ <;>
      simp only [devicesSystem, hcall, reduceCtorEq] at hstep
    obtain rfl := Option.some.inj hstep
    exact h.markDeleted hcall disk

/-- An empty repository without requests obeys the rules. -/
theorem LifecycleOk.init (h : (devicesSystem hashToken).init w) : LifecycleOk hashToken w := by
  obtain ⟨-, -, hinner, hrequests, hissued, hredeemed⟩ := h
  have hdevices : ∀ id, w.repo.inner.devices.lookup id = none := fun id => by
    rw [hinner]
    exact AList.lookup_empty id
  have hcredentials : ∀ id, w.repo.inner.credentials.lookup id = none := fun id => by
    rw [hinner]
    exact AList.lookup_empty id
  have hindex : ∀ publicId, w.repo.inner.byPublicId.lookup publicId = none := fun publicId => by
    rw [hinner]
    exact AList.lookup_empty publicId
  refine ⟨⟨?_, ?_, ?_, ?_, ?_, ?_, ?_, ?_, ?_⟩, ?_, ?_, ?_, ?_, ?_⟩
  · simp [hdevices]
  · simp [hcredentials]
  · simp [hcredentials]
  · simp [hcredentials]
  · simp [hcredentials]
  · simp [hcredentials]
  · simp [hdevices, hindex]
  · simp [Live, hcredentials]
  · simp [Live, hcredentials]
  · simp [hissued]
  · simp [hrequests, RequestOk]
  · simp [hrequests]
  · simp [hredeemed]
  · simp [hredeemed]

end Handlers

/-- A test of live rows that no live row passes finds nothing. -/
theorem withDevice_none {r : MemoryDeviceRepo} {p : DeviceCredential → Bool}
    (h : ∀ id c, Live r id c → p c = false) :
    r.inner.withDevice (r.inner.credentials.findValue fun c => c.revokedAt.isNone && p c) =
      .ok none := by
  rw [HashMap.findValue_eq_none.mpr fun id c hc => ?_]
  · rfl
  · rcases hrevoked : c.revokedAt with _ | t
    · exact Bool.and_eq_false_imp.mpr fun _ => h id c ⟨hc, hrevoked⟩
    · rfl

/-- **The life of a credential.** In every interleaving of enrolments, refreshes and deletions a
refresh token is redeemed at most once, and afterwards neither it nor the access token minted with it
is found; a device has at most one live credential; and when a deletion has succeeded its device is
deleted and has no live credential.

**Proof sketch.** `LifecycleOk` holds along every run. A redeemed token is that of a revoked row, and
no other row has its hash; the access token minted with it is that of the same row. -/
theorem credential_lifecycle (hashToken : String → String) (hinj : Function.Injective hashToken)
    {w : DevicesWorld} (hw : (devicesSystem hashToken).Reachable w) :
    w.redeemed.Nodup ∧
    (∀ token ∈ w.redeemed, w.repo.findByRefreshHash (hashToken token) = .ok none ∧
      ∀ t ∈ w.issued, t.refreshToken = token →
        w.repo.findByAccessHash (hashToken t.accessToken) = .ok none) ∧
    (∀ id c id' c', Live w.repo id c → Live w.repo id' c' → c.deviceId = c'.deviceId → id = id') ∧
    ∀ request publicId, w.requests request = .returned (.deleted publicId) →
      ∃ id d, w.repo.inner.byPublicId.lookup publicId = some id ∧
        w.repo.inner.devices.lookup id = some d ∧ d.status = .deleted ∧
          ∀ credId c, Live w.repo credId c → c.deviceId ≠ id := by
  have h : LifecycleOk hashToken w :=
    hw.invariant (LifecycleOk hashToken) (fun _ => .init) fun _ _ _ h _ hs => h.step hinj hs
  refine ⟨h.redeemedOnce, fun token htoken => ?_, h.store.oneLive, fun request publicId hdone => ?_⟩
  · obtain ⟨id, c, hc, hhash, hrevoked⟩ := h.redeemed token htoken
    constructor
    · refine withDevice_none fun id' c' hlive => Bool.eq_false_iff.mpr fun htest => ?_
      have hid := h.store.refreshUnique id' c' id c hlive.1 hc
        ((tokenHashEq_iff.mp htest).trans hhash.symm)
      rw [hid] at hlive
      exact hrevoked (Option.some.inj (hlive.1.symm.trans hc) ▸ hlive.2)
    · intro t ht hrefresh
      obtain ⟨t', ht', haccess, hrefresh'⟩ := h.store.minted id c hc
      have hsame : t' = t := h.distinct t' ht' t ht
        ((hinj (hrefresh'.symm.trans hhash)).trans hrefresh.symm)
      rw [hsame] at haccess
      refine withDevice_none fun id' c' hlive => Bool.eq_false_iff.mpr fun htest => ?_
      have hid := h.store.accessUnique id' c' id c hlive.1 hc
        ((tokenHashEq_iff.mp htest).trans haccess.symm)
      rw [hid] at hlive
      exact hrevoked (Option.some.inj (hlive.1.symm.trans hc) ▸ hlive.2)
  · have hdeleted := h.requests request
    rw [hdone] at hdeleted
    obtain ⟨id, d, hid, hd, hstatus⟩ := hdeleted
    refine ⟨id, d, hid, hd, hstatus, fun credId c hlive heq => ?_⟩
    exact h.store.deletedDead credId c d hlive (heq ▸ hd) hstatus

/-- SHA-256 on the tokens of the run below, and a permutation of the other strings. -/
def demoHashToken (token : String) : String :=
  Equiv.swap "rl_at_A" "90d5cb83c8cc8af8558fdcd09636953768c40bada6eeb745bb3c3db9764de116"
    (Equiv.swap "rl_rt_B" "67c96aeaea5685ba23b90ebe9e7e7a1bf028cc4ed79a4e6b5a119a101e1b84ff"
      (Equiv.swap "rl_at_C" "28a907e2355d4c7d1ad35c8404e6536ea86066120f2b749aa1df4ac4263af1e7"
        (Equiv.swap "rl_rt_D" "825c3697ee53e6522e0bb093f55808bd47f24a127f14e049058fbb332fffd552" token)))

/-- A device is enrolled, refreshes and is deleted. -/
def enrolledRun : List DevicesStep :=
  [.register 0 none [] 1, .create 0 "1234567897" 0 .written, .issue 0 ("A", "B") 0 .written,
    .refresh 1 "1234567897" "rl_rt_B", .rotate 1 ("C", "D") 1 .written,
    .delete 2 "1234567897" "rl_at_C", .revoke 2 2 .written, .softDelete 2 .written]

theorem demoHashToken_injective : Function.Injective demoHashToken :=
  (Equiv.injective _).comp ((Equiv.injective _).comp ((Equiv.injective _).comp (Equiv.injective _)))

/-- In that run the first refresh token is redeemed, and the deletion succeeds. -/
theorem credential_lifecycle_enrolledRun : ∃ w,
    (devicesSystem demoHashToken).runFrom ⟨.new, fun _ => .idle, [], []⟩ enrolledRun = some w ∧
    w.repo.findByRefreshHash (demoHashToken "rl_rt_B") = .ok none ∧
    ∃ id d, w.repo.inner.byPublicId.lookup "1234567897" = some id ∧
      w.repo.inner.devices.lookup id = some d ∧ d.status = .deleted := by
  have hrun : ((devicesSystem demoHashToken).runFrom ⟨.new, fun _ => .idle, [], []⟩
      enrolledRun).any (fun w => decide (w.redeemed = ["rl_rt_B"]) &&
        match w.requests 2 with
        | .returned (.deleted publicId) => decide (publicId = "1234567897")
        | _ => false) = true := by
    decide +kernel
  obtain ⟨w, hw, hafter⟩ := (Option.any_eq_true _ _).mp hrun
  obtain ⟨hredeemed, hdeleted⟩ := Bool.and_eq_true_iff.mp hafter
  obtain ⟨-, hdead, -, hdone⟩ := credential_lifecycle demoHashToken demoHashToken_injective
    (System.reachable_of_runFrom (.init ⟨rfl, rfl, rfl, rfl, rfl, rfl⟩) hw)
  split at hdeleted
  · rename_i publicId hphase
    rw [of_decide_eq_true hdeleted] at hphase
    obtain ⟨id, d, hid, hd, hstatus, -⟩ := hdone 2 "1234567897" hphase
    refine ⟨w, hw, (hdead "rl_rt_B" ?_).1, id, d, hid, hd, hstatus⟩
    rw [of_decide_eq_true hredeemed]
    exact List.mem_singleton_self _
  · cases hdeleted

end RemoteLink.Routes
