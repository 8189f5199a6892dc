import RemoteLink.Auth.DeviceId
import RemoteLink.Library.Runs
import RemoteLink.Routes.Devices
import RemoteLink.Server.Blocklist
import RemoteLink.Server.Ws

set_option autoImplicit false

/-!
# Blocking viewers

The owner of a host adds subjects to the host's blocklist and removes them again. A session intent
is refused when the hash of the viewer's address or of its device id is listed. The subject is
hashed as the owner wrote it, the viewer's side as the server writes addresses and ids.

## Main definitions

* `authorizeDeviceOwner`, `addBlocklist`, `removeBlocklist` — the requests of an owner.
* `intentSubjects`, `answerIntent` — what an intent is checked for, and its answer.
* `blockSystem` — any sequence of requests, with the subjects that were added and not removed.
* `Blocked.Denotes` — the subject of an entry is the viewer's address or device.
* `OwnSpelling` — subjects are added as the server writes them.

## Main results

* `blocklist_effective` — added so, an entry blocks its subject until it is removed; an intent is
  refused exactly for the entries that are spelled as the server spells the viewer; the index agrees
  with the table and no host's entries concern another.
* `blocklist_evaded` — a subject that is written otherwise blocks nobody.
-/

namespace RemoteLink.Routes

open RemoteLink.Library RemoteLink.Protocol RemoteLink.Repo RemoteLink.Auth
open RemoteLink.Server (Time second Answers Intent PeerIdentity checkIntent ProxyHeaders
  resolveClientIp proxyClientIp ipKey BlockSubjectType BlocklistEntry BlocklistError BlockKey
  MemoryBlocklist hashSubject anyBlocked)

/-! ## Requests of an owner -/

/-- A request in the name of a device: the id in its path, its `Authorization` header, what the
repository answers for the token, and when. -/
structure OwnerRequest where
  rawId : String
  authorization : Option String
  found : Except RepoError (Option (Device × DeviceCredential))
  now : Time

/-- The token of an `Authorization` header. -/
def bearerToken (authorization : Option String) : Except AppError String :=
  match authorization with
  | none => .error .unauthorized
  | some value =>
    let strip (scheme : String) : Option String :=
      if Text.startsWith scheme.toList value.toList
      then some (String.ofList (value.toList.drop scheme.length)) else none
    match (strip "Bearer ").or (strip "bearer ") with
    | none => .error .unauthorized
    | some rest => if rest.isEmpty then .error .unauthorized else .ok rest

/-- The device in whose name a request is made. -/
def authorizeDeviceOwner (req : OwnerRequest) : Except AppError Device :=
  match DevicePublicId.parse req.rawId with
  | .error e => .error (.badRequest s!"invalid device id: invalid device public ID: {e}")
  | .ok publicId =>
    match bearerToken req.authorization with
    | .error e => .error e
    | .ok _ =>
      match req.found with
      | .error e => .error (.ofRepo e)
      | .ok none => .error .unauthorized
      | .ok (some (device, cred)) =>
        if device.publicId ≠ publicId.asStr then .error .unauthorized
        else if device.status ≠ .active then .error .unauthorized
        else if cred.accessExpiresAt < req.now then .error .unauthorized
        else .ok device

/-- A blocklist error as an application error. -/
def AppError.ofBlocklist : BlocklistError → AppError
  | .notFound => .notFound
  | .conflict reason => .conflict reason
  | .internal reason => .internal reason

/-- The body of a request that adds an entry. -/
structure BlocklistAddRequest where
  subjectType : String
  subject : String

/-- Read the type of a subject. -/
def parseSubjectType (raw : String) : Except AppError BlockSubjectType :=
  match BlockSubjectType.parse (Text.trim raw) with
  | some ty => .ok ty
  | none => .error (.badRequest "subject_type must be one of: ip, viewer_fingerprint, device")

/-- Add an entry to the blocklist of a device. -/
def addBlocklist (digest : String → String) (s : MemoryBlocklist) (owner : OwnerRequest)
    (body : BlocklistAddRequest) (now : Time) :
    Except AppError BlocklistEntry × MemoryBlocklist :=
  match authorizeDeviceOwner owner with
  | .error e => (.error e, s)
  | .ok device =>
    match parseSubjectType body.subjectType with
    | .error e => (.error e, s)
    | .ok subjectType =>
      let subject := Text.trim body.subject
      if subject.isEmpty then (.error (.badRequest "subject is required"), s)
      else if 512 < subject.utf8ByteSize then
        (.error (.badRequest "subject must be at most 512 characters"), s)
      else
        let (result, s) := s.add ⟨device.id, subjectType, hashSubject digest subject⟩ now
        (result.mapError .ofBlocklist, s)

/-- Remove an entry from the blocklist of a device. -/
def removeBlocklist (s : MemoryBlocklist) (owner : OwnerRequest) (entryId : Int) :
    Except AppError Unit × MemoryBlocklist :=
  match authorizeDeviceOwner owner with
  | .error e => (.error e, s)
  | .ok device =>
    let (result, s) := s.remove device.id entryId
    (result.mapError .ofBlocklist, s)

/-! ## Intents -/

/-- A viewer's connection: what its upgrade request said, the setting of the server, and who it
is. -/
structure ViewerConn where
  headers : ProxyHeaders
  peer : Option IpAddr
  trustProxy : Bool
  identity : PeerIdentity

/-- The text of a viewer's address. -/
def ViewerConn.clientIp (v : ViewerConn) : String :=
  resolveClientIp v.headers v.peer v.trustProxy

/-- What an intent is checked for. -/
def intentSubjects (digest : String → String) (clientIp : String) (identity : PeerIdentity) :
    List (BlockSubjectType × String) :=
  (.ip, hashSubject digest clientIp) ::
    match identity.devicePublicId with
    | some pid => [(.device, hashSubject digest pid), (.viewerFingerprint, hashSubject digest pid)]
    | none => []

/-- The checks of an intent with the answer of the blocklist. -/
def answerIntent (digest : String → String) (s : MemoryBlocklist) (v : ViewerConn)
    (intent : Intent) (ans : Answers) : Except SignalMessage Server.Device :=
  checkIntent v.identity intent { ans with
    blocked := .ok <| match ans.device with
      | .ok (some host) =>
        (anyBlocked s host.id (intentSubjects digest v.clientIp v.identity)).isSome
      | _ => false }

/-! ## Runs -/

/-- A subject that was added to a host's blocklist, as its owner wrote it. -/
structure Blocked where
  id : Int
  host : Int
  subjectType : BlockSubjectType
  subject : String

/-- The blocklist, and the subjects that were added and not removed. The latter only record
history. -/
structure BlockWorld where
  store : MemoryBlocklist
  live : List Blocked

/-- A request of an owner. -/
inductive BlockStep where
  | add (owner : OwnerRequest) (body : BlocklistAddRequest) (now : Time)
  | remove (owner : OwnerRequest) (entryId : Int)

/-- Who makes a request. -/
def BlockStep.owner : BlockStep → OwnerRequest
  | add owner _ _ => owner
  | remove owner _ => owner

/-- Any sequence of requests. An intent changes nothing, so it may come anywhere. -/
def blockSystem (digest : String → String) : System BlockWorld BlockStep where
  init w := w = ⟨.new, []⟩
  step w
    | .add owner body now =>
      match addBlocklist digest w.store owner body now with
      | (.ok e, store) => some ⟨store, ⟨e.id, e.hostDeviceId, e.subjectType, body.subject⟩ :: w.live⟩
      | (.error _, store) => some { w with store := store }
    | .remove owner entryId =>
      match removeBlocklist w.store owner entryId with
      | (.ok (), store) => some ⟨store, w.live.filter fun b => decide (b.id ≠ entryId)⟩
      | (.error _, store) => some { w with store := store }

/-- The address that the text of a viewer's address stands for. -/
def ViewerConn.clientAddr (v : ViewerConn) : Option IpAddr :=
  match if v.trustProxy then proxyClientIp v.headers else none with
  | some ip => IpAddr.parse ip
  | none => v.peer

/-- **The subject of an entry is the viewer's**: its address, in any textual form, or its device, in
any form of the id. The fingerprint of a viewer is not known to the server. -/
def Blocked.Denotes (b : Blocked) (v : ViewerConn) : Prop :=
  match b.subjectType with
  | .ip => ∃ a a', IpAddr.parse (Text.trim b.subject) = some a ∧ v.clientAddr = some a' ∧
      a.canonical = a'.canonical
  | .device => ∃ id, DevicePublicId.parse b.subject = .ok id ∧
      v.identity.devicePublicId = some id.asStr
  | .viewerFingerprint => False

/-- The subject of an entry is written as the server writes what the viewer is checked for. -/
def Blocked.SpelledAs (b : Blocked) (v : ViewerConn) : Prop :=
  match b.subjectType with
  | .ip => Text.trim b.subject = Text.trim v.clientIp
  | .device | .viewerFingerprint => ∃ pid, v.identity.devicePublicId = some pid ∧
      Text.trim b.subject = Text.trim pid

/-- A subject is written as the server writes addresses and ids. -/
def WrittenOut (ty : BlockSubjectType) (subject : String) : Prop :=
  match ty with
  | .ip => ∀ a, IpAddr.parse (Text.trim subject) = some a → Text.trim subject = ipKey a
  | .device => ∀ id, DevicePublicId.parse subject = .ok id → Text.trim subject = id.asStr
  | .viewerFingerprint => True

/-- **Subjects are added as the server writes them.** -/
def OwnSpelling (_ : BlockWorld) : BlockStep → Prop
  | .add _ body _ => ∀ ty, parseSubjectType body.subjectType = .ok ty → WrittenOut ty body.subject
  | .remove _ _ => True

/-- A viewer's address is written as the server writes addresses. -/
def ViewerConn.WrittenOut (v : ViewerConn) : Prop :=
  ∀ a, v.clientAddr = some a → v.clientIp = ipKey a

/-! ## What the requests do -/

section Requests

variable (digest : String → String) (s : MemoryBlocklist) (owner : OwnerRequest)

/-- **What an add request does**: nothing, or it adds a new entry for the owner's host. -/
theorem addBlocklist_cases (body : BlocklistAddRequest) (now : Time) :
    (∃ e, addBlocklist digest s owner body now = (.error e, s)) ∨
    ∃ device ty row, authorizeDeviceOwner owner = .ok device ∧
      parseSubjectType body.subjectType = .ok ty ∧
      row.key = (device.id, ty, hashSubject digest (Text.trim body.subject)) ∧
      s.add ⟨device.id, ty, hashSubject digest (Text.trim body.subject)⟩ now =
        (.ok row, ⟨row.id, s.entries.insert row.id row, s.index.insert row.key row.id⟩) ∧
      row.id = s.nextId + 1 ∧
      addBlocklist digest s owner body now =
        (.ok row, ⟨row.id, s.entries.insert row.id row, s.index.insert row.key row.id⟩) := by
  unfold addBlocklist
  rcases authorizeDeviceOwner owner with e | device
  · exact .inl ⟨e, rfl⟩
  dsimp only
  rcases parseSubjectType body.subjectType with e | ty
  · exact .inl ⟨e, rfl⟩
  dsimp only
  split_ifs
  · exact .inl ⟨_, rfl⟩
  · exact .inl ⟨_, rfl⟩
  · obtain ⟨reason, heq⟩ | ⟨row, hid, hkey, -, heq⟩ :=
      s.add_cases ⟨device.id, ty, hashSubject digest (Text.trim body.subject)⟩ now
    · rw [heq]
      exact .inl ⟨_, rfl⟩
    · rw [heq]
      exact .inr ⟨device, ty, row, rfl, rfl, hkey, heq, hid, rfl⟩

/-- **What a remove request does**: nothing, or the entry was the owner's and goes. -/
theorem removeBlocklist_cases (entryId : Int) :
    (∃ e, removeBlocklist s owner entryId = (.error e, s)) ∨
    ∃ device, authorizeDeviceOwner owner = .ok device ∧
      removeBlocklist s owner entryId = (.ok (), (s.remove device.id entryId).2) ∧
      ∃ gone, (s.remove device.id entryId).2 =
        { s with entries := s.entries.erase entryId, index := s.index.erase gone } := by
  unfold removeBlocklist
  rcases authorizeDeviceOwner owner with e | device
  · exact .inl ⟨e, rfl⟩
  dsimp only
  obtain heq | ⟨e, -, -, heq⟩ := s.remove_cases device.id entryId
  · rw [heq]
    exact .inl ⟨_, rfl⟩
  · refine .inr ⟨device, rfl, ?_, e.key, ?_⟩
    · rw [heq]
      rfl
    · rw [heq]

end Requests

/-! ## The entries are the live subjects -/

/-- The key under which a subject was added. -/
def Blocked.key (digest : String → String) (b : Blocked) : BlockKey :=
  (b.host, b.subjectType, hashSubject digest (Text.trim b.subject))

/-- The index agrees with the table, and the entries are the subjects that were added and not
removed. -/
structure BlockOk (digest : String → String) (w : BlockWorld) : Prop where
  agrees : w.store.Agrees
  entries_iff : ∀ id key, (∃ e, w.store.entries.lookup id = some e ∧ e.key = key) ↔
    ∃ b ∈ w.live, b.id = id ∧ b.key digest = key

namespace BlockOk

variable {digest : String → String} {w w' : BlockWorld}

/-- Nobody is blocked yet. -/
theorem init (h : (blockSystem digest).init w) : BlockOk digest w := by
  obtain rfl : w = ⟨.new, []⟩ := h
  refine ⟨.new, fun id key => ⟨?_, ?_⟩⟩
  · rintro ⟨e, he, -⟩
    rw [show MemoryBlocklist.new.entries.lookup id = none from AList.lookup_empty id] at he
    cases he
  · rintro ⟨b, hb, -⟩
    cases hb

/-- An add request keeps the agreement. -/
theorem add (h : BlockOk digest w) {owner : OwnerRequest} {body : BlocklistAddRequest} {now : Time}
    (hstep : (blockSystem digest).step w (.add owner body now) = some w') : BlockOk digest w' := by
  obtain ⟨e, heq⟩ | ⟨device, ty, row, -, -, hkey, hadd, hid, heq⟩ :=
    addBlocklist_cases digest w.store owner body now
  · simp only [blockSystem, heq] at hstep
    obtain rfl := Option.some.inj hstep
    exact h
  simp only [blockSystem, heq] at hstep
  obtain rfl := Option.some.inj hstep
  have hagrees := h.agrees.add ⟨device.id, ty, hashSubject digest (Text.trim body.subject)⟩ now
  rw [hadd] at hagrees
  have hnew : (⟨row.id, row.hostDeviceId, row.subjectType, body.subject⟩ : Blocked).key digest =
      row.key := by
    obtain ⟨hhost, htype, hhash⟩ : row.hostDeviceId = device.id ∧ row.subjectType = ty ∧
        row.subjectHash = hashSubject digest (Text.trim body.subject) := by
      simpa [BlocklistEntry.key] using hkey
    rw [hkey, ← hhost, ← htype]
    rfl
  refine ⟨hagrees, fun id key => ?_⟩
  show (∃ e, (w.store.entries.insert row.id row).lookup id = some e ∧ e.key = key) ↔
    ∃ b ∈ (⟨row.id, row.hostDeviceId, row.subjectType, body.subject⟩ : Blocked) :: w.live,
      b.id = id ∧ b.key digest = key
  by_cases hrow : id = row.id
  · subst hrow
    rw [AList.lookup_insert]
    constructor
    · rintro ⟨e, he, rfl⟩
      obtain rfl := Option.some.inj he
      exact ⟨_, List.mem_cons_self, rfl, hnew⟩
    · rintro ⟨b, hb, hbid, hbkey⟩
      rcases List.mem_cons.mp hb with rfl | hb
      · exact ⟨row, rfl, hnew.symm.trans hbkey⟩
      · -- the id is new, so no older subject has it
        obtain ⟨e, he, -⟩ := (h.entries_iff b.id _).mpr ⟨b, hb, rfl, rfl⟩
        have hle := (h.agrees.id_eq b.id e he).2
        omega
  · rw [AList.lookup_insert_ne hrow, h.entries_iff]
    constructor
    · rintro ⟨b, hb, hbid⟩
      exact ⟨b, List.mem_cons_of_mem _ hb, hbid⟩
    · rintro ⟨b, hb, hbid, hbkey⟩
      rcases List.mem_cons.mp hb with rfl | hb
      · exact absurd hbid.symm hrow
      · exact ⟨b, hb, hbid, hbkey⟩

/-- A remove request keeps the agreement. -/
theorem remove (h : BlockOk digest w) {owner : OwnerRequest} {entryId : Int}
    (hstep : (blockSystem digest).step w (.remove owner entryId) = some w') :
    BlockOk digest w' := by
  obtain ⟨e, heq⟩ | ⟨device, -, heq, gone, hgone⟩ := removeBlocklist_cases w.store owner entryId
  · simp only [blockSystem, heq] at hstep
    obtain rfl := Option.some.inj hstep
    exact h
  simp only [blockSystem, heq] at hstep
  obtain rfl := Option.some.inj hstep
  refine ⟨h.agrees.remove device.id entryId, fun id key => ?_⟩
  show (∃ e, (w.store.remove device.id entryId).2.entries.lookup id = some e ∧ e.key = key) ↔ _
  rw [hgone]
  have hfilter : (∃ b ∈ w.live.filter fun b => decide (b.id ≠ entryId),
      b.id = id ∧ b.key digest = key) ↔
      id ≠ entryId ∧ ∃ b ∈ w.live, b.id = id ∧ b.key digest = key := by
    constructor
    · rintro ⟨b, hb, rfl, hbkey⟩
      obtain ⟨hmem, hne⟩ := List.mem_filter.mp hb
      exact ⟨of_decide_eq_true hne, b, hmem, rfl, hbkey⟩
    · rintro ⟨hne, b, hb, rfl, hbkey⟩
      exact ⟨b, List.mem_filter.mpr ⟨hb, decide_eq_true hne⟩, rfl, hbkey⟩
  rw [hfilter, ← h.entries_iff]
  by_cases hid : id = entryId
  · rw [hid, AList.lookup_erase]
    constructor
    · rintro ⟨e, he, -⟩
      cases he
    · rintro ⟨hne, -⟩
      exact absurd rfl hne
  · rw [AList.lookup_erase_ne hid]
    exact ⟨fun he => ⟨hid, he⟩, And.right⟩

/-- **The step lemma**: every request keeps the agreement. -/
theorem step {e : BlockStep} (h : BlockOk digest w)
    (hstep : (blockSystem digest).step w e = some w') : BlockOk digest w' := by
  cases e with
  | add owner body now => exact h.add hstep
  | remove owner entryId => exact h.remove hstep

/-- The agreement holds along every run. -/
theorem of_reachable {C : BlockWorld → BlockStep → Prop}
    (h : (blockSystem digest).ReachableVia C w) : BlockOk digest w :=
  h.invariant (BlockOk digest) (fun _ => .init) fun _ _ _ h _ hs => h.step hs

/-- A subject is blocked for a host when it is live there. -/
theorem isBlocked_iff (h : BlockOk digest w) (host : Int) (ty : BlockSubjectType) (hash : String) :
    w.store.isBlocked host ty hash = true ↔
      ∃ b ∈ w.live, b.key digest = (host, ty, hash) := by
  rw [h.agrees.isBlocked_iff]
  constructor
  · rintro ⟨id, he⟩
    obtain ⟨b, hb, -, hkey⟩ := (h.entries_iff id _).mp he
    exact ⟨b, hb, hkey⟩
  · rintro ⟨b, hb, hkey⟩
    exact ⟨b.id, (h.entries_iff b.id _).mpr ⟨b, hb, rfl, hkey⟩⟩

end BlockOk

/-! ## The intents that are refused -/

/-- The hash of a subject is one that an intent of the viewer is checked for. -/
def Blocked.Matches (digest : String → String) (b : Blocked) (v : ViewerConn) : Prop :=
  (b.subjectType, hashSubject digest (Text.trim b.subject)) ∈
    intentSubjects digest v.clientIp v.identity

/-- What an intent is checked for. -/
theorem mem_intentSubjects {digest : String → String} {clientIp : String} {identity : PeerIdentity}
    {ty : BlockSubjectType} {hash : String} :
    (ty, hash) ∈ intentSubjects digest clientIp identity ↔ match ty with
      | .ip => hash = hashSubject digest clientIp
      | .device | .viewerFingerprint => ∃ pid, identity.devicePublicId = some pid ∧
          hash = hashSubject digest pid := by
  unfold intentSubjects
  cases ty <;> rcases identity.devicePublicId with _ | pid <;> simp

/-- The hash of a subject is that of another text, which the viewer is checked for. -/
def Blocked.Collides (digest : String → String) (b : Blocked) (v : ViewerConn) : Prop :=
  b.Matches digest v ∧ ¬b.SpelledAs v

/-- A subject that is spelled as the server spells the viewer is one that its intents are checked
for. -/
theorem Blocked.SpelledAs.matches {b : Blocked} {v : ViewerConn} (h : b.SpelledAs v)
    (digest : String → String) : b.Matches digest v := by
  unfold Blocked.SpelledAs at h
  unfold Blocked.Matches
  rw [mem_intentSubjects]
  unfold hashSubject
  rw [Text.trim_trim]
  cases hty : b.subjectType with
  | ip =>
    rw [hty] at h
    exact congrArg digest h
  | device | viewerFingerprint =>
    rw [hty] at h
    obtain ⟨pid, hpid, htrim⟩ := h
    exact ⟨pid, hpid, congrArg digest htrim⟩

/-- **One of a viewer's subjects is blocked for a host when a live subject of the host matches.** -/
theorem BlockOk.anyBlocked_iff {digest : String → String} {w : BlockWorld} (h : BlockOk digest w)
    (host : Int) (v : ViewerConn) :
    (anyBlocked w.store host (intentSubjects digest v.clientIp v.identity)).isSome = true ↔
      ∃ b ∈ w.live, b.host = host ∧ b.Matches digest v := by
  rw [Server.isSome_anyBlocked]
  constructor
  · rintro ⟨ty, hash, hmem, hblocked⟩
    obtain ⟨b, hb, hkey⟩ := (h.isBlocked_iff host ty hash).mp hblocked
    obtain ⟨hhost, hrest⟩ := Prod.mk.inj hkey
    refine ⟨b, hb, hhost, ?_⟩
    unfold Blocked.Matches
    rw [hrest]
    exact hmem
  · rintro ⟨b, hb, rfl, hmatches⟩
    exact ⟨_, _, hmatches, (h.isBlocked_iff _ _ _).mpr ⟨b, hb, rfl⟩⟩

/-- An intent that passes every other check is admitted or refused as blocked, by the answer of the
blocklist. -/
theorem checkIntent_blocked {identity : PeerIdentity} {intent : Intent} {ans : Answers}
    {host : Server.Device}
    (h : checkIntent identity intent { ans with blocked := .ok false } = .ok host) :
    ans.device = .ok (some host) ∧ ∀ blocked,
      checkIntent identity intent { ans with blocked := .ok blocked } =
        if blocked then .error (.error "blocked" "viewer is blocked by the host")
        else .ok host := by
  simp only [checkIntent] at h ⊢
  split_ifs at h ⊢ with hrole hsession hhost
  rcases hlimit : ans.ipLimit with _ | e
  · rw [hlimit] at h
    rcases hdevice : ans.device with _ | _ | device
    · rw [hdevice] at h
      cases h
    · rw [hdevice] at h
      cases h
    · rw [hdevice] at h
      dsimp only at h ⊢
      split_ifs at h ⊢ with hactive
      obtain rfl := Except.ok.inj h
      refine ⟨rfl, fun blocked => ?_⟩
      cases blocked with
      | true => rfl
      | false => rfl
  · rw [hlimit] at h
    cases h

/-- **An intent that passes every other check is refused as blocked exactly when a live subject of
the host matches the viewer.** -/
theorem BlockOk.answerIntent_iff {digest : String → String} {w : BlockWorld} (h : BlockOk digest w)
    {v : ViewerConn} {intent : Intent} {ans : Answers} {host : Server.Device}
    (hpasses : checkIntent v.identity intent { ans with blocked := .ok false } = .ok host) :
    answerIntent digest w.store v intent ans =
        .error (.error "blocked" "viewer is blocked by the host") ↔
      ∃ b ∈ w.live, b.host = host.id ∧ b.Matches digest v := by
  obtain ⟨hdevice, hanswer⟩ := checkIntent_blocked hpasses
  unfold answerIntent
  rw [hanswer, hdevice]
  dsimp only
  rw [← h.anyBlocked_iff]
  split_ifs with hblocked
  · exact ⟨fun _ => hblocked, fun _ => rfl⟩
  · exact ⟨fun heq => (nomatch heq), fun hsome => absurd hsome hblocked⟩

/-! ## The spelling of addresses and ids -/

/-- Without trusted proxy headers every address is written as the server writes addresses. -/
theorem ViewerConn.writtenOut_of_untrusted {v : ViewerConn} (h : v.trustProxy = false) :
    v.WrittenOut := by
  intro a ha
  unfold ViewerConn.clientAddr at ha
  unfold ViewerConn.clientIp resolveClientIp
  simp only [h, Bool.false_eq_true, ↓reduceIte] at ha ⊢
  rw [ha]

/-- **A subject that denotes the viewer and is written as the server writes it is spelled as the
viewer.** -/
theorem Blocked.Denotes.spelledAs {b : Blocked} {v : ViewerConn} (h : b.Denotes v)
    (hwritten : WrittenOut b.subjectType b.subject) (hviewer : v.WrittenOut) : b.SpelledAs v := by
  unfold Blocked.Denotes at h
  unfold WrittenOut at hwritten
  unfold Blocked.SpelledAs
  cases hty : b.subjectType with
  | ip =>
    rw [hty] at h hwritten
    obtain ⟨a, a', hparse, haddr, hsame⟩ := h
    have hspelling : Text.trim b.subject = v.clientIp := by
      rw [hwritten a hparse, hviewer a' haddr, Server.ipKey_eq, Server.ipKey_eq, hsame]
    rw [← hspelling, Text.trim_trim]
  | device =>
    rw [hty] at h hwritten
    obtain ⟨id, hparse, hpid⟩ := h
    refine ⟨id.asStr, hpid, ?_⟩
    rw [← hwritten id hparse, Text.trim_trim]
  | viewerFingerprint =>
    rw [hty] at h
    exact h.elim

/-- In a run with the server's own spelling every live subject has it. -/
theorem writtenOut_of_reachable {digest : String → String} {w : BlockWorld}
    (h : (blockSystem digest).ReachableVia OwnSpelling w) :
    ∀ b ∈ w.live, WrittenOut b.subjectType b.subject := by
  refine h.invariant (fun w => ∀ b ∈ w.live, WrittenOut b.subjectType b.subject) ?_ ?_
  · rintro w rfl b hb
    cases hb
  · intro w e w' hlive hspelling hstep
    cases e with
    | add owner body now =>
      obtain ⟨e, heq⟩ | ⟨device, ty, row, -, hty, hkey, -, -, heq⟩ :=
        addBlocklist_cases digest w.store owner body now
      · simp only [blockSystem, heq] at hstep
        obtain rfl := Option.some.inj hstep
        exact hlive
      · simp only [blockSystem, heq] at hstep
        obtain rfl := Option.some.inj hstep
        intro b hb
        rcases List.mem_cons.mp hb with rfl | hb
        · have htype : row.subjectType = ty := (Prod.mk.inj (Prod.mk.inj hkey).2).1
          exact hspelling row.subjectType (htype ▸ hty)
        · exact hlive b hb
    | remove owner entryId =>
      obtain ⟨e, heq⟩ | ⟨device, -, heq, -⟩ := removeBlocklist_cases w.store owner entryId
      · simp only [blockSystem, heq] at hstep
        obtain rfl := Option.some.inj hstep
        exact hlive
      · simp only [blockSystem, heq] at hstep
        obtain rfl := Option.some.inj hstep
        intro b hb
        exact hlive b (List.mem_of_mem_filter hb)

/-- A request of one owner changes nothing for the hosts of others. -/
theorem anyBlocked_other {digest : String → String} {w w' : BlockWorld} {e : BlockStep}
    (hstep : (blockSystem digest).step w e = some w') {host : Int}
    (hhost : ∀ device, authorizeDeviceOwner e.owner = .ok device → host ≠ device.id)
    (ty : BlockSubjectType) (hash : String) :
    w'.store.isBlocked host ty hash = w.store.isBlocked host ty hash := by
  cases e with
  | add owner body now =>
    obtain ⟨e, heq⟩ | ⟨device, ty', row, howner, -, -, hadd, -, heq⟩ :=
      addBlocklist_cases digest w.store owner body now
    · simp only [blockSystem, heq] at hstep
      obtain rfl := Option.some.inj hstep
      rfl
    · simp only [blockSystem, heq] at hstep
      obtain rfl := Option.some.inj hstep
      have hother := w.store.add_other
        ⟨device.id, ty', hashSubject digest (Text.trim body.subject)⟩ now (hhost device howner)
        ty hash
      rw [hadd] at hother
      exact hother
  | remove owner entryId =>
    obtain ⟨e, heq⟩ | ⟨device, howner, heq, -⟩ := removeBlocklist_cases w.store owner entryId
    · simp only [blockSystem, heq] at hstep
      obtain rfl := Option.some.inj hstep
      rfl
    · simp only [blockSystem, heq] at hstep
      obtain rfl := Option.some.inj hstep
      exact w.store.remove_other entryId (hhost device howner) ty hash

/-- **The blocklist is effective for subjects that are written as the server writes them.** After
any requests of that kind an intent from a viewer whose address or device is the subject of a live
entry is refused as blocked, if it passes the other checks. After any requests at all it is refused
exactly when the subject of a live entry of the host is spelled as the server spells the viewer,
unless hashes collide; the index agrees with the table; and a request changes nothing for the hosts
of other owners.

**Proof sketch.** `BlockOk` says that the entries are the live subjects, under the hash of their
text. A subject that denotes the viewer has the same address or id; written as the server writes it,
it has the same text. -/
theorem blocklist_effective (digest : String → String) :
    (∀ w, (blockSystem digest).ReachableVia OwnSpelling w → ∀ v intent ans host, v.WrittenOut →
      checkIntent v.identity intent { ans with blocked := .ok false } = .ok host →
        ∀ b ∈ w.live, b.host = host.id → b.Denotes v →
          answerIntent digest w.store v intent ans =
            .error (.error "blocked" "viewer is blocked by the host")) ∧
    ∀ w, (blockSystem digest).Reachable w →
      (∀ v intent ans host,
        checkIntent v.identity intent { ans with blocked := .ok false } = .ok host →
          (∀ b ∈ w.live, ¬b.Collides digest v) →
            (answerIntent digest w.store v intent ans =
                .error (.error "blocked" "viewer is blocked by the host") ↔
              ∃ b ∈ w.live, b.host = host.id ∧ b.SpelledAs v)) ∧
      w.store.Agrees ∧
      ∀ e w', (blockSystem digest).step w e = some w' → ∀ host,
        (∀ device, authorizeDeviceOwner e.owner = .ok device → host ≠ device.id) →
          ∀ ty hash, w'.store.isBlocked host ty hash = w.store.isBlocked host ty hash := by
  constructor
  · intro w hw v intent ans host hviewer hpasses b hb hhost hdenotes
    have hspelled := hdenotes.spelledAs (writtenOut_of_reachable hw b hb) hviewer
    exact ((BlockOk.of_reachable hw).answerIntent_iff hpasses).mpr
      ⟨b, hb, hhost, hspelled.matches digest⟩
  · intro w hw
    have hok := BlockOk.of_reachable hw
    refine ⟨fun v intent ans host hpasses hcollides => ?_, hok.agrees,
      fun e w' hstep host hhost => anyBlocked_other hstep hhost⟩
    rw [hok.answerIntent_iff hpasses]
    constructor
    · rintro ⟨b, hb, hhost, hmatches⟩
      exact ⟨b, hb, hhost, of_not_not fun hother => hcollides b hb ⟨hmatches, hother⟩⟩
    · rintro ⟨b, hb, hhost, hspelled⟩
      exact ⟨b, hb, hhost, hspelled.matches digest⟩

/-! ## An address in two spellings -/

/-- The owner of the host with id 7. -/
def demoOwner : OwnerRequest where
  rawId := "123 456 7897"
  authorization := some "Bearer token"
  found := .ok (some (⟨7, "1234567897", none, [], none, none, 0, none, .active, none⟩,
    ⟨1, 7, "", "", 3600 * second, 3600 * second, none, 0⟩))
  now := 0

/-- A viewer without a device at `2001:db8::1`. -/
def demoViewer : ViewerConn where
  headers := ⟨none, none⟩
  peer := some (.v6 ⟨[0x2001, 0xdb8, 0, 0, 0, 0, 0, 1], rfl⟩)
  trustProxy := false
  identity := ⟨.viewer, none, none, true⟩

/-- The viewer's intent. -/
def demoViewerIntent : Intent := ⟨"s", 0, "1234567897", .unattended, .null⟩

/-- Surroundings in which the host is found and nobody has used up a budget. -/
def demoSurroundings : Answers where
  now := 0
  serverTime := ""
  iceServers := .null
  ipLimit := none
  hostLimit := none
  viewerToken := false
  credential := .ok none
  device := .ok (some ⟨7, "1234567897", .active⟩)
  blocked := .ok false

/-- The blocklist after its owner added an address. -/
def demoBlocked (digest : String → String) (subject : String) : BlockWorld :=
  let row : BlocklistEntry := ⟨1, 7, .ip, hashSubject digest subject, 0⟩
  ⟨⟨1, (∅ : HashMap Int BlocklistEntry).insert 1 row, (∅ : HashMap BlockKey Int).insert row.key 1⟩,
    [⟨1, 7, .ip, subject⟩]⟩

/-- The owner may add it in any spelling. -/
theorem reachable_demoBlocked (digest : String → String) {C : BlockWorld → BlockStep → Prop}
    {subject : String} (hadds : (blockSystem digest).step ⟨.new, []⟩
      (.add demoOwner ⟨"ip", subject⟩ 0) = some (demoBlocked digest subject))
    (hc : C ⟨.new, []⟩ (.add demoOwner ⟨"ip", subject⟩ 0)) :
    (blockSystem digest).ReachableVia C (demoBlocked digest subject) :=
  .step (.init rfl) hc hadds

/-- Any spelling denotes the viewer. -/
theorem demoBlocked_denotes {subject : String}
    (hparse : IpAddr.parse (Text.trim subject) = demoViewer.peer) :
    (⟨1, 7, .ip, subject⟩ : Blocked).Denotes demoViewer :=
  ⟨_, _, hparse, rfl, rfl⟩

/-- Added as the server writes it, the address is refused. -/
theorem blocklist_effective_demo : ∃ w, (blockSystem id).ReachableVia OwnSpelling w ∧
    answerIntent id w.store demoViewer demoViewerIntent demoSurroundings =
      .error (.error "blocked" "viewer is blocked by the host") := by
  have hwritten : WrittenOut .ip "2001:db8::1" := by
    intro a ha
    have hpeer : IpAddr.parse (Text.trim "2001:db8::1") = demoViewer.peer := by decide +kernel
    obtain rfl := Option.some.inj (ha.symm.trans hpeer)
    decide +kernel
  have hreach : (blockSystem id).ReachableVia OwnSpelling (demoBlocked id "2001:db8::1") := by
    refine reachable_demoBlocked id rfl fun ty hty => ?_
    obtain rfl : BlockSubjectType.ip = ty := Except.ok.inj hty
    exact hwritten
  exact ⟨_, hreach, (blocklist_effective id).1 _ hreach demoViewer demoViewerIntent
    demoSurroundings ⟨7, "1234567897", .active⟩ (ViewerConn.writtenOut_of_untrusted rfl) rfl _
    List.mem_cons_self rfl (demoBlocked_denotes (by decide +kernel))⟩

/-- **A subject that is written otherwise blocks nobody**: with capital digits the address of the
viewer is in the list, but the intent is admitted. -/
theorem blocklist_evaded : ¬∃ digest : String → String,
    digest "2001:DB8::1" ≠ digest "2001:db8::1" ∧
      ∀ w, (blockSystem digest).Reachable w → ∀ v intent ans host,
        checkIntent v.identity intent { ans with blocked := .ok false } = .ok host →
          ∀ b ∈ w.live, b.host = host.id → b.Denotes v →
            answerIntent digest w.store v intent ans =
              .error (.error "blocked" "viewer is blocked by the host") := by
  rintro ⟨digest, hne, hclaim⟩
  have hreach : (blockSystem digest).Reachable (demoBlocked digest "2001:DB8::1") :=
    reachable_demoBlocked digest rfl trivial
  have hrefused := hclaim _ hreach demoViewer demoViewerIntent demoSurroundings
    ⟨7, "1234567897", .active⟩ rfl _ List.mem_cons_self rfl
    (demoBlocked_denotes (by decide +kernel))
  obtain ⟨b, hb, -, hmatches⟩ := ((BlockOk.of_reachable hreach).answerIntent_iff rfl).mp hrefused
  obtain rfl := List.mem_singleton.mp hb
  have hhash := mem_intentSubjects.mp hmatches
  exact hne hhash

end RemoteLink.Routes
