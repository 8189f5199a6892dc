import RemoteLink.Library.HashMap
import RemoteLink.Library.IpAddr
import RemoteLink.Library.Text
import RemoteLink.Server.Session

set_option autoImplicit false

/-!
# The blocklist

The blocklist of the hosts: for each entry a host, a type of subject and the hash of the subject's
text. Next to the table of entries stands an index by host, type and hash, which keeps the entries
apart and answers the checks.

## Main definitions

* `ProxyHeaders`, `resolveClientIp` — the text of a client's address.
* `MemoryBlocklist` — the table and its index, with `add`, `isBlocked` and `remove`.
* `anyBlocked` — whether one of several subjects is blocked.
* `MemoryBlocklist.Agrees` — the index agrees with the table.

## Main results

* `MemoryBlocklist.Agrees.add`, `MemoryBlocklist.Agrees.remove` — it goes on agreeing.
* `MemoryBlocklist.add_other`, `MemoryBlocklist.remove_other` — the entries of one host do not
  concern another.
-/

namespace RemoteLink.Server

open RemoteLink.Library

/-! ## Client addresses -/

/-- The proxy headers of a request, where they are present and text. -/
structure ProxyHeaders where
  forwardedFor : Option String
  realIp : Option String

/-- The text in front of the first comma. -/
def firstHop (s : String) : String := String.ofList (s.toList.takeWhile (· != ','))

/-- Whether a text is an address. -/
def isPlausibleIpToken (s : String) : Bool := (IpAddr.parse s).isSome

/-- The address that a proxy reports, as it spells it. -/
def proxyClientIp (headers : ProxyHeaders) : Option String :=
  let token (s : String) : Option String :=
    if !s.isEmpty ∧ isPlausibleIpToken s then some s else none
  match headers.forwardedFor.bind fun v => token (Text.trim (firstHop v)) with
  | some ip => some ip
  | none => headers.realIp.bind fun v => token (Text.trim v)

/-- The text of an address, an IPv4-mapped one as IPv4. -/
def ipKey : IpAddr → String
  | .v6 v6 =>
    match v6.toIpv4Mapped with
    | some v4 => v4.display
    | none => v6.display
  | .v4 v4 => v4.display

/-- Addresses that stand for the same one have the same text. -/
theorem ipKey_eq (ip : IpAddr) : ipKey ip = ip.canonical.display := by
  cases ip with
  | v4 v4 => rfl
  | v6 v6 =>
    unfold ipKey IpAddr.canonical
    dsimp only
    rcases v6.toIpv4Mapped with _ | v4
    · rfl
    · rfl

/-- The text of a client's address. -/
def resolveClientIp (headers : ProxyHeaders) (peer : Option IpAddr) (trustProxy : Bool) : String :=
  match if trustProxy then proxyClientIp headers else none with
  | some ip => ip
  | none =>
    match peer with
    | some ip => ipKey ip
    | none => "unknown"

/-! ## The table and its index -/

/-- What is blocked for a host. -/
inductive BlockSubjectType where
  | ip
  | viewerFingerprint
  | device
  deriving Repr, DecidableEq

/-- The name of a type. -/
def BlockSubjectType.asStr : BlockSubjectType → String
  | ip => "ip"
  | viewerFingerprint => "viewer_fingerprint"
  | device => "device"

/-- Read the name of a type. -/
def BlockSubjectType.parse (s : String) : Option BlockSubjectType :=
  if s = "ip" then some .ip
  else if s = "viewer_fingerprint" then some .viewerFingerprint
  else if s = "device" then some .device
  else none

/-- An entry; of its subject only the hash is stored. -/
structure BlocklistEntry where
  id : Int
  hostDeviceId : Int
  subjectType : BlockSubjectType
  subjectHash : String
  createdAt : Time
  deriving Repr, DecidableEq

/-- The fields of a new entry. -/
structure NewBlocklistEntry where
  hostDeviceId : Int
  subjectType : BlockSubjectType
  subjectHash : String

/-- Errors of the blocklist. -/
inductive BlocklistError where
  | notFound
  | conflict (reason : String)
  | internal (reason : String)
  deriving Repr, DecidableEq

/-- The hash of a subject; `digest` is SHA-256 in hexadecimal. -/
def hashSubject (digest : String → String) (subject : String) : String :=
  digest (Text.trim subject)

/-- What distinguishes an entry: its host, type and hash. -/
abbrev BlockKey := Int × BlockSubjectType × String

/-- The key of an entry. -/
def BlocklistEntry.key (e : BlocklistEntry) : BlockKey :=
  (e.hostDeviceId, e.subjectType, e.subjectHash)

/-- The blocklist behind its mutex. -/
structure MemoryBlocklist where
  nextId : Int
  entries : HashMap Int BlocklistEntry
  index : HashMap BlockKey Int

namespace MemoryBlocklist

/-- A blocklist without entries. -/
def new : MemoryBlocklist := ⟨0, ∅, ∅⟩

/-- Add an entry, unless there is one for its key. -/
def add (s : MemoryBlocklist) (entry : NewBlocklistEntry) (now : Time) :
    Except BlocklistError BlocklistEntry × MemoryBlocklist :=
  let key : BlockKey := (entry.hostDeviceId, entry.subjectType, entry.subjectHash)
  if (s.index.lookup key).isSome then
    (.error (.conflict "subject already blocked for host"), s)
  else
    let id := s.nextId + 1
    let row : BlocklistEntry :=
      ⟨id, entry.hostDeviceId, entry.subjectType, entry.subjectHash, now⟩
    (.ok row, ⟨id, s.entries.insert id row, s.index.insert key id⟩)

/-- Whether a subject is blocked for a host. -/
def isBlocked (s : MemoryBlocklist) (hostDeviceId : Int) (subjectType : BlockSubjectType)
    (subjectHash : String) : Bool :=
  (s.index.lookup (hostDeviceId, subjectType, subjectHash)).isSome

/-- Remove an entry of a host. -/
def remove (s : MemoryBlocklist) (hostDeviceId entryId : Int) :
    Except BlocklistError Unit × MemoryBlocklist :=
  match s.entries.lookup entryId with
  | none => (.error .notFound, s)
  | some entry =>
    if entry.hostDeviceId ≠ hostDeviceId then (.error .notFound, s)
    else (.ok (), { s with entries := s.entries.erase entryId, index := s.index.erase entry.key })

end MemoryBlocklist

/-- The first of several subjects that is blocked for a host. -/
def anyBlocked (s : MemoryBlocklist) (hostDeviceId : Int) :
    List (BlockSubjectType × String) → Option (BlockSubjectType × String)
  | [] => none
  | (ty, hash) :: subjects =>
    if s.isBlocked hostDeviceId ty hash then some (ty, hash) else anyBlocked s hostDeviceId subjects

/-- One of several subjects is blocked when one of them is. -/
theorem isSome_anyBlocked (s : MemoryBlocklist) (hostDeviceId : Int)
    (subjects : List (BlockSubjectType × String)) :
    (anyBlocked s hostDeviceId subjects).isSome = true ↔
      ∃ ty hash, (ty, hash) ∈ subjects ∧ s.isBlocked hostDeviceId ty hash = true := by
  induction subjects with
  | nil => simp [anyBlocked]
  | cons subject subjects ih =>
    obtain ⟨ty, hash⟩ := subject
    unfold anyBlocked
    split_ifs with hblocked
    · exact ⟨fun _ => ⟨ty, hash, List.mem_cons_self, hblocked⟩, fun _ => rfl⟩
    · rw [ih]
      constructor
      · rintro ⟨ty', hash', hmem, h⟩
        exact ⟨ty', hash', List.mem_cons_of_mem _ hmem, h⟩
      · rintro ⟨ty', hash', hmem, h⟩
        rcases List.mem_cons.mp hmem with heq | hmem
        · obtain ⟨rfl, rfl⟩ := Prod.mk.inj heq
          exact absurd h hblocked
        · exact ⟨ty', hash', hmem, h⟩

/-! ## The index agrees with the table -/

/-- **The index agrees with the table**: it holds the key of every entry and nothing else. -/
structure MemoryBlocklist.Agrees (s : MemoryBlocklist) : Prop where
  index_iff : ∀ key id,
    s.index.lookup key = some id ↔ ∃ e, s.entries.lookup id = some e ∧ e.key = key
  id_eq : ∀ id e, s.entries.lookup id = some e → e.id = id ∧ id ≤ s.nextId

namespace MemoryBlocklist

variable {s : MemoryBlocklist}

/-- A subject is blocked for a host when there is an entry. -/
theorem Agrees.isBlocked_iff (h : s.Agrees) (host : Int) (ty : BlockSubjectType) (hash : String) :
    s.isBlocked host ty hash = true ↔
      ∃ id e, s.entries.lookup id = some e ∧ e.key = (host, ty, hash) := by
  unfold isBlocked
  rw [Option.isSome_iff_exists]
  exact exists_congr fun id => h.index_iff (host, ty, hash) id

/-- A blocklist without entries agrees with its index. -/
theorem Agrees.new : MemoryBlocklist.new.Agrees where
  index_iff key id := by
    constructor
    · intro h
      rw [show MemoryBlocklist.new.index.lookup key = none from AList.lookup_empty key] at h
      cases h
    · rintro ⟨e, h, -⟩
      rw [show MemoryBlocklist.new.entries.lookup id = none from AList.lookup_empty id] at h
      cases h
  id_eq id e h := by
    rw [show MemoryBlocklist.new.entries.lookup id = none from AList.lookup_empty id] at h
    cases h

/-- **What adding does**: nothing when the key is taken, else a new entry under a new id. -/
theorem add_cases (s : MemoryBlocklist) (entry : NewBlocklistEntry) (now : Time) :
    (∃ reason, s.add entry now = (.error (.conflict reason), s)) ∨
    ∃ row : BlocklistEntry,
      row.id = s.nextId + 1 ∧ row.key = (entry.hostDeviceId, entry.subjectType, entry.subjectHash) ∧
        s.index.lookup row.key = none ∧
        s.add entry now =
          (.ok row, ⟨row.id, s.entries.insert row.id row, s.index.insert row.key row.id⟩) := by
  unfold add
  dsimp only
  split_ifs with htaken
  · exact .inl ⟨_, rfl⟩
  · exact .inr ⟨⟨_, _, _, _, now⟩, rfl, rfl, Option.not_isSome_iff_eq_none.mp htaken, rfl⟩

/-- **What removing does**: nothing unless the host has the entry, else the entry and its key go. -/
theorem remove_cases (s : MemoryBlocklist) (host id : Int) :
    s.remove host id = (.error .notFound, s) ∨
    ∃ e, s.entries.lookup id = some e ∧ e.hostDeviceId = host ∧
      s.remove host id =
        (.ok (), { s with entries := s.entries.erase id, index := s.index.erase e.key }) := by
  unfold remove
  rcases he : s.entries.lookup id with _ | e
  · exact .inl rfl
  · dsimp only
    split_ifs with hhost
    · exact .inl rfl
    · exact .inr ⟨e, rfl, not_not.mp hhost, rfl⟩

/-- Adding keeps the agreement. -/
theorem Agrees.add (h : s.Agrees) (entry : NewBlocklistEntry) (now : Time) :
    (s.add entry now).2.Agrees := by
  obtain ⟨reason, heq⟩ | ⟨row, hid, -, hfree, heq⟩ := s.add_cases entry now
  · rw [heq]
    exact h
  rw [heq]
  -- the new id is above every id in use
  have hunused : s.entries.lookup row.id = none := by
    rcases he : s.entries.lookup row.id with _ | e
    · rfl
    · have hle := (h.id_eq row.id e he).2
      omega
  refine ⟨fun key id => ?_, fun id e he => ?_⟩
  · show (s.index.insert row.key row.id).lookup key = some id ↔
      ∃ e, (s.entries.insert row.id row).lookup id = some e ∧ e.key = key
    by_cases hkey : key = row.key
    · subst hkey
      rw [AList.lookup_insert]
      constructor
      · intro hsome
        obtain rfl := Option.some.inj hsome
        exact ⟨row, AList.lookup_insert _, rfl⟩
      · rintro ⟨e, he, hekey⟩
        by_cases hrow : id = row.id
        · rw [hrow]
        · rw [AList.lookup_insert_ne hrow] at he
          have htaken := (h.index_iff row.key id).mpr ⟨e, he, hekey⟩
          rw [hfree] at htaken
          cases htaken
    · rw [AList.lookup_insert_ne hkey, h.index_iff]
      constructor
      · rintro ⟨e, he, hekey⟩
        have hrow : id ≠ row.id := by
          rintro rfl
          rw [hunused] at he
          cases he
        exact ⟨e, (AList.lookup_insert_ne hrow).trans he, hekey⟩
      · rintro ⟨e, he, hekey⟩
        by_cases hrow : id = row.id
        · subst hrow
          rw [AList.lookup_insert] at he
          obtain rfl := Option.some.inj he
          exact absurd hekey.symm hkey
        · rw [AList.lookup_insert_ne hrow] at he
          exact ⟨e, he, hekey⟩
  · change (s.entries.insert row.id row).lookup id = some e at he
    by_cases hrow : id = row.id
    · subst hrow
      rw [AList.lookup_insert] at he
      obtain rfl := Option.some.inj he
      exact ⟨rfl, Int.le_refl _⟩
    · rw [AList.lookup_insert_ne hrow] at he
      obtain ⟨heid, hle⟩ := h.id_eq id e he
      refine ⟨heid, ?_⟩
      show id ≤ row.id
      omega

/-- Removing keeps the agreement: the key that goes is that of no other entry. -/
theorem Agrees.remove (h : s.Agrees) (host entryId : Int) : (s.remove host entryId).2.Agrees := by
  obtain heq | ⟨gone, hgone, -, heq⟩ := s.remove_cases host entryId
  · rw [heq]
    exact h
  rw [heq]
  have hindex := (h.index_iff gone.key entryId).mpr ⟨gone, hgone, rfl⟩
  refine ⟨fun key id => ?_, fun id e he => ?_⟩
  · show (s.index.erase gone.key).lookup key = some id ↔
      ∃ e, (s.entries.erase entryId).lookup id = some e ∧ e.key = key
    by_cases hid : id = entryId
    · rw [hid, AList.lookup_erase]
      constructor
      · intro hsome
        by_cases hkey : key = gone.key
        · rw [hkey, AList.lookup_erase] at hsome
          cases hsome
        · rw [AList.lookup_erase_ne hkey] at hsome
          obtain ⟨e, he, hekey⟩ := (h.index_iff key entryId).mp hsome
          obtain rfl := Option.some.inj (hgone.symm.trans he)
          exact absurd hekey.symm hkey
      · rintro ⟨e, he, -⟩
        cases he
    · rw [AList.lookup_erase_ne hid, ← h.index_iff]
      by_cases hkey : key = gone.key
      · rw [hkey, AList.lookup_erase, hindex]
        constructor
        · intro hsome
          cases hsome
        · intro hsome
          exact absurd (Option.some.inj hsome).symm hid
      · rw [AList.lookup_erase_ne hkey]
  · change (s.entries.erase entryId).lookup id = some e at he
    by_cases hid : id = entryId
    · rw [hid, AList.lookup_erase] at he
      cases he
    · rw [AList.lookup_erase_ne hid] at he
      exact h.id_eq id e he

/-- Adding for one host does not change what is blocked for another. -/
theorem add_other (s : MemoryBlocklist) (entry : NewBlocklistEntry) (now : Time) {host : Int}
    (hhost : host ≠ entry.hostDeviceId) (ty : BlockSubjectType) (hash : String) :
    (s.add entry now).2.isBlocked host ty hash = s.isBlocked host ty hash := by
  obtain ⟨reason, heq⟩ | ⟨row, -, hkey, -, heq⟩ := s.add_cases entry now
  · rw [heq]
  · have hne : ((host, ty, hash) : BlockKey) ≠ row.key := by
      rw [hkey]
      intro h
      exact hhost (Prod.mk.inj h).1
    rw [heq]
    exact congrArg Option.isSome (AList.lookup_insert_ne hne)

/-- Removing for one host does not change what is blocked for another. -/
theorem remove_other (s : MemoryBlocklist) (id : Int) {host owner : Int} (hhost : host ≠ owner)
    (ty : BlockSubjectType) (hash : String) :
    (s.remove owner id).2.isBlocked host ty hash = s.isBlocked host ty hash := by
  obtain heq | ⟨e, -, howner, heq⟩ := s.remove_cases owner id
  · rw [heq]
  · have hne : ((host, ty, hash) : BlockKey) ≠ e.key := by
      intro h
      exact hhost ((Prod.mk.inj h).1.trans howner)
    rw [heq]
    exact congrArg Option.isSome (AList.lookup_erase_ne hne)

end MemoryBlocklist

end RemoteLink.Server
