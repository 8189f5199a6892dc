import RemoteLink.Auth.Otp
import RemoteLink.Server.Session

set_option autoImplicit false

/-!
# The server's OTP rows

The in-memory store of the OTP hashes that hosts publish. A row is checked by the prefilter of an
intent, bound to the intent's session, and consumed when the host accepts that session.

## Main definitions

* `StoredOtp`, `OtpStore` — the rows and their per-host index.
* `OtpStore.storeHash`, `OtpStore.activeForHost`, `OtpStore.prefilterBind`,
  `OtpStore.consumeForSession` — the methods of `MemoryOtpStore`.

## Main results

* `OtpStore.WellIndexed` — every host has at most one row, and the index and the rows agree.
* `OtpStore.prefilterBind_cases` — what a prefilter establishes and writes.
* `OtpStore.consumeForSession_cases` — consumption writes the row bound to the session.
* `OtpStore.LiveRow` — an unconsumed row of a host; prefilters and other hosts leave it so.
-/

namespace RemoteLink.Server

open RemoteLink.Library RemoteLink.Auth

/-- Default lifetime of a published code in seconds. -/
def defaultOtpTtlSecs : Nat := 900

/-- Maximum lifetime of a published code in seconds. -/
def maxOtpTtlSecs : Nat := 3600

/-- Cap on failed verify attempts of one row. -/
def maxOtpAttempts : Nat := 5

/-- The whole seconds of a point in time (`DateTime::timestamp`). -/
def Time.timestamp (t : Time) : Int := t / second

/-- One stored OTP row. -/
structure StoredOtp where
  id : Nat
  hostDeviceId : Int
  hash : OtpHash
  expiresAt : Time
  consumedAt : Option Time
  sessionIntentId : Option String
  attempts : Nat
  createdAt : Time
  deriving Repr, DecidableEq

/-- Result of a prefilter check. -/
inductive OtpPrefilterResult where
  | ok
  | noActiveOtp
  | reject
  deriving Repr, DecidableEq

/-- Errors of the OTP store. -/
inductive OtpStoreError where
  | notFound
  | unavailable
  deriving Repr, DecidableEq

/-- The text of a store error. -/
def OtpStoreError.display : OtpStoreError → String
  | notFound => "no active OTP for host"
  | unavailable => "OTP already consumed or expired"

/-- The store behind its mutex, with the counter of row ids. -/
structure OtpStore where
  nextId : Nat
  byId : HashMap Nat StoredOtp
  byHost : HashMap Int (List Nat)

namespace OtpStore

/-- The empty store. -/
def empty : OtpStore := ⟨0, ∅, ∅⟩

/-- The ids indexed under a host, oldest first. -/
def idsOf (s : OtpStore) (host : Int) : List Nat := (s.byHost.lookup host).getD []

/-- Insert a host's hash, replacing the rows it published before. -/
def storeHash (s : OtpStore) (host : Int) (hash : OtpHash) (expiresAt now : Time) :
    StoredOtp × OtpStore :=
  let id := s.nextId + 1
  let row : StoredOtp := ⟨id, host, hash, expiresAt, none, none, 0, now⟩
  let oldIds := s.idsOf host
  (row, {
    nextId := id
    byHost := (s.byHost.erase host).insert host [id]
    byId := (s.byId.eraseAll oldIds).insert id row })

/-- The newest unconsumed and unexpired row of a host. -/
def activeForHost (s : OtpStore) (host : Int) (now : Time) : Option StoredOtp :=
  (s.idsOf host).reverse.findSome? fun id =>
    match s.byId.lookup id with
    | some row => if row.consumedAt = none ∧ now < row.expiresAt then some row else none
    | none => none

/-- The row that a prefilter looks at: the newest one that is neither consumed nor expired. -/
def prefilterRow (s : OtpStore) (now : Time) : List Nat → Option (Nat × StoredOtp)
  | [] => none
  | id :: ids =>
    match s.byId.lookup id with
    | none => prefilterRow s now ids
    | some row =>
      if row.consumedAt.isSome ∨ row.expiresAt ≤ now then prefilterRow s now ids
      else some (id, row)

/-- Verify a code against a host's row and bind the row to the session, without consuming it. -/
def prefilterBind (C : Crypto) (s : OtpStore) (host : Int) (code : String) (pepper : Bytes)
    (sessionId : String) (now : Time) : OtpPrefilterResult × OtpStore :=
  match s.prefilterRow now (s.idsOf host).reverse with
  | none => (.noActiveOtp, s)
  | some (id, row) =>
    if maxOtpAttempts ≤ row.attempts then (.reject, s)
    else
      let tried := { row with attempts := row.attempts + 1 }
      if Time.timestamp row.expiresAt ≤ Time.timestamp now then
        (.reject, { s with byId := s.byId.insert id tried })
      else match verifyOtp C code pepper row.hash with
        | .ok () =>
          let bound := { tried with
            sessionIntentId := some sessionId, attempts := tried.attempts - 1 }
          (.ok, { s with byId := s.byId.insert id bound })
        | .error _ => (.reject, { s with byId := s.byId.insert id tried })

/-- The first indexed row of a host that is bound to a session. -/
def boundRow (s : OtpStore) (sessionId : String) : List Nat → Option (Nat × StoredOtp)
  | [] => none
  | id :: ids =>
    match s.byId.lookup id with
    | none => boundRow s sessionId ids
    | some row =>
      if row.sessionIntentId = some sessionId then some (id, row) else boundRow s sessionId ids

/-- Consume the row bound to a session when the host accepts it. -/
def consumeForSession (s : OtpStore) (host : Int) (sessionId : String) (now : Time) :
    Except OtpStoreError Unit × OtpStore :=
  match s.boundRow sessionId (s.idsOf host) with
  | none => (.error .notFound, s)
  | some (id, row) =>
    if row.consumedAt.isSome then (.error .unavailable, s)
    else if row.expiresAt ≤ now then (.error .unavailable, s)
    else (.ok (), { s with byId := s.byId.insert id { row with consumedAt := some now } })

/-! ## What the searches find -/

section Search

variable {s : OtpStore} {now : Time} {ids : List Nat} {id : Nat} {row : StoredOtp}

/-- The prefilter looks at an indexed row that is neither consumed nor expired. -/
theorem prefilterRow_some (h : s.prefilterRow now ids = some (id, row)) :
    id ∈ ids ∧ s.byId.lookup id = some row ∧ row.consumedAt = none ∧ now < row.expiresAt := by
  induction ids with
  | nil => cases h
  | cons a ids ih =>
    rw [prefilterRow] at h
    rcases hrow : s.byId.lookup a with _ | r
    · simp only [hrow] at h
      obtain ⟨hmem, hrest⟩ := ih h
      exact ⟨List.mem_cons_of_mem a hmem, hrest⟩
    · simp only [hrow] at h
      split_ifs at h with hdead
      · obtain ⟨hmem, hrest⟩ := ih h
        exact ⟨List.mem_cons_of_mem a hmem, hrest⟩
      · obtain ⟨rfl, rfl⟩ := Prod.mk.inj (Option.some.inj h)
        rw [not_or, Option.not_isSome_iff_eq_none, Int.not_le] at hdead
        exact ⟨List.mem_cons_self, hrow, hdead⟩

/-- Consumption looks at an indexed row that is bound to the session. -/
theorem boundRow_some {sid : String} (h : s.boundRow sid ids = some (id, row)) :
    id ∈ ids ∧ s.byId.lookup id = some row ∧ row.sessionIntentId = some sid := by
  induction ids with
  | nil => cases h
  | cons a ids ih =>
    rw [boundRow] at h
    rcases hrow : s.byId.lookup a with _ | r
    · simp only [hrow] at h
      obtain ⟨hmem, hrest⟩ := ih h
      exact ⟨List.mem_cons_of_mem a hmem, hrest⟩
    · simp only [hrow] at h
      split_ifs at h with hbound
      · obtain ⟨rfl, rfl⟩ := Prod.mk.inj (Option.some.inj h)
        exact ⟨List.mem_cons_self, hrow, hbound⟩
      · obtain ⟨hmem, hrest⟩ := ih h
        exact ⟨List.mem_cons_of_mem a hmem, hrest⟩

/-- The only row of a host is found by the session it is bound to. -/
theorem boundRow_singleton {sid : String} (hrow : s.byId.lookup id = some row)
    (hbound : row.sessionIntentId = some sid) : s.boundRow sid [id] = some (id, row) := by
  simp [boundRow, hrow, hbound]

end Search

/-! ## What the methods write -/

section Writes

variable (C : Crypto) (s : OtpStore) (host : Int) (code : String) (pepper : Bytes)
  (sid : String) (now : Time)

/-- **The prefilter**: it passes by verifying the code against the row it looks at, and then binds
that row to the session; otherwise it counts an attempt at most. -/
theorem prefilterBind_cases :
    (∃ id row, s.prefilterRow now (s.idsOf host).reverse = some (id, row) ∧
      row.attempts < maxOtpAttempts ∧ Time.timestamp now < Time.timestamp row.expiresAt ∧
      verifyOtp C code pepper row.hash = .ok () ∧
      prefilterBind C s host code pepper sid now = (.ok, { s with
        byId := s.byId.insert id { row with sessionIntentId := some sid } })) ∨
    (prefilterBind C s host code pepper sid now).1 ≠ .ok ∧
      ((prefilterBind C s host code pepper sid now).2 = s ∨
        ∃ id row, s.prefilterRow now (s.idsOf host).reverse = some (id, row) ∧
          (prefilterBind C s host code pepper sid now).2 = { s with
            byId := s.byId.insert id { row with attempts := row.attempts + 1 } }) := by
  unfold prefilterBind
  rcases hrow : s.prefilterRow now (s.idsOf host).reverse with _ | ⟨id, row⟩
  · exact .inr ⟨by simp, .inl rfl⟩
  · dsimp only
    split_ifs with hatt hexp
    · exact .inr ⟨by simp, .inl rfl⟩
    · exact .inr ⟨by simp, .inr ⟨id, row, rfl, rfl⟩⟩
    · rcases hv : verifyOtp C code pepper row.hash with e | u
      · exact .inr ⟨by simp, .inr ⟨id, row, rfl, rfl⟩⟩
      · exact .inl ⟨id, row, rfl, Nat.lt_of_not_le hatt, Int.not_le.mp hexp, hv, by simp⟩

/-- **Consumption**: it succeeds on an unconsumed and unexpired row bound to the session and marks
that row, and changes nothing otherwise. -/
theorem consumeForSession_cases :
    (∃ id row, s.boundRow sid (s.idsOf host) = some (id, row) ∧ row.consumedAt = none ∧
      now < row.expiresAt ∧ s.consumeForSession host sid now =
        (.ok (), { s with byId := s.byId.insert id { row with consumedAt := some now } })) ∨
    ∃ e, s.consumeForSession host sid now = (.error e, s) ∧
      ∀ id row, s.boundRow sid (s.idsOf host) = some (id, row) →
        row.consumedAt ≠ none ∨ row.expiresAt ≤ now := by
  unfold consumeForSession
  rcases hrow : s.boundRow sid (s.idsOf host) with _ | ⟨id, row⟩
  · exact .inr ⟨_, rfl, by simp⟩
  · dsimp only
    split_ifs with hc he
    · refine .inr ⟨_, rfl, fun id' row' h => .inl ?_⟩
      obtain ⟨rfl, rfl⟩ := Prod.mk.inj (Option.some.inj h)
      exact Option.isSome_iff_ne_none.mp hc
    · refine .inr ⟨_, rfl, fun id' row' h => .inr ?_⟩
      obtain ⟨rfl, rfl⟩ := Prod.mk.inj (Option.some.inj h)
      exact he
    · exact .inl ⟨id, row, rfl, Option.not_isSome_iff_eq_none.mp hc, Int.not_le.mp he, rfl⟩

end Writes

/-! ## The index -/

/-- The index and the rows agree: a host has at most one row, it is stored under its own id, and
ids are handed out in increasing order. -/
structure WellIndexed (s : OtpStore) : Prop where
  index : ∀ host ids, s.byHost.lookup host = some ids → ∃ id row, ids = [id] ∧
    s.byId.lookup id = some row ∧ row.hostDeviceId = host
  rows : ∀ id row, s.byId.lookup id = some row → row.id = id ∧
    s.byHost.lookup row.hostDeviceId = some [id] ∧ id ≤ s.nextId

namespace WellIndexed

variable {s : OtpStore}

theorem empty : OtpStore.empty.WellIndexed := by
  constructor <;> simp [OtpStore.empty]

/-- The rows indexed under a host are at most one, and it belongs to the host. -/
theorem idsOf_cases (h : s.WellIndexed) (host : Int) : s.idsOf host = [] ∨
    ∃ row, s.idsOf host = [row.id] ∧ s.byId.lookup row.id = some row ∧
      row.hostDeviceId = host := by
  unfold idsOf
  rcases hids : s.byHost.lookup host with _ | ids
  · exact .inl rfl
  · obtain ⟨id, row, rfl, hrow, hhost⟩ := h.index host ids hids
    have hid := (h.rows id row hrow).1
    subst hid
    exact .inr ⟨row, rfl, hrow, hhost⟩

/-- A stored row is the one indexed under its host. -/
theorem idsOf_of_row (h : s.WellIndexed) {id : Nat} {row : StoredOtp}
    (hrow : s.byId.lookup id = some row) : s.idsOf row.hostDeviceId = [id] := by
  rw [idsOf, (h.rows id row hrow).2.1]
  rfl

/-- Overwriting a row keeps the index when the row keeps its id and its host. -/
theorem insert (h : s.WellIndexed) {id : Nat} {row row' : StoredOtp}
    (hrow : s.byId.lookup id = some row) (hid : row'.id = row.id)
    (hhost : row'.hostDeviceId = row.hostDeviceId) :
    ({ s with byId := s.byId.insert id row' } : OtpStore).WellIndexed := by
  refine ⟨fun host ids hids => ?_, fun k r hk => ?_⟩
  · obtain ⟨k, r, rfl, hk, hr⟩ := h.index host ids hids
    by_cases hkid : k = id
    · subst hkid
      rw [hrow] at hk
      obtain rfl := Option.some.inj hk
      exact ⟨k, row', rfl, AList.lookup_insert _, hhost.trans hr⟩
    · exact ⟨k, r, rfl, (AList.lookup_insert_ne hkid).trans hk, hr⟩
  · dsimp only at hk ⊢
    rw [HashMap.lookup_insert_if] at hk
    split_ifs at hk with hkid
    · obtain rfl := Option.some.inj hk
      subst hkid
      rw [hid, hhost]
      exact h.rows k row hrow
    · exact h.rows k r hk

theorem storeHash (h : s.WellIndexed) (host : Int) (hash : OtpHash) (expiresAt now : Time) :
    (s.storeHash host hash expiresAt now).2.WellIndexed := by
  set row : StoredOtp := ⟨s.nextId + 1, host, hash, expiresAt, none, none, 0, now⟩ with hrow
  -- a row that survives belongs to another host and has an older id
  have hold : ∀ k r, (s.byId.eraseAll (s.idsOf host)).lookup k = some r →
      s.byId.lookup k = some r ∧ r.hostDeviceId ≠ host ∧ k ≠ s.nextId + 1 := by
    intro k r hk
    rw [HashMap.lookup_eraseAll] at hk
    split_ifs at hk with hmem
    refine ⟨hk, ?_, ?_⟩
    · rintro rfl
      exact hmem (by simp [h.idsOf_of_row hk])
    · have := (h.rows k r hk).2.2
      omega
  have hbyHost : ∀ d, ((s.byHost.erase host).insert host [s.nextId + 1]).lookup d =
      if d = host then some [s.nextId + 1] else s.byHost.lookup d := by
    intro d
    rw [HashMap.lookup_insert_if]
    split_ifs with hd
    · rfl
    · exact AList.lookup_erase_ne hd
  refine ⟨fun d ids hids => ?_, fun k r hk => ?_⟩
  · simp only [OtpStore.storeHash] at hids ⊢
    rw [hbyHost] at hids
    split_ifs at hids with hd
    · obtain rfl := Option.some.inj hids
      exact ⟨s.nextId + 1, row, rfl, AList.lookup_insert _, hd.symm⟩
    · obtain ⟨k, r, rfl, hk, hr⟩ := h.index d ids hids
      refine ⟨k, r, rfl, ?_, hr⟩
      have hne : k ≠ s.nextId + 1 := by
        have := (h.rows k r hk).2.2
        omega
      rw [AList.lookup_insert_ne hne, HashMap.lookup_eraseAll, if_neg]
      · exact hk
      · intro hmem
        rcases h.idsOf_cases host with hnil | ⟨r', hr', hk', hhost'⟩
        · rw [hnil] at hmem
          cases hmem
        · rw [hr', List.mem_singleton] at hmem
          subst hmem
          rw [hk] at hk'
          obtain rfl := Option.some.inj hk'
          exact hd (hr.symm.trans hhost')
  · simp only [OtpStore.storeHash] at hk ⊢
    rw [HashMap.lookup_insert_if] at hk
    rw [hbyHost]
    split_ifs at hk with hkid
    · obtain rfl := Option.some.inj hk
      rw [if_pos rfl, hkid]
      exact ⟨rfl, rfl, le_rfl⟩
    · obtain ⟨hk, hhost, -⟩ := hold k r hk
      obtain ⟨h1, h2, h3⟩ := h.rows k r hk
      rw [if_neg hhost]
      exact ⟨h1, h2, by omega⟩

theorem prefilterBind (h : s.WellIndexed) (C : Crypto) (host : Int) (code : String)
    (pepper : Bytes) (sid : String) (now : Time) :
    (OtpStore.prefilterBind C s host code pepper sid now).2.WellIndexed := by
  rcases prefilterBind_cases C s host code pepper sid now with
    ⟨id, row, hrow, -, -, -, heq⟩ | ⟨-, heq | ⟨id, row, hrow, heq⟩⟩
  · rw [heq]
    exact h.insert (prefilterRow_some hrow).2.1 rfl rfl
  · rw [heq]
    exact h
  · rw [heq]
    exact h.insert (prefilterRow_some hrow).2.1 rfl rfl

theorem consumeForSession (h : s.WellIndexed) (host : Int) (sid : String) (now : Time) :
    (s.consumeForSession host sid now).2.WellIndexed := by
  rcases consumeForSession_cases s host sid now with
    ⟨id, row, hrow, -, -, heq⟩ | ⟨e, heq, -⟩
  · rw [heq]
    exact h.insert (boundRow_some hrow).2.1 rfl rfl
  · rw [heq]
    exact h

end WellIndexed

/-! ## Rows of one host -/

/-- A host has an unconsumed row with the given hash. -/
def LiveRow (s : OtpStore) (host : Int) (hash : OtpHash) : Prop :=
  ∃ row, s.byId.lookup row.id = some row ∧ row.hostDeviceId = host ∧ row.consumedAt = none ∧
    row.hash = hash

section

variable {s : OtpStore} {host other : Int} {hash hash' : OtpHash} {expiresAt now : Time}
  {C : Crypto} {code sid : String} {pepper : Bytes}

/-- The row of a published hash is live. -/
theorem liveRow_storeHash : LiveRow (s.storeHash host hash expiresAt now).2 host hash :=
  ⟨⟨s.nextId + 1, host, hash, expiresAt, none, none, 0, now⟩, AList.lookup_insert _, rfl, rfl, rfl⟩

/-- A row of one host stays when another host publishes a hash. -/
theorem LiveRow.storeHash (h : LiveRow s host hash) (hs : s.WellIndexed) (hne : other ≠ host) :
    LiveRow (s.storeHash other hash' expiresAt now).2 host hash := by
  obtain ⟨row, hrow, hhost, hlive, hhash⟩ := h
  refine ⟨row, ?_, hhost, hlive, hhash⟩
  have hid : row.id ≠ s.nextId + 1 := by
    have := (hs.rows _ _ hrow).2.2
    omega
  dsimp only [OtpStore.storeHash]
  rw [AList.lookup_insert_ne hid, HashMap.lookup_eraseAll, if_neg, hrow]
  intro hmem
  obtain hnil | ⟨r, hr, hlookup, hr'⟩ := hs.idsOf_cases other
  · rw [hnil] at hmem
    cases hmem
  · rw [hr, List.mem_singleton] at hmem
    rw [← hmem, hrow] at hlookup
    obtain rfl := Option.some.inj hlookup
    exact hne (hr'.symm.trans hhost)

/-- Overwriting a row keeps the live row of a host, when the row that is written keeps what makes it
live, or belongs to another host. -/
theorem LiveRow.insert (h : LiveRow s host hash) {id : Nat} {row row' : StoredOtp}
    (hrow : s.byId.lookup id = some row) (hid : row'.id = row.id)
    (hkeep : row.hostDeviceId = host → row'.hostDeviceId = host ∧ row'.hash = row.hash ∧
      (row.consumedAt = none → row'.consumedAt = none)) :
    LiveRow { s with byId := s.byId.insert id row' } host hash := by
  obtain ⟨live, hlive, hhost, hconsumed, hhash⟩ := h
  by_cases hsame : live.id = id
  · rw [hsame, hrow] at hlive
    obtain rfl := Option.some.inj hlive
    obtain ⟨hhost', hhash', hconsumed'⟩ := hkeep hhost
    refine ⟨row', ?_, hhost', hconsumed' hconsumed, hhash'.trans hhash⟩
    rw [hid, hsame]
    exact AList.lookup_insert _
  · exact ⟨live, (AList.lookup_insert_ne hsame).trans hlive, hhost, hconsumed, hhash⟩

/-- Prefilters consume nothing. -/
theorem LiveRow.prefilterBind (h : LiveRow s host hash) :
    LiveRow (OtpStore.prefilterBind C s other code pepper sid now).2 host hash := by
  rcases prefilterBind_cases C s other code pepper sid now with
    ⟨id, row, hrow, -, -, -, heq⟩ | ⟨-, heq | ⟨id, row, hrow, heq⟩⟩
  · rw [heq]
    exact h.insert (prefilterRow_some hrow).2.1 rfl fun hhost => ⟨hhost, rfl, fun h => h⟩
  · rw [heq]
    exact h
  · rw [heq]
    exact h.insert (prefilterRow_some hrow).2.1 rfl fun hhost => ⟨hhost, rfl, fun h => h⟩

/-- Another host consumes rows of its own. -/
theorem LiveRow.consumeForSession (h : LiveRow s host hash) (hs : s.WellIndexed)
    (hne : other ≠ host) : LiveRow (s.consumeForSession other sid now).2 host hash := by
  rcases consumeForSession_cases s other sid now with ⟨id, row, hrow, -, -, heq⟩ | ⟨e, heq, -⟩
  · rw [heq]
    have hrow' := (boundRow_some hrow).2.1
    have hother : row.hostDeviceId = other := by
      obtain hnil | ⟨r, hr, hlookup, hr'⟩ := hs.idsOf_cases other
      · rw [hnil] at hrow
        cases hrow
      · have hmem := (boundRow_some hrow).1
        rw [hr, List.mem_singleton] at hmem
        rw [hmem, hlookup] at hrow'
        obtain rfl := Option.some.inj hrow'
        exact hr'
    exact h.insert hrow' rfl fun hhost => absurd (hother.symm.trans hhost) hne
  · rw [heq]
    exact h

end

end OtpStore

end RemoteLink.Server
