import RemoteLink.Library.Runs
import RemoteLink.Server.Otp

set_option autoImplicit false

/-!
# The attempt bound of an OTP row

A row counts the codes that were checked against it and failed. The count is never taken back, so
over the whole life of a row at most `maxOtpAttempts` wrong codes are compared with its hash, and
from then on no code passes.

## Main definitions

* `OtpEvent`, `otpSystem` — the runs of the store under stores, prefilters and consumptions.
* `OtpHistory.wrongChecks` — how many wrong codes were compared with a row.
* `Bounded` — the attempt counter covers the wrong codes.

## Main results

* `Bounded.storeHash`, `Bounded.prefilterBind`, `Bounded.consumeForSession` — every operation keeps
  the bound.
* `otp_attempts_bounded` — the bound in every reachable state, and what follows for a row.
-/

namespace RemoteLink.Server

open RemoteLink.Library RemoteLink.Auth

/-! ## The system -/

/-- An operation on the store, with any codes, hosts and clock readings. -/
inductive OtpEvent where
  | storeHash (host : Int) (hash : OtpHash) (expiresAt now : Time)
  | prefilterBind (host : Int) (code : String) (pepper : Bytes) (sessionId : String) (now : Time)
  | consumeForSession (host : Int) (sessionId : String) (now : Time)

/-- The store and the wrong codes that were compared with the hash of a row, each with the id of
the row. The second field only records history. -/
structure OtpHistory where
  store : OtpStore
  wrong : List (Nat × String)

namespace OtpHistory

/-- How many wrong codes were compared with the row `id`. -/
def wrongChecks (w : OtpHistory) (id : Nat) : Nat := w.wrong.countP fun x => decide (x.1 = id)

/-- The wrong code that a prefilter compares with the hash of a row, if it does. -/
def wrongCheck (C : Crypto) (s : OtpStore) (host : Int) (code : String) (pepper : Bytes)
    (now : Time) : List (Nat × String) :=
  match s.prefilterRow now (s.idsOf host).reverse with
  | some (id, row) =>
    if row.attempts < maxOtpAttempts ∧ Time.timestamp now < Time.timestamp row.expiresAt then
      match verifyOtp C code pepper row.hash with
      | .ok () => []
      | .error _ => [(id, code)]
    else []
  | none => []

end OtpHistory

/-- The runs of the store. -/
def otpSystem (C : Crypto) : System OtpHistory OtpEvent where
  init w := w = ⟨.empty, []⟩
  step w
    | .storeHash host hash expiresAt now =>
      some { w with store := (w.store.storeHash host hash expiresAt now).2 }
    | .prefilterBind host code pepper sessionId now =>
      some ⟨(OtpStore.prefilterBind C w.store host code pepper sessionId now).2,
        w.wrong ++ OtpHistory.wrongCheck C w.store host code pepper now⟩
    | .consumeForSession host sessionId now =>
      some { w with store := (w.store.consumeForSession host sessionId now).2 }

/-! ## The bound -/

/-- The attempts of a stored row cover the wrong codes compared with it, and are bounded; rows that
are gone had a bounded number too, and rows to come have none. -/
structure Bounded (w : OtpHistory) : Prop where
  indexed : w.store.WellIndexed
  counted : ∀ id row, w.store.byId.lookup id = some row →
    w.wrongChecks id ≤ row.attempts ∧ row.attempts ≤ maxOtpAttempts
  bounded : ∀ id, w.wrongChecks id ≤ maxOtpAttempts
  fresh : ∀ id, w.store.nextId < id → w.wrongChecks id = 0

namespace Bounded

variable {w : OtpHistory}

theorem empty : Bounded ⟨.empty, []⟩ := by
  refine ⟨.empty, fun id row hrow => ?_, fun id => Nat.zero_le _, fun id _ => rfl⟩
  simp [OtpStore.empty] at hrow

/-- The row of a host's prefilter is stored, and its id has been handed out. -/
theorem prefilterRow_stored (h : Bounded w) {host : Int} {now : Time} {id : Nat} {row : StoredOtp}
    (hrow : w.store.prefilterRow now (w.store.idsOf host).reverse = some (id, row)) :
    w.store.byId.lookup id = some row ∧ id ≤ w.store.nextId := by
  have hstored := (OtpStore.prefilterRow_some hrow).2.1
  exact ⟨hstored, (h.indexed.rows id row hstored).2.2⟩

/-- A new row starts without attempts, under an id that no code was checked against. -/
theorem storeHash (h : Bounded w) (host : Int) (hash : OtpHash) (expiresAt now : Time) :
    Bounded { w with store := (w.store.storeHash host hash expiresAt now).2 } := by
  refine ⟨h.indexed.storeHash host hash expiresAt now, fun id row hrow => ?_, h.bounded,
    fun id hid => h.fresh id ?_⟩
  · simp only [OtpStore.storeHash] at hrow
    rw [HashMap.lookup_insert_if, HashMap.lookup_eraseAll] at hrow
    split_ifs at hrow with hnew
    · obtain rfl := Option.some.inj hrow
      have hzero : w.wrongChecks id = 0 := h.fresh id (by omega)
      exact ⟨Nat.le_of_eq hzero, Nat.zero_le _⟩
    · exact h.counted id row hrow
  · simp only [OtpStore.storeHash] at hid
    omega

/-- Writing a row that keeps or raises its attempts, up to the cap, along with the wrong code it
was compared with. -/
theorem write (h : Bounded w) {id : Nat} {row row' : StoredOtp}
    (hrow : w.store.byId.lookup id = some row) (hid : row'.id = row.id)
    (hhost : row'.hostDeviceId = row.hostDeviceId) {checks : List (Nat × String)}
    (hchecks : ∀ x ∈ checks, x.1 = id) (hmore : row.attempts + checks.length ≤ row'.attempts)
    (hcap : row'.attempts ≤ maxOtpAttempts) :
    Bounded ⟨{ w.store with byId := w.store.byId.insert id row' }, w.wrong ++ checks⟩ := by
  have hcount : ∀ k, OtpHistory.wrongChecks ⟨{ w.store with
      byId := w.store.byId.insert id row' }, w.wrong ++ checks⟩ k =
      w.wrongChecks k + if k = id then checks.length else 0 := by
    intro k
    rw [OtpHistory.wrongChecks, List.countP_append]
    have hk : checks.countP (fun x => decide (x.1 = k)) = if k = id then checks.length else 0 := by
      split_ifs with heq
      · exact List.countP_eq_length.mpr fun x hx => by simp [hchecks x hx, heq]
      · exact List.countP_eq_zero.mpr fun x hx => by simpa [hchecks x hx] using Ne.symm heq
    rw [hk]
    rfl
  obtain ⟨hle, -⟩ := h.counted id row hrow
  refine ⟨h.indexed.insert hrow hid hhost, fun k r hk => ?_, fun k => ?_, fun k hk => ?_⟩
  · rw [hcount]
    dsimp only at hk
    rw [HashMap.lookup_insert_if] at hk
    split_ifs at hk ⊢ with heq
    · obtain rfl := Option.some.inj hk
      subst heq
      exact ⟨by omega, hcap⟩
    · exact h.counted k r hk
  · rw [hcount]
    split_ifs with heq
    · subst heq
      omega
    · exact h.bounded k
  · have hne : k ≠ id := by
      rintro rfl
      have := (h.indexed.rows k row hrow).2.2
      dsimp only at hk
      omega
    rw [hcount, if_neg hne]
    exact h.fresh k hk

/-- **A prefilter raises the attempts of the row it looks at by the wrong codes it compares.** -/
theorem prefilterBind (h : Bounded w) (C : Crypto) (host : Int) (code : String) (pepper : Bytes)
    (sid : String) (now : Time) :
    Bounded ⟨(OtpStore.prefilterBind C w.store host code pepper sid now).2,
      w.wrong ++ OtpHistory.wrongCheck C w.store host code pepper now⟩ := by
  unfold OtpStore.prefilterBind OtpHistory.wrongCheck
  rcases hrow : w.store.prefilterRow now (w.store.idsOf host).reverse with _ | ⟨id, row⟩
  · simpa using h
  · obtain ⟨hstored, -⟩ := h.prefilterRow_stored hrow
    obtain ⟨-, hcap⟩ := h.counted id row hstored
    dsimp only
    by_cases hatt : maxOtpAttempts ≤ row.attempts
    · rw [if_pos hatt, if_neg fun hlt => absurd hlt.1 (Nat.not_lt.mpr hatt)]
      simpa using h
    · rw [if_neg hatt]
      by_cases hexp : Time.timestamp row.expiresAt ≤ Time.timestamp now
      · rw [if_pos hexp, if_neg fun hlt => absurd hlt.2 (Int.not_lt.mpr hexp)]
        refine h.write hstored ?_ ?_ ?_ ?_ ?_
        · rfl
        · rfl
        · simp
        · simp
        · dsimp only
          omega
      · rw [if_neg hexp, if_pos ⟨Nat.lt_of_not_le hatt, Int.not_le.mp hexp⟩]
        rcases verifyOtp C code pepper row.hash with e | u
        · refine h.write hstored ?_ ?_ ?_ ?_ ?_
          · rfl
          · rfl
          · simp
          · simp
          · dsimp only
            omega
        · refine h.write hstored ?_ ?_ ?_ ?_ ?_
          · rfl
          · rfl
          · simp
          · simp
          · simpa using hcap

/-- Consuming a row leaves its attempts alone. -/
theorem consumeForSession (h : Bounded w) (host : Int) (sid : String) (now : Time) :
    Bounded { w with store := (w.store.consumeForSession host sid now).2 } := by
  rcases OtpStore.consumeForSession_cases w.store host sid now with
    ⟨id, row, hrow, -, -, heq⟩ | ⟨e, heq, -⟩
  · have hstored := (OtpStore.boundRow_some hrow).2.1
    have hwrite : Bounded ⟨{ w.store with
        byId := w.store.byId.insert id { row with consumedAt := some now } }, w.wrong ++ []⟩ := by
      refine h.write hstored ?_ ?_ ?_ ?_ ?_
      · rfl
      · rfl
      · simp
      · simp
      · exact (h.counted id row hstored).2
    rw [heq]
    simpa using hwrite
  · rw [heq]
    exact h

/-- Every step keeps the bound. -/
theorem step {C : Crypto} {w' : OtpHistory} {e : OtpEvent} (h : Bounded w)
    (hs : (otpSystem C).step w e = some w') : Bounded w' := by
  cases e with
  | storeHash host hash expiresAt now =>
    obtain rfl := Option.some.inj hs
    exact h.storeHash host hash expiresAt now
  | prefilterBind host code pepper sid now =>
    obtain rfl := Option.some.inj hs
    exact h.prefilterBind C host code pepper sid now
  | consumeForSession host sid now =>
    obtain rfl := Option.some.inj hs
    exact h.consumeForSession host sid now

end Bounded

/-- **The attempt counter covers the wrong codes in every reachable state.** -/
theorem otpSystem_bounded {C : Crypto} {w : OtpHistory} (h : (otpSystem C).Reachable w) :
    Bounded w :=
  h.invariant Bounded (fun w hw => by obtain rfl : w = ⟨.empty, []⟩ := hw; exact .empty)
    fun _ _ _ hi _ hs => hi.step hs

/-! ## What the bound means for a row -/

/-- A prefilter passes only on the stored row of the host, which then has an attempt left and is
neither consumed nor expired; it leaves the attempts of every row as they are. -/
theorem prefilter_ok {C : Crypto} {s : OtpStore} {host : Int} {code : String} {pepper : Bytes}
    {sid : String} {now : Time}
    (hok : (OtpStore.prefilterBind C s host code pepper sid now).1 = .ok) :
    ∃ id row, id ∈ s.idsOf host ∧ s.byId.lookup id = some row ∧ row.consumedAt = none ∧
      now < row.expiresAt ∧ row.attempts < maxOtpAttempts ∧
      ∀ k, ((OtpStore.prefilterBind C s host code pepper sid now).2.byId.lookup k).map
        StoredOtp.attempts = (s.byId.lookup k).map StoredOtp.attempts := by
  rcases OtpStore.prefilterBind_cases C s host code pepper sid now with
    ⟨id, row, hrow, hatt, -, -, heq⟩ | ⟨hne, -⟩
  · obtain ⟨hmem, hstored, hconsumed, hexp⟩ := OtpStore.prefilterRow_some hrow
    refine ⟨id, row, List.mem_reverse.mp hmem, hstored, hconsumed, hexp, hatt, fun k => ?_⟩
    rw [heq]
    dsimp only
    rw [HashMap.lookup_insert_if]
    split_ifs with hk
    · rw [hk, hstored]
      rfl
    · rfl
  · exact absurd hok hne

/-- **The attempts on an OTP row are bounded.** In every reachable state of the store:

* every row, also one that has been replaced, was compared with at most `maxOtpAttempts` wrong
  codes;
* no code passes the prefilter of a row that was compared with that many, nor of a row that is
  consumed or expired, and such a row cannot be consumed either;
* a prefilter that passes leaves the attempts of all rows as they are;
* two active rows of one host are the same row.

**Proof sketch.** The counter of a row is never lowered and covers the wrong codes (`Bounded`); a
prefilter that passes found the host's only row with an attempt left (`prefilter_ok`). -/
theorem otp_attempts_bounded {C : Crypto} {w : OtpHistory} (h : (otpSystem C).Reachable w) :
    (∀ id, w.wrongChecks id ≤ maxOtpAttempts) ∧
    (∀ id row, w.store.byId.lookup id = some row → w.wrongChecks id = maxOtpAttempts →
      ∀ code pepper sid now,
        (OtpStore.prefilterBind C w.store row.hostDeviceId code pepper sid now).1 ≠ .ok) ∧
    (∀ id row now, w.store.byId.lookup id = some row →
      row.consumedAt ≠ none ∨ row.expiresAt ≤ now → ∀ code pepper sid,
        (OtpStore.prefilterBind C w.store row.hostDeviceId code pepper sid now).1 ≠ .ok ∧
        (w.store.consumeForSession row.hostDeviceId sid now).1 ≠ .ok ()) ∧
    (∀ host code pepper sid now,
      (OtpStore.prefilterBind C w.store host code pepper sid now).1 = .ok →
      ∀ id, ((OtpStore.prefilterBind C w.store host code pepper sid now).2.byId.lookup id).map
        StoredOtp.attempts = (w.store.byId.lookup id).map StoredOtp.attempts) ∧
    ∀ now id id' row row', w.store.byId.lookup id = some row →
      w.store.byId.lookup id' = some row' → row.hostDeviceId = row'.hostDeviceId →
      row.consumedAt = none ∧ now < row.expiresAt → row'.consumedAt = none ∧ now < row'.expiresAt →
      id = id' := by
  have hbounded := otpSystem_bounded h
  -- the row that a prefilter or a consumption of a stored row's host finds is that row
  have honly : ∀ {id id' row row'}, w.store.byId.lookup id = some row →
      id' ∈ w.store.idsOf row.hostDeviceId → w.store.byId.lookup id' = some row' →
      id' = id ∧ row' = row := by
    intro id id' row row' hrow hmem hrow'
    rw [hbounded.indexed.idsOf_of_row hrow] at hmem
    obtain rfl := List.mem_singleton.mp hmem
    exact ⟨rfl, (Option.some.inj (hrow.symm.trans hrow')).symm⟩
  refine ⟨hbounded.bounded, fun id row hrow hwrong code pepper sid now hok => ?_,
    fun id row now hrow hdead code pepper sid => ⟨fun hok => ?_, fun hok => ?_⟩,
    fun host code pepper sid now hok => ?_, fun now id id' row row' hrow hrow' hhost _ _ => ?_⟩
  · obtain ⟨id', row', hmem, hrow', -, -, hatt, -⟩ := prefilter_ok hok
    obtain ⟨-, rfl⟩ := honly hrow hmem hrow'
    have hcount := (hbounded.counted id row' hrow).1
    omega
  · obtain ⟨id', row', hmem, hrow', hconsumed, hlive, -, -⟩ := prefilter_ok hok
    obtain ⟨-, rfl⟩ := honly hrow hmem hrow'
    rcases hdead with hdead | hdead
    · exact hdead hconsumed
    · exact absurd hlive (Int.not_lt.mpr hdead)
  · rcases OtpStore.consumeForSession_cases w.store row.hostDeviceId sid now with
      ⟨id', row', hbound, hconsumed, hlive, -⟩ | ⟨e, heq, -⟩
    · obtain ⟨hmem, hrow', -⟩ := OtpStore.boundRow_some hbound
      obtain ⟨-, rfl⟩ := honly hrow hmem hrow'
      rcases hdead with hdead | hdead
      · exact hdead hconsumed
      · exact absurd hlive (Int.not_lt.mpr hdead)
    · rw [heq] at hok
      cases hok
  · obtain ⟨-, -, -, -, -, -, -, hsame⟩ := prefilter_ok hok
    exact hsame
  · have hids := hbounded.indexed.idsOf_of_row hrow
    rw [hhost, hbounded.indexed.idsOf_of_row hrow'] at hids
    exact (List.singleton_inj.mp hids).symm

/-- A row for the code `123456` is compared with five wrong codes. -/
def guessedRun : List OtpEvent :=
  .storeHash 7 ⟨otpHashDomain ++ utf8 "123456", List.replicate otpSaltLen 0, false⟩
      (900 * second) 0 ::
    List.replicate maxOtpAttempts (.prefilterBind 7 "654321" (utf8 "pepper") "guess" second)

/-- After `guessedRun` the right code fails too. -/
theorem otp_attempts_bounded_guessedRun : ∃ w,
    (otpSystem .transparent).runFrom ⟨.empty, []⟩ guessedRun = some w ∧
    w.wrongChecks 1 = maxOtpAttempts ∧
    (OtpStore.prefilterBind .transparent w.store 7 "123456" (utf8 "pepper") "a"
      (2 * second)).1 ≠ .ok := by
  have hrun : ((otpSystem .transparent).runFrom ⟨.empty, []⟩ guessedRun).any (fun w =>
      decide (w.wrongChecks 1 = maxOtpAttempts) &&
        (w.store.byId.lookup 1).any fun row => decide (row.hostDeviceId = 7)) = true := by
    decide +kernel
  obtain ⟨w, hw, hafter⟩ := (Option.any_eq_true _ _).mp hrun
  obtain ⟨hwrong, hrow⟩ := Bool.and_eq_true_iff.mp hafter
  obtain ⟨row, hrow, hhost⟩ := (Option.any_eq_true _ _).mp hrow
  have hbound := otp_attempts_bounded (System.reachable_of_runFrom (.init rfl) hw)
  have hreject := hbound.2.1 1 row hrow (of_decide_eq_true hwrong) "123456" (utf8 "pepper") "a"
    (2 * second)
  rw [of_decide_eq_true hhost] at hreject
  exact ⟨w, hw, of_decide_eq_true hwrong, hreject⟩

end RemoteLink.Server
