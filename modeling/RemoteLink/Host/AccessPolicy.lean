import RemoteLink.Host.Policy
import RemoteLink.Library.Runs

set_option autoImplicit false

/-!
# Codes and credentials over the life of a host

The policy service takes calls in any order: codes are minted, expire with the clock, are consumed
and are asked for by the gate before an accept, and the settings change in between. The history
numbers the minted codes and records which of them authorized a session.

## Main definitions

* `PolicyWorld`, `policySystem` — the service with its history, and its calls.
* `LiveCode` — a code that verifies against the last mint, which is neither expired nor spent.
* `Credential` — what stands behind an allowed session, for each mode.
* `AccessControlled` — single use, refusals without effect, and credentials behind every allow.

## Main results

* `consumeOtp_cases` — a consumption either changes nothing or takes a verified window away.
* `Windowed` — the invariant: the active window is the one of the last mint and unspent.
* `access_controlled` — `AccessControlled` holds in every reachable state.
* `password_needs_no_credential` — an allowed password session has shown nothing to the host.
-/

namespace RemoteLink.Host

open Library Protocol Auth

variable {π : Type}

/-! ## The service with its history -/

/-- A code the host has minted, with the record that was stored for it. -/
structure MintedCode where
  code : String
  record : OtpRecord

/-- The service, the codes minted so far in their order, and for every session authorized by a
code the number of the mint that stood open and the code that was entered. -/
structure PolicyWorld where
  service : HostAuthService
  mints : List MintedCode
  authorized : List (Nat × String)

/-- One call to the service. The clock, the random source and the session manager are whatever
the caller has. -/
inductive PolicyCall (π : Type) where
  | mintOtp (rng : Nat → Fin 10) (salt : Bytes) (now : Nat)
  | consumeOtp (code : String) (now : Nat)
  | authorizeSessionModeA (m : SessionManager π) (code : String) (now : Nat)
  | decideSessionAccept (mode : SessionMode) (prefilter : OtpPrefilterStatus)
      (otpCode : Option String) (userAccepted : Option Bool) (now : Nat)
  | setUnattendedEnabled (enabled : Bool)
  | setConfirmSessions (enabled : Bool)
  | setHostSecret (secret : HostSecret)

namespace PolicyWorld

/-- The number of the last mint. -/
def lastMint (w : PolicyWorld) : Nat := w.mints.length - 1

/-- The history after a session was authorized by the code `code`. -/
def spent (w : PolicyWorld) (service : HostAuthService) (code : String) : PolicyWorld :=
  { w with service := service, authorized := w.authorized ++ [(w.lastMint, code)] }

/-- The service after a call, with the history. -/
def call (C : Crypto) (w : PolicyWorld) : PolicyCall π → PolicyWorld
  | .mintOtp rng salt now =>
    match w.service.mintOtp C rng salt now with
    | (.error _, s) => { w with service := s }
    | (.ok code, s) =>
      match s.activeOtp with
      | none => { w with service := s }
      | some window =>
        { w with service := s, mints := w.mints ++ [⟨code, window.record⟩] }
  | .consumeOtp code now =>
    match w.service.consumeOtp C code now with
    | (.error _, s) => { w with service := s }
    | (.ok _, s) => w.spent s code
  | .authorizeSessionModeA m code now =>
    match w.service.authorizeSessionModeA C m code now with
    | (.error _, s, _) => { w with service := s }
    | (.ok (), s, _) => w.spent s code
  | .decideSessionAccept mode prefilter otpCode userAccepted now =>
    match w.service.decideSessionAccept C mode prefilter otpCode userAccepted now with
    | (.allow (some _), s) => w.spent s ((HostAuthService.enteredCode otpCode).getD "")
    | (_, s) => { w with service := s }
  | .setUnattendedEnabled enabled => { w with service := w.service.setUnattendedEnabled enabled }
  | .setConfirmSessions enabled => { w with service := w.service.setConfirmSessions enabled }
  | .setHostSecret secret => { w with service := w.service.setHostSecret secret }

end PolicyWorld

/-- The runs of a policy service: it starts without a code and takes any calls. -/
def policySystem (π : Type) (C : Crypto) : System PolicyWorld (PolicyCall π) where
  init w := ∃ config pepper, w = ⟨.new config pepper, [], []⟩
  step w e := some (w.call C e)

/-! ## What an allowed session must have shown -/

/-- No two well-formed codes have the same keyed hash under one salt. -/
def CodesDistinct (C : Crypto) (pepper : Bytes) : Prop :=
  ∀ salt a b, validateOtpFormat a = .ok () → validateOtpFormat b = .ok () →
    C.hmacSha256 pepper (otpHashDomain ++ salt ++ utf8 a) =
      C.hmacSha256 pepper (otpHashDomain ++ salt ++ utf8 b) → a = b

/-- A code that stands for the last mint: the mint has authorized no session, it has not expired,
and the code has its hash. It is the minted code itself when codes do not collide. -/
def LiveCode (C : Crypto) (w : PolicyWorld) (code : String) (now : Nat) : Prop :=
  ∃ mint, w.mints.getLast? = some mint ∧ (∀ c, (w.lastMint, c) ∉ w.authorized) ∧
    now < mint.record.expiresAtUnix ∧
    verifyOtp C code w.service.otpPepper mint.record.hash = .ok () ∧
    (CodesDistinct C w.service.otpPepper → code = mint.code)

/-- What stands behind an allowed session. The local confirmation is given wherever it is asked
for. A one-time session has entered a live code and gets the key derived from it; an unattended
one needs the switch and the secret; a password session has passed nothing else. -/
structure Credential (C : Crypto) (w : PolicyWorld) (mode : SessionMode)
    (otpCode : Option String) (userAccepted : Option Bool) (now : Nat)
    (key : Option SessionBindKey) : Prop where
  confirmed : w.service.config.confirmSessions = true → userAccepted = some true
  byMode : match mode with
    | .otp => ∃ code k, HostAuthService.enteredCode otpCode = some code ∧
        LiveCode C w code now ∧ SessionBindKey.fromModeAOtp C code = .ok k ∧ key = some k
    | .unattended => w.service.config.unattendedEnabled = true ∧
        w.service.hostSecret.isSome = true ∧ key = none
    | .password => key = none

/-- The access rules in one state: no mint is behind two sessions, every session entered the code
of its mint, a call that does not succeed changes nothing, and every success shows a
credential. -/
structure AccessControlled (C : Crypto) (w : PolicyWorld) : Prop where
  once : (w.authorized.map Prod.fst).Nodup
  own : ∀ id code, (id, code) ∈ w.authorized → ∃ mint, w.mints[id]? = some mint ∧
    verifyOtp C code w.service.otpPepper mint.record.hash = .ok () ∧
    (CodesDistinct C w.service.otpPepper → code = mint.code)
  refused : ∀ mode prefilter otpCode userAccepted now,
    (∀ key, (w.service.decideSessionAccept C mode prefilter otpCode userAccepted now).1 ≠
      .allow key) →
    (w.service.decideSessionAccept C mode prefilter otpCode userAccepted now).2 = w.service
  allowed : ∀ mode prefilter otpCode userAccepted now key,
    (w.service.decideSessionAccept C mode prefilter otpCode userAccepted now).1 = .allow key →
    Credential C w mode otpCode userAccepted now key
  consumed : ∀ code now, (∃ key, (w.service.consumeOtp C code now).1 = .ok key ∧
      LiveCode C w code now) ∨ (w.service.consumeOtp C code now).2 = w.service

/-! ## Verification -/

section

variable {C : Crypto} {code minted : String} {pepper salt : Bytes} {hash : OtpHash}

/-- A code that verifies is well formed. -/
theorem validateOtpFormat_of_verifyOtp (h : verifyOtp C code pepper hash = .ok ()) :
    validateOtpFormat code = .ok () := by
  rcases hformat : validateOtpFormat code with e | u
  · simp [verifyOtp, hashOtpWithSalt, hashOtpUnkeyed, hformat, bind, Except.bind] at h
  · rfl

/-- What a keyed hash is made of. -/
theorem hashOtpWithSalt_ok (h : hashOtpWithSalt C code pepper salt = .ok hash) :
    validateOtpFormat code = .ok () ∧ hash.keyed = true ∧ hash.salt = salt ∧
      hash.digest = C.hmacSha256 pepper (otpHashDomain ++ salt ++ utf8 code) := by
  rcases hformat : validateOtpFormat code with e | u
  · simp [hashOtpWithSalt, hformat, bind, Except.bind] at h
  simp only [hashOtpWithSalt, hformat, bind, Except.bind] at h
  split_ifs at h
  all_goals simp [pure, Except.pure] at h
  subst h
  exact ⟨rfl, rfl, rfl, rfl⟩

/-- A code that verifies against the hash of a minted code is that code, when codes do not
collide. -/
theorem eq_of_verifyOtp (hhash : hashOtpWithSalt C minted pepper salt = .ok hash)
    (h : verifyOtp C code pepper hash = .ok ()) (hdistinct : CodesDistinct C pepper) :
    code = minted := by
  obtain ⟨hminted, hkeyed, hsalt, hdigest⟩ := hashOtpWithSalt_ok hhash
  rcases hcandidate : hashOtpWithSalt C code pepper hash.salt with e | candidate
  · simp [verifyOtp, hkeyed, hcandidate, bind, Except.bind] at h
  obtain ⟨hcode, -, -, hdigest'⟩ := hashOtpWithSalt_ok hcandidate
  have heq : candidate.digest = hash.digest := by
    simp only [verifyOtp, hkeyed, hcandidate, bind, Except.bind, if_true] at h
    split_ifs at h with heq
    exact heq
  refine hdistinct salt code minted hcode hminted ?_
  rw [← hdigest, ← heq, hdigest', hsalt]

/-- Mode A on a record: either the record stays as it is, or it verified the code and is
consumed. A code that verifies is well formed, so no code is consumed without a key. -/
theorem authorizeModeA_cases (C : Crypto) (record : OtpRecord) (code : String) (pepper : Bytes)
    (now : Nat) :
    (∃ e, Auth.authorizeModeA C record code pepper now = (.error e, record)) ∨
      ∃ key, record.verify C code pepper now = .ok () ∧
        SessionBindKey.fromModeAOtp C code = .ok key ∧
        Auth.authorizeModeA C record code pepper now =
          (.ok key, { record with consumed := true }) := by
  unfold Auth.authorizeModeA OtpRecord.verifyAndConsume
  rcases hverify : record.verify C code pepper now with e | u
  · exact .inl ⟨e, rfl⟩
  · have hformat : validateOtpFormat code = .ok () :=
      validateOtpFormat_of_verifyOtp (OtpRecord.verify_ok.mp hverify).2.2
    have hkey : SessionBindKey.fromModeAOtp C code =
        .ok ⟨C.hmacSha256 otpBindKeySalt (utf8 code)⟩ := by
      simp [SessionBindKey.fromModeAOtp, hformat, bind, Except.bind, pure, Except.pure]
    exact .inr ⟨_, rfl, hkey, by rw [hkey]⟩

end

/-! ## What the calls do -/

namespace HostAuthService

variable {C : Crypto} {s : HostAuthService}

/-- A mint either fails without effect or opens the window of a fresh code. -/
theorem mintOtp_cases (C : Crypto) (s : HostAuthService) (rng : Nat → Fin 10) (salt : Bytes)
    (now : Nat) :
    (∃ e, s.mintOtp C rng salt now = (.error e, s)) ∨
      ∃ code window, s.mintOtp C rng salt now =
          (.ok code, { s with lastOtpCode := some code, activeOtp := some window }) ∧
        hashOtpWithSalt C code s.otpPepper salt = .ok window.record.hash := by
  rcases hmint : mintOtpRecord C s.config.otpDigits s.otpPepper
    (min (now + max s.config.otpTtlSecs 1) 18446744073709551615) rng salt with e | ⟨code, record⟩
  · exact .inl ⟨_, by simp only [mintOtp, hmint]; rfl⟩
  refine .inr ⟨code, _, by simp only [mintOtp, hmint]; rfl, ?_⟩
  exact (mintOtpRecord_ok hmint).1

/-- **A consumption is all or nothing**: it fails and leaves the service as it is, or the active
window verified the code and is gone. -/
theorem consumeOtp_cases (C : Crypto) (s : HostAuthService) (code : String) (now : Nat) :
    (∃ e, s.consumeOtp C code now = (.error e, s)) ∨
      ∃ window key, s.activeOtp = some window ∧
        window.record.verify C code s.otpPepper now = .ok () ∧
        SessionBindKey.fromModeAOtp C code = .ok key ∧
        s.consumeOtp C code now = (.ok key, { s with activeOtp := none }) := by
  unfold consumeOtp
  rcases hwindow : s.activeOtp with _ | window
  · exact .inl ⟨_, rfl⟩
  rcases authorizeModeA_cases C window.record code s.otpPepper now with
    ⟨e, h⟩ | ⟨key, hverify, hkey, h⟩
  · refine .inl ⟨.auth e.display, ?_⟩
    simp only [h, ← hwindow]
  · exact .inr ⟨window, key, rfl, hverify, hkey, by simp only [h]⟩

/-- The same for the call that authorizes a session manager. -/
theorem authorizeSessionModeA_cases (C : Crypto) (s : HostAuthService) (m : SessionManager π)
    (code : String) (now : Nat) :
    (∃ e, s.authorizeSessionModeA C m code now = (.error e, s, m)) ∨
      ∃ window key, s.activeOtp = some window ∧
        window.record.verify C code s.otpPepper now = .ok () ∧
        s.authorizeSessionModeA C m code now =
          (.ok (), { s with activeOtp := none }, m.authorized key) := by
  unfold authorizeSessionModeA SessionManager.authorizeModeA
  rcases hwindow : s.activeOtp with _ | window
  · exact .inl ⟨_, rfl⟩
  rcases authorizeModeA_cases C window.record code s.otpPepper now with
    ⟨e, h⟩ | ⟨key, hverify, -, h⟩
  · refine .inl ⟨.auth e, ?_⟩
    simp only [h, ← hwindow]
  · exact .inr ⟨window, key, rfl, hverify, by simp only [h]⟩

/-- **The gate before an accept**: every outcome but an allow leaves the service as it is. An
allow needs the confirmation where it is asked for; it takes the window of a verified code away
in the mode of one-time codes, and changes nothing in the others. -/
theorem decideSessionAccept_cases (C : Crypto) (s : HostAuthService) (mode : SessionMode)
    (prefilter : OtpPrefilterStatus) (otpCode : Option String) (userAccepted : Option Bool)
    (now : Nat) :
    (∃ d, s.decideSessionAccept C mode prefilter otpCode userAccepted now = (d, s) ∧
        ∀ key, d ≠ .allow key) ∨
      (s.config.confirmSessions = true → userAccepted = some true) ∧
        match mode with
        | .unattended =>
          s.decideSessionAccept C mode prefilter otpCode userAccepted now = (.allow none, s) ∧
            s.config.unattendedEnabled = true ∧ s.hostSecret.isSome = true
        | .password =>
          s.decideSessionAccept C mode prefilter otpCode userAccepted now = (.allow none, s)
        | .otp => ∃ code window key, enteredCode otpCode = some code ∧
            s.activeOtp = some window ∧
            window.record.verify C code s.otpPepper now = .ok () ∧
            SessionBindKey.fromModeAOtp C code = .ok key ∧
            s.decideSessionAccept C mode prefilter otpCode userAccepted now =
              (.allow (some key), { s with activeOtp := none }) := by
  have hconfirm : s.decideConfirm userAccepted = .denied ∨
      s.decideConfirm userAccepted = .pending ∨
      (s.decideConfirm userAccepted = .autoAccept ∨ s.decideConfirm userAccepted = .accepted) ∧
        (s.config.confirmSessions = true → userAccepted = some true) := by
    unfold decideConfirm
    rcases s.config.confirmSessions with _ | _ <;> rcases userAccepted with _ | _ | _ <;> simp
  rcases hconfirm with h | h | ⟨h, huser⟩
  · exact .inl ⟨_, by simp only [decideSessionAccept, h]; rfl, by simp⟩
  · exact .inl ⟨_, by simp only [decideSessionAccept, h]; rfl, by simp⟩
  -- past the confirmation, the mode decides
  cases mode with
  | unattended =>
    rcases hpolicy : s.policyAllowsMode .unattended with e | u
    · refine .inl ?_
      rcases h with h | h <;> cases e <;>
        exact ⟨_, by simp only [decideSessionAccept, h, hpolicy]; rfl, by simp⟩
    · refine .inr ⟨huser, ?_, policyAllowsMode_unattended.mp hpolicy⟩
      rcases h with h | h <;> simp only [decideSessionAccept, h, hpolicy]
  | password =>
    refine .inr ⟨huser, ?_⟩
    rcases h with h | h <;> simp only [decideSessionAccept, h]
  | otp =>
    rcases hcode : enteredCode otpCode with _ | code
    · refine .inl ?_
      rcases hwindow : s.activeOtp with _ | window
      · rcases h with h | h <;>
          exact ⟨_, by simp only [decideSessionAccept, h, hcode, hwindow]; rfl, by simp⟩
      · by_cases hexpired : window.isExpired now = true
        · rcases h with h | h <;>
            exact ⟨_, by simp only [decideSessionAccept, h, hcode, hwindow, hexpired]; rfl,
              by simp⟩
        · rcases h with h | h <;>
            exact ⟨_, by simp only [decideSessionAccept, h, hcode, hwindow, hexpired]; rfl,
              by simp⟩
    · rcases consumeOtp_cases C s code now with
        ⟨e, hconsume⟩ | ⟨window, key, hwindow, hverify, hkey, hconsume⟩
      · refine .inl ?_
        rcases h with h | h <;>
          exact ⟨_, by simp only [decideSessionAccept, h, hcode, hconsume]; rfl, by simp⟩
      · refine .inr ⟨huser, code, window, key, rfl, hwindow, hverify, hkey, ?_⟩
        rcases h with h | h <;> simp only [decideSessionAccept, h, hcode, hconsume]

end HostAuthService

/-! ## The invariant -/

/-- The active window is the one of the last mint, which has authorized no session; every mint
stores the hash of its code; every authorized session entered the code of its mint, and no mint
is behind two of them. -/
structure Windowed (C : Crypto) (w : PolicyWorld) : Prop where
  window : ∀ window, w.service.activeOtp = some window → ∃ mint,
    w.mints.getLast? = some mint ∧ window.record = mint.record ∧
      ∀ c, (w.lastMint, c) ∉ w.authorized
  minted : ∀ mint ∈ w.mints, ∃ salt,
    hashOtpWithSalt C mint.code w.service.otpPepper salt = .ok mint.record.hash
  own : ∀ id code, (id, code) ∈ w.authorized → ∃ mint, w.mints[id]? = some mint ∧
    verifyOtp C code w.service.otpPepper mint.record.hash = .ok ()
  once : (w.authorized.map Prod.fst).Nodup

namespace Windowed

variable {C : Crypto} {w : PolicyWorld}

/-- A fresh service has no window and no history. -/
theorem empty (config : HostLocalConfig) (pepper : Bytes) :
    Windowed C ⟨.new config pepper, [], []⟩ where
  window _ h := by simp [HostAuthService.new] at h
  minted _ h := by simp at h
  own _ _ h := by simp at h
  once := by simp

/-- Settings do not matter to the codes. -/
theorem settings (h : Windowed C w) {s : HostAuthService}
    (hwindow : s.activeOtp = w.service.activeOtp) (hpepper : s.otpPepper = w.service.otpPepper) :
    Windowed C { w with service := s } where
  window window hs := h.window window (hwindow ▸ hs)
  minted mint hm := by
    show ∃ salt, hashOtpWithSalt C mint.code s.otpPepper salt = _
    rw [hpepper]
    exact h.minted mint hm
  own id code hm := by
    show ∃ mint, w.mints[id]? = some mint ∧ verifyOtp C code s.otpPepper _ = _
    rw [hpepper]
    exact h.own id code hm
  once := h.once

/-- A mint takes the next number, which has authorized nothing. -/
theorem mint (h : Windowed C w) {code : String} {window : ActiveOtpWindow} {salt : Bytes}
    (hhash : hashOtpWithSalt C code w.service.otpPepper salt = .ok window.record.hash) :
    Windowed C ⟨{ w.service with lastOtpCode := some code, activeOtp := some window },
      w.mints ++ [⟨code, window.record⟩], w.authorized⟩ where
  window window' hs := by
    obtain rfl : window = window' := by simpa using hs
    refine ⟨⟨code, window.record⟩, by simp, rfl, fun c hc => ?_⟩
    obtain ⟨mint, hmint, -⟩ := h.own _ c hc
    obtain ⟨hlt, -⟩ := List.getElem?_eq_some_iff.mp hmint
    simp [PolicyWorld.lastMint] at hlt
  minted mint hm := by
    rcases List.mem_append.mp hm with hm | hm
    · exact h.minted mint hm
    · obtain rfl : mint = ⟨code, window.record⟩ := by simpa using hm
      exact ⟨salt, hhash⟩
  own id c hm := by
    obtain ⟨mint, hmint, hverify⟩ := h.own id c hm
    obtain ⟨hlt, -⟩ := List.getElem?_eq_some_iff.mp hmint
    exact ⟨mint, by rw [List.getElem?_append_left hlt]; exact hmint, hverify⟩
  once := h.once

/-- A session authorized by the active window uses the last mint up. -/
theorem spent (h : Windowed C w) {window : ActiveOtpWindow} {code : String} {now : Nat}
    (hwindow : w.service.activeOtp = some window)
    (hverify : window.record.verify C code w.service.otpPepper now = .ok ()) :
    Windowed C (w.spent { w.service with activeOtp := none } code) where
  window _ hs := by simp [PolicyWorld.spent] at hs
  minted := h.minted
  own id c hm := by
    rcases List.mem_append.mp hm with hm | hm
    · exact h.own id c hm
    · obtain ⟨rfl, rfl⟩ : id = w.lastMint ∧ c = code := by simpa using hm
      obtain ⟨mint, hlast, hrecord, -⟩ := h.window window hwindow
      rw [List.getLast?_eq_getElem?] at hlast
      exact ⟨mint, hlast, hrecord ▸ (OtpRecord.verify_ok.mp hverify).2.2⟩
  once := by
    obtain ⟨-, -, -, hfresh⟩ := h.window window hwindow
    rw [PolicyWorld.spent, List.map_append, List.map_singleton, List.nodup_append]
    refine ⟨h.once, List.nodup_singleton _, fun id hid last hlast => ?_⟩
    obtain ⟨⟨id', c⟩, hmem, rfl⟩ := List.mem_map.mp hid
    obtain rfl : last = w.lastMint := by simpa using hlast
    rintro rfl
    exact hfresh c hmem

/-- **One call**: every call keeps the invariant. -/
theorem call (h : Windowed C w) (e : PolicyCall π) : Windowed C (w.call C e) := by
  cases e with
  | mintOtp rng salt now =>
    rcases HostAuthService.mintOtp_cases C w.service rng salt now with
      ⟨e, heq⟩ | ⟨code, window, heq, hhash⟩
    · simpa only [PolicyWorld.call, heq] using h
    · simp only [PolicyWorld.call, heq]
      exact h.mint hhash
  | consumeOtp code now =>
    rcases HostAuthService.consumeOtp_cases C w.service code now with
      ⟨e, heq⟩ | ⟨window, key, hwindow, hverify, -, heq⟩
    · simpa only [PolicyWorld.call, heq] using h
    · simp only [PolicyWorld.call, heq]
      exact h.spent hwindow hverify
  | authorizeSessionModeA m code now =>
    rcases HostAuthService.authorizeSessionModeA_cases C w.service m code now with
      ⟨e, heq⟩ | ⟨window, key, hwindow, hverify, heq⟩
    · simpa only [PolicyWorld.call, heq] using h
    · simp only [PolicyWorld.call, heq]
      exact h.spent hwindow hverify
  | decideSessionAccept mode prefilter otpCode userAccepted now =>
    rcases HostAuthService.decideSessionAccept_cases C w.service mode prefilter otpCode
      userAccepted now with ⟨d, heq, hd⟩ | ⟨-, hmode⟩
    · simp only [PolicyWorld.call, heq]
      cases d with
      | allow key => exact absurd rfl (hd key)
      | needConfirm | needOtpCode | deny reason => exact h
    · cases mode with
      | unattended => simpa only [PolicyWorld.call, hmode.1] using h
      | password => simpa only [PolicyWorld.call, hmode] using h
      | otp =>
        obtain ⟨code, window, key, hcode, hwindow, hverify, -, heq⟩ := hmode
        simp only [PolicyWorld.call, heq, hcode, Option.getD_some]
        exact h.spent hwindow hverify
  | setUnattendedEnabled enabled => exact h.settings rfl rfl
  | setConfirmSessions enabled => exact h.settings rfl rfl
  | setHostSecret secret => exact h.settings rfl rfl

/-- The invariant holds after any calls. -/
theorem of_reachable (h : (policySystem π C).Reachable w) : Windowed C w := by
  refine h.invariant (Windowed C) ?_ ?_
  · rintro w ⟨config, pepper, rfl⟩
    exact Windowed.empty config pepper
  · intro w e w' hw _ hstep
    obtain rfl := Option.some.inj hstep
    exact hw.call e

/-- A code that the active window verifies is a live one. -/
theorem liveCode (h : Windowed C w) {window : ActiveOtpWindow} {code : String} {now : Nat}
    (hwindow : w.service.activeOtp = some window)
    (hverify : window.record.verify C code w.service.otpPepper now = .ok ()) :
    LiveCode C w code now := by
  obtain ⟨mint, hlast, hrecord, hfresh⟩ := h.window window hwindow
  obtain ⟨-, hexpiry, hverifies⟩ := OtpRecord.verify_ok.mp (hrecord ▸ hverify)
  obtain ⟨salt, hhash⟩ := h.minted mint (List.mem_of_getLast? hlast)
  refine ⟨mint, hlast, hfresh, ?_, hverifies, eq_of_verifyOtp hhash hverifies⟩
  simpa [OtpRecord.isExpired] using hexpiry

end Windowed

/-! ## The rules -/

/-- **The access rules hold in every reachable state**, whatever codes, clocks, modes and settings
the calls before it brought.

**Proof sketch.** By the invariant the active window is the one of the last mint, which has
authorized nothing, so what the gate or a consumption verifies is a live code; every other path
of the gate returns the service it was given. -/
theorem access_controlled {C : Crypto} {w : PolicyWorld} (h : (policySystem π C).Reachable w) :
    AccessControlled C w := by
  have hw : Windowed C w := Windowed.of_reachable h
  refine ⟨hw.once, ?_, ?_, ?_, ?_⟩
  · intro id code hm
    obtain ⟨mint, hmint, hverify⟩ := hw.own id code hm
    obtain ⟨salt, hhash⟩ := hw.minted mint (List.mem_of_getElem? hmint)
    exact ⟨mint, hmint, hverify, eq_of_verifyOtp hhash hverify⟩
  · intro mode prefilter otpCode userAccepted now hno
    rcases HostAuthService.decideSessionAccept_cases C w.service mode prefilter otpCode
      userAccepted now with ⟨d, heq, -⟩ | ⟨-, hmode⟩
    · rw [heq]
    · cases mode with
      | unattended => exact absurd (by rw [hmode.1]) (hno none)
      | password => exact absurd (by rw [hmode]) (hno none)
      | otp =>
        obtain ⟨code, window, key, -, -, -, -, heq⟩ := hmode
        exact absurd (by rw [heq]) (hno (some key))
  · intro mode prefilter otpCode userAccepted now key hallow
    rcases HostAuthService.decideSessionAccept_cases C w.service mode prefilter otpCode
      userAccepted now with ⟨d, heq, hd⟩ | ⟨huser, hmode⟩
    · rw [heq] at hallow
      exact absurd hallow (hd key)
    · refine ⟨huser, ?_⟩
      cases mode with
      | unattended =>
        obtain ⟨heq, henabled, hsecret⟩ := hmode
        rw [heq] at hallow
        cases hallow
        exact ⟨henabled, hsecret, rfl⟩
      | password =>
        rw [hmode] at hallow
        cases hallow
        rfl
      | otp =>
        obtain ⟨code, window, k, hcode, hwindow, hverify, hkey, heq⟩ := hmode
        rw [heq] at hallow
        cases hallow
        exact ⟨code, k, hcode, hw.liveCode hwindow hverify, hkey, rfl⟩
  · intro code now
    rcases HostAuthService.consumeOtp_cases C w.service code now with
      ⟨e, heq⟩ | ⟨window, key, hwindow, hverify, -, heq⟩
    · exact .inr (by rw [heq])
    · exact .inl ⟨key, by rw [heq], hw.liveCode hwindow hverify⟩

/-- A host without a code, with the default configuration. -/
def demoPolicyWorld : PolicyWorld := ⟨.new .default defaultHostOtpPepper, [], []⟩

/-- A code is minted and a session of its viewer asks for admission. -/
def demoPolicyCalls : List (PolicyCall Unit) :=
  [.mintOtp (fun _ => 7) (List.replicate 16 1) 100,
    .decideSessionAccept .otp .ok (some " 777777 ") none 200]

/-- The rules after the session of the demonstration was allowed. -/
theorem access_controlled_demo :
    ∃ w, (policySystem Unit .windowed).runFrom demoPolicyWorld demoPolicyCalls = some w ∧
      w.authorized = [(0, "777777")] ∧ AccessControlled .windowed w := by
  have hinit : (policySystem Unit .windowed).Reachable demoPolicyWorld :=
    .init ⟨.default, defaultHostOtpPepper, rfl⟩
  have hrun : ∃ w, (policySystem Unit .windowed).runFrom demoPolicyWorld demoPolicyCalls =
      some w ∧ w.authorized = [(0, "777777")] := by
    refine ⟨_, rfl, ?_⟩
    decide +kernel
  obtain ⟨w, hw, hauthorized⟩ := hrun
  exact ⟨w, hw, hauthorized, access_controlled (System.reachable_of_runFrom hinit hw)⟩

/-- **An allowed password session has shown nothing**: on a fresh host it is allowed without a
code, a secret, a confirmation or any password, which none of the arguments of the gate
carries. -/
theorem password_needs_no_credential :
    ¬∀ (w : PolicyWorld) (mode : SessionMode) (prefilter : OtpPrefilterStatus)
      (otpCode : Option String) (userAccepted : Option Bool) (now : Nat)
      (key : Option SessionBindKey), (policySystem Unit .windowed).Reachable w →
      (w.service.decideSessionAccept .windowed mode prefilter otpCode userAccepted now).1 =
        .allow key →
      (∃ code, HostAuthService.enteredCode otpCode = some code ∧ LiveCode .windowed w code now) ∨
        (w.service.config.unattendedEnabled = true ∧ w.service.hostSecret.isSome = true) ∨
        userAccepted = some true := by
  intro h
  have hinit : (policySystem Unit .windowed).Reachable demoPolicyWorld :=
    .init ⟨.default, defaultHostOtpPepper, rfl⟩
  rcases h demoPolicyWorld .password .none none none 0 none hinit rfl with
    ⟨code, hcode, -⟩ | ⟨henabled, -⟩ | huser
  · cases hcode
  · cases henabled
  · cases huser

end RemoteLink.Host
