import RemoteLink.Host.WsSession
import RemoteLink.Library.Runs
import RemoteLink.Routes.Devices
import RemoteLink.Signaling.Creds

set_option autoImplicit false

/-!
# The identity of a host across its starts

A host that starts takes its identity from its credential file, refreshes the tokens in it and
writes the file back; without a file that it can read, and after any refresh that fails, it
registers as a new device and overwrites the file. All starts of one host on one file are
considered, with every answer of the server and of the disk.

## Main definitions

* `enrollOrReuse` — what a start does, with the requests that it sends.
* `HostWorld`, `hostStarts` — the file over all starts, with what the server has rejected and
  issued.
* `Survives` — what is promised of a start.
* `CleanStart` — the answers under which it holds.

## Main results

* `rejects_serverRefusal` — which error of the server's routes rejects a token.
* `HostOk.step` — a clean start keeps the file in step with the server.
* `identity_survives` — in runs of clean starts the identity survives.
* `identity_lost` — a refresh that is rate limited loses it.
-/

namespace RemoteLink.Host

open Library Signaling
open Routes (AppError)
open HostCredentialFile (fromRegistration save saveOutcome)

/-! ## A start -/

/-- Credentials of a host that has been enrolled before. -/
structure ExistingHostCreds where
  publicId : String
  accessToken : String
  refreshToken : Option String
  deriving Repr, DecidableEq

/-- The part of the host configuration that is about enrolment. -/
structure EnrollConfig where
  server : String
  displayName : String
  existing : Option ExistingHostCreds
  credsPath : CredsPath
  loadCreds : Bool
  saveCreds : Bool
  deriving Repr, DecidableEq

/-- The identity of a host with its refresh token. -/
structure Enrolled extends EnrolledHost where
  refreshToken : Option String
  deriving Repr, DecidableEq

/-- A request that a start sends. -/
inductive ServerCall where
  | refresh (url refreshToken : String)
  | register (url : String) (publicKey : List UInt8) (displayName : Option String)
  deriving Repr, DecidableEq

/-- The answer to a request, with the refresh token that the server has issued if the host does not
learn it. -/
structure ServerAnswer where
  http : HttpAnswer
  issued : Option String
  deriving Repr, DecidableEq

/-- What a start meets: the disk, the server and its own new key. -/
structure StartAnswers where
  access : FileAccess
  refresh : ServerAnswer
  publicKey : List UInt8
  register : ServerAnswer
  saveRefreshed : SaveAnswers
  saveRegistered : SaveAnswers

/-- What a start comes to: the identity of the host or an error, the file, and the requests. -/
structure Enrolment where
  result : Except String Enrolled
  disk : Option String
  calls : List ServerCall

/-- The servers that are taken for a default. -/
def isBuiltinLabServer (server : String) : Bool :=
  server ∈ ["http://127.0.0.1:8080", "http://localhost:8080", "http://127.0.0.1:18080",
    "http://localhost:18080"]

/-- The server at which tokens are refreshed: the one in the file if the configuration has a
default. -/
def refreshServer (cfg : EnrollConfig) (file : HostCredentialFile) : String :=
  if !isBuiltinLabServer cfg.server then cfg.server
  else if file.server ≠ "" then file.server
  else cfg.server

/-- Credentials with refreshed tokens. -/
def withTokens (cfg : EnrollConfig) (file : HostCredentialFile) (tokens : TokenHttpResponse) :
    HostCredentialFile :=
  { file with
    accessToken := tokens.accessToken
    refreshToken := tokens.refreshToken
    expiresAt := some tokens.expiresAt
    server := refreshServer cfg file }

/-- The identity in a file. -/
def Enrolled.ofFile (file : HostCredentialFile) : Enrolled :=
  ⟨⟨file.publicId, file.accessToken⟩, some file.refreshToken⟩

/-- The identity of a new device. -/
def Enrolled.ofRegistration (reg : DeviceRegistration) : Enrolled :=
  ⟨⟨reg.publicId, reg.accessToken⟩, some reg.refreshToken⟩

section

variable (J : CredsCodec) (cfg : EnrollConfig) (ans : StartAnswers)

/-- The host registers as a new device and saves its credentials. -/
def registerNew (disk : Option String) (calls : List ServerCall) : Enrolment :=
  let calls := calls ++ [.register (registerUrl cfg.server) ans.publicKey (some cfg.displayName)]
  match registerDevice J ans.register.http with
  | .error e => ⟨.error ("register: " ++ e.display), disk, calls⟩
  | .ok reg =>
    if cfg.saveCreds then
      match save J cfg.credsPath (fromRegistration cfg.server reg) ans.saveRegistered disk with
      | (.error e, disk) => ⟨.error ("save creds: " ++ e.display), disk, calls⟩
      | (.ok (), disk) => ⟨.ok (.ofRegistration reg), disk, calls⟩
    else ⟨.ok (.ofRegistration reg), disk, calls⟩

/-- The host takes the identity in its file, with refreshed tokens if there is a refresh token. What
comes of the save is not looked at; after a refresh that fails the host registers. -/
def reuseFile (file : HostCredentialFile) (disk : Option String) : Enrolment :=
  if file.refreshToken = "" then ⟨.ok (.ofFile file), disk, []⟩
  else
    let calls := [.refresh (refreshUrl (refreshServer cfg file) file.publicId) file.refreshToken]
    match refreshDeviceToken J ans.refresh.http with
    | .ok tokens =>
      let file := withTokens cfg file tokens
      let disk := if cfg.saveCreds then (save J cfg.credsPath file ans.saveRefreshed disk).2
        else disk
      ⟨.ok (.ofFile file), disk, calls⟩
    | .error _ => registerNew J cfg ans disk calls

/-- The identity of a host that starts. -/
def enrollOrReuse (disk : Option String) : Enrolment :=
  match cfg.existing with
  | some ex => ⟨.ok ⟨⟨ex.publicId, ex.accessToken⟩, ex.refreshToken⟩, disk, []⟩
  | none =>
    match if cfg.loadCreds then loadedCreds J cfg.credsPath ans.access disk else none with
    | some file => reuseFile J cfg ans file disk
    | none => registerNew J cfg ans disk []

end

/-! ## All starts -/

/-- An answer of the server's routes. -/
def serverRefusal (e : AppError) (body : String) : HttpAnswer := .answered e.codeAndStatus.2 body

/-- **A route rejects a token** with one error only. -/
theorem rejects_serverRefusal (e : AppError) (body : String) :
    (serverRefusal e body).rejects = true ↔ e = .unauthorized := by
  cases e <;> simp [serverRefusal, HttpAnswer.rejects, AppError.codeAndStatus]

/-- The refresh token that a request presents, if the server rejects it. -/
def refusedBy (ans : StartAnswers) : ServerCall → Option String
  | .refresh _ refreshToken => if ans.refresh.http.rejects then some refreshToken else none
  | .register _ _ _ => none

/-- The refresh token that the server has issued last, after a request. -/
def issuedBy (J : CredsCodec) (ans : StartAnswers) (issued : Option String) :
    ServerCall → Option String
  | .refresh _ _ =>
    match refreshDeviceToken J ans.refresh.http with
    | .ok tokens => some tokens.refreshToken
    | .error _ => ans.refresh.issued.or issued
  | .register _ _ _ =>
    match registerDevice J ans.register.http with
    | .ok reg => some reg.refreshToken
    | .error _ => ans.register.issued.or issued

/-- The file of a host between two starts, with the credentials that were last in it, the refresh
tokens that the server has rejected and the one that it has issued last. -/
structure HostWorld where
  disk : Option String
  last : Option HostCredentialFile
  rejected : List String
  issued : Option String
  deriving Repr, DecidableEq

/-- The file after a start. -/
def HostWorld.after (J : CredsCodec) (ans : StartAnswers) (w : HostWorld) (r : Enrolment) :
    HostWorld where
  disk := r.disk
  last := (storedCreds J r.disk).or w.last
  rejected := r.calls.filterMap (refusedBy ans) ++ w.rejected
  issued := r.calls.foldl (issuedBy J ans) w.issued

/-- One start. -/
def HostWorld.start (J : CredsCodec) (cfg : EnrollConfig) (w : HostWorld) (ans : StartAnswers) :
    HostWorld :=
  w.after J ans (enrollOrReuse J cfg ans w.disk)

/-- All starts of a host on one file, with tokens that were issued last if there are any. -/
def hostStarts (J : CredsCodec) (cfg : EnrollConfig) : System HostWorld StartAnswers where
  init w := w.last = storedCreds J w.disk ∧ w.rejected = [] ∧
    w.issued = (storedCreds J w.disk).map HostCredentialFile.refreshToken
  step w ans := some (w.start J cfg ans)

/-! ## What is promised -/

/-- The refresh of the stored tokens fails, for another reason than that the server rejects them. -/
structure TransientFailure (J : CredsCodec) (ans : StartAnswers) (c : HostCredentialFile) :
    Prop where
  access : ans.access = .granted
  token : c.refreshToken ≠ ""
  failed : ∃ e, refreshDeviceToken J ans.refresh.http = .error e
  notRejected : ans.refresh.http.rejects = false

/-- The file holds credentials of a public id. -/
def Holds (J : CredsCodec) (w : HostWorld) (publicId : String) : Prop :=
  ∃ c, storedCreds J w.disk = some c ∧ c.publicId = publicId

/-- **The identity survives a start**: the public id in the file and the one that the host uses are
those that were in the file, unless the server has rejected the refresh token in it; a transient
failure changes neither; and a host that runs has in its file the refresh token that the server has
issued last. -/
structure Survives (J : CredsCodec) (cfg : EnrollConfig) (w : HostWorld) (ans : StartAnswers) :
    Prop where
  stored : ∀ c, w.last = some c →
    Holds J (w.start J cfg ans) c.publicId ∨ c.refreshToken ∈ (w.start J cfg ans).rejected
  used : ∀ c, w.last = some c → ∀ h, (enrollOrReuse J cfg ans w.disk).result = .ok h →
    h.publicId = c.publicId ∨ c.refreshToken ∈ (w.start J cfg ans).rejected
  transient : ∀ c, storedCreds J w.disk = some c → TransientFailure J ans c →
    Holds J (w.start J cfg ans) c.publicId ∧
      ∀ h, (enrollOrReuse J cfg ans w.disk).result = .ok h → h.publicId = c.publicId
  current : ∀ h, (enrollOrReuse J cfg ans w.disk).result = .ok h →
    ∃ c, storedCreds J (w.start J cfg ans).disk = some c ∧ c.publicId = h.publicId ∧
      (w.start J cfg ans).issued = some c.refreshToken

/-- A registration that comes to nothing: it fails, or it succeeds and cannot be saved. If the file
has no refresh token, no other token is issued either. -/
inductive StopsShort (J : CredsCodec) (cfg : EnrollConfig) (ans : StartAnswers)
    (c : HostCredentialFile) : Prop
  | failed {e : RegisterError} (hregister : registerDevice J ans.register.http = .error e)
      (htoken : c.refreshToken = "" → ans.register.issued = none)
  | unsaved {reg : DeviceRegistration} {e : RegisterError}
      (hregister : registerDevice J ans.register.http = .ok reg) (htoken : c.refreshToken ≠ "")
      (hsave : saveOutcome J cfg.credsPath (fromRegistration cfg.server reg)
        ans.saveRegistered = .kept e)

/-- The answers under which a start does not lose the credentials in its file: there is nothing to
refresh; the refresh succeeds and is saved; the server rejects the tokens; or the registration that
follows a file or a refresh that fails comes to nothing. -/
inductive KeepsCreds (J : CredsCodec) (cfg : EnrollConfig) (ans : StartAnswers)
    (c : HostCredentialFile) : Prop
  | unrefreshed (haccess : ans.access = .granted) (htoken : c.refreshToken = "")
  | refreshed {tokens : TokenHttpResponse} {text : String} (haccess : ans.access = .granted)
      (hrefresh : refreshDeviceToken J ans.refresh.http = .ok tokens)
      (hsave : saveOutcome J cfg.credsPath (withTokens cfg c tokens) ans.saveRefreshed =
        .saved text)
  | rejected (haccess : ans.access = .granted) (hrefresh : ans.refresh.http.rejects = true)
  | stopped (hfailed : ans.access = .granted →
        ∃ e, refreshDeviceToken J ans.refresh.http = .error e)
      (hstops : StopsShort J cfg ans c)

/-- A start without a file, or with answers under which it keeps the credentials in the file. -/
def CleanStart (J : CredsCodec) (cfg : EnrollConfig) (w : HostWorld) (ans : StartAnswers) : Prop :=
  ∀ c, storedCreds J w.disk = some c → KeepsCreds J cfg ans c

/-- The file is in step with the server: credentials are lost only when the server has rejected
them, and credentials without a refresh token are the last that the server has issued. -/
structure HostOk (J : CredsCodec) (w : HostWorld) : Prop where
  last : ∀ c, storedCreds J w.disk = some c → w.last = some c
  lost : storedCreds J w.disk = none → ∀ c, w.last = some c → c.refreshToken ∈ w.rejected
  unrefreshed : ∀ c, storedCreds J w.disk = some c → c.refreshToken = "" → w.issued = some ""

/-! ## The paths of a start -/

variable {J : CredsCodec} {cfg : EnrollConfig} {ans : StartAnswers} {w : HostWorld}
  {c : HostCredentialFile} {disk : Option String} {calls : List ServerCall}
  {tokens : TokenHttpResponse} {reg : DeviceRegistration}

/-- An answer that rejects is an error. -/
theorem readAnswer_of_rejects {α : Type} {decode : String → Except String α} {http : HttpAnswer}
    (h : http.rejects = true) : ∃ e, readAnswer decode http = .error e := by
  cases http with
  | failed e => exact ⟨_, rfl⟩
  | answered status text =>
    have hstatus : status = 401 := of_decide_eq_true h
    subst hstatus
    exact ⟨_, rfl⟩

/-- A host that gets nothing from its file registers. -/
theorem enroll_of_unread (hexisting : cfg.existing = none)
    (h : loadedCreds J cfg.credsPath ans.access disk = none) :
    enrollOrReuse J cfg ans disk = registerNew J cfg ans disk [] := by
  rw [enrollOrReuse, hexisting, h]
  simp

/-- A host that is let at its file uses what is stored in it. -/
theorem enroll_of_stored (hexisting : cfg.existing = none) (hload : cfg.loadCreds = true)
    (haccess : ans.access = .granted) (h : storedCreds J disk = some c) :
    enrollOrReuse J cfg ans disk = reuseFile J cfg ans c disk := by
  rw [enrollOrReuse, hexisting, haccess, loadedCreds_granted, h, hload]
  rfl

theorem reuseFile_unrefreshed (h : c.refreshToken = "") :
    reuseFile J cfg ans c disk = ⟨.ok (.ofFile c), disk, []⟩ := by
  rw [reuseFile, if_pos h]

theorem reuseFile_refreshed (h : c.refreshToken ≠ "") (hsave : cfg.saveCreds = true)
    (hrefresh : refreshDeviceToken J ans.refresh.http = .ok tokens) :
    reuseFile J cfg ans c disk = ⟨.ok (.ofFile (withTokens cfg c tokens)),
      (save J cfg.credsPath (withTokens cfg c tokens) ans.saveRefreshed disk).2,
      [.refresh (refreshUrl (refreshServer cfg c) c.publicId) c.refreshToken]⟩ := by
  rw [reuseFile, if_neg h, hrefresh, hsave]
  rfl

theorem reuseFile_failed {e : RegisterError} (h : c.refreshToken ≠ "")
    (hrefresh : refreshDeviceToken J ans.refresh.http = .error e) :
    reuseFile J cfg ans c disk = registerNew J cfg ans disk
      [.refresh (refreshUrl (refreshServer cfg c) c.publicId) c.refreshToken] := by
  rw [reuseFile, if_neg h, hrefresh]

/-- A registration is the last request of a start. -/
theorem registerNew_calls : (registerNew J cfg ans disk calls).calls =
    calls ++ [.register (registerUrl cfg.server) ans.publicKey (some cfg.displayName)] := by
  unfold registerNew
  split
  · rfl
  · split_ifs
    · split <;> rfl
    · rfl

/-- **A host that runs after a registration** has saved it. -/
theorem registerNew_ok (hJ : J.Lawful) (hsave : cfg.saveCreds = true) {h : Enrolled}
    (hresult : (registerNew J cfg ans disk calls).result = .ok h) :
    ∃ reg, registerDevice J ans.register.http = .ok reg ∧ h = .ofRegistration reg ∧
      storedCreds J (registerNew J cfg ans disk calls).disk =
        some (fromRegistration cfg.server reg) := by
  cases hregister : registerDevice J ans.register.http with
  | error e =>
    simp only [registerNew, hregister] at hresult
    cases hresult
  | ok reg =>
    have hcases := save_cases hJ cfg.credsPath (fromRegistration cfg.server reg)
      ans.saveRegistered disk
    simp only [registerNew, hregister, hsave, if_true] at hresult ⊢
    cases hsaved : save J cfg.credsPath (fromRegistration cfg.server reg) ans.saveRegistered
        disk with
    | mk told left =>
      rw [hsaved] at hresult hcases
      cases told with
      | error e => cases hresult
      | ok u =>
        obtain ⟨-, hstored⟩ | ⟨e, herror, -⟩ := hcases
        · exact ⟨reg, rfl, (Except.ok.inj hresult).symm, hstored⟩
        · cases herror

/-- What a registration leaves in the file: what was there, nothing, or its own credentials. -/
theorem registerNew_disk (hJ : J.Lawful) (hsave : cfg.saveCreds = true) (ans : StartAnswers)
    (disk : Option String) (calls : List ServerCall) :
    (registerNew J cfg ans disk calls).disk = disk ∨
      storedCreds J (registerNew J cfg ans disk calls).disk = none ∨
      ∃ reg, registerDevice J ans.register.http = .ok reg ∧
        storedCreds J (registerNew J cfg ans disk calls).disk =
          some (fromRegistration cfg.server reg) := by
  cases hregister : registerDevice J ans.register.http with
  | error e =>
    left
    simp only [registerNew, hregister]
  | ok reg =>
    have hcases := save_cases hJ cfg.credsPath (fromRegistration cfg.server reg)
      ans.saveRegistered disk
    have hdisk : (registerNew J cfg ans disk calls).disk =
        (save J cfg.credsPath (fromRegistration cfg.server reg) ans.saveRegistered disk).2 := by
      simp only [registerNew, hregister, hsave, if_true]
      split <;> rename_i h <;> rw [h]
    rw [hdisk]
    obtain ⟨-, hstored⟩ | ⟨e, -, hkept | hnone | hstored⟩ := hcases
    · exact Or.inr (Or.inr ⟨reg, rfl, hstored⟩)
    · exact Or.inl hkept
    · exact Or.inr (Or.inl hnone)
    · exact Or.inr (Or.inr ⟨reg, rfl, hstored⟩)

/-- A registration that comes to nothing leaves the file alone, and the host does not run. -/
theorem registerNew_stops (hsave : cfg.saveCreds = true) (h : StopsShort J cfg ans c)
    (disk : Option String) (calls : List ServerCall) :
    (registerNew J cfg ans disk calls).disk = disk ∧
      ∃ e, (registerNew J cfg ans disk calls).result = .error e := by
  cases h with
  | failed hregister htoken =>
    rw [registerNew, hregister]
    exact ⟨rfl, _, rfl⟩
  | unsaved hregister htoken hkept =>
    simp only [registerNew, hregister, hsave, if_true, save, hkept]
    exact ⟨trivial, _, rfl⟩

/-! ## What a start preserves -/

/-- What is stored after a start is what was stored last. -/
theorem after_last {r : Enrolment} (h : storedCreds J r.disk = some c) :
    (w.after J ans r).last = some c := by
  rw [HostWorld.after, h]
  rfl

/-- If nothing is stored after a start, what was stored last is as before. -/
theorem after_last_of_none {r : Enrolment} (h : storedCreds J r.disk = none) :
    (w.after J ans r).last = w.last := by
  rw [HostWorld.after, h]
  rfl

/-- Tokens that are rejected stay so. -/
theorem rejected_after {r : Enrolment} {refreshToken : String} (h : refreshToken ∈ w.rejected) :
    refreshToken ∈ (w.after J ans r).rejected :=
  List.mem_append_right _ h

/-- A registration that succeeds issues its token last. -/
theorem issued_registerNew (h : registerDevice J ans.register.http = .ok reg) :
    (w.after J ans (registerNew J cfg ans disk calls)).issued = some reg.refreshToken := by
  simp only [HostWorld.after, registerNew_calls, List.foldl_append, List.foldl_cons,
    List.foldl_nil, issuedBy, h]

/-- A start that leaves credentials in the file keeps step, if without a refresh token in them the
server has issued no other. -/
theorem HostOk.keeps {c' : HostCredentialFile} {r : Enrolment}
    (hstored : storedCreds J r.disk = some c')
    (hissued : c'.refreshToken = "" → (w.after J ans r).issued = some "") :
    HostOk J (w.after J ans r) where
  last c hc := after_last hc
  lost hnone := by
    have hdisk : storedCreds J (w.after J ans r).disk = some c' := hstored
    rw [hdisk] at hnone
    cases hnone
  unrefreshed c hc hempty := by
    obtain rfl : c' = c := Option.some.inj (hstored.symm.trans hc)
    exact hissued hempty

/-- A start that leaves credentials of the same public id in the file, and runs with them if at all,
keeps what is promised. -/
theorem survives_keeps {c' : HostCredentialFile} {r : Enrolment} (hw : HostOk J w)
    (hc : storedCreds J w.disk = some c) (henroll : enrollOrReuse J cfg ans w.disk = r)
    (hstored : storedCreds J r.disk = some c') (hid : c'.publicId = c.publicId)
    (hrun : ∀ h, r.result = .ok h →
      h.publicId = c.publicId ∧ (w.after J ans r).issued = some c'.refreshToken) :
    Survives J cfg w ans := by
  have hlast : ∀ c₁, w.last = some c₁ → c = c₁ := fun c₁ h =>
    Option.some.inj ((hw.last c hc).symm.trans h)
  have hstart : w.start J cfg ans = w.after J ans r := by rw [HostWorld.start, henroll]
  have hholds : Holds J (w.start J cfg ans) c.publicId := ⟨c', by rw [hstart]; exact hstored, hid⟩
  constructor
  · intro c₁ h
    obtain rfl := hlast c₁ h
    exact Or.inl hholds
  · intro c₁ h host hresult
    obtain rfl := hlast c₁ h
    exact Or.inl (hrun host (henroll ▸ hresult)).1
  · intro c₁ h _
    obtain rfl : c = c₁ := Option.some.inj (hc.symm.trans h)
    exact ⟨hholds, fun host hresult => (hrun host (henroll ▸ hresult)).1⟩
  · intro host hresult
    obtain ⟨hhost, hissued⟩ := hrun host (henroll ▸ hresult)
    exact ⟨c', by rw [hstart]; exact hstored, hid.trans hhost.symm, hstart ▸ hissued⟩

section

variable (hJ : J.Lawful) (hsave : cfg.saveCreds = true)

include hJ hsave

/-- **A registration keeps step** if the tokens in the file are rejected. -/
theorem HostOk.registers
    (hrejected : ∀ c, w.last = some c →
      c.refreshToken ∈ (w.after J ans (registerNew J cfg ans w.disk calls)).rejected)
    (htoken : ∀ c, storedCreds J w.disk = some c → c.refreshToken ≠ "") :
    HostOk J (w.after J ans (registerNew J cfg ans w.disk calls)) where
  last c hc := after_last hc
  lost hnone c hc := hrejected c ((after_last_of_none hnone).symm.trans hc)
  unrefreshed c hc hempty := by
    obtain hkept | hnone | ⟨reg, hregister, hstored⟩ :=
      registerNew_disk hJ hsave ans w.disk calls
    · have hold : storedCreds J w.disk = some c := hkept ▸ hc
      exact absurd hempty (htoken c hold)
    · rw [HostWorld.after, hnone] at hc
      cases hc
    · have hnew : fromRegistration cfg.server reg = c := Option.some.inj (hstored.symm.trans hc)
      have hlast : reg.refreshToken = c.refreshToken := by rw [← hnew, fromRegistration]
      rw [issued_registerNew hregister, hlast, hempty]

/-- A registration after the tokens in the file were rejected keeps what is promised. -/
theorem survives_registers (henroll : enrollOrReuse J cfg ans w.disk =
      registerNew J cfg ans w.disk calls)
    (hrejected : ∀ c, w.last = some c →
      c.refreshToken ∈ (w.after J ans (registerNew J cfg ans w.disk calls)).rejected)
    (hno : ∀ c, storedCreds J w.disk = some c → ¬TransientFailure J ans c) :
    Survives J cfg w ans := by
  have hstart : w.start J cfg ans = w.after J ans (registerNew J cfg ans w.disk calls) := by
    rw [HostWorld.start, henroll]
  constructor
  · intro c hc
    exact Or.inr (hstart ▸ hrejected c hc)
  · intro c hc h _
    exact Or.inr (hstart ▸ hrejected c hc)
  · intro c hc htransient
    exact absurd htransient (hno c hc)
  · intro h hresult
    rw [henroll] at hresult
    obtain ⟨reg, hregister, rfl, hstored⟩ := registerNew_ok hJ hsave hresult
    refine ⟨_, by rw [hstart]; exact hstored, rfl, ?_⟩
    rw [hstart, issued_registerNew hregister]
    rfl

end

/-! ## One start -/

section

variable (hJ : J.Lawful) (hload : cfg.loadCreds = true) (hsave : cfg.saveCreds = true)
  (hexisting : cfg.existing = none)

/-- The file is in step after a start that keeps what is promised. -/
def StaysInStep (J : CredsCodec) (cfg : EnrollConfig) (w : HostWorld) (ans : StartAnswers) :
    Prop :=
  HostOk J (w.start J cfg ans) ∧ Survives J cfg w ans

include hJ hsave hexisting in
/-- A start without stored credentials registers. -/
theorem HostOk.absent (hw : HostOk J w) (hstored : storedCreds J w.disk = none) :
    StaysInStep J cfg w ans := by
  have hunread : loadedCreds J cfg.credsPath ans.access w.disk = none := by
    by_cases haccess : ans.access = .granted
    · rw [haccess, loadedCreds_granted, hstored]
    · exact loadedCreds_of_not_granted haccess
  have henroll := enroll_of_unread hexisting hunread
  have hrejected : ∀ c, w.last = some c →
      c.refreshToken ∈ (w.after J ans (registerNew J cfg ans w.disk [])).rejected :=
    fun c hc => rejected_after (hw.lost hstored c hc)
  have hnone : ∀ c, storedCreds J w.disk ≠ some c := by simp [hstored]
  constructor
  · rw [HostWorld.start, henroll]
    exact .registers hJ hsave hrejected fun c hc => absurd hc (hnone c)
  · exact survives_registers hJ hsave henroll hrejected fun c hc => absurd hc (hnone c)

include hload hexisting in
/-- Without a refresh token nothing is refreshed. -/
theorem HostOk.reuses (hw : HostOk J w) (hstored : storedCreds J w.disk = some c)
    (haccess : ans.access = .granted) (htoken : c.refreshToken = "") :
    StaysInStep J cfg w ans := by
  have henroll := (enroll_of_stored hexisting hload haccess hstored).trans
    (reuseFile_unrefreshed htoken)
  have hissued := hw.unrefreshed c hstored htoken
  constructor
  · rw [HostWorld.start, henroll]
    exact .keeps hstored fun _ => hissued
  · refine survives_keeps hw hstored henroll hstored rfl fun h hresult => ?_
    rw [← Except.ok.inj hresult, htoken]
    exact ⟨rfl, hissued⟩

include hJ hload hsave hexisting in
/-- **Refreshed tokens** that are saved are those in the file. -/
theorem HostOk.refreshes {text : String} (hw : HostOk J w)
    (hstored : storedCreds J w.disk = some c) (haccess : ans.access = .granted)
    (htoken : c.refreshToken ≠ "") (hrefresh : refreshDeviceToken J ans.refresh.http = .ok tokens)
    (hsaved : saveOutcome J cfg.credsPath (withTokens cfg c tokens) ans.saveRefreshed =
      .saved text) : StaysInStep J cfg w ans := by
  obtain ⟨hwritten, hnew⟩ := storedCreds_saved hJ w.disk hsaved
  have henroll := (enroll_of_stored hexisting hload haccess hstored).trans
    (reuseFile_refreshed htoken hsave hrefresh)
  rw [hwritten] at henroll
  have hissued : (w.after J ans (enrollOrReuse J cfg ans w.disk)).issued =
      some (withTokens cfg c tokens).refreshToken := by
    rw [henroll]
    simp only [HostWorld.after, List.foldl_cons, List.foldl_nil, issuedBy, hrefresh]
    rfl
  rw [henroll] at hissued
  constructor
  · rw [HostWorld.start, henroll]
    exact .keeps hnew fun hempty => hempty ▸ hissued
  · refine survives_keeps hw hstored henroll hnew rfl fun h hresult => ?_
    rw [← Except.ok.inj hresult]
    exact ⟨rfl, hissued⟩

include hJ hload hsave hexisting in
/-- Tokens that the server rejects may be replaced. -/
theorem HostOk.rejects (hw : HostOk J w) (hstored : storedCreds J w.disk = some c)
    (haccess : ans.access = .granted) (htoken : c.refreshToken ≠ "")
    (hrejects : ans.refresh.http.rejects = true) : StaysInStep J cfg w ans := by
  obtain ⟨e, hrefresh⟩ : ∃ e, refreshDeviceToken J ans.refresh.http = .error e :=
    readAnswer_of_rejects hrejects
  have hsame : ∀ c₁, storedCreds J w.disk = some c₁ → c = c₁ := fun c₁ h =>
    Option.some.inj (hstored.symm.trans h)
  have henroll := (enroll_of_stored hexisting hload haccess hstored).trans
    (reuseFile_failed htoken hrefresh)
  have hrejected : ∀ c₁, w.last = some c₁ → c₁.refreshToken ∈
      (w.after J ans (registerNew J cfg ans w.disk
        [.refresh (refreshUrl (refreshServer cfg c) c.publicId) c.refreshToken])).rejected := by
    intro c₁ hlast
    obtain rfl : c = c₁ := Option.some.inj ((hw.last c hstored).symm.trans hlast)
    simp [HostWorld.after, registerNew_calls, refusedBy, hrejects]
  constructor
  · rw [HostWorld.start, henroll]
    exact .registers hJ hsave hrejected fun c₁ h => hsame c₁ h ▸ htoken
  · refine survives_registers hJ hsave henroll hrejected fun c₁ h htransient => ?_
    rw [htransient.notRejected] at hrejects
    cases hrejects

include hload hsave hexisting in
/-- **A registration that comes to nothing** changes nothing. -/
theorem HostOk.stops (hw : HostOk J w) (hstored : storedCreds J w.disk = some c)
    (hreads : ¬(ans.access = .granted ∧ c.refreshToken = ""))
    (hfailed : ans.access = .granted → ∃ e, refreshDeviceToken J ans.refresh.http = .error e)
    (hstops : StopsShort J cfg ans c) : StaysInStep J cfg w ans := by
  obtain ⟨calls, henroll, hcalls⟩ : ∃ calls,
      enrollOrReuse J cfg ans w.disk = registerNew J cfg ans w.disk calls ∧
        (c.refreshToken = "" → calls = []) := by
    by_cases haccess : ans.access = .granted
    · obtain ⟨e, hrefresh⟩ := hfailed haccess
      have htoken : c.refreshToken ≠ "" := fun h => hreads ⟨haccess, h⟩
      exact ⟨_, (enroll_of_stored hexisting hload haccess hstored).trans
        (reuseFile_failed htoken hrefresh), fun h => absurd h htoken⟩
    · exact ⟨_, enroll_of_unread hexisting (loadedCreds_of_not_granted haccess), fun _ => rfl⟩
  obtain ⟨hdisk, e, hresult⟩ := registerNew_stops hsave hstops w.disk calls
  have hkept : storedCreds J (registerNew J cfg ans w.disk calls).disk = some c := by
    rw [hdisk, hstored]
  constructor
  · rw [HostWorld.start, henroll]
    refine .keeps hkept fun htoken => ?_
    cases hstops with
    | failed hregister hissued =>
      simp only [HostWorld.after, registerNew_calls, hcalls htoken, List.nil_append,
        List.foldl_cons, List.foldl_nil, issuedBy, hregister, hissued htoken, Option.none_or]
      exact hw.unrefreshed c hstored htoken
    | unsaved hregister hne hsave => exact absurd htoken hne
  · refine survives_keeps hw hstored henroll hkept rfl fun h hok => ?_
    rw [hresult] at hok
    cases hok

include hJ hload hsave hexisting in
/-- **A clean start keeps the file in step with the server**, and keeps what is promised. -/
theorem HostOk.step (hw : HostOk J w) (hclean : CleanStart J cfg w ans) :
    StaysInStep J cfg w ans := by
  cases hstored : storedCreds J w.disk with
  | none => exact hw.absent hJ hsave hexisting hstored
  | some c =>
    by_cases hreads : ans.access = .granted ∧ c.refreshToken = ""
    · exact hw.reuses hload hexisting hstored hreads.1 hreads.2
    · have htoken : ans.access = .granted → c.refreshToken ≠ "" := fun haccess h =>
        hreads ⟨haccess, h⟩
      cases hclean c hstored with
      | unrefreshed haccess hempty => exact absurd hempty (htoken haccess)
      | refreshed haccess hrefresh hsaved =>
        exact hw.refreshes hJ hload hsave hexisting hstored haccess (htoken haccess) hrefresh hsaved
      | rejected haccess hrejects =>
        exact hw.rejects hJ hload hsave hexisting hstored haccess (htoken haccess) hrejects
      | stopped hfailed hstops =>
        exact hw.stops hload hsave hexisting hstored hreads hfailed hstops

end

/-! ## All starts of a host -/

/-- The file of a host that has not started yet is in step. -/
theorem HostOk.init (h : (hostStarts J cfg).init w) : HostOk J w := by
  obtain ⟨hlast, hrejected, hissued⟩ := h
  constructor
  · intro c hc
    rw [hlast, hc]
  · intro hnone c hc
    rw [hlast, hnone] at hc
    cases hc
  · intro c hc htoken
    rw [hissued, hc, Option.map_some, htoken]

/-- **The identity of a host survives its clean starts.** -/
theorem identity_survives (J : CredsCodec) (hJ : J.Lawful) (cfg : EnrollConfig)
    (hload : cfg.loadCreds = true) (hsave : cfg.saveCreds = true) (hexisting : cfg.existing = none)
    (w : HostWorld) (hw : (hostStarts J cfg).ReachableVia (CleanStart J cfg) w)
    (ans : StartAnswers) (hclean : CleanStart J cfg w ans) : Survives J cfg w ans := by
  have hok : HostOk J w := by
    refine hw.invariant (HostOk J) (fun _ h => .init h) fun w ans w' hw hclean hstep => ?_
    rw [← Option.some.inj hstep]
    exact (hw.step hJ hload hsave hexisting hclean).1
  exact (hok.step hJ hload hsave hexisting hclean).2

/-- Credentials as they stand in the file. -/
def demoCreds (publicId tokenBody : String) : HostCredentialFile :=
  ⟨1, "http://127.0.0.1:18080", publicId, none, "rl_at_" ++ tokenBody, "rl_rt_" ++ tokenBody,
    some "2026-01-01T00:00:00Z"⟩

/-- The text of such credentials. -/
def demoCredsText (c : HostCredentialFile) : String :=
  "\x7b\n  \"schema\": 1,\n  \"server\": \"" ++ c.server ++ "\",\n  \"public_id\": \"" ++
    c.publicId ++ "\",\n  \"display_name\": null,\n  \"access_token\": \"" ++ c.accessToken ++
    "\",\n  \"refresh_token\": \"" ++ c.refreshToken ++
    "\",\n  \"expires_at\": \"2026-01-01T00:00:00Z\"\n\x7d"

/-- The credentials of one device before and after a refresh, and those of another device. -/
def demoFiles : List HostCredentialFile :=
  [demoCreds "1234567897" "a", demoCreds "1234567897" "b", demoCreds "2345678908" "c"]

/-- The text of refreshed tokens. -/
def demoTokensText : String :=
  "\x7b\"access_token\":\"rl_at_b\",\"refresh_token\":\"rl_rt_b\"," ++
    "\"expires_at\":\"2026-01-01T00:00:00Z\"\x7d"

/-- The text of a registration. -/
def demoRegistrationText : String :=
  "\x7b\"public_id\":\"2345678908\",\"access_token\":\"rl_at_c\",\"refresh_token\":\"rl_rt_c\"," ++
    "\"expires_at\":\"2026-01-01T00:00:00Z\"\x7d"

/-- A reading and a writing of these texts. -/
def demoCredsCodec : CredsCodec where
  tokens text :=
    if text = demoTokensText then .ok ⟨"rl_at_b", "rl_rt_b", "2026-01-01T00:00:00Z", none⟩
    else .error "expected value"
  registration text :=
    if text = demoRegistrationText then
      .ok ⟨"2345678908", none, "rl_at_c", "rl_rt_c", "2026-01-01T00:00:00Z"⟩
    else .error "expected value"
  encode creds := if creds ∈ demoFiles then .ok (demoCredsText creds) else .error "unsupported"
  decode text :=
    match demoFiles.find? fun creds => demoCredsText creds = text with
    | some creds => .ok creds
    | none => .error "expected value"

/-- The texts differ. -/
theorem find_demoCredsText : ∀ creds ∈ demoFiles,
    (demoFiles.find? fun other => demoCredsText other = demoCredsText creds) = some creds := by
  decide +kernel

/-- Texts of the same length, joined. -/
theorem length_append_congr {s s' t t' : String} (hs : s.toList.length = s'.toList.length)
    (ht : t.toList.length = t'.toList.length) :
    (s ++ t).toList.length = (s' ++ t').toList.length := by
  rw [String.toList_append, String.toList_append, List.length_append, List.length_append, hs, ht]

/-- The length of a text depends on the lengths of the public id and the token only. -/
theorem length_demoCredsText {publicId publicId' body body' : String}
    (hid : publicId.toList.length = publicId'.toList.length)
    (hbody : body.toList.length = body'.toList.length) :
    (demoCredsText (demoCreds publicId body)).toList.length =
      (demoCredsText (demoCreds publicId' body')).toList.length := by
  unfold demoCredsText demoCreds
  refine length_append_congr (length_append_congr (length_append_congr (length_append_congr
    (length_append_congr (length_append_congr rfl hid) rfl) ?_) rfl) ?_) rfl
  · exact length_append_congr rfl hbody
  · exact length_append_congr rfl hbody

/-- The texts have the same length. -/
theorem length_demoFiles : ∀ creds ∈ demoFiles, (demoCredsText creds).toList.length =
    (demoCredsText (demoCreds "1234567897" "a")).toList.length := by
  simp only [demoFiles, List.forall_mem_cons, List.not_mem_nil, false_implies, implies_true,
    and_true, true_and]
  exact ⟨length_demoCredsText rfl (by decide +kernel),
    length_demoCredsText (by decide +kernel) (by decide +kernel)⟩

theorem demoCredsCodec_lawful : demoCredsCodec.Lawful where
  decode_encode creds text h := by
    simp only [demoCredsCodec] at h ⊢
    split_ifs at h with hmem
    rw [← Except.ok.inj h, find_demoCredsText creds hmem]
  decode_take creds text written h hshort := by
    simp only [demoCredsCodec] at h ⊢
    split_ifs at h with hmem
    rw [← Except.ok.inj h] at hshort
    have hnone : (demoFiles.find? fun other => demoCredsText other =
        String.ofList (text.toList.take written)) = none := by
      refine List.find?_eq_none.mpr fun other hother heq => ?_
      have hlength := congrArg (fun s => s.toList.length) (of_decide_eq_true heq)
      simp only [String.toList_ofList, List.length_take, ← Except.ok.inj h] at hlength
      rw [length_demoFiles other hother] at hlength
      rw [length_demoFiles creds hmem] at hlength hshort
      omega
    rw [hnone]
    rfl

/-- A host with the default server and a file in its own directory. -/
def demoEnrollConfig : EnrollConfig :=
  ⟨"http://127.0.0.1:18080", "remotelink-host", none, ⟨".remotelink-host.json", none⟩, true, true⟩

/-- A host that has enrolled. -/
def demoEnrolled : HostWorld :=
  ⟨some (demoCredsText (demoCreds "1234567897" "a")), some (demoCreds "1234567897" "a"), [],
    some "rl_rt_a"⟩

/-- Saves that succeed. -/
def demoSaves : SaveAnswers := ⟨.ok (), .ok (), true, .done⟩

/-- A refresh that succeeds. -/
def demoRefreshes : StartAnswers :=
  ⟨.granted, ⟨.answered 200 demoTokensText, none⟩, [], ⟨.failed "unused", none⟩, demoSaves,
    demoSaves⟩

/-- A refresh that is rate limited, with a registration that comes to `register`. -/
def demoLimited (register : HttpAnswer) : StartAnswers :=
  ⟨.granted, ⟨serverRefusal (.rateLimited "rate limited" 60) "", none⟩, [], ⟨register, none⟩,
    demoSaves, demoSaves⟩

/-- The host has enrolled before its first start. -/
theorem demoEnrolled_init (cfg : EnrollConfig) :
    (hostStarts demoCredsCodec cfg).init demoEnrolled :=
  ⟨by decide +kernel, rfl, by decide +kernel⟩

/-- A refresh is followed by one that is rate limited while the server cannot be reached for a
registration. -/
theorem identity_survives_demo : ∃ w,
    (hostStarts demoCredsCodec demoEnrollConfig).ReachableVia
      (CleanStart demoCredsCodec demoEnrollConfig) w ∧
    Survives demoCredsCodec demoEnrollConfig w (demoLimited (.failed "timed out")) := by
  have hrefreshed : CleanStart demoCredsCodec demoEnrollConfig demoEnrolled demoRefreshes := by
    intro c hc
    obtain rfl : demoCreds "1234567897" "a" = c := Option.some.inj (hc.symm.trans
      (by decide +kernel)).symm
    exact .refreshed rfl rfl rfl
  have hreach := (System.ReachableVia.init (demoEnrolled_init demoEnrollConfig)).step hrefreshed rfl
  refine ⟨_, hreach, identity_survives demoCredsCodec demoCredsCodec_lawful demoEnrollConfig rfl rfl
    rfl _ hreach _ fun c hc => .stopped (fun _ => ⟨_, rfl⟩) (.failed rfl fun _ => rfl)⟩

/-- **A refresh that is rate limited replaces the identity of the host.** -/
theorem identity_lost : ¬∀ w ans,
    (hostStarts demoCredsCodec demoEnrollConfig).Reachable w →
      Survives demoCredsCodec demoEnrollConfig w ans := by
  intro h
  have hlost := (h demoEnrolled (demoLimited (.answered 201 demoRegistrationText))
    (.init (demoEnrolled_init demoEnrollConfig))).used _ rfl
      (.ofRegistration ⟨"2345678908", none, "rl_at_c", "rl_rt_c", "2026-01-01T00:00:00Z"⟩)
      (by decide +kernel)
  revert hlost
  decide +kernel

end RemoteLink.Host
