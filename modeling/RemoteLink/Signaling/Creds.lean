import Mathlib.Tactic.Basic
import Mathlib.Tactic.SplitIfs

set_option autoImplicit false

/-!
# Host credentials

The HTTP requests with which a host enrols and refreshes its tokens, and the file in which it keeps
its credentials. The network, the disk and the JSON library answer; what the host makes of the
answers is modelled.

## Main definitions

* `RegisterError` — the errors with their texts.
* `HttpAnswer`, `readAnswer` — what an HTTP request comes to, and how it is read.
* `DeviceRegistration`, `TokenHttpResponse`, `registerDevice`, `refreshDeviceToken` — the requests.
* `HostCredentialFile` — the credentials, with `HostCredentialFile.load` and
  `HostCredentialFile.save`.
* `CredsCodec.Lawful` — a file is read as it was written, and not from a part of its text.

## Main results

* `save_cases` — what a save leaves in the file.
-/

namespace RemoteLink.Signaling

/-! ## Requests -/

/-- Errors of the HTTP requests and of the credential file. -/
inductive RegisterError where
  | http (detail : String)
  | status (code : Nat) (body : String)
  | parse (detail : String)
  deriving Repr, DecidableEq

/-- The text of an error. -/
def RegisterError.display : RegisterError → String
  | .http detail => "http: " ++ detail
  | .status code body => "register failed (" ++ toString code ++ "): " ++ body
  | .parse detail => "parse: " ++ detail

/-- A registration that succeeded. -/
structure DeviceRegistration where
  publicId : String
  displayName : Option String
  accessToken : String
  refreshToken : String
  expiresAt : String
  deriving Repr, DecidableEq

/-- The tokens of a refresh. -/
structure TokenHttpResponse where
  accessToken : String
  refreshToken : String
  expiresAt : String
  tokenType : Option String
  deriving Repr, DecidableEq

/-- The credentials of a host as they are kept in its file. -/
structure HostCredentialFile where
  schema : Nat
  server : String
  publicId : String
  displayName : Option String
  accessToken : String
  refreshToken : String
  expiresAt : Option String
  deriving Repr, DecidableEq

/-- The JSON library at the types of this module. -/
structure CredsCodec where
  tokens : String → Except String TokenHttpResponse
  registration : String → Except String DeviceRegistration
  encode : HostCredentialFile → Except String String
  decode : String → Except String HostCredentialFile

/-- What a request comes to: it fails, on the way there or back, or it is answered. -/
inductive HttpAnswer where
  | failed (e : String)
  | answered (status : Nat) (text : String)
  deriving Repr, DecidableEq

/-- Whether the server has refused what it was sent as unauthorized. -/
def HttpAnswer.rejects : HttpAnswer → Bool
  | .answered status _ => decide (status = 401)
  | .failed _ => false

/-- The reading of an answer. The body of an answer with a status other than success is quoted up to
256 characters. -/
def readAnswer {α : Type} (decode : String → Except String α) : HttpAnswer → Except RegisterError α
  | .failed e => .error (.http e)
  | .answered status text =>
    if 200 ≤ status ∧ status < 300 then (decode text).mapError .parse
    else .error (.status status (String.ofList (text.toList.take 256)))

/-- A text without the slashes at its end. -/
def trimEndSlashes (s : String) : String :=
  String.ofList (s.toList.reverse.dropWhile (· = '/')).reverse

/-- The address of a registration. -/
def registerUrl (httpBase : String) : String := trimEndSlashes httpBase ++ "/v1/devices/register"

/-- The address of a refresh. -/
def refreshUrl (httpBase publicId : String) : String :=
  trimEndSlashes httpBase ++ "/v1/devices/" ++ publicId ++ "/token/refresh"

/-- What a host makes of the answer to its registration. -/
def registerDevice (J : CredsCodec) : HttpAnswer → Except RegisterError DeviceRegistration :=
  readAnswer J.registration

/-- What a host makes of the answer to its refresh. -/
def refreshDeviceToken (J : CredsCodec) : HttpAnswer → Except RegisterError TokenHttpResponse :=
  readAnswer J.tokens

/-! ## The file -/

/-- The path of the file as it is shown, with the directory it is in unless that is the current
one. -/
structure CredsPath where
  display : String
  parent : Option String
  deriving Repr, DecidableEq

/-- Whether the disk lets the host at its file: it may hide the file, or refuse to read it. -/
inductive FileAccess where
  | granted
  | hidden
  | denied (e : String)
  deriving Repr, DecidableEq

/-- How a direct write ends. A write that stops has cut the file down to what it has written. -/
inductive WriteAnswer where
  | done
  | notOpened (e : String)
  | stopped (written : Nat) (e : String)
  deriving Repr, DecidableEq

/-- What the disk answers to a save. -/
structure SaveAnswers where
  createDir : Except String Unit
  writeTmp : Except String Unit
  renamed : Bool
  write : WriteAnswer

/-- How a save ends: the file has the new text, or what it had, or a part of the new text. -/
inductive SaveOutcome where
  | saved (text : String)
  | kept (e : RegisterError)
  | cut (text : String) (written : Nat) (e : RegisterError)
  deriving Repr, DecidableEq

namespace HostCredentialFile

/-- The credentials of a registration. -/
def fromRegistration (server : String) (reg : DeviceRegistration) : HostCredentialFile where
  schema := 1
  server := trimEndSlashes server
  publicId := reg.publicId
  displayName := reg.displayName
  accessToken := reg.accessToken
  refreshToken := reg.refreshToken
  expiresAt := some reg.expiresAt

/-- The credentials are loaded from what is read at the path. -/
def load (J : CredsCodec) (path : CredsPath) : Except String String →
    Except RegisterError HostCredentialFile
  | .error e => .error (.http ("read creds " ++ path.display ++ ": " ++ e))
  | .ok text => (J.decode text).mapError fun e => .parse ("creds json: " ++ e)

/-- The credentials are loaded if the host sees a file. -/
def loadIfExists (J : CredsCodec) (path : CredsPath) (access : FileAccess)
    (disk : Option String) : Option (Except RegisterError HostCredentialFile) :=
  match access, disk with
  | .granted, some text => some (load J path (.ok text))
  | .denied e, some _ => some (load J path (.error e))
  | _, _ => none

/-- How a save ends: the text goes to a temporary file, which is renamed; where this fails, the file
is written directly. -/
def saveOutcome (J : CredsCodec) (path : CredsPath) (creds : HostCredentialFile)
    (ans : SaveAnswers) : SaveOutcome :=
  match path.parent, ans.createDir with
  | some parent, .error e => .kept (.http ("create creds dir " ++ parent ++ ": " ++ e))
  | _, _ =>
    match J.encode creds with
    | .error e => .kept (.parse ("encode creds: " ++ e))
    | .ok text =>
      match ans.writeTmp with
      | .error e => .kept (.http ("write creds tmp: " ++ e))
      | .ok () =>
        if ans.renamed then .saved text
        else
          match ans.write with
          | .done => .saved text
          | .notOpened e => .kept (.http ("write creds: " ++ e))
          | .stopped written e => .cut text written (.http ("write creds: " ++ e))

/-- The credentials are saved: what the caller is told, and what the file is then. -/
def save (J : CredsCodec) (path : CredsPath) (creds : HostCredentialFile) (ans : SaveAnswers)
    (disk : Option String) : Except RegisterError Unit × Option String :=
  match saveOutcome J path creds ans with
  | .saved text => (.ok (), some text)
  | .kept e => (.error e, disk)
  | .cut text written e => (.error e, some (String.ofList (text.toList.take written)))

end HostCredentialFile

/-- The text that a save has written, in whole or in part. -/
def SaveOutcome.text : SaveOutcome → Option String
  | .saved text => some text
  | .kept _ => none
  | .cut text _ _ => some text

/-- The credentials that a file holds. -/
def storedCreds (J : CredsCodec) (disk : Option String) : Option HostCredentialFile :=
  disk.bind fun text => (J.decode text).toOption

/-- A file is read as it was written, and nothing is read from a part of its text. -/
structure CredsCodec.Lawful (J : CredsCodec) : Prop where
  decode_encode : ∀ creds text, J.encode creds = .ok text → J.decode text = .ok creds
  decode_take : ∀ creds text written, J.encode creds = .ok text → written < text.toList.length →
    (J.decode (String.ofList (text.toList.take written))).toOption = none

/-! ## Saves -/

open HostCredentialFile

variable {J : CredsCodec} {path : CredsPath} {creds : HostCredentialFile} {ans : SaveAnswers}
  {access : FileAccess} {disk : Option String}

/-- What a save has written is the text of the credentials. -/
theorem encode_of_saveOutcome {text : String}
    (h : (saveOutcome J path creds ans).text = some text) : J.encode creds = .ok text := by
  unfold saveOutcome at h
  split at h
  · cases h
  · split at h
    · cases h
    · rename_i written hencode
      split at h
      · cases h
      · split_ifs at h
        · rwa [Option.some.inj h] at hencode
        · split at h
          · rwa [Option.some.inj h] at hencode
          · cases h
          · rwa [Option.some.inj h] at hencode

/-- What was saved is stored. -/
theorem storedCreds_saved (hJ : J.Lawful) (disk : Option String) {text : String}
    (h : saveOutcome J path creds ans = .saved text) :
    save J path creds ans disk = (.ok (), some text) ∧
      storedCreds J (some text) = some creds := by
  have hencode : J.encode creds = .ok text := encode_of_saveOutcome (by rw [h]; rfl)
  constructor
  · rw [save, h]
  · rw [storedCreds, Option.bind_some, hJ.decode_encode creds text hencode]
    rfl

/-- **What a save leaves**: the new credentials; after an error the file as it was, no credentials
at all, or the new ones. -/
theorem save_cases (hJ : J.Lawful) (path : CredsPath) (creds : HostCredentialFile)
    (ans : SaveAnswers) (disk : Option String) :
    ((save J path creds ans disk).1 = .ok () ∧
        storedCreds J (save J path creds ans disk).2 = some creds) ∨
      ∃ e, (save J path creds ans disk).1 = .error e ∧
        ((save J path creds ans disk).2 = disk ∨
          storedCreds J (save J path creds ans disk).2 = none ∨
          storedCreds J (save J path creds ans disk).2 = some creds) := by
  cases houtcome : saveOutcome J path creds ans with
  | saved text =>
    obtain ⟨hsave, hstored⟩ := storedCreds_saved hJ disk houtcome
    rw [hsave]
    exact Or.inl ⟨rfl, hstored⟩
  | kept e =>
    have hsave : save J path creds ans disk = (.error e, disk) := by rw [save, houtcome]
    rw [hsave]
    exact Or.inr ⟨e, rfl, Or.inl rfl⟩
  | cut text written e =>
    have hencode : J.encode creds = .ok text := encode_of_saveOutcome (by rw [houtcome]; rfl)
    have hsave : save J path creds ans disk =
        (.error e, some (String.ofList (text.toList.take written))) := by rw [save, houtcome]
    rw [hsave]
    refine Or.inr ⟨e, rfl, Or.inr ?_⟩
    by_cases hshort : written < text.toList.length
    · exact Or.inl (hJ.decode_take creds text written hencode hshort)
    · right
      rw [storedCreds, Option.bind_some, List.take_of_length_le (Nat.not_lt.mp hshort),
        String.ofList_toList, hJ.decode_encode creds text hencode]
      rfl

/-! ## Loads -/

/-- What the host gets from its file. -/
def loadedCreds (J : CredsCodec) (path : CredsPath) (access : FileAccess)
    (disk : Option String) : Option HostCredentialFile :=
  (loadIfExists J path access disk).bind Except.toOption

/-- With access the host gets what is stored. -/
theorem loadedCreds_granted : loadedCreds J path .granted disk = storedCreds J disk := by
  cases disk with
  | none => rfl
  | some text =>
    rw [loadedCreds, loadIfExists, Option.bind_some, load, storedCreds, Option.bind_some]
    cases J.decode text <;> rfl

/-- Without access the host gets nothing. -/
theorem loadedCreds_of_not_granted (h : access ≠ .granted) :
    loadedCreds J path access disk = none := by
  cases access with
  | granted => exact absurd rfl h
  | hidden => cases disk <;> rfl
  | denied e => cases disk <;> rfl

end RemoteLink.Signaling
