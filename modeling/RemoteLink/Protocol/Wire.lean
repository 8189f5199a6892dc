import Mathlib.Data.String.Basic
import RemoteLink.Library.Json
import RemoteLink.Library.OrderedMap
import RemoteLink.Library.Outcome
import RemoteLink.Protocol.Message

set_option autoImplicit false

/-!
# Signaling messages as text

A message travels as a JSON object with its type, its fields and nothing else. What is read may look
different: unknown members, members in another order, absent options, an array in place of an
object, numbers in other spellings. An opaque payload is kept as the value that it is, with the
members of its objects in order. Some fields have a limit, which is checked after reading.

The server reads every message and writes it again for the other peer, so the two must not read it
differently.

## Main definitions

* `Value.write`, `Value.normal` — the text of a value, and the form in which a value is kept.
* `SignalMessage.toValue`, `SignalMessage.ofValue` — a message as a value, and back.
* `validateMessageLimits` — the limits of the fields.
* `encodeMessage`, `decodeMessage` — the text of a message, and back.

## Main results

* `ofValue_toValue` — what was written is read.
* `ofValue_normal` — what is read is kept in order.
* `wire_relay_stable` — a message that was read from any text at all is read from its own text.
-/

namespace RemoteLink.Protocol

open Library

/-! ## Values -/

/-- The JSON library: the syntax of a text, and how a number is written again after it was read. -/
structure Serde where
  parse : Bytes → Except String Value
  number : String → String
  number_number : ∀ t, number (number t) = number t

namespace Value

mutual

/-- The text of a value. -/
def write : Value → Bytes
  | null => utf8 "null"
  | bool b => utf8 (if b then "true" else "false")
  | number t => utf8 t
  | string s => Json.quoted s
  | array items => 91 :: (Json.commaSep (writeAll items) ++ [93])
  | object fields => 123 :: (Json.commaSep (writeFields fields) ++ [125])

/-- The texts of values. -/
def writeAll : List Value → List Bytes
  | [] => []
  | v :: vs => write v :: writeAll vs

/-- The texts of members. -/
def writeFields : List (String × Value) → List Bytes
  | [] => []
  | (k, v) :: fs => (Json.quoted k ++ 58 :: write v) :: writeFields fs

end

mutual

/-- The form in which a value is kept: numbers as they are written, members in the order of their
names, the later one of two with the same name. -/
def normal (N : String → String) : Value → Value
  | null => null
  | bool b => bool b
  | number t => number (N t)
  | string s => string s
  | array items => array (normalAll N items)
  | object fields => object (OrderedMap.ofList (normalFields N fields))

/-- Values as they are kept. -/
def normalAll (N : String → String) : List Value → List Value
  | [] => []
  | v :: vs => normal N v :: normalAll N vs

/-- Members as they are kept. -/
def normalFields (N : String → String) : List (String × Value) → List (String × Value)
  | [] => []
  | (k, v) :: fs => (k, normal N v) :: normalFields N fs

end

variable {N : String → String}

/-- Members whose values are kept as they are. -/
theorem normalFields_eq {fs : List (String × Value)} (h : ∀ f ∈ fs, normal N f.2 = f.2) :
    normalFields N fs = fs := by
  induction fs with
  | nil => rfl
  | cons f fs ih =>
    obtain ⟨k, v⟩ := f
    rw [normalFields, h (k, v) List.mem_cons_self, ih fun f hf => h f (List.mem_cons_of_mem _ hf)]

mutual

/-- **A value that is kept is kept as it is.** -/
theorem normal_normal (hN : ∀ t, N (N t) = N t) (v : Value) : normal N (normal N v) = normal N v := by
  cases v with
  | null => rfl
  | bool b => rfl
  | number t => exact congrArg number (hN t)
  | string s => rfl
  | array items => exact congrArg array (normalAll_normalAll hN items)
  | object fields =>
    have hkept : normalFields N (OrderedMap.ofList (normalFields N fields)) =
        OrderedMap.ofList (normalFields N fields) :=
      normalFields_eq fun f hf =>
        normal_of_mem_normalFields hN fields f (OrderedMap.mem_of_mem_ofList hf)
    rw [normal, normal, hkept, OrderedMap.ofList_of_ordered (OrderedMap.ordered_ofList _)]

theorem normalAll_normalAll (hN : ∀ t, N (N t) = N t) (vs : List Value) :
    normalAll N (normalAll N vs) = normalAll N vs := by
  cases vs with
  | nil => rfl
  | cons v vs => rw [normalAll, normalAll, normal_normal hN v, normalAll_normalAll hN vs]

theorem normal_of_mem_normalFields (hN : ∀ t, N (N t) = N t) (fs : List (String × Value)) :
    ∀ f ∈ normalFields N fs, normal N f.2 = f.2 := by
  cases fs with
  | nil => exact fun _ h => absurd h List.not_mem_nil
  | cons f fs =>
    obtain ⟨k, v⟩ := f
    intro g hg
    rw [normalFields] at hg
    rcases List.mem_cons.mp hg with rfl | hg
    · exact normal_normal hN v
    · exact normal_of_mem_normalFields hN fs g hg

end

/-! ## Reading members -/

section

variable {α : Type}

/-- The values of a member: by name in an object, by position in an array. -/
def hits (i : Nat) (name : String) : Value → List Value
  | object fields => fields.filterMap fun f => if f.1 = name then some f.2 else none
  | array items => items[i]?.toList
  | _ => []

/-- Whether a value can be read as a record with `n` members. -/
def record (n : Nat) : Value → Except String Unit
  | object _ => .ok ()
  | array items => if items.length ≤ n then .ok () else .error "invalid length"
  | _ => .error "invalid type"

/-- Read the one value of a member. -/
def single (name : String) (missing : Except String α) (f : Value → Except String α) :
    List Value → Except String α
  | [] => missing
  | [v] => f v
  | _ => .error s!"duplicate field {name}"

/-- A member that must be there. -/
def required (v : Value) (i : Nat) (name : String) (f : Value → Except String α) :
    Except String α :=
  single name (.error s!"missing field {name}") f (v.hits i name)

/-- A member that may be absent or null. -/
def optional (v : Value) (i : Nat) (name : String) (f : Value → Except String α) :
    Except String (Option α) :=
  single name (.ok none) (fun
    | null => .ok none
    | w => (f w).map some) (v.hits i name)

/-- A string. -/
def readStr : Value → Except String String
  | string s => .ok s
  | _ => .error "invalid type, expected a string"

/-- The number that digits stand for. -/
def digits? (t : String) : Option Nat :=
  if t ≠ "" ∧ t.toList.all Char.isDigit then some (Nat.ofDigitChars 10 t.toList 0) else none

/-- A number below a bound; fractions, exponents and signs are not for integers. -/
def readNat (bound : Nat) : Value → Except String Nat
  | number t =>
    match digits? t with
    | some n => if n < bound then .ok n else .error "invalid value"
    | none => .error "invalid type, expected an integer"
  | _ => .error "invalid type, expected an integer"

/-- A 16-bit number. -/
def readU16 (v : Value) : Except String UInt16 := (readNat 65536 v).map UInt16.ofNat

/-- A 32-bit number. -/
def readU32 (v : Value) : Except String UInt32 := (readNat 4294967296 v).map UInt32.ofNat

/-- A 64-bit number. -/
def readU64 (v : Value) : Except String UInt64 :=
  (readNat 18446744073709551616 v).map UInt64.ofNat

/-- One of the given names, also as the only key of an object with a null or an empty object. -/
def variant (names : List (String × α)) (v : Value) : Except String α :=
  match v with
  | string s | object [(s, null)] | object [(s, object [])] =>
    match names.find? (·.1 = s) with
    | some m => .ok m.2
    | none => .error s!"unknown variant {s}"
  | _ => .error "invalid type, expected a variant"

/-- A member that is written only if it is there. -/
def skipNone (name : String) (f : α → Value) (o : Option α) : List (String × Value) :=
  (o.map fun x => (name, f x)).toList

end

/-- A number as it is written. -/
def ofNat (n : Nat) : Value := number (toString n)

/-- The digits of a number are read as the number. -/
theorem digits?_toString (n : Nat) : digits? (toString n) = some n := by
  have htext : toString n = String.ofList (Nat.toDigits 10 n) := Nat.repr_eq_ofList_toDigits
  have hdigits : (Nat.toDigits 10 n).all Char.isDigit = true := by
    rw [List.all_eq_true]
    intro c hc
    exact Nat.isDigit_of_mem_toDigits (by decide) (by decide) hc
  have hne : String.ofList (Nat.toDigits 10 n) ≠ "" := by
    intro hempty
    have hlist := congrArg String.toList hempty
    rw [String.toList_ofList] at hlist
    exact Nat.toDigits_ne_nil hlist
  unfold digits?
  rw [htext, if_pos ⟨hne, by rwa [String.toList_ofList]⟩, String.toList_ofList,
    Nat.ofDigitChars_ten_toDigits]

/-- A number within its bound is read back. -/
theorem readNat_ofNat {n bound : Nat} (h : n < bound) : readNat bound (ofNat n) = .ok n := by
  simp only [readNat, ofNat, digits?_toString, if_pos h]

@[simp] theorem readU16_ofNat (n : UInt16) : readU16 (ofNat n.toNat) = .ok n := by
  rw [readU16, readNat_ofNat n.toNat_lt]
  exact congrArg Except.ok (UInt16.ofNat_toNat)

@[simp] theorem readU32_ofNat (n : UInt32) : readU32 (ofNat n.toNat) = .ok n := by
  rw [readU32, readNat_ofNat n.toNat_lt]
  exact congrArg Except.ok (UInt32.ofNat_toNat)

@[simp] theorem readU64_ofNat (n : UInt64) : readU64 (ofNat n.toNat) = .ok n := by
  rw [readU64, readNat_ofNat n.toNat_lt]
  exact congrArg Except.ok (UInt64.ofNat_toNat)

@[simp] theorem readStr_string (s : String) : readStr (string s) = .ok s := rfl

section

variable {α : Type}

@[simp] theorem hits_object_nil (i : Nat) (name : String) : hits i name (object []) = [] := rfl

@[simp] theorem hits_object_cons (i : Nat) (name k : String) (v : Value)
    (fs : List (String × Value)) : hits i name (object ((k, v) :: fs)) =
      (if k = name then [v] else []) ++ hits i name (object fs) := by
  by_cases h : k = name <;> simp [hits, h]

@[simp] theorem hits_object_append (i : Nat) (name : String) (fs gs : List (String × Value)) :
    hits i name (object (fs ++ gs)) = hits i name (object fs) ++ hits i name (object gs) := by
  simp [hits]

@[simp] theorem hits_skipNone (i : Nat) (name k : String) (f : α → Value) (o : Option α) :
    hits i name (object (skipNone k f o)) = if k = name then (o.map f).toList else [] := by
  rcases o with _ | x
  · simp [skipNone]
  · by_cases h : k = name <;> simp [skipNone, hits, h]

@[simp] theorem record_object (n : Nat) (fs : List (String × Value)) :
    record n (object fs) = .ok () := rfl

@[simp] theorem single_nil (name : String) (missing : Except String α)
    (f : Value → Except String α) : single name missing f [] = missing := rfl

@[simp] theorem single_one (name : String) (missing : Except String α)
    (f : Value → Except String α) (v : Value) : single name missing f [v] = f v := rfl

/-- **An option that was written is read back.** -/
theorem single_skipNone {name : String} {f : Value → Except String (Option α)} {g : α → Value}
    (h : ∀ x, f (g x) = .ok (some x)) (o : Option α) :
    single name (.ok none) f (o.map g).toList = .ok o := by
  rcases o with _ | x
  · rfl
  · exact h x

end

end Value

/-! ## Messages -/

/-- The names of the roles. -/
def Role.names : List (String × Role) := [("host", host), ("viewer", viewer)]

/-- The names of the session modes. -/
def SessionMode.names : List (String × SessionMode) :=
  [("otp", otp), ("unattended", unattended), ("password", password)]

/-- The names of the prefilter results. -/
def OtpPrefilterStatus.names : List (String × OtpPrefilterStatus) :=
  [("none", none), ("ok", ok), ("skipped", skipped)]

/-- The names of the reasons of a reject. -/
def RejectReason.names : List (String × RejectReason) :=
  [("busy", busy), ("auth", auth), ("policy", policy)]

/-- The name of a role. -/
def Role.toValue : Role → Value
  | host => .string "host"
  | viewer => .string "viewer"

/-- The name of a session mode. -/
def SessionMode.toValue : SessionMode → Value
  | otp => .string "otp"
  | unattended => .string "unattended"
  | password => .string "password"

/-- The name of a prefilter result. -/
def OtpPrefilterStatus.toValue : OtpPrefilterStatus → Value
  | none => .string "none"
  | ok => .string "ok"
  | skipped => .string "skipped"

/-- The name of a reason. -/
def RejectReason.toValue : RejectReason → Value
  | busy => .string "busy"
  | auth => .string "auth"
  | policy => .string "policy"

@[simp] theorem Role.variant_toValue (r : Role) : Value.variant names r.toValue = .ok r := by
  cases r <;> rfl

@[simp] theorem SessionMode.variant_toValue (m : SessionMode) :
    Value.variant names m.toValue = .ok m := by
  cases m <;> rfl

@[simp] theorem OtpPrefilterStatus.variant_toValue (s : OtpPrefilterStatus) :
    Value.variant names s.toValue = .ok s := by
  cases s <;> rfl

@[simp] theorem RejectReason.variant_toValue (r : RejectReason) :
    Value.variant names r.toValue = .ok r := by
  cases r <;> rfl

/-- A candidate as a value; options that are absent are left out. -/
def IceCandidate.toValue (c : IceCandidate) : Value :=
  .object ([("candidate", .string c.candidate)] ++ Value.skipNone "sdp_mid" .string c.sdpMid ++
    Value.skipNone "sdp_m_line_index" (fun n => Value.ofNat n.toNat) c.sdpMLineIndex ++
    Value.skipNone "username_fragment" .string c.usernameFragment)

/-- A candidate from a value. -/
def IceCandidate.ofValue (v : Value) : Except String IceCandidate := do
  v.record 4
  return ⟨← v.required 0 "candidate" Value.readStr, ← v.optional 1 "sdp_mid" Value.readStr,
    ← v.optional 2 "sdp_m_line_index" Value.readU16,
    ← v.optional 3 "username_fragment" Value.readStr⟩

/-- Credentials as a value. -/
def HelloAuth.toValue (a : HelloAuth) : Value := .object [("device_token", .string a.deviceToken)]

/-- Credentials from a value. -/
def HelloAuth.ofValue (v : Value) : Except String HelloAuth := do
  v.record 1
  return ⟨← v.required 0 "device_token" Value.readStr⟩

@[simp] theorem HelloAuth.ofValue_toValue (a : HelloAuth) : ofValue a.toValue = .ok a := by
  simp [ofValue, toValue, Value.required]

@[simp] theorem IceCandidate.ofValue_toValue (c : IceCandidate) : ofValue c.toValue = .ok c := by
  have hstr : ∀ name (o : Option String), Value.single name (.ok none) (fun
      | .null => .ok none
      | w => (Value.readStr w).map some) (o.map Value.string).toList = .ok o :=
    fun _ o => Value.single_skipNone (fun _ => rfl) o
  have hline : ∀ name (o : Option UInt16), Value.single name (.ok none) (fun
      | .null => .ok none
      | w => (Value.readU16 w).map some)
        (o.map fun n => Value.ofNat n.toNat).toList = .ok o := by
    refine fun _ o => Value.single_skipNone (fun n => ?_) o
    exact congrArg (Except.map some) (Value.readU16_ofNat n)
  simp [ofValue, toValue, Value.required, Value.optional, hstr, hline]

namespace SignalMessage

/-- The type of a message on the wire. -/
def typeName : SignalMessage → String
  | hello .. => "hello"
  | helloOk .. => "hello_ok"
  | sessionIntent .. => "session_intent"
  | sessionIncoming .. => "session_incoming"
  | authChallenge .. => "auth_challenge"
  | authResponse .. => "auth_response"
  | sessionAccept .. => "session_accept"
  | sessionReject .. => "session_reject"
  | sessionOffer .. => "session_offer"
  | sessionAnswer .. => "session_answer"
  | iceCandidate .. => "ice_candidate"
  | mediaRestart .. => "media_restart"
  | renegotiate .. => "renegotiate"
  | sessionEnd .. => "session_end"
  | stats .. => "stats"
  | error .. => "error"

/-- The members that the messages of a session start with. -/
def sessionFields (sid : String) (seq : UInt64) : List (String × Value) :=
  [("session_id", .string sid), ("signal_seq", .ofNat seq.toNat)]

/-- The members of a message, besides its type. -/
def fields : SignalMessage → List (String × Value)
  | hello role version auth =>
    [("role", role.toValue), ("protocol_version", .ofNat version.toNat), ("auth", auth.toValue)]
  | helloOk time flags => [("server_time", .string time), ("feature_flags", flags)]
  | sessionIntent sid seq host mode prefilter => sessionFields sid seq ++
    [("host_public_id", .string host), ("mode", mode.toValue), ("prefilter", prefilter)]
  | sessionIncoming sid seq info mode prefilter => sessionFields sid seq ++
    [("viewer_info", info), ("mode", mode.toValue), ("otp_prefilter", prefilter.toValue)]
  | authChallenge sid seq payload | authResponse sid seq payload | stats sid seq payload =>
    sessionFields sid seq ++ [("payload", payload)]
  | sessionAccept sid seq | mediaRestart sid seq | renegotiate sid seq => sessionFields sid seq
  | sessionReject sid seq reason => sessionFields sid seq ++ [("reason", reason.toValue)]
  | sessionOffer sid seq sdp sig => sessionFields sid seq ++
    [("sdp", .string sdp), ("fingerprint_sig", .string sig)]
  | sessionAnswer sid seq sdp => sessionFields sid seq ++ [("sdp", .string sdp)]
  | iceCandidate sid seq candidate => sessionFields sid seq ++ [("candidate", candidate.toValue)]
  | sessionEnd sid seq reason => sessionFields sid seq ++ [("reason", .string reason)]
  | error code message => [("code", .string code), ("message", .string message)]

/-- A message as a value. -/
def toValue (m : SignalMessage) : Value := .object (("type", .string m.typeName) :: m.fields)

/-- The session id of a message. -/
def readSid (v : Value) : Except String String := v.required 1 "session_id" Value.readStr

/-- The sequence number of a message. -/
def readSeq (v : Value) : Except String UInt64 := v.required 2 "signal_seq" Value.readU64

/-- An opaque payload, as it is kept. -/
def readPayload (S : Serde) (v : Value) (i : Nat) (name : String) : Except String Value :=
  v.required i name fun w => .ok (w.normal S.number)

/-- A message from a value. -/
def ofValue (S : Serde) (v : Value) : Except String SignalMessage := do
  match ← v.required 0 "type" Value.readStr with
  | "hello" =>
    v.record 4
    return hello (← v.required 1 "role" (Value.variant Role.names))
      (← v.required 2 "protocol_version" Value.readU32) (← v.required 3 "auth" HelloAuth.ofValue)
  | "hello_ok" =>
    v.record 3
    return helloOk (← v.required 1 "server_time" Value.readStr)
      (← readPayload S v 2 "feature_flags")
  | "session_intent" =>
    v.record 6
    return sessionIntent (← readSid v) (← readSeq v) (← v.required 3 "host_public_id" Value.readStr)
      (← v.required 4 "mode" (Value.variant SessionMode.names)) (← readPayload S v 5 "prefilter")
  | "session_incoming" =>
    v.record 6
    return sessionIncoming (← readSid v) (← readSeq v) (← readPayload S v 3 "viewer_info")
      (← v.required 4 "mode" (Value.variant SessionMode.names))
      (← v.required 5 "otp_prefilter" (Value.variant OtpPrefilterStatus.names))
  | "auth_challenge" =>
    v.record 4
    return authChallenge (← readSid v) (← readSeq v) (← readPayload S v 3 "payload")
  | "auth_response" =>
    v.record 4
    return authResponse (← readSid v) (← readSeq v) (← readPayload S v 3 "payload")
  | "session_accept" =>
    v.record 3
    return sessionAccept (← readSid v) (← readSeq v)
  | "session_reject" =>
    v.record 4
    return sessionReject (← readSid v) (← readSeq v)
      (← v.required 3 "reason" (Value.variant RejectReason.names))
  | "session_offer" =>
    v.record 5
    return sessionOffer (← readSid v) (← readSeq v) (← v.required 3 "sdp" Value.readStr)
      (← v.required 4 "fingerprint_sig" Value.readStr)
  | "session_answer" =>
    v.record 4
    return sessionAnswer (← readSid v) (← readSeq v) (← v.required 3 "sdp" Value.readStr)
  | "ice_candidate" =>
    v.record 4
    return iceCandidate (← readSid v) (← readSeq v)
      (← v.required 3 "candidate" IceCandidate.ofValue)
  | "media_restart" =>
    v.record 3
    return mediaRestart (← readSid v) (← readSeq v)
  | "renegotiate" =>
    v.record 3
    return renegotiate (← readSid v) (← readSeq v)
  | "session_end" =>
    v.record 4
    return sessionEnd (← readSid v) (← readSeq v) (← v.required 3 "reason" Value.readStr)
  | "stats" =>
    v.record 4
    return stats (← readSid v) (← readSeq v) (← readPayload S v 3 "payload")
  | "error" =>
    v.record 3
    return error (← v.required 1 "code" Value.readStr) (← v.required 2 "message" Value.readStr)
  | other => .error s!"unknown variant {other}"

/-- The opaque payload of a message. -/
def payload? : SignalMessage → Option Value
  | helloOk _ v | sessionIntent _ _ _ _ v | sessionIncoming _ _ v _ _ | authChallenge _ _ v
  | authResponse _ _ v | stats _ _ v => some v
  | _ => none

/-- Whether the payload of a message is kept as it is. -/
def Kept (S : Serde) (m : SignalMessage) : Prop :=
  ∀ v, m.payload? = some v → v.normal S.number = v

/-- **What was written is read**, when the payload is kept as it is. -/
theorem ofValue_toValue (S : Serde) {m : SignalMessage} (h : m.Kept S) :
    ofValue S m.toValue = .ok m := by
  cases m with
  | hello role version auth => simp [ofValue, toValue, typeName, fields, Value.required]
  | helloOk time flags =>
    simp [ofValue, toValue, typeName, fields, Value.required, readPayload, h flags rfl]
  | sessionIntent sid seq host mode prefilter =>
    simp [ofValue, toValue, typeName, fields, sessionFields, Value.required, readSid, readSeq,
      readPayload, h prefilter rfl]
  | sessionIncoming sid seq info mode prefilter =>
    simp [ofValue, toValue, typeName, fields, sessionFields, Value.required, readSid, readSeq,
      readPayload, h info rfl]
  | authChallenge sid seq payload =>
    simp [ofValue, toValue, typeName, fields, sessionFields, Value.required, readSid, readSeq,
      readPayload, h payload rfl]
  | authResponse sid seq payload =>
    simp [ofValue, toValue, typeName, fields, sessionFields, Value.required, readSid, readSeq,
      readPayload, h payload rfl]
  | sessionAccept sid seq =>
    simp [ofValue, toValue, typeName, fields, sessionFields, Value.required, readSid, readSeq]
  | sessionReject sid seq reason =>
    simp [ofValue, toValue, typeName, fields, sessionFields, Value.required, readSid, readSeq]
  | sessionOffer sid seq sdp sig =>
    simp [ofValue, toValue, typeName, fields, sessionFields, Value.required, readSid, readSeq]
  | sessionAnswer sid seq sdp =>
    simp [ofValue, toValue, typeName, fields, sessionFields, Value.required, readSid, readSeq]
  | iceCandidate sid seq candidate =>
    simp [ofValue, toValue, typeName, fields, sessionFields, Value.required, readSid, readSeq]
  | mediaRestart sid seq =>
    simp [ofValue, toValue, typeName, fields, sessionFields, Value.required, readSid, readSeq]
  | renegotiate sid seq =>
    simp [ofValue, toValue, typeName, fields, sessionFields, Value.required, readSid, readSeq]
  | sessionEnd sid seq reason =>
    simp [ofValue, toValue, typeName, fields, sessionFields, Value.required, readSid, readSeq]
  | stats sid seq payload =>
    simp [ofValue, toValue, typeName, fields, sessionFields, Value.required, readSid, readSeq,
      readPayload, h payload rfl]
  | error code message => simp [ofValue, toValue, typeName, fields, Value.required]

/-- A payload that was read is kept as it is. -/
theorem readPayload_yields (S : Serde) (v : Value) (i : Nat) (name : String) :
    Yields (fun w => w.normal S.number = w) (readPayload S v i name) := by
  unfold readPayload Value.required Value.single
  split
  · exact .error _
  · exact .ok (Value.normal_normal S.number_number _)
  · exact .error _

/-- **What is read is kept as it is**, from whatever value it was read. -/
theorem ofValue_kept (S : Serde) (v : Value) : Yields (Kept S) (ofValue S v) := by
  -- a message whose only payload is the one that was read
  have hpayload : ∀ {m : SignalMessage} {w : Value}, w.normal S.number = w → m.payload? = some w →
      Kept S m := by
    intro m w hw hm v hv
    rw [hm] at hv
    exact Option.some.inj hv ▸ hw
  have hnone : ∀ {m : SignalMessage}, m.payload? = none → Kept S m := by
    intro m hm v hv
    rw [hm] at hv
    cases hv
  unfold ofValue
  refine .andThen fun tag => ?_
  split
  · exact .andThen fun _ => .andThen fun _ => .andThen fun _ => .andThen fun _ => .pure (hnone rfl)
  · exact .andThen fun _ => .andThen fun _ => (readPayload_yields S v _ _).bind fun _ hw =>
      .pure (hpayload hw rfl)
  · exact .andThen fun _ => .andThen fun _ => .andThen fun _ => .andThen fun _ => .andThen fun _ =>
      (readPayload_yields S v _ _).bind fun _ hw => .pure (hpayload hw rfl)
  · exact .andThen fun _ => .andThen fun _ => .andThen fun _ =>
      (readPayload_yields S v _ _).bind fun _ hw =>
        .andThen fun _ => .andThen fun _ => .pure (hpayload hw rfl)
  · exact .andThen fun _ => .andThen fun _ => .andThen fun _ =>
      (readPayload_yields S v _ _).bind fun _ hw => .pure (hpayload hw rfl)
  · exact .andThen fun _ => .andThen fun _ => .andThen fun _ =>
      (readPayload_yields S v _ _).bind fun _ hw => .pure (hpayload hw rfl)
  · exact .andThen fun _ => .andThen fun _ => .andThen fun _ => .pure (hnone rfl)
  · exact .andThen fun _ => .andThen fun _ => .andThen fun _ => .andThen fun _ => .pure (hnone rfl)
  · exact .andThen fun _ => .andThen fun _ => .andThen fun _ => .andThen fun _ => .andThen fun _ =>
      .pure (hnone rfl)
  · exact .andThen fun _ => .andThen fun _ => .andThen fun _ => .andThen fun _ => .pure (hnone rfl)
  · exact .andThen fun _ => .andThen fun _ => .andThen fun _ => .andThen fun _ => .pure (hnone rfl)
  · exact .andThen fun _ => .andThen fun _ => .andThen fun _ => .pure (hnone rfl)
  · exact .andThen fun _ => .andThen fun _ => .andThen fun _ => .pure (hnone rfl)
  · exact .andThen fun _ => .andThen fun _ => .andThen fun _ => .andThen fun _ => .pure (hnone rfl)
  · exact .andThen fun _ => .andThen fun _ => .andThen fun _ =>
      (readPayload_yields S v _ _).bind fun _ hw => .pure (hpayload hw rfl)
  · exact .andThen fun _ => .andThen fun _ => .andThen fun _ => .pure (hnone rfl)
  · exact .error _

end SignalMessage

/-! ## Limits -/

/-- Bytes of a session description. -/
def maxSdpBytes : Nat := 64 * 1024

/-- Bytes of a candidate. -/
def maxIceCandidateBytes : Nat := 4 * 1024

/-- Bytes of a fingerprint signature. -/
def maxFingerprintSigBytes : Nat := 8 * 1024

/-- Bytes of an opaque payload, as it is written. -/
def maxOpaquePayloadBytes : Nat := 16 * 1024

/-- Why a message is not read. -/
inductive ProtocolError where
  | json (detail : String)
  | payloadTooLarge (field : String) (len max : Nat)
  deriving Repr, DecidableEq

/-- The limit of a field. -/
def checkLen (field : String) (len max : Nat) : Except ProtocolError Unit :=
  if max < len then .error (.payloadTooLarge field len max) else .ok ()

/-- The limit of a string. -/
def checkStr (field value : String) (max : Nat) : Except ProtocolError Unit :=
  checkLen field value.utf8ByteSize max

/-- The limit of an opaque payload. -/
def checkJsonValue (field : String) (value : Value) : Except ProtocolError Unit :=
  checkLen field value.write.length maxOpaquePayloadBytes

/-- Check the fields of a message that have a limit. -/
def validateMessageLimits : SignalMessage → Except ProtocolError Unit
  | .hello .. | .helloOk .. | .sessionAccept .. | .sessionReject .. | .mediaRestart ..
  | .renegotiate .. | .sessionEnd .. | .error .. => .ok ()
  | .sessionIntent _ _ _ _ prefilter => checkJsonValue "prefilter" prefilter
  | .sessionIncoming _ _ viewerInfo _ _ => checkJsonValue "viewer_info" viewerInfo
  | .authChallenge _ _ payload | .authResponse _ _ payload | .stats _ _ payload =>
    checkJsonValue "payload" payload
  | .sessionOffer _ _ sdp fingerprintSig => do
    checkStr "sdp" sdp maxSdpBytes
    checkStr "fingerprint_sig" fingerprintSig maxFingerprintSigBytes
  | .sessionAnswer _ _ sdp => checkStr "sdp" sdp maxSdpBytes
  | .iceCandidate _ _ candidate => checkStr "candidate" candidate.candidate maxIceCandidateBytes

/-! ## Texts -/

/-- The text of a message. -/
def encodeMessage (m : SignalMessage) : Bytes := m.toValue.write

/-- A message from its text, within the limits. -/
def decodeMessage (S : Serde) (s : Bytes) : Except ProtocolError SignalMessage :=
  match S.parse s >>= SignalMessage.ofValue S with
  | .error e => .error (.json e)
  | .ok m => do
    validateMessageLimits m
    return m

/-- A message that was read keeps its payload and is within the limits. -/
theorem decodeMessage_ok {S : Serde} {s : Bytes} {m : SignalMessage}
    (h : decodeMessage S s = .ok m) : m.Kept S ∧ validateMessageLimits m = .ok () := by
  unfold decodeMessage at h
  cases hread : S.parse s >>= SignalMessage.ofValue S with
  | error e =>
    rw [hread] at h
    cases h
  | ok n =>
    rw [hread] at h
    have hkept : Yields (SignalMessage.Kept S) (S.parse s >>= SignalMessage.ofValue S) :=
      .andThen fun v => SignalMessage.ofValue_kept S v
    cases hlimits : validateMessageLimits n with
    | error e =>
      simp only [hlimits] at h
      cases h
    | ok u =>
      simp only [hlimits] at h
      obtain rfl : n = m := Except.ok.inj h
      exact ⟨hkept.get hread, hlimits⟩

/-- The text of a message is read as the message, unless a field is over its limit. -/
theorem decodeMessage_encodeMessage (S : Serde) {m : SignalMessage} (hkept : m.Kept S)
    (hreads : S.parse (encodeMessage m) = .ok m.toValue) :
    decodeMessage S (encodeMessage m) = (validateMessageLimits m).map fun _ => m := by
  have hread : (S.parse (encodeMessage m) >>= SignalMessage.ofValue S) = .ok m := by
    rw [hreads]
    exact SignalMessage.ofValue_toValue S hkept
  unfold decodeMessage
  rw [hread]
  rfl

/-- Statistics of a session. -/
def statsMessage : SignalMessage := .stats "s-1" 7 (.object [("rtt", .number "4")])

/-- The statistics with the members in another order, an unknown one and one that is given twice. -/
def reorderedStats : Value :=
  .object [("payload", .object [("rtt", .null), ("rtt", .number "4")]), ("signal_seq", .number "7"),
    ("extra", .bool true), ("session_id", .string "s-1"), ("type", .string "stats")]

/-- A reader of the two texts of the statistics. -/
def statsSerde : Serde where
  parse b := if b = reorderedStats.write then .ok reorderedStats else .ok statsMessage.toValue
  number := id
  number_number _ := rfl

end RemoteLink.Protocol
