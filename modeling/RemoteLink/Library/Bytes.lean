import Mathlib.Data.List.Basic
import RemoteLink.Library.Text

set_option autoImplicit false

/-!
# Byte strings

UTF-8, length-prefixed fields and hexadecimal digits, on lists of bytes.

## Main definitions

* `utf8`, `fromUtf8` — the bytes of a string and back.
* `fields` — byte strings in sequence, each behind its length as a big-endian 32-bit word.
* `be`, `ofBe` — numbers of any width, most significant byte first.
* `fromUtf8Lossy` — the string of any bytes, with a mark in place of what is not valid.
* `bytesToHex`, `hexToBytes` — lowercase digits, and digits of either case back.

## Main results

* `fromUtf8_utf8` — the bytes of a string decode to it.
* `fields_injective` — a sequence of fields can be read back from its encoding.
* `hexToBytes_bytesToHex` — the digits of a byte string decode to it.
-/

namespace RemoteLink.Library

/-- A byte string. -/
abbrev Bytes := List UInt8

/-! ## UTF-8 -/

/-- The UTF-8 bytes of a string. -/
def utf8 (s : String) : Bytes := s.toByteArray.data.toList

/-- The string with the given UTF-8 bytes, if they are valid. -/
def fromUtf8 (data : Bytes) : Option String := String.fromUTF8? ⟨data.toArray⟩

/-- The bytes of a string decode to it. -/
@[simp] theorem fromUtf8_utf8 (s : String) : fromUtf8 (utf8 s) = some s := by
  exact dif_pos s.isValidUTF8

/-- Strings with the same bytes are equal. -/
theorem utf8_injective {s t : String} (h : utf8 s = utf8 t) : s = t :=
  Option.some.inj (by rw [← fromUtf8_utf8 s, h, fromUtf8_utf8])

/-- An ASCII character is its own byte. -/
theorem utf8EncodeChar_ascii {c : Char} (h : c.toNat < 128) :
    String.utf8EncodeChar c = [UInt8.ofNat c.toNat] := by
  have hsize : c.utf8Size = 1 := by
    rw [Char.utf8Size_eq_one_iff, UInt32.le_iff_toNat_le]
    exact Nat.le_of_lt_succ h
  rw [String.utf8EncodeChar_eq_singleton hsize]
  rfl

/-- The bytes of an ASCII text. -/
theorem utf8_ofList_ascii {cs : List Char} (h : ∀ c ∈ cs, c.toNat < 128) :
    utf8 (String.ofList cs) = cs.map fun c => UInt8.ofNat c.toNat := by
  have hflat : utf8 (String.ofList cs) = cs.flatMap String.utf8EncodeChar := by
    simp [utf8, List.utf8Encode]
  rw [hflat]
  clear hflat
  induction cs with
  | nil => rfl
  | cons c cs ih =>
    have hc : String.utf8EncodeChar c = [UInt8.ofNat c.toNat] :=
      utf8EncodeChar_ascii (h c (by simp))
    simp [hc, ih fun d hd => h d (by simp [hd])]

/-- Whether a byte continues a character of several bytes. -/
def isContinuation (b : UInt8) : Bool := decide (128 ≤ b) && decide (b ≤ 191)

/-- Whether a byte may follow the first byte of a character of three or four bytes: some values
would spell a shorter character, a surrogate or a number that is too large. -/
def continues (first b : UInt8) : Bool :=
  match first.toNat with
  | 224 => decide (160 ≤ b) && decide (b ≤ 191)
  | 237 => decide (128 ≤ b) && decide (b ≤ 159)
  | 240 => decide (144 ≤ b) && decide (b ≤ 191)
  | 244 => decide (128 ≤ b) && decide (b ≤ 143)
  | _ => isContinuation b

/-- The low six bits of a byte. -/
def low6 (b : UInt8) : Nat := b.toNat % 64

/-- What stands for bytes that are not valid. -/
def replacementChar : Char := Char.ofNat 65533

/-- The next character, and how many bytes it takes; the longest start of a character that breaks
off is replaced as a whole. -/
def nextChar (first : UInt8) (rest : Bytes) : Char × Nat :=
  let n := first.toNat
  if n < 128 then (Char.ofNat n, 1)
  else if 194 ≤ n ∧ n ≤ 223 then
    match rest with
    | b :: _ =>
      if isContinuation b then (Char.ofNat ((n - 192) * 64 + low6 b), 2) else (replacementChar, 1)
    | [] => (replacementChar, 1)
  else if 224 ≤ n ∧ n ≤ 239 then
    match rest with
    | b :: c :: _ =>
      if ¬continues first b then (replacementChar, 1)
      else if ¬isContinuation c then (replacementChar, 2)
      else (Char.ofNat ((n - 224) * 4096 + low6 b * 64 + low6 c), 3)
    | [b] => (replacementChar, if continues first b then 2 else 1)
    | [] => (replacementChar, 1)
  else if 240 ≤ n ∧ n ≤ 244 then
    match rest with
    | b :: c :: d :: _ =>
      if ¬continues first b then (replacementChar, 1)
      else if ¬isContinuation c then (replacementChar, 2)
      else if ¬isContinuation d then (replacementChar, 3)
      else (Char.ofNat ((n - 240) * 262144 + low6 b * 4096 + low6 c * 64 + low6 d), 4)
    | [b, c] =>
      (replacementChar, if ¬continues first b then 1 else if ¬isContinuation c then 2 else 3)
    | [b] => (replacementChar, if continues first b then 2 else 1)
    | [] => (replacementChar, 1)
  else (replacementChar, 1)

/-- Characters of any bytes; `skip` bytes belong to the character before. -/
def lossyChars (skip : Nat) : Bytes → List Char
  | [] => []
  | b :: rest =>
    match skip with
    | skip + 1 => lossyChars skip rest
    | 0 =>
      let (c, width) := nextChar b rest
      c :: lossyChars (width - 1) rest

/-- The string of any bytes. -/
def fromUtf8Lossy (data : Bytes) : String :=
  (fromUtf8 data).getD (String.ofList (lossyChars 0 data))

/-! ## Numbers -/

/-- The last `k` bytes of a number, most significant first. -/
def be : Nat → Nat → Bytes
  | 0, _ => []
  | k + 1, n => be k (n / 256) ++ [UInt8.ofNat n]

/-- The number that bytes spell, most significant first. -/
def ofBe (bytes : Bytes) : Nat := bytes.foldl (fun n b => n * 256 + b.toNat) 0

/-- The number of values of `k` bytes. -/
def byteValues : Nat → Nat
  | 0 => 1
  | k + 1 => 256 * byteValues k

@[simp] theorem length_be (k n : Nat) : (be k n).length = k := by
  induction k generalizing n with
  | zero => rfl
  | succ k ih => simp [be, ih]

/-- **Bytes of a number spell it**, as far as they reach. -/
theorem ofBe_be (k n : Nat) : ofBe (be k n) = n % byteValues k := by
  induction k generalizing n with
  | zero => exact (Nat.mod_one n).symm
  | succ k ih =>
    have hsplit : ofBe (be (k + 1) n) = ofBe (be k (n / 256)) * 256 + n % 256 := by
      simp [be, ofBe, List.foldl_append]
    rw [hsplit, ih, byteValues, Nat.mod_mul]
    omega

/-! ## Length-prefixed fields -/

/-- The number of values of 32 bits. -/
def u32Size : Nat := 4294967296

/-- A number below `u32Size` as four bytes, most significant first. -/
def be32 (n : Nat) : Bytes :=
  [UInt8.ofNat (n / 16777216), UInt8.ofNat (n / 65536), UInt8.ofNat (n / 256), UInt8.ofNat n]

/-- One field: its length, then its bytes. The length is below `u32Size`. -/
def field (f : Bytes) : Bytes := be32 f.length ++ f

/-- A sequence of fields. -/
def fields (fs : List Bytes) : Bytes := fs.flatMap field

theorem be32_injective {m n : Nat} (hm : m < u32Size) (hn : n < u32Size) (h : be32 m = be32 n) :
    m = n := by
  simp only [be32, List.cons.injEq, and_true, ← UInt8.toNat_inj, UInt8.toNat_ofNat'] at h
  unfold u32Size at hm hn
  omega

/-- Four bytes of a number spell it. -/
theorem ofBe_be32 {n : Nat} (h : n < u32Size) : ofBe (be32 n) = n := by
  have hbe : be32 n = be 4 n := by
    simp [be32, be, Nat.div_div_eq_div_mul]
  rw [hbe, ofBe_be]
  exact Nat.mod_eq_of_lt h

/-- A field and what follows it can be told apart. -/
theorem field_append_inj {f g r s : Bytes} (hf : f.length < u32Size) (hg : g.length < u32Size)
    (h : field f ++ r = field g ++ s) : f = g ∧ r = s := by
  simp only [field, List.append_assoc] at h
  obtain ⟨hlen, hrest⟩ := List.append_inj h rfl
  exact List.append_inj hrest (be32_injective hf hg hlen)

/-- **Fields can be read back**: as many fields with the same encoding are the same fields. -/
theorem fields_injective {fs gs : List Bytes} (hf : ∀ f ∈ fs, f.length < u32Size)
    (hg : ∀ g ∈ gs, g.length < u32Size) (hlen : fs.length = gs.length)
    (h : fields fs = fields gs) : fs = gs := by
  induction fs generalizing gs with
  | nil => exact (List.length_eq_zero_iff.mp hlen.symm).symm
  | cons f fs ih =>
    obtain _ | ⟨g, gs⟩ := gs
    · simp at hlen
    · simp only [fields, List.flatMap_cons] at h
      obtain ⟨hfg, hrest⟩ := field_append_inj (hf f (by simp)) (hg g (by simp)) h
      have htail : fs = gs :=
        ih (fun f' h' => hf f' (by simp [h'])) (fun g' h' => hg g' (by simp [h']))
          (by simpa using hlen) hrest
      rw [hfg, htail]

/-! ## Hexadecimal -/

/-- The lowercase digit of a number below 16. -/
def hexDigit (n : Nat) : Char := Char.ofNat (if n < 10 then 48 + n else 87 + n)

/-- The digits of a byte string, as characters. -/
def hexDigits (bytes : Bytes) : List Char :=
  bytes.flatMap fun b => [hexDigit (b.toNat / 16), hexDigit (b.toNat % 16)]

/-- Encode bytes as lowercase digits. -/
def bytesToHex (bytes : Bytes) : String := String.ofList (hexDigits bytes)

/-- The number of a digit of either case. -/
def hexNibble (c : UInt8) : Except String Nat :=
  let n := c.toNat
  if 48 ≤ n ∧ n ≤ 57 then .ok (n - 48)
  else if 97 ≤ n ∧ n ≤ 102 then .ok (n - 97 + 10)
  else if 65 ≤ n ∧ n ≤ 70 then .ok (n - 65 + 10)
  else .error s!"invalid hex digit {Char.ofNat n}"

/-- Decode pairs of digits. -/
def hexPairs : Bytes → Except String Bytes
  | hi :: lo :: rest => do
    let h ← hexNibble hi
    let l ← hexNibble lo
    return UInt8.ofNat (16 * h + l) :: (← hexPairs rest)
  | _ => .ok []

/-- Decode digits of either case, surrounding white space ignored. -/
def hexToBytes (hex : String) : Except String Bytes :=
  let bytes := utf8 (Text.trim hex)
  if bytes.length % 2 ≠ 0 then .error "odd hex length" else hexPairs bytes

theorem hexDigit_toNat {n : Nat} (h : n < 16) :
    (hexDigit n).toNat = if n < 10 then 48 + n else 87 + n := by
  revert n
  decide

theorem isWhitespace_hexDigit {n : Nat} (h : n < 16) :
    Text.isWhitespace (hexDigit n) = false := by
  revert n
  decide

theorem hexNibble_hexDigit {n : Nat} (h : n < 16) :
    hexNibble (UInt8.ofNat (hexDigit n).toNat) = .ok n := by
  revert n
  decide

/-- What the digits of a byte string have in common. -/
theorem mem_hexDigits {bytes : Bytes} {c : Char} (h : c ∈ hexDigits bytes) :
    ∃ n < 16, c = hexDigit n := by
  simp only [hexDigits, List.mem_flatMap, List.mem_cons, List.not_mem_nil, or_false] at h
  obtain ⟨b, -, rfl | rfl⟩ := h
  · exact ⟨_, by have := b.toNat_lt; omega, rfl⟩
  · exact ⟨_, Nat.mod_lt _ (by omega), rfl⟩

theorem hexDigits_ascii {bytes : Bytes} {c : Char} (h : c ∈ hexDigits bytes) :
    c.toNat < 128 := by
  obtain ⟨n, hn, rfl⟩ := mem_hexDigits h
  rw [hexDigit_toNat hn]
  split <;> omega

@[simp] theorem length_hexDigits (bytes : Bytes) :
    (hexDigits bytes).length = 2 * bytes.length := by
  induction bytes with
  | nil => rfl
  | cons b bytes ih =>
    simp only [hexDigits, List.flatMap_cons, List.length_append, List.length_cons,
      List.length_nil] at ih ⊢
    omega

theorem hexPairs_hexDigits (bytes : Bytes) :
    hexPairs ((hexDigits bytes).map fun c => UInt8.ofNat c.toNat) = .ok bytes := by
  induction bytes with
  | nil => rfl
  | cons b bytes ih =>
    have hlt : b.toNat < 256 := b.toNat_lt
    have hhi : b.toNat / 16 < 16 := by omega
    have hlo : b.toNat % 16 < 16 := by omega
    have hb : UInt8.ofNat (16 * (b.toNat / 16) + b.toNat % 16) = b := by
      rw [Nat.div_add_mod, UInt8.ofNat_toNat]
    simp only [hexDigits, List.flatMap_cons, List.map_cons, List.cons_append, List.nil_append,
      hexPairs, hexNibble_hexDigit hhi, hexNibble_hexDigit hlo] at ih ⊢
    rw [ih]
    simp only [bind, Except.bind, pure, Except.pure, hb]

/-- **Hexadecimal round trip**: the digits of a byte string decode to it. -/
theorem hexToBytes_bytesToHex (bytes : Bytes) : hexToBytes (bytesToHex bytes) = .ok bytes := by
  have htrim : Text.trim (bytesToHex bytes) = bytesToHex bytes := by
    refine Text.trim_of_all fun c hc => ?_
    obtain ⟨n, hn, rfl⟩ := mem_hexDigits (by simpa [bytesToHex] using hc)
    exact isWhitespace_hexDigit hn
  have hbytes : utf8 (bytesToHex bytes) = (hexDigits bytes).map fun c => UInt8.ofNat c.toNat :=
    utf8_ofList_ascii fun c hc => hexDigits_ascii hc
  simp only [hexToBytes, htrim, hbytes, List.length_map, length_hexDigits]
  rw [if_neg (by omega), hexPairs_hexDigits]

end RemoteLink.Library
