import RemoteLink.Library.Text
import RemoteLink.Library.Bytes

set_option autoImplicit false

/-!
# Base 64

Texts of base 64 in the two common alphabets, with and without padding. Decoding is strict: the
padding is there exactly when the engine pads, and the bits that no byte uses are zero. So decoding
is the exact inverse of encoding, and texts of any two engines agree on the bytes they stand for.

## Main definitions

* `Base64Engine` — an alphabet, and whether the text is padded.
* `sextets`, `ofSextets` — bytes as numbers of six bits, and back.
* `Base64Engine.encode`, `Base64Engine.decode` — the text of a byte string, and the bytes of a text.

## Main results

* `Base64Engine.decode_eq_some_iff` — a text decodes to a byte string exactly when it is its text.
* `Base64Engine.encode_injective` — equal texts of two engines have equal bytes.
-/

namespace RemoteLink.Library

/-- An alphabet of base 64. -/
inductive Base64Alphabet where
  | standard
  | urlSafe
  deriving Repr, DecidableEq

/-- An alphabet, and whether texts are padded to groups of four. -/
structure Base64Engine where
  alphabet : Base64Alphabet
  padded : Bool
  deriving Repr, DecidableEq

namespace Base64Engine

def standard : Base64Engine := ⟨.standard, true⟩

def standardNoPad : Base64Engine := ⟨.standard, false⟩

def urlSafe : Base64Engine := ⟨.urlSafe, true⟩

def urlSafeNoPad : Base64Engine := ⟨.urlSafe, false⟩

end Base64Engine

/-! ## Sextets -/

/-- The numbers of six bits in a byte string. -/
def sextets : Bytes → List Nat
  | [] => []
  | [x] => [x.toNat / 4, x.toNat % 4 * 16]
  | [x, y] => [x.toNat / 4, x.toNat % 4 * 16 + y.toNat / 16, y.toNat % 16 * 4]
  | x :: y :: z :: rest =>
    x.toNat / 4 :: (x.toNat % 4 * 16 + y.toNat / 16) :: (y.toNat % 16 * 4 + z.toNat / 64) ::
      z.toNat % 64 :: sextets rest

/-- The bytes of numbers of six bits; the bits that no byte uses are zero. -/
def ofSextets : List Nat → Option Bytes
  | [] => some []
  | [_] => none
  | [a, b] => if b % 16 = 0 then some [UInt8.ofNat (a * 4 + b / 16)] else none
  | [a, b, c] =>
    if c % 4 = 0 then some [UInt8.ofNat (a * 4 + b / 16), UInt8.ofNat (b % 16 * 16 + c / 4)]
    else none
  | a :: b :: c :: d :: rest =>
    (ofSextets rest).map fun bytes =>
      UInt8.ofNat (a * 4 + b / 16) :: UInt8.ofNat (b % 16 * 16 + c / 4) ::
        UInt8.ofNat (c % 4 * 64 + d) :: bytes

theorem sextets_lt (bytes : Bytes) : ∀ n ∈ sextets bytes, n < 64 := by
  induction bytes using sextets.induct with
  | case1 => exact fun n hn => absurd hn List.not_mem_nil
  | case2 x =>
    have hx := x.toNat_lt
    simp only [sextets, List.forall_mem_cons]
    exact ⟨by omega, by omega, List.forall_mem_nil _⟩
  | case3 x y =>
    have hx := x.toNat_lt
    have hy := y.toNat_lt
    simp only [sextets, List.forall_mem_cons]
    exact ⟨by omega, by omega, by omega, List.forall_mem_nil _⟩
  | case4 x y z rest ih =>
    have hx := x.toNat_lt
    have hy := y.toNat_lt
    have hz := z.toNat_lt
    simp only [sextets, List.forall_mem_cons]
    exact ⟨by omega, by omega, by omega, by omega, ih⟩

/-- A byte is determined by its value. -/
theorem ofNat_eq_byte {n : Nat} {x : UInt8} (h : n = x.toNat) : UInt8.ofNat n = x := by
  rw [h, UInt8.ofNat_toNat]

/-- The sextets of a byte string give it back. -/
theorem ofSextets_sextets (bytes : Bytes) : ofSextets (sextets bytes) = some bytes := by
  induction bytes using sextets.induct with
  | case1 => rfl
  | case2 x =>
    have hx : UInt8.ofNat (x.toNat / 4 * 4 + x.toNat % 4 * 16 / 16) = x := ofNat_eq_byte (by omega)
    rw [sextets, ofSextets, if_pos (by omega), hx]
  | case3 x y =>
    have hlt := y.toNat_lt
    have hx : UInt8.ofNat (x.toNat / 4 * 4 + (x.toNat % 4 * 16 + y.toNat / 16) / 16) = x :=
      ofNat_eq_byte (by omega)
    have hy : UInt8.ofNat ((x.toNat % 4 * 16 + y.toNat / 16) % 16 * 16 + y.toNat % 16 * 4 / 4) =
        y := ofNat_eq_byte (by omega)
    rw [sextets, ofSextets, if_pos (by omega), hx, hy]
  | case4 x y z rest ih =>
    have hylt := y.toNat_lt
    have hzlt := z.toNat_lt
    have hx : UInt8.ofNat (x.toNat / 4 * 4 + (x.toNat % 4 * 16 + y.toNat / 16) / 16) = x :=
      ofNat_eq_byte (by omega)
    have hy : UInt8.ofNat ((x.toNat % 4 * 16 + y.toNat / 16) % 16 * 16 +
        (y.toNat % 16 * 4 + z.toNat / 64) / 4) = y := ofNat_eq_byte (by omega)
    have hz : UInt8.ofNat ((y.toNat % 16 * 4 + z.toNat / 64) % 4 * 64 + z.toNat % 64) = z :=
      ofNat_eq_byte (by omega)
    rw [sextets, ofSextets, ih, Option.map_some, hx, hy, hz]

/-- Numbers of six bits that have bytes are the sextets of them. -/
theorem sextets_ofSextets {ns : List Nat} {bytes : Bytes} (hlt : ∀ n ∈ ns, n < 64)
    (h : ofSextets ns = some bytes) : sextets bytes = ns := by
  induction ns using ofSextets.induct generalizing bytes with
  | case1 =>
    obtain rfl := Option.some.inj h
    rfl
  | case2 a => cases h
  | case3 a b hzero =>
    simp only [List.forall_mem_cons] at hlt
    rw [ofSextets, if_pos hzero] at h
    obtain rfl := Option.some.inj h
    rw [sextets, UInt8.toNat_ofNat_of_lt' (by show _ < 256; omega)]
    congr 1
    · omega
    · congr 1
      omega
  | case4 a b hzero =>
    rw [ofSextets, if_neg hzero] at h
    cases h
  | case5 a b c hzero =>
    simp only [List.forall_mem_cons] at hlt
    rw [ofSextets, if_pos hzero] at h
    obtain rfl := Option.some.inj h
    rw [sextets, UInt8.toNat_ofNat_of_lt' (by show _ < 256; omega),
      UInt8.toNat_ofNat_of_lt' (by show _ < 256; omega)]
    congr 1
    · omega
    · congr 1
      · omega
      · congr 1
        omega
  | case6 a b c hzero =>
    rw [ofSextets, if_neg hzero] at h
    cases h
  | case7 a b c d rest ih =>
    simp only [List.forall_mem_cons] at hlt
    rw [ofSextets] at h
    obtain ⟨tail, htail, rfl⟩ := Option.map_eq_some_iff.mp h
    rw [sextets, ih hlt.2.2.2.2 htail, UInt8.toNat_ofNat_of_lt' (by show _ < 256; omega),
      UInt8.toNat_ofNat_of_lt' (by show _ < 256; omega),
      UInt8.toNat_ofNat_of_lt' (by show _ < 256; omega)]
    congr 1
    · omega
    · congr 1
      · omega
      · congr 1
        · omega
        · congr 1
          omega

/-! ## Characters -/

namespace Base64Alphabet

/-- The character of a sextet. -/
def char (a : Base64Alphabet) (n : Nat) : Char :=
  if n < 26 then Char.ofNat (65 + n)
  else if n < 52 then Char.ofNat (71 + n)
  else if n < 62 then Char.ofNat (n - 4)
  else match a with
    | .standard => if n = 62 then '+' else '/'
    | .urlSafe => if n = 62 then '-' else '_'

/-- The sextet of a character. -/
def value (a : Base64Alphabet) (c : Char) : Option Nat :=
  (List.range 64).find? fun n => a.char n == c

theorem value_spec {a : Base64Alphabet} {c : Char} {n : Nat} (h : a.value c = some n) :
    n < 64 ∧ a.char n = c := by
  rw [value] at h
  have hchar := List.find?_some h
  exact ⟨List.mem_range.mp (List.mem_of_find?_eq_some h), beq_iff_eq.mp hchar⟩

/-- Characters of two alphabets are equal for equal sextets only. -/
theorem char_inj (a b : Base64Alphabet) :
    ∀ m < 64, ∀ n < 64, a.char m = b.char n → m = n := by
  cases a <;> cases b <;> decide +kernel

/-- No character is the padding. -/
theorem char_ne_pad (a : Base64Alphabet) : ∀ n < 64, a.char n ≠ '=' := by
  cases a <;> decide

/-- No character is white space. -/
theorem char_not_whitespace (a : Base64Alphabet) :
    ∀ n < 64, Text.isWhitespace (a.char n) = false := by
  cases a <;> decide

theorem value_eq_some_iff {a : Base64Alphabet} {c : Char} {n : Nat} :
    a.value c = some n ↔ n < 64 ∧ a.char n = c := by
  constructor
  · exact value_spec
  · rintro ⟨hlt, rfl⟩
    cases hfind : a.value (a.char n) with
    | none =>
      have hnone := List.find?_eq_none.mp hfind n (List.mem_range.mpr hlt)
      exact absurd (beq_self_eq_true _) hnone
    | some m =>
      obtain ⟨hm, hchar⟩ := value_spec hfind
      rw [char_inj a a m hm n hlt hchar]

/-- A list of characters has sextets exactly when it is their characters. -/
theorem mapM_value_eq_some_iff {a : Base64Alphabet} {cs : List Char} {ns : List Nat} :
    cs.mapM a.value = some ns ↔ (∀ n ∈ ns, n < 64) ∧ cs = ns.map a.char := by
  induction cs generalizing ns with
  | nil =>
    constructor
    · intro h
      obtain rfl : [] = ns := Option.some.inj h
      exact ⟨List.forall_mem_nil _, rfl⟩
    · rintro ⟨-, h⟩
      obtain rfl := List.map_eq_nil_iff.mp h.symm
      rfl
  | cons c cs ih =>
    rw [List.mapM_cons]
    constructor
    · intro h
      obtain ⟨n, hn, h⟩ := Option.bind_eq_some_iff.mp h
      obtain ⟨tail, htail, h⟩ := Option.bind_eq_some_iff.mp h
      obtain rfl : n :: tail = ns := Option.some.inj h
      obtain ⟨hlt, rfl⟩ := value_eq_some_iff.mp hn
      obtain ⟨hlts, rfl⟩ := ih.mp htail
      exact ⟨List.forall_mem_cons.mpr ⟨hlt, hlts⟩, rfl⟩
    · rintro ⟨hlts, h⟩
      cases ns with
      | nil => cases h
      | cons n tail =>
        obtain ⟨rfl, hcs⟩ := List.cons.inj h
        obtain ⟨hlt, htail⟩ := List.forall_mem_cons.mp hlts
        rw [value_eq_some_iff.mpr ⟨hlt, rfl⟩, ih.mpr ⟨htail, hcs⟩]
        rfl

end Base64Alphabet

/-! ## Texts -/

namespace Base64Engine

/-- The padding behind `n` characters. -/
def padding (e : Base64Engine) (n : Nat) : List Char :=
  if e.padded then List.replicate ((4 - n % 4) % 4) '=' else []

/-- The text of a byte string. -/
def encode (e : Base64Engine) (bytes : Bytes) : String :=
  String.ofList ((sextets bytes).map e.alphabet.char ++ e.padding (sextets bytes).length)

/-- The bytes of a text: characters of the alphabet up to the first padding, and then the padding
that they need. -/
def decode (e : Base64Engine) (text : String) : Option Bytes :=
  let body := text.toList.takeWhile (· != '=')
  if text.toList.dropWhile (· != '=') = e.padding body.length then
    (body.mapM e.alphabet.value).bind ofSextets
  else none

variable {e : Base64Engine} {bytes : Bytes}

theorem dropWhile_padding (e : Base64Engine) (n : Nat) :
    (e.padding n).dropWhile (· != '=') = e.padding n ∧ (e.padding n).takeWhile (· != '=') = [] := by
  rw [padding]
  split_ifs
  · generalize (4 - n % 4) % 4 = k
    cases k with
    | zero => exact ⟨rfl, rfl⟩
    | succ k => exact ⟨rfl, rfl⟩
  · exact ⟨rfl, rfl⟩

/-- The characters of a byte string are told from the padding. -/
theorem split_encode (e : Base64Engine) (bytes : Bytes) :
    (e.encode bytes).toList.takeWhile (· != '=') = (sextets bytes).map e.alphabet.char ∧
      (e.encode bytes).toList.dropWhile (· != '=') = e.padding (sextets bytes).length := by
  have hbody : ∀ c ∈ (sextets bytes).map e.alphabet.char, (c != '=') = true := by
    intro c hc
    obtain ⟨n, hn, rfl⟩ := List.mem_map.mp hc
    exact bne_iff_ne.mpr (e.alphabet.char_ne_pad n (sextets_lt bytes n hn))
  obtain ⟨hdrop, htake⟩ := dropWhile_padding e (sextets bytes).length
  rw [encode, String.toList_ofList, List.takeWhile_append_of_pos hbody,
    List.dropWhile_append_of_pos hbody, hdrop, htake, List.append_nil]
  exact ⟨rfl, rfl⟩

/-- **Decoding is the inverse of encoding**: a text decodes to a byte string exactly when it is its
text. -/
theorem decode_eq_some_iff {text : String} :
    e.decode text = some bytes ↔ text = e.encode bytes := by
  constructor
  · intro h
    rw [decode] at h
    split_ifs at h with hpad
    obtain ⟨ns, hns, hbytes⟩ := Option.bind_eq_some_iff.mp h
    obtain ⟨hlt, hbody⟩ := Base64Alphabet.mapM_value_eq_some_iff.mp hns
    have hsextets := sextets_ofSextets hlt hbytes
    have hlength : (text.toList.takeWhile (· != '=')).length = ns.length := by
      rw [hbody, List.length_map]
    have htext := List.takeWhile_append_dropWhile (p := (· != '=')) (l := text.toList)
    rw [hpad, hlength, hbody] at htext
    rw [encode, hsextets, htext, String.ofList_toList]
  · rintro rfl
    obtain ⟨htake, hdrop⟩ := split_encode e bytes
    rw [decode, htake, hdrop, List.length_map, if_pos rfl,
      Base64Alphabet.mapM_value_eq_some_iff.mpr ⟨sextets_lt bytes, rfl⟩]
    exact ofSextets_sextets bytes

theorem decode_encode (e : Base64Engine) (bytes : Bytes) : e.decode (e.encode bytes) = some bytes :=
  decode_eq_some_iff.mpr rfl

/-- **Two engines agree on what a text stands for.** -/
theorem encode_injective {f : Base64Engine} {bytes' : Bytes}
    (h : e.encode bytes = f.encode bytes') : bytes = bytes' := by
  obtain ⟨htake, -⟩ := split_encode e bytes
  obtain ⟨htake', -⟩ := split_encode f bytes'
  rw [h, htake'] at htake
  have hsextets : sextets bytes' = sextets bytes := by
    refine List.ext_getElem (by simpa using congrArg List.length htake) fun i hi hi' => ?_
    have hchar := List.getElem_of_eq htake (by simpa using hi)
    rw [List.getElem_map, List.getElem_map] at hchar
    exact Base64Alphabet.char_inj _ _ _ (sextets_lt _ _ (List.getElem_mem hi)) _
      (sextets_lt _ _ (List.getElem_mem hi')) hchar
  have hbytes := ofSextets_sextets bytes'
  rw [hsextets, ofSextets_sextets] at hbytes
  exact Option.some.inj hbytes

/-- A text of base 64 has no white space. -/
theorem trim_encode (e : Base64Engine) (bytes : Bytes) :
    Text.trim (e.encode bytes) = e.encode bytes := by
  refine Text.trim_of_all fun c hc => ?_
  rw [encode, String.toList_ofList] at hc
  rcases List.mem_append.mp hc with hc | hc
  · obtain ⟨n, hn, rfl⟩ := List.mem_map.mp hc
    exact e.alphabet.char_not_whitespace n (sextets_lt bytes n hn)
  · rw [padding] at hc
    split_ifs at hc
    · obtain rfl := List.eq_of_mem_replicate hc
      decide
    · exact absurd hc List.not_mem_nil

end Base64Engine

end RemoteLink.Library
