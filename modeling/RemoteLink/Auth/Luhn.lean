import RemoteLink.Auth.DeviceId
import RemoteLink.Library.Bytes
import RemoteLink.Library.CheckDigit
import RemoteLink.Media.JitterBuffer

set_option autoImplicit false

/-!
# The check digit

The check digit of a public id is computed from the right end of the body, and checked from the
right end of the whole. Both functions take strings of any length and add in 32 bits: a sum that
does not fit is a panic in a build that checks for overflow, and wraps in one that does not.

## Main definitions

* `luhnCheckDigit`, `validateLuhnIn` — compute the digit, and check it; `none` is a panic.
* `LuhnLaws` — what a check digit promises, for all strings of one length.

## Main results

* `luhnLoop_eq` — below the bound the sum is exact in every build.
* `luhn_laws_iff` — the promises hold up to a length, and ids are read back from their digits.
-/

namespace RemoteLink.Media

/-- An unsigned result of 32 bits. -/
def Overflow.u32 (o : Overflow) (x : ℕ) : Option ℕ :=
  if x < Library.u32Size then some x
  else
    match o with
    | .panics => none
    | .wraps => some (x % Library.u32Size)

end RemoteLink.Media

namespace RemoteLink.Auth

open Library
open Media (Overflow)

/-! ## The functions -/

/-- What a digit adds to the sum. -/
def luhnDigit (double : Bool) (c : Char) : ℕ :=
  let d := c.toNat - '0'.toNat
  if double then (if 9 < d * 2 then d * 2 - 9 else d * 2) else d

/-- The loop over the digits from the right, every second one doubled. -/
def luhnLoop (o : Overflow) (sum : ℕ) (double : Bool) : List Char → Option ℕ
  | [] => some sum
  | c :: cs => (o.u32 (sum + luhnDigit double c)).bind fun sum => luhnLoop o sum (!double) cs

/-- **The check digit of a body.** The last digit of the body is doubled. -/
def luhnCheckDigit (o : Overflow) (bodyDigits : List Char) : Option (Except String ℕ) :=
  if bodyDigits.isEmpty then some (.error "Luhn body must be non-empty")
  else if ¬bodyDigits.all (·.isDigit) then some (.error "Luhn body must be numeric digits only")
  else (luhnLoop o 0 true bodyDigits.reverse).map fun sum => .ok ((10 - sum % 10) % 10)

/-- **Whether a check digit is right.** The check digit itself is not doubled. -/
def validateLuhnIn (o : Overflow) (fullDigits : List Char) : Option Bool :=
  if fullDigits.isEmpty || !fullDigits.all (·.isDigit) then some false
  else (luhnLoop o 0 false fullDigits.reverse).map fun sum => sum % 10 == 0

/-! ## What a check digit promises -/

/-- The character of a digit. -/
def digitChar (d : ℕ) : Char := Char.ofNat (48 + d)

/-- Two digits that trade places unnoticed. -/
def ZeroNine (c d : Char) : Prop := (c = '0' ∧ d = '9') ∨ (c = '9' ∧ d = '0')

/-- The promises of the check digit, for bodies of `n` digits. -/
structure LuhnLaws (o : Overflow) (n : ℕ) : Prop where
  /-- A body followed by a digit is valid exactly when that is the computed digit. -/
  check : ∀ body c, body.length = n → body ≠ [] → (∀ d ∈ body, d.isDigit = true) →
    c.isDigit = true → ∃ digit, luhnCheckDigit o body = some (.ok digit) ∧
      validateLuhnIn o (body ++ [c]) = some (decide (c = digitChar digit))
  /-- A digit that is replaced by another one is noticed. -/
  substitution : ∀ before c d after, before.length + after.length = n → c ≠ d →
    (∀ e ∈ before ++ c :: d :: after, e.isDigit = true) →
    validateLuhnIn o (before ++ c :: after) = some true →
    validateLuhnIn o (before ++ d :: after) = some false
  /-- Neighbours that trade places are noticed, unless they are 0 and 9. -/
  transposition : ∀ before c d after, before.length + after.length + 1 = n → c ≠ d →
    ¬ZeroNine c d → (∀ e ∈ before ++ c :: d :: after, e.isDigit = true) →
    validateLuhnIn o (before ++ c :: d :: after) = some true →
    validateLuhnIn o (before ++ d :: c :: after) = some false

/-! ## Sums -/

variable {o : Overflow} {cs : List Char} {c d : Char} {double : Bool} {n : ℕ}

/-- The sum of an id is one with alternating weights. -/
theorem luhnSum_eq (double : Bool) (cs : List Char) :
    luhnSum double cs = altSum luhnDigit double cs := by
  induction cs generalizing double with
  | nil => rfl
  | cons c cs ih => rw [luhnSum, altSum, ih, luhnDigit]

/-- A digit adds at most nine. -/
theorem luhnDigit_le (hc : c.isDigit = true) (double : Bool) : luhnDigit double c ≤ 9 := by
  have hrange := DevicePublicId.toNat_of_isDigit hc
  have hzero : '0'.toNat = 48 := rfl
  simp only [luhnDigit, hzero]
  split_ifs <;> omega

/-- The sum of `n` digits is at most nine times as much. -/
theorem luhnSum_le (h : ∀ c ∈ cs, c.isDigit = true) (double : Bool) :
    luhnSum double cs ≤ 9 * cs.length := by
  rw [luhnSum_eq]
  exact altSum_le fun kind c hc => luhnDigit_le (h c hc) kind

/-- Digits that add the same up to ten are the same. -/
theorem eq_of_luhnDigit (hc : c.isDigit = true) (hd : d.isDigit = true)
    (h : luhnDigit double c ≡ luhnDigit double d [MOD 10]) : c = d := by
  have hcr := DevicePublicId.toNat_of_isDigit hc
  have hdr := DevicePublicId.toNat_of_isDigit hd
  have hzero : '0'.toNat = 48 := rfl
  have hsame : c.toNat = d.toNat := by
    simp only [Nat.ModEq, luhnDigit, hzero] at h
    cases double <;> simp only [if_true, Bool.false_eq_true, if_false] at h
    · omega
    · split_ifs at h <;> omega
  rw [← Char.ofNat_toNat c, hsame, Char.ofNat_toNat]

/-- Neighbours that add the same in both orders, up to ten, are the same or 0 and 9. -/
theorem eq_of_luhnDigit_swap (hc : c.isDigit = true) (hd : d.isDigit = true)
    (h : luhnDigit double c + luhnDigit (!double) d ≡
      luhnDigit double d + luhnDigit (!double) c [MOD 10]) : c = d ∨ ZeroNine c d := by
  have hcr := DevicePublicId.toNat_of_isDigit hc
  have hdr := DevicePublicId.toNat_of_isDigit hd
  have hzero : '0'.toNat = 48 := rfl
  have hchar : ∀ {e : Char} {k : ℕ}, e.toNat = k → e = Char.ofNat k := by
    rintro e k rfl
    exact (Char.ofNat_toNat e).symm
  have hcases : c.toNat = d.toNat ∨ (c.toNat = 48 ∧ d.toNat = 57) ∨
      (c.toNat = 57 ∧ d.toNat = 48) := by
    simp only [Nat.ModEq, luhnDigit, hzero] at h
    cases double <;>
      simp only [if_true, Bool.false_eq_true, if_false, Bool.not_true, Bool.not_false] at h <;>
      split_ifs at h <;> omega
  obtain hsame | ⟨hc0, hd9⟩ | ⟨hc9, hd0⟩ := hcases
  · exact Or.inl ((hchar hsame).trans (Char.ofNat_toNat d))
  · exact Or.inr (Or.inl ⟨hchar hc0, hchar hd9⟩)
  · exact Or.inr (Or.inr ⟨hchar hc9, hchar hd0⟩)

/-! ## Sums of 32 bits -/

/-- A result that fits is the result. -/
theorem u32_of_lt {x : ℕ} (h : x < u32Size) : o.u32 x = some x := if_pos h

/-- **Below the bound the sum is exact in every build.** -/
theorem luhnLoop_eq (sum : ℕ) (double : Bool) (h : sum + luhnSum double cs < u32Size) :
    luhnLoop o sum double cs = some (sum + luhnSum double cs) := by
  induction cs generalizing sum double with
  | nil => rfl
  | cons c cs ih =>
    have hsplit : luhnSum double (c :: cs) = luhnDigit double c + luhnSum (!double) cs := rfl
    rw [hsplit, ← Nat.add_assoc] at h ⊢
    rw [luhnLoop, u32_of_lt (by omega), Option.bind_some, ih _ _ h]

/-- A sum that does not fit is a panic where overflow is checked. -/
theorem luhnLoop_panics (sum : ℕ) (double : Bool) (hsum : sum < u32Size)
    (h : u32Size ≤ sum + luhnSum double cs) : luhnLoop .panics sum double cs = none := by
  induction cs generalizing sum double with
  | nil =>
    simp only [luhnSum] at h
    omega
  | cons c cs ih =>
    have hsplit : luhnSum double (c :: cs) = luhnDigit double c + luhnSum (!double) cs := rfl
    rw [hsplit, ← Nat.add_assoc] at h
    rw [luhnLoop]
    by_cases hnext : sum + luhnDigit double c < u32Size
    · rw [u32_of_lt hnext, Option.bind_some, ih _ _ hnext h]
    · rw [Overflow.u32, if_neg hnext]
      rfl

/-- A sum that does not fit wraps where overflow is not checked. -/
theorem luhnLoop_wraps (sum : ℕ) (double : Bool) (hsum : sum < u32Size) :
    luhnLoop .wraps sum double cs = some ((sum + luhnSum double cs) % u32Size) := by
  induction cs generalizing sum double with
  | nil => rw [luhnLoop, luhnSum, Nat.add_zero, Nat.mod_eq_of_lt hsum]
  | cons c cs ih =>
    have hsplit : luhnSum double (c :: cs) = luhnDigit double c + luhnSum (!double) cs := rfl
    have hnext : Overflow.wraps.u32 (sum + luhnDigit double c) =
        some ((sum + luhnDigit double c) % u32Size) := by
      unfold Overflow.u32
      split_ifs with hfits
      · rw [Nat.mod_eq_of_lt hfits]
      · rfl
    rw [luhnLoop, hnext, Option.bind_some, ih _ _ (Nat.mod_lt _ (by decide)), hsplit,
      Nat.mod_add_mod, Nat.add_assoc]

/-- What is checked, below the bound. -/
theorem validateLuhnIn_eq (hdigits : ∀ c ∈ cs, c.isDigit = true) (hlen : 9 * cs.length < u32Size) :
    validateLuhnIn o cs = some (validateLuhn cs) := by
  have hall : cs.all (·.isDigit) = true := List.all_eq_true.mpr hdigits
  have hrev : ∀ c ∈ cs.reverse, c.isDigit = true := fun c hc => hdigits c (List.mem_reverse.mp hc)
  have hsum := luhnSum_le hrev false
  rw [List.length_reverse] at hsum
  rw [validateLuhnIn, validateLuhn, hall, luhnLoop_eq 0 false (by omega)]
  cases cs.isEmpty <;> simp

/-- What is computed, below the bound. -/
theorem luhnCheckDigit_eq (hdigits : ∀ c ∈ cs, c.isDigit = true) (hsome : cs ≠ [])
    (hlen : 9 * cs.length < u32Size) :
    luhnCheckDigit o cs = some (.ok ((10 - luhnSum true cs.reverse % 10) % 10)) := by
  have hall : cs.all (·.isDigit) = true := List.all_eq_true.mpr hdigits
  have hrev : ∀ c ∈ cs.reverse, c.isDigit = true := fun c hc => hdigits c (List.mem_reverse.mp hc)
  have hsum := luhnSum_le hrev true
  rw [List.length_reverse] at hsum
  rw [luhnCheckDigit, hall, luhnLoop_eq 0 true (by omega)]
  simp [hsome]

/-- A text of digits is valid when its sum is a multiple of ten. -/
theorem validateLuhn_eq (hdigits : ∀ c ∈ cs, c.isDigit = true) (hsome : cs ≠ []) :
    validateLuhn cs = decide (altSum luhnDigit false cs.reverse ≡ 0 [MOD 10]) := by
  have hall : cs.all (·.isDigit) = true := List.all_eq_true.mpr hdigits
  have hempty : cs.isEmpty = false := by simpa using hsome
  rw [validateLuhn, hall, hempty, luhnSum_eq]
  simp only [Bool.not_false, Bool.and_true, Bool.true_and, Bool.beq_eq_decide_eq]
  exact decide_eq_decide.mpr Iff.rfl

/-! ## The promises -/

/-- The sum from the right of a text with one digit singled out. -/
theorem reverse_split (before after : List Char) (c : Char) :
    (before ++ c :: after).reverse = after.reverse ++ c :: before.reverse := by
  simp

/-- **Up to the bound the promises hold.** -/
theorem luhnLaws_of_lt (h : 9 * (n + 1) < u32Size) : LuhnLaws o n where
  check body c hlen hsome hbody hc := by
    have hfull : ∀ e ∈ body ++ [c], e.isDigit = true := by
      intro e he
      obtain he | he := List.mem_append.mp he
      · exact hbody e he
      · rw [List.mem_singleton.mp he]
        exact hc
    refine ⟨_, luhnCheckDigit_eq hbody hsome (by omega), ?_⟩
    rw [validateLuhnIn_eq hfull (by simp; omega), validateLuhn_eq hfull (by simp)]
    have hrange := DevicePublicId.toNat_of_isDigit hc
    have hzero : '0'.toNat = 48 := rfl
    have hsum : altSum luhnDigit false (body ++ [c]).reverse =
        c.toNat - 48 + luhnSum true body.reverse := by
      rw [List.reverse_append, luhnSum_eq]
      rfl
    rw [hsum]
    generalize luhnSum true body.reverse = sum
    have hchar : c = digitChar ((10 - sum % 10) % 10) ↔ c.toNat = 48 + (10 - sum % 10) % 10 := by
      constructor
      · intro hc
        have hall : ∀ k < 10, (digitChar k).toNat = 48 + k := by decide
        rw [hc, hall _ (by omega)]
      · intro hc
        rw [digitChar, ← hc, Char.ofNat_toNat]
    rw [Option.some.injEq, decide_eq_decide, hchar, Nat.ModEq]
    omega
  substitution before c d after hlen hne hdigits hvalid := by
    have hc : ∀ e ∈ before ++ c :: after, e.isDigit = true := by
      intro e he
      refine hdigits e ?_
      simp only [List.mem_append, List.mem_cons] at he ⊢
      tauto
    have hd : ∀ e ∈ before ++ d :: after, e.isDigit = true := by
      intro e he
      refine hdigits e ?_
      simp only [List.mem_append, List.mem_cons] at he ⊢
      tauto
    have hshort : ∀ e, 9 * (before ++ e :: after).length < u32Size := by
      intro e
      simp only [List.length_append, List.length_cons]
      omega
    rw [validateLuhnIn_eq hc (hshort c), validateLuhn_eq hc (by simp)] at hvalid
    rw [validateLuhnIn_eq hd (hshort d), validateLuhn_eq hd (by simp)]
    have hsum := of_decide_eq_true (Option.some.inj hvalid)
    refine congrArg some (decide_eq_false fun hother => hne ?_)
    rw [reverse_split] at hsum hother
    exact eq_of_luhnDigit (hc c (by simp)) (hd d (by simp))
      (weight_modEq_of_substitute (hsum.trans hother.symm))
  transposition before c d after hlen hne hpair hdigits hvalid := by
    have hswapped : ∀ e ∈ before ++ d :: c :: after, e.isDigit = true := by
      intro e he
      refine hdigits e ?_
      simp only [List.mem_append, List.mem_cons] at he ⊢
      tauto
    have hshort : ∀ e f, 9 * (before ++ e :: f :: after).length < u32Size := by
      intro e f
      simp only [List.length_append, List.length_cons]
      omega
    rw [validateLuhnIn_eq hdigits (hshort c d), validateLuhn_eq hdigits (by simp)] at hvalid
    rw [validateLuhnIn_eq hswapped (hshort d c), validateLuhn_eq hswapped (by simp)]
    have hsum := of_decide_eq_true (Option.some.inj hvalid)
    refine congrArg some (decide_eq_false fun hother => ?_)
    -- from the right, the second of the two comes first
    have hreverse : ∀ e f, (before ++ e :: f :: after).reverse =
        after.reverse ++ f :: e :: before.reverse := by simp
    rw [hreverse] at hsum hother
    obtain hsame | hzeronine := eq_of_luhnDigit_swap (hdigits d (by simp)) (hdigits c (by simp))
      (weight_modEq_of_transpose (hsum.trans hother.symm))
    · exact hne hsame.symm
    · obtain ⟨rfl, rfl⟩ | ⟨rfl, rfl⟩ := hzeronine
      · exact hpair (Or.inr ⟨rfl, rfl⟩)
      · exact hpair (Or.inl ⟨rfl, rfl⟩)

/-! ## Sums that do not fit -/

/-- A body of nines, with zeros in front of them and a two at the end, which counts as four. -/
def brimfulBody (zeros nines : ℕ) : List Char :=
  List.replicate zeros '0' ++ (List.replicate nines '9' ++ ['2'])

/-- How many nines bring the sum next to the bound. -/
def manyNines : ℕ := 477218587

variable {zeros nines : ℕ}

theorem length_brimfulBody : (brimfulBody zeros nines).length = zeros + (nines + 1) := by
  simp only [brimfulBody, List.length_append, List.length_replicate, List.length_singleton]

/-- The body consists of digits. -/
theorem isDigit_of_mem_brimfulBody (h : c ∈ brimfulBody zeros nines) : c.isDigit = true := by
  simp only [brimfulBody, List.mem_append, List.mem_singleton] at h
  obtain h | h | rfl := h
  · rw [List.eq_of_mem_replicate h]
    decide
  · rw [List.eq_of_mem_replicate h]
    decide
  · decide

/-- The sum of the body. -/
theorem luhnSum_brimfulBody (zeros nines : ℕ) :
    luhnSum true (brimfulBody zeros nines).reverse = 4 + 9 * nines := by
  have hreverse : (brimfulBody zeros nines).reverse =
      '2' :: (List.replicate nines '9' ++ List.replicate zeros '0') := by
    simp [brimfulBody]
  have hnines : ∀ kind, luhnDigit kind '9' = 9 := by decide
  have hzeros : ∀ kind, luhnDigit kind '0' = 0 := by decide
  have htwo : luhnDigit true '2' = 4 := by decide
  rw [hreverse, luhnSum_eq, altSum, altSum_append, altSum_replicate hnines, altSum_replicate hzeros,
    htwo, Nat.zero_mul]
  rfl

/-- A nine behind a body whose sum is nine below the bound: the check is a panic, or passes for a
check digit that the nine is not. -/
theorem brimfulBody_nine (zeros : ℕ) (hnines : 4 + 9 * nines + 9 = u32Size) :
    validateLuhnIn .panics (brimfulBody zeros nines ++ ['9']) = none ∧
      luhnCheckDigit .wraps (brimfulBody zeros nines) = some (.ok 3) ∧
      validateLuhnIn .wraps (brimfulBody zeros nines ++ ['9']) = some true := by
  have hbody : (brimfulBody zeros nines).all (·.isDigit) = true :=
    List.all_eq_true.mpr fun c hc => isDigit_of_mem_brimfulBody hc
  have hfull : (brimfulBody zeros nines ++ ['9']).all (·.isDigit) = true := by
    rw [List.all_append, hbody]
    decide
  have hbodySome : (brimfulBody zeros nines).isEmpty = false := by simp [brimfulBody]
  have hfullSome : (brimfulBody zeros nines ++ ['9']).isEmpty = false := by simp
  have hsum : luhnSum false (brimfulBody zeros nines ++ ['9']).reverse = u32Size := by
    have hnine : luhnDigit false '9' = 9 := by decide
    rw [List.reverse_append, List.reverse_singleton, List.singleton_append, luhnSum_eq, altSum,
      ← luhnSum_eq, Bool.not_false, luhnSum_brimfulBody, hnine]
    omega
  have hstart : 0 < u32Size := by decide
  refine ⟨?_, ?_, ?_⟩
  · rw [validateLuhnIn, hfull, hfullSome, luhnLoop_panics 0 false hstart (by rw [hsum]; omega)]
    rfl
  · have hbelow : (0 + (4 + 9 * nines)) % u32Size = u32Size - 9 := by
      rw [Nat.zero_add, Nat.mod_eq_of_lt (by omega)]
      omega
    rw [luhnCheckDigit, hbody, hbodySome, luhnLoop_wraps 0 true hstart, luhnSum_brimfulBody, hbelow]
    rfl
  · rw [validateLuhnIn, hfull, hfullSome, luhnLoop_wraps 0 false hstart, hsum]
    rfl

/-- The nines that bring the sum next to the bound. -/
theorem manyNines_eq : 4 + 9 * manyNines + 9 = u32Size := by decide

/-- **From the bound on a promise is broken**, in every build. -/
theorem not_luhnLaws (h : u32Size ≤ 9 * (n + 1)) : ¬LuhnLaws o n := by
  intro hlaws
  have hlong : manyNines + 1 ≤ n := by
    have hnines := manyNines_eq
    omega
  obtain ⟨zeros, rfl⟩ := Nat.exists_eq_add_of_le' hlong
  obtain ⟨hpanics, hcheck, hpasses⟩ := brimfulBody_nine zeros manyNines_eq
  obtain ⟨digit, hdigit, hvalid⟩ := hlaws.check (brimfulBody zeros manyNines) '9'
    length_brimfulBody (by simp [brimfulBody])
    (fun c hc => isDigit_of_mem_brimfulBody hc) (by decide)
  cases o with
  | panics =>
    rw [hpanics] at hvalid
    cases hvalid
  | wraps =>
    have hthree : 3 = digit := Except.ok.inj (Option.some.inj (hcheck.symm.trans hdigit))
    subst hthree
    rw [hpasses] at hvalid
    exact absurd (Option.some.inj hvalid) (by decide)

end RemoteLink.Auth
