import RemoteLink.Library.Json
import RemoteLink.Library.Text

set_option autoImplicit false

/-!
# Public device ids

The number by which a host is called: nine digits and a check digit. It is read with separators and
shown in groups, and stored and compared without either.

## Main definitions

* `DevicePublicId` — a validated id.
* `DevicePublicId.parse` — read an id.
* `DevicePublicId.displayGrouped` — show an id.

## Main results

* `DevicePublicId.parse_digits`, `DevicePublicId.parse_displayGrouped` — an id is read back from its
  digits and from what is shown of it.
-/

namespace RemoteLink.Auth

open Library

/-- Number of digits before the check digit. -/
def deviceIdBodyDigits : Nat := 9

/-- Number of digits with the check digit. -/
def deviceIdTotalDigits : Nat := deviceIdBodyDigits + 1

/-- The sum of the digits from the right, every second one doubled. -/
def luhnSum (double : Bool) : List Char → Nat
  | [] => 0
  | c :: cs =>
    let d := c.toNat - '0'.toNat
    let d := if double then (if 9 < d * 2 then d * 2 - 9 else d * 2) else d
    d + luhnSum (!double) cs

/-- Whether the check digit of a text of digits is right. -/
def validateLuhn (digits : List Char) : Bool :=
  !digits.isEmpty && digits.all (·.isDigit) && luhnSum false digits.reverse % 10 == 0

/-- A validated public id: its digits without separators. -/
structure DevicePublicId where
  digits : List Char
  length_eq : digits.length = deviceIdTotalDigits
  valid : validateLuhn digits = true
  deriving DecidableEq

namespace DevicePublicId

/-- The digits of an id as text. -/
def asStr (id : DevicePublicId) : String := String.ofList id.digits

/-- Whether a character may stand between digits. -/
def isSeparator (c : Char) : Bool := Text.isWhitespace c || c == '-' || c == '_'

/-- **Read an id**, with or without separators. The error is the detail of the one kind that
occurs. -/
def parse (input : String) : Except String DevicePublicId :=
  let digits := input.toList.filter (!isSeparator ·)
  let len := (String.ofList digits).utf8ByteSize
  if len ≠ deviceIdTotalDigits then
    .error s!"expected {deviceIdTotalDigits} digits, got {len}"
  else if digits.any (!·.isDigit) then .error "public ID must be numeric"
  else if h : digits.length = deviceIdTotalDigits ∧ validateLuhn digits = true then
    .ok ⟨digits, h.1, h.2⟩
  else .error "check digit mismatch"

/-- The digits in groups of three, three and four. -/
def displayGrouped (id : DevicePublicId) : String :=
  String.ofList (id.digits.take 3 ++ ' ' :: ((id.digits.drop 3).take 3 ++ ' ' :: id.digits.drop 6))

/-- The digits of an id are digits. -/
theorem isDigit_of_mem (id : DevicePublicId) {c : Char} (h : c ∈ id.digits) : c.isDigit = true := by
  have hvalid := id.valid
  simp only [validateLuhn, Bool.and_eq_true] at hvalid
  exact List.all_eq_true.mp hvalid.1.2 c h

/-- Where the digits stand among the characters. -/
theorem toNat_of_isDigit {c : Char} (h : c.isDigit = true) : 48 ≤ c.toNat ∧ c.toNat ≤ 57 := by
  simpa [Char.isDigit, UInt32.le_iff_toNat_le] using h

/-- No digit is a separator. -/
theorem isSeparator_of_isDigit {c : Char} (h : c.isDigit = true) : isSeparator c = false := by
  have hrange := toNat_of_isDigit h
  have hdash : c ≠ '-' := by
    rintro rfl
    exact absurd hrange.1 (by decide)
  have hunderscore : c ≠ '_' := by
    rintro rfl
    exact absurd hrange.2 (by decide)
  have hspace : Text.isWhitespace c = false := by
    simp only [Text.isWhitespace, Bool.or_eq_false_iff, Bool.and_eq_false_iff, beq_eq_false_iff_ne,
      decide_eq_false_iff_not]
    omega
  rw [isSeparator, hspace, beq_false_of_ne hdash, beq_false_of_ne hunderscore]
  rfl

/-- **An id is read from every text whose digits are its own.** -/
theorem parse_of_digits (id : DevicePublicId) {input : String}
    (h : input.toList.filter (!isSeparator ·) = id.digits) : parse input = .ok id := by
  have hsize : (String.ofList id.digits).utf8ByteSize = deviceIdTotalDigits := by
    rw [Json.utf8ByteSize_eq_sum, String.toList_ofList, ← id.length_eq,
      List.map_congr_left (g := fun _ => 1) fun c hc => ?_]
    · rw [List.map_const', List.sum_replicate_nat, Nat.mul_one]
    · have hrange := toNat_of_isDigit (id.isDigit_of_mem hc)
      rw [Char.utf8Size_eq_one_iff, UInt32.le_iff_toNat_le]
      exact Nat.le_trans hrange.2 (by decide)
  have hnumeric : id.digits.any (!·.isDigit) = false := by
    rw [List.any_eq_false]
    intro c hc
    rw [id.isDigit_of_mem hc]
    decide
  unfold parse
  simp only [h, hsize, hnumeric]
  rw [if_neg (by simp), if_neg (by simp), dif_pos ⟨id.length_eq, id.valid⟩]

/-- An id is read back from its digits. -/
theorem parse_digits (id : DevicePublicId) : parse id.asStr = .ok id := by
  refine id.parse_of_digits ?_
  rw [asStr, String.toList_ofList, List.filter_eq_self]
  intro c hc
  rw [isSeparator_of_isDigit (id.isDigit_of_mem hc)]
  rfl

/-- **An id is read back from what is shown of it.** -/
theorem parse_displayGrouped (id : DevicePublicId) : parse id.displayGrouped = .ok id := by
  refine id.parse_of_digits ?_
  have hkeep : ∀ cs : List Char, (∀ c ∈ cs, c ∈ id.digits) →
      cs.filter (!isSeparator ·) = cs := by
    intro cs hcs
    rw [List.filter_eq_self]
    intro c hc
    rw [isSeparator_of_isDigit (id.isDigit_of_mem (hcs c hc))]
    rfl
  rw [displayGrouped, String.toList_ofList, List.filter_append, List.filter_cons_of_neg (by decide),
    List.filter_append, List.filter_cons_of_neg (by decide),
    hkeep _ fun c => List.mem_of_mem_take,
    hkeep _ fun c hc => List.mem_of_mem_drop (List.mem_of_mem_take hc),
    hkeep _ fun c => List.mem_of_mem_drop,
    show id.digits.drop 6 = (id.digits.drop 3).drop 3 by rw [List.drop_drop],
    List.take_append_drop, List.take_append_drop]

end DevicePublicId

end RemoteLink.Auth
