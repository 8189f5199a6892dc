import Mathlib.Algebra.BigOperators.Group.List.Basic
import Mathlib.Algebra.Ring.Nat
import RemoteLink.Library.Bytes

set_option autoImplicit false

/-!
# JSON values

The text of a JSON value without white space, how long it gets, and how records are read from
values: by name from an object, by position from an array.

## Main definitions

* `Json` — a value; the members of an object keep their order and may repeat.
* `Json.write` — its text, given the text of the floating-point numbers.
* `Json.escapedLength` — the length of a string once its characters are escaped.
* `Json.required`, `Json.defaulted` — a member that must be there, or has a default.

## Main results

* `escapedLength_le` — escaping takes at most six bytes for each byte.
* `length_write_obj_le` — the length of an object is bounded member by member.
* `defaulted_optional` — an optional member that was written is read back.
-/

namespace RemoteLink.Library

/-- A JSON value; a floating-point number is given by its bits. -/
inductive Json where
  | null
  | bool (b : Bool)
  | int (n : Int)
  | float (bits : UInt64)
  | str (s : String)
  | arr (items : List Json)
  | obj (members : List (String × Json))

namespace Json

/-! ## Text -/

/-- The byte of a lowercase hexadecimal digit. -/
def hexByte (n : Nat) : UInt8 := UInt8.ofNat (hexDigit n).toNat

/-- The bytes of a character inside a string. -/
def escape (c : Char) : Bytes :=
  if c = '"' then [92, 34]
  else if c = '\\' then [92, 92]
  else match c.toNat with
    | 8 => [92, 98]
    | 9 => [92, 116]
    | 10 => [92, 110]
    | 12 => [92, 102]
    | 13 => [92, 114]
    | n => if n < 32 then [92, 117, 48, 48, hexByte (n / 16), hexByte (n % 16)]
      else String.utf8EncodeChar c

/-- A string with its quotes. -/
def quoted (s : String) : Bytes := 34 :: (s.toList.flatMap escape ++ [34])

/-- Texts with commas between them. -/
def commaSep : List Bytes → Bytes
  | [] => []
  | [b] => b
  | b :: c :: bs => b ++ 44 :: commaSep (c :: bs)

mutual

/-- The text of a value. -/
def write (F : UInt64 → Bytes) : Json → Bytes
  | .null => utf8 "null"
  | .bool b => utf8 (if b then "true" else "false")
  | .int n => utf8 (toString n)
  | .float b => F b
  | .str s => quoted s
  | .arr items => 91 :: (commaSep (writeAll F items) ++ [93])
  | .obj members => 123 :: (commaSep (writeMembers F members) ++ [125])

/-- The texts of values. -/
def writeAll (F : UInt64 → Bytes) : List Json → List Bytes
  | [] => []
  | v :: vs => write F v :: writeAll F vs

/-- The texts of members. -/
def writeMembers (F : UInt64 → Bytes) : List (String × Json) → List Bytes
  | [] => []
  | (k, v) :: ms => (quoted k ++ 58 :: write F v) :: writeMembers F ms

end

/-! ## Lengths -/

/-- The length of a string inside its quotes. -/
def escapedLength (s : String) : Nat := (s.toList.map fun c => (escape c).length).sum

@[simp] theorem length_quoted (s : String) : (quoted s).length = escapedLength s + 2 := by
  simp [quoted, escapedLength, List.length_flatMap]

/-- A character takes at most six times its bytes. -/
theorem length_escape_le (c : Char) : (escape c).length ≤ 6 * c.utf8Size := by
  have hpos : 1 ≤ c.utf8Size := Char.utf8Size_pos c
  unfold escape
  split_ifs
  · simp only [List.length_cons, List.length_nil]
    omega
  · simp only [List.length_cons, List.length_nil]
    omega
  · split
    any_goals
      simp only [List.length_cons, List.length_nil]
      omega
    split_ifs
    · simp only [List.length_cons, List.length_nil]
      omega
    · rw [String.length_utf8EncodeChar]
      omega

/-- The bytes of a string are those of its characters. -/
theorem utf8ByteSize_eq_sum (s : String) :
    s.utf8ByteSize = (s.toList.map Char.utf8Size).sum := by
  rw [← String.size_toByteArray, ← String.utf8Encode_toList]
  simp [List.utf8Encode, List.length_flatMap]

/-- **Escaping takes at most six bytes for each byte.** -/
theorem escapedLength_le (s : String) : escapedLength s ≤ 6 * s.utf8ByteSize := by
  rw [utf8ByteSize_eq_sum, escapedLength]
  induction s.toList with
  | nil => exact Nat.le_refl _
  | cons c cs ih =>
    have hc := length_escape_le c
    simp only [List.map_cons, List.sum_cons]
    omega

/-- The texts and a comma for each. -/
theorem length_commaSep_le (bs : List Bytes) :
    (commaSep bs).length ≤ (bs.map fun b => b.length + 1).sum := by
  induction bs with
  | nil => exact Nat.le_refl _
  | cons b bs ih =>
    rcases bs with _ | ⟨c, bs⟩
    · simp [commaSep]
    · simp only [commaSep, List.length_append, List.length_cons, List.map_cons,
        List.sum_cons] at ih ⊢
      omega

/-- A member that is written only if it is there. -/
def optional {α : Type} (name : String) (f : α → Json) (o : Option α) : List (String × Json) :=
  (o.map fun x => (name, f x)).toList

/-- The bytes that members take, each with its quotes, its colon and a comma. -/
def weight (F : UInt64 → Bytes) (ms : List (String × Json)) : Nat :=
  (ms.map fun m => escapedLength m.1 + 4 + (write F m.2).length).sum

section

variable {F : UInt64 → Bytes}

@[simp] theorem weight_nil : weight F [] = 0 := rfl

@[simp] theorem weight_cons (k : String) (v : Json) (ms : List (String × Json)) :
    weight F ((k, v) :: ms) = escapedLength k + 4 + (write F v).length + weight F ms := by
  simp [weight]

@[simp] theorem weight_append (ms ns : List (String × Json)) :
    weight F (ms ++ ns) = weight F ms + weight F ns := by
  simp [weight]

@[simp] theorem weight_optional {α : Type} (k : String) (f : α → Json) (o : Option α) :
    weight F (optional k f o) =
      o.elim 0 fun x => escapedLength k + 4 + (write F (f x)).length := by
  rcases o with _ | x <;> simp [optional]

/-- **An object is as long as its members**, with two brackets. -/
theorem length_write_obj_le (ms : List (String × Json)) :
    (write F (.obj ms)).length ≤ weight F ms + 2 := by
  have hmembers : (writeMembers F ms).map (fun b => b.length + 1) =
      ms.map fun m => escapedLength m.1 + 4 + (write F m.2).length := by
    induction ms with
    | nil => rfl
    | cons m ms ih =>
      simp only [writeMembers, List.map_cons, ih, List.length_append, List.length_cons,
        length_quoted, List.cons.injEq, and_true]
      omega
  have hsep := length_commaSep_le (writeMembers F ms)
  rw [hmembers] at hsep
  simp only [write, List.length_cons, List.length_append, List.length_nil]
  unfold weight
  omega

/-- An array is as long as its items, each with a comma, and two brackets. -/
theorem length_write_arr_le (vs : List Json) {n : Nat} (h : ∀ v ∈ vs, (write F v).length ≤ n) :
    (write F (.arr vs)).length ≤ vs.length * (n + 1) + 2 := by
  have hitems : ((writeAll F vs).map fun b => b.length + 1).sum ≤ vs.length * (n + 1) := by
    induction vs with
    | nil => simp [writeAll]
    | cons v vs ih =>
      have hv := h v (by simp)
      have hvs := ih fun v' hv' => h v' (by simp [hv'])
      simp only [writeAll, List.map_cons, List.sum_cons, List.length_cons, Nat.succ_mul]
      omega
  have hsep := length_commaSep_le (writeAll F vs)
  simp only [write, List.length_cons, List.length_append, List.length_nil]
  omega

/-- A number of 32 bits has at most ten digits. -/
theorem length_write_u32_le (n : UInt32) : (write F (.int n.toNat)).length ≤ 10 := by
  have hlt : n.toNat < 4294967296 := n.toNat_lt
  have hdigits : ∀ c ∈ Nat.toDigits 10 n.toNat, c.toNat < 128 := by
    intro c hc
    have hdigit := Nat.isDigit_of_mem_toDigits (by decide) (by decide) hc
    simp only [Char.isDigit, Bool.and_eq_true, decide_eq_true_eq, UInt32.le_iff_toNat_le] at hdigit
    exact Nat.lt_of_le_of_lt hdigit.2 (by decide)
  have htext : (toString (n.toNat : Int)) = String.ofList (Nat.toDigits 10 n.toNat) :=
    Nat.repr_eq_ofList_toDigits
  rw [write, htext, utf8_ofList_ascii hdigits, List.length_map]
  exact (Nat.length_toDigits_le_iff (by decide) (by decide)).mpr (Nat.lt_trans hlt (by decide))

end

/-! ## Reading records -/

/-- The values of a member: by name in an object, by position in an array. -/
def hits (i : Nat) (name : String) : Json → List Json
  | .obj members => members.filterMap fun m => if m.1 = name then some m.2 else none
  | .arr items => items[i]?.toList
  | _ => []

/-- Whether a value can be read as a record with `n` members. -/
def record (n : Nat) : Json → Except String Unit
  | .obj _ => .ok ()
  | .arr items => if items.length ≤ n then .ok () else .error "trailing characters"
  | _ => .error "invalid type"

section

variable {α : Type}

/-- Read the one value of a member. -/
def single (name : String) (missing : Except String α) (f : Json → Except String α) :
    List Json → Except String α
  | [] => missing
  | [v] => f v
  | _ => .error s!"duplicate field {name}"

/-- A member that must be there. -/
def required (i : Nat) (name : String) (f : Json → Except String α) (v : Json) : Except String α :=
  single name (.error s!"missing field {name}") f (v.hits i name)

/-- A member with a default. -/
def defaulted (i : Nat) (name : String) (default : α) (f : Json → Except String α) (v : Json) :
    Except String α :=
  single name (.ok default) f (v.hits i name)

/-- A value that may be null. -/
def nullable (f : Json → Except String α) : Json → Except String (Option α)
  | .null => .ok none
  | v => (f v).map some

/-- An array of values. -/
def list (f : Json → Except String α) : Json → Except String (List α)
  | .arr items => items.mapM f
  | _ => .error "invalid type, expected a sequence"

/-- A truth value. -/
def asBool : Json → Except String Bool
  | .bool b => .ok b
  | _ => .error "invalid type, expected a boolean"

/-- A string. -/
def asStr : Json → Except String String
  | .str s => .ok s
  | _ => .error "invalid type, expected a string"

/-- A number of 32 bits. -/
def asU32 : Json → Except String UInt32
  | .int n =>
    if 0 ≤ n ∧ n < u32Size then .ok (UInt32.ofNat n.toNat) else .error "invalid value, expected u32"
  | _ => .error "invalid type, expected u32"

/-- One of the given names, also as the only key of an object with a null. -/
def variant (names : List (String × α)) (v : Json) : Except String α :=
  match v with
  | .str s | .obj [(s, .null)] =>
    match names.find? (·.1 = s) with
    | some m => .ok m.2
    | none => .error s!"unknown variant {s}"
  | _ => .error "invalid type, expected a variant"

/-- A part that succeeds hands its value on. -/
@[simp] theorem ok_bind {β : Type} (a : α) (f : α → Except String β) :
    (Except.ok a >>= f) = f a := rfl

@[simp] theorem hits_obj_nil (i : Nat) (name : String) : hits i name (.obj []) = [] := rfl

@[simp] theorem hits_obj_cons (i : Nat) (name k : String) (v : Json) (ms : List (String × Json)) :
    hits i name (.obj ((k, v) :: ms)) =
      (if k = name then [v] else []) ++ hits i name (.obj ms) := by
  by_cases h : k = name <;> simp [hits, h]

@[simp] theorem hits_obj_append (i : Nat) (name : String) (ms ns : List (String × Json)) :
    hits i name (.obj (ms ++ ns)) = hits i name (.obj ms) ++ hits i name (.obj ns) := by
  simp [hits]

@[simp] theorem hits_optional (i : Nat) (name k : String) (f : α → Json) (o : Option α) :
    hits i name (.obj (optional k f o)) = if k = name then (o.map f).toList else [] := by
  rcases o with _ | x
  · simp [optional]
  · by_cases h : k = name <;> simp [optional, hits, h]

@[simp] theorem single_nil (name : String) (missing : Except String α)
    (f : Json → Except String α) : single name missing f [] = missing := rfl

@[simp] theorem single_one (name : String) (missing : Except String α)
    (f : Json → Except String α) (v : Json) : single name missing f [v] = f v := rfl

/-- **An optional member that was written is read back.** -/
theorem single_optional {name : String} {f : Json → Except String (Option α)} {g : α → Json}
    (h : ∀ x, f (g x) = .ok (some x)) (o : Option α) :
    single name (.ok none) f (o.map g).toList = .ok o := by
  rcases o with _ | x
  · rfl
  · exact h x

end

@[simp] theorem nullable_str (s : String) : nullable asStr (.str s) = .ok (some s) := rfl

end Json

end RemoteLink.Library
