import RemoteLink.Library.ByteIndex
import RemoteLink.Library.Json
import RemoteLink.Library.PrefixCode

set_option autoImplicit false

/-!
# The text of a JSON value determines it

Two values with the same text are the same value: the first byte tells the kind, a string ends at its
first quotation mark that is not escaped, a number ends where no digit follows, and the items of an
array are separated by commas. Floating-point numbers are left out.

## Main definitions

* `Json.Plain` — a value without floating-point numbers.

## Main results

* `escape_prefixFree` — no escaped character begins with another one.
* `quoted_append_inj` — a string is read off the front of a text.
* `write_injective` — a value is determined by its text.
-/

namespace RemoteLink.Library

/-- No character begins with another one in UTF-8. -/
theorem utf8_prefixFree : PrefixFree String.utf8EncodeChar := by
  rintro c d ⟨r, hr⟩
  have hc : ((String.utf8EncodeChar c).toByteArray ++ r.toByteArray).utf8DecodeChar? 0 = some c :=
    ByteArray.utf8DecodeChar?_utf8EncodeChar_append
  have hd : ((String.utf8EncodeChar d).toByteArray ++ ByteArray.empty).utf8DecodeChar? 0 = some d :=
    ByteArray.utf8DecodeChar?_utf8EncodeChar_append
  rw [← List.toByteArray_append, hr] at hc
  rw [ByteArray.append_empty, hc] at hd
  exact Option.some.inj hd

/-- The bytes of a character outside ASCII are outside ASCII, too. -/
theorem utf8EncodeChar_head {c : Char} (hc : 128 ≤ c.toNat) :
    ∃ b r, String.utf8EncodeChar c = b :: r ∧ 128 ≤ b.toNat := by
  rcases henc : String.utf8EncodeChar c with _ | ⟨b, r⟩
  · exact absurd henc String.utf8EncodeChar_ne_nil
  refine ⟨b, r, rfl, ?_⟩
  by_contra hlt
  rw [Nat.not_le] at hlt
  -- otherwise the byte is a character of its own
  have hvalid : (Char.ofNat b.toNat).toNat = b.toNat := by
    have hb : b.toNat.isValidChar := .inl (Nat.lt_trans hlt (by decide))
    rw [Char.ofNat, dif_pos hb]
    rfl
  have hascii : String.utf8EncodeChar (Char.ofNat b.toNat) = [b] := by
    rw [utf8EncodeChar_ascii (by rwa [hvalid]), hvalid, UInt8.ofNat_toNat]
  have heq : Char.ofNat b.toNat = c :=
    utf8_prefixFree _ _ (by rw [hascii, henc]; exact ⟨r, rfl⟩)
  rw [← heq, hvalid] at hc
  exact absurd hlt (Nat.not_lt.mpr hc)

namespace Json

/-! ## Strings -/

/-- The escaped characters of ASCII, as far as they are told apart. -/
theorem escape_ascii : ∀ m n : Fin 128,
    (escape (Char.ofNat m)).isPrefixOf (escape (Char.ofNat n)) = true → m = n := by
  decide +kernel

/-- No escaped character of ASCII begins with a quotation mark, or with a byte outside ASCII. -/
theorem escape_ascii_head : ∀ n : Fin 128, ∃ b r, escape (Char.ofNat n) = b :: r ∧ b ≠ 34 ∧
    b.toNat < 128 := by
  have hall : ∀ n : Fin 128, (escape (Char.ofNat n)).head?.any
      (fun b => decide (b ≠ 34 ∧ b.toNat < 128)) = true := by
    decide +kernel
  intro n
  have hn := hall n
  rcases henc : escape (Char.ofNat n) with _ | ⟨b, r⟩
  · rw [henc] at hn
    cases hn
  · rw [henc] at hn
    exact ⟨b, r, rfl, of_decide_eq_true hn⟩

/-- A character outside ASCII is not escaped. -/
theorem escape_of_le {c : Char} (h : 128 ≤ c.toNat) : escape c = String.utf8EncodeChar c := by
  unfold escape
  have hquote : c ≠ '"' := by
    rintro rfl
    exact absurd h (by decide)
  have hslash : c ≠ '\\' := by
    rintro rfl
    exact absurd h (by decide)
  rw [if_neg hquote, if_neg hslash]
  split
  · omega
  · omega
  · omega
  · omega
  · omega
  · exact if_neg (by omega)

/-- A character of ASCII is one of 128. -/
theorem ofNat_toNat_fin {c : Char} (h : c.toNat < 128) :
    Char.ofNat ((⟨c.toNat, h⟩ : Fin 128) : Nat) = c := Char.ofNat_toNat c

/-- **No escaped character begins with another one.** -/
theorem escape_prefixFree : PrefixFree escape := by
  intro c d h
  by_cases hc : c.toNat < 128
  · obtain ⟨b, r, hb, -, hsmall⟩ := escape_ascii_head ⟨c.toNat, hc⟩
    rw [ofNat_toNat_fin hc] at hb
    by_cases hd : d.toNat < 128
    · have heq := escape_ascii ⟨c.toNat, hc⟩ ⟨d.toNat, hd⟩
        (by rw [ofNat_toNat_fin hc, ofNat_toNat_fin hd]; exact List.isPrefixOf_iff_prefix.mpr h)
      rw [← ofNat_toNat_fin hc, heq, ofNat_toNat_fin hd]
    · obtain ⟨b', r', hb', hlarge⟩ := utf8EncodeChar_head (Nat.not_lt.mp hd)
      rw [hb, escape_of_le (Nat.not_lt.mp hd), hb'] at h
      have heq : b = b' := (List.cons_prefix_cons.mp h).1
      rw [heq] at hsmall
      exact absurd hsmall (Nat.not_lt.mpr hlarge)
  · by_cases hd : d.toNat < 128
    · obtain ⟨b, r, hb, -, hsmall⟩ := escape_ascii_head ⟨d.toNat, hd⟩
      rw [ofNat_toNat_fin hd] at hb
      obtain ⟨b', r', hb', hlarge⟩ := utf8EncodeChar_head (Nat.not_lt.mp hc)
      rw [hb, escape_of_le (Nat.not_lt.mp hc), hb'] at h
      have heq : b' = b := (List.cons_prefix_cons.mp h).1
      rw [← heq] at hsmall
      exact absurd hsmall (Nat.not_lt.mpr hlarge)
    · rw [escape_of_le (Nat.not_lt.mp hc), escape_of_le (Nat.not_lt.mp hd)] at h
      exact utf8_prefixFree c d h

/-- No escaped character begins with a quotation mark. -/
theorem escape_head (c : Char) : ∃ b r, escape c = b :: r ∧ b ≠ 34 := by
  by_cases hc : c.toNat < 128
  · obtain ⟨b, r, hb, hne, -⟩ := escape_ascii_head ⟨c.toNat, hc⟩
    rw [ofNat_toNat_fin hc] at hb
    exact ⟨b, r, hb, hne⟩
  · obtain ⟨b, r, hb, hlarge⟩ := utf8EncodeChar_head (Nat.not_lt.mp hc)
    refine ⟨b, r, (escape_of_le (Nat.not_lt.mp hc)).trans hb, ?_⟩
    rintro rfl
    exact absurd hlarge (by decide)

/-- **A string is read off the front of a text.** -/
theorem quoted_append_inj {s t : String} {x y : Bytes} (h : quoted s ++ x = quoted t ++ y) :
    s = t ∧ x = y := by
  simp only [quoted, List.cons_append, List.append_assoc, List.cons.injEq, true_and,
    List.nil_append] at h
  obtain ⟨hlist, hxy⟩ := escape_prefixFree.flatMap_append_inj escape_head h
  exact ⟨String.toList_inj.mp hlist, hxy⟩

/-! ## Numbers -/

/-- A byte of a whole number. -/
def NumberByte (b : UInt8) : Prop := b = 45 ∨ 48 ≤ b.toNat ∧ b.toNat ≤ 57

/-- The bytes of a natural number are digits. -/
theorem digit_of_mem_toString {n : Nat} {b : UInt8} (h : b ∈ utf8 (toString n)) :
    48 ≤ b.toNat ∧ b.toNat ≤ 57 := by
  have htext : toString n = String.ofList (Nat.toDigits 10 n) := Nat.repr_eq_ofList_toDigits
  have hdigit : ∀ c ∈ Nat.toDigits 10 n, 48 ≤ c.toNat ∧ c.toNat ≤ 57 := by
    intro c hc
    have hc' := Nat.isDigit_of_mem_toDigits (by decide) (by decide) hc
    simp only [Char.isDigit, Bool.and_eq_true, decide_eq_true_eq, UInt32.le_iff_toNat_le] at hc'
    exact hc'
  have hascii : ∀ c ∈ Nat.toDigits 10 n, c.toNat < 128 := fun c hc =>
    Nat.lt_of_le_of_lt (hdigit c hc).2 (by decide)
  rw [htext, utf8_ofList_ascii hascii, List.mem_map] at h
  obtain ⟨c, hc, rfl⟩ := h
  rw [UInt8.toNat_ofNat', Nat.mod_eq_of_lt (Nat.lt_of_lt_of_le (hascii c hc) (by decide))]
  exact hdigit c hc

/-- The bytes of a whole number. -/
theorem numberByte_of_mem {n : Int} {b : UInt8} (h : b ∈ utf8 (toString n)) : NumberByte b := by
  cases n with
  | ofNat m => exact .inr (digit_of_mem_toString h)
  | negSucc m =>
    have htext : utf8 (toString (Int.negSucc m)) = 45 :: utf8 (toString (m + 1)) :=
      utf8_append "-" (toString (m + 1))
    rw [htext] at h
    rcases List.mem_cons.mp h with rfl | h
    · exact .inl rfl
    · exact .inr (digit_of_mem_toString h)

/-- A whole number has a text. -/
theorem utf8_toString_ne_nil (n : Int) : utf8 (toString n) ≠ [] := by
  cases n with
  | ofNat m =>
    have htext : toString (Int.ofNat m) = String.ofList (Nat.toDigits 10 m) :=
      Nat.repr_eq_ofList_toDigits
    intro hnil
    have hempty : toString (Int.ofNat m) = "" := utf8_injective hnil
    rw [htext] at hempty
    have hlist := congrArg String.toList hempty
    rw [String.toList_ofList] at hlist
    exact Nat.toDigits_ne_nil hlist
  | negSucc m =>
    have htext : utf8 (toString (Int.negSucc m)) = 45 :: utf8 (toString (m + 1)) :=
      utf8_append "-" (toString (m + 1))
    rw [htext]
    exact List.cons_ne_nil _ _

/-! ## Values -/

mutual

/-- A value without floating-point numbers. -/
def Plain : Json → Prop
  | .float _ => False
  | .arr items => PlainAll items
  | .obj members => PlainMembers members
  | _ => True

/-- Values without floating-point numbers. -/
def PlainAll : List Json → Prop
  | [] => True
  | v :: vs => Plain v ∧ PlainAll vs

/-- Members without floating-point numbers. -/
def PlainMembers : List (String × Json) → Prop
  | [] => True
  | m :: ms => Plain m.2 ∧ PlainMembers ms

end

/-- What may stand behind a value: a comma, a closing bracket, or nothing. -/
def Stops (s : Bytes) : Prop := ∀ b ∈ s.head?, b = 44 ∨ b = 93 ∨ b = 125

/-- The kind of a value. -/
def kind : Json → Nat
  | .null => 0
  | .bool _ => 1
  | .int _ => 2
  | .float _ => 3
  | .str _ => 4
  | .arr _ => 5
  | .obj _ => 6

/-- The kind of the value that begins with a byte. -/
def kindOf (b : UInt8) : Nat :=
  if b = 110 then 0
  else if b = 116 ∨ b = 102 then 1
  else if b = 45 ∨ 48 ≤ b.toNat ∧ b.toNat ≤ 57 then 2
  else if b = 34 then 4
  else if b = 91 then 5
  else if b = 123 then 6
  else 7

variable {F : UInt64 → Bytes}

/-- The first byte of a value tells its kind. -/
theorem write_head {v : Json} (hv : v.Plain) : ∃ b r, write F v = b :: r ∧ kindOf b = v.kind := by
  cases v with
  | null => exact ⟨110, utf8 "ull", rfl, rfl⟩
  | bool b =>
    cases b with
    | true => exact ⟨116, utf8 "rue", rfl, rfl⟩
    | false => exact ⟨102, utf8 "alse", rfl, rfl⟩
  | int n =>
    rcases htext : utf8 (toString n) with _ | ⟨b, r⟩
    · exact absurd htext (utf8_toString_ne_nil n)
    · refine ⟨b, r, htext, ?_⟩
      have hb : NumberByte b := numberByte_of_mem (n := n) (by rw [htext]; exact List.mem_cons_self)
      have hne : b ≠ 110 ∧ b ≠ 116 ∧ b ≠ 102 := by
        refine ⟨?_, ?_, ?_⟩
        · rintro rfl
          exact absurd hb (by unfold NumberByte; decide)
        · rintro rfl
          exact absurd hb (by unfold NumberByte; decide)
        · rintro rfl
          exact absurd hb (by unfold NumberByte; decide)
      unfold kindOf
      rw [if_neg hne.1, if_neg (not_or.mpr hne.2)]
      exact if_pos hb
  | float b => exact hv.elim
  | str s => exact ⟨34, _, rfl, rfl⟩
  | arr items => exact ⟨91, _, rfl, rfl⟩
  | obj members => exact ⟨123, _, rfl, rfl⟩

/-- Natural numbers with the same text are equal. -/
theorem nat_toString_inj {m n : Nat} (h : utf8 (toString m) = utf8 (toString n)) : m = n := by
  have htext : ∀ k : Nat, toString k = String.ofList (Nat.toDigits 10 k) :=
    fun _ => Nat.repr_eq_ofList_toDigits
  have hlist := congrArg String.toList (utf8_injective h)
  rw [htext, htext, String.toList_ofList, String.toList_ofList] at hlist
  rw [← Nat.ofDigitChars_ten_toDigits (n := m), hlist, Nat.ofDigitChars_ten_toDigits]

/-- Whole numbers with the same text are equal. -/
theorem int_toString_inj {m n : Int} (h : utf8 (toString m) = utf8 (toString n)) : m = n := by
  have hneg : ∀ k : Nat, utf8 (toString (Int.negSucc k)) = 45 :: utf8 (toString (k + 1)) :=
    fun k => utf8_append "-" (toString (k + 1))
  -- a natural number has no sign in front
  have hsign : ∀ (j k : Nat), utf8 (toString (Int.ofNat j)) ≠ utf8 (toString (Int.negSucc k)) := by
    intro j k heq
    rw [hneg] at heq
    have hmem : (45 : UInt8) ∈ utf8 (toString j) := by
      have heq' : utf8 (toString j) = 45 :: utf8 (toString (k + 1)) := heq
      rw [heq']
      exact List.mem_cons_self
    exact absurd (digit_of_mem_toString hmem).1 (by decide)
  cases m with
  | ofNat j =>
    cases n with
    | ofNat k => exact congrArg Int.ofNat (nat_toString_inj h)
    | negSucc k => exact absurd h (hsign j k)
  | negSucc j =>
    cases n with
    | ofNat k => exact absurd h.symm (hsign k j)
    | negSucc k =>
      rw [hneg, hneg] at h
      exact congrArg Int.negSucc (Nat.succ_injective (nat_toString_inj (List.cons.inj h).2))

/-- A number is read off the front of a text. -/
theorem number_append_inj {m n : Int} {x y : Bytes} (hx : Stops x) (hy : Stops y)
    (h : utf8 (toString m) ++ x = utf8 (toString n) ++ y) : m = n ∧ x = y := by
  have hstop : ∀ {s : Bytes}, Stops s → ∀ b ∈ s.head?, ¬NumberByte b := by
    intro s hs b hb hnumber
    unfold NumberByte at hnumber
    rcases hs b hb with rfl | rfl | rfl
    · exact absurd hnumber (by decide)
    · exact absurd hnumber (by decide)
    · exact absurd hnumber (by decide)
  obtain ⟨htext, hxy⟩ := class_append_inj (fun _ => numberByte_of_mem) (fun _ => numberByte_of_mem)
    (hstop hx) (hstop hy) h
  exact ⟨int_toString_inj htext, hxy⟩

/-! ## Sequences -/

/-- A text that begins, and not with a closing bracket. -/
def Opens (b : Bytes) : Prop := ∃ c r, b = c :: r ∧ c ≠ 93 ∧ c ≠ 125

/-- What stands behind the first of some texts with commas between them. -/
theorem commaSep_cons_append (b : Bytes) (bs : List Bytes) (x : Bytes) :
    commaSep (b :: bs) ++ x = b ++ if bs = [] then x else 44 :: (commaSep bs ++ x) := by
  cases bs with
  | nil => rfl
  | cons c bs => simp [commaSep]

section

variable {α : Type} {code : α → Bytes} {close : UInt8}

/-- What stands behind an item stops it. -/
theorem stops_behind (hclose : close = 93 ∨ close = 125) (bs : List Bytes) (x : Bytes) :
    Stops (if bs = [] then close :: x else 44 :: (commaSep bs ++ close :: x)) := by
  intro c hc
  split_ifs at hc
  · obtain rfl := Option.some.inj hc
    exact .inr hclose
  · obtain rfl := Option.some.inj hc
    exact .inl rfl

/-- An item is no closing bracket. -/
theorem opens_append_ne (hclose : close = 93 ∨ close = 125) {b s x : Bytes} (hb : Opens b) :
    b ++ s ≠ close :: x := by
  obtain ⟨c, r, rfl, h93, h125⟩ := hb
  intro heq
  rcases hclose with rfl | rfl
  · exact h93 (List.cons.inj heq).1
  · exact h125 (List.cons.inj heq).1

/-- **The items before a closing bracket are read off the front of a text**, when each item is. -/
theorem commaSep_append_inj (hclose : close = 93 ∨ close = 125) {l m : List α}
    (hl : ∀ a ∈ l, Opens (code a)) (hm : ∀ a ∈ m, Opens (code a))
    (hitem : ∀ a ∈ l, ∀ b ∈ m, ∀ x y, Stops x → Stops y → code a ++ x = code b ++ y →
      a = b ∧ x = y) {x y : Bytes}
    (h : commaSep (l.map code) ++ close :: x = commaSep (m.map code) ++ close :: y) :
    l = m ∧ x = y := by
  induction l generalizing m with
  | nil =>
    cases m with
    | nil => exact ⟨rfl, (List.cons.inj h).2⟩
    | cons b m =>
      rw [List.map_cons, commaSep_cons_append] at h
      exact absurd h.symm (opens_append_ne hclose (hm b List.mem_cons_self))
  | cons a l ih =>
    cases m with
    | nil =>
      rw [List.map_cons, commaSep_cons_append] at h
      exact absurd h (opens_append_ne hclose (hl a List.mem_cons_self))
    | cons b m =>
      rw [List.map_cons, List.map_cons, commaSep_cons_append, commaSep_cons_append] at h
      obtain ⟨rfl, hrest⟩ := hitem a List.mem_cons_self b List.mem_cons_self _ _
        (stops_behind hclose _ _) (stops_behind hclose _ _) h
      -- both texts go on with a comma, or both end
      have hcomma : close ≠ 44 := by
        rintro rfl
        revert hclose
        decide
      split_ifs at hrest with hnil hnil' hnil'
      · rw [List.map_eq_nil_iff] at hnil hnil'
        exact ⟨by rw [hnil, hnil'], (List.cons.inj hrest).2⟩
      · exact absurd (List.cons.inj hrest).1 hcomma
      · exact absurd (List.cons.inj hrest).1.symm hcomma
      · obtain ⟨rfl, hxy⟩ := ih (fun c hc => hl c (List.mem_cons_of_mem _ hc))
          (fun c hc => hm c (List.mem_cons_of_mem _ hc))
          (fun c hc d hd => hitem c (List.mem_cons_of_mem _ hc) d (List.mem_cons_of_mem _ hd))
          (List.cons.inj hrest).2
        exact ⟨rfl, hxy⟩

end

/-! ## Values -/

/-- The text of a member. -/
def memberText (F : UInt64 → Bytes) (m : String × Json) : Bytes := quoted m.1 ++ 58 :: write F m.2

theorem writeAll_eq (vs : List Json) : writeAll F vs = vs.map (write F) := by
  induction vs with
  | nil => rfl
  | cons v vs ih => rw [writeAll, ih, List.map_cons]

theorem writeMembers_eq (ms : List (String × Json)) : writeMembers F ms = ms.map (memberText F) := by
  induction ms with
  | nil => rfl
  | cons m ms ih =>
    obtain ⟨k, v⟩ := m
    rw [writeMembers, ih, List.map_cons, memberText]

theorem plainAll_iff {vs : List Json} : PlainAll vs ↔ ∀ v ∈ vs, v.Plain := by
  induction vs with
  | nil => exact ⟨fun _ _ h => absurd h List.not_mem_nil, fun _ => trivial⟩
  | cons v vs ih => rw [PlainAll, ih, List.forall_mem_cons]

theorem plainMembers_iff {ms : List (String × Json)} :
    PlainMembers ms ↔ ∀ m ∈ ms, m.2.Plain := by
  induction ms with
  | nil => exact ⟨fun _ _ h => absurd h List.not_mem_nil, fun _ => trivial⟩
  | cons m ms ih => rw [PlainMembers, ih, List.forall_mem_cons]

/-- A value begins with no closing bracket. -/
theorem opens_write {v : Json} (hv : v.Plain) : Opens (write F v) := by
  obtain ⟨b, r, hb, hkind⟩ := write_head (F := F) hv
  have hle : v.kind ≤ 6 := by
    cases v <;> exact Nat.le_of_ble_eq_true rfl
  refine ⟨b, r, hb, ?_, ?_⟩
  · rintro rfl
    rw [← hkind] at hle
    exact absurd hle (by decide)
  · rintro rfl
    rw [← hkind] at hle
    exact absurd hle (by decide)

mutual

/-- **A value is read off the front of a text**, when a comma, a bracket or nothing follows. -/
theorem write_append_inj {v w : Json} (hv : v.Plain) (hw : w.Plain) {x y : Bytes} (hx : Stops x)
    (hy : Stops y) (h : write F v ++ x = write F w ++ y) : v = w ∧ x = y := by
  have hkind : v.kind = w.kind := by
    obtain ⟨b, r, hb, hkb⟩ := write_head (F := F) hv
    obtain ⟨c, t, hc, hkc⟩ := write_head (F := F) hw
    rw [hb, hc] at h
    rw [← hkb, ← hkc, (List.cons.inj h).1]
  cases v with
  | null =>
    cases w with
    | null => exact ⟨rfl, List.append_cancel_left h⟩
    | _ => cases hkind
  | bool b =>
    cases w with
    | bool c =>
      cases b with
      | true =>
        cases c with
        | true => exact ⟨rfl, List.append_cancel_left h⟩
        | false => exact absurd (List.cons.inj h).1 (by decide)
      | false =>
        cases c with
        | true => exact absurd (List.cons.inj h).1 (by decide)
        | false => exact ⟨rfl, List.append_cancel_left h⟩
    | _ => cases hkind
  | int m =>
    cases w with
    | int n =>
      obtain ⟨rfl, hxy⟩ := number_append_inj hx hy h
      exact ⟨rfl, hxy⟩
    | _ => cases hkind
  | float b => exact hv.elim
  | str s =>
    cases w with
    | str t =>
      obtain ⟨rfl, hxy⟩ := quoted_append_inj h
      exact ⟨rfl, hxy⟩
    | _ => cases hkind
  | arr items =>
    cases w with
    | arr items' =>
      have hrest : commaSep (items.map (write F)) ++ 93 :: x =
          commaSep (items'.map (write F)) ++ 93 :: y := by
        simpa [write, writeAll_eq] using h
      have hvs := plainAll_iff.mp hv
      have hws := plainAll_iff.mp hw
      obtain ⟨rfl, hxy⟩ := commaSep_append_inj (.inl rfl) (fun a ha => opens_write (hvs a ha))
        (fun a ha => opens_write (hws a ha))
        (fun a ha b hb _ _ hx hy => items_append_inj hv a ha (hws b hb) hx hy) hrest
      exact ⟨rfl, hxy⟩
    | _ => cases hkind
  | obj members =>
    cases w with
    | obj members' =>
      have hrest : commaSep (members.map (memberText F)) ++ 125 :: x =
          commaSep (members'.map (memberText F)) ++ 125 :: y := by
        simpa [write, writeMembers_eq] using h
      have hns := plainMembers_iff.mp hw
      have hopens : ∀ m : String × Json, Opens (memberText F m) := fun m =>
        ⟨34, _, rfl, by decide, by decide⟩
      obtain ⟨rfl, hxy⟩ := commaSep_append_inj (.inr rfl) (fun a _ => hopens a)
        (fun a _ => hopens a)
        (fun a ha b hb _ _ hx hy => members_append_inj hv a ha (hns b hb) hx hy) hrest
      exact ⟨rfl, hxy⟩
    | _ => cases hkind

/-- The items of an array are read off. -/
theorem items_append_inj {vs : List Json} (hvs : PlainAll vs) : ∀ v ∈ vs, ∀ {w : Json}, w.Plain →
    ∀ {x y : Bytes}, Stops x → Stops y → write F v ++ x = write F w ++ y → v = w ∧ x = y := by
  cases vs with
  | nil => exact fun _ h => absurd h List.not_mem_nil
  | cons u vs =>
    intro v hv w hw x y hx hy h
    rcases List.mem_cons.mp hv with heq | hv
    · rw [heq] at h ⊢
      exact write_append_inj hvs.1 hw hx hy h
    · exact items_append_inj hvs.2 v hv hw hx hy h

/-- The members of an object are read off. -/
theorem members_append_inj {ms : List (String × Json)} (hms : PlainMembers ms) : ∀ m ∈ ms,
    ∀ {n : String × Json}, n.2.Plain → ∀ {x y : Bytes}, Stops x → Stops y →
      memberText F m ++ x = memberText F n ++ y → m = n ∧ x = y := by
  cases ms with
  | nil => exact fun _ h => absurd h List.not_mem_nil
  | cons u ms =>
    obtain ⟨k, v⟩ := u
    intro m hm n hn x y hx hy h
    rcases List.mem_cons.mp hm with heq | hm
    · obtain ⟨k', w⟩ := n
      rw [heq, memberText, memberText, List.append_assoc, List.append_assoc] at h
      rw [heq]
      obtain ⟨rfl, hrest⟩ := quoted_append_inj h
      obtain ⟨rfl, hxy⟩ := write_append_inj hms.1 hn hx hy (List.cons.inj hrest).2
      exact ⟨rfl, hxy⟩
    · exact members_append_inj hms.2 m hm hn hx hy h

end

/-- **A value is determined by its text.** -/
theorem write_injective {v w : Json} (hv : v.Plain) (hw : w.Plain) (h : write F v = write F w) :
    v = w := by
  have hnil : Stops [] := fun b hb => by cases hb
  have happ : write F v ++ [] = write F w ++ [] := by
    rw [h]
  exact (write_append_inj hv hw hnil hnil happ).1

end Json

end RemoteLink.Library
