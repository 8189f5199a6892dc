import RemoteLink.Net.Transport
import RemoteLink.Platform.SoftwareEncoder

set_option autoImplicit false

/-!
# Keyframes on the receiving side

The track does not carry the keyframe flag of a unit. The receiver scans the bytes for start codes
and looks for the header of an IDR slice behind them. A start code that is found takes the byte
behind it along, and the scan stops when fewer than five bytes are left.

## Main definitions

* `isH264Keyframe` — the scan.
* `SpellsIdr` — the bytes have an IDR header where a scan finds it.
* `annexBUnits` — NAL units behind start codes of three or four bytes.

## Main results

* `isH264Keyframe_iff` — what the scan finds, in any bytes.
* `isH264Keyframe_annexBUnits` — what it finds in NAL units.
* `keyframe_flag_iff` — when the flag of the receiver is right.
-/

namespace RemoteLink.Net

open Library
open Media (PreviewSample EncodedAccessUnit)
open Platform (CapturedFrame MockSoftwareEncoder.encode previewPixels)

/-! ## The scan -/

/-- Whether a NAL header is that of an IDR slice. -/
def isIdr (nal : UInt8) : Bool := nal &&& 0x1f == 5

/-- **The scan for an IDR header**, by the bytes that are left. The loop runs while there are more
than four of them: a start code of four bytes is seen with its header, one of three bytes only if
another byte follows its header. Both go on behind the header. -/
def isH264Keyframe : Bytes → Bool
  | 0 :: 0 :: 0 :: 1 :: nal :: rest => if isIdr nal then true else isH264Keyframe rest
  | 0 :: 0 :: 1 :: nal :: next :: rest =>
    if isIdr nal then true else isH264Keyframe (next :: rest)
  | _ :: rest => isH264Keyframe rest
  | [] => false

/-- The number of start codes directly behind each other at the end of some bytes, which are given
from the last to the first. -/
def codeRun : Bytes → ℕ
  | 1 :: 0 :: 0 :: rest => codeRun rest + 1
  | _ => 0

/-- An even number of start codes directly behind each other ends here. Every second one of such a
run is missed, since the one in front of it takes its first byte for a header. -/
def EvenRun (before : Bytes) : Prop := Even (codeRun before.reverse)

/-- A start code between some bytes, with a header in front of the latter, is found: by its three
bytes if the header is not the last byte, or by four if another zero is in front of them. -/
def Found (before rest : Bytes) : Prop :=
  EvenRun before ∧ rest ≠ [] ∨ ∃ b, before = b ++ [0] ∧ EvenRun b

/-- **The bytes have an IDR header where a scan finds it.** -/
def SpellsIdr (data : Bytes) : Prop :=
  ∃ before header rest, data = before ++ 0 :: 0 :: 1 :: header :: rest ∧ isIdr header = true ∧
    Found before rest

/-! ## What the scan finds -/

theorem codeRun_of_head {a : UInt8} (ha : a ≠ 1) (r : Bytes) : codeRun (a :: r) = 0 :=
  codeRun.eq_2 _ fun _ h => ha (List.cons.inj h).1

theorem codeRun_of_second {b : UInt8} (hb : b ≠ 0) (a : UInt8) (r : Bytes) :
    codeRun (a :: b :: r) = 0 :=
  codeRun.eq_2 _ fun _ h => hb (List.cons.inj (List.cons.inj h).2).1

theorem codeRun_of_third {c : UInt8} (hc : c ≠ 0) (a b : UInt8) (r : Bytes) :
    codeRun (a :: b :: c :: r) = 0 :=
  codeRun.eq_2 _ fun _ h => hc (List.cons.inj (List.cons.inj (List.cons.inj h).2).2).1

/-- **A run of start codes is as even as before** if bytes are put in front of it that end in an
even run, whatever part of a start code they are joined to. -/
theorem even_codeRun_append {s : Bytes} (hs : Even (codeRun s)) (hone : Even (codeRun (1 :: s)))
    {r : Bytes} (hzero : [1, 0] <:+ r → Even (codeRun (1 :: 0 :: s))) :
    Even (codeRun (r ++ s)) ↔ Even (codeRun r) := by
  induction r using codeRun.induct with
  | case1 rest ih =>
    have hrest : [1, 0] <:+ rest → Even (codeRun (1 :: 0 :: s)) := by
      intro hsuffix
      exact hzero (hsuffix.trans (List.suffix_append [1, 0, 0] rest))
    show Even (codeRun (rest ++ s) + 1) ↔ Even (codeRun rest + 1)
    rw [Nat.even_add_one, Nat.even_add_one, ih hrest]
  | case2 r hcode =>
    have hr : codeRun r = 0 := codeRun.eq_2 r hcode
    rw [hr]
    refine iff_of_true ?_ Even.zero
    match r, hcode, hzero with
    | [], _, _ => exact hs
    | [a], _, _ =>
      by_cases ha : a = 1
      · exact ha ▸ hone
      · exact codeRun_of_head ha s ▸ Even.zero
    | [a, b], _, hzero =>
      by_cases ha : a = 1
      · by_cases hb : b = 0
        · subst ha hb
          exact hzero List.suffix_rfl
        · exact codeRun_of_second hb a s ▸ Even.zero
      · exact codeRun_of_head ha (b :: s) ▸ Even.zero
    | a :: b :: c :: r, hcode, _ =>
      have hcode' : ∀ rest, a :: b :: c :: (r ++ s) = 1 :: 0 :: 0 :: rest → False := by
        intro rest h
        injection h with ha h
        injection h with hb h
        injection h with hc h
        exact hcode r (by rw [ha, hb, hc])
      exact codeRun.eq_2 _ hcode' ▸ Even.zero

/-- The run behind a start code and its header is as even as without them. -/
theorem evenRun_code {z : Bytes} (hz : EvenRun z) (nal : UInt8) (before : Bytes) :
    EvenRun (z ++ 0 :: 0 :: 1 :: nal :: before) ↔ EvenRun before := by
  have hreverse : (z ++ 0 :: 0 :: 1 :: nal :: before).reverse =
      before.reverse ++ nal :: 1 :: 0 :: 0 :: z.reverse := by simp
  unfold EvenRun at *
  rw [hreverse]
  apply even_codeRun_append
  · exact @codeRun_of_second 1 (by decide) nal _ ▸ Even.zero
  · exact @codeRun_of_third 1 (by decide) 1 nal _ ▸ Even.zero
  · intro _
    by_cases hnal : nal = 0
    · -- The header is the first byte of the next start code of the run.
      subst hnal
      show Even (codeRun z.reverse + 1 + 1)
      rwa [Nat.even_add_one, Nat.even_add_one, not_not]
    · exact codeRun_of_third hnal 1 0 _ ▸ Even.zero

/-- The run behind a byte is as even as without it, unless the byte completes a start code. -/
theorem evenRun_cons {x : UInt8} {before : Bytes} (h : x = 0 → ¬[0, 1] <+: before) :
    EvenRun (x :: before) ↔ EvenRun before := by
  unfold EvenRun
  rw [List.reverse_cons]
  apply even_codeRun_append
  · exact codeRun.eq_2 [x] (by simp) ▸ Even.zero
  · exact codeRun.eq_2 [1, x] (by simp) ▸ Even.zero
  · intro hsuffix
    have hx : x ≠ 0 := fun hx => h hx (List.reverse_suffix.mp (by simpa using hsuffix))
    exact codeRun_of_third hx 1 0 [] ▸ Even.zero

theorem not_evenRun_run {z : Bytes} (hz : EvenRun z) : ¬EvenRun (z ++ [0, 0, 1]) := by
  unfold EvenRun at *
  rw [List.reverse_append]
  show ¬Even (codeRun z.reverse + 1)
  rwa [Nat.even_add_one, not_not]

/-- A start code that follows a found one at once is missed. -/
theorem not_found_run {z : Bytes} (hz : EvenRun z) (rest : Bytes) :
    ¬Found (z ++ [0, 0, 1]) rest := by
  rintro (⟨heven, -⟩ | ⟨b, hb, -⟩)
  · exact not_evenRun_run hz heven
  · have hlast := congrArg List.getLast? hb
    rw [List.getLast?_append, List.getLast?_append] at hlast
    exact absurd (Option.some.inj hlast) (by decide)

/-- Behind a found start code and its header the scan starts anew. -/
theorem found_code {z : Bytes} (hz : EvenRun z) (nal : UInt8) (before rest : Bytes) :
    Found (z ++ 0 :: 0 :: 1 :: nal :: before) rest ↔ Found before rest := by
  unfold Found
  rw [evenRun_code hz]
  refine or_congr_right ⟨?_, ?_⟩
  · rintro ⟨b, hb, heven⟩
    rcases List.eq_nil_or_concat before with rfl | ⟨before, last, rfl⟩
    · -- The header is the zero, so the bytes in front of it end in a found start code.
      have hparts : z ++ [0, 0, 1] ++ [nal] = b ++ [0] := by simpa using hb
      obtain ⟨rfl, -⟩ := List.append_inj' hparts rfl
      exact (not_evenRun_run hz heven).elim
    · have hparts : z ++ 0 :: 0 :: 1 :: nal :: before ++ [last] = b ++ [0] := by simpa using hb
      obtain ⟨rfl, hlast⟩ := List.append_inj' hparts rfl
      rw [List.singleton_inj.mp hlast]
      exact ⟨before, by simp, (evenRun_code hz nal before).mp heven⟩
  · rintro ⟨b, rfl, heven⟩
    exact ⟨z ++ 0 :: 0 :: 1 :: nal :: b, by simp, (evenRun_code hz nal b).mpr heven⟩

/-- A byte in front changes nothing, unless it completes a start code. -/
theorem found_cons {x : UInt8} {before : Bytes} (hnil : before = [] → x ≠ 0)
    (hcode : x = 0 → ¬[0, 1] <+: before) (rest : Bytes) :
    Found (x :: before) rest ↔ Found before rest := by
  unfold Found
  rw [evenRun_cons hcode]
  refine or_congr_right ⟨?_, ?_⟩
  · rintro ⟨b, hb, heven⟩
    match b, hb with
    | [], hb =>
      obtain ⟨hx, hbefore⟩ := List.cons.inj hb
      exact (hnil hbefore hx).elim
    | a :: b, hb =>
      obtain ⟨rfl, rfl⟩ := List.cons.inj hb
      have hcode' : x = 0 → ¬[0, 1] <+: b := fun hx h =>
        hcode hx (h.trans (List.prefix_append b [0]))
      exact ⟨b, rfl, (evenRun_cons hcode').mp heven⟩
  · rintro ⟨b, rfl, heven⟩
    have hcode' : x = 0 → ¬[0, 1] <+: b := fun hx h => hcode hx (h.trans (List.prefix_append b [0]))
    exact ⟨x :: b, rfl, (evenRun_cons hcode').mpr heven⟩

/-- Where a start code is in bytes that begin with one. -/
theorem code_split {nal header : UInt8} {rest before tail : Bytes}
    (h : 0 :: 0 :: 1 :: nal :: rest = before ++ 0 :: 0 :: 1 :: header :: tail) :
    before = [] ∧ nal = header ∨ before = [0, 0, 1] ∨
      ∃ b, before = 0 :: 0 :: 1 :: nal :: b ∧ rest = b ++ 0 :: 0 :: 1 :: header :: tail := by
  match before with
  | [] =>
    simp only [List.nil_append, List.cons.injEq] at h
    exact .inl ⟨rfl, h.2.2.2.1⟩
  | [_] => simp at h
  | [_, _] => simp at h
  | [a, b, c] =>
    simp only [List.cons_append, List.cons.injEq] at h
    obtain ⟨rfl, rfl, rfl, -⟩ := h
    exact .inr (.inl rfl)
  | a :: b :: c :: d :: before =>
    simp only [List.cons_append, List.cons.injEq] at h
    obtain ⟨rfl, rfl, rfl, rfl, hrest⟩ := h
    exact .inr (.inr ⟨before, rfl, hrest⟩)

/-- Behind a found start code, what is spelled behind its header counts. -/
theorem spellsIdr_code {z : Bytes} (hz : z = [] ∨ z = [0]) {nal : UInt8}
    (hnal : ¬isIdr nal = true) {rest : Bytes} :
    SpellsIdr (z ++ 0 :: 0 :: 1 :: nal :: rest) ↔ SpellsIdr rest := by
  have heven : EvenRun z := by
    rcases hz with rfl | rfl
    · exact Even.zero
    · exact Even.zero
  constructor
  · rintro ⟨before, header, tail, hdata, hidr, hfound⟩
    obtain ⟨before, rfl⟩ : ∃ b, before = z ++ b := by
      rcases hz with rfl | rfl
      · exact ⟨before, rfl⟩
      · match before with
        | [] => simp at hdata
        | a :: before =>
          obtain ⟨rfl, -⟩ := List.cons.inj hdata
          exact ⟨before, rfl⟩
    rw [List.append_assoc, List.append_cancel_left_eq] at hdata
    rcases code_split hdata with ⟨-, rfl⟩ | rfl | ⟨b, rfl, rfl⟩
    · exact absurd hidr hnal
    · exact (not_found_run heven tail hfound).elim
    · exact ⟨b, header, tail, rfl, hidr, (found_code heven nal b tail).mp hfound⟩
  · rintro ⟨before, header, tail, rfl, hidr, hfound⟩
    exact ⟨z ++ 0 :: 0 :: 1 :: nal :: before, header, tail, by simp, hidr,
      (found_code heven nal before tail).mpr hfound⟩

/-- A byte that begins no found start code is passed over. -/
theorem spellsIdr_cons {x : UInt8} {rest : Bytes}
    (hfour : ∀ nal tail, x = 0 → rest = 0 :: 0 :: 1 :: nal :: tail → False)
    (hthree : ∀ nal next tail, x = 0 → rest = 0 :: 1 :: nal :: next :: tail → False) :
    SpellsIdr (x :: rest) ↔ SpellsIdr rest := by
  have hfound (before : Bytes) (header : UInt8) (tail : Bytes)
      (hrest : rest = before ++ 0 :: 0 :: 1 :: header :: tail) :
      Found (x :: before) tail ↔ Found before tail := by
    have hcode : x = 0 → ¬[0, 1] <+: before := by
      rintro hx ⟨middle, rfl⟩
      match middle, hrest with
      | [], hrest => exact hthree _ _ _ hx hrest
      | [_], hrest => exact hthree _ _ _ hx hrest
      | _ :: _ :: _, hrest => exact hthree _ _ _ hx hrest
    have hnil : before = [] → x ≠ 0 := fun hbefore hx => hfour _ _ hx (by rw [hrest, hbefore]; rfl)
    exact found_cons hnil hcode tail
  constructor
  · rintro ⟨before, header, tail, hdata, hidr, hbefore⟩
    match before with
    | [] =>
      obtain ⟨hx, hrest⟩ := List.cons.inj hdata
      rcases hbefore with ⟨-, htail⟩ | ⟨b, hb, -⟩
      · obtain ⟨next, tail, rfl⟩ := List.exists_cons_of_ne_nil htail
        exact (hthree _ _ _ hx hrest).elim
      · simp at hb
    | a :: before =>
      obtain ⟨rfl, hrest⟩ := List.cons.inj hdata
      exact ⟨before, header, tail, hrest, hidr, (hfound before header tail hrest).mp hbefore⟩
  · rintro ⟨before, header, tail, hrest, hidr, hbefore⟩
    exact ⟨x :: before, header, tail, congrArg (x :: ·) hrest, hidr,
      (hfound before header tail hrest).mpr hbefore⟩

/-- **The scan finds what the bytes spell, and nothing else.** -/
theorem isH264Keyframe_iff (data : Bytes) : isH264Keyframe data = true ↔ SpellsIdr data := by
  induction data using isH264Keyframe.induct with
  | case1 nal rest hidr =>
    rw [isH264Keyframe, if_pos hidr]
    exact iff_of_true rfl ⟨[0], nal, rest, rfl, hidr, .inr ⟨[], rfl, Even.zero⟩⟩
  | case2 nal rest hidr ih =>
    rw [isH264Keyframe, if_neg hidr, ih]
    exact (@spellsIdr_code [0] (.inr rfl) nal hidr rest).symm
  | case3 nal next rest hidr =>
    rw [isH264Keyframe, if_pos hidr]
    exact iff_of_true rfl
      ⟨[], nal, next :: rest, rfl, hidr, .inl ⟨Even.zero, List.cons_ne_nil next rest⟩⟩
  | case4 nal next rest hidr ih =>
    rw [isH264Keyframe, if_neg hidr, ih]
    exact (@spellsIdr_code [] (.inl rfl) nal hidr (next :: rest)).symm
  | case5 x rest hfour hthree ih =>
    rw [isH264Keyframe.eq_3 x rest hfour hthree, ih]
    exact (spellsIdr_cons hfour hthree).symm
  | case6 =>
    refine iff_of_false Bool.false_ne_true ?_
    rintro ⟨before, header, tail, hdata, -⟩
    simp at hdata

/-! ## NAL units -/

/-- A NAL unit behind a start code of three or four bytes: its header and its body, in which no
start code is. -/
structure NalUnit where
  fourByte : Bool
  header : UInt8
  body : Bytes
  free : ¬[0, 0, 1] <:+: header :: body

/-- The bytes of some NAL units, each behind its start code. -/
def annexBUnits (units : List NalUnit) : Bytes :=
  units.flatMap fun u => (if u.fourByte then [0, 0, 0, 1] else [0, 0, 1]) ++ u.header :: u.body

/-- Whether some bytes end in a zero. -/
def endsInZero (body : Bytes) : Bool := body.getLast? == some 0

/-- **The only IDR slice is a bare header at the end**, behind a start code of three bytes with no
other zero in front of it. `zero` says whether there is one in front of the units. -/
def bareIdrLast (zero : Bool) : List NalUnit → Bool
  | [] => false
  | [u] => isIdr u.header && !zero && !u.fourByte && u.body.isEmpty
  | u :: v :: units => !isIdr u.header && bareIdrLast (endsInZero u.body) (v :: units)

/-- A zero, if there is one. -/
def zeroIf (zero : Bool) : Bytes := if zero then [0] else []

/-- Units begin with two zeros. -/
theorem annexBUnits_cases (units : List NalUnit) :
    annexBUnits units = [] ∨ ∃ tail, annexBUnits units = 0 :: 0 :: tail := by
  cases units with
  | nil => exact .inl rfl
  | cons u units =>
    refine .inr ?_
    obtain ⟨fourByte, header, body, free⟩ := u
    cases fourByte with
    | false => exact ⟨_, rfl⟩
    | true => exact ⟨_, rfl⟩

/-- No start code begins in bytes without one, whatever units are behind them. -/
theorem append_annexBUnits_ne {body : Bytes} (hbody : body ≠ []) (hfree : ¬[0, 0, 1] <:+: body)
    (units : List NalUnit) (tail : Bytes) : body ++ annexBUnits units ≠ 0 :: 0 :: 1 :: tail := by
  intro h
  rcases annexBUnits_cases units with hunits | ⟨next, hunits⟩
  · rw [hunits, List.append_nil] at h
    exact hfree ⟨[], tail, h.symm⟩
  · rw [hunits] at h
    match body, hbody, hfree, h with
    | [_], _, _, h => simp at h
    | [_, _], _, _, h => simp at h
    | a :: b :: c :: body, _, hfree, h =>
      simp only [List.cons_append, List.cons.injEq] at h
      obtain ⟨rfl, rfl, rfl, -⟩ := h
      exact hfree ⟨[], body, rfl⟩

/-- The scan passes over a body without a start code, up to a zero at its end. -/
theorem isH264Keyframe_body {body : Bytes} (hfree : ¬[0, 0, 1] <:+: body) (units : List NalUnit) :
    isH264Keyframe (body ++ annexBUnits units) =
      isH264Keyframe (zeroIf (endsInZero body) ++ annexBUnits units) := by
  induction body with
  | nil => rfl
  | cons x body ih =>
    have hrest : ¬[0, 0, 1] <:+: body := fun h => hfree (h.trans (List.suffix_cons x body).isInfix)
    have hthree (nal next : UInt8) (tail : Bytes) (hx : x = 0)
        (hbody : body ++ annexBUnits units = 0 :: 1 :: nal :: next :: tail) : False := by
      refine append_annexBUnits_ne (List.cons_ne_nil x body) hfree units (nal :: next :: tail) ?_
      rw [List.cons_append, hbody, hx]
    rcases eq_or_ne body [] with rfl | hbody
    · by_cases hx : x = 0
      · rw [hx]
        rfl
      · have htail : endsInZero [x] = false := beq_false_of_ne fun h => hx (Option.some.inj h)
        rw [htail, List.cons_append, isH264Keyframe.eq_3 _ _ (fun _ _ h => (hx h).elim) hthree]
        rfl
    · have hfour (nal : UInt8) (tail : Bytes) (_ : x = 0)
          (hcode : body ++ annexBUnits units = 0 :: 0 :: 1 :: nal :: tail) : False :=
        append_annexBUnits_ne hbody hrest units (nal :: tail) hcode
      have htail : endsInZero (x :: body) = endsInZero body := by
        unfold endsInZero
        rw [List.getLast?_cons_of_ne_nil hbody]
      rw [htail, List.cons_append, isH264Keyframe.eq_3 _ _ hfour hthree, ih hrest]

/-- The scan of a start code and its header: they are seen if another byte is behind them or another
zero in front. -/
theorem isH264Keyframe_code (zero fourByte : Bool) (header : UInt8) (rest : Bytes) :
    isH264Keyframe (zeroIf zero ++ ((if fourByte then [0, 0, 0, 1] else [0, 0, 1]) ++
        header :: rest)) =
      (isIdr header && (zero || fourByte || !rest.isEmpty) || isH264Keyframe rest) := by
  have hfour : isH264Keyframe (0 :: 0 :: 0 :: 1 :: header :: rest) =
      (isIdr header || isH264Keyframe rest) := by
    rw [isH264Keyframe]
    cases isIdr header <;> rfl
  cases zero with
  | false =>
    cases fourByte with
    | false =>
      cases rest with
      | nil => simp [zeroIf, isH264Keyframe]
      | cons next rest =>
        have hthree : isH264Keyframe (0 :: 0 :: 1 :: header :: next :: rest) =
            (isIdr header || isH264Keyframe (next :: rest)) := by
          rw [isH264Keyframe]
          cases isIdr header <;> rfl
        simpa [zeroIf] using hthree
    | true => simpa [zeroIf] using hfour
  | true =>
    cases fourByte with
    | false => simpa [zeroIf] using hfour
    | true =>
      have hskip : isH264Keyframe (0 :: 0 :: 0 :: 0 :: 1 :: header :: rest) =
          isH264Keyframe (0 :: 0 :: 0 :: 1 :: header :: rest) :=
        isH264Keyframe.eq_3 _ _ (by simp) (by simp)
      simpa [zeroIf] using hskip.trans hfour

/-- The units are the first one and the others. -/
theorem annexBUnits_cons (u : NalUnit) (units : List NalUnit) :
    annexBUnits (u :: units) = (if u.fourByte then [0, 0, 0, 1] else [0, 0, 1]) ++
      u.header :: (u.body ++ annexBUnits units) := by
  simp [annexBUnits]

/-- **The scan of NAL units finds the IDR slices among them**, except for a bare one at the end. -/
theorem isH264Keyframe_annexBUnits (zero : Bool) (units : List NalUnit) :
    isH264Keyframe (zeroIf zero ++ annexBUnits units) =
      (units.any (isIdr ·.header) && !bareIdrLast zero units) := by
  induction units generalizing zero with
  | nil => cases zero <;> rfl
  | cons u units ih =>
    have hbody : ¬[0, 0, 1] <:+: u.body := fun h =>
      u.free (h.trans (List.suffix_cons u.header u.body).isInfix)
    rw [annexBUnits_cons, isH264Keyframe_code, isH264Keyframe_body hbody, ih]
    cases units with
    | nil =>
      have hnil : annexBUnits [] = [] := rfl
      simp only [hnil, List.append_nil, List.any_cons, List.any_nil, bareIdrLast]
      cases isIdr u.header <;> cases zero <;> cases u.fourByte <;> cases u.body.isEmpty <;> rfl
    | cons v units =>
      have hne : (u.body ++ annexBUnits (v :: units)).isEmpty = false := by
        rw [annexBUnits_cons]
        cases v.fourByte <;> simp
      rw [hne, bareIdrLast, List.any_cons]
      cases hidr : isIdr u.header with
      | false => simp [hidr]
      | true => simp [hidr]

theorem any_of_bareIdrLast {zero : Bool} {units : List NalUnit}
    (h : bareIdrLast zero units = true) : units.any (isIdr ·.header) = true := by
  induction zero, units using bareIdrLast.induct with
  | case1 zero => cases h
  | case2 zero u =>
    simp only [bareIdrLast, Bool.and_eq_true] at h
    simp [h.1.1.1]
  | case3 zero u v units ih =>
    simp only [bareIdrLast, Bool.and_eq_true] at h
    rw [List.any_cons, ih h.2, Bool.or_true]

/-- **The scan tells whether there is an IDR slice** exactly when the only one is not a bare header
at the end. -/
theorem units_agree_iff (units : List NalUnit) :
    (isH264Keyframe (annexBUnits units) = true ↔ ∃ u ∈ units, isIdr u.header = true) ↔
      bareIdrLast false units = false := by
  have hscan := isH264Keyframe_annexBUnits false units
  rw [show zeroIf false = [] from rfl, List.nil_append] at hscan
  rw [hscan, ← List.any_eq_true]
  cases hbare : bareIdrLast false units with
  | false => simp
  | true => simp [any_of_bareIdrLast hbare]

/-! ## Units of the encoder -/

/-- What is behind the magic of a slice: its parameters and its pixels. -/
def slicePayload (e : Media.MockSoftwareEncoder) (preview : PreviewSample) : Bytes :=
  le 8 e.framesEncoded.toNat ++ le 4 preview.width ++ le 4 preview.height ++ [preview.bpp] ++
    le 4 e.targetBitrateBps.toNat ++ le 4 preview.pixels.length ++ preview.pixels

/-- What the receiver makes of a unit. -/
def receivedVideo (packetTimestamp : UInt32) (data : Bytes) : VideoNalu where
  ptsHostMono := 0
  rtpTs := some packetTimestamp
  keyframe := isH264Keyframe data
  format := .annexB
  data

/-- **A unit has to be a keyframe, or its slice spells no IDR header.** -/
def FlagSurvives (previewSize : ℕ → ℕ → ℕ × ℕ) (e : Media.MockSoftwareEncoder)
    (frame : CapturedFrame) (force : Bool) : Prop :=
  e.shouldKeyframe force = true ∨
    ∀ preview, previewPixels previewSize frame.toVideoFrame = some preview →
      ¬SpellsIdr (slicePayload e preview)

section

variable (e : Media.MockSoftwareEncoder) (preview : PreviewSample)

/-- **A keyframe is always seen**: no parameter hides the slice behind the second parameter set. -/
theorem isH264Keyframe_keyframe : isH264Keyframe (e.accessUnit preview true) = true := by
  obtain ⟨rest, hdata⟩ : ∃ rest, e.accessUnit preview true =
      e.buildSps preview.width preview.height ++ [0, 0, 0, 1, 0x68, 0] ++ [0] ++
        0 :: 0 :: 1 :: 0x65 :: rest := by
    rw [Media.accessUnit_split, Media.append_buildSlice]
    exact ⟨_, by simp [Media.MockSoftwareEncoder.buildPps, Media.annexbNal]; rfl⟩
  refine (isH264Keyframe_iff _).mpr ⟨_, 0x65, rest, hdata, rfl, .inr ⟨_, rfl, ?_⟩⟩
  unfold EvenRun
  rw [List.reverse_append]
  exact Even.zero

/-- Another unit is seen as a keyframe if its parameters and pixels spell one. -/
theorem isH264Keyframe_delta :
    isH264Keyframe (e.accessUnit preview false) = isH264Keyframe (slicePayload e preview) := by
  have hdata : e.accessUnit preview false =
      [0, 0, 0, 1, 0x41, 0x4D, 0x48, 0x32, 0x36, 0x34] ++ slicePayload e preview := by
    have hparts := Media.append_buildSlice e preview false e.framesEncoded []
    simp only [List.nil_append] at hparts
    unfold slicePayload
    simp only [List.append_assoc]
    exact hparts
  have hskip {x : UInt8} (hx : x ≠ 0) (rest : Bytes) :
      isH264Keyframe (x :: rest) = isH264Keyframe rest :=
    isH264Keyframe.eq_3 x rest (fun _ _ h => (hx h).elim) fun _ _ _ h => (hx h).elim
  have hheader : ¬isIdr 0x41 = true := by decide
  rw [hdata]
  simp only [List.cons_append, List.nil_append]
  rw [isH264Keyframe, if_neg hheader, hskip (by decide), hskip (by decide), hskip (by decide),
    hskip (by decide), hskip (by decide)]

/-- **The receiver sees the flag of the encoder** exactly when it survives. -/
theorem keyframe_eq_iff {previewSize : ℕ → ℕ → ℕ × ℕ} {e e' : Media.MockSoftwareEncoder}
    {frame : CapturedFrame} {force : Bool} {unit : EncodedAccessUnit}
    (h : MockSoftwareEncoder.encode previewSize e frame force = some (.ok unit, e')) :
    isH264Keyframe unit.data = unit.keyframe ↔ FlagSurvives previewSize e frame force := by
  unfold MockSoftwareEncoder.encode at h
  cases hframe : Platform.validateFrame frame.toVideoFrame with
  | error reason =>
    simp only [hframe, Option.some.injEq, Prod.mk.injEq, reduceCtorEq, false_and] at h
  | ok _ =>
    simp only [hframe, Option.map_eq_some_iff, Prod.mk.injEq, Except.ok.injEq] at h
    obtain ⟨preview, hpreview, rfl, -⟩ := h
    unfold FlagSurvives
    rw [hpreview]
    simp only [Option.some.injEq, forall_eq']
    rw [← isH264Keyframe_iff]
    change isH264Keyframe (Media.MockSoftwareEncoder.accessUnit _ preview
      (e.shouldKeyframe force)) = e.shouldKeyframe force ↔ _
    cases e.shouldKeyframe force with
    | false =>
      rw [isH264Keyframe_delta, or_iff_right Bool.false_ne_true, Bool.not_eq_true]
      exact Iff.rfl
    | true => exact iff_of_true (isH264Keyframe_keyframe _ preview) (.inl rfl)

end

/-! ## The flag -/

/-- **The flag of the receiver is right** for a unit of the encoder exactly when the unit is a
keyframe or its slice spells no IDR header, and for NAL units exactly when the only IDR slice is not
a bare header at the end. -/
theorem keyframe_flag_iff {previewSize : ℕ → ℕ → ℕ × ℕ} {e e' : Media.MockSoftwareEncoder}
    {frame : CapturedFrame} {force : Bool} {unit : EncodedAccessUnit}
    (h : MockSoftwareEncoder.encode previewSize e frame force = some (.ok unit, e'))
    (packetTimestamp : UInt32) (units : List NalUnit) :
    ((receivedVideo packetTimestamp unit.data).keyframe = unit.keyframe ↔
        FlagSurvives previewSize e frame force) ∧
      (((receivedVideo packetTimestamp (annexBUnits units)).keyframe = true ↔
          ∃ u ∈ units, isIdr u.header = true) ↔ bareIdrLast false units = false) :=
  ⟨keyframe_eq_iff h, units_agree_iff units⟩

/-- The encoder after its first frame. -/
def deltaEncoder : Media.MockSoftwareEncoder :=
  { Platform.demoEncoder with
    width := 1
    height := 2
    framesEncoded := 1
    keyframePending := false }

/-- A parameter set and an IDR slice behind start codes of three bytes. -/
def sliceUnits : List NalUnit :=
  [⟨false, 0x67, [0x42], by decide⟩, ⟨false, 0x65, [0x88], by decide⟩]

/-- The flag of a unit without a start code in its slice. -/
theorem keyframe_flag_delta :
    ∃ unit : EncodedAccessUnit, (receivedVideo 0 unit.data).keyframe = unit.keyframe ∧
      (receivedVideo 0 (annexBUnits sliceUnits)).keyframe = true := by
  obtain ⟨unit, e', h⟩ : ∃ unit e', MockSoftwareEncoder.encode (fun w h => (w, h)) deltaEncoder
      Platform.tightCapture false = some (.ok unit, e') := ⟨_, _, rfl⟩
  have hflag := keyframe_flag_iff h 0 sliceUnits
  refine ⟨unit, hflag.1.mpr ?_, (hflag.2.mpr rfl).mpr ⟨_, List.mem_cons_of_mem _ (.head _), rfl⟩⟩
  refine .inr fun preview hpreview => ?_
  have hwhole : Platform.wholePreview Platform.tightCapture.toVideoFrame = preview :=
    Option.some.inj hpreview
  rw [← hwhole, ← isH264Keyframe_iff]
  decide

/-- Two pixels that spell an IDR header. -/
def spellingCapture : CapturedFrame where
  width := 1
  height := 2
  stride := 4
  format := .bgra8
  data := [0, 0, 1, 0x65, 0, 0, 0, 255]
  ptsHostMono := 33

/-- A bare IDR slice. -/
def bareUnits : List NalUnit := [⟨false, 0x65, [], by decide⟩]

/-- **Pixels can spell a keyframe, and a bare IDR slice is missed.** -/
theorem keyframe_flag_wrong :
    (∃ first unit e₁ e₂, MockSoftwareEncoder.encode (fun w h => (w, h)) Platform.demoEncoder
          Platform.tightCapture false = some (.ok first, e₁) ∧
        MockSoftwareEncoder.encode (fun w h => (w, h)) e₁ spellingCapture false =
          some (.ok unit, e₂) ∧
        unit.keyframe = false ∧ (receivedVideo 0 unit.data).keyframe = true) ∧
      (∃ u ∈ bareUnits, isIdr u.header = true) ∧
        (receivedVideo 0 (annexBUnits bareUnits)).keyframe = false :=
  ⟨⟨_, _, _, _, rfl, rfl, rfl, by decide⟩, ⟨_, .head _, rfl⟩, rfl⟩

end RemoteLink.Net
