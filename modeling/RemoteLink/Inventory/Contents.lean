import RemoteLink.Inventory.ScanLine

set_option autoImplicit false

/-!
# Contents of literals and comments

What literals and comments say does not matter to what the inventory keeps of the lines of a source
exactly if no character literal and no block comment is in it.

## Main definitions

* `SameSkeleton` — sources that differ in the contents of literals and comments only.

## Main results

* `codeLines_eq_of_sameSkeleton` — contents do not matter to the code of a line.
* `scanLines_contents_iff` — contents do not matter to the scan exactly without the lexemes that it
  does not know.
-/

namespace RemoteLink.Inventory

open Library

/-! ## Sources with the same skeleton -/

/-- A lexeme with nothing but the line feeds of what is between its delimiters. -/
def Lexeme.hollow : Lexeme → Lexeme
  | code c => code c
  | str body => str (List.replicate (body.count '\n') '\n')
  | rawStr hashes body => rawStr hashes (List.replicate (body.count '\n') '\n')
  | charLit _ => charLit []
  | lineComment _ => lineComment []
  | blockComment body => blockComment (List.replicate (body.count '\n') '\n')

/-- Two sources differ in the contents of literals and comments only, and their lines do not. -/
def SameSkeleton (source source' : List Lexeme) : Prop :=
  source.map Lexeme.hollow = source'.map Lexeme.hollow

instance (source source' : List Lexeme) : Decidable (SameSkeleton source source') :=
  inferInstanceAs (Decidable (source.map Lexeme.hollow = source'.map Lexeme.hollow))

theorem codeSegments_hollow (tail : List ScannedLine) (source : List Lexeme) :
    codeSegments tail (source.map Lexeme.hollow) = codeSegments tail source := by
  induction source with
  | nil => rfl
  | cons x source ih =>
    cases x with
    | code c => rw [List.map_cons, Lexeme.hollow, codeSegments, codeSegments, ih]
    | str body =>
      rw [List.map_cons, Lexeme.hollow, codeSegments, codeSegments, ih, List.count_replicate_self]
    | rawStr hashes body =>
      rw [List.map_cons, Lexeme.hollow, codeSegments, codeSegments, ih, List.count_replicate_self]
    | charLit body => rw [List.map_cons, Lexeme.hollow, codeSegments, codeSegments, ih]
    | lineComment body => rw [List.map_cons, Lexeme.hollow, codeSegments, codeSegments, ih]
    | blockComment body =>
      rw [List.map_cons, Lexeme.hollow, codeSegments, codeSegments, ih, List.count_replicate_self]

theorem endsLine_hollow (source : List Lexeme) :
    endsLine (source.map Lexeme.hollow) = endsLine source := by
  unfold endsLine
  rw [List.getLast?_map]
  cases source.getLast? with
  | none => rfl
  | some x => cases x <;> rfl

/-- **What literals and comments say does not matter** to the code of a line. -/
theorem codeLines_eq_of_sameSkeleton {source source' : List Lexeme}
    (h : SameSkeleton source source') : codeLines source = codeLines source' := by
  unfold codeLines
  rw [← codeSegments_hollow, ← endsLine_hollow, h, codeSegments_hollow, endsLine_hollow]

/-- Sources with the same lexemes are both without the ones that are misread. -/
theorem Scanned.of_sameSkeleton {source source' : List Lexeme} (hscanned : Scanned source)
    (h : SameSkeleton source source') : Scanned source' := by
  have hhollow (x : Lexeme) : x.hollow.isScanned = x.isScanned := by
    cases x <;> rfl
  intro y hy
  obtain ⟨x, hx, hxy⟩ := List.mem_map.mp (h ▸ List.mem_map_of_mem (f := Lexeme.hollow) hy)
  rw [← hhollow, ← hxy, hhollow]
  exact hscanned x hx

/-! ## What is seen of lines -/

/-- The code of lines, without white space. -/
def visible (lines : List ScannedLine) : List Char :=
  (lines.flatMap ScannedLine.code).filter fun c => !Text.isWhitespace c

theorem visible_cons (line : ScannedLine) (lines : List ScannedLine) :
    visible (line :: lines) =
      line.code.filter (fun c => !Text.isWhitespace c) ++ visible lines := by
  unfold visible
  rw [List.flatMap_cons, List.filter_append]

theorem visible_append (lines lines' : List ScannedLine) :
    visible (lines ++ lines') = visible lines ++ visible lines' := by
  unfold visible
  rw [List.flatMap_append, List.filter_append]

/-- Lines without code are not seen. -/
theorem visible_blank (n : ℕ) (state : StringState) (lines : List ScannedLine) :
    visible (List.replicate n (blankLine state) ++ lines) = visible lines := by
  induction n with
  | zero => rfl
  | succ n ih => exact ih

/-- A character of code is seen unless it is white space. -/
theorem visible_addCode (c : Char) {lines : List ScannedLine} (hlines : lines ≠ []) :
    visible (addCode c lines) = [c].filter (fun d => !Text.isWhitespace d) ++ visible lines := by
  cases lines with
  | nil => exact absurd rfl hlines
  | cons line lines =>
    rw [addCode, visible_cons, visible_cons, ← List.append_assoc, ← List.filter_append]
    rfl

theorem filter_dropWhile (code : List Char) :
    (code.dropWhile Text.isWhitespace).filter (fun c => !Text.isWhitespace c) =
      code.filter fun c => !Text.isWhitespace c := by
  induction code with
  | nil => rfl
  | cons c code ih =>
    rw [List.dropWhile_cons]
    split_ifs with hc
    · rw [ih, List.filter_cons_of_neg (by simp [hc])]
    · rfl

/-- Trimmed code is seen as before. -/
theorem visible_trimmed (lines : List ScannedLine) :
    visible (lines.map ScannedLine.trimmed) = visible lines := by
  induction lines with
  | nil => rfl
  | cons line lines ih =>
    have hline : (Text.trimChars line.code).filter (fun c => !Text.isWhitespace c) =
        line.code.filter fun c => !Text.isWhitespace c := by
      unfold Text.trimChars
      rw [List.filter_reverse, filter_dropWhile, List.filter_reverse, List.reverse_reverse,
        filter_dropWhile]
    rw [List.map_cons, visible_cons, visible_cons, ih]
    exact congrArg (· ++ visible lines) hline

/-- A part without characters behind the last line feed is not seen. -/
theorem scanRaw_concat (state : StringState) (segments : List (List Char)) :
    ∃ last, scanRaw state 0 (segments ++ [[]]) = scanRaw state 0 segments ++ [blankLine last] := by
  induction segments generalizing state with
  | nil => exact ⟨state, by cases state <;> rfl⟩
  | cons line segments ih =>
    obtain ⟨last, hlast⟩ := ih (scanChars state 0 line).2.2
    exact ⟨last, congrArg (_ :: ·) hlast⟩

/-- **What is seen of the lines of a text** is what is seen of its parts between line feeds. -/
theorem visible_scanLines (text : List Char) :
    visible (scanLines .code (lines text)) = visible (scanText .code 0 text) := by
  unfold lines scanText
  rw [scanLines_endLines, visible_trimmed]
  split_ifs with hlast
  · obtain ⟨init, hinit⟩ : ∃ init, splitLines text = init ++ [[]] :=
      List.getLast?_eq_some_iff.mp hlast
    obtain ⟨state, hscan⟩ := scanRaw_concat .code init
    rw [hinit, hscan, List.dropLast_concat, visible_append]
    exact (List.append_nil _).symm
  · rfl

/-- The scan of a text has a line. -/
theorem scanText_ne_nil (state : StringState) (text : List Char) : scanText state 0 text ≠ [] := by
  unfold scanText
  cases hsplit : splitLines text with
  | nil => exact absurd hsplit (splitLines_ne_nil text)
  | cons line others => exact List.cons_ne_nil _ _

theorem codeSegments_ne_nil {tail : List ScannedLine} (htail : tail ≠ []) (front : List Lexeme) :
    codeSegments tail front ≠ [] := by
  induction front with
  | nil => exact htail
  | cons x front ih =>
    cases x with
    | code c =>
      unfold codeSegments
      split_ifs
      · exact List.cons_ne_nil _ _
      · cases hsegments : codeSegments tail front with
        | nil => exact absurd hsegments ih
        | cons line others => exact List.cons_ne_nil _ _
    | str body => exact List.append_ne_nil_of_right_ne_nil _ ih
    | rawStr hashes body => exact List.append_ne_nil_of_right_ne_nil _ ih
    | charLit body => exact ih
    | lineComment body => exact ih
    | blockComment body => exact List.append_ne_nil_of_right_ne_nil _ ih

/-- **What is seen behind some lexemes** is seen in the whole. -/
theorem visible_codeSegments_inj {tail tail' : List ScannedLine} (htail : tail ≠ [])
    (htail' : tail' ≠ []) {front : List Lexeme}
    (h : visible (codeSegments tail front) = visible (codeSegments tail' front)) :
    visible tail = visible tail' := by
  induction front with
  | nil => exact h
  | cons x front ih =>
    refine ih ?_
    cases x with
    | code c =>
      unfold codeSegments at h
      split_ifs at h
      · exact h
      · rw [visible_addCode c (codeSegments_ne_nil htail front),
          visible_addCode c (codeSegments_ne_nil htail' front)] at h
        exact List.append_cancel_left h
    | str body =>
      rw [codeSegments, codeSegments, visible_blank, visible_blank] at h
      exact h
    | rawStr hashes body =>
      rw [codeSegments, codeSegments, visible_blank, visible_blank] at h
      exact h
    | charLit body => exact h
    | lineComment body => exact h
    | blockComment body =>
      rw [codeSegments, codeSegments, visible_blank, visible_blank] at h
      exact h

/-! ## Other contents -/

/-- A lexeme that the scanner does not know, with other content: a letter and the line feeds. -/
def Lexeme.lettered (letter : Char) : Lexeme → Lexeme
  | charLit _ => charLit [letter]
  | blockComment body => blockComment (letter :: List.replicate (body.count '\n') '\n')
  | x => x

section

variable {x : Lexeme} {letter : Char}

/-- A letter and line feeds close no comment. -/
theorem closesComments_lettered (hletter : letter = 'a' ∨ letter = 'b') (n : ℕ) :
    Lexeme.closesComments 1 (letter :: List.replicate n '\n' ++ ['*', '/']) = true := by
  have hfeeds : Lexeme.closesComments 1 (List.replicate n '\n' ++ ['*', '/']) = true := by
    induction n with
    | zero => rfl
    | succ n ih => exact ih
  rcases hletter with rfl | rfl
  · exact hfeeds
  · exact hfeeds

theorem Lexeme.wellFormed_lettered (hletter : letter = 'a' ∨ letter = 'b') (hx : x.WellFormed) :
    (x.lettered letter).WellFormed := by
  cases x with
  | charLit body => rcases hletter with rfl | rfl <;> rfl
  | blockComment body => exact closesComments_lettered hletter _
  | code c => exact hx
  | str body => exact hx
  | rawStr hashes body => exact hx
  | lineComment body => exact hx

theorem Lexeme.hollow_lettered (hletter : letter = 'a' ∨ letter = 'b') (x : Lexeme) :
    (x.lettered letter).hollow = x.hollow := by
  have hne : letter ≠ '\n' := by
    rcases hletter with rfl | rfl <;> decide
  cases x with
  | blockComment body =>
    rw [lettered, hollow, hollow, List.count_cons_of_ne hne, List.count_replicate_self]
  | code c => rfl
  | str body => rfl
  | rawStr hashes body => rfl
  | charLit body => rfl
  | lineComment body => rfl

/-- What a lexeme may precede does not depend on the content of one that is behind. -/
theorem Lexeme.MayPrecede.of_heads {front text text' : List Char} (hhead : text'.head? = text.head?)
    (hhash : text.head? ≠ some '#') (hquote : text.head? ≠ some '"')
    (hsecond : (text'.drop 1).head? ≠ some '\'') (h : x.MayPrecede (front ++ text)) :
    x.MayPrecede (front ++ text') := by
  have hheads : (front ++ text').head? = (front ++ text).head? := by
    cases front with
    | nil => exact hhead
    | cons c front => rfl
  cases x with
  | code c =>
    obtain ⟨hslash, hraw, htick⟩ := h
    rw [rawHashes_append hhash hquote] at hraw
    refine ⟨fun hc => ?_, ?_, fun hc => ?_⟩
    · rw [hheads]
      exact hslash hc
    · rw [rawHashes_append (hhead ▸ hhash) (hhead ▸ hquote)]
      exact hraw
    · rw [hheads]
      refine ⟨(htick hc).1, ?_⟩
      have hbefore := (htick hc).2
      match front with
      | [] => exact hsecond
      | [d] =>
        rw [List.singleton_append, List.drop_one, List.tail_cons] at hbefore ⊢
        rwa [hhead]
      | d :: e :: front => exact hbefore
  | lineComment body =>
    show ∀ c ∈ (front ++ text').head?, c = '\n'
    rw [hheads]
    exact h
  | str body => trivial
  | rawStr hashes body => trivial
  | charLit body => trivial
  | blockComment body => trivial

/-- A lexeme that the scanner does not know is a character literal or a block comment. -/
theorem Lexeme.eq_of_not_isScanned (hx : x.isScanned = false) :
    (∃ body, x = charLit body) ∨ ∃ body, x = blockComment body := by
  cases x with
  | charLit body => exact .inl ⟨body, rfl⟩
  | blockComment body => exact .inr ⟨body, rfl⟩
  | code c => cases hx
  | str body => cases hx
  | rawStr hashes body => cases hx
  | lineComment body => cases hx

theorem head?_cons_ne {c d : Char} (h : c ≠ d) (text : List Char) : (c :: text).head? ≠ some d :=
  fun hhead => h (Option.some.inj hhead)

/-- **A source stays a source** with another content of a lexeme that the scanner does not know. -/
theorem Lexed.lettered (hletter : letter = 'a' ∨ letter = 'b') (hx : x.isScanned = false)
    {front rest : List Lexeme} (h : Lexed (front ++ x :: rest)) :
    Lexed (front ++ x.lettered letter :: rest) := by
  induction front with
  | nil =>
    refine ⟨Lexeme.wellFormed_lettered hletter h.1, ?_, h.2.2⟩
    rcases Lexeme.eq_of_not_isScanned hx with ⟨body, rfl⟩ | ⟨body, rfl⟩
    · trivial
    · trivial
  | cons y front ih =>
    refine ⟨h.1, ?_, ih h.2.2⟩
    have hbehind : y.MayPrecede (render (front ++ x :: rest)) := h.2.1
    have hrender (z : Lexeme) :
        render (front ++ z :: rest) = render front ++ (z.text ++ render rest) := by
      unfold render
      rw [List.flatMap_append, List.flatMap_cons]
    rw [hrender] at hbehind
    show y.MayPrecede (render (front ++ x.lettered letter :: rest))
    rw [hrender]
    rcases Lexeme.eq_of_not_isScanned hx with ⟨body, rfl⟩ | ⟨body, rfl⟩
    · have hsecond : letter ≠ '\'' := by
        rcases hletter with rfl | rfl <;> decide
      refine hbehind.of_heads ?_ (head?_cons_ne (by decide) _) (head?_cons_ne (by decide) _)
        (head?_cons_ne hsecond _)
      rfl
    · refine hbehind.of_heads ?_ (head?_cons_ne (by decide) _) (head?_cons_ne (by decide) _)
        (head?_cons_ne (by decide) _)
      rfl

/-- A character that opens nothing is seen. -/
theorem visible_scanText_cons {c : Char} (hspace : Text.isWhitespace c = false)
    (hc : c ≠ '\n' ∧ c ≠ '"' ∧ c ≠ 'r') {text : List Char}
    (hcomment : c = '/' → text.head? ≠ some '/') :
    visible (scanText .code 0 (c :: text)) = c :: visible (scanText .code 0 text) := by
  have hraw : rawHashes c text = none := if_neg fun h => hc.2.2 h.1
  rw [scanText_code hc.1 hc.2.1 hcomment hraw, visible_addCode c (scanText_ne_nil .code text),
    List.filter_cons_of_pos (by simp [hspace])]
  rfl

/-- **The content of a lexeme that the scanner does not know is seen.** -/
theorem visible_lettered (hx : x.isScanned = false) (rest : List Lexeme) :
    ∃ mark, ∀ letter, letter = 'a' ∨ letter = 'b' →
      ∃ behind, visible (scanText .code 0 (render (x.lettered letter :: rest))) =
        mark ++ letter :: behind := by
  have hseen (letter : Char) (hletter : letter = 'a' ∨ letter = 'b') (text : List Char) :
      visible (scanText .code 0 (letter :: text)) = letter :: visible (scanText .code 0 text) := by
    rcases hletter with rfl | rfl
    · exact visible_scanText_cons (by decide) (by decide) fun h => absurd h (by decide)
    · exact visible_scanText_cons (by decide) (by decide) fun h => absurd h (by decide)
  rcases Lexeme.eq_of_not_isScanned hx with ⟨body, rfl⟩ | ⟨body, rfl⟩
  · refine ⟨['\''], fun letter hletter => ⟨visible (scanText .code 0 ('\'' :: render rest)), ?_⟩⟩
    show visible (scanText .code 0 ('\'' :: letter :: '\'' :: render rest)) = _
    rw [visible_scanText_cons (by decide) (by decide) fun h => absurd h (by decide),
      hseen letter hletter]
    rfl
  · refine ⟨['/', '*'], fun letter hletter => ⟨visible (scanText .code 0
      (List.replicate (body.count '\n') '\n' ++ ['*', '/'] ++ render rest)), ?_⟩⟩
    show visible (scanText .code 0 ('/' :: '*' :: letter ::
      (List.replicate (body.count '\n') '\n' ++ ['*', '/'] ++ render rest))) = _
    rw [visible_scanText_cons (by decide) (by decide) fun _ => by simp,
      visible_scanText_cons (by decide) (by decide) fun h => absurd h (by decide),
      hseen letter hletter]
    rfl

end

/-- The first lexeme that the scanner does not know. -/
theorem exists_first {source : List Lexeme} (h : ¬Scanned source) :
    ∃ front x rest, source = front ++ x :: rest ∧ Scanned front ∧ x.isScanned = false := by
  induction source with
  | nil => exact absurd (fun x hx => nomatch hx) h
  | cons y source ih =>
    by_cases hy : y.isScanned = true
    · have hsource : ¬Scanned source := fun hscanned => h (List.forall_mem_cons.mpr ⟨hy, hscanned⟩)
      obtain ⟨front, x, rest, rfl, hfront, hx⟩ := ih hsource
      exact ⟨y :: front, x, rest, rfl, List.forall_mem_cons.mpr ⟨hy, hfront⟩, hx⟩
    · exact ⟨[], y, source, rfl, fun x hx => (nomatch hx), Bool.eq_false_iff.mpr hy⟩

/-- **Contents do not matter to the scan exactly without the lexemes that it does not know**: with
the first of them, two contents give different lines. -/
theorem scanLines_contents_iff {source : List Lexeme} (hlexed : Lexed source) :
    Scanned source ↔ ∀ source', Lexed source' → SameSkeleton source source' →
      scanLines .code (lines (render source')) = scanLines .code (lines (render source)) := by
  refine ⟨fun hscanned source' hlexed' hsame => ?_, fun hsame => ?_⟩
  · rw [scanLines_render hlexed' (hscanned.of_sameSkeleton hsame),
      scanLines_render hlexed hscanned, codeLines_eq_of_sameSkeleton hsame]
  · by_contra hmisread
    obtain ⟨front, x, rest, rfl, hfront, hx⟩ := exists_first hmisread
    obtain ⟨mark, hmark⟩ := visible_lettered hx rest
    have hlettered (letter : Char) (hletter : letter = 'a' ∨ letter = 'b') :
        scanLines .code (lines (render (front ++ x.lettered letter :: rest))) =
          scanLines .code (lines (render (front ++ x :: rest))) := by
      refine hsame _ (hlexed.lettered hletter hx) ?_
      unfold SameSkeleton
      rw [List.map_append, List.map_append, List.map_cons, List.map_cons,
        Lexeme.hollow_lettered hletter]
    have hvisible := congrArg visible ((hlettered 'a' (.inl rfl)).trans
      (hlettered 'b' (.inr rfl)).symm)
    rw [visible_scanLines, visible_scanLines,
      scanText_render_append (hlexed.lettered (.inl rfl) hx) hfront,
      scanText_render_append (hlexed.lettered (.inr rfl) hx) hfront] at hvisible
    have htails := visible_codeSegments_inj (scanText_ne_nil .code _) (scanText_ne_nil .code _)
      hvisible
    obtain ⟨behind, hbehind⟩ := hmark 'a' (.inl rfl)
    obtain ⟨behind', hbehind'⟩ := hmark 'b' (.inr rfl)
    rw [hbehind, hbehind'] at htails
    have hletters := (List.cons.inj (List.append_cancel_left htails)).1
    exact absurd hletters (by decide)

end RemoteLink.Inventory
