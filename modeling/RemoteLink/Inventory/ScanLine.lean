import Mathlib.Data.Int.Basic
import Mathlib.Data.List.Infix
import RemoteLink.Library.Text

set_option autoImplicit false

/-!
# The lines of a source

The inventory of public items reads a Rust source line by line. Of each line it keeps what is code:
strings and line comments are left out, and a string that does not end in its line is carried over
to the next one. Character literals and block comments are read as if they were code.

Texts are lists of characters here.

## Main definitions

* `scanLineCode`, `scanLines` — what the inventory keeps of a line and of all lines.
* `Lexeme`, `render`, `Lexed` — the lexical structure of a source, and the text that has it.
* `codeLines` — the code of each line by the lexical structure.

## Main results

* `scanLines_render` — the scan follows the lexical structure, without character literals and block
  comments.
-/

namespace RemoteLink.Inventory

open Library

/-! ## The scanner -/

/-- Where the end of a line is: in code, in a string, or in a raw string with its hashes. -/
inductive StringState where
  | code
  | normalStr
  | rawStr (hashes : ℕ)
  deriving Repr, DecidableEq

/-- What a character adds to the depth of braces. -/
def braceNet (c : Char) : ℤ := if c = '{' then 1 else if c = '}' then -1 else 0

/-- The hashes of a raw string that opens with a character: the letter, hashes and a quotation
mark. -/
def rawHashes (c : Char) (rest : List Char) : Option ℕ :=
  if c = 'r' ∧ (rest.dropWhile (· == '#')).head? = some '"' then
    some (rest.takeWhile (· == '#')).length
  else none

/-- The loop over the characters of a line. An index that jumps ahead is the number `skip` of
characters to pass over. The result is the code, its net braces and the state at the end. -/
def scanChars (state : StringState) (skip : ℕ) : List Char → List Char × ℤ × StringState
  | [] => ([], 0, state)
  | c :: rest =>
    match skip, state with
    | skip + 1, state => scanChars state skip rest
    | 0, .code =>
      if c = '/' ∧ rest.head? = some '/' then ([], 0, .code)
      else
        match rawHashes c rest with
        | some hashes => scanChars (.rawStr hashes) (hashes + 1) rest
        | none =>
          if c = '"' then scanChars .normalStr 0 rest
          else
            let (code, net, state) := scanChars .code 0 rest
            (c :: code, braceNet c + net, state)
    | 0, .normalStr =>
      if c = '\\' ∧ rest ≠ [] then scanChars .normalStr 1 rest
      else if c = '"' then scanChars .code 0 rest
      else scanChars .normalStr 0 rest
    | 0, .rawStr hashes =>
      if c = '"' ∧ Text.startsWith (List.replicate hashes '#') rest then
        scanChars .code hashes rest
      else scanChars (.rawStr hashes) 0 rest

/-- **Scan a line** that begins in a state. -/
def scanLineCode (line : List Char) (state : StringState) : List Char × ℤ × StringState :=
  scanChars state 0 line

/-- What is kept of a line: its code, its net braces and the state at its end. -/
structure ScannedLine where
  code : List Char
  net : ℤ
  state : StringState
  deriving Repr, DecidableEq

/-- The code without the white space around it. -/
def ScannedLine.trimmed (line : ScannedLine) : ScannedLine :=
  { line with code := Text.trimChars line.code }

/-- The parts of a text between its line feeds. -/
def splitLines : List Char → List (List Char)
  | [] => [[]]
  | c :: rest =>
    if c = '\n' then [] :: splitLines rest
    else
      match splitLines rest with
      | [] => [[c]]
      | line :: others => (c :: line) :: others

/-- A line without a carriage return at its end. -/
def stripCr (line : List Char) : List Char := (line.dropSuffix? ['\r']).getD line

/-- The lines among the parts between line feeds: an empty last part is none, and a carriage return
in front of a line feed belongs to the line ending. -/
def endLines : List (List Char) → List (List Char)
  | [] => []
  | [last] => if last = [] then [] else [last]
  | line :: next :: others => stripCr line :: endLines (next :: others)

/-- `str::lines`. -/
def lines (source : List Char) : List (List Char) := endLines (splitLines source)

/-- Scan lines, each from the state at the end of the one before, and trim their code. -/
def scanLines (state : StringState) : List (List Char) → List ScannedLine
  | [] => []
  | line :: others =>
    let (code, net, next) := scanLineCode line state
    ⟨Text.trimChars code, net, next⟩ :: scanLines next others

/-! ## The lexical structure -/

/-- A part of a source: a character of code, or a literal or comment with what is between its
delimiters. The prefixes of literals, such as `b`, are code. -/
inductive Lexeme where
  | code (c : Char)
  | str (body : List Char)
  | rawStr (hashes : ℕ) (body : List Char)
  | charLit (body : List Char)
  | lineComment (body : List Char)
  | blockComment (body : List Char)
  deriving Repr, DecidableEq

namespace Lexeme

/-- The characters of a lexeme. -/
def text : Lexeme → List Char
  | code c => [c]
  | str body => '"' :: body ++ ['"']
  | rawStr hashes body =>
    'r' :: List.replicate hashes '#' ++ '"' :: body ++ '"' :: List.replicate hashes '#'
  | charLit body => '\'' :: body ++ ['\'']
  | lineComment body => '/' :: '/' :: body
  | blockComment body => '/' :: '*' :: body ++ ['*', '/']

/-- The characters of a string in which every quotation mark and every backslash is escaped. -/
def strBody : List Char → Bool
  | [] => true
  | '\\' :: rest =>
    match rest with
    | [] => false
    | _ :: rest => strBody rest
  | c :: rest => c != '"' && strBody rest

/-- One character, or an escape. -/
def charBody : List Char → Bool
  | [c] => !(['\'', '\\', '\n', '\r', '\t'].contains c)
  | '\\' :: c :: rest => c != '\n' && rest.all fun d => !(['\'', '\\', '\n'].contains d)
  | _ => false

/-- A text closes so many comments, and the last of them with its last characters. -/
def closesComments (open_ : ℕ) : List Char → Bool
  | [] => false
  | '/' :: '*' :: rest => closesComments (open_ + 1) rest
  | '*' :: '/' :: rest => if open_ = 1 then rest.isEmpty else closesComments (open_ - 1) rest
  | _ :: rest => closesComments open_ rest

/-- What is between the delimiters contains no delimiter that would end it earlier. -/
def WellFormed : Lexeme → Prop
  | code c => c ≠ '"'
  | str body => strBody body = true
  | rawStr hashes body => ¬('"' :: List.replicate hashes '#') <:+: body
  | charLit body => charBody body = true
  | lineComment body => '\n' ∉ body
  | blockComment body => closesComments 1 (body ++ ['*', '/']) = true

/-- A lexeme ends where it does in front of a text: a character of code begins no comment, raw
string or character literal with it, and a line comment takes the rest of its line. Prefixes are
reserved, so an `r` with hashes in front of a quotation mark is that of a raw string. -/
def MayPrecede (rest : List Char) : Lexeme → Prop
  | code c =>
    (c = '/' → rest.head? ≠ some '/' ∧ rest.head? ≠ some '*') ∧ rawHashes c rest = none ∧
      (c = '\'' → rest.head? ≠ some '\\' ∧ (rest.drop 1).head? ≠ some '\'')
  | lineComment _ => ∀ c ∈ rest.head?, c = '\n'
  | _ => True

instance : DecidablePred WellFormed
  | code c => inferInstanceAs (Decidable (c ≠ '"'))
  | str body => inferInstanceAs (Decidable (strBody body = true))
  | rawStr hashes body =>
    inferInstanceAs (Decidable ¬('"' :: List.replicate hashes '#') <:+: body)
  | charLit body => inferInstanceAs (Decidable (charBody body = true))
  | lineComment body => inferInstanceAs (Decidable ('\n' ∉ body))
  | blockComment body => inferInstanceAs (Decidable (closesComments 1 (body ++ ['*', '/']) = true))

instance (rest : List Char) : DecidablePred (MayPrecede rest)
  | code c =>
    inferInstanceAs (Decidable
      ((c = '/' → rest.head? ≠ some '/' ∧ rest.head? ≠ some '*') ∧ rawHashes c rest = none ∧
        (c = '\'' → rest.head? ≠ some '\\' ∧ (rest.drop 1).head? ≠ some '\'')))
  | lineComment _ => decidable_of_iff (rest.head?.all (· == '\n') = true)
      (by simp [MayPrecede, Option.all_eq_true])
  | str _ | rawStr _ _ | charLit _ | blockComment _ => .isTrue trivial

/-- The scanner reads a lexeme for what it is. -/
def isScanned : Lexeme → Bool
  | charLit _ | blockComment _ => false
  | _ => true

end Lexeme

/-- The text of a source. -/
def render (source : List Lexeme) : List Char := source.flatMap Lexeme.text

/-- **The lexical structure of a source**: each lexeme is well formed and ends where it does. -/
def Lexed : List Lexeme → Prop
  | [] => True
  | x :: rest => x.WellFormed ∧ x.MayPrecede (render rest) ∧ Lexed rest

instance instDecidableLexed : DecidablePred Lexed
  | [] => .isTrue trivial
  | x :: rest =>
    have := instDecidableLexed rest
    inferInstanceAs (Decidable (x.WellFormed ∧ x.MayPrecede (render rest) ∧ Lexed rest))

/-- A source without character literals and block comments. -/
def Scanned (source : List Lexeme) : Prop := ∀ x ∈ source, x.isScanned = true

instance : DecidablePred Scanned := fun source =>
  decidable_of_iff (source.all Lexeme.isScanned = true) List.all_eq_true

/-- A line without code. -/
def blankLine (state : StringState) : ScannedLine := ⟨[], 0, state⟩

/-- A character of code in front of the first of some lines. -/
def addCode (c : Char) : List ScannedLine → List ScannedLine
  | [] => []
  | line :: others => { line with code := c :: line.code, net := braceNet c + line.net } :: others

/-- **The code of each line** in front of other lines, the first of which continues the last one. A
literal or comment is no code; a line that ends in it has the code in front of it only. -/
def codeSegments (tail : List ScannedLine) : List Lexeme → List ScannedLine
  | [] => tail
  | .code c :: rest =>
    if c = '\n' then blankLine .code :: codeSegments tail rest
    else addCode c (codeSegments tail rest)
  | .str body :: rest =>
    List.replicate (body.count '\n') (blankLine .normalStr) ++ codeSegments tail rest
  | .rawStr hashes body :: rest =>
    List.replicate (body.count '\n') (blankLine (.rawStr hashes)) ++ codeSegments tail rest
  | .blockComment body :: rest =>
    List.replicate (body.count '\n') (blankLine .code) ++ codeSegments tail rest
  | .charLit _ :: rest | .lineComment _ :: rest => codeSegments tail rest

/-- Whether a source has nothing behind its last line feed. -/
def endsLine (source : List Lexeme) : Bool :=
  source.getLast?.all fun x => x == .code '\n'

/-- The code of the lines of a source, trimmed. Nothing behind the last line feed is no line. -/
def codeLines (source : List Lexeme) : List ScannedLine :=
  let segments := codeSegments [blankLine .code] source
  (if endsLine source then segments.dropLast else segments).map ScannedLine.trimmed

/-! ## The scan of a text -/

/-- The scan of lines, with their code as it is. -/
def scanRaw (state : StringState) (skip : ℕ) : List (List Char) → List ScannedLine
  | [] => []
  | line :: others =>
    let (code, net, next) := scanChars state skip line
    ⟨code, net, next⟩ :: scanRaw next 0 others

/-- The scan of a text from a state in which some characters are to be passed over. -/
def scanText (state : StringState) (skip : ℕ) (text : List Char) : List ScannedLine :=
  scanRaw state skip (splitLines text)

theorem splitLines_ne_nil (text : List Char) : splitLines text ≠ [] := by
  cases text with
  | nil => exact List.cons_ne_nil _ _
  | cons c text =>
    unfold splitLines
    split_ifs
    · exact List.cons_ne_nil _ _
    · split
      · exact List.cons_ne_nil _ _
      · exact List.cons_ne_nil _ _

theorem splitLines_cons {c : Char} (hc : c ≠ '\n') (rest : List Char) :
    ∃ others, splitLines rest = rest.takeWhile (· != '\n') :: others ∧
      splitLines (c :: rest) = (c :: rest.takeWhile (· != '\n')) :: others := by
  have hfirst : ∃ others, splitLines rest = rest.takeWhile (· != '\n') :: others := by
    induction rest with
    | nil => exact ⟨[], rfl⟩
    | cons d rest ih =>
      obtain ⟨others, hothers⟩ := ih
      unfold splitLines
      by_cases hd : d = '\n'
      · rw [if_pos hd, hd]
        exact ⟨_, rfl⟩
      · rw [if_neg hd, hothers, List.takeWhile_cons_of_pos (by simpa using hd)]
        exact ⟨_, rfl⟩
  obtain ⟨others, hothers⟩ := hfirst
  refine ⟨others, hothers, ?_⟩
  rw [splitLines, if_neg hc, hothers]

section

variable {c : Char} {rest : List Char}

/-- A line feed ends a line. -/
theorem scanText_newline (state : StringState) (rest : List Char) :
    scanText state 0 ('\n' :: rest) = blankLine state :: scanText state 0 rest := rfl

/-- A character is passed over. -/
theorem scanText_skip (hc : c ≠ '\n') (state : StringState) (skip : ℕ) (rest : List Char) :
    scanText state (skip + 1) (c :: rest) = scanText state skip rest := by
  obtain ⟨others, hrest, hcons⟩ := splitLines_cons hc rest
  unfold scanText
  rw [hrest, hcons]
  rfl

/-- A text begins as it does without what is behind, if that begins with another character. -/
theorem head?_append_iff {d : Char} {tail : List Char} (htail : tail.head? ≠ some d)
    (front : List Char) : (front ++ tail).head? = some d ↔ front.head? = some d := by
  cases front with
  | nil => exact iff_of_false htail (by simp)
  | cons c front => exact Iff.rfl

/-- **A raw string opens** as it does without what is behind, if that begins with neither a hash nor
a quotation mark. -/
theorem rawHashes_append {tail : List Char} (hhash : tail.head? ≠ some '#')
    (hquote : tail.head? ≠ some '"') (c : Char) (front : List Char) :
    rawHashes c (front ++ tail) = rawHashes c front := by
  have hpass : tail.dropWhile (· == '#') = tail := by
    cases tail with
    | nil => rfl
    | cons d tail =>
      have hd : d ≠ '#' := fun h => hhash (congrArg some h)
      simp [hd]
  have hopens : ((front ++ tail).dropWhile (· == '#')).head? = some '"' ↔
      (front.dropWhile (· == '#')).head? = some '"' := by
    induction front with
    | nil => simpa [hpass] using hquote
    | cons d front ih =>
      by_cases hd : d = '#'
      · simpa [hd] using ih
      · simp [hd]
  have hlength (h : (front.dropWhile (· == '#')).head? = some '"') :
      (front ++ tail).takeWhile (· == '#') = front.takeWhile (· == '#') := by
    clear hopens
    induction front with
    | nil => cases h
    | cons d front ih =>
      by_cases hd : d = '#'
      · simp only [hd, beq_self_eq_true, List.dropWhile_cons_of_pos] at h
        simpa [hd] using ih h
      · simp [hd]
  unfold rawHashes
  by_cases h : c = 'r' ∧ (front.dropWhile (· == '#')).head? = some '"'
  · rw [if_pos h, if_pos (by rwa [hopens]), hlength h.2]
  · rw [if_neg h, if_neg (by rwa [hopens])]

/-- Behind a line is a line feed, or nothing. -/
theorem head?_dropWhile_ne {d : Char} (hd : d ≠ '\n') (rest : List Char) :
    (rest.dropWhile (· != '\n')).head? ≠ some d := by
  induction rest with
  | nil => simp
  | cons c rest ih =>
    by_cases hc : c = '\n'
    · simp [hc, hd.symm]
    · simpa [hc] using ih

/-- What is in front of a line feed is at the front of the line. -/
theorem head?_takeWhile {d : Char} (hd : d ≠ '\n') (rest : List Char) :
    (rest.takeWhile (· != '\n')).head? = some d ↔ rest.head? = some d := by
  conv_rhs => rw [← List.takeWhile_append_dropWhile (p := (· != '\n')) (l := rest)]
  exact (head?_append_iff (head?_dropWhile_ne hd rest) _).symm

/-- The hashes of a raw string are all in the line. -/
theorem rawHashes_takeWhile (c : Char) (rest : List Char) :
    rawHashes c (rest.takeWhile (· != '\n')) = rawHashes c rest := by
  conv_rhs => rw [← List.takeWhile_append_dropWhile (p := (· != '\n')) (l := rest)]
  exact (rawHashes_append (head?_dropWhile_ne (by decide) rest)
    (head?_dropWhile_ne (by decide) rest) c _).symm

/-- A character of code. -/
theorem scanText_code (hc : c ≠ '\n') (hquote : c ≠ '"')
    (hcomment : c = '/' → rest.head? ≠ some '/') (hraw : rawHashes c rest = none) :
    scanText .code 0 (c :: rest) = addCode c (scanText .code 0 rest) := by
  obtain ⟨others, hrest, hcons⟩ := splitLines_cons hc rest
  unfold scanText
  rw [hrest, hcons]
  have hslash : ¬(c = '/' ∧ (rest.takeWhile (· != '\n')).head? = some '/') := by
    rw [head?_takeWhile (by decide)]
    exact fun h => hcomment h.1 h.2
  have hline : scanChars .code 0 (c :: rest.takeWhile (· != '\n')) =
      (c :: (scanChars .code 0 (rest.takeWhile (· != '\n'))).1,
        braceNet c + (scanChars .code 0 (rest.takeWhile (· != '\n'))).2.1,
        (scanChars .code 0 (rest.takeWhile (· != '\n'))).2.2) := by
    rw [scanChars, if_neg hslash, rawHashes_takeWhile, hraw]
    exact if_neg hquote
  unfold scanRaw
  rw [hline]
  rfl

/-- A character at which the scan goes on elsewhere in the line. -/
theorem scanText_of_line {state next : StringState} {skip : ℕ} (hc : c ≠ '\n')
    (hline : scanChars state 0 (c :: rest.takeWhile (· != '\n')) =
      scanChars next skip (rest.takeWhile (· != '\n'))) :
    scanText state 0 (c :: rest) = scanText next skip rest := by
  obtain ⟨others, hrest, hcons⟩ := splitLines_cons hc rest
  unfold scanText
  rw [hrest, hcons]
  unfold scanRaw
  rw [hline]

/-- A quotation mark opens a string. -/
theorem scanText_openStr (rest : List Char) :
    scanText .code 0 ('"' :: rest) = scanText .normalStr 0 rest :=
  scanText_of_line (by decide) rfl

/-- A quotation mark closes a string. -/
theorem scanText_closeStr (rest : List Char) :
    scanText .normalStr 0 ('"' :: rest) = scanText .code 0 rest :=
  scanText_of_line (by decide) rfl

/-- Another character of a string. -/
theorem scanText_str (hc : c ≠ '\n') (hquote : c ≠ '"') (hescape : c ≠ '\\') (rest : List Char) :
    scanText .normalStr 0 (c :: rest) = scanText .normalStr 0 rest := by
  refine scanText_of_line hc ?_
  rw [scanChars, if_neg fun h => hescape h.1]
  exact if_neg hquote

/-- An escape in a string; one at the end of a line leaves the next line in the string. -/
theorem scanText_escape (c : Char) (rest : List Char) :
    scanText .normalStr 0 ('\\' :: c :: rest) =
      (if c = '\n' then [blankLine .normalStr] else []) ++ scanText .normalStr 0 rest := by
  by_cases hc : c = '\n'
  · subst hc
    rfl
  · have hskip : scanText .normalStr 0 ('\\' :: c :: rest) =
        scanText .normalStr 1 (c :: rest) := by
      refine scanText_of_line (by decide) ?_
      rw [scanChars, if_pos ⟨rfl, by simp [hc]⟩]
    rw [hskip, scanText_skip hc, if_neg hc]
    rfl

end

/-- **A string is passed over.** -/
theorem scanText_strBody {body : List Char} (hbody : Lexeme.strBody body = true)
    (rest : List Char) : scanText .normalStr 0 (body ++ '"' :: rest) =
      List.replicate (body.count '\n') (blankLine .normalStr) ++ scanText .code 0 rest := by
  induction body using Lexeme.strBody.induct with
  | case1 => exact scanText_closeStr rest
  | case2 => cases hbody
  | case3 c body ih =>
    have hcount : ('\\' :: c :: body).count '\n' =
        (if c = '\n' then 1 else 0) + body.count '\n' := by
      simp [List.count_cons, Nat.add_comm]
    rw [List.cons_append, List.cons_append, scanText_escape, ih hbody, hcount, List.replicate_add,
      List.append_assoc]
    split_ifs with hc
    · rfl
    · rfl
  | case4 c body hescape ih =>
    rw [Lexeme.strBody, Bool.and_eq_true, bne_iff_ne] at hbody
    · by_cases hc : c = '\n'
      · rw [hc, List.cons_append, scanText_newline, ih hbody.2, List.count_cons_self,
          List.replicate_succ]
        rfl
      · rw [List.cons_append, scanText_str hc hbody.1 hescape, ih hbody.2,
          List.count_cons_of_ne hc]
    · exact hescape

/-- Hashes in front of a quotation mark are all in front of it. -/
theorem prefix_hashes {n : ℕ} {body rest : List Char}
    (h : List.replicate n '#' <+: body ++ '"' :: rest) : List.replicate n '#' <+: body := by
  induction n generalizing body with
  | zero => exact List.nil_prefix
  | succ n ih =>
    cases body with
    | nil => exact absurd (List.cons_prefix_cons.mp h).1 (by decide)
    | cons c body =>
      obtain ⟨rfl, htail⟩ := List.cons_prefix_cons.mp h
      exact List.cons_prefix_cons.mpr ⟨rfl, ih htail⟩

/-- The state in a raw string with some hashes is left at the first quotation mark behind which they
are. -/
theorem scanText_rawBody {hashes : ℕ} {body : List Char}
    (hbody : ¬('"' :: List.replicate hashes '#') <:+: body) (rest : List Char) :
    scanText (.rawStr hashes) 0 (body ++ '"' :: List.replicate hashes '#' ++ rest) =
      List.replicate (body.count '\n') (blankLine (.rawStr hashes)) ++ scanText .code 0 rest := by
  have hhashes (n : ℕ) :
      scanText .code n (List.replicate n '#' ++ rest) = scanText .code 0 rest := by
    induction n with
    | zero => rfl
    | succ n ih =>
      rw [List.replicate_succ, List.cons_append, scanText_skip (by decide), ih]
  induction body with
  | nil =>
    have hclose : scanText (.rawStr hashes) 0 ('"' :: (List.replicate hashes '#' ++ rest)) =
        scanText .code hashes (List.replicate hashes '#' ++ rest) := by
      refine scanText_of_line (by decide) ?_
      rw [scanChars, if_pos]
      refine ⟨rfl, Text.startsWith_iff.mpr ?_⟩
      rw [List.takeWhile_append_of_pos]
      · exact List.prefix_append _ _
      · intro d hd
        rw [List.eq_of_mem_replicate hd]
        rfl
    exact hclose.trans (hhashes hashes)
  | cons c body ih =>
    have hrest : ¬('"' :: List.replicate hashes '#') <:+: body := fun h =>
      hbody (h.trans (List.suffix_cons c body).isInfix)
    have hih := ih hrest
    by_cases hc : c = '\n'
    · rw [List.append_assoc] at hih
      rw [hc, List.cons_append, List.cons_append, scanText_newline, List.append_assoc, hih,
        List.count_cons_self, List.replicate_succ]
      rfl
    · have hopen : ¬(c = '"' ∧ Text.startsWith (List.replicate hashes '#')
          ((body ++ '"' :: List.replicate hashes '#' ++ rest).takeWhile (· != '\n')) = true) := by
        rintro ⟨rfl, hstarts⟩
        have hprefix := (Text.startsWith_iff.mp hstarts).trans (List.takeWhile_prefix _)
        rw [List.append_assoc] at hprefix
        exact hbody (List.prefix_cons_inj _ |>.mpr (prefix_hashes hprefix)).isInfix
      have hstep : scanText (.rawStr hashes) 0
          (c :: (body ++ '"' :: List.replicate hashes '#' ++ rest)) =
          scanText (.rawStr hashes) 0 (body ++ '"' :: List.replicate hashes '#' ++ rest) := by
        refine scanText_of_line hc ?_
        rw [scanChars, if_neg hopen]
      rw [List.count_cons_of_ne hc]
      exact hstep.trans hih

/-- An `r`, hashes and a quotation mark open a raw string. -/
theorem scanText_openRaw (hashes : ℕ) (rest : List Char) :
    scanText .code 0 ('r' :: List.replicate hashes '#' ++ '"' :: rest) =
      scanText (.rawStr hashes) 0 rest := by
  have hskip (n : ℕ) : scanText (.rawStr hashes) (n + 1) (List.replicate n '#' ++ '"' :: rest) =
      scanText (.rawStr hashes) 0 rest := by
    induction n with
    | zero => exact scanText_skip (by decide) _ _ rest
    | succ n ih => rw [List.replicate_succ, List.cons_append, scanText_skip (by decide), ih]
  have hraw : rawHashes 'r' (List.replicate hashes '#' ++ '"' :: rest) = some hashes := by
    have hall : ∀ d ∈ List.replicate hashes '#', (d == '#') = true := by
      intro d hd
      rw [List.eq_of_mem_replicate hd]
      rfl
    unfold rawHashes
    rw [List.dropWhile_append_of_pos hall, List.takeWhile_append_of_pos hall]
    simp
  have hopen : scanText .code 0 ('r' :: (List.replicate hashes '#' ++ '"' :: rest)) =
      scanText (.rawStr hashes) (hashes + 1) (List.replicate hashes '#' ++ '"' :: rest) := by
    refine scanText_of_line (by decide) ?_
    rw [scanChars, if_neg fun h => absurd h.1 (by decide), rawHashes_takeWhile, hraw]
  exact hopen.trans (hskip hashes)

/-- A text without a line feed is at the front of a line. -/
theorem splitLines_append {line : List Char} (hline : '\n' ∉ line) {rest first : List Char}
    {others : List (List Char)} (hrest : splitLines rest = first :: others) :
    splitLines (line ++ rest) = (line ++ first) :: others := by
  induction line with
  | nil => exact hrest
  | cons c line ih =>
    rw [List.mem_cons, not_or] at hline
    rw [List.cons_append, splitLines, if_neg (Ne.symm hline.1), ih hline.2]
    rfl

/-- A line comment takes the rest of its line. -/
theorem scanText_comment {body rest : List Char} (hbody : '\n' ∉ body)
    (hrest : ∀ c ∈ rest.head?, c = '\n') :
    scanText .code 0 ('/' :: '/' :: body ++ rest) = scanText .code 0 rest := by
  obtain ⟨others, hothers⟩ : ∃ others, splitLines rest = [] :: others := by
    cases rest with
    | nil => exact ⟨[], rfl⟩
    | cons c rest =>
      rw [hrest c rfl]
      exact ⟨_, rfl⟩
  have hcomment : '\n' ∉ '/' :: '/' :: body := by simpa using hbody
  unfold scanText
  rw [splitLines_append hcomment hothers, hothers]
  rfl

/-- **The scan follows the lexical structure** up to a part that may be misread. -/
theorem scanText_render_append {front source : List Lexeme} (hlexed : Lexed (front ++ source))
    (hscanned : Scanned front) :
    scanText .code 0 (render (front ++ source)) =
      codeSegments (scanText .code 0 (render source)) front := by
  induction front with
  | nil => rfl
  | cons x front ih =>
    obtain ⟨hx, hbehind, hlexed⟩ := hlexed
    have hrest := ih hlexed fun y hy => hscanned y (List.mem_cons_of_mem x hy)
    have hread := hscanned x List.mem_cons_self
    show scanText .code 0 (x.text ++ render (front ++ source)) = _
    cases x with
    | code c =>
      by_cases hc : c = '\n'
      · rw [hc]
        exact congrArg (blankLine .code :: ·) hrest
      · rw [codeSegments, if_neg hc, ← hrest]
        exact scanText_code hc hx (fun hslash => (hbehind.1 hslash).1) hbehind.2.1
    | str body =>
      have htext : (Lexeme.str body).text ++ render (front ++ source) =
          '"' :: (body ++ '"' :: render (front ++ source)) := by
        simp [Lexeme.text]
      rw [htext, scanText_openStr, scanText_strBody hx, hrest]
      rfl
    | rawStr hashes body =>
      have htext : (Lexeme.rawStr hashes body).text ++ render (front ++ source) =
          'r' :: List.replicate hashes '#' ++
            '"' :: (body ++ '"' :: List.replicate hashes '#' ++ render (front ++ source)) := by
        simp [Lexeme.text]
      rw [htext, scanText_openRaw, scanText_rawBody hx, hrest]
      rfl
    | charLit body => cases hread
    | lineComment body => exact (scanText_comment hx hbehind).trans hrest
    | blockComment body => cases hread

/-- **The scan follows the lexical structure.** -/
theorem scanText_render {source : List Lexeme} (hlexed : Lexed source) (hscanned : Scanned source) :
    scanText .code 0 (render source) = codeSegments [blankLine .code] source := by
  have hfront : Lexed (source ++ []) := by rwa [List.append_nil]
  have hrender := scanText_render_append hfront hscanned
  rw [List.append_nil] at hrender
  exact hrender

/-! ## The lines of a text -/

/-- A carriage return at the end of a line opens no raw string. -/
theorem rawHashes_cr (c : Char) (line : List Char) :
    rawHashes c (line ++ ['\r']) = rawHashes c line :=
  rawHashes_append (by decide) (by decide) c line

/-- A carriage return at the end of a line closes no raw string. -/
theorem startsWith_cr (hashes : ℕ) (line : List Char) :
    Text.startsWith (List.replicate hashes '#') (line ++ ['\r']) =
      Text.startsWith (List.replicate hashes '#') line := by
  induction hashes generalizing line with
  | zero => rfl
  | succ hashes ih =>
    cases line with
    | nil => rfl
    | cons c line =>
      show (('#' == c) && Text.startsWith (List.replicate hashes '#') (line ++ ['\r'])) = _
      rw [ih]
      rfl

/-- A carriage return at the end of a line is white space of the code, or not seen. -/
theorem scanChars_cr (state : StringState) (skip : ℕ) (line : List Char) :
    (scanChars state skip (line ++ ['\r'])).2 = (scanChars state skip line).2 ∧
      ((scanChars state skip (line ++ ['\r'])).1 = (scanChars state skip line).1 ∨
        (scanChars state skip (line ++ ['\r'])).1 = (scanChars state skip line).1 ++ ['\r']) := by
  induction line generalizing state skip with
  | nil =>
    cases skip with
    | zero =>
      cases state with
      | code => exact ⟨rfl, .inr rfl⟩
      | normalStr => exact ⟨rfl, .inl rfl⟩
      | rawStr hashes => exact ⟨rfl, .inl rfl⟩
    | succ skip =>
      cases state with
      | code => exact ⟨rfl, .inl rfl⟩
      | normalStr => exact ⟨rfl, .inl rfl⟩
      | rawStr hashes => exact ⟨rfl, .inl rfl⟩
  | cons c line ih =>
    cases skip with
    | succ skip =>
      cases state with
      | code => exact ih .code skip
      | normalStr => exact ih .normalStr skip
      | rawStr hashes => exact ih (.rawStr hashes) skip
    | zero =>
      rw [List.cons_append]
      cases state with
      | code =>
        rw [scanChars, scanChars, rawHashes_cr]
        simp only [@head?_append_iff '/' ['\r'] (by decide)]
        split_ifs with hcomment hquote
        · exact ⟨rfl, .inl rfl⟩
        · cases rawHashes c line with
          | some hashes => exact ih _ _
          | none => exact ih _ _
        · cases rawHashes c line with
          | some hashes => exact ih _ _
          | none =>
            obtain ⟨hsame, hcode⟩ := ih .code 0
            exact ⟨congrArg (fun r : ℤ × StringState => (braceNet c + r.1, r.2)) hsame,
              hcode.imp (congrArg (c :: ·)) (congrArg (c :: ·))⟩
      | normalStr =>
        rw [scanChars, scanChars]
        by_cases hc : c = '\\'
        · subst hc
          cases line with
          | nil => exact ⟨rfl, .inl rfl⟩
          | cons d line => exact ih .normalStr 1
        · simp only [hc, false_and, if_false]
          split_ifs with hquote
          · exact ih .code 0
          · exact ih .normalStr 0
      | rawStr hashes =>
        rw [scanChars, scanChars]
        simp only [startsWith_cr]
        split_ifs with hclose
        · exact ih .code hashes
        · exact ih (.rawStr hashes) 0

theorem trimChars_concat {w : Char} (hw : Text.isWhitespace w = true) (code : List Char) :
    Text.trimChars (code ++ [w]) = Text.trimChars code := by
  unfold Text.trimChars
  rw [List.dropWhile_append]
  split_ifs with hempty
  · rw [List.isEmpty_iff.mp hempty, List.dropWhile_cons_of_pos hw]
    rfl
  · rw [List.reverse_append, List.reverse_singleton, List.singleton_append,
      List.dropWhile_cons_of_pos hw]

/-- A text that does not begin with white space keeps its first character. -/
theorem trimChars_cons {c : Char} (hc : Text.isWhitespace c = false) (code : List Char) :
    ∃ rest, Text.trimChars (c :: code) = c :: rest := by
  unfold Text.trimChars
  rw [List.dropWhile_cons_of_neg (Bool.eq_false_iff.mp hc), List.reverse_cons,
    List.dropWhile_append]
  split_ifs
  · rw [List.dropWhile_cons_of_neg (Bool.eq_false_iff.mp hc)]
    exact ⟨[], rfl⟩
  · rw [List.reverse_append]
    exact ⟨_, rfl⟩

/-- The parts between line feeds end in an empty one if the text ends in a line feed. -/
theorem getLast?_splitLines (text : List Char) :
    (splitLines text).getLast? = some [] ↔ ∀ c ∈ text.getLast?, c = '\n' := by
  induction text with
  | nil => simp [splitLines]
  | cons c text ih =>
    cases text with
    | nil =>
      by_cases hc : c = '\n'
      · simp [splitLines, hc]
      · simp [splitLines, hc]
    | cons d text =>
      have hlast : (c :: d :: text).getLast? = (d :: text).getLast? := rfl
      obtain ⟨line, others, hsplit, hne⟩ : ∃ line others, splitLines (d :: text) = line :: others ∧
          (others = [] → line ≠ []) := by
        by_cases hd : d = '\n'
        · exact ⟨[], splitLines text, if_pos hd, fun h => (splitLines_ne_nil text h).elim⟩
        · obtain ⟨others, -, hcons⟩ := splitLines_cons hd text
          exact ⟨_, others, hcons, fun _ => List.cons_ne_nil _ _⟩
      rw [hlast, ← ih]
      by_cases hc : c = '\n'
      · rw [hc, hsplit]
        show ([] :: splitLines (d :: text)).getLast? = some [] ↔ _
        rw [hsplit]
        rfl
      · have hcons : splitLines (c :: d :: text) = (c :: line) :: others := by
          rw [splitLines, if_neg hc, hsplit]
        rw [hcons, hsplit]
        cases others with
        | nil => exact iff_of_false (by simp) fun h => hne rfl (Option.some.inj h)
        | cons next others => exact Iff.rfl

/-- The scan of the lines of a text is that of the parts between its line feeds. -/
theorem scanLines_endLines (state : StringState) (segments : List (List Char)) :
    scanLines state (endLines segments) =
      (if segments.getLast? = some [] then (scanRaw state 0 segments).dropLast
        else scanRaw state 0 segments).map ScannedLine.trimmed := by
  induction segments generalizing state with
  | nil => rfl
  | cons line others ih =>
    cases others with
    | nil =>
      have hlast : [line].getLast? = some line := rfl
      unfold endLines
      by_cases hline : line = []
      · rw [if_pos hline, if_pos (hlast.trans (congrArg some hline))]
        rfl
      · rw [if_neg hline, if_neg fun h => hline (Option.some.inj (hlast.symm.trans h))]
        rfl
    | cons next others =>
      have hlast : (line :: next :: others).getLast? = (next :: others).getLast? := rfl
      have hstrip : (scanChars state 0 (stripCr line)).2 = (scanChars state 0 line).2 ∧
          Text.trimChars (scanChars state 0 (stripCr line)).1 =
            Text.trimChars (scanChars state 0 line).1 := by
        unfold stripCr
        cases hcr : line.dropSuffix? ['\r'] with
        | none => exact ⟨rfl, rfl⟩
        | some short =>
          obtain ⟨cr, hline, hsuffix⟩ := List.dropSuffix?_eq_some_iff.mp hcr
          obtain rfl : cr = ['\r'] := eq_of_beq hsuffix
          obtain ⟨hsame, hcode⟩ := scanChars_cr state 0 short
          rw [hline, hsame]
          refine ⟨rfl, ?_⟩
          rcases hcode with hcode | hcode
          · rw [hcode]
            rfl
          · rw [hcode, trimChars_concat (by decide)]
            rfl
      have hfirst : scanLines state (endLines (line :: next :: others)) =
          ⟨Text.trimChars (scanChars state 0 line).1, (scanChars state 0 line).2.1,
            (scanChars state 0 line).2.2⟩ ::
          scanLines (scanChars state 0 line).2.2 (endLines (next :: others)) := by
        rw [← hstrip.1, ← hstrip.2]
        rfl
      rw [hfirst, ih, hlast]
      split_ifs
      · rfl
      · rfl

/-- The last character of a lexeme is a line feed only if the lexeme is. -/
theorem Lexeme.text_concat {x : Lexeme} (hx : x.WellFormed) :
    ∃ init last, x.text = init ++ [last] ∧ (last = '\n' ↔ x = .code '\n') := by
  cases x with
  | code c => exact ⟨[], c, rfl, by simp⟩
  | str body => exact ⟨'"' :: body, '"', rfl, by simp⟩
  | rawStr hashes body =>
    cases hashes with
    | zero => exact ⟨'r' :: '"' :: body, '"', rfl, by simp⟩
    | succ hashes =>
      refine ⟨'r' :: List.replicate (hashes + 1) '#' ++ '"' :: body ++
        '"' :: List.replicate hashes '#', '#', ?_, by simp⟩
      have hlast : List.replicate (hashes + 1) '#' = List.replicate hashes '#' ++ ['#'] :=
        List.replicate_succ'
      rw [text, hlast]
      simp only [List.append_assoc, List.cons_append]
  | charLit body => exact ⟨'\'' :: body, '\'', rfl, by simp⟩
  | lineComment body =>
    rcases List.eq_nil_or_concat body with rfl | ⟨init, last, rfl⟩
    · exact ⟨['/'], '/', rfl, by simp⟩
    · have hlast : last ≠ '\n' := fun h => hx (by simp [h])
      exact ⟨'/' :: '/' :: init, last, by simp [text], iff_of_false hlast (by simp)⟩
  | blockComment body => exact ⟨'/' :: '*' :: body ++ ['*'], '/', by simp [text], by simp⟩

theorem Lexed.wellFormed {source : List Lexeme} (hlexed : Lexed source) :
    ∀ x ∈ source, x.WellFormed := by
  induction source with
  | nil =>
    intro x hx
    cases hx
  | cons y source ih =>
    intro x hx
    rcases List.mem_cons.mp hx with rfl | hx
    · exact hlexed.1
    · exact ih hlexed.2.2 x hx

/-- The text of a source has nothing behind its last line feed if the source has not. -/
theorem getLast?_render {source : List Lexeme} (hlexed : Lexed source) :
    (∀ c ∈ (render source).getLast?, c = '\n') ↔ endsLine source = true := by
  rcases List.eq_nil_or_concat source with rfl | ⟨init, x, rfl⟩
  · simp [render, endsLine]
  · rw [List.concat_eq_append] at hlexed ⊢
    obtain ⟨front, last, htext, hlast⟩ :=
      Lexeme.text_concat (hlexed.wellFormed x (List.mem_append_right _ List.mem_cons_self))
    have hrender : render (init ++ [x]) = render init ++ front ++ [last] := by
      unfold render
      rw [List.flatMap_append, List.flatMap_singleton, htext, List.append_assoc]
    rw [hrender]
    simp [endsLine, hlast]

/-- **The lines are scanned for what they are**: the inventory keeps the code of each line of a
source without character literals and block comments. -/
theorem scanLines_render {source : List Lexeme} (hlexed : Lexed source)
    (hscanned : Scanned source) : scanLines .code (lines (render source)) = codeLines source := by
  have hends : (splitLines (render source)).getLast? = some [] ↔ endsLine source = true :=
    (getLast?_splitLines _).trans (getLast?_render hlexed)
  have hscan : scanRaw .code 0 (splitLines (render source)) =
      codeSegments [blankLine .code] source :=
    scanText_render hlexed hscanned
  unfold lines codeLines
  dsimp only
  rw [scanLines_endLines, hscan]
  by_cases h : endsLine source = true
  · rw [if_pos h, if_pos (hends.mpr h)]
  · rw [if_neg h, if_neg fun hlast => h (hends.mp hlast)]

end RemoteLink.Inventory
