import Mathlib.Data.List.Basic

set_option autoImplicit false

/-!
# Text

Trimming and substring search on strings, by recursion on their characters.

## Main definitions

* `trim` — strip Unicode white space from both ends.
* `contains` — whether a pattern occurs in a text.
* `toAsciiLowercase`, `toAsciiUppercase` — change the case of the ASCII letters.

## Main results

* `trim_trim` — trimming twice is trimming once.
-/

namespace RemoteLink.Library.Text

/-- Whether a character has the Unicode property `White_Space`. -/
def isWhitespace (c : Char) : Bool :=
  let n := c.toNat
  (decide (9 ≤ n) && decide (n ≤ 13)) || n == 0x20 || n == 0x85 || n == 0xA0 || n == 0x1680 ||
    (decide (0x2000 ≤ n) && decide (n ≤ 0x200A)) || n == 0x2028 || n == 0x2029 || n == 0x202F ||
    n == 0x205F || n == 0x3000

/-- Strip white space from both ends of a list of characters. -/
def trimChars (cs : List Char) : List Char :=
  ((cs.dropWhile isWhitespace).reverse.dropWhile isWhitespace).reverse

/-- Strip white space from both ends of a string. -/
def trim (s : String) : String := String.ofList (trimChars s.toList)

/-- Whether `pat` starts `cs`. -/
def startsWith : (pat cs : List Char) → Bool
  | [], _ => true
  | _ :: _, [] => false
  | p :: pat, c :: cs => p == c && startsWith pat cs

/-- Whether `pat` occurs in `cs`. -/
def isInfix (pat : List Char) : List Char → Bool
  | [] => pat.isEmpty
  | c :: cs => startsWith pat (c :: cs) || isInfix pat cs

/-- Whether the string `pat` occurs in `s`. -/
def contains (s pat : String) : Bool := isInfix pat.toList s.toList

/-- Lower the ASCII letters of a string. -/
def toAsciiLowercase (s : String) : String :=
  String.ofList (s.toList.map fun c => if c.isUpper then c.toLower else c)

/-- Raise an ASCII letter. -/
def upperAscii (c : Char) : Char := if c.isLower then c.toUpper else c

/-- Raise the ASCII letters of a string. -/
def toAsciiUppercase (s : String) : String := String.ofList (s.toList.map upperAscii)

theorem startsWith_iff {pat cs : List Char} : startsWith pat cs = true ↔ pat <+: cs := by
  induction pat generalizing cs with
  | nil => simp [startsWith]
  | cons p pat ih =>
    cases cs with
    | nil => simp [startsWith]
    | cons c cs => simp [startsWith, ih, List.cons_prefix_cons]

/-- Trimming keeps a text whose first and last characters are not white space. -/
theorem trim_of_ends {s : String} (hfirst : ∀ c ∈ s.toList.head?, isWhitespace c = false)
    (hlast : ∀ c ∈ s.toList.getLast?, isWhitespace c = false) : trim s = s := by
  have hkeep : ∀ {cs : List Char}, (∀ c ∈ cs.head?, isWhitespace c = false) →
      cs.dropWhile isWhitespace = cs := by
    intro cs h
    cases cs with
    | nil => rfl
    | cons c cs => simp [h c (by simp)]
  rw [trim, trimChars, hkeep hfirst, hkeep (by simpa using hlast), List.reverse_reverse,
    String.ofList_toList]

/-- Trimming keeps a text without white space. -/
theorem trim_of_all {s : String} (h : ∀ c ∈ s.toList, isWhitespace c = false) : trim s = s :=
  trim_of_ends (fun c hc => h c (List.mem_of_mem_head? hc))
    fun c hc => h c (List.mem_of_mem_getLast? hc)

/-- **Trimming a trimmed text changes nothing.** -/
theorem trim_trim (s : String) : trim (trim s) = trim s := by
  have hdropped : ∀ (cs : List Char), ∀ c ∈ (cs.dropWhile isWhitespace).head?,
      isWhitespace c = false := by
    intro cs c hc
    have hhead := List.head?_dropWhile_not isWhitespace cs
    rw [Option.mem_def.mp hc] at hhead
    exact hhead
  have hchars : (trim s).toList = trimChars s.toList := String.toList_ofList
  refine trim_of_ends (fun c hc => ?_) fun c hc => ?_
  · -- what is left of the end starts where the text without its front starts
    rw [hchars, trimChars, List.head?_reverse] at hc
    obtain ⟨front, hfront⟩ :=
      List.dropWhile_suffix isWhitespace (l := (s.toList.dropWhile isWhitespace).reverse)
    refine hdropped s.toList c ?_
    rw [← List.getLast?_reverse, ← hfront, List.getLast?_append_of_ne_nil]
    · exact hc
    · rintro hnil
      rw [hnil] at hc
      cases hc
  · rw [hchars, trimChars, List.getLast?_reverse] at hc
    exact hdropped _ c hc

end RemoteLink.Library.Text
