import RemoteLink.Inventory.TestModules

set_option autoImplicit false

/-!
# Functions of `impl` blocks

A public function that stands directly in an `impl` block is found with the name of the type in
front of its own, where the line that begins the block and that of the function are as the loop
expects them.

## Main definitions

* `ImplHeader` — the line that begins an `impl` block, up to and behind its brace.
* `PubFn` — the line that begins a public function.

## Main results

* `parseImplType_header`, `parsePubItemLine_pubFn` — what is read of such lines.
* `Machine.top_run`, `Machine.step_implFn` — a function directly in a block is found with the type
  of the block.
-/

namespace RemoteLink.Inventory

open Library

/-! ## Names -/

/-- A character of a name. -/
def isNameChar (c : Char) : Bool := c.isAlphanum || c == '_'

/-- A name of letters, digits and low lines. -/
def IsName (name : List Char) : Prop := name ≠ [] ∧ ∀ c ∈ name, isNameChar c = true

/-- A text begins with white space or such a character, if it is not empty. -/
def BeginsWith (delimiters text : List Char) : Prop :=
  ∀ c ∈ text.head?, Text.isWhitespace c = true ∨ c ∈ delimiters

/-- White space and nothing else. -/
def Blank (gap : List Char) : Prop := ∀ c ∈ gap, Text.isWhitespace c = true

instance (name : List Char) : Decidable (IsName name) :=
  decidable_of_iff (name ≠ [] ∧ name.all isNameChar = true) (by simp [IsName])

instance (delimiters text : List Char) : Decidable (BeginsWith delimiters text) :=
  decidable_of_iff
    (text.head?.all (fun c => Text.isWhitespace c || delimiters.contains c) = true)
    (by simp [BeginsWith, Option.all_eq_true])

instance (gap : List Char) : Decidable (Blank gap) :=
  decidable_of_iff (gap.all Text.isWhitespace = true) List.all_eq_true

/-- White space is no part of a name. -/
theorem isNameChar_of_isWhitespace {c : Char} (hc : Text.isWhitespace c = true) :
    isNameChar c = false := by
  have hvalue : c.toNat = c.val.toNat := rfl
  have hlow : c ≠ '_' := by
    rintro rfl
    cases hc
  unfold Text.isWhitespace at hc
  simp only [Bool.or_eq_true, Bool.and_eq_true, decide_eq_true_eq, beq_iff_eq, hvalue] at hc
  unfold isNameChar Char.isAlphanum Char.isAlpha Char.isUpper Char.isLower Char.isDigit
  simp only [Bool.or_eq_false_iff, Bool.and_eq_false_iff, decide_eq_false_iff_not, ge_iff_le,
    UInt32.le_iff_toNat_le, beq_eq_false_iff_ne, Char.reduceVal, UInt32.reduceToNat]
  refine ⟨?_, hlow⟩
  omega

theorem trimStart_blank {gap : List Char} (hgap : Blank gap) (text : List Char) :
    trimStart (gap ++ text) = trimStart text := by
  unfold trimStart
  rw [List.dropWhile_append_of_pos hgap]

/-- A text that does not begin with white space. -/
theorem trimStart_cons {c : Char} (hc : Text.isWhitespace c = false) (text : List Char) :
    trimStart (c :: text) = c :: text :=
  List.dropWhile_cons_of_neg (Bool.eq_false_iff.mp hc)

/-- A word in front of a text that does not begin with white space. -/
theorem trimStart_word {word : List Char}
    (hword : word.head?.any (fun c => !Text.isWhitespace c) = true) (text : List Char) :
    trimStart (word ++ text) = word ++ text := by
  cases word with
  | nil => cases hword
  | cons c word => exact trimStart_cons (by simpa using hword) _

/-- White space at the end of a text changes no name in it. -/
theorem takeWhile_trimmed (text : List Char) :
    ((text.reverse.dropWhile Text.isWhitespace).reverse).takeWhile isNameChar =
      text.takeWhile isNameChar := by
  have hsplit : text = (text.reverse.dropWhile Text.isWhitespace).reverse ++
      (text.reverse.takeWhile Text.isWhitespace).reverse := by
    rw [← List.reverse_append, List.takeWhile_append_dropWhile, List.reverse_reverse]
  have hblank : Blank (text.reverse.takeWhile Text.isWhitespace).reverse :=
    fun c hc => List.all_eq_true.mp List.all_takeWhile c (List.mem_reverse.mp hc)
  have hnone : (text.reverse.takeWhile Text.isWhitespace).reverse.takeWhile isNameChar = [] := by
    generalize (text.reverse.takeWhile Text.isWhitespace).reverse = gap at hblank
    cases gap with
    | nil => rfl
    | cons c gap =>
      refine List.takeWhile_cons_of_neg (Bool.eq_false_iff.mp ?_)
      exact isNameChar_of_isWhitespace (hblank c List.mem_cons_self)
  conv_rhs => rw [hsplit, List.takeWhile_append, hnone, List.append_nil]
  split_ifs with hall
  · exact (List.takeWhile_prefix _).eq_of_length hall
  · rfl

/-- A name begins with no white space. -/
theorem trimStart_name {name : List Char} (hname : IsName name) (tail : List Char) :
    trimStart (name ++ tail) = name ++ tail := by
  obtain ⟨hne, hchars⟩ := hname
  cases name with
  | nil => exact absurd rfl hne
  | cons c name =>
    refine trimStart_cons (Bool.eq_false_iff.mpr fun hspace => ?_) _
    exact Bool.false_ne_true
      ((isNameChar_of_isWhitespace hspace).symm.trans (hchars c List.mem_cons_self))

/-- A name ends in front of what is no part of it. -/
theorem takeWhile_name {delimiters name tail : List Char} (hname : IsName name)
    (hdelimiters : delimiters.any isNameChar = false) (htail : BeginsWith delimiters tail) :
    (name ++ tail).takeWhile isNameChar = name := by
  rw [List.takeWhile_append_of_pos hname.2]
  cases tail with
  | nil => exact List.append_nil name
  | cons c tail =>
    have hc : isNameChar c = false := by
      rcases htail c rfl with hspace | hmem
      · exact isNameChar_of_isWhitespace hspace
      · exact Bool.eq_false_iff.mpr (List.any_eq_false.mp hdelimiters c hmem)
    rw [List.takeWhile_cons_of_neg (Bool.eq_false_iff.mp hc), List.append_nil]

/-- **A name is read** up to what is behind it. -/
theorem identHead_name {delimiters name tail : List Char} (hname : IsName name)
    (hdelimiters : delimiters.any isNameChar = false) (htail : BeginsWith delimiters tail)
    {gap : List Char} (hgap : Blank gap) : identHead (gap ++ (name ++ tail)) = some name := by
  have hhead : (trimStart (gap ++ (name ++ tail))).takeWhile isNameChar = name := by
    rw [trimStart_blank hgap, trimStart_name hname, takeWhile_name hname hdelimiters htail]
  show (if (trimStart (gap ++ (name ++ tail))).takeWhile isNameChar = [] then none
    else some ((trimStart (gap ++ (name ++ tail))).takeWhile isNameChar)) = some name
  rw [hhead, if_neg hname.1]

/-- White space around a text changes no name at its start. -/
theorem identHead_trimChars {delimiters name tail : List Char} (hname : IsName name)
    (hdelimiters : delimiters.any isNameChar = false) (htail : BeginsWith delimiters tail)
    {gap : List Char} (hgap : Blank gap) :
    identHead (Text.trimChars (gap ++ (name ++ tail))) = some name := by
  have htrim : Text.trimChars (gap ++ (name ++ tail)) =
      ((name ++ tail).reverse.dropWhile Text.isWhitespace).reverse := by
    have hstart := (trimStart_blank hgap (name ++ tail)).trans (trimStart_name hname tail)
    unfold trimStart at hstart
    unfold Text.trimChars
    rw [hstart]
  have hread := (takeWhile_trimmed (name ++ tail)).trans (takeWhile_name hname hdelimiters htail)
  rw [htrim]
  generalize ((name ++ tail).reverse.dropWhile Text.isWhitespace).reverse = text at hread
  -- what is left begins with the name
  have hname' : text = name ++ text.dropWhile isNameChar := by
    rw [← hread, List.takeWhile_append_dropWhile]
  have hhead : (trimStart text).takeWhile isNameChar = name := by
    rw [hname', trimStart_name hname, ← hname', hread]
  show (if (trimStart text).takeWhile isNameChar = [] then none
    else some ((trimStart text).takeWhile isNameChar)) = some name
  rw [hhead, if_neg hname.1]

/-! ## The header of a block -/

/-- What is behind the last brace of a constant goes on with the arguments of a type. -/
def endsArgument (text : List Char) : Bool :=
  (trimStart text).head?.any fun c => ['>', ',', ']'].contains c

/-- The braces of a text, of which `depth` are open, are those of constants in the arguments of
types. -/
def constBraces (depth : ℕ) : List Char → Bool
  | [] => depth == 0
  | c :: rest =>
    if c = '{' then constBraces (depth + 1) rest
    else if c = '}' then
      depth != 0 && (depth != 1 || endsArgument rest) && constBraces (depth - 1) rest
    else constBraces depth rest

/-- Words with which a type may begin that are not its name. -/
def typeWords : List (List Char) :=
  ["dyn".toList, "fn".toList, "unsafe".toList, "extern".toList, "for".toList, "impl".toList]

/-- The generics of an `impl`: text in angle brackets, without an arrow. -/
structure IsGenerics (generics : List Char) : Prop where
  start : generics.head? = some '<'
  brackets : skipAngle 0 generics = some []
  arrow : ¬"->".toList <:+: generics

/-- What may be in front of the type: nothing, if no `for` is behind, or a trait with `for`. -/
inductive BeforeType : List Char → List Char → Prop
  | inherent {rest : List Char} (hrest : ¬" for ".toList <:+: rest) : BeforeType [] rest
  | ofTrait {c : Char} {trait gap rest : List Char}
      (hc : Text.isWhitespace c = false ∧ c ≠ '<' ∧ c ≠ '!')
      (htrait : ¬" for ".toList <:+: c :: trait ++ " for".toList) (hgap : Blank gap) :
      BeforeType (c :: trait ++ " for ".toList ++ gap) rest

/-- **The line that begins an `impl` block**, with the name of the type and the code behind the
brace. -/
inductive ImplHeader : List Char → List Char → List Char → Prop
  | intro {generics gap before ty tail head inside : List Char}
      (hgenerics : generics = [] ∧ gap ≠ [] ∨ IsGenerics generics) (hgap : Blank gap)
      (hbefore : BeforeType before (ty ++ tail)) (hname : IsName ty) (hword : ty ∉ typeWords)
      (htail : BeginsWith ['<', '{'] tail)
      (hbrace : "impl".toList ++ (generics ++ (gap ++ (before ++ (ty ++ tail)))) =
        head ++ '{' :: inside)
      (hhead : constBraces 0 head = true) :
      ImplHeader (head ++ '{' :: inside) ty inside

/-- The braces of constants are closed. -/
theorem netBraces_constBraces {depth : ℕ} {text : List Char} (h : constBraces depth text = true) :
    depth + netBraces text = 0 := by
  induction text generalizing depth with
  | nil =>
    obtain rfl : depth = 0 := by simpa [constBraces] using h
    rfl
  | cons c text ih =>
    unfold constBraces at h
    rw [netBraces_cons, braceNet]
    split_ifs at h ⊢ with hopen hclose
    · have hrest := ih h
      push_cast at hrest
      omega
    · simp only [Bool.and_eq_true, bne_iff_ne] at h
      have hrest := ih h.2
      have hdepth := h.1.1
      omega
    · have hrest := ih h
      omega

/-- What is behind the angle brackets. -/
theorem skipAngle_append {depth : ℤ} {text rest : List Char} (h : skipAngle depth text = some [])
    : skipAngle depth (text ++ rest) = some rest := by
  induction text generalizing depth with
  | nil => cases h
  | cons c text ih =>
    rw [List.cons_append]
    unfold skipAngle at h ⊢
    split_ifs at h ⊢ with hopen hclose hlast
    · exact ih h
    · rw [Option.some.inj h]
      rfl
    · exact ih h
    · exact ih h

/-- **The `for` of a trait** is the first one. -/
theorem dropInfix?_for {trait rest : List Char}
    (htrait : ¬" for ".toList <:+: trait ++ " for".toList) :
    (trait ++ " for ".toList ++ rest).dropInfix? " for ".toList = some (trait, rest) := by
  refine List.dropInfix?_eq_some_iff.mpr ⟨⟨_, rfl, beq_self_eq_true _⟩, ?_⟩
  intro front word tail htext hword
  obtain rfl : word = " for ".toList := eq_of_beq hword
  by_contra hlength
  refine htrait ?_
  have hpart : front ++ " for ".toList <+: trait ++ " for".toList := by
    refine @List.prefix_of_prefix_length_le _ _ _ (trait ++ " for ".toList ++ rest)
      ⟨tail, htext.symm⟩ ⟨' ' :: rest, by simp⟩ ?_
    have hword : " for ".toList.length = 5 := rfl
    have hshort : " for".toList.length = 4 := rfl
    rw [List.length_append, List.length_append, hword, hshort]
    omega
  exact (List.suffix_append front _).isInfix.trans hpart.isInfix

theorem dropInfix?_none {pattern text : List Char} (h : ¬pattern <:+: text) :
    text.dropInfix? pattern = none := by
  cases hdrop : text.dropInfix? pattern with
  | none => rfl
  | some parts =>
    obtain ⟨⟨word, htext, hword⟩, -⟩ := List.dropInfix?_eq_some_iff.mp hdrop
    obtain rfl : word = pattern := eq_of_beq hword
    exact absurd ⟨parts.1, parts.2, htext.symm⟩ h

/-- **The type of a block is read** from the line that begins it. -/
theorem parseImplType_header {code ty inside : List Char} (hheader : ImplHeader code ty inside) :
    parseImplType code = some ty := by
  obtain @⟨generics, gap, before, ty, tail, head, inside, hgenerics, hgap, hbefore, hname, -, htail,
    hbrace, -⟩ := hheader
  rw [← hbrace]
  have hdelimiters : ['<', '{'].any isNameChar = false := rfl
  -- behind the generics and white space
  have hbody : ∃ c rest, before ++ (ty ++ tail) = c :: rest ∧ Text.isWhitespace c = false ∧
      c ≠ '<' ∧ c ≠ '!' := by
    cases hbefore with
    | inherent hrest =>
      obtain ⟨c, rest, rfl⟩ := List.exists_cons_of_ne_nil hname.1
      have hc := hname.2 c List.mem_cons_self
      refine ⟨c, rest ++ tail, rfl, Bool.eq_false_iff.mpr fun hspace => ?_, ?_, ?_⟩
      · exact Bool.false_ne_true ((isNameChar_of_isWhitespace hspace).symm.trans hc)
      · rintro rfl
        cases hc
      · rintro rfl
        cases hc
    | @ofTrait c trait gap' rest hc htrait hgap' => exact ⟨c, _, rfl, hc⟩
  have hread : implTypeName (before ++ (ty ++ tail)) = some ty := by
    unfold implTypeName
    cases hbefore with
    | inherent hrest =>
      rw [List.nil_append, dropInfix?_none hrest]
      exact @identHead_name _ _ _ hname hdelimiters htail [] (by simp [Blank])
    | @ofTrait c trait gap' rest hc htrait hgap' =>
      rw [List.append_assoc, dropInfix?_for htrait]
      exact identHead_trimChars hname hdelimiters htail hgap'
  generalize before ++ (ty ++ tail) = body at hbody hread
  obtain ⟨c, rest, rfl, hspace, hangle, hbang⟩ := hbody
  have hafter : trimStart (gap ++ c :: rest) = c :: rest := by
    rw [trimStart_blank hgap, trimStart_cons hspace]
  have hangle' : ¬(c :: rest).head? = some '<' := fun h => hangle (Option.some.inj h)
  have hbang' : ¬(c :: rest).head? = some '!' := fun h => hbang (Option.some.inj h)
  have hword : (trimStart ("impl".toList ++ (generics ++ (gap ++ c :: rest)))).dropPrefix?
      "impl".toList = some (generics ++ (gap ++ c :: rest)) := by
    rw [trimStart_word (by decide)]
    exact List.dropPrefix?_append_of_beq _ (beq_self_eq_true _)
  unfold parseImplType
  rw [hword, Option.bind_some]
  dsimp only
  rcases hgenerics with ⟨rfl, hne⟩ | hgenerics
  · obtain ⟨w, gap, rfl⟩ := List.exists_cons_of_ne_nil hne
    have hw : Text.isWhitespace w = true := hgap w List.mem_cons_self
    rw [List.nil_append, hafter, if_neg hbang', if_neg hangle', List.cons_append, List.head?_cons,
      Option.bind_some, hw]
    exact hread
  · obtain ⟨hstart, hbrackets, -⟩ := hgenerics
    obtain ⟨d, generics, rfl⟩ : ∃ d generics', generics = d :: generics' := by
      cases generics with
      | nil => cases hstart
      | cons d generics => exact ⟨d, generics, rfl⟩
    obtain rfl : d = '<' := Option.some.inj hstart
    rw [List.cons_append, trimStart_cons (by decide), List.head?_cons, Option.bind_some,
      if_neg (by decide), if_neg (by decide), if_pos rfl, ← List.cons_append,
      skipAngle_append hbrackets, Option.map_some, Option.bind_some, hafter]
    exact hread

/-! ## The line of a function -/

/-- The text of a visibility. -/
inductive VisText : List Char → Visibility → Prop
  | pub {sep : Char} (hsep : sep = ' ' ∨ sep = '\t') : VisText ("pub".toList ++ [sep]) .pub
  | restricted {inner : List Char} (hinner : ')' ∉ inner) :
      VisText ("pub(".toList ++ inner ++ [')']) (.restricted ("pub(".toList ++ inner ++ [')']))

/-- Text of the words in front of `fn`, each with a space behind it: `const` is next to `fn` or
`async`. -/
inductive FnWords : List Char → Prop
  | nil : FnWords []
  | word {word gap words : List Char}
      (hword : word = "async ".toList ∨ word = "unsafe ".toList ∨ word = "extern ".toList)
      (hgap : Blank gap) (hwords : FnWords words) : FnWords (word ++ (gap ++ words))
  | const {gap words : List Char} (hgap : Blank gap) (hwords : FnWords words)
      (hnext : words = [] ∨ Text.startsWith "async ".toList words = true) :
      FnWords ("const ".toList ++ (gap ++ words))

/-- **The line that begins a public function**, with its visibility and name. -/
inductive PubFn : List Char → Visibility → List Char → Prop
  | intro {visText gap words gap' name tail : List Char} {vis : Visibility}
      (hvis : VisText visText vis) (hgap : Blank gap) (hwords : FnWords words) (hgap' : Blank gap')
      (hname : IsName name) (htail : BeginsWith ['(', '<'] tail) :
      PubFn (visText ++ (gap ++ (words ++ ("fn ".toList ++ (gap' ++ (name ++ tail)))))) vis name

/-- What begins the words in front of `fn`, or that word itself. -/
theorem FnWords.start {words : List Char} (hwords : FnWords words) (text : List Char) :
    ∃ word rest, words ++ ("fn ".toList ++ text) = word ++ rest ∧
      (word = "fn ".toList ∨ word = "async ".toList ∨ word = "unsafe ".toList ∨
        word = "extern ".toList ∨ word = "const ".toList) := by
  cases hwords with
  | nil => exact ⟨_, text, rfl, .inl rfl⟩
  | @word word gap words hword hgap hwords =>
    refine ⟨word, _, List.append_assoc word _ _, .inr ?_⟩
    rcases hword with h | h | h
    · exact .inl h
    · exact .inr (.inl h)
    · exact .inr (.inr (.inl h))
  | @const gap words hgap hwords hnext =>
    exact ⟨"const ".toList, _, List.append_assoc _ _ _, .inr (.inr (.inr (.inr rfl)))⟩

/-- No white space is in front of the words. -/
theorem FnWords.trimStart_eq {words : List Char} (hwords : FnWords words) (text : List Char) :
    trimStart (words ++ ("fn ".toList ++ text)) = words ++ ("fn ".toList ++ text) := by
  obtain ⟨word, rest, htext, hword⟩ := hwords.start text
  rw [htext]
  rcases hword with rfl | rfl | rfl | rfl | rfl <;> rfl

/-- White space in front of the words is passed over. -/
theorem skipFnPrefixesLoop_blank {gap : List Char} (hgap : Blank gap) (fuel : ℕ)
    (text : List Char) : skipFnPrefixesLoop fuel (gap ++ text) = skipFnPrefixesLoop fuel text := by
  cases fuel with
  | zero => exact trimStart_blank hgap text
  | succ fuel =>
    unfold skipFnPrefixesLoop
    rw [trimStart_blank hgap]

/-- A word in front of a text is taken from it. -/
theorem dropPrefix?_self (word text : List Char) : (word ++ text).dropPrefix? word = some text :=
  List.dropPrefix?_append_of_beq text (beq_self_eq_true word)

/-- A word is passed over. -/
theorem skipFnPrefixesLoop_word {word gap : List Char}
    (hword : word = "async ".toList ∨ word = "unsafe ".toList ∨ word = "extern ".toList)
    (hgap : Blank gap) {words : List Char} (hwords : FnWords words) (text : List Char) (fuel : ℕ) :
    skipFnPrefixesLoop (fuel + 1) (word ++ (gap ++ (words ++ ("fn ".toList ++ text)))) =
      skipFnPrefixesLoop fuel (words ++ ("fn ".toList ++ text)) := by
  rw [← skipFnPrefixesLoop_blank hgap fuel (words ++ ("fn ".toList ++ text))]
  have hrest := (trimStart_blank hgap (words ++ ("fn ".toList ++ text))).trans
    (hwords.trimStart_eq text)
  -- the text of an ABI is a string, and no code
  have habi : ¬((words ++ ("fn ".toList ++ text)).head? = some '"' ∧
      '"' ∈ (words ++ ("fn ".toList ++ text)).drop 1) := by
    obtain ⟨word, rest, htext, hword⟩ := hwords.start text
    rw [htext]
    rintro ⟨hquote, -⟩
    rcases hword with rfl | rfl | rfl | rfl | rfl <;> cases hquote
  rcases hword with rfl | rfl | rfl
  · rw [skipFnPrefixesLoop, trimStart_word (by decide), dropPrefix?_self]
  · have hasync (s : List Char) : ("unsafe ".toList ++ s).dropPrefix? "async ".toList = none := rfl
    have hconst (s : List Char) : ("unsafe ".toList ++ s).dropPrefix? "const ".toList = none := rfl
    rw [skipFnPrefixesLoop, trimStart_word (by decide)]
    dsimp only
    rw [hasync, hconst, dropPrefix?_self]
  · have hasync (s : List Char) : ("extern ".toList ++ s).dropPrefix? "async ".toList = none := rfl
    have hconst (s : List Char) : ("extern ".toList ++ s).dropPrefix? "const ".toList = none := rfl
    have hother (s : List Char) : ("extern ".toList ++ s).dropPrefix? "unsafe ".toList = none := rfl
    rw [skipFnPrefixesLoop, trimStart_word (by decide)]
    dsimp only
    rw [hasync, hconst, hother, dropPrefix?_self]
    dsimp only
    rw [hrest, if_neg habi, skipFnPrefixesLoop_blank hgap]

/-- `const` is passed over in front of `fn` and `async`. -/
theorem skipFnPrefixesLoop_const {gap words : List Char} (hgap : Blank gap)
    (hwords : FnWords words)
    (hnext : words = [] ∨ Text.startsWith "async ".toList words = true) (text : List Char)
    (fuel : ℕ) :
    skipFnPrefixesLoop (fuel + 1) ("const ".toList ++ (gap ++ (words ++ ("fn ".toList ++ text)))) =
      skipFnPrefixesLoop fuel (words ++ ("fn ".toList ++ text)) := by
  have hrest := (trimStart_blank hgap (words ++ ("fn ".toList ++ text))).trans
    (hwords.trimStart_eq text)
  have hfn : (Text.startsWith "fn ".toList (words ++ ("fn ".toList ++ text)) ||
      Text.startsWith "async ".toList (words ++ ("fn ".toList ++ text))) = true := by
    rcases hnext with rfl | hasync
    · rfl
    · rw [Bool.or_eq_true]
      refine .inr (Text.startsWith_iff.mpr ?_)
      exact (Text.startsWith_iff.mp hasync).trans (List.prefix_append _ _)
  have hasync (s : List Char) : ("const ".toList ++ s).dropPrefix? "async ".toList = none := rfl
  rw [skipFnPrefixesLoop, trimStart_word (by decide)]
  dsimp only
  rw [hasync, dropPrefix?_self]
  dsimp only
  rw [hrest, if_pos hfn, skipFnPrefixesLoop_blank hgap]

/-- **The words in front of `fn` are passed over.** -/
theorem skipFnPrefixesLoop_words {words : List Char} (hwords : FnWords words) (text : List Char)
    {fuel : ℕ} (hfuel : words.length ≤ fuel) :
    skipFnPrefixesLoop fuel (words ++ ("fn ".toList ++ text)) = "fn ".toList ++ text := by
  induction hwords generalizing fuel with
  | nil =>
    cases fuel with
    | zero => rfl
    | succ fuel => rfl
  | @word word gap words hword hgap hwords ih =>
    have hpos : 0 < word.length := by
      rcases hword with rfl | rfl | rfl <;> decide
    rw [List.length_append, List.length_append] at hfuel
    obtain ⟨fuel, rfl⟩ : ∃ fuel', fuel = fuel' + 1 := ⟨fuel - 1, by omega⟩
    rw [List.append_assoc, List.append_assoc, skipFnPrefixesLoop_word hword hgap hwords]
    exact ih (by omega)
  | @const gap words hgap hwords hnext ih =>
    have hpos : 0 < "const ".toList.length := by decide
    rw [List.length_append, List.length_append] at hfuel
    obtain ⟨fuel, rfl⟩ : ∃ fuel', fuel = fuel' + 1 := ⟨fuel - 1, by omega⟩
    rw [List.append_assoc, List.append_assoc, skipFnPrefixesLoop_const hgap hwords hnext]
    exact ih (by omega)

/-- The first such character of a text. -/
theorem split_first {c : Char} {front : List Char} (hfront : c ∉ front) (rest : List Char) :
    (front ++ c :: rest).takeWhile (· != c) = front ∧ behind c (front ++ c :: rest) = rest := by
  have hpass : ∀ d ∈ front, (d != c) = true :=
    fun d hd => bne_iff_ne.mpr (ne_of_mem_of_not_mem hd hfront)
  have hstop : ¬(c != c) = true := by simp
  refine ⟨?_, ?_⟩
  · rw [List.takeWhile_append_of_pos hpass, List.takeWhile_cons_of_neg (p := (· != c)) hstop,
      List.append_nil]
  · unfold behind
    rw [List.dropWhile_append_of_pos hpass, List.dropWhile_cons_of_neg (p := (· != c)) hstop]
    rfl

/-- A visibility in parentheses is taken as it is. -/
theorem parse_restricted (inner : List Char) :
    Visibility.parse ("pub(".toList ++ inner ++ [')']) =
      .restricted ("pub(".toList ++ inner ++ [')']) := by
  have htrim : Text.trimChars ("pub(".toList ++ inner ++ [')']) =
      "pub(".toList ++ inner ++ [')'] := by
    unfold Text.trimChars
    have hstart : ("pub(".toList ++ inner ++ [')']).dropWhile Text.isWhitespace =
        "pub(".toList ++ inner ++ [')'] := rfl
    rw [hstart, List.reverse_append, List.reverse_singleton, List.singleton_append,
      List.dropWhile_cons_of_neg (by decide), List.reverse_cons, List.reverse_reverse]
  have hne : "pub(".toList ++ inner ++ [')'] ≠ "pub".toList := by
    intro h
    have hlength := congrArg List.length h
    have hlong : "pub(".toList.length = 4 := rfl
    have hshort : "pub".toList.length = 3 := rfl
    rw [List.length_append, List.length_append, hlong, hshort] at hlength
    omega
  unfold Visibility.parse
  rw [htrim]
  exact if_neg hne

/-- **The visibility is read**, and what is behind it. -/
theorem splitVis_visText {visText : List Char} {vis : Visibility} (hvis : VisText visText vis)
    (text : List Char) :
    ∃ gap, Blank gap ∧ splitVis (visText ++ text) = some (vis, gap ++ text) := by
  cases hvis with
  | @pub sep hsep =>
    rcases hsep with rfl | rfl
    · exact ⟨[' '], by decide, rfl⟩
    · exact ⟨['\t'], by decide, rfl⟩
  | @restricted inner hinner =>
    refine ⟨[], by decide, ?_⟩
    have hfront : ')' ∉ "pub(".toList ++ inner := by
      rw [List.mem_append]
      exact not_or.mpr ⟨by decide, hinner⟩
    obtain ⟨hbefore, hbehind⟩ := split_first hfront text
    have htext : "pub(".toList ++ inner ++ [')'] ++ text =
        "pub(".toList ++ inner ++ ')' :: text := by
      rw [List.append_assoc, List.singleton_append]
    have hmem : ')' ∈ "pub(".toList ++ inner ++ ')' :: text := by simp
    have htrim : trimStart ("pub(".toList ++ inner ++ ')' :: text) =
        "pub(".toList ++ inner ++ ')' :: text := rfl
    have hstart : Text.startsWith "pub(".toList ("pub(".toList ++ inner ++ ')' :: text) = true :=
      rfl
    unfold splitVis
    rw [htext, htrim]
    dsimp only
    rw [if_pos hstart, if_pos hmem, hbefore, hbehind, parse_restricted]
    rfl

/-- **A public function is read** from the line that begins it. -/
theorem parsePubItemLine_pubFn {code name : List Char} {vis : Visibility}
    (hfn : PubFn code vis name) : parsePubItemLine code = some (vis, .fn, name) := by
  obtain @⟨visText, gap, words, gap', name, tail, vis, hvis, hgap, hwords, hgap', hname, htail⟩ :=
    hfn
  obtain ⟨sep, hsep, hsplit⟩ :=
    splitVis_visText hvis (gap ++ (words ++ ("fn ".toList ++ (gap' ++ (name ++ tail)))))
  have htrim (text : List Char) : trimStart (visText ++ text) = visText ++ text := by
    cases hvis with
    | pub hsep => rfl
    | restricted hinner => rfl
  have hskip : skipFnPrefixes (words ++ ("fn ".toList ++ (gap' ++ (name ++ tail)))) =
      "fn ".toList ++ (gap' ++ (name ++ tail)) :=
    skipFnPrefixesLoop_words hwords _ (by rw [List.length_append]; omega)
  have hdelimiters : ['(', '<'].any isNameChar = false := rfl
  have hread := identHead_name hname hdelimiters htail hgap'
  unfold parsePubItemLine itemKeywords
  rw [htrim]
  dsimp only
  rw [hsplit, Option.bind_some, trimStart_blank hsep, trimStart_blank hgap, hwords.trimStart_eq,
    hskip, List.findSome?_cons]
  dsimp only
  rw [dropPrefix?_self, Option.map_some]
  dsimp only
  rw [Option.bind_some]
  exact congrArg (Option.map (vis, ItemKind.fn, ·)) hread

/-- A public function is no import. -/
theorem isPubUseStart_pubFn {code name : List Char} {vis : Visibility} (hfn : PubFn code vis name) :
    isPubUseStart code = false := by
  obtain @⟨visText, gap, words, gap', name, tail, vis, hvis, hgap, hwords, -, -, -⟩ := hfn
  have huse (text : List Char) :
      (Text.startsWith "use ".toList (words ++ ("fn ".toList ++ text)) ||
        words ++ ("fn ".toList ++ text) == "use".toList ||
        Text.startsWith "use\t".toList (words ++ ("fn ".toList ++ text))) = false := by
    obtain ⟨word, rest, htext, hword⟩ := hwords.start text
    rw [htext]
    rcases hword with rfl | rfl | rfl | rfl | rfl <;> rfl
  generalize gap' ++ (name ++ tail) = text at huse ⊢
  cases hvis with
  | @pub sep hsep =>
    have hblank : Blank (sep :: gap) := by
      intro c hc
      rcases List.mem_cons.mp hc with rfl | hc
      · rcases hsep with rfl | rfl <;> decide
      · exact hgap c hc
    have hopen (s : List Char) : ¬(sep :: s).head? = some '(' := by
      rintro h
      rcases hsep with rfl | rfl <;> cases h
    unfold isPubUseStart
    rw [List.append_assoc, trimStart_word (by decide), dropPrefix?_self]
    dsimp only
    rw [List.singleton_append, if_neg fun h => hopen _ h.1, if_neg (hopen _), ← List.cons_append,
      trimStart_blank hblank, hwords.trimStart_eq]
    exact huse text
  | @restricted inner hinner =>
    have hfront : ')' ∉ '(' :: inner :=
      fun h => (List.mem_cons.mp h).elim (by decide) hinner
    have hopen (s : List Char) : ('(' :: inner ++ s).head? = some '(' := rfl
    have hclose : ')' ∈ '(' :: inner ++ ')' :: (gap ++ (words ++ ("fn ".toList ++ text))) := by simp
    have hcode : "pub(".toList ++ inner ++ [')'] ++ (gap ++ (words ++ ("fn ".toList ++ text))) =
        "pub".toList ++ ('(' :: inner ++ ')' :: (gap ++ (words ++ ("fn ".toList ++ text)))) := by
      rw [List.append_assoc _ [')'], List.singleton_append]
      rfl
    unfold isPubUseStart
    rw [hcode, trimStart_word (by decide), dropPrefix?_self]
    dsimp only
    rw [if_neg fun h => h.2 hclose, if_pos (hopen _), (split_first hfront _).2,
      trimStart_blank hgap, hwords.trimStart_eq]
    exact huse text

theorem isPubUseStart_cons {c : Char} (hc : Text.isWhitespace c = false ∧ c ≠ 'p')
    (rest : List Char) : isPubUseStart (c :: rest) = false := by
  have hpub : (c :: rest).dropPrefix? "pub".toList = none :=
    if_neg fun h => hc.2 (eq_of_beq h)
  unfold isPubUseStart
  rw [trimStart_cons hc.1, hpub]

theorem parseImplType_cons {c : Char} (hc : Text.isWhitespace c = false ∧ c ≠ 'i')
    (rest : List Char) : parseImplType (c :: rest) = none := by
  have himpl : (c :: rest).dropPrefix? "impl".toList = none :=
    if_neg fun h => hc.2 (eq_of_beq h)
  unfold parseImplType
  rw [trimStart_cons hc.1, himpl]
  rfl

theorem PubFn.cons {code name : List Char} {vis : Visibility} (hfn : PubFn code vis name) :
    ∃ rest, code = 'p' :: rest := by
  obtain @⟨visText, gap, words, gap', name, tail, vis, hvis, -, -, -, -, -⟩ := hfn
  cases hvis with
  | pub hsep => exact ⟨_, rfl⟩
  | restricted hinner => exact ⟨_, rfl⟩

theorem ImplHeader.cons {code ty inside : List Char} (hheader : ImplHeader code ty inside) :
    ∃ rest, code = 'i' :: rest := by
  obtain @⟨generics, gap, before, ty, tail, head, inside, -, -, -, -, -, -, hbrace, -⟩ := hheader
  rw [← hbrace]
  exact ⟨_, rfl⟩

/-- The braces of the line that begins a block: its own, and those behind. -/
theorem ImplHeader.netBraces {code ty inside : List Char} (hheader : ImplHeader code ty inside) :
    netBraces code = 1 + Inventory.netBraces inside := by
  obtain @⟨generics, gap, before, ty, tail, head, inside, -, -, -, -, -, -, -, hhead⟩ := hheader
  have hzero := netBraces_constBraces hhead
  rw [netBraces_append, netBraces_cons, braceNet, if_pos rfl]
  push_cast at hzero
  omega

/-! ## The run over a block -/

namespace Machine

section

variable (crateName relPath : List Char) {m : Machine}

/-- A line of code that is neither an attribute nor an import. -/
theorem step_code (hsettled : m.Settled) {line : ScannedLine} {c : Char} {rest : List Char}
    (hcode : line.code = c :: rest) (hc : Text.isWhitespace c = false ∧ c ≠ '#')
    (huse : isPubUseStart line.code = false) :
    m.step crateName relPath line =
      { scan := ((m.scan.enterImpl line.code).count line.net).popImpls
        index := m.index + 1
        statement := none
        items := m.items ++ lineItems crateName relPath m.index
          (m.scan.enterImpl line.code).implStack line.code } := by
  have htest := isCfgTestAttr_cons hc rest
  have hattr := startsWith_attr_cons hc.2 rest
  rw [← hcode] at htest hattr
  have hne : line.code ≠ [] := by
    rw [hcode]
    exact List.cons_ne_nil c rest
  have hopens : ¬(opensUse m.scan line ∧ statementCompleteAtSemi 0 line.code = false) :=
    fun h => Bool.false_ne_true (huse.symm.trans h.1.2.2.2.2.2.2)
  have hskip : ¬0 < m.scan.skipBraceDepth := by
    rw [hsettled.skip]
    exact Int.lt_irrefl 0
  have hpending : ¬(m.scan.pendingCfgTest = true ∧ line.state = .code) :=
    fun h => Bool.false_ne_true (hsettled.pending.symm.trans h.1)
  unfold step
  rw [hsettled.statement]
  dsimp only
  rw [if_neg hopens]
  unfold parseLine
  rw [if_neg hskip, if_neg fun h => hne h.1,
    if_neg fun h => Bool.false_ne_true (htest.symm.trans h.2),
    if_neg fun h => Bool.false_ne_true (hattr.symm.trans h.2), if_neg hpending]
  unfold parseCode
  rw [if_pos (.inr hne)]
  dsimp only
  rw [if_neg (Bool.eq_false_iff.mp huse)]

/-- **A block is entered** with its type. -/
theorem mem_step_header (hsettled : m.Settled) {header : ScannedLine} {ty inside : List Char}
    (hheader : ImplHeader header.code ty inside) (hcounted : Counted header)
    (hinside : 0 < 1 + netBraces inside) :
    (m.scan.fileBraceDepth, ty) ∈ (m.step crateName relPath header).scan.implStack := by
  obtain ⟨rest, hcode⟩ := hheader.cons
  have huse : isPubUseStart header.code = false := by
    rw [hcode]
    exact isPubUseStart_cons (by decide) rest
  have henter : m.scan.enterImpl header.code =
      { m.scan with implStack := (m.scan.fileBraceDepth, ty) :: m.scan.implStack } := by
    unfold ScanState.enterImpl
    rw [parseImplType_header hheader]
  have hnet : header.net = 1 + netBraces inside := hcounted.trans hheader.netBraces
  rw [step_code crateName relPath hsettled hcode (by decide) huse, henter]
  refine ScanState.mem_popImpls List.mem_cons_self ?_
  show m.scan.fileBraceDepth < m.scan.fileBraceDepth + header.net
  omega

variable {crateName relPath}

/-- The innermost open block is on the top of the stack. -/
theorem Nested.top (hnested : m.Nested) (hstatement : m.statement = none) {depth : ℤ}
    {ty : List Char} (hmem : (depth, ty) ∈ m.scan.implStack)
    (hdepth : m.scan.fileBraceDepth = depth + 1) :
    ∃ others, m.scan.implStack = (depth, ty) :: others := by
  have hopen := hnested.isOpen hstatement
  have hsorted := hnested.sorted
  cases hstack : m.scan.implStack with
  | nil =>
    rw [hstack] at hmem
    cases hmem
  | cons top others =>
    rw [hstack] at hmem hopen hsorted
    rcases List.mem_cons.mp hmem with rfl | hbelow
    · exact ⟨others, rfl⟩
    · have htop := hopen top List.mem_cons_self
      have hinner := (List.pairwise_cons.mp hsorted).1 _ hbelow
      dsimp only at hinner
      omega

/-- The net braces of lines are those of their code. -/
theorem netLines_eq {lines : List ScannedLine} (hcounted : ∀ line ∈ lines, Counted line) :
    netLines lines = netBraces (lines.flatMap ScannedLine.code) := by
  induction lines with
  | nil => rfl
  | cons line lines ih =>
    rw [netLines, List.flatMap_cons, netBraces_append,
      hcounted line List.mem_cons_self,
      ih fun line' h => hcounted line' (List.mem_cons_of_mem line h)]

/-- **Directly in a block**, its entry is on the top of the stack. -/
theorem top_run (hsettled : m.Settled) (hnested : m.Nested) {header : ScannedLine}
    {inner : List ScannedLine} {ty inside : List Char}
    (hheader : ImplHeader header.code ty inside)
    (hopen : StaysOpen 1 (inside ++ inner.flatMap ScannedLine.code))
    (hdirect : netBraces (inside ++ inner.flatMap ScannedLine.code) = 0)
    (hcounted : ∀ line ∈ header :: inner, Counted line)
    (horderly : m.OrderlyRun crateName relPath (header :: inner))
    (hstatement : (m.run crateName relPath (header :: inner)).statement = none) :
    ∃ others, (m.run crateName relPath (header :: inner)).scan.implStack =
      (m.scan.fileBraceDepth, ty) :: others := by
  have hinner : ∀ line ∈ inner, Counted line :=
    fun line h => hcounted line (List.mem_cons_of_mem header h)
  have hnet : header.net = 1 + netBraces inside :=
    (hcounted header List.mem_cons_self).trans hheader.netBraces
  have hfirst : (m.step crateName relPath header).scan.fileBraceDepth =
      m.scan.fileBraceDepth + header.net :=
    (stackStep crateName relPath (hcounted header List.mem_cons_self) horderly.1).depth
  refine (hnested.run hcounted horderly).top hstatement ?_ ?_
  · -- the block stays open in every line of it
    rw [run_cons]
    refine mem_run (mem_step_header crateName relPath hsettled hheader
      (hcounted header List.mem_cons_self) (hopen.pos (List.prefix_append _ _))) hinner horderly.2
      fun front hfront => ?_
    obtain ⟨behind, rfl⟩ := hfront
    have hpart : inside ++ front.flatMap ScannedLine.code <+:
        inside ++ (front ++ behind).flatMap ScannedLine.code :=
      ⟨behind.flatMap ScannedLine.code, by rw [List.flatMap_append, List.append_assoc]⟩
    have hpos := hopen.pos hpart
    rw [netBraces_append] at hpos
    rw [netLines_eq fun line h => hinner line (List.mem_append_left behind h), hfirst, hnet]
    dsimp only
    omega
  · rw [netBraces_append] at hdirect
    rw [run_cons, depth_run hinner horderly.2, hfirst, hnet, netLines_eq hinner]
    omega

/-- **A public function directly in a block is found with the type of the block.** -/
theorem step_implFn (hsettled : m.Settled) {ty : List Char} {depth : ℤ}
    {others : List (ℤ × List Char)} (hstack : m.scan.implStack = (depth, ty) :: others)
    {line : ScannedLine} {name : List Char} {vis : Visibility} (hfn : PubFn line.code vis name) :
    (m.step crateName relPath line).items = m.items ++
        [foundItem crateName relPath m.index (ty ++ "::".toList ++ name) .fn vis] ∧
      (m.step crateName relPath line).statement = none := by
  obtain ⟨rest, hcode⟩ := hfn.cons
  have henter : m.scan.enterImpl line.code = m.scan := by
    unfold ScanState.enterImpl
    rw [hcode, parseImplType_cons (by decide)]
  have hitems : lineItems crateName relPath m.index m.scan.implStack line.code =
      [foundItem crateName relPath m.index (ty ++ "::".toList ++ name) .fn vis] := by
    unfold lineItems
    rw [parsePubItemLine_pubFn hfn, hstack]
    rfl
  rw [step_code crateName relPath hsettled hcode (by decide) (isPubUseStart_pubFn hfn), henter,
    hitems]
  exact ⟨rfl, rfl⟩

end

end Machine

end RemoteLink.Inventory
