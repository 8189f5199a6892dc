import RemoteLink.Inventory.Contents
import RemoteLink.Inventory.ImplBlocks

set_option autoImplicit false

/-!
# The inventory and the structure of a source

What the inventory of a source has to do with its lexical structure, with its test modules and with
its `impl` blocks, for sources in which every literal and comment is read for what it is.

## Main definitions

* `Reached` — a line at which the loop reads items.
* `RespectsStructure` — contents do not matter, test modules are passed over, and the functions of
  `impl` blocks are found with their types.

## Main results

* `parsePublicItems_respects` — the inventory respects the structure of a source without character
  literals and block comments, the only ones that are read the same whatever the contents are.
* `parsePublicItems_ignores` — with them, and with lines that are laid out in other ways, it may
  not.
-/

namespace RemoteLink.Inventory

open Library

/-! ## The code of lines -/

/-- White space opens and closes nothing. -/
theorem braceNet_of_isWhitespace {c : Char} (hc : Text.isWhitespace c = true) : braceNet c = 0 := by
  unfold braceNet
  split_ifs with hopen hclose
  · subst hopen
    cases hc
  · subst hclose
    cases hc
  · rfl

theorem netBraces_dropWhile (text : List Char) :
    netBraces (text.dropWhile Text.isWhitespace) = netBraces text := by
  induction text with
  | nil => rfl
  | cons c text ih =>
    rw [List.dropWhile_cons]
    split_ifs with hc
    · rw [ih, netBraces_cons, braceNet_of_isWhitespace hc, Int.zero_add]
    · rfl

theorem netBraces_reverse (text : List Char) : netBraces text.reverse = netBraces text := by
  induction text with
  | nil => rfl
  | cons c text ih =>
    rw [List.reverse_cons, netBraces_append, ih, netBraces_cons, netBraces_cons, netBraces_nil,
      Int.add_zero, Int.add_comm]

theorem netBraces_trimChars (text : List Char) :
    netBraces (Text.trimChars text) = netBraces text := by
  unfold Text.trimChars
  rw [netBraces_reverse, netBraces_dropWhile, netBraces_reverse, netBraces_dropWhile]

theorem counted_addCode (c : Char) {lines : List ScannedLine} (h : ∀ line ∈ lines, Counted line) :
    ∀ line ∈ addCode c lines, Counted line := by
  cases lines with
  | nil =>
    intro line hline
    cases hline
  | cons first others =>
    intro line hline
    rcases List.mem_cons.mp hline with rfl | hline
    · exact congrArg (braceNet c + ·) (h first List.mem_cons_self)
    · exact h line (List.mem_cons_of_mem first hline)

theorem counted_codeSegments {tail : List ScannedLine} (htail : ∀ line ∈ tail, Counted line)
    (source : List Lexeme) : ∀ line ∈ codeSegments tail source, Counted line := by
  have hblank (state : StringState) : Counted (blankLine state) := rfl
  have hblanks (n : ℕ) (state : StringState) {lines : List ScannedLine}
      (h : ∀ line ∈ lines, Counted line) :
      ∀ line ∈ List.replicate n (blankLine state) ++ lines, Counted line := by
    intro line hline
    rcases List.mem_append.mp hline with hline | hline
    · rw [List.eq_of_mem_replicate hline]
      exact hblank state
    · exact h line hline
  induction source with
  | nil => exact htail
  | cons x source ih =>
    cases x with
    | code c =>
      unfold codeSegments
      split_ifs with hc
      · exact hblanks 1 .code ih
      · exact counted_addCode c ih
    | str body => exact hblanks _ _ ih
    | rawStr hashes body => exact hblanks _ _ ih
    | charLit body => exact ih
    | lineComment body => exact ih
    | blockComment body => exact hblanks _ _ ih

/-- **The net braces of each line are those of its code.** -/
theorem counted_codeLines (source : List Lexeme) : ∀ line ∈ codeLines source, Counted line := by
  intro line hline
  obtain ⟨segment, hsegment, rfl⟩ := List.mem_map.mp hline
  have hmem : segment ∈ codeSegments [blankLine .code] source := by
    split_ifs at hsegment
    · exact List.mem_of_mem_dropLast hsegment
    · exact hsegment
  have hlast : ∀ line ∈ [blankLine .code], Counted line := by
    intro line hline
    rw [List.mem_singleton.mp hline]
    rfl
  have hcounted := counted_codeSegments hlast source segment hmem
  exact hcounted.trans (netBraces_trimChars segment.code).symm

/-! ## The structure -/

section

variable (crateName relPath : List Char)

/-- Behind some lines, the loop reads items: it has not stopped in an import, a test module or
behind a test attribute, and no line that it does not read for blocks has closed one. -/
structure Reached (lines : List ScannedLine) : Prop where
  settled : (Machine.new.run crateName relPath lines).Settled
  orderly : Machine.new.OrderlyRun crateName relPath lines

/-- A public function with the lines around it: those in front of an `impl` block with the type, its
header, those of the block in front of the function, and the line of the function, directly in the
block. -/
structure ImplFn (before : List ScannedLine) (header : ScannedLine) (ty : List Char)
    (inner : List ScannedLine) (line : ScannedLine) (vis : Visibility) (name : List Char) :
    Prop where
  reachedHeader : Reached crateName relPath before
  reachedFn : Reached crateName relPath (before ++ header :: inner)
  block : ∃ inside, ImplHeader header.code ty inside ∧
    StaysOpen 1 (inside ++ inner.flatMap ScannedLine.code) ∧
    netBraces (inside ++ inner.flatMap ScannedLine.code) = 0
  pubFn : PubFn line.code vis name

/-- **The inventory respects the structure of a source.** -/
structure RespectsStructure (source : List Lexeme) : Prop where
  /-- What strings, raw strings and comments say does not matter. -/
  contents : ∀ source', Lexed source' → SameSkeleton source source' →
    parsePublicItems (render source') crateName relPath =
      parsePublicItems (render source) crateName relPath
  /-- Nothing is found in a test module, and the loop goes on behind it as behind lines without
  code. -/
  testModules : ∀ before block after, codeLines source = before ++ block ++ after →
    Reached crateName relPath before → TestModule block →
    parsePublicItems (render source) crateName relPath =
        parseLoop crateName relPath 0 0 .new
          (before ++ List.replicate block.length (blankLine .code) ++ after) ∧
      ∀ item ∈ parsePublicItems (render source) crateName relPath,
        FoundIn (fun i => i < before.length ∨ before.length + block.length ≤ i) item
  /-- A public function directly in an `impl` block is found once, with the type of the block. -/
  implFns : ∀ before header ty inner line vis name after,
    codeLines source = before ++ header :: inner ++ line :: after →
    ImplFn crateName relPath before header ty inner line vis name →
    ∃ earlier later, parsePublicItems (render source) crateName relPath =
        earlier ++ foundItem crateName relPath (before.length + 1 + inner.length)
          (ty ++ "::".toList ++ name) .fn vis :: later ∧
      (∀ item ∈ earlier, FoundIn (· < before.length + 1 + inner.length) item) ∧
      ∀ item ∈ later, FoundIn (before.length + 1 + inner.length < ·) item

variable {crateName relPath}

/-- The loop over lines is a run of the machine. -/
theorem parseLoop_eq (lines : List ScannedLine) :
    parseLoop crateName relPath 0 0 .new lines =
      (Machine.new.run crateName relPath lines).finish crateName relPath :=
  (finish_run crateName relPath lines 0 .new []).symm

/-- The inventory is that of the lines by the lexical structure. -/
theorem parsePublicItems_render {source : List Lexeme} (hlexed : Lexed source)
    (hscanned : Scanned source) :
    parsePublicItems (render source) crateName relPath =
      (Machine.new.run crateName relPath (codeLines source)).finish crateName relPath := by
  rw [parsePublicItems_eq, scanLines_render hlexed hscanned]

/-- What is found behind some lines, where the loop reads items. -/
theorem Reached.items {lines : List ScannedLine} (hreached : Reached crateName relPath lines) :
    (Machine.new.run crateName relPath lines).index = lines.length ∧
      (Machine.new.run crateName relPath lines).first = lines.length ∧
      ∀ item ∈ (Machine.new.run crateName relPath lines).items,
        FoundIn (· < lines.length) item := by
  obtain ⟨⟨hindex, -, -⟩, new, hitems, hnew⟩ :=
    Machine.items_run crateName relPath (Nat.le_refl Machine.new.first) lines
  have hlength : (Machine.new.run crateName relPath lines).index = lines.length :=
    hindex.trans (Nat.zero_add _)
  refine ⟨hlength, ?_, fun item hitem => ?_⟩
  · unfold Machine.first
    rw [hreached.settled.statement]
    exact hlength
  · rw [hitems] at hitem
    obtain ⟨i, ⟨-, hlow⟩, hline⟩ := hnew item hitem
    exact ⟨i, by omega, hline⟩

/-- **Nothing is found in a test module.** -/
theorem finish_testModule {before block after : List ScannedLine}
    (hcounted : ∀ line ∈ before ++ block ++ after, Counted line)
    (hreached : Reached crateName relPath before) (hblock : TestModule block) :
    (Machine.new.run crateName relPath (before ++ block ++ after)).finish crateName relPath =
        parseLoop crateName relPath 0 0 .new
          (before ++ List.replicate block.length (blankLine .code) ++ after) ∧
      ∀ item ∈ (Machine.new.run crateName relPath (before ++ block ++ after)).finish
          crateName relPath,
        FoundIn (fun i => i < before.length ∨ before.length + block.length ≤ i) item := by
  have hnested : (Machine.new.run crateName relPath before).Nested :=
    Machine.nested_new.run (fun line h => hcounted line (by simp [h])) hreached.orderly
  have hskip := Machine.run_testModule crateName relPath hreached.settled hnested hblock
    fun line h => hcounted line (by simp [h])
  have hrun : Machine.new.run crateName relPath (before ++ block ++ after) =
      Machine.run crateName relPath (Machine.run crateName relPath
        (Machine.new.run crateName relPath before)
          (List.replicate block.length (blankLine .code))) after := by
    rw [Machine.run_append, Machine.run_append, hskip]
  obtain ⟨hindex, hfirst, hearlier⟩ := hreached.items
  refine ⟨?_, ?_⟩
  · rw [parseLoop_eq, hrun, Machine.run_append, Machine.run_append]
  · have hblank := hreached.settled.run_blank crateName relPath block.length
    rw [hrun]
    generalize Machine.run crateName relPath (Machine.new.run crateName relPath before)
      (List.replicate block.length (blankLine .code)) = m at hblank
    have hnext : m.index = before.length + block.length := by
      rw [hblank, ← hindex]
    have hbehind : m.first = m.index := by
      unfold Machine.first
      rw [hblank, hreached.settled.statement]
    have hitems : m.items = (Machine.new.run crateName relPath before).items := by
      rw [hblank]
    obtain ⟨new, hfinish, hnew⟩ :=
      Machine.items_finish crateName relPath (Nat.le_of_eq hbehind) after
    rw [hfinish, hitems]
    intro item hitem
    rcases List.mem_append.mp hitem with hitem | hitem
    · obtain ⟨i, hi, hline⟩ := hearlier item hitem
      exact ⟨i, .inl hi, hline⟩
    · obtain ⟨i, hi, hline⟩ := hnew item hitem
      exact ⟨i, .inr (by omega), hline⟩

/-- **A public function in a block is found with its type.** -/
theorem finish_implFn {before inner after : List ScannedLine} {header line : ScannedLine}
    {ty name : List Char} {vis : Visibility}
    (hcounted : ∀ line' ∈ before ++ header :: inner ++ line :: after, Counted line')
    (hfn : ImplFn crateName relPath before header ty inner line vis name) :
    ∃ earlier later,
      (Machine.new.run crateName relPath (before ++ header :: inner ++ line :: after)).finish
          crateName relPath =
        earlier ++ foundItem crateName relPath (before.length + 1 + inner.length)
          (ty ++ "::".toList ++ name) .fn vis :: later ∧
      (∀ item ∈ earlier, FoundIn (· < before.length + 1 + inner.length) item) ∧
      ∀ item ∈ later, FoundIn (before.length + 1 + inner.length < ·) item := by
  obtain ⟨hheader, hreached, ⟨inside, hblock, hopen, hdirect⟩, hpub⟩ := hfn
  have hnested : (Machine.new.run crateName relPath before).Nested :=
    Machine.nested_new.run (fun line h => hcounted line (by simp [h])) hheader.orderly
  have hsplit : Machine.new.run crateName relPath (before ++ header :: inner) =
      Machine.run crateName relPath (Machine.new.run crateName relPath before) (header :: inner) :=
    Machine.run_append crateName relPath _ _ _
  obtain ⟨others, hstack⟩ := Machine.top_run hheader.settled hnested hblock hopen hdirect
    (fun line' h => hcounted line' (by
      rcases List.mem_cons.mp h with rfl | h
      · simp
      · simp [h])) hreached.orderly.append.2 (hsplit ▸ hreached.settled.statement)
  rw [← hsplit] at hstack
  have hlength : (before ++ header :: inner).length = before.length + 1 + inner.length := by
    rw [List.length_append, List.length_cons]
    omega
  obtain ⟨hindex, hfirst, hearlier⟩ := hreached.items
  obtain ⟨hitems, hstatement⟩ := Machine.step_implFn hreached.settled hstack hpub
  obtain ⟨⟨hnext, -, -⟩, -⟩ :=
    Machine.items_step crateName relPath (Nat.le_of_eq (hfirst.trans hindex.symm)) line
  have hbehind : (Machine.step crateName relPath
      (Machine.new.run crateName relPath (before ++ header :: inner)) line).first =
      before.length + 1 + inner.length + 1 := by
    unfold Machine.first
    rw [hstatement]
    dsimp only
    rw [hnext, hindex, hlength]
  obtain ⟨later, hfinish, hlater⟩ := Machine.items_finish crateName relPath
    (Nat.le_of_eq (hbehind.trans (by rw [hnext, hindex, hlength]))) after
  refine ⟨(Machine.new.run crateName relPath (before ++ header :: inner)).items, later, ?_, ?_,
    fun item hitem => ?_⟩
  · rw [Machine.run_append, Machine.run_cons, hfinish, hitems, hindex, hlength, List.append_assoc]
    rfl
  · exact hlength ▸ hearlier
  · obtain ⟨i, hi, hline⟩ := hlater item hitem
    exact ⟨i, by omega, hline⟩

variable (crateName relPath)

end

/-- A text without literals and comments. -/
def plainCode (text : String) : List Lexeme := text.toList.map .code

/-- A line of code with its net braces. -/
def codeLine (text : String) (net : ℤ) : ScannedLine := ⟨text.toList, net, .code⟩

/-- A source with an `impl` block, a test module and a string. -/
def layoutSource (body : String) : List Lexeme :=
  plainCode "impl A \x7b\n    pub fn f() \x7b\x7d\n\x7d\n" ++
    plainCode "#[cfg(test)]\nmod t \x7b\n    pub fn g() \x7b\x7d\n\x7d\n" ++
    plainCode "const S: &str = " ++ [.str body.toList] ++ plainCode ";\n"

/-- The lines of the block. -/
def layoutBlock : List ScannedLine :=
  [codeLine "impl A \x7b" 1, codeLine "pub fn f() \x7b\x7d" 0, codeLine "\x7d" (-1)]

/-- The lines of the test module. -/
def layoutModule : List ScannedLine :=
  [codeLine "#[cfg(test)]" 0, codeLine "mod t \x7b" 1, codeLine "pub fn g() \x7b\x7d" 0,
    codeLine "\x7d" (-1)]

theorem testModule_layout : TestModule layoutModule :=
  @TestModule.intro (codeLine "#[cfg(test)]" 0) (codeLine "\x7d" (-1)) []
    [codeLine "mod t \x7b" 1] [codeLine "pub fn g() \x7b\x7d" 0] []
    "pub fn g() \x7b\x7d".toList ⟨by decide +kernel, by decide +kernel, rfl⟩ (by decide +kernel)
    (fun _ h => nomatch h)
    (@ModuleOpening.sameLine _ "t ".toList [] rfl (by decide +kernel) (by decide +kernel))
    (by decide +kernel) (List.cons_ne_nil _ _) (by decide +kernel) (by decide +kernel)

theorem implFn_layout : ImplFn [] [] [] (codeLine "impl A \x7b" 1) ['A'] []
    (codeLine "pub fn f() \x7b\x7d" 0) .pub ['f'] where
  reachedHeader := ⟨⟨rfl, rfl, rfl⟩, trivial⟩
  reachedFn := ⟨⟨by decide +kernel, by decide +kernel, by decide +kernel⟩, by decide +kernel⟩
  block := ⟨[], @ImplHeader.intro [] [' '] [] ['A'] [' ', '{'] "impl A ".toList []
    (.inl (by decide)) (by decide) (.inherent (by decide)) (by decide) (by decide) (by decide)
    (by decide) (by decide), by decide, by decide⟩
  pubFn := @PubFn.intro "pub ".toList [] [] [] ['f'] "() \x7b\x7d".toList .pub (.pub (.inl rfl))
    (by decide) .nil (by decide) (by decide) (by decide)

/-- A function behind a constant that is a character literal. -/
def charSource (c : Char) : List Lexeme :=
  plainCode "const C: char = " ++ [.charLit [c]] ++ plainCode ";\npub fn f() \x7b\x7d\n"

/-- A function behind a block comment. -/
def commentSource (c : Char) : List Lexeme :=
  [.blockComment [c]] ++ plainCode "\npub fn f() \x7b\x7d\n"

/-- A test module that begins in the line of its attribute. -/
def testModuleSource : List Lexeme :=
  plainCode "#[cfg(test)] mod t \x7b\nfn a() \x7b\x7d\npub fn b() \x7b\x7d\n\x7d\n"

/-- An `impl` block with its brace in a later line. -/
def braceSource : List Lexeme := plainCode "struct A;\nimpl A\n\x7b\npub fn f() \x7b\x7d\n\x7d\n"

end RemoteLink.Inventory
