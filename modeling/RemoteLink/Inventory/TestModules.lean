import RemoteLink.Inventory.LineMachine

set_option autoImplicit false

/-!
# Test modules

A module behind a test attribute is passed over: where the attribute, the opening brace and the
closing brace stand in lines as the loop expects them, the state behind the module is the one behind
as many lines without code.

## Main definitions

* `StaysOpen` — a text that does not close what is open in front of it.
* `AttrLine`, `ModuleOpening`, `TestModule` — the lines of a test module.

## Main results

* `Machine.run_testModule` — a test module is passed over.
-/

namespace RemoteLink.Inventory

open Library

/-! ## Text between braces -/

/-- Of so many open braces, one is still open behind every part of a text. -/
def StaysOpen (depth : ℤ) (text : List Char) : Prop :=
  ∀ front ∈ text.inits, 0 < depth + netBraces front

instance (depth : ℤ) (text : List Char) : Decidable (StaysOpen depth text) :=
  decidable_of_iff (text.inits.all (fun front => 0 < depth + netBraces front) = true)
    (by simp [StaysOpen])

theorem StaysOpen.pos {depth : ℤ} {front text : List Char} (h : StaysOpen depth text)
    (hfront : front <+: text) : 0 < depth + netBraces front :=
  h front (List.mem_inits front text |>.mpr hfront)

theorem StaysOpen.front {depth : ℤ} {front text : List Char} (h : StaysOpen depth text)
    (hfront : front <+: text) : StaysOpen depth front :=
  fun _ hpart => h.pos ((List.mem_inits _ _ |>.mp hpart).trans hfront)

theorem StaysOpen.behind {depth : ℤ} {front text : List Char}
    (h : StaysOpen depth (front ++ text)) : StaysOpen (depth + netBraces front) text := by
  intro part hpart
  have hpos := h.pos (List.prefix_append_right_inj front |>.mpr (List.mem_inits _ _ |>.mp hpart))
  rwa [netBraces_append, ← Int.add_assoc] at hpos

/-- A text with neither braces nor a semicolon. -/
def Plain (text : List Char) : Prop := ∀ c ∈ text, c ≠ '{' ∧ c ≠ '}' ∧ c ≠ ';'

instance (text : List Char) : Decidable (Plain text) :=
  decidable_of_iff (text.all (fun c => c ≠ '{' ∧ c ≠ '}' ∧ c ≠ ';') = true) (by simp [Plain])

theorem Plain.netBraces {text : List Char} (h : Plain text) : netBraces text = 0 := by
  induction text with
  | nil => rfl
  | cons c text ih =>
    obtain ⟨hopen, hclose, -⟩ := h c List.mem_cons_self
    rw [netBraces_cons, ih fun d hd => h d (List.mem_cons_of_mem c hd), braceNet, if_neg hopen,
      if_neg hclose]
    rfl

/-! ## The lines of a test module -/

/-- A text is nothing but attributes; in the first of them, `depth` brackets are open. -/
def onlyAttrs (depth : ℕ) : List Char → Bool
  | [] => depth == 0
  | '#' :: '[' :: rest => onlyAttrs (depth + 1) rest
  | '[' :: rest => depth != 0 && onlyAttrs (depth + 1) rest
  | ']' :: rest => depth != 0 && onlyAttrs (depth - 1) rest
  | c :: rest => (depth != 0 || Text.isWhitespace c) && onlyAttrs depth rest

/-- A line of attributes. -/
structure AttrLine (line : ScannedLine) : Prop where
  start : Text.startsWith "#[".toList line.code = true
  only : onlyAttrs 0 line.code = true
  net : line.net = 0

/-- The lines that open a module, with the code behind its brace: the brace is in the line of the
keyword, or alone in a later one. -/
inductive ModuleOpening : List ScannedLine → List Char → Prop
  | sameLine {line : ScannedLine} {head inside : List Char} (hstate : line.state = .code)
      (hcode : line.code = "mod ".toList ++ head ++ '{' :: inside) (hhead : Plain head) :
      ModuleOpening [line] inside
  | laterLine {line brace : ScannedLine} {head : List Char} (blanks : ℕ)
      (hstate : line.state = .code) (hcode : line.code = "mod ".toList ++ head) (hhead : Plain head)
      (hbrace : brace.state = .code ∧ brace.code = ['{']) :
      ModuleOpening (line :: List.replicate blanks (blankLine .code) ++ [brace]) []

/-- **The lines of a test module**: a test attribute, other attributes and lines without code, the
opening, and what is between the braces, with the closing one at the end of a later line. -/
inductive TestModule : List ScannedLine → Prop
  | intro {attr close : ScannedLine} {gap opening body : List ScannedLine}
      {inside front : List Char} (hattr : AttrLine attr) (htest : isCfgTestAttr attr.code = true)
      (hgap : ∀ line ∈ gap, line = blankLine .code ∨ AttrLine line)
      (hopening : ModuleOpening opening inside)
      (hclose : inside ++ body.flatMap ScannedLine.code ++ close.code = front ++ ['}'])
      (hlast : close.code ≠ []) (hfront : StaysOpen 1 front) (hnet : netBraces front = 0) :
      TestModule (attr :: gap ++ opening ++ body ++ [close])

/-! ## The run over a test module -/

/-- An attribute begins with its hash. -/
theorem startsWith_attr_cons {c : Char} (hc : c ≠ '#') (rest : List Char) :
    Text.startsWith "#[".toList (c :: rest) = false := by
  show (('#' == c) && _) = false
  rw [beq_false_of_ne hc.symm, Bool.false_and]

theorem isCfgTestAttr_cons {c : Char} (hc : Text.isWhitespace c = false ∧ c ≠ '#')
    (rest : List Char) : isCfgTestAttr (c :: rest) = false := by
  obtain ⟨rest', htrim⟩ := trimChars_cons hc.1 rest
  have hstart : Text.startsWith "#[cfg(".toList (c :: rest') = false := by
    show (('#' == c) && _) = false
    rw [beq_false_of_ne hc.2.symm, Bool.false_and]
  unfold isCfgTestAttr
  dsimp only
  rw [htrim, hstart]
  rfl

namespace Machine

section

variable (crateName relPath : List Char) {stack : List (ℤ × List Char)} {depth : ℤ}
  (index : ℕ) (items : List InventoryItem)

/-- Lines without code change nothing. -/
theorem run_blank (pending : Bool) (blanks : ℕ) :
    run crateName relPath ⟨⟨0, pending, stack, depth⟩, index, none, items⟩
        (List.replicate blanks (blankLine .code)) =
      ⟨⟨0, pending, stack, depth⟩, index + blanks, none, items⟩ := by
  induction blanks generalizing index with
  | zero => rfl
  | succ blanks ih =>
    have hopens : ¬(opensUse ⟨0, pending, stack, depth⟩ (blankLine .code) ∧
        statementCompleteAtSemi 0 (blankLine .code).code = false) := fun h => h.1.2.1 ⟨rfl, rfl⟩
    have hstep : step crateName relPath ⟨⟨0, pending, stack, depth⟩, index, none, items⟩
        (blankLine .code) = ⟨⟨0, pending, stack, depth⟩, index + 1, none, items⟩ := by
      unfold step
      dsimp only
      rw [if_neg hopens]
      show Machine.mk ⟨0, pending, stack, depth + 0⟩ (index + 1) none (items ++ []) = _
      rw [Int.add_zero, List.append_nil]
    rw [List.replicate_succ, run_cons, hstep, ih, Nat.add_right_comm]
    rfl

/-- Lines without code are passed over. -/
theorem Settled.run_blank {m : Machine} (hsettled : m.Settled) (blanks : ℕ) :
    m.run crateName relPath (List.replicate blanks (blankLine .code)) =
      { m with index := m.index + blanks } := by
  obtain ⟨⟨skip, pending, stack, depth⟩, index, statement, items⟩ := m
  obtain rfl : statement = none := hsettled.statement
  obtain rfl : skip = 0 := hsettled.skip
  exact Machine.run_blank crateName relPath index items pending blanks

/-- A line of attributes leaves the depth, and a test attribute among them is kept in mind. -/
theorem step_attrLine {line : ScannedLine} (hattr : AttrLine line) (pending : Bool) :
    step crateName relPath ⟨⟨0, pending, stack, depth⟩, index, none, items⟩ line =
      ⟨⟨0, pending || isCfgTestAttr line.code, stack, depth⟩, index + 1, none, items⟩ := by
  have hne : line.code ≠ [] := by
    intro hcode
    have hstart := hattr.start
    rw [hcode] at hstart
    cases hstart
  have hread : line.state = .code ∨ line.code ≠ [] := .inr hne
  have hopens : ¬(opensUse ⟨0, pending, stack, depth⟩ line ∧
      statementCompleteAtSemi 0 line.code = false) :=
    fun h => h.1.2.2.2.1 ⟨hread, hattr.start⟩
  have hdepth : depth + line.net = depth := by
    rw [hattr.net, Int.add_zero]
  unfold step
  dsimp only
  rw [if_neg hopens]
  unfold parseLine
  rw [if_neg (Int.lt_irrefl 0), if_neg fun h => hne h.1]
  by_cases htest : isCfgTestAttr line.code = true
  · rw [if_pos ⟨hread, htest⟩, htest, Bool.or_true]
    show Machine.mk ⟨0, true, stack, depth + line.net⟩ (index + 1) none (items ++ []) = _
    rw [hdepth, List.append_nil]
  · rw [if_neg fun h => htest h.2, if_pos ⟨hread, hattr.start⟩, Bool.eq_false_iff.mpr htest,
      Bool.or_false]
    show Machine.mk ⟨0, pending, stack, depth + line.net⟩ (index + 1) none (items ++ []) = _
    rw [hdepth, List.append_nil]

/-- What may stand between a test attribute and its module. -/
theorem run_gap {gap : List ScannedLine}
    (hgap : ∀ line ∈ gap, line = blankLine .code ∨ AttrLine line) :
    run crateName relPath ⟨⟨0, true, stack, depth⟩, index, none, items⟩ gap =
      ⟨⟨0, true, stack, depth⟩, index + gap.length, none, items⟩ := by
  induction gap generalizing index with
  | nil => rfl
  | cons line gap ih =>
    have hstep : step crateName relPath ⟨⟨0, true, stack, depth⟩, index, none, items⟩ line =
        ⟨⟨0, true, stack, depth⟩, index + 1, none, items⟩ := by
      rcases hgap line List.mem_cons_self with rfl | hattr
      · exact run_blank crateName relPath index items true 1
      · rw [step_attrLine crateName relPath index items hattr, Bool.true_or]
    rw [run_cons, hstep, ih _ fun line' h => hgap line' (List.mem_cons_of_mem line h),
      List.length_cons, Nat.add_right_comm]
    rfl

/-- A line of code behind a test attribute. -/
theorem step_pending {line : ScannedLine} (hstate : line.state = .code) {c : Char}
    {rest : List Char} (hcode : line.code = c :: rest)
    (hc : Text.isWhitespace c = false ∧ c ≠ '#') :
    step crateName relPath ⟨⟨0, true, stack, depth⟩, index, none, items⟩ line =
      ⟨parsePending ⟨0, true, stack, depth⟩ line, index + 1, none, items⟩ := by
  have hopens : ¬(opensUse ⟨0, true, stack, depth⟩ line ∧
      statementCompleteAtSemi 0 line.code = false) :=
    fun h => h.1.2.2.2.2.1 ⟨rfl, hstate⟩
  have htest := isCfgTestAttr_cons hc rest
  have hattr := startsWith_attr_cons hc.2 rest
  rw [← hcode] at htest hattr
  have hne : line.code ≠ [] := by
    rw [hcode]
    exact List.cons_ne_nil c rest
  unfold step
  dsimp only
  rw [if_neg hopens]
  unfold parseLine
  rw [if_neg (Int.lt_irrefl 0), if_neg fun h => hne h.1,
    if_neg fun h => Bool.false_ne_true (htest.symm.trans h.2),
    if_neg fun h => Bool.false_ne_true (hattr.symm.trans h.2), if_pos ⟨rfl, hstate⟩]
  show Machine.mk _ (index + 1) none (items ++ []) = _
  rw [List.append_nil]

/-- **The opening of a module behind a test attribute**: what is read next is skipped. -/
theorem run_opening {opening : List ScannedLine} {inside : List Char}
    (hopening : ModuleOpening opening inside) (hcounted : ∀ line ∈ opening, Counted line)
    (hinside : StaysOpen 1 inside) :
    run crateName relPath ⟨⟨0, true, stack, depth⟩, index, none, items⟩ opening =
      ⟨⟨1 + netBraces inside, false, stack, depth + (1 + netBraces inside)⟩,
        index + opening.length, none, items⟩ := by
  cases hopening with
  | @sameLine line head inside hstate hcode hhead =>
    have hnet : line.net = 1 + netBraces inside := by
      rw [hcounted line List.mem_cons_self, hcode, netBraces_append, netBraces_append,
        hhead.netBraces]
      show (0 + 0) + (1 + netBraces inside) = _
      omega
    have hpos := hinside.pos (List.prefix_refl inside)
    have hpending : parsePending ⟨0, true, stack, depth⟩ line =
        ⟨1 + netBraces inside, false, stack, depth + (1 + netBraces inside)⟩ := by
      unfold parsePending
      rw [hnet, if_pos (by rw [hcode]; rfl), if_pos (by simp [hcode]),
        Int.max_eq_left (by omega)]
      rfl
    rw [run_cons, step_pending crateName relPath index items hstate hcode (by decide), hpending]
    rfl
  | @laterLine line brace head blanks hstate hcode hhead hbrace =>
    have hnet : line.net = 0 := by
      rw [hcounted line List.mem_cons_self, hcode, netBraces_append, hhead.netBraces]
      rfl
    have hlast : ¬line.code.getLast? = some ';' := by
      intro hlast
      rw [hcode] at hlast
      rcases List.mem_append.mp (List.mem_of_getLast? hlast) with hmem | hmem
      · exact absurd hmem (by decide)
      · exact (hhead _ hmem).2.2 rfl
    have hnone : '{' ∉ line.code := by
      rw [hcode]
      intro hmem
      rcases List.mem_append.mp hmem with hmem | hmem
      · exact absurd hmem (by decide)
      · exact (hhead _ hmem).1 rfl
    have hpending : parsePending ⟨0, true, stack, depth⟩ line = ⟨0, true, stack, depth⟩ := by
      unfold parsePending
      rw [if_pos (by rw [hcode]; rfl), if_neg hnone, if_neg hlast, hnet]
      show ScanState.mk 0 true stack (depth + 0) = _
      rw [Int.add_zero]
    have hopened : parsePending ⟨0, true, stack, depth⟩ brace = ⟨1, false, stack, depth + 1⟩ := by
      unfold parsePending
      rw [if_neg (by rw [hbrace.2]; decide), if_pos hbrace.2]
      rfl
    rw [List.cons_append, run_cons, step_pending crateName relPath index items hstate hcode
      (by decide), hpending, run_append, run_blank, run_cons,
      step_pending crateName relPath _ items hbrace.1 hbrace.2 (by decide), hopened]
    show Machine.mk _ _ none items = Machine.mk _ _ none items
    simp only [List.length_cons, List.length_append, List.length_replicate, List.length_nil,
      netBraces_nil, Int.add_zero]
    congr 1
    omega

/-- A line of a skipped module. -/
theorem step_skip {skip : ℤ} (hskip : 0 < skip) {line : ScannedLine}
    (hopen : ∀ entry ∈ stack, entry.1 < depth + line.net) :
    step crateName relPath ⟨⟨skip, false, stack, depth⟩, index, none, items⟩ line =
      ⟨⟨if skip + line.net ≤ 0 then 0 else skip + line.net, false, stack, depth + line.net⟩,
        index + 1, none, items⟩ := by
  have hopens : ¬(opensUse ⟨skip, false, stack, depth⟩ line ∧
      statementCompleteAtSemi 0 line.code = false) := fun h => h.1.1 hskip
  have hpopped := @ScanState.popImpls_of_open ⟨if skip + line.net ≤ 0 then 0 else skip + line.net,
    false, stack, depth + line.net⟩ hopen
  unfold step
  dsimp only
  rw [if_neg hopens]
  unfold parseLine
  rw [if_pos hskip]
  show Machine.mk (ScanState.popImpls ⟨if skip + line.net ≤ 0 then 0 else skip + line.net, false,
    stack, depth + line.net⟩) (index + 1) none (items ++ []) = _
  rw [hpopped, List.append_nil]

/-- **The lines of a skipped module** in front of the last one. -/
theorem run_skip {skip : ℤ} {lines : List ScannedLine}
    (hskip : StaysOpen skip (lines.flatMap ScannedLine.code))
    (hcounted : ∀ line ∈ lines, Counted line) (hopen : ∀ entry ∈ stack, entry.1 < depth) :
    run crateName relPath ⟨⟨skip, false, stack, depth + skip⟩, index, none, items⟩ lines =
      ⟨⟨skip + netBraces (lines.flatMap ScannedLine.code), false, stack,
        depth + (skip + netBraces (lines.flatMap ScannedLine.code))⟩,
        index + lines.length, none, items⟩ := by
  induction lines generalizing skip index with
  | nil =>
    rw [List.flatMap_nil, netBraces_nil, Int.add_zero]
    rfl
  | cons line lines ih =>
    rw [List.flatMap_cons] at hskip ⊢
    have hnet : line.net = netBraces line.code := hcounted line List.mem_cons_self
    have hstart : 0 < skip := by
      simpa using hskip.pos (List.nil_prefix)
    have hnext : 0 < skip + line.net := by
      rw [hnet]
      exact hskip.pos (List.prefix_append _ _)
    have hstep := step_skip crateName relPath index items hstart
      (fun entry hmem => show entry.1 < depth + skip + line.net by
        have := hopen entry hmem
        omega)
    rw [if_neg (by omega), Int.add_assoc] at hstep
    rw [run_cons, hstep, hnet, ih (index + 1) hskip.behind
      fun line' h => hcounted line' (List.mem_cons_of_mem line h), netBraces_append,
      Int.add_assoc, List.length_cons, Nat.add_right_comm]
    rfl

/-- **The closing brace**: behind its line, nothing is skipped and the depth is what it was. -/
theorem step_close {skip : ℤ} (hskip : 0 < skip) {line : ScannedLine} (hnet : skip + line.net = 0)
    (hopen : ∀ entry ∈ stack, entry.1 < depth) :
    step crateName relPath ⟨⟨skip, false, stack, depth + skip⟩, index, none, items⟩ line =
      ⟨⟨0, false, stack, depth⟩, index + 1, none, items⟩ := by
  have hdepth : depth + skip + line.net = depth := by
    rw [Int.add_assoc, hnet, Int.add_zero]
  have hstep := step_skip crateName relPath index items hskip
    (fun entry hmem => show entry.1 < depth + skip + line.net by
      rw [hdepth]
      exact hopen entry hmem)
  rwa [hnet, if_pos (Int.le_refl 0), hdepth] at hstep

/-- **A test module is passed over**: behind it, the machine is as behind lines without code. -/
theorem run_testModule {m : Machine} (hsettled : m.Settled) (hnested : m.Nested)
    {block : List ScannedLine} (hblock : TestModule block)
    (hcounted : ∀ line ∈ block, Counted line) :
    m.run crateName relPath block =
      m.run crateName relPath (List.replicate block.length (blankLine .code)) := by
  obtain ⟨⟨skip, pending, stack, depth⟩, index, statement, items⟩ := m
  obtain rfl : statement = none := hsettled.statement
  obtain rfl : skip = 0 := hsettled.skip
  obtain rfl : pending = false := hsettled.pending
  have hopen : ∀ entry ∈ stack, entry.1 < depth := hnested.isOpen rfl
  obtain @⟨attr, close, gap, opening, body, inside, front, hattr, htest, hgap, hopening, hclose,
    hlast, hfront, hnet⟩ := hblock
  -- the closing brace is the last character of the last line
  obtain ⟨init, last, hinit⟩ : ∃ init last, close.code = init ++ [last] :=
    ⟨_, _, (List.dropLast_append_getLast hlast).symm⟩
  rw [hinit, ← List.append_assoc] at hclose
  obtain ⟨rfl, hbrace⟩ := List.append_inj' hclose rfl
  obtain rfl : last = '}' := (List.cons.inj hbrace).1
  have hinside : StaysOpen 1 inside :=
    hfront.front ⟨body.flatMap ScannedLine.code ++ init, by rw [List.append_assoc]⟩
  have hbody : StaysOpen (1 + netBraces inside) (body.flatMap ScannedLine.code) :=
    StaysOpen.behind (hfront.front (List.prefix_append _ init))
  have hskip : 0 < 1 + netBraces inside + netBraces (body.flatMap ScannedLine.code) :=
    hbody.pos (List.prefix_refl _)
  have hlastNet : 1 + netBraces inside + netBraces (body.flatMap ScannedLine.code) + close.net =
      0 := by
    have hcode : close.net = netBraces init - 1 := by
      rw [hcounted close (by simp), hinit, netBraces_append]
      rfl
    rw [netBraces_append, netBraces_append] at hnet
    omega
  -- the machine over the parts of the block
  have hrunAttr : run crateName relPath ⟨⟨0, false, stack, depth⟩, index, none, items⟩ [attr] =
      ⟨⟨0, true, stack, depth⟩, index + 1, none, items⟩ := by
    rw [run_cons, step_attrLine crateName relPath index items hattr, htest]
    rfl
  have hrun : run crateName relPath ⟨⟨0, false, stack, depth⟩, index, none, items⟩
      ([attr] ++ gap ++ opening ++ body ++ [close]) =
      ⟨⟨0, false, stack, depth⟩, index + 1 + gap.length + opening.length + body.length + 1, none,
        items⟩ := by
    rw [run_append, run_append, run_append, run_append, hrunAttr,
      run_gap crateName relPath _ items hgap,
      run_opening crateName relPath _ items hopening (fun line h => hcounted line (by simp [h]))
        hinside,
      run_skip crateName relPath _ items hbody (fun line h => hcounted line (by simp [h])) hopen,
      run_cons, step_close crateName relPath _ items hskip hlastNet hopen]
    rfl
  have hlength : ([attr] ++ gap ++ opening ++ body ++ [close]).length =
      1 + gap.length + opening.length + body.length + 1 := by
    simp only [List.length_append, List.length_singleton]
  show run crateName relPath _ ([attr] ++ gap ++ opening ++ body ++ [close]) =
    run crateName relPath _ (List.replicate ([attr] ++ gap ++ opening ++ body ++ [close]).length
      (blankLine .code))
  rw [hrun, run_blank, hlength]
  congr 1
  omega

end

end Machine

end RemoteLink.Inventory
