import RemoteLink.Inventory.PublicItems

set_option autoImplicit false

/-!
# The inventory line by line

The loop of the inventory as a machine that takes one line after the other: an import that goes on
in the next line is part of its state. What a run of lines does can be told without the lines
behind.

## Main definitions

* `Machine`, `Machine.step`, `Machine.run`, `Machine.finish` — the machine.
* `Machine.Settled` — the next line is read as code.
* `Orderly`, `Machine.OrderlyRun` — the lines that are not read for `impl` blocks close none.

## Main results

* `parsePublicItems_eq` — the machine finds what the loop finds.
* `Machine.Nested.run` — the stack is in order after every orderly run.
* `Machine.depth_run`, `Machine.mem_run` — the depth is the sum of the net braces, and a block that
  stays open stays on the stack.
* `Machine.items_run`, `Machine.items_finish` — the lines of what a run finds.
-/

namespace RemoteLink.Inventory

open Library

/-- The state of the machine: that of the loop, the number of lines read, the import that has not
ended with its first line and its text, and what was found. -/
structure Machine where
  scan : ScanState
  index : ℕ
  statement : Option (ℕ × List Char)
  items : List InventoryItem

namespace Machine

section

variable (crateName relPath : List Char)

/-- The machine at the start. -/
def new : Machine := ⟨.new, 0, none, []⟩

/-- A line is read as the start of an import. -/
def opensUse (st : ScanState) (line : ScannedLine) : Prop :=
  ¬0 < st.skipBraceDepth ∧ ¬(line.code = [] ∧ line.state = .code) ∧
    ¬((line.state = .code ∨ line.code ≠ []) ∧ isCfgTestAttr line.code = true) ∧
    ¬((line.state = .code ∨ line.code ≠ []) ∧ Text.startsWith "#[".toList line.code = true) ∧
    ¬(st.pendingCfgTest = true ∧ line.state = .code) ∧
    (line.state = .code ∨ line.code ≠ []) ∧ isPubUseStart line.code = true

instance (st : ScanState) (line : ScannedLine) : Decidable (opensUse st line) := by
  unfold opensUse
  infer_instance

/-- The text of an import with another line. -/
def addLine (useStmt : List Char) (line : ScannedLine) : List Char :=
  if line.code = [] then useStmt else useStmt ++ ' ' :: line.code

/-- **A line is read.** -/
def step (m : Machine) (line : ScannedLine) : Machine :=
  match m.statement with
  | some (start, useStmt) =>
    let useStmt := addLine useStmt line
    if statementCompleteAtSemi 0 useStmt then
      { scan := (m.scan.count line.net).popImpls
        index := m.index + 1
        statement := none
        items := m.items ++ useItems crateName relPath start useStmt }
    else
      { m with
        scan := m.scan.count line.net
        index := m.index + 1
        statement := some (start, useStmt) }
  | none =>
    if opensUse m.scan line ∧ statementCompleteAtSemi 0 line.code = false then
      { m with
        scan := (m.scan.enterImpl line.code).count line.net
        index := m.index + 1
        statement := some (m.index, line.code) }
    else
      let (items, scan, _) := parseLine crateName relPath m.index m.scan line []
      { scan, index := m.index + 1, statement := none, items := m.items ++ items }

/-- Some lines are read. -/
def run (m : Machine) (lines : List ScannedLine) : Machine :=
  lines.foldl (step crateName relPath) m

/-- What was found by the end of the source, where an import ends too. -/
def finish (m : Machine) : List InventoryItem :=
  m.items ++ match m.statement with
    | some (start, useStmt) => useItems crateName relPath start useStmt
    | none => []

@[simp] theorem run_nil (m : Machine) : m.run crateName relPath [] = m := rfl

@[simp] theorem run_cons (m : Machine) (line : ScannedLine) (lines : List ScannedLine) :
    m.run crateName relPath (line :: lines) =
      (m.step crateName relPath line).run crateName relPath lines := rfl

theorem run_append (m : Machine) (lines lines' : List ScannedLine) :
    m.run crateName relPath (lines ++ lines') =
      (m.run crateName relPath lines).run crateName relPath lines' :=
  List.foldl_append

end

end Machine

/-! ## The loop and the machine -/

section

variable (crateName relPath : List Char)

/-- Lines are passed over. -/
theorem parseLoop_drop (i taken : ℕ) (st : ScanState) (lines : List ScannedLine) :
    parseLoop crateName relPath i taken st lines =
      parseLoop crateName relPath (i + taken) 0 st (lines.drop taken) := by
  induction taken generalizing i lines with
  | zero => rfl
  | succ taken ih =>
    cases lines with
    | nil => rfl
    | cons line lines =>
      rw [List.drop_succ_cons, show i + (taken + 1) = i + 1 + taken by omega, ← ih]
      rfl

/-- A complete statement takes no further line. -/
theorem accumulateUse_complete {useStmt : List Char} (h : statementCompleteAtSemi 0 useStmt = true)
    (depth : ℤ) (lines : List ScannedLine) :
    accumulateUse useStmt depth lines = (useStmt, depth, 0) := by
  cases lines with
  | nil => rfl
  | cons line lines => exact if_pos h

/-- The machine gathers an import as the loop does. -/
theorem finish_run_statement {useStmt stmt : List Char}
    (hopen : statementCompleteAtSemi 0 useStmt = false) {st : ScanState} {depth : ℤ}
    {lines : List ScannedLine} {taken : ℕ}
    (hgather : accumulateUse useStmt st.fileBraceDepth lines = (stmt, depth, taken))
    (start index : ℕ) (items : List InventoryItem) :
    (Machine.run crateName relPath ⟨st, index, some (start, useStmt), items⟩ lines).finish
        crateName relPath =
      (Machine.run crateName relPath
        ⟨{ st with fileBraceDepth := depth }.popImpls, index + taken, none,
          items ++ useItems crateName relPath start stmt⟩ (lines.drop taken)).finish
            crateName relPath := by
  induction lines generalizing useStmt st index taken with
  | nil =>
    obtain ⟨rfl, rfl, rfl⟩ : useStmt = stmt ∧ st.fileBraceDepth = depth ∧ 0 = taken := by
      simpa [accumulateUse] using hgather
    simp [Machine.finish]
  | cons line lines ih =>
    rw [accumulateUse, hopen] at hgather
    rcases hrest : accumulateUse (Machine.addLine useStmt line) (st.fileBraceDepth + line.net) lines
      with ⟨stmt', depth', taken'⟩
    obtain ⟨rfl, rfl, rfl⟩ : stmt' = stmt ∧ depth' = depth ∧ taken' + 1 = taken := by
      unfold Machine.addLine at hrest
      simpa [hrest] using hgather
    rw [Machine.run_cons, List.drop_succ_cons]
    by_cases hcomplete : statementCompleteAtSemi 0 (Machine.addLine useStmt line) = true
    · rw [accumulateUse_complete hcomplete] at hrest
      obtain ⟨rfl, rfl, rfl⟩ : Machine.addLine useStmt line = stmt' ∧
          st.fileBraceDepth + line.net = depth' ∧ 0 = taken' := by simpa using hrest
      have hstep : Machine.step crateName relPath ⟨st, index, some (start, useStmt), items⟩ line =
          ⟨(st.count line.net).popImpls, index + 1, none,
            items ++ useItems crateName relPath start (Machine.addLine useStmt line)⟩ :=
        if_pos hcomplete
      rw [hstep]
      rfl
    · have hstep : Machine.step crateName relPath ⟨st, index, some (start, useStmt), items⟩ line =
          ⟨st.count line.net, index + 1, some (start, Machine.addLine useStmt line), items⟩ :=
        if_neg hcomplete
      rw [hstep, ih (Bool.not_eq_true _ ▸ hcomplete) hrest (index + 1),
        show index + 1 + taken' = index + (taken' + 1) by omega]
      rfl

/-- The lines behind matter to a line only if an import goes on in them. -/
theorem parseLine_eq (i : ℕ) (st : ScanState) (line : ScannedLine) (rest : List ScannedLine)
    (h : ¬(Machine.opensUse st line ∧ statementCompleteAtSemi 0 line.code = false)) :
    parseLine crateName relPath i st line rest = parseLine crateName relPath i st line [] ∧
      (parseLine crateName relPath i st line []).2.2 = 0 := by
  unfold parseLine
  split_ifs with hskip hblank htest hattr hpending
  · exact ⟨rfl, rfl⟩
  · exact ⟨rfl, rfl⟩
  · exact ⟨rfl, rfl⟩
  · exact ⟨rfl, rfl⟩
  · exact ⟨rfl, rfl⟩
  · unfold parseCode
    split_ifs with hread huse
    · have hcomplete : statementCompleteAtSemi 0 line.code = true := by
        by_contra hopen
        exact h ⟨⟨hskip, hblank, htest, hattr, hpending, hread, huse⟩, Bool.not_eq_true _ ▸ hopen⟩
      dsimp only
      rw [accumulateUse_complete hcomplete, accumulateUse_complete hcomplete]
      exact ⟨rfl, rfl⟩
    · exact ⟨rfl, rfl⟩
    · exact ⟨rfl, rfl⟩

/-- The first line of an import that goes on. -/
theorem parseLine_opensUse (i : ℕ) {st : ScanState} {line : ScannedLine}
    (h : Machine.opensUse st line) (rest : List ScannedLine) :
    parseLine crateName relPath i st line rest =
      (useItems crateName relPath i
          (accumulateUse line.code ((st.enterImpl line.code).fileBraceDepth + line.net) rest).1,
        { st.enterImpl line.code with fileBraceDepth :=
          (accumulateUse line.code ((st.enterImpl line.code).fileBraceDepth + line.net)
            rest).2.1 }.popImpls,
        (accumulateUse line.code ((st.enterImpl line.code).fileBraceDepth + line.net)
          rest).2.2) := by
  obtain ⟨hskip, hblank, htest, hattr, hpending, hread, huse⟩ := h
  unfold parseLine parseCode
  rw [if_neg hskip, if_neg hblank, if_neg htest, if_neg hattr, if_neg hpending, if_pos hread]
  exact if_pos huse

/-- **The machine goes on as the loop does.** -/
theorem finish_run (lines : List ScannedLine) (i : ℕ) (st : ScanState)
    (items : List InventoryItem) :
    (Machine.run crateName relPath ⟨st, i, none, items⟩ lines).finish crateName relPath =
      items ++ parseLoop crateName relPath i 0 st lines := by
  induction h : lines.length using Nat.strongRecOn generalizing lines i st items with
  | ind n ih =>
    cases lines with
    | nil => rfl
    | cons line rest =>
      subst h
      have hloop : parseLoop crateName relPath i 0 st (line :: rest) =
          (parseLine crateName relPath i st line rest).1 ++
            parseLoop crateName relPath (i + 1) (parseLine crateName relPath i st line rest).2.2
              (parseLine crateName relPath i st line rest).2.1 rest := rfl
      rw [Machine.run_cons]
      by_cases hopens : Machine.opensUse st line ∧ statementCompleteAtSemi 0 line.code = false
      · have hstep : Machine.step crateName relPath ⟨st, i, none, items⟩ line =
            ⟨(st.enterImpl line.code).count line.net, i + 1, some (i, line.code), items⟩ :=
          if_pos hopens
        rw [hstep, hloop, parseLine_opensUse crateName relPath i hopens.1]
        rcases hgather : accumulateUse line.code
          ((st.enterImpl line.code).fileBraceDepth + line.net) rest with ⟨stmt, depth, taken⟩
        rw [finish_run_statement crateName relPath hopens.2 hgather, parseLoop_drop,
          ih (rest.drop taken).length (by rw [List.length_drop, List.length_cons]; omega) _ _ _ _
            rfl, List.append_assoc]
        rfl
      · obtain ⟨heq, htaken⟩ := parseLine_eq crateName relPath i st line rest hopens
        have hstep : Machine.step crateName relPath ⟨st, i, none, items⟩ line =
            ⟨(parseLine crateName relPath i st line []).2.1, i + 1, none,
              items ++ (parseLine crateName relPath i st line []).1⟩ := if_neg hopens
        rw [heq, htaken] at hloop
        rw [hstep, hloop, ih rest.length (by rw [List.length_cons]; omega) _ _ _ _ rfl,
          List.append_assoc]

/-- **The machine finds what the loop finds.** -/
theorem parsePublicItems_eq (source : List Char) :
    parsePublicItems source crateName relPath =
      (Machine.new.run crateName relPath (scanLines .code (lines source))).finish
        crateName relPath :=
  (finish_run crateName relPath _ 0 .new []).symm

end

/-! ## The stack -/

/-- The braces that a text opens, less those that it closes. -/
def netBraces : List Char → ℤ
  | [] => 0
  | c :: text => braceNet c + netBraces text

@[simp] theorem netBraces_nil : netBraces [] = 0 := rfl

@[simp] theorem netBraces_cons (c : Char) (text : List Char) :
    netBraces (c :: text) = braceNet c + netBraces text := rfl

@[simp] theorem netBraces_append (text text' : List Char) :
    netBraces (text ++ text') = netBraces text + netBraces text' := by
  induction text with
  | nil => exact (Int.zero_add _).symm
  | cons c text ih => rw [List.cons_append, netBraces_cons, netBraces_cons, ih, Int.add_assoc]

/-- The net braces of lines. -/
def netLines : List ScannedLine → ℤ
  | [] => 0
  | line :: lines => line.net + netLines lines

/-- The net braces of a line are those of its code. -/
def Counted (line : ScannedLine) : Prop := line.net = netBraces line.code

/-- The `impl` blocks on the stack are nested, and all of them are open. -/
structure ScanState.Nested (st : ScanState) : Prop where
  sorted : st.implStack.Pairwise fun inner outer => outer.1 < inner.1
  isOpen : ∀ entry ∈ st.implStack, entry.1 < st.fileBraceDepth

/-- An entry that is open stays on the stack. -/
theorem ScanState.mem_popImpls {st : ScanState} {entry : ℤ × List Char}
    (hmem : entry ∈ st.implStack) (hopen : entry.1 < st.fileBraceDepth) :
    entry ∈ st.popImpls.implStack := by
  show entry ∈ st.implStack.dropWhile _
  generalize st.implStack = stack at hmem
  induction stack with
  | nil => cases hmem
  | cons top stack ih =>
    rw [List.dropWhile_cons]
    split_ifs with hclosed
    · rcases List.mem_cons.mp hmem with rfl | hmem
      · rw [decide_eq_true_eq] at hclosed
        omega
      · exact ih hmem
    · exact hmem

/-- Nothing leaves a stack whose blocks are all open. -/
theorem ScanState.popImpls_of_open {st : ScanState}
    (hopen : ∀ entry ∈ st.implStack, entry.1 < st.fileBraceDepth) : st.popImpls = st := by
  obtain ⟨skip, pending, stack, depth⟩ := st
  cases stack with
  | nil => rfl
  | cons top stack =>
    have htop : ¬depth ≤ top.1 := Int.not_le.mpr (hopen top List.mem_cons_self)
    unfold popImpls
    rw [List.dropWhile_cons_of_neg (by simpa using htop)]

/-- **What is left on the stack is open.** -/
theorem ScanState.nested_popImpls {st : ScanState}
    (hsorted : st.implStack.Pairwise fun inner outer => outer.1 < inner.1) :
    st.popImpls.Nested := by
  refine ⟨hsorted.sublist (List.dropWhile_sublist _), ?_⟩
  show ∀ entry ∈ st.implStack.dropWhile _, entry.1 < st.fileBraceDepth
  generalize st.implStack = stack at hsorted
  induction stack with
  | nil => simp
  | cons top stack ih =>
    rw [List.dropWhile_cons]
    obtain ⟨htop, hsorted⟩ := List.pairwise_cons.mp hsorted
    split_ifs with hclosed
    · exact ih hsorted
    · have hopen : top.1 < st.fileBraceDepth := by simpa using hclosed
      intro entry hmem
      rcases List.mem_cons.mp hmem with rfl | hmem
      · exact hopen
      · exact Int.lt_trans (htop entry hmem) hopen

/-- A line that is passed over, or read behind a test attribute, closes no more blocks than it
opens. -/
def Orderly (m : Machine) (line : ScannedLine) : Prop :=
  m.statement = none → ¬0 < m.scan.skipBraceDepth →
    isCfgTestAttr line.code = true ∨ Text.startsWith "#[".toList line.code = true ∨
      m.scan.pendingCfgTest = true → 0 ≤ line.net

instance (m : Machine) (line : ScannedLine) : Decidable (Orderly m line) := by
  unfold Orderly
  infer_instance

namespace Machine

/-- The stack is in order, and open unless an import goes on. -/
structure Nested (m : Machine) : Prop where
  sorted : m.scan.implStack.Pairwise fun inner outer => outer.1 < inner.1
  isOpen : m.statement = none → ∀ entry ∈ m.scan.implStack, entry.1 < m.scan.fileBraceDepth

/-- **What a line does to the stack**: an `impl` is entered at the depth in front of the line, and
the blocks that the line closes leave, unless the line closes none or an import goes on. -/
structure StackStep (m m' : Machine) (net : ℤ) : Prop where
  depth : m'.scan.fileBraceDepth = m.scan.fileBraceDepth + net
  stack : ∃ entered : List (ℤ × List Char),
    (entered = [] ∨ m.statement = none ∧ ∃ ty, entered = [(m.scan.fileBraceDepth, ty)]) ∧
      (m'.scan.implStack = (entered ++ m.scan.implStack).dropWhile
          (fun entry => m'.scan.fileBraceDepth ≤ entry.1) ∨
        m'.scan.implStack = entered ++ m.scan.implStack ∧
          (m'.statement ≠ none ∨ m.statement = none ∧ entered = [] ∧ 0 ≤ net))

section

variable (crateName relPath : List Char) {m : Machine} {line : ScannedLine}

/-- A line enters at most one `impl`. -/
theorem enterImpl_spec (st : ScanState) (trimmed : List Char) :
    ∃ entered : List (ℤ × List Char),
      (entered = [] ∨ ∃ ty, entered = [(st.fileBraceDepth, ty)]) ∧
        st.enterImpl trimmed = { st with implStack := entered ++ st.implStack } := by
  unfold ScanState.enterImpl
  cases parseImplType trimmed with
  | none => exact ⟨[], .inl rfl, rfl⟩
  | some ty => exact ⟨_, .inr ⟨ty, rfl⟩, rfl⟩

/-- A line behind a test attribute counts its braces and leaves the stack. -/
theorem parsePending_spec (hcounted : Counted line) (st : ScanState) :
    (parsePending st line).fileBraceDepth = st.fileBraceDepth + line.net ∧
      (parsePending st line).implStack = st.implStack := by
  unfold parsePending
  split_ifs with hmod hbrace hsemi hopen
  · exact ⟨rfl, rfl⟩
  · exact ⟨rfl, rfl⟩
  · exact ⟨rfl, rfl⟩
  · have hnet : line.net = 1 := by
      rw [hcounted, hopen]
      rfl
    rw [hnet]
    exact ⟨rfl, rfl⟩
  · exact ⟨rfl, rfl⟩

/-- A line that is read as code. -/
theorem parseCode_spec (line : ScannedLine) (i : ℕ) (st : ScanState) :
    ∃ entered : List (ℤ × List Char),
      (entered = [] ∨ ∃ ty, entered = [(st.fileBraceDepth, ty)]) ∧
        (parseCode crateName relPath i st line []).2.1 =
          ScanState.popImpls { st with
            implStack := entered ++ st.implStack
            fileBraceDepth := st.fileBraceDepth + line.net } := by
  obtain ⟨entered, hentered, henter⟩ := enterImpl_spec st line.code
  unfold parseCode
  split_ifs with hread huse
  · refine ⟨entered, hentered, ?_⟩
    dsimp only
    rw [henter]
    rfl
  · refine ⟨entered, hentered, ?_⟩
    dsimp only
    rw [henter]
    rfl
  · exact ⟨[], .inl rfl, rfl⟩

/-- **A line does no more to the stack** if it is orderly. -/
theorem stackStep (hcounted : Counted line) (horderly : Orderly m line) :
    StackStep m (m.step crateName relPath line) line.net := by
  unfold step
  cases hstatement : m.statement with
  | some use =>
    obtain ⟨start, useStmt⟩ := use
    dsimp only
    split_ifs with hcomplete
    · exact ⟨rfl, [], .inl rfl, .inl rfl⟩
    · exact ⟨rfl, [], .inl rfl, .inr ⟨rfl, .inl (by simp)⟩⟩
  | none =>
    dsimp only
    split_ifs with hopens
    · obtain ⟨entered, hentered, henter⟩ := enterImpl_spec m.scan line.code
      rw [henter]
      exact ⟨rfl, entered, hentered.imp_right fun h => ⟨hstatement, h⟩,
        .inr ⟨rfl, .inl (by simp)⟩⟩
    · unfold parseLine
      split_ifs with hskip hblank htest hattr hpending
      · exact ⟨rfl, [], .inl rfl, .inl rfl⟩
      · have hnet : line.net = 0 := by
          rw [hcounted, hblank.1]
          rfl
        exact ⟨rfl, [], .inl rfl, .inr ⟨rfl, .inr ⟨hstatement, rfl, Int.le_of_eq hnet.symm⟩⟩⟩
      · have hnet := horderly hstatement hskip (.inl htest.2)
        exact ⟨rfl, [], .inl rfl, .inr ⟨rfl, .inr ⟨hstatement, rfl, hnet⟩⟩⟩
      · have hnet := horderly hstatement hskip (.inr (.inl hattr.2))
        exact ⟨rfl, [], .inl rfl, .inr ⟨rfl, .inr ⟨hstatement, rfl, hnet⟩⟩⟩
      · have hnet := horderly hstatement hskip (.inr (.inr hpending.1))
        obtain ⟨hdepth, hstack⟩ := parsePending_spec hcounted m.scan
        exact ⟨hdepth, [], .inl rfl, .inr ⟨hstack, .inr ⟨hstatement, rfl, hnet⟩⟩⟩
      · obtain ⟨entered, hentered, hparse⟩ :=
          parseCode_spec crateName relPath line m.index m.scan
        rw [hparse]
        exact ⟨rfl, entered, hentered.imp_right fun h => ⟨hstatement, h⟩, .inl rfl⟩

/-- Every line of a run is orderly. -/
def OrderlyRun (m : Machine) : List ScannedLine → Prop
  | [] => True
  | line :: lines => Orderly m line ∧ OrderlyRun (m.step crateName relPath line) lines

instance instDecidableOrderlyRun (m : Machine) :
    DecidablePred (OrderlyRun crateName relPath m)
  | [] => .isTrue trivial
  | line :: lines =>
    have := instDecidableOrderlyRun (m.step crateName relPath line) lines
    inferInstanceAs (Decidable
      (Orderly m line ∧ OrderlyRun crateName relPath (m.step crateName relPath line) lines))

variable {crateName relPath} {lines : List ScannedLine}

theorem OrderlyRun.append {lines' : List ScannedLine}
    (h : OrderlyRun crateName relPath m (lines ++ lines')) :
    OrderlyRun crateName relPath m lines ∧
      OrderlyRun crateName relPath (m.run crateName relPath lines) lines' := by
  induction lines generalizing m with
  | nil => exact ⟨trivial, h⟩
  | cons line lines ih =>
    obtain ⟨hfirst, hrest⟩ := ih h.2
    exact ⟨⟨h.1, hfirst⟩, hrest⟩

/-- The stack is in order at the start. -/
theorem nested_new : Machine.new.Nested := ⟨List.Pairwise.nil, fun _ _ h => nomatch h⟩

/-- **A line leaves the stack in order.** -/
theorem Nested.step (hnested : m.Nested) (hcounted : Counted line) (horderly : Orderly m line) :
    (m.step crateName relPath line).Nested := by
  obtain ⟨hdepth, entered, hentered, hstack⟩ := stackStep crateName relPath hcounted horderly
  have hsorted : (entered ++ m.scan.implStack).Pairwise fun inner outer => outer.1 < inner.1 := by
    rcases hentered with rfl | ⟨hstatement, ty, rfl⟩
    · exact hnested.sorted
    · exact List.pairwise_cons.mpr ⟨hnested.isOpen hstatement, hnested.sorted⟩
  rcases hstack with hstack | ⟨hstack, hrest⟩
  · have hpopped := @ScanState.nested_popImpls
      { (m.step crateName relPath line).scan with implStack := entered ++ m.scan.implStack } hsorted
    refine ⟨?_, fun _ => ?_⟩
    · rw [hstack]
      exact hpopped.sorted
    · rw [hstack]
      exact hpopped.isOpen
  · refine ⟨hstack ▸ hsorted, fun hnone => ?_⟩
    rcases hrest with hsome | ⟨hstatement, rfl, hnet⟩
    · exact absurd hnone hsome
    · rw [hstack, hdepth]
      intro entry hmem
      have hopen := hnested.isOpen hstatement entry hmem
      omega

/-- **The stack is in order after every orderly run.** -/
theorem Nested.run (hnested : m.Nested) (hcounted : ∀ line ∈ lines, Counted line)
    (horderly : OrderlyRun crateName relPath m lines) : (m.run crateName relPath lines).Nested := by
  induction lines generalizing m with
  | nil => exact hnested
  | cons line lines ih =>
    exact ih (hnested.step (hcounted line List.mem_cons_self) horderly.1)
      (fun line' h => hcounted line' (List.mem_cons_of_mem line h)) horderly.2

/-- **The depth is the sum of the net braces.** -/
theorem depth_run (hcounted : ∀ line ∈ lines, Counted line)
    (horderly : OrderlyRun crateName relPath m lines) :
    (m.run crateName relPath lines).scan.fileBraceDepth =
      m.scan.fileBraceDepth + netLines lines := by
  induction lines generalizing m with
  | nil => exact (Int.add_zero _).symm
  | cons line lines ih =>
    have hfirst := (stackStep crateName relPath (hcounted line List.mem_cons_self) horderly.1).depth
    rw [run_cons, ih (fun line' h => hcounted line' (List.mem_cons_of_mem line h)) horderly.2,
      hfirst, netLines, Int.add_assoc]

/-- An entry whose block a line leaves open stays on the stack. -/
theorem mem_step {entry : ℤ × List Char} (hmem : entry ∈ m.scan.implStack)
    (hcounted : Counted line) (horderly : Orderly m line)
    (hopen : entry.1 < m.scan.fileBraceDepth + line.net) :
    entry ∈ (m.step crateName relPath line).scan.implStack := by
  obtain ⟨hdepth, entered, -, hstack⟩ := stackStep crateName relPath hcounted horderly
  have hentered : entry ∈ entered ++ m.scan.implStack := List.mem_append_right _ hmem
  rcases hstack with hstack | ⟨hstack, -⟩
  · rw [hstack]
    exact @ScanState.mem_popImpls
      { (m.step crateName relPath line).scan with implStack := entered ++ m.scan.implStack } _
      hentered (hdepth ▸ hopen)
  · exact hstack ▸ hentered

/-- **An entry whose block stays open** at the end of every line stays on the stack. -/
theorem mem_run {entry : ℤ × List Char} (hmem : entry ∈ m.scan.implStack)
    (hcounted : ∀ line ∈ lines, Counted line) (horderly : OrderlyRun crateName relPath m lines)
    (hopen : ∀ front, front <+: lines → entry.1 < m.scan.fileBraceDepth + netLines front) :
    entry ∈ (m.run crateName relPath lines).scan.implStack := by
  induction lines generalizing m with
  | nil => exact hmem
  | cons line lines ih =>
    have hline := hcounted line List.mem_cons_self
    have hfirst := hopen [line] (List.prefix_append [line] lines)
    rw [netLines, netLines, Int.add_zero] at hfirst
    refine ih (mem_step hmem hline horderly.1 hfirst)
      (fun line' h => hcounted line' (List.mem_cons_of_mem line h)) horderly.2
      fun front hfront => ?_
    have hnext := hopen (line :: front) (List.cons_prefix_cons.mpr ⟨rfl, hfront⟩)
    rw [netLines, ← Int.add_assoc] at hnext
    rwa [(stackStep crateName relPath hline horderly.1).depth]

end

end Machine

/-! ## The lines of what is found -/

/-- An item was found in a line with such an index. -/
def FoundIn (P : ℕ → Prop) (item : InventoryItem) : Prop :=
  ∃ i, P i ∧ item.line = some (.ofNat (i + 1))

section

variable (crateName relPath : List Char)

theorem useItems_line (i : ℕ) (stmt : List Char) :
    ∀ item ∈ useItems crateName relPath i stmt, item.line = some (.ofNat (i + 1)) := by
  unfold useItems
  intro item hitem
  split at hitem
  · obtain ⟨name, -, rfl⟩ := List.mem_map.mp hitem
    rfl
  · cases hitem

theorem lineItems_line (i : ℕ) (implStack : List (ℤ × List Char)) (trimmed : List Char) :
    ∀ item ∈ lineItems crateName relPath i implStack trimmed,
      item.line = some (.ofNat (i + 1)) := by
  unfold lineItems
  intro item hitem
  split at hitem
  · split_ifs at hitem with huse
    · rw [List.mem_singleton.mp hitem]
      rfl
    · exact useItems_line crateName relPath i trimmed item hitem
  · cases hitem

/-- What a line declares is found in it. -/
theorem parseLine_line (i : ℕ) (st : ScanState) (line : ScannedLine) (rest : List ScannedLine) :
    ∀ item ∈ (parseLine crateName relPath i st line rest).1, item.line = some (.ofNat (i + 1)) := by
  unfold parseLine
  split_ifs
  · simp
  · simp
  · simp
  · simp
  · simp
  · unfold parseCode
    split_ifs
    · exact useItems_line crateName relPath i _
    · exact lineItems_line crateName relPath i _ _
    · simp

end

namespace Machine

/-- The index of the line with which what is read next began: that of an import that goes on, or of
the next line. -/
def first (m : Machine) : ℕ :=
  match m.statement with
  | some (start, _) => start
  | none => m.index

section

variable (crateName relPath : List Char) {m : Machine}

/-- The items that a line adds. -/
theorem items_step (hfirst : m.first ≤ m.index) (line : ScannedLine) :
    ((m.step crateName relPath line).index = m.index + 1 ∧
      m.first ≤ (m.step crateName relPath line).first ∧
      (m.step crateName relPath line).first ≤ (m.step crateName relPath line).index) ∧
    ∃ new, (m.step crateName relPath line).items = m.items ++ new ∧
      ∀ item ∈ new, item.line = some (.ofNat (m.first + 1)) := by
  unfold first at hfirst ⊢
  unfold step
  cases hstatement : m.statement with
  | some use =>
    obtain ⟨start, useStmt⟩ := use
    rw [hstatement] at hfirst
    dsimp only at hfirst ⊢
    split_ifs with hcomplete
    · exact ⟨⟨rfl, by dsimp only; omega, Nat.le_refl _⟩, _, rfl,
        useItems_line crateName relPath start _⟩
    · exact ⟨⟨rfl, Nat.le_refl _, by dsimp only; omega⟩, [], (List.append_nil _).symm, by simp⟩
  | none =>
    dsimp only
    split_ifs with hopens
    · exact ⟨⟨rfl, Nat.le_refl _, Nat.le_succ _⟩, [], (List.append_nil _).symm, by simp⟩
    · exact ⟨⟨rfl, Nat.le_succ _, Nat.le_refl _⟩, _, rfl,
        parseLine_line crateName relPath m.index m.scan line []⟩

/-- **What a run finds** is in the lines that it reads. -/
theorem items_run (hfirst : m.first ≤ m.index) (lines : List ScannedLine) :
    ((m.run crateName relPath lines).index = m.index + lines.length ∧
      m.first ≤ (m.run crateName relPath lines).first ∧
      (m.run crateName relPath lines).first ≤ (m.run crateName relPath lines).index) ∧
    ∃ new, (m.run crateName relPath lines).items = m.items ++ new ∧
      ∀ item ∈ new, FoundIn (fun i => m.first ≤ i ∧ i < m.index + lines.length) item := by
  induction lines generalizing m with
  | nil => exact ⟨⟨rfl, Nat.le_refl _, hfirst⟩, [], (List.append_nil _).symm, by simp⟩
  | cons line lines ih =>
    obtain ⟨⟨hindex, hlater, hnext⟩, new, hnew, hlines⟩ :=
      items_step crateName relPath hfirst line
    obtain ⟨⟨hindices, hlatest, hlast⟩, others, hothers, hrest⟩ := ih hnext
    rw [run_cons, List.length_cons]
    refine ⟨⟨by omega, Nat.le_trans hlater hlatest, hlast⟩, new ++ others, ?_, ?_⟩
    · rw [hothers, hnew, List.append_assoc]
    · intro item hitem
      rcases List.mem_append.mp hitem with hitem | hitem
      · exact ⟨m.first, ⟨Nat.le_refl _, by omega⟩, hlines item hitem⟩
      · obtain ⟨i, ⟨hlow, hhigh⟩, hline⟩ := hrest item hitem
        exact ⟨i, ⟨Nat.le_trans hlater hlow, by omega⟩, hline⟩

/-- What is found by the end of the source. -/
theorem items_finish (hfirst : m.first ≤ m.index) (lines : List ScannedLine) :
    ∃ new, (m.run crateName relPath lines).finish crateName relPath = m.items ++ new ∧
      ∀ item ∈ new, FoundIn (fun i => m.first ≤ i) item := by
  obtain ⟨⟨-, hlater, -⟩, new, hnew, hlines⟩ :=
    items_run crateName relPath hfirst lines
  have hfound : ∀ item ∈ new, FoundIn (fun i => m.first ≤ i) item := by
    intro item hitem
    obtain ⟨i, ⟨hlow, -⟩, hline⟩ := hlines item hitem
    exact ⟨i, hlow, hline⟩
  unfold finish
  rw [hnew, List.append_assoc]
  refine ⟨_, rfl, fun item hitem => ?_⟩
  rcases List.mem_append.mp hitem with hitem | hitem
  · exact hfound item hitem
  · unfold first at hlater ⊢
    cases hstatement : (m.run crateName relPath lines).statement with
    | none =>
      rw [hstatement] at hitem
      cases hitem
    | some use =>
      rw [hstatement] at hitem hlater
      exact ⟨use.1, hlater, useItems_line crateName relPath use.1 use.2 item hitem⟩

end

/-- The next line is read as code: no import goes on, no module is skipped, and no test attribute is
in front. -/
structure Settled (m : Machine) : Prop where
  statement : m.statement = none
  skip : m.scan.skipBraceDepth = 0
  pending : m.scan.pendingCfgTest = false

end Machine

end RemoteLink.Inventory
