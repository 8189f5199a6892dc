import RemoteLink.Inventory.ScanLine

set_option autoImplicit false

/-!
# The inventory of public items

The items that a source declares as public, by a loop over its lines. The loop skips test modules,
counts braces, and keeps a stack of the `impl` blocks that it takes for open.

## Main definitions

* `parsePubItemLine`, `parsePubUseStatement`, `parseImplType` — what a line declares.
* `parseLine`, `parseLoop`, `parsePublicItems` — the loop.
-/

namespace RemoteLink.Inventory

open Library

/-! ## Items -/

/-- What an item is. -/
inductive ItemKind where
  | fn
  | struct
  | enum
  | trait
  | type
  | const
  | static
  | mod
  | use_
  | macro_
  deriving Repr, DecidableEq

/-- How far an item is visible. -/
inductive Visibility where
  | pub
  | restricted (text : List Char)
  deriving Repr, DecidableEq

/-- The visibility that a keyword says. -/
def Visibility.parse (vis : List Char) : Visibility :=
  let v := Text.trimChars vis
  if v = "pub".toList then .pub else .restricted v

/-- A public item of a source. -/
structure InventoryItem where
  crateName : List Char
  path : List Char
  item : List Char
  kind : ItemKind
  visibility : Visibility
  line : Option UInt32
  deriving Repr, DecidableEq

/-! ## Attributes -/

/-- Strip white space from the start of a text. -/
def trimStart (s : List Char) : List Char := s.dropWhile Text.isWhitespace

/-- The arguments of `all(..)`, split at the commas outside of parentheses: `cur` is the argument
that is being read and `depth` its open parentheses. -/
def cfgAllArgs (depth : ℤ) (cur : List Char) : List Char → List (List Char)
  | [] => if Text.trimChars cur = [] then [] else [Text.trimChars cur]
  | c :: rest =>
    if c = '(' then cfgAllArgs (depth + 1) (cur ++ [c]) rest
    else if c = ')' then cfgAllArgs (depth - 1) (cur ++ [c]) rest
    else if c = ',' ∧ depth = 0 then
      (if Text.trimChars cur = [] then [] else [Text.trimChars cur]) ++ cfgAllArgs 0 [] rest
    else cfgAllArgs depth (cur ++ [c]) rest

/-- **Whether a line is a `#[cfg(test)]` attribute**, or one of `all(..)` with `test`. -/
def isCfgTestAttr (trimmed : List Char) : Bool :=
  let t := Text.trimChars trimmed
  if !Text.startsWith "#[cfg(".toList t then false
  else
    let compact := t.filter fun c => !Text.isWhitespace c
    if Text.startsWith "#[cfg(test)]".toList compact then true
    else
      match compact.dropPrefix? "#[cfg(all(".toList with
      | none => false
      | some inner =>
        let inner := ((inner.dropSuffix? ")]".toList).orElse fun _ =>
          inner.dropSuffix? "]".toList).getD inner
        (cfgAllArgs 0 [] inner).any (· == "test".toList)

/-! ## Imports -/

/-- What is behind the first such character. -/
def behind (c : Char) (s : List Char) : List Char := (s.dropWhile (· != c)).drop 1

/-- Whether a line begins a public import. -/
def isPubUseStart (trimmed : List Char) : Bool :=
  match (trimStart trimmed).dropPrefix? "pub".toList with
  | none => false
  | some rest =>
    if rest.head? = some '(' ∧ ')' ∉ rest then false
    else
      let rest := trimStart (if rest.head? = some '(' then behind ')' rest else rest)
      Text.startsWith "use ".toList rest || rest == "use".toList ||
        Text.startsWith "use\t".toList rest

/-- Whether a statement has its semicolon, outside of braces. -/
def statementCompleteAtSemi (depth : ℤ) : List Char → Bool
  | [] => false
  | c :: rest =>
    if c = '{' then statementCompleteAtSemi (depth + 1) rest
    else if c = '}' then statementCompleteAtSemi (depth - 1) rest
    else if c = ';' ∧ depth ≤ 0 then true
    else statementCompleteAtSemi depth rest

/-- The visibility at the start of a statement, and what is behind it. -/
def splitVis (t : List Char) : Option (Visibility × List Char) :=
  let t := trimStart t
  if Text.startsWith "pub(".toList t then
    if ')' ∈ t then some (.parse (t.takeWhile (· != ')') ++ [')']), behind ')' t) else none
  else if Text.startsWith "pub ".toList t || Text.startsWith "pub\t".toList t then
    some (.pub, t.drop 3)
  else none

/-- The parts of a group, split at the commas outside of inner groups. -/
def splitCommaTopLevel (depth : ℤ) (cur : List Char) : List Char → List (List Char)
  | [] => if Text.trimChars cur = [] then [] else [cur]
  | c :: rest =>
    if c = '{' then splitCommaTopLevel (depth + 1) (cur ++ [c]) rest
    else if c = '}' then splitCommaTopLevel (depth - 1) (cur ++ [c]) rest
    else if c = ',' ∧ depth = 0 then cur :: splitCommaTopLevel 0 [] rest
    else splitCommaTopLevel depth (cur ++ [c]) rest

/-- The words of a text with a space between them. -/
def joinWords (s : List Char) : List Char :=
  List.intercalate [' '] ((s.splitOnP Text.isWhitespace).filter (· ≠ []))

/-- What is in front of the last such character, or everything. -/
def beforeLast (c : Char) (s : List Char) : List Char :=
  if c ∈ s then ((s.reverse.dropWhile (· != c)).drop 1).reverse else s

/-- **The names that the tree of an import stands for.** -/
def expandUseImports (body : List Char) : List (List Char) :=
  let s := Text.trimChars (joinWords (body.takeWhile (· != ';')))
  if s = [] then []
  else if '{' ∈ s then
    let first := Text.trimChars (s.takeWhile (· != '{'))
    let first :=
      if first = [] then [] else if "::".toList.isSuffixOf first then first
      else first ++ "::".toList
    let inner := Text.trimChars (beforeLast '}' (behind '{' s))
    let parts := ((splitCommaTopLevel 0 [] inner).map Text.trimChars).filter (· ≠ [])
    if parts = [] then [first ++ ['{', '}']] else parts.map (first ++ ·)
  else [s]

/-- **What a public import declares.** -/
def parsePubUseStatement (stmt : List Char) : Option (Visibility × List (List Char)) :=
  let t := Text.trimChars stmt
  if !isPubUseStart t then none
  else
    (splitVis t).bind fun (vis, afterVis) =>
      ((trimStart afterVis).dropPrefix? "use".toList).bind fun body =>
        let names := expandUseImports (trimStart body)
        if names = [] then none else some (vis, names)

/-! ## Declarations -/

/-- The identifier at the start of a text. -/
def identHead (s : List Char) : Option (List Char) :=
  let head := (trimStart s).takeWhile fun c => c.isAlphanum || c == '_'
  if head = [] then none else some head

/-- What is behind the angle brackets at the start of a text; `depth` of them are open. -/
def skipAngle (depth : ℤ) : List Char → Option (List Char)
  | [] => none
  | c :: rest =>
    if c = '<' then skipAngle (depth + 1) rest
    else if c = '>' then if depth - 1 = 0 then some rest else skipAngle (depth - 1) rest
    else skipAngle depth rest

/-- The name of the type: behind the `for` of a trait, if there is one. -/
def implTypeName (rest : List Char) : Option (List Char) :=
  match rest.dropInfix? " for ".toList with
  | some (_, after) => identHead (Text.trimChars after)
  | none => identHead rest

/-- **The type of an `impl` block** by the line that begins it. -/
def parseImplType (trimmed : List Char) : Option (List Char) :=
  ((trimStart trimmed).dropPrefix? "impl".toList).bind fun rest =>
    rest.head?.bind fun first =>
      if !(Text.isWhitespace first || first == '<' || first == '!') then none
      else if (trimStart rest).head? = some '!' then none
      else
        let rest := trimStart rest
        (if rest.head? = some '<' then (skipAngle 0 rest).map trimStart else some rest).bind
          fun rest =>
            if rest = [] then none else implTypeName rest

/-- The loop over the words in front of `fn`. Each pass takes a word away, so as many passes as
there are characters are enough. -/
def skipFnPrefixesLoop : ℕ → List Char → List Char
  | 0, s => trimStart s
  | fuel + 1, s =>
    let t := trimStart s
    match t.dropPrefix? "async ".toList with
    | some r => skipFnPrefixesLoop fuel r
    | none =>
      match t.dropPrefix? "const ".toList with
      | some r =>
        if Text.startsWith "fn ".toList (trimStart r) ||
            Text.startsWith "async ".toList (trimStart r) then skipFnPrefixesLoop fuel r
        else t
      | none =>
        match t.dropPrefix? "unsafe ".toList with
        | some r => skipFnPrefixesLoop fuel r
        | none =>
          match t.dropPrefix? "extern ".toList with
          | some r =>
            let r := trimStart r
            if r.head? = some '"' ∧ '"' ∈ r.drop 1 then
              skipFnPrefixesLoop fuel (trimStart (behind '"' (r.drop 1)))
            else skipFnPrefixesLoop fuel r
          | none => t

/-- The words in front of `fn` are passed over. -/
def skipFnPrefixes (s : List Char) : List Char := skipFnPrefixesLoop s.length s

/-- The keywords of items, with the space behind them, in the order in which they are tried. -/
def itemKeywords : List (List Char × ItemKind) :=
  [("fn ".toList, .fn), ("struct ".toList, .struct), ("enum ".toList, .enum),
    ("trait ".toList, .trait), ("type ".toList, .type), ("const ".toList, .const),
    ("static ".toList, .static), ("mod ".toList, .mod), ("use ".toList, .use_),
    ("macro_rules! ".toList, .macro_), ("macro ".toList, .macro_)]

/-- The name of an import, up to its semicolon. -/
def normalizeUseName (src : List Char) : List Char := joinWords (src.takeWhile (· != ';'))

/-- **The public item that a line declares.** -/
def parsePubItemLine (trimmed : List Char) : Option (Visibility × ItemKind × List Char) :=
  let t := trimStart trimmed
  (splitVis t).bind fun (vis, afterPub) =>
    let rest := skipFnPrefixes (trimStart afterPub)
    (itemKeywords.findSome? fun (keyword, kind) =>
      (rest.dropPrefix? keyword).map (kind, ·)).bind fun (kind, nameSrc) =>
        (if kind = .use_ then some (normalizeUseName nameSrc) else identHead nameSrc).map
          (vis, kind, ·)

/-- The name of an item, behind the type of the `impl` block on the top of the stack if it is a
function. -/
def qualifyItemName (implStack : List (ℤ × List Char)) (kind : ItemKind) (name : List Char) :
    List Char :=
  if kind = .fn then
    match implStack with
    | (_, ty) :: _ => ty ++ "::".toList ++ name
    | [] => name
  else name

/-! ## The loop -/

/-- The state of the loop. The stack has the depth at which each `impl` was entered, and its type,
the innermost first. -/
structure ScanState where
  skipBraceDepth : ℤ
  pendingCfgTest : Bool
  implStack : List (ℤ × List Char)
  fileBraceDepth : ℤ
  deriving Repr, DecidableEq

namespace ScanState

/-- The state at the start. -/
def new : ScanState := ⟨0, false, [], 0⟩

/-- The braces of a line are counted. -/
def count (st : ScanState) (net : ℤ) : ScanState :=
  { st with fileBraceDepth := st.fileBraceDepth + net }

/-- The `impl` blocks that are closed by now leave the stack. -/
def popImpls (st : ScanState) : ScanState :=
  { st with implStack := st.implStack.dropWhile fun entry => st.fileBraceDepth ≤ entry.1 }

/-- An `impl` that a line begins is put on the stack. -/
def enterImpl (st : ScanState) (trimmed : List Char) : ScanState :=
  match parseImplType trimmed with
  | some ty => { st with implStack := (st.fileBraceDepth, ty) :: st.implStack }
  | none => st

end ScanState

/-- Gather the lines of an import until it has its semicolon. The result is the statement, the depth
behind it and the number of lines that it has taken. -/
def accumulateUse (useStmt : List Char) (depth : ℤ) : List ScannedLine → List Char × ℤ × ℕ
  | [] => (useStmt, depth, 0)
  | line :: rest =>
    if statementCompleteAtSemi 0 useStmt then (useStmt, depth, 0)
    else
      let useStmt := if line.code = [] then useStmt else useStmt ++ ' ' :: line.code
      let (useStmt, depth, taken) := accumulateUse useStmt (depth + line.net) rest
      (useStmt, depth, taken + 1)

section

variable (crateName relPath : List Char)

/-- An item that was found in a line, which is given by its index. -/
def foundItem (i : ℕ) (item : List Char) (kind : ItemKind) (visibility : Visibility) :
    InventoryItem where
  crateName := crateName
  path := relPath.map fun c => if c = '\\' then '/' else c
  item := item
  kind := kind
  visibility := visibility
  line := some (.ofNat (i + 1))

/-- The items of an import. -/
def useItems (i : ℕ) (stmt : List Char) : List InventoryItem :=
  match parsePubUseStatement stmt with
  | some (vis, names) => names.map fun name => foundItem crateName relPath i name .use_ vis
  | none => []

/-- The items of another line. -/
def lineItems (i : ℕ) (implStack : List (ℤ × List Char)) (trimmed : List Char) :
    List InventoryItem :=
  match parsePubItemLine trimmed with
  | some (vis, kind, name) =>
    if kind ≠ .use_ then
      [foundItem crateName relPath i (qualifyItemName implStack kind name) kind vis]
    else useItems crateName relPath i trimmed
  | none => []

/-- **The body of the loop** for a line that is not read as part of a skipped module, an attribute
or what is behind a test attribute. The result is what is found, the state, and the number of lines
that an import has taken. -/
def parseCode (i : ℕ) (st : ScanState) (line : ScannedLine) (rest : List ScannedLine) :
    List InventoryItem × ScanState × ℕ :=
  if line.state = .code ∨ line.code ≠ [] then
    let st := st.enterImpl line.code
    if isPubUseStart line.code then
      let (useStmt, depth, taken) :=
        accumulateUse line.code (st.fileBraceDepth + line.net) rest
      (useItems crateName relPath i useStmt, { st with fileBraceDepth := depth }.popImpls, taken)
    else (lineItems crateName relPath i st.implStack line.code, (st.count line.net).popImpls, 0)
  else ([], (st.count line.net).popImpls, 0)

/-- The state behind a line that follows a test attribute. -/
def parsePending (st : ScanState) (line : ScannedLine) : ScanState :=
  if Text.startsWith "mod ".toList line.code then
    if '{' ∈ line.code then
      { st.count line.net with skipBraceDepth := max line.net 1, pendingCfgTest := false }
    else if line.code.getLast? = some ';' then { st.count line.net with pendingCfgTest := false }
    else st.count line.net
  else if line.code = ['{'] then { st.count 1 with skipBraceDepth := 1, pendingCfgTest := false }
  else { st.count line.net with pendingCfgTest := false }

/-- **The body of the loop.** -/
def parseLine (i : ℕ) (st : ScanState) (line : ScannedLine) (rest : List ScannedLine) :
    List InventoryItem × ScanState × ℕ :=
  if 0 < st.skipBraceDepth then
    let depth := st.skipBraceDepth + line.net
    ([], ({ st with skipBraceDepth := if depth ≤ 0 then 0 else depth }.count line.net).popImpls, 0)
  else if line.code = [] ∧ line.state = .code then ([], st.count line.net, 0)
  else if (line.state = .code ∨ line.code ≠ []) ∧ isCfgTestAttr line.code then
    ([], { st.count line.net with pendingCfgTest := true }, 0)
  else if (line.state = .code ∨ line.code ≠ []) ∧ Text.startsWith "#[".toList line.code then
    ([], st.count line.net, 0)
  else if st.pendingCfgTest ∧ line.state = .code then ([], parsePending st line, 0)
  else parseCode crateName relPath i st line rest

/-- **The loop over the lines.** An index that jumps ahead is the number `taken` of lines to pass
over. -/
def parseLoop (i taken : ℕ) (st : ScanState) : List ScannedLine → List InventoryItem
  | [] => []
  | line :: rest =>
    match taken with
    | taken + 1 => parseLoop (i + 1) taken st rest
    | 0 =>
      let (items, st, taken) := parseLine crateName relPath i st line rest
      items ++ parseLoop (i + 1) taken st rest

end

/-- **The public items of a source.** -/
def parsePublicItems (source crateName relPath : List Char) : List InventoryItem :=
  parseLoop crateName relPath 0 0 .new (scanLines .code (lines source))

end RemoteLink.Inventory
