import FlowNet.Pattern.Property
import FlowNet.Word

/-!
# Reading patterns

A pattern is a list of alternatives, each a row of pieces: characters, classes, looks at a position,
groups, and repetitions of the piece before. Flags in a group change how the rest of the group is read.
-/

namespace FlowNet.Pattern

open FlowNet.Text (isBlank isAlphabetic isAlphanumeric)

structure Mode where
  ignoreCase : Bool
  multiLine : Bool
  dotAll : Bool
  unicode : Bool
  crlf : Bool
  /-- Blanks and comments between pieces do not count. -/
  spaced : Bool

def Mode.start : Mode := ⟨false, false, false, true, false, false⟩

abbrev Reader (α : Type) := List Char → Option (α × List Char)

def skipSpaced : Nat → List Char → List Char
  | 0, cs => cs
  | fuel + 1, cs =>
    match cs.dropWhile isBlank with
    | '#' :: r => skipSpaced fuel (r.dropWhile (· ≠ '\n'))
    | r => r

def gap (mode : Mode) (cs : List Char) : List Char := if mode.spaced then skipSpaced (cs.length + 1) cs else cs

/-- The text without its first character and the gap after that, which must not be all there is. -/
def next? (mode : Mode) (cs : List Char) : Option (List Char) :=
  match gap mode (cs.drop 1) with
  | [] => none
  | r => some r

/-! ## Sets in a mode -/

def fold (mode : Mode) (set : CharSet) : CharSet :=
  if !mode.ignoreCase then set else if mode.unicode then folded set else asciiFolded set

def negateIf (negated : Bool) (set : CharSet) : CharSet := if negated then fun c => !set c else set

/-- Without Unicode a set is one of bytes, and only those of ASCII are characters by themselves. -/
def admitted (mode : Mode) (set : CharSet) : Option CharSet :=
  if mode.unicode || !((List.range 128).any fun n => set (Char.ofNat (128 + n))) then some set else none

def wordIn (mode : Mode) : CharSet := if mode.unicode then isWordPart else isAsciiWordPart

/-- A class of one letter: digits, blanks, word characters, or in capitals all others. -/
def letterClass (mode : Mode) (c : Char) : Option CharSet :=
  let set : Option CharSet :=
    match c.toLower with
    | 'd' => some (if mode.unicode then isDigit else Char.isDigit)
    | 's' => some (if mode.unicode then isBlank else isAsciiBlank)
    | 'w' => some (wordIn mode)
    | _ => none
  set.map (negateIf c.isUpper)

/-! ## Escapes -/

inductive Atom where
  | char (c : Char)
  /-- A byte that is no character. -/
  | byte
  | set (s : CharSet)
  | look (l : Look)

def hexValue (c : Char) : Option Nat :=
  if c.isDigit then some (c.toNat - 48)
  else if 'a' ≤ c ∧ c ≤ 'f' then some (c.toNat - 87)
  else if 'A' ≤ c ∧ c ≤ 'F' then some (c.toNat - 55)
  else none

def charOf (n : Nat) : Option Char := if n.isValidChar then some (Char.ofNat n) else none

def hexDigits (mode : Mode) : Nat → Nat → Reader Nat
  | 0, n, cs => some (n, cs)
  | _ + 1, _, [] => none
  | k + 1, n, c :: r => do hexDigits mode k (n * 16 + (← hexValue c)) (gap mode r)

def braced (mode : Mode) : Nat → List Char → Reader (List Char)
  | 0, _, _ => none
  | fuel + 1, acc, cs =>
    match gap mode cs with
    | [] => none
    | '}' :: r => some (acc.reverse, r)
    | c :: r => braced mode fuel (c :: acc) r

def hexEscape (mode : Mode) (width : Nat) (cs : List Char) : Option (Atom × List Char) :=
  match gap mode cs with
  | '{' :: r => do
    let (ds, r) ← braced mode (r.length + 1) [] r
    if ds.isEmpty then none
    else
      let n ← ds.foldlM (fun n c => (hexValue c).map (n * 16 + ·)) 0
      return (.char (← charOf n), gap mode r)
  | r => do
    let (n, r) ← hexDigits mode width 0 r
    if width = 2 && !mode.unicode && 127 < n then return (.byte, r) else return (.char (← charOf n), r)

def splitAt? (sep : List Char) : List Char → Option (List Char × List Char)
  | [] => none
  | c :: r =>
    if sep.isPrefixOf (c :: r) then some ([], (c :: r).drop sep.length)
    else (splitAt? sep r).map fun (a, b) => (c :: a, b)

/-- A named set, and whether the name itself says that the others are meant. -/
def namedSet (name : List Char) : Option (CharSet × Bool) :=
  match splitAt? ['!', '='] name, splitAt? [':'] name, splitAt? ['='] name with
  | some (p, v), _, _ => (setOfValue p v).map (·, true)
  | none, some (p, v), _ => (setOfValue p v).map (·, false)
  | none, none, some (p, v) => (setOfValue p v).map (·, false)
  | none, none, none => (setNamed name).map (·, false)

def namedClass (mode : Mode) (negated : Bool) (cs : List Char) : Option (Atom × List Char) :=
  if !mode.unicode then none
  else
    match gap mode cs with
    | [] => none
    | '{' :: r => do
      let (name, r) ← braced mode (r.length + 1) [] r
      let (set, others) ← namedSet name
      return (.set (negateIf (negated != others) (fold mode set)), r)
    | c :: r => do
      let set ← setNamed [c]
      return (.set (negateIf negated (fold mode set)), gap mode r)

def isBoundaryName (c : Char) : Bool := c.isAlpha || c = '-'

/-- A word boundary, perhaps with a name in braces. Braces that hold no name belong to a repetition. -/
def wordBoundary (mode : Mode) (cs : List Char) : Option (Atom × List Char) :=
  let word := wordIn mode
  match cs with
  | '{' :: r =>
    match gap mode r with
    | [] => none
    | c :: more =>
      if !isBoundaryName c then some (.look (.boundary word), cs)
      else do
        let (name, rest) ← braced mode (more.length + 2) [] (c :: more)
        match String.ofList name with
        | "start" => return (.look (.wordStart word), rest)
        | "end" => return (.look (.wordEnd word), rest)
        | "start-half" => return (.look (.wordStartHalf word), rest)
        | "end-half" => return (.look (.wordEndHalf word), rest)
        | _ => none
  | _ => some (.look (.boundary word), cs)

/-- Characters that stand for themselves after a backslash. -/
def isEscapable (c : Char) : Bool := isAscii c && !c.isAlphanum && c ≠ '<' && c ≠ '>'

def escape (mode : Mode) : Reader Atom
  | [] => none
  | c :: r =>
    match c with
    | 'x' => hexEscape mode 2 r
    | 'u' => hexEscape mode 4 r
    | 'U' => hexEscape mode 8 r
    | 'p' => namedClass mode false r
    | 'P' => namedClass mode true r
    | 'a' => some (.char '\x07', r)
    | 'f' => some (.char '\x0c', r)
    | 't' => some (.char '\t', r)
    | 'n' => some (.char '\n', r)
    | 'r' => some (.char '\r', r)
    | 'v' => some (.char '\x0b', r)
    | 'A' => some (.look .textStart, r)
    | 'z' => some (.look .textEnd, r)
    | 'b' => wordBoundary mode r
    | 'B' => some (.look (.noBoundary (wordIn mode)), r)
    | '<' => some (.look (.wordStart (wordIn mode)), r)
    | '>' => some (.look (.wordEnd (wordIn mode)), r)
    | c =>
      match letterClass mode c with
      | some set => some (.set set, r)
      | none => if isEscapable c then some (.char c, r) else none

/-! ## Classes in brackets -/

structure Members where
  set : CharSet
  count : Nat
  depth : Nat

def Members.none : Members := ⟨fun _ => false, 0, 0⟩

def Members.add (m : Members) (set : CharSet) (depth : Nat := 0) : Members :=
  ⟨fun c => m.set c || set c, m.count + 1, max m.depth depth⟩

structure ClassNode where
  set : CharSet
  depth : Nat

def Members.node (m : Members) : ClassNode := ⟨m.set, if m.count ≤ 1 then m.depth else m.depth + 1⟩

inductive SetOp where
  | intersection
  | difference
  | symmetricDifference

def SetOp.apply (a b : CharSet) : SetOp → CharSet
  | intersection => fun c => a c && b c
  | difference => fun c => a c && !b c
  | symmetricDifference => fun c => a c != b c

def combine (mode : Mode) (left : Option (SetOp × ClassNode)) (right : ClassNode) : ClassNode :=
  match left with
  | none => right
  | some (op, left) => ⟨op.apply (fold mode left.set) (fold mode right.set), max left.depth right.depth + 1⟩

def colonClass (mode : Mode) : List Char → Option (CharSet × List Char)
  | ':' :: r =>
    let (negated, r) :=
      match r with
      | '^' :: r => (true, r)
      | r => (false, r)
    let name := r.takeWhile (· ≠ ':')
    match r.drop name.length with
    | ':' :: ']' :: rest => (asciiClass (String.ofList name)).map fun s => (negateIf negated (fold mode s), rest)
    | _ => none
  | _ => none

def classAtom (mode : Mode) : Reader Atom
  | [] => none
  | '\\' :: r => escape mode r
  | c :: r => some (.char c, r)

/-- A character of a class. Without Unicode it must be one of ASCII. -/
def Atom.member? (mode : Mode) : Atom → Option Char
  | .char c => if mode.unicode || isAscii c then some c else none
  | _ => none

def classRange (mode : Mode) : Reader CharSet := fun cs => do
  let (a, r) ← classAtom mode cs
  let single (r : List Char) : Option (CharSet × List Char) :=
    match a with
    | .set s => some (s, r)
    | a => (a.member? mode).map fun c => ((· = c), r)
  match gap mode r with
  | [] => none
  | '-' :: more =>
    match gap mode more with
    | [] => none
    | ']' :: _ | '-' :: _ => single ('-' :: more)
    | r => do
      let (b, r) ← classAtom mode r
      let low ← a.member? mode
      let high ← b.member? mode
      if low ≤ high then return (between low high, r) else none
  | r => single r

/-- Hyphens, or one closing bracket, at the head of a class stand for themselves. -/
def leading (mode : Mode) : Nat → Members → Reader Members
  | 0, _, _ => none
  | fuel + 1, m, cs =>
    match cs with
    | '-' :: _ => do leading mode fuel (m.add (· = '-')) (← next? mode cs)
    | ']' :: _ =>
      if m.count = 0 then do return (m.add (· = ']'), ← next? mode cs) else some (m, cs)
    | cs => some (m, cs)

mutual

def bracket (mode : Mode) : Nat → Reader ClassNode
  | 0, _ => none
  | fuel + 1, cs => do
    let cs ← next? mode ('[' :: cs)
    let (negated, cs) ← match cs with
      | '^' :: _ => do pure (true, ← next? mode cs)
      | cs => some (false, cs)
    let (m, cs) ← leading mode (cs.length + 1) .none cs
    let (node, cs) ← members mode fuel none m cs
    return (⟨negateIf negated (fold mode node.set), node.depth + 1⟩, cs)

/-- The members up to the closing bracket. Operations apply from left to right. -/
def members (mode : Mode) : Nat → Option (SetOp × ClassNode) → Members → Reader ClassNode
  | 0, _, _, _ => none
  | fuel + 1, left, m, cs =>
    let operation (op : SetOp) (r : List Char) := members mode fuel (some (op, combine mode left m.node)) .none r
    match gap mode cs with
    | [] => none
    | ']' :: r => some (combine mode left m.node, r)
    | '&' :: '&' :: r => operation .intersection r
    | '-' :: '-' :: r => operation .difference r
    | '~' :: '~' :: r => operation .symmetricDifference r
    | '[' :: r =>
      match colonClass mode r with
      | some (s, r) => members mode fuel left (m.add s) r
      | none => do
        let (node, r) ← bracket mode fuel r
        members mode fuel left (m.add node.set node.depth) r
    | r => do
      let (s, r) ← classRange mode r
      members mode fuel left (m.add s) r

end

/-! ## Pieces -/

/-- An expression, how deep it nests, and whether it may be repeated. -/
structure Piece where
  expr : Expr
  depth : Nat
  repeatable : Bool

def Atom.piece (mode : Mode) : Atom → Option Piece
  | .char c =>
    if mode.unicode || isAscii c then some ⟨.one (fold mode (· = c)), 0, true⟩ else some ⟨.one (· = c), 0, true⟩
  | .byte => none
  | .set s => (admitted mode s).map fun s => ⟨.one s, 0, true⟩
  | .look l => some ⟨.look l, 0, true⟩

def dot (mode : Mode) : Option CharSet :=
  admitted mode (if mode.dotAll then fun _ => true else fun c => c ≠ '\n' && !(mode.crlf && c = '\r'))

def row (pieces : List Piece) : Piece :=
  match pieces with
  | [] => ⟨.empty, 0, true⟩
  | [p] => p
  | ps => ⟨ps.foldr (fun p e => .seq p.expr e) .empty, (ps.map (·.depth)).foldl max 0 + 1, true⟩

def choice (branches : List Piece) : Piece :=
  match branches with
  | [] => ⟨.empty, 0, true⟩
  | [p] => p
  | p :: ps => ⟨ps.foldl (fun e p => .alt e p.expr) p.expr, ((p :: ps).map (·.depth)).foldl max 0 + 1, true⟩

def repeatLast (least : Nat) (most : Option Nat) : List Piece → Option (List Piece)
  | p :: ps => if p.repeatable then some (⟨.repeated least most p.expr, p.depth + 1, true⟩ :: ps) else none
  | [] => none

/-- A count that fits 32 bits, with blanks on both sides. -/
def count (mode : Mode) (cs : List Char) : Option Nat × List Char :=
  let rec digits : Nat → List Char → List Char → List Char × List Char
    | 0, acc, cs => (acc.reverse, cs)
    | _ + 1, acc, [] => (acc.reverse, [])
    | fuel + 1, acc, c :: r =>
      if c.isDigit then digits fuel (c :: acc) (gap mode r) else (acc.reverse, c :: r)
  let (ds, r) := digits (cs.length + 1) [] (cs.dropWhile isBlank)
  let n := ds.foldl (fun n c => n * 10 + (c.toNat - 48)) 0
  (if ds.isEmpty || Word.size32 ≤ n then none else some n, gap mode (r.dropWhile isBlank))

def counts (mode : Mode) (cs : List Char) : Option ((Nat × Option Nat) × List Char) := do
  let cs ← next? mode ('{' :: cs)
  let (low, r) := count mode cs
  match r with
  | '}' :: r => return ((← low, low), r)
  | ',' :: _ => do
    let r ← next? mode r
    match r with
    | '}' :: r => return ((← low, none), r)
    | r =>
      let low ← low
      let (high, r) := count mode r
      let high ← high
      let '}' :: r := r | none
      if low ≤ high then return ((low, some high), r) else none
  | _ => none

/-- A mark that asks for as few repetitions as possible changes nothing here. -/
def skipLazy : List Char → List Char
  | '?' :: r => r
  | cs => cs

/-! ## Groups and flags -/

/-- Flags up to the character that ends them. A hyphen turns off those after it. -/
def flags : List Char → Bool → Mode → Reader Mode
  | seen, negating, mode, c :: r =>
    if c = ':' ∨ c = ')' then
      if seen.head? = some '-' then none else some (mode, c :: r)
    else if c ∈ seen then none
    else
      let on := !negating
      match c with
      | '-' => flags (c :: seen) true mode r
      | 'i' => flags (c :: seen) negating { mode with ignoreCase := on } r
      | 'm' => flags (c :: seen) negating { mode with multiLine := on } r
      | 's' => flags (c :: seen) negating { mode with dotAll := on } r
      | 'U' => flags (c :: seen) negating mode r
      | 'u' => flags (c :: seen) negating { mode with unicode := on } r
      | 'R' => flags (c :: seen) negating { mode with crlf := on } r
      | 'x' => flags (c :: seen) negating { mode with spaced := on } r
      | _ => none
  | _, _, _, [] => none

def isGroupNamePart (c : Char) : Bool := isAlphanumeric c || ['_', '.', '[', ']'].contains c

def groupName (cs : List Char) : Option (String × List Char) :=
  let name := cs.takeWhile (· ≠ '>')
  match name, cs.drop name.length with
  | c :: part, '>' :: r =>
    if (isAlphabetic c || c = '_') && part.all isGroupNamePart then some (String.ofList name, r) else none
  | _, _ => none

inductive Opening where
  | flags (mode : Mode)
  | group (mode : Mode) (name : Option String)

def lookAround (cs : List Char) : Bool :=
  [['?', '='], ['?', '!'], ['?', '<', '='], ['?', '<', '!']].any (·.isPrefixOf cs)

def opening (mode : Mode) (cs : List Char) : Option (Opening × List Char) :=
  let cs := gap mode cs
  if lookAround cs then none
  else
    match cs with
    | '?' :: 'P' :: '<' :: r => (groupName r).map fun (n, r) => (.group mode (some n), r)
    | '?' :: '<' :: r => (groupName r).map fun (n, r) => (.group mode (some n), r)
    | '?' :: r => do
      let (inner, rest) ← flags [] false mode r
      match rest with
      | ')' :: rest => if r.head? = some ')' then none else return (.flags inner, rest)
      | ':' :: rest => return (.group inner none, rest)
      | _ => none
    | r => some (.group mode none, r)

/-- What has been read of a group: the pieces of its last alternative and the alternatives before, both
last first, and the names of all groups of the pattern so far. -/
structure Progress where
  mode : Mode
  pieces : List Piece
  branches : List Piece
  names : List String

def Progress.add (s : Progress) (p : Piece) : Progress := { s with pieces := p :: s.pieces }

def Progress.finish (s : Progress) : Piece := choice (row s.pieces.reverse :: s.branches).reverse

def group : Nat → Progress → Reader Progress
  | 0, _, _ => none
  | fuel + 1, s, cs =>
    match gap s.mode cs with
    | [] => some (s, [])
    | c :: r =>
      match c with
      | ')' => some (s, c :: r)
      | '|' => group fuel { s with pieces := [], branches := row s.pieces.reverse :: s.branches } r
      | '?' => do group fuel { s with pieces := ← repeatLast 0 (some 1) s.pieces } (skipLazy r)
      | '*' => do group fuel { s with pieces := ← repeatLast 0 none s.pieces } (skipLazy r)
      | '+' => do group fuel { s with pieces := ← repeatLast 1 none s.pieces } (skipLazy r)
      | '{' => do
        let ((least, most), r) ← counts s.mode r
        group fuel { s with pieces := ← repeatLast least most s.pieces } (skipLazy (gap s.mode r))
      | '[' => do
        let (node, r) ← bracket s.mode (r.length + 2) r
        group fuel (s.add ⟨.one (← admitted s.mode node.set), node.depth, true⟩) r
      | '.' => do group fuel (s.add ⟨.one (← dot s.mode), 0, true⟩) r
      | '^' => group fuel (s.add ⟨.look (if s.mode.multiLine then .lineStart s.mode.crlf else .textStart), 0, true⟩) r
      | '$' => group fuel (s.add ⟨.look (if s.mode.multiLine then .lineEnd s.mode.crlf else .textEnd), 0, true⟩) r
      | '\\' => do
        let (a, r) ← escape s.mode r
        group fuel (s.add (← a.piece s.mode)) r
      | '(' => do
        let (o, r) ← opening s.mode r
        match o with
        | .flags mode => group fuel ({ s with mode := mode }.add ⟨.empty, 0, false⟩) r
        | .group mode name =>
          if name.any s.names.contains then none
          else
            let (inner, r) ← group fuel ⟨mode, [], [], name.toList ++ s.names⟩ r
            let ')' :: r := r | none
            let p := inner.finish
            group fuel ({ s with names := inner.names }.add ⟨p.expr, p.depth + 1, true⟩) r
      | c => do group fuel (s.add (← (Atom.char c).piece s.mode)) r

def nestingLimit : Nat := 250

def Expr.size : Expr → Nat
  | empty => 1
  | one _ => 1
  | look _ => 1
  | seq a b => a.size + b.size
  | alt a b => a.size + b.size + 1
  | repeated least none e => max least 1 * e.size + 1
  | repeated least (some most) e => least * e.size + (most - least) * (e.size + 1)

def sizeLimit : Nat := 327680

/-- The expression that the whole text writes, unless it nests too deep or is too large. -/
def parse (text : String) : Option Expr := do
  let cs := text.toList
  let (s, []) ← group (cs.length + 1) ⟨.start, [], [], []⟩ cs | none
  let p := s.finish
  if p.depth ≤ nestingLimit ∧ p.expr.size ≤ sizeLimit then return p.expr else none

end FlowNet.Pattern
