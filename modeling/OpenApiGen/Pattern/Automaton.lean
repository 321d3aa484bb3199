import OpenApiGen.Pattern.Utf8
/-!
The memory that compiling a pattern to automata takes, and the limit on it.
-/

namespace OpenApiGen.Pattern

def sizeLimit : Nat := 10485760

/-- A byte transition to a state. -/
structure Transition where
  lo : Nat
  hi : Nat
  next : Nat
  deriving BEq, Inhabited

/-- The state of a build: the direction, the number of states, the bytes beyond 32 a state,
which states are choices, and the two tables of states built before, whose slots carry the number
of the class they were filled for. -/
structure Builder where
  reverse : Bool
  count : Nat := 0
  extra : Nat := 0
  choices : Array Bool := #[]
  nodes : Array (Nat × Array Transition × Nat)
  nodeRound : Nat := 0
  suffixes : Array (Nat × (Nat × Nat × Nat) × Nat)
  suffixRound : Nat := 0

def Builder.start (reverse : Bool) : Builder :=
  { reverse, nodes := Array.replicate 10000 (0, #[], 0),
    suffixes := Array.replicate 1000 (0, (0, 0, 0), 0) }

def Builder.bytes (b : Builder) : Nat := b.count * 32 + b.extra

abbrev Build := StateT Builder Option

abbrev Piece := Nat × Nat

/-- Adds a state, a choice or not, with some bytes beyond 32. -/
def addState (choice : Bool) (extra : Nat) : Build Nat := fun b =>
  let b' := { b with count := b.count + 1, extra := b.extra + extra, choices := b.choices.push choice }
  if b'.bytes ≤ sizeLimit then some (b.count, b') else none

def patch (source _target : Nat) : Build Unit := fun b =>
  if b.choices.getD source false then
    let b' := { b with extra := b.extra + 4 }
    if b'.bytes ≤ sizeLimit then some ((), b') else none
  else some ((), b)

def emptyPiece : Build Piece := do
  let id ← addState false 0
  pure (id, id)

/-- A class of bytes or of ASCII: an empty state, then a state with a transition per range. -/
def rangesPiece (ranges : Nat) : Build Piece := do
  let stop ← addState false 0
  let start ← addState false (8 * ranges)
  pure (start, stop)

/-! ## Hashing -/

def fnvPrime : UInt64 := 1099511628211

def fnvBasis : UInt64 := 14695981039346656037

def mixIn (h : UInt64) (n : Nat) : UInt64 := (h ^^^ n.toUInt64) * fnvPrime

def nodeSlot (ts : Array Transition) : Nat :=
  (ts.foldl (fun h t => mixIn (mixIn (mixIn h t.lo) t.hi) t.next) fnvBasis).toNat % 10000

/-- The slot of a chain link (target, first and last byte) in the backward table. -/
def suffixSlot (key : Nat × Nat × Nat) : Nat :=
  (mixIn (mixIn (mixIn fnvBasis key.1) key.2.1) key.2.2).toNat % 1000

/-! ## Classes beyond ASCII, forward -/

/-- A state with these transitions, built unless the table remembers an equal one. -/
def nodeState (ts : Array Transition) : Build Nat := do
  let b ← get
  let slot := nodeSlot ts
  match b.nodes[slot]? with
  | some (round, key, id) => if round == b.nodeRound && key == ts then return id
  | none => pure ()
  let id ← addState false (8 * ts.size)
  modify fun b => { b with nodes := b.nodes.set! slot (b.nodeRound, ts, id) }
  pure id

/-- A node of the tree being merged: its finished transitions, and the range of the transition
to the node after it, whose target is not built yet. -/
structure Pending where
  done : Array Transition := #[]
  open? : Option (Nat × Nat) := none
  deriving Inhabited

/-- The transitions of a node once its open transition leads to `next`. -/
def Pending.close (p : Pending) (next : Nat) : Array Transition :=
  match p.open? with
  | some (lo, hi) => p.done.push { lo, hi, next }
  | none => p.done

/-- Builds the last `k` nodes of the path, deepest first, the deepest leading to `next`; gives
the first of them built and the path left. -/
def buildDeepest : Nat → Nat → Array Pending → Build (Nat × Array Pending)
  | 0, next, path => pure (next, path)
  | k + 1, next, path => do
    let id ← nodeState ((path.back?.getD {}).close next)
    buildDeepest k id path.pop

/-- Builds the path below position `keep`, and closes the open transition there. -/
def buildFrom (keep target : Nat) (path : Array Pending) : Build (Array Pending) := do
  let (next, path) ← buildDeepest (path.size - (keep + 1)) target path
  pure (path.modify (path.size - 1) fun p => { done := p.close next })

/-- Adds a sequence to the tree: the part it shares with the path stays, the rest is built, and
the sequence's own tail becomes the new path. -/
def addSequence (target : Nat) (path : Array Pending) (seq : List (Nat × Nat)) :
    Build (Array Pending) := do
  let shared := ((seq.zip path.toList).takeWhile fun (r, p) => p.open? == some r).length
  let path ← buildFrom shared target path
  match seq.drop shared with
  | [] => pure path
  | first :: rest =>
    let path := path.modify (path.size - 1) fun p => { p with open? := some first }
    pure (rest.foldl (fun acc r => acc.push { open? := some r }) path)

/-- A class beyond ASCII, forward: the tree of its UTF-8 sequences into a final empty state. -/
def forwardClass (ranges : Unicode.Ranges) : Build Piece := do
  let target ← addState false 0
  modify fun b => { b with nodeRound := b.nodeRound + 1 }
  let path ← (classSequences ranges).foldlM (addSequence target) #[{}]
  let path ← buildFrom 0 target path
  let start ← nodeState (path.back?.getD {}).done
  pure (start, target)

/-! ## Classes beyond ASCII, backward -/

/-- Links one byte range in front of a chain, unless the table remembers that link. -/
def linkRange (stop : Nat) (r : Nat × Nat) : Build Nat := do
  let b ← get
  let key := (stop, r.1, r.2)
  let slot := suffixSlot key
  match b.suffixes[slot]? with
  | some (round, k, id) => if round == b.suffixRound && k == key then return id
  | none => pure ()
  let id ← addState false 0
  modify fun b => { b with suffixes := b.suffixes.set! slot (b.suffixRound, key, id) }
  pure id

/-- A class beyond ASCII, backward: a choice among the chains of its UTF-8 sequences, each chain
ending in a shared empty state. -/
def backwardClass (ranges : Unicode.Ranges) : Build Piece := do
  modify fun b => { b with suffixRound := b.suffixRound + 1 }
  let choice ← addState true 0
  let stop ← addState false 0
  for seq in classSequences ranges do
    let first ← seq.foldlM linkRange stop
    patch choice first
  pure (choice, stop)

def charsPiece (ranges : Unicode.Ranges) : Build Piece := do
  if isAscii ranges then rangesPiece ranges.length
  else if (← get).reverse then backwardClass ranges
  else forwardClass ranges

/-! ## Alternatives of literals -/

/-- A node of a trie of literals: transitions by byte, split into runs at the points where a
literal ends. -/
structure TrieNode where
  edges : Array (Nat × Nat) := #[]
  ends : Array (Nat × Nat) := #[]
  deriving Inhabited

def TrieNode.openStart (n : TrieNode) : Nat := (n.ends.back?.map (·.2)).getD 0

def TrieNode.runs (n : TrieNode) : List (List (Nat × Nat)) :=
  let closed := n.ends.toList.map fun (a, b) => (n.edges.extract a b).toList
  closed ++ [(n.edges.extract n.openStart n.edges.size).toList]

/-- Follows a byte from a node within its open run, adding a node if there is no such edge. -/
def trieStep (trie : Array TrieNode) (node byte : Nat) : Array TrieNode × Nat :=
  let n := trie[node]?.getD {}
  let start := n.openStart
  let openEdges := (n.edges.extract start n.edges.size).toList
  match openEdges.find? (·.1 == byte) with
  | some (_, next) => (trie, next)
  | none =>
    let position := start + (openEdges.filter (·.1 < byte)).length
    let next := trie.size
    let trie := trie.push {}
    (trie.modify node fun n => { n with edges := n.edges.insertIdxIfInBounds position (byte, next) }, next)

/-- Marks that a literal ends at a node: its open run is closed, unless the node has no edges and
is marked already. -/
def trieEnd (trie : Array TrieNode) (node : Nat) : Array TrieNode :=
  trie.modify node fun n =>
    if n.edges.isEmpty && !n.ends.isEmpty then n
    else { n with ends := n.ends.push (n.openStart, n.edges.size) }

def trieAdd (trie : Array TrieNode) (bytes : List Nat) : Array TrieNode :=
  let (trie, last) := bytes.foldl (fun (acc : Array TrieNode × Nat) b => trieStep acc.1 acc.2 b)
    (trie, 0)
  trieEnd trie last

/-- Builds the node of a trie and all below it: each run becomes a state with a transition per
edge, in front of which the nodes below are built; the node is a choice among its runs, with the
end of the match between them. -/
def trieState (trie : Array TrieNode) (stop : Nat) : Nat → Nat → Build Nat
  | 0, _ => addState true 0
  | fuel + 1, node => do
    let runs := (trie[node]?.getD {}).runs
    let mut alternatives : Nat := 0
    let mut first := true
    for run in runs do
      if !first then alternatives := alternatives + 1
      first := false
      for (_, next) in run do
        if !(trie[next]?.getD {}).edges.isEmpty then
          let _ ← trieState trie stop fuel next
      if run.length == 1 then
        let _ ← addState false 0
        alternatives := alternatives + 1
      else if run.length > 1 then
        let _ ← addState false (8 * run.length)
        alternatives := alternatives + 1
    addState true (4 * alternatives)

/-- Alternatives of literals as a trie, the literals read backward when building backward. -/
def triePiece (literals : List (List Nat)) : Build Piece := do
  let reverse := (← get).reverse
  let trie := literals.foldl (fun t bs => trieAdd t (if reverse then bs.reverse else bs)) #[{}]
  let stop ← addState false 0
  let start ← trieState trie stop (trie.size + 1) 0
  pure (start, stop)

/-! ## Sequences, alternatives and repetitions -/

/-- Pieces one after another, built in reading order (backward: from the last). -/
def concatPieces (parts : List (Build Piece)) : Build Piece := do
  let parts := if (← get).reverse then parts.reverse else parts
  match parts with
  | [] => emptyPiece
  | first :: rest =>
    let start ← first
    rest.foldlM (fun (acc : Piece) part => do
      let next ← part
      patch acc.2 next.1
      pure (acc.1, next.2)) start

/-- Alternatives: the first two are built, then a choice and a join, then the rest. -/
def alternativePieces (parts : List (Build Piece)) : Build Piece := do
  match parts with
  | [] => emptyPiece
  | [only] => only
  | first :: second :: rest =>
    let a ← first
    let b ← second
    let choice ← addState true 0
    let join ← addState false 0
    patch choice a.1
    patch a.2 join
    patch choice b.1
    patch b.2 join
    for part in rest do
      let p ← part
      patch choice p.1
      patch p.2 join
    pure (choice, join)

def chainCopies (one : Build Piece) : Nat → Piece → Builder → Option (Piece × Builder)
  | 0, acc, b => some (acc, b)
  | k + 1, acc, b =>
    match one b with
    | none => none
    | some (next, b) =>
      match patch acc.2 next.1 b with
      | none => none
      | some ((), b) => chainCopies one k (acc.1, next.2) b

def copies (one : Build Piece) (n : Nat) : Build Piece := fun b =>
  match n with
  | 0 => emptyPiece b
  | k + 1 =>
    match one b with
    | none => none
    | some (first, b) => chainCopies one k first b

/-- Adds `k` optional copies after `last`, each behind a choice that can skip to `stop`. -/
def optionalCopies (one : Build Piece) (stop : Nat) : Nat → Nat → Builder → Option (Nat × Builder)
  | 0, last, b => some (last, b)
  | k + 1, last, b =>
    let step : Build Nat := do
      let choice ← addState true 0
      let p ← one
      patch last choice
      patch choice p.1
      patch choice stop
      pure p.2
    match step b with
    | none => none
    | some (next, b) => optionalCopies one stop k next b

/-- `x?`: a choice between the piece and an empty state after it. -/
def zeroOrOne (one : Build Piece) : Build Piece := do
  let choice ← addState true 0
  let p ← one
  let stop ← addState false 0
  patch choice p.1
  patch choice stop
  patch p.2 stop
  pure (choice, stop)

/-- At least `n` copies: the last copy loops. With none required, a piece that must consume
input loops behind one choice, and one that need not is built as `(x+)?`. -/
def atLeast (one : Build Piece) (consumes : Bool) (n : Nat) : Build Piece := do
  match n with
  | 0 =>
    if consumes then
      let choice ← addState true 0
      let p ← one
      patch choice p.1
      patch p.2 choice
      pure (choice, choice)
    else
      let p ← one
      let again ← addState true 0
      patch p.2 again
      patch again p.1
      let choice ← addState true 0
      let stop ← addState false 0
      patch choice p.1
      patch choice stop
      patch again stop
      pure (choice, stop)
  | 1 =>
    let p ← one
    let again ← addState true 0
    patch p.2 again
    patch again p.1
    pure (p.1, again)
  | k + 1 =>
    let front ← copies one k
    let last ← one
    let again ← addState true 0
    patch front.2 last.1
    patch last.2 again
    patch again last.1
    pure (front.1, again)

def between (one : Build Piece) (min max : Nat) : Build Piece := do
  let front ← copies one min
  if min == max then return front
  let stop ← addState false 0
  let last ← fun b => optionalCopies one stop (max - min) front.2 b
  patch last stop
  pure (front.1, stop)

def repetitionPiece (body : Expr) (one : Build Piece) (min : Nat) (max : Option Nat) :
    Build Piece :=
  match min, max with
  | 0, some 1 => zeroOrOne one
  | min, none => atLeast one (body.minLen.getD 0 > 0) min
  | min, some max => if min == max then copies one min else between one min max

def capturePiece (one : Build Piece) : Build Piece := do
  if (← get).reverse then one
  else
    let start ← addState false 0
    let p ← one
    let stop ← addState false 0
    patch start p.1
    patch p.2 stop
    pure (start, stop)

mutual
def Expr.build : Expr → Build Piece
  | .empty => emptyPiece
  | .literal bs => do
    let first ← addState false 0
    for _ in bs.drop 1 do
      let _ ← addState false 0
    pure (first, (← get).count - 1)
  | .chars rs => charsPiece rs
  | .bytes rs => rangesPiece rs.length
  | .look _ => emptyPiece
  | .repetition min max body => repetitionPiece body body.build min max
  | .capture body => capturePiece body.build
  | .concat items => concatPieces (Expr.buildAll items)
  | .alternation items =>
    let literals := items.filterMap fun e => match e with
      | .literal bs => some bs
      | _ => none
    if literals.length ≤ 1 || literals.length < items.length then
      alternativePieces (Expr.buildAll items)
    else triePiece literals

def Expr.buildAll : List Expr → List (Build Piece)
  | [] => []
  | e :: rest => e.build :: Expr.buildAll rest
end

/-- Builds a whole automaton: the loop that lets a match start anywhere (unless every match is
anchored where reading starts), the pattern as a capturing group, and a match state. -/
def Expr.buildAutomaton (e : Expr) : Build Unit := do
  let anchored :=
    if (← get).reverse then e.endsWith (· == .textEnd) else e.startsWith (· == .textStart)
  let front ← if anchored then emptyPiece else atLeast (rangesPiece 1) true 0
  let whole ← capturePiece e.build
  let done ← addState false 0
  patch whole.2 done
  patch front.2 whole.1

/-- Whether a pattern is matched by a search for literals alone: an alternation of at least 3000
literals. -/
def Expr.isLargeLiteralSet : Expr → Bool
  | .alternation items => items.length ≥ 3000 && items.all Expr.isLiteral
  | _ => false

def Expr.fitsSizeLimit (e : Expr) : Bool :=
  e.isLargeLiteralSet ||
    ((e.buildAutomaton.run (Builder.start false)).isSome &&
      (e.buildAutomaton.run (Builder.start true)).isSome)

end OpenApiGen.Pattern
