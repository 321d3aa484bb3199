import OpenApiGen.Jq.Regex.Parse
/-!
Searching text for a pattern.
-/

namespace OpenApiGen.Jq.Regex

/-- An instruction of the matching machine; jumps are relative. -/
inductive Inst where
  | char (c : Char)
  | cls (ranges : List (Nat × Nat))
  | look (l : Look)
  | split (first second : Int)
  | jump (offset : Int)
  | save (slot : Nat)
  | done
  deriving Inhabited

def repeatBlock (b : Array Inst) : Nat → Array Inst
  | 0 => #[]
  | n + 1 => b ++ repeatBlock b n

/-- Optional copies of a block, each entered only if the one before was: skipping one skips the
rest. -/
def optionalCopies (b : Array Inst) (greedy : Bool) (count : Nat) : Array Inst :=
  let unit := b.size + 1
  (List.range count).foldl (fun acc i =>
    let exit : Int := Int.ofNat ((count - i) * unit)
    acc.push (if greedy then .split 1 exit else .split exit 1) ++ b) #[]

/-- The program of an expression: a block that falls through to what follows it. -/
def compile : Expr → Array Inst
  | .empty => #[]
  | .char c => #[.char c]
  | .cls rs => #[.cls rs]
  | .look l => #[.look l]
  | .capture i _ sub => #[.save (2 * i)] ++ compile sub ++ #[.save (2 * i + 1)]
  | .concat subs => subs.attach.foldl (fun acc ⟨e, _⟩ => acc ++ compile e) #[]
  | .alt subs =>
    let blocks := subs.attach.map fun ⟨e, _⟩ => compile e
    blocks.foldr (fun b rest =>
      if rest.isEmpty then b
      else #[Inst.split 1 (Int.ofNat (b.size + 2))] ++ b ++ #[Inst.jump (Int.ofNat (rest.size + 1))] ++ rest)
      #[]
  | .rep lo hi greedy sub =>
    let b := compile sub
    let required := repeatBlock b lo
    match hi with
    | some h => required ++ optionalCopies b greedy (h - lo)
    | none =>
      let back : Int := -(Int.ofNat (b.size + 1))
      let enter : Int := Int.ofNat (b.size + 2)
      required ++ #[if greedy then Inst.split 1 enter else Inst.split enter 1] ++ b ++ #[Inst.jump back]

/-- Whether a position of a text is at a word boundary of the given kind. -/
def lookHolds (l : Look) (text : Array Char) (pos : Nat) : Bool :=
  let before := if pos == 0 then none else text[pos - 1]?
  let after := text[pos]?
  let wordBefore := (before.map isWordChar).getD false
  let wordAfter := (after.map isWordChar).getD false
  match l with
  | .start => pos == 0
  | .finish => pos == text.size
  | .startLine => pos == 0 || before == some '\n'
  | .endLine => pos == text.size || after == some '\n'
  | .startLineCrlf =>
    pos == 0 || before == some '\n' || (before == some '\r' && after != some '\n')
  | .endLineCrlf =>
    pos == text.size || after == some '\r' || (after == some '\n' && before != some '\r')
  | .word => wordBefore != wordAfter
  | .notWord => wordBefore == wordAfter
  | .wordStart => !wordBefore && wordAfter
  | .wordEnd => wordBefore && !wordAfter
  | .wordStartHalf => !wordBefore
  | .wordEndHalf => !wordAfter

def inRanges (rs : List (Nat × Nat)) (n : Nat) : Bool := rs.any fun (lo, hi) => lo ≤ n && n ≤ hi

/-- A pending step of the search: explore an instruction at a position, or restore a slot when
backing out. -/
inductive Frame where
  | explore (pc pos : Nat)
  | restore (slot : Nat) (value : Option Nat)

def target (pc : Nat) (offset : Int) : Nat := (Int.ofNat pc + offset).toNat

/-- Runs the machine from the frames on the stack: the slots of the first match found, and the
explored pairs so far. -/
def backtrack (prog : Array Inst) (text : Array Char) :
    Nat → List Frame → Array (Option Nat) → Array Bool → Option (Array (Option Nat)) × Array Bool
  | 0, _, _, visited => (none, visited)
  | _ + 1, [], _, visited => (none, visited)
  | fuel + 1, .restore k v :: rest, slots, visited =>
    backtrack prog text fuel rest (slots.setIfInBounds k v) visited
  | fuel + 1, .explore pc pos :: rest, slots, visited =>
    let key := pc * (text.size + 1) + pos
    if visited.getD key true then backtrack prog text fuel rest slots visited
    else
      let visited := visited.setIfInBounds key true
      match prog[pc]? with
      | none => backtrack prog text fuel rest slots visited
      | some inst =>
        match inst with
        | .char c =>
          if text[pos]? == some c then backtrack prog text fuel (.explore (pc + 1) (pos + 1) :: rest) slots visited
          else backtrack prog text fuel rest slots visited
        | .cls rs =>
          match text[pos]? with
          | some c =>
            if inRanges rs c.toNat then
              backtrack prog text fuel (.explore (pc + 1) (pos + 1) :: rest) slots visited
            else backtrack prog text fuel rest slots visited
          | none => backtrack prog text fuel rest slots visited
        | .look l =>
          if lookHolds l text pos then backtrack prog text fuel (.explore (pc + 1) pos :: rest) slots visited
          else backtrack prog text fuel rest slots visited
        | .split a b =>
          backtrack prog text fuel (.explore (target pc a) pos :: .explore (target pc b) pos :: rest)
            slots visited
        | .jump d => backtrack prog text fuel (.explore (target pc d) pos :: rest) slots visited
        | .save k =>
          backtrack prog text fuel (.explore (pc + 1) pos :: .restore k (slots.getD k none) :: rest)
            (slots.setIfInBounds k (some pos)) visited
        | .done => (some slots, visited)

/-- A compiled pattern ready for searching. -/
structure Matcher where
  pattern : Pattern
  prog : Array Inst

/-- Compiles a pattern: its expression inside the slots of the whole match. -/
def Matcher.ofPattern (p : Pattern) : Matcher :=
  { pattern := p, prog := #[.save 0] ++ compile p.expr ++ #[.save 1, .done] }

/-- The slots of the leftmost match starting at or after a position, trying starts in turn. -/
def Matcher.searchFrom (m : Matcher) (text : Array Char) : Nat → Nat → Array Bool →
    Option (Array (Option Nat))
  | 0, _, _ => none
  | fuel + 1, start, visited =>
    if start > text.size then none
    else
      let slots := Array.replicate (2 * m.pattern.groups + 2) none
      let budget := 4 * m.prog.size * (text.size + 2) + 8
      match backtrack m.prog text budget [.explore 0 start] slots visited with
      | (some found, _) => some found
      | (none, visited) => m.searchFrom text fuel (start + 1) visited

def Matcher.search (m : Matcher) (text : Array Char) (start : Nat) : Option (Array (Option Nat)) :=
  m.searchFrom text (text.size + 2) start (Array.replicate (m.prog.size * (text.size + 1)) false)

def wholeMatch (slots : Array (Option Nat)) : Nat × Nat :=
  ((slots.getD 0 none).getD 0, (slots.getD 1 none).getD 0)

/-- The successive matches from a position, each continuing where the last ended. -/
def Matcher.allFrom (m : Matcher) (text : Array Char) :
    Nat → Nat → Option Nat → List (Array (Option Nat))
  | 0, _, _ => []
  | fuel + 1, start, lastEnd =>
    if start > text.size then []
    else
      match m.search text start with
      | none => []
      | some slots =>
        let (s, e) := wholeMatch slots
        if s == e && lastEnd == some e then
          if start + 1 > text.size then []
          else
            match m.search text (start + 1) with
            | none => []
            | some slots =>
              let (_, e) := wholeMatch slots
              slots :: m.allFrom text fuel e (some e)
        else slots :: m.allFrom text fuel e (some e)

def Matcher.all (m : Matcher) (text : Array Char) : List (Array (Option Nat)) :=
  m.allFrom text (2 * text.size + 4) 0 none

end OpenApiGen.Jq.Regex
