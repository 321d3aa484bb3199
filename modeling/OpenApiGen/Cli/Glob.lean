/-!
# Glob patterns

An input on the command line that holds `*`, `?`, `[` or `{` is a glob pattern naming the files
it matches. In a pattern:
-/

namespace OpenApiGen.Cli

/-- One member of a `[...]` set. -/
inductive CharSet where
  | single (c : Char)
  | range (lo hi : Char)
  deriving Inhabited, BEq

/-- A piece of a glob pattern. -/
inductive GlobToken where
  | char (c : Char)
  | anyChar
  | anySequence
  | anyDirectories
  | within (set : List CharSet)
  | outside (set : List CharSet)
  deriving Inhabited, BEq

structure GlobPattern where
  tokens : List GlobToken
  /-- Whether it holds `**`. -/
  recursive : Bool
  deriving Inhabited

/-- Why a glob pattern is invalid, and where. -/
structure GlobError where
  position : Nat
  reason : String
  deriving Inhabited

def GlobError.message (e : GlobError) : String :=
  "Pattern syntax error near position " ++ toString e.position ++ ": " ++ e.reason

def tooManyStars : String := "wildcards are either regular `*` or recursive `**`"

def loneDirectories : String := "recursive wildcards must form a single path component"

def unclosedSet : String := "invalid range pattern"

/-- The members of a set, from the characters between its brackets: `a-z` is a range. -/
def charSetOf : List Char → List CharSet
  | a :: '-' :: b :: rest => .range a b :: charSetOf rest
  | a :: rest => .single a :: charSetOf rest
  | [] => []

def CharSet.contains (s : List CharSet) (c : Char) : Bool :=
  s.any fun
    | .single x => x == c
    | .range lo hi => lo ≤ c && c ≤ hi

/-- A `[` set starting at the head of `rest` (the characters after the `[`): the set, whether it
is negated, and how many characters of `rest` it takes, its `]` included. -/
def readSet (rest : List Char) : Option (List CharSet × Bool × Nat) :=
  match rest with
  | '!' :: body =>
    if body.length ≥ 2 then
      match (body.drop 1).idxOf? ']' with
      | some j => some (charSetOf (body.take (j + 1)), true, j + 3)
      | none => none
    else none
  | body =>
    if body.length ≥ 2 then
      match (body.drop 1).idxOf? ']' with
      | some j => some (charSetOf (body.take (j + 1)), false, j + 2)
      | none => none
    else none

def leadingStars (cs : List Char) : Nat := (cs.takeWhile (· == '*')).length

/-- Parse the characters of a pattern from position `pos`; `prev` is the character before them and
`tokens` the tokens read so far, last first. -/
def parseGlobFrom (prev : Option Char) (pos : Nat) (tokens : List GlobToken) (recursive : Bool) :
    List Char → Except GlobError GlobPattern
  | [] => .ok ⟨tokens.reverse, recursive⟩
  | '?' :: rest => parseGlobFrom (some '?') (pos + 1) (.anyChar :: tokens) recursive rest
  | '[' :: rest =>
    match readSet rest with
    | some (set, negated, used) =>
      let tok := if negated then GlobToken.outside set else .within set
      parseGlobFrom (some ']') (pos + 1 + used) (tok :: tokens) recursive (rest.drop used)
    | none => .error ⟨pos, unclosedSet⟩
  | '*' :: rest =>
    let n := leadingStars rest + 1
    if n > 2 then .error ⟨pos + 2, tooManyStars⟩
    else if n == 1 then
      parseGlobFrom (some '*') (pos + 1) (.anySequence :: tokens) recursive (rest.drop (n - 1))
    else if pos == 0 || prev == some '/' then
      let add := !(tokens.length > 1 && tokens.head? == some .anyDirectories)
      let tokens' := if add then .anyDirectories :: tokens else tokens
      let recursive' := recursive || add
      match h : rest.drop (n - 1) with
      | '/' :: more => parseGlobFrom (some '/') (pos + 3) tokens' recursive' more
      | [] => .ok ⟨tokens'.reverse, recursive'⟩
      | _ => .error ⟨pos + 2, loneDirectories⟩
    else .error ⟨pos - 1, loneDirectories⟩
  | c :: rest => parseGlobFrom (some c) (pos + 1) (.char c :: tokens) recursive rest
termination_by cs => cs.length
decreasing_by
  · exact Nat.lt_succ_self _
  · rw [List.length_drop]; exact Nat.lt_succ_of_le (Nat.sub_le _ _)
  · rw [List.length_drop]; exact Nat.lt_succ_of_le (Nat.sub_le _ _)
  · have hl := congrArg List.length h
    rw [List.length_drop, List.length_cons] at hl
    rw [List.length_cons]
    omega
  · exact Nat.lt_succ_self _

def GlobPattern.parse (text : String) : Except GlobError GlobPattern :=
  parseGlobFrom none 0 [] false text.toList

def GlobPattern.literal? (p : GlobPattern) : Option String :=
  p.tokens.foldr (fun t acc => match t, acc with
    | .char c, some s => some (String.singleton c ++ s)
    | _, _ => none) (some "")

def GlobPattern.startsWithDot (p : GlobPattern) : Bool :=
  p.tokens.head? == some (.char '.')

/-- How matching a pattern's tail against a text's tail ends: a match, no match here (a star
before may take more characters), or no match at all (the text ran out; taking more cannot
help). -/
inductive Verdict where
  | matched
  | notHere
  | never
  deriving DecidableEq

/-- Try a star: resume matching with `k` after each character the star takes, in turn. A star of
`**` resumes only after a `/`. -/
def scanStar (dirs : Bool) (k : Bool → List Char → Verdict) : Bool → List Char → Verdict
  | afterSlash, [] => k afterSlash []
  | _, c :: rest =>
    let slash := c == '/'
    if dirs && !slash then scanStar dirs k slash rest
    else
      match k slash rest with
      | .notHere => scanStar dirs k slash rest
      | v => v

def GlobToken.accepts : GlobToken → Char → Bool
  | .char x, c => x == c
  | .anyChar, _ => true
  | .within s, c => CharSet.contains s c
  | .outside s, c => !CharSet.contains s c
  | _, _ => false

/-- Match tokens against a text; `afterSlash` tells whether the text follows a `/` (or starts). -/
def matchTokens : List GlobToken → Bool → List Char → Verdict
  | [], _, cs => if cs.isEmpty then .matched else .notHere
  | .anySequence :: ts, afterSlash, cs =>
    match matchTokens ts afterSlash cs with
    | .notHere => scanStar false (matchTokens ts) afterSlash cs
    | v => v
  | .anyDirectories :: ts, afterSlash, cs =>
    match matchTokens ts afterSlash cs with
    | .notHere => scanStar true (matchTokens ts) afterSlash cs
    | v => v
  | t :: ts, _, cs =>
    match cs with
    | [] => .never
    | c :: rest => if t.accepts c then matchTokens ts (c == '/') rest else .notHere

def GlobPattern.matches (p : GlobPattern) (name : String) : Bool :=
  matchTokens p.tokens true name.toList == .matched

def isGlob (text : String) : Bool :=
  text.any (fun c => c == '*' || c == '?' || c == '[' || c == '\x7b')

end OpenApiGen.Cli
