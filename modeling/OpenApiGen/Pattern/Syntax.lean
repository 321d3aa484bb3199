import OpenApiGen.Pattern.Report
/-!
The tree of a regular expression as written: every piece with its span, flag settings where they
stand, and classes in brackets with their items.
-/

namespace OpenApiGen.Pattern

/-- A Unicode class by name: one letter (`\pL`), a name (`\p{Greek}`), or a property and a value
(`\p{sc=Greek}`, `\p{sc:Greek}`), possibly negated by `!=` (`\p{sc!=Greek}`). -/
inductive PropertyQuery where
  | oneLetter (c : Char)
  | named (name : String)
  | byValue (name value : String) (equal : Bool)
  deriving Inhabited

/-- The zero-width assertions: `^` and `$`, `\A` and `\z`, word boundaries `\b` and `\B`, the
starts and ends of words (`\<`, `\b{start}`, `\>`, `\b{end}`) and their halves
(`\b{start-half}`, `\b{end-half}`). -/
inductive Assertion where
  | startLine
  | endLine
  | startText
  | endText
  | wordBoundary
  | notWordBoundary
  | wordStart
  | wordEnd
  | wordStartHalf
  | wordEndHalf
  deriving Inhabited, BEq

/-- The Perl classes: digits (`\d`), white space (`\s`) and word characters (`\w`). -/
inductive PerlClass where
  | digit
  | space
  | word
  deriving Inhabited, BEq

/-- A character as written, with its span; `hexByte` marks the form `\xNN` with exactly two
digits, which names a byte when Unicode matching is off. -/
structure Literal where
  span : Span
  char : Char
  hexByte : Bool := false
  deriving Inhabited

/-- The smallest pieces: a character, any character, an assertion, a Perl class and a Unicode
class. -/
inductive Atom where
  | literal (lit : Literal)
  | dot
  | assertion (kind : Assertion)
  | perl (kind : PerlClass) (negated : Bool)
  | property (query : PropertyQuery) (negated : Bool)
  deriving Inhabited

def asciiClassNames : List String :=
  ["alnum", "alpha", "ascii", "blank", "cntrl", "digit", "graph", "lower", "print", "punct",
    "space", "upper", "word", "xdigit"]

/-- The operators between two sets in brackets: `&&`, `--` and `~~`. -/
inductive SetOp where
  | intersection
  | difference
  | symmetricDifference
  deriving Inhabited, BEq

mutual
inductive ClassItem where
  | atom (span : Span) (atom : Atom)
  | range (span : Span) (lo hi : Literal)
  | ascii (span : Span) (name : String) (negated : Bool)
  | bracketed (span : Span) (negated : Bool) (set : ClassSet)
  deriving Inhabited

/-- The contents of one pair of brackets: a union of items, or two sets joined by an
operator. -/
inductive ClassSet where
  | union (span : Span) (items : List ClassItem)
  | binary (span : Span) (op : SetOp) (lhs rhs : ClassSet)
  deriving Inhabited
end

/-- Changes of flags, each a flag letter and whether it is turned on. -/
abbrev FlagChanges := List (Char × Bool)

/-- A regular expression. A flag setting changes the flags for the rest of its group; a group may
change them for its body alone. -/
inductive Node where
  | empty (span : Span)
  | flags (span : Span) (changes : FlagChanges)
  | atom (span : Span) (atom : Atom)
  | bracketed (span : Span) (negated : Bool) (set : ClassSet)
  | group (span : Span) (capturing : Bool) (changes : FlagChanges) (body : Node)
  | repetition (span : Span) (min : Nat) (max : Option Nat) (body : Node)
  | concat (span : Span) (items : List Node)
  | alternation (span : Span) (items : List Node)
  deriving Inhabited

def Node.span : Node → Span
  | .empty s | .flags s _ | .atom s _ | .bracketed s _ _ | .group s _ _ _ | .repetition s _ _ _
  | .concat s _ | .alternation s _ => s

def ClassItem.span : ClassItem → Span
  | .atom s _ | .range s _ _ | .ascii s _ _ | .bracketed s _ _ => s

def ClassSet.span : ClassSet → Span
  | .union s _ | .binary s _ _ _ => s

/-- A sequence as one piece: nothing is empty, one piece is itself. -/
def Node.ofConcat (span : Span) : List Node → Node
  | [] => .empty span
  | [n] => n
  | ns => .concat span ns

def Node.ofAlternatives (span : Span) : List Node → Node
  | [] => .empty span
  | [n] => n
  | ns => .alternation span ns

end OpenApiGen.Pattern
