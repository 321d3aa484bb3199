import OpenApiGen.Jq.Regex.Match
import OpenApiGen.Jq.Stream
/-!
The regular-expression built-ins: `test`, `match`, `capture`, `scan`, `split` with a pattern, and
the pieces that `sub` puts together.
-/

namespace OpenApiGen.Jq

namespace TextSearch

/-- How a search runs: the compiled pattern, whether every match counts, and whether empty
matches are skipped. -/
structure Search where
  matcher : Regex.Matcher
  global : Bool
  skipEmpty : Bool

def readFlags (flags : String) : Except JqError (Regex.Flags × Bool × Bool) :=
  flags.toList.foldlM (fun (fl, global, skipEmpty) c =>
    match c with
    | 'g' => pure (fl, true, skipEmpty)
    | 'n' => pure (fl, global, true)
    | 'i' => pure ({ fl with caseInsensitive := true }, global, skipEmpty)
    | 'm' => pure ({ fl with multiLine := true }, global, skipEmpty)
    | 's' => pure ({ fl with dotAll := true }, global, skipEmpty)
    | 'l' => pure ({ fl with swapGreed := true }, global, skipEmpty)
    | 'x' => pure ({ fl with ignoreSpace := true }, global, skipEmpty)
    | 'p' => pure ({ fl with multiLine := true, dotAll := true }, global, skipEmpty)
    | c => throw (JqError.text ("invalid regex flag: " ++ String.singleton c)))
    ({}, false, false)

def prepare (re flags : Value) : Except JqError Search := do
  let flags ← match flags with
    | .null => pure ""
    | .str f => pure f
    | v => throw (JqError.typeMismatch v "string")
  let (fl, global, skipEmpty) ← readFlags flags
  let re ← match re with
    | .str r => pure r
    | v => throw (JqError.typeMismatch v "string")
  match Regex.Pattern.read re fl with
  | .ok p => pure { matcher := Regex.Matcher.ofPattern p, global, skipEmpty }
  | .error m => throw (JqError.text ("invalid regex: " ++ m))

def inputText (v : Value) : Except JqError (Array Char) :=
  match v with
  | .str s => .ok s.toList.toArray
  | v => .error (JqError.typeMismatch v "string")

/-- The matches a search counts, as slots: empty ones dropped if asked, only the first unless
every match counts. -/
def Search.matches (s : Search) (text : Array Char) : List (Array (Option Nat)) :=
  let all := s.matcher.all text
  let kept := if s.skipEmpty then all.filter (fun m => (Regex.wholeMatch m).1 != (Regex.wholeMatch m).2) else all
  if s.global then kept else kept.take 1

def between (text : Array Char) (lo hi : Nat) : String := String.ofList (text.extract lo hi).toList

def groupObject (text : Array Char) (slots : Array (Option Nat)) (i : Nat) (name : Option String) :
    Value :=
  let nameField : Value := match name with
    | some n => .str n
    | none => .null
  match slots.getD (2 * i) none, slots.getD (2 * i + 1) none with
  | some lo, some hi =>
    .obj [("offset", .int lo), ("length", .int (hi - lo)), ("string", .str (between text lo hi)),
      ("name", nameField)]
  | _, _ => .obj [("offset", .int (-1)), ("length", .int 0), ("string", .null), ("name", nameField)]

def matchObject (s : Search) (text : Array Char) (slots : Array (Option Nat)) : Value :=
  let (lo, hi) := Regex.wholeMatch slots
  let groups := (List.range s.matcher.pattern.groups).map fun i =>
    groupObject text slots (i + 1) (s.matcher.pattern.names.getD (i + 1) none)
  .obj [("offset", .int lo), ("length", .int (hi - lo)), ("string", .str (between text lo hi)),
    ("captures", .arr groups)]

/-- The named groups of a match as an object from names to texts. -/
def captureObject (s : Search) (text : Array Char) (slots : Array (Option Nat)) : Value :=
  .obj ((List.range s.matcher.pattern.groups).filterMap fun i =>
    (s.matcher.pattern.names.getD (i + 1) none).map fun n =>
      match slots.getD (2 * (i + 1)) none, slots.getD (2 * (i + 1) + 1) none with
      | some lo, some hi => (n, .str (between text lo hi))
      | _, _ => (n, .null))

/-- What `scan` gives for a match: the texts of its groups, or its text if it has none. -/
def scanValue (s : Search) (text : Array Char) (slots : Array (Option Nat)) : Value :=
  if s.matcher.pattern.groups == 0 then
    let (lo, hi) := Regex.wholeMatch slots
    .str (between text lo hi)
  else
    .arr ((List.range s.matcher.pattern.groups).map fun i =>
      match slots.getD (2 * (i + 1)) none, slots.getD (2 * (i + 1) + 1) none with
      | some lo, some hi => .str (between text lo hi)
      | _, _ => .null)

/-- A piece of a text cut by matches: text between matches, or a match's named groups. -/
inductive Piece where
  | text (s : String)
  | groups (captures : Value)

def pieces (s : Search) (text : Array Char) : List Piece :=
  let (acc, last) := (s.matches text).foldl (fun (acc, from_) slots =>
    let (lo, hi) := Regex.wholeMatch slots
    (acc ++ [Piece.text (between text from_ lo), Piece.groups (captureObject s text slots)], hi))
    ([], 0)
  acc ++ [Piece.text (between text last text.size)]

def apply (name : String) (input re flags : Value) : Outputs :=
  match (do
    let s ← prepare re flags
    let text ← inputText input
    pure (s, text) : Except JqError (Search × Array Char)) with
  | .error e => Outputs.fail e
  | .ok (s, text) =>
    match name with
    | "test" => Outputs.pure (.bool !(s.matches text).isEmpty)
    | "match" => LazySeq.ofList ((s.matches text).map fun m => .ok (matchObject s text m))
    | "capture" => LazySeq.ofList ((s.matches text).map fun m => .ok (captureObject s text m))
    | "scan" => LazySeq.ofList ((s.matches text).map fun m => .ok (scanValue s text m))
    | _ =>
      let s := { s with global := true }
      Outputs.pure (.arr ((pieces s text).filterMap fun p =>
        match p with
        | .text t => some (.str t)
        | .groups _ => none))

end TextSearch

end OpenApiGen.Jq
