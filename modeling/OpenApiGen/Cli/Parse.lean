import OpenApiGen.Cli.Grammar
import OpenApiGen.Cli.Similar
import OpenApiGen.Cli.Request

/-!
# Reading the command line

The words after the program's name are read left to right. The first plain word names the
subcommand; `-h`/`--help` and `-V`/`--version` may come before it. The subcommand's words are
switches with their values:
-/

namespace OpenApiGen.Cli

/-- How reading a command line ends early. -/
inductive Stop where
  /-- Help or the version, printed on standard output; success. -/
  | print (text : String)
  /-- A mistake or the help shown for an empty command line, printed on standard error. -/
  | refuse (text : String)
  deriving Inhabited

abbrev Reading := Except Stop

/-- A mistake's message: the problem, the tips offered, the usage line and, when `pointer`
holds, the pointer to help. -/
def mistakeWith (pointer : Bool) (problem : String) (tips : List String) (usage : Option String) :
    String :=
  let tipText := match tips with
    | [] => ""
    | ts => "\n" ++ String.join (ts.map (fun t => "\n  tip: " ++ t))
  let usageText := match usage with
    | some u => "\n\nUsage: " ++ u
    | none => ""
  let pointerText := if pointer then "\n\nFor more information, try '--help'.\n" else "\n"
  "error: " ++ problem ++ tipText ++ usageText ++ pointerText

def mistake (problem : String) (tips : List String) (usage : Option String) : String :=
  mistakeWith true problem tips usage

def refuse (problem : String) (tips : List String) (usage : Option String) : Reading α :=
  .error (.refuse (mistake problem tips usage))

def similarTip (what : String) : List String → List String
  | [] => []
  | [w] => ["a similar " ++ what ++ " exists: '" ++ w ++ "'"]
  | ws => ["some similar " ++ what ++ "s exist: " ++ ", ".intercalate (ws.map (fun w => "'" ++ w ++ "'"))]

def choicesLine : List String → String
  | [] => ""
  | cs => "\n  [possible values: " ++ ", ".intercalate cs ++ "]"

def emptyValue (s : SwitchSpec) : String :=
  mistake ("a value is required for '" ++ s.display ++ "' but none was supplied" ++
    choicesLine s.choices) [] none

/-! ## Numbers -/

/-- Why a text is not a 64-bit signed number. -/
inductive NumberProblem where
  | empty
  | invalidDigit
  | tooLarge
  | tooSmall

def NumberProblem.message : NumberProblem → String
  | .empty => "cannot parse integer from empty string"
  | .invalidDigit => "invalid digit found in string"
  | .tooLarge => "number too large to fit in target type"
  | .tooSmall => "number too small to fit in target type"

/-- Decimal digits read left to right into a magnitude no larger than `bound`; the first
non-digit, or the first digit that passes the bound, stops the reading. -/
def readMagnitude (bound : Nat) (excess : NumberProblem) : Nat → List Char → Except NumberProblem Nat
  | acc, [] => .ok acc
  | acc, c :: rest =>
    if c.isDigit then
      let next := acc * 10 + (c.toNat - '0'.toNat)
      if next > bound then .error excess else readMagnitude bound excess next rest
    else .error .invalidDigit

def parseSigned (text : String) : Except NumberProblem Int :=
  match text.toList with
  | [] => .error .empty
  | ['+'] | ['-'] => .error .invalidDigit
  | '+' :: ds => return Int.ofNat (← readMagnitude (Nat.pow 2 63 - 1) .tooLarge 0 ds)
  | '-' :: ds => return -Int.ofNat (← readMagnitude (Nat.pow 2 63) .tooSmall 0 ds)
  | ds => return Int.ofNat (← readMagnitude (Nat.pow 2 63 - 1) .tooLarge 0 ds)

/-! ## Values -/

/-- Check one value of a switch; the message when it does not fit. -/
def checkValue (s : SwitchSpec) (v : String) : Option String :=
  let invalid (why : String) : String :=
    mistake ("invalid value '" ++ v ++ "' for '" ++ s.display ++ "'" ++ why) [] none
  match s.kind with
  | .text => none
  | .path => if v.isEmpty then some (emptyValue s) else none
  | .count =>
    match parseSigned v with
    | .error p => some (invalid (": " ++ p.message))
    | .ok n =>
      if 0 ≤ n && n < Nat.pow 2 32 then none
      else some (mistake ("invalid value '" ++ toString n ++ "' for '" ++ s.display ++ "': " ++
        toString n ++ " is not in 0..=4294967295") [] none)
  | .choice names =>
    if names.contains v then none
    else if v.isEmpty then some (emptyValue s)
    else some (mistake ("invalid value '" ++ v ++ "' for '" ++ s.display ++ "'" ++ choicesLine names)
      (similarTip "value" ((closest? v names).toList)) none)

/-! ## A subcommand's words -/

/-- Where reading a subcommand's words stands. -/
structure Progress where
  /-- The switches given, in the order first given, with their values. -/
  given : List (Switch × List String) := []
  /-- The switch waiting for values, with those read so far. -/
  pending : Option (SwitchSpec × List String) := none
  /-- Whether the next plain word is a value of the waiting switch. -/
  expecting : Bool := false
  /-- Whether `--` was read. -/
  escaped : Bool := false
  deriving Inhabited

namespace Progress

def used (p : Progress) : List Switch := p.given.map Prod.fst

def has (p : Progress) (s : Switch) : Bool := p.used.contains s

def add (p : Progress) (s : Switch) (vals : List String) : Progress :=
  if p.has s then { p with given := p.given.map (fun (k, vs) => if k == s then (k, vs ++ vals) else (k, vs)) }
  else { p with given := p.given ++ [(s, vals)] }

def drop (p : Progress) (s : Switch) : Progress :=
  { p with given := p.given.filter (fun (k, _) => k != s) }

def values (p : Progress) (s : Switch) : List String := (p.given.lookup s).getD []

def value? (p : Progress) (s : Switch) : Option String := (p.given.lookup s).bind List.head?

end Progress

/-- Apply a complete switch with its values: the progress made, and the way reading stops if it
does. A switch given twice is forgotten; a value that does not fit leaves the switch given. -/
def apply (c : Subcommand) (p : Progress) (s : SwitchSpec) (vals : List String) :
    Progress × Option Stop :=
  if s.switch == .help then (p, some (.print c.helpPage))
  else if s.takesValue && vals.isEmpty then (p, some (.refuse (emptyValue s)))
  else if !s.many && p.has s.switch then
    (p.drop s.switch, some (.refuse (mistake ("the argument '" ++ s.display ++
      "' cannot be used multiple times") [] (some (c.usage [])))))
  else
    let stored := if s.takesValue then vals else ["true"]
    match vals.findSome? (checkValue s) with
    | some msg => (p.add s.switch [], some (.refuse msg))
    | none => (p.add s.switch stored, none)

def react (c : Subcommand) (p : Progress) (s : SwitchSpec) (vals : List String) : Reading Progress :=
  match apply c p s vals with
  | (p', none) => .ok p'
  | (_, some stop) => .error stop

def settle (c : Subcommand) (p : Progress) : Reading Progress :=
  match p.pending with
  | none => .ok p
  | some (s, vals) => react c { p with pending := none } s vals

/-- Complete the waiting switch, going on whatever happens; used just before reporting another
mistake. -/
def settleQuietly (c : Subcommand) (p : Progress) : Progress :=
  match p.pending with
  | none => p
  | some (s, vals) => (apply c { p with pending := none } s vals).1

def unexpected (c : Subcommand) (word : String) : Reading α :=
  refuse ("unexpected argument '" ++ word ++ "' found") [] (some (c.usage []))

/-- The message for an unknown long switch, offering the closest known one. -/
def unknownLong (c : Subcommand) (p : Progress) (name : String) : Reading α :=
  let p1 := settleQuietly c p
  match closest? name (c.switches.map (·.long)) with
  | some l =>
    let used := match c.findLong? l with
      | some s => if p1.has s.switch then p1.used else p1.used ++ [s.switch]
      | none => p1.used
    refuse ("unexpected argument '--" ++ name ++ "' found") (similarTip "argument" ["--" ++ l])
      (some (c.usage used))
  | none => refuse ("unexpected argument '--" ++ name ++ "' found") [] (some (c.usage p1.used))

def splitAssignment (body : String) : String × Option String :=
  match body.splitOn "=" with
  | [] => ("", none)
  | [n] => (n, none)
  | n :: rest => (n, some ("=".intercalate rest))

mutual
def readWords (c : Subcommand) (p : Progress) : List String → Reading Progress
  | [] => settle c p
  | w :: rest =>
    if p.escaped then unexpected c w
    else if w == "--" then readWords c { p with escaped := true } rest
    else if w.startsWith "--" then
      let (name, attached) := splitAssignment (w.drop 2).toString
      match c.findLong? name with
      | none => unknownLong c p name
      | some s =>
        if s.takesValue then
          match attached with
          | some v => do
            let p1 ← settle c p
            let p2 ← react c p1 s [v]
            readWords c { p2 with expecting := false } rest
          | none => do
            let p1 ← settle c p
            readWords c { p1 with pending := some (s, []), expecting := true } rest
        else
          match attached with
          | some v =>
            let p1 := settleQuietly c p
            let used := (p1.used.filter (fun k => !(c.spec k).required)) ++ [s.switch]
            refuse ("unexpected value '" ++ v ++ "' for '" ++ s.display ++
              "' found; no more were expected") [] (some (c.usage used))
          | none => do
            let p1 ← settle c p
            let p2 ← react c p1 s []
            readWords c { p2 with expecting := false } rest
    else if w.startsWith "-" && w.length > 1 then
      readLetters c p (w.drop 1).toString.toList rest
    else
      match p.pending with
      | some (s, vals) =>
        if p.expecting then
          readWords c { p with pending := some (s, vals ++ [w]), expecting := s.many } rest
        else unexpected c w
      | none => unexpected c w
termination_by ws => (ws.length, 0)

/-- Read a group of one-letter switches; a letter that takes a value takes the rest of the group,
or the next word. -/
def readLetters (c : Subcommand) (p : Progress) : List Char → List String → Reading Progress
  | [], rest => readWords c { p with expecting := false } rest
  | l :: more, rest =>
    match c.findShort? l with
    | none => refuse ("unexpected argument '-" ++ String.singleton l ++ "' found") [] (some (c.usage []))
    | some s =>
      if s.takesValue then
        let attached := match more with
          | [] => none
          | '=' :: v => some (String.ofList v)
          | v => some (String.ofList v)
        match attached with
        | some v => do
          let p1 ← settle c p
          let p2 ← react c p1 s [v]
          readWords c { p2 with expecting := false } rest
        | none => do
          let p1 ← settle c p
          readWords c { p1 with pending := some (s, []), expecting := true } rest
      else do
        let p1 ← settle c p
        let p2 ← react c p1 s []
        readLetters c p2 more rest
termination_by ls ws => (ws.length, ls.length + 1)
end

def Progress.request (c : Subcommand) (p : Progress) : Request :=
  let settings : InputSettings :=
    { jqExpr := p.value? .jqExpr
      input := p.values .input
      firstTypeIndex := match p.value? .firstTypeIndex >>= (fun v => (parseSigned v).toOption) with
        | some n => n.toNat.toUInt32
        | none => 1
      pretty := p.has .pretty }
  match c with
  | .document =>
    .document { settings, template := p.value? .template, out := p.value? .out, noOp := p.has .noOp }
  | .schema =>
    .schema { settings, definition := (p.value? .definition).getD "",
              category := ((p.value? .category).bind Category.ofName?).getD .body }

/-- Read a subcommand's words and check that every required switch was given. -/
def readSubcommand (c : Subcommand) (words : List String) : Reading Request := do
  let p ← readWords c {} words
  match c.required.filter (fun s => !p.has s.switch) with
  | [] => pure (p.request c)
  | missing =>
    refuse ("the following required arguments were not provided:" ++
      String.join (missing.map (fun s => "\n  " ++ s.display))) []
      (some (c.usage (p.used ++ missing.map (·.switch))))

/-! ## The program's words -/

/-- The message for a word that names no subcommand, offering similar names. -/
def unknownSubcommand (word : String) : Reading α :=
  refuse ("unrecognized subcommand '" ++ word ++ "'") (similarTip "subcommand" (resembling word subcommandNames))
    (some topUsage)

/-- The words after `help`: the help page of the subcommand they name. -/
def readHelpWords : List String → Reading Request
  | [] => .error (.print topHelpPage)
  | [w] =>
    match Subcommand.ofName? w with
    | some c => .error (.print c.helpPage)
    | none => if w == "help" then .error (.print helpCommandPage) else
        .error (.refuse (mistake ("unrecognized subcommand '" ++ w ++ "'") [] (some topUsage)))
  | w :: x :: _ =>
    match Subcommand.ofName? w with
    | some c => .error (.refuse (mistake ("unrecognized subcommand '" ++ x ++ "'") [] (some c.helpUsage)))
    | none =>
      if w == "help" then
        .error (.refuse (mistakeWith false ("unrecognized subcommand '" ++ x ++ "'") []
          (some helpCommandUsage)))
      else .error (.refuse (mistake ("unrecognized subcommand '" ++ w ++ "'") [] (some topUsage)))

/-- An unknown long switch before the subcommand: a similar top switch, or a similar switch of a
subcommand named later on the line. -/
def unknownTopLong (name : String) (later : List String) : Reading Request :=
  let problem := "unexpected argument '--" ++ name ++ "' found"
  match closest? name ["help", "version"] with
  | some l =>
    refuse problem (similarTip "argument" ["--" ++ l]) (some (programName ++ " --" ++ l ++ " <COMMAND>"))
  | none =>
    let offers := [Subcommand.document, Subcommand.schema].filterMap (fun c =>
      match closest? name (c.switches.map (·.long)), later.idxOf? c.name with
      | some l, some pos => some (pos, c.name ++ " --" ++ l)
      | _, _ => none)
    match (offers.mergeSort (fun a b => a.1 ≤ b.1)).head? with
    | some (_, offer) => refuse problem ["'" ++ offer ++ "' exists"] (some topUsage)
    | none => refuse problem [] (some topUsage)

def readCommandLine : List String → Reading Request
  | [] => .error (.refuse topHelpPage)
  | w :: rest =>
    match Subcommand.ofName? w with
    | some c => readSubcommand c rest
    | none =>
      if w == "help" then readHelpWords rest
      else if w == "--" then
        match rest with
        | [] => .error (.refuse topHelpPage)
        | x :: _ =>
          if subcommandNames.contains x then
            refuse ("unexpected argument '" ++ x ++ "' found")
              ["subcommand '" ++ x ++ "' exists; to use it, remove the '--' before it"] (some topUsage)
          else unknownSubcommand x
      else if w.startsWith "--" then
        let (name, attached) := splitAssignment (w.drop 2).toString
        if name == "help" || name == "version" then
          match attached with
          | some v =>
            refuse ("unexpected value '" ++ v ++ "' for '--" ++ name ++ "' found; no more were expected")
              [] (some (programName ++ " --" ++ name ++ " <COMMAND>"))
          | none => .error (.print (if name == "help" then topHelpPage else versionLine))
        else unknownTopLong name rest
      else if w.startsWith "-" && w.length > 1 then
        match (w.drop 1).toString.toList with
        | 'h' :: _ => .error (.print topHelpPage)
        | 'V' :: _ => .error (.print versionLine)
        | l :: _ => refuse ("unexpected argument '-" ++ String.singleton l ++ "' found") [] (some topUsage)
        | [] => unknownSubcommand w
      else unknownSubcommand w

end OpenApiGen.Cli
