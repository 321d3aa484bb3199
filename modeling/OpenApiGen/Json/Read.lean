import OpenApiGen.Json.Scan

/-!
Reading JSON values from text, and the container steps that typed decoders share.
-/

namespace OpenApiGen

namespace Scan

/-- Before an item: `true` when one follows (the cursor then stands on it), `false` at `]`. -/
def nextItem (first : Bool) : Scan Bool := do
  let peeked ← do
    match ← skipBlank with
    | some 93 => pure none
    | some 44 =>
      if first then pure (some (some 44))
      else do eat; pure (some (← skipBlank))
    | some b => if first then pure (some (some b)) else failAhead .expectedListCommaOrEnd
    | none => failAhead .eofList
  match peeked with
  | none => pure false
  | some (some 93) => failAhead .trailingComma
  | some (some _) => pure true
  | some none => failAhead .eofValue

def endSeq : Scan Unit := do
  match ← skipBlank with
  | some 93 => eat
  | some 44 => do
    eat
    match ← skipBlank with
    | some 93 => failAhead .trailingComma
    | _ => failAhead .trailingCharacters
  | some _ => failAhead .trailingCharacters
  | none => failAhead .eofList

def nextKey (first : Bool) : Scan (Option String) := do
  let peeked ← do
    match ← skipBlank with
    | some 125 => pure none
    | some 44 =>
      if first then pure (some (some 44))
      else do eat; pure (some (← skipBlank))
    | some b => if first then pure (some (some b)) else failAhead .expectedObjectCommaOrEnd
    | none => failAhead .eofObject
  match peeked with
  | none => pure none
  | some (some 34) => do eat; return some (← string)
  | some (some 125) => failAhead .trailingComma
  | some (some _) => failAhead .keyMustBeString
  | some none => failAhead .eofValue

def colon : Scan Unit := do
  match ← skipBlank with
  | some 58 => eat
  | some _ => failAhead .expectedColon
  | none => failAhead .eofObject

def endMap : Scan Unit := do
  match ← skipBlank with
  | some 125 => eat
  | some 44 => failAhead .trailingComma
  | some _ => failAhead .trailingCharacters
  | none => failAhead .eofObject

/-- Items read by `item i` until `]`; `fuel` bounds the bytes left. -/
def items (item : Nat → Scan α) : Nat → Nat → List α → Scan (List α)
  | 0, _, acc => pure acc.reverse
  | fuel + 1, i, acc => do
    if ← nextItem (i == 0) then
      let v ← mapError (DecodeError.within (.index i)) (item i)
      items item fuel (i + 1) (v :: acc)
    else pure acc.reverse

/-- Fields folded by `step` until `}`: `step` reads the colon and the value of a key. -/
def fields (step : σ → String → Scan σ) : Nat → Bool → σ → Scan σ
  | 0, _, st => pure st
  | fuel + 1, first, st => do
    match ← mapError (DecodeError.within .unknown) (nextKey first) with
    | none => pure st
    | some k =>
      let st' ← mapError (DecodeError.within (.key k)) (step st k)
      fields step fuel false st'

/-- Enter a container at its opening byte (room for it already checked): consume the byte, run
`body`, then `close` whatever happened inside. -/
def enter (body : Scan α) (close : Scan Unit) : Scan α := do
  eat
  thenAlways (do let v ← body; close; pure v) close

/-- A value read as the failing place unless a deeper one fails. -/
def atValue (act : Scan α) : Scan α := mapError DecodeError.markHere (fixing act)

def value (room : Nat) : Scan Json := atValue (do
  match ← skipBlank with
  | none => failAhead .eofValue
  | some b =>
    if b == 110 then do eat; ident [117, 108, 108]; pure .null
    else if b == 116 then do eat; ident [114, 117, 101]; pure (.bool true)
    else if b == 102 then do eat; ident [97, 108, 115, 101]; pure (.bool false)
    else if b == 45 then do eat; return .number (← number false)
    else if 48 ≤ b && b ≤ 57 then return .number (← number true)
    else if b == 34 then do eat; return .string (← string)
    else if b == 91 then
      match h : room with
      | 0 | 1 => failAhead .recursionLimit
      | r + 2 =>
        enter (withRemaining (fun fuel => do
          return .array (← items (fun _ => value (r + 1)) fuel 0 []))) endSeq
    else if b == 123 then
      match h : room with
      | 0 | 1 => failAhead .recursionLimit
      | r + 2 =>
        enter (withRemaining (fun fuel => do
          let step (acc : List (String × Json)) (k : String) : Scan (List (String × Json)) := do
            colon
            return (k, ← value (r + 1)) :: acc
          return .object (← fields step fuel true []).reverse)) endMap
    else failAhead .expectedValue)
termination_by room
decreasing_by all_goals omega

end Scan

namespace Json

def textRoom : Nat := 128

/-- The first value of a text, what follows it ignored; repeated keys folded. The failure carries
the path to the failing value. -/
def readPrefix (text : String) : Except DecodeError Json :=
  match Scan.value textRoom (Cursor.ofString text) with
  | .ok v _ => .ok v.normalize
  | .error e _ => .error e

def parse (text : String) : Except DecodeError Json :=
  let whole : Scan Json := do
    let v ← Scan.value textRoom
    match ← Scan.skipBlank with
    | some _ => Scan.failAhead .trailingCharacters
    | none => pure v
  match whole (Cursor.ofString text) with
  | .ok v _ => .ok v.normalize
  | .error e _ => .error e

end Json

end OpenApiGen
