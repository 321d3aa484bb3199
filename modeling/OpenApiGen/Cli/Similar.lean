/-!
# Similar words

When a word on the command line names nothing, the words it resembles are offered instead. Two
words resemble each other when their Jaro similarity passes `0.7`. Jaro similarity counts the
characters the words share within a window of half the longer word, and the shared characters
that come out of order; it is `1` for equal words and `0` for words that share nothing.
-/

namespace OpenApiGen.Cli

/-- The first position in `[lo, hi)` where `ys` holds `c` and `taken` is still free. -/
def freeMatch (ys : Array Char) (taken : Array Bool) (c : Char) (lo hi : Nat) : Option Nat :=
  (List.range' lo (hi - lo)).find? (fun j => ys.getD j ' ' == c && !taken.getD j true)

def flagged (xs : List Char) (flags : Array Bool) : List Char :=
  (xs.zipIdx.filter (fun (_, i) => flags.getD i false)).map Prod.fst

def mismatches : List Char → List Char → Nat
  | x :: xs, y :: ys => (if x == y then 0 else 1) + mismatches xs ys
  | _, _ => 0

def jaro (a b : String) : Float :=
  let xs := a.toList
  let ys := b.toList.toArray
  let la := xs.length
  let lb := ys.size
  if la == 0 && lb == 0 then 1.0
  else if la == 0 || lb == 0 then 0.0
  else
    let range := max la lb / 2 - 1
    let step (acc : Array Bool × Array Bool × Nat) (ci : Char × Nat) :=
      let (aFlags, bFlags, m) := acc
      let (c, i) := ci
      match freeMatch ys bFlags c (i - range) (min lb (i + range + 1)) with
      | some j => (aFlags.set! i true, bFlags.set! j true, m + 1)
      | none => acc
    let (aFlags, bFlags, m) :=
      xs.zipIdx.foldl step (Array.replicate la false, Array.replicate lb false, 0)
    if m == 0 then 0.0
    else
      let t := mismatches (flagged xs aFlags) (flagged ys.toList bFlags) / 2
      let mf := m.toFloat
      ((mf / la.toFloat + mf / lb.toFloat) + (m - t).toFloat / mf) / 3.0

def resembling (word : String) (candidates : List String) : List String :=
  let scored := (candidates.map (fun c => (jaro word c, c))).filter (fun p => p.1 > 0.7)
  (scored.mergeSort (fun p q => p.1 <= q.1)).map Prod.snd

def closest? (word : String) (candidates : List String) : Option String :=
  (resembling word candidates).getLast?

end OpenApiGen.Cli
