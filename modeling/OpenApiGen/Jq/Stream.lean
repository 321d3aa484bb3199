import OpenApiGen.Jq.Error
/-!
Lazy sequences: the outputs of a filter.
-/

namespace OpenApiGen.Jq

/-- A lazily computed finite sequence. -/
inductive LazySeq (α : Type) where
  | nil
  | cons (head : α) (tail : Unit → LazySeq α)
  deriving Inhabited

namespace LazySeq

variable {α β : Type}

def single (x : α) : LazySeq α := cons x fun _ => nil

def ofList : List α → LazySeq α
  | [] => nil
  | x :: rest => cons x fun _ => ofList rest

def appendThen : LazySeq α → (Unit → LazySeq α) → LazySeq α
  | nil, s => s ()
  | cons x rest, s => cons x fun _ => appendThen (rest ()) s

def flatMap : LazySeq α → (α → LazySeq β) → LazySeq β
  | nil, _ => nil
  | cons x rest, f => appendThen (f x) fun _ => flatMap (rest ()) f

def map : LazySeq α → (α → β) → LazySeq β
  | nil, _ => nil
  | cons x rest, f => cons (f x) fun _ => map (rest ()) f

def filter : LazySeq α → (α → Bool) → LazySeq α
  | nil, _ => nil
  | cons x rest, p => if p x then cons x (fun _ => filter (rest ()) p) else filter (rest ()) p

def takeUntil : LazySeq α → (α → Bool) → LazySeq α
  | nil, _ => nil
  | cons x rest, stop => if stop x then nil else cons x fun _ => takeUntil (rest ()) stop

def head? : LazySeq α → Option α
  | nil => none
  | cons x _ => some x

def toList (s : LazySeq α) : List α :=
  go s []
where
  /-- Collects onto a reversed accumulator. -/
  go : LazySeq α → List α → List α
    | nil, acc => acc.reverse
    | cons x rest, acc => go (rest ()) (x :: acc)

def last? (s : LazySeq α) : Option α :=
  go s none
where
  /-- Remembers the latest element seen. -/
  go : LazySeq α → Option α → Option α
    | nil, acc => acc
    | cons x rest, _ => go (rest ()) (some x)

end LazySeq

abbrev Outputs := LazySeq Output

namespace Outputs

variable {α : Type}

def pure (v : Value) : Outputs := .single (.ok v)

def raise (e : Exn) : Outputs := .single (.error e)

def fail (e : JqError) : Outputs := raise (.error e)

def ofExcept (r : Except Exn Value) : Outputs := .single r

def ofResult (r : Except JqError Value) : Outputs :=
  match r with
  | .ok v => pure v
  | .error e => fail e

def flatMapOk {β : Type} (s : LazySeq (Except Exn α)) (f : α → LazySeq (Except Exn β)) :
    LazySeq (Except Exn β) :=
  s.flatMap fun x => match x with
    | .ok v => f v
    | .error e => .single (.error e)

def mapOk {β : Type} (s : LazySeq (Except Exn α)) (f : α → Except Exn β) :
    LazySeq (Except Exn β) :=
  s.map fun x => match x with
    | .ok v => f v
    | .error e => .error e

/-- Every pair of an output on the left and one on the right, the left outermost; an exception
on either side stands for the pair, the left one first. -/
def product (l : Outputs) (r : Unit → Outputs) (f : Value → Value → Output) : Outputs :=
  l.flatMap fun x => (r ()).map fun y =>
    match x, y with
    | .error e, _ => .error e
    | _, .error e => .error e
    | .ok a, .ok b => f a b

/-- Whether an output counts for `//`: a true value or an exception. -/
def counts : Output → Bool
  | .ok v => v.truthy
  | .error _ => true

/-- The outputs of `l` that count for `//`, or those of `r` if there are none. -/
def orElse : Outputs → (Unit → Outputs) → Outputs
  | .nil, r => r ()
  | .cons x rest, r =>
    if counts x then .cons x fun _ => (rest ()).filter counts else orElse (rest ()) r

/-- The outputs up to the first error, then those of the handler on the error's value. -/
def catching : Outputs → (Value → Outputs) → Outputs
  | .nil, _ => .nil
  | .cons (.error (.error e)) _, h => h e.toValue
  | .cons x rest, h => .cons x fun _ => catching (rest ()) h

def untilBreak : Outputs → Nat → Outputs
  | .nil, _ => .nil
  | .cons x rest, id =>
    match x with
    | .error (.breakTo l) => if l == id then .nil else .cons x fun _ => untilBreak (rest ()) id
    | _ => .cons x fun _ => untilBreak (rest ()) id

/-- Folds a state through a sequence: each step may give several states, and each goes on
through the rest in turn; the states left at the end are the outputs. -/
def foldStates {β : Type} : LazySeq (Except Exn β) → (β → Value → Outputs) → Value → Outputs
  | .nil, _, s => pure s
  | .cons (.error e) _, _, _ => raise e
  | .cons (.ok b) rest, step, s => flatMapOk (step b s) fun t => foldStates (rest ()) step t

/-- Like `foldStates`, but yields what `extract` makes of every state as it arises. -/
def scanStates {β : Type} : LazySeq (Except Exn β) → (β → Value → Outputs) →
    (β → Value → Outputs) → Value → Outputs
  | .nil, _, _, _ => .nil
  | .cons (.error e) _, _, _, _ => raise e
  | .cons (.ok b) rest, step, extract, s =>
    flatMapOk (step b s) fun t =>
      (extract b t).appendThen fun _ => scanStates (rest ()) step extract t

def collect (s : LazySeq (Except Exn α)) : Except Exn (List α) :=
  go s []
where
  /-- Collects onto a reversed accumulator. -/
  go : LazySeq (Except Exn α) → List α → Except Exn (List α)
    | .nil, acc => .ok acc.reverse
    | .cons (.ok v) rest, acc => go (rest ()) (v :: acc)
    | .cons (.error e) _, _ => .error e

end Outputs

end OpenApiGen.Jq
