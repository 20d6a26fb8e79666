import ObjectModel.Attribute

set_option autoImplicit false

namespace ObjectModel

def forwardHint (size position : Nat) : Nat :=
  size - position

def backwardHint (position : Nat) : Nat :=
  position

namespace Engine

variable {σ : Type}

def iterate (kind : IteratorKind) (items : List Value) : Eval σ Value :=
  Eval.create fun world => world.newIterator kind (.start items)

/-- Takes the next value of a built-in iterator. A change of the store that it watches is no matter
once nothing keeps the store alive. -/
def advance (engine : Engine σ) (cursor : CursorKey) : Eval σ (Option Value) := do
  if (← Eval.world).watchesChange cursor then engine.release cursor
  Eval.ofExcept (← Eval.create (·.advance cursor))

def iter (engine : Engine σ) (value : Value) : Eval σ Value := do
  match value with
  | .iterator .. => return value
  | .str text => iterate .str (text.toList.map fun character => .str (String.singleton character))
  | .object _ =>
    match ← engine.callSpecial value "__iter__" [] with
    | some iterator => return iterator
    | none => .failFor value .notIterable
  | _ => .failFor value .notIterable

def next (engine : Engine σ) (iterator : Value) : Eval σ (Option Value) := do
  match iterator with
  | .iterator cursor _ => engine.advance cursor
  | _ =>
    let answer ← try some <$> engine.callSpecial iterator "__next__" [] catch error =>
      if error.isStopIteration then pure none else throw error
    match answer with
    | none => return none
    | some (some value) => return some value
    | some none => .failFor iterator .notAnIterator

/-- How many values a loop over an iterator may take: a built-in iterator gives no more than it
announces, and any other one is trusted for as long as the engine has patience. -/
def roundsFor (engine : Engine σ) (iterator : Value) : Eval σ Nat := do
  match iterator with
  | .iterator cursor _ => return (← Eval.world).lengthHint cursor + 1
  | _ => return engine.patience

def takeAll (engine : Engine σ) (iterator : Value) : Nat → List Value → Eval σ (List Value)
  | 0, _ => .exhausted
  | rounds + 1, taken => do
    match ← engine.next iterator with
    | none => return taken.reverse
    | some value => Eval.holding [value] (engine.takeAll iterator rounds (value :: taken))

def collect (engine : Engine σ) (iterable : Value) : Eval σ (List Value) := do
  match (← Eval.world).exactItems? iterable with
  | some items => return items
  | none =>
    let iterator ← engine.iter iterable
    Eval.holding [iterator] (engine.takeAll iterator (← engine.roundsFor iterator) [])

def reversed (engine : Engine σ) (value : Value) : Eval σ Value := do
  match ← engine.callSpecial value "__reversed__" [] with
  | some iterator => return iterator
  | none => .failFor value .notReversible

end Engine

end ObjectModel
