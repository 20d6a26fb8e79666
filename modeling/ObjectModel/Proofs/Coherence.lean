import ObjectModel.Proofs.Construction
import ObjectModel.Proofs.Numbers
import ObjectModel.Proofs.Resolution

set_option autoImplicit false

namespace ObjectModel

inductive Standing where
  | ordered (order : Ordering)
  -- Numbers, one of them a NaN, which are identical or not.
  | unordered (identical : Bool)
  -- Values that can only be told apart.
  | unrelated (same : Bool)
  deriving DecidableEq, Repr

namespace Standing

def ofOrder? : Option Ordering → Bool → Standing
  | some order, _ => ordered order
  | none, identical => unordered identical

def alike : Standing → Bool
  | ordered order => order == .eq
  | unordered identical => identical
  | unrelated same => same

def swap : Standing → Standing
  | ordered order => ordered order.swap
  | standing => standing

def answer? (op : Comparison) : Standing → Option Bool
  | ordered order => some (op.accepts order)
  | unordered _ => some (op.acceptsOrder? none)
  | unrelated same => op.ofEquality? same

@[simp]
theorem answer?_swapped (op : Comparison) (standing : Standing) :
    standing.swap.answer? op.swapped = standing.answer? op := by
  cases standing with
  | ordered order => simp [swap, answer?]
  | unordered identical => cases op <;> rfl
  | unrelated same => cases op <;> rfl

theorem ofOrder?_answer? (order? : Option Ordering) (identical : Bool) (op : Comparison) :
    (ofOrder? order? identical).answer? op = some (op.acceptsOrder? order?) := by
  cases order? <;> rfl

theorem ofOrder?_swap (left right : Numeric) (identical : Bool) :
    ofOrder? (right.ordering? left) identical =
      (ofOrder? (left.ordering? right) identical).swap := by
  rw [Numeric.ordering?_swap]
  cases left.ordering? right <;> rfl

@[simp]
theorem alike_swap (standing : Standing) : standing.swap.alike = standing.alike := by
  cases standing with
  | ordered order => cases order <;> rfl
  | unordered identical => rfl
  | unrelated same => rfl

theorem answer?_ne (standing : Standing) :
    standing.answer? .ne = (standing.answer? .eq).map (!·) := by
  cases standing with
  | ordered order => cases order <;> rfl
  | unordered identical => rfl
  | unrelated same => rfl

theorem answer?_eq_isSome (standing : Standing) : (standing.answer? .eq).isSome = true := by
  cases standing <;> rfl

theorem answer?_of_not_alike {standing : Standing} (different : standing.alike = false)
    {op : Comparison} {answer : Bool} (told : op.ofEquality? false = some answer) :
    standing.answer? op = some answer := by
  have unequal : standing.answer? .eq = some false := by
    cases standing with
    | ordered order => exact congrArg some different
    | unordered identical => rfl
    | unrelated same => exact congrArg some different
  cases op <;> cases told
  case eq => exact unequal
  case ne => rw [answer?_ne, unequal]; rfl

end Standing

@[elab_as_elim]
theorem Value.tuple_induct {motive : Value → Prop}
    (flat : ∀ value, value.items? = Option.none → motive value)
    (tuple : ∀ value items, value.items? = some items → (∀ item ∈ items, motive item) →
      motive value) (value : Value) : motive value := by
  cases held : value.items? with
  | none => exact flat value held
  | some items =>
    apply tuple value items held
    intro item member
    have inner := List.sizeOf_lt_of_mem member
    have outer := Value.sizeOf_items_lt held
    exact tuple_induct flat tuple item
termination_by sizeOf value

-- What comparisons see of a value that is no tuple.
inductive Scalar where
  | number (number : Numeric)
  | text (text : String)
  | slice (bounds : Slice)
  -- Nothing but its identity.
  | other

namespace Value

def scalar : Value → Scalar
  | .bool truth => .number (.int (if truth then 1 else 0))
  | .int number => .number (.int number)
  | .float number => .number (.float number)
  | .str text => .text text
  | .slice _ bounds => .slice bounds
  | _ => .other

theorem scalar_text {value : Value} {text : String} (seen : value.scalar = .text text) :
    value = .str text := by
  cases value <;> cases seen
  rfl

theorem compareImmediate?_eq (left right : Value) (op : Comparison) :
    left.compareImmediate? right op =
      match left.scalar, right.scalar with
      | .number left, .number right => some (op.acceptsOrder? (left.ordering? right))
      | .text left, .text right => some (op.accepts (compare left right))
      | .slice left, .slice right => op.ofEquality? (left = right)
      | _, _ => Option.none := by
  cases left <;> cases right <;> rfl

theorem is_comm (left right : Value) : left.is right = right.is left := by
  rw [Value.is, Value.is, decide_eq_decide]
  exact eq_comm

-- For two values that are not both tuples.
def flatStanding (left right : Value) : Standing :=
  match left.scalar, right.scalar with
  | .number number, .number other => .ofOrder? (number.ordering? other) (left.is right)
  | .text text, .text other => .ordered (compare text other)
  | .slice bounds, .slice other => .unrelated (bounds = other)
  | _, _ => .unrelated (left.is right)

theorem flatStanding_answer? (left right : Value) (op : Comparison) :
    (left.flatStanding right).answer? op =
      (left.compareImmediate? right op).or (op.ofEquality? (left.is right)) := by
  rw [flatStanding, compareImmediate?_eq]
  cases left.scalar <;> cases right.scalar <;> try rfl
  case number.number number other => exact Standing.ofOrder?_answer? _ _ op
  case slice.slice => cases op <;> rfl

theorem compareImmediate?_other {left right : Value}
    (plain : left.scalar = .other ∨ right.scalar = .other) (op : Comparison) :
    left.compareImmediate? right op = Option.none := by
  rw [compareImmediate?_eq]
  rcases plain with plain | plain
  · rw [plain]
  · cases left.scalar <;> simp [plain]

theorem scalar_tuple {value : Value} {items : List Value} (tuple : value.items? = some items) :
    value.scalar = .other := by
  cases value with
  | object inst => rfl
  | _ => cases tuple

theorem compareImmediate?_swapped {left right : Value} {op : Comparison}
    (undecided : left.compareImmediate? right op = Option.none) :
    right.compareImmediate? left op.swapped = Option.none := by
  rw [compareImmediate?_eq] at undecided ⊢
  cases kind : left.scalar <;> cases kind' : right.scalar <;> rw [kind, kind'] at undecided <;>
    try first
    | rfl
    | cases undecided
  -- Slices are left, which have no order.
  cases op <;> first
  | rfl
  | cases undecided

theorem flatStanding_swap (left right : Value) :
    right.flatStanding left = (left.flatStanding right).swap := by
  rw [flatStanding, flatStanding, is_comm]
  cases left.scalar <;> cases right.scalar <;> try rfl
  case number.number number other => exact Standing.ofOrder?_swap _ _ _
  case text.text text other => simp only [Standing.swap, Std.OrientedCmp.eq_swap (a := other)]
  case slice.slice bounds other => simp only [Standing.swap, eq_comm]

mutual

def standing : Value → Value → Standing
  | left@(.object ⟨_, _, _, .tuple items⟩), right =>
    match right.items? with
    | some others => standingOfItems items others
    | Option.none => left.flatStanding right
  | left, right => left.flatStanding right

-- The first pair of items that are not alike decides, or else the lengths.
def standingOfItems : List Value → List Value → Standing
  | [], [] => .ordered .eq
  | [], _ :: _ => .ordered .lt
  | _ :: _, [] => .ordered .gt
  | item :: items, other :: others =>
    if (item.standing other).alike then standingOfItems items others else item.standing other

end

theorem standing_eq (left right : Value) :
    left.standing right =
      match left.items?, right.items? with
      | some items, some others => standingOfItems items others
      | _, _ => left.flatStanding right := by
  cases left with
  | object inst =>
    obtain ⟨serial, type, store, payload⟩ := inst
    cases payload with
    | empty => rfl
    | tuple items =>
      rw [standing]
      cases right.items? <;> rfl
  | _ => rfl

theorem standing_tuple {left right : Value} {items others : List Value}
    (tuple : left.items? = some items) (tuple' : right.items? = some others) :
    left.standing right = standingOfItems items others := by
  rw [standing_eq, tuple, tuple']

theorem standing_flat {left right : Value}
    (flat : left.items? = Option.none ∨ right.items? = Option.none) :
    left.standing right = left.flatStanding right := by
  rw [standing_eq]
  rcases flat with flat | flat
  · rw [flat]
  · cases left.items? <;> rw [flat]

theorem standingOfItems_swap {items : List Value}
    (swaps : ∀ item ∈ items, ∀ other, other.standing item = (item.standing other).swap)
    (others : List Value) :
    standingOfItems others items = (standingOfItems items others).swap := by
  induction items generalizing others with
  | nil => cases others <;> rfl
  | cons item items ih =>
    cases others with
    | nil => rfl
    | cons other others =>
      have rest := ih (fun item member => swaps item (List.mem_cons_of_mem _ member)) others
      rw [standingOfItems, standingOfItems, swaps item List.mem_cons_self, rest,
        Standing.alike_swap]
      split <;> rfl

theorem standing_swap (left right : Value) : right.standing left = (left.standing right).swap := by
  induction left using Value.tuple_induct generalizing right with
  | flat left held =>
    rw [standing_flat (.inl held), standing_flat (.inr held)]
    exact flatStanding_swap left right
  | tuple left items held ih =>
    cases held' : right.items? with
    | none =>
      rw [standing_flat (.inl held'), standing_flat (.inr held')]
      exact flatStanding_swap left right
    | some others =>
      rw [standing_tuple held held', standing_tuple held' held]
      exact standingOfItems_swap ih others

end Value

inductive Content where
  -- In units of `2 ^ (-1074)`.
  | number (units : Int)
  | slice (bounds : Slice)
  | items (items : List Content)
  -- A NaN is one of these.
  | itself (value : Value)

namespace Value

def flatContent (value : Value) : Content :=
  match value.scalar with
  | .number number => (number.units?.map Content.number).getD (.itself value)
  | .slice bounds => .slice bounds
  | _ => .itself value

mutual

def content : Value → Content
  | .object ⟨_, _, _, .tuple items⟩ => .items (contents items)
  | value => value.flatContent

def contents : List Value → List Content
  | [] => []
  | item :: items => item.content :: contents items

end

theorem content_eq (value : Value) :
    value.content =
      match value.items? with
      | some items => .items (contents items)
      | Option.none => value.flatContent := by
  cases value with
  | object inst =>
    obtain ⟨serial, type, store, payload⟩ := inst
    cases payload <;> rfl
  | _ => rfl

theorem flatStanding_self (value : Value) : (value.flatStanding value).alike = true := by
  rw [flatStanding]
  cases value.scalar with
  | number number =>
    simp only [Numeric.ordering?_eq]
    cases number.units? <;> simp [Standing.ofOrder?, Standing.alike]
  | text text => simp [Standing.alike]
  | slice bounds => simp [Standing.alike]
  | other => simp [Standing.alike]

theorem flatStanding_alike (left right : Value) :
    (left.flatStanding right).alike = true ↔ left.flatContent = right.flatContent := by
  by_cases same : left = right
  · subst same
    exact iff_of_true left.flatStanding_self rfl
  have apart : left.is right = false := by simp [is, same]
  rw [flatStanding, flatContent, flatContent, apart]
  cases seen : left.scalar <;> cases seen' : right.scalar <;> simp [Standing.alike, same]
  case number.number number other =>
    rw [Numeric.ordering?_eq]
    cases number.units? <;> cases other.units? <;> simp [Standing.ofOrder?, same]
  case text.text text other =>
    intro equal
    rw [scalar_text seen, scalar_text seen', equal] at same
    exact same rfl
  all_goals cases Numeric.units? _ <;> simp [same]

theorem flatContent_ne_items (value : Value) (items : List Content) :
    value.flatContent ≠ .items items := by
  rw [flatContent]
  cases value.scalar with
  | number number => cases found : number.units? <;> simp [found]
  | text text => simp
  | slice bounds => simp
  | other => simp

theorem flatStanding_tuple {left right : Value} {items : List Value}
    (tuple : left.items? = some items) (notTuple : right.items? = Option.none) :
    left.flatStanding right = .unrelated false := by
  have apart : left ≠ right := by
    rintro rfl
    cases tuple.symm.trans notTuple
  simp [flatStanding, scalar_tuple tuple, is, apart]

theorem standing_alike_flat {left right : Value}
    (flat : left.items? = Option.none ∨ right.items? = Option.none) :
    (left.standing right).alike = true ↔ left.content = right.content := by
  rw [standing_flat flat, content_eq left, content_eq right]
  cases held : left.items? with
  | none =>
    cases held' : right.items? with
    | none => exact flatStanding_alike left right
    | some others =>
      rw [flatStanding_swap, flatStanding_tuple held' held]
      simp [Standing.alike, Standing.swap, flatContent_ne_items]
  | some items =>
    have held' : right.items? = Option.none := by simpa [held] using flat
    rw [held', flatStanding_tuple held held']
    simp [Standing.alike, (flatContent_ne_items _ _).symm]

theorem standingOfItems_alike {items : List Value}
    (alike : ∀ item ∈ items, ∀ other,
      (item.standing other).alike = true ↔ item.content = other.content) (others : List Value) :
    (standingOfItems items others).alike = true ↔ contents items = contents others := by
  induction items generalizing others with
  | nil => cases others <;> simp [standingOfItems, contents, Standing.alike]
  | cons item items ih =>
    cases others with
    | nil => simp [standingOfItems, contents, Standing.alike]
    | cons other others =>
      have rest := ih (fun item member => alike item (List.mem_cons_of_mem _ member)) others
      rw [standingOfItems, contents, contents, List.cons.injEq, ← alike item List.mem_cons_self,
        ← rest]
      split <;> simp_all

theorem standing_alike (left right : Value) :
    (left.standing right).alike = true ↔ left.content = right.content := by
  induction left using Value.tuple_induct generalizing right with
  | flat left held => exact standing_alike_flat (.inl held)
  | tuple left items held ih =>
    cases held' : right.items? with
    | none => exact standing_alike_flat (.inr held')
    | some others =>
      rw [standing_tuple held held', content_eq left, content_eq right, held, held',
        Content.items.injEq]
      exact standingOfItems_alike ih others

theorem standingOfItems_ne_unordered (items others : List Value) :
    standingOfItems items others ≠ .unordered true := by
  induction items generalizing others with
  | nil => cases others <;> simp [standingOfItems]
  | cons item items ih =>
    cases others with
    | nil => simp [standingOfItems]
    | cons other others =>
      rw [standingOfItems]
      split
      · exact ih others
      · intro same
        simp_all [Standing.alike]

theorem flatStanding_unordered {left right : Value}
    (identical : left.flatStanding right = .unordered true) : left = right := by
  rw [flatStanding] at identical
  split at identical
  case h_1 number other _ _ =>
    cases found : number.ordering? other <;> simp_all [Standing.ofOrder?]
  all_goals cases identical

-- Again for two values that are not both tuples.
def slotAnswer? (left right : Value) (op : Comparison) : Option Bool :=
  match left.items? with
  | some _ => op.ofEquality? false
  | Option.none => left.compareImmediate? right op

theorem flatStanding_slots {left right : Value} {op : Comparison}
    (flat : left.items? = Option.none ∨ right.items? = Option.none) :
    (left.flatStanding right).answer? op =
      ((left.slotAnswer? right op).or (right.slotAnswer? left op.swapped)).or
        (op.ofEquality? (left.is right)) := by
  rw [slotAnswer?, slotAnswer?]
  cases tuple : left.items? with
  | some items =>
    have notTuple : right.items? = Option.none := by simpa [tuple] using flat
    rw [flatStanding_tuple tuple notTuple, notTuple]
    simp only [compareImmediate?_other (.inr (scalar_tuple tuple))]
    cases op <;> simp [Standing.answer?, Comparison.ofEquality?]
  | none =>
    cases tuple' : right.items? with
    | some others =>
      rw [flatStanding_swap, flatStanding_tuple tuple' tuple]
      simp only [compareImmediate?_other (.inr (scalar_tuple tuple'))]
      cases op <;> simp [Standing.swap, Standing.answer?, Comparison.ofEquality?,
        Comparison.swapped]
    | none =>
      rw [flatStanding_answer?]
      cases undecided : left.compareImmediate? right op with
      | some answer => rfl
      | none => simp [compareImmediate?_swapped undecided]

theorem answer?_eq_of_ne {left right : Value} (apart : left ≠ right) :
    (left.standing right).answer? .eq = some (left.standing right).alike := by
  cases found : left.standing right with
  | ordered order => cases order <;> rfl
  | unrelated same => rfl
  | unordered identical =>
    cases identical with
    | false => rfl
    | true =>
      rw [standing_eq] at found
      split at found
      · exact absurd found (standingOfItems_ne_unordered _ _)
      · exact absurd (flatStanding_unordered found) apart

end Value

inductive Value.Nested : Value → Value → Prop where
  | self (value : Value) : Nested value value
  | item {value item inner : Value} {items : List Value} (tuple : value.items? = some items)
    (member : item ∈ items) (nested : Nested item inner) : Nested value inner

theorem Value.Nested.eq_of_flat {value inner : Value} (nested : value.Nested inner)
    (flat : value.items? = Option.none) : inner = value := by
  cases nested with
  | self => rfl
  | item tuple member nested => cases flat.symm.trans tuple

namespace World

/-- No instance inside the value has a say in comparisons by the operator, which also ask for
equality and for the operator with its operands exchanged. -/
def Silent (world : World) (op : Comparison) (value : Value) : Prop :=
  ∀ inner, value.Nested inner → inner.isInstance = true →
    ∀ asked ∈ [.eq, op, op.swapped], world.lookup (world.typeOf inner) asked.method = none

-- The value's own type has no say; what the value holds may have one.
def Undefined (world : World) (op : Comparison) (value : Value) : Prop :=
  value.isInstance = true → world.lookup (world.typeOf value) op.method = none

variable {world : World} {op : Comparison} {value item : Value} {items : List Value}

theorem Silent.undefined (silent : world.Silent op value) : world.Undefined op value :=
  fun isInstance => silent value (.self value) isInstance op (by simp)

theorem Silent.of_item (silent : world.Silent op value) (tuple : value.items? = some items)
    (member : item ∈ items) : world.Silent op item :=
  fun inner nested => silent inner (.item tuple member nested)

theorem Silent.eq (silent : world.Silent op value) : world.Silent .eq value := by
  intro inner nested isInstance asked given
  have same : asked = .eq := by simpa [Comparison.swapped] using given
  exact silent inner nested isInstance asked (by simp [same])

theorem Silent.swapped (silent : world.Silent op value) : world.Silent op.swapped value := by
  intro inner nested isInstance asked given
  exact silent inner nested isInstance asked (by simp_all; tauto)

end World

namespace Eval

variable {σ : Type} {operation : Eval σ Bool} {held : Roots} {state : State σ}

def Settles (operation : Eval σ Bool) (held : Roots) (state : State σ) (answer? : Option Bool) :
    Prop :=
  ∃ text, operation held state = .done (answer?.elim (.error (.typeMismatch text)) .ok) state

theorem settles_some {answer : Bool} :
    operation.Settles held state (some answer) ↔
      operation held state = .done (.ok answer) state :=
  ⟨fun ⟨_, done⟩ => done, fun done => ⟨"", done⟩⟩

theorem settles_none :
    operation.Settles held state none ↔
      ∃ text, operation held state = .done (.error (.typeMismatch text)) state :=
  Iff.rfl

end Eval

namespace Engine

variable {σ : Type} {engine : Engine σ} {state : State σ}

theorem callSpecial_absent {receiver : Value} {name : String}
    (absent : state.world.lookup (state.world.typeOf receiver) name = none)
    (positional : List Value) (held : Roots) :
    engine.callSpecial receiver name positional held state = .done (.ok none) state := by
  rw [callSpecial, lookupSpecial, bind_assoc, Eval.world_bind_apply]
  simp only [absent]
  rfl

theorem slotCompare_apply {left : Value} {op : Comparison}
    (undefined : state.world.Undefined op left) (right : Value) (held : Roots) :
    engine.slotCompare left right op held state =
      match left.items? with
      | some items => engine.tupleCompare items right op held state
      | none => .done (.ok (left.compareImmediate? right op)) state := by
  rw [slotCompare]
  cases left with
  | object inst =>
    rw [Value.isInstance, if_pos rfl, Eval.bind_apply, callSpecial_absent (undefined rfl)]
    obtain ⟨serial, type, store, payload⟩ := inst
    cases payload <;> rfl
  | _ => rfl

theorem tupleCompare_eq (items : List Value) (right : Value) (op : Comparison) :
    engine.tupleCompare items right op =
      match right.items? with
      | some others => do return some (← engine.compareItems items others op)
      | none => pure (op.ofEquality? false) := by
  rw [tupleCompare]
  split
  · next flat => rw [flat]
  · next others tuple => rw [tuple]

theorem slotCompare_flat {left right : Value} {op : Comparison}
    (undefined : state.world.Undefined op left) (flat : left.items? = none ∨ right.items? = none)
    (held : Roots) :
    engine.slotCompare left right op held state =
      .done (.ok (left.slotAnswer? right op)) state := by
  rw [slotCompare_apply undefined, Value.slotAnswer?]
  cases tuple : left.items? with
  | none => rfl
  | some items =>
    have notTuple : right.items? = none := by simpa [tuple] using flat
    dsimp only
    rw [tupleCompare_eq, notTuple]
    rfl

theorem richCompare_flat {left right : Value} {op : Comparison}
    (undefined : state.world.Undefined op left)
    (undefined' : state.world.Undefined op.swapped right)
    (flat : left.items? = none ∨ right.items? = none) (held : Roots) :
    (engine.richCompare left right op).Settles held state
      ((left.flatStanding right).answer? op) := by
  rw [Value.flatStanding_slots flat]
  refine ⟨(Error.unordered op.symbol (state.world.typeName left)
    (state.world.typeName right)).message, ?_⟩
  rw [richCompare, Eval.bind_apply, slotCompare_flat undefined flat]
  cases left.slotAnswer? right op with
  | some answer => rfl
  | none =>
    dsimp only
    rw [Eval.bind_apply, slotCompare_flat undefined' flat.symm]
    cases right.slotAnswer? left op.swapped with
    | some answer => rfl
    | none => cases op.ofEquality? (left.is right) <;> rfl

theorem containerCompare_of_ne {left right : Value} (apart : left ≠ right) (op : Comparison) :
    engine.containerCompare left right op = engine.richCompare left right op := by
  rw [containerCompare]
  simp [Value.is, apart]

theorem equal_of_settles {left right : Value} {held : Roots}
    (settled : (engine.richCompare left right .eq).Settles held state
      ((left.standing right).answer? .eq)) :
    engine.equal left right held state = .done (.ok (left.standing right).alike) state := by
  by_cases same : left = right
  · subst same
    rw [(left.standing_alike left).mpr rfl, equal, containerCompare]
    simp [Comparison.ofEquality?]
  · rw [equal, containerCompare_of_ne same]
    rwa [Value.answer?_eq_of_ne same, Eval.settles_some] at settled

theorem richCompare_of_items {left right : Value} {items others : List Value} {op : Comparison}
    {held : Roots} {answer? : Option Bool} (undefined : state.world.Undefined op left)
    (tuple : left.items? = some items) (tuple' : right.items? = some others)
    (settled : (engine.compareItems items others op).Settles held state answer?) :
    (engine.richCompare left right op).Settles held state answer? := by
  obtain ⟨text, done⟩ := settled
  refine ⟨text, ?_⟩
  rw [richCompare, Eval.bind_apply, slotCompare_apply undefined, tuple]
  dsimp only
  rw [tupleCompare_eq, tuple']
  dsimp only
  rw [Eval.bind_apply, done]
  cases answer? <;> rfl

theorem compareItems_settles {items : List Value} {held : Roots}
    (settles : ∀ item ∈ items, ∀ other op, state.world.Silent op item →
      state.world.Silent op other →
      (engine.richCompare item other op).Settles held state ((item.standing other).answer? op))
    {others : List Value} {op : Comparison} (silent : ∀ item ∈ items, state.world.Silent op item)
    (silent' : ∀ other ∈ others, state.world.Silent op other) :
    (engine.compareItems items others op).Settles held state
      ((Value.standingOfItems items others).answer? op) := by
  induction items generalizing others with
  | nil =>
    cases others <;> rw [compareItems] <;> exact Eval.settles_some.mpr rfl
  | cons item items ih =>
    cases others with
    | nil =>
      rw [compareItems]
      exact Eval.settles_some.mpr rfl
    | cons other others =>
      have quiet := silent item List.mem_cons_self
      have quiet' := silent' other List.mem_cons_self
      have decided := settles item List.mem_cons_self other op quiet quiet'
      have equal := equal_of_settles (settles item List.mem_cons_self other .eq quiet.eq quiet'.eq)
      rw [Eval.Settles, compareItems, Eval.bind_apply, ← Engine.equal, equal,
        Value.standingOfItems]
      cases alike : (item.standing other).alike with
      | true =>
        exact ih (fun item member => settles item (List.mem_cons_of_mem _ member))
          (fun item member => silent item (List.mem_cons_of_mem _ member))
          (fun other member => silent' other (List.mem_cons_of_mem _ member))
      | false =>
        rw [if_neg Bool.false_ne_true]
        dsimp only
        rw [if_neg Bool.false_ne_true]
        cases told : op.ofEquality? false with
        | some answer =>
          rw [Standing.answer?_of_not_alike alike told]
          exact Eval.settles_some.mpr rfl
        | none =>
          -- Identical items are alike, so the container leaves these two to themselves.
          have apart : item ≠ other := by
            rintro rfl
            simp [(item.standing_alike item).mpr rfl] at alike
          simp only [containerCompare_of_ne apart]
          exact decided

theorem richCompare_settles (left right : Value) {op : Comparison}
    (silent : state.world.Silent op left) (silent' : state.world.Silent op right) (held : Roots) :
    (engine.richCompare left right op).Settles held state ((left.standing right).answer? op) := by
  induction left using Value.tuple_induct generalizing right op with
  | flat left flat =>
    rw [Value.standing_flat (.inl flat)]
    exact richCompare_flat silent.undefined silent'.swapped.undefined (.inl flat) held
  | tuple left items tuple ih =>
    cases tuple' : right.items? with
    | none =>
      rw [Value.standing_flat (.inr tuple')]
      exact richCompare_flat silent.undefined silent'.swapped.undefined (.inr tuple') held
    | some others =>
      rw [Value.standing_tuple tuple tuple']
      apply richCompare_of_items silent.undefined tuple tuple'
      exact compareItems_settles (fun item member other op => ih item member other)
        (fun _ => silent.of_item tuple) (fun _ => silent'.of_item tuple')

theorem equal_apply {left right : Value} (silent : state.world.Silent .eq left)
    (silent' : state.world.Silent .eq right) (held : Roots) :
    engine.equal left right held state = .done (.ok (left.standing right).alike) state :=
  equal_of_settles (richCompare_settles left right silent silent' held)

theorem equal_true_iff {left right : Value} (silent : state.world.Silent .eq left)
    (silent' : state.world.Silent .eq right) (held : Roots) :
    engine.equal left right held state = .done (.ok true) state ↔ left.content = right.content := by
  rw [equal_apply silent silent' held, ← left.standing_alike right]
  simp

structure Coherent (engine : Engine σ) (held : Roots) (state : State σ) (a b c : Value) : Prop where
  answered : ∃ same, engine.equal a b held state = .done (.ok same) state
  reflexive : engine.equal a a held state = .done (.ok true) state
  symmetric : engine.equal b a held state = engine.equal a b held state
  transitive : engine.equal a b held state = .done (.ok true) state →
    engine.equal b c held state = .done (.ok true) state →
    engine.equal a c held state = .done (.ok true) state
  negated : ∃ same, engine.richCompare a b .eq held state = .done (.ok same) state ∧
    engine.richCompare a b .ne held state = .done (.ok !same) state
  -- Type names are exchanged in the text of a failure, and the operator is swapped there.
  exchanged : ∀ op,
    (∃ answer, engine.richCompare a b op held state = .done (.ok answer) state ∧
      engine.richCompare b a op.swapped held state = .done (.ok answer) state) ∨
    ∃ text text', engine.richCompare a b op held state = .done (.error (.typeMismatch text)) state ∧
      engine.richCompare b a op.swapped held state = .done (.error (.typeMismatch text')) state

/-- Comparisons that no type defines itself are coherent. -/
theorem comparison_coherent (engine : Engine σ) (held : Roots) (state : State σ) (a b c : Value)
    (silentA : ∀ op, state.world.Silent op a) (silentB : ∀ op, state.world.Silent op b)
    (silentC : ∀ op, state.world.Silent op c) : engine.Coherent held state a b c where
  answered := ⟨_, equal_apply (silentA .eq) (silentB .eq) held⟩
  reflexive := (equal_true_iff (silentA .eq) (silentA .eq) held).mpr rfl
  symmetric := by
    rw [equal_apply (silentA .eq) (silentB .eq) held, equal_apply (silentB .eq) (silentA .eq) held,
      a.standing_swap b, Standing.alike_swap]
  transitive first second := by
    rw [equal_true_iff (silentA .eq) (silentB .eq)] at first
    rw [equal_true_iff (silentB .eq) (silentC .eq)] at second
    exact (equal_true_iff (silentA .eq) (silentC .eq) held).mpr (first.trans second)
  negated := by
    obtain ⟨same, told⟩ := Option.isSome_iff_exists.mp (a.standing b).answer?_eq_isSome
    have settled : (engine.richCompare a b .eq).Settles held state _ :=
      richCompare_settles a b (silentA .eq) (silentB .eq) held
    have settled' : (engine.richCompare a b .ne).Settles held state _ :=
      richCompare_settles a b (silentA .ne) (silentB .ne) held
    rw [Standing.answer?_ne, told] at settled'
    rw [told] at settled
    exact ⟨same, Eval.settles_some.mp settled, Eval.settles_some.mp settled'⟩
  exchanged op := by
    have settled : (engine.richCompare a b op).Settles held state _ :=
      richCompare_settles a b (silentA op) (silentB op) held
    have settled' : (engine.richCompare b a op.swapped).Settles held state _ :=
      richCompare_settles b a (silentB op.swapped) (silentA op.swapped) held
    rw [a.standing_swap b, Standing.answer?_swapped] at settled'
    cases told : (a.standing b).answer? op with
    | some answer =>
      rw [told, Eval.settles_some] at settled settled'
      exact .inl ⟨answer, settled, settled'⟩
    | none =>
      rw [told, Eval.settles_none] at settled settled'
      obtain ⟨text, failed⟩ := settled
      obtain ⟨text', failed'⟩ := settled'
      exact .inr ⟨text, text', failed, failed'⟩

theorem comparison_coherent_nan :
    (idleHost.engine {} 1 1).Coherent {} ⟨World.initial, ()⟩
      (.object ⟨300, Builtin.tuple.key, none, .tuple [.bool true, .float ⟨0x7ff8000000000000⟩]⟩)
      (.object ⟨301, Builtin.tuple.key, none, .tuple [.int 1, .float ⟨0x7ff8000000000000⟩]⟩)
      (.object ⟨302, Builtin.tuple.key, none, .tuple [.int 1, .str "one"]⟩) := by
  have silent (serial : Nat) (items : List Value)
      (flat : ∀ item ∈ items, item.items? = none ∧ item.isInstance = false) (op : Comparison) :
      World.initial.Silent op (.object ⟨serial, Builtin.tuple.key, none, .tuple items⟩) := by
    intro inner nested isInstance asked _
    cases nested with
    | self => cases asked <;> rfl
    | item tuple member nested =>
      cases tuple
      obtain ⟨noItems, notInstance⟩ := flat _ member
      rw [nested.eq_of_flat noItems, notInstance] at isInstance
      cases isInstance
  apply comparison_coherent
  all_goals
    apply silent
    simp [Value.items?, Value.isInstance]

end Engine

end ObjectModel
