import Mathlib.Data.Fintype.Card
import Mathlib.Data.Nat.Find
import ObjectModel.Proofs.Nesting

/-!
# Dispatches that end

A dispatch need not end: an instance may answer `__bool__` with itself, or be what its own type
defines as `__call__`. It ends exactly if the dispatches nested in it do not go ever deeper, and
otherwise gives no answer on any budget. A chain of callable instances asks one type after the other
for `__call__`, so that it ends before a type comes up twice or not at all.
-/

set_option autoImplicit false

namespace ObjectModel

namespace World

def GivesPlain (world : World) (name : String) : Prop :=
  ∀ type descriptor, world.lookup type name ≠ some (.descriptor descriptor)

-- The type that is asked for `__call__` after this one, unless the call ends here.
def calledNext? (world : World) (type : TypeKey) : Option TypeKey :=
  ((world.lookup type "__call__").filter fun found => !found.isNone && !found.runsItself).map
    world.typeOf

def CallsWithin (world : World) : Nat → TypeKey → Prop
  | 0, type => world.calledNext? type = none
  | steps + 1, type => ∀ next, world.calledNext? type = some next → world.CallsWithin steps next

def CallsExactly (world : World) (steps : Nat) (type : TypeKey) : Prop :=
  world.CallsWithin steps type ∧ ∀ fewer < steps, ¬ world.CallsWithin fewer type

variable {world : World} {type next : TypeKey} {steps others : Nat} {name : String} {found : Value}

theorem calledNext?_eq_some_iff : world.calledNext? type = some next ↔
    ∃ found, world.lookup type "__call__" = some found ∧ found.isNone = false ∧
      found.runsItself = false ∧ world.typeOf found = next := by
  simp [calledNext?, Option.filter_eq_some_iff, and_assoc]

theorem index_lt_of_lookup (defined : world.lookup type name = some found) :
    type.index < world.types.size := by
  by_contra outside
  have unknown : world.type? type = none :=
    world.types.get?_eq_none_of_size_le (Nat.le_of_not_lt outside)
  simp [lookup, lookupWithOwner, chain, ancestors, member?, unknown] at defined

theorem CallsExactly.unique (first : world.CallsExactly steps type)
    (second : world.CallsExactly others type) : steps = others := by
  rcases Nat.lt_trichotomy steps others with less | same | more
  · exact absurd first.1 (second.2 _ less)
  · exact same
  · exact absurd second.1 (first.2 _ more)

theorem CallsWithin.exactly (within : world.CallsWithin steps type) :
    ∃ exact, world.CallsExactly exact type := by
  classical
  have some : ∃ steps, world.CallsWithin steps type := ⟨steps, within⟩
  exact ⟨Nat.find some, Nat.find_spec some, fun fewer => Nat.find_min some⟩

theorem CallsExactly.step (exactly : world.CallsExactly (steps + 1) type) :
    ∃ next, world.calledNext? type = some next ∧ world.CallsExactly steps next := by
  cases asked : world.calledNext? type with
  | none => exact absurd asked (exactly.2 0 steps.succ_pos)
  | some next =>
    refine ⟨next, rfl, exactly.1 next asked, fun fewer less within => ?_⟩
    refine exactly.2 (fewer + 1) (Nat.succ_lt_succ less) fun other asked' => ?_
    cases asked.symm.trans asked'
    exact within

theorem CallsExactly.below (exactly : world.CallsExactly steps type) {count : Nat}
    (fewer : count ≤ steps) : ∃ other, world.CallsExactly count other := by
  induction steps generalizing type with
  | zero =>
    cases Nat.le_zero.mp fewer
    exact ⟨type, exactly⟩
  | succ steps ih =>
    rcases Nat.lt_or_eq_of_le fewer with less | rfl
    · obtain ⟨next, _, exactly'⟩ := exactly.step
      exact ih exactly' (Nat.le_of_lt_succ less)
    · exact ⟨type, exactly⟩

-- No type comes up twice on a chain that ends, since the same chain would begin at it again.
theorem CallsExactly.le_size (exactly : world.CallsExactly steps type) :
    steps ≤ world.types.size := by
  have asked (count : Fin steps) : ∃ index : Fin world.types.size,
      world.CallsExactly (count + 1) ⟨index⟩ := by
    obtain ⟨other, exactly'⟩ := exactly.below (Nat.succ_le_of_lt count.isLt)
    obtain ⟨_, next, _⟩ := exactly'.step
    obtain ⟨_, defined, _⟩ := calledNext?_eq_some_iff.mp next
    exact ⟨⟨other.index, index_lt_of_lookup defined⟩, exactly'⟩
  choose index exactly' using asked
  have injective : Function.Injective index := by
    intro count other same
    have exactly'' := exactly' other
    rw [← same] at exactly''
    exact Fin.ext (Nat.succ_injective ((exactly' count).unique exactly''))
  simpa using Fintype.card_le_of_injective index injective

end World

section Callables

variable {σ : Type} {host : Host σ} {limits : Limits} {steps : Nat} {held : Roots}
  {state : State σ} {callee receiver found : Value} {name : String} {arguments : Arguments}
  {inner : Dispatch σ}

-- Without a getter, what is found is bound if it is a method and else given as it is.
theorem Engine.lookupSpecial_plain (held : Roots)
    (defined : state.world.lookup (state.world.typeOf receiver) name = some found)
    (plain : ∀ descriptor, found ≠ .descriptor descriptor) :
    ∃ method later, method.runsItself = found.runsItself ∧
      (found.runsItself = false → method = found ∧ later = state) ∧
      ∀ engine : Engine σ,
        engine.lookupSpecial receiver name held state = .done (.ok (some method)) later := by
  simp only [lookupSpecial, Eval.world_bind_apply, defined]
  cases found with
  | descriptor descriptor => exact absurd rfl (plain descriptor)
  | function function =>
    cases binding : function.binding with
    | method =>
      simp only [descriptorGet, binding, bind_assoc, pure_bind, complete_ready]
      refine ⟨.boundMethod state.world.nextSerial function receiver, _, rfl, ?_, fun _ => rfl⟩
      intro asked
      cases asked
    | static =>
      simp only [descriptorGet, binding, pure_bind, complete_ready]
      exact ⟨_, _, rfl, fun _ => ⟨rfl, rfl⟩, fun _ => rfl⟩
  | _ =>
    simp only [descriptorGet, pure_bind, complete_ready]
    exact ⟨_, _, rfl, fun _ => ⟨rfl, rfl⟩, fun _ => rfl⟩

namespace Host

theorem endsWithin_runs (runs : callee.runsItself = true) :
    host.EndsWithin limits steps ⟨.call callee arguments, held, state⟩ :=
  endsWithin_silent (by rw [Demand.asksType, runs, Bool.not_true])

theorem nests_of_calledNext? (host : Host σ) (limits : Limits) (arguments : Arguments)
    (held : Roots) (plain : state.world.GivesPlain "__call__")
    (asked : callee.runsItself = false) {next : TypeKey}
    (follows : state.world.calledNext? (state.world.typeOf callee) = some next) :
    ∃ method, method.runsItself = false ∧ state.world.typeOf method = next ∧
      host.Nests limits ⟨.call callee arguments, held, state⟩
        ⟨.call method arguments, held.addValues (callee :: arguments.values), state⟩ := by
  obtain ⟨found, defined, proper, asked', type⟩ := World.calledNext?_eq_some_iff.mp follows
  obtain ⟨method, later, _, same, gives⟩ := Engine.lookupSpecial_plain
    (held.addValues (callee :: arguments.values)) defined
    fun _ descriptor => plain _ _ (descriptor ▸ defined)
  obtain ⟨rfl, rfl⟩ := same asked'
  exact ⟨method, asked', type, .method (.call asked) (.of_forall gives) proper⟩

theorem nests_call (plain : state.world.GivesPlain "__call__")
    (nests : host.Nests limits ⟨.call callee arguments, held, state⟩ inner) :
    ∃ method later, inner =
        ⟨.call method arguments, held.addValues (callee :: arguments.values), later⟩ ∧
      (method.runsItself = false → later = state ∧
        state.world.calledNext? (state.world.typeOf callee) =
          some (state.world.typeOf method)) := by
  cases nests with
  | method looks found defined =>
    cases looks with
    | call asked =>
      refine ⟨_, _, rfl, fun asked' => ?_⟩
      cases entry : state.world.lookup (state.world.typeOf callee) "__call__" with
      | none => cases (found.unique (.of_forall fun _ => Engine.lookupSpecial_none entry)).1
      | some value =>
        obtain ⟨method, later, runs, same, gives⟩ := Engine.lookupSpecial_plain
          (held.addValues (callee :: arguments.values)) entry
          fun _ descriptor => plain _ _ (descriptor ▸ entry)
        obtain ⟨given, rfl⟩ := found.unique (.of_forall gives)
        cases given
        obtain ⟨rfl, rfl⟩ := same (runs ▸ asked')
        exact ⟨rfl, World.calledNext?_eq_some_iff.mpr ⟨_, entry, defined, asked', rfl⟩⟩

theorem EndsWithin.callsWithin (plain : state.world.GivesPlain "__call__")
    (asked : callee.runsItself = false)
    (ends : host.EndsWithin limits steps ⟨.call callee arguments, held, state⟩) :
    state.world.CallsWithin steps (state.world.typeOf callee) := by
  induction steps generalizing callee held with
  | zero =>
    cases follows : state.world.calledNext? (state.world.typeOf callee) with
    | none => exact follows
    | some next =>
      obtain ⟨method, _, _, nests⟩ :=
        nests_of_calledNext? host limits arguments held plain asked follows
      exact absurd nests (ends _)
  | succ steps ih =>
    intro next follows
    obtain ⟨method, asked', rfl, nests⟩ :=
      nests_of_calledNext? host limits arguments held plain asked follows
    exact ih asked' (ends _ nests)

-- What is found at the end of the chain is called as well.
theorem endsWithin_of_callsWithin (plain : state.world.GivesPlain "__call__")
    (within : state.world.CallsWithin steps (state.world.typeOf callee)) :
    host.EndsWithin limits (steps + 1) ⟨.call callee arguments, held, state⟩ := by
  induction steps generalizing callee held with
  | zero =>
    intro inner nests
    obtain ⟨method, later, rfl, follows⟩ := nests_call plain nests
    cases runs : method.runsItself with
    | true => exact endsWithin_runs runs
    | false => cases within.symm.trans (follows runs).2
  | succ steps ih =>
    intro inner nests
    obtain ⟨method, later, rfl, follows⟩ := nests_call plain nests
    cases runs : method.runsItself with
    | true => exact endsWithin_runs runs
    | false =>
      obtain ⟨rfl, next⟩ := follows runs
      exact ih (within _ next)

theorem EndsWithin.le_size (plain : state.world.GivesPlain "__call__")
    (ends : host.EndsWithin limits steps ⟨.call callee arguments, held, state⟩) :
    host.EndsWithin limits (state.world.types.size + 1) ⟨.call callee arguments, held, state⟩ := by
  cases runs : callee.runsItself with
  | true => exact endsWithin_runs runs
  | false =>
    obtain ⟨exact', exactly⟩ := (ends.callsWithin plain runs).exactly
    exact (endsWithin_of_callsWithin plain exactly.1).mono (Nat.succ_le_succ exactly.le_size)

end Host

end Callables

section Ends

variable {σ : Type} {host : Host σ} {limits : Limits} {start : Dispatch σ}

theorem Host.ends_iff : host.Ends limits start ↔
    ∀ chain : Nat → Dispatch σ, chain 0 = start →
      ∃ step, ¬ host.Nests limits (chain step) (chain (step + 1)) := by
  rw [Ends, acc_iff_isEmpty_descending_chain, isEmpty_subtype]
  simp only [not_and, not_forall]

theorem Host.endsWithin_of_meet {patience depth : Nat}
    (answers : (host.engine limits patience depth).meet start.demand start.held start.state ≠
      .exhausted) :
    host.EndsWithin limits (patience + depth) start := by
  obtain ⟨demand, held, state⟩ := start
  cases demand with
  | call callee arguments => exact (endsWithin_call _ answers).mono (Nat.le_add_left depth patience)
  | truth value =>
    simp only [Engine.meet, Engine.truthy, engine_patience] at answers
    exact endsWithin_truth answers

theorem Host.Completes.endsWithin
    (completes : host.Completes limits (·.meet start.demand) start.held start.state) :
    ∃ depth, host.EndsWithin limits depth start := by
  obtain ⟨result, later, returns⟩ := completes
  obtain ⟨budget, done⟩ := returns.enough
  have answers : (host.engine limits budget budget).meet start.demand start.held start.state ≠
      .exhausted := by
    rw [done budget budget le_rfl le_rfl]
    exact fun same => nomatch same
  exact ⟨_, endsWithin_of_meet answers⟩

theorem Host.Returning.meet_completes (returning : host.Returning limits start)
    (ends : host.Ends limits start) :
    host.Completes limits (·.meet start.demand) start.held start.state := by
  obtain ⟨demand, held, state⟩ := start
  cases demand with
  | call callee arguments => exact returning.call_completes ends
  | truth value => exact returning.truth_completes ends 0

structure Host.DispatchEnds (host : Host σ) (limits : Limits) (start : Dispatch σ) : Prop where
  completes_iff : host.Completes limits (·.meet start.demand) start.held start.state ↔
    ∀ chain : Nat → Dispatch σ, chain 0 = start →
      ∃ step, ¬ host.Nests limits (chain step) (chain (step + 1))
  within : host.Completes limits (·.meet start.demand) start.held start.state →
    ∃ depth, host.EndsWithin limits depth start
  endless : ¬ host.Completes limits (·.meet start.demand) start.held start.state →
    ∀ patience depth,
      (host.engine limits patience depth).meet start.demand start.held start.state = .exhausted
  -- Instances that are called in place of one another come back to a type, or soon to an end.
  callables : ∀ callee arguments, start.demand = .call callee arguments →
    start.state.world.GivesPlain "__call__" →
    host.Completes limits (·.meet start.demand) start.held start.state →
      host.EndsWithin limits (start.state.world.types.size + 1) start

/-- Calling a value and judging its truth come to an end exactly if the dispatches nested in one
another on the way do not go on for ever, whatever objects they pass on to. -/
theorem Host.dispatch_ends_iff (host : Host σ) (limits : Limits) (start : Dispatch σ)
    (returning : host.Returning limits start) : host.DispatchEnds limits start where
  completes_iff := by
    rw [← ends_iff]
    constructor
    · intro completes
      obtain ⟨depth, ends⟩ := completes.endsWithin
      exact ends.ends
    · exact returning.meet_completes
  within := Completes.endsWithin
  endless unending patience depth := by
    by_contra answers
    exact unending (returning.meet_completes (endsWithin_of_meet answers).ends)
  callables := by
    obtain ⟨demand, held, state⟩ := start
    rintro callee arguments rfl plain completes
    obtain ⟨depth, ends⟩ := completes.endsWithin
    exact ends.le_size plain

end Ends

namespace Engine

def judgedPoint : Value := .object ⟨300, ⟨18⟩, none, .empty⟩

def judge : Value := .object ⟨301, ⟨18⟩, none, .empty⟩

-- Points are judged by an instance, which is called through code.
def judging (serial : Nat) : State Unit :=
  ⟨{ (World.defining "__call__").setMember ⟨18⟩ "__bool__" judge with nextSerial := serial }, ()⟩

section Judge

variable (serial : Nat) (held : Roots)

theorem lookupSpecial_judge :
    (constantHost (.int 3)).Returns {} (·.lookupSpecial judgedPoint "__bool__") held
      (judging serial) (.ok (some judge)) (judging serial) :=
  .of_depth 0 nofun fun _ depth => by cases depth <;> rfl

theorem lookupSpecial_code :
    (constantHost (.int 3)).Returns {} (·.lookupSpecial judge "__call__") held (judging serial)
      (.ok (some (.boundMethod serial ⟨299, "Point", "__call__", .method, none, .code ⟨0⟩⟩ judge)))
      (judging (serial + 1)) :=
  .of_depth 0 nofun fun _ depth => by cases depth <;> rfl

theorem callSpecial_judge :
    (constantHost (.int 3)).Returns {} (·.callSpecial judgedPoint "__bool__" []) held
      (judging serial) (.ok (some (.int 3))) (judging (serial + 1)) := by
  refine .of_depth 3 (fun patience depth less => ?_) fun _ _ => rfl
  match depth, less with
  | 0, _ | 1, _ | 2, _ => rfl

theorem returning_call_judge :
    (constantHost (.int 3)).Returning {} ⟨.call judge {}, held, judging serial⟩ := by
  refine .intro (fun looks => ?_) (fun same runs => ?_) fun nests => ?_
  · cases looks with
    | call => exact fun _ _ getter => nomatch getter
  · cases same
    cases runs
  · cases nests with
    | method looks found =>
      cases looks with
      | call =>
        obtain ⟨same, rfl⟩ := found.unique (lookupSpecial_code _ _)
        cases same
        refine .of_silent rfl fun same _ => ?_
        cases same
        refine ⟨.ok (.int 3), _, .of_depth 1 (fun patience depth less => ?_) fun _ _ => rfl⟩
        match depth, less with
        | 0, _ => rfl

theorem returning_judgedPoint :
    (constantHost (.int 3)).Returning {} ⟨.truth judgedPoint, held, judging serial⟩ := by
  refine .intro (fun looks => ?_) (fun same _ => ?_) fun nests => ?_
  · cases looks with
    | truth => exact fun _ _ getter => nomatch getter
    | length unjudged => cases (unjudged.unique (callSpecial_judge _ _)).1
  · cases same
  · cases nests with
    | answer judged =>
      obtain ⟨same, rfl⟩ := judged.unique (callSpecial_judge _ _)
      cases same
      exact .of_silent rfl fun same _ => nomatch same
    | method looks found =>
      cases looks with
      | length unjudged => cases (unjudged.unique (callSpecial_judge _ _)).1
      | truth =>
        obtain ⟨same, rfl⟩ := found.unique (lookupSpecial_judge _ _)
        cases same
        exact returning_call_judge _ _

end Judge

theorem dispatch_ends_judge :
    let start : Dispatch Unit := ⟨.truth judgedPoint, {}, judging 400⟩
    (constantHost (.int 3)).Returning {} start ∧
    (constantHost (.int 3)).DispatchEnds {} start ∧
    (constantHost (.int 3)).Completes {} (·.truthy judgedPoint) {} (judging 400) := by
  intro start
  have returning : (constantHost (.int 3)).Returning {} start := returning_judgedPoint 400 {}
  have ends : (constantHost (.int 3)).DispatchEnds {} start :=
    Host.dispatch_ends_iff _ {} start returning
  refine ⟨returning, ends, ?_⟩
  by_contra unending
  have told : ((constantHost (.int 3)).engine {} 2 3).truthy judgedPoint {} (judging 400) =
      .done (.ok true) (judging 401) := rfl
  cases told.symm.trans (ends.endless unending 2 3)

def ownAnswer : Value := .object ⟨300, ⟨18⟩, none, .empty⟩

-- The own answer is called in place of itself, and is what it is judged and compared by.
def askingItself (serial : Nat) : State Unit :=
  let world := (World.defining "__bool__").setMember ⟨18⟩ "__eq__"
    (.function ⟨298, "Point", "__eq__", .method, none, .code ⟨0⟩⟩)
  ⟨{ world.setMember ⟨18⟩ "__call__" ownAnswer with nextSerial := serial }, ()⟩

section Endless

variable (patience depth serial : Nat) (held : Roots)

theorem call_ownAnswer :
    ((constantHost ownAnswer).engine {} patience depth).call ownAnswer {} held
      (askingItself serial) = .exhausted := by
  induction depth generalizing held with
  | zero => rfl
  | succ depth ih =>
    cases depth with
    | zero => rfl
    | succ depth => exact ih (held.addValues [ownAnswer])

theorem truthWithin_ownAnswer (rounds : Nat) :
    ((constantHost ownAnswer).engine {} patience depth).truthWithin rounds ownAnswer held
      (askingItself serial) = .exhausted := by
  induction rounds generalizing held serial with
  | zero => rfl
  | succ rounds ih =>
    match depth with
    | 0 | 1 => rfl
    | depth + 2 => exact ih (serial + 1) _

theorem truthy_ownAnswer :
    ((constantHost ownAnswer).engine {} patience depth).truthy ownAnswer held
      (askingItself serial) = .exhausted := by
  rw [truthy]
  exact truthWithin_ownAnswer patience depth serial held _

theorem slotCompare_ownAnswer :
    ((constantHost ownAnswer).engine {} patience depth).slotCompare ownAnswer .none .eq held
      (askingItself serial) = .exhausted := by
  have isInstance : ownAnswer.isInstance = true := rfl
  have method : Comparison.eq.method = "__eq__" := rfl
  rw [slotCompare, if_pos isInstance, Eval.bind_apply, method]
  rcases depth with _ | _ | depth
  · rfl
  · rfl
  · have asked : ((constantHost ownAnswer).engine {} patience (depth + 2)).callSpecial ownAnswer
        "__eq__" [.none] held (askingItself serial) =
          .done (.ok (some ownAnswer)) (askingItself (serial + 1)) := rfl
    rw [asked]
    dsimp only [ownAnswer]
    rw [Eval.bind_apply, ← ownAnswer, truthy_ownAnswer]

theorem tupleContains_ownAnswer :
    ((constantHost ownAnswer).engine {} patience depth).tupleContains [ownAnswer] .none held
      (askingItself serial) = .exhausted := by
  have different : ownAnswer ≠ .none := nofun
  rw [tupleContains, Eval.bind_apply, equal, containerCompare_of_ne different, richCompare,
    Eval.bind_apply, slotCompare_ownAnswer]

theorem call_contains {function : Function} (body : function.body = .tuple .contains)
    {inst : Instance Value} (items : (Value.object inst).items? = some [ownAnswer]) :
    ((constantHost ownAnswer).engine {} patience depth).call (.function function)
      { positional := [.object inst, .none] } held (askingItself serial) = .exhausted := by
  cases depth with
  | zero => rfl
  | succ depth =>
    have counted : (checkArgumentCount TupleMethod.contains.name [.none] 1 1 : Eval Unit Unit) =
        pure () := rfl
    rw [Host.engine_call, callValue, invoke, body]
    simp only [tupleMethod, items, counted, pure_bind, List.getElem?_cons_zero, Option.getD_some]
    rw [Eval.bind_apply, tupleContains_ownAnswer]

end Endless

theorem dispatch_endless :
    let host := constantHost ownAnswer
    let state := askingItself 400
    (∀ engine code arguments held state,
      host.run engine code arguments held state = .done (.ok ownAnswer) state) ∧
    (∀ engine resumption held state,
      host.proceed engine resumption held state = .done (.ok (.finished ownAnswer)) state) ∧
    (∀ patience depth, (host.engine {} patience depth).truthy ownAnswer {} state = .exhausted) ∧
    (∀ patience depth, (host.engine {} patience depth).call ownAnswer {} {} state = .exhausted) ∧
    ∃ contains, state.world.lookup Builtin.tuple.key "__contains__" = some contains ∧
      ∀ patience depth, (host.engine {} patience depth).call contains
        { positional := [.object ⟨301, Builtin.tuple.key, none, .tuple [ownAnswer]⟩, .none] } {}
        state = .exhausted := by
  intro host state
  refine ⟨fun _ _ _ _ _ => rfl, fun _ _ _ _ => rfl, ?_, ?_, _, rfl, ?_⟩
  · exact fun patience depth => truthy_ownAnswer patience depth 400 {}
  · exact fun patience depth => call_ownAnswer patience depth 400 {}
  · exact fun patience depth => call_contains patience depth 400 {} rfl rfl

end Engine

end ObjectModel
