import Mathlib.Logic.Relation
import ObjectModel.Proofs.Budgets
import ObjectModel.Proofs.TruthAndLength

set_option autoImplicit false

namespace ObjectModel

-- Is the value called without asking its type for `__call__`?
def Value.runsItself : Value → Bool
  | function _ | boundMethod .. | type _ => true
  | _ => false

inductive Demand where
  | call (callee : Value) (arguments : Arguments)
  | truth (value : Value)

def Demand.Answer : Demand → Type
  | call .. => Value
  | truth _ => Bool

-- The arguments that go to the special method which a value is asked through.
def Demand.passed : Demand → Arguments
  | call _ arguments => arguments
  | truth _ => {}

def Demand.asksType : Demand → Bool
  | call callee _ => !callee.runsItself
  | truth value => value.isInstance

def Engine.meet {σ : Type} (engine : Engine σ) : (demand : Demand) → Eval σ demand.Answer
  | .call callee arguments => engine.call callee arguments
  | .truth value => engine.truthy value

structure Dispatch (σ : Type) where
  demand : Demand
  held : Roots
  state : State σ

section Nesting

variable {σ : Type}

inductive Host.Looks (host : Host σ) (limits : Limits) :
    Dispatch σ → Value → String → Roots → State σ → Prop where
  | call {callee : Value} {arguments : Arguments} {held : Roots} {state : State σ}
    (asked : callee.runsItself = false) :
    Looks host limits ⟨.call callee arguments, held, state⟩ callee "__call__"
      (held.addValues (callee :: arguments.values)) state
  | truth {inst : Instance Value} {held : Roots} {state : State σ} :
    Looks host limits ⟨.truth (.object inst), held, state⟩ (.object inst) "__bool__"
      (held.addValues [.object inst]) state
  -- The length counts only where there is no `__bool__`.
  | length {inst : Instance Value} {held : Roots} {state later : State σ}
    (unjudged : host.Returns limits (·.callSpecial (.object inst) "__bool__" [])
      (held.addValues [.object inst]) state (.ok none) later) :
    Looks host limits ⟨.truth (.object inst), held, state⟩ (.object inst) "__len__"
      (held.addValues [.object inst]) later

/-- The dispatches that one dispatch waits for: the calls of the special methods it has found, and
the truth of what `__bool__` has answered. -/
inductive Host.Nests (host : Host σ) (limits : Limits) : Dispatch σ → Dispatch σ → Prop where
  | method {outer : Dispatch σ} {receiver method : Value} {name : String} {held : Roots}
    {state later : State σ} (looks : host.Looks limits outer receiver name held state)
    (found : host.Returns limits (·.lookupSpecial receiver name) held state (.ok (some method))
      later)
    (defined : method.isNone = false) :
    Nests host limits outer ⟨.call method outer.demand.passed, held, later⟩
  | answer {inst : Instance Value} {answer : Value} {held : Roots} {state later : State σ}
    (judged : host.Returns limits (·.callSpecial (.object inst) "__bool__" [])
      (held.addValues [.object inst]) state (.ok (some answer)) later) :
    Nests host limits ⟨.truth (.object inst), held, state⟩
      ⟨.truth answer, held.addValues [.object inst], later⟩

-- The dispatches nested in one another below this one are at most `depth` deep.
def Host.EndsWithin (host : Host σ) (limits : Limits) : Nat → Dispatch σ → Prop
  | 0, outer => ∀ inner, ¬ host.Nests limits outer inner
  | depth + 1, outer => ∀ inner, host.Nests limits outer inner → host.EndsWithin limits depth inner

def Host.Ends (host : Host σ) (limits : Limits) : Dispatch σ → Prop :=
  Acc fun inner outer => host.Nests limits outer inner

/-- Whatever a dispatch runs on its way returns: the code of the getters through which it fetches
special methods, and the functions, bound methods and types that it comes to call. -/
structure Host.Returning (host : Host σ) (limits : Limits) (start : Dispatch σ) : Prop where
  getters : ∀ {dispatch}, Relation.ReflTransGen (host.Nests limits) start dispatch →
    ∀ {receiver name held state}, host.Looks limits dispatch receiver name held state →
    ∀ code arguments, (state.world.entry? receiver name).bind
        (Engine.getterCall? receiver (state.world.typeOf receiver)) = some (code, arguments) →
      host.ReturnsThroughout limits code arguments held state
  bodies : ∀ {callee arguments held state}, Relation.ReflTransGen (host.Nests limits) start
      ⟨.call callee arguments, held, state⟩ → callee.runsItself = true →
    host.Completes limits (·.callValue callee arguments)
      (held.addValues (callee :: arguments.values)) state

variable {host : Host σ} {limits : Limits} {depth rounds patience : Nat} {held : Roots}
  {state later : State σ} {callee receiver method value : Value} {arguments : Arguments}
  {name : String} {inst : Instance Value} {outer inner : Dispatch σ}

theorem Host.Looks.asksType (looks : host.Looks limits outer receiver name held state) :
    outer.demand.asksType = true := by
  cases looks with
  | call asked => rw [Demand.asksType, asked, Bool.not_false]
  | truth => rfl
  | length => rfl

theorem Host.Nests.asksType (nests : host.Nests limits outer inner) :
    outer.demand.asksType = true := by
  cases nests with
  | method looks => exact looks.asksType
  | answer => rfl

namespace Host.Returning

theorem nested (returning : host.Returning limits outer) (nests : host.Nests limits outer inner) :
    host.Returning limits inner where
  getters reached _ _ _ _ := returning.getters (.head nests reached)
  bodies reached := returning.bodies (.head nests reached)

theorem looks (returning : host.Returning limits outer)
    (looks : host.Looks limits outer receiver name held state) :
    host.Completes limits (·.lookupSpecial receiver name) held state :=
  lookupSpecial_completes (returning.getters .refl looks)

theorem intro
    (getters : ∀ {receiver name held state}, host.Looks limits outer receiver name held state →
      ∀ code arguments, (state.world.entry? receiver name).bind
          (Engine.getterCall? receiver (state.world.typeOf receiver)) = some (code, arguments) →
        host.ReturnsThroughout limits code arguments held state)
    (body : ∀ {callee arguments held state}, outer = ⟨.call callee arguments, held, state⟩ →
      callee.runsItself = true → host.Completes limits (·.callValue callee arguments)
        (held.addValues (callee :: arguments.values)) state)
    (nested : ∀ {inner}, host.Nests limits outer inner → host.Returning limits inner) :
    host.Returning limits outer where
  getters reached := by
    rcases reached.cases_head with rfl | ⟨inner, nests, reached⟩
    · exact getters
    · exact (nested nests).getters reached
  bodies reached := by
    rcases reached.cases_head with same | ⟨inner, nests, reached⟩
    · exact body same
    · exact (nested nests).bodies reached

theorem of_silent (silent : outer.demand.asksType = false)
    (body : ∀ {callee arguments held state}, outer = ⟨.call callee arguments, held, state⟩ →
      callee.runsItself = true → host.Completes limits (·.callValue callee arguments)
        (held.addValues (callee :: arguments.values)) state) :
    host.Returning limits outer := by
  refine intro (fun looks => ?_) body fun nests => ?_
  · cases silent.symm.trans looks.asksType
  · cases silent.symm.trans nests.asksType

end Host.Returning

theorem Host.EndsWithin.mono {more : Nat} (ends : host.EndsWithin limits depth outer)
    (within : depth ≤ more) : host.EndsWithin limits more outer := by
  induction more generalizing depth outer with
  | zero =>
    cases Nat.le_zero.mp within
    exact ends
  | succ more ih =>
    intro inner nests
    cases depth with
    | zero => exact absurd nests (ends inner)
    | succ depth => exact ih (ends inner nests) (Nat.le_of_succ_le_succ within)

theorem Host.endsWithin_silent (silent : outer.demand.asksType = false) :
    host.EndsWithin limits depth outer := by
  have ends : host.EndsWithin limits 0 outer := by
    intro inner nests
    cases silent.symm.trans nests.asksType
  exact ends.mono (Nat.zero_le depth)

theorem Host.EndsWithin.ends (ends : host.EndsWithin limits depth outer) :
    host.Ends limits outer := by
  induction depth generalizing outer with
  | zero => exact ⟨_, fun inner nests => absurd nests (ends inner)⟩
  | succ depth ih => exact ⟨_, fun inner nests => ih (ends inner nests)⟩

namespace Engine

variable {engine : Engine σ}

theorem callSpecial_eq (receiver : Value) (name : String) (positional : List Value) :
    engine.callSpecial receiver name positional = engine.lookupSpecial receiver name >>=
      fun method? => match method?.filter (!·.isNone) with
        | none => pure none
        | some method => some <$> engine.call method { positional } := by
  rw [callSpecial]
  congr 1
  funext method?
  cases method? with
  | none => rfl
  | some method => cases method <;> rfl

theorem callValue_asked (asked : callee.runsItself = false) :
    engine.callValue callee arguments = engine.lookupSpecial callee "__call__" >>=
      fun method? => match method?.filter (!·.isNone) with
        | none => Eval.failFor callee .notCallable
        | some method => engine.call method arguments := by
  rw [callValue.eq_def]
  split
  case h_4 =>
    congr 1
    funext method?
    cases method? with
    | none => rfl
    | some method => cases method <;> rfl
  all_goals cases asked

theorem truthWithin_plain (plain : value.isInstance = false) :
    engine.truthWithin rounds value = pure value.plainTruth := by
  cases value with
  | object inst => cases plain
  | _ => rw [truthWithin.eq_def]

theorem truthWithin_instance :
    engine.truthWithin (rounds + 1) (.object inst) held state =
      (engine.callSpecial (.object inst) "__bool__" [] >>= fun answer? => match answer? with
        | some answer => engine.truthWithin rounds answer
        | none => sizeTruth <$> engine.callSpecial (.object inst) "__len__" [])
        (held.addValues [.object inst]) state := by
  rw [truthWithin, Eval.holding]
  refine congrFun (congrFun (bind_congr fun answer? => ?_) _) _
  cases answer? with
  | some answer => rfl
  | none =>
    rw [map_eq_pure_bind]
    refine bind_congr fun size? => ?_
    cases size? <;> rfl

end Engine

namespace Host

theorem endsWithin_call (patience : Nat)
    (answers : (host.engine limits patience depth).call callee arguments held state ≠
      .exhausted) :
    host.EndsWithin limits depth ⟨.call callee arguments, held, state⟩ := by
  induction depth generalizing callee held state with
  | zero => exact absurd rfl answers
  | succ depth ih =>
    intro inner nests
    cases nests with
    | method looks found defined =>
      cases looks with
      | call asked =>
        apply ih
        rw [engine_call, Engine.callValue_asked asked, Eval.bind_apply] at answers
        rcases found.steady patience depth with ranOut | done
        · rw [ranOut] at answers
          exact absurd rfl answers
        · rw [done] at answers
          simpa [Option.filter, defined] using answers

theorem endsWithin_special (patience : Nat)
    (answers : (host.engine limits patience depth).callSpecial receiver name [] held state ≠
      .exhausted)
    (found : host.Returns limits (·.lookupSpecial receiver name) held state (.ok (some method))
      later)
    (defined : method.isNone = false) :
    host.EndsWithin limits depth ⟨.call method {}, held, later⟩ := by
  refine endsWithin_call patience fun ranOut => answers ?_
  rw [Engine.callSpecial_eq, Eval.bind_apply]
  rcases found.steady patience depth with ranOut' | done
  · rw [ranOut']
  · have filtered : (some method).filter (!·.isNone) = some method := by
      simp [Option.filter, defined]
    rw [done]
    simp only [filtered]
    rw [map_eq_pure_bind, Eval.bind_apply, ranOut]

theorem endsWithin_truth
    (answers : (host.engine limits patience depth).truthWithin rounds value held state ≠
      .exhausted) :
    host.EndsWithin limits (rounds + depth) ⟨.truth value, held, state⟩ := by
  induction rounds generalizing value held state with
  | zero =>
    apply endsWithin_silent
    cases value with
    | object inst => exact absurd rfl answers
    | _ => rfl
  | succ rounds ih =>
    rw [Nat.add_right_comm]
    intro inner nests
    have deeper : depth ≤ rounds + depth := Nat.le_add_left depth rounds
    cases nests with
    | method looks found defined =>
      cases looks with
      | truth =>
        rw [Engine.truthWithin_instance, Eval.bind_apply] at answers
        refine (endsWithin_special patience (fun ranOut => answers ?_) found
          defined).mono deeper
        rw [ranOut]
      | length unjudged =>
        rw [Engine.truthWithin_instance, Eval.bind_apply] at answers
        rcases unjudged.steady patience depth with ranOut | done
        · rw [ranOut] at answers
          exact absurd rfl answers
        · rw [done] at answers
          refine (endsWithin_special patience (fun ranOut => answers ?_) found
            defined).mono deeper
          dsimp only
          rw [map_eq_pure_bind, Eval.bind_apply, ranOut]
    | answer judged =>
      rw [Engine.truthWithin_instance, Eval.bind_apply] at answers
      rcases judged.steady patience depth with ranOut | done
      · rw [ranOut] at answers
        exact absurd rfl answers
      · rw [done] at answers
        exact ih answers

theorem Returning.call_completes
    (returning : host.Returning limits ⟨.call callee arguments, held, state⟩)
    (ends : host.Ends limits ⟨.call callee arguments, held, state⟩) :
    host.Completes limits (·.call callee arguments) held state := by
  generalize same : (⟨.call callee arguments, held, state⟩ : Dispatch σ) = outer at ends
  induction ends generalizing callee held state with
  | intro outer _ ih =>
    subst same
    have runs : host.Completes limits (·.callValue callee arguments)
        (held.addValues (callee :: arguments.values)) state := by
      cases own : callee.runsItself with
      | true => exact returning.bodies .refl own
      | false =>
        simp only [Engine.callValue_asked own]
        refine (returning.looks (.call own)).bind fun method? later found => ?_
        cases proper : method?.filter (!·.isNone) with
        | none => exact .of_forall fun _ => rfl
        | some method =>
          obtain ⟨rfl, defined⟩ := Option.filter_eq_some_iff.mp proper
          have nests : host.Nests limits ⟨.call callee arguments, held, state⟩
              ⟨.call method arguments, held.addValues (callee :: arguments.values), later⟩ :=
            .method (.call own) found (by simpa using defined)
          exact ih _ nests (returning.nested nests) rfl
    obtain ⟨result, later, returns⟩ := runs
    exact ⟨result, later, returns.call⟩

theorem Returning.special_completes (returning : host.Returning limits outer)
    (ends : host.Ends limits outer) (nothing : outer.demand.passed = {})
    (looks : host.Looks limits outer receiver name held state) :
    host.Completes limits (·.callSpecial receiver name []) held state := by
  simp only [Engine.callSpecial_eq]
  refine (returning.looks looks).bind fun method? later found => ?_
  cases proper : method?.filter (!·.isNone) with
  | none => exact .of_forall fun _ => rfl
  | some method =>
    obtain ⟨rfl, defined⟩ := Option.filter_eq_some_iff.mp proper
    have nests : host.Nests limits outer ⟨.call method {}, held, later⟩ :=
      nothing ▸ .method looks found (by simpa using defined)
    simp only [map_eq_pure_bind]
    exact ((returning.nested nests).call_completes (ends.inv nests)).bind fun _ _ _ =>
      .of_forall fun _ => rfl

theorem Returns.truth {spent : Nat} {result : Except Error Bool}
    (returns : host.Returns limits (fun engine =>
        engine.callSpecial (.object inst) "__bool__" [] >>= fun answer? => match answer? with
          | some answer => engine.truthWithin (engine.patience - (spent + 1)) answer
          | none => sizeTruth <$> engine.callSpecial (.object inst) "__len__" [])
      (held.addValues [.object inst]) state result later) :
    host.Returns limits (fun engine => engine.truthWithin (engine.patience - spent) (.object inst))
      held state result later := by
  have round {patience : Nat} (patient : spent < patience) :
      patience - spent = patience - (spent + 1) + 1 := by omega
  constructor
  case steady =>
    intro patience depth
    rw [engine_patience]
    rcases Nat.lt_or_ge spent patience with patient | spent'
    · rw [round patient, Engine.truthWithin_instance]
      simpa only [engine_patience] using returns.steady patience depth
    · rw [Nat.sub_eq_zero_of_le spent']
      exact .inl rfl
  case enough =>
    obtain ⟨budget, done⟩ := returns.enough
    refine ⟨max budget (spent + 1), fun patience depth patient deep => ?_⟩
    rw [engine_patience, round (by omega), Engine.truthWithin_instance]
    simpa only [engine_patience] using done patience depth (by omega) (by omega)

-- Each answer of `__bool__` takes one round off the patience.
theorem Returning.truth_completes
    (returning : host.Returning limits ⟨.truth value, held, state⟩)
    (ends : host.Ends limits ⟨.truth value, held, state⟩) (spent : Nat) :
    host.Completes limits (fun engine => engine.truthWithin (engine.patience - spent) value)
      held state := by
  generalize same : (⟨.truth value, held, state⟩ : Dispatch σ) = outer at ends
  induction ends generalizing value held state spent with
  | intro outer within ih =>
    subst same
    have ends : host.Ends limits ⟨.truth value, held, state⟩ := ⟨_, within⟩
    cases value with
    | object inst =>
      have asks : host.Completes limits (fun engine =>
          engine.callSpecial (.object inst) "__bool__" [] >>= fun answer? => match answer? with
            | some answer => engine.truthWithin (engine.patience - (spent + 1)) answer
            | none => sizeTruth <$> engine.callSpecial (.object inst) "__len__" [])
          (held.addValues [.object inst]) state := by
        refine (returning.special_completes ends rfl .truth).bind fun answer? later judged => ?_
        cases answer? with
        | some answer =>
          have nests := Nests.answer judged
          exact ih _ nests (returning.nested nests) (spent + 1) rfl
        | none =>
          simp only [map_eq_pure_bind]
          exact (returning.special_completes ends rfl (.length judged)).bind fun _ _ _ =>
            .of_forall fun _ => rfl
      obtain ⟨result, later, returns⟩ := asks
      exact ⟨result, later, returns.truth⟩
    | _ => exact .of_forall fun _ => by rw [Engine.truthWithin_plain rfl]; rfl

end Host

end Nesting

end ObjectModel
