import ObjectModel.Proofs.Coherence
import ObjectModel.Sequence

set_option autoImplicit false

namespace ObjectModel

def IsSize (answer? : Option Value) : Prop :=
  ∃ value word, answer? = some value ∧ value.asIndex? = some word ∧ 0 ≤ word

def sizeTruth (answer? : Option Value) : Bool :=
  answer?.all fun value => value.asIndex?.any (· ≠ 0)

inductive Outcome.Agree {σ : Type} : Outcome σ Bool → Outcome σ Nat → Prop where
  | answered {truth : Bool} {size : Nat} (later : State σ) (same : truth = true ↔ size ≠ 0) :
    Agree (.done (.ok truth) later) (.done (.ok size) later)
  | failed (error : Error) (later : State σ) :
    Agree (.done (.error error) later) (.done (.error error) later)
  | abandoned (later : State σ) : Agree (.abandoned later) (.abandoned later)
  | exhausted : Agree .exhausted .exhausted

namespace Engine

variable {σ : Type} {engine : Engine σ} {held : Roots} {state later : State σ}
  {inst : Instance Value} {answer? : Option Value} {error : Error}

theorem truthy_unjudged (patient : 0 < engine.patience)
    (unjudged : state.world.lookup (state.world.typeOf (.object inst)) "__bool__" = none) :
    engine.truthy (.object inst) held state =
      (do return sizeTruth (← engine.callSpecial (.object inst) "__len__" []))
        (held.addValues [.object inst]) state := by
  obtain ⟨rounds, patience⟩ := Nat.exists_eq_succ_of_ne_zero (Nat.ne_of_gt patient)
  rw [truthy, patience, truthWithin, Eval.holding, Eval.bind_apply, callSpecial_absent unjudged]
  dsimp only
  rw [Eval.bind_apply, Eval.bind_apply]
  cases engine.callSpecial (.object inst) "__len__" [] (held.addValues [.object inst]) state with
  | done result later =>
    cases result with
    | ok answer? => cases answer? <;> rfl
    | error error => rfl
  | abandoned later => rfl
  | exhausted => rfl

section Length

variable (asked : engine.callSpecial (.object inst) "__len__" [] held state =
  .done (.ok answer?) later)

include asked

theorem length_size (isSize : IsSize answer?) :
    ∃ size, engine.length (.object inst) held state = .done (.ok size) later ∧
      (sizeTruth answer? = true ↔ size ≠ 0) := by
  obtain ⟨value, word, rfl, index, positive⟩ := isSize
  refine ⟨word.toInt.toNat, ?_, ?_⟩
  · rw [length, Eval.bind_apply, asked]
    simp only [index, Int64.not_lt.mpr positive, if_false]
    rfl
  · have bound : 0 ≤ word.toInt := Int64.le_iff_toInt_le.mp positive
    have zero : word = 0 ↔ word.toInt = 0 := Int64.toInt_inj.symm
    simp only [sizeTruth, index, Option.all_some, Option.any_some, decide_eq_true_eq, ne_eq, zero]
    omega

theorem length_no_size (noSize : ¬ IsSize answer?) :
    ∃ text, engine.length (.object inst) held state =
      .done (.error (.typeMismatch text)) later := by
  rw [length, Eval.bind_apply, asked]
  cases answer? with
  | none => exact ⟨_, rfl⟩
  | some value =>
    cases index : value.asIndex? with
    | none => exact ⟨_, by simp only [index]; rfl⟩
    | some word =>
      have negative : word < 0 := by
        by_contra positive
        exact noSize ⟨value, word, rfl, index, Int64.not_lt.mp positive⟩
      exact ⟨_, by simp only [index, negative, if_true]; rfl⟩

end Length

theorem length_failed (asked : engine.callSpecial (.object inst) "__len__" [] held state =
    .done (.error error) later) :
    engine.length (.object inst) held state = .done (.error error) later := by
  rw [length, Eval.bind_apply, asked]

structure TruthOfLength (engine : Engine σ) (held : Roots) (state : State σ)
    (value : Value) : Prop where
  agree_iff : (engine.truthy value held state).Agree
      (engine.length value (held.addValues [value]) state) ↔
    ∀ answer? later, engine.callSpecial value "__len__" [] (held.addValues [value]) state =
      .done (.ok answer?) later → IsSize answer?
  -- A failure of `__len__` is one of both.
  fails : ∀ error later,
    engine.callSpecial value "__len__" [] (held.addValues [value]) state =
      .done (.error error) later →
    engine.truthy value held state = .done (.error error) later ∧
      engine.length value (held.addValues [value]) state = .done (.error error) later
  -- What it answers otherwise has a truth, and is refused as a length unless it is a size.
  answers : ∀ answer? later,
    engine.callSpecial value "__len__" [] (held.addValues [value]) state =
      .done (.ok answer?) later →
    engine.truthy value held state = .done (.ok (sizeTruth answer?)) later ∧
      (¬ IsSize answer? → ∃ text, engine.length value (held.addValues [value]) state =
        .done (.error (.typeMismatch text)) later)

/-- Truth agrees with length exactly if `__len__` gives a size whenever it gives anything. -/
theorem truth_is_length_iff (engine : Engine σ) (held : Roots) (state : State σ)
    (inst : Instance Value) (patient : 0 < engine.patience)
    (unjudged : state.world.lookup (state.world.typeOf (.object inst)) "__bool__" = none) :
    engine.TruthOfLength held state (.object inst) := by
  have truth : engine.truthy (.object inst) held state = _ := truthy_unjudged patient unjudged
  rw [Eval.bind_apply] at truth
  constructor
  case fails =>
    intro error later asked
    rw [asked] at truth
    exact ⟨truth, length_failed asked⟩
  case answers =>
    intro answer? later asked
    rw [asked] at truth
    exact ⟨truth, length_no_size asked⟩
  case agree_iff =>
    constructor
    · intro agree answer? later asked
      by_contra noSize
      obtain ⟨text, refused⟩ := length_no_size asked noSize
      rw [truth, asked, refused] at agree
      cases agree
    · intro sizes
      rw [truth]
      cases asked : engine.callSpecial (.object inst) "__len__" []
          (held.addValues [.object inst]) state with
      | done result later =>
        cases result with
        | ok answer? =>
          obtain ⟨size, told, same⟩ := length_size asked (sizes answer? later asked)
          rw [told]
          exact .answered later same
        | error error =>
          rw [length_failed asked]
          exact .failed error later
      | abandoned later =>
        rw [length, Eval.bind_apply, asked]
        exact .abandoned later
      | exhausted =>
        rw [length, Eval.bind_apply, asked]
        exact .exhausted

theorem truth_is_length_iff_three :
    let engine := (constantHost (.int 3)).engine {} 1 2
    let state : State Unit := ⟨World.defining "__len__", ()⟩
    let point : Value := .object ⟨300, ⟨18⟩, none, .empty⟩
    engine.TruthOfLength {} state point ∧
      (engine.truthy point {} state).Agree
        (engine.length point (({} : Roots).addValues [point]) state) := by
  intro engine state point
  have judged : engine.TruthOfLength {} state point :=
    truth_is_length_iff engine {} state _ (by decide) rfl
  refine ⟨judged, judged.agree_iff.mpr fun answer? later asked => ?_⟩
  have three : engine.callSpecial point "__len__" [] (({} : Roots).addValues [point]) state =
      .done (.ok (some (.int 3))) _ := rfl
  rw [three] at asked
  cases asked
  exact ⟨.int 3, 3, rfl, rfl, by decide⟩

-- A negative answer is true, and is refused as a length.
theorem true_without_length :
    let engine := (constantHost (.int (-1))).engine {} 1 2
    let state : State Unit := ⟨World.defining "__len__", ()⟩
    let point : Value := .object ⟨300, ⟨18⟩, none, .empty⟩
    state.world.lookup (state.world.typeOf point) "__bool__" = none ∧
    (state.world.lookup (state.world.typeOf point) "__len__").isSome = true ∧
    (∃ later, engine.truthy point {} state = .done (.ok true) later) ∧
    ∃ later, engine.length point {} state = .done (.error (.notASize "__len__")) later := by
  intro engine state point
  exact ⟨rfl, rfl, ⟨_, rfl⟩, _, rfl⟩

end Engine

end ObjectModel
