import ObjectModel.Proofs.SpecialMethods

set_option autoImplicit false

namespace ObjectModel

/-- What the operation gives on a large enough budget; on a smaller one it gives that or nothing. -/
structure Host.Returns {σ α : Type} (host : Host σ) (limits : Limits)
    (operation : Engine σ → Eval σ α) (held : Roots) (state : State σ)
    (result : Except Error α) (later : State σ) : Prop where
  steady : ∀ patience depth,
    operation (host.engine limits patience depth) held state = .exhausted ∨
    operation (host.engine limits patience depth) held state = .done result later
  enough : ∃ budget, ∀ patience depth, budget ≤ patience → budget ≤ depth →
    operation (host.engine limits patience depth) held state = .done result later

def Host.Completes {σ α : Type} (host : Host σ) (limits : Limits)
    (operation : Engine σ → Eval σ α) (held : Roots) (state : State σ) : Prop :=
  ∃ result later, host.Returns limits operation held state result later

-- The code returns however often it is resumed from here on.
def Host.ReturnsThroughout {σ : Type} (host : Host σ) (limits : Limits) (code : Code)
    (arguments : List Value) (held : Roots) (state : State σ) : Prop :=
  ∃ stays : State σ → Prop, stays state ∧ ∀ stage middle, stays middle →
    ∃ result later, stays later ∧
      host.Returns limits (·.proceed ⟨code, arguments, stage⟩) held middle result later

section Budgets

variable {σ α β : Type} {host : Host σ} {limits : Limits} {operation : Engine σ → Eval σ α}
  {next : Engine σ → α → Eval σ β} {held : Roots} {state middle later : State σ}

@[simp]
theorem Host.engine_patience (host : Host σ) (limits : Limits) (patience depth : Nat) :
    (host.engine limits patience depth).patience = patience := by
  cases depth <;> rfl

@[simp]
theorem Host.engine_limits (host : Host σ) (limits : Limits) (patience depth : Nat) :
    (host.engine limits patience depth).limits = limits := by
  cases depth <;> rfl

theorem Host.engine_call (host : Host σ) (limits : Limits) (patience depth : Nat) (callee : Value)
    (arguments : Arguments) :
    (host.engine limits patience (depth + 1)).call callee arguments held state =
      (host.engine limits patience depth).callValue callee arguments
        (held.addValues (callee :: arguments.values)) state :=
  rfl

namespace Host.Returns

theorem of_forall {result : Except Error α}
    (gives : ∀ engine : Engine σ, operation engine held state = .done result later) :
    host.Returns limits operation held state result later :=
  ⟨fun _ _ => .inr (gives _), 0, fun _ _ _ _ => gives _⟩

-- The patience does not count where nothing is judged or collected.
theorem of_depth {result : Except Error α} (least : Nat)
    (short : ∀ patience depth, depth < least →
      operation (host.engine limits patience depth) held state = .exhausted)
    (gives : ∀ patience depth,
      operation (host.engine limits patience (depth + least)) held state = .done result later) :
    host.Returns limits operation held state result later := by
  have deep {patience depth : Nat} (reaches : least ≤ depth) :
      operation (host.engine limits patience depth) held state = .done result later := by
    obtain ⟨more, rfl⟩ := Nat.exists_eq_add_of_le' reaches
    exact gives patience more
  constructor
  case steady =>
    intro patience depth
    rcases Nat.lt_or_ge depth least with less | reaches
    · exact .inl (short patience depth less)
    · exact .inr (deep reaches)
  case enough => exact ⟨least, fun _ _ _ reaches => deep reaches⟩

theorem congr {other : Engine σ → Eval σ α} {result : Except Error α}
    (returns : host.Returns limits operation held state result later)
    (same : ∀ patience depth, other (host.engine limits patience depth) held state =
      operation (host.engine limits patience depth) held state) :
    host.Returns limits other held state result later := by
  constructor
  case steady =>
    intro patience depth
    rw [same]
    exact returns.steady patience depth
  case enough =>
    obtain ⟨budget, done⟩ := returns.enough
    refine ⟨budget, fun patience depth patient deep => ?_⟩
    rw [same]
    exact done patience depth patient deep

theorem unique {result other : Except Error α} {last : State σ}
    (first : host.Returns limits operation held state result later)
    (second : host.Returns limits operation held state other last) :
    result = other ∧ later = last := by
  obtain ⟨budget, done⟩ := first.enough
  obtain ⟨budget', done'⟩ := second.enough
  have done := done (max budget budget') (max budget budget') (by omega) (by omega)
  have same := done.symm.trans (done' _ _ (by omega) (by omega))
  injection same with result later
  exact ⟨result, later⟩

theorem bind {value : α} {result : Except Error β}
    (first : host.Returns limits operation held state (.ok value) middle)
    (rest : host.Returns limits (next · value) held middle result later) :
    host.Returns limits (fun engine => operation engine >>= next engine) held state result
      later := by
  constructor
  case steady =>
    intro patience depth
    rw [Eval.bind_apply]
    rcases first.steady patience depth with ranOut | done
    · exact .inl (by rw [ranOut])
    · rw [done]
      exact rest.steady patience depth
  case enough =>
    obtain ⟨budget, done⟩ := first.enough
    obtain ⟨budget', done'⟩ := rest.enough
    refine ⟨max budget budget', fun patience depth patient deep => ?_⟩
    rw [Eval.bind_apply, done _ _ (by omega) (by omega)]
    exact done' _ _ (by omega) (by omega)

theorem bind_error {error : Error}
    (first : host.Returns limits operation held state (.error error) later) :
    host.Returns limits (fun engine => operation engine >>= next engine) held state (.error error)
      later := by
  constructor
  case steady =>
    intro patience depth
    rw [Eval.bind_apply]
    rcases first.steady patience depth with ranOut | done
    · exact .inl (by rw [ranOut])
    · exact .inr (by rw [done])
  case enough =>
    obtain ⟨budget, done⟩ := first.enough
    refine ⟨budget, fun patience depth patient deep => ?_⟩
    rw [Eval.bind_apply, done _ _ patient deep]

theorem call {callee : Value} {arguments : Arguments} {result : Except Error Value}
    (returns : host.Returns limits (·.callValue callee arguments)
      (held.addValues (callee :: arguments.values)) state result later) :
    host.Returns limits (·.call callee arguments) held state result later := by
  constructor
  case steady =>
    intro patience depth
    cases depth with
    | zero => exact .inl rfl
    | succ depth => exact returns.steady patience depth
  case enough =>
    obtain ⟨budget, done⟩ := returns.enough
    refine ⟨budget + 1, fun patience depth patient deep => ?_⟩
    obtain ⟨depth, rfl⟩ := Nat.exists_eq_succ_of_ne_zero (show depth ≠ 0 by omega)
    exact done patience depth (by omega) (by omega)

end Host.Returns

theorem Host.Completes.bind (first : host.Completes limits operation held state)
    (rest : ∀ value middle, host.Returns limits operation held state (.ok value) middle →
      host.Completes limits (next · value) held middle) :
    host.Completes limits (fun engine => operation engine >>= next engine) held state := by
  obtain ⟨result, middle, returns⟩ := first
  cases result with
  | error error => exact ⟨_, _, returns.bind_error⟩
  | ok value =>
    obtain ⟨result, later, returns'⟩ := rest value middle returns
    exact ⟨_, _, returns.bind returns'⟩

theorem Host.Completes.congr {other : Engine σ → Eval σ α}
    (completes : host.Completes limits operation held state)
    (same : ∀ patience depth, other (host.engine limits patience depth) held state =
      operation (host.engine limits patience depth) held state) :
    host.Completes limits other held state := by
  obtain ⟨result, later, returns⟩ := completes
  exact ⟨result, later, returns.congr same⟩

theorem Host.Completes.of_forall {result : Except Error α}
    (gives : ∀ engine : Engine σ, operation engine held state = .done result later) :
    host.Completes limits operation held state :=
  ⟨_, _, .of_forall gives⟩

section Getters

variable {code : Code} {arguments : List Value} {receiver : Value} {name : String}

-- Draining is limited, so that it ends if each resume does.
theorem Host.drain_completes {stays : State σ → Prop}
    (resumes : ∀ stage middle, stays middle → ∃ result later, stays later ∧
      host.Returns limits (·.proceed ⟨code, arguments, stage⟩) held middle result later)
    (limit remaining stage : Nat) (progress : Progress) (stay : stays state) :
    host.Completes limits
      (fun engine => engine.drain limit remaining (.ofProgress ⟨code, arguments, stage⟩ progress))
      held state := by
  induction remaining generalizing stage progress state with
  | zero =>
    cases progress with
    | finished value => exact .of_forall fun _ => rfl
    | paused kind label => cases kind <;> exact .of_forall fun _ => rfl
  | succ remaining ih =>
    cases progress with
    | finished value => exact .of_forall fun _ => rfl
    | paused kind label =>
      cases kind with
      | blocking => exact .of_forall fun _ => rfl
      | optional =>
        simp only [Engine.drain_paused_succ]
        obtain ⟨result, later, stay', returns⟩ := resumes (stage + 1) state stay
        cases result with
        | error error => exact ⟨_, _, returns.bind_error⟩
        | ok progress =>
          obtain ⟨result, last, returns'⟩ := ih (stage + 1) progress stay'
          exact ⟨result, last, returns.bind returns'⟩

theorem Host.ReturnsThroughout.start_completes
    (throughout : host.ReturnsThroughout limits code arguments held state) :
    host.Completes limits (fun engine => engine.start code arguments >>= engine.complete)
      held state := by
  obtain ⟨stays, stay, resumes⟩ := throughout
  have drained : host.Completes limits (fun engine =>
      engine.proceed ⟨code, arguments, 0⟩ >>= fun progress =>
        engine.drain limits.maxSuspensionResumes limits.maxSuspensionResumes
          (.ofProgress ⟨code, arguments, 0⟩ progress)) held state := by
    obtain ⟨result, later, stay', returns⟩ := resumes 0 state stay
    cases result with
    | error error => exact ⟨_, _, returns.bind_error⟩
    | ok progress =>
      obtain ⟨result, last, returns'⟩ := drain_completes resumes _ _ 0 progress stay'
      exact ⟨result, last, returns.bind returns'⟩
  refine drained.congr fun patience depth => ?_
  simp only [Engine.start, bind_assoc, pure_bind, Engine.complete, Engine.finish, engine_limits]

theorem Host.readGetter_completes {getter : Getter}
    (throughout : ∀ code, getter = .code code →
      host.ReturnsThroughout limits code [receiver] held state) :
    host.Completes limits (fun engine => engine.readGetter getter receiver >>= engine.complete)
      held state := by
  cases getter with
  | code code => exact (throughout code rfl).start_completes
  | typeOf =>
    simp only [Engine.readGetter, bind_assoc, pure_bind, Engine.complete_ready]
    exact .of_forall fun _ => rfl
  | _ =>
    simp only [Engine.readGetter, bind_assoc, pure_bind, Engine.complete_ready]
    cases receiver <;> exact .of_forall fun _ => rfl

theorem Host.descriptorGet_completes {found : Value} {type : TypeKey}
    (throughout : ∀ code arguments, Engine.getterCall? receiver type found = some (code, arguments) →
      host.ReturnsThroughout limits code arguments held state) :
    host.Completes limits
      (fun engine => engine.descriptorGet found (some receiver) type false >>= engine.complete)
      held state := by
  cases found with
  | function function =>
    cases binding : function.binding <;>
      simp only [Engine.descriptorGet, binding, bind_assoc, pure_bind, Engine.complete_ready] <;>
      exact .of_forall fun _ => rfl
  | descriptor descriptor =>
    simp only [Engine.descriptorGet, Option.isNone_some, Bool.and_false, Bool.false_eq_true,
      if_false, bind_assoc, Engine.settle_complete]
    cases descriptor with
    | accessor serial name data getter setter => exact (throughout _ _ rfl).start_completes
    | property serial name getter setter =>
      apply readGetter_completes
      rintro code rfl
      exact throughout code _ rfl
  | _ =>
    simp only [Engine.descriptorGet, pure_bind, Engine.complete_ready]
    exact .of_forall fun _ => rfl

theorem Engine.lookupSpecial_none {engine : Engine σ}
    (absent : state.world.lookup (state.world.typeOf receiver) name = none) :
    engine.lookupSpecial receiver name held state = .done (.ok none) state := by
  rw [lookupSpecial, Eval.world_bind_apply, absent]
  rfl

theorem Host.lookupSpecial_completes
    (throughout : ∀ code arguments, (state.world.entry? receiver name).bind
        (Engine.getterCall? receiver (state.world.typeOf receiver)) = some (code, arguments) →
      host.ReturnsThroughout limits code arguments held state) :
    host.Completes limits (·.lookupSpecial receiver name) held state := by
  rw [World.entry?] at throughout
  cases entry : state.world.lookup (state.world.typeOf receiver) name with
  | none => exact .of_forall fun _ => Engine.lookupSpecial_none entry
  | some found =>
    rw [entry] at throughout
    have fetched : host.Completes limits (fun engine =>
        engine.descriptorGet found (some receiver) (state.world.typeOf receiver) false >>=
          engine.complete >>= fun method => pure (some method)) held state :=
      (descriptorGet_completes throughout).bind fun _ _ _ => .of_forall fun _ => rfl
    refine fetched.congr fun patience depth => ?_
    rw [Engine.lookupSpecial, Eval.world_bind_apply, entry, bind_assoc]

end Getters

end Budgets

end ObjectModel
