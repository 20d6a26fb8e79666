import ObjectModel.Proofs.Suspension

set_option autoImplicit false

namespace ObjectModel

section

variable {σ α : Type}

def State.withRecord (state : State σ) (record : List Resumption) :
    State (σ × List Resumption) where
  world := state.world
  host := (state.host, record)

def Outcome.withRecord (record : List Resumption) :
    Outcome σ α → Outcome (σ × List Resumption) α
  | .done result state => .done result (state.withRecord record)
  | .abandoned state => .abandoned (state.withRecord record)
  | .exhausted => .exhausted

def Eval.besideRecord (operation : Eval σ α) : Eval (σ × List Resumption) α := fun held state =>
  (operation held ⟨state.world, state.host.1⟩).withRecord state.host.2

/-- The engine with a record of the host code that it is asked to go on with. -/
def Engine.recording (engine : Engine σ) : Engine (σ × List Resumption) where
  limits := engine.limits
  patience := engine.patience
  call callee arguments := (engine.call callee arguments).besideRecord
  run code arguments := (engine.run code arguments).besideRecord
  proceed resumption := do
    -- What fails was asked for as well.
    Eval.modifyHost fun host => (host.1, host.2 ++ [resumption])
    (engine.proceed resumption).besideRecord
  release cursor := (engine.release cursor).besideRecord

theorem State.withRecord_inj {state other : State σ} {record record' : List Resumption} :
    state.withRecord record = other.withRecord record' ↔ state = other ∧ record = record' := by
  obtain ⟨world, host⟩ := state
  obtain ⟨world', host'⟩ := other
  simp [withRecord, and_assoc]

end

namespace Engine

variable {σ α β : Type} {engine : Engine σ} {held : Roots} {limit remaining : Nat}
  {completion reached : Completion α} {state middle later : State σ} {trail : List Resumption}

theorem recording_resume (suspension : Suspension α) (record : List Resumption) :
    engine.recording.resume suspension held (state.withRecord record) =
      (engine.resume suspension held state).withRecord (record ++ [suspension.rest]) := by
  have recorded : engine.recording.proceed suspension.rest held (state.withRecord record) =
      (engine.proceed suspension.rest held state).withRecord (record ++ [suspension.rest]) := rfl
  rw [resume, resume, Eval.bind_apply, Eval.bind_apply, recorded]
  cases engine.proceed suspension.rest held state with
  | done result later => cases result <;> rfl
  | abandoned later => rfl
  | exhausted => rfl

/-- Where resuming optional suspensions one after the other gets to from a completion, and what was
resumed on the way. -/
inductive Resumes (engine : Engine σ) (held : Roots) :
    Completion α → State σ → List Resumption → Completion α → State σ → Prop where
  | none {completion : Completion α} {state : State σ} :
    Resumes engine held completion state [] completion state
  | more {suspension : Suspension α} {next reached : Completion α} {state middle later : State σ}
    {trail : List Resumption} (hint : suspension.kind = .optional)
    (resumed : engine.resume suspension held state = .done (.ok next) middle)
    (rest : Resumes engine held next middle trail reached later) :
    Resumes engine held (.suspended suspension) state (suspension.rest :: trail) reached later

inductive Fails (engine : Engine σ) (held : Roots) (limit remaining : Nat)
    (completion : Completion α) (state : State σ) : List Resumption → Error → State σ → Prop where
  -- A blocking suspension is not resumed, and comes before the limit.
  | blocked {suspension : Suspension α} {later : State σ} {trail : List Resumption}
    (within : trail.length ≤ remaining)
    (resumes : engine.Resumes held completion state trail (.suspended suspension) later)
    (blocking : suspension.kind = .blocking) :
    Fails engine held limit remaining completion state trail
      (.blockedSuspension suspension.label) later
  | unfinished {suspension : Suspension α} {later : State σ} {trail : List Resumption}
    (spent : trail.length = remaining)
    (resumes : engine.Resumes held completion state trail (.suspended suspension) later)
    (hint : suspension.kind = .optional) :
    Fails engine held limit remaining completion state trail
      (.unfinishedSuspension suspension.label limit) later
  -- The failure of a resume may be any, also one that reads like the other two.
  | resume {suspension : Suspension α} {error : Error} {middle later : State σ}
    {trail : List Resumption} (within : trail.length < remaining)
    (resumes : engine.Resumes held completion state trail (.suspended suspension) middle)
    (hint : suspension.kind = .optional)
    (failed : engine.resume suspension held middle = .done (.error error) later) :
    Fails engine held limit remaining completion state (trail ++ [suspension.rest]) error later

inductive Ends (engine : Engine σ) (held : Roots) (limit remaining : Nat)
    (completion : Completion α) (state : State σ) : List Resumption → Outcome σ α → Prop where
  | ready {value : α} {later : State σ} {trail : List Resumption}
    (within : trail.length ≤ remaining)
    (resumes : engine.Resumes held completion state trail (.ready value) later) :
    Ends engine held limit remaining completion state trail (.done (.ok value) later)
  | failed {error : Error} {later : State σ} {trail : List Resumption}
    (fails : engine.Fails held limit remaining completion state trail error later) :
    Ends engine held limit remaining completion state trail (.done (.error error) later)
  | abandoned {suspension : Suspension α} {middle later : State σ} {trail : List Resumption}
    (within : trail.length < remaining)
    (resumes : engine.Resumes held completion state trail (.suspended suspension) middle)
    (hint : suspension.kind = .optional)
    (gaveUp : engine.resume suspension held middle = .abandoned later) :
    Ends engine held limit remaining completion state (trail ++ [suspension.rest])
      (.abandoned later)
  | exhausted {suspension : Suspension α} {middle : State σ} {trail : List Resumption}
    (within : trail.length < remaining)
    (resumes : engine.Resumes held completion state trail (.suspended suspension) middle)
    (hint : suspension.kind = .optional)
    (ranOut : engine.resume suspension held middle = .exhausted) :
    Ends engine held limit remaining completion state (trail ++ [suspension.rest]) .exhausted

def resumeTimes (engine : Engine σ) : Nat → Completion α → Eval σ (Completion α)
  | 0, completion => pure completion
  | _ + 1, .ready value => pure (.ready value)
  | count + 1, .suspended suspension => do
    engine.resumeTimes count (← engine.resume suspension)

namespace Resumes

theorem drain_eq (resumes : engine.Resumes held completion state trail reached later)
    (limit remaining : Nat) :
    engine.drain limit (trail.length + remaining) completion held state =
      engine.drain limit remaining reached held later := by
  induction resumes with
  | none => rw [List.length_nil, Nat.zero_add]
  | more hint resumed _ ih =>
    rw [List.length_cons, Nat.succ_add, drain_succ _ _ _ hint, Eval.bind_apply, resumed]
    exact ih

theorem recording (resumes : engine.Resumes held completion state trail reached later)
    (record : List Resumption) :
    engine.recording.Resumes held completion (state.withRecord record) trail reached
      (later.withRecord (record ++ trail)) := by
  induction resumes generalizing record with
  | none =>
    rw [List.append_nil]
    exact .none
  | more hint resumed _ ih =>
    rw [List.append_cons]
    refine .more hint ?_ (ih _)
    rw [recording_resume, resumed]
    rfl

theorem split (resumes : engine.Resumes held completion state trail reached later) (count : Nat) :
    ∃ middle between, engine.Resumes held completion state (trail.take count) middle between ∧
      engine.Resumes held middle between (trail.drop count) reached later := by
  induction resumes generalizing count with
  | none => exact ⟨_, _, by simpa using .none, by simpa using .none⟩
  | more hint resumed rest ih =>
    cases count with
    | zero => exact ⟨_, _, .none, .more hint resumed rest⟩
    | succ count =>
      obtain ⟨middle, between, front, back⟩ := ih count
      exact ⟨middle, between, .more hint resumed front, back⟩

-- Where the chain goes on, an optional suspension was reached.
theorem paused (resumes : engine.Resumes held completion state trail reached later) {count : Nat}
    (within : count < trail.length) :
    ∃ suspension between, suspension.kind = .optional ∧
      engine.Resumes held completion state (trail.take count) (.suspended suspension) between := by
  obtain ⟨middle, between, front, back⟩ := resumes.split count
  generalize left : trail.drop count = further at back
  cases back with
  | none =>
    have short := List.drop_eq_nil_iff.mp left
    omega
  | more hint resumed rest => exact ⟨_, between, hint, front⟩

theorem resumeTimes_eq (resumes : engine.Resumes held completion state trail reached later) :
    engine.resumeTimes trail.length completion held state = .done (.ok reached) later := by
  induction resumes with
  | none => rfl
  | more hint resumed _ ih =>
    rw [List.length_cons, resumeTimes, Eval.bind_apply, resumed]
    exact ih

end Resumes

theorem drain_blocking (limit remaining : Nat) {suspension : Suspension α}
    (blocking : suspension.kind = .blocking) :
    engine.drain limit remaining (.suspended suspension) =
      throw (.blockedSuspension suspension.label) := by
  cases remaining <;> simp [drain, blocking]

theorem drain_spent (limit : Nat) {suspension : Suspension α}
    (hint : suspension.kind = .optional) :
    engine.drain limit 0 (.suspended suspension) =
      throw (.unfinishedSuspension suspension.label limit) := by
  simp [drain, hint]

namespace Ends

variable {outcome : Outcome σ α}

theorem drain_eq
    (ends : engine.Ends held limit remaining completion state trail outcome) :
    engine.drain limit remaining completion held state = outcome := by
  cases ends with
  | ready within resumes =>
    obtain ⟨left, rfl⟩ := Nat.exists_eq_add_of_le within
    rw [resumes.drain_eq, drain_ready]
    rfl
  | failed fails =>
    cases fails with
    | blocked within resumes blocking =>
      obtain ⟨left, rfl⟩ := Nat.exists_eq_add_of_le within
      rw [resumes.drain_eq, drain_blocking _ _ blocking]
      rfl
    | unfinished spent resumes hint =>
      subst spent
      rw [← Nat.add_zero trail.length, resumes.drain_eq, drain_spent _ hint]
      rfl
    | resume within resumes hint failed =>
      obtain ⟨left, rfl⟩ := Nat.exists_eq_add_of_lt within
      rw [Nat.add_assoc, resumes.drain_eq, drain_succ _ _ _ hint, Eval.bind_apply, failed]
  | abandoned within resumes hint gaveUp =>
    obtain ⟨left, rfl⟩ := Nat.exists_eq_add_of_lt within
    rw [Nat.add_assoc, resumes.drain_eq, drain_succ _ _ _ hint, Eval.bind_apply, gaveUp]
  | exhausted within resumes hint ranOut =>
    obtain ⟨left, rfl⟩ := Nat.exists_eq_add_of_lt within
    rw [Nat.add_assoc, resumes.drain_eq, drain_succ _ _ _ hint, Eval.bind_apply, ranOut]

theorem recording (ends : engine.Ends held limit remaining completion state trail outcome)
    (record : List Resumption) :
    engine.recording.Ends held limit remaining completion (state.withRecord record) trail
      (outcome.withRecord (record ++ trail)) := by
  cases ends with
  | ready within resumes => exact .ready within (resumes.recording record)
  | failed fails =>
    refine .failed ?_
    cases fails with
    | blocked within resumes blocking => exact .blocked within (resumes.recording record) blocking
    | unfinished spent resumes hint => exact .unfinished spent (resumes.recording record) hint
    | resume within resumes hint failed =>
      refine .resume within (resumes.recording record) hint ?_
      rw [recording_resume, failed, List.append_assoc]
      rfl
  | abandoned within resumes hint gaveUp =>
    refine .abandoned within (resumes.recording record) hint ?_
    rw [recording_resume, gaveUp, List.append_assoc]
    rfl
  | exhausted within resumes hint ranOut =>
    refine .exhausted within (resumes.recording record) hint ?_
    rw [recording_resume, ranOut]
    rfl

theorem more {suspension : Suspension α} {next : Completion α}
    (hint : suspension.kind = .optional)
    (resumed : engine.resume suspension held state = .done (.ok next) middle)
    (ends : engine.Ends held limit remaining next middle trail outcome) :
    engine.Ends held limit (remaining + 1) (.suspended suspension) state
      (suspension.rest :: trail) outcome := by
  cases ends with
  | ready within resumes =>
    exact .ready (Nat.succ_le_succ within) (.more hint resumed resumes)
  | failed fails =>
    refine .failed ?_
    cases fails with
    | blocked within resumes blocking =>
      exact .blocked (Nat.succ_le_succ within) (.more hint resumed resumes) blocking
    | unfinished spent resumes hint' =>
      exact .unfinished (congrArg Nat.succ spent) (.more hint resumed resumes) hint'
    | resume within resumes hint' failed =>
      exact .resume (Nat.succ_lt_succ within) (.more hint resumed resumes) hint' failed
  | abandoned within resumes hint' gaveUp =>
    exact .abandoned (Nat.succ_lt_succ within) (.more hint resumed resumes) hint' gaveUp
  | exhausted within resumes hint' ranOut =>
    exact .exhausted (Nat.succ_lt_succ within) (.more hint resumed resumes) hint' ranOut

end Ends

theorem exists_ends (engine : Engine σ) (held : Roots) (limit remaining : Nat)
    (completion : Completion α) (state : State σ) :
    ∃ trail outcome, engine.Ends held limit remaining completion state trail outcome := by
  induction remaining generalizing completion state with
  | zero =>
    cases completion with
    | ready value => exact ⟨[], _, .ready (Nat.le_refl _) .none⟩
    | suspended suspension =>
      cases kind : suspension.kind with
      | blocking => exact ⟨[], _, .failed (.blocked (Nat.le_refl _) .none kind)⟩
      | optional => exact ⟨[], _, .failed (.unfinished rfl .none kind)⟩
  | succ remaining ih =>
    cases completion with
    | ready value => exact ⟨[], _, .ready (Nat.zero_le _) .none⟩
    | suspended suspension =>
      cases kind : suspension.kind with
      | blocking => exact ⟨[], _, .failed (.blocked (Nat.zero_le _) .none kind)⟩
      | optional =>
        have first : ([] : List Resumption).length < remaining + 1 := Nat.succ_pos remaining
        cases resumed : engine.resume suspension held state with
        | done result middle =>
          cases result with
          | ok next =>
            obtain ⟨trail, outcome, ends⟩ := ih next middle
            exact ⟨_, outcome, ends.more kind resumed⟩
          | error error =>
            exact ⟨_, _, .failed (.resume first .none kind resumed)⟩
        | abandoned later => exact ⟨_, _, .abandoned first .none kind resumed⟩
        | exhausted => exact ⟨_, _, .exhausted first .none kind resumed⟩

theorem recording_drain_iff (record : List Resumption)
    (outcome : Outcome (σ × List Resumption) α) :
    engine.recording.drain limit remaining completion held (state.withRecord record) = outcome ↔
      ∃ trail result, engine.Ends held limit remaining completion state trail result ∧
        outcome = result.withRecord (record ++ trail) := by
  constructor
  · rintro rfl
    obtain ⟨trail, result, ends⟩ := engine.exists_ends held limit remaining completion state
    exact ⟨trail, result, ends, (ends.recording record).drain_eq⟩
  · rintro ⟨trail, result, ends, rfl⟩
    exact (ends.recording record).drain_eq

theorem blocked_ne_unfinished (label other : String) (limit : Nat) :
    Error.blockedSuspension label ≠ Error.unfinishedSuspension other limit := by
  intro same
  have texts := congrArg String.toList (Error.internal.inj same)
  simp [toString] at texts

structure DrainsExactly (engine : Engine σ) (limit : Nat) (completion : Completion α)
    (held : Roots) (state : State σ) : Prop where
  -- The record is of what draining resumes, and makes no difference else.
  recorded : ∀ record, ∃ trail,
    engine.recording.finish limit completion held (state.withRecord record) =
      (engine.finish limit completion held state).withRecord (record ++ trail)
  ready : ∀ record record' value later,
    engine.recording.finish limit completion held (state.withRecord record) =
        .done (.ok value) (later.withRecord record') ↔
      ∃ trail, trail.length ≤ limit ∧ record' = record ++ trail ∧
        engine.Resumes held completion state trail (.ready value) later
  failed : ∀ record record' error later,
    engine.recording.finish limit completion held (state.withRecord record) =
        .done (.error error) (later.withRecord record') ↔
      ∃ trail, record' = record ++ trail ∧
        engine.Fails held limit limit completion state trail error later
  blocked : ∀ trail suspension later,
    engine.Resumes held completion state trail (.suspended suspension) later →
    suspension.kind = .blocking →
      (engine.finish limit completion held state =
          .done (.error (.blockedSuspension suspension.label)) later ↔
        trail.length ≤ limit)
  monotone : ∀ more value later, limit ≤ more →
    engine.finish limit completion held state = .done (.ok value) later →
    engine.finish more completion held state = .done (.ok value) later
  byHand : ∀ trail value later, trail.length ≤ limit →
    engine.Resumes held completion state trail (.ready value) later →
    ∀ count ≤ trail.length,
      (engine.resumeTimes count completion >>= engine.finish (limit - count)) held state =
        .done (.ok value) later
  settled : ∀ allowSuspend,
    engine.settle allowSuspend completion >>= engine.settle allowSuspend =
      engine.settle allowSuspend completion
  mapped : ∀ {β : Type} (change : α → β),
    engine.finish limit (completion.map change) = change <$> engine.finish limit completion ∧
    engine.recording.finish limit (completion.map change) =
      change <$> engine.recording.finish limit completion

/-- Draining makes the resumes of the chain up to its end or to the limit, and ends as they do. -/
theorem finish_exact (engine : Engine σ) (limit : Nat) (completion : Completion α) (held : Roots)
    (state : State σ) : engine.DrainsExactly limit completion held state where
  recorded record := by
    obtain ⟨trail, outcome, ends⟩ := engine.exists_ends held limit limit completion state
    refine ⟨trail, ?_⟩
    rw [finish, finish, ends.drain_eq, (ends.recording record).drain_eq]
  ready record record' value later := by
    rw [finish, recording_drain_iff]
    constructor
    · rintro ⟨trail, result, ends, same⟩
      cases ends with
      | ready within resumes =>
        obtain ⟨given, states⟩ := Outcome.done.inj same
        obtain ⟨rfl, rfl⟩ := State.withRecord_inj.mp states
        cases given
        exact ⟨trail, within, rfl, resumes⟩
      | failed | abandoned | exhausted => cases same
    · rintro ⟨trail, within, rfl, resumes⟩
      exact ⟨trail, _, .ready within resumes, rfl⟩
  failed record record' error later := by
    rw [finish, recording_drain_iff]
    constructor
    · rintro ⟨trail, result, ends, same⟩
      cases ends with
      | failed fails =>
        obtain ⟨given, states⟩ := Outcome.done.inj same
        obtain ⟨rfl, rfl⟩ := State.withRecord_inj.mp states
        cases given
        exact ⟨trail, rfl, fails⟩
      | ready | abandoned | exhausted => cases same
    · rintro ⟨trail, rfl, fails⟩
      exact ⟨trail, _, .failed fails, rfl⟩
  blocked trail suspension later resumes blocking := by
    refine ⟨fun done => ?_, fun within =>
      Ends.drain_eq (.failed (.blocked within resumes blocking))⟩
    refine Nat.le_of_not_lt fun beyond => ?_
    -- An optional suspension is left where the limit is spent, and has another error.
    obtain ⟨left, between, hint, front⟩ := resumes.paused beyond
    have spent : (trail.take limit).length = limit :=
      List.length_take_of_le (Nat.le_of_lt beyond)
    have ended : engine.finish limit completion held state = _ :=
      Ends.drain_eq (.failed (.unfinished spent front hint))
    rw [ended] at done
    exact blocked_ne_unfinished _ _ _ (Except.error.inj (Outcome.done.inj done).1).symm
  monotone more value later wider done := by
    obtain ⟨trail, outcome, ends⟩ := engine.exists_ends held limit limit completion state
    rw [finish, ends.drain_eq] at done
    subst done
    cases ends with
    | ready within resumes => exact Ends.drain_eq (.ready (Nat.le_trans within wider) resumes)
  byHand trail value later within resumes count few := by
    obtain ⟨middle, between, front, back⟩ := resumes.split count
    have byHand := front.resumeTimes_eq
    rw [List.length_take_of_le few] at byHand
    rw [Eval.bind_apply, byHand]
    refine Ends.drain_eq (.ready ?_ back)
    rw [List.length_drop]
    omega
  settled allowSuspend := by
    cases allowSuspend with
    | true => rfl
    | false =>
      cases completion with
      | ready value => simp
      | suspended suspension => simp [settle, Completion.isReady]
  mapped change := ⟨engine.drain_map change _ _ _, engine.recording.drain_map change _ _ _⟩

end Engine

end ObjectModel
