import ObjectModel.Proofs.Resolution

set_option autoImplicit false

namespace ObjectModel

namespace Engine

variable {σ α β : Type} (engine : Engine σ)

theorem drain_succ (limit remaining : Nat) {suspension : Suspension α}
    (hint : suspension.kind = .optional) :
    engine.drain limit (remaining + 1) (.suspended suspension) =
      engine.resume suspension >>= engine.drain limit remaining := by
  simp [drain, hint]

theorem drain_ready (limit remaining : Nat) (value : α) :
    engine.drain limit remaining (.ready value) = pure value := by
  cases remaining <;> rfl

theorem resume_map (change : α → β) (suspension : Suspension α) :
    engine.resume { suspension with wrap := fun value => change (suspension.wrap value) } =
      Completion.map change <$> engine.resume suspension := by
  simp [resume, Completion.map_map]

theorem drain_map (change : α → β) (limit remaining : Nat) (completion : Completion α) :
    engine.drain limit remaining (completion.map change) =
      change <$> engine.drain limit remaining completion := by
  induction remaining generalizing completion with
  | zero =>
    cases completion with
    | ready value => rfl
    | suspended suspension =>
      obtain ⟨label, kind, rest, wrap⟩ := suspension
      cases kind <;> rfl
  | succ remaining ih =>
    cases completion with
    | ready value => rfl
    | suspended suspension =>
      obtain ⟨label, kind, rest, wrap⟩ := suspension
      cases kind with
      | blocking => rfl
      | optional =>
        -- The change goes along with the suspension and is made to what each resume gives.
        have resumed := engine.resume_map change ⟨label, .optional, rest, wrap⟩
        rw [Completion.map, drain_succ _ _ _ rfl, drain_succ _ _ _ rfl, resumed]
        simp only [bind_map_left, ih, map_bind]

theorem complete_map (change : α → β) (completion : Completion α) :
    engine.complete (completion.map change) = change <$> engine.complete completion :=
  engine.drain_map change _ _ completion

@[simp]
theorem complete_ready (value : α) : engine.complete (.ready value) = pure value :=
  engine.drain_ready _ _ value

theorem drain_paused_succ (limit remaining : Nat) (resumption : Resumption) (label : String) :
    engine.drain limit (remaining + 1) (.ofProgress resumption (.paused .optional label)) =
      engine.proceed resumption.next >>= fun progress =>
        engine.drain limit remaining (.ofProgress resumption.next progress) := by
  rw [Completion.ofProgress, drain_succ _ _ _ rfl]
  simp [resume]

def RunsAlike (code : Code) (left right : List Value) : Prop :=
  ∀ stage, engine.proceed ⟨code, left, stage⟩ = engine.proceed ⟨code, right, stage⟩

variable {engine}

theorem RunsAlike.drain_eq {code : Code} {left right : List Value}
    (alike : engine.RunsAlike code left right) (limit remaining stage : Nat)
    (progress : Progress) :
    engine.drain limit remaining (.ofProgress ⟨code, left, stage⟩ progress) =
      engine.drain limit remaining (.ofProgress ⟨code, right, stage⟩ progress) := by
  -- Each resume leads to the next stage, so the claim is about all stages at once.
  induction remaining generalizing stage progress with
  | zero =>
    cases progress with
    | finished value => rfl
    | paused kind label => cases kind <;> rfl
  | succ remaining ih =>
    cases progress with
    | finished value => rfl
    | paused kind label =>
      cases kind with
      | blocking => rfl
      | optional =>
        rw [drain_paused_succ, drain_paused_succ]
        simp only [Resumption.next, alike (stage + 1), ih]

variable (engine)

def ask (code : Code) (arguments : Bool → List Value) (wrap : Value → α) (allowSuspend : Bool) :
    Eval σ (Completion α) := do
  -- The code may be told whether the caller can suspend.
  engine.settle allowSuspend ((← engine.start code (arguments allowSuspend)).map wrap)

def Indifferent : Descriptor → Prop
  | .property .. => True
  | .accessor _ _ _ getter setter =>
    (∀ receiver owner, engine.RunsAlike getter
      [receiver, .type owner, .bool true] [receiver, .type owner, .bool false]) ∧
    ∀ receiver value given, engine.RunsAlike setter
      [receiver, value, given, .bool true] [receiver, value, given, .bool false]

variable {engine}

/-- How an access goes about its work from some state on: it is done with it at once and without any
engine, or it asks the code of a descriptor that it has found. -/
inductive Route (found : Descriptor → Prop) (access : Engine σ → Bool → Eval σ (Completion α))
    (held : Roots) (state : State σ) : Prop where
  | own (operation : Eval σ α)
    (equal : ∀ engine allowSuspend, access engine allowSuspend held state =
      (Completion.ready <$> operation) held state)
  | asking (descriptor : Descriptor) (member : found descriptor) (code : Code)
    (arguments : Bool → List Value) (wrap : Value → α)
    (alike : ∀ engine : Engine σ, engine.Indifferent descriptor →
      engine.RunsAlike code (arguments true) (arguments false))
    (equal : ∀ engine allowSuspend, access engine allowSuspend held state =
      engine.ask code arguments wrap allowSuspend held state)

@[simp]
theorem settle_ready (allowSuspend : Bool) (value : α) :
    engine.settle allowSuspend (.ready value) = pure (.ready value) := by
  simp [settle, Completion.isReady]

theorem ask_map (code : Code) (arguments : Bool → List Value) (wrap : Value → α) (change : α → β)
    (allowSuspend : Bool) :
    Completion.map change <$> engine.ask code arguments wrap allowSuspend =
      engine.ask code arguments (fun value => change (wrap value)) allowSuspend := by
  have settled (completion : Completion α) : Completion.map change <$>
      engine.settle allowSuspend completion =
        engine.settle allowSuspend (completion.map change) := by
    simp only [settle, Completion.isReady_map, complete_map]
    split <;> simp [Completion.map]
  simp [ask, map_bind, settled, Completion.map_map]

namespace Route

variable {found : Descriptor → Prop} {access : Engine σ → Bool → Eval σ (Completion α)}
  {held : Roots} {state : State σ}

theorem map (route : Route found access held state) (change : α → β) :
    Route found (fun engine allowSuspend => Completion.map change <$> access engine allowSuspend)
      held state := by
  cases route with
  | own operation equal =>
    refine .own (change <$> operation) fun engine allowSuspend => ?_
    rw [Eval.map_congr (equal engine allowSuspend)]
    simp [Completion.map]
  | asking descriptor member code arguments wrap alike equal =>
    refine .asking descriptor member code arguments (fun value => change (wrap value)) alike
      fun engine allowSuspend => ?_
    rw [Eval.map_congr (equal engine allowSuspend), ask_map]

theorem weaken {wider : Descriptor → Prop} (route : Route found access held state)
    (within : ∀ descriptor, found descriptor → wider descriptor) :
    Route wider access held state := by
  cases route with
  | own operation equal => exact .own operation equal
  | asking descriptor member code arguments wrap alike equal =>
    exact .asking descriptor (within descriptor member) code arguments wrap alike equal

theorem congr {other : Engine σ → Bool → Eval σ (Completion α)}
    (route : Route found access held state)
    (same : ∀ engine allowSuspend, other engine allowSuspend held state =
      access engine allowSuspend held state) :
    Route found other held state := by
  cases route with
  | own operation equal =>
    exact .own operation fun engine allowSuspend => by rw [same, equal]
  | asking descriptor member code arguments wrap alike equal =>
    exact .asking descriptor member code arguments wrap alike
      fun engine allowSuspend => by rw [same, equal]

end Route

theorem readDescriptor_route (descriptor : Descriptor) (receiver? : Option Value)
    (owner : TypeKey) (held : Roots) (state : State σ) :
    Route (· = descriptor) (fun engine allowSuspend =>
      engine.readDescriptor descriptor receiver? owner allowSuspend >>= engine.settle allowSuspend)
      held state := by
  cases descriptor with
  | accessor serial name data getter setter =>
    refine .asking _ rfl getter
      (fun allowSuspend => [receiver?.getD .none, .type owner, .bool allowSuspend]) id
      (fun _ alike => alike.1 _ _) fun engine allowSuspend => ?_
    simp [readDescriptor, ask]
  | property serial name getter setter =>
    cases receiver? with
    | none =>
      refine .own (do throw (.propertyWithoutInstance name ((← Eval.world).nameOf owner)))
        fun _ _ => ?_
      simp [readDescriptor]
    | some receiver =>
      cases getter with
      | code code =>
        refine .asking _ rfl code (fun _ => [receiver]) id (fun _ _ _ => rfl)
          fun engine allowSuspend => ?_
        simp [readDescriptor, readGetter, ask]
      | typeOf =>
        refine .own (do return .type ((← Eval.world).typeOf receiver)) fun _ _ => ?_
        simp [readDescriptor, readGetter]
      | typeName =>
        refine .own (do return .str ((← Eval.world).nameOf (← typeReceiver receiver)))
          fun _ _ => ?_
        simp [readDescriptor, readGetter]
      | typeBase =>
        refine .own (do
          let key ← typeReceiver receiver
          return (((← Eval.world).type? key).bind (·.base)).elim .none .type) fun _ _ => ?_
        simp [readDescriptor, readGetter]
      | typeChain =>
        refine .own (do
          let key ← typeReceiver receiver
          Eval.tuple (((← Eval.world).chain key).map .type)) fun _ _ => ?_
        simp [readDescriptor, readGetter]

theorem writeDescriptor_route (descriptor : Descriptor) (receiver : Value)
    (value? : Option Value) (held : Roots) (state : State σ) :
    Route (· = descriptor) (fun engine allowSuspend =>
      engine.writeDescriptor descriptor receiver value? allowSuspend >>=
        engine.settle allowSuspend) held state := by
  cases descriptor with
  | accessor serial name data getter setter =>
    refine .asking _ rfl setter
      (fun allowSuspend =>
        [receiver, value?.getD .none, .bool value?.isSome, .bool allowSuspend])
      (fun _ => ()) (fun _ alike => alike.2 _ _ _) fun engine allowSuspend => ?_
    simp [writeDescriptor, ask]
  | property serial name getter setter =>
    cases setter with
    | none =>
      refine .own (.failFor receiver fun typeName =>
        .readOnlyProperty name typeName value?.isNone) fun _ _ => ?_
      simp [writeDescriptor, Eval.failFor]
    | some setter =>
      refine .asking _ rfl setter
        (fun _ => [receiver, value?.getD .none, .bool value?.isSome]) (fun _ => ())
        (fun _ _ _ => rfl) fun engine allowSuspend => ?_
      simp [writeDescriptor, ask]

theorem descriptorGet_route (found : Value) (receiver? : Option Value) (owner : TypeKey)
    (held : Roots) (state : State σ) :
    Route (fun descriptor => found = .descriptor descriptor)
      (fun engine allowSuspend => engine.descriptorGet found receiver? owner allowSuspend)
      held state := by
  cases found with
  | descriptor descriptor =>
    by_cases given : descriptor.isData && receiver?.isNone
    · refine .own (pure (.descriptor descriptor)) fun _ _ => ?_
      simp [descriptorGet, given]
    · have route := readDescriptor_route descriptor receiver? owner held state
      refine (route.weaken fun _ same => by rw [same]).congr fun engine allowSuspend => ?_
      simp [descriptorGet, given]
  | function function =>
    cases receiver? with
    | none => exact .own (pure (.function function)) fun _ _ => rfl
    | some receiver =>
      cases binding : function.binding with
      | static =>
        refine .own (pure (.function function)) fun _ _ => ?_
        simp [descriptorGet, binding]
      | method =>
        refine .own (do return .boundMethod (← Eval.create World.newSerial) function receiver)
          fun _ _ => ?_
        simp [descriptorGet, binding]
  | _ => exact .own (pure _) fun _ _ => rfl

theorem descriptorSet_route (found receiver : Value) (value? : Option Value) (held : Roots)
    (state : State σ) :
    Route (fun descriptor => found = .descriptor descriptor)
      (fun engine allowSuspend => engine.descriptorSet found receiver value? allowSuspend)
      held state := by
  cases found with
  | descriptor descriptor =>
    by_cases data : descriptor.isData
    · have route := writeDescriptor_route descriptor receiver value? held state
      refine (route.weaken fun _ same => by rw [same]).congr fun engine allowSuspend => ?_
      simp [descriptorSet, data]
    · refine .own (.failFor (.descriptor descriptor) .notADataDescriptor) fun _ _ => ?_
      simp [descriptorSet, data, Eval.failFor]
  | _ => exact .own (.failFor _ .notADataDescriptor) fun _ _ => rfl

end Engine

def World.classEntries (world : World) (receiver : Value) (name : String) : List Value :=
  (world.entry? receiver name).toList ++ (receiver.asType?.bind (world.lookup · name)).toList

namespace Engine

variable {σ α : Type} {engine : Engine σ}

theorem fetch_route (found? : Option Value) (receiver : Value) (type : TypeKey) (held : Roots)
    (state : State σ) :
    Route (fun descriptor => found? = some (.descriptor descriptor))
      (fun engine allowSuspend => engine.fetch found? receiver type allowSuspend) held state := by
  cases found? with
  | none => exact .own (pure none) fun _ _ => rfl
  | some found =>
    have route := ((descriptorGet_route found (some receiver) type held state).map some).weaken
      fun _ same => congrArg some same
    cases category : found.category with
    | plain =>
      refine .own (pure (some found)) fun _ _ => ?_
      simp [fetch, category]
    | nonData =>
      refine route.congr fun _ _ => ?_
      simp [fetch, category]
    | data =>
      refine route.congr fun _ _ => ?_
      simp [fetch, category]

theorem giveOwn_route (receiver own : Value) (held : Roots) (state : State σ) :
    Route (fun descriptor => receiver.asType?.isSome ∧ own = .descriptor descriptor)
      (fun engine allowSuspend => engine.giveOwn receiver own allowSuspend) held state := by
  cases receiver with
  | type type =>
    have route := (descriptorGet_route own none type held state).map some
    refine (route.weaken fun _ same => ⟨rfl, same⟩).congr fun _ _ => ?_
    rw [giveOwn_type]
  | _ => exact .own (pure (some own)) fun _ _ => rfl

theorem getAttribute_route (receiver : Value) (name : String) (held : Roots) (state : State σ) :
    Route (fun descriptor => .descriptor descriptor ∈ state.world.classEntries receiver name)
      (fun engine allowSuspend => engine.getAttribute receiver name allowSuspend) held state := by
  have onType := (fetch_route (state.world.entry? receiver name) receiver
    (state.world.typeOf receiver) held state).weaken fun descriptor same =>
      show .descriptor descriptor ∈ state.world.classEntries receiver name by
        simp [World.classEntries, same]
  cases data : (state.world.entry? receiver name).any (·.category.isData) with
  | true =>
    refine onType.congr fun _ _ => ?_
    rw [getAttribute_apply, if_pos data]
  | false =>
    cases own : state.world.own? receiver name with
    | none =>
      refine onType.congr fun _ _ => ?_
      rw [getAttribute_apply, data, own]
      rfl
    | some value =>
      refine ((giveOwn_route receiver value held state).weaken fun descriptor same => ?_).congr
        fun _ _ => ?_
      · obtain ⟨isType, rfl⟩ := same
        cases receiver with
        | type type =>
          have chained : state.world.lookup type name = some (.descriptor descriptor) := own
          simp [World.classEntries, Value.asType?, chained]
        | _ => cases isType
      · rw [getAttribute_apply, data, own]
        rfl

theorem setAttribute_route (receiver : Value) (name : String) (value? : Option Value)
    (held : Roots) (state : State σ) :
    Route (fun descriptor => .descriptor descriptor ∈ state.world.classEntries receiver name)
      (fun engine allowSuspend => engine.setAttribute receiver name value? allowSuspend)
      held state := by
  by_cases writable : state.world.Writable receiver
  · cases data : (state.world.entry? receiver name).filter (·.category.isData) with
    | some found =>
      refine ((descriptorSet_route found receiver value? held state).weaken
        fun descriptor same => ?_).congr fun _ _ => ?_
      · have entry := (Option.filter_eq_some_iff.mp data).1
        simp [World.classEntries, entry, same]
      · rw [setAttribute_apply _ _ _ _ _ _ writable, data]
    | none =>
      refine .own (goOver (·.writeOwn receiver name value?)) fun _ _ => ?_
      rw [setAttribute_apply _ _ _ _ _ _ writable, data]
  · cases receiver with
    | type type =>
      have immutable : (state.world.flagsOf type).immutable = true :=
        by simpa [World.Writable] using writable
      refine .own (throw (.immutableType name (state.world.nameOf type))) fun _ _ => ?_
      rw [setAttribute_immutable _ _ _ _ _ _ immutable]
      rfl
    | _ => exact absurd trivial writable

inductive Resumed (engine : Engine σ) (first : Suspension α) : Nat → Suspension α → Prop where
  | start : Resumed engine first 0 first
  -- The state of each resume is any one, whatever was written since the last.
  | resume {count : Nat} {reached next : Suspension α} (held : Roots) (state later : State σ)
    (before : Resumed engine first count reached)
    (paused : engine.resume reached held state = .done (.ok (.suspended next)) later) :
    Resumed engine first (count + 1) next

structure SuspendsAtTail (engine : Engine σ)
    (access : Engine σ → Bool → Eval σ (Completion α)) : Prop where
  -- A caller that cannot suspend is given no suspension.
  settled : ∀ held state suspension later,
    access engine false held state ≠ .done (.ok (.suspended suspension)) later
  -- For a caller that can, code is started and never resumed.
  startsOnly : ∀ other : Engine σ,
    (∀ code arguments, other.proceed ⟨code, arguments, 0⟩ = engine.proceed ⟨code, arguments, 0⟩) →
      access other true = access engine true
  -- What is resumed is the code that was started, at the stage that it has come to.
  resumesOnly : ∀ held state suspension later,
    access engine true held state = .done (.ok (.suspended suspension)) later →
      ∃ code arguments,
        engine.proceed ⟨code, arguments, 0⟩ held state =
          .done (.ok (.paused suspension.kind suspension.label)) later ∧
        ∀ count reached, engine.Resumed suspension count reached →
          engine.resume reached =
            (fun progress => (Completion.ofProgress ⟨code, arguments, count + 1⟩ progress).map
              suspension.wrap) <$> engine.proceed ⟨code, arguments, count + 1⟩

def Transparent (engine : Engine σ) (found : World → List Value)
    (access : Engine σ → Bool → Eval σ (Completion α)) : Prop :=
  ∀ held state,
    (∀ descriptor, .descriptor descriptor ∈ found state.world → engine.Indifferent descriptor) →
      access engine false held state =
        (Completion.ready <$> (access engine true >>=
          engine.finish engine.limits.maxSuspensionResumes)) held state

theorem ask_false (code : Code) (arguments : Bool → List Value) (wrap : Value → α) :
    engine.ask code arguments wrap false =
      Completion.ready <$> (engine.start code (arguments false) >>= fun completion =>
        engine.complete (completion.map wrap)) := by
  have settled (completion : Completion α) : engine.settle false completion =
      Completion.ready <$> engine.complete completion := by
    cases completion with
    | ready value => simp
    | suspended suspension => simp [settle, Completion.isReady]
  simp only [ask, settled, map_bind]

theorem ask_true (code : Code) (arguments : Bool → List Value) (wrap : Value → α) :
    engine.ask code arguments wrap true =
      Completion.map wrap <$> engine.start code (arguments true) := by
  simp [ask, settle]

theorem RunsAlike.ask_eq {code : Code} {arguments : Bool → List Value}
    (alike : engine.RunsAlike code (arguments true) (arguments false)) (wrap : Value → α) :
    engine.ask code arguments wrap false =
      Completion.ready <$> (engine.ask code arguments wrap true >>= engine.complete) := by
  rw [ask_false, ask_true]
  -- One side changes the result before it drains, the other one after.
  simp only [start, bind_map_left, bind_assoc, pure_bind, alike 0, complete_map]
  congr 2
  funext progress
  simp only [complete, finish, alike.drain_eq]

theorem Resumed.rest_eq {first reached : Suspension α} {count : Nat} {code : Code}
    {arguments : List Value} (resumed : engine.Resumed first count reached)
    (started : first.rest = ⟨code, arguments, 1⟩) :
    reached.rest = ⟨code, arguments, count + 1⟩ ∧ reached.wrap = first.wrap := by
  induction resumed with
  | start => exact ⟨started, rfl⟩
  | resume held state later before paused ih =>
    obtain ⟨rest, wrap⟩ := ih
    obtain ⟨progress, middle, _, given⟩ := Eval.bind_eq_ok paused
    cases progress with
    | finished value => simp [Completion.ofProgress, Completion.map] at given
    | paused kind label =>
      simp only [Completion.ofProgress, Completion.map, Eval.pure_apply, Outcome.done.injEq,
        Except.ok.injEq, Completion.suspended.injEq] at given
      rw [← given.1]
      exact ⟨by rw [rest]; rfl, by rw [← wrap]; rfl⟩

namespace Route

variable {found : Descriptor → Prop} {access : Engine σ → Bool → Eval σ (Completion α)}
  {held : Roots} {state : State σ}

theorem transparent (route : Route found access held state)
    (indifferent : ∀ descriptor, found descriptor → engine.Indifferent descriptor) :
    access engine false held state =
      (Completion.ready <$> (access engine true >>= engine.complete)) held state := by
  cases route with
  | own operation equal =>
    rw [equal, Eval.map_congr (Eval.bind_congr (equal engine true) _)]
    simp
  | asking descriptor member code arguments wrap alike equal =>
    have runsAlike := alike engine (indifferent descriptor member)
    rw [equal, runsAlike.ask_eq, Eval.map_congr (Eval.bind_congr (equal engine true) _)]

theorem settled (route : Route found access held state) (suspension : Suspension α)
    (later : State σ) :
    access engine false held state ≠ .done (.ok (.suspended suspension)) later := by
  have finished (operation : Eval σ α) : (Completion.ready <$> operation) held state ≠
      .done (.ok (.suspended suspension)) later := by
    intro done
    rw [map_eq_pure_bind] at done
    obtain ⟨value, middle, _, given⟩ := Eval.bind_eq_ok done
    simp at given
  cases route with
  | own operation equal =>
    rw [equal]
    exact finished operation
  | asking descriptor member code arguments wrap alike equal =>
    rw [equal, ask_false]
    exact finished _

theorem startsOnly (route : Route found access held state) (other : Engine σ)
    (same : ∀ code arguments,
      other.proceed ⟨code, arguments, 0⟩ = engine.proceed ⟨code, arguments, 0⟩) :
    access other true held state = access engine true held state := by
  cases route with
  | own operation equal => rw [equal, equal]
  | asking descriptor member code arguments wrap alike equal =>
    rw [equal, equal, ask_true, ask_true, start, start, same]

theorem resumesOnly (route : Route found access held state) {suspension : Suspension α}
    {later : State σ}
    (done : access engine true held state = .done (.ok (.suspended suspension)) later) :
    ∃ code arguments,
      engine.proceed ⟨code, arguments, 0⟩ held state =
        .done (.ok (.paused suspension.kind suspension.label)) later ∧
      ∀ count reached, engine.Resumed suspension count reached →
        engine.resume reached =
          (fun progress => (Completion.ofProgress ⟨code, arguments, count + 1⟩ progress).map
            suspension.wrap) <$> engine.proceed ⟨code, arguments, count + 1⟩ := by
  have settled : access engine false held state ≠ .done (.ok (.suspended suspension)) later :=
    route.settled suspension later
  cases route with
  | own operation equal =>
    -- A caller that cannot suspend would have been given the same.
    rw [equal engine true, ← equal engine false] at done
    exact absurd done settled
  | asking descriptor member code arguments wrap alike equal =>
    rw [equal, ask_true, start, map_bind] at done
    obtain ⟨progress, middle, proceeded, given⟩ := Eval.bind_eq_ok done
    cases progress with
    | finished value => simp [Completion.ofProgress, Completion.map] at given
    | paused kind label =>
      simp only [Completion.ofProgress, Completion.map, map_pure, Eval.pure_apply,
        Outcome.done.injEq, Except.ok.injEq, Completion.suspended.injEq] at given
      obtain ⟨rfl, rfl⟩ := given
      refine ⟨code, arguments true, proceeded, fun count reached resumed => ?_⟩
      obtain ⟨rest, wrapped⟩ := resumed.rest_eq rfl
      rw [resume, rest, wrapped, map_eq_pure_bind]

end Route

theorem of_routes (entries : World → List Value)
    (access : Engine σ → Bool → Eval σ (Completion α))
    (route : ∀ held state,
      Route (fun descriptor => .descriptor descriptor ∈ entries state.world) access held state) :
    engine.Transparent entries access ∧ engine.SuspendsAtTail access := by
  refine ⟨fun held state indifferent => (route held state).transparent indifferent,
    fun held state suspension later => (route held state).settled suspension later,
    fun other same => ?_, fun held state _ _ done => (route held state).resumesOnly done⟩
  funext held state
  exact (route held state).startsOnly other same

/-- Reading, assigning and deleting an attribute do the same whether or not the caller can suspend,
and leave nothing but the rest of one getter or setter to a caller that can. -/
theorem suspension_transparent (engine : Engine σ) (receiver : Value) (name : String) :
    (engine.Transparent (·.classEntries receiver name)
        (fun engine allowSuspend => engine.getAttribute receiver name allowSuspend) ∧
      engine.SuspendsAtTail
        fun engine allowSuspend => engine.getAttribute receiver name allowSuspend) ∧
    ∀ value? : Option Value,
      engine.Transparent (·.classEntries receiver name)
        (fun engine allowSuspend => engine.setAttribute receiver name value? allowSuspend) ∧
      engine.SuspendsAtTail
        fun engine allowSuspend => engine.setAttribute receiver name value? allowSuspend :=
  ⟨of_routes _ _ (getAttribute_route receiver name),
    fun value? => of_routes _ _ (setAttribute_route receiver name value?)⟩

end Engine

end ObjectModel
