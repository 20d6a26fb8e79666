import ObjectModel.Proofs.Operations
import ObjectModel.Proofs.RoundTrip

set_option autoImplicit false

namespace ObjectModel

theorem Findings.searchAll_append (findings : Findings) (values others : List Value) :
    findings.searchAll (values ++ others) = (findings.searchAll values).searchAll others := by
  induction values generalizing findings with
  | nil => rfl
  | cons value values ih =>
    rw [List.cons_append, searchAll, searchAll]
    exact ih (findings.search value)

structure Roots.Alike (roots other : Roots) : Prop where
  stores : roots.stores = other.stores
  values : ∀ findings : Findings,
    findings.searchAll roots.values = findings.searchAll other.values

namespace Roots.Alike

variable {roots other : Roots}

theorem addValues (alike : roots.Alike other) (values : List Value) :
    (roots.addValues values).Alike (other.addValues values) where
  stores := alike.stores
  values findings := by
    simp only [Roots.addValues, Findings.searchAll_append, alike.values]

theorem append (alike : roots.Alike other) (host : Roots) :
    (host ++ roots).Alike (host ++ other) where
  stores := congrArg (host.stores ++ ·) alike.stores
  values findings := by
    change findings.searchAll (host.values ++ roots.values) =
      findings.searchAll (host.values ++ other.values)
    rw [Findings.searchAll_append, Findings.searchAll_append, alike.values]

theorem referencesOf_eq (alike : roots.Alike other) (values : List Value) :
    referencesOf (roots.values ++ values) = referencesOf (other.values ++ values) := by
  rw [referencesOf, referencesOf, Findings.searchAll_append, Findings.searchAll_append,
    alike.values]

theorem releaseDead_eq (alike : roots.Alike other) (world : World) (cursor : CursorKey) :
    world.releaseDead roots cursor = world.releaseDead other cursor := by
  have references : world.allReferences roots = world.allReferences other := by
    rw [World.allReferences, World.allReferences, alike.stores, alike.referencesOf_eq]
  have live : world.liveReferences roots = world.liveReferences other := by
    simp only [World.liveReferences, references]
  rw [World.releaseDead, World.releaseDead, live]

end Roots.Alike

def Eval.Unconcerned {σ α : Type} (operation : Eval σ α) : Prop :=
  ∀ {held other : Roots}, held.Alike other → operation held = operation other

namespace Eval.Unconcerned

variable {σ α β : Type}

theorem of_const {operation : State σ → Outcome σ α} :
    Unconcerned (fun _ state => operation state : Eval σ α) :=
  fun _ => rfl

theorem bind {first : Eval σ α} {next : α → Eval σ β} (unconcerned : Unconcerned first)
    (rest : ∀ value, Unconcerned (next value)) : Unconcerned (first >>= next) := by
  intro held other alike
  funext state
  rw [Eval.bind_apply, Eval.bind_apply, unconcerned alike]
  split
  · rw [rest _ alike]
  all_goals rfl

theorem tryCatch {body : Eval σ α} {handler : Error → Eval σ α} (unconcerned : Unconcerned body)
    (handles : ∀ error, Unconcerned (handler error)) :
    Unconcerned (MonadExcept.tryCatch body handler) := by
  intro held other alike
  funext state
  change Eval.recover body handler held state = Eval.recover body handler other state
  rw [Eval.recover, Eval.recover, unconcerned alike]
  split
  · rw [handles _ alike]
  · rfl

theorem compositional : Eval.Compositional fun α => (Unconcerned : Eval σ α → Prop) where
  pure _ := of_const
  throw _ := of_const
  abandon := of_const
  exhausted := of_const
  bind := bind
  tryCatch := tryCatch
  holding unconcerned values _ _ alike := unconcerned (alike.addValues values)
  world := of_const
  newSerial := of_const
  newInstance _ _ := of_const
  newIterator _ _ := of_const
  step _ := of_const
  hashTuple _ tuple _ _ computes := by
    refine bind of_const fun world => ?_
    split
    · exact of_const
    · exact computes.bind fun _ => of_const

end Eval.Unconcerned

theorem Host.release_unconcerned {σ : Type} (host : Host σ) (cursor : CursorKey) :
    (host.release cursor).Unconcerned := by
  intro held other alike
  funext state
  have same := (alike.append (host.roots state.host)).releaseDead_eq state.world cursor
  change Outcome.done _ { state with world := state.world.releaseDead _ cursor } = _
  rw [same]
  rfl

/-- What the type of a value defines under a name is a function, and nothing stands in front of it,
be the name read from the value or from its type. -/
structure World.Reaches (world : World) (receiver : Value) (name : String) (function : Function) :
    Prop where
  notType : receiver.asType? = none
  entry : world.entry? receiver name = some (.function function)
  own : world.ownAttribute? receiver name = none
  metatype : ∀ found, world.lookup Builtin.type.key name = some found → found.category ≠ .data

namespace Engine

variable {σ : Type} {engine : Engine σ} {receiver : Value} {name : String} {function : Function}
  {state : State σ}

theorem getAttr_type (reaches : state.world.Reaches receiver name function) (held : Roots) :
    engine.getAttr (.type (state.world.typeOf receiver)) name held state =
      .done (.ok (.function function)) state := by
  let type := Value.type (state.world.typeOf receiver)
  have notData : ∀ found, state.world.entry? type name = some found → found.category ≠ .data :=
    reaches.metatype
  have own : state.world.own? type name = some (.function function) := reaches.entry
  apply getAttr_of_ready
  rw [getAttribute_notData notData, own]
  rfl

theorem getAttribute_instance (reaches : state.world.Reaches receiver name function)
    (held : Roots) : engine.getAttribute receiver name false held state =
      engine.fetch (some (.function function)) receiver (state.world.typeOf receiver) false held
        state := by
  have notData : ∀ found, state.world.entry? receiver name = some found →
      found.category ≠ .data := by
    intro found entry
    cases reaches.entry.symm.trans entry
    cases binding : function.binding <;> simp [Value.category, binding]
  rw [getAttribute_notData notData, World.own?_of_notType reaches.notType, reaches.own,
    reaches.entry]

theorem getAttr_method (reaches : state.world.Reaches receiver name function)
    (method : function.binding = .method) (held : Roots) :
    engine.getAttr receiver name held state =
      .done (.ok (.boundMethod state.world.nextSerial function receiver))
        { state with world := state.world.newSerial.2 } := by
  apply getAttr_of_ready
  rw [getAttribute_instance reaches, fetch_method method]
  rfl

theorem getAttr_static (reaches : state.world.Reaches receiver name function)
    (static : function.binding = .static) (held : Roots) :
    engine.getAttr receiver name held state = .done (.ok (.function function)) state := by
  apply getAttr_of_ready
  rw [getAttribute_instance reaches, fetch_plain (by simp [Value.category, static])]
  rfl

end Engine

-- A bound method keeps alive what its receiver does.
theorem Roots.alike_bound (held : Roots) (serial : Nat) (function : Function) (receiver : Value)
    (arguments : Arguments) :
    (held.addValues (.boundMethod serial function receiver :: arguments.values)).Alike
      (held.addValues (.function function :: (arguments.prepend receiver).values)) where
  stores := rfl
  values findings := by
    simp [Roots.addValues, Arguments.values, Arguments.prepend, Findings.searchAll, Findings.search]

theorem Host.call_bound {σ : Type} {host : Host σ}
    (respects : host.Respects fun α => (Eval.Unconcerned : Eval σ α → Prop)) (limits : Limits)
    (patience depth : Nat) (serial : Nat) (function : Function) (receiver : Value)
    (arguments : Arguments) :
    (host.engine limits patience depth).call (.boundMethod serial function receiver) arguments =
      (host.engine limits patience depth).call (.function function)
        (arguments.prepend receiver) := by
  cases depth with
  | zero => rfl
  | succ depth =>
    have below := respects.engine Eval.Unconcerned.compositional host.release_unconcerned limits
      patience depth
    have invokes : Eval.Unconcerned ((host.engine limits patience depth).invoke function
        (arguments.prepend receiver)) :=
      (Engine.Composes.invoke function _).inherits Eval.Unconcerned.compositional below
    funext held
    exact invokes (held.alike_bound serial function receiver arguments)

structure Engine.CallsAgree {σ : Type} (engine : Engine σ) (receiver : Value) (name : String)
    (function : Function) (arguments : Arguments) (held : Roots) (state : State σ) : Prop where
  inOneStep : engine.callMethod receiver name arguments held state =
    (engine.getAttr receiver name >>= fun callee => engine.call callee arguments) held state
  -- On the one side a bound method is made, which takes the next number.
  method : function.binding = .method →
    (engine.getAttr receiver name >>= fun callee => engine.call callee arguments) held state =
      (engine.getAttr (.type (state.world.typeOf receiver)) name >>= fun callee =>
        engine.call callee (arguments.prepend receiver)) held
        { state with world := state.world.newSerial.2 }
  static : function.binding = .static →
    (engine.getAttr receiver name >>= fun callee => engine.call callee arguments) held state =
      (engine.getAttr (.type (state.world.typeOf receiver)) name >>= fun callee =>
        engine.call callee arguments) held state

/-- Calling a method of an instance comes to calling the function of its type with the instance in
front, and calling a static function to calling it with the arguments alone. -/
theorem bound_unbound_agree {σ : Type} {host : Host σ}
    (respects : host.Respects fun α => (Eval.Unconcerned : Eval σ α → Prop)) (limits : Limits)
    (patience depth : Nat) {state : State σ} {receiver : Value} {name : String}
    {function : Function} (reaches : state.world.Reaches receiver name function)
    (arguments : Arguments) (held : Roots) :
    (host.engine limits patience depth).CallsAgree receiver name function arguments held state := by
  refine { inOneStep := rfl, method := fun method => ?_, static := fun static => ?_ }
  · have numbered : state.world.newSerial.2.Reaches receiver name function :=
      ⟨reaches.notType, reaches.entry, reaches.own, reaches.metatype⟩
    have unbound : (host.engine limits patience depth).getAttr
        (.type (state.world.typeOf receiver)) name held
        { state with world := state.world.newSerial.2 } = .done (.ok (.function function)) _ :=
      Engine.getAttr_type numbered held
    rw [Eval.bind_apply, Engine.getAttr_method reaches method, Eval.bind_apply, unbound]
    dsimp only
    rw [Host.call_bound respects]
  · rw [Eval.bind_apply, Eval.bind_apply, Engine.getAttr_static reaches static,
      Engine.getAttr_type reaches]

def Host.echo : Host Unit where
  run _ _ arguments := pure (arguments.positional.headD .none)
  proceed _ _ := pure (.finished .none)
  roots _ := {}

def Function.greet : Function :=
  ⟨299, "Speaker", "greet", .method, none, .code ⟨0⟩⟩

def World.greeting : World :=
  match initial.newSubtype sharedRegistry "Speaker" Builtin.object.key .slots with
  | .ok (key, world) =>
    match (world.setMember key "greet" (.function .greet)).newSubtype sharedRegistry "Greeter" key
      .slots with
    | .ok (_, world) => world
    | .error _ => initial
  | .error _ => initial

theorem bound_unbound_agree_inherited : ∃ later,
    World.greeting.Reaches (.object ⟨300, ⟨19⟩, none, .empty⟩) "greet" .greet ∧
    (Host.echo.engine {} 1 2).CallsAgree (.object ⟨300, ⟨19⟩, none, .empty⟩) "greet" .greet
      { positional := [.int 1], keywords := [("volume", .int 2)] } {} ⟨World.greeting, ()⟩ ∧
    (Host.echo.engine {} 1 2).callMethod (.object ⟨300, ⟨19⟩, none, .empty⟩) "greet"
      { positional := [.int 1], keywords := [("volume", .int 2)] } {} ⟨World.greeting, ()⟩ =
        .done (.ok (.object ⟨300, ⟨19⟩, none, .empty⟩)) later := by
  have respects : Host.echo.Respects fun α => (Eval.Unconcerned : Eval Unit α → Prop) :=
    ⟨fun _ _ _ _ _ _ _ => rfl, fun _ _ _ _ _ _ => rfl⟩
  have reaches : World.greeting.Reaches (.object ⟨300, ⟨19⟩, none, .empty⟩) "greet" .greet :=
    ⟨rfl, rfl, rfl, nofun⟩
  exact ⟨_, reaches, bound_unbound_agree respects {} 1 2 reaches _ {}, rfl⟩

end ObjectModel
