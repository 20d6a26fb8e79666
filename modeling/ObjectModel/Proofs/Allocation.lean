import ObjectModel.Proofs.Construction

set_option autoImplicit false

namespace ObjectModel

namespace World

/-- The payload is the one that the native layout of the type asks for. A sealed type asks for
none. -/
structure Fits (world : World) (type : TypeKey) (payload : Payload Value) : Prop where
  tuple : (∃ items, payload = .tuple items) ↔ world.layoutOf? type = some .tuple
  plain : payload = .empty ↔ world.layoutOf? type = some .plain

variable {before world : World} {made : List (TypeKey × Storage)} {type other : TypeKey}

theorem Fits.layout_ne_sealed {payload : Payload Value} (fits : world.Fits type payload) :
    world.layoutOf? type ≠ some .sealed := by
  intro closed
  cases payload with
  | empty => simpa [closed] using fits.plain
  | tuple items => simpa [closed] using fits.tuple

theorem fits_zeroPayload_iff {layout : Layout} (allocates : layout ≠ .sealed) :
    world.Fits type layout.zeroPayload ↔ world.layoutOf? type = some layout := by
  cases layout with
  | «sealed» => exact absurd rfl allocates
  | plain =>
    constructor
    · intro fits
      exact fits.plain.mp rfl
    · intro same
      constructor <;> simp [same, Layout.zeroPayload]
  | tuple =>
    constructor
    · intro fits
      exact fits.tuple.mp ⟨[], rfl⟩
    · intro same
      constructor <;> simp [same, Layout.zeroPayload]

namespace Lineage

theorem layoutOwner?_between (lineage : Lineage before world made)
    (given : HandedOut before made type) {owner : TypeKey}
    (nearest : world.layoutOwner? type = some owner) (lower : world.isSubtype type other)
    (upper : world.isSubtype other owner) : world.layoutOwner? other = some owner := by
  rw [isSubtype_iff] at lower upper
  obtain ⟨front, split⟩ := (lineage.chain_suffix given lower).2
  have distinct := lineage.chain_nodup given
  rw [← split] at distinct
  rw [layoutOwner?, ← split, List.find?_append] at nearest
  cases found : front.find? fun above => (world.declaredLayout above).isSome with
  | none => simpa [layoutOwner?, found] using nearest
  | some first =>
    -- The owner would stand in front of the other type and above it.
    rw [found, Option.some_or, Option.some.injEq] at nearest
    have inFront := List.mem_of_find?_eq_some found
    exact absurd upper (nearest ▸ List.disjoint_of_nodup_append distinct inFront)

theorem layout_boundary (lineage : Lineage before world made)
    (given : HandedOut before made type) (below : world.isSubtype type other)
    (allocates : world.layoutOf? other ≠ some .sealed)
    (differ : world.layoutOf? type ≠ world.layoutOf? other) :
    world.layoutOf? other = some .plain ∧ ∃ builtin,
      world.layoutOwner? type = some (before.builtinKey builtin) ∧
      world.isSubtype (before.builtinKey builtin) other = true ∧
      world.isSubtype other (before.builtinKey builtin) = false := by
  obtain ⟨builtin, nearest, above, _⟩ := lineage.layoutOwner?_eq_some given
  have known := (lineage.chain_suffix given ((world.isSubtype_iff ..).mp below)).1
  have passed : world.isSubtype other (before.builtinKey builtin) = false := by
    cases upper : world.isSubtype other (before.builtinKey builtin) with
    | false => rfl
    | true =>
      have same := lineage.layoutOwner?_between given nearest below upper
      exact absurd (by rw [layoutOf?, layoutOf?, nearest, same]) differ
  have lower : world.isSubtype (before.builtinKey builtin) other = true := by
    rcases lineage.isSubtype_total given above below with lower | upper
    · exact lower
    · simp [upper] at passed
  refine ⟨?_, builtin, nearest, lower, passed⟩
  obtain ⟨further, _, _, layout⟩ := lineage.layoutOwner?_eq_some known
  cases kind : further.layout with
  | plain => rw [layout, kind]
  | «sealed» => exact absurd (by rw [layout, kind]) allocates
  | tuple =>
    -- Tuple types have only tuple types below them.
    have otherTuple : world.layoutOf? other = some .tuple := by rw [layout, kind]
    have tupleAbove := (lineage.layoutOf?_eq_tuple_iff known).mp otherTuple
    have tuple := lineage.isSubtype_trans given below tupleAbove
    exact absurd (((lineage.layoutOf?_eq_tuple_iff given).mpr tuple).trans otherTuple.symm) differ

end Lineage

end World

namespace Engine

variable {σ : Type} {held : Roots} {state : State σ} {made : List (TypeKey × Storage)}
  {builtin type : TypeKey}

theorem genericNew_apply (builtin type : TypeKey) :
    (genericNew builtin type : Eval σ Value) held state =
      match state.world.layoutOf? builtin with
      | none | some .sealed => .done (.error (.unconstructible (state.world.nameOf builtin))) state
      | some layout =>
        if state.world.isSubtype type builtin then
          .done (.ok (.object (state.world.newInstance type layout.zeroPayload).1))
            { state with world := (state.world.newInstance type layout.zeroPayload).2 }
        else
          .done (.error (.allocationForStranger (state.world.nameOf builtin)
            (state.world.nameOf type))) state := by
  have itself : builtin = type → state.world.isSubtype type builtin = true := by
    rintro rfl
    rw [World.isSubtype_iff]
    exact state.world.mem_chain_self _
  rw [genericNew, Eval.world_bind_apply]
  cases state.world.layoutOf? builtin with
  | none => rfl
  | some layout =>
    cases layout with
    | «sealed» => rfl
    | _ =>
      cases below : state.world.isSubtype type builtin with
      | true =>
        simp only [Bool.not_true, Bool.and_false, Bool.false_eq_true, if_false, if_true]
        rfl
      | false =>
        have other : builtin ≠ type := fun same => by simp [itself same] at below
        simp [other]

structure Allocates (held : Roots) (state : State σ) (builtin type : TypeKey) : Prop where
  succeeds_iff : (∃ value later, genericNew builtin type held state = .done (.ok value) later) ↔
    state.world.isSubtype type builtin = true ∧ state.world.layoutOf? builtin ≠ some .sealed
  -- Types off the chain are refused, and sealed types have no payload to give. Nothing is allocated
  -- then.
  refuses : ∀ error later, genericNew builtin type held state = .done (.error error) later →
    later = state ∧ (error = .unconstructible (state.world.nameOf builtin) ∨
      error = .allocationForStranger (state.world.nameOf builtin) (state.world.nameOf type))
  makes : ∀ value later, genericNew builtin type held state = .done (.ok value) later →
    later.world.typeOf value = type ∧ ∃ inst, value = .object inst ∧ inst.type = type ∧
      some inst.payload = (state.world.layoutOf? builtin).map Layout.zeroPayload ∧
      inst.store.isSome = (state.world.flagsOf type).hasStore
  fits_iff : ∀ inst later, genericNew builtin type held state = .done (.ok (.object inst)) later →
    (state.world.Fits type inst.payload ↔
      state.world.layoutOf? type = state.world.layoutOf? builtin)
  -- Nothing fits a sealed type, so with its own layout none of its instances comes about.
  unfit : state.world.layoutOf? type = some .sealed → ∀ inst later,
    genericNew builtin type held state = .done (.ok (.object inst)) later →
    ¬ state.world.Fits type inst.payload ∧ state.world.layoutOf? builtin ≠ some .sealed
  -- A payload that does not fit is always the empty one of the root, given to a type below a
  -- built-in type that is passed on the way up.
  misfits : ∀ inst later, genericNew builtin type held state = .done (.ok (.object inst)) later →
    ¬ state.world.Fits type inst.payload →
    inst.payload = .empty ∧ ∃ owner, state.world.layoutOwner? type = some owner ∧
      state.world.isSubtype owner builtin = true ∧ state.world.isSubtype builtin owner = false
  -- What the guard of `__new__` lets pass fits.
  guarded : ∀ layout inst later, state.world.safeLayout builtin type = .ok layout →
    genericNew builtin type held state = .done (.ok (.object inst)) later →
    state.world.Fits type inst.payload

theorem genericNew_ok {value : Value} {later : State σ}
    (done : genericNew builtin type held state = .done (.ok value) later) :
    state.world.isSubtype type builtin = true ∧ ∃ layout ≠ .sealed,
      state.world.layoutOf? builtin = some layout ∧
      value = .object (state.world.newInstance type layout.zeroPayload).1 ∧
      later = { state with world := (state.world.newInstance type layout.zeroPayload).2 } := by
  rw [genericNew_apply] at done
  cases layout : state.world.layoutOf? builtin with
  | none => simp [layout] at done
  | some kind =>
    cases kind with
    | «sealed» => simp [layout] at done
    | _ =>
      cases below : state.world.isSubtype type builtin with
      | false => simp [layout, below] at done
      | true =>
        simp only [layout, below, if_true, Outcome.done.injEq, Except.ok.injEq] at done
        exact ⟨rfl, _, by simp, rfl, done.1.symm, done.2.symm⟩

theorem genericNew_fits {inst : Instance Value} {later : State σ}
    (done : genericNew builtin type held state = .done (.ok (.object inst)) later) :
    state.world.Fits type inst.payload ↔
      state.world.layoutOf? type = state.world.layoutOf? builtin := by
  obtain ⟨_, layout, allocates, declared, made, _⟩ := genericNew_ok done
  rw [Value.object.inj made, World.newInstance_payload, declared]
  exact World.fits_zeroPayload_iff allocates

theorem genericNew_succeeds_iff {before : World} (lineage : World.Lineage before state.world made)
    (given : World.HandedOut before made type) :
    (∃ value later, genericNew builtin type held state = .done (.ok value) later) ↔
      state.world.isSubtype type builtin = true ∧
        state.world.layoutOf? builtin ≠ some .sealed := by
  constructor
  · rintro ⟨value, later, done⟩
    obtain ⟨below, layout, allocates, declared, _⟩ := genericNew_ok done
    exact ⟨below, by simpa [declared] using allocates⟩
  · rintro ⟨below, allocates⟩
    have known := (lineage.chain_suffix given ((World.isSubtype_iff ..).mp below)).1
    obtain ⟨native, _, _, declared⟩ := lineage.layoutOwner?_eq_some known
    rw [declared] at allocates
    rw [genericNew_apply, declared, below]
    cases kind : native.layout with
    | «sealed» => exact absurd (congrArg some kind) allocates
    | _ => exact ⟨_, _, rfl⟩

/-- Whatever types are created in a registry, an instance allocated with the payload of another type
carries what its own type asks for exactly if the two types inherit the same layout. -/
theorem allocation_fits_iff {before : World} (grown : World.Grown before state.world made)
    (given : World.HandedOut before made type) (builtin : TypeKey) (held : Roots) :
    Allocates held state builtin type := by
  have lineage := grown.lineage
  constructor
  case succeeds_iff => exact genericNew_succeeds_iff lineage given
  case refuses =>
    intro error later failed
    rw [genericNew_apply] at failed
    split at failed
    · cases failed
      exact ⟨rfl, .inl rfl⟩
    · cases failed
      exact ⟨rfl, .inl rfl⟩
    · split at failed
      · cases failed
      · cases failed
        exact ⟨rfl, .inr rfl⟩
  case makes =>
    intro value later done
    obtain ⟨_, layout, _, declared, rfl, rfl⟩ := genericNew_ok done
    obtain ⟨object, known⟩ := lineage.known given
    have kept := World.newInstance_types state.world type layout.zeroPayload
    refine ⟨?_, _, rfl, World.newInstance_type .., ?_, World.newInstance_store ..⟩
    · exact (World.Retains.of_types_eq kept).typeOf_eq known (World.newInstance_type ..)
    · rw [World.newInstance_payload, declared, Option.map_some]
  case fits_iff => exact fun inst later done => genericNew_fits done
  case unfit =>
    intro closed inst later done
    refine ⟨fun fits => fits.layout_ne_sealed closed, ?_⟩
    exact ((genericNew_succeeds_iff lineage given).mp ⟨_, _, done⟩).2
  case misfits =>
    intro inst later done misfit
    rw [genericNew_fits done] at misfit
    obtain ⟨below, allocates⟩ := (genericNew_succeeds_iff lineage given).mp ⟨_, _, done⟩
    obtain ⟨_, layout, _, declared, made, _⟩ := genericNew_ok done
    obtain ⟨root, native, nearest, lower, passed⟩ :=
      lineage.layout_boundary given below allocates misfit
    refine ⟨?_, _, nearest, lower, passed⟩
    rw [declared] at root
    cases root
    rw [Value.object.inj made, World.newInstance_payload]
    rfl
  case guarded =>
    intro layout inst later passes done
    obtain ⟨_, own, shared⟩ := (World.safeLayout_ok_iff layout).mp passes
    exact (genericNew_fits done).mpr (own.trans shared.symm)

theorem allocation_fits_iff_pair : ∃ world, World.Grown {} world [(⟨18⟩, .slots)] ∧
    Allocates {} (⟨world, ()⟩ : State Unit) Builtin.tuple.key ⟨18⟩ ∧
    ∃ inst later, genericNew Builtin.tuple.key ⟨18⟩ {} (⟨world, ()⟩ : State Unit) =
      .done (.ok (.object inst)) later ∧ world.Fits ⟨18⟩ inst.payload := by
  have pair : World.Grown {} _ [(⟨18⟩, .slots)] :=
    .created .fresh (.native .tuple) (show World.newSubtype _ _ "Pair" _ _ = _ from rfl)
  have allocates : Allocates {} (⟨_, ()⟩ : State Unit) Builtin.tuple.key ⟨18⟩ :=
    allocation_fits_iff pair (.created List.mem_cons_self) _ _
  refine ⟨_, pair, allocates, _, _, rfl, ?_⟩
  exact (allocates.fits_iff _ _ rfl).mpr rfl

-- Allocated with the payload of the root, a pair has no items and an int has no number.
theorem allocation_misfits : ∃ world, World.Grown {} world [(⟨18⟩, .slots)] ∧
    ∃ pair int later last,
      genericNew Builtin.object.key ⟨18⟩ {} (⟨world, ()⟩ : State Unit) =
        .done (.ok (.object pair)) later ∧
      genericNew Builtin.object.key Builtin.int.key {} (⟨world, ()⟩ : State Unit) =
        .done (.ok (.object int)) last ∧
      world.layoutOf? ⟨18⟩ = some .tuple ∧ pair.payload = .empty ∧ ¬ world.Fits ⟨18⟩ pair.payload ∧
      world.layoutOf? Builtin.int.key = some .sealed ∧ int.payload = .empty := by
  have pair : World.Grown {} _ [(⟨18⟩, .slots)] :=
    .created .fresh (.native .tuple) (show World.newSubtype _ _ "Pair" _ _ = _ from rfl)
  refine ⟨_, pair, _, _, _, _, rfl, rfl, rfl, rfl, fun fits => ?_, rfl, rfl⟩
  cases fits.plain.mp rfl

end Engine

end ObjectModel
