import Mathlib.Data.List.Basic
import ObjectModel.Repr
import ObjectModel.Proofs.Construction

set_option autoImplicit false

namespace ObjectModel

inductive Datum where
  | none
  | notImplemented
  | bool (truth : Bool)
  | int (number : Int64)
  | str (text : String)
  | tuple (items : List Datum)

namespace World

mutual

def datum? (world : World) : Value → Option Datum
  | .none => some .none
  | .notImplemented => some .notImplemented
  | .bool truth => some (.bool truth)
  | .int number => some (.int number)
  | .str text => some (.str text)
  | value@(.object ⟨_, _, _, .tuple items⟩) =>
    if world.isExactTuple value then (world.data? items).map .tuple else none
  | _ => none

def data? (world : World) : List Value → Option (List Datum)
  | [] => some []
  | item :: rest => do return (← world.datum? item) :: (← world.data? rest)

end

end World

namespace Datum

mutual

def text : Datum → String
  | .none => "None"
  | .notImplemented => "NotImplemented"
  | .bool truth => if truth then "True" else "False"
  | .int number => toString number.toInt
  | .str text => Text.quoted text
  | .tuple items => tupleText (texts items)

def texts : List Datum → List String
  | [] => []
  | item :: rest => item.text :: texts rest

end

def unescaped : Char → Char
  | 'n' => '\n'
  | 'r' => '\r'
  | 't' => '\t'
  | character => character

def readQuoted (quote : Char) : List Char → Option (List Char × List Char)
  | [] => Option.none
  | '\\' :: character :: rest =>
    (readQuoted quote rest).map fun (text, rest) => (unescaped character :: text, rest)
  | character :: rest =>
    if character = quote then some ([], rest)
    else (readQuoted quote rest).map fun (text, rest) => (character :: text, rest)

def readDigits (characters : List Char) : Option (Nat × List Char) :=
  match characters.takeWhile Char.isDigit with
  | [] => Option.none
  | digits => some (Nat.ofDigitChars 10 digits 0, characters.dropWhile Char.isDigit)

def readNumber : List Char → Option (Int × List Char)
  | '-' :: rest => (readDigits rest).map fun (number, rest) => (-number, rest)
  | characters => (readDigits characters).map fun (number, rest) => (number, rest)

def words : List (String × Datum) :=
  [("None", .none), ("NotImplemented", .notImplemented), ("True", .bool true),
    ("False", .bool false)]

def readWord (characters : List Char) : Option (Datum × List Char) :=
  words.findSome? fun (word, datum) => (characters.dropPrefix? word.toList).map (datum, ·)

def finishTuple (readItems : List Char → Option (List Datum × List Char)) (item : Datum) :
    List Char → Option (Datum × List Char)
  | ',' :: ')' :: rest => some (.tuple [item], rest)
  | ',' :: rest =>
    (readItems (',' :: rest)).map fun (items, rest) => (.tuple (item :: items), rest)
  | _ => Option.none

def readTuple (readItem : List Char → Option (Datum × List Char))
    (readItems : List Char → Option (List Datum × List Char)) :
    List Char → Option (Datum × List Char)
  | ')' :: rest => some (.tuple [], rest)
  | characters =>
    (readItem characters).bind fun (item, rest) => finishTuple readItems item rest

mutual

/-- Reads one datum off the front. Every call takes a character, so that as much fuel as there are
characters is enough. -/
def read : Nat → List Char → Option (Datum × List Char)
  | fuel + 1, first :: rest =>
    if first = '(' then readTuple (read fuel) (readItems fuel) rest
    else if first = '\'' ∨ first = '"' then
      (readQuoted first rest).map fun (text, rest) => (.str (String.ofList text), rest)
    else if first = '-' ∨ first.isDigit then
      (readNumber (first :: rest)).map fun (number, rest) => (.int (Int64.ofInt number), rest)
    else readWord (first :: rest)
  | _, _ => Option.none

def readItems : Nat → List Char → Option (List Datum × List Char)
  | _, ')' :: rest => some ([], rest)
  | fuel + 1, ',' :: ' ' :: rest => do
    let (item, rest) ← read fuel rest
    let (items, rest) ← readItems fuel rest
    return (item :: items, rest)
  | _, _ => Option.none

end

def ofText? (text : String) : Option Datum :=
  match read (text.length + 1) text.toList with
  | some (datum, []) => some datum
  | _ => Option.none

theorem readQuoted_cons {quote character : Char} (plain : character ≠ '\\')
    (rest : List Char) :
    readQuoted quote (character :: rest) =
      if character = quote then some ([], rest)
      else (readQuoted quote rest).map fun (text, rest) => (character :: text, rest) := by
  rw [readQuoted]
  simp [plain]

theorem readQuoted_quotedCharacter {quote : Char} (proper : quote = '\'' ∨ quote = '"')
    (character : Char) (rest : List Char) :
    readQuoted quote (Text.quotedCharacter quote character ++ rest) =
      (readQuoted quote rest).map fun (text, rest) => (character :: text, rest) := by
  unfold Text.quotedCharacter
  split
  · next same => simp [readQuoted, unescaped, same]
  split
  · next same => simp [readQuoted, unescaped, same]
  split
  · next same => simp [readQuoted, unescaped, same]
  split
  · next same => simp [readQuoted, unescaped, same]
  split
  · next same =>
    subst same
    rcases proper with rfl | rfl <;> simp [readQuoted, unescaped]
  · next plain _ _ _ other =>
    rw [List.singleton_append, readQuoted_cons plain, if_neg other]

theorem readQuoted_flatMap {quote : Char} (proper : quote = '\'' ∨ quote = '"')
    (characters rest : List Char) :
    readQuoted quote (characters.flatMap (Text.quotedCharacter quote) ++ quote :: rest) =
      some (characters, rest) := by
  induction characters with
  | nil =>
    have plain : quote ≠ '\\' := by rcases proper with rfl | rfl <;> decide
    rw [List.flatMap_nil, List.nil_append, readQuoted_cons plain, if_pos rfl]
  | cons character characters ih =>
    rw [List.flatMap_cons, List.append_assoc, readQuoted_quotedCharacter proper, ih,
      Option.map_some]

theorem quoteFor_proper (characters : List Char) :
    Text.quoteFor characters = '\'' ∨ Text.quoteFor characters = '"' := by
  unfold Text.quoteFor
  split
  · exact .inr rfl
  · exact .inl rfl

def Apart (rest : List Char) : Prop :=
  ∀ character ∈ rest.head?, character.isDigit = false

theorem Apart.takeWhile {rest : List Char} (apart : Apart rest) :
    rest.takeWhile Char.isDigit = [] := by
  cases rest with
  | nil => rfl
  | cons character rest => simp [apart character rfl]

theorem Apart.dropWhile {rest : List Char} (apart : Apart rest) :
    rest.dropWhile Char.isDigit = rest := by
  cases rest with
  | nil => rfl
  | cons character rest => simp [apart character rfl]

theorem readDigits_toDigits (number : Nat) {rest : List Char} (apart : Apart rest) :
    readDigits (Nat.toDigits 10 number ++ rest) = some (number, rest) := by
  have digits : ∀ character ∈ Nat.toDigits 10 number, character.isDigit = true :=
    fun character member => Nat.isDigit_of_mem_toDigits (by decide) (by decide) member
  rw [readDigits, List.takeWhile_append_of_pos digits, List.dropWhile_append_of_pos digits,
    apart.takeWhile, apart.dropWhile, List.append_nil]
  split
  · next none => exact absurd none Nat.toDigits_ne_nil
  · rw [Nat.ofDigitChars_ten_toDigits]

theorem toList_toString_nat (number : Nat) :
    (toString (number : Int)).toList = Nat.toDigits 10 number := by
  rw [Int.toString_eq_repr, Int.repr_eq_if, if_pos (Int.natCast_nonneg number)]
  simp [Nat.repr]

theorem toList_toString_neg {number : Nat} (positive : 0 < number) :
    (toString (-(number : Int))).toList = '-' :: Nat.toDigits 10 number := by
  rw [Int.toString_eq_repr, Int.repr_eq_if, if_neg (by omega)]
  simp [Nat.repr]

theorem readNumber_of_digit {first : Char} (digit : first.isDigit = true) (rest : List Char) :
    readNumber (first :: rest) =
      (readDigits (first :: rest)).map fun (number, rest) => ((number : Int), rest) := by
  have unsigned : first ≠ '-' := by
    rintro rfl
    exact absurd digit (by decide)
  rw [readNumber]
  simp [unsigned]

theorem read_of_numeral {first : Char} (numeral : first = '-' ∨ first.isDigit = true)
    (fuel : Nat) (rest : List Char) :
    read (fuel + 1) (first :: rest) = (readNumber (first :: rest)).map
      fun (number, rest) => (.int (Int64.ofInt number), rest) := by
  have bracket : first ≠ '(' := by
    rintro rfl
    exact absurd numeral (by decide)
  have quote : ¬ (first = '\'' ∨ first = '"') := by
    rintro (rfl | rfl) <;> exact absurd numeral (by decide)
  rw [read, if_neg bracket, if_neg quote, if_pos numeral]

theorem read_toString (number : Int) (fuel : Nat) {rest : List Char} (apart : Apart rest) :
    read (fuel + 1) ((toString number).toList ++ rest) =
      some (.int (Int64.ofInt number), rest) := by
  obtain ⟨size, rfl | ⟨rfl, positive⟩⟩ : ∃ size : Nat, number = size ∨ number = -size ∧ 0 < size :=
    ⟨number.natAbs, by omega⟩
  · have digits := readDigits_toDigits size apart
    rw [toList_toString_nat]
    cases shape : Nat.toDigits 10 size with
    | nil => exact absurd shape Nat.toDigits_ne_nil
    | cons digit more =>
      have isDigit : digit.isDigit = true :=
        Nat.isDigit_of_mem_toDigits (by decide) (by decide) (shape ▸ List.mem_cons_self)
      rw [shape] at digits
      rw [List.cons_append, read_of_numeral (.inr isDigit), readNumber_of_digit isDigit,
        ← List.cons_append, digits]
      rfl
  · rw [toList_toString_neg positive, List.cons_append, read_of_numeral (.inl rfl), readNumber,
      readDigits_toDigits size apart]
    rfl

def closing (texts : List String) : List Char :=
  texts.flatMap (fun text => ',' :: ' ' :: text.toList) ++ [')']

theorem intercalate_eq_closing (first : String) (rest : List String) :
    [',', ' '].intercalate ((first :: rest).map String.toList) ++ [')'] =
      first.toList ++ closing rest := by
  induction rest generalizing first with
  | nil => simp [closing]
  | cons next rest ih =>
    rw [List.map_cons, List.map_cons, List.intercalate_cons_cons, List.append_assoc,
      ← List.map_cons, ih]
    simp [closing]

theorem toList_tupleText_cons_cons (first second : String) (rest : List String) :
    (tupleText (first :: second :: rest)).toList =
      '(' :: (first.toList ++ closing (second :: rest)) := by
  simp only [tupleText, String.toList_append, String.toList_intercalate]
  rw [List.append_assoc, ← intercalate_eq_closing]
  rfl

theorem apart_closing (texts : List String) (rest : List Char) : Apart (closing texts ++ rest) := by
  intro character member
  cases texts <;> simp [closing] at member <;> rw [← member] <;> decide

theorem read_bracket (fuel : Nat) (rest : List Char) : read fuel (')' :: rest) = Option.none := by
  cases fuel <;> rfl

theorem readTuple_of_read {fuel : Nat} {characters rest : List Char} {item : Datum}
    (first : read fuel characters = some (item, rest)) :
    readTuple (read fuel) (readItems fuel) characters =
      finishTuple (readItems fuel) item rest := by
  have opened : ∀ more, characters ≠ ')' :: more := by
    rintro more rfl
    rw [read_bracket] at first
    cases first
  unfold readTuple
  split
  · next more => exact absurd rfl (opened more)
  · rw [first, Option.bind_some]

theorem finishTuple_closing (readItems : List Char → Option (List Datum × List Char))
    (item : Datum) (text : String) (texts : List String) (rest : List Char) :
    finishTuple readItems item (closing (text :: texts) ++ rest) =
      (readItems (closing (text :: texts) ++ rest)).map
        fun (items, rest) => (.tuple (item :: items), rest) := by
  rfl

theorem toList_text_cons_cons (item next : Datum) (items : List Datum) :
    (Datum.tuple (item :: next :: items)).text.toList =
      '(' :: (item.text.toList ++ closing (texts (next :: items))) := by
  simp only [text, texts, toList_tupleText_cons_cons]

theorem toList_text_single (item : Datum) :
    (Datum.tuple [item]).text.toList = '(' :: (item.text.toList ++ [',', ')']) := by
  simp only [text, texts, tupleText]
  simp [String.toList_append, toString]

theorem length_closing (items : List Datum) : 0 < (closing (texts items)).length := by
  simp [closing]

theorem closing_cons (item : Datum) (items : List Datum) :
    closing (texts (item :: items)) =
      ',' :: ' ' :: (item.text.toList ++ closing (texts items)) := by
  simp [closing, texts]

theorem read_word {word : String} {datum : Datum} (listed : (word, datum) ∈ words) (fuel : Nat)
    (rest : List Char) : read (fuel + 1) (word.toList ++ rest) = some (datum, rest) := by
  simp only [words, List.mem_cons, Prod.mk.injEq, List.not_mem_nil, or_false] at listed
  rcases listed with ⟨rfl, rfl⟩ | ⟨rfl, rfl⟩ | ⟨rfl, rfl⟩ | ⟨rfl, rfl⟩ <;>
    simp [read, readWord, words, List.dropPrefix?]

theorem read_quoted (text : String) (fuel : Nat) (rest : List Char) :
    read (fuel + 1) ((Text.quoted text).toList ++ rest) = some (.str text, rest) := by
  have proper := quoteFor_proper text.toList
  have bracket : Text.quoteFor text.toList ≠ '(' := by
    rcases proper with same | same <;> rw [same] <;> decide
  rw [Text.quoted, String.toList_ofList, List.cons_append, List.cons_append, List.append_assoc,
    List.singleton_append, read, if_neg bracket, if_pos proper, readQuoted_flatMap proper]
  simp

def Reads (datum : Datum) : Prop :=
  ∀ (fuel : Nat) (rest : List Char), datum.text.toList.length ≤ fuel + 1 → Apart rest →
    read (fuel + 1) (datum.text.toList ++ rest) = some (datum, rest)

theorem readItems_closing {items : List Datum} (reads : ∀ item ∈ items, item.Reads) (fuel : Nat)
    (rest : List Char) (enough : (closing (texts items)).length ≤ fuel + 1) :
    readItems fuel (closing (texts items) ++ rest) = some (items, rest) := by
  induction items generalizing fuel with
  | nil => cases fuel <;> rfl
  | cons item items ih =>
    have closed := length_closing items
    rw [closing_cons] at enough ⊢
    simp only [List.length_cons, List.length_append] at enough
    -- The comma and the blank pay for this call and for the item.
    obtain ⟨less, rfl⟩ : ∃ less, fuel = less + 1 + 1 := ⟨fuel - 2, by omega⟩
    have first := reads item List.mem_cons_self less (closing (texts items) ++ rest) (by omega)
      (apart_closing _ _)
    have others := ih (fun item member => reads item (List.mem_cons_of_mem _ member)) (less + 1)
      (by omega)
    simp only [List.cons_append, List.append_assoc, readItems, first, others, Option.bind_eq_bind,
      Option.bind_some, Option.pure_def]

theorem Reads.single {item : Datum} (reads : item.Reads) : (tuple [item]).Reads := by
  intro fuel rest enough _
  rw [toList_text_single] at enough ⊢
  simp only [List.length_cons, List.length_append, List.length_nil] at enough
  obtain ⟨less, rfl⟩ : ∃ less, fuel = less + 1 := ⟨fuel - 1, by omega⟩
  have first := reads less (',' :: ')' :: rest) (by omega) (by simp [Apart])
  simp only [List.cons_append, List.append_assoc, List.nil_append, read, if_true]
  rw [readTuple_of_read first]
  rfl

theorem Reads.many {item next : Datum} {items : List Datum} (reads : item.Reads)
    (others : ∀ item ∈ next :: items, item.Reads) : (tuple (item :: next :: items)).Reads := by
  intro fuel rest enough _
  rw [toList_text_cons_cons] at enough ⊢
  have closed := length_closing (next :: items)
  simp only [List.length_cons, List.length_append] at enough
  obtain ⟨less, rfl⟩ : ∃ less, fuel = less + 1 := ⟨fuel - 1, by omega⟩
  have first := reads less (closing (texts (next :: items)) ++ rest) (by omega)
    (apart_closing _ _)
  have behind := readItems_closing others (less + 1) rest (by omega)
  simp only [List.cons_append, List.append_assoc, read, if_true]
  rw [readTuple_of_read first, texts, finishTuple_closing, ← texts, behind]
  rfl

theorem Reads.tuple {items : List Datum} (reads : ∀ item ∈ items, item.Reads) :
    (tuple items).Reads := by
  match items with
  | [] =>
    intro fuel rest _ _
    rw [text, texts]
    rfl
  | [item] => exact (reads item List.mem_cons_self).single
  | item :: next :: items =>
    exact (reads item List.mem_cons_self).many fun other member =>
      reads other (List.mem_cons_of_mem _ member)

theorem Reads.word {datum : Datum} (listed : (datum.text, datum) ∈ words) : datum.Reads :=
  fun fuel rest _ _ => read_word listed fuel rest

mutual

theorem reads : ∀ datum : Datum, datum.Reads
  | .none => .word (by simp [words, text])
  | .notImplemented => .word (by simp [words, text])
  | .bool truth => .word (by cases truth <;> simp [words, text])
  | .int number => fun fuel rest _ apart => by
    rw [text, read_toString _ fuel apart, Int64.ofInt_toInt]
  | .str content => fun fuel rest _ _ => by
    rw [text, read_quoted]
  | .tuple items => .tuple (reads_all items)

theorem reads_all : ∀ items : List Datum, ∀ item ∈ items, item.Reads
  | [] => by simp
  | item :: items => List.forall_mem_cons.mpr ⟨reads item, reads_all items⟩

end

theorem ofText?_text (datum : Datum) : ofText? datum.text = some datum := by
  have whole := reads datum datum.text.length []
    (by rw [String.length_toList]; omega) (by simp [Apart])
  rw [List.append_nil] at whole
  rw [ofText?, whole]

theorem text_injective {datum other : Datum} (same : datum.text = other.text) : datum = other := by
  have read := ofText?_text datum
  rw [same, ofText?_text] at read
  exact (Option.some.inj read).symm

end Datum

namespace Engine

variable {σ : Type} (engine : Engine σ) (held : Roots) (state : State σ)

mutual

theorem repr_eq_text : ∀ (value : Value) {datum : Datum}, state.world.datum? value = some datum →
    engine.repr value held state = .done (.ok datum.text) state
  | .none, _, holds | .notImplemented, _, holds | .bool _, _, holds | .int _, _, holds
  | .str _, _, holds => by
    cases holds
    rfl
  | .object ⟨serial, type, store, .tuple items⟩, datum, holds => by
    rw [World.datum?] at holds
    split at holds
    · next exact =>
      obtain ⟨data, known, rfl⟩ := Option.map_eq_some_iff.mp holds
      have texts := reprItems_eq_texts items known
      simp only [repr, Eval.bind_apply, Eval.world, exact, if_true, texts, Eval.pure_apply,
        Datum.text]
    · cases holds
  | .object ⟨_, _, _, .empty⟩, _, holds | .float _, _, holds | .type _, _, holds
  | .function _, _, holds | .boundMethod .., _, holds | .descriptor _, _, holds
  | .slice .., _, holds | .iterator .., _, holds => by
    cases holds

theorem reprItems_eq_texts : ∀ (items : List Value) {data : List Datum},
    state.world.data? items = some data →
    engine.reprItems items held state = .done (.ok (Datum.texts data)) state
  | [], data, holds => by
    cases holds
    rfl
  | item :: items, data, holds => by
    rw [World.data?] at holds
    obtain ⟨datum, known, holds⟩ := Option.bind_eq_some_iff.mp holds
    obtain ⟨rest, others, holds⟩ := Option.bind_eq_some_iff.mp holds
    cases holds
    simp only [reprItems, Eval.bind_apply, repr_eq_text item known,
      reprItems_eq_texts items others, Eval.pure_apply, Datum.texts]

end

/-- A value made of plain values and exact tuples shows, without a change to the state, as a text
from which all that it holds is read back. So two of them, wherever they are shown, show alike just
if they hold the same. -/
theorem repr_faithful (held' : Roots) (later : State σ) (left right : Value) {datum other : Datum}
    (holds : state.world.datum? left = some datum)
    (holds' : later.world.datum? right = some other) :
    ∃ text text', engine.repr left held state = .done (.ok text) state ∧
      engine.repr right held' later = .done (.ok text') later ∧
      Datum.ofText? text = some datum ∧ Datum.ofText? text' = some other ∧
      (text = text' ↔ datum = other) := by
  refine ⟨datum.text, other.text, engine.repr_eq_text held state left holds,
    engine.repr_eq_text held' later right holds', datum.ofText?_text, other.ofText?_text, ?_⟩
  exact ⟨Datum.text_injective, fun same => congrArg Datum.text same⟩

theorem repr_faithful_lookalike :
    ∃ text text',
      (idleHost.engine {} 1 1).repr
        (.object ⟨300, Builtin.tuple.key, none, .tuple [.str "a', 'b"]⟩) {}
        ⟨World.initial, ()⟩ = .done (.ok text) ⟨World.initial, ()⟩ ∧
      (idleHost.engine {} 1 1).repr
        (.object ⟨301, Builtin.tuple.key, none, .tuple [.str "a", .str "b"]⟩) {}
        ⟨World.initial, ()⟩ = .done (.ok text') ⟨World.initial, ()⟩ ∧
      Datum.ofText? text = some (.tuple [.str "a', 'b"]) ∧ text ≠ text' := by
  -- One string that holds what stands between the outer quotes of two.
  obtain ⟨text, text', shown, shown', read, _, alike⟩ :=
    repr_faithful (idleHost.engine {} 1 1) {} ⟨World.initial, ()⟩ {} ⟨World.initial, ()⟩
      (.object ⟨300, Builtin.tuple.key, none, .tuple [.str "a', 'b"]⟩)
      (.object ⟨301, Builtin.tuple.key, none, .tuple [.str "a", .str "b"]⟩)
      (show _ = some (Datum.tuple [.str "a', 'b"]) from rfl)
      (show _ = some (Datum.tuple [.str "a", .str "b"]) from rfl)
  exact ⟨text, text', shown, shown', read, fun same => by simpa using alike.mp same⟩

end Engine

end ObjectModel
