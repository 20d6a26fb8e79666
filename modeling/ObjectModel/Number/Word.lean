set_option autoImplicit false

namespace ObjectModel.Word

def ofInt? (number : Int) : Option Int64 :=
  if Int64.minValue.toInt ≤ number ∧ number ≤ Int64.maxValue.toInt then
    some (Int64.ofInt number)
  else
    none

def add? (left right : Int64) : Option Int64 :=
  ofInt? (left.toInt + right.toInt)

def sub? (left right : Int64) : Option Int64 :=
  ofInt? (left.toInt - right.toInt)

def mul? (left right : Int64) : Option Int64 :=
  ofInt? (left.toInt * right.toInt)

def neg? (word : Int64) : Option Int64 :=
  ofInt? (-word.toInt)

def div? (left right : Int64) : Option Int64 :=
  if right = 0 then none else ofInt? (left.toInt.tdiv right.toInt)

theorem ofInt?_eq_some_iff (number : Int) (word : Int64) :
    ofInt? number = some word ↔ word.toInt = number := by
  constructor
  · intro fits
    simp only [ofInt?] at fits
    split at fits
    · rename_i range
      obtain rfl := Option.some.inj fits
      exact Int64.toInt_ofInt_of_le range.1 (Int.lt_of_le_of_lt range.2 (by decide))
    · exact absurd fits (by simp)
  · rintro rfl
    have low := Int64.minValue_le_toInt word
    have high := Int64.toInt_le word
    simp only [ofInt?, Int64.ofInt_toInt]
    exact if_pos ⟨low, high⟩

theorem ofInt?_eq_none_iff (number : Int) :
    ofInt? number = none ↔
      number < Int64.minValue.toInt ∨ Int64.maxValue.toInt < number := by
  simp only [ofInt?, ite_eq_right_iff, reduceCtorEq, imp_false, Decidable.not_and_iff_or_not,
    Int.not_le]

end ObjectModel.Word
