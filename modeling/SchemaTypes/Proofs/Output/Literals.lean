/-
This file shows that a JSON value is written on one line, whatever its texts and keys contain, and
that something is written of every value.
-/
import SchemaTypes.Json.Printer
import SchemaTypes.Proofs.Output.Lines

namespace SchemaTypes

open Text

/-- A text of digits, and of the other characters that numbers are written with. -/
def Text.Numerical (text : String) : Prop :=
  ∀ character ∈ text.toList, character.isDigit = true ∨ character ∈ ".e+-".toList

instance (text : String) : Decidable (Numerical text) := List.decidableBAll _ _

theorem Text.Numerical.append {first second : String} (left : Numerical first)
    (right : Numerical second) : Numerical (first ++ second) := by
  rw [Numerical, String.toList_append, List.forall_mem_append]
  exact ⟨left, right⟩

/-- A number stands on one line. -/
theorem Text.Numerical.oneLine {text : String} (numerical : Numerical text) : OneLine text :=
  fun broken => absurd (numerical _ broken) (by decide)

/-- A natural number is written in digits. -/
theorem Nat.isDigit_of_mem_repr {value : Nat} {character : Char}
    (member : character ∈ (Nat.repr value).toList) : character.isDigit = true := by
  rw [Nat.toList_repr] at member
  exact Nat.isDigit_of_mem_toDigits (by decide) (by decide) member

theorem Nat.repr_numerical (value : Nat) : Numerical (Nat.repr value) :=
  fun _ member => .inl (Nat.isDigit_of_mem_repr member)

namespace NumberLayout

theorem zeros_numerical (count : Nat) : Numerical (zeros count) := by
  rw [Numerical, zeros, String.toList_ofList]
  intro character member
  rw [List.eq_of_mem_replicate member]
  exact .inl rfl

/-- The digits before and behind the point are digits of one number. -/
theorem digits_numerical (number : Decimal) : Numerical number.digitText := Nat.repr_numerical _

/-- A number without an exponent is written in digits and a dot. -/
theorem positionalText_numerical (number : Decimal) : Numerical (positionalText number) := by
  have digits := digits_numerical number
  unfold positionalText
  dsimp only
  split
  · exact (digits.append (zeros_numerical _)).append (by decide)
  · split
    · refine (Numerical.append ?_ (by decide)).append ?_
      · rw [Numerical, String.toList_ofList]
        exact fun character member => digits character (List.mem_of_mem_take member)
      · rw [Numerical, String.toList_ofList]
        exact fun character member => digits character (List.mem_of_mem_drop member)
    · exact (Numerical.append (by decide) (zeros_numerical _)).append digits

/-- A number with an exponent is written in digits, a dot, a letter and a sign. -/
theorem scientificText_numerical (number : Decimal) : Numerical (scientificText number) := by
  have digits := digits_numerical number
  unfold scientificText
  dsimp only
  refine (Numerical.append ?_ ?_).append (Nat.repr_numerical _)
  · rw [Numerical, String.toList_ofList, List.forall_mem_append]
    refine ⟨fun character member => digits character (List.mem_of_mem_take member), ?_⟩
    split
    · exact fun character member => absurd member List.not_mem_nil
    · exact List.forall_mem_cons.mpr
        ⟨by decide, fun character member => digits character (List.mem_of_mem_drop member)⟩
  · split <;> decide

/-- Every layout of numbers uses digits and few other characters. -/
theorem text_numerical (layout : NumberLayout) (number : Binary64) :
    Numerical (layout.text number) := by
  have magnitude : Numerical (if layout.isPositional number.shortest = true
      then positionalText number.shortest else scientificText number.shortest) := by
    split
    · exact positionalText_numerical _
    · exact scientificText_numerical _
  unfold NumberLayout.text
  dsimp only
  split
  · exact Numerical.append (by decide) magnitude
  · exact magnitude

/-- Something is written of every number. -/
theorem text_ne_empty (layout : NumberLayout) (number : Binary64) : layout.text number ≠ "" := by
  have positional (decimal : Decimal) : positionalText decimal ≠ "" := by
    unfold positionalText
    dsimp only
    repeat' split
    all_goals simp
  have scientific (decimal : Decimal) : scientificText decimal ≠ "" := by
    unfold scientificText
    dsimp only
    split <;> simp
  unfold NumberLayout.text
  dsimp only
  split
  · simp
  · split
    · exact positional _
    · exact scientific _

end NumberLayout

namespace Json

theorem Number.text_numerical (number : Json.Number) : Numerical number.text := by
  cases number with
  | integer value =>
      cases value with
      | ofNat value => exact Nat.repr_numerical value
      | negSucc value => exact Numerical.append (by decide) (Nat.repr_numerical _)
  | float value => exact NumberLayout.text_numerical _ value

/-- Line feeds are escaped, and the escapes of control characters have letters and digits only. -/
theorem newline_not_mem_escapeChar (character : Char) : '\n' ∉ escapeChar character := by
  by_cases control : character.toNat < 32
  · have all : ∀ code < 32, '\n' ∉ escapeChar (Char.ofNat code) := by decide +kernel
    simpa using all character.toNat control
  · unfold escapeChar
    split
    all_goals try decide
    rw [if_neg control, List.mem_singleton]
    rintro rfl
    exact control (by decide)

/-- A quoted text stands on one line, since line breaks are escaped. -/
theorem quote_oneLine (text : String) : OneLine (quote text) := by
  have inner : '\n' ∉ text.toList.flatMap escapeChar := by
    rw [List.mem_flatMap]
    exact fun ⟨character, _, member⟩ => newline_not_mem_escapeChar character member
  rw [OneLine, quote, String.toList_ofList]
  simpa using inner

mutual

/-- A value is written on one line. -/
theorem compact_oneLine : (value : Json) → OneLine value.compact
  | .null => by decide
  | .bool true => by decide
  | .bool false => by decide
  | .number value => value.text_numerical.oneLine
  | .string text => quote_oneLine text
  | .array items =>
      ((show OneLine "[" by decide).append
        (.intercalate (by decide) (compactItems_oneLine items))).append (by decide)
  | .object fields =>
      ((show OneLine "\x7b" by decide).append
        (.intercalate (by decide) (compactFields_oneLine fields))).append (by decide)

/-- The items of a list are written on one line each. -/
theorem compactItems_oneLine : (items : List Json) → ∀ text ∈ compactItems items, OneLine text
  | [] => nofun
  | item :: items => List.forall_mem_cons.mpr ⟨compact_oneLine item, compactItems_oneLine items⟩

/-- The fields of an object are written on one line each. -/
theorem compactFields_oneLine :
    (fields : List (String × Json)) → ∀ text ∈ compactFields fields, OneLine text
  | [] => nofun
  | (key, value) :: fields => List.forall_mem_cons.mpr
      ⟨((quote_oneLine key).append (by decide)).append (compact_oneLine value),
        compactFields_oneLine fields⟩

end

theorem Number.text_ne_empty (number : Number) : number.text ≠ "" := by
  cases number with
  | integer value =>
      cases value with
      | ofNat value => exact Nat.repr_ne_empty
      | negSucc value =>
          change "-" ++ Nat.repr _ ≠ ""
          simp
  | float value => exact NumberLayout.text_ne_empty _ value

/-- Something is written of every value. -/
theorem compact_ne_empty (value : Json) : value.compact ≠ "" := by
  cases value with
  | null => decide
  | bool value => cases value <;> decide
  | number number => exact number.text_ne_empty
  | string text => simp [compact, quote]
  | array items => simp [compact]
  | object fields => simp [compact]

end Json
end SchemaTypes
