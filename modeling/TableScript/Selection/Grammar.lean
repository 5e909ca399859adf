import TableScript.Selection.Expression

/-! The grammar of selection expressions, said without a reader. It leaves open what number a run of
digits stands for, so that it describes expressions over machine words and over all numbers. -/
namespace TableScript.Selection

def IsGap (text : List Char) : Prop := ∀ c ∈ text, isGapChar c = true

def IsNumeral (text : List Char) : Prop := text ≠ [] ∧ ∀ c ∈ text, c.isDigit = true

instance (text : List Char) : Decidable (IsNumeral text) :=
  decidable_of_iff (text ≠ [] ∧ text.all Char.isDigit = true) (by rw [IsNumeral, List.all_eq_true])

/-- The texts of a list's numbers up to its closing bracket: gaps stand around each number, and
commas between them. -/
inductive ItemsWritten (value : List Char → Nat) : List Nat → List Char → Prop
  | last {before digits after : List Char} (gapBefore : IsGap before) (numeral : IsNumeral digits)
      (gapAfter : IsGap after) : ItemsWritten value [value digits] (before ++ digits ++ after)
  | more {before digits after rest : List Char} {ids : List Nat} (gapBefore : IsGap before)
      (numeral : IsNumeral digits) (gapAfter : IsGap after) (others : ItemsWritten value ids rest) :
      ItemsWritten value (value digits :: ids) (before ++ digits ++ after ++ ',' :: rest)

/-- The texts of a selection, without the gaps around it. -/
inductive FormWritten (value : List Char → Nat) : Selection → List Char → Prop
  | all : FormWritten value .all ['*']
  | single {digits : List Char} (numeral : IsNumeral digits) :
      FormWritten value (.single (value digits)) digits
  | range {a first b c last d : List Char} (gapA : IsGap a) (numeralFirst : IsNumeral first)
      (gapB : IsGap b) (gapC : IsGap c) (numeralLast : IsNumeral last) (gapD : IsGap d) :
      FormWritten value (.range (value first) (value last))
        ('(' :: a ++ first ++ b ++ ['.', '.'] ++ c ++ last ++ d ++ [')'])
  | list {ids : List Nat} {items : List Char} (written : ItemsWritten value ids items) :
      FormWritten value (.list ids) ('[' :: items ++ [']'])

/-- The texts of a selection. -/
inductive Written (value : List Char → Nat) : Selection → List Char → Prop
  | around {before form after : List Char} {selection : Selection} (gapBefore : IsGap before)
      (written : FormWritten value selection form) (gapAfter : IsGap after) :
      Written value selection (before ++ form ++ after)

end TableScript.Selection
