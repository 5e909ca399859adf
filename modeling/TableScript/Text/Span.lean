/-! Sets of characters written as spans of code points. A property table is a list of spans in
ascending order, so that a search may stop at the first span that begins above its character. -/
namespace TableScript.Text

structure Span where
  first : Nat
  last : Nat
  step : Nat

def Span.holds (span : Span) (code : Nat) : Bool :=
  span.first ≤ code && code ≤ span.last && (code - span.first) % span.step == 0

def covers : List Span → Nat → Bool
  | [], _ => false
  | span :: rest, code =>
    if code < span.first then false
    else if code ≤ span.last then (code - span.first) % span.step == 0
    else covers rest code

/-- A covered code point is in one of the spans. -/
theorem exists_holds_of_covers {spans : List Span} {code : Nat} (covered : covers spans code = true) :
    ∃ span ∈ spans, span.holds code = true := by
  induction spans with
  | nil => simp [covers] at covered
  | cons span rest ih =>
    by_cases below : code < span.first
    · simp [covers, below] at covered
    · by_cases within : code ≤ span.last
      · refine ⟨span, by simp, ?_⟩
        simp only [covers, below, within, if_true, if_false] at covered
        simp [Span.holds, within, Nat.le_of_not_lt below]
        simpa using covered
      · simp only [covers, below, within, if_false] at covered
        obtain ⟨found, member, holds⟩ := ih covered
        exact ⟨found, by simp [member], holds⟩

end TableScript.Text
