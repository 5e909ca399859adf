import TableScript.Shell.Reader
import Mathlib.Data.List.Basic

/-! How the reader takes a line of words whose characters mean nothing but themselves: as one simple
command with these words. The reader is followed forwards, each part of it from the text that it
meets to the text that it leaves. -/
namespace TableScript.Shell

open Reading

/-- The characters that stand for more than themselves inside a word. -/
def meaningful : List Char := ['\\', '\'', '"', '$', '\x60', '#', '~', '*', '?', '[', '=']

def isInertChar (c : Char) : Bool := !endsWord c && !meaningful.contains c

def IsInert (word : List Char) : Prop := ∀ c ∈ word, isInertChar c = true

instance (word : List Char) : Decidable (IsInert word) :=
  decidable_of_iff (word.all isInertChar = true) List.all_eq_true

/-- Words after the first, each with a blank before it. -/
def spacedOut (words : List (List Char)) : List Char := words.flatMap (' ' :: ·)

theorem ne_of_isInertChar {c d : Char} (inert : isInertChar c = true) (special : isInertChar d = false) :
    c ≠ d := by
  intro same
  subst same
  rw [inert] at special
  contradiction

theorem not_endsWord {c : Char} (inert : isInertChar c = true) : endsWord c = false := by
  simp only [isInertChar, Bool.and_eq_true, Bool.not_eq_true'] at inert
  exact inert.1

variable {text next : List Char} {line : Nat} {after : Option (List Char × Nat)} {aliases : List (String × String)}

namespace Reading

theorem bind_ok {ε α β : Type} (a : α) (f : α → Except ε β) : (Except.ok a >>= f) = f a := rfl

theorem bind_run {α β : Type} {first : Reading α} {next : α → Reading β} {s t : Source} {a : α}
    (run : first.run s = .ok (a, t)) : (first >>= next).run s = (next a).run t := by
  rw [StateT.run_bind, run]
  rfl

theorem get_run (s : Source) : (get : Reading Source).run s = .ok (s, s) := rfl

theorem rest_run (s : Source) : Reading.rest.run s = .ok (s.rest, s) := rfl

theorem advance_run {c : Char} (solid : c ≠ '\n') (text : List Char) (line : Nat) (after aliases) :
    advance.run ⟨c :: text, line, after, aliases⟩ = .ok ((), ⟨text, line, after, aliases⟩) := by
  simp [advance, modify, modifyGet, MonadStateOf.modifyGet, StateT.modifyGet, StateT.run, solid]
  rfl

theorem skipBlanks_run (solid : ∀ c ∈ text.head?, isInertChar c = true) (steps : Nat) :
    (skipBlanks steps).run ⟨text, line, after, aliases⟩ = .ok ((), ⟨text, line, after, aliases⟩) := by
  cases steps with
  | zero => rfl
  | succ steps =>
    simp only [skipBlanks, StateT.run_bind, rest_run, bind_ok]
    split
    any_goals exact absurd (solid _ rfl) (by decide)
    rfl

theorem skipBlanks_plain (plain : ∀ c ∈ text, isInertChar c = true ∨ c = ' ') {steps : Nat}
    (enough : text.length < steps) : (skipBlanks steps).run ⟨text, line, after, aliases⟩ =
      .ok ((), ⟨text.dropWhile (· = ' '), line, after, aliases⟩) := by
  induction text generalizing steps with
  | nil => exact skipBlanks_run (by simp) steps
  | cons c text ih =>
    obtain ⟨spare, rfl⟩ : ∃ spare, steps = spare + 1 := ⟨steps - 1, by omega⟩
    rcases plain c List.mem_cons_self with inert | rfl
    · rw [List.dropWhile_cons_of_neg (by simpa using ne_of_isInertChar inert (by decide))]
      exact skipBlanks_run (by simpa using inert) _
    · simp only [skipBlanks, StateT.run_bind, rest_run, bind_ok]
      rw [advance_run (by decide), bind_ok,
        ih (fun d member => plain d (List.mem_cons_of_mem _ member)) (Nat.lt_of_succ_lt_succ enough)]
      rfl

end Reading

theorem readPiece_run {c : Char} (inert : isInertChar c = true) (steps : Nat) (source : Source) :
    (readPiece (steps + 1) c).run source = .ok (.char c, source) := by
  have unlike {d : Char} (special : isInertChar d = false) := ne_of_isInertChar inert special
  rw [readPiece, if_neg (unlike (by decide)), if_neg (unlike (by decide)), if_neg (unlike (by decide)),
    if_neg (unlike (by decide))]
  rfl

theorem readWord_run {word : List Char} (inert : IsInert word)
    (ends : ∀ c ∈ next.head?, c = ' ') (steps : Nat) :
    (readWord (word.length + steps + 2)).run ⟨word ++ next, line, after, aliases⟩ =
      .ok (word.map .char, ⟨next, line, after, aliases⟩) := by
  induction word with
  | nil =>
    rw [readWord.eq_def]
    simp only [StateT.run_bind, rest_run, bind_ok, List.nil_append]
    cases next with
    | nil => rfl
    | cons c next =>
      obtain rfl := ends c rfl
      rfl
  | cons c word ih =>
    have first := inert c List.mem_cons_self
    have others := ih fun d member => inert d (List.mem_cons_of_mem c member)
    rw [List.length_cons, readWord.eq_def]
    simp only [StateT.run_bind, rest_run, bind_ok, List.cons_append]
    have unlike {d : Char} (special : isInertChar d = false) := ne_of_isInertChar first special
    have line' : c ≠ '\n' := unlike (by decide)
    have slash : c ≠ '\\' := unlike (by decide)
    rw [show word.length + 1 + steps + 1 = word.length + steps + 2 by omega]
    split
    · contradiction
    · rename_i same
      exact absurd (List.cons.inj same).1 slash
    · rename_i same
      exact absurd (List.cons.inj same).1 slash
    · rename_i same
      obtain ⟨rfl, rfl⟩ := List.cons.inj same
      simp only [not_endsWord first, Bool.false_eq_true, if_false, StateT.run_bind, advance_run line', bind_ok,
        readPiece_run first, others]
      rfl

theorem operatorAt?_of_solid (solid : ∀ c ∈ text.head?, endsWord c = false) : operatorAt? text = none := by
  rw [operatorAt?, List.find?_eq_none]
  intro operator member
  have ending : ∀ operator ∈ operators, operator.toList.head?.any endsWord = true := by decide
  have first := ending operator member
  cases whole : operator.toList with
  | nil => simp [whole] at first
  | cons d ds =>
    cases text with
    | nil => simp
    | cons c text =>
      simp only [whole, List.head?_cons, Option.any_some] at first
      have other := solid c rfl
      intro starts
      rw [List.isPrefixOf_cons_cons, Bool.and_eq_true, beq_iff_eq] at starts
      rw [starts.1, other] at first
      contradiction

theorem reservedAt?_of_word {word : String} (unreserved : word ∉ reservedWords)
    (solid : ∀ c ∈ word.toList, endsWord c = false) (ends : ∀ c ∈ next.head?, c = ' ') :
    reservedAt? (word.toList ++ next) = none := by
  have taken : (word.toList ++ next).takeWhile (fun c => !endsWord c) = word.toList := by
    rw [List.takeWhile_append_of_pos (by simpa using solid)]
    cases next with
    | nil => simp
    | cons c next =>
      obtain rfl := ends c rfl
      simp [show endsWord ' ' = true from rfl]
  rw [reservedAt?, taken, List.find?_eq_none]
  intro reserved member same
  rw [decide_eq_true_eq, String.toList_inj] at same
  exact unreserved (same ▸ member)

theorem passOperator_run (solid : ∀ c ∈ text.head?, isInertChar c = true) (operator : String) :
    (passOperator operator).run ⟨text, line, after, aliases⟩ = .ok (false, ⟨text, line, after, aliases⟩) := by
  have absent := operatorAt?_of_solid fun c first => not_endsWord (solid c first)
  simp only [passOperator, StateT.run_bind, rest_run, bind_ok, skipBlanks_run solid, absent]
  rfl

theorem streamNumber?_of_plain (plain : ∀ c ∈ text, isInertChar c = true ∨ c = ' ') :
    streamNumber? text = none := by
  unfold streamNumber?
  split
  · rename_i c next tail
    have neither : ¬(next = '<' ∨ next = '>') := by
      rintro (rfl | rfl) <;> exact absurd (plain _ (List.mem_cons_of_mem c List.mem_cons_self)) (by decide)
    rw [if_neg fun both => neither both.2]
  · rfl

theorem readRedirection?_run (plain : ∀ c ∈ text, isInertChar c = true ∨ c = ' ') {s : Source} (steps : Nat)
    (solid : ∀ c ∈ text.head?, isInertChar c = true)
    (skipped : (skipBlanks (s.rest.length + 1)).run s = .ok ((), ⟨text, line, after, aliases⟩)) :
    (readRedirection? (steps + 1)).run s = .ok (none, ⟨text, line, after, aliases⟩) := by
  have absent := operatorAt?_of_solid fun c first => not_endsWord (solid c first)
  rw [readRedirection?, bind_run (rest_run s), bind_run skipped, bind_run (rest_run _)]
  dsimp only
  rw [bind_run (rest_run _), streamNumber?_of_plain plain, Option.isSome_none, if_neg Bool.false_ne_true,
    List.drop_zero, absent]
  rfl

theorem assignment?_of_inert {word : List Char} (inert : IsInert word) :
    assignment? (word.map .char) = none := by
  unfold assignment?
  dsimp only
  split
  · rename_i name value named rest
    have present : Piece.char '=' ∈ word.map .char :=
      (List.dropWhile_sublist _).subset (rest ▸ List.mem_cons_self)
    obtain ⟨c, member, same⟩ := List.mem_map.mp present
    cases same
    exact absurd (inert _ member) (by decide)
  · rfl

theorem head_spacedOut (words : List (List Char)) : ∀ c ∈ (spacedOut words).head?, c = ' ' := by
  intro c first
  cases words with
  | nil => simp [spacedOut] at first
  | cons word words => simpa [spacedOut, eq_comm] using first

theorem spacedOut_plain {words : List (List Char)} (inert : ∀ word ∈ words, IsInert word) :
    ∀ c ∈ spacedOut words, isInertChar c = true ∨ c = ' ' := by
  intro c member
  obtain ⟨word, present, inside⟩ := List.mem_flatMap.mp member
  rcases List.mem_cons.mp inside with blank | inside
  · exact .inr blank
  · exact .inl (inert word present c inside)

theorem passOpening_run (solid : ∀ c ∈ text.head?, isInertChar c = true) (isAllowed : Bool) :
    (passOpening isAllowed).run ⟨text, line, after, aliases⟩ = .ok (false, ⟨text, line, after, aliases⟩) := by
  cases isAllowed
  · rfl
  · exact passOperator_run solid "("

section Simple

variable {source : Source} {words : List Word} {number steps : Nat}

theorem readSimple_end (skipped : (skipBlanks (source.rest.length + 1)).run source =
      .ok ((), ⟨[], line, after, aliases⟩)) :
    (readSimple (steps + 2) number [] words []).run source =
      .ok (.simple number [] words [], ⟨[], line, after, aliases⟩) := by
  have none_left := readRedirection?_run (by simp) steps (by simp) skipped
  rw [readSimple, bind_run none_left]
  dsimp only
  rw [bind_run (passOpening_run (by simp) _), if_neg Bool.false_ne_true, bind_run (rest_run _)]
  rfl

theorem readSimple_word {word : List Char} (filled : word ≠ []) (inert : IsInert word)
    (ends : ∀ c ∈ next.head?, c = ' ') (plain : ∀ c ∈ next, isInertChar c = true ∨ c = ' ')
    (skipped : (skipBlanks (source.rest.length + 1)).run source =
      .ok ((), ⟨word ++ next, line, after, aliases⟩)) :
    (readSimple (word.length + steps + 3) number [] words []).run source =
      (readSimple (word.length + steps + 2) number [] (words ++ [word.map .char]) []).run
        ⟨next, line, after, aliases⟩ := by
  obtain ⟨c, others, whole⟩ := List.exists_cons_of_ne_nil filled
  have first : isInertChar c = true := inert c (by simp [whole])
  have solid : ∀ d ∈ (word ++ next).head?, isInertChar d = true := by simp [whole, first]
  have all_plain : ∀ d ∈ word ++ next, isInertChar d = true ∨ d = ' ' := fun d member =>
    (List.mem_append.mp member).elim (fun inside => .inl (inert d inside)) (plain d)
  rw [readSimple, bind_run (readRedirection?_run all_plain (word.length + steps + 1) solid skipped)]
  dsimp only
  rw [bind_run (passOpening_run solid _), if_neg Bool.false_ne_true, bind_run (rest_run _), if_neg]
  · rw [bind_run (readWord_run inert ends steps), assignment?_of_inert inert]
    split
    · contradiction
    · rw [if_neg (by simp [filled])]
  · simp [whole, not_endsWord first]

variable {rest : List (List Char)}

/-- The induction follows the words that are left. The source is given by what it has after blanks, so
that a word with nothing in it is passed over with the blank before it. -/
theorem readSimple_words (inert : ∀ word ∈ rest, IsInert word) (enough : (spacedOut rest).length + 2 ≤ steps)
    (skipped : (skipBlanks (source.rest.length + 1)).run source =
      .ok ((), ⟨(spacedOut rest).dropWhile (· = ' '), line, after, aliases⟩)) :
    (readSimple steps number [] words []).run source =
      .ok (.simple number [] (words ++ (rest.filter (· ≠ [])).map (List.map .char)) [],
        ⟨[], line, after, aliases⟩) := by
  induction rest generalizing words steps source with
  | nil =>
    obtain ⟨spare, rfl⟩ := Nat.exists_eq_add_of_le' enough
    rw [List.filter_nil, List.map_nil, List.append_nil]
    exact readSimple_end skipped
  | cons word rest ih =>
    have later := fun other member => inert other (List.mem_cons_of_mem word member)
    have whole : spacedOut (word :: rest) = ' ' :: (word ++ spacedOut rest) := rfl
    rw [whole] at skipped enough
    rw [List.dropWhile_cons_of_pos (by rfl)] at skipped
    rw [List.length_cons, List.length_append] at enough
    by_cases empty : word = []
    · subst empty
      exact ih later (by omega) skipped
    · obtain ⟨spare, rfl⟩ : ∃ spare, steps = word.length + spare + 3 := ⟨steps - word.length - 3, by omega⟩
      obtain ⟨c, others, begun⟩ := List.exists_cons_of_ne_nil empty
      have solid : c ≠ ' ' := ne_of_isInertChar (inert word List.mem_cons_self c (by simp [begun])) (by decide)
      have kept : (word ++ spacedOut rest).dropWhile (· = ' ') = word ++ spacedOut rest := by
        rw [begun, List.cons_append, List.dropWhile_cons_of_neg (by simpa using solid)]
      rw [kept] at skipped
      rw [readSimple_word empty (inert word List.mem_cons_self) (head_spacedOut rest) (spacedOut_plain later) skipped,
        ih later (by omega) (skipBlanks_plain (spacedOut_plain later) (Nat.lt_succ_self _)),
        List.filter_cons_of_pos (by simpa using empty)]
      simp

end Simple

section Line

variable {word : List Char} {rest : List (List Char)} (filled : word ≠ [])
  (inert : ∀ other ∈ word :: rest, IsInert other) (unreserved : String.ofList word ∉ reservedWords)

/-- The command that a line of words stands for. Words with nothing in them are no words of it. -/
def lineCommand (line : Nat) (word : List Char) (rest : List (List Char)) : Command :=
  .simple line [] ((word :: rest.filter (· ≠ [])).map (List.map .char)) []

include filled inert

theorem head_line : ∀ c ∈ (word ++ spacedOut rest).head?, isInertChar c = true := by
  obtain ⟨c, others, whole⟩ := List.exists_cons_of_ne_nil filled
  simp [whole, inert word List.mem_cons_self c]

theorem readSimple_line {steps : Nat} (enough : (word ++ spacedOut rest).length + 3 ≤ steps) :
    (readSimple steps line [] [] []).run ⟨word ++ spacedOut rest, line, after, aliases⟩ =
      .ok (lineCommand line word rest, ⟨[], line, after, aliases⟩) := by
  have later := fun other member => inert other (List.mem_cons_of_mem word member)
  rw [List.length_append] at enough
  obtain ⟨spare, rfl⟩ : ∃ spare, steps = word.length + spare + 3 := ⟨steps - word.length - 3, by omega⟩
  rw [readSimple_word filled (inert word List.mem_cons_self) (head_spacedOut rest) (spacedOut_plain later)
    (skipBlanks_run (head_line filled inert) _),
    readSimple_words later (by omega) (skipBlanks_plain (spacedOut_plain later) (Nat.lt_succ_self _))]
  rfl

include unreserved

omit filled in
theorem reservedAt?_line : reservedAt? (word ++ spacedOut rest) = none := by
  have solid : ∀ c ∈ (String.ofList word).toList, endsWord c = false := fun c member =>
    not_endsWord (inert word List.mem_cons_self c (by simpa using member))
  have absent := reservedAt?_of_word unreserved solid (head_spacedOut rest)
  rwa [String.toList_ofList] at absent

theorem beginsSimple_line : beginsSimple (word ++ spacedOut rest) = true := by
  have absent := operatorAt?_of_solid fun c first => not_endsWord (head_line filled inert c first)
  rw [beginsSimple, absent, reservedAt?_line inert unreserved]
  simp [filled]

theorem readCommand_line {steps : Nat} (enough : (word ++ spacedOut rest).length + 4 ≤ steps) :
    (readCommand steps).run ⟨word ++ spacedOut rest, line, after, []⟩ =
      .ok (lineCommand line word rest, ⟨[], line, after, []⟩) := by
  obtain ⟨spare, rfl⟩ : ∃ spare, steps = spare + 1 := ⟨steps - 1, by omega⟩
  have solid := head_line filled inert
  have kept : replaceAliases.run ⟨word ++ spacedOut rest, line, after, []⟩ =
      .ok ((), ⟨word ++ spacedOut rest, line, after, []⟩) := rfl
  rw [readCommand, bind_run (rest_run _), bind_run (skipBlanks_run solid _), bind_run kept, bind_run (get_run _)]
  dsimp only
  rw [bind_run (rest_run _), if_pos (beginsSimple_line filled inert unreserved)]
  exact readSimple_line filled inert (by omega)

theorem passReserved_line (reserved : String) :
    (passReserved reserved).run ⟨word ++ spacedOut rest, line, after, aliases⟩ =
      .ok (false, ⟨word ++ spacedOut rest, line, after, aliases⟩) := by
  rw [passReserved, bind_run (rest_run _), bind_run (skipBlanks_run (head_line filled inert) _),
    bind_run (rest_run _), reservedAt?_line inert unreserved]
  rfl

theorem readPipeline_line {steps : Nat} (enough : (word ++ spacedOut rest).length + 5 ≤ steps) :
    (readPipeline steps).run ⟨word ++ spacedOut rest, line, after, []⟩ =
      .ok (lineCommand line word rest, ⟨[], line, after, []⟩) := by
  obtain ⟨spare, rfl⟩ : ∃ spare, steps = spare + 2 := ⟨steps - 2, by omega⟩
  have alone : (readPiped (spare + 1)).run ⟨[], line, after, []⟩ = .ok ([], ⟨[], line, after, []⟩) := by
    rw [readPiped, bind_run (passOperator_run (by simp) _)]
    rfl
  rw [readPipeline, bind_run (passReserved_line filled inert unreserved "!"),
    bind_run (readCommand_line filled inert unreserved (by omega)), bind_run alone]
  rfl

theorem readAndOr_line {steps : Nat} (enough : (word ++ spacedOut rest).length + 6 ≤ steps) :
    (readAndOr steps).run ⟨word ++ spacedOut rest, line, after, []⟩ =
      .ok (lineCommand line word rest, ⟨[], line, after, []⟩) := by
  obtain ⟨spare, rfl⟩ : ∃ spare, steps = spare + 2 := ⟨steps - 2, by omega⟩
  rw [readAndOr, bind_run (readPipeline_line filled inert unreserved (by omega)), readMoreAndOr,
    bind_run (passOperator_run (by simp) _), if_neg Bool.false_ne_true,
    bind_run (passOperator_run (by simp) _), if_neg Bool.false_ne_true]
  rfl

omit filled inert unreserved in
theorem readRestOfLine_end (work steps : Nat) (command : Command) :
    (readRestOfLine work (steps + 1) command).run ⟨[], line, after, aliases⟩ =
      .ok (command, ⟨[], line, after, aliases⟩) := by
  rw [readRestOfLine, bind_run (passOperator_run (by simp) _)]
  dsimp only
  rw [if_neg Bool.false_ne_true, bind_run (passOperator_run (by simp) _), bind_run (rest_run _),
    bind_run (skipBlanks_run (by simp) _), bind_run (rest_run _)]
  rfl

/-- A line of inert words is read as the one simple command that it stands for, and nothing is left. -/
theorem readLine?_line :
    readLine?.run ⟨word ++ spacedOut rest, line, after, []⟩ =
      .ok (some (lineCommand line word rest), ⟨[], line, after, []⟩) := by
  have solid := head_line filled inert
  obtain ⟨c, others, whole⟩ := List.exists_cons_of_ne_nil filled
  rw [readLine?, bind_run (rest_run _)]
  dsimp only
  rw [bind_run (skipBlanks_run solid _), bind_run (rest_run _)]
  split
  · rename_i empty
    simp [whole] at empty
  · rename_i tail broken
    replace broken : word ++ spacedOut rest = '\n' :: tail := broken
    exact absurd (solid '\n' (by rw [broken]; rfl)) (by decide)
  · rw [bind_run (readAndOr_line filled inert unreserved (by omega)), bind_run (readRestOfLine_end _ _ _)]
    rfl

end Line

end TableScript.Shell
