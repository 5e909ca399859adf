import TableScript.Command.Arguments

/-! Arguments read one part after the other. What is asked for by arguments that leave the selection open is
also asked for when a selection is given after them. -/
namespace TableScript.Command

/-- The ways to select by an argument or two. An expression that looks like an option can only be
attached to its own option. -/
inductive Selects (expression : String) : List String → Prop
  | short (apart : isValue expression.toList = true) : Selects expression ["-s", expression]
  | long (apart : isValue expression.toList = true) : Selects expression ["--select", expression]
  | joined {c : Char} {rest : List Char} (whole : expression.toList = c :: rest) (unlike : c ≠ '=') :
      Selects expression ["-s" ++ expression]
  | shortAttached : Selects expression ["-s=" ++ expression]
  | longAttached : Selects expression ["--select=" ++ expression]

section Reading

variable {given : Given} {arguments : Arguments}

theorem readShorts_ne_settled (given : Given) (letters : List Char) (arguments : Arguments) :
    readShorts given letters ≠ some (.settled (.run arguments)) := by
  fun_induction readShorts given letters <;> simp_all

theorem readLong_ne_settled (given : Given) (text : List Char) (arguments : Arguments) :
    readLong given text ≠ some (.settled (.run arguments)) := by
  unfold readLong
  dsimp only
  split <;> simp

/-- Only what all arguments together ask for is a run. -/
theorem readOption_ne_settled (given : Given) (text : List Char) (arguments : Arguments) :
    readOption given text ≠ some (.settled (.run arguments)) := by
  unfold readOption
  split
  · exact readLong_ne_settled _ _ _
  · exact readShorts_ne_settled _ _ _
  · simp

/-- Arguments that ask for a run are read through to the last, and what is put after them is read with
the options that they give. -/
theorem exists_given_of_readArguments {first : List String}
    (read : readArguments given first = some (.run arguments)) (unended : "--" ∉ first) :
    ∃ all : Given, all.request? = some (.run arguments) ∧
      ∀ rest, readArguments given (first ++ rest) = readArguments all rest := by
  fun_induction readArguments given first with
  | case1 given => exact ⟨given, read, fun rest => rfl⟩
  | case2 | case3 => simp at unended
  | case4 | case7 | case9 | case10 => contradiction
  | case5 given argument rest unmarked next found ih =>
    obtain ⟨all, asked, goesOn⟩ := ih read (mt (List.mem_cons_of_mem argument) unended)
    refine ⟨all, asked, fun rest => ?_⟩
    simp [readArguments, unmarked, found, goesOn]
  | case6 given argument rest unmarked request found =>
    obtain rfl := Option.some.inj read
    exact absurd found (readOption_ne_settled _ _ _)
  | case8 given argument unmarked next option found value rest plain after taken ih =>
    obtain ⟨all, asked, goesOn⟩ :=
      ih read fun member => unended (List.mem_cons_of_mem argument (List.mem_cons_of_mem value member))
    refine ⟨all, asked, fun rest => ?_⟩
    simp [readArguments, unmarked, found, plain, taken, goesOn]

theorem readOption_joined (given : Given) {expression : String} {c : Char} {rest : List Char}
    (whole : expression.toList = c :: rest) (unlike : c ≠ '=') :
    readOption given ("-s" ++ expression).toList = (given.value? .select expression).map .given := by
  have name : "-s".toList = ['-', 's'] := rfl
  have value : attached (c :: rest) = expression := by
    unfold attached
    split
    · rename_i same
      exact absurd (List.cons.inj same).1 unlike
    · rw [← whole, String.ofList_toList]
  rw [String.toList_append, name, whole]
  simp [readOption, readShorts, short?, value]

theorem readOption_shortAttached (given : Given) (expression : String) :
    readOption given ("-s=" ++ expression).toList = (given.value? .select expression).map .given := by
  have name : "-s=".toList = ['-', 's', '='] := rfl
  rw [String.toList_append, name]
  simp [readOption, readShorts, short?, attached]

theorem readOption_longAttached (given : Given) (expression : String) :
    readOption given ("--select=" ++ expression).toList = (given.value? .select expression).map .given := by
  have name : "--select=".toList = '-' :: '-' :: ("select".toList ++ ['=']) := rfl
  rw [String.toList_append, name]
  simp [readOption, readLong, long?]

/-- Every way to select gives the expression as the value of the option. -/
theorem Selects.readArguments_eq {expression : String} {option : List String}
    (selects : Selects expression option) (given : Given) :
    readArguments given option = (given.value? .select expression).bind Given.request? := by
  have attached {argument : String} (unmarked : argument ≠ "--")
      (found : readOption given argument.toList = (given.value? .select expression).map .given) :
      readArguments given [argument] = (given.value? .select expression).bind Given.request? := by
    cases taken : given.value? .select expression <;> simp [readArguments, unmarked, found, taken]
  have separate {argument : String} (unmarked : argument ≠ "--") (apart : isValue expression.toList = true)
      (found : readOption given argument.toList = some (.awaiting given .select)) :
      readArguments given [argument, expression] =
        (given.value? .select expression).bind Given.request? := by
    cases taken : given.value? .select expression <;> simp [readArguments, unmarked, found, apart, taken]
  cases selects with
  | short apart => exact separate (by decide) apart rfl
  | long apart => exact separate (by decide) apart rfl
  | joined whole unlike =>
    exact attached (by simp [← String.toList_inj, whole]) (readOption_joined given whole unlike)
  | shortAttached => exact attached (by simp [← String.toList_inj]) (readOption_shortAttached given expression)
  | longAttached => exact attached (by simp [← String.toList_inj]) (readOption_longAttached given expression)

theorem Given.value?_select {all : Given} (ungiven : all.value .select = none) (expression : String) :
    all.value? .select expression =
      some { all with values := all.values ++ [(.select, expression)] } := by
  have absent : ¬ (all.values.any fun entry => entry.1 == .select) = true := by
    rw [List.any_eq_true]
    rintro ⟨entry, member, same⟩
    have apart := List.lookup_eq_none_iff.mp ungiven entry member
    rw [beq_iff_eq] at same
    simp [same] at apart
  exact (if_neg absent).trans (by simp)

/-- A selection that is given last changes nothing but the selection. -/
theorem Given.request?_select {all : Given} {arguments : Arguments} (asked : all.request? = some (.run arguments))
    (untold : arguments.table = none) (unselected : arguments.select = none) (expression : String) :
    (all.value? .select expression).bind Given.request? =
      some (.run { arguments with select := some expression }) := by
  simp only [Given.request?] at asked
  split at asked
  · contradiction
  · obtain rfl := Request.run.inj (Option.some.inj asked)
    dsimp only at untold unselected
    let given : Given := { all with values := all.values ++ [(.select, expression)] }
    have selected : given.value .select = some expression := by
      rw [Given.value, List.lookup_append, ← Given.value, unselected]
      rfl
    have same (option : Valued) (other : option ≠ .select) : given.value option = all.value option := by
      have absent : [(Valued.select, expression)].lookup option = none :=
        List.lookup_eq_none_iff.mpr (by simpa using other)
      rw [Given.value, List.lookup_append, absent, Option.or_none, ← Given.value]
    have path := same .path (by decide)
    have table := same .table (by decide)
    have format := same .format (by decide)
    rw [Given.value?_select unselected, Option.bind_some]
    show given.request? = _
    simp only [Given.request?, selected, path, table, format, untold]
    rfl

end Reading

/-- Arguments that leave the selection open, with a selection after them, ask for the same run on that
selection. -/
theorem ofArguments?_append {others option : List String} {arguments : Arguments} {expression : String}
    (read : Request.ofArguments? others = some (.run arguments)) (unended : "--" ∉ others)
    (untold : arguments.table = none) (unselected : arguments.select = none)
    (selects : Selects expression option) :
    Request.ofArguments? (others ++ option) = some (.run { arguments with select := some expression }) := by
  obtain ⟨all, asked, goesOn⟩ := exists_given_of_readArguments read unended
  rw [Request.ofArguments?, goesOn, selects.readArguments_eq, Given.request?_select asked untold unselected]

end TableScript.Command
