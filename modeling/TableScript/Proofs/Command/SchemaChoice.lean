import TableScript.Proofs.Command.Channels
import TableScript.Proofs.Files.Discovery
import TableScript.Proofs.Text.Numeral

/-! Choosing a schema file by its number is the same as naming it. The arguments name a path only to the
choice of the schema file; once that has come to a path and left some of the input, the run goes on as
one that was given the path and that input. -/
namespace TableScript.Command

section Lines

variable {line : List UInt8}

theorem ofLine_eq_line_iff {text : List Char} :
    Answer.ofLine line = .line (String.ofList text) ↔ line ≠ [] ∧ Text.decode line = some text := by
  by_cases nothing : line = []
  · simp [Answer.ofLine, nothing]
  · cases decoded : Text.decode line <;>
      simp [Answer.ofLine, nothing, Text.decodeString, decoded, String.ofList_inj]

end Lines

section Choice

variable {paths : List Path} {input : Input} {path : Path}

theorem input_question (coloured : Bool) (shown : String) :
    ((question coloured shown).hold input).input = input.afterLine := by
  simp only [question, Dialogue.hold]
  cases Answer.ofLine input.line <;> rfl

theorem result_question_eq_ok_iff {coloured : Bool} {shown answer : String} :
    ((question coloured shown).hold input).result = .ok answer ↔ ∃ text,
      Answer.ofLine input.line = .line (String.ofList text) ∧
        answer = String.ofList (Text.trim text) := by
  simp only [question, Dialogue.hold]
  cases Answer.ofLine input.line with
  | nothing => simp [Dialogue.hold]
  | unreadable fault => simp [Dialogue.hold]
  | line text =>
    obtain ⟨text, rfl⟩ : ∃ characters, text = String.ofList characters :=
      ⟨text.toList, String.ofList_toList.symm⟩
    simp [Dialogue.hold, Text.trimmed, String.ofList_inj, eq_comm]

end Choice

section Plans

variable {surroundings : Surroundings} {root path : Path}

theorem schemaPath_of_isSchemaFile (named : path.isSchemaFile = true) :
    schemaPath surroundings path = .done (.ok path) := by
  simp [schemaPath, named]

variable (arguments : Arguments) {input left : Input}

end Plans

section Runs

variable {State : Type} {launcher : Launcher State} {surroundings : Surroundings} {arguments : Arguments}
  {state : State}

/-- Two runs that did the same to the world outside and ended with the same exit code. What they wrote
to the error stream may differ. -/
structure Outcome.SameWork (first second : Outcome State) : Prop where
  code : first.code = second.code
  effects : first.effects = second.effects
  state : first.state = second.state

/-- Carrying out a plan does not depend on the path or the selection that the arguments name. -/
theorem conclude_choice (path : Option Path) (select : Option String) (input : Blocks)
    (result : Except Refusal Plan) :
    conclude launcher surroundings.coloured { arguments with path, select } input state result =
      conclude launcher surroundings.coloured arguments input state result := by
  cases result <;> rfl

variable {path otherPath : Option Path} {select otherSelect : Option String} {input left : Input}

/-- Two dialogues that come to the same result are followed by the same work, unless commands meet
different inputs and mind that. -/
theorem sameWork_run_of_result
    (same : ((plan surroundings { arguments with path, select }).hold input).result =
      ((plan surroundings { arguments with path := otherPath, select := otherSelect }).hold left).result)
    (meets : (run launcher surroundings { arguments with path, select } input state).started ≠ [] →
      ((∃ refusal,
          ((plan surroundings { arguments with path := otherPath, select := otherSelect }).hold left).result =
            .error refusal) ∨
        inputLeft surroundings { arguments with path, select } input =
          inputLeft surroundings { arguments with path := otherPath, select := otherSelect } left) ∨
        launcher.IgnoresInput) :
    (run launcher surroundings { arguments with path, select } input state).SameWork
      (run launcher surroundings { arguments with path := otherPath, select := otherSelect } left state) := by
  simp only [run, inputLeft, conclude_choice, same] at meets ⊢
  cases ended : ((plan surroundings
      { arguments with path := otherPath, select := otherSelect }).hold left).result with
  | error refusal => exact ⟨rfl, rfl, rfl⟩
  | ok plan =>
    simp only [ended, reduceCtorEq, exists_false, false_or] at meets
    rw [conclude_of_input surroundings.coloured state meets]
    exact ⟨rfl, rfl, rfl⟩

theorem channels_run_of_result (launcher : Launcher State) (state : State)
    (same : ((plan surroundings { arguments with path, select }).hold input).result =
      ((plan surroundings { arguments with path := otherPath, select := otherSelect }).hold left).result) :
    let first := run launcher surroundings { arguments with path, select } input state
    let second :=
      run launcher surroundings { arguments with path := otherPath, select := otherSelect } left state
    first.printed = second.printed ∧ first.copied = second.copied ∧
      (first.started <+: second.started ∨ second.started <+: first.started) := by
  simp only [run, conclude_choice, same]
  exact channels_conclude _ _ _

end Runs

section Project

end Project

end TableScript.Command
