import TableScript.Proofs.Schema.Declared
import TableScript.Proofs.Text.Split
import Mathlib.Logic.Relation

/-! Texts that differ in noise only. No reader takes notice of a line of noise, in whatever state it is,
so texts whose lines are equal but for noise are read alike; and each touch of a text, of which there
may be any number, leaves its lines equal but for noise. -/
namespace TableScript.Schema

open Text (trim AllBlank)

theorem isIdentifier_of_mem_otherMethods {method : List Char}
    (other : String.ofList method ∈ otherMethods) : IsIdentifier method := by
  have all : ∀ name ∈ otherMethods, IsIdentifier name.toList := by decide
  simpa using all _ other

namespace Noise

variable {line : List Char}

theorem declaration? (noise : Noise line) : Schema.declaration? line = none := by
  cases noise with
  | method other ends => rfl
  | unmarked absent =>
    cases read : Schema.declaration? line with
    | none => rfl
    | some header =>
      obtain ⟨separator, quote, _, _, _, _, whole⟩ := declaration?_eq_some_iff.mp read
      refine absurd ?_ (absent "create_table".toList (by simp [marks]))
      rw [whole, List.append_assoc, List.append_assoc]
      exact List.prefix_append _ _

theorem column? (noise : Noise line) : Schema.column? line = none := by
  cases noise with
  | unmarked absent =>
    cases read : Schema.column? line with
    | none => rfl
    | some column =>
      refine absurd ?_ (absent "t.".toList (by simp [marks]))
      obtain ⟨rest, start, _⟩ := Option.bind_eq_some_iff.mp read
      rw [after?_eq_some_iff.mp start]
      exact List.prefix_append _ _
  | @method method tail other ends =>
    have start : after? "t.".toList ("t.".toList ++ method ++ tail) = some (method ++ tail) :=
      after?_eq_some_iff.mpr (by simp)
    have named : identifier? (method ++ tail) = some (method, tail) :=
      identifier?_eq_some_iff.mpr ⟨rfl, isIdentifier_of_mem_otherMethods other, ends⟩
    simp only [Schema.column?, start, named, Option.bind_eq_bind, Option.bind_some, other, if_true]

theorem closes (noise : Noise line) (closer : Closer) : closer.closes line = false := by
  cases noise with
  | method other ends => cases closer <;> rfl
  | unmarked absent =>
    cases closer with
    | word =>
      have nothing : after? "end".toList line = none := by
        cases read : after? "end".toList line with
        | none => rfl
        | some rest =>
          refine absurd ?_ (absent "end".toList (by simp [marks]))
          rw [after?_eq_some_iff.mp read]
          exact List.prefix_append _ _
      simp only [Closer.closes, nothing]
    | brace =>
      cases line with
      | nil => rfl
      | cons c line =>
        have other : c ≠ '}' := by
          rintro rfl
          exact absurd (List.prefix_append ['}'] line) (absent r"}".toList (by simp [marks]))
        simpa [Closer.closes] using other

/-- Outside of blocks and in blocks of either kind, noise leaves the reader as it is. -/
theorem step (noise : Noise line) (reader : Reader) : reader.step line = reader := by
  cases state : reader.block with
  | none => exact Reader.step_of_undeclared state noise.declaration?
  | some block =>
    rw [Reader.step_of_open state (noise.closes block.closer), noise.column?, Option.toList_none,
      List.append_nil, ← state]

end Noise

namespace EqualButNoise

theorem refl (lines : List (List Char)) : EqualButNoise lines lines := by
  induction lines with
  | nil => exact .nil
  | cons line lines ih => exact .line rfl ih

theorem append {firsts seconds moreFirsts moreSeconds : List (List Char)}
    (equal : EqualButNoise firsts seconds) (more : EqualButNoise moreFirsts moreSeconds) :
    EqualButNoise (firsts ++ moreFirsts) (seconds ++ moreSeconds) := by
  induction equal with
  | nil => exact more
  | line same _ ih => exact .line same ih
  | left passed _ ih => exact .left passed ih
  | right passed _ ih => exact .right passed ih

/-- The two runs take the same states, apart from lines that only one of them has. -/
theorem foldl_step {firsts seconds : List (List Char)} (equal : EqualButNoise firsts seconds)
    (reader : Reader) :
    (firsts.map trim).foldl Reader.step reader = (seconds.map trim).foldl Reader.step reader := by
  induction equal generalizing reader with
  | nil => rfl
  | line same _ ih =>
    rw [List.map_cons, List.map_cons, List.foldl_cons, List.foldl_cons, same]
    exact ih _
  | left passed _ ih =>
    rw [List.map_cons, List.foldl_cons, passed.step]
    exact ih reader
  | right passed _ ih =>
    rw [List.map_cons, List.foldl_cons, passed.step]
    exact ih reader

theorem read_eq {first second : String} (equal : EqualButNoise (Text.lines first) (Text.lines second)) :
    read first = read second :=
  congrArg Reader.finish (equal.foldl_step .start)

end EqualButNoise

/-- The lines before a break stay apart from those after it. -/
theorem EndsLine.exists_lines {before : String} (starts : EndsLine before) :
    ∃ lines, ∀ text : String, Text.lines (before ++ text) = lines ++ Text.lines text := by
  rcases starts with rfl | ⟨front, rfl⟩
  · exact ⟨[], fun text => by simp⟩
  · refine ⟨Text.lines front, fun text => ?_⟩
    rw [Text.lines, Text.lines, Text.lines, ← List.splitOn_append_cons_self]
    simp

theorem FollowsLine.exists_lines {after : String} (ends : FollowsLine after) :
    ∃ lines, ∀ text : String, Text.lines (text ++ after) = Text.lines text ++ lines := by
  rcases ends with rfl | ⟨rest, rfl⟩
  · exact ⟨[], fun text => by simp⟩
  · refine ⟨Text.lines rest, fun text => ?_⟩
    rw [Text.lines, Text.lines, Text.lines, ← List.splitOn_append_cons_self]
    simp

namespace Touched

variable {blank : String} (white : ∀ c ∈ blank.toList, Text.isBlank c = true ∧ c ≠ '\n')

include white

theorem equalButNoise_front (text : String) :
    EqualButNoise (Text.lines text) (Text.lines (blank ++ text)) := by
  have absent : '\n' ∉ blank.toList := fun member => (white _ member).2 rfl
  obtain ⟨piece, pieces, cut, joined⟩ := Text.splitOn_front absent text.toList
  rw [Text.lines, Text.lines, String.toList_append, cut, joined]
  exact .line (Text.trim_append_left (fun c member => (white c member).1) piece).symm (.refl pieces)

theorem equalButNoise_back (text : String) :
    EqualButNoise (Text.lines text) (Text.lines (text ++ blank)) := by
  have absent : '\n' ∉ blank.toList := fun member => (white _ member).2 rfl
  obtain ⟨pieces, piece, cut, joined⟩ := Text.splitOn_back absent text.toList
  rw [Text.lines, Text.lines, String.toList_append, cut, joined]
  refine (EqualButNoise.refl pieces).append (.line ?_ .nil)
  exact (Text.trim_append_right (fun c member => (white c member).1) piece).symm

end Touched

theorem Touched.equalButNoise {first second : String} (touched : Touched first second) :
    EqualButNoise (Text.lines first) (Text.lines second) := by
  cases touched with
  | @indented before blank after starts white =>
    obtain ⟨lines, split⟩ := starts.exists_lines
    rw [String.append_assoc, split, split]
    exact (EqualButNoise.refl lines).append (equalButNoise_front white after)
  | @trailed before blank after ends white =>
    obtain ⟨lines, split⟩ := ends.exists_lines
    rw [split, split]
    exact (equalButNoise_back white before).append (.refl lines)
  | @inserted before line after starts single passed =>
    obtain ⟨lines, split⟩ := starts.exists_lines
    have alone : Text.lines (line ++ "\n" ++ after) = [line.toList] ++ Text.lines after := by
      rw [Text.lines, Text.lines, ← List.splitOn_eq_singleton single, ← List.splitOn_append_cons_self]
      simp
    rw [String.append_assoc, String.append_assoc, split, split, ← String.append_assoc, alone]
    exact (EqualButNoise.refl lines).append (.right passed (.refl _))
  | @appended _ line single passed =>
    have parted : Text.lines (first ++ "\n" ++ line) = Text.lines first ++ [line.toList] := by
      rw [Text.lines, Text.lines, ← List.splitOn_eq_singleton single, ← List.splitOn_append_cons_self]
      simp
    rw [parted]
    simpa using (EqualButNoise.refl (Text.lines first)).append (.right passed .nil)

/-- A text may be touched any number of times, and touches may be taken back, without any change in
what is read from it: tables, numbers, columns and skipped names. -/
theorem read_eq_of_touched {first second : String} (touches : Relation.EqvGen Touched first second) :
    read first = read second := by
  induction touches with
  | rel first second touched => exact touched.equalButNoise.read_eq
  | refl text => rfl
  | symm first second _ ih => exact ih.symm
  | trans first second third _ _ earlier later => exact earlier.trans later

theorem read_eq_of_touched_users :
    let first := "# users\ncreate_table :users do |t|\nt.string :email\nend"
    let second := "create_table :users do |t|\r\n\tt.index [:email], unique: true\n\u00a0t.string :email\nend\n"
    Relation.EqvGen Touched first second ∧ read first = read second ∧
      (read second).catalogue.tables = [⟨1, "users", [⟨"email", "string"⟩]⟩] := by
  intro first second
  have comment : Touched "create_table :users do |t|\nt.string :email\nend" first :=
    @Touched.inserted "" "# users" "create_table :users do |t|\nt.string :email\nend" (.inl rfl)
      (by decide) (.unmarked (by decide))
  have carriage : Touched "create_table :users do |t|\nt.string :email\nend"
      "create_table :users do |t|\r\nt.string :email\nend" :=
    @Touched.trailed "create_table :users do |t|" "\r" "\nt.string :email\nend"
      (.inr ⟨"t.string :email\nend", rfl⟩) (by simp [Text.isBlank, Text.blankSpans, Text.covers])
  have index : Touched "create_table :users do |t|\r\nt.string :email\nend"
      "create_table :users do |t|\r\n\tt.index [:email], unique: true\nt.string :email\nend" :=
    @Touched.inserted "create_table :users do |t|\r\n" "\tt.index [:email], unique: true"
      "t.string :email\nend" (.inr ⟨"create_table :users do |t|\r", rfl⟩) (by decide)
      (@Noise.method "index".toList " [:email], unique: true".toList (by decide) (by decide))
  have indent : Touched
      "create_table :users do |t|\r\n\tt.index [:email], unique: true\nt.string :email\nend"
      "create_table :users do |t|\r\n\tt.index [:email], unique: true\n\u00a0t.string :email\nend" :=
    @Touched.indented "create_table :users do |t|\r\n\tt.index [:email], unique: true\n" "\u00a0"
      "t.string :email\nend"
      (.inr ⟨"create_table :users do |t|\r\n\tt.index [:email], unique: true", rfl⟩)
      (by simp [Text.isBlank, Text.blankSpans, Text.covers])
  have last : Touched
      "create_table :users do |t|\r\n\tt.index [:email], unique: true\n\u00a0t.string :email\nend"
      second := @Touched.appended _ "" (by decide) (.unmarked (by decide))
  have touches : Relation.EqvGen Touched first second :=
    .trans _ _ _ (.symm _ _ (.rel _ _ comment)) <| .trans _ _ _ (.rel _ _ carriage) <|
      .trans _ _ _ (.rel _ _ index) <| .trans _ _ _ (.rel _ _ indent) (.rel _ _ last)
  exact ⟨touches, read_eq_of_touched touches, by decide +kernel⟩

end TableScript.Schema
