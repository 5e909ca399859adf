import TableScript.Text.Alphanumeric

/-! The singular of a capitalised word. A rule looks at how the word ends; the part of the ending
that it keeps, with the run of word characters before it where the rule asks for one, is all that
remains of the word, and the rule's own ending is put after it. -/
namespace TableScript.Model

/-- Whether a character of a class name belongs to a run of word characters: a letter or a digit, but
no other number. The rules know the characters of Unicode 16 and no later ones. -/
def isWordChar (c : Char) : Bool :=
  (Text.isAlphabetic c || Text.isDecimalDigit c) && !Text.isRecent c

inductive Letter where
  | exactly (c : Char)
  | among (cs : List Char)
  | outside (cs : List Char)

def Letter.holds : Letter → Char → Bool
  | .exactly d, c => c == d
  | .among cs, c => cs.contains c
  | .outside cs, c => !cs.contains c

def spelled (text : String) : List Letter := text.toList.map .exactly

structure Rule where
  keepsRun : Bool
  kept : List (List Letter)
  dropped : List (List Letter)
  added : String

/-- Reads letters off a reversed word: what they hold, in the word's own order, and what stands
before them, reversed. -/
def splitReversed? : List Letter → List Char → Option (List Char × List Char)
  | [], before => some ([], before)
  | _ :: _, [] => none
  | letter :: letters, c :: before =>
    if letter.holds c then
      (splitReversed? letters before).map fun (held, before) => (held ++ [c], before)
    else none

def splitEnding? (ending : List Letter) (reversed : List Char) : Option (List Char × List Char) :=
  splitReversed? ending.reverse reversed

def Rule.apply? (rule : Rule) (word : List Char) : Option (List Char) :=
  rule.dropped.findSome? fun dropped =>
    match splitEnding? dropped word.reverse with
    | none => none
    | some (_, reversed) => rule.kept.findSome? fun kept =>
      match splitEnding? kept reversed with
      | none => none
      | some (held, reversed) =>
        let run := if rule.keepsRun then (reversed.takeWhile isWordChar).reverse else []
        some (run ++ held ++ rule.added.toList)

def Rule.ending (kept dropped : List String) (added : String) : Rule :=
  ⟨false, kept.map spelled, dropped.map spelled, added⟩

def Rule.afterRun (dropped added : String) : Rule := ⟨true, [[]], [spelled dropped], added⟩

def singularRules : List Rule :=
  [.ending ["database"] ["s"] "",
   .ending ["quiz"] ["zes"] "",
   .ending ["matr"] ["ices"] "ix",
   .ending ["vert", "ind"] ["ices"] "ex",
   .ending ["alias", "status"] ["es", ""] "",
   .ending ["octop", "vir"] ["us", "i"] "us",
   .ending ["cris", "test"] ["is", "es"] "is",
   .ending ["shoe"] ["s"] "",
   .ending ["bus"] ["es", ""] "",
   .ending ["m", "l"] ["ice"] "ouse",
   ⟨true, [spelled "x", spelled "ch", spelled "ss", spelled "sh"], [spelled "es"], ""⟩,
   .ending ["m"] ["ovies"] "ovie",
   .ending ["s"] ["eries"] "eries",
   ⟨true, [[.outside "aeiouy".toList], spelled "qu"], [spelled "ies"], "y"⟩,
   ⟨true, [[]], [.among "lr".toList :: spelled "ves"], "f"⟩,
   .afterRun "tives" "",
   .afterRun "hives" "",
   ⟨true, [[]], [.outside "f".toList :: spelled "ves"], "fe"⟩,
   .ending ["analy", "ba", "diagno", "parenthe", "progno", "synop", "the"] ["sis", "ses"] "sis",
   ⟨true, [[]], [.among "ti".toList :: spelled "a"], "um"⟩,
   .afterRun "oes" "",
   .ending ["n"] ["ews"] "ews",
   ⟨true, [spelled "ss"], [[]], ""⟩,
   .afterRun "s" ""]

def singular (word : List Char) : List Char :=
  (singularRules.findSome? fun rule => rule.apply? word).getD word

end TableScript.Model
