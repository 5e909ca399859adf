import TableScript.Text.Span

/-! White space, trimming and lines. -/
namespace TableScript.Text

def blankSpans : List Span :=
  [⟨0x9,0xd,1⟩,⟨0x20,0x20,1⟩,⟨0x85,0x85,1⟩,⟨0xa0,0xa0,1⟩,⟨0x1680,0x1680,1⟩,⟨0x2000,0x200a,1⟩,
   ⟨0x2028,0x2029,1⟩,⟨0x202f,0x202f,1⟩,⟨0x205f,0x205f,1⟩,⟨0x3000,0x3000,1⟩]

def isBlank (c : Char) : Bool := covers blankSpans c.toNat

def trimStart (text : List Char) : List Char := text.dropWhile isBlank

def trimEnd (text : List Char) : List Char := (text.reverse.dropWhile isBlank).reverse

def trim (text : List Char) : List Char := trimEnd (trimStart text)

def trimmed (text : String) : String := String.ofList (trim text.toList)

def trimmedEnd (text : String) : String := String.ofList (trimEnd text.toList)

/-- The lines of a text, cut at line feeds. A carriage return before a line feed stays at the end
of its line, where trimming removes it. -/
def lines (text : String) : List (List Char) := text.toList.splitOn '\n'

@[simp] theorem trim_nil : trim [] = [] := rfl

end TableScript.Text
