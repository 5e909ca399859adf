import TableScript.Text.Alphabetic
import TableScript.Text.Numeric

/-! The characters that words and numbers are made of. -/
namespace TableScript.Text

def isAlphanumeric (c : Char) : Bool := isAlphabetic c || isNumeric c

def recentSpans : List Span :=
  [⟨0x88f,0x88f,1⟩,⟨0xc5c,0xc5c,1⟩,⟨0xcdc,0xcdc,1⟩,⟨0xa7ce,0xa7cf,1⟩,⟨0xa7d2,0xa7d4,2⟩,
   ⟨0xa7f1,0xa7f1,1⟩,⟨0x10940,0x10959,1⟩,⟨0x10ec5,0x10ec7,1⟩,⟨0x10efa,0x10efb,1⟩,
   ⟨0x11b60,0x11b67,1⟩,⟨0x11db0,0x11ddb,1⟩,⟨0x11de0,0x11de9,1⟩,⟨0x16ea0,0x16eb8,1⟩,
   ⟨0x16ebb,0x16ed3,1⟩,⟨0x16ff2,0x16ff6,1⟩,⟨0x187f8,0x187ff,1⟩,⟨0x18d09,0x18d1e,1⟩,
   ⟨0x18d80,0x18df2,1⟩,⟨0x1e6c0,0x1e6de,1⟩,⟨0x1e6e0,0x1e6f5,1⟩,⟨0x1e6fe,0x1e6ff,1⟩,
   ⟨0x2b73a,0x2b73f,1⟩,⟨0x2cea2,0x2cead,1⟩,⟨0x323b0,0x33479,1⟩]

def isRecent (c : Char) : Bool := covers recentSpans c.toNat

end TableScript.Text
