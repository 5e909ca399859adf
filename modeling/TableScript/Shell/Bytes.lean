import TableScript.Files.Path

/-! The shell knows bytes and no characters. Each byte stands as the character with its number, so a
text of the shell has one character for each byte. -/
namespace TableScript.Shell

def toBytes (text : String) : List UInt8 := text.toList.map fun c => UInt8.ofNat c.toNat

def ofBytes (bytes : List UInt8) : String := String.ofList (bytes.map fun byte => Char.ofNat byte.toNat)

def ofText (text : String) : String := ofBytes (Text.encodeString text)

def toText (text : String) : String := String.ofList (Text.decodeLossy (toBytes text))

def toPath (text : String) : Path := ⟨toBytes text⟩

end TableScript.Shell
