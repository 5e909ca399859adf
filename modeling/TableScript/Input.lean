/-! Standard input. It is read block by block. Lines are taken from the blocks that have been read, and
the programs that a run starts find only the blocks that the run has not read. -/
namespace TableScript

abbrev Blocks := List (List UInt8)

def lineFeed : UInt8 := 0x0a

def splitLine : List UInt8 → List UInt8 × List UInt8
  | [] => ([], [])
  | byte :: rest =>
    if byte = lineFeed then ([byte], rest)
    else
      let (line, rest) := splitLine rest
      (byte :: line, rest)

structure Input where
  held : List UInt8
  unread : Blocks

namespace Input

def bytes (input : Input) : List UInt8 := input.held ++ input.unread.flatten

def fill (held : List UInt8) : Blocks → Input
  | [] => ⟨held, []⟩
  | block :: unread =>
    if lineFeed ∈ held then ⟨held, block :: unread⟩ else fill (held ++ block) unread

def line (input : Input) : List UInt8 := (splitLine (fill input.held input.unread).held).1

def afterLine (input : Input) : Input :=
  let filled := fill input.held input.unread
  ⟨(splitLine filled.held).2, filled.unread⟩

def blockSize : Nat := 8192

def blocksOf (bytes : List UInt8) : Blocks :=
  if bytes = [] then [] else bytes.take blockSize :: blocksOf (bytes.drop blockSize)
termination_by bytes.length
decreasing_by
  rename_i some
  have := List.length_pos_iff.mpr some
  simp only [List.length_drop, blockSize]
  omega

def ofBytes (bytes : List UInt8) : Input := ⟨[], blocksOf bytes⟩

instance : Coe (List UInt8) Input := ⟨ofBytes⟩

end Input

end TableScript
