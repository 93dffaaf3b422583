import ComponentCompiler.Text.CaseTable

namespace ComponentCompiler
namespace HostName

open Text

/-!
# Alphabets

Some characters are allowed only beside letters of one alphabet.  The stretches of the
tables run over characters that no name holds.
-/

/-- Stretches of Greek characters. -/
def greekRanges : List CodeRange :=
  [⟨0x0371, 0x03E1⟩, ⟨0x03F3, 0x03FC⟩, ⟨0x1D26, 0x1D2A⟩, ⟨0x1F00, 0x1FF6⟩, 0xAB65]

/-- Stretches of Hebrew characters. -/
def hebrewRanges : List CodeRange :=
  [⟨0x0591, 0x05F4⟩, 0xFB1E]

/-- Stretches of the characters that Japanese is written in. -/
def japaneseRanges : List CodeRange :=
  [0x3005, 0x3007, ⟨0x3041, 0x3096⟩, ⟨0x309D, 0x30FA⟩, ⟨0x30FD, 0x30FE⟩, ⟨0x31F0, 0x9FFF⟩,
   ⟨0xFA0E, 0xFA29⟩, 0x16FE3, ⟨0x16FF0, 0x16FF1⟩, ⟨0x1AFF0, 0x1B167⟩, ⟨0x20000, 0x3134A⟩]

/-- Whether a character is Greek. -/
def isGreek (code : Nat) : Bool :=
  greekRanges.any fun range => range.contains code

/-- Whether a character is Hebrew. -/
def isHebrew (code : Nat) : Bool :=
  hebrewRanges.any fun range => range.contains code

/-- Whether Japanese is written in a character. -/
def isJapanese (code : Nat) : Bool :=
  japaneseRanges.any fun range => range.contains code

end HostName
end ComponentCompiler
