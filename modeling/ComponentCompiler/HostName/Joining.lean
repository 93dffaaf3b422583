import ComponentCompiler.HostName.Mark

namespace ComponentCompiler
namespace HostName

open Text

/-!
# Joined letters

In some scripts a letter changes its shape to join its neighbours.  A letter joins the
one before it, the one behind it or both.  Most nonspacing marks are passed over.
The stretches of the tables run over marks, which are looked at first, and over
characters that no name holds.
-/

/-- Stretches of letters that join on both sides. -/
def bothJoiningRanges : List CodeRange :=
  [0x0620, 0x0626, 0x0628, ⟨0x062A, 0x062E⟩, ⟨0x0633, 0x0647⟩, ⟨0x0649, 0x064A⟩, ⟨0x066E, 0x066F⟩,
   ⟨0x0679, 0x0687⟩, ⟨0x069A, 0x06BF⟩, ⟨0x06C1, 0x06C2⟩, 0x06CC, 0x06CE, ⟨0x06D0, 0x06D1⟩,
   ⟨0x06FA, 0x06FC⟩, 0x06FF, ⟨0x0712, 0x0714⟩, ⟨0x071A, 0x071D⟩, ⟨0x071F, 0x0727⟩, 0x0729, 0x072B,
   ⟨0x072D, 0x072E⟩, ⟨0x074E, 0x0758⟩, ⟨0x075C, 0x076A⟩, ⟨0x076D, 0x0770⟩, 0x0772, ⟨0x0775, 0x0777⟩,
   ⟨0x077A, 0x077F⟩, ⟨0x07CA, 0x07EA⟩, ⟨0x0841, 0x0845⟩, 0x0848, ⟨0x084A, 0x0853⟩, 0x0855, 0x0860,
   ⟨0x0862, 0x0865⟩, 0x0868, 0x0886, ⟨0x0889, 0x088D⟩, ⟨0x08A0, 0x08A9⟩, ⟨0x08AF, 0x08B0⟩,
   ⟨0x08B3, 0x08B8⟩, ⟨0x08BA, 0x08C8⟩, ⟨0x1820, 0x1878⟩, ⟨0x1887, 0x18AA⟩, ⟨0xA840, 0xA871⟩,
   ⟨0x10AC0, 0x10AC4⟩, ⟨0x10AD3, 0x10AD6⟩, ⟨0x10AD8, 0x10ADC⟩, ⟨0x10ADE, 0x10AE0⟩, 0x10B80, 0x10B82,
   ⟨0x10B86, 0x10B88⟩, ⟨0x10B8A, 0x10B8B⟩, 0x10B8D, 0x10B90, ⟨0x10D01, 0x10D21⟩, 0x10D23,
   ⟨0x10F30, 0x10F32⟩, ⟨0x10F34, 0x10F44⟩, ⟨0x10F70, 0x10F73⟩, ⟨0x10F76, 0x10FB0⟩,
   ⟨0x10FB2, 0x10FB3⟩, 0x10FB8, ⟨0x10FBB, 0x10FBC⟩, ⟨0x10FBE, 0x10FBF⟩, 0x10FC1, 0x10FC4,
   ⟨0x1E922, 0x1E943⟩]

/-- Stretches of letters that join only the letter behind them. -/
def forwardJoiningRanges : List CodeRange :=
  [0xA872, 0x10ACD, 0x10AD7, 0x10D00]

/-- Stretches of letters that join only the letter before them. -/
def backwardJoiningRanges : List CodeRange :=
  [⟨0x0622, 0x0625⟩, 0x0627, 0x0629, ⟨0x062F, 0x0632⟩, 0x0648, ⟨0x0671, 0x0673⟩, ⟨0x0688, 0x0699⟩,
   0x06C0, ⟨0x06C3, 0x06CB⟩, 0x06CD, 0x06CF, ⟨0x06D2, 0x06D5⟩, ⟨0x06EE, 0x06EF⟩, 0x0710,
   ⟨0x0715, 0x0719⟩, 0x071E, 0x0728, 0x072A, 0x072C, ⟨0x072F, 0x074D⟩, ⟨0x0759, 0x075B⟩,
   ⟨0x076B, 0x076C⟩, 0x0771, ⟨0x0773, 0x0774⟩, ⟨0x0778, 0x0779⟩, 0x0840, ⟨0x0846, 0x0847⟩, 0x0849,
   0x0854, ⟨0x0856, 0x0858⟩, 0x0867, ⟨0x0869, 0x0882⟩, 0x088E, ⟨0x08AA, 0x08AC⟩, 0x08AE,
   ⟨0x08B1, 0x08B2⟩, 0x08B9, 0x10AC5, ⟨0x10AC7, 0x10ACA⟩, ⟨0x10ACE, 0x10AD2⟩, 0x10ADD, 0x10AE1,
   0x10AE4, 0x10B81, ⟨0x10B83, 0x10B85⟩, 0x10B89, 0x10B8C, ⟨0x10B8E, 0x10B8F⟩, 0x10B91, 0x10D22,
   0x10F33, ⟨0x10F74, 0x10F75⟩, ⟨0x10FB4, 0x10FB6⟩, ⟨0x10FB9, 0x10FBA⟩, 0x10FBD, ⟨0x10FC2, 0x10FC3⟩]

/-- Whether joining passes a character over. -/
def isPassedOver (code : Nat) : Bool :=
  code = 0x1E94B || (isNonspacing code && code ≠ 0x1171E)

/-- Whether a letter joins the one behind it. -/
def joinsForward (code : Nat) : Bool :=
  (bothJoiningRanges ++ forwardJoiningRanges).any fun range => range.contains code

/-- Whether a letter joins the one before it. -/
def joinsBackward (code : Nat) : Bool :=
  (bothJoiningRanges ++ backwardJoiningRanges).any fun range => range.contains code

/-- Whether the letters around a place would join there.  The characters in front of
the place stand in reverse. -/
def joinsBetween (before behind : List Nat) : Bool :=
  ((before.dropWhile isPassedOver).head?.any joinsForward) &&
    ((behind.dropWhile isPassedOver).head?.any joinsBackward)

end HostName
end ComponentCompiler
