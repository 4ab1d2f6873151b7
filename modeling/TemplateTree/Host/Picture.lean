import TemplateTree.Host.WidthClass

/-!
# Emoji sequences

An emoji shown as a picture takes two columns, and so does a picture made of several characters: a skin tone
and its bearer, pictures with joiners between them, two letters of a flag, a flag and the tags behind it. A
text is read from its end here, so `Picture.before?` says what a character adds to the picture behind it.
-/

namespace TemplateTree

/-- The part of a picture that has been read, as far as the characters before it hang on it. -/
inductive Picture where
  | whole
  | skinTone
  | region
  | regions
  | joiner
  | keycap
  | joinedRegion
  | joinedRegions (odd : Bool)
  /-- The tags of a flag, joined to the picture behind them: letters, and digits before them. -/
  | tags (digits letters : Nat)
deriving DecidableEq

namespace Picture

/-- Whether the part can be the end of a joined sequence, to which a picture adds no column. -/
def isJoiner : Picture → Bool
  | joiner | keycap => true
  | _ => false

/-- The columns of a character by itself, if it is a picture or a part of one. -/
def ofChar? (c : Char) : Option (Int × Picture) :=
  if WidthClass.regionLetter.holds c then some (1, region)
  else if WidthClass.skinTone.holds c then some (2, skinTone)
  else if WidthClass.pictureEmoji.holds c then some (2, whole)
  else none

/-- The columns that a character adds to what is joined to the picture behind. -/
def joined? (c : Char) : Option (Int × Picture) :=
  if c = '\u20E3' then some (0, keycap)
  else if c.toNat = 0xE007F then some (0, tags 0 0)
  else match ofChar? c with
    | some (_, region) => some (1, joinedRegion)
    | some (_, p) => some (0, p)
    | none => none

/-- What a character is to the tags of a flag. A subdivision is named by up to six letters, or by three
digits and up to four letters; the flag itself stands before at least three characters. -/
def tagged? (digits letters : Nat) (c : Char) : Option (Int × Picture) :=
  if WidthClass.tagLetter.holds c && digits = 0 && letters < 6 then some (0, tags 0 (letters + 1))
  else if WidthClass.tagDigit.holds c && digits < 3 && letters < 5 then some (0, tags (digits + 1) letters)
  else if c.toNat = 0x1F3F4 && (digits = 3 || digits = 0 && 3 ≤ letters) then some (0, whole)
  else none

/-- The columns that a character adds to the part of a picture behind it, and the part that it makes of both.
Letters of flags go two by two: behind a joiner, the second of a pair takes a column back and the third adds
the columns of a new flag and the one that was taken. -/
def before? (p : Picture) (c : Char) : Option (Int × Picture) :=
  match p with
  | joiner => joined? c
  | tags digits letters => tagged? digits letters c
  | region => if WidthClass.regionLetter.holds c then some (1, regions) else none
  | regions =>
    if WidthClass.regionLetter.holds c then some (1, regions)
    else if c = '\u200D' then some (0, joiner)
    else none
  | joinedRegion => if WidthClass.regionLetter.holds c then some (-1, joinedRegions false) else none
  | joinedRegions odd =>
    if WidthClass.regionLetter.holds c then some (if odd then -1 else 3, joinedRegions (!odd))
    else if c = '\u200D' then some (0, joiner)
    else none
  | skinTone =>
    if WidthClass.modifiable.holds c then some (0, whole)
    else if c = '\u200D' then some (0, joiner)
    else none
  | whole => if c = '\u200D' then some (0, joiner) else none
  | keycap => none

end Picture

end TemplateTree
