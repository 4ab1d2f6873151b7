import TemplateTree.Host.WidthClass

/-!
# Letters that share columns

In some scripts two letters are drawn as one, and the pair takes the columns of a single letter. Which pairs
join is up to the script; some join only with a joiner between them. A text is read from its end here, so
a letter waits for the one before it, and `Ligature.before?` says what that one turns out to be.
-/

namespace TemplateTree

/-- A letter that the one before it may join. The flag says whether a joiner stands before the letter. -/
inductive Ligature where
  | alef
  | lamed (joined : Bool)
  | ya (joined : Bool)
  | yaVowel
  | consonant (joined : Bool)
  | consonantJoiner
  | tone
  | orkhonI (joined : Bool)
  | subscript
  | vowelE
  | vowelAi
deriving DecidableEq

namespace Ligature

def join : Ligature → Ligature
  | lamed _ => lamed true
  | ya _ => ya true
  | consonant _ => consonant true
  | orkhonI _ => orkhonI true
  | l => l

/-- Whether the letter still waits behind a variation selector. A vowel sign does not. -/
def keeps : Ligature → Bool
  | vowelE | vowelAi => false
  | _ => true

/-- A character by itself, if it is a letter that the one before it may join. Each takes one column. -/
def ofChar? (c : Char) : Option Ligature :=
  if WidthClass.alef.holds c then some alef
  else if c = '\u05DC' then some (lamed false)
  else if c = '\u1A10' then some (ya false)
  else if WidthClass.tifinaghConsonant.holds c then some (consonant false)
  else if WidthClass.lisuToneLast.holds c then some tone
  else if c.toNat = 0x10C03 then some (orkhonI false)
  else if WidthClass.khmerSubscript.holds c then some subscript
  else if c.toNat = 0x16D67 then some vowelE
  else if c.toNat = 0x16D68 then some vowelAi
  else none

/-- What an ignorable character before the letter leaves of it. -/
def ignore? (l : Ligature) (c : Char) : Option Ligature :=
  match l with
  | alef => if WidthClass.transparent.holds c && WidthClass.zero.holds c then some alef else none
  | vowelE | vowelAi => none
  | l => if c = '\u200D' then some l.join else if WidthClass.ignorable.holds c then some l else none

/-- The columns that a letter adds to the one it joins, and what waits then. A column is taken back where the
letter that was read first has one that the pair does not need. -/
def joined? (l : Ligature) (c : Char) : Option (Int × Option Ligature) :=
  match l with
  | alef => if WidthClass.lam.holds c then some (0, none) else none
  | lamed true => if c = '\u05D0' then some (0, none) else none
  | ya true => if c = '\u1A17' then some (0, some yaVowel) else none
  | yaVowel => if c = '\u1A15' then some (0, none) else none
  | consonant joined =>
    if c = '\u2D7F' then some (1, some consonantJoiner)
    else if joined && WidthClass.tifinaghConsonant.holds c then some (0, none)
    else none
  | consonantJoiner => if WidthClass.tifinaghConsonant.holds c then some (-1, none) else none
  | tone => if WidthClass.lisuToneFirst.holds c then some (0, none) else none
  | orkhonI true => if c.toNat = 0x10C32 then some (0, none) else none
  | subscript => if c = '\u17D2' then some (-1, none) else none
  | vowelE =>
    if c.toNat = 0x16D63 || c.toNat = 0x16D69 then some (0, none)
    else if c.toNat = 0x16D67 then some (0, some vowelAi)
    else if c.toNat = 0x16D68 then some (1, some vowelE)
    else none
  | vowelAi => if c.toNat = 0x16D63 then some (0, none) else none
  | _ => none

/-- What a character is before a letter that it joins or that it lets wait. -/
def before? (l : Ligature) (c : Char) : Option (Int × Option Ligature) :=
  match l.ignore? c with
  | some l => some (0, some l)
  | none => l.joined? c

end Ligature

end TemplateTree
