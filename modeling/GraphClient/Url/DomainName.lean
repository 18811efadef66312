import GraphClient.Text.Direction
import GraphClient.Text.NormalForm
import GraphClient.Url.Address
import GraphClient.Url.DomainName.Allowed
import GraphClient.Url.Encoding

/-!
Domain names, written in ASCII. A label that begins with a certain mark stands for a text in any
script; it must spell a text that a label may have, and texts of different directions must not be
mixed so that their order on a page would mislead.
-/

namespace GraphClient.DomainName

open Text (Direction direction)

/-- What a label begins with that stands for another text. -/
def encodedMark : List Char := ['x', 'n', '-', '-']

/-- Longer labels are not decoded. -/
def maxEncoded : Nat := 2000

/-- Whether a joiner may stand behind `before`, of which the last character comes first, and in
front of `after`. It may follow a virama; the one that keeps letters apart may also stand where they
would join. -/
def allowsJoiner (joiner : Char) (before after : List Char) : Bool :=
  before.head?.any (Text.combiningClass · == Text.viramaClass) ||
    (joiner == Char.ofNat 0x200c &&
      (before.dropWhile Text.isTransparent).head?.any Text.joinsNext &&
      (after.dropWhile Text.isTransparent).head?.any Text.joinsPrevious)

/-- Whether all joiners stand where they may. The characters in front come last first. -/
def joinersAllowed (before : List Char) : List Char → Bool
  | [] => true
  | c :: after =>
    ((c != Char.ofNat 0x200c && c != Char.ofNat 0x200d) || allowsJoiner c before after) &&
      joinersAllowed (c :: before) after

/-- Whether a text that needs encoding may be a label. -/
def isLabel (cs : List Char) : Bool :=
  cs.all (fun c => c.val < 0x80 || allowed.contains c) && Text.isNormal cs &&
    !cs.head?.any Text.isMark && cs.take 4 != encodedMark && joinersAllowed [] cs

def label? (cs : List Char) : Option (List Char) :=
  if cs.take 4 = encodedMark then
    let encoded := cs.drop 4
    if encoded.isEmpty || encoded.getLast? == some '-' || maxEncoded < encoded.length then none
    else (Punycode.decode? encoded).filter isLabel
  else some cs

/-- Whether a text of one direction may hold a character. -/
def fits (main : Direction) (d : Direction) : Bool :=
  match d with
  | .leftToRight => main == .leftToRight
  | .rightToLeft | .arabicNumber => main == .rightToLeft
  | .europeanNumber | .mark | .neutral => true

/-- Whether a text of one direction may end with a character, marks left aside. -/
def mayEnd (main : Direction) (d : Direction) : Bool :=
  match d with
  | .leftToRight | .rightToLeft | .arabicNumber => fits main d
  | .europeanNumber => true
  | .mark | .neutral => false

/-- Whether the directions in a label make its order on a page certain: its first letter decides on
the direction, the other characters fit that, and only one kind of digits is used among letters
written from right to left. -/
def isOrdered (ds : List Direction) : Bool :=
  match ds with
  | [] => true
  | main :: _ =>
    (main == .leftToRight || main == .rightToLeft) && ds.all (fits main) &&
      (ds.reverse.dropWhile (· == .mark)).head?.any (mayEnd main) &&
      !(main == .rightToLeft && ds.contains .europeanNumber && ds.contains .arabicNumber)

/-- Whether a text holds anything written from right to left. -/
def hasRightToLeft (ds : List Direction) : Bool :=
  ds.contains .rightToLeft || ds.contains .arabicNumber

/-- Whether a name in lower case may be a domain name. -/
def isValid (name : List Char) : Bool :=
  match (cutAt (· == '.') name).mapM label? with
  | none => false
  | some labels =>
    let directions := labels.map (·.map direction)
    !directions.any hasRightToLeft || directions.all isOrdered

end GraphClient.DomainName
