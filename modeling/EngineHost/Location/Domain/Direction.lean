import EngineHost.Text.CharTable

/-!
# The direction of labels

A name in which a character reads from right to left must look the same wherever it is shown, so
each of its labels must begin with a letter, must not mix letters of both directions or digits of
both kinds, and must end with a letter or a digit.
-/

namespace EngineHost

/-- How a character behaves in a line of text. -/
inductive Direction where
  | leftToRight
  | rightToLeft
  /-- A digit that belongs to text from right to left. -/
  | arabicDigit
  /-- A digit of either kind of text. -/
  | digit
  /-- A mark goes with the character before it. -/
  | mark
  /-- Punctuation and symbols go with what is around them. -/
  | neutral
  /-- A blank or a separator. -/
  | blank
  deriving DecidableEq, Repr

namespace Domain

/-- The directions of the characters that do not read from left to right. -/
def directions : CharTable := .ofLines
  ["0=9 5,9=5 6,5=e 5,e=5 6,5=f 5,f=a 3,a=7 5,21=6 5,20=5 5,26=7 5,8 5,2=2 5,3 5,2=2 5,6=2 5,5 5,",
  "4 5,18 5,20 5,1c2=2 5,9=e 5,10=6 5,c=2 5,7=9 5,a=11 5,11=40 4,42 4,4=9 4,a=20 4,25 5,81 5,",
  "8d=7 4,107 5,3=3 5,4=2d 4,2d 1,1 4,1 1,1=2 4,2 1,1=2 4,2 1,1=3 4,9=1b 1,1f=6 1,17=2 5,2 1,",
  "1=2 5,2 1,1 5,1 1,1=2 5,2=b 4,b 1,2=2e 1,2e=15 4,15=a 2,a 5,1=2 2,2=3 1,3 4,1=4 1,8=5d 1,",
  "5d=7 4,8 5,1=6 4,6=2 1,2=2 4,2 5,1=4 4,4=2 1,2=a 3,a=14 1,16 1,1 4,1=1e 1,1e=1b 4,1d=59 1,",
  "59=b 4,b 1,f=2b 1,2b=9 4,9=2 1,2=4 5,4 1,3 4,1=18 1,18=4 4,4 1,1=9 4,9 1,1=3 4,3 1,1=5 4,",
  "7=f 1,10=19 1,19=3 4,5 1,2=b 1,10=20 1,27=9 4,9=2a 1,2a=18 4,19=20 4,57 4,2 4,5=8 4,c 4,",
  "4=7 4,11=2 4,1f 4,3b 4,5=4 4,c 4,15=2 4,10=2 5,9 5,3 4,3=2 4,3b 4,5=2 4,6=2 4,4=3 4,6 4,",
  "1f=2 4,5 4,c=2 4,3b 4,5=5 4,6=2 4,6 4,15=2 4,f 5,9=6 4,7 4,3b 4,3 4,2=4 4,c 4,8=2 4,d=2 4,",
  "20 4,3e 4,d 4,26=8 5,d 4,4 4,38 4,2=3 4,8=3 4,4=4 4,b=2 4,d=2 4,16=7 5,9 4,3b 4,10=2 4,",
  "16=2 4,1e=2 4,3b=2 4,6=4 4,c 4,15=2 4,1f 4,49 4,8=3 4,4 4,5b 4,3=7 4,b 5,8=8 4,6a 4,3=9 4,",
  "14=7 4,50=2 4,1d 4,2 4,2 4,1=4 5,37=2 4,3 4,6=5 4,6 4,2=3 4,4=2 4,7=6 4,7=4 4,5=4 4,5=4 4,",
  "5=4 4,5=4 4,5=c 4,d=3 4,c 4,67=4 4,5=6 4,7=2 4,4=2 4,1b=2 4,6=3 4,13=4 4,11 4,3=2 4,8 4,10 4,",
  "2c0=3 4,33=a 5,70 5,29b=2 5,77=3 4,20=2 4,20=2 4,20=2 4,45=7 4,f 4,3=b 4,12 5,2 4,13=a 5,",
  "10=b 5,85=2 4,24 4,77=3 4,7=2 4,b 4,7=3 4,7 5,4=2 5,9a=22 5,39=2 4,4 4,3b 4,2=7 4,8 4,2 4,",
  "3=8 4,e=a 4,c 4,31=2e 4,30=c 4,20=4 4,34 4,2=4 4,35=9 4,15=2 4,22=4 4,6=2 4,3=3 4,3b 4,2=2 4,",
  "5 4,2=3 4,3d=8 4,a=2 4,9a=3 4,4=d 4,e=7 4,b 4,7 4,4=2 4,c8=40 4,24c=2 5,4 5,2=5 5,6=c 5,f 5,",
  "9=3 5,5 5,3=4 5,5 5,2=8 5,b=d 5,e=7 5,48=8 5,9=1b 5,27=21 4,34 5,4 5,c 5,3=2 5,7=2 5,5 5,2 5,",
  "2 5,2 5,5 5,c 5,7=4 5,9=4 5,40=2 5,6=9c 5,9e 5,3=f8 5,fa=b 5,50=1a 5,1b=94 5,aa=b 5,ab=1c1 5,",
  "1c2=153 5,253=10c 5,10d=67 5,6a=65 5,66=97 5,99=8a 5,16f=6 5,a=3 4,a=7 5,86 4,61=20 4,",
  "20=61 5,80=1a 5,1b=4 5,5=53 5,161 5,2=2 5,5=19 5,22=4 4,6 5,7 5,6=3 5,5c=2 4,7 5,5b 5,",
  "c5=26 5,1c00=40 5,56d0=37 5,17d=3 5,62=4 4,4 5,1=a 4,a=2 5,20=2 4,52=2 4,10=22 5,88 5,7a 4,",
  "4 4,5 4,1a=2 4,3=4 5,4 4,c=2 5,3c=4 5,50=2 4,1c=12 4,1f 4,27=8 4,21=b 4,39=3 4,33 4,3=4 4,",
  "6=2 4,29 4,44=6 4,8=2 4,4=2 4,e 4,9 4,30 4,34 4,2=3 4,5=2 4,7=2 4,3 4,2b=2 4,a 4,74=2 5,7b 4,",
  "3 4,5 4,4f31 4,94=11 1,11=10 5,17b=12 5,52=2 5,38=8 5,35=3 5,23=10 4,25=2 5,2e 1,28e 5,",
  "3f=4d 5,50=d 5,10 5,5d 4,e3 4,1=1b 3,95=5 4,48a=6 1,8 1,2=2c 1,2d=2 1,5 1,3=17 1,18=48 1,",
  "50=9 1,39=13 1,14=2 1,7=21 1,24 5,1=1a 1,1f=1b 1,41=38 1,3c=14 1,16=2f 1,2f=3 4,4=2 4,7=4 4,",
  "4=4 1,5=3 1,4=1d 1,1f=3 4,7 4,1=9 1,10=9 1,10=40 1,60=25 1,25=2 4,6=c 1,15=36 1,39=7 5,",
  "7=16 1,18=1b 1,20=1a 1,21=4 1,10=7 1,57=49 1,c0=33 1,3a=2a 1,2a=4 4,c=a 2,10=a 2,a=6 1,",
  "1f=5 4,5 5,1=17 1,1f=2 1,d2=1f 2,20=2a 1,2b=2 4,2 1,3=2 1,12=6 1,e=9 5,2a=6 4,6=28 1,30=16 1,",
  "16=b 4,b=9 1,1f=12 1,12=4 4,4=4 1,2a=1c 1,30=17 1,21 4,37=f 4,1a=14 5,1e 4,3=2 4,c=3 4,",
  "34=4 4,6=2 4,9 4,3e=3 4,27=5 4,6=8 4,46 4,d=2 4,36=9 4,13=4 4,6 4,60=3 4,5 4,2=2 4,8 4,3 4,",
  "9e 4,4=8 4,1d=2 4,3b=2 4,5 4,26=7 4,a=5 4,4b=6 4,13 4,2 4,2 4,f=2 4,57=8 4,a=3 4,4 4,18 4,",
  "55=6 4,7 4,5=2 4,3=2 4,f0=4 4,a=2 4,3=2 4,1d=2 4,57=8 4,a 4,2=2 4,21=d 5,4b 4,2 4,3=6 4,7 4,",
  "66 4,2 4,3=4 4,5=5 4,108=9 4,a=2 4,102=2 4,3 4,5 4,91=4 4,6=2 4,6 4,21=6 4,8=2 4,2a=6 4,",
  "8=4 4,c 4,a=6 4,8=3 4,31=d 4,e=2 4,c8 4,2=3 4,4 4,ca=7 4,8=6 4,5a=16 4,18=7 4,8=2 4,3=2 4,",
  "7c=6 4,9 4,2=2 4,3=7 4,8 4,49=2 4,5 4,2 4,15c=2 4,d=2 4,36=5 4,a 4,2 4,18 4,7b=1d 5,146b 4,",
  "7=f 4,2cd7=c 4,f=3 4,9c3=5 4,40=7 4,41f 4,40=4 4,53 5,2 4,21bc=33 5,2afd=2 4,f63=d6 5,fa=3 5,",
  "6=1b4 5,1ba=17 5,26=11 5,20=2e 4,30=17 4,237=3 4,14=8 4,a=7 4,25=4 4,3f=2 5,17=42 5,42=3 4,",
  "3 5,bb=57 5,700=37 4,3b=32 4,3a 4,f 4,17=5 4,6=f 4,55f=7 4,8=11 4,13=7 4,8=2 4,3=5 4,69 4,",
  "a1=7 4,17e 4,3e=4 4,13 5,1ed=4 4,102=2 4,f5 4,3 4,8=2 4,7 4,10b=c5 1,c7=9 1,9=7 4,52=22 1,",
  "22=7 4,7 1,5=a 1,e=2 1,313=44 1,90=3d 1,1ef=2 5,110=2c 5,30=64 5,70=f 5,11=f 5,10=f 5,",
  "10=25 5,3a=5 5,24 5,3e=3 5,40 5,b3=6 5,a0=3da 5,3dc=11 5,14=d 5,10=da 5,e0=c 5,10 5,10=c 5,",
  "10=38 5,40=a 5,10=28 5,30=1e 5,20=c 5,10=2 5,10=9 5,30=158 5,160=e 5,10=d 5,10=d 5,e=39 5,",
  "3a 5,4=12 5,13=d 5,10=c 5,11=93 5,94=5c 5,66 5"]

/-- The direction of a character. -/
def direction (c : Char) : Direction :=
  match directions.valueD c with
  | 0 => .leftToRight
  | 1 => .rightToLeft
  | 2 => .arabicDigit
  | 3 => .digit
  | 4 => .mark
  | 5 => .neutral
  | _ => .blank

/-- Whether a label holds characters that read from right to left. -/
def hasRightToLeft (label : List Char) : Bool :=
  label.any fun c => direction c = .rightToLeft || direction c = .arabicDigit

/-- Whether a label holds characters of some directions only, and ends with one of others before
any marks. -/
def holdsOnly (inside atEnd : List Direction) (label : List Char) : Bool :=
  label.all (fun c => direction c ∈ inside) &&
    ((label.reverse.dropWhile fun c => direction c = .mark).head?.any fun c => direction c ∈ atEnd)

/-- Whether a label may stand in a name with two directions. -/
def isDirected (label : List Char) : Bool :=
  match label.head?.map direction with
  | some .rightToLeft =>
    holdsOnly [.rightToLeft, .arabicDigit, .digit, .neutral, .mark]
        [.rightToLeft, .arabicDigit, .digit] label &&
      !(label.any (direction · = .digit) && label.any (direction · = .arabicDigit))
  | some .leftToRight =>
    holdsOnly [.leftToRight, .digit, .neutral, .mark] [.leftToRight, .digit] label
  | some _ => false
  | none => true

end Domain

end EngineHost
