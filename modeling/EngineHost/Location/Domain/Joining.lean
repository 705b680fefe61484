import EngineHost.Location.Domain.Composition

/-!
# Joiners

Two characters without a glyph tell letters to join or not to join.  They may stand only where they
change how a text looks: after a mark that suppresses a vowel, and the second one also between
letters that would join without it.
-/

namespace EngineHost

namespace Domain

/-- How letters join: 1 to the next one, 2 to both sides, 3 to the one before; 4 marks what is
looked through. -/
def joiningKinds : CharTable := .ofLines
  ["300=40 4,42 4,4=9 4,a=20 4,133=7 4,10e=2d 4,2e 4,2=2 4,3=2 4,3=3 4,49=b 4,10 2,2=4 3,4 2,1 3,",
  "1 2,1 3,1=5 2,5=4 3,4=d 2,e=7 2,7 3,1=2 2,2=15 4,23=2 2,2 4,1=3 3,8=f 2,f=12 3,12=26 2,26 3,",
  "1=2 2,2=9 3,9 2,1 3,1 2,1 3,1=2 2,2=2 3,3 3,1=7 4,9=6 4,8=2 4,3=4 4,4=2 3,c=3 2,5 2,11 3,1 4,",
  "1=3 2,3=5 3,5=4 2,4 3,1=9 2,9 3,1 2,1 3,1 2,1 3,1=2 2,2 3,1=1b 4,1d 3,1=b 2,b=3 3,3=f 2,",
  "f=2 3,2=4 2,4 3,1 2,1=2 3,2=3 2,3=2 3,2=6 2,2c=b 4,24=21 2,21=9 4,12 4,19=4 4,5=9 4,a=3 4,",
  "4=5 4,17 3,1=5 2,5=2 3,2 2,1 3,1=a 2,a 3,1 2,1=3 3,3=3 4,7 2,2=4 2,5 3,1 2,1=2 3,7=13 3,16 2,",
  "3=5 2,5 3,1 2,8=9 4,9=a 2,a=3 3,4 3,1=2 2,2=2 3,2=6 2,6 3,1=f 2,10=18 4,19=20 4,57 4,2 4,",
  "5=8 4,c 4,4=7 4,11=2 4,1f 4,3b 4,5=4 4,c 4,15=2 4,1c 4,3=2 4,3b 4,5=2 4,6=2 4,4=3 4,6 4,",
  "1f=2 4,5 4,c=2 4,3b 4,5=5 4,6=2 4,6 4,15=2 4,18=6 4,7 4,3b 4,3 4,2=4 4,c 4,8=2 4,d=2 4,20 4,",
  "3e 4,d 4,33 4,4 4,38 4,2=3 4,8=3 4,4=4 4,b=2 4,d=2 4,1f 4,3b 4,3 4,7 4,6=2 4,16=2 4,1e=2 4,",
  "3b=2 4,6=4 4,c 4,15=2 4,1f 4,49 4,8=3 4,4 4,5b 4,3=7 4,13=8 4,6a 4,3=9 4,14=7 4,50=2 4,1d 4,",
  "2 4,2 4,38=2 4,3 4,6=5 4,6 4,2=3 4,4=2 4,7=6 4,7=4 4,5=4 4,5=4 4,5=4 4,5=4 4,5=c 4,d=3 4,c 4,",
  "67=4 4,5=6 4,7=2 4,4=2 4,1b=2 4,6=3 4,13=4 4,11 4,3=2 4,8 4,10 4,2c0=3 4,3b5=3 4,20=2 4,",
  "20=2 4,20=2 4,45=7 4,f 4,3=b 4,14 4,2a 2,19=59 2,65=2 4,2=22 2,22 4,1 2,76=3 4,7=2 4,b 4,",
  "7=3 4,de=2 4,4 4,3b 4,2=7 4,8 4,2 4,3=8 4,e=a 4,c 4,31=2e 4,30=c 4,20=4 4,34 4,2=5 4,6 4,6 4,",
  "29=9 4,15=2 4,22=4 4,6=2 4,3=3 4,3b 4,2=2 4,5 4,2=3 4,3d=8 4,a=2 4,9a=3 4,4=d 4,e=7 4,b 4,",
  "7 4,4=2 4,c8=40 4,310=21 4,c1f=3 4,90 4,61=20 4,24a=4 4,6f=2 4,75d6=4 4,5=a 4,2a=2 4,52=2 4,",
  "112 4,4 4,5 4,1a=2 4,7 4,14=32 2,32 1,52=2 4,1c=12 4,1f 4,27=8 4,21=b 4,39=3 4,33 4,3=4 4,",
  "6=2 4,29 4,44=6 4,8=2 4,4=2 4,e 4,9 4,30 4,34 4,2=3 4,5=2 4,7=2 4,3 4,2b=2 4,a 4,ef 4,3 4,",
  "5 4,4f31 4,302=10 4,3dd 4,e3 4,96=5 4,68b=3 4,4=2 4,7=4 4,2c=3 4,7 4,81=5 2,5 3,2 3,2=2 3,",
  "4 1,1=5 3,5=4 2,4 1,1=5 2,5 3,1=3 2,3 3,3 3,1=2 4,6=4 2,4 3,91 2,1 3,1 2,1=3 3,3=3 2,3 3,",
  "1=2 2,2 3,1 2,1=2 3,2 2,1 3,18=4 3,4=2 2,153 1,1=21 2,21 3,1 2,1=4 4,45=5 4,142=2 4,17 3,",
  "1=2 2,3=2 2,34=6 4,36=3 2,3 3,1=11 2,12=b 4,b=3 2,3 3,1c=4 2,4=2 3,2=c 2,c=4 4,2e 2,2=2 2,",
  "2=3 3,4 2,1=2 3,2=2 2,2 3,1=2 2,3 2,1=2 3,2 2,5 3,1 2,1 1,36 4,37=f 4,38 4,3=2 4,c=3 4,",
  "34=4 4,6=2 4,9 4,3e=3 4,27=5 4,6=8 4,46 4,d=2 4,36=9 4,13=4 4,6 4,60=3 4,5 4,2=2 4,8 4,3 4,",
  "9e 4,4=8 4,1d=2 4,3b=2 4,5 4,26=7 4,a=5 4,4b=6 4,13 4,2 4,2 4,f=2 4,57=8 4,a=3 4,4 4,18 4,",
  "55=6 4,7 4,5=2 4,3=2 4,f0=4 4,a=2 4,3=2 4,1d=2 4,57=8 4,a 4,2=2 4,6c 4,2 4,3=6 4,7 4,66 4,",
  "2 4,3=4 4,5=5 4,108=9 4,a=2 4,102=2 4,3 4,5 4,91=4 4,6=2 4,6 4,21=a 4,32=6 4,8=4 4,c 4,a=6 4,",
  "8=3 4,31=d 4,e=2 4,c8 4,2=3 4,4 4,ca=7 4,8=6 4,7 4,53=16 4,18=7 4,8=2 4,3=2 4,7c=6 4,9 4,",
  "2=2 4,3=7 4,8 4,49=2 4,5 4,2 4,15c=2 4,d=2 4,36=5 4,a 4,2 4,18 4,14e6 4,7=f 4,2cd7=c 4,f=3 4,",
  "9c3=5 4,40=7 4,41f 4,40=4 4,55 4,4cb9=2 4,1263=2e 4,30=17 4,237=3 4,14=8 4,a=7 4,25=4 4,",
  "98=3 4,7be=37 4,3b=32 4,3a 4,f 4,17=5 4,6=f 4,55f=7 4,8=11 4,13=7 4,8=2 4,3=5 4,69 4,a1=7 4,",
  "17e 4,3e=4 4,200=4 4,102=2 4,f5 4,3 4,8=2 4,7 4,1db=7 4,52=22 2,22=8 4"]

/-- The characters that no label begins with. -/
def combiningMarks : CharTable := .ofLines
  ["300=40,42,4=9,a=20,133=7,10e=2d,2e,2=2,3=2,3=3,49=b,3b=15,25,66=7,9=6,8=2,3=4,27,1f=1b,76=b,",
  "45=9,12,19=4,5=9,a=3,4=5,30=3,3e=9,33=18,19=21,57=3,4=12,13=7,11=2,1f=3,3b,2=7,9=2,4=3,c,b=2,",
  "1c,3=3,3b,2=5,9=2,4=3,6,1f=2,5,c=3,3b,2=8,9=3,4=3,17=2,18=6,7=3,3b,2=7,9=2,4=3,a=3,d=2,20,",
  "3c=5,8=3,4=4,d,29=5,3c,2=7,8=3,4=4,b=2,d=2,1f=3,3b,2=7,8=3,4=4,b=2,d=2,11,d=4,3b=2,3=7,8=3,",
  "4=4,d,b=2,1f=3,49,5=6,7,2=8,1a=2,3f,3=7,13=8,6a,3=9,14=7,50=2,1d,2,2,5=2,33=2,3,6=7,8=3,4=2,",
  "7=6,7=4,5=4,5=4,5=4,5=4,5=c,d=3,c,65=14,2b=4,8=3,4=3,5=7,a=4,11=c,d,b=4,2c3=3,3b5=4,20=3,",
  "20=2,20=2,44=1e,27,a8=2,24,77=c,10=c,e7=5,3e=a,b=1d,1f,31=2e,30=c,20=5,34=11,37=9,15=3,21=d,",
  "45=e,3e=14,ac=3,4=15,19,7,3=3,c9=40,310=21,c1f=3,90,61=20,24a=6,6f=2,75d6=4,5=a,2a=2,52=2,",
  "112,4,5,18=5,9,54=2,34=12,2c=12,1f,27=8,21=d,39=4,33=e,32,44=e,1a,9=2,2f=3,35,2=3,5=2,7=2,3,",
  "2a=5,a=2,ee=8,9=2,4f32,302=10,3dd,e3,96=5,68b=3,4=2,7=4,2c=3,7,a6=2,23f=4,45=5,142=2,4f=6,",
  "4c=b,3c=4,7e=3,38=f,38,3=2,c=4,31=b,12,3e=3,27=e,1e=2,2e,d=3,33=e,16=4,5=2,5e=c,12,3,9e=c,",
  "21=4,3b=2,3=7,9=2,4=3,c,b=2,4=7,a=5,48=9,a,3,2=4,5=5,6,f=2,54=12,29,52=14,ff=7,9=9,24=2,",
  "54=11,7b=d,72=f,10f=f,104=6,7=2,4=4,5,2=2,8f=7,9=7,a,1d=a,32=7,8=4,c,a=b,39=10,d6=8,cf=8,9=8,",
  "5a=16,17=e,88=6,9,2=2,3=7,8,43=5,6=2,3=5,160=4,d=2,3,31=7,a=5,1c,14e6,7=f,2cd7=12,9d2=5,40=7,",
  "41f,2=37,3e=4,55,c=2,4cad=2,1263=2e,30=17,235=5,8=6,e=8,a=7,25=4,98=3,7be=37,3b=32,3a,f,17=5,",
  "6=f,55f=7,8=11,13=7,8=2,3=5,69,a1=7,17e,3e=4,200=4,102=2,f5,3,8=2,7,1db=7,74=7"]

/-- The character that asks letters to join. -/
def joiner : Char := Char.ofNat 0x200d

/-- The character that asks letters not to join. -/
def nonJoiner : Char := Char.ofNat 0x200c

/-- Whether a vowel is suppressed before a place. -/
def isAfterVirama (before : List Char) : Bool := before.head?.any fun c => markClass c = 9

/-- Whether the first character that is not looked through joins in one of some ways. -/
def joinsBy (kinds : List Nat) (cs : List Char) : Bool :=
  (cs.dropWhile fun c => joiningKinds.valueD c = 4).head?.any fun c =>
    joiningKinds.valueD c ∈ kinds

/-- Whether every joiner of a label may stand where it does; `before` is what is before, the nearest
character first. -/
def joinersFit : (before : List Char) → List Char → Bool
  | _, [] => true
  | before, c :: rest =>
    (c ≠ joiner || isAfterVirama before) &&
      (c ≠ nonJoiner || isAfterVirama before || (joinsBy [1, 2] before && joinsBy [2, 3] rest)) &&
      joinersFit (c :: before) rest

end Domain

end EngineHost
