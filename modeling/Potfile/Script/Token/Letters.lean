import Potfile.Text.Ranges

/-! # Characters of names

* `isNameStart`: the characters with which a name may begin.
* `isNamePart`: the characters that may follow in a name.
-/

namespace Potfile.Script

/-- The characters beyond ASCII with the Unicode property `ID_Start`. -/
def starters : Text.Ranges := Text.Ranges.ofTable 0x80
  "16 0 a 0 4 0 5 m 1 u 1 cp 4 b e 4 7 0 1 0 3l 4 1 1 2 3 1 0 6 0 1 2 1 0 1 j 1 2a 1 3u 8 4l 1 11
  2 0 6 14 1z q 4 3 19 16 z 1 1 2q 1 0 f 1 7 1 a 2 2 0 g 0 1 t t 2g b 0 o w 9 1 4 0 5 l 4 0 9 0
  3 0 n o 7 a 5 n 1 5 h 15 1m 1h 3 0 i 0 7 9 f f 4 7 2 1 2 l 1 6 1 0 3 3 3 0 g 0 d 1 1 2 e 1 a 0
  8 5 4 1 2 l 1 6 1 1 1 1 1 1 v 3 1 0 j 2 g 8 1 2 1 l 1 6 1 1 1 4 3 0 i 0 f 1 n 0 b 7 2 1 2 l 1
  6 1 1 1 4 3 0 u 1 1 2 f 0 h 0 1 5 3 2 1 3 3 1 1 0 1 1 3 1 3 2 3 b m 0 1g 7 1 2 1 m 1 f 3 0 q 2
  2 0 2 1 u 0 4 7 1 2 1 m 1 9 1 4 3 0 v 1 1 1 f 1 h 8 1 2 1 14 2 0 g 0 5 2 8 2 o 5 5 h 3 n 1 8 1
  0 2 6 1m 1b 1 1 c 6 1m 1 1 0 1 4 1 n 1 0 1 9 1 1 9 0 2 4 1 0 l 3 w 0 1r 7 1 z r 4 37 16 k 0 g
  5 4 3 3 0 3 1 7 2 4 c c 0 h 11 1 0 5 0 2 16 1 98 1 3 2 6 1 0 1 3 2 14 1 3 2 w 1 3 2 6 1 0 1 3
  2 e 1 1k 1 3 2 1u 11 f g 2d 2 5 3 h7 2 g 1 p 5 22 3 a 7 h d i e h e c 1 2 f 1f z 0 4 0 1v 2g 7
  14 1 0 5 1x a u 1d t 2 4 b 17 4 p 1i m 9 1g 2a 0 2l 1a h 7 1i t d 1 a 17 q z 15 2 a z 2 8 7 16
  2 2 15 3 1 5 1 1 3 0 5 5b 1s 7p 2 5 2 11 2 5 2 7 1 0 1 0 1 0 1 u 2 1g 1 6 1 0 3 2 1 6 3 3 2 5
  4 c 5 2 1 6 38 0 d 0 g c 2t 0 4 0 2 9 1 0 2 5 6 0 1 0 1 0 1 f 2 3 5 4 4 0 h 14 22f 6c 6 3 3 1
  c 11 1 0 5 0 2 1j 7 0 g m 9 6 1 6 1 6 1 6 1 6 1 6 1 6 1 6 fa 2 p 8 7 4 2 4 4 2d 4 4 1 2h 1 3 5
  16 1 2l h v 1c f e8 533 1s h3g 1v 19 2 7g 3 f a 1 k 1a g u 2 27 13 8 2 2u 2 1r 5 1 1 0 1 4 o f
  1 2 1 3 1 m t 1f e 1d 1q 5 3 0 1 1 b r a m p s 7 1a s 0 g 4 1 9 a 4 1 14 n 2 1 7 k m 3 0 3 1d
  1 0 3 1 2 4 2 0 1 0 o 2 2 a 7 2 c 5 2 5 2 5 9 6 1 6 1 16 1 d 6 36 t 8mb c m 4 1c 6is a5 2 2x
  12 6 c 4 5 0 1 9 1 c 1 4 1 0 1 1 1 1 1 2z x a2 i 1r 2 1h 14 b 38 4 1 3q 10 p 6 p b 2g 3 5 2 5
  2 5 2 2 z b 1 p 1 i 1 1 1 e 2 d y 3e 1x 1g 7f s 3 1c 1b v d t 5 11 a t 2 z 4 7 1 4 16 4d i z 4
  z 4 13 8 1f c a 1 e 1 6 1 1 1 a 1 e 1 6 1 1 1v 8m 9 l a 7 o 5 1 15 1 8 1x 5 2 0 1 17 1 1 3 0 2
  m a m 9 u 1t i 1 1 a l a p 1y 1j 6 1 1s 0 f 3 1 2 1 s 16 s 3 s z 7 1 r r 1h a l a i d h 32 20
  1j 1e d 1e d z 9o 15 6 1 26 s a 0 8 l 16 h 1a k r m c 1g 1l 1 2 0 d 18 w o q z t 0 2 0 8 y 3 0
  c 1b e 3 l 0 1 0 z h 1 o j 1 1r 6 1 0 1 3 1 e 1 9 7 1a 12 7 2 1 2 l 1 6 1 1 1 4 3 0 i 0 c 4 4e
  1g i 3 k 2 u 1b k 1 1 0 54 1a 15 3 10 1b k 0 1n 16 d 0 1z q 11 6 55 17 38 1r v 7 2 0 2 7 1 1 1
  n f 0 1 0 2m 7 2 12 g 0 1 0 s 0 a 13 7 0 l 0 b 19 j 0 i 20 7b 8 1 10 h 0 1d t 34 6 1 1 1 11 l
  0 p 5 1 1 1 v e 0 93 i f 0 1 c 1 x 3g 0 27 pl 2u 32 h 5f 218 2o f tr h 5 33t g6 6nt fs 7 u h
  26 h t i 1b g 3 v k 5 i j4 1r 3k 22 5 0 1u c 1s 1 1 0 s 4qf 8 yd 16 8 6w7 3 1 6 1 1 1 82 f 0 t
  2 2 0 e 3 8 az 1s4 2y 5 c 3 8 7 9 4me 2c 1 1y 1 1 2 0 2 1 2 3 1 b 1 0 1 6 1 1s 1 3 2 7 1 6 1 r
  1 3 1 4 1 0 3 6 1 9f 2 o 1 o 1 u 1 o 1 u 1 o 1 u 1 o 1 u 1 o 1 7 1f8 u 6 5 79 1p 42 18 a 6 g 0
  8x t i 17 dg r l0 6 1 3 1 1 1 e 1 5g 1n 1v 7 0 xg 3 1 q 1 1 1 0 2 0 1 9 1 3 1 0 1 0 6 0 4 0 1
  0 1 0 1 2 1 1 1 0 2 0 1 0 1 0 1 0 1 0 1 1 1 0 2 3 1 6 1 3 1 3 1 0 1 9 1 g 5 2 1 4 1 g 3es wyn
  w 37d 6 65 2 4g1 e 5rk 2e7 f1 15u 3t6 5 38f"

/-- The characters beyond ASCII with the Unicode property `ID_Continue` that may not begin a
    name. -/
def followers : Text.Ranges := Text.Ranges.ofTable 0x80
  "1j 0 g8 33 n 0 6z 4 7d 18 1 0 1 1 1 1 1 0 20 a 1c u 6 0 2t 6 2 5 2 1 1 3 2 9 n 0 u q 2j a f 9
  x 8 9 0 o 3 1 8 1 2 1 4 17 2 1o 7 16 n 1 w 1i 2 1 h 1 6 a 1 2 9 h 2 1k 0 1 6 2 1 2 2 9 0 a 1 2
  9 e 0 2 2 1k 0 1 4 4 1 2 2 3 0 k b 3 0 b 2 1k 0 1 7 1 2 1 2 k 1 2 9 a 5 1 2 1k 0 1 6 2 1 2 2 7
  2 a 1 2 9 i 0 1n 4 3 2 1 3 9 0 e 9 g 4 1j 0 1 6 1 2 1 3 7 1 b 1 2 9 h 2 1k 0 1 6 1 2 1 3 7 1 b
  1 2 9 3 0 c 3 1j 1 1 6 1 2 1 3 9 0 a 1 2 9 h 2 1y 0 4 5 1 0 1 7 6 9 2 1 1p 0 2 6 c 7 1 9 2f 0
  2 8 b 6 1 9 1q 1 6 9 b 0 1 0 1 0 4 1 1d j 1 1 5 a 1 z 9 0 2s j 1 9 c 3 4 2 1 2 2 6 3 3 d b 1 e
  jj 2 9 8 ps 3 s 2 t 1 u 1 1s v 9 0 2 9 x 2 1 a 3z 0 3a b 4 b a 9 3k a 1o 4 1l 9 1 s 2 a 6 9 m
  d 1 f 1d 4 1b g b 9 h 8 c 2 u c 2 9 18 d 1c j 8 9 6 9 3a 2 1 k 4 0 6 0 2 2 5i 1r fz 1 j 0 3f c
  4 0 3 b 2da 2 3x 0 2o v fe 5 2x 1 n7p 9 1x 0 4 9 w 1 28 1 7k 0 3 0 4 0 n 4 4 0 2b 1 1e h a 9 6
  h d a s 7 p c 18 3 1b d f 9 b 0 a 9 1b d c 0 8 1 2 9 x 2 1e 0 1 2 2 1 5 1 1 0 15 4 5 1 6k 7 1
  1 2 9 fms 0 kh f g f 3 1 o 2 5c 9 11 0 jh 0 6a 0 45 4 85 9 11z 2 1 1 5 3 14 2 4 0 4l 1 fx 3 8
  9 a9 1 28 2 1y a 1d 3 3e 2 1h e v a 2 1 a 3 19 a 7 0 19 9 6 2 10 d 1 9 5 1 18 0 c 2 1c d 8 3 1
  b 2a b 6 0 2 0 4d b 5 9 6 3 1j 1 1 6 2 1 2 2 9 0 a 1 2 6 3 4 5c h 9 9 4 0 29 j c 9 5x 6 2 8 r
  1 2a g f 9 29 c 8 9 2b e 4 9 6q e 4l 9 1y 5 1 1 2 3 1 0 1 1 c 9 3b 6 2 6 3 0 s 9 14 6 1 3 8 0
  9 a 1a f b9 7 1 7 g 9 1k l 1 d 3e 5 3 0 1 1 1 6 1 0 8 9 1c 4 1 1 1 4 8 9 95 3 9 1 1 0 1c 6 3 4
  d 9 44m 0 6 e aoa 9 2e 9 12 4 1n 6 p 9 s5 0 1 1i 7 3 29 0 b 1 f57 1 3mp 19 2 m f2 4 3 5 8 7 2
  6 u 3 44 2 13d 1d e8 1i 4 1d 8 0 e 0 m 4 1 e 11s 6 1 g 2 6 1 1 1 4 2s 0 4g 6 9 9 9w 0 1p d du
  d ra 6 31 6 5 9 3o6 9 gvt2 6n"

/-- The characters with which a name may begin. -/
def isNameStart (c : Char) : Bool :=
  if c.toNat < 0x80 then c.isAlpha || c == '$' || c == '_' else starters.holds c

/-- The characters that may follow in a name: also digits, marks, and the two characters that
    join letters or keep them apart. -/
def isNamePart (c : Char) : Bool :=
  if c.toNat < 0x80 then c.isAlphanum || c == '$' || c == '_'
  else starters.holds c || followers.holds c || c == '\u200C' || c == '\u200D'

end Potfile.Script
