import Potfile.Text.Ranges

/-! # Forms of letters

Many characters are ordered as others are, and differ from them in case or form alone: capital
letters, wide letters, letters in circles, and ligatures, which stand for several letters.

* `Form`: a number for the case and the form of a letter.
* `variant?`: the characters that a character is ordered as, each with its form.
-/

namespace Potfile.Collation.Root

/-- A number for the case and the form of a letter. Letters that differ in nothing else are
    ordered by it. -/
abbrev Form := Nat

/-- The form of most characters: a small letter, or a character that has no case. -/
def plainForm : Form := 2

/-- Whether a form is that of a capital letter. -/
def isCapitalForm (form : Form) : Bool := form ∈ [8, 9, 10, 11, 12, 14, 17, 18, 29]

/-- Runs of characters: for each, how many code points lie in front of it, how many more than
    one it holds, how many characters each is ordered as, the form, and where those characters
    lie, seen from the start of the run. If the form is zero, each of them has its own, behind
    it. Characters that count for nothing are ordered as no characters, and have no form. In a run
    of characters that are ordered as one each, these follow each other too. -/
def variantTable : String :=
  "0 8 0 5 h 0 x p 1 8 1s 10 5 0 1 p 0 0 0 1 r 73 9 0 1 k 41 2 0 0 4 1 1 k 73 1 0 1 4 172 3 0 1 k
  7j 0 0 1 k 45 1 0 3 u 7p cgg 7j 0 0 3 u 7r cge 7p 0 0 3 u 7p cgc 7n 7 0 3 a 5l 1br04 5d 9 0 2
  a 5z 1bqzk 7 0 2 8 5t xs 5 0 1 8 1s 0 0 3 4 5z 1bqyq 5z 6 0 3 4 7d 1bqyc 75 9 0 2 4 7r 1bqxs 7
  0 2 2 7l w0 n 0 2 8 9j ui 0 0 2 2 9l ug k 0 2 8 aj ta 0 0 2 2 al t8 a 0 2 a b5 b3 0 0 2 4 b7
  b5 b 0 2 8 bp 1bqte 0 0 2 2 br 1bqtc 0 0 2 8 bt rs 0 0 2 2 bv rq 6 0 2 4 km c5 0 0 1 8 2 7 0 3
  a cl 1bqsc d5 0 0 3 4 cn 1bqsa d7 i 0 1 8 2 o 0 2 4 ev 1bqpw 1 0 1 8 bo 0 0 1 8 2 1 0 1 8 2 1
  0 1 8 bg 0 0 1 8 2 1 1 1 8 be 0 0 1 8 2 1 0 2 4 f9 ff 0 0 1 8 4e 0 0 1 8 b8 0 0 1 8 ba 0 0 1 8
  2 1 0 1 8 be 0 0 1 8 bi 1 0 1 8 bq 0 0 1 8 bm 0 0 1 8 2 3 0 1 8 bq 0 0 1 8 bu 1 0 1 8 bw 2 0 1
  8 2 1 0 1 8 2 1 0 1 8 c4 0 0 1 8 2 1 0 1 8 c4 2 0 1 8 2 1 0 1 8 c4 2 1 1 8 c2 0 0 1 8 2 1 0 1
  8 2 1 0 1 8 c6 0 0 1 8 2 3 0 1 8 2 1 0 2 4 ib id 5 0 3 a jj ib i8 0 0 3 0 jl a id 4 i6 2 0 0 3
  4 jn if i4 0 0 2 a j9 jd 0 0 2 0 jb a jf 4 0 0 2 4 jd jh 0 0 2 a jb jj 0 0 2 0 jd a jl 4 0 0 2
  4 jf jn n 0 1 8 2 c 0 2 a m1 kt 0 0 2 0 m3 a kv 4 0 0 2 4 m5 kx 2 0 1 8 5d 0 0 1 8 33 10 0 1 8
  2 3 0 1 8 77 1 0 1 8 2 1 0 1 8 2 j 0 2 4 pz q3 0 0 2 4 pb pd 0 0 1 8 gnq 0 0 1 8 2 1 0 1 8 91
  0 0 1 8 gnk 2 0 1 8 2 1 0 1 8 at 0 0 1 8 3u 0 0 1 8 3y 0 0 1 8 2 1 0 1 8 2 1 0 1 8 2 1 0 1 8 2
  1 0 1 8 2 2c 0 2 4 vx up 0 0 2 4 vz z 0 0 2 4 w1 13 0 0 2 4 v7 v9 0 0 2 4 v9 1z 0 0 2 4 vb 4l
  0 0 2 4 w5 jf 0 0 2 4 vv vh 0 0 2 4 vx v5 4 0 1 k wf 0 0 1 k 45 0 0 1 k wf 0 0 1 k w1 0 0 1 k
  39 0 0 1 k 37 0 0 1 k 2x 0 0 1 k vz 0 0 1 k vx 13 0 1 k 6x 0 0 1 k yx 0 0 1 k yl 0 0 1 k yd 0
  0 1 k 4d 15 0 1 2 1 3 0 1 2 9 2 0 1 2 f 1 0 1 2 1 0 0 1 2 3 0 0 1 2 5 0 0 1 2 p 1 0 1 2 b 0 0
  1 2 d 0 0 1 2 f 0 0 1 2 h 0 0 1 2 j 8 0 1 2 11 0 0 1 2 13 0 0 1 2 15 0 0 1 2 17 2 0 1 2 1d 3 0
  1 2 1l 3 0 1 2 1 2 0 1 2 1z 0 0 1 2 21 0 0 1 2 23 0 0 1 2 2n 0 0 1 2 2p 0 0 1 2 2r 6 0 1 2 35
  0 0 1 2 2p 0 0 1 2 2r 0 0 1 2 2t 0 0 1 2 3d 0 0 1 2 3f 0 0 1 2 3h 0 0 1 2 31 0 0 1 2 33 0 0 0
  0 0 1 2 3p 0 0 1 2 3r 0 0 1 2 3t 0 0 1 2 3d 0 0 1 2 3f 0 0 1 2 3h 0 0 1 2 3j 0 0 1 2 43 1 0 1
  2 3p 0 0 1 2 3r 0 0 1 2 4b 0 0 1 2 3v 0 0 1 2 4f 0 0 1 2 4h 0 0 1 2 41 2 0 1 2 47 0 0 1 4 16r
  0 0 1 4 16l 0 0 1 4 16f 0 0 1 4 165 0 0 1 4 15v 0 1 1 4 16x 0 0 1 4 16r 0 0 1 4 16j 0 0 1 4
  16b 0 0 1 4 169 0 0 1 4 167 0 0 1 4 165 0 0 1 8 2 1 0 1 8 2 3 0 1 8 2 3 0 1 4 3i 4 0 1 8 6g 4
  0 1 2 13z c g 1 8 1s 1 6 1 8 1s o 0 1 p 2 c 0 3 0 15 a 1n 4 17 4 0 0 1 4 1n 0 0 1 4 1d 0 0 1 a
  p 2 0 1 4 t 0 0 1 4 17 0 0 3 4 1l 23 1n 0 0 1 8 2 1 0 1 8 2 1 0 1 8 2 1 0 1 8 2 1 0 1 8 2 1 0
  1 8 2 1 0 1 8 2 1 0 1 8 2 1 0 1 8 2 1 0 1 8 2 1 0 1 8 2 1 0 1 8 2 1 0 1 4 2z 0 0 1 4 2n 0 0 1
  4 2l 1 0 1 a 3b 0 0 1 4 3j 1 0 1 8 2 1 0 1 a 2z 0 0 1 8 2 2 2 1 8 77 2 0 1 8 4g 1 2 1 8 4g 1 3
  1 8 4g 3 0 1 8 4g 0 v 1 8 1s 1c 0 1 8 2 1 0 1 8 2 1 0 1 8 2 1 0 1 8 2 1 0 1 8 2 1 0 1 8 2 1 0
  1 8 2 1 0 1 8 2 1 0 1 8 2 1 0 1 8 2 1 0 1 8 2 3 0 1 8 2 1 0 1 8 2 1 0 1 8 2 1 0 1 8 2 1 0 1 8
  2 3 0 1 2 kt 0 0 1 2 kh 0 0 1 2 kl 0 0 1 2 kz 0 1 0 0 0 1 8 2 1 0 1 8 2 1 0 1 8 2 1 0 2 a 55
  1bpia 0 0 2 4 57 1bpi8 0 0 1 8 2 1 0 1 8 2 1 0 1 8 2 1 0 1 8 2 1 0 1 8 2 1 0 1 8 2 1 0 1 8 2 1
  0 1 8 2 1 0 1 8 2 1 0 1 8 2 1 0 1 8 2 1 0 1 8 2 1 0 1 8 2 1 0 1 8 2 1 0 1 8 2 1 0 1 8 2 1 0 1
  8 2 1 0 1 8 2 1 0 1 8 2 1 0 1 8 2 1 0 1 8 2 1 0 1 8 2 1 0 1 8 2 1 0 1 8 u 2 0 1 8 2 1 0 1 8 2
  1 0 1 8 2 1 0 1 8 2 1 0 1 8 2 1 0 1 8 2 6 0 1 8 2 3 0 1 8 2 7 0 1 8 2 7 0 1 8 2 d 0 1 8 2 3 0
  1 8 2 1 0 1 8 2 1 0 1 8 2 1 0 1 8 2 1 0 1 8 2 1 0 1 8 2 1 0 1 8 2 1 0 1 8 2 1 0 1 8 2 1 0 1 8
  2 1 0 1 8 2 1 0 1 8 2 1 0 1 8 2 1 0 1 8 2 1 0 1 8 2 1 0 1 8 2 1 0 1 8 2 1 0 1 8 2 1 0 1 8 2 1
  0 1 8 2 1 0 1 8 2 1 0 1 8 2 1 0 1 8 2 1 0 1 8 2 1 0 1 8 2 1 0 1 8 2 1 0 1 8 2 2 11 1 8 2o 1c 0
  2 4 1v 9 9 u 0 a 0 1 2 1 2 0 0 6 1 0 1 0 1 2 t i 0 1 p 2 2 0 1 p 2 1 0 1 p 2 3 0 1 p 2 1 0 1 p
  2 9 0 4 4 17 1h 1f 1h 0 0 2 4 1h 1h 0 0 2 4 1j 1b 0 0 2 4 1d 1d d 5 0 a a 0 1 0 0 z 0 0 v 9 1
  2 2fz a 0 1 4 4l 0 0 2 4 4b 4n 0 0 2 4 2j 4p 0 0 2 4 4g 4r 0 0 2 4 2j 4t 2l 7 0 1 5 0 0 0 1 4
  8p 0 0 1 4 8n 0 1 0 1 3 0 2 9 1 2 2nz 3 0 2 4 c7 1bojs 0 0 2 4 a9 1bojq g 0 0 4 0 2 4 1 1boii
  7 0 2 4 1 1boi2 7 0 1 p 1 2 0 2 4 1 1bohg 5 0 2 4 1h 1boh6 0 0 2 4 1h 1boh4 0 0 2 4 1f 1boh2 g
  0 0 0 0 1 2 1nr 0 0 1 2 1nb 0 1 0 0 0 1 2 1nz 0 0 1 2 1nj 0 3 0 39 9 1 2 2zj u 0 2 4 z 1bo6o 0
  0 2 4 z 1bo6m 0 0 2 4 x 1bo6k f 0 0 2 0 1 2 1xp v 0 1 2 1 1 0 1 2 1 0 0 1 2 3 1 0 1 2 1 0 0 1
  2 3 1 0 1 2 1 1 0 1 2 1 1 0 1 2 1 0 0 1 2 3 1a 0 1 2 22t 0 0 1 2 22v 0 0 1 2 22x 29 0 1 4 zv
  11 f 0 7 5 0 3 0 0 d 0 1 2 1 27 1 0 0 1 1 2 2hx h 9 1 2 3mz h 0 1 2 75 0 1 1 2 73 1k 0 1 2 73
  h 0 2 4 2b 1 n 9 1 2 3u3 h 0 1 2 e9 0 1 1 2 e7 1k 0 1 2 e7 15 9 1 2 417 h 0 1 2 ld 0 1 1 2 lb
  1k 0 1 2 lb 15 9 1 2 48b a 0 1 2 1u7 0 0 1 2 1ub 0 0 1 2 1u9 0 0 1 2 ox 0 0 1 2 oz 0 0 1 2 p1
  1 0 1 2 sh 0 1 1 2 sf 1k 0 1 2 sf o 0 1 2 39r g 9 1 2 4ff i 0 1 2 zj 2r 9 1 2 4mj g 0 1 2 16n
  0 0 1 2 16p 0 1 1 2 16n 0 0 1 2 16r 2p 9 1 2 4tn 8 3 1 2 4un 0 2 1 2 4ut 2 0 1 2 1dt 0 1 1 2
  1dr 1k 0 1 2 1dr 15 9 1 2 50r g 0 1 2 1kr 0 0 1 2 1kx 0 1 1 2 1kv 1j 0 1 4 10 0 0 1 4 y h 0 2
  4 1n 1 5 0 2 4 23 d 0 0 2 4 23 f 0 0 2 4 1v h f 9 1 2 57v a 0 2 4 4t 2h 0 0 2 4 4l 2j 0 0 2 4
  47 2l 0 0 2 4 45 2n 0 0 2 4 45 2p 0 0 2 4 5v 2r 1 0 1 2 1s1 0 1 1 2 1rz 2q 9 1 2 5ez 2o 9 1 2
  5kv 3a 9 1 2 5rz 2 0 2 4 2p 3p 0 0 2 4 2r 3b y 0 3 4 5s 6w 2d7 b 0 1 r 1 b 1 0 6 9 1 2 5wf 0 8
  1 4 5wx 0 0 1 4 5xh 1 0 0 1 0 0 6 1 0 16 0 2 4 f 1bl7y j 1 1 2 2k7 2 1 0 2 1 0 1e 0 2 4 p
  1bl3i 0 0 2 4 j 1bl3g 0 0 2 4 j 1bl3e 9 0 0 2s 0 1 4 2 a 0 1 2 2uf 1 0 1 2 2uh 6 0 3 4 1t b 1t
  0 9 1 2 6cf 1y 9 1 2 6gv 6 11 1 8 b7k 1 0 1 8 b7k 5 0 1 8 b7k 1a 0 1 k 1r h8 8 1 2 7lb 1a 27 1
  8 1nz4 0 5 1 8 g i2 0 1 4 8u7 w 0 2 4 1 1bida 2 0 2 4 3 1bid4 0 0 2 4 5 1bid4 1 0 2 4 1 1bicy
  1 0 2 4 1 1bicu 2 0 2 4 7 1bicq 0 0 2 4 9 1bicq 0 0 2 4 b 1bicq 4 0 2 4 1 1bica 0 0 2 4 3
  1bica 0 0 2 4 5 1bica 0 0 2 4 7 1bica 4 0 2 4 1 1bibu 0 0 2 4 3 1bibu 0 0 2 4 5 1bibu 1 0 2 4
  1 1bibm 0 0 2 4 3 1bibm 1 0 2 4 1 1bibg 1 0 2 4 1 1bibc 1 0 2 4 1 1bib8 4 0 2 4 1 1biay 0 0 2
  4 3 1bib0 0 0 2 4 5 1bib0 0 0 2 4 7 1bib0 1 0 2 4 1 1biao 0 0 2 4 3 1biao 1 0 2 4 1 1biai 0 0
  2 4 3 1biai 0 0 2 4 p 1biae 2 0 2 4 1 1bia8 0 0 2 4 3 1bia8 1 0 2 4 1 1bia2 1 0 2 4 1 1bi9y 9
  0 2 4 1 1bi9e 0 0 2 4 3 1bi9e 0 0 2 4 2n 1bi9a 0 0 2 4 1r 1bi9a 3 0 2 4 29 13 0 0 4 4 1b 1bi8y
  1b 1bi8y 0 0 2 4 43 43 5f 1 0 g 1 1 2 5tz 3 0 1 2 86z 0 0 1 2 871 0 0 1 2 873 0 0 1 2 875 0 0
  1 2 877 0 0 1 2 879 0 0 1 2 87b 1 0 0 9 0 1 2 87z 2 9 1 2 9cv 6 9 1 2 9dr g 4 0 1 9 1 2 9fj 77
  0 2 4 15 o 0 0 2 4 11 o 13 9 1 2 9wr 3k 9 1 2 a4f 0 0 1 2 a4x 3 0 2 4 3n 27 0 0 3 4 3p 29 1n
  38 0 3 4 r o r 3 0 1 4 2r 0 0 1 4 2t 0 0 1 4 1p 0 0 1 4 1r 8 0 1 4 1 f 0 1 2 6w3 a 0 0 0 9 1 2
  ae7 6 9 1 2 af3 m 0 1 2 9c5 0 0 1 2 9c7 0 0 1 2 9c9 0 0 1 2 9cb 0 0 1 2 9cd 0 0 1 2 9bx 0 0 1
  2 9bz 0 0 1 2 9c1 0 0 1 2 9c3 0 0 1 2 9c5 0 0 1 2 9c7 0 0 1 2 9cr 0 0 1 2 9ct 0 0 1 2 9cd 1 0
  1 4 adr 0 0 1 4 9k5 1r 0 1 2 73z 0 0 1 2 741 0 0 1 2 73z 1 0 1 2 741 1b 0 1 2 73j r 9 1 2 apr
  h 8 0 c 0 1 2 7az 1 0 1 2 7b1 19 9 1 2 av3 0 0 1 4 31 3 0 1 p 2v 0 0 1 p 23 1 0 1 4 1 1 0 1 4
  1 0 0 1 4 3 1 0 1 4 1 1 0 1 4 1 1 0 1 4 1 1 0 1 4 1 0 0 1 4 3 1 0 1 4 1 3 0 1 4 1 1 0 1 4 1 1
  0 1 4 1 1 0 1 4 1 0 0 1 4 3 1 0 1 4 1 2 0 1 4 1 6 0 1 2 7df 1 0 1 4 1 2 0 1 4 1 1 0 1 4 1 1 0
  1 4 1 1z 0 1 2 7hx 8 9 1 2 b33 6 9 1 2 b3z 12 0 1 4 9ln 0 0 1 4 9ll 0 0 1 4 9l3 0 1 1 4 9kz 0
  0 1 4 9l1 0 0 1 4 9kn 0 0 1 4 9jb 0 0 1 4 1ifa 7 16 1 8 4n3 2 2 1 8 4n3 g o 0 1 0 1 4 1 0 0 1
  4 3 0 0 1 4 5 0 0 1 2 7v9 0 0 1 4 9 0 0 1 4 b 0 0 1 4 d 0 0 1 4 f 0 0 1 2 7vh 0 0 1 2 7vj 0 0
  0 2 2 0 0 0 1 4 x 1d 0 1 t bdh 0 0 3 k bdj 1bfs6 bdb 0 0 1 t bdj 1 1 1 t bdj 0 0 1 t asp 0 7 1
  t bdj 1 0 1 t bdl 0 0 1 t apf 0 0 1 t bdn 0 0 1 t bdl 0 1 1 t bdj 0 0 1 t bdh 0 0 1 k ber 0 1
  1 k anb 0 0 1 k 3r 0 0 1 k bex 0 1 1 k bev 0 0 1 k an5 0 0 1 k an3 0 0 1 k 3r 0 0 1 k bez 0 0
  1 k 3t 0 0 1 k bev 0 0 1 k bet 0 0 1 k b2j 0 0 1 k bet 0 0 1 k anx 0 1 1 k 3f 0 0 1 k bez 0 1
  1 k bet 0 0 1 k 3b 0 0 1 k amt 0 0 1 k bex 0 0 1 k 31 0 2 1 k a51 0 1 1 k a43 0 0 1 l bg1 0 0
  1 l bfl 0 1 1 l bfh 0 1 1 l a5j 0 0 1 l a4t 0 1 1 l a4l d 0 1 k 9yt 0 0 2 4 bhf 1bfo0 0 0 3 4
  bgr 1bfnw bhf w 0 1 k as1 0 0 1 k bjl 0 0 1 k arz 0 0 2 k bjn 1bflw 0 0 1 k arp 0 0 1 k bjn 0
  0 1 k arn 0 0 1 k arl 0 0 1 k arf 0 2 1 k arb 0 0 1 k 2f 0 0 1 k aol 0 0 1 k arb 0 0 1 k 21 0
  0 1 k aon 0 0 1 k ar9 0 0 1 k ard 0 3 1 k arb 0 0 1 k ar7 0 1 1 k aqp 0 0 1 k b2r 0 1 1 k aqh
  0 0 1 k 8n 0 1 1 k aqj 0 0 1 k bk1 0 2 1 k aqf 0 0 1 k aa5 0 0 1 2 ajp 0 0 1 2 ajr 0 0 1 2 ajb
  0 0 1 2 ajv 0 0 1 2 ajx 0 0 1 2 ajz 0 0 1 2 ak1 0 0 1 2 ak3 0 0 1 2 ak5 0 0 1 2 ak7 0 0 1 4
  blb 0 0 1 2 akb 0 0 1 2 akd 0 0 1 2 akf 0 0 1 2 akh 0 0 1 2 ak1 0 0 1 2 ak3 0 0 1 2 akn 0 0 1
  4 1id6 0 0 2 4 bmr 1bfiy 0 0 3 4 bmt 1bfiw bml 0 0 2 4 bmv bm3 0 0 2 4 bmx blr 0 0 2 4 bmv ajj
  0 0 2 4 bmv 1bfiq 0 0 2 4 bmx 1bfim 0 0 1 4 bmt 0 0 1 4 aup 0 1 1 4 bmp 0 0 1 4 arh 0 0 1 4 bn
  0 0 1 4 bmr 0 0 1 4 au1 0 0 1 4 atf 0 0 1 4 1ib4 0 0 1 4 bmp 0 0 2 4 bmr 1bfi0 0 0 1 4 bmf 0 0
  1 4 awb 0 0 1 4 bnv 0 0 1 4 1ifs 0 0 1 4 aw1 0 0 1 4 bnt 0 0 1 4 1jtk 0 0 2 4 bnf alp 0 0 1 4
  bnf 0 0 1 4 atz 0 0 2 4 bn9 alv 0 0 1 4 bn7 0 0 2 4 boh amr 0 0 2 4 bnr amt 0 0 2 4 bnh amv 0
  0 1 2 amn 0 0 1 2 amp 0 0 1 2 amr 0 0 1 2 amt 0 0 1 2 amd 1 0 1 2 amz 0 0 1 2 amj 0 0 1 2 aml
  0 0 1 2 an5 0 0 1 2 amp 4a 0 2 4 bxt b07 3 0 3 a bx1 1bf7o bx1 2j 0 2 a c2j c2j 0 0 2 4 c2l
  c2l 0 0 1 8 2 1 0 1 8 2 5c 0 1 2 3 1u 0 1 4 clf 0 0 1 4 clh 0 0 1 4 clj 0 0 1 4 cll 0 0 1 4
  cln 0 0 1 r clp 0 0 1 4 clr 0 0 1 4 clt 0 0 1 4 clv 0 4 0 1 0 1 r 1 i 0 1 4 cmj 0 0 2 4 cml
  cml 0 0 3 4 cmn cmn cmn 3 4 0 0 0 1 r cnx 3 0 2 4 1 1 0 0 3 4 3 3 3 1 0 2 4 1 1 0 0 3 4 3 3 3
  4 0 2 4 col col a 0 2 4 cnj cnj 0 0 2 4 cnl cp9 0 0 2 4 cpb cnn d 0 4 4 21 21 21 21 7 0 1 4
  cql 0 4 0 1 9 0 0 0 1 k cqn 0 0 1 k cnj 2 5 1 k cqn 0 0 1 k crh 0 0 1 k mm 0 0 1 k cql 0 1 1 k
  crt 0 0 1 k co1 0 9 1 l crj 0 0 1 l csd 0 0 1 l lq 0 0 1 l crh 0 1 1 l csp 1 0 1 l cpp 0 0 1 l
  cpj 0 0 1 l cp1 0 0 1 l col 0 0 1 l bxx 0 0 1 l cpl 0 3 1 l cph 0 0 1 l cpf 0 1 1 l cpb b 0 2
  0 cq3 a cq1 4 16 0 1 2 1 4 0 1 2 bpf 0 0 1 2 bph 0 0 1 2 bpj 2 0 1 2 2f1 0 0 1 2 2f3 0 0 1 2
  2f5 0 0 1 2 2f7 1 0 1 2 2fb 0 0 1 2 2fd 0 0 1 2 2ff 0 0 1 2 bq5 4 0 1 2 bqf 0 0 1 2 bqh 0 0 1
  2 bsb 0 0 1 2 bsd 0 0 1 2 bsf 0 0 1 2 bsh 0 0 1 2 bt1 f 0 3 4 cvx cyp cvt 0 0 3 4 cvz cyr cuz
  0 0 1 b cvx 0 0 2 0 crp 4 cvz a 1 0 3 4 cw3 cyz cvf 0 0 3 4 cw5 cz1 cv5 0 0 1 a c47 1 0 2 0
  cs1 4 cw5 a 0 0 1 5 cw5 0 0 1 b cw5 0 0 1 b cw7 0 0 1 b cw9 0 0 1 5 cwb 0 0 2 2 cwd bsj 0 0 1
  b cwd 0 0 1 b cwf 0 0 1 b cwb 0 0 1 5 cwd 1 0 1 b cwd 0 0 2 0 cwf a cwd 4 2 2 1 b cwh 0 0 1 b
  cwj 0 0 1 b cwl 2 0 2 k cwp cx1 0 0 3 a cwp cxj cx5 0 0 2 k cwr cx5 1 0 1 b cwj 3 0 1 b cwr 3
  1 1 b cyb 1 0 1 5 cyb 0 1 1 b cyd 0 0 1 8 1k 0 0 1 b cy3 0 0 1 5 cy1 0 3 1 4 atl 0 0 1 5 cyn 1
  0 3 a cyx cz7 cxx 0 0 1 5 bnb 0 0 1 5 bo3 0 0 1 b bo5 0 0 1 b bnh 0 0 1 5 bm 4 0 1 b czl 0 1 1
  5 czn 0 1 1 5 czh 3 0 3 0 d07 a d2z 4 cz7 a 2 0 3 u d31 ev d2p 0 0 3 u d33 ex d2n 0 0 4 u d35
  ez d35 d37 0 0 3 u d37 f1 d33 0 0 3 u d37 f3 d35 0 0 3 u d3b f5 d33 0 0 3 u d3b f7 d35 0 0 3 u
  d3b f9 d37 0 0 3 u d3b fb d39 0 0 3 u d3j fd d39 0 0 3 u d3d ff d3b 0 0 3 u d3n fh d39 0 0 3 u
  d3l fj d3b 0 0 3 u d3j fl d3d 0 0 3 u d3h fn d3f 0 0 2 u d3v fp 0 0 1 a d0t 0 0 2 a d0v d0v 0
  0 3 a d0x d0x d0x 0 0 2 a d0z d09 0 0 1 a d0b 0 0 2 a d0d d13 0 0 3 a d0f d15 d15 0 0 4 a d0h
  d17 d17 d17 0 0 2 a d19 d0f 0 0 1 a d0h 0 0 2 a d0j d1d 0 0 3 a d0l d1f d1f 0 0 1 a d1b 0 1 1
  a d1v 0 0 1 a d1f 0 0 1 4 d1p 0 0 2 4 d1r d1r 0 0 3 4 d1t d1t d1t 0 0 2 4 d1v d15 0 0 1 4 d17
  0 0 2 4 d19 d1z 0 0 3 4 d1b d21 d21 0 0 4 4 d1d d23 d23 d23 0 0 2 4 d25 d1b 0 0 1 4 d1d 0 0 2
  4 d1f d29 0 0 3 4 d1h d2b d2b 0 0 1 4 d27 0 1 1 4 d2r 0 0 1 4 d2b 3 0 1 8 2 1 0 1 2 d5p 3 0 3
  u d69 i1 d63 4i 0 2 4 1 1 0 0 3 4 3 3 3 1 0 2 4 1 1 0 0 3 4 3 3 3 fj 8 1 6 eal 0 0 2 6 eb3 eb5
  0 0 2 6 eb5 eb5 0 0 2 6 eb7 eb5 0 0 2 6 eb9 eb5 0 0 2 6 ebb eb5 0 0 2 6 ebd eb5 0 0 2 6 ebf
  eb5 0 0 2 6 ebh eb5 0 0 2 6 ebj eb5 0 0 2 6 ebl eb5 0 0 2 6 ebl ebp 0 0 3 4 ec7 ebp ec5 0 0 3
  4 ec9 ebp ec7 0 0 3 4 ecb ebp ec9 0 0 3 4 ecd ebp ecb 0 0 3 4 ecf ebp ecd 0 0 3 4 ech ebp ecf
  0 0 3 4 ecj ebp ech 0 0 3 4 ecl ebp ecj 0 0 3 4 ecn ebp ecl 0 0 4 4 ecp ec7 ec9 ecn 0 0 4 4
  ecr ec9 ec9 ecp 0 0 4 4 ect ecb ec9 ecr 0 0 4 4 ecv ecd ec9 ect 0 0 4 4 ecx ecf ec9 ecv 0 0 4
  4 ecz ech ec9 ecx 0 0 4 4 ed1 ecj ec9 ecz 0 0 4 4 ed3 ecl ec9 ed1 0 0 4 4 ed5 ecn ec9 ed3 0 0
  4 4 ed7 ecp ec9 ed5 0 0 4 4 ed9 ecp ect ed7 0 0 2 4 ect ecz 0 0 2 4 ect ed1 0 0 2 4 ect ed3 0
  0 2 4 ect ed5 0 0 2 4 ect ed7 0 0 2 4 ect ed9 0 0 2 4 ect edb 0 0 2 4 ect edd 0 0 2 4 ect edf
  0 0 3 4 edb edd edh 0 0 3 4 edd edd edj 0 0 3 4 edf edd edl 0 0 3 4 edh edd edn 0 0 3 4 edj
  edd edp 0 0 3 4 edl edd edr 0 0 3 4 edn edd edt 0 0 3 4 edp edd edv 0 0 3 4 edr edd edx 0 0 3
  4 edt edd edz 0 0 3 4 edt edx ee1 0 0 3 4 eef eb9 eed 0 0 3 4 eeh eb9 eef 0 0 3 4 eej eb9 eeh
  0 0 3 4 eel eb9 eej 0 0 3 4 een eb9 eel 0 0 3 4 eep eb9 een 0 0 3 4 eer eb9 eep 0 0 3 4 eet
  eb9 eer 0 0 3 4 eev eb9 eet 0 0 3 4 eex eb9 eev 0 0 3 4 eez eb9 eex 0 0 3 4 ef1 eb9 eez 0 0 3
  4 ef3 eb9 ef1 0 0 3 4 ef5 eb9 ef3 0 0 3 4 ef7 eb9 ef5 0 0 3 4 ef9 eb9 ef7 0 0 3 4 efb eb9 ef9
  0 0 3 4 efd eb9 efb 0 0 3 4 eff eb9 efd 0 0 3 4 efh eb9 eff 0 0 3 4 efj eb9 efh 0 0 3 4 efl
  eb9 efj 0 0 3 4 efn eb9 efl 0 0 3 4 efp eb9 efn 0 0 3 4 efr eb9 efp 0 0 3 4 eft eb9 efr 0 p 1
  c ecp 0 p 1 6 ee5 0 0 1 6 eib 0 0 2 6 eib eib 0 0 2 6 eid eib 0 0 2 6 eif eib 0 0 2 6 eih eib
  0 0 2 6 eij eib 0 0 2 6 eil eib 0 0 2 6 ein eib 0 0 2 6 eip eib 0 0 2 6 eir eib 0 0 2 6 eir
  eiv 0 8 1 6 eiv 0 0 2 6 ejd ejf 0 0 1 6 ejh hi 8 1 6 fih 0 0 2 6 fiz fj1 0 8 1 6 fj1 0 0 2 6
  fjj fjl 0 8 1 6 fjl 0 0 2 6 fk3 fk5 hk 0 4 4 341 341 341 341 2v 0 3 4 goj goj god 0 0 2 4 gof
  gof 0 0 3 4 goh goh goh ax 1a 1 8 2o 1d 0 1 8 2 1 0 1 8 gkt 0 0 1 8 5vv 0 0 1 8 gjx 2 0 1 8 2
  1 0 1 8 2 1 0 1 8 2 1 0 1 8 gmv 0 0 1 8 gl5 0 0 1 8 gn1 0 0 1 8 gmz 1 0 1 8 2 2 0 1 8 2 6 0 1
  l her 0 0 1 t he5 0 1 1 8 got 0 0 1 8 2 1 0 1 8 2 1 0 1 8 2 1 0 1 8 2 1 0 1 8 2 1 0 1 8 2 1 0
  1 8 2 1 0 1 8 2 1 0 1 8 2 1 0 1 8 2 1 0 1 8 2 1 0 1 8 2 1 0 1 8 2 1 0 1 8 2 1 0 1 8 2 1 0 1 8
  2 1 0 1 8 2 1 0 1 8 2 1 0 1 8 2 1 0 1 8 2 1 0 1 8 2 1 0 1 8 2 1 0 1 8 2 1 0 1 8 2 1 0 1 8 2 1
  0 1 8 2 1 0 1 8 2 1 0 1 8 2 1 0 1 8 2 1 0 1 8 2 1 0 1 8 2 1 0 1 8 2 1 0 1 8 2 1 0 1 8 2 1 0 1
  8 2 1 0 1 8 2 1 0 1 8 2 1 0 1 8 2 1 0 1 8 2 1 0 1 8 2 1 0 1 8 2 1 0 1 8 2 1 0 1 8 2 1 0 1 8 2
  1 0 1 8 2 1 0 1 8 2 1 0 1 8 2 1 0 1 8 2 1 0 1 8 2 1 0 1 8 2 1 0 3 4 4d 5h 4h 6 0 1 8 2 1 0 1 8
  2 1 0 1 2 gjn 0 0 1 2 gjb 0 0 1 2 gjf 0 0 1 8 2 3w 0 0 2o 3 1 4 ggt 0 1 1 4 ggr 0 8 1 4 ggn 0
  4 1 4 ggj 0 0 1 4 ge9 0 0 2 4 gh3 gh1 0 0 1 4 gi3 0 0 1 4 ghv 0 0 1 4 1bj6 0 0 1 4 1bj8 0 0 1
  4 gfh 0 0 1 4 ggp 0 0 1 4 1bjq 0 0 1 4 gff 0 0 1 4 gf9 0 0 1 4 gf7 3k 0 2 4 cj0 1b8xs 0 0 2 4
  ema 1b8xq 0 0 1 4 cky 0 0 1 4 cku 0 0 2 4 ckq 1b8xk 0 0 1 4 cq4 0 0 2 4 dtk 1b8xg 0 0 2 4 dyq
  1b8xe 0 0 2 4 e0g 1b8xc 0 0 1 4 e0i 0 0 2 4 ejo 1b8x8 0 0 2 4 ekc 1b8x6 0 0 2 4 hza 1b8x4 0 0
  2 4 hz8 1b8x4 0 0 2 4 i08 1b8x0 0 0 1 4 i08 0 0 1 4 i04 0 0 2 4 i04 1b8wu 0 0 1 4 ipu 0 0 1 4
  ixa 0 0 1 4 j96 0 0 2 4 j92 1b8wm 0 0 1 4 jfg 0 0 2 4 jfc 1b8wi 0 0 1 4 kfc 0 0 1 4 lko 1 0 1
  4 lu4 0 0 2 4 lua 1b8w8 0 0 2 4 mae 1b8w6 0 0 2 4 o1k 1b8w4 0 0 1 4 o64 0 0 1 4 o9u 0 0 1 4
  obs 0 0 1 4 oc0 0 0 1 4 pzm 0 0 1 4 qoe 0 0 2 4 qoc 1b8vq 0 0 1 4 cgc 0 0 2 4 qqw 1b8vm 0 0 1
  4 qve 0 0 2 4 r7o 1b8vi 0 0 2 4 s02 1b8vg 0 0 2 4 sjq 1b8ve 0 0 2 4 tgc 1b8vc 0 0 1 4 tgc 0 0
  2 4 u52 1b8v8 0 0 1 4 uxg 0 0 1 4 vku 0 0 1 4 vus 0 0 1 4 vuo 0 0 2 4 vuo 1b8uy 0 0 2 4 vum
  1b8uy 0 0 2 4 vui 1b8uu 0 0 2 4 vxk 1b8us 0 0 2 4 vxi 1b8us 0 0 1 4 vxi 0 0 1 4 w42 0 0 1 4
  wb0 0 0 2 4 waw 1b8ui 0 0 2 4 wbe 1b8ug 0 0 2 4 wvy 1b8ue 0 0 1 4 x2u 0 0 2 4 x2s 1b8ua 0 0 2
  4 x2q 1b8ua 0 0 1 4 yl6 0 0 1 4 zes 0 0 1 4 zui 0 0 1 4 zue 0 0 1 4 zy0 0 0 1 4 zyw 0 0 2 4
  zyu 1b8tu 0 0 1 4 10og 0 0 1 4 119k 0 0 2 4 11hu 1b8to 0 0 1 4 125y 0 0 1 4 12ac 0 0 2 4 12aa
  1b8ti 0 0 2 4 12a8 1b8ti 0 0 2 4 12mc 1b8te 0 0 1 4 146i 0 1 1 4 14jw 0 0 1 4 14k8 0 0 1 4
  14q0 0 0 2 4 14su 1b8t2 0 0 1 4 14su 0 0 2 4 1542 1b8sy 0 0 1 4 159w 0 0 1 4 15i2 0 0 1 4 15py
  0 0 1 4 15uu 0 1 1 4 15vo 0 0 2 4 15vo 1b8sk 0 0 1 4 15vm 0 0 1 4 162u 0 0 2 4 165m 1b8se 0 0
  1 4 16hg 0 0 2 4 16kq 1b8sa 0 0 2 4 16sw 1b8s8 0 0 1 4 17am 0 0 1 4 17xu 0 0 2 4 182k 1b8s2 0
  0 1 4 1858 0 0 1 4 186u 0 0 1 4 18a0 0 0 2 4 18e6 1b8ru 0 0 1 4 18eg 0 0 2 4 18ei 1b8rq 0 0 1
  4 18gy 0 0 2 4 18ho 1b8rm 0 0 1 4 18ia 0 0 2 4 18ie 1b8ri 0 0 2 4 18ic 1b8ri 0 0 1 4 18ig c 0
  1 4 c8w 0 0 1 4 cb2 0 0 1 4 cbs 0 0 1 4 cc8 0 0 1 4 cdm 0 0 1 4 cg0 0 0 1 4 cgc 0 0 1 4 che 0
  0 1 4 cis 0 0 1 4 dik 0 0 1 4 dkm 0 0 1 4 dkw 0 0 1 4 dm4 0 0 1 4 dn6 0 0 1 4 doa 0 0 1 4 dr6
  0 0 1 4 dsa 0 0 1 4 dsu 0 0 1 4 e1e 0 0 1 4 e6k 0 0 1 4 e82 0 0 1 4 e8a 0 0 1 4 e9w 0 0 1 4
  eac 0 0 1 4 ebs 0 0 1 4 ecg 0 0 1 4 eds 0 0 1 4 egm 0 0 1 4 ehk 0 0 1 4 ej0 0 0 1 4 foy 0 0 1
  4 fsw 0 0 1 4 gie 0 0 1 4 gjm 0 0 1 4 gk0 0 0 1 4 gkk 0 0 1 4 gli 0 0 1 4 gpo 0 0 1 4 hg4 0 0
  1 4 hiq 0 0 1 4 hpc 0 0 1 4 hqk 0 0 1 4 hrk 0 0 1 4 hsq 0 0 1 4 hvo 0 0 1 4 hvs 0 0 1 4 ifu 0
  0 1 4 igc 0 0 1 4 igy 0 0 1 4 ihm 0 0 1 4 io0 0 0 1 4 ioe 0 0 1 4 iom 0 0 1 4 iv2 0 0 1 4 ivk
  0 0 1 4 iw8 0 0 1 4 iwm 0 0 1 4 izy 0 0 1 4 j0u 0 0 1 4 j1s 0 0 1 4 j66 0 0 1 4 k2e 0 0 1 4
  k4w 0 0 1 4 k60 0 0 1 4 lb2 0 0 1 4 lba 0 0 1 4 lfu 0 0 1 4 lgo 0 0 1 4 lhc 0 0 1 4 lig 0 0 1
  4 lkk 0 0 1 4 lks 0 0 1 4 lzk 0 0 1 4 m0u 0 0 1 4 m2k 0 0 1 4 nmy 0 0 1 4 nqk 0 0 1 4 nrs 0 0
  1 4 nuy 0 0 1 4 nw8 0 0 1 4 nwo 0 0 1 4 nx0 0 0 1 4 nzu 0 0 1 4 o02 0 0 1 4 o1s 0 0 1 4 ppo 0
  0 1 4 qeg 0 0 1 4 qf2 0 0 1 4 qfa 0 0 1 4 qfg 0 0 1 4 qfu 0 0 1 4 qgs 0 0 1 4 qgu 0 0 1 4 qla
  0 0 1 4 qx8 0 0 1 4 qxg 0 0 1 4 rg8 0 0 1 4 rgq 0 0 1 4 rjg 0 0 1 4 rjs 0 0 1 4 rk8 0 0 1 4
  rkm 0 0 1 4 rpm 0 0 1 4 rpy 0 0 1 4 s2k 0 0 1 4 s2w 0 0 1 4 s5k 0 0 1 4 s6g 0 0 1 4 s90 0 0 1
  4 sm4 0 0 1 4 smg 0 0 1 4 snc 0 0 1 4 t5g 0 0 1 4 tce 0 0 1 4 tco 0 0 1 4 tmq 0 0 1 4 tri 0 0
  1 4 tu0 0 0 1 4 uey 0 0 1 4 uma 0 0 1 4 vi4 0 0 1 4 vjk 0 0 1 4 vmo 0 0 1 4 vpg 0 0 1 4 vt6 0
  0 1 4 vtq 0 0 1 4 vu0 0 0 1 4 vvs 0 0 1 4 vzy 0 0 1 4 w0g 0 0 1 4 wjm 0 0 1 4 wjy 0 0 1 4 wke
  0 0 1 4 wku 0 0 1 4 wlo 0 0 1 4 wmg 0 0 1 4 wmm 0 0 1 4 wqy 0 0 1 4 wr4 0 0 1 4 wre 0 0 1 4
  y9u 0 0 1 4 ybg 0 0 1 4 z1g 0 0 1 4 z22 0 0 1 4 z3a 0 0 1 4 ziy 0 0 1 4 zjm 0 0 1 4 zni 0 0 1
  4 zq0 0 0 1 4 10lg 0 0 1 4 10m8 0 0 1 4 10n0 0 0 1 4 10ow 0 0 1 4 10qw 0 0 1 4 111w 0 0 1 4
  112i 0 0 1 4 1166 0 0 1 4 11jw 0 0 1 4 11lk 0 0 1 4 11x4 0 0 1 4 11y8 0 0 1 4 11yg 0 0 1 4
  12am 0 0 1 4 12ks 0 0 1 4 12ro 0 0 1 4 12ry 0 0 1 4 12s6 0 0 1 4 1480 0 0 1 4 148g 0 0 1 4
  14h2 0 0 1 4 14pk 0 0 1 4 14po 0 0 1 4 14s8 0 0 1 4 14y0 0 0 1 4 14yo 0 0 1 4 14yu 0 0 1 4
  14z6 0 0 1 4 154k 0 0 1 4 156e 0 0 1 4 156o 0 0 1 4 157e 0 0 1 4 15gm 0 0 1 4 15je 0 0 1 4
  15jk 0 0 1 4 15to 0 0 1 4 15ts 0 0 1 4 15us 0 0 1 4 168q 0 0 1 4 16bc 0 0 1 4 16bo 0 0 1 4
  16fi 0 0 1 4 16g0 0 0 1 4 16g4 0 0 1 4 16gm 0 0 1 4 16i8 0 0 1 4 1744 0 0 1 4 17qa 0 0 1 4
  17qs 0 0 1 4 17su 0 0 1 4 17u0 0 0 1 4 17ue 0 0 1 4 17uw 0 0 1 4 17v2 0 0 1 4 17x8 0 0 1 4
  17xe 0 0 1 4 17ya 0 0 1 4 17yi 0 0 1 4 17z6 0 0 1 4 180m 0 0 1 4 181e 0 0 1 4 181s 0 0 1 4
  1850 0 0 1 4 185s 0 0 1 4 185y 16 0 1 3 iwv 5 0 2 4 4i 6u 0 0 1 2 iwd p 8 1 2 ixr 8 0 2 2 1 5q
  1 0 2 2 1 5m 1 0 1 4 1z 1 0 1 4 dua 0 1 1 4 due 1 0 2 4 3o 1m 4 0 1 d 0 0 0 1 e 1 0 0 1 d 0 0
  0 1 e 1 0 0 1 d 0 0 0 1 e 1 0 0 1 d 0 0 0 1 e 1 0 0 1 d 0 0 0 1 e 1 0 0 1 e 44 1 0 1 e 0 1 0 1
  e 0 1 0 1 e 3u 1 0 1 e 0 1 0 1 e 0 1 0 1 e 0 1 0 1 e 0 1 0 1 e 0 1 0 1 e 0 1 0 1 e 0 1 0 1 e 0
  1 0 1 d 0 0 0 1 e 1 1 0 1 e 0 1 0 1 e 0 1 5 1 e 0 2 0 1 e 0 2 0 1 e 0 2 0 1 e 0 2 0 1 e 0 2 4
  1 e 0 0 0 1 d 0 0 0 1 e 1 0 0 1 d 0 0 0 1 e 1 0 0 1 d 0 0 0 1 e 1 0 4 1 e 0 0 0 1 d 0 0 0 1 e
  1 0 2 1 e 4800 0 0 1 e 0 1 1 1 d 0 8 0 2 m 1b 15 1 0 1 f 5b 0 0 1 h 5d 0 0 1 f 5b 0 0 1 h 5d 0
  0 1 f 5b 0 0 1 h 5d 0 0 1 f 5b 0 0 1 h 5d 0 0 1 f 5b 0 0 1 h 5d 0 0 1 h 17 1 0 1 h 5b 1 0 1 h
  5b 1 0 1 h 1h 1 0 1 h 5b 1 0 1 h 5b 1 0 1 h 5b 1 0 1 h 5b 1 0 1 h 5b 1 0 1 h 5b 1 0 1 h 5b 1 0
  1 h 5b 1 0 1 f 5b 0 0 1 h 5d 1 0 1 h 5b 1 0 1 h 5b 1 5 1 h 5b 2 0 1 h 5b 2 0 1 h 5b 2 0 1 h 5b
  2 0 1 h 5b 2 4 1 h 5b 0 0 1 f 5b 0 0 1 h 5d 0 0 1 f 5b 0 0 1 h 5d 0 0 1 f 5b 0 0 1 h 5d 0 4 1
  h 5b 0 0 1 f 5b 0 0 1 h 5d 0 2 1 h 47uo 0 0 1 h 5b 1 1 1 f 5b 8 0 2 m 9j 8d 1a 0 1 4 z 2 1 1 4
  cpt 0 0 1 4 cgh 0 0 1 4 cpv 0 1 1 4 cgh 0 2 1 4 cpz 0 5 1 4 cgj 0 0 1 4 cp7 0 2 1 4 cqd 0 0 1
  4 cp1 0 9 1 4 cqf 0 k 1 4 cm3 0 0 1 4 cnb 0 1 1 4 crl 0 1 1 4 chr 0 0 1 4 chl 0 0 1 4 chj 0 0
  1 4 chb 0 0 1 4 ch5 0 0 1 4 ch3 0 0 1 4 crn 0 0 1 4 cgz 0 0 1 4 cgx 0 1 1 4 crr 0 0 1 4 crp 0
  1 1 4 crn 0 0 1 4 crh 0 0 1 4 crf 0 4 1 4 crd 0 0 1 4 cr9 0 0 1 4 cr3 0 0 1 4 cql 0 0 1 4 cq9
  0 0 1 4 cq1 0 1 1 4 cgx 0 2 1 4 cpl 0 1 1 4 cn9 0 0 1 4 cn5 0 1 1 4 cmp 0 0 1 4 cmn 0 0 1 4
  cm5 0 0 1 4 cm1 3 0 1 k b8c 0 0 1 k bg2 0 0 1 k b8q 0 0 1 k eq4 0 0 1 k b8o 0 0 1 k bak 0 0 1
  k b8m 0 0 1 k qpe 0 0 1 k bcu 0 0 1 k b98 0 0 1 k b7u 0 0 1 k fmg 0 0 1 k euc 0 0 1 k bhy 0 0
  2 4 8l 1b7pe 0 0 2 4 7n 1b7pc 0 0 2 4 83 1b7pa 0 0 2 4 8b 1b7p8 1 0 2 4 1 1b7p4 1 0 2 4 7r
  1b7p0 0 0 2 4 73 1b7p0 0 0 2 4 7x 1b7ow 0 0 2 4 79 1b7ou 0 0 2 4 79 1b7os 2 0 2 4 7z 1b7om 0 0
  2 4 7x 1b7ok 3 0 2 m 7r 1b7oc 0 0 1 p 9n 0 0 1 p 9h 0 1 1 p 9b 3 0 1 p 9n 1g 0 1 f n5 0 0 1 f
  mr 0 0 1 f mp 0 0 1 f lx 0 0 1 f lr 0 0 1 f ln 0 0 1 f lj 0 0 1 f lf 0 0 1 f lb 0 0 1 f l7 0 0
  1 f kz 0 4 1 f kj 0 0 3 4 jov d1b jot 0 0 3 4 jox d19 jov 0 0 3 4 joz d19 jox 0 0 3 4 jp1 d17
  joz 0 0 3 4 jp3 d17 jp1 0 0 3 4 jp5 d17 jp3 0 0 3 4 jp7 d15 jp5 0 0 3 4 jp9 d13 jp7 0 0 3 4
  jpb d13 jp9 0 0 3 4 jpd d11 jpb 0 0 3 4 jpf d11 jpd 0 0 3 4 jph d11 jpf 0 0 3 4 jpj d11 jph 0
  0 3 4 jpl d11 jpj 0 0 4 4 jpn d23 cwp jpl 0 0 4 4 jpp d21 cwr jpn 0 0 4 4 jpr d21 cwt jpp 0 0
  4 4 jpt d1z cwv jpr 0 0 4 4 jpv d1z cwx jpt 0 0 4 4 jpx d1z cwz jpv 0 0 4 4 jpz d1x cx1 jpx 0
  0 4 4 jq1 d1v cx3 jpz 0 0 4 4 jq3 d1v cx5 jq1 0 0 4 4 jq5 d1t cx7 jq3 0 0 4 4 jq7 d1t cx9 jq5
  0 0 4 4 jq9 d1t cxb jq7 0 0 4 4 jqb d1t cxd jq9 0 0 4 4 jqd d1t cxf jqb 0 0 4 4 jqf d27 cwr
  jqd 0 0 7 4 jqh d2b cx3 d29 cxb ctf jqf 0 0 6 4 jqj d2d cx5 d1z cwv jqh 1 0 3 4 jqn b0g jql 0
  0 3 4 jqp b86 jqn 0 0 3 4 jqr b0u jqp 0 0 3 4 jqt ei8 jqr 0 0 3 4 jqv b8g jqt 0 0 3 4 jqx ccw
  jqv 0 0 3 4 jqz b0a jqx 0 0 3 4 jr1 cco jqz 0 0 3 4 jr3 b56 jr1 0 0 3 4 jr5 d2o jr3 0 0 3 4
  jr7 kvw jr5 0 0 3 4 jr9 olc jr7 0 0 3 4 jrb mxc jr9 0 0 3 4 jrd kxi jrb 0 0 3 4 jrf 11s6 jrd 0
  0 3 4 jrh elc jrf 0 0 3 4 jrj kfe jrh 0 0 3 4 jrl lbm jrj 0 0 3 4 jrn kvi jrl 0 0 3 4 jrp s2e
  jrn 0 0 3 4 jrr dde jrp 0 0 3 4 jrt pe0 jrr 0 0 3 4 jrv zpy jrt 0 0 3 4 jrx s3w jrv 0 0 3 4
  jrz cu0 jrx 0 0 3 4 js1 bbo jrz 0 0 3 4 js3 dj8 js1 0 0 3 4 js5 g9i js3 0 0 3 4 js7 r4e js5 0
  0 3 4 js9 bd4 js7 0 0 3 4 jsb zrm js9 0 0 3 4 jsd d2i jsb 0 0 3 4 jsf s4a jsd 0 0 3 4 jsh bds
  jsf 0 0 3 4 jsj vgw jsh 0 0 3 4 jsl vhc jsj 0 0 1 6 due 0 0 1 6 hgu 0 0 1 6 k8y 0 0 1 6 sy8 0
  0 2 6 jsd jsf 0 0 2 6 jsd jsh 0 0 2 6 jsd jsj 0 0 2 6 jsd jsl 0 0 2 6 jsd jsn 0 0 2 6 jsd jsp
  0 0 2 6 jsd jsr 0 0 2 6 jsd jst 0 0 3 t jpb jp3 jpx 0 0 2 6 jst jsv 0 0 2 6 jsv jsv 0 0 2 6
  jsx jsv 0 0 2 6 jsz jsv 0 0 2 6 jt1 jsv 0 0 2 6 jt3 jsv 0 0 2 6 jt5 jsv 0 0 2 6 jt7 jsv 0 0 2
  6 jt9 jsv 0 0 2 6 jt9 jtf 0 0 2 6 jtb jtf 0 0 2 6 jtd jtf 0 0 2 6 jtf jtf 0 0 2 6 jth jtf 0 0
  2 6 jtj jtf 0 0 1 6 d6n 0 1 1 6 d6l 0 2 1 6 d6j 0 0 1 6 d6h 0 1 1 6 d6f 0 4 1 6 d6d 0 0 2 6
  d7f d21 0 0 2 6 d7d d23 0 0 2 6 d7d d25 0 0 2 6 d7b d27 0 0 2 6 d7b d29 0 0 2 6 d7b d2b 0 0 2
  6 d79 d2d 0 0 2 6 d77 d2f 0 0 2 6 d77 d2h 0 0 2 6 d75 d2j 0 0 2 6 d75 d2l 0 0 2 6 d75 d2n 0 0
  2 6 d75 d2p 0 0 2 6 d75 d2r 0 0 5 6 d7f d2t cy1 d87 d2d 0 0 4 6 d7l d25 d7n d1t 0 0 2 6 d7p
  d27 1 0 1 6 av4 0 0 1 6 b2u 0 0 1 6 avi 0 0 1 6 ecw 0 0 1 6 b34 0 0 1 6 c7k 0 0 1 6 auy 0 0 1
  6 c7c 0 0 1 6 azu 0 0 1 6 cxc 0 0 1 6 kqk 0 0 1 6 og0 0 0 1 6 ms0 0 0 1 6 ks6 0 0 1 6 11mu 0 0
  1 6 eg0 0 0 1 6 ka2 0 0 1 6 l6a 0 0 1 6 kq6 0 0 1 6 rx2 0 0 1 6 d82 0 0 1 6 p8o 0 0 1 6 zkm 0
  0 1 6 ryk 0 0 1 6 coo 0 0 1 6 s5a 0 0 1 6 qbe 0 0 1 6 fcg 0 0 1 6 1122 0 0 1 6 c2i 0 0 1 6 cys
  0 0 1 6 n0y 0 0 1 6 1422 0 0 1 6 b8g 0 0 1 6 c8e 0 0 1 6 mf4 0 0 1 6 ato 0 0 1 6 avk 0 0 1 6
  atm 0 0 1 6 h32 0 0 1 6 d5i 0 0 1 6 cv8 0 0 1 6 g62 0 0 1 6 g3a 0 0 1 6 qy6 0 0 1 6 b6w 0 0 1
  6 zle 0 0 1 6 cwa 0 0 1 6 f6g 0 0 2 6 jy3 jxx 0 0 2 6 jy5 jxx 0 0 2 6 jy7 jxx 0 0 2 6 jy9 jxx
  0 0 2 6 jy9 jyh 0 0 2 6 jyb jyh 0 0 2 6 jyd jyh 0 0 2 6 jyf jyh 0 0 2 6 jyh jyh 0 0 2 6 jyj
  jyh 0 0 2 6 jyl jyh 0 0 2 6 jyn jyh 0 0 2 6 jyp jyh 0 0 2 6 jyr jyh 0 0 2 6 jyr jz1 0 0 2 4
  jz1 knk 0 0 2 4 jz1 kni 0 0 2 4 jz1 kng 0 0 2 4 jz1 kne 0 0 2 4 jz1 knc 0 0 2 4 jz1 kna 0 0 2
  4 jz1 kn8 0 0 2 4 jz1 kn6 0 0 2 4 jz1 kn4 0 0 3 4 jzj jzl kn2 0 0 3 4 jzl jzl kn0 0 0 3 4 jzn
  jzl kmy 0 0 2 0 jwn t jwp s 0 0 3 s jwv jw5 jwr 0 0 2 0 jwx s jvz t 0 0 3 t jwl jw5 jx1 0 0 1
  j 10d 0 0 1 j 10b 0 0 1 j 109 0 0 1 j 107 0 0 1 j 105 0 0 1 j vz 0 0 1 j 101 0 0 1 j zz 0 0 1
  j w3 0 0 1 j zv 0 0 1 j zt 0 0 1 j zr 0 0 1 j zp 0 0 1 j zn 0 0 1 j zl 0 0 1 j zj 0 0 1 j zh 0
  0 1 j zf 0 0 1 j zb 0 0 1 j z9 0 5 1 j z7 0 0 1 j z3 0 0 1 j yz 0 0 1 j yv 0 0 1 j yr 0 5 1 j
  yn 0 0 1 j yl 0 0 1 j yj 0 5 1 j yh 0 2 1 j 471k 0 0 2 s b0q d96 0 0 5 s 131 10h y3 sn 10v 0 0
  4 s 133 yz 107 133 0 0 5 s 135 yl 103 y7 135 0 0 3 s 137 st z3 0 0 5 s 135 10x yp 12h yd 0 0 3
  s 137 yr 11j 0 0 3 s 135 12x yt 0 0 6 s 133 123 12n t1 119 yj 0 0 4 s 135 t3 yt t3 0 0 3 s 133
  yz 127 0 0 3 s 135 t7 103 0 0 3 s yz 13j zl 0 0 4 s z1 zp 11t 11j 0 0 4 s z3 zj zp td 0 0 4 s
  z5 yx zl z9 0 0 4 s z7 yz zb 10h 0 0 4 s 139 z1 z9 z1 0 0 4 s 13b z3 11n tl 0 0 4 s 13d 109 zz
  tn 0 0 6 s 13f z7 zz 12f z7 tp 0 0 2 s 13h zx 0 0 6 s 13j zz 13f zb 107 10p 0 0 6 s 13l 101
  10p tv 123 105 0 0 5 s 13n 103 101 12f 125 0 0 4 s 13l zh 10d 10v 0 0 6 s 13n zj 10f 10x 129
  zv 0 0 6 s 13p 10d 131 zl 14d 109 0 0 4 s 13r 10b u5 123 0 0 3 s zv u7 139 0 0 3 s 13n 10j 12d
  0 0 4 s 13p ub 11h zr 0 0 4 s 13n 14n 13z 10n 0 0 5 s 13p 109 131 uf 11b 0 0 5 s 13n 10t 10b
  143 zz 0 0 3 s 13h 10d 135 0 0 3 s 13j 10f 12t 0 0 4 s 13d 105 un 13p 0 0 3 s 131 107 13v 0 0
  3 s 12z 109 111 0 0 2 s 131 10n 0 0 2 s 12z 12r 0 0 3 s 12t 13f 135 0 0 3 s 12t 159 13h 0 0 6
  s 12v 10h v1 13z 10v 139 0 0 4 s 12x 10j v3 13l 0 0 5 s 12z 10n v5 11d 11f 0 0 6 s 12v 10n 15l
  149 13f 11h 0 0 4 s 12x 10p 14v 11j 0 0 3 s 12z 10r 14p 0 0 3 s 131 10v 11n 0 0 6 s 12x 15t
  11t 13x 13n 10x 0 0 4 s 12z 15r vh 13p 0 0 6 s 131 111 141 14p 15l 11t 0 0 3 s 133 11z 11f 0 0
  5 s 12z 159 14d vn 11x 0 0 3 s 131 115 14j 0 0 4 s 133 117 13t 13f 0 0 3 s 135 123 14b 0 0 4 s
  137 11b 11p 14x 0 0 5 s 139 11d vx 153 11f 0 0 4 s 13b 11h vz 14p 0 0 5 s 137 11h 16b 11v 149
  0 0 4 s 139 11l 12d 14b 0 0 2 s 13b 11z 0 0 5 s 13d 11n 121 14f 11p 0 0 3 s 13f w9 12j 0 0 3 s
  13h wb 125 0 0 4 s 13d 16n 15z 12j 0 0 3 s 13f 16p 12p 0 0 3 s 13h 14z 14b 0 0 3 s 13j 12t 165
  0 0 5 s 13l 12f 15r 133 12f 0 0 4 s 13l 169 12t 12h 0 0 2 s 13n 131 0 0 6 s 13p 133 14l 129 wr
  131 0 0 3 s 13n 12j 12b 0 0 5 s 13p 12l 12d 153 12p 0 0 4 s 13r wx 155 137 0 0 4 s 13p wz 157
  12h 0 0 3 s 13r x1 13b 0 0 3 s 13p 17h 12x 0 0 4 s 13h 15n 15d 13f 0 0 2 s 13j 13l 0 0 4 s 13j
  14x 12p x9 0 0 5 s 13l xb 14t 12t 13l 0 0 2 s 13l 149 0 0 6 s 13n 139 15n 133 12x 139 0 0 3 s
  13l 15z 15p 0 0 2 4 k7j o8y 0 0 2 4 k7j o8w 0 0 2 4 k7j o8u 0 0 2 4 k7j o8s 0 0 2 4 k7j o8q 0
  0 2 4 k7j o8o 0 0 2 4 k7j o8m 0 0 2 4 k7j o8k 0 0 2 4 k7j o8i 0 0 2 4 k7j o8g 0 0 3 4 k81 k83
  o8e 0 0 3 4 k83 k83 o8c 0 0 3 4 k85 k83 o8a 0 0 3 4 k87 k83 o88 0 0 3 4 k89 k83 o86 0 0 3 4
  k8b k83 o84 0 0 3 4 k8d k83 o82 0 0 3 4 k8f k83 o80 0 0 3 4 k8h k83 o7y 0 0 3 4 k8j k83 o7w 0
  0 3 4 k8j k8n o7u 0 0 3 4 k8l k8n o7s 0 0 3 4 k8n k8n o7q 0 0 3 4 k8p k8n o7o 0 0 3 4 k8r k8n
  o7m 0 0 3 0 k5t s k5d t k67 s 0 0 2 s k63 k69 0 0 2 t k6b k57 0 0 3 s k6b k6d k5f 0 0 2 0 k5n
  s k59 t 0 0 2 s k5n k6d 0 0 2 s k6d k5v 0 0 3 s k6f k5x k97 0 0 3 s k6h k5z k97 0 0 2 t k69
  k5l 0 0 2 s gz4 iei 0 0 2 s k0y d28 0 0 2 s evo m30 0 0 2 s jz4 mm2 0 0 4 s kt2 h7k awm rjy 0
  0 2 0 k67 s k71 t 0 0 2 0 k6d s k73 t 0 0 2 0 ivf s k75 t 0 0 2 0 k6j s k77 t 0 0 2 0 k6p s
  k79 t 0 0 2 t k6r k79 0 0 2 t k6p k7b 0 0 2 t k73 k7d 0 0 3 s k7d k7h k6v 0 0 4 s k6z k7f k7j
  k6x 0 0 2 0 k6r s k7b t 0 0 2 0 k6x s k7d t 0 0 2 0 ivz s k7f t 0 0 2 s iw1 k7f 0 0 2 s k75
  k7h 0 0 2 s k7b k7j 0 0 2 0 k7j t k6j s 0 0 3 0 k7f s k7l t k6l s 0 0 3 0 k7d t k7n t k6n s 0
  0 3 0 k7r t k7p t k6p s 0 0 3 0 k73 t k7r t k6r s 0 0 2 s iwh k7l 0 0 2 s k7l k7n 0 0 2 s k85
  k7p 0 0 2 s k7t k7r 0 0 2 s k85 k7r 0 0 2 s k7r k7t 0 0 2 s iwt k7v 0 0 2 s k7x k7x 0 0 2 s
  k8j k7z 0 0 2 s k85 k81 0 0 3 s k83 k83 kbd 0 0 3 s k8p k85 kbf 0 0 2 s k87 kbh 0 0 3 s k8d
  k89 kbj 0 0 3 s k8b k8b kbj 0 0 3 s k8x k8d kbl 0 0 2 s k8f kbn 0 0 3 s k8l k8h kbp 0 0 3 s
  k8j 6xv k87 0 0 4 s k8l 6xx k89 kbv 0 0 2 0 k8h t k9b s 0 0 3 0 k8t s k8j t k9d s 0 0 3 0 k8r
  t k8l t k9f s 0 0 3 0 k95 t k8n t k9h s 0 0 3 s k8l k9j k9d 0 0 5 s k8n k9l k9f 6y9 k8l 0 0 6
  s k8p k9n k9h 6yb k8n kc9 0 0 2 s k8v k8p 0 0 2 s k91 k8r 0 0 2 s iy3 k8t 0 0 2 s k97 k8v 0 0
  2 0 k93 s k8r t 0 0 2 0 k99 s k8t t 0 0 2 0 iyb s k8v t 0 0 2 0 k9f s k8x t 0 0 2 0 k9l s k8z
  t 0 0 2 t k9j k91 0 0 2 0 k9f s k91 t 0 0 2 0 k9l s k93 t 0 0 2 0 iyn s k95 t 0 0 2 0 k9r s
  k97 t 0 0 2 0 k9x s k99 t 0 0 2 t k9v k9b 0 0 2 0 ka1 s iy5 t 0 0 2 t k9z iy7 0 0 4 s kap kdj
  ka1 kdj 0 0 2 0 kap t k9v s 0 0 2 s kap kap 0 0 2 s kar kap 0 0 4 0 kat t 6zl s kad s kal s 0
  0 3 0 kav t ka7 s kdt s 0 0 2 0 kav s kaz t 0 0 2 0 kar t k9r s 0 0 2 s kar kb5 0 0 2 t kat
  kad 0 0 2 s kat kaj 0 0 2 t kar kar 0 0 2 t kat kap 0 0 2 s kav kad 0 0 2 s kav kat 0 0 2 s
  kax kat 0 0 3 s kaz kat kb9 0 0 2 s kb1 kad 0 0 2 s kb1 kbn 0 0 3 s kb3 kbb kb5 0 0 3 s kb5
  kb1 kb7 0 0 2 t kb1 kbh 0 0 4 s kb3 ker kb9 ker 0 0 3 t kb5 kb5 kbb 0 0 2 t kb7 kb3 0 0 2 s
  kb3 kb5 0 0 2 0 kb5 t kaz s 0 0 2 0 kaz t kc5 s 0 0 3 0 kb3 t 70x s kbl s 0 0 3 0 kcb t 70z s
  kbn s 0 0 2 4 kf1 jre 0 0 2 4 kf1 jrc 0 0 2 4 kf1 jra 0 0 2 4 kf1 jr8 0 0 2 4 kf1 jr6 0 0 2 4
  kf1 jr4 0 0 2 4 kf1 jr2 0 0 2 4 kf1 jr0 0 0 2 4 kf1 jqy 0 0 3 4 kfj kfl jqw 0 0 3 4 kfl kfl
  jqu 0 0 3 4 kfn kfl jqs 0 0 3 4 kfp kfl jqq 0 0 3 4 kfr kfl jqo 0 0 3 4 kft kfl jqm 0 0 3 4
  kfv kfl jqk 0 0 3 4 kfx kfl jqi 0 0 3 4 kfz kfl jqg 0 0 3 4 kg1 kfl jqe 0 0 3 4 kg1 kg5 jqc 0
  0 3 4 kg3 kg5 jqa 0 0 3 4 kg5 kg5 jq8 0 0 3 4 kg7 kg5 jq6 0 0 3 4 kg9 kg5 jq4 0 0 3 4 kgb kg5
  jq2 0 0 3 4 kgd kg5 jq0 0 0 3 4 kgf kg5 jpy 0 0 3 4 kgh kg5 jpw 0 0 3 4 kgj kg5 jpu 0 0 3 4
  kgj kgp jps 0 0 3 4 kgl kgp jpq 0 0 3 s kdr ke3 kdh mj4 0 1 4 a7 0 0 1 4 99 0 0 1 4 7p 0 0 2 4
  el f 0 0 2 4 dn h 0 0 2 4 cj j 0 0 2 4 bh j 0 0 2 4 ax n 0 0 2 4 an n 0 0 2 4 al p 0 0 2 4 ab
  t 0 0 2 4 8b v 0 0 2 4 5r x 0 0 2 4 4j z 0 0 2 4 49 z 0 0 2 4 3x 13 0 9 1 2 1tjz 0 0 1 4 af 0
  0 1 4 4z k 0 1 8 2 1 0 1 8 2 1 0 1 8 2 1 0 1 8 2 1 0 1 8 2 1 0 1 8 2 1 0 1 8 2 1 0 1 8 2 1 0 1
  8 2 1 0 1 8 2 1 0 1 8 2 1 0 1 8 2 1 0 1 8 2 1 0 1 8 2 1 0 1 8 2 1 0 1 8 2 1 0 1 8 2 1 0 1 8 2
  1 0 1 8 2 1 0 1 8 2 1 0 1 a 1s2b 0 0 1 4 1s2d 0 0 1 a 1s2f 0 0 1 4 1s2h 0 0 1 a 1s2j 0 0 1 4
  1s2l 0 0 1 4 1s2n 1 2 0 1 0 1 4 1s1r 0 0 1 4 1s3d 0 0 2 4 1s1r 1skb 0 0 1 4 1s2v 0 2 1 4 1s2j
  0 0 1 4 1s1f 0 0 1 2 1skd 0 0 1 2 1skf 2 0 1 8 2 1 0 1 8 2 1 0 1 8 2 1 0 1 8 2 1 0 1 8 2 1 0 1
  8 2 1 0 1 8 2 1 0 1 8 2 1 0 1 8 2 1 0 1 8 2 1 0 1 8 2 1 0 1 8 2 1 0 1 a 1s4z 0 0 1 4 1s51 0 0
  1 a 1s53 0 0 1 4 1s55 0 0 1 k 1s4j 0 0 1 k 1s4h 0 0 1 4 1s4z 0 0 1 4 1s37 3m 0 1 8 2 1 0 1 8 2
  1 0 1 8 2 1 0 2 0 1tuv a 1tuj 4 0 0 2 4 1tux 1tul 0 0 1 8 2 1 0 1 8 2 1 0 1 8 2 3 0 2 a 1twh
  1twh 0 0 2 4 1twj 1twj 0 0 2 a 1twl 1tvt 0 0 2 4 1twn 1tvv 0 0 2 a 1twp 1tvl 0 0 2 4 1twr 1tvn
  0 0 2 a 1twt 1tvn 0 0 2 4 1twv 1tvp 0 0 3 a 1twx 19x8s 1tvr 0 0 3 4 1twz 19x8q 1tvt 0 0 2 a
  1tx1 1tvp 0 0 2 4 1tx3 1tvr 0 0 1 8 2 1 0 1 8 2 1 0 1 8 2 1 0 1 8 2 1 0 1 8 2 1 0 1 8 2 1 0 1
  8 2 1 0 1 8 2 1 0 2 a 1tx9 1tx9 0 0 2 4 1txb 1txb 0 0 1 8 2 1 0 1 8 2 1 0 1 8 2 1 0 1 8 2 1 0
  1 8 2 1 0 1 8 2 1 0 1 8 2 1 0 1 8 2 1 0 2 a 1txv 1txp 0 0 2 4 1txx 1txr 0 0 1 8 2 1 0 1 8 2 1
  0 1 8 2 1 0 1 8 2 1 0 1 8 2 1 0 1 8 2 1 0 1 8 2 1 0 1 k 1 8 0 2 a 1u09 19x5c 0 0 2 4 1u0b
  19x5a 0 0 2 a 1u09 19x58 0 0 2 4 1u0b 19x56 0 0 2 a 1u0b 19x54 0 0 1 8 2 1 0 1 8 2 1 0 2 a
  1tzz 19x4u 0 0 2 4 1u01 19x4s 0 0 2 a 1u01 19x4q 0 0 2 4 1u03 19x4o 0 0 2 a 1u03 19x4m 0 0 2 4
  1u05 19x4k 3 0 1 8 2 1 0 1 8 1t8v 2 0 1 8 2 1 0 1 8 2 3 0 1 8 2 1 0 1 8 2 1 0 2 a 1u29 1t0j 0
  0 2 4 1u2b 1t0l 0 0 2 a 1u1l 1t0n 0 0 2 4 1u1n 1t0p 0 0 2 a 1u1d 1t0r 0 0 2 4 1u1f 1t0t 0 0 2
  a 1u29 1syb 0 0 2 4 1u2b 1syd 0 0 2 a 1u25 1syf 0 0 2 4 1u27 1syh 0 0 2 a 1u23 1syj 0 0 2 4
  1u25 1syl 0 0 2 a 1u1z 1syn 0 0 2 4 1u21 1syp 0 0 2 a 1u21 1syr 0 0 2 4 1u23 1syt 0 0 1 8 1taf
  0 0 1 8 1tb1 0 0 1 8 1tat 0 0 1 8 1ta9 0 0 1 8 1taf 1 0 1 8 1t7n 0 0 1 8 1t8z 0 0 1 8 1t7t 0 0
  1 8 1fk 0 0 1 8 2 1 0 1 8 2 1 0 1 8 2 1 0 1 8 2 1 0 1 8 2 1 0 1 8 2 3 0 1 8 2 1 0 1 8 2n 0 0 1
  8 1tad 0 0 1 8 1ilr 0 0 1 8 2 1 0 1 8 2 17 0 1 8 2 2 0 2 k 1u73 1t39 0 0 3 k 1u6r 19wy6 1u7b h
  0 1 2 1qtt 38 1 1 2 1r0b 1v 0 1 2 1r49 a 9 1 2 1um7 6 h 0 1 0 1 4 1 0 0 1 4 3 0 0 1 4 5 0 0 1
  4 7 0 0 1 4 9 8 9 1 2 1uov 3a 0 1 2 1ren 0 0 1 2 1rel 1 0 1 2 1ren 14 0 1 4 1 6 0 1 2 1re5 1 0
  1 4 1 q 9 1 2 1v0f m 9 1 2 1v27 2e 9 1 2 1v7j 76 0 1 k 1nt 0 0 1 k 23 0 0 1 k 1uqt 0 0 1 k p 6
  0 2 4 1vk3 1up7 0 0 2 4 1vj9 1uq1 1 0 1 k 1upj 3q 9 1 2 1vun ff8 1 1 2 0 1 0 1 2 0 1 1 1 2 0 a
  0 1 2 0 1 0 1 2 0 1 1 1 2 0 2 2 1 2 0 5y 0 2 4 2r03 2r03 0 0 2 4 2r05 2qzz 0 0 2 4 2r07 2qzv 0
  0 3 4 2r09 2r09 2r03 0 0 3 4 2r0b 2r0b 2qzz 0 0 3 4 2qzn 19054 2qzl 0 0 2 4 2qzp 2qzn c 0 2 4
  2p19 2p15 0 0 2 4 2p1b 2p25 0 0 2 4 2p1d 2p1v 0 0 2 4 2p0v 2p1b 0 0 2 4 2p1h 2p1v 8 0 1 5 2ovv
  0 0 1 5 2owx 0 1 1 5 2owt 0 1 1 5 2owh 0 0 1 5 2owf 0 0 1 5 2ovx 0 0 1 5 2ovv 0 0 1 5 2r5n 11
  0 2 4 2ozh 2oyt 0 0 1 q 2oql 0 0 1 p 2oqn 0 0 1 q 2oq5 0 0 1 p 2oq7 0 0 1 n 2oq9 0 0 1 o 2oqb
  0 0 1 q 2oq7 0 0 1 p 2oq9 0 0 1 n 2oqb 0 0 1 o 2oqd 0 0 1 q 2oqb 0 0 1 p 2oqd 0 0 1 n 2oqf 0 0
  1 o 2oqh 0 0 1 q 2oqv 0 0 1 p 2oqx 0 0 1 n 2oqz 0 0 1 o 2or1 0 0 1 q 2oqt 0 0 1 p 2oqv 0 0 1 n
  2oqx 0 0 1 o 2oqz 0 0 1 q 2ord 0 0 1 p 2orf 0 0 1 n 2orh 0 0 1 o 2orj 0 0 1 q 2op7 0 0 1 p
  2op9 0 0 1 n 2opb 0 0 1 o 2opd 0 0 1 q 2opb 0 0 1 p 2opd 0 0 1 n 2opf 0 0 1 o 2oph 0 0 1 q
  2orf 0 0 1 p 2orh 0 0 1 n 2orj 0 0 1 o 2orl 0 0 1 q 2orp 0 0 1 p 2orr 0 0 1 n 2ort 0 0 1 o
  2orv 0 0 1 q 2orr 0 0 1 p 2ort 0 0 1 n 2orv 0 0 1 o 2orx 0 0 1 q 2orx 0 0 1 p 2orz 0 0 1 n
  2os1 0 0 1 o 2os3 0 0 1 q 2ort 0 0 1 p 2orv 0 0 1 q 2orz 0 0 1 p 2os1 0 0 1 q 2orz 0 0 1 p
  2os1 0 0 1 q 2osf 0 0 1 p 2osh 0 0 1 q 2orn 0 0 1 p 2orp 0 0 1 q 2os5 0 0 1 p 2os7 0 0 1 q
  2oqx 0 0 1 p 2oqz 0 0 1 n 2or1 0 0 1 o 2or3 0 0 1 q 2oqt 0 0 1 p 2oqv 0 0 1 n 2oqx 0 0 1 o
  2oqz 0 0 1 q 2oqt 0 0 1 p 2oqv 0 0 1 n 2oqx 0 0 1 o 2oqz 0 0 1 q 2or5 0 0 1 p 2or7 0 0 1 n
  2or9 0 0 1 o 2orb 0 0 1 q 2oqv 0 0 1 p 2oqx 0 0 1 q 2oqx 0 0 1 p 2oqz 0 0 1 n 2or1 0 0 1 o
  2or3 0 0 2 q 2opp 2owv 0 0 2 p 2opr 2owx 0 0 1 q 2oqx 0 0 1 p 2oqz 0 0 1 n 2or1 0 0 1 o 2or3 0
  0 1 q 2orb 0 0 1 p 2ord 0 0 1 n 2orf 0 0 1 o 2orh 0 0 1 q 2oqf 0 0 1 p 2oqh 0 0 2 q 2oqj 2oxj
  0 0 2 p 2oql 2oxl x 0 1 q 2ouj 0 0 1 p 2oul 0 0 1 n 2oun 0 0 1 o 2oup 0 0 1 q 2otb 0 0 1 p
  2otd 0 0 1 q 2oth 0 0 1 p 2otj 0 0 1 q 2oth 0 0 1 p 2otj 0 0 2 q 2otn 2p2v 0 0 1 q 2oth 0 0 1
  p 2otj 0 0 1 q 2otx 0 0 1 p 2otz 0 0 1 q 2ott 0 0 1 p 2otv 0 0 1 q 2otj 0 0 1 p 2otl 0 0 1 n
  2otn 0 0 1 o 2otp 0 0 1 n 2p19 0 0 1 o 2p1b 0 0 2 q 2p3b 2p39 0 0 2 p 2p3d 2p3b 0 0 2 q 2p3f
  2otp 0 0 2 p 2p3h 2otr 0 0 2 q 2p3j 2p1n 0 0 2 p 2p3l 2p1p 0 0 2 q 2p3n 2oup 0 0 2 p 2p3p 2our
  0 0 2 q 2p3r 2ouv 0 0 2 p 2p3t 2oux 0 0 2 q 2p3v 2ouv 0 0 2 p 2p3x 2oux 0 0 2 q 2p3z 2ouj 0 0
  2 p 2p41 2oul 0 0 2 n 2p43 2oun 0 0 2 q 2p45 2p27 0 0 2 p 2p47 2p29 0 0 2 n 2p49 2p2b 0 0 1 q
  2ov3 0 0 1 p 2ov5 0 0 1 n 2ov7 0 0 1 o 2ov9 0 0 2 q 2p4j 2p47 0 0 2 q 2p4l 2p47 0 0 2 q 2p4n
  2p2x 0 0 2 q 2p4p 2p2r 0 0 2 q 2p4r 2p2r 0 0 2 q 2p4p 2p4h 0 0 2 q 2p4r 2p4h 0 0 2 q 2p4t 2p4h
  0 0 2 q 2p4v 2p39 0 0 2 q 2p4x 2p33 0 0 2 q 2p4z 2p33 0 0 2 q 2p4x 2p4t 0 0 2 q 2p4z 2p4t 0 0
  2 q 2p51 2p4t 0 0 2 q 2p53 2p3l 0 0 2 q 2p55 2p3f 0 0 2 q 2p57 2p3f 0 0 2 q 2p57 2p55 0 0 2 q
  2p59 2p3t 0 0 2 q 2p5b 2p3n 0 0 2 q 2p5d 2p3n 0 0 2 q 2p5d 2p5b 0 0 2 q 2p5f 2p41 0 0 2 q 2p5f
  2p5h 0 0 2 q 2p5h 2p45 0 0 2 q 2p5h 2p5l 0 0 2 q 2p5j 2p5l 0 0 2 q 2p5l 2p4b 0 0 2 q 2p5d 2p5r
  0 0 2 q 2p5f 2p5r 0 0 2 q 2p5h 2p5r 0 0 2 q 2p5j 2p4j 0 0 2 q 2p5h 2p5x 0 0 2 q 2p5j 2p4n 0 0
  2 q 2p5j 2p63 0 0 2 q 2p5l 2p63 0 0 2 q 2p5n 2p63 0 0 2 q 2p5p 2p4v 0 0 2 q 2p5p 2p69 0 0 2 q
  2p5r 2p4z 0 0 2 q 2p5r 2p51 0 0 2 q 2p5r 2p6h 0 0 2 q 2p5t 2p55 0 0 2 q 2p5t 2p6l 0 0 2 q 2p5v
  2p59 0 0 2 q 2p5j 2p6p 0 0 2 q 2p5l 2p6p 0 0 2 q 2p5n 2p6p 0 0 2 q 2p5p 2p5h 0 0 2 q 2p5r 2p5b
  0 0 2 q 2p5t 2p5b 0 0 2 q 2p5t 2p6z 0 0 2 q 2p5v 2p5p 0 0 2 q 2p5x 2p5j 0 0 2 q 2p5z 2p5j 0 0
  2 q 2p5z 2p7j 0 0 2 q 2p61 2p7b 0 0 2 q 2p63 2p7b 0 0 2 q 2p65 2p7b 0 0 2 q 2p67 2p65 0 0 2 q
  2p69 2p65 0 0 2 q 2p6b 2p5z 0 0 2 q 2p6d 2p5z 0 0 2 q 2p6d 2p7p 0 0 2 q 2p6f 2p7p 0 0 2 q 2p6h
  2p7p 0 0 2 q 2p6j 2p6h 0 0 2 q 2p6l 2p6b 0 0 2 q 2p6n 2p6b 0 0 2 q 2p6n 2p81 0 0 2 q 2p6p 2p81
  0 0 2 q 2p6r 2p81 0 0 2 q 2p6t 2p6t 0 0 2 q 2p6v 2p6n 0 0 2 q 2p6x 2p6n 0 0 2 q 2p6x 2p8d 0 0
  2 q 2p6z 2p8d 0 0 2 q 2p71 2p8d 0 0 2 q 2p73 2p75 0 0 2 q 2p75 2p6z 0 0 2 q 2p77 2p6z 0 0 2 q
  2p77 2p8p 0 0 2 q 2p79 2p7d 0 0 2 q 2p7b 2p77 0 0 2 q 2p7d 2p77 0 0 2 q 2p79 2p8x 0 0 2 q 2p7b
  2p8x 0 0 2 q 2p7d 2p8x 0 0 2 q 2p7f 2p7p 0 0 2 q 2p7h 2p7j 0 0 2 q 2p7j 2p7j 0 0 2 q 2p91 2p5h
  0 0 2 q 2p91 2p5j 0 0 2 q 2p7r 2p5l 0 0 2 2 2p7n 2p7d 0 0 2 2 2p7n 2p7f 0 0 2 2 2p7n 2p7h 0 0
  2 2 2p7n 2p7j 0 0 2 2 2p7n 2p7l 0 0 2 2 2p7n 2p5x 0 0 2 p 2pa3 2p9h 0 0 2 p 2pa5 2p9h 0 0 2 p
  2pa7 2p8h 0 0 2 p 2pa9 2p8h 0 0 2 p 2pab 2p8d 0 0 2 p 2pad 2p8d 0 0 2 p 2pab 2p9t 0 0 2 p 2pad
  2p9t 0 0 2 p 2paf 2p8t 0 0 2 p 2pah 2p8t 0 0 2 p 2paj 2p8p 0 0 2 p 2pal 2p8p 0 0 2 p 2paj 2pa5
  0 0 2 p 2pal 2pa5 0 0 2 p 2pan 2p95 0 0 2 p 2pap 2p95 0 0 2 p 2par 2p91 0 0 2 p 2pat 2p91 0 0
  2 p 2pat 2pah 0 0 2 p 2pav 2pah 0 0 2 p 2pax 2p9h 0 0 2 p 2paz 2p9h 0 0 2 p 2pb1 2p9d 0 0 2 p
  2pb3 2p9d 0 0 2 p 2p9x 2p9h 0 0 2 p 2p9z 2p9h 0 0 2 p 2p9z 2p9l 0 0 2 p 2pa1 2p9l 0 0 2 p 2pa1
  2pbl 0 0 2 p 2pa3 2pa1 0 0 2 p 2pa5 2pa1 0 0 2 p 2pa7 2p9v 0 0 2 p 2pa9 2p9v 0 0 2 p 2pa9 2pa7
  0 0 2 p 2pab 2pa1 0 0 2 p 2pad 2pa1 0 0 2 p 2pad 2pc1 0 0 2 p 2paf 2paf 0 0 2 p 2paf 2pbl 0 0
  2 p 2pah 2pbl 0 0 2 p 2paj 2pal 0 0 2 p 2pal 2pal 0 0 2 p 2pan 2pah 0 0 2 p 2pap 2pah 0 0 2 p
  2pal 2p8f 0 0 2 p 2pal 2pbz 0 0 2 p 2pan 2pbz 0 0 2 p 2pap 2paz 0 0 2 p 2par 2paz 0 0 2 p 2pat
  2pav 0 0 2 p 2pav 2pav 0 0 2 n 2pcx 2pcl 0 0 2 n 2pcz 2pcl 0 0 2 n 2pd1 2pcl 0 0 2 n 2pd3 2pbd
  0 0 2 n 2pd5 2pbb 0 0 2 n 2pd3 2pcv 0 0 2 n 2pd5 2pcv 0 0 2 n 2pd7 2pcv 0 0 2 n 2pd9 2pbn 0 0
  2 n 2pdb 2pbl 0 0 2 n 2pd9 2pd5 0 0 2 n 2pdb 2pd5 0 0 2 n 2pdd 2pd5 0 0 2 n 2pdf 2pbx 0 0 2 n
  2pdh 2pbv 0 0 2 n 2pdh 2pc1 0 0 2 n 2pdh 2pdf 0 0 2 n 2pdj 2pc5 0 0 2 n 2pdj 2pdl 0 0 2 n 2pdl
  2pc9 0 0 2 n 2pdl 2pdp 0 0 2 n 2pdn 2pcd 0 0 2 n 2pdf 2pdt 0 0 2 n 2pdh 2pdt 0 0 2 n 2pdj 2pdt
  0 0 2 n 2pdl 2pcl 0 0 2 n 2pdj 2pdz 0 0 2 n 2pdl 2pdz 0 0 2 n 2pdn 2pcr 0 0 2 n 2pdn 2pe7 0 0
  2 n 2pdp 2pe7 0 0 2 n 2pdr 2pe7 0 0 2 n 2pdt 2pcz 0 0 2 n 2pdt 2ped 0 0 2 n 2pdt 2pd3 0 0 2 n
  2pdt 2pej 0 0 2 n 2pdv 2pd7 0 0 2 n 2pdv 2pen 0 0 2 n 2pdx 2pdb 0 0 2 n 2pdl 2per 0 0 2 n 2pdn
  2per 0 0 2 n 2pdp 2per 0 0 2 n 2pdr 2pdj 0 0 2 n 2pdr 2pex 0 0 2 n 2pdt 2pdn 0 0 2 n 2pdt 2pf3
  0 0 2 n 2pdv 2pf3 0 0 2 n 2pdx 2pf3 0 0 2 n 2pdz 2pdx 0 0 2 n 2pe1 2pdx 0 0 2 n 2pe1 2pfd 0 0
  2 n 2pe3 2pfd 0 0 2 n 2pe5 2pfd 0 0 2 n 2pe7 2pe5 0 0 2 n 2pe9 2pe3 0 0 2 n 2pe9 2pfn 0 0 2 n
  2peb 2pfn 0 0 2 n 2ped 2pfn 0 0 2 n 2pef 2pef 0 0 2 n 2pef 2pfv 0 0 2 n 2peh 2pfv 0 0 2 n 2pej
  2pfv 0 0 2 n 2pel 2pen 0 0 2 n 2pen 2pel 0 0 2 n 2pen 2pg5 0 0 2 n 2pep 2pet 0 0 2 n 2per 2pch
  0 0 2 n 2pen 2pgb 0 0 2 n 2pep 2pgb 0 0 2 n 2per 2pgb 0 0 2 n 2pet 2pf3 0 0 2 n 2pev 2pf1 0 0
  2 o 2pgx 2pf7 0 0 2 o 2pgz 2pf5 0 0 2 o 2pgx 2pfb 0 0 2 o 2pgz 2pf9 0 0 2 o 2pgx 2pff 0 0 2 o
  2pgz 2pfd 0 0 2 o 2pgz 2pfj 0 0 2 o 2ph1 2pfh 0 0 2 o 2pgn 2pfn 0 0 2 o 2pgp 2pfl 0 0 2 o 2pgp
  2pfr 0 0 2 o 2pgr 2pfp 0 0 2 o 2pfz 2pfx 0 0 2 o 2pg1 2pfx 0 0 2 o 2pg1 2pfz 0 0 2 o 2pfz 2pg1
  0 0 2 o 2pg1 2pfz 0 0 2 o 2pfv 2pg5 0 0 2 o 2pfx 2pg3 0 0 2 2 2pfr 2pfl 0 0 2 2 2pfr 2pfn 0 0
  2 2 2pfr 2pfp 0 0 2 q 2ph7 2pg7 0 0 2 q 2ph9 2pg7 0 0 2 q 2ph7 2pgb 0 0 2 q 2ph9 2pgb 0 0 2 q
  2ph9 2pgf 0 0 2 q 2phb 2pgf 0 0 2 q 2phr 2pgj 0 0 2 q 2pht 2pgj 0 0 2 q 2pht 2pgn 0 0 2 q 2phv
  2pgn 0 0 2 q 2pib 2pgr 0 0 2 q 2pid 2pgr 0 0 2 q 2pih 2pgv 0 0 2 q 2pij 2pgv 0 0 2 q 2pih 2pgz
  0 0 2 q 2pij 2pgz 0 0 2 q 2pi7 2ph3 0 0 2 q 2pi9 2ph3 0 0 2 q 2pi9 2ph7 0 0 2 q 2pib 2ph7 0 0
  2 q 2pih 2pix 0 0 2 q 2pij 2pix 0 0 2 q 2pil 2pix 0 0 2 q 2pin 2php 0 0 2 q 2pip 2piv 0 0 2 q
  2pit 2pix 0 0 2 q 2pir 2piz 0 0 2 q 2pir 2pj1 0 0 2 p 2pir 2phr 0 0 2 p 2pit 2phr 0 0 2 p 2pir
  2phv 0 0 2 p 2pit 2phv 0 0 2 p 2pit 2phz 0 0 2 p 2piv 2phz 0 0 2 p 2pjb 2pi3 0 0 2 p 2pjd 2pi3
  0 0 2 p 2pjd 2pi7 0 0 2 p 2pjf 2pi7 0 0 2 p 2pjv 2pib 0 0 2 p 2pjx 2pib 0 0 2 p 2pk1 2pif 0 0
  2 p 2pk3 2pif 0 0 2 p 2pk1 2pij 0 0 2 p 2pk3 2pij 0 0 2 p 2pjr 2pin 0 0 2 p 2pjt 2pin 0 0 2 p
  2pjt 2pir 0 0 2 p 2pjv 2pir 0 0 2 p 2pk1 2pkh 0 0 2 p 2pk3 2pkh 0 0 2 p 2pk5 2pkh 0 0 2 p 2pk7
  2pj9 0 0 2 p 2pk9 2pkf 0 0 2 p 2pkd 2pkh 0 0 2 p 2pkb 2pkj 0 0 2 p 2pkb 2pkl 0 0 2 n 2pkh 2pkx
  0 0 2 n 2pkj 2pkx 0 0 2 n 2pkl 2pkx 0 0 2 n 2pkn 2pjp 0 0 2 n 2pkr 2pjn 0 0 2 n 2pkr 2pjp 0 0
  2 n 2pkn 2pjv 0 0 2 o 2pkx 2plb 0 0 2 o 2pkz 2plb 0 0 2 o 2pl1 2plb 0 0 2 o 2pl1 2plh 0 0 2 o
  2pl3 2plh 0 0 2 o 2pl5 2plh 0 0 2 o 2pl1 2pk9 0 0 2 o 2pl1 2pkb 0 0 2 p 2pm1 2pk1 0 0 2 q 2pm3
  2pk3 i 0 3 n 2pmz 2pmv 2plh 0 0 3 p 2pn1 2pmv 2pmx 0 0 3 n 2pn3 2pmx 2pmz 0 0 3 n 2pn5 2pmz
  2pln 0 0 3 n 2pn7 2pmz 2plp 0 0 3 n 2pn9 2plr 2pn5 0 0 3 n 2pnb 2plt 2pn5 0 0 3 n 2pnd 2plv
  2pn5 0 0 3 p 2pnb 2plx 2pn9 0 0 3 n 2pnd 2plz 2pnb 0 0 3 p 2pnd 2pm1 2plr 0 0 3 p 2pnf 2pm3
  2plv 0 0 3 n 2pn5 2pnh 2pnj 0 0 3 n 2pn7 2pnl 2pnj 0 0 3 p 2pn9 2pnn 2pm1 0 0 3 p 2pnb 2pmb
  2pnn 0 0 3 n 2pnd 2pmd 2pnp 0 0 3 n 2pnf 2pmf 2pnt 0 0 3 p 2pnh 2pmh 2pmh 0 0 3 n 2pnj 2pmj
  2pmj 0 0 3 p 2pnh 2pnx 2pnx 0 0 3 n 2pnj 2pnz 2pnz 0 0 3 p 2pnl 2pmp 2pmp 0 0 3 p 2pnp 2po3
  2pmr 0 0 3 n 2pnr 2po5 2pmt 0 0 3 p 2pnt 2po9 2pml 0 0 3 p 2pnv 2pmx 2po7 0 0 3 n 2pnx 2pmz
  2po9 0 0 3 p 2pnz 2pn1 2pn1 0 0 3 n 2po1 2pn3 2pn3 0 0 3 p 2pnz 2poh 2pmx 0 0 3 p 2po1 2poh
  2pn7 0 0 3 n 2po3 2poj 2pn9 0 0 3 p 2po3 2pnb 2pon 0 0 3 n 2po5 2pnd 2pop 0 0 3 n 2po7 2pnf
  2pnf 0 0 3 p 2po9 2pnh 2pn7 0 0 3 p 2po7 2pox 2pnj 0 0 3 p 2po9 2pnl 2pnl 0 0 3 n 2pob 2pnn
  2pnn 0 0 3 p 2pod 2pnp 2pnh 0 0 3 p 2pod 2pnr 2pnr 0 0 3 p 2pof 2pnt 2pnj 0 0 3 p 2poh 2pnv
  2pnn 0 0 3 p 2po5 2pp7 2pnx 0 0 3 n 2po7 2pp9 2pnz 0 0 3 p 2po7 2po1 2ppd 0 0 3 p 2po9 2po3
  2po3 0 0 3 p 2po7 2pph 2po5 0 0 3 p 2po9 2ppj 2pnx 0 0 3 p 2pob 2ppl 2po1 0 0 3 n 2pod 2ppp
  2ppp 0 0 3 p 2pof 2ppr 2ppr 0 0 3 p 2poh 2ppp 2pof 0 0 3 n 2poj 2ppr 2poh 0 0 3 p 2pol 2poj
  2ppv 0 0 3 n 2pon 2pol 2ppx 0 0 3 n 2pon 2ppz 2pq1 0 0 3 n 2pop 2pq1 2pop 0 0 3 p 2por 2pq3
  2poh 0 0 3 n 2pot 2pq7 2pq5 0 0 3 n 2pov 2pq9 2pov 0 0 3 n 2pox 2pq7 2pqb 0 0 3 n 2poz 2pq9
  2poz 2 0 3 n 2pp5 2pqj 2pqf 0 0 3 n 2pp3 2pp7 2pql 0 0 3 n 2pp5 2pp9 2pp9 0 0 3 n 2pp9 2pqn
  2ppb 0 0 3 p 2ppb 2pqp 2pp5 0 0 3 p 2ppd 2pqt 2ppf 0 0 3 n 2ppf 2pqv 2pph 0 0 3 p 2pph 2pqx
  2ppb 0 0 3 p 2ppj 2ppl 2ppb 0 0 3 p 2ppl 2ppn 2ppf 0 0 3 p 2ppf 2ppp 2ppp 0 0 3 n 2pph 2ppr
  2ppr 0 0 3 p 2prf 2pr3 2ppj 0 0 3 p 2prd 2pr9 2ppl 0 0 3 p 2prf 2prb 2ppp 0 0 3 p 2prh 2pr9
  2ppp 0 0 3 p 2prj 2prb 2ppt 0 0 3 p 2prl 2pq3 2ppt 0 0 3 p 2prn 2pq5 2ppx 0 0 3 p 2prl 2pq7
  2ppx 0 0 3 p 2prn 2prl 2pq1 0 0 3 p 2prp 2pqb 2pq3 0 0 3 p 2prd 2prn 2pq5 0 0 3 p 2prb 2prr
  2pq5 0 0 3 p 2prf 2prt 2pq7 0 0 3 p 2prd 2prv 2pq9 0 0 3 p 2pqn 2prz 2pqb 0 0 3 p 2pqp 2pqn
  2pqd 0 0 3 p 2pqf 2ps1 2pqf 0 0 3 p 2pqh 2ps5 2pqh 0 0 3 p 2pqj 2pqt 2pqj 0 0 3 p 2pqv 2pqv
  2pql 0 0 3 p 2pr3 2pqx 2pqn 0 0 3 p 2pqx 2psb 2pqp 0 0 3 n 2pr7 2pr1 2psd 0 0 3 n 2pr5 2psf
  2pr3 0 0 3 p 2prt 2pr5 2pqv 0 0 3 p 2prb 2pr7 2pqx 0 0 3 n 2pr7 2psn 2psl 0 0 3 p 2prb 2psl
  2pr1 0 0 3 n 2prf 2psr 2prd 0 0 3 p 2prj 2prf 2prf 0 0 3 p 2prj 2psv 2prh 0 0 3 p 2prh 2psx
  2psv 0 0 3 p 2psz 2psx 2prb 0 0 3 p 2psz 2pt1 2prd 0 0 3 p 2prp 2pt3 2prf 0 0 3 p 2prz 2prr
  2prh 0 0 3 p 2ptf 2pt5 2prj 0 0 3 n 2prz 2prv 2prv 0 0 3 n 2psl 2ptb 2prx 0 0 3 n 2psv 2prz
  2prz 0 0 3 p 2pt1 2ptb 2prr 0 0 3 p 2ps1 2pth 2prt 14 0 3 q 2pv9 2puf 2pmj 0 0 3 q 2pul 2puh
  2pml 0 0 4 q 2pw5 2puj 2puj 2pud 0 0 4 q 2pw7 2pun 2pw5 2pvn 0 0 4 q 2pul 2pvx 2pul 2pvt 0 0 4
  q 2pvj 2pup 2pvb 2pun 0 0 4 q 2pvt 2pvp 2puj 2pur 0 0 4 q 2pvf 2put 2puh 2pun 0 0 4 q 2pun
  2pvt 2puv 2put 0 0 3 q 2pvr 2pux 2pun 0 0 i q 2pvt 2puz 2pup 2sab 2pwl 2puz 2puz 2put 2sab
  2pvl 2puz 2pun 2put 2sab 2pur 2pvx 2puz 2pux 0 0 8 q 2pwd 2pv1 2sad 2pwd 2pv1 2pwn 2pv1 2puv 0
  0 4 q 2pw5 2pnj 2pwp 2pv3 3 f 0 0 0 1 m 2sav 0 1 1 m 29en 0 1 1 m 2sa9 0 0 1 m 2sbr 0 0 1 m
  2sa5 0 1 1 m 29dt 0 0 3 m 2sb9 2sb9 2sb9 6 0 1 2 2r25 0 0 0 0 0 1 2 2r2b 0 3 0 0 0 1 2 2r6p 0
  0 0 0 0 1 2 2r2p 0 3 0 0 0 1 2 2qmt 0 0 0 0 0 2 m 2scj 2scj 0 0 1 m 2fqx 0 0 1 m 2fr1 0 0 1 m
  2s9z 0 0 1 m 2sa1 0 1 1 m 2sd5 0 0 1 m 2s8n 0 0 1 m 2s8l 0 1 1 m 29ft 0 1 1 m 29g5 0 1 1 m
  29gl 0 1 1 m 29gt 0 3 1 m 29gp 2 0 1 m 2sbb 0 0 1 m 2sb9 0 0 1 4 2fpx 0 0 1 4 2fpz 0 0 1 4
  2fq1 0 0 1 4 2fq3 0 0 1 4 2sbf 0 0 1 4 2sbh 0 0 1 4 2sbj 0 0 1 f 2sef 0 0 1 f 29i7 0 0 1 f
  2sef 1 0 1 f 2sdt 0 0 1 f 2sdx 0 0 1 f 2sdp 0 0 1 f 2sff 0 0 1 f 2ft3 0 1 1 f 2sf5 0 0 1 f
  2san 0 0 1 f 2sal 0 1 1 f 29ht 0 0 1 f 2sfr 0 0 1 f 2sfn 0 1 1 f 2sfh 0 0 1 f 2sff 0 0 1 f
  2sen 0 0 1 f 2sel 0 0 1 f 2sep 1 0 1 f 2sd3 0 1 1 f 2sg9 0 0 1 f 2set 4 0 1 q 2q15 0 0 1 o
  2q17 0 0 1 q 2q17 0 0 0 0 0 1 q 2q19 1 0 1 q 2q1b 0 0 1 o 2q1d 0 0 1 q 2q1d 0 0 1 o 2q1f 0 0 1
  q 2q1f 0 0 1 o 2q1h 0 0 1 q 2q1h 0 0 1 o 2q1j 0 0 1 q 2q1j 0 0 1 o 2q1l 0 1 1 q 2q4d 0 0 1 p
  2q4f 0 0 1 q 2q4f 0 0 1 p 2q4h 0 0 1 q 2q4h 0 0 1 p 2q4j 0 0 1 q 2q4j 0 0 1 p 2q4l 0 0 1 q
  2q4l 0 0 1 p 2q4n 0 0 1 n 2q4p 0 0 1 o 2q4r 0 0 1 q 2q4r 0 0 1 p 2q4t 0 0 1 q 2q4t 0 0 1 p
  2q4v 0 0 1 n 2q4x 0 0 1 o 2q4z 0 0 1 q 2q4z 0 0 1 p 2q51 0 0 1 q 2q51 0 0 1 p 2q53 0 0 1 n
  2q55 0 0 1 o 2q57 0 0 1 q 2q57 0 0 1 p 2q59 0 0 1 n 2q5b 0 0 1 o 2q5d 0 0 1 q 2q5d 0 0 1 p
  2q5f 0 0 1 n 2q5h 0 0 1 o 2q5j 0 0 1 q 2q5j 0 0 1 p 2q5l 0 0 1 n 2q5n 0 0 1 o 2q5p 0 0 1 q
  2q5p 0 0 1 p 2q5r 0 0 1 n 2q5t 0 0 1 o 2q5v 0 0 1 q 2q5v 0 0 1 p 2q5x 0 0 1 q 2q5x 0 0 1 p
  2q5z 0 0 1 q 2q5z 0 0 1 p 2q61 0 0 1 q 2q61 0 0 1 p 2q63 0 0 1 q 2q63 0 0 1 p 2q65 0 0 1 n
  2q67 0 0 1 o 2q69 0 0 1 q 2q69 0 0 1 p 2q6b 0 0 1 n 2q6d 0 0 1 o 2q6f 0 0 1 q 2q6f 0 0 1 p
  2q6h 0 0 1 n 2q6j 0 0 1 o 2q6l 0 0 1 q 2q6l 0 0 1 p 2q6n 0 0 1 n 2q6p 0 0 1 o 2q6r 0 0 1 q
  2q6r 0 0 1 p 2q6t 0 0 1 n 2q6v 0 0 1 o 2q6x 0 0 1 q 2q6x 0 0 1 p 2q6z 0 0 1 n 2q71 0 0 1 o
  2q73 0 0 1 q 2q73 0 0 1 p 2q75 0 0 1 n 2q77 0 0 1 o 2q79 0 0 1 q 2q79 0 0 1 p 2q7b 0 0 1 n
  2q7d 0 0 1 o 2q7f 0 0 1 q 2q73 0 0 1 p 2q75 0 0 1 n 2q77 0 0 1 o 2q79 0 0 1 q 2q79 0 0 1 p
  2q7b 0 0 1 n 2q7d 0 0 1 o 2q7f 0 0 1 q 2q7f 0 0 1 p 2q7h 0 0 1 n 2q7j 0 0 1 o 2q7l 0 0 1 q
  2q7l 0 0 1 p 2q7n 0 0 1 n 2q7p 0 0 1 o 2q7r 0 0 1 q 2q7r 0 0 1 p 2q7t 0 0 1 n 2q7v 0 0 1 o
  2q7x 0 0 1 q 2q7x 0 0 1 p 2q7z 0 0 1 n 2q81 0 0 1 o 2q83 0 0 1 q 2q83 0 0 1 p 2q85 0 0 1 n
  2q87 0 0 1 o 2q89 0 0 1 q 2q89 0 0 1 p 2q8b 0 0 1 q 2q8b 0 0 1 p 2q8d 0 0 1 q 2q8d 0 0 1 p
  2q8f 0 0 1 n 2q8h 0 0 1 o 2q8j 0 0 2 q 2q8x 2qat 0 0 2 p 2q8z 2qav 0 0 2 q 2q91 2qav 0 0 2 p
  2q93 2qax 0 0 2 q 2q95 2qav 0 0 2 p 2q97 2qax 0 0 2 q 2q99 2qav 0 0 2 p 2q9b 2qax 2 0 0 1 v 1
  3 2sov 0 p 1 9 2sn3 0 z 1 3 2sov 0 1 1 3 2chf 0 0 1 i 29x9 0 1 1 i 29wr 0 0 1 i 29xh 0 0 1 i
  29jn 0 0 1 i 1yag 0 0 1 g 29u3 0 0 1 g 29u1 0 0 1 g 29tz 0 0 1 g 29tx 0 0 1 g 29tv 0 0 1 g
  29qp 0 0 1 g 29qn 0 0 1 g 29ql 0 0 1 g 29sn 0 0 1 i 29k7 0 0 1 i 29un 0 0 1 i 29ul 0 0 1 i
  29uj 0 0 1 i 29uh 0 0 1 i 29uf 0 0 1 i 29q9 0 0 1 i 29ub 0 0 1 i 29u9 0 0 1 i 29qd 0 0 1 i
  29u5 0 0 1 i 29u3 0 0 1 i 29u1 0 0 1 i 29tz 0 0 1 i 29tx 0 0 1 i 29tv 0 0 1 i 29tt 0 0 1 i
  29tr 0 0 1 i 29tp 0 0 1 i 29tl 0 0 1 i 29tj 0 5 1 i 29th 0 0 1 i 29td 0 0 1 i 29t9 0 0 1 i
  29t5 0 0 1 i 29t1 0 5 1 i 29sx 0 0 1 i 29sv 0 0 1 i 29st 0 5 1 i 29sr 0 0 1 i 29sj 0 1 1 i
  29s9 0 0 1 i 2m4f 0 1 1 i 2m9t 0 0 1 i 2m0h 0 0 1 i 2m9v 0 1 1 i 2m0h 0 2 1 i 2m9z 0 5 1 i
  2m0j 0 0 1 i 2m97 0 2 1 i 2mad 0 0 1 i 2m91 0 9 1 i 2maf 3 5 1 i 2m69 2 5 1 i 2m6d 2 5 1 i
  2m6h 2 2 1 i 2m6l 3 1 1 3 2su3 0 0 1 3 2stn 0 0 1 3 2stj 0 0 1 3 2su3 0 0 1 3 2su7 0 0 1 3
  2g6x 1 0 1 i 2eh7 0 3 1 i 2fu9 0 0 1 i 2e8p 0 0 1 i 2e6d a 2 0 7f 8 1 2 2tgr 1e 0 1 2 2tk1 0 0
  1 2 2tjv 4 0 1 2 2tk5 6 0 1 2 2tkj 8 0 1 2 2tl9 0 0 1 2 2tlb 0 1 1 2 2tld 0 0 1 2 2tlf 0 0 1 2
  2tlh 0 0 1 2 2tlj 0 0 1 2 2tlf j 0 1 2 2tmj m 0 1 2 2to3 9h 0 0 0 8 1 2 2u73 1i 0 1 2 2ual 0 0
  1 2 2uaf 2c 0 1 4 23 0 0 1 4 1z 0 0 1 4 1t 0 0 1 4 1j 0 0 1 4 1d 2e 1 1 2 2ukf 19 13 1 8 28 3c
  9 1 2 2uvz 6 z 1 8 28 p0 2 1 2 2wct i 0 1 p 2 b 4 1 2 2wen 2 0 1 p 2 1 0 1 p 2 3 0 1 p 2 5 0 1
  p 2 1 0 1 p 2 1 0 1 p 2 1 0 1 p 2 1 0 1 p 2 7 0 1 p 2 a 3 1 2 2wh7 0 1 1 2 2wh9 26 0 1 2 2wlv
  0 0 1 2 2wlp p 0 1 2 2wnd 3 1 1 2 2wnj 2s 0 2 4 1s 18uf4 0 0 2 4 1s 18uf2 0 0 2 4 1s 18uf0 0 0
  2 4 1s 18uey 0 0 2 4 1s 18uew 0 0 2 4 1s 18ueu 0 0 2 4 1s 18ues 0 0 2 4 1q 18ues 0 0 2 4 1q
  18ueo 0 0 2 4 1q 18uem 0 0 2 4 1q 18uek 0 0 2 4 1o 18uek 0 0 2 4 1o 18ueg 0 0 2 4 1m 18ueg 0 0
  2 4 1m 18uec 0 0 2 4 1k 18uec 0 0 2 4 1k 18ue8 0 0 2 4 1k 18ue6 0 0 2 4 1k 18ue4 0 0 2 4 1k
  18ue4 0 0 2 4 1i 18ue4 0 0 2 4 1k 18udy 0 0 2 4 1k 18udw 0 0 2 4 1k 18udu 0 0 2 4 1k 18uds 0 0
  2 4 1i 18uds 0 0 2 4 1i 18udo 0 0 2 4 1g 18udo 0 0 2 4 1g 18udk 0 0 2 4 1g 18udi i 0 2 4 1
  18ucg f 8 1 2 2wwt 1w 0 1 2 2vvx 0 1 1 2 2tjr 1c 3 1 2 2x3x 1l 0 1 2 2x7b v 0 1 2 2x93 16 0 2
  4 1 18twy s 0 1 2 2w8f 0 0 1 2 2w7z 4 0 1 2 2xdf 0 0 1 2 2xd9 1t 0 2 4 1 18tr8 15 3 1 2 2xjh s
  3 1 2 2xl9 19 3 1 2 2xnz 2c 0 2 4 1 18tfi 2 0 2 4 1 18tfc 3 0 2 4 1 18tf4 1 0 2 4 1 18tf0 1 0
  2 4 1 18tew 1 0 2 4 1 18tes 1 0 2 4 1 18teo 1 0 2 4 1 18tek 2 0 2 4 1 18tee 1 0 2 4 1 18tea 1
  0 2 4 1 18te6 1 0 2 4 1 18te2 1 0 2 4 1 18tdy 1 0 2 4 1 18tdu 5 0 2 4 1 18tdi 1 0 2 4 1 18tde
  1 0 2 4 1 18tda 1 0 2 4 1 18td6 2 0 2 4 1 18td0 4 0 2 4 1 18tcq 1 0 2 4 1 18tcm 1 0 2 4 1
  18tci 1 0 2 4 1 18tce 1 0 2 4 1 18tca 4 0 2 4 1 18tc0 1 0 2 4 1 18tbw 1 0 2 4 1 18tbs 1 0 2 4
  1 18tbo 1l 0 1 8 3k 0 0 2 a 3i 18t8e 0 7 1 8 3k 0 0 2 a 3i 18t7w 0 0 2 a 3g 18t7w 0 4 1 8 3k 0
  0 2 a 3i 18t7i 0 9 1 8 3k 0 0 2 a 3i 18t6w 0 0 1 8 3k 0 0 2 a 3i 18t6s 0 0 2 a 3g 18t6s 0 2 1
  8 3k 0 0 2 a 3i 18t6i 0 6 1 8 3k 0 0 2 a 3i 18t62 0 0 1 8 3k 0 0 2 a 3i 18t5y 0 4 1 8 3k e 0 2
  4 1 18t4u 8 0 2 4 1 18t4c 0 0 2 4 3 18t4c 5 0 2 4 1 18t3y a 0 2 4 1 18t3c 1 0 2 4 1 18t38 0 0
  2 4 3 18t38 3 0 2 4 1 18t2y 7 0 2 4 1 18t2i 1 0 2 4 1 18t2e c 0 1 2 2y6p 0 0 1 2 2y6j 14 0 1 2
  2x4d 0 0 1 2 2x4f 0 0 1 2 2x4h 0 0 1 2 2x4j 8 9 1 2 2y9r 86 8 1 2 2yql 1u 0 1 2 2wfh 0 0 1 2
  2wfl 2c 0 1 p 1 1 0 1 p 1 2 0 1 p 1 8 0 1 p 1 0 0 2 4 3 18s82 2 0 2 4 1 18s7w 2 0 1 p 1 0 0 2
  4 3 18s7o 3 0 1 p 1 0 0 2 4 3 18s7e 0 4 1 2 2z13 5 0 2 4 15 t t 0 2 4 7 18s54 0 0 1 2 2xy7 0 0
  1 2 2xy9 0 0 1 2 2xyt 0 0 1 2 2xyv 0 0 1 2 2xyx 0 0 1 2 2xyh 0 0 1 2 2xz1 0 0 1 2 2xyl 0 0 1 2
  2xyn 0 0 1 2 2xyp 0 0 1 2 2xyr 0 0 1 2 2z3z 37 3 1 2 2zaf 19 0 2 4 v p 9 0 1 2 2vwf 0 1 1 2
  2vwd 27 8 1 2 2zi9 b 9 1 2 2zjf g 0 1 2 2w3j 0 1 1 2 2w3h 1j 0 1 2 2w3f 2 0 0 f 0 0 y 9 1 2
  2zr3 6 0 1 2 2wan 0 1 1 2 2wal 1f 9 1 2 2zuz 1f 0 1 2 2wdp c 0 1 2 2whr 0 1 1 2 2whp 1y 0 1 2
  2w7p 0 0 1 2 2wij 4 0 1 2 2wm5 0 9 1 2 303j 7 8 1 2 304f 22 0 1 2 2wrn 1 0 1 2 2woj 0 0 1 2
  2xu3 6 0 1 2 2xuf 4g 0 1 2 2x15 9 0 1 2 2wyh 6 9 1 2 30jj 6 0 1 2 2x2z 0 0 1 2 2x35 0 1 1 2
  2x33 1j 0 1 2 2x31 0 0 1 2 2x33 15 6 0 3 4 0 5q 0 1 2 2xl1 0 1 1 2 2xkz 0 0 1 2 2xhv 9 9 1 2
  3133 4 0 1 2 2x8f 2o 0 1 2 2xrx 0 1 1 2 2xrv 1 0 1 2 2xot c 9 1 2 31a7 6a 0 1 2 2y5z 0 1 1 2
  2y5x 1 0 1 2 2y2v n 0 2 4 4r 18pjk 0 0 2 4 4t 18pjk 0 0 2 4 4t 18pjg 0 0 2 4 4t 18pje 0 0 2 4
  2b 18pjc 0 0 2 4 2b 18pja 2n 1 1 2 2yd1 1 0 1 2 2ydb f 9 1 2 31vj 29 1 1 2 2yj5 a 0 1 2 2ygl 8
  9 1 2 321r 1n 0 2 4 1 18p2u g 0 2 4 1 18p1w 3 0 2 4 z 18p1o l 9 1 2 327z 71 1 1 2 2z55 1 0 1 2
  2z23 2t v 1 8 1s w 9 1 2 32vz 29 0 1 2 2zjl 0 0 1 2 2zjr 6 0 1 2 2zgt c 9 1 2 3327 3o 1 1 2
  2zsn 2b 0 1 2 2zu5 1 0 1 2 2zxl 0 0 1 2 2zxn 0 0 1 2 2zxp 0 1 1 2 2zxn 0 0 1 n t 0 3 1 p x 1z
  1 1 n j 0 0 1 n h 0 0 1 n f 0 1 1 p 2j 0 0 1 p 2f 0 0 1 p 1v 0 1 1 p 1p 0 0 1 p 1j 0 1 1 p 15
  0 0 1 p 13 0 0 1 p 11 0 0 1 p 1h 0 1 1 2 302v bo 0 1 2 30qf 0 1 1 2 30qd h 9 1 2 348v 0 8 1 2
  349d 2a 0 1 2 30x1 0 0 1 2 30x7 3t 1 1 2 314r 0 0 1 2 311n 0 0 1 2 3151 2 0 1 n 1r 0 0 1 p 1t
  8 9 1 2 34n3 1n 1 1 2 319h 9 9 1 2 34rj 192 7 1 2 37a3 0 6 1 2 37ah 0 5 1 2 37at 0 8 1 2 37bb
  0 4 1 2 37bt 0 1 1 2 37c1 0 6 1 2 37c3 0 2 1 2 37cl 0 2 1 2 37cn 2 2 1 2 37d1 0 2 1 2 37d3 0 0
  1 2 37d9 0 1 1 2 37db 0 0 1 2 37dd 0 0 1 2 37df 0 0 1 2 37dh 0 1 1 2 37df 0 0 1 2 37dh 0 1 1 2
  37dj 0 1 1 2 37dl 0 0 1 2 37dn 0 0 1 2 37dp 0 0 1 2 37dr 0 4 1 2 37e7 0 3 1 2 37ej 0 1 1 2
  37el 0 0 1 2 37en 0 1 1 2 37ev 0 1 1 2 37f1 f 5 1 2 37ft 341 8 0 ap3 9 1 2 3z33 6e 9 1 2 3zgf
  km v 1 8 1s w 9 1 2 40pr a 0 2 4 40qt 17qhk 0 0 2 4 40qt 17qhi 0 0 2 2 40qt 17qhg 33 0 1 4 3 c
  0 1 4 5 h 0 1 4 3 p 0 1 4 3 4k 0 0 cnv 0 1 h 0 9b 2 1 d 0 h 2 1 f 13 0 0 1 f 4813 27p 0 1 2
  4ufz 0 0 1 2 4udr 1 3 0 43l 4 0 3 l 0 2 6 0 u 3 0 44 2 0 4b 9 1 2 54db 3a 8 1 2 54kd 9 4 1 2
  54ld 0 0 1 2 54ln 0 0 1 2 54lh 3r p 1 b 54ql 0 p 1 5 54s1 0 p 1 b 54th 0 6 1 5 54ux 1 h 1 5
  54ux 0 p 1 b 54wd 0 p 1 5 54xt 0 0 1 b 54z9 1 1 1 b 54z9 2 0 1 b 54z9 2 1 1 b 54z9 2 3 1 b
  54z9 1 7 1 b 54z9 0 3 1 5 550p 1 0 1 5 550p 1 6 1 5 550p 1 a 1 5 550p 0 p 1 b 5525 0 p 1 5
  553l 0 1 1 b 5551 1 3 1 b 5551 2 7 1 b 5551 1 6 1 b 5551 1 p 1 5 556h 0 1 1 b 557x 1 3 1 b
  557x 1 4 1 b 557x 1 0 1 b 557x 3 6 1 b 557x 1 p 1 5 559d 0 p 1 b 55at 0 p 1 5 55c9 0 p 1 b
  55dp 0 p 1 5 55f5 0 p 1 b 55gl 0 p 1 5 55i1 0 p 1 b 55jh 0 p 1 5 55kx 0 p 1 b 55md 0 p 1 5
  55nt 0 p 1 b 55p9 0 p 1 5 55qp 0 0 1 5 55gl 0 0 1 5 5523 2 g 1 b 54h9 0 0 1 b 54ht 0 6 1 b
  54h9 0 0 1 5 4sj7 0 g 1 5 54ip 0 0 1 5 54in 0 6 1 5 54ip 0 0 1 5 4skx 0 0 1 5 54jx 0 0 1 5
  54jt 0 0 1 5 54jr 0 0 1 5 54j5 0 0 1 5 54jh 0 0 1 5 54jl 0 g 1 b 54kh 0 0 1 b 54l1 0 6 1 b
  54kh 0 0 1 5 4smf 0 g 1 5 54lx 0 0 1 5 54lv 0 6 1 5 54lx 0 0 1 5 4so5 0 0 1 5 54n5 0 0 1 5
  54n1 0 0 1 5 54mz 0 0 1 5 54md 0 0 1 5 54mp 0 0 1 5 54mt 0 g 1 b 54np 0 0 1 b 54o9 0 6 1 b
  54np 0 0 1 5 4spn 0 g 1 5 54p5 0 0 1 5 54p3 0 6 1 5 54p5 0 0 1 5 4srd 0 0 1 5 54qd 0 0 1 5
  54q9 0 0 1 5 54q7 0 0 1 5 54pl 0 0 1 5 54px 0 0 1 5 54q1 0 g 1 b 54qx 0 0 1 b 54rh 0 6 1 b
  54qx 0 0 1 5 4ssv 0 g 1 5 54sd 0 0 1 5 54sb 0 6 1 5 54sd 0 0 1 5 4sul 0 0 1 5 54tl 0 0 1 5
  54th 0 0 1 5 54tf 0 0 1 5 54st 0 0 1 5 54t5 0 0 1 5 54t9 0 g 1 b 54u5 0 0 1 b 54up 0 6 1 b
  54u5 0 0 1 5 4sw3 0 g 1 5 54vl 0 0 1 5 54vj 0 6 1 5 54vl 0 0 1 5 4sxt 0 0 1 5 54wt 0 0 1 5
  54wp 0 0 1 5 54wn 0 0 1 5 54w1 0 0 1 5 54wd 0 0 1 5 54wh 0 0 1 b 54ux 0 0 1 5 54uz 2 9 1 5
  56bf 0 9 1 5 56bz 0 9 1 5 56cj 0 9 1 5 56d3 0 9 1 5 56dn e8 1i 0 4 1d 0 8 0 0 e 0 0 m 4 0 1 e
  0 11s 6 1 4 4s67 1 g 1 4 4s67 2 6 1 4 4s67 1 1 1 4 4s67 1 4 1 4 4s67 79 0 1 2 1alz 0 0 1 2
  1am9 0 1 1 2 1am7 0 1 1 2 1am5 0 0 1 2 1amh 9 9 1 2 5a1r bq 9 1 2 5apr 159 8 1 2 5d0r 0 6 0 15
  x 1 8 1w z 0 1 2 1 0 0 1 2 3 9 9 1 2 5d8f lz 8 1 2 5egv 15 8 1 2 5ejn 5 0 2 4 5ekf 16cny 0 0 2
  4 5ekf 16cnw 26 8 1 2 5eov 11 0 2 4 5erd 16cgy 0 0 2 4 5erd 16cgw 0 0 2 4 5erd 16cgu 0 0 2 4
  5erd 16cgs 0 0 2 4 5erd 16cgq 0 0 2 4 5erd 16cgo 0 0 2 4 5erd 16cgm 0 0 2 4 5erd 16cgk 5l 1 1
  5 5cq9 0 0 1 5 5cq3 0 0 1 5 5cpz 1 0 1 5 5cop 0 0 1 5 5cpz 0 0 1 5 5cqb 0 0 1 5 5cpt 0 0 1 5
  5cot 0 3 1 5 5cp9 0 0 1 5 5cqd 0 0 1 5 5cq3 0 0 1 5 5cpp 0 0 1 5 5cqf 0 0 1 5 5cpr 0 0 1 5
  5cqr 0 0 1 5 5cqn 0 1 1 5 5cr9 0 0 1 5 5cr5 0 0 1 5 5cr3 0 0 1 5 5cqt 0 0 1 5 5cqr 0 0 1 5
  5cqp 0 0 1 5 5cnv 0 0 1 5 5cjp 0 0 1 5 5cl5 0 0 1 5 5cnz 1 0 1 5 5cs1 0 0 1 5 5crv 1 0 1 5
  5cqh 2 0 1 5 5cs3 1 0 1 5 5cql 0 3 1 5 5cr1 0 0 1 5 5cs5 0 0 1 5 5crv 0 0 1 5 5crh 0 0 1 5
  5cs7 0 0 1 5 5crj 1 0 1 5 5csf 0 1 1 5 5ct1 0 0 1 5 5csx 1 0 1 5 5csl 1 0 1 5 5csh 6 0 1 5
  5ctn 4 0 1 5 5ctv 1 0 1 5 5csd 1 0 1 5 5cst 1 0 1 5 5cst 0 0 1 5 5ctx 0 0 1 5 5ctn 1 0 1 5
  5ctz 0 0 1 5 5ctb 1 0 1 5 5cu7 2 0 1 5 5cup 1 0 1 5 5cud 1 0 1 5 5cu9 1 0 1 5 5cn9 1 0 1 5
  5crj 1 0 1 5 5cvl 0 0 1 5 5cvf 1 0 1 5 5cu1 2 0 1 5 5cvn 0 0 1 5 5cv5 0 0 1 5 5cu5 0 0 1 5
  5cul 1 1 1 5 5cul 0 0 1 5 5cvp 0 0 1 5 5cvf 0 0 1 5 5cv1 0 0 1 5 5cvr 0 0 1 5 5cv3 1 0 1 5
  5cvz 0 1 1 5 5cwl 0 0 1 5 5cwh 1 0 1 5 5cw5 0 0 1 5 5cw3 0 0 1 5 5cw1 0 0 1 5 5ct7 1 0 1 5
  5cqh 1 1 1 5 5cxd 0 0 1 5 5cx7 0 0 1 5 5cx3 0 1 1 5 5cvt 0 0 1 5 5cx3 0 0 1 5 5cxf 0 0 1 5
  5cwx 0 0 1 5 5cvx 1 2 1 5 5cwd 0 0 1 5 5cxh 0 0 1 5 5cx7 0 0 1 5 5cwt 0 0 1 5 5cxj 0 0 1 5
  5cwv 0 0 1 5 5cxv 0 0 1 5 5cxr 0 1 1 5 5cyd 0 0 1 5 5cy9 0 0 1 5 5cy7 0 0 1 5 5cxx 0 0 1 5
  5cxv 0 0 1 5 5cxt 5 0 1 5 5cz5 0 0 1 5 5cyz 0 0 1 5 5cyv 1 0 1 5 5cxl 0 0 1 5 5cyv 0 0 1 5
  5cz7 0 0 1 5 5cyp 0 0 1 5 5cxp 1 2 1 5 5cy5 0 0 1 5 5cz9 0 0 1 5 5cyz 0 0 1 5 5cyl 0 0 1 5
  5czb 0 0 1 5 5cyn 0 0 1 5 5czn 0 0 1 5 5czj 0 1 1 5 5d05 0 0 1 5 5d01 0 0 1 5 5czz 0 0 1 5
  5czp 0 0 1 5 5czn 0 0 1 5 5czl g4 0 2 4 5g9r 5g9v 0 0 2 4 5g9t 5ga1 0 0 2 4 5g9t 5ga3 0 0 2 4
  5g9t 5ga5 0 0 2 4 5g9t 5ga7 0 0 2 4 5g9t 5ga9 0 0 2 4 5g9t 5gab 0 0 2 4 5g9t 5gad 0 0 2 4 5g9t
  5gaf 0 0 2 4 5g9t 5gah 0 0 2 4 5g9t 5gaj 0 0 1 6 5gad 0 0 1 6 5gaf 3 0 3 0 5gb3 4 5g7x a 5gb1
  4 0 0 3 0 5gb5 4 5g7x a 5gb3 4 0 0 3 0 5gb7 4 5g7x a 5gb5 4 0 0 3 0 5gb9 4 5g7x a 5gb7 4 0 0 3
  0 5gbb 4 5g7x a 5gb9 4 0 0 3 0 5gbd 4 5g7x a 5gbb 4 0 0 3 0 5gbf 4 5g7x a 5gbd 4 0 0 3 0 5gbh
  4 5g7x a 5gbf 4 0 0 3 0 5gbj 4 5g7x a 5gbh 4 0 0 3 0 5gbl 4 5g7x a 5gbj 4 0 0 3 0 5gbn 4 5g7x
  a 5gbl 4 0 0 3 0 5gbp 4 5g7x a 5gbn 4 0 0 3 0 5gbr 4 5g7x a 5gbp 4 0 0 3 0 5gbt 4 5g7x a 5gbr
  4 0 0 3 0 5gbv 4 5g7x a 5gbt 4 0 0 3 0 5gbx 4 5g7x a 5gbv 4 0 0 3 0 5gbz 4 5g7x a 5gbx 4 0 0 3
  0 5gc1 4 5g7x a 5gbz 4 0 0 3 0 5gc3 4 5g7x a 5gc1 4 0 0 3 0 5gc5 4 5g7x a 5gc3 4 0 0 3 0 5gc7
  4 5g7x a 5gc5 4 0 0 3 0 5gc9 4 5g7x a 5gc7 4 0 0 3 0 5gcb 4 5g7x a 5gc9 4 0 0 3 0 5gcd 4 5g7x
  a 5gcb 4 0 0 3 0 5gcf 4 5g7x a 5gcd 4 0 0 3 0 5gch 4 5g7x a 5gcf 4 0 0 3 0 4xez 4 5g8d a 4xex
  4 0 0 1 c 5g9b 0 0 1 c 5g8j 0 0 2 c 5g9f 5g9d 0 0 2 c 5g8d 5g87 1 p 1 t 5g9p 0 0 2 t 5gar 5g9z
  0 0 2 t 5gaj 5ga1 0 0 2 t 5ga9 5gb3 0 0 2 t 5gab 5gab 0 0 3 t 5gaj 5gaj 5ga7 0 0 2 t 5ga7 5gbb
  0 p 1 c 5gbh 0 0 2 k 5gc9 5gct 0 0 2 k 5gcb 5gct 0 0 2 k 5gcd 5gc3 3 p 1 t 5gd9 0 0 1 t 5gdv 0
  0 2 t 5geb 5gen 0 0 2 t 5gdz 5get 0 0 2 t 5gdv 5gev 0 0 2 t 5gex 5gev 0 0 2 t 5gdr 5gev 0 0 2
  t 5gev 5gej 0 0 2 t 5gez 5geh 0 0 4 t 5gf1 5ged 5ged 5gej 0 0 4 t 5gex 5ge9 5gez 5gez 0 0 2 t
  5get 5gf3 0 0 3 t 5gel 5gf3 5ge3 0 0 2 t 5gen 5gf1 0 0 2 t 5gen 5gev 0 0 3 t 5geh 5gep 5geh 0
  0 3 0 5gef t 5gep t 5gj3 s 0 0 2 t 5gef 5gel 0 0 2 0 5gi7 s 5gfh t 0 0 7 0 5gib s 5gez s 5gfj
  s 5gjb s 5gep t 5gfl s 5ger s 0 0 2 0 5gid s 5gf7 t 0 0 2 0 5gib s 5gf9 t 0 0 2 0 5gi5 s 5gfb
  t 0 0 3 s 5gid 5gir 5gil 0 0 3 s 5gib 5git 5gin 0 0 4 s 5gin 5gin 5giv 5gin 0 0 3 0 5gih s
  5git s 5gf9 t 0 0 4 0 5git s 5gir s 5giv s 5gfb t 0 0 1 s 5gg1 0 0 2 0 5gfv t 5gg5 s 0 0 3 0
  5gfx t 5gg5 s 5gfd t 0 0 6 0 5gfz t 5gfx s 5gjz s 5gff t 5gg5 s 5gfd s 0 0 8 0 5gft t 5gfn s
  5gff s 5gff s 5gft s 5gg7 s 5gff s 5gff s 0 0 3 t 5gfh 5gg3 5gfb 0 0 3 t 5gff 5gg5 5ggd 0 0 3
  t 5gff 5gft 5ggf 2b 0 2 s 4xl5 4xjp 0 0 2 s 4xnf 4xnf 0 0 1 s 4xnd d 0 1 s 4dxl 0 0 1 s 4goj 0
  0 1 s 4jnv 0 0 2 s 4xnd 4xkj 0 0 1 s 4lqn 0 0 1 s 4hkl 0 0 1 s 3yat 0 0 1 s 4hjv 0 0 1 s 4lpj
  0 0 1 s 4cfl 0 0 1 s 4835 0 0 1 s 4cn7 0 0 1 s 4k9p 0 0 1 s 4f1d 0 0 1 s 4kkh 0 0 1 s 4cm5 0 0
  1 s 4kcl 0 0 1 s 43b1 0 0 1 s 46it 0 0 1 s 3x83 0 0 1 s 4hnr 0 0 1 s 4jiv 0 0 1 s 48wz 0 0 1 s
  4dur 0 0 1 s 4dk5 0 0 1 s 4lzl 0 0 1 s 4lz5 0 0 1 s 3vsx 0 0 1 s 4fpn 0 0 1 s 4lxb 0 0 1 s
  4jn9 0 0 1 s 4dov 0 0 1 s 3wxr 0 0 1 s 4dyz 0 0 1 s 44td 0 0 1 s 44fl 0 0 1 s 4jmf 0 0 1 s
  4961 0 0 1 s 4c49 0 0 1 s 4c4d 0 0 1 s 46ix 0 0 1 s 4k99 0 0 1 s 4iyv 0 0 1 s 3vff 4 0 3 4
  4xuf 4c2v 4xud 0 0 3 4 4xuh 4m0f 4xuf 0 0 3 4 4xuj 4lt7 4xuh 0 0 3 4 4xul 4goj 4xuj 0 0 3 4
  4xun 48b9 4xul 0 0 3 4 4xup 4e03 4xun 0 0 3 4 4xur 45wd 4xup 0 0 3 4 4xut 4k43 4xur 0 0 3 4
  4xuv 4ctd 4xut 7 0 1 6 4f3l 0 0 1 6 4jpf 1we 9 1 5 5klb gvlz 0 0 u 2n 0 3k 6n 0"

/-- The characters, seen from `start`, with one form. -/
def sameForm (start : Nat) (form : Form) (steps : List Nat) : List (Nat × Form) :=
  steps.map fun step => (Text.shift start step, form)

/-- The characters, seen from `start`, each with its form. -/
def ownForms (start : Nat) : List Nat → List (Nat × Form)
  | step :: form :: rest => (Text.shift start step, form) :: ownForms start rest
  | _ => []

/-- The runs of the table that counts from the code point `next` on. -/
def variantRuns (next : Nat) : List Nat → List (Nat × Nat × List (Nat × Form))
  | gap :: more :: 0 :: rest =>
    (next + gap, next + gap + more, []) :: variantRuns (next + gap + more + 1) rest
  | gap :: more :: count :: 0 :: rest =>
    (next + gap, next + gap + more, ownForms (next + gap) (rest.take (2 * count))) ::
      variantRuns (next + gap + more + 1) (rest.drop (2 * count))
  | gap :: more :: count :: form :: rest =>
    (next + gap, next + gap + more, sameForm (next + gap) form (rest.take count)) ::
      variantRuns (next + gap + more + 1) (rest.drop count)
  | _ => []
termination_by table => table.length
decreasing_by all_goals simp only [List.length_drop, List.length_cons]; omega

@[irreducible] def variants : Text.RangeMap (List (Nat × Form)) :=
  .ofList (variantRuns 0 (Text.numbers36 variantTable.toList))

/-- The characters that a character is ordered as, if not as itself. -/
def variant? (n : Nat) : Option (List (Nat × Form)) :=
  (variants.find? n).map fun (into, targets) => match targets with
    | [(target, form)] => [(target + into, form)]
    | _ => targets

end Potfile.Collation.Root
