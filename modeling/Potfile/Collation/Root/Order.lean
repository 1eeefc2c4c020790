import Potfile.Text.Ranges

/-! # The order of letters

* `baseRank?`: the place of a character among those that differ in more than accents and case.
* `accentRank?`: the place of a mark among those that change a letter only a little.

Ranks count from one. Both orders are tables of runs of characters that follow each other: for
each run, where it starts as seen from the end of the run before, and how many more than one
character it holds.
-/

namespace Potfile.Collation.Root

/-- The runs of such a table, with the rank at which each starts. -/
def runs (rank behind : Nat) : List Nat → List (Nat × Nat × Nat)
  | step :: more :: rest =>
    (Text.shift behind step, Text.shift behind step + more, rank) ::
      runs (rank + more + 1) (Text.shift behind step + more + 1) rest
  | _ => []

def ranks (table : String) : Text.RangeMap Nat :=
  .ofList (runs 1 0 (Text.numbers36 table.toList))

def rank? (m : Text.RangeMap Nat) (n : Nat) : Option Nat :=
  (m.find? n).map fun (into, rank) => rank + into

/-- Characters in ascending order: blanks, punctuation, other symbols, signs of currencies,
    digits, and the letters of one script after the other. Of characters that differ only in
    accents, case or form, the table holds one. -/
def baseTable : String :=
  "i 4 6m 0 chw 1 cnn 0 coq 0 clb 0 cj2 0 clx 0 248 0 5pm 0 2wu 0 1bp 1 368 0 2 3 5l4 1 5ht 0 5i6
  0 2h 0 28 0 qe 0 12 0 66 0 50 0 2fky 0 2yv7 0 i6m 0 5 0 s 0 k 0 2 1 g6d 0 9o 1 56 1 ly 0 6c2 0
  a 0 1joq 0 f0 0 cu 0 26v6 0 3hv1 0 29hi 1 18vq 0 418v 0 2bi 0 acm 0 5hm 0 1bpc 0 1bob 0 i73 0
  23g 0 88 0 co 5 ge e 4ec 0 2 3 1tm 1 3j7 0 3gi 0 1e4 0 1k9e 0 1m0p 2 1kwc 0 1twn 0 72 0 1v8 0
  114 0 6tw 0 53ci 0 5d8f 0 72 0 hy4 0 g4h 0 ao 0 cy 0 4vu 0 2be 0 7s8 1 1bty 0 cu 0 1ki 0 14f6
  0 2ddi 0 50lh 0 5h0 0 i51 0 9es 0 6sb 0 2g 1 4vy 0 1ts 0 a 0 mv 0 1y2 0 6yg 0 8 0 gy 0 m 0
  1ax0 0 f0 0 co 0 25fm 0 1fo 0 uto 0 4cor 0 ion 0 hyq 0 2 0 ejj 1 1qz4 1 1jjd 1 1jea 1 1ldx 1
  1lo0 0 1oej 1 2z4 1 144 3 9w 1 1k9c 1 86 2 80 0 dw 0 11as 1 2ce 1 6m 1 72 1 78 1 6a 1 te 1 kq
  1 6y 1 du 1 ss 0 16g 1 uvq 1 3nxf 1 8hr 0 do 0 3k6 0 y0 0 e 0 2ne 1 hg 1 1k96 5 6 3 14n 0 yg 0
  11im 0 150 5 1m2 4 js 1 74 0 7i 0 16 1 b6 0 1t4 0 su 0 28w 1 2slj 1 2 6 5g6 3 u 0 hv 0 4 0 fm
  0 2ekq 0 39b 2 114 0 2o 0 23g 0 asg 4 37h7 0 cm8 3 1m 1 coh 0 cmq 3 5l0 0 qc 2 iqx 0 u 0 87 1
  2q 0 2 0 1m 0 2 0 5tk 3 2wq 1 3tc 1 136 3 2qo 1 6t l pz 1 1q 9 7j d 2l4 3 6 1 2 1 s 1 4 9 qk 9
  4 7 291g 1 2fdf 0 5la 0 1ql 3 ga1 0 i02 0 hzb 0 ch4 0 5j6 0 t 0 i67 0 19 0 cp2 0 4 0 a89 0
  1r7u 0 1top 0 2g 0 i56 0 i89 0 cp2 0 5ji 0 i8v 0 2 0 2h4 0 a6i 0 abz 0 aby 0 abz 0 aay 1 5k8 2
  10 0 5lf 1 6 0 1i 0 g 1 1j 0 4 0 68q 0 36 0 6bv 0 4 0 6 0 14 0 15 0 u 0 v 1 5fe 1 8 2 4 0 4 8
  6 1 4 1 20 4 1bhm 0 1rnt 1 6 0 58 0 2 0 4 0 4 0 2g 1 fe 3 io 0 66a 0 2shq c 2y9l 0 1r0u 2 2 0
  1qtb 0 6o 0 6q 0 lo 0 o 0 ke 0 50 0 k 1 1ptw 1 1pkn 6 ay 1 b1 0 2 5 6c 0 48 2 8 1 2x8o 7 4m 2
  2 4 pm 1 2t7t 2 4pz 3 2z4 2 13e 6 a 1 tg 7 6kw 0 1cli 1 1jhv 3 1jrw 0 9q 1 6w 0 zz8 0 4aa 4
  2d7 5 4 0 72s 2 6qh 0 43 6 90 3 20s 1 a6 1 4u 0 d 0 12 0 2 0 54 3 ta 0 o 0 p 1 m 0 2 0 5s 0 dw
  0 4 j 5y 0 ry 0 eq 0 8o 0 2ew 0 tpq 4 g 0 1bc 1 16mw 4 2a6x 0 2x4v 0 4m 0 um 0 zh 0 4g 0 uo 1
  v7 0 v6 0 4 0 uj 0 uc 0 beq 0 3k 0 3h 0 6no 1 i4n 0 ae 0 af 0 e d 4 3 1ulk 1 1uln 1 c 1 a 8 2
  g 6jk 9 1m8c x 5o 2 1i8 0 1vfb 0 1ia 0 es 1 6q 0 5d5a 1 5d53 1 bg 0 k 0 2ply 0 wn f 2obb 0 sm
  0 kq 0 78 5 2 0 30z8 7 8 g 30th 0 bi 0 2a 0 1p3w 3 k 1 2 0 1oj5 2 u 0 2 2 4 5 14 0 2 0 2 0 7e
  7 2 5 2 1 a 3 2lk 0 144 0 3et 1 1ory 2 16yy 0 2s3j v jm 9 i 8 alj 0 5g5m 0 5g5f 0 5gcc 0 53kj
  0 6 0 m 0 4 1 a 1 6 0 2 0 2 0 2 0 8 0 m 0 c 3 a 0 2 0 4 0 38 1 8 0 2 0 3 0 2 6 4 h 2 t 6 1f 2
  3 2 1 2 0 bvz 0 bvy 3 de5 0 7e 0 3u 0 1t 0 8n 2 62 0 2p 0 2a 0 29 0 d9i 0 ox 0 ow 2 pv 0 pu 5
  b3f 0 b3e 0 b3f 0 b3e 6 2 0 2 4 4 0 4 f 2 1 2 1 2 0 2 l 2 0 2 9 a 1 4 1 4 5 4 1 4 1 4 x 8 c kj
  0 ki y 8 5 8 p 8 s 4 6z 1e a a2 73 55a8 42 2 1i 55lh 1b g 1g 6 p c 33 51ak p 51bz w 2u6 1 2u9
  1y 2g 1c 4 u k f e8 3m 18 1q 8 v 4 d 2 2u 6 2s 2 46 4 v 2 2w cq 5 1xx 73 yz 5 5b 7 fm8 1r 49og
  2e 3bm5 1i 10io 8 36 g 4 2 2 c 6 0 2m 18 2k4 1 130m 3 a 0 1amq 0 6u7 6t k 12 4okz 2 4ol0 f x 0
  w z o 2 18 1 e t 8 c c 13 1a 1t 6 0 8k3 0 izi 0 76 0 142 17 8 2r o e 4 e 2 e 2 10 3kk 2b o d
  3pd 2 56 2 dc 5 8k lb 16o 3c 2 29 2 1e 68 4 6 2 a 6 i o e 6 i 2 q 6 1wt 5z g c 6 c 6 37 o 2g e
  b 14 b 8 1j g 9 c 13 g t 4 1 cwz e7 32 3 2s 7 2 d 2 1 4oj1 b p4 z qn 0 q 1 o 0 18 0 c 1 io 1
  d6 0 296g 0 2p75 5 kw 5 1pww 5 1pqj 2 30yi k 30ft 6 y 8 2cy a 5ja 2 6 2 2lkw l 2h37 0 2clk 1
  3w0 3 4pr z o 1 4 3 2 5 2 7 g i 2 4 10 0 jg h by 2 1u8 1 2i 2 4a 2 l8 0 1q 1 lt 2 al 4 10a 2
  60 3 1k 3 2i 2 1d0 4 2e 2 6g 2 2xo 1 2pt a 2f7 4 75g 9 45h a 2qy 8 wk0 6 18w 9 13n0 9 a30 14 k
  2 6 1 4q z i 6 2hux 6 4 z 35 0 34 9 3r 0 aga 1 24 e 1x4w 8 53k3 1 2m6 0 1wo 0 72 0 3kw 0 13y 0
  1kjy 0 18 0 7m 0 60 0 16 1 23yy 1 1als 1 4r5d 0 2y 0 3ia0 1 2 0 3iat 0 2 0 2 0 5q 0 58 1 j3n 0
  5 0 71 0 70 0 2 0 1xu 0 6u 0 ro 1 ro 1 e 0 dm 0 1q4s 0 1pq7 0 30zq 3 303n 0 3sm 0 51dy 0 4xxb
  7 2 g 51po 0 51pp 5 cv3 9 26 0 bb0 0 62w 0 5v1 0 1il2 0 1it1 1 1k64 0 1upv 1 1upo 0 1jy9 0 arh
  0 1usi 0 1vk5 0 vg 0 fn 0 axo 0 2h 0 5s 0 1il0 0 1ijz 0 aqj 0 bl 0 1tnm 0 1u3p 0 bb4 0 akx 0
  1tbg 1 1tll 0 bc 0 cbg 0 1gtw 0 1tx3 0 bb4 1 1ite 0 1inr 0 12 0 aqf 1 ar6 0 b2j 0 88 0 1tb2 0
  1i1x 0 bxx 0 bb6 0 1k5w 1 1uqh 0 as4 0 1jya 0 1e2h 0 gtz 0 gu2 0 gn9 0 ara 0 ar9 0 ar2 0 arb 0
  2 0 2 0 ar2 0 7t 0 ajb 1 3a 0 31 0 sd 0 1tw2 0 1l4 0 1fd 0 1il3 0 12 0 b1d 0 cja 0 1h7c 0 1u7d
  0 s2 0 1up4 0 1up5 0 6z 0 awq 0 apz 0 38 0 aly 0 1ij2 0 1t89 0 ap 0 hj 0 va 0 en 0 1tku 0 1t9b
  0 gle 0 q 0 1cse 0 bj 0 1t35 0 4m 0 2 0 x5 0 b2 0 hc 0 1teu 0 f 0 1ivx 0 air 0 ap0 0 1g 0 1iks
  0 1tbd 0 ap0 0 bhh 0 pk 0 alg 0 akj 0 4m 0 3h 0 20 0 tv 0 bb2 0 6o 0 b13 0 gww 0 1cj0 0 2 0 2
  0 1t1r 0 v9 0 v8 0 1t1q 0 1ilz 0 1im0 0 1tgf 0 gwc 0 gkt 0 1uoo 1 1uor 0 1uok 0 1jz9 0 apd 0
  1t8g 0 1tbp 0 1ta2 0 1t6x 0 1t7o 0 1tjh 0 dg 0 ub 0 bb2 0 5e 0 18 0 ap7 0 1uog 0 1a3 0 2 0 7t
  0 1tzf 0 sq 0 aks 0 2j 0 5e 0 anx 0 bt 0 1tk4 0 1ij9 0 ap5 0 3h 0 1uru 0 1hr 0 1tn7 0 1v4w 0
  1vh7 0 bb2 0 2 0 1k5y 0 1uof 0 aii 0 1k60 1 5 0 4 1 1k6b 0 1k5w 0 1uqd 0 ak6 0 2 0 1k60 0 1jyp
  0 1k0k 0 1m3 0 1ilr 1 62s 0 gln 0 1t4a 0 1t49 0 1ta6 0 1tex 0 an6 0 bbf 0 bbi 0 5k 0 1ig6 0
  1igx 0 18 0 b0n 0 1tga 0 2 0 98 0 1te1 0 gl8 0 he5 0 1u2i 0 4x 0 2 0 1t2r 0 4r 0 fb 0 b1 0
  1vhg 0 1uob 0 1uoa 0 1jr 0 1imd 0 al5 0 aq0 0 ann 0 aio 0 aip 0 aos 0 aot 0 gl6 0 gl7 1 1uom 0
  1uon 0 anc 0 and 0 1uoe 1 2 2 1uon 0 1uq4 0 1k7 1 1f 0 1txx 0 1tve 0 8g 0 1inh 0 16 0 aoh 0 3r
  0 b7c 1 b3p 0 1uoi 0 1k05 0 b0j 0 c4 0 ap0 0 ap1 0 th 0 bbg 0 ay1 0 gzg 0 5wj 0 az9 0 2 0 c4 0
  4l 0 1ta8 0 1t5t 0 th 0 bbg 0 1k6a 0 1k6b 1 48 0 1k20 1 1uoh 0 1uoa 0 1f1 0 1ilz 0 1g 0 1jzk 0
  1ev 0 1tbp 0 40 1 3l 0 1tec 0 1iuv 0 ajj 0 1e 0 anc 0 bgz 0 bbm 0 1im4 0 1ig7 0 ao3 0 gju 0 4
  0 5bj 0 b8j 0 tn 0 bbm 0 1irm 0 1cpt 0 gjx 0 tn 0 bhk 0 1k0g 3 d 2 1vi1 0 tm 0 3l 0 8n 0 bkk 0
  1jg4 0 1uuz 0 nb 0 bbi 0 au1 0 aym 0 1a 0 atv 0 5w 1 4j 0 gnq 0 1cks 0 1t43 0 ahs 0 atx 0 b0g
  0 b0h 0 c0 0 mj 0 1tqk 0 2 0 1tg1 0 1tg2 0 1kc 1 2 0 1kh 0 2 0 2 0 g 0 1th7 0 1tcu 0 2 0 2 0
  1te7 0 14 0 35 0 f0 0 4l 0 6y 0 9 0 2q 0 2p 0 1sy0 0 5s 0 4 0 1t6d 0 2a 0 2 0 af8 1 1iim 0
  1szt 1 p 0 bx 3 bq 1 12 1 ee 2 a1w 0 a1x 1 26 0 5p 0 5i 0 23 0 3v 0 3u 2 36 0 37 1 a1i 0 a1j 4
  a1a 0 9y3 0 1l 0 d 0 1d 0 a1a 0 9y3 0 37 0 3z 0 3 0 2 0 3w 4 a0y 0 a0z 0 1u7q 0 1u6h 0 65 0 7c
  0 g0g 0 2 0 2 0 2 0 2 0 2i 0 2h 0 2 0 2 0 2 0 2 0 2 0 1y 0 1x 0 2 0 2 0 1q 0 2 0 1t 0 2 0 2 0
  2 0 2 0 2 0 2 0 2 0 2 0 2 0 2 0 q 0 2 0 g59 0 g7k 0 2b 0 2 0 2 0 g5h 0 2 0 g7q 0 2d 0 g5d 0
  g5e 0 2 0 2 0 2 0 2 0 2 0 g5x 0 g78 0 1b 0 g5x 0 g5y 0 2 0 2 0 g65 0 g3q 0 2 0 2a 0 2 0 2 0
  g2v 0 9c 0 9 0 95 2 5a 0 5q 0 5p 0 5e 0 av 0 bc 0 1rsu 0 1s2n 0 1s0w 0 1rr5 0 5x 0 5l 0 1o 0
  1p 0 dk 0 1rqq 0 1rz1 0 5d 0 1s0i 0 1rp5 0 m 0 1roi 0 1rz1 0 1rz2 0 1rrd 0 1rv2 0 1rt1 0 1rsm
  0 1s47 0 4k 0 2z 0 1rz4 0 1s0t 0 1o 0 1rz4 0 1s0v 0 5c 0 28 0 1z 0 5 0 5 0 76 0 9 0 ch 0 9um 0
  9mz 0 5s 0 1l 0 q 0 b5 0 1s0m 0 1rqx 0 m 0 c3 0 82 0 1ru8 0 1s2d 0 d2 0 5b 0 27 0 20 0 50 0 71
  0 47 0 9s 0 bf 0 9g 0 9h 0 cq 0 71 0 25 0 3n 0 4c 0 7i 0 bx 0 ba 0 5h 0 5v 0 1s44 0 1rst 0 5h
  0 1ry2 0 1s2p 0 1d 0 5y 0 2 0 1rua 0 1rxh 0 2z 1 a6 0 2 0 49 0 e 0 5y 0 1rru 0 1s2x 0 1m 0
  1rx6 0 1rxd 0 5 0 2z 0 1s1g 0 2i 0 1rxx 0 1rxy 0 1s45 0 cq 0 1rre 0 1ry1 0 14 0 13 0 1rx6 0
  1rx1 0 2 0 5d 0 1b 0 1s4c 0 1s4d 0 1s0a 0 1bgh 0 1bj2 0 1s2z 0 1s0c 0 1s0d 1 3k 0 2d 0 1rz2 0
  1s0d 1 1s0c 0 2 0 1s0h 0 b6 0 a1 0 2 0 1rz6 0 1rz1 0 1rz2 0 1rz9 0 1rza 0 1rz5 0 2 0 2 0 2 0 2
  0 1ryq 0 1rvx 0 6e 0 4d 0 fk0 1a 2cwy 11 2nuz 0 b4u 0 b4v 0 b4u 0 b4v 0 b4u 0 b4v 0 b4u 0 b4v
  0 b4u 0 b4v 0 b4u 0 b4v 0 b4u 0 b3f 0 b4u 0 b6d 0 b4u 0 b4v 0 b4u 0 b4v 0 b4u 0 b4v 0 b4u 0
  b4v 0 b4u 0 b4v 0 b4u 0 b3p 0 b4u 0 b63 0 b4u 0 b4v 0 b4u 0 b4v 0 b4u 0 b4v 0 b4u 0 b4v 0 b4u
  0 b4v 0 b4u 0 b3z 0 b4u 0 b5t 0 b4u 0 b4v 0 b4u 0 b4v 0 b4u 0 b4v 0 b4u 0 b4v 0 b4u 0 b4v 0
  b4u 0 b4v 0 b4u 0 b4v 0 b4u 0 b4v 0 b4u 0 b4v 0 b4u 0 b4v 0 b4u 0 b4v 0 b4u 0 b4l 0 b4u 0 b57
  0 b4u 0 b4v 0 b4u 0 b4n 0 b4u 0 b4v 1 b4u 0 b4v 2 4 0 b4u 0 b4v 1 4l9 0 3 0 2 j 10 0 11 g 2j 0
  6k 9 2 1 2 0 2 2 2 0 2 4 2ucq l 2tkb n 4 1 s5 2 4c 0 3 0 4b 1 4a 0 e6 1 il 0 zm 1 4 0 zv 0 3w
  0 3x 0 4k 0 4 0 2 0 bi 5 ic 0 id 0 jy 0 1n 0 14 1 10d 2 4a 1 2 1 2 0 vk 0 c 1 10p 0 4s 1 2 0
  34 0 35 0 tw 0 1o 0 6 1 10z 1 4k 1 4 0 bm 1 16 1 4 0 i 0 ij 1 4u 5 u8 0 u9 2 56 0 5w 1 gj 1 58
  8 4q 0 5y 0 u 1 8 0 hc 0 e 0 c 0 zx 1 5m 2 56 0 5e 0 w 0 4 0 o 1 ib 1 5o 0 te 0 tf 0 54 0 ax 1
  5o 0 sm 0 yd 1 5m 0 uc 0 pb 0 5c 2 iu 0 yt 0 5a 1 ts 0 tt 1 se 0 sf 1 aa 1 dh 0 2j 0 5k 0 tk 0
  tl 0 ty 0 1r 0 xx 0 5m 3 bo 0 bp 1 sq 0 sr 0 sg 0 sh 4 9m 0 gf 1 gc 1 je 0 zh 0 68 3 9u 0 hi 0
  1s 0 zp 0 fy 1 hs 0 xv 0 6e 0 sk 0 sl 2 9 0 9m 2 g5 0 6k 0 4 0 2 0 3a 0 2d 0 7v 0 6u 7 qy 0 qt
  0 9c 1 gy 0 xx 1 76 2 2 1 89 2 1r 0 iw 2 hw 0 r5 0 9a 1 5z 0 2 1 4 0 3 0 2 2 2u 0 2v 1 2 2 2k
  0 2l 3 2 1 28 0 27 4 h2 a 2d o c1 0 1c 1 1f 2 1c 0 1d 3 1g 1 1j 0 1k 0 1l 2 u 0 v 0 m 0 e 1 15
  1 16 0 17 1 o 2 t 6 1e 0 n a 1e t o 1 epg b 2c 0 2d n 12 0 13 h i 0 au7 f au8 0 au9 f jk 3 a9m
  0 atf f ask 0 asl 7 as6 0 1dkq 5 1od9 7 ars 0 art 8 2 3 4 6 2 0 2 3 4 7 fs 3 a9m 0 apn f aos 0
  aot 7 aoe 0 aof 8 2 3 4 7 an4 0 an5 7 amq 0 amr 7 amc 0 amd 8 2 3 4 6 2 0 2 3 4 e 2 7 aja 0
  1dl6 5 1o4t n ai0 0 1dko 5 1o31 7 ahm 0 ahn 7 ah8 0 ah9 8 2 3 4 7 ag6 3 agd 7 afi 0 afj 7 af4
  0 1dlq 6 1o19 7 aeq 0 aer 7 1o0g 6 1o0t f 34 3 3b 7 2w 3 a9w 0 ad1 2 adm 6 2 6 2 6 2 6 2 6 2 6
  2 6 2 6 efx 0 1r2w 0 1r13 0 65 2 60 4 69 4 4o 0 4p 0 4o 0 4p 3 1r6i 0 1r6j 6 5i 0 5j 4 54 0 4
  0 5b 3 4u 0 4v 0 54 0 55 6 2 2 4k 0 4l 2 44 0 45 0 2 1 2 4 6 0 3i 0 7o6 0 m 1 1jau 0 g 0 1r3v
  0 9 1 12 0 c 1 1d 5 1m 1 1p 0 u 0 v 1 c 0 d 0 1r3g 0 1r3h 4 2s 0 8 6 4o 0 4p 0 4o 0 4l 1 4 l 2
  6 3i 0 3h 0 3g 0 3b 3 6 7 1m 1 1l 1 4 2 i 0 20 0 6m 0 3 0 5x 1 g 0 t 1 i 0 6 0 56 0 5z 1 c 0
  28 1 1a 0 3d j 2 5 3u 0 3v 0 2 0 4 0 24 0 1p 4 8 1 4 2 78 0 47 6 4o 0 4p 0 4o 0 4p 0 2 2 2 9
  54 0 55 b 2 6 2 0 4 4 d 0 i 7 1m 1 1p 0 2 2 2 2 32 6 4o 0 4p 0 4o 0 4l 1 4 l 2 5 2m 0 2n 0 2 1
  2 0 3a 0 3b 3 6 7 1m 1 1l 1 4 2 g 1 6o 0 47 5 6 2 2 2 z 0 y 0 6 1 6 1 6 1 6 0 2 0 6 2 2 0 4 0
  3 0 3 0 5 0 h 0 r 0 1e 3 8 4 6 2 2 3 i 0 2i 6 4o 0 4p 0 4o 0 4n 2 2 8 3e 0 3f 1 3c 0 3d b 2 8
  4 4 d 1 22 0 1n 7 1m 1 1n 2 2 3 e 1 2k 6 4o 0 4p 0 4o 0 4n 2 2 m 2 8 4 4 d 0 2c 0 1v 0 2u 1 6d
  0 3e 6 1m 1 1n 2 2 3 e 1 2k 3 4s 0 4t 2 4o 0 4p 0 4o 0 4n 2 2 u 2 0 4 4 d 1 7 0 g 0 4 0 37 0
  36 6 1m 1 1n 2 2 2 k 0 l 0 32 h 6 n 2 8 2 0 4 6 g 5 2 0 2 0 1e 0 13 0 12 0 1h 5 15 0 1q32 0 be
  q dx a ds 7 e7 4 a 0 cq 7 k 0 dr 0 165 6 22 0 23 3 2 r 50 1u 14zg m 2 0 2 d 2 d 8c v c 0 d 2
  4i 0 16 0 4v 1b s 2 1c 0 2b 9 y 0 z 3 3i h 2 w 2 0 6s 1a 2 8 2 0 5x 3 1u 1 1x 2 2 0 2 3 2 e 2
  5 4 1 9a 0 47 6 4o 0 4p 0 4o 0 4l 1 4 l 2 6 2 1 2 4 6 0 1s 1 1v 6 1m 1 1l 1 4 2 i 0 a 0 d2 1
  45 1g 10 0 1c 1 1f 0 18 0 2d d 7c 0 3z 1b 14 1 17 e 6 0 ai 1h 4 3 6 0 3k 1o 4 0 8 0 3a 9 1o 0
  3 0 2 0 1r 1 2g 0 2h q 6 0 4 9 wi 6 4 0 4 4 2k 0 2l 2 2 1 2 d 1g 0 1h 0 1g 0 1h 0 1g 0 1h d 2
  1 8 1 5e 7 4 12 w 0 2 0 11 6 4 0 i 0 j 2 4 0 qp 1i 4 0 hf 4 2 f 2 2 c b t 2 2bk 6 2 1 2 17 6 0
  2 1 2 0 8 1 4k 0 35 5 2 1 2 10 2 1 2 1 4 0 2tyh 7 1y 0 1z d 20 0 21 0 10 0 11 0 c 0 d 0 c 0 1c
  0 1r 0 c 0 1c 0 1r 0 u 0 v 1 u 0 v 0 6 7 2oj6 1a 2p 1 2m i 34 0 2kf 3 2 1 a 0 6 0 1u 0 1v 2 2
  2 2 1 1e 0 1f 0 1a 0 1b g g 0 h 4 q 0 70g 8 2 10 y 0 z 7 2 3 6 0 2yrh 1l a 5 8g 0 57 1 2 0 2 3
  1s 0 1t 0 2 0 2 0 4g 0 4l 0 2 k 2 0 2 2 2 i 4 4 1piu 1q 2 0 2 0 1c 1 1ph5 0 4e 0 23 0 2d 0 4e
  0 4f 0 4e 0 4d 0 4e 0 4f 0 4e 0 4f 0 4e 0 4f 0 4e 0 4d 0 4e 0 4f 0 4e 0 4f 0 4e 0 4f 0 4e 0 4d
  0 4e 0 4f 0 4e 0 4f 0 4e 0 4f 0 4e 0 4d 0 4e 0 4f 0 4e 0 4f 0 4e 0 4f 0 4e 0 4d 0 4e 0 4f 0 4e
  0 4f 0 4e 0 4f 0 4e 0 4d 0 4e 0 4f 0 4e 0 4f 0 4e 0 4f 0 4e 0 4f 0 4e 0 4f 0 4e 0 3x 0 j 0 4e
  0 4f 0 4e 0 4f 0 4e 0 4f 0 4e 0 4f 0 4e 0 4f 0 4e 0 2p 0 8 0 9 0 8 0 5 0 4 0 b 1 1h 2 o 1 r 9
  c 0 2xak 0 24 0 25 11 2r a 2a 0 10 0 g 3 a 1 d 0 2 0 3 0 2 1 4 1 24 0 25 11 2 1 12 0 6 0 q0 0
  1q 0 1r 0 1q 0 1r 0 1q 0 1r 0 1q 0 1r 0 1q 0 1r 0 1q 0 1r 0 1q 0 1r 0 1q 0 1r 0 1q 0 1r 0 1q 0
  1r 0 1q 0 1r 0 1q 0 1r 0 1q 0 1r 0 1q 0 1r 0 1q 0 1r 0 1q 0 1r 0 1q 0 1r 0 1q 0 1r 0 1q 0 1r 0
  1q 0 1r 0 1q 0 1r 0 1q 0 1r 1 1q 0 1r 0 1q 0 1r 0 1q 0 1r 0 1q 0 1r 0 1q 0 1r 0 1q 0 1r 0 1q 5
  2tex 9 3q 2 3v g i 0 j 0 i 0 j 7 10 0 x f 1jbo 7 1u 3 21 b 12 0 13 3 w 0 8 0 17 0 1c 1 1f 1 12
  0 13 1 10 1 13 0 8 3 f 3 8 0 o 0 1ko7 s 6 b 8 8 vl c 2 6 m k m j o c 2 2 2 1 108 r 2v0o m 2uel
  0 2 0 4 0 2 0 2 0 2 0 4 0 2 2 2 0 2 0 2 0 4 0 2 1 2 5 2 0 2 1 2 0 2 0 2 3 1jso z 43 w 1oid 0
  6g 0 6h 0 6g 0 6h 0 6g 0 1osw 0 6n 0 1ost 0 1os8 0 i 0 1ost 0 4q 0 4r 0 6c 0 1osw 0 1ozb 0
  1os4 0 74 0 1i 0 1p0v 0 1oza 0 6p 0 1omd 0 1ots 0 1p05 0 4k 0 1ong 0 76 0 6p 0 1onr 0 1ovu 0
  1p0t 0 68 0 1ot0 0 71 0 1osb 1 1oz8 0 1oz9 0 1oz8 0 1oz9 0 1oz8 0 6v 0 1osf 0 1oz8 0 6v 0 1osf
  0 58 0 1omg 0 m 0 1osf 2 5s 0 1on2 0 1osx 0 1oz0 0 65 0 1osx 0 5q 0 1ot8 0 1ouz 0 43 1 5o 1
  1otc 0 1osj 0 1oky 0 1orn 0 5q 0 1omy 0 1osr 0 1ora 0 1e 0 1osr 0 3u 0 3v 0 1s 0 1t 0 1oz2 0 c
  0 1oxp 0 1t 0 3q 0 3r 0 1q 0 3s 0 5 0 2p 1 12 0 3z 0 1oyi 0 1oyj 0 5e 0 1ot2 0 1owv 0 1owu 0 4
  0 1oyr 0 1os2 0 1oot 1 y 1 l 0 3v 5 2e 3 2l 3 2 0 4s 0 z 0 2a 0 67 0 3q 0 3r 0 8 0 9 0 3q 1 3t
  0 22 3 29 0 4k 0 4f 0 4e 0 4n 0 5w 0 5v 0 2i 0 8 1 1omw 0 1olb 0 4b 1 28 1 8 4 1e 0 6 0 7 0 6
  1 9 1 8 0 k 1 1ose 2 j 2 12xe 0 1k 4 1t r a 1 1j2 w 1y 0 1z 2 1m 0 1n b 10 1 13 1 2qnd y 36 0
  37 g 4 f o 0 l6 t 4 4 m 17 8 p 4s 18 c 0 1a 0 19 2 8 2 z 5 s 0 k 0 l 1 2 5 6 1 6 0 7 2 b 0 r 0
  1kqm 14 k 3 r 9 q d 1klt e 2q 1 2t e 20 0 21 4 1s 0 1t 7 1e 0 1f 2 1a 1 1d 0 2 f 1k72 12 12 0
  13 0 12 0 11 5 2 0 e 0 d 3 6 0 7 1 8 0 1ldt 6 3r 0 1z 0 5o 0 5p 0 1w 0 1c 0 3b 0 1w 0 1c 0 14
  0 14 0 2b 0 3d 0 1w 0 1x 0 1w 0 1e 0 3d 0 1w 0 1x 0 1w 0 18 0 37 2 1s 0 1a 0 26 0 w 0 6b 0 1s
  0 1t 0 1s 0 1e 0 39 0 1s 0 1t 0 1s 0 16 0 2y 0 2z 0 33 0 1s 0 1t 2 2y 0 2w 1 8 0 2 1 6f 0 1m 0
  1a 0 2z 0 1m 0 1a 0 2z 0 1m 0 1o 0 c 0 1l 0 2k 0 4t 0 1m 0 18 0 o 0 3n 0 1o 0 1k 0 3b 0 3e 0
  3f 0 1m 0 1n 0 2q 0 k 0 3d 0 1k 0 m 0 w 0 14 0 4d 1 1a 0 1e 0 2r 0 2q 0 1b 0 12 0 2l 0 1g 0 12
  0 2l 3 1a 1 14 0 1i 0 y 0 z 1 w 0 x 1 e 0 e 0 v 0 u 0 v 1 14 0 15 0 s 0 t 0 6 0 7 1 s 1 4 0 3
  0 1gg z 1kh0 27 1nyn 5 2n5g z 2n79 ai 2 0 de 0 df f ck 0 cl 7 c6 5 ch g 2d 0 2c 5h k 8 v4 1x
  yx p a 0 2 0 6 0 2 0 46 0 3v 3 3g 0 39 0 2 1 6 0 4 0 2u 0 2t 0 2 0 2 3 26 0 1z 0 4 0 6 0 1q 0
  1r 0 4 0 2 0 2 1 12 0 43 0 48 0 49 0 48 0 4r 0 3c 0 4 0 2f 0 2e 0 7 1 4 1 2p4i 0 2 7 4 4 2 9 2
  0 4 2 2 6 2 0 2 4 dh 0 2 1 2 2 2 0 2 0 2 0 2 0 2 0 2 1 2 0 2 0 2 0 2 0 2 0 2 4 2 0 2 0 2 0 2 1
  2 3 2 0 2 0 2 0 2 0 2 3 2 0 2 0 2 0 2 1 14sx 7g 86 27 249s fs 8e t 1des 5g 1ccp v 1cg4 x e 0
  56l3 2m 1o1u s 1o3f 20 268g m 269p 2f 2652 1c 1u9h 0 2 0 2 0 47lg 0 47lf 0 2 0 46 0 41 0 2 0
  3w 0 3r 0 2 0 2 0 2 0 2 0 2 0 2 0 2 0 2 0 4 0 2 0 2 5 4 0 4 0 4 0 4 0 4 5 2 0 2 0 2 5 4802 2
  47zz 0 47h8 c r 0 q 7j 47qr 2 94 0 95 0 1u 0 1v 2 1y 0 1z 2 1k 0 76 0 8t 3 1e 0 7y 1 9h 6 8s 2
  8x 1 7o 0 7p 1 7g 0 7h 6 7u 0 7v 0 7o 1 7r 3 6 0 80 1 17k0 wc 5y 3 2 0 3 0 2h p 2 0 2 0 7 0 2
  0 1chy 0 1chx 9 27tc 3 3m 0 3n 1 2 6 38 0 39 1 38 0 39 2 2 g 2 c 14 0 15 0 10 0 11 5 u 0 v 4 2
  4 m 3 9 0 8 4 28 0 29 3 24 0 25 3 1y 0 1z 4 1s 0 1t 7 y 0 e 0 1f 4 q 0 r 1 w 0 7 0 r 9 w g y81
  0 3j v ru 6 1j k e 1 2 4 b 0 a 0 k 0 4 0 3 0 n 0 4 0 9 0 4 0 m 0 4 0 9 0 4 0 l 0 2 0 7 0 2 0 e
  0 4 0 z 0 4 0 a 0 vmm 1b w 1 1u k a i 1ae8 18 k 4 10 0 ki 17 2gnr s 6 1c 2hq p 2gj e w 0 x f s
  t ca 2f 20hs 2y a c 6 8 e 9 20qb t 5g 13 g 1f 4ig o zam u 160t b 2 p 2 i 2 1 2 e 4 d 1w 3e 1ze
  8m i l k 7 8g 5 4 0 2 17 2 1 6 0 4 0 u8 s 6 s 5i 19 2 6 14b c 2 8 k 0 2 2 2 4 2 0 2 0 2 0 2 0
  2 6 2 1 3m i 2 1 a3 l 15g l k i q h 1p8 l 223 7 2 r 1me 0 2 0 2 1 2 7 4 1 2 1 4 2 16 k ax w u
  0 v 7 g 0 h 0 ek k 4uh t 4 z 8 7 b4w gy 6a 1 6d 34 4 5f cs 5f 48o tq gt9 f 2 6 c 1 1v 1 n28 g6"

/-- Marks in ascending order. Code points above the last character stand for differences
    that no mark makes. -/
def accentTable : String :=
  "19g 0 1r 1 13 0 3 0 a 0 9 0 i 0 5 0 32 0 39 0 4 0 h 0 6 0 2o 0 z 1 21 0 g 0 g 0 1q 0 9am 0 8ms
  1 hxn 0 2p 0 6 0 a 2 i 0 a 5 c 1 2 1 4 0 8 0 m 0 10 0 e 1 g2 0 1ryu 0 1ri7 9 2 0 c 0 3 0 b 0 4
  0 2oxo 0 2o05 0 2 0 4 0 4 0 2 0 2 0 4 1 15 1 12 0 qt 0 11k 0 j 0 113 0 11k 0 j 0 113 0 11k 0 j
  0 113 0 10q 0 u 1 11p 0 10q 0 1c 0 125 0 10q 0 u 0 11n 4 i 0 j 2 11o 0 11p 5 zs 0 12 1 8 0 5 1
  7 1 105 0 8w 0 1o f 9i 8 4ie 0 3 0 3 0 1mas 1 25fg 4 1dwe 0 a 0 7 2 59nf 0 3d 0 2 1 dw 0 6a 1
  6jm 0 1kak 0 1k3n 0 1l1w 0 1192 2 2zk 1 3h2 0 2xzp 0 f 6 6s 5 1plu 0 2 0 1pg1 0 1ote 2 1ofh 0
  2zk 2 11w 7 hz 2 3pig 6 1bai 3 4rrf 5 3ibk 1 3oeb 2 2 3 6 1 8 0 8 3 2gx2 0 18xdw 4"

@[irreducible] def baseRanks : Text.RangeMap Nat := ranks baseTable

@[irreducible] def accentRanks : Text.RangeMap Nat := ranks accentTable

def baseRank? (n : Nat) : Option Nat := rank? baseRanks n

def accentRank? (n : Nat) : Option Nat := rank? accentRanks n

end Potfile.Collation.Root
