import Potfile.Text.Ranges

/-! # Parts of characters

Many characters are the same as a sequence of others, as a letter with an accent is the same
as the letter and the accent behind it.

* `parts`: the sequence that a character is the same as.
-/

namespace Potfile.Text

/-- The Unicode property `Decomposition_Mapping`, applied until nothing changes, without the
    mappings to characters that only look alike. For each character the table tells how many
    code points lie in front of it, how many parts it has, and where each part lies, seen from
    the part before. -/
def mappingTable : String :=
  "5c 2 71 132 0 2 73 134 0 2 75 136 0 2 77 138 0 2 79 13i 0 2 7b 13m 1 2 7b 154 0 2 79 12u 0 2
  7b 12w 0 2 7d 12y 0 2 7f 13a 0 2 79 12m 0 2 7b 12o 0 2 7d 12q 0 2 7f 132 1 2 79 12i 0 2 79 12a
  0 2 7b 12c 0 2 7d 12e 0 2 7f 12g 0 2 7h 12q 2 2 7b 11y 0 2 7d 120 0 2 7f 122 0 2 7h 12e 0 2 7b
  11s 2 2 71 11a 0 2 73 11c 0 2 75 11e 0 2 77 11g 0 2 79 11q 0 2 7b 11u 1 2 7b 13c 0 2 79 112 0
  2 7b 114 0 2 7d 116 0 2 7f 11i 0 2 79 10u 0 2 7b 10w 0 2 7d 10y 0 2 7f 11a 1 2 79 10q 0 2 79
  10i 0 2 7b 10k 0 2 7d 10m 0 2 7f 10o 0 2 7h 10y 2 2 7b 106 0 2 7d 108 0 2 7f 10a 0 2 7h 10m 0
  2 7b 100 1 2 7f 10e 0 2 al 13a 0 2 8v 11i 0 2 ap 13e 0 2 8z 11m 0 2 at 15a 0 2 93 13i 0 2 at
  130 0 2 93 118 0 2 ax 132 0 2 97 11a 0 2 b1 13c 0 2 9b 11k 0 2 b5 13m 0 2 9f 11u 0 2 b7 13k 0
  2 9h 11s 2 2 bd 132 0 2 9n 11a 0 2 bh 136 0 2 9r 11e 0 2 bl 138 0 2 9v 11g 0 2 bp 152 0 2 9z
  13a 0 2 bt 13i 0 2 a3 11q 0 2 bt 12u 0 2 a3 112 0 2 bx 132 0 2 a7 11a 0 2 c1 134 0 2 ab 11c 0
  2 c5 14w 0 2 af 134 0 2 c7 12s 0 2 ah 110 2 2 cd 12s 0 2 an 110 0 2 ch 12u 0 2 ar 112 0 2 cl
  12y 0 2 av 116 0 2 cp 14u 0 2 az 132 0 2 ct 130 3 2 cz 12o 0 2 b9 10w 0 2 d1 14o 0 2 bb 12w 1
  2 d5 12i 0 2 bf 10q 0 2 d9 14m 0 2 bj 12u 0 2 dd 134 0 2 bn 11c 4 2 dl 12e 0 2 bv 10m 0 2 dp
  14i 0 2 bz 12q 0 2 dt 130 0 2 c3 118 3 2 e1 12i 0 2 cb 10q 0 2 e5 12m 0 2 cf 10u 0 2 e9 12w 0
  2 cj 114 2 2 eb 126 0 2 cl 10e 0 2 ef 14a 0 2 cp 12i 0 2 ej 12s 0 2 ct 110 0 2 el 124 0 2 cv
  10c 0 2 ep 126 0 2 cz 10e 0 2 et 148 0 2 d3 12g 0 2 ex 12q 0 2 d7 10y 0 2 ez 146 0 2 d9 12e 0
  2 f3 12o 0 2 dd 10w 2 2 f9 124 0 2 dj 10c 0 2 fd 126 0 2 dn 10e 0 2 fh 12a 0 2 dr 10i 0 2 fl
  12i 0 2 dv 10q 0 2 fp 12k 0 2 dz 10s 0 2 ft 146 0 2 e3 12e 0 2 ft 11y 0 2 e3 106 0 2 ft 11u 0
  2 e3 102 0 2 fx 126 0 2 fx 11q 0 2 e7 zy 0 2 g1 122 0 2 eb 10a 0 2 g5 12c 0 2 ef 10k x 2 ip
  13s 0 2 gz 120 d 2 j7 13g 0 2 hh 11o s 2 lz 13q 0 2 k9 11y 0 2 ln 13a 0 2 jx 11i 0 2 lf 12y 0
  2 jp 116 0 2 l7 12m 0 2 jh 10u 0 3 lb 12e 7 0 3 jl 10m 7 0 3 lf 12e d 0 3 jp 10m d 0 3 lj 12e
  8 0 3 jt 10m 8 0 3 ln 12e f 0 3 jx 10m f 1 3 mx 13i 7 0 3 l7 11q 7 0 3 n1 13g 5 0 3 lb 11o 5 0
  2 fr vw 0 2 e1 u4 2 2 n1 13e 0 2 lb 11m 0 2 mx 136 0 2 l7 11e 0 2 mt 14i 0 2 l3 12q 0 3 mx 14i
  1z 0 3 l7 12q 1z 0 2 31 iy 0 2 92 6s 0 2 ln 11g 3 2 nt 12s 0 2 m3 110 2 2 nn 12c 0 2 lx 10k 0
  3 oh 13m h 0 3 mr 11u h 0 2 h7 vq 0 2 fh ty 0 2 gb uq 0 2 el sy 0 2 ot 13w 0 2 n3 124 0 2 ox
  140 0 2 n7 128 0 2 ot 13o 0 2 n3 11w 0 2 ox 13s 0 2 n7 120 0 2 ot 13g 0 2 n3 11o 0 2 ox 13k 0
  2 n7 11s 0 2 op 134 0 2 mz 11c 0 2 ot 138 0 2 n3 11g 0 2 or 12y 0 2 n1 116 0 2 ov 132 0 2 n5
  11a 0 2 ot 12s 0 2 n3 110 0 2 ox 12w 0 2 n7 114 0 2 p5 146 0 2 nf 12e 0 2 p7 144 0 2 nh 12c 2
  2 q3 13c 0 2 od 11k 6 2 qx 13g 0 2 p7 11o 0 2 qt 150 0 2 p3 138 0 3 qd 12q 7 0 3 on 10y 7 0 3
  qh 12g 2 0 3 or 10o 2 0 2 ql 12o 0 2 ov 10w 0 3 qp 12o 5 0 3 oz 10w 5 0 2 q9 11y 0 2 oj 106 7g
  1 3j 0 1 3j 1 1 2n 0 2 3b d 1b 1 ad 9 1 1ad 6 2 14p xe 0 2 m 7z 0 1 13z 0 2 q 87 0 2 s 8b 0 2
  u 8f 1 2 12 8r 1 2 1a 93 0 2 1g 9b 0 3 2a 9t d p 2 x 81 0 2 b 8p 0 2 a 9r 0 2 g 9z 0 2 i a3 0
  2 k a7 0 3 16 ah d p 2 x 9t 0 2 b ah 0 2 p aj 0 2 f av 0 2 9 b3 4 2 1 bl 0 2 3 b7 17 2 16 fd 0
  2 14 ex 1 2 w f7 3 2 1 e3 4 2 s fl 0 2 m fj 0 2 16 ft a 2 1 f7 v 2 1 gz m 2 1h h5 0 2 1j gp 1
  2 1r gz 3 2 1 ij 4 2 1v hd 0 2 21 hb 0 2 1h hl n 2 3 jt 0 2 3 jv 21 2 9h f3 0 2 7r gv d 2 an
  er 0 2 8x gj 0 2 ar en 0 2 91 gf 2 2 ap f1 0 2 8z gt 2 2 3 pr 0 2 3 pt 0 2 az ez 0 2 99 gr 0 2
  b1 f1 0 2 9b gt 2 2 b7 fb 0 2 9h h3 0 2 bb f3 0 2 9l gv 0 2 b3 ff 0 2 9d h7 2 2 3 qn 0 2 3 qp
  0 2 al g9 0 2 8v i1 0 2 b9 fx 0 2 9j hp 0 2 bd fp 0 2 9n hh 0 2 bh fj 0 2 9r hb 0 2 bd fx 0 2
  9n hp 2 2 bd g5 0 2 9n hx 88 2 a 2g 0 2 8 2i 0 2 20 o 0 2 4 2k 0 2 20 k 49 2 16 75 1 2 1 61 g
  2 1 6z gl 2 1 14 7 2 1 o 2 2 1 i z 2 3p 26 0 2 3p 24 0 2 3p 22 0 2 3h 1s 0 2 39 1i 0 2 39 1g 0
  2 2t y 0 2 2n q 2z 2 7 h 0 2 9 w f 2 39 1i 0 2 39 1g 1 2 2n q 2b 2 1 k 2 2 4 8 y 2 3p 24 0 2
  3p 22 0 2 3h 1s 2 2 2t y 6h 2 1 u 2 2 7 h 0 2 9 w f 2 39 1i 0 2 39 1g 1i 2 3 3u 1h 2 7 f 0 2 7
  h 0 2 b y 3f 2 3 w 3b 2 1 18 6 2 1 u 0 2 3 w 1 2 7 7 0 3 9 7 12 3i 2 7 f 0 2 7 h 0 2 b y 3x 2
  1 t 1 2 5 j 0 3 7 j 9 0 2 9 c 9w 2 1 6i 9 2 1 5y 4 2 1 5o 4 2 1 5e 4 2 1 54 c 2 29 6i 9 2 3 2
  1 2 7 6 0 2 3c 2r 1 2 3a 2t 8 2 v u h 2 1 22 9 2 1 1i 4 2 1 18 4 2 1 y 4 2 1 o c 2 29 22 30 2
  1 i 25b 2 1 2o 1 2 1 2k 1 2 1 2g 1 2 1 2c 1 2 1 28 3 2 1 20 14 2 1 9 1 2 1 d 2 2 3 h 0 2 3 j 1
  2 1 p jg 2 br1 154 0 2 bpb 13c 0 2 br3 13e 0 2 bpd 11m 0 2 br7 14y 0 2 bph 136 0 2 brb 15q 0 2
  bpl 13y 0 3 brd 154 23 0 3 bpn 13c 23 0 2 brf 13a 0 2 bpp 11i 0 2 brj 14u 0 2 bpt 132 0 2 brn
  15m 0 2 bpx 13u 0 2 brr 152 0 2 bq1 13a 0 2 brv 15e 0 2 bq5 13m 0 3 brx 132 7 0 3 bq7 11a 7 0
  3 bs1 132 5 0 3 bqb 11a 5 0 2 bs5 15c 0 2 bqf 13k 0 2 bs9 15i 0 2 bqj 13q 0 3 bsd 150 1t 0 3
  bqn 138 1t 0 2 bsf 136 0 2 bqp 11e 0 2 bsh 12y 0 2 bqr 116 0 2 bsj 132 0 2 bqt 11a 0 2 bsn 14m
  0 2 bqx 12u 0 2 bsr 134 0 2 br1 11c 0 2 bsv 14u 0 2 br5 132 0 2 bsz 158 0 2 br9 13g 0 2 bt1
  15a 0 2 brb 13i 0 3 bt5 132 d 0 3 brf 11a d 0 2 bt5 12k 0 2 brf 10s 0 2 bt9 14g 0 2 brj 12o 0
  2 btd 158 0 2 brn 13g 0 2 btf 14e 0 2 brp 12m 0 3 btj 14e 1p 0 3 brt 12m 1p 0 2 btn 156 0 2
  brx 13e 0 2 btr 14y 0 2 bs1 136 0 2 btt 12g 0 2 bs3 10o 0 2 btx 12s 0 2 bs7 110 0 2 bu1 14c 0
  2 bsb 12k 0 2 bu3 12q 0 2 bsd 10y 0 2 bu7 14a 0 2 bsh 12i 0 2 bub 152 0 2 bsl 13a 0 2 buf 14u
  0 2 bsp 132 0 3 buh 12g 3 0 3 bsr 10o 3 0 3 bul 12g a 0 3 bsv 10o a 0 3 bup 12i 7 0 3 bsz 10q
  7 0 3 but 12i 5 0 3 bt3 10q 5 0 2 buv 12a 0 2 bt5 10i 0 2 buz 12m 0 2 bt9 10u 0 2 buz 12i 0 2
  bt9 10q 0 2 bv3 142 0 2 btd 12a 0 3 bv7 142 1p 0 3 bth 12a 1p 0 2 bvb 14u 0 2 btl 132 0 2 bvd
  12g 0 2 btn 10o 0 2 bvh 140 0 2 btr 128 0 3 bvl 124 c 0 3 btv 10c c 0 3 bvp 12q 9 0 3 btz 10y
  9 0 3 bvt 140 1j 0 3 bu3 128 1j 0 2 bvv 12e 0 2 bu5 10m 0 2 bvz 13y 0 2 bu9 126 0 2 bw3 14q 0
  2 bud 12y 0 2 bw7 14i 0 2 buh 12q 0 2 bw9 13y 0 2 buj 126 0 2 bwd 14m 0 2 bun 12u 0 2 bwh 14g
  0 2 bur 12o 0 3 bwl 124 3 0 3 buv 10c 3 0 3 bwp 126 8 0 3 buz 10e 8 0 2 bwr 122 0 2 bv1 10a 0
  2 bwv 13u 0 2 bv5 122 0 2 bwx 11u 0 2 bv7 102 0 2 bx1 11w 0 2 bvb 104 0 2 bx5 12a 0 2 bvf 10i
  0 2 bx9 128 0 2 bvj 10g 0 2 bxd 13s 0 2 bvn 120 0 2 bxf 126 0 2 bvp 10e 0 2 bxj 128 0 2 bvt
  10g 0 2 bxl 124 0 2 bvv 10c 0 2 bxn 11s 0 2 bvx 100 0 2 bxr 13m 0 2 bw1 11u 0 2 bxv 14e 0 2
  bw5 12m 0 2 bx7 13m 0 2 bwl 10o 0 2 bwh 10m 0 2 bwf 10i 1 2 bhz ls 4 2 bzx 150 0 2 by7 138 0 2
  c01 13k 0 2 byb 11s 0 3 c05 136 1 0 3 byf 11e 1 0 3 c09 136 3 0 3 byj 11e 3 0 3 c0d 136 e 0 3
  byn 11e e 0 3 c0h 136 2 0 3 byr 11e 2 0 3 c0l 150 1t 0 3 byv 138 1t 0 3 c0p 13e 9 0 3 byz 11m
  9 0 3 c0t 13e b 0 3 bz3 11m b 0 3 c0x 13e 6 0 3 bz7 11m 6 0 3 c11 13e 5 0 3 bzb 11m 5 0 3 c15
  150 1l 0 3 bzf 138 1l 0 2 c11 14s 0 2 bzb 130 0 2 c15 13c 0 2 bzf 11k 0 2 c19 130 0 2 bzj 118
  0 3 c1d 12y 1 0 3 bzn 116 1 0 3 c1h 12y 3 0 3 bzr 116 3 0 3 c1l 12y e 0 3 bzv 116 e 0 3 c1p
  12y 2 0 3 bzz 116 2 0 3 c1t 14s 1t 0 3 c03 130 1t 0 2 c1p 134 0 2 bzz 11c 0 2 c1t 14k 0 2 c03
  12s 0 2 c1l 148 0 2 bzv 12g 0 2 c1p 12s 0 2 bzz 110 0 3 c1t 12e 1 0 3 c03 10m 1 0 3 c1x 12e 3
  0 3 c07 10m 3 0 3 c21 12e e 0 3 c0b 10m e 0 3 c25 12e 2 0 3 c0f 10m 2 0 3 c29 148 1t 0 3 c0j
  12g 1t 0 3 c2d 13s 1f 0 3 c0n 120 1f 0 3 c2h 13s 1h 0 3 c0r 120 1h 0 3 c2l 13s z 0 3 c0v 120 z
  0 3 c2p 13s 1b 0 3 c0z 120 1b 0 3 c2t 13s g 0 3 c13 120 g 0 2 c2l 13w 0 2 c0v 124 0 2 c2p 12g
  0 2 c0z 10o 0 3 c2t 13g 1f 0 3 c13 11o 1f 0 3 c2x 13g 1h 0 3 c17 11o 1h 0 3 c31 13g z 0 3 c1b
  11o z 0 3 c35 13g 1b 0 3 c1f 11o 1b 0 3 c39 13g g 0 3 c1j 11o g 0 2 c35 11q 0 2 c1f zy 0 2 c39
  13o 0 2 c1j 11w 0 2 c3d 128 0 2 c1n 10g 0 2 c3h 11w 0 2 c1r 104 6 2 asd 8r 0 2 asf 8p 0 3 ash
  8r 11 0 3 asj 8p 13 0 3 asl 8r z 0 3 asn 8p 11 0 3 asp 8r 2m 0 3 asr 8p 2k 0 2 aul 6z 0 2 aun
  6x 0 3 aup 6z 11 0 3 aur 6x 13 0 3 aut 6z z 0 3 auv 6x 11 0 3 aux 6z 2m 0 3 auz 6x 2k 0 2 at1
  8z 0 2 at3 8x 0 3 at5 8z 11 0 3 at7 8x 13 0 3 at9 8z z 0 3 atb 8x 11 2 2 av9 77 0 2 avb 75 0 3
  avd 77 11 0 3 avf 75 13 0 3 avh 77 z 0 3 avj 75 11 2 2 att 93 0 2 atv 91 0 3 atx 93 11 0 3 atz
  91 13 0 3 au1 93 z 0 3 au3 91 11 0 3 au5 93 2m 0 3 au7 91 2k 0 2 aw1 7b 0 2 aw3 79 0 3 aw5 7b
  11 0 3 aw7 79 13 0 3 aw9 7b z 0 3 awb 79 11 0 3 awd 7b 2m 0 3 awf 79 2k 0 2 aul 97 0 2 aun 95
  0 3 aup 97 11 0 3 aur 95 13 0 3 aut 97 z 0 3 auv 95 11 0 3 aux 97 2m 0 3 auz 95 2k 0 2 awt 7f
  0 2 awv 7d 0 3 awx 7f 11 0 3 awz 7d 13 0 3 ax1 7f z 0 3 ax3 7d 11 0 3 ax5 7f 2m 0 3 ax7 7d 2k
  0 2 av5 9j 0 2 av7 9h 0 3 av9 9j 11 0 3 avb 9h 13 0 3 avd 9j z 0 3 avf 9h 11 2 2 axd 7r 0 2
  axf 7p 0 3 axh 7r 11 0 3 axj 7p 13 0 3 axl 7r z 0 3 axn 7p 11 2 2 avp 9v 0 2 avr 9t 0 3 avt 9v
  11 0 3 avv 9t 13 0 3 avx 9v z 0 3 avz 9t 11 0 3 aw1 9v 2m 0 3 aw3 9t 2k 1 2 axz 81 1 3 ay3 81
  13 1 3 ay7 81 11 1 3 ayb 81 2k 0 2 awd a3 0 2 awf a1 0 3 awh a3 11 0 3 awj a1 13 0 3 awl a3 z
  0 3 awn a1 11 0 3 awp a3 2m 0 3 awr a1 2k 0 2 ayl 8b 0 2 ayn 89 0 3 ayp 8b 11 0 3 ayr 89 13 0
  3 ayt 8b z 0 3 ayv 89 11 0 3 ayx 8b 2m 0 3 ayz 89 2k 0 2 ayl 9t 0 2 ayn 9r 0 2 ayh a1 0 2 ayj
  9z 0 2 ayh a5 0 2 ayj a3 0 2 ayh a9 0 2 ayj a7 0 2 ay9 al 0 2 ayb aj 0 2 ay1 ax 0 2 ay3 av 0 2
  axx b5 0 2 axz b3 2 3 azh 8r 2s 0 3 azj 8p 2q 0 4 azl 8r 11 3u 0 4 azn 8p 13 3u 0 4 azp 8r z
  3s 0 4 azr 8p 11 3s 0 4 azt 8r 2m 6 0 4 azv 8p 2k 6 0 3 b1p 6z 2s 0 3 b1r 6x 2q 0 4 b1t 6z 11
  3u 0 4 b1v 6x 13 3u 0 4 b1x 6z z 3s 0 4 b1z 6x 11 3s 0 4 b21 6z 2m 6 0 4 b23 6x 2k 6 0 3 b01
  93 2s 0 3 b03 91 2q 0 4 b05 93 11 3u 0 4 b07 91 13 3u 0 4 b09 93 z 3s 0 4 b0b 91 11 3s 0 4 b0d
  93 2m 6 0 4 b0f 91 2k 6 0 3 b29 7b 2s 0 3 b2b 79 2q 0 4 b2d 7b 11 3u 0 4 b2f 79 13 3u 0 4 b2h
  7b z 3s 0 4 b2j 79 11 3s 0 4 b2l 7b 2m 6 0 4 b2n 79 2k 6 0 3 azx a3 2s 0 3 azz a1 2q 0 4 b01
  a3 11 3u 0 4 b03 a1 13 3u 0 4 b05 a3 z 3s 0 4 b07 a1 11 3s 0 4 b09 a3 2m 6 0 4 b0b a1 2k 6 0 3
  b25 8b 2s 0 3 b27 89 2q 0 4 b29 8b 11 3u 0 4 b2b 89 13 3u 0 4 b2d 8b z 3s 0 4 b2f 89 11 3s 0 4
  b2h 8b 2m 6 0 4 b2j 89 2k 6 0 2 b25 9h 0 2 b27 9l 0 3 b29 9t 3u 0 2 b2b 5z 0 3 b2d 9r 3s 1 2
  b2h 65 0 3 b2j 65 6 0 2 b4d 7p 0 2 b4f 7t 0 2 b4h 81 0 2 b4j 7z 0 2 b4l 47 1 1 b2h 2 2 ca9 110
  0 3 b2t a5 3u 0 2 b2v 6b 0 3 b2x a3 3s 1 2 b31 6h 0 3 b33 6h 6 0 2 b51 89 0 2 b53 87 0 2 b51
  8d 0 2 b53 8b 0 2 b55 4j 0 2 r bct 0 2 t bcr 0 2 v b95 0 2 b3h 9x 0 2 b3j a1 0 3 b3l 9t f 0 3
  b3n 9t d 2 2 b3t 6l 0 3 b3v 9t 38 0 2 b5p 85 0 2 b5r 89 0 2 b5t 8h 0 2 b5v 8f 1 2 1u bgb 0 2
  1s bg9 0 2 1q bcn 0 2 b3p al 0 2 b3r ap 0 3 b3t ah f 0 3 b3v ah d 0 2 b45 9n 0 2 b47 9l 0 2
  b41 79 0 3 b43 ah 38 0 2 b5x 8t 0 2 b5z 8x 0 2 b61 95 0 2 b63 93 0 2 b6d 7t 0 2 ccp xc 0 2 ccr
  xe 0 1 cgt 2 3 b4h b5 3u 0 2 b4j 7b 0 3 b4l b3 3s 1 2 b4p 7h 0 3 b4r 7h 6 0 2 b75 8t 0 2 b77
  8r 0 2 b6p 9d 0 2 b6r 9b 0 2 b6t 5j 0 1 ccx 2 1 4 0 1 4 84 1 bnd 3 1 czh 0 2 d03 13m 32 2 j
  bzj 0 2 h bzn i 2 1f bzr u 2 6 c33 0 2 c c3b 0 2 6 c37 1g 2 1 c5x 4 2 1 c67 2 2 1 c6d n 2 1
  c7p 1 2 1 c7t q 2 9 c93 2 2 1 c9h 2 2 3 c9l 1 2 1 c9r m 2 dhh 16e 1 2 1 cb5 a 2 1r ca1 0 2 dib
  16g 0 2 di9 16c 0 2 n cbb 0 2 n cbd 2 2 3 cc3 0 2 3 cc5 2 2 3 ccb 0 2 3 ccd 6 2 b ccj 0 2 b
  ccl 2 2 3 ccz 0 2 3 cd1 2 2 3 cd7 0 2 3 cd9 y 2 j cer 0 2 9 cf3 0 2 9 cf5 0 2 7 cf9 1c 2 5j
  ccn 0 2 5j ccp 0 2 4h cdt 0 2 4h cdv 6 2 33 cfn 0 2 33 cfp 0 2 33 cfr 0 2 33 cft 1n 1 532 0 1
  532 1ip 2 2 fnt 12n 2 1 4c 1 2 1 48 1 2 1 44 1 2 1 40 1 2 1 3w 1 2 1 3s 1 2 1 3o 1 2 1 3k 1 2
  1 3g 1 2 1 3c 1 2 1 38 1 2 1 34 2 2 1 2y 1 2 1 2u 1 2 1 2q 6 2 1 2c 0 2 3 2e 1 2 1 26 0 2 3 28
  1 2 1 20 0 2 3 22 1 2 1 1u 0 2 3 1w 1 2 1 1o 0 2 3 1q m 2 4b 4m 9 2 1 7 d 2 1 z 1 2 1 13 1 2 1
  17 1 2 1 1b 1 2 1 1f 1 2 1 1j 1 2 1 1n 1 2 1 1r 1 2 1 1v 1 2 1 1z 1 2 1 23 1 2 1 27 2 2 1 2d 1
  2 1 2h 1 2 1 2l 6 2 1 2z 0 2 3 2x 1 2 1 35 0 2 3 33 1 2 1 3b 0 2 3 39 1 2 1 3h 0 2 3 3f 1 2 1
  3n 0 2 3 3l m 2 4b p 2 2 f 4r 0 2 f 4t 0 2 f 4v 0 2 f 4x 3 2 1 5j 13i9 1 16y7 0 1 1lp5 0 1
  15yn 0 1 16r9 0 1 1ilh 0 1 1vhh 0 1 1t8h 0 1 zbp 0 1 zbr 0 1 1r3j 0 1 14s1 0 1 1slj 0 1 1r47 0
  1 1not 0 1 1fm1 0 1 1c0j 0 1 19cx 0 1 18rx 0 1 18ab 0 1 15af 0 1 1kir 0 1 1jar 0 1 1htl 0 1
  1gmp 0 1 1a5x 0 1 14yl 0 1 11ld 0 1 1ve9 0 1 1tfx 0 1 1k4x 0 1 1hc5 0 1 19er 0 1 zyb 0 1 1pk1
  0 1 1i7h 0 1 19kb 0 1 185b 0 1 1nef 0 1 1b4r 0 1 18nj 0 1 1ozf 0 1 1lpf 0 1 1j7j 0 1 1h0d 0 1
  158b 0 1 1v0t 0 1 1u5p 0 1 1tpd 0 1 1mmv 0 1 1k8r 0 1 1hdv 0 1 1fh3 0 1 1bvp 0 1 19i5 0 1 19df
  0 1 16dr 0 1 12q3 0 1 111v 0 1 101r 0 1 1eu5 0 1 1egp 0 1 1cu1 0 1 1aeh 0 1 14dx 0 1 zup 0 1
  17md 0 1 1rd1 0 1 1oxp 0 1 1dc7 0 1 1bpp 0 1 1haf 0 1 1erd 0 1 16vf 0 1 12ub 0 1 1rdv 0 1 1pzl
  0 1 1kkx 0 1 1j39 0 1 1im5 0 1 1d1b 0 1 1cmp 0 1 134b 0 1 1trz 0 1 1bpr 0 1 1u5r 0 1 1u6p 0 1
  1e9f 0 1 1ctt 0 1 1adp 0 1 132f 0 1 17eb 0 1 1nh3 0 1 1kmr 0 1 17lp 0 1 1vm1 0 1 1q7j 0 1 1okb
  0 1 1gvn 0 1 1g4j 0 1 1tp3 0 1 1eq9 0 1 1v0r 0 1 1oqh 0 1 1voz 0 1 1jjr 0 1 1mg1 0 1 1d3j 0 1
  1tfz 0 1 1rmj 0 1 1fiv 0 1 1aa1 0 1 17rd 0 1 1jzf 0 1 15s1 0 1 1jo3 0 1 1nft 0 1 1au5 0 1 1n6x
  0 1 1g69 0 1 1vgx 0 1 1ue5 0 1 1u8v 0 1 1l9t 0 1 1d7r 0 1 1b15 0 1 17px 0 1 14yl 0 1 1tsj 0 1
  1ta3 0 1 1r8b 0 1 1p2j 0 1 1md7 0 1 1ibv 0 1 1eph 0 1 13g1 0 1 11kp 0 1 zxd 0 1 zud 0 1 1ty5 0
  1 1lzd 0 1 1k4p 0 1 15xx 0 1 1p9v 0 1 1o1p 0 1 1nvj 0 1 1mul 0 1 1iot 0 1 1hub 0 1 1gk5 0 1
  1ehh 0 1 1cub 0 1 1bv3 0 1 161v 0 1 1a39 0 1 15nx 0 1 14f5 0 1 1u6h 0 1 1tyr 0 1 1t4x 0 1 1i25
  0 1 18l7 0 1 17u5 0 1 1p69 0 1 1opn 0 1 1nbl 0 1 1k31 0 1 1djj 0 1 1h0j 0 1 1vgn 0 1 1s9r 0 1
  1qbp 0 1 1plt 0 1 1onz 0 1 1gxh 0 1 1gnd 0 1 1c89 0 1 1byr 0 1 14vt 0 1 1307 0 1 12vp 0 1 12k7
  0 1 1v83 0 1 1ekv 0 1 1539 0 1 133z 0 1 1odr 0 1 1vmv 0 1 1upt 0 1 1qcb 0 1 1q7v 0 1 1mix 0 1
  1ks9 0 1 1hpf 0 1 1fy5 0 1 1a4r 0 1 15l9 0 1 zn1 0 1 1m61 0 1 13cf 0 1 1u2j 0 1 1lsp 0 1 1lm3
  0 1 1jip 0 1 1izh 0 1 1gud 0 1 1gbr 0 1 1f45 0 1 1da5 0 1 12hv 0 1 1uiv 0 1 1nwn 0 1 1391 0 1
  1v0x 0 1 1px3 0 1 1j9z 0 1 1655 0 1 1oyh 0 1 1oa1 0 1 1ll1 0 1 1h2f 0 1 138r 0 1 1u93 0 1 1ti5
  0 1 1q7n 0 1 1me1 0 1 1lwl 0 1 1ldf 0 1 1jp7 0 1 1gvv 0 1 1g5h 0 1 1cd5 0 1 18of 0 1 18nh 0 1
  154p 0 1 134f 0 1 1tuf 0 1 1izn 0 1 1ti7 0 1 1hrv 0 1 1god 0 1 19t7 0 1 138b 0 1 10z9 0 1 102v
  0 1 1ltl 0 1 1jdf 0 1 1bff 0 1 1e8n 0 1 1e3z 0 1 1djh 0 1 1hf7 0 1 1i9v 0 1 17pj 0 1 1vnd 0 1
  1axb 0 1 1ua1 0 1 1ucx 0 1 1pdh 0 1 1nq5 0 1 1dg9 0 1 1qm5 0 1 1jnx 0 1 1m77 0 1 166v 0 1 18xj
  0 1 13ef 0 1 18fx 0 1 1pbj 0 1 1uon 0 1 1swp 2 1 1rvv 1 1 1mbf 2 1 1ugd 0 1 1hav 0 1 1fvd 0 1
  1ewn 0 1 1eut 0 1 1euh 0 1 1es7 0 1 130r 0 1 1dj1 0 1 1cch 1 1 19uj 1 1 17wz 2 1 15uh 0 1 15jl
  3 1 12et 0 1 12e5 0 1 12br 0 1 10j5 0 1 15lr 0 1 13an 0 1 1vcz 0 1 1uvn 0 1 1uq1 0 1 1u4z 0 1
  1u3j 0 1 1txj 0 1 1t0x 0 1 1sv5 0 1 1spr 0 1 1rzl 0 1 1rtv 0 1 1qct 0 1 1qcb 0 1 1opd 0 1 1odn
  0 1 1obl 0 1 1o63 0 1 1mub 0 1 1mm7 0 1 1mcj 0 1 1lkt 0 1 1jmj 0 1 1jdj 0 1 1iyx 0 1 1i2b 0 1
  1hrv 0 1 1gzz 0 1 1f8z 0 1 1ezf 0 1 1eyv 0 1 1eyz 0 1 1eyl 0 1 1eyb 0 1 1exz 0 1 1evd 0 1 1evd
  0 1 1elj 0 1 1ehz 0 1 1e0b 0 1 1d51 0 1 1d3x 0 1 1d0v 0 1 1cjz 0 1 1cbv 0 1 1bkt 0 1 1bd3 0 1
  1bd5 0 1 1amn 0 1 18rj 0 1 18k5 0 1 1801 0 1 17wz 0 1 17a9 0 1 177d 0 1 165b 0 1 15y5 0 1 13bd
  0 1 12vn 0 1 12sd 0 1 1otn 0 1 3ls4 0 1 1bjd 2 1 1w2b 0 1 1unr 0 1 1us3 0 1 1vj9 0 1 1uu5 0 1
  1uqx 0 1 1u8t 0 1 1u61 0 1 1t4l 0 1 1t8n 0 1 1t4x 0 1 1t0x 0 1 1s1v 0 1 1rwz 0 1 1roz 0 1 1ro5
  0 1 1r97 0 1 1qy9 0 1 1pi7 0 1 1phv 0 1 1p9x 0 1 1p67 0 1 1opn 0 1 1oj5 0 1 1on3 0 1 1ofp 0 1
  1oib 0 1 1oa9 0 1 1o6n 0 1 1nkh 0 1 1nfn 0 1 1ncp 0 1 1myb 0 1 1mih 0 1 1m9h 0 1 1m9b 0 1 1m63
  0 1 1kjb 0 1 1kfr 0 1 1ju3 0 1 1j7d 0 1 1j8b 0 1 1j3j 0 1 1ipl 0 1 1i6z 0 1 1fqj 0 1 1hw1 0 1
  1hpb 0 1 1hij 0 1 1h0f 0 1 1gs7 0 1 1gpb 0 1 1gct 0 1 1gcr 0 1 1g3b 0 1 1g2f 0 1 1g13 0 1 1fwd
  0 1 1fwz 0 1 1fb1 0 1 1ek5 0 1 1e55 0 1 1dut 0 1 1dif 0 1 1d9z 0 1 1crp 0 1 1cgp 0 1 1b5t 0 1
  1ax5 0 1 19iv 0 1 18tl 0 1 18pt 0 1 18oz 0 1 188j 0 1 185f 0 1 187z 0 1 1851 0 1 1859 0 1 1869
  0 1 1823 0 1 17xn 0 1 17ch 0 1 16hf 0 1 1601 0 1 15jp 0 1 157h 0 1 13mb 0 1 13gn 0 1 13ab 0 1
  132z 0 1 1311 0 1 130f 0 1 12xt 0 1 11th 0 1 100z 0 1 3b3q 0 1 3b3c 0 1 3fns 0 1 23jd 0 1 21rp
  0 1 21px 0 1 3roo 0 1 3vuc 0 1 49a0 0 1 106h 0 1 102d 1v 2 2ow7 21 1 2 2oux 39 a 2 2ow1 27 0 2
  2ow3 25 0 3 2ow5 2h a 0 3 2ow7 2h c 0 2 2oxn 1d 0 2 2oxp 1b 0 2 2oxr 13 0 2 2oxr 15 0 2 2oxr
  17 0 2 2oxr 19 0 2 2oxr 1b 0 2 2oxr 1d 0 2 2oxr 1f 1 2 2oxr 1j 0 2 2oxr 1l 0 2 2oxr 1n 0 2
  2oxr 1p 0 2 2oxr 1r 1 2 2oxr 1v 1 2 2oxr 1z 0 2 2oxr 21 1 2 2oxr 25 0 2 2oxr 27 1 2 2oxr 2b 0
  2 2oxr 2d 0 2 2oxr 2f 0 2 2oxr 2h 0 2 2oxr 2j 0 2 2oyz 1j 0 2 2oz9 z 0 2 2oyr 1j 0 2 2oyb 21
  47f 2 1 1u 1 2 1 1q e 2 b 16 3m 2 6 j 0 2 6 l ez 2 7 h 0 2 9 w a6 2 3 2 0 2 5 h 1 2 9 8 6z 2 3
  h 0 2 3 j os 2 5 9 10dh 2 d s 0 2 d q 0 3 f q i 0 3 h q k 0 3 j q m 0 3 l q o 0 3 n q q 2e 2 3
  4n 0 2 3 4p 0 3 7 4n i 0 3 7 4p i 0 3 b 4n k 0 3 b 4p k 1m4f 1 7hc5 0 1 7hch 0 1 7hc1 0 1 2pj5
  0 1 7gw7 0 1 7grx 0 1 7gr9 0 1 7gnd 0 1 7ggr 0 1 7gf3 0 1 7gat 0 1 7gc7 0 1 7rh7 0 1 2nj9 0 1
  7g5d 0 1 7g51 0 1 7g47 0 1 7g37 0 1 2nzf 0 1 7rg3 0 1 7g49 0 1 7g27 0 1 2nx1 0 1 7g1r 0 1 7g13
  0 1 7h5l 0 1 7g0r 0 1 7g0b 0 1 14e1 0 1 7fwv 0 1 7fw5 0 1 7ren 0 1 7ft5 0 1 7fsl 0 1 7fq7 0 1
  7fpz 0 1 7rbx 0 1 7fln 0 1 7fll 0 1 7fk5 0 1 7fiz 0 1 7fif 0 1 7fif 0 1 7fhj 0 1 7fet 0 1 7fef
  0 1 7fdz 0 1 7fcn 0 1 7fc5 0 1 7fc3 0 1 7fc5 0 1 7fc7 0 1 2m1b 0 1 73wp 0 1 7f87 0 1 7f73 0 1
  2lk9 0 1 7f6j 0 1 7f69 0 1 7f55 0 1 7ewr 0 1 7f2h 0 1 7f1n 0 1 7ezx 0 1 7ewr 0 1 7es5 0 1 7eqr
  0 1 7en3 0 1 7em9 0 1 7ekh 0 1 7ekj 0 1 7ejf 0 1 7eih 0 1 7ei3 0 1 7ehb 0 1 7dyh 0 1 7edn 0 1
  7dyj 0 1 7e9l 0 1 7e7p 0 1 7fyp 0 1 7d8l 0 1 7don 0 1 7dml 0 1 7dl9 0 1 7dsj 0 1 7djb 0 1 7djf
  0 1 7dcn 0 1 2hux 0 1 7d8v 0 1 7d8n 0 1 7d7v 0 1 7d6t 0 1 7d6f 0 1 7d2x 0 1 2h67 0 1 2h2l 0 1
  7cvf 0 1 7csv 0 1 7cs9 0 1 7cwp 0 1 7cov 0 1 7qpd 0 1 7qon 0 1 7cg1 0 1 7cd3 0 1 7cd5 0 1 2fyf
  0 1 7c5v 0 1 7c4r 0 1 7c3z 0 1 7c3d 0 1 2fg1 0 1 7c2t 0 1 7c2h 0 1 7arl 0 1 7c11 0 1 7qi1 0 1
  7bxp 0 1 7bwz 0 1 7bsh 0 1 7bvd 0 1 2ect 0 1 7bld 0 1 2ect 0 1 7bj3 0 1 7bjb 0 1 7bif 0 1 7bcv
  0 1 7bcv 0 1 7q93 0 1 7bbh 0 1 7b95 0 1 7b81 0 1 7b5n 0 1 7q6j 0 1 2cy3 0 1 7q57 0 1 7b1x 0 1
  7b1t 0 1 7b1p 0 1 7b0n 0 1 xkp 0 1 7axv 0 1 2can 0 1 2cap 0 1 6x43 0 1 7aw3 0 1 7aw5 0 1 7q1p
  0 1 2665 0 1 1njv 0 1 7ast 0 1 7asd 0 1 7q0f 0 1 7apv 0 1 7an3 0 1 7aml 0 1 7akr 0 1 7ad9 0 1
  7pvx 0 1 7pxn 0 1 7acd 0 1 2avz 0 1 7a9n 0 1 7a2j 0 1 7a2d 0 1 7a2b 0 1 7a2h 0 1 79zz 0 1 79yx
  0 1 79wz 0 1 79xt 0 1 79x9 0 1 79up 0 1 79tn 0 1 79th 0 1 79s3 0 1 79rj 0 1 79nx 0 1 79jb 0 1
  79hf 0 1 79al 0 1 2993 0 1 79br 0 1 79ff 0 1 799h 0 1 7981 0 1 792p 0 1 28wp 0 1 78zd 0 1 794l
  0 1 7967 0 1 7pk7 0 1 78vn 0 1 78uj 0 1 78sv 0 1 78v1 0 1 7ph1 0 1 78j5 0 1 78hl 0 1 27b3 0 1
  78b3 0 1 77vr 0 1 785j 0 1 7p7t 0 1 781n 0 1 7p8v 0 1 7pax 0 1 7gcf 0 1 7gcb 0 1 77vr 0 1 781d
  0 1 6xqp 0 1 7lrv 0 1 77up 0 1 77uj 0 1 77u9 0 1 77qx 0 1 77rl 0 1 25v7 0 1 7p61 0 1 77ih 0 1
  77p1 0 1 77dp 0 1 77ax 0 1 25m3 0 1 77aj 0 1 77gr 0 1 7737 0 1 7p1v 0 1 770r 0 1 76vf 0 1 76rj
  0 1 76h1 0 1 24r5 0 1 76eb 0 1 7ovf 0 1 76aj 0 1 23yp 0 1 767t 0 1 7osn 0 1 7669 0 1 763t 0 1
  762d 0 1 762d 0 1 2383 0 1 2evt 0 1 2325 0 1 75uf 0 1 22d9 0 1 75o9 0 1 75nj 0 1 75t9 0 1 75jl
  0 1 75hf 0 1 75eb 0 1 75hd 0 1 75f7 0 1 75ef 0 1 75dr 0 1 228f 0 1 75id 0 1 754h 0 1 7511 0 1
  7oh9 0 1 74vz 0 1 74w9 0 1 21kn 0 1 757t 0 1 74n5 0 1 21cz 0 1 21ad 0 1 74if 0 1 74c3 0 1 74dn
  0 1 74dv 0 1 7ocf 0 1 74bd 0 1 748l 0 1 748z 0 1 7461 0 1 2odn 0 1 73xp 0 1 206r 0 1 73sz 0 1
  1zon 0 1 73lb 0 1 73kn 0 1 73j7 0 1 1yr9 0 1 73gn 0 1 73fj 0 1 1yap 0 1 1xyd 0 1 732z 0 1 7323
  0 1 7ny3 0 1 730r 0 1 7nxj 0 1 7nxl 0 1 72rx 0 1 72qt 0 1 72pp 0 1 72on 0 1 72kv 0 1 7nsf 0 1
  72fz 0 1 1wcd 0 1 72en 0 1 1w7d 0 1 72bz 0 1 2d6b 0 1 7237 0 1 1v03 0 1 1uyv 0 1 1ur5 0 1 7ngj
  0 1 7nfx 0 1 71qv 0 1 1uhn 0 1 1uhr 0 1 1ufn 0 1 1ue9 0 1 71ot 0 1 71ot 0 1 71ov 0 1 71mj 0 1
  7ndr 0 1 71j1 0 1 7nd5 0 1 7n8r 0 1 1t9b 0 1 718f 0 1 7151 0 1 711j 0 1 7n4r 0 1 1sgn 0 1 70u1
  0 1 1sab 0 1 1s7z 0 1 70r1 0 1 70lz 0 1 7n0x 0 1 70hd 0 1 70gv 0 1 70gn 0 1 1r5r 0 1 1qp7 0 1
  1qp9 0 1 7081 0 1 7mpn 0 1 1qaz 0 1 6zw7 0 1 6zw3 0 1 7mnt 0 1 1pzd 0 1 6zhj 0 1 7mh9 0 1 6zgf
  0 1 6zgr 0 1 6zf7 0 1 1osp 0 1 6z9t 0 1 7mc7 0 1 6z4d 0 1 6z15 0 1 6yxh 0 1 7m9l 0 1 1nrn 0 1
  1npz 0 1 7m7p 0 1 1nhz 0 1 6ygn 0 1 1nch 0 1 6yf9 0 1 6y9p 0 1 6y95 0 1 1mpt 0 1 1mlt 0 1 6y49
  0 1 1mej 0 1 6y3h 0 1 269t 0 1 7m1j 0 1 6xzz 0 1 6xvj 0 1 7lyp 0 1 6xsd 0 1 7d0h 0 1 1lmn 0 1
  1llx 0 1 267f 0 1 266z 0 1 6xhv 0 1 6xhr 0 1 6s4d 0 1 7ltx 0 1 6xa3 0 1 6xah 0 1 6x9j 0 1 7g71
  0 1 6x8j 0 1 6x8h 0 1 6x7z 0 1 6x5r 0 1 1k8l 0 1 6x5x 0 1 6x2v 0 1 6wz1 0 1 6wuz 0 1 6x2p 0 1
  6wu7 0 1 6wrx 0 1 6wlr 0 1 6x09 0 1 6wtp 0 1 6wtn 0 1 6wst 0 1 1jvf 0 1 1jeb 0 1 1jmp 0 1 7lkn
  0 1 6wdp 0 1 6wdn 0 1 6wbr 0 1 1gw1 0 1 6w7j 0 1 1ipt 0 1 7li9 0 1 7li3 0 1 1iil 0 1 1i2l 0 1
  7lhp 0 1 6vut 0 1 6vu7 0 1 6vtn 0 1 6vtl 0 1 6vq3 0 1 6vrz 0 1 6vkl 0 1 6vn3 0 1 6ver 0 1 6vjb
  0 1 6vfn 0 1 6ve7 0 1 7lcf 0 1 6v99 0 1 6v7j 0 1 7lap 0 1 6v2d 0 1 6v29 0 1 1fwb 0 1 6uvx 0 1
  6uvl 0 1 7l7p 0 1 6uu5 0 1 7s4d 0 1 1f09 0 1 1eq3 0 1 7l0d 0 1 7kzx 0 1 6u71 0 1 6u2t 0 1 6tu5
  0 1 6tix 0 1 1dg5 0 1 6te9 0 1 6td3 0 1 6t85 0 1 6t33 0 1 1cgh 0 1 2njd 0 1 6syl 0 1 6szh 0 1
  6swn 0 1 2n7h 0 1 6sk3 0 1 6sel 0 1 19uj 0 1 19t3 0 1 6rvf 0 1 6rqb 0 1 6rol 0 1 19bh 0 1 6ro5
  0 1 6r8d 0 1 6qzl 0 1 6qzl 0 1 6r4r 0 1 6qjn 0 1 6qi5 0 1 17fp 0 1 6pxh 0 1 7jxv 0 1 6pv5 0 1
  16ur 0 1 7jtj 0 1 6pgf 0 1 7c03 0 1 6pb7 0 1 15cx 0 1 1515 0 1 7jmb 0 1 7jlx 0 1 6p0z 0 1 149t
  0 1 7jir 0 1 1425 0 1 6oyt 0 1 6oyv 0 1 6ox9 0 1 13md 0 1 6on3 0 1 7jbz 0 1 6oj9 0 1 6ocb 0 1
  6oav 0 1 6o7l 0 1 7j3n 0 1 11gx 0 1 6nsf 0 1 6nbp 0 1 6n19 0 1 7ipp 0 1 7io1 0 1 6mvj 0 1 z9f
  0 1 7inl 0 1 z6h 0 1 yrt 0 1 ykl 0 1 6mcz 0 1 7iin 0 1 6m9n 0 1 6m9f 0 1 6m93 0 1 6m8l 0 1
  6m89 0 1 6m69 0 1 x89"

/-- The characters on a path that starts at the code point `start`. -/
def path (start : Nat) : List Nat → List Char
  | [] => []
  | step :: rest => Char.ofNat (shift start step) :: path (shift start step) rest

/-- The mappings of the table that counts from the code point `next` on. -/
def mappingsFrom (next : Nat) : List Nat → List (Nat × Nat × List Char)
  | gap :: count :: rest =>
    (next + gap, next + gap, path (next + gap) (rest.take count)) ::
      mappingsFrom (next + gap + 1) (rest.drop count)
  | _ => []
termination_by table => table.length
decreasing_by simp only [List.length_drop, List.length_cons]; omega

@[irreducible] def mappings : RangeMap (List Char) := .ofList (mappingsFrom 0 (numbers36 mappingTable.toList))

/-! ## Syllables of Hangul -/

def hangulFirst : Nat := 0xAC00

def hangulLast : Nat := 0xD7A3

/-- The letters of a syllable, which is given by its place among the syllables: 28 syllables
    share the first two letters, and 588 the first one. -/
def syllableParts (n : Nat) : List Char :=
  let front := [Char.ofNat (0x1100 + n / 588), Char.ofNat (0x1161 + n % 588 / 28)]
  if n % 28 = 0 then front else front ++ [Char.ofNat (0x11A7 + n % 28)]

/-- The sequence that a character is the same as. -/
def parts (c : Char) : List Char :=
  if hangulFirst ≤ c.toNat ∧ c.toNat ≤ hangulLast then syllableParts (c.toNat - hangulFirst)
  else match mappings.find? c.toNat with
    | some (_, cs) => cs
    | none => [c]

end Potfile.Text
