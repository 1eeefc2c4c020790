import Potfile.Collation.Key
import Potfile.Collation.Rule
import Potfile.Locale

/-! # Orders of languages

* `Language.table`: the languages that do not keep to the root collation.
* `Language.ofLocale`: what holds for a locale.
-/

namespace Potfile.Collation

structure Language where
  rules : String := ""
  style : Style := {}
  /-- Letters that are not ordered together with the marks behind them. -/
  suppressed : List Char := []
deriving Inhabited

namespace Language

/-! ## Scripts -/

def latin : Script := .between 0x61 0x3B1
def greek : Script := .between 0x3B1 0x2C81
def cyrillic : Script := .between 0x430 0x2C30
def georgian : Script := .between 0x10D0 0x561
def armenian : Script := .between 0x561 0x5D0
def hebrew : Script := .between 0x5D0 0x10900
def arabic : Script := .between 0x621 0x710
def ethiopic : Script := .between 0x1200 0x950
def devanagari : Script := .between 0x950 0x980
def bengali : Script := .between 0x980 0xA74
def gurmukhi : Script := .between 0xA74 0xAD0
def gujarati : Script := .between 0xAD0 0xB05
def oriya : Script := .between 0xB05 0xBD0
def tamil : Script := .between 0xBD0 0xC05
def telugu : Script := .between 0xC05 0xC85
def kannada : Script := .between 0xC85 0xD05
def malayalam : Script := .between 0xD05 0xD85
def sinhala : Script := .between 0xD85 0xAAF2
def thai : Script := .between 0xE01 0xEDE
def lao : Script := .between 0xEDE 0xAA80
def tibetan : Script := .between 0xF40 0x11A0B
def myanmar : Script := .between 0x1000 0x10D00
def khmer : Script := .between 0x1780 0x1950
def mongolian : Script := .between 0x1880 0x1C5A
def cherokee : Script := .between 0xAB70 0x104D8
def adlam : Script := .between 0x1E922 0x1100
def hangul : Script := .between 0x1100 0x3041
def kana : Script := .between 0x3041 0x3105
def bopomofo : Script := .between 0x3105 0xA000
def han : Script := ⟨Weight.ofRank (4 * Root.codePoints), Weight.ofRank (6 * Root.codePoints)⟩

/-! ## Rules -/

/-- The letters of Bosnian, Croatian and Serbian in Latin script. -/
def serboCroatian : Language where
  rules := "&C<č<<<Č<ć<<<Ć&D<dž<<<ǆ<<<Dž<<<ǅ<<<DŽ<<<Ǆ<đ<<<Đ&L<lj<<<ǉ<<<Lj<<<ǈ<<<LJ<<<Ǉ
    &N<nj<<<ǌ<<<Nj<<<ǋ<<<NJ<<<Ǌ&S<š<<<Š&Z<ž<<<Ž"

/-- Letters of neighbours that the languages of Scandinavia order beside their own. -/
def nordicGuests : String := "&D<<đ<<<Đ<<ð<<<Ð&t<<<þ/h&T<<<Þ/h&Y<<ü<<<Ü<<ű<<<Ű"

/-- The letters behind the Latin alphabet in Danish and Norwegian, but for the last one. -/
def danishEnd : String :=
  "&[before 1]ǀ<æ<<<Æ<<ä<<<Ä<<ę<<<Ę<ø<<<Ø<<ö<<<Ö<<ő<<<Ő<<œ<<<Œ"

def danish : Language where
  rules := nordicGuests ++ danishEnd ++ "<å<<<Å<<<aa<<<Aa<<<AA"
  style := { capitalsFirst := true }

def norwegian : Language where
  rules := nordicGuests ++ danishEnd ++ "<å<<<Å<<aa<<<Aa<<<AA"

def swedishEnd : String :=
  "&[before 1]ǀ<å<<<Å<ä<<<Ä<<æ<<<Æ<<ę<<<Ę<ö<<<Ö<<ø<<<Ø<<ő<<<Ő<<œ<<<Œ<<ô<<<Ô"

def finnishEnd : String := "&[before 1]ǀ<å<<<Å<ä<<<Ä<<æ<<<Æ<ö<<<Ö<<ø<<<Ø"

def finnishGuests : String := "&D<<đ<<<Đ&G<<ǥ<<<Ǥ&N<<ŋ<<<Ŋ&T<<ŧ<<<Ŧ"

def spanish : String := "&N<ñ<<<Ñ"

def sotho : Language where
  rules := "&E<ê<<<Ê&O<ô<<<Ô&S<š<<<Š"

/-- In Hungarian a doubled letter is written short: `ccs` stands for `cscs`. -/
def hungarian : Language where
  rules := "&C<cs<<<Cs<<<CS&D<dz<<<Dz<<<DZ&DZ<dzs<<<Dzs<<<DZS&G<gy<<<Gy<<<GY&L<ly<<<Ly<<<LY
    &N<ny<<<Ny<<<NY&S<sz<<<Sz<<<SZ&T<ty<<<Ty<<<TY&Z<zs<<<Zs<<<ZS
    &O<ö<<<Ö<<ő<<<Ő&U<ü<<<Ü<<ű<<<Ű
    &cs<<<ccs/cs&Cs<<<Ccs/cs&CS<<<CCS/CS&dz<<<ddz/dz&Dz<<<Ddz/dz&DZ<<<DDZ/DZ
    &dzs<<<ddzs/dzs&Dzs<<<Ddzs/dzs&DZS<<<DDZS/DZS&gy<<<ggy/gy&Gy<<<Ggy/gy&GY<<<GGY/GY
    &ly<<<lly/ly&Ly<<<Lly/ly&LY<<<LLY/LY&ny<<<nny/ny&Ny<<<Nny/ny&NY<<<NNY/NY
    &sz<<<ssz/sz&Sz<<<Ssz/sz&SZ<<<SSZ/SZ&ty<<<tty/ty&Ty<<<Tty/ty&TY<<<TTY/TY
    &zs<<<zzs/zs&Zs<<<Zzs/zs&ZS<<<ZZS/ZS"

def albanian : Language where
  rules := "&[before 1]d<ç<<<Ç&[before 1]e<dh<<<dH<<<Dh<<<DH&[before 1]f<ë<<<Ë
    &[before 1]h<gj<<<gJ<<<Gj<<<GJ&[before 1]m<ll<<<lL<<<Ll<<<LL&[before 1]o<nj<<<nJ<<<Nj<<<NJ
    &[before 1]s<rr<<<rR<<<Rr<<<RR&[before 1]t<sh<<<sH<<<Sh<<<SH&[before 1]u<th<<<tH<<<Th<<<TH
    &[before 1]y<xh<<<xH<<<Xh<<<XH&[before 1]ʒ<zh<<<zH<<<Zh<<<ZH"

def macedonian : Language where
  rules := "&Г<ѓ<<<Ѓ&К<ќ<<<Ќ"
  style := { leading := [cyrillic] }
  suppressed := ['И', 'и']

def turkish : String :=
  "&C<ç<<<Ç&G<ğ<<<Ğ&[before 1]i<ı<<<I&i<<<İ&O<ö<<<Ö&S<ş<<<Ş&U<ü<<<Ü"

def vietnamese : String :=
  "&\u0300<<\u0309<<\u0303<<\u0301<<\u0323
    &a<ă<<<Ă<â<<<Â&d<đ<<<Đ&e<ê<<<Ê&o<ô<<<Ô<ơ<<<Ơ&u<ư<<<Ư"

/-- A language that differs only in which scripts come first. -/
def ofScripts (leading : List Script) : Language where
  style := { leading }

/-- The languages, and the kinds of collation, that do not keep to the root collation. -/
def table : List ((String × String) × Language) := [
  (("af", "standard"), { rules := "&N<<<ŉ" }),
  (("am", "standard"), ofScripts [ethiopic]),
  (("ar", "standard"), ofScripts [arabic]),
  (("as", "standard"), ofScripts [bengali]),
  (("az", "standard"), { rules := turkish ++ "&E<ə<<<Ə&H<x<<<X&K<q<<<Q&Z<w<<<W" }),
  (("be", "standard"), { rules := "&Е<ё<<<Ё&у<ў<<<Ў", style := { leading := [cyrillic] } }),
  (("bg", "standard"), ofScripts [cyrillic]),
  (("bn", "standard"), ofScripts [bengali]),
  (("br", "standard"), { rules := "&C<ch<<<Ch<<<CH<c'h=cʼh=c’h<<<C'h=Cʼh=C’h<<<C'H=CʼH=C’H" }),
  (("bs", "standard"), serboCroatian),
  (("bs-Cyrl", "standard"), ofScripts [cyrillic]),
  (("chr", "standard"), ofScripts [cherokee]),
  (("cs", "standard"), { rules := "&C<č<<<Č&H<ch<<<cH<<<Ch<<<CH&R<ř<<<Ř&S<š<<<Š&Z<ž<<<Ž" }),
  (("cy", "standard"), { rules := "&C<ch<<<Ch<<<CH&D<dd<<<Dd<<<DD&F<ff<<<Ff<<<FF&G<ng<<<Ng<<<NG
    &L<ll<<<Ll<<<LL&P<ph<<<Ph<<<PH&R<rh<<<Rh<<<RH&T<th<<<Th<<<TH" }),
  (("da", "standard"), danish),
  (("de", "phonebk"), { rules := "&AE<<ä<<<Ä&OE<<ö<<<Ö&UE<<ü<<<Ü" }),
  (("de-AT", "phonebk"), { rules := "&a<ä<<<Ä&o<ö<<<Ö&u<ü<<<Ü&ss<ß<<<ẞ" }),
  (("dsb", "standard"), { rules := "&C<č<<<Č<ć<<<Ć&E<ě<<<Ě&H<ch<<<cH<<<Ch<<<CH&[before 1]L<ł<<<Ł
    &N<ń<<<Ń&R<ŕ<<<Ŕ&S<š<<<Š<ś<<<Ś&Z<ž<<<Ž<ź<<<Ź" }),
  (("ee", "standard"), { rules := "&\u030c<<\u0302&D<dz<<<Dz<<<DZ&G<gb<<<Gb<<<GB&H<x<<<X
    &K<kp<<<Kp<<<KP&N<ny<<<Ny<<<NY&T<ts<<<Ts<<<TS" }),
  (("el", "standard"), ofScripts [greek]),
  (("eo", "standard"), { rules := "&C<ĉ<<<Ĉ&G<ĝ<<<Ĝ&H<ĥ<<<Ĥ&J<ĵ<<<Ĵ&S<ŝ<<<Ŝ&U<ŭ<<<Ŭ" }),
  (("es", "standard"), { rules := spanish }),
  (("es", "trad"), { rules := spanish ++ "&C<ch<<<Ch<<<CH&l<ll<<<Ll<<<LL" }),
  (("et", "standard"), { rules := "&[before 1]T<š<<<Š<z<<<Z<ž<<<Ž&[before 1]X<õ<<<Õ<ä<<<Ä<ö<<<Ö
    <ü<<<Ü" }),
  (("fa", "standard"), ofScripts [arabic]),
  (("ff-Adlm", "standard"), ofScripts [adlam]),
  (("fi", "standard"), { rules := finnishGuests ++ "&Y<<ü<<<Ü&Z<<ʒ<<<Ʒ" ++ finnishEnd }),
  (("fi", "trad"), { rules := finnishGuests ++ "&V<<w<<<W&Y<<ü<<<Ü&Z<<ʒ<<<Ʒ" ++ finnishEnd }),
  (("fil", "standard"), { rules := spanish ++ "<ng<<<Ng<<<NG" }),
  (("fo", "standard"), norwegian),
  (("fr-CA", "standard"), { style := { accentsFromEnd := true } }),
  (("gl", "standard"), { rules := spanish }),
  (("gu", "standard"), ofScripts [gujarati]),
  (("ha", "standard"), { rules := "&S<sh<<<Sh<<<SH&T<ts<<<Ts<<<TS
    &Y<ƴ<<<ʼy<<<'y<<<Ƴ<<<ʼY<<<'Y" }),
  (("haw", "standard"), { rules := "&a<e<<<E<i<<<I<o<<<O<u<<<U&w<ʻ" }),
  (("he", "standard"), ofScripts [hebrew]),
  (("hi", "standard"), ofScripts [devanagari]),
  (("hr", "standard"), serboCroatian),
  (("hsb", "standard"), { rules := "&C<č<<<Č<ć<<<Ć&E<ě<<<Ě&H<ch<<<cH<<<Ch<<<CH&[before 1]L<ł<<<Ł
    &R<ř<<<Ř&S<š<<<Š&Z<ž<<<Ž<ź<<<Ź" }),
  (("hu", "standard"), hungarian),
  (("hy", "standard"), ofScripts [armenian]),
  (("ig", "standard"), { rules := "&B<ch<<<Ch<<<CH&G<gb<<<Gb<<<GB<gh<<<Gh<<<GH<gw<<<Gw<<<GW
    &I<ị<<<Ị&K<kp<<<Kp<<<KP<kw<<<Kw<<<KW&N<ṅ<<<Ṅ<nw<<<Nw<<<NW<ny<<<Ny<<<NY
    &O<ọ<<<Ọ&S<sh<<<Sh<<<SH&U<ụ<<<Ụ" }),
  (("is", "standard"), { rules := "&[before 1]b<á<<<Á&D<<đ<<<Đ<ð<<<Ð&[before 1]f<é<<<É
    &[before 1]j<í<<<Í&[before 1]p<ó<<<Ó&[before 1]v<ú<<<Ú&[before 1]z<ý<<<Ý
    &[before 1]ǀ<æ<<<Æ<<ä<<<Ä<ö<<<Ö<<ø<<<Ø<å<<<Å" }),
  (("ja", "standard"), ofScripts [latin, kana, han]),
  (("ka", "standard"), ofScripts [georgian]),
  (("kk", "standard"),
    { rules := "&Е<ё<<<Ё&Ұ<ү<<<Ү&[before 1]ь<і<<<І", style := { leading := [cyrillic] } }),
  (("kl", "standard"),
    { rules := nordicGuests ++ "&Q<<ĸ<<<K'" ++ danishEnd ++ "<å<<<Å" }),
  (("km", "standard"), ofScripts [khmer]),
  (("kn", "standard"), ofScripts [kannada]),
  (("ko", "standard"), ofScripts [hangul, han]),
  (("kok", "standard"), ofScripts [devanagari]),
  (("ky", "standard"), ofScripts [cyrillic]),
  (("lkt", "standard"), { rules := "&C<č<<<Č&G<ǧ<<<Ǧ&H<ȟ<<<Ȟ&S<š<<<Š&Z<ž<<<Ž" }),
  (("lo", "standard"), ofScripts [lao]),
  (("lt", "standard"), { rules := "&\u0300=\u0307\u0300&\u0301=\u0307\u0301&\u0303=\u0307\u0303
    &A<<ą<<<Ą&C<č<<<Č&E<<ę<<<Ę<<ė<<<Ė&I<<į<<<Į<<y<<<Y&S<š<<<Š&U<<ų<<<Ų<<ū<<<Ū&Z<ž<<<Ž" }),
  (("lv", "standard"), { rules := "&[before 1]D<č<<<Č&[before 1]H<ģ<<<Ģ&I<<y<<<Y
    &[before 1]L<ķ<<<Ķ&[before 1]M<ļ<<<Ļ&[before 1]O<ņ<<<Ņ&[before 1]S<ŗ<<<Ŗ
    &[before 1]T<š<<<Š&[before 1]Ʒ<ž<<<Ž" }),
  (("mk", "standard"), macedonian),
  (("ml", "standard"), ofScripts [malayalam]),
  (("mn", "standard"), ofScripts [cyrillic, mongolian]),
  (("mr", "standard"), ofScripts [devanagari]),
  (("mt", "standard"), { rules := "&[before 1]c<ċ<<<Ċ&[before 1]g<ġ<<<Ġ&[before 1]h<għ<<<gĦ<<<Għ
    <<<GĦ&[before 1]i<ħ<<<Ħ&[before 1]z<ż<<<Ż", style := { capitalsFirst := true } }),
  (("my", "standard"), ofScripts [myanmar]),
  (("nb", "standard"), norwegian),
  (("ne", "standard"), ofScripts [devanagari]),
  (("nn", "standard"), norwegian),
  (("no", "standard"), norwegian),
  (("nso", "standard"), sotho),
  (("om", "standard"), { rules := "&Z<ch<<<Ch<<<CH<dh<<<Dh<<<DH<kh<<<Kh<<<KH<ny<<<Ny<<<NY
    <ph<<<Ph<<<PH<sh<<<Sh<<<SH" }),
  (("or", "standard"), ofScripts [oriya]),
  (("pa", "standard"), ofScripts [gurmukhi]),
  (("pl", "standard"), { rules := "&A<ą<<<Ą&C<ć<<<Ć&E<ę<<<Ę&L<ł<<<Ł&N<ń<<<Ń&O<ó<<<Ó&S<ś<<<Ś
    &Z<ź<<<Ź<ż<<<Ż" }),
  (("ps", "standard"), ofScripts [arabic]),
  (("ro", "standard"), { rules := "&A<ă<<<Ă<â<<<Â&I<î<<<Î&S<ş=ș<<<Ş=Ș&T<ţ=ț<<<Ţ=Ț" }),
  (("ru", "standard"), ofScripts [cyrillic]),
  (("si", "standard"), ofScripts [sinhala]),
  (("sk", "standard"), { rules := "&A<ä<<<Ä&C<č<<<Č&H<ch<<<cH<<<Ch<<<CH&O<ô<<<Ô&R<ř<<<Ř&S<š<<<Š
    &Z<ž<<<Ž" }),
  (("sl", "standard"), { rules := "&C<č<<<Č<ć<<<Ć&D<đ<<<Đ&S<š<<<Š&Z<ž<<<Ž" }),
  (("sq", "standard"), albanian),
  (("sr", "standard"), ofScripts [cyrillic]),
  (("sr-Latn", "standard"), serboCroatian),
  (("sr-ME", "standard"), serboCroatian),
  (("sv", "standard"), { rules := nordicGuests ++ swedishEnd }),
  (("sv", "trad"), { rules := nordicGuests ++ "&v<<<V<<w<<<W" ++ swedishEnd }),
  (("ta", "standard"), ofScripts [tamil]),
  (("te", "standard"), ofScripts [telugu]),
  (("th", "standard"), ofScripts [thai]),
  (("tk", "standard"), { rules := "&C<ç<<<Ç&E<ä<<<Ä&J<ž<<<Ž&N<ň<<<Ň&O<ö<<<Ö&S<ş<<<Ş&U<ü<<<Ü
    &Y<ý<<<Ý" }),
  (("tn", "standard"), sotho),
  (("to", "standard"), { rules := "&N<ng<<<Ng<<<NG<<<ŋ<<<Ŋ&Z<ʻ<<<ʽ&a<<á<<<Á<<ā<<<Ā&e<<é<<<É<<ē<<<Ē
    &i<<í<<<Í<<ī<<<Ī&o<<ó<<<Ó<<ō<<<Ō&u<<ú<<<Ú<<ū<<<Ū" }),
  (("tr", "standard"), { rules := turkish }),
  (("ug", "standard"), ofScripts [arabic]),
  (("uk", "standard"),
    { rules := "&Г<ґ<<<Ґ&І<ї<<<Ї", style := { leading := [cyrillic] } }),
  (("ur", "standard"), ofScripts [arabic]),
  (("uz", "standard"), { rules := "&Z<oʻ<<<Oʻ<gʻ<<<Gʻ<sh<<<Sh<<<SH<ch<<<Ch<<<CH" }),
  (("vi", "standard"), { rules := vietnamese }),
  (("vo", "standard"), { rules := "&A<ä<<<Ä&O<ö<<<Ö&U<ü<<<Ü" }),
  (("wo", "standard"), { rules := "&A<à<<<À&E<é<<<É<ë<<<Ë&N<ñ<<<Ñ&O<ó<<<Ó" }),
  (("yi", "standard"), ofScripts [hebrew]),
  (("yo", "standard"), { rules := "&E<ẹ<<<Ẹ&G<gb<<<Gb<<<GB&O<ọ<<<Ọ&S<ṣ<<<Ṣ" }),
  (("zh", "standard"), ofScripts [han]),
  (("zh", "zhuyin"), ofScripts [han, bopomofo])]

/-! ## Choice -/

/-- The tags under which the rules of a locale are looked up, the most special one first. -/
def tags (id : LanguageId) : List String :=
  let parts (script region : Option String) : String :=
    "-".intercalate (id.language :: script.toList ++ region.toList)
  (match id.region with
    | some region => [parts id.script (some region)]
    | none => []) ++ [parts id.script none, parts none none]

/-- What holds for a locale. A collation that its language does not know gives way to the
    usual one, and a language without rules keeps to the root collation. -/
def ofLocale (l : Locale) : Language :=
  let kinds := l.collation?.toList ++ ["standard"]
  ((tags l.id).findSome? fun tag => kinds.findSome? fun kind => table.lookup (tag, kind)).getD {}

def contractions (language : Language) : Contractions :=
  let root := Root.sequences.filter fun entry =>
    !(entry.1.head?.any (· ∈ language.suppressed))
  Rule.apply root (Rule.parse language.rules)

end Language

end Potfile.Collation
