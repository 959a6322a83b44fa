import Galley.Text.Case

/-!
# Folded characters

Characters that are told apart by their looks only, such as small and capital letters, letters of
another width or style, or letters with a circle around them, have one *folded* form. A text is
folded character by character.
-/

namespace Galley.Text

/-- Runs of characters that fold to characters at a fixed distance: the first and the last, and the
distance. -/
def foldRuns : List (Nat × Nat × Int) :=
  [
    (0x13a0, 0x13f5, 0), (0x13f8, 0x13fd, -8), (0x1d33, 0x1d3a, -7372), (0x1d5d, 0x1d5f, -6571),
    (0x1da4, 0x1da6, -6972), (0x1dae, 0x1db1, -6972), (0x1dbc, 0x1dbe, -6956),
    (0x2074, 0x2079, -8256), (0x2080, 0x2089, -8272), (0x2096, 0x2099, -8235),
    (0x2119, 0x211b, -8361), (0x2135, 0x2138, -7013), (0x2460, 0x2468, -9263),
    (0x24b6, 0x24cf, -9301), (0x24d0, 0x24e9, -9327), (0x3137, 0x3139, -8244),
    (0x313a, 0x313f, -8074), (0x3141, 0x3143, -8251), (0x3145, 0x314e, -8252),
    (0x314f, 0x3163, -8174), (0x3178, 0x317c, -8269), (0x3184, 0x3186, -8237),
    (0x3263, 0x3265, -8542), (0x3269, 0x326d, -8539), (0x32e4, 0x32e9, -538),
    (0x32ee, 0x32f2, -528), (0x32f5, 0x32fa, -525), (0x32fb, 0x32fe, -524),
    (0xab70, 0xabbf, -38864), (0xfb24, 0xfb26, -62793), (0xfe41, 0xfe44, -52789),
    (0xff06, 0xff0e, -65248), (0xff10, 0xff19, -65248), (0xff21, 0xff3a, -65216),
    (0xff3f, 0xff5b, -65248), (0xff85, 0xff8a, -52923), (0xff8f, 0xff93, -52913),
    (0xff96, 0xff9b, -52910), (0xffa7, 0xffa9, -61092), (0xffaa, 0xffaf, -60922),
    (0xffb1, 0xffb3, -61099), (0xffb5, 0xffbe, -61100), (0xffc2, 0xffc7, -61025),
    (0xffca, 0xffcf, -61027), (0xffd2, 0xffd7, -61029), (0xffda, 0xffdc, -61031),
    (0xffe9, 0xffec, -56921), (0x107b6, 0x107b8, -67062), (0x1ccd6, 0x1ccef, -117877),
    (0x1ccf0, 0x1ccf9, -117952), (0x1d400, 0x1d419, -119711), (0x1d41a, 0x1d433, -119737),
    (0x1d434, 0x1d44d, -119763), (0x1d44e, 0x1d454, -119789), (0x1d456, 0x1d467, -119789),
    (0x1d468, 0x1d481, -119815), (0x1d482, 0x1d49b, -119841), (0x1d4a9, 0x1d4ac, -119867),
    (0x1d4ae, 0x1d4b5, -119867), (0x1d4b6, 0x1d4b9, -119893), (0x1d4bd, 0x1d4c3, -119893),
    (0x1d4c5, 0x1d4cf, -119893), (0x1d4d0, 0x1d4e9, -119919), (0x1d4ea, 0x1d503, -119945),
    (0x1d507, 0x1d50a, -119971), (0x1d50d, 0x1d514, -119971), (0x1d516, 0x1d51c, -119971),
    (0x1d51e, 0x1d537, -119997), (0x1d53b, 0x1d53e, -120023), (0x1d540, 0x1d544, -120023),
    (0x1d54a, 0x1d550, -120023), (0x1d552, 0x1d56b, -120049), (0x1d56c, 0x1d585, -120075),
    (0x1d586, 0x1d59f, -120101), (0x1d5a0, 0x1d5b9, -120127), (0x1d5ba, 0x1d5d3, -120153),
    (0x1d5d4, 0x1d5ed, -120179), (0x1d5ee, 0x1d607, -120205), (0x1d608, 0x1d621, -120231),
    (0x1d622, 0x1d63b, -120257), (0x1d63c, 0x1d655, -120283), (0x1d656, 0x1d66f, -120309),
    (0x1d670, 0x1d689, -120335), (0x1d68a, 0x1d6a3, -120361), (0x1d6a8, 0x1d6b8, -119543),
    (0x1d6ba, 0x1d6c0, -119543), (0x1d6c2, 0x1d6d2, -119569), (0x1d6d4, 0x1d6da, -119569),
    (0x1d6e2, 0x1d6f2, -119601), (0x1d6f4, 0x1d6fa, -119601), (0x1d6fc, 0x1d70c, -119627),
    (0x1d70e, 0x1d714, -119627), (0x1d71c, 0x1d72c, -119659), (0x1d72e, 0x1d734, -119659),
    (0x1d736, 0x1d746, -119685), (0x1d748, 0x1d74e, -119685), (0x1d756, 0x1d766, -119717),
    (0x1d768, 0x1d76e, -119717), (0x1d770, 0x1d780, -119743), (0x1d782, 0x1d788, -119743),
    (0x1d790, 0x1d7a0, -119775), (0x1d7a2, 0x1d7a8, -119775), (0x1d7aa, 0x1d7ba, -119801),
    (0x1d7bc, 0x1d7c2, -119801), (0x1d7ce, 0x1d7d7, -120734), (0x1d7d8, 0x1d7e1, -120744),
    (0x1d7e2, 0x1d7eb, -120754), (0x1d7ec, 0x1d7f5, -120764), (0x1d7f6, 0x1d7ff, -120774),
    (0x1e030, 0x1e038, -121856), (0x1e039, 0x1e03b, -121855), (0x1e03c, 0x1e046, -121854),
    (0x1e051, 0x1e059, -121889), (0x1e05f, 0x1e064, -121884), (0x1ee0a, 0x1ee0d, -124871),
    (0x1ee2a, 0x1ee2d, -124903), (0x1ee8b, 0x1ee8d, -124999), (0x1eeab, 0x1eead, -125031),
    (0x1f130, 0x1f149, -127183), (0x1fbf0, 0x1fbf9, -129984)
  ]

/-- Single characters, each with what it folds to. -/
def foldLines : List String :=
  [
    "ªa ²2 ³3 µμ ¹1 ºo ¼1⁄4 ½1⁄2 ¾3⁄4 Ĳij ĳij Ŀl· ŀl· ŉʼn ſs Ǆdž ǅdž ǆdž Ǉlj ǈlj ǉlj Ǌnj ǋnj ǌnj",
    "Ǳdz ǲdz ǳdz ʰh ʱɦ ʲj ʳr ʴɹ ʵɻ ʶʁ ʷw ʸy ˠɣ ˡl ˢs ˣx ˤʕ \u0340\u0300 \u0341\u0301 \u0343\u0313",
    "\u0344\u0308\u0301 \u0345ι ʹʹ ;; ·· ϐβ ϑθ ϒυ ϓύ ϔϋ ϕφ ϖπ ϰκ ϱρ ϲσ ϵε Ϲσ ևեւ",
    "\u0675\u0627\u0674 \u0676\u0648\u0674 \u0677\u06c7\u0674 \u0678\u064a\u0674 क़क\u093c",
    "ख़ख\u093c ग़ग\u093c ज़ज\u093c ड़ड\u093c ढ़ढ\u093c फ़फ\u093c य़य\u093c ড়ড\u09bc ঢ়ঢ\u09bc য়য\u09bc",
    "ਲ਼ਲ\u0a3c ਸ਼ਸ\u0a3c ਖ਼ਖ\u0a3c ਗ਼ਗ\u0a3c ਜ਼ਜ\u0a3c ਫ਼ਫ\u0a3c ଡ଼ଡ\u0b3c ଢ଼ଢ\u0b3c ำ\u0e4dา ຳ\u0ecdາ",
    "ໜຫນ ໝຫມ ༌་ གྷག\u0fb7 ཌྷཌ\u0fb7 དྷད\u0fb7 བྷབ\u0fb7 ཛྷཛ\u0fb7 ཀྵཀ\u0fb5 \u0f73\u0f71\u0f72",
    "\u0f75\u0f71\u0f74 \u0f76\u0fb2\u0f80 \u0f77\u0fb2\u0f71\u0f80 \u0f78\u0fb3\u0f80",
    "\u0f79\u0fb3\u0f71\u0f80 \u0f81\u0f71\u0f80 \u0f93\u0f92\u0fb7 \u0f9d\u0f9c\u0fb7",
    "\u0fa2\u0fa1\u0fb7 \u0fa7\u0fa6\u0fb7 \u0fac\u0fab\u0fb7 \u0fb9\u0f90\u0fb5 ჼნ ᲀв ᲁд ᲂо ᲃс",
    "ᲄт ᲅт ᲆъ ᲇѣ ᲈꙋ ᴬa ᴭæ ᴮb ᴰd ᴱe ᴲǝ ᴼo ᴽȣ ᴾp ᴿr ᵀt ᵁu ᵂw ᵃa ᵄɐ ᵅɑ ᵆᴂ ᵇb ᵈd ᵉe ᵊə ᵋɛ ᵌɜ ᵍg ᵏk ᵐm",
    "ᵑŋ ᵒo ᵓɔ ᵔᴖ ᵕᴗ ᵖp ᵗt ᵘu ᵙᴝ ᵚɯ ᵛv ᵜᴥ ᵠφ ᵡχ ᵢi ᵣr ᵤu ᵥv ᵦβ ᵧγ ᵨρ ᵩφ ᵪχ ᵸн ᶛɒ ᶜc ᶝɕ ᶞð ᶟɜ ᶠf ᶡɟ",
    "ᶢɡ ᶣɥ ᶧᵻ ᶨʝ ᶩɭ ᶪᶅ ᶫʟ ᶬɱ ᶭɰ ᶲɸ ᶳʂ ᶴʃ ᶵƫ ᶶʉ ᶷʊ ᶸᴜ ᶹʋ ᶺʌ ᶻz ᶿθ ẚaʾ ẛṡ άά έέ ήή ίί όό ύύ ώώ ᾀἀι",
    "ᾁἁι ᾂἂι ᾃἃι ᾄἄι ᾅἅι ᾆἆι ᾇἇι ᾈἀι ᾉἁι ᾊἂι ᾋἃι ᾌἄι ᾍἅι ᾎἆι ᾏἇι ᾐἠι ᾑἡι ᾒἢι ᾓἣι ᾔἤι ᾕἥι ᾖἦι ᾗἧι",
    "ᾘἠι ᾙἡι ᾚἢι ᾛἣι ᾜἤι ᾝἥι ᾞἦι ᾟἧι ᾠὠι ᾡὡι ᾢὢι ᾣὣι ᾤὤι ᾥὥι ᾦὦι ᾧὧι ᾨὠι ᾩὡι ᾪὢι ᾫὣι ᾬὤι ᾭὥι ᾮὦι",
    "ᾯὧι ᾲὰι ᾳαι ᾴάι ᾷᾶι Άά ᾼαι ιι ῂὴι ῃηι ῄήι ῇῆι Έέ Ήή ῌηι ΐΐ Ίί ΰΰ Ύύ `` ῲὼι ῳωι ῴώι ῷῶι Όό Ώώ",
    "ῼωι ‑‐ ″′′ ‴′′′ ‶‵‵ ‷‵‵‵ ‼!! ⁗′′′′ ⁰0 ⁱi ⁺+ ⁻− ⁼= ⁽( ⁾) ⁿn ₊+ ₋− ₌= ₍( ₎) ₐa ₑe ₒo ₓx ₔə ₕh",
    "ₚp ₛs ₜt ₨rs ℂc ℃°c ℇɛ ℉°f ℊg ℋh ℌh ℍh ℎh ℏħ ℐi ℑi ℒl ℓl ℕn №no ℜr ℝr ℠sm ℡tel ™tm ℤz ℨz ℬb",
    "ℭc ℯe ℰe ℱf ℳm ℴo ℹi ℻fax ℼπ ℽγ ℾγ ℿπ ⅀∑ ⅅd ⅆd ⅇe ⅈi ⅉj ⅐1⁄7 ⅑1⁄9 ⅒1⁄10 ⅓1⁄3 ⅔2⁄3 ⅕1⁄5 ⅖2⁄5",
    "⅗3⁄5 ⅘4⁄5 ⅙1⁄6 ⅚5⁄6 ⅛1⁄8 ⅜3⁄8 ⅝5⁄8 ⅞7⁄8 ⅟1⁄ Ⅰi Ⅱii Ⅲiii Ⅳiv Ⅴv Ⅵvi Ⅶvii Ⅷviii Ⅸix Ⅹx Ⅺxi",
    "Ⅻxii Ⅼl Ⅽc Ⅾd Ⅿm ⅰi ⅱii ⅲiii ⅳiv ⅴv ⅵvi ⅶvii ⅷviii ⅸix ⅹx ⅺxi ⅻxii ⅼl ⅽc ⅾd ⅿm ↉0⁄3 ∬∫∫ ∭∫∫∫",
    "∯∮∮ ∰∮∮∮ 〈〈 〉〉 ⑩10 ⑪11 ⑫12 ⑬13 ⑭14 ⑮15 ⑯16 ⑰17 ⑱18 ⑲19 ⑳20 ⑴(1) ⑵(2) ⑶(3) ⑷(4) ⑸(5) ⑹(6)",
    "⑺(7) ⑻(8) ⑼(9) ⑽(10) ⑾(11) ⑿(12) ⒀(13) ⒁(14) ⒂(15) ⒃(16) ⒄(17) ⒅(18) ⒆(19) ⒇(20) ⒜(a) ⒝(b)",
    "⒞(c) ⒟(d) ⒠(e) ⒡(f) ⒢(g) ⒣(h) ⒤(i) ⒥(j) ⒦(k) ⒧(l) ⒨(m) ⒩(n) ⒪(o) ⒫(p) ⒬(q) ⒭(r) ⒮(s) ⒯(t)",
    "⒰(u) ⒱(v) ⒲(w) ⒳(x) ⒴(y) ⒵(z) ⓪0 ⨌∫∫∫∫ ⩵== ⩶=== ⫝̸⫝\u0338 ⱼj ⱽv ⵯⵡ ⺟母 ⻳龟 ⼀一 ⼁丨 ⼂丶 ⼃丿 ⼄乙 ⼅亅 ⼆二",
    "⼇亠 ⼈人 ⼉儿 ⼊入 ⼋八 ⼌冂 ⼍冖 ⼎冫 ⼏几 ⼐凵 ⼑刀 ⼒力 ⼓勹 ⼔匕 ⼕匚 ⼖匸 ⼗十 ⼘卜 ⼙卩 ⼚厂 ⼛厶 ⼜又 ⼝口 ⼞囗 ⼟土 ⼠士 ⼡夂 ⼢夊 ⼣夕 ⼤大 ⼥女",
    "⼦子 ⼧宀 ⼨寸 ⼩小 ⼪尢 ⼫尸 ⼬屮 ⼭山 ⼮巛 ⼯工 ⼰己 ⼱巾 ⼲干 ⼳幺 ⼴广 ⼵廴 ⼶廾 ⼷弋 ⼸弓 ⼹彐 ⼺彡 ⼻彳 ⼼心 ⼽戈 ⼾戶 ⼿手 ⽀支 ⽁攴 ⽂文 ⽃斗 ⽄斤",
    "⽅方 ⽆无 ⽇日 ⽈曰 ⽉月 ⽊木 ⽋欠 ⽌止 ⽍歹 ⽎殳 ⽏毋 ⽐比 ⽑毛 ⽒氏 ⽓气 ⽔水 ⽕火 ⽖爪 ⽗父 ⽘爻 ⽙爿 ⽚片 ⽛牙 ⽜牛 ⽝犬 ⽞玄 ⽟玉 ⽠瓜 ⽡瓦 ⽢甘 ⽣生",
    "⽤用 ⽥田 ⽦疋 ⽧疒 ⽨癶 ⽩白 ⽪皮 ⽫皿 ⽬目 ⽭矛 ⽮矢 ⽯石 ⽰示 ⽱禸 ⽲禾 ⽳穴 ⽴立 ⽵竹 ⽶米 ⽷糸 ⽸缶 ⽹网 ⽺羊 ⽻羽 ⽼老 ⽽而 ⽾耒 ⽿耳 ⾀聿 ⾁肉 ⾂臣",
    "⾃自 ⾄至 ⾅臼 ⾆舌 ⾇舛 ⾈舟 ⾉艮 ⾊色 ⾋艸 ⾌虍 ⾍虫 ⾎血 ⾏行 ⾐衣 ⾑襾 ⾒見 ⾓角 ⾔言 ⾕谷 ⾖豆 ⾗豕 ⾘豸 ⾙貝 ⾚赤 ⾛走 ⾜足 ⾝身 ⾞車 ⾟辛 ⾠辰 ⾡辵",
    "⾢邑 ⾣酉 ⾤釆 ⾥里 ⾦金 ⾧長 ⾨門 ⾩阜 ⾪隶 ⾫隹 ⾬雨 ⾭靑 ⾮非 ⾯面 ⾰革 ⾱韋 ⾲韭 ⾳音 ⾴頁 ⾵風 ⾶飛 ⾷食 ⾸首 ⾹香 ⾺馬 ⾻骨 ⾼高 ⾽髟 ⾾鬥 ⾿鬯 ⿀鬲",
    "⿁鬼 ⿂魚 ⿃鳥 ⿄鹵 ⿅鹿 ⿆麥 ⿇麻 ⿈黃 ⿉黍 ⿊黑 ⿋黹 ⿌黽 ⿍鼎 ⿎鼓 ⿏鼠 ⿐鼻 ⿑齊 ⿒齒 ⿓龍 ⿔龜 ⿕龠 。. 〶〒 〸十 〹卄 〺卅 ゟより ヿコト",
    "ㄱ\u1100 ㄲ\u1101 ㄳ\u11aa ㄴ\u1102 ㄵ\u11ac ㄶ\u11ad ㅀ\u111a ㅄ\u1121 ㅥ\u1114 ㅦ\u1115 ㅧ\u11c7",
    "ㅨ\u11c8 ㅩ\u11cc ㅪ\u11ce ㅫ\u11d3 ㅬ\u11d7 ㅭ\u11d9 ㅮ\u111c ㅯ\u11dd ㅰ\u11df ㅱ\u111d ㅲ\u111e",
    "ㅳ\u1120 ㅴ\u1122 ㅵ\u1123 ㅶ\u1127 ㅷ\u1129 ㅽ\u1132 ㅾ\u1136 ㅿ\u1140 ㆀ\u1147 ㆁ\u114c ㆂ\u11f1",
    "ㆃ\u11f2 ㆇ\u1184 ㆈ\u1185 ㆉ\u1188 ㆊ\u1191 ㆋ\u1192 ㆌ\u1194 ㆍ\u119e ㆎ\u11a1 ㆒一 ㆓二 ㆔三 ㆕四 ㆖上 ㆗中 ㆘下",
    "㆙甲 ㆚乙 ㆛丙 ㆜丁 ㆝天 ㆞地 ㆟人 ㈀(\u1100) ㈁(\u1102) ㈂(\u1103) ㈃(\u1105) ㈄(\u1106) ㈅(\u1107) ㈆(\u1109)",
    "㈇(\u110b) ㈈(\u110c) ㈉(\u110e) ㈊(\u110f) ㈋(\u1110) ㈌(\u1111) ㈍(\u1112) ㈎(가) ㈏(나) ㈐(다) ㈑(라)",
    "㈒(마) ㈓(바) ㈔(사) ㈕(아) ㈖(자) ㈗(차) ㈘(카) ㈙(타) ㈚(파) ㈛(하) ㈜(주) ㈝(오전) ㈞(오후) ㈠(一) ㈡(二) ㈢(三) ㈣(四) ㈤(五)",
    "㈥(六) ㈦(七) ㈧(八) ㈨(九) ㈩(十) ㈪(月) ㈫(火) ㈬(水) ㈭(木) ㈮(金) ㈯(土) ㈰(日) ㈱(株) ㈲(有) ㈳(社) ㈴(名) ㈵(特) ㈶(財)",
    "㈷(祝) ㈸(労) ㈹(代) ㈺(呼) ㈻(学) ㈼(監) ㈽(企) ㈾(資) ㈿(協) ㉀(祭) ㉁(休) ㉂(自) ㉃(至) ㉄問 ㉅幼 ㉆文 ㉇箏 ㉐pte ㉑21 ㉒22",
    "㉓23 ㉔24 ㉕25 ㉖26 ㉗27 ㉘28 ㉙29 ㉚30 ㉛31 ㉜32 ㉝33 ㉞34 ㉟35 ㉠\u1100 ㉡\u1102 ㉢\u1103 ㉦\u1109 ㉧\u110b",
    "㉨\u110c ㉮가 ㉯나 ㉰다 ㉱라 ㉲마 ㉳바 ㉴사 ㉵아 ㉶자 ㉷차 ㉸카 ㉹타 ㉺파 ㉻하 ㉼참고 ㉽주의 ㉾우 ㊀一 ㊁二 ㊂三 ㊃四 ㊄五 ㊅六 ㊆七 ㊇八 ㊈九 ㊉十",
    "㊊月 ㊋火 ㊌水 ㊍木 ㊎金 ㊏土 ㊐日 ㊑株 ㊒有 ㊓社 ㊔名 ㊕特 ㊖財 ㊗祝 ㊘労 ㊙秘 ㊚男 ㊛女 ㊜適 ㊝優 ㊞印 ㊟注 ㊠項 ㊡休 ㊢写 ㊣正 ㊤上 ㊥中 ㊦下 ㊧左 ㊨右",
    "㊩医 ㊪宗 ㊫学 ㊬監 ㊭企 ㊮資 ㊯協 ㊰夜 ㊱36 ㊲37 ㊳38 ㊴39 ㊵40 ㊶41 ㊷42 ㊸43 ㊹44 ㊺45 ㊻46 ㊼47 ㊽48 ㊾49 ㊿50 ㋀1月 ㋁2月",
    "㋂3月 ㋃4月 ㋄5月 ㋅6月 ㋆7月 ㋇8月 ㋈9月 ㋉10月 ㋊11月 ㋋12月 ㋌hg ㋍erg ㋎ev ㋏ltd ㋐ア ㋑イ ㋒ウ ㋓エ ㋔オ ㋕カ ㋖キ ㋗ク ㋘ケ ㋙コ",
    "㋚サ ㋛シ ㋜ス ㋝セ ㋞ソ ㋟タ ㋠チ ㋡ツ ㋢テ ㋣ト ㋪ヒ ㋫フ ㋬ヘ ㋭ホ ㋳ヤ ㋴ユ ㋿令和 ㌀アパート ㌁アルファ ㌂アンペア ㌃アール ㌄イニング ㌅インチ ㌆ウォン",
    "㌇エスクード ㌈エーカー ㌉オンス ㌊オーム ㌋カイリ ㌌カラット ㌍カロリー ㌎ガロン ㌏ガンマ ㌐ギガ ㌑ギニー ㌒キュリー ㌓ギルダー ㌔キロ ㌕キログラム ㌖キロメートル",
    "㌗キロワット ㌘グラム ㌙グラムトン ㌚クルゼイロ ㌛クローネ ㌜ケース ㌝コルナ ㌞コーポ ㌟サイクル ㌠サンチーム ㌡シリング ㌢センチ ㌣セント ㌤ダース ㌥デシ ㌦ドル ㌧トン",
    "㌨ナノ ㌩ノット ㌪ハイツ ㌫パーセント ㌬パーツ ㌭バーレル ㌮ピアストル ㌯ピクル ㌰ピコ ㌱ビル ㌲ファラッド ㌳フィート ㌴ブッシェル ㌵フラン ㌶ヘクタール ㌷ペソ ㌸ペニヒ",
    "㌹ヘルツ ㌺ペンス ㌻ページ ㌼ベータ ㌽ポイント ㌾ボルト ㌿ホン ㍀ポンド ㍁ホール ㍂ホーン ㍃マイクロ ㍄マイル ㍅マッハ ㍆マルク ㍇マンション ㍈ミクロン ㍉ミリ",
    "㍊ミリバール ㍋メガ ㍌メガトン ㍍メートル ㍎ヤード ㍏ヤール ㍐ユアン ㍑リットル ㍒リラ ㍓ルピー ㍔ルーブル ㍕レム ㍖レントゲン ㍗ワット ㍘0点 ㍙1点 ㍚2点 ㍛3点",
    "㍜4点 ㍝5点 ㍞6点 ㍟7点 ㍠8点 ㍡9点 ㍢10点 ㍣11点 ㍤12点 ㍥13点 ㍦14点 ㍧15点 ㍨16点 ㍩17点 ㍪18点 ㍫19点 ㍬20点 ㍭21点 ㍮22点",
    "㍯23点 ㍰24点 ㍱hpa ㍲da ㍳au ㍴bar ㍵ov ㍶pc ㍷dm ㍸dm2 ㍹dm3 ㍺iu ㍻平成 ㍼昭和 ㍽大正 ㍾明治 ㍿株式会社 ㎀pa ㎁na ㎂μa ㎃ma",
    "㎄ka ㎅kb ㎆mb ㎇gb ㎈cal ㎉kcal ㎊pf ㎋nf ㎌μf ㎍μg ㎎mg ㎏kg ㎐hz ㎑khz ㎒mhz ㎓ghz ㎔thz ㎕μl ㎖ml ㎗dl ㎘kl",
    "㎙fm ㎚nm ㎛μm ㎜mm ㎝cm ㎞km ㎟mm2 ㎠cm2 ㎡m2 ㎢km2 ㎣mm3 ㎤cm3 ㎥m3 ㎦km3 ㎧m∕s ㎨m∕s2 ㎩pa ㎪kpa ㎫mpa ㎬gpa",
    "㎭rad ㎮rad∕s ㎯rad∕s2 ㎰ps ㎱ns ㎲μs ㎳ms ㎴pv ㎵nv ㎶μv ㎷mv ㎸kv ㎹mv ㎺pw ㎻nw ㎼μw ㎽mw ㎾kw ㎿mw ㏀kω ㏁mω",
    "㏃bq ㏄cc ㏅cd ㏆c∕kg ㏈db ㏉gy ㏊ha ㏋hp ㏌in ㏍kk ㏎km ㏏kt ㏐lm ㏑ln ㏒log ㏓lx ㏔mb ㏕mil ㏖mol ㏗ph ㏙ppm",
    "㏚pr ㏛sr ㏜sv ㏝wb ㏞v∕m ㏟a∕m ㏠1日 ㏡2日 ㏢3日 ㏣4日 ㏤5日 ㏥6日 ㏦7日 ㏧8日 ㏨9日 ㏩10日 ㏪11日 ㏫12日 ㏬13日 ㏭14日 ㏮15日",
    "㏯16日 ㏰17日 ㏱18日 ㏲19日 ㏳20日 ㏴21日 ㏵22日 ㏶23日 ㏷24日 ㏸25日 ㏹26日 ㏺27日 ㏻28日 ㏼29日 ㏽30日 ㏾31日 ㏿gal ꚜъ ꚝь",
    "ꝰꝯ \ua7f1s ꟲc ꟳf ꟴq ꟸħ ꟹœ ꭜꜧ ꭝꬷ ꭞɫ ꭟꭒ ꭩʍ 豈豈 更更 車車 賈賈 滑滑 串串 句句 龜龜 龜龜 契契 金金 喇喇 奈奈 懶懶 癩癩 羅羅 蘿蘿",
    "螺螺 裸裸 邏邏 樂樂 洛洛 烙烙 珞珞 落落 酪酪 駱駱 亂亂 卵卵 欄欄 爛爛 蘭蘭 鸞鸞 嵐嵐 濫濫 藍藍 襤襤 拉拉 臘臘 蠟蠟 廊廊 朗朗 浪浪 狼狼 郎郎 來來 冷冷 勞勞",
    "擄擄 櫓櫓 爐爐 盧盧 老老 蘆蘆 虜虜 路路 露露 魯魯 鷺鷺 碌碌 祿祿 綠綠 菉菉 錄錄 鹿鹿 論論 壟壟 弄弄 籠籠 聾聾 牢牢 磊磊 賂賂 雷雷 壘壘 屢屢 樓樓 淚淚 漏漏",
    "累累 縷縷 陋陋 勒勒 肋肋 凜凜 凌凌 稜稜 綾綾 菱菱 陵陵 讀讀 拏拏 樂樂 諾諾 丹丹 寧寧 怒怒 率率 異異 北北 磻磻 便便 復復 不不 泌泌 數數 索索 參參 塞塞 省省",
    "葉葉 說說 殺殺 辰辰 沈沈 拾拾 若若 掠掠 略略 亮亮 兩兩 凉凉 梁梁 糧糧 良良 諒諒 量量 勵勵 呂呂 女女 廬廬 旅旅 濾濾 礪礪 閭閭 驪驪 麗麗 黎黎 力力 曆曆 歷歷",
    "轢轢 年年 憐憐 戀戀 撚撚 漣漣 煉煉 璉璉 秊秊 練練 聯聯 輦輦 蓮蓮 連連 鍊鍊 列列 劣劣 咽咽 烈烈 裂裂 說說 廉廉 念念 捻捻 殮殮 簾簾 獵獵 令令 囹囹 寧寧 嶺嶺",
    "怜怜 玲玲 瑩瑩 羚羚 聆聆 鈴鈴 零零 靈靈 領領 例例 禮禮 醴醴 隸隸 惡惡 了了 僚僚 寮寮 尿尿 料料 樂樂 燎燎 療療 蓼蓼 遼遼 龍龍 暈暈 阮阮 劉劉 杻杻 柳柳 流流",
    "溜溜 琉琉 留留 硫硫 紐紐 類類 六六 戮戮 陸陸 倫倫 崙崙 淪淪 輪輪 律律 慄慄 栗栗 率率 隆隆 利利 吏吏 履履 易易 李李 梨梨 泥泥 理理 痢痢 罹罹 裏裏 裡裡 里里",
    "離離 匿匿 溺溺 吝吝 燐燐 璘璘 藺藺 隣隣 鱗鱗 麟麟 林林 淋淋 臨臨 立立 笠笠 粒粒 狀狀 炙炙 識識 什什 茶茶 刺刺 切切 度度 拓拓 糖糖 宅宅 洞洞 暴暴 輻輻 行行",
    "降降 見見 廓廓 兀兀 嗀嗀 塚塚 晴晴 凞凞 猪猪 益益 礼礼 神神 祥祥 福福 靖靖 精精 羽羽 蘒蘒 諸諸 逸逸 都都 飯飯 飼飼 館館 鶴鶴 郞郞 隷隷 侮侮 僧僧 免免 勉勉",
    "勤勤 卑卑 喝喝 嘆嘆 器器 塀塀 墨墨 層層 屮屮 悔悔 慨慨 憎憎 懲懲 敏敏 既既 暑暑 梅梅 海海 渚渚 漢漢 煮煮 爫爫 琢琢 碑碑 社社 祉祉 祈祈 祐祐 祖祖 祝祝 禍禍",
    "禎禎 穀穀 突突 節節 練練 縉縉 繁繁 署署 者者 臭臭 艹艹 艹艹 著著 褐褐 視視 謁謁 謹謹 賓賓 贈贈 辶辶 逸逸 難難 響響 頻頻 恵恵 𤋮𤋮 舘舘 並並 况况 全全 侀侀",
    "充充 冀冀 勇勇 勺勺 喝喝 啕啕 喙喙 嗢嗢 塚塚 墳墳 奄奄 奔奔 婢婢 嬨嬨 廒廒 廙廙 彩彩 徭徭 惘惘 慎慎 愈愈 憎憎 慠慠 懲懲 戴戴 揄揄 搜搜 摒摒 敖敖 晴晴 朗朗",
    "望望 杖杖 歹歹 殺殺 流流 滛滛 滋滋 漢漢 瀞瀞 煮煮 瞧瞧 爵爵 犯犯 猪猪 瑱瑱 甆甆 画画 瘝瘝 瘟瘟 益益 盛盛 直直 睊睊 着着 磌磌 窱窱 節節 类类 絛絛 練練 缾缾",
    "者者 荒荒 華華 蝹蝹 襁襁 覆覆 視視 調調 諸諸 請請 謁謁 諾諾 諭諭 謹謹 變變 贈贈 輸輸 遲遲 醙醙 鉶鉶 陼陼 難難 靖靖 韛韛 響響 頋頋 頻頻 鬒鬒 龜龜 𢡊𢡊 𢡄𢡄",
    "𣏕𣏕 㮝㮝 䀘䀘 䀹䀹 𥉉𥉉 𥳐𥳐 𧻓𧻓 齃齃 龎龎 ﬀff ﬁfi ﬂfl ﬃffi ﬄffl ﬅst ﬆst ﬓմն ﬔմե ﬕմի ﬖվն ﬗմխ",
    "\ufb1d\u05d9\u05b4 \ufb1f\u05f2\u05b7 \ufb20\u05e2 \ufb21\u05d0 \ufb22\u05d3 \ufb23\u05d4",
    "\ufb27\u05e8 \ufb28\u05ea ﬩+ \ufb2a\u05e9\u05c1 \ufb2b\u05e9\u05c2 \ufb2c\u05e9\u05bc\u05c1",
    "\ufb2d\u05e9\u05bc\u05c2 \ufb2e\u05d0\u05b7 \ufb2f\u05d0\u05b8 \ufb30\u05d0\u05bc",
    "\ufb31\u05d1\u05bc \ufb32\u05d2\u05bc \ufb33\u05d3\u05bc \ufb34\u05d4\u05bc",
    "\ufb35\u05d5\u05bc \ufb36\u05d6\u05bc \ufb38\u05d8\u05bc \ufb39\u05d9\u05bc",
    "\ufb3a\u05da\u05bc \ufb3b\u05db\u05bc \ufb3c\u05dc\u05bc \ufb3e\u05de\u05bc",
    "\ufb40\u05e0\u05bc \ufb41\u05e1\u05bc \ufb43\u05e3\u05bc \ufb44\u05e4\u05bc",
    "\ufb46\u05e6\u05bc \ufb47\u05e7\u05bc \ufb48\u05e8\u05bc \ufb49\u05e9\u05bc",
    "\ufb4a\u05ea\u05bc \ufb4b\u05d5\u05b9 \ufb4c\u05d1\u05bf \ufb4d\u05db\u05bf",
    "\ufb4e\u05e4\u05bf \ufb4f\u05d0\u05dc \ufb50\u0671 \ufb51\u0671 \ufb52\u067b \ufb53\u067b",
    "\ufb54\u067b \ufb55\u067b \ufb56\u067e \ufb57\u067e \ufb58\u067e \ufb59\u067e \ufb5a\u0680",
    "\ufb5b\u0680 \ufb5c\u0680 \ufb5d\u0680 \ufb5e\u067a \ufb5f\u067a \ufb60\u067a \ufb61\u067a",
    "\ufb62\u067f \ufb63\u067f \ufb64\u067f \ufb65\u067f \ufb66\u0679 \ufb67\u0679 \ufb68\u0679",
    "\ufb69\u0679 \ufb6a\u06a4 \ufb6b\u06a4 \ufb6c\u06a4 \ufb6d\u06a4 \ufb6e\u06a6 \ufb6f\u06a6",
    "\ufb70\u06a6 \ufb71\u06a6 \ufb72\u0684 \ufb73\u0684 \ufb74\u0684 \ufb75\u0684 \ufb76\u0683",
    "\ufb77\u0683 \ufb78\u0683 \ufb79\u0683 \ufb7a\u0686 \ufb7b\u0686 \ufb7c\u0686 \ufb7d\u0686",
    "\ufb7e\u0687 \ufb7f\u0687 \ufb80\u0687 \ufb81\u0687 \ufb82\u068d \ufb83\u068d \ufb84\u068c",
    "\ufb85\u068c \ufb86\u068e \ufb87\u068e \ufb88\u0688 \ufb89\u0688 \ufb8a\u0698 \ufb8b\u0698",
    "\ufb8c\u0691 \ufb8d\u0691 \ufb8e\u06a9 \ufb8f\u06a9 \ufb90\u06a9 \ufb91\u06a9 \ufb92\u06af",
    "\ufb93\u06af \ufb94\u06af \ufb95\u06af \ufb96\u06b3 \ufb97\u06b3 \ufb98\u06b3 \ufb99\u06b3",
    "\ufb9a\u06b1 \ufb9b\u06b1 \ufb9c\u06b1 \ufb9d\u06b1 \ufb9e\u06ba \ufb9f\u06ba \ufba0\u06bb",
    "\ufba1\u06bb \ufba2\u06bb \ufba3\u06bb \ufba4\u06c0 \ufba5\u06c0 \ufba6\u06c1 \ufba7\u06c1",
    "\ufba8\u06c1 \ufba9\u06c1 \ufbaa\u06be \ufbab\u06be \ufbac\u06be \ufbad\u06be \ufbae\u06d2",
    "\ufbaf\u06d2 \ufbb0\u06d3 \ufbb1\u06d3 \ufbd3\u06ad \ufbd4\u06ad \ufbd5\u06ad \ufbd6\u06ad",
    "\ufbd7\u06c7 \ufbd8\u06c7 \ufbd9\u06c6 \ufbda\u06c6 \ufbdb\u06c8 \ufbdc\u06c8",
    "\ufbdd\u06c7\u0674 \ufbde\u06cb \ufbdf\u06cb \ufbe0\u06c5 \ufbe1\u06c5 \ufbe2\u06c9",
    "\ufbe3\u06c9 \ufbe4\u06d0 \ufbe5\u06d0 \ufbe6\u06d0 \ufbe7\u06d0 \ufbe8\u0649 \ufbe9\u0649",
    "\ufbea\u0626\u0627 \ufbeb\u0626\u0627 \ufbec\u0626\u06d5 \ufbed\u0626\u06d5",
    "\ufbee\u0626\u0648 \ufbef\u0626\u0648 \ufbf0\u0626\u06c7 \ufbf1\u0626\u06c7",
    "\ufbf2\u0626\u06c6 \ufbf3\u0626\u06c6 \ufbf4\u0626\u06c8 \ufbf5\u0626\u06c8",
    "\ufbf6\u0626\u06d0 \ufbf7\u0626\u06d0 \ufbf8\u0626\u06d0 \ufbf9\u0626\u0649",
    "\ufbfa\u0626\u0649 \ufbfb\u0626\u0649 \ufbfc\u06cc \ufbfd\u06cc \ufbfe\u06cc \ufbff\u06cc",
    "\ufc00\u0626\u062c \ufc01\u0626\u062d \ufc02\u0626\u0645 \ufc03\u0626\u0649",
    "\ufc04\u0626\u064a \ufc05\u0628\u062c \ufc06\u0628\u062d \ufc07\u0628\u062e",
    "\ufc08\u0628\u0645 \ufc09\u0628\u0649 \ufc0a\u0628\u064a \ufc0b\u062a\u062c",
    "\ufc0c\u062a\u062d \ufc0d\u062a\u062e \ufc0e\u062a\u0645 \ufc0f\u062a\u0649",
    "\ufc10\u062a\u064a \ufc11\u062b\u062c \ufc12\u062b\u0645 \ufc13\u062b\u0649",
    "\ufc14\u062b\u064a \ufc15\u062c\u062d \ufc16\u062c\u0645 \ufc17\u062d\u062c",
    "\ufc18\u062d\u0645 \ufc19\u062e\u062c \ufc1a\u062e\u062d \ufc1b\u062e\u0645",
    "\ufc1c\u0633\u062c \ufc1d\u0633\u062d \ufc1e\u0633\u062e \ufc1f\u0633\u0645",
    "\ufc20\u0635\u062d \ufc21\u0635\u0645 \ufc22\u0636\u062c \ufc23\u0636\u062d",
    "\ufc24\u0636\u062e \ufc25\u0636\u0645 \ufc26\u0637\u062d \ufc27\u0637\u0645",
    "\ufc28\u0638\u0645 \ufc29\u0639\u062c \ufc2a\u0639\u0645 \ufc2b\u063a\u062c",
    "\ufc2c\u063a\u0645 \ufc2d\u0641\u062c \ufc2e\u0641\u062d \ufc2f\u0641\u062e",
    "\ufc30\u0641\u0645 \ufc31\u0641\u0649 \ufc32\u0641\u064a \ufc33\u0642\u062d",
    "\ufc34\u0642\u0645 \ufc35\u0642\u0649 \ufc36\u0642\u064a \ufc37\u0643\u0627",
    "\ufc38\u0643\u062c \ufc39\u0643\u062d \ufc3a\u0643\u062e \ufc3b\u0643\u0644",
    "\ufc3c\u0643\u0645 \ufc3d\u0643\u0649 \ufc3e\u0643\u064a \ufc3f\u0644\u062c",
    "\ufc40\u0644\u062d \ufc41\u0644\u062e \ufc42\u0644\u0645 \ufc43\u0644\u0649",
    "\ufc44\u0644\u064a \ufc45\u0645\u062c \ufc46\u0645\u062d \ufc47\u0645\u062e",
    "\ufc48\u0645\u0645 \ufc49\u0645\u0649 \ufc4a\u0645\u064a \ufc4b\u0646\u062c",
    "\ufc4c\u0646\u062d \ufc4d\u0646\u062e \ufc4e\u0646\u0645 \ufc4f\u0646\u0649",
    "\ufc50\u0646\u064a \ufc51\u0647\u062c \ufc52\u0647\u0645 \ufc53\u0647\u0649",
    "\ufc54\u0647\u064a \ufc55\u064a\u062c \ufc56\u064a\u062d \ufc57\u064a\u062e",
    "\ufc58\u064a\u0645 \ufc59\u064a\u0649 \ufc5a\u064a\u064a \ufc5b\u0630\u0670",
    "\ufc5c\u0631\u0670 \ufc5d\u0649\u0670 \ufc64\u0626\u0631 \ufc65\u0626\u0632",
    "\ufc66\u0626\u0645 \ufc67\u0626\u0646 \ufc68\u0626\u0649 \ufc69\u0626\u064a",
    "\ufc6a\u0628\u0631 \ufc6b\u0628\u0632 \ufc6c\u0628\u0645 \ufc6d\u0628\u0646",
    "\ufc6e\u0628\u0649 \ufc6f\u0628\u064a \ufc70\u062a\u0631 \ufc71\u062a\u0632",
    "\ufc72\u062a\u0645 \ufc73\u062a\u0646 \ufc74\u062a\u0649 \ufc75\u062a\u064a",
    "\ufc76\u062b\u0631 \ufc77\u062b\u0632 \ufc78\u062b\u0645 \ufc79\u062b\u0646",
    "\ufc7a\u062b\u0649 \ufc7b\u062b\u064a \ufc7c\u0641\u0649 \ufc7d\u0641\u064a",
    "\ufc7e\u0642\u0649 \ufc7f\u0642\u064a \ufc80\u0643\u0627 \ufc81\u0643\u0644",
    "\ufc82\u0643\u0645 \ufc83\u0643\u0649 \ufc84\u0643\u064a \ufc85\u0644\u0645",
    "\ufc86\u0644\u0649 \ufc87\u0644\u064a \ufc88\u0645\u0627 \ufc89\u0645\u0645",
    "\ufc8a\u0646\u0631 \ufc8b\u0646\u0632 \ufc8c\u0646\u0645 \ufc8d\u0646\u0646",
    "\ufc8e\u0646\u0649 \ufc8f\u0646\u064a \ufc90\u0649\u0670 \ufc91\u064a\u0631",
    "\ufc92\u064a\u0632 \ufc93\u064a\u0645 \ufc94\u064a\u0646 \ufc95\u064a\u0649",
    "\ufc96\u064a\u064a \ufc97\u0626\u062c \ufc98\u0626\u062d \ufc99\u0626\u062e",
    "\ufc9a\u0626\u0645 \ufc9b\u0626\u0647 \ufc9c\u0628\u062c \ufc9d\u0628\u062d",
    "\ufc9e\u0628\u062e \ufc9f\u0628\u0645 \ufca0\u0628\u0647 \ufca1\u062a\u062c",
    "\ufca2\u062a\u062d \ufca3\u062a\u062e \ufca4\u062a\u0645 \ufca5\u062a\u0647",
    "\ufca6\u062b\u0645 \ufca7\u062c\u062d \ufca8\u062c\u0645 \ufca9\u062d\u062c",
    "\ufcaa\u062d\u0645 \ufcab\u062e\u062c \ufcac\u062e\u0645 \ufcad\u0633\u062c",
    "\ufcae\u0633\u062d \ufcaf\u0633\u062e \ufcb0\u0633\u0645 \ufcb1\u0635\u062d",
    "\ufcb2\u0635\u062e \ufcb3\u0635\u0645 \ufcb4\u0636\u062c \ufcb5\u0636\u062d",
    "\ufcb6\u0636\u062e \ufcb7\u0636\u0645 \ufcb8\u0637\u062d \ufcb9\u0638\u0645",
    "\ufcba\u0639\u062c \ufcbb\u0639\u0645 \ufcbc\u063a\u062c \ufcbd\u063a\u0645",
    "\ufcbe\u0641\u062c \ufcbf\u0641\u062d \ufcc0\u0641\u062e \ufcc1\u0641\u0645",
    "\ufcc2\u0642\u062d \ufcc3\u0642\u0645 \ufcc4\u0643\u062c \ufcc5\u0643\u062d",
    "\ufcc6\u0643\u062e \ufcc7\u0643\u0644 \ufcc8\u0643\u0645 \ufcc9\u0644\u062c",
    "\ufcca\u0644\u062d \ufccb\u0644\u062e \ufccc\u0644\u0645 \ufccd\u0644\u0647",
    "\ufcce\u0645\u062c \ufccf\u0645\u062d \ufcd0\u0645\u062e \ufcd1\u0645\u0645",
    "\ufcd2\u0646\u062c \ufcd3\u0646\u062d \ufcd4\u0646\u062e \ufcd5\u0646\u0645",
    "\ufcd6\u0646\u0647 \ufcd7\u0647\u062c \ufcd8\u0647\u0645 \ufcd9\u0647\u0670",
    "\ufcda\u064a\u062c \ufcdb\u064a\u062d \ufcdc\u064a\u062e \ufcdd\u064a\u0645",
    "\ufcde\u064a\u0647 \ufcdf\u0626\u0645 \ufce0\u0626\u0647 \ufce1\u0628\u0645",
    "\ufce2\u0628\u0647 \ufce3\u062a\u0645 \ufce4\u062a\u0647 \ufce5\u062b\u0645",
    "\ufce6\u062b\u0647 \ufce7\u0633\u0645 \ufce8\u0633\u0647 \ufce9\u0634\u0645",
    "\ufcea\u0634\u0647 \ufceb\u0643\u0644 \ufcec\u0643\u0645 \ufced\u0644\u0645",
    "\ufcee\u0646\u0645 \ufcef\u0646\u0647 \ufcf0\u064a\u0645 \ufcf1\u064a\u0647",
    "\ufcf2\u0640\u064e\u0651 \ufcf3\u0640\u064f\u0651 \ufcf4\u0640\u0650\u0651",
    "\ufcf5\u0637\u0649 \ufcf6\u0637\u064a \ufcf7\u0639\u0649 \ufcf8\u0639\u064a",
    "\ufcf9\u063a\u0649 \ufcfa\u063a\u064a \ufcfb\u0633\u0649 \ufcfc\u0633\u064a",
    "\ufcfd\u0634\u0649 \ufcfe\u0634\u064a \ufcff\u062d\u0649 \ufd00\u062d\u064a",
    "\ufd01\u062c\u0649 \ufd02\u062c\u064a \ufd03\u062e\u0649 \ufd04\u062e\u064a",
    "\ufd05\u0635\u0649 \ufd06\u0635\u064a \ufd07\u0636\u0649 \ufd08\u0636\u064a",
    "\ufd09\u0634\u062c \ufd0a\u0634\u062d \ufd0b\u0634\u062e \ufd0c\u0634\u0645",
    "\ufd0d\u0634\u0631 \ufd0e\u0633\u0631 \ufd0f\u0635\u0631 \ufd10\u0636\u0631",
    "\ufd11\u0637\u0649 \ufd12\u0637\u064a \ufd13\u0639\u0649 \ufd14\u0639\u064a",
    "\ufd15\u063a\u0649 \ufd16\u063a\u064a \ufd17\u0633\u0649 \ufd18\u0633\u064a",
    "\ufd19\u0634\u0649 \ufd1a\u0634\u064a \ufd1b\u062d\u0649 \ufd1c\u062d\u064a",
    "\ufd1d\u062c\u0649 \ufd1e\u062c\u064a \ufd1f\u062e\u0649 \ufd20\u062e\u064a",
    "\ufd21\u0635\u0649 \ufd22\u0635\u064a \ufd23\u0636\u0649 \ufd24\u0636\u064a",
    "\ufd25\u0634\u062c \ufd26\u0634\u062d \ufd27\u0634\u062e \ufd28\u0634\u0645",
    "\ufd29\u0634\u0631 \ufd2a\u0633\u0631 \ufd2b\u0635\u0631 \ufd2c\u0636\u0631",
    "\ufd2d\u0634\u062c \ufd2e\u0634\u062d \ufd2f\u0634\u062e \ufd30\u0634\u0645",
    "\ufd31\u0633\u0647 \ufd32\u0634\u0647 \ufd33\u0637\u0645 \ufd34\u0633\u062c",
    "\ufd35\u0633\u062d \ufd36\u0633\u062e \ufd37\u0634\u062c \ufd38\u0634\u062d",
    "\ufd39\u0634\u062e \ufd3a\u0637\u0645 \ufd3b\u0638\u0645 \ufd3c\u0627\u064b",
    "\ufd3d\u0627\u064b \ufd50\u062a\u062c\u0645 \ufd51\u062a\u062d\u062c",
    "\ufd52\u062a\u062d\u062c \ufd53\u062a\u062d\u0645 \ufd54\u062a\u062e\u0645",
    "\ufd55\u062a\u0645\u062c \ufd56\u062a\u0645\u062d \ufd57\u062a\u0645\u062e",
    "\ufd58\u062c\u0645\u062d \ufd59\u062c\u0645\u062d \ufd5a\u062d\u0645\u064a",
    "\ufd5b\u062d\u0645\u0649 \ufd5c\u0633\u062d\u062c \ufd5d\u0633\u062c\u062d",
    "\ufd5e\u0633\u062c\u0649 \ufd5f\u0633\u0645\u062d \ufd60\u0633\u0645\u062d",
    "\ufd61\u0633\u0645\u062c \ufd62\u0633\u0645\u0645 \ufd63\u0633\u0645\u0645",
    "\ufd64\u0635\u062d\u062d \ufd65\u0635\u062d\u062d \ufd66\u0635\u0645\u0645",
    "\ufd67\u0634\u062d\u0645 \ufd68\u0634\u062d\u0645 \ufd69\u0634\u062c\u064a",
    "\ufd6a\u0634\u0645\u062e \ufd6b\u0634\u0645\u062e \ufd6c\u0634\u0645\u0645",
    "\ufd6d\u0634\u0645\u0645 \ufd6e\u0636\u062d\u0649 \ufd6f\u0636\u062e\u0645",
    "\ufd70\u0636\u062e\u0645 \ufd71\u0637\u0645\u062d \ufd72\u0637\u0645\u062d",
    "\ufd73\u0637\u0645\u0645 \ufd74\u0637\u0645\u064a \ufd75\u0639\u062c\u0645",
    "\ufd76\u0639\u0645\u0645 \ufd77\u0639\u0645\u0645 \ufd78\u0639\u0645\u0649",
    "\ufd79\u063a\u0645\u0645 \ufd7a\u063a\u0645\u064a \ufd7b\u063a\u0645\u0649",
    "\ufd7c\u0641\u062e\u0645 \ufd7d\u0641\u062e\u0645 \ufd7e\u0642\u0645\u062d",
    "\ufd7f\u0642\u0645\u0645 \ufd80\u0644\u062d\u0645 \ufd81\u0644\u062d\u064a",
    "\ufd82\u0644\u062d\u0649 \ufd83\u0644\u062c\u062c \ufd84\u0644\u062c\u062c",
    "\ufd85\u0644\u062e\u0645 \ufd86\u0644\u062e\u0645 \ufd87\u0644\u0645\u062d",
    "\ufd88\u0644\u0645\u062d \ufd89\u0645\u062d\u062c \ufd8a\u0645\u062d\u0645",
    "\ufd8b\u0645\u062d\u064a \ufd8c\u0645\u062c\u062d \ufd8d\u0645\u062c\u0645",
    "\ufd8e\u0645\u062e\u062c \ufd8f\u0645\u062e\u0645 \ufd92\u0645\u062c\u062e",
    "\ufd93\u0647\u0645\u062c \ufd94\u0647\u0645\u0645 \ufd95\u0646\u062d\u0645",
    "\ufd96\u0646\u062d\u0649 \ufd97\u0646\u062c\u0645 \ufd98\u0646\u062c\u0645",
    "\ufd99\u0646\u062c\u0649 \ufd9a\u0646\u0645\u064a \ufd9b\u0646\u0645\u0649",
    "\ufd9c\u064a\u0645\u0645 \ufd9d\u064a\u0645\u0645 \ufd9e\u0628\u062e\u064a",
    "\ufd9f\u062a\u062c\u064a \ufda0\u062a\u062c\u0649 \ufda1\u062a\u062e\u064a",
    "\ufda2\u062a\u062e\u0649 \ufda3\u062a\u0645\u064a \ufda4\u062a\u0645\u0649",
    "\ufda5\u062c\u0645\u064a \ufda6\u062c\u062d\u0649 \ufda7\u062c\u0645\u0649",
    "\ufda8\u0633\u062e\u0649 \ufda9\u0635\u062d\u064a \ufdaa\u0634\u062d\u064a",
    "\ufdab\u0636\u062d\u064a \ufdac\u0644\u062c\u064a \ufdad\u0644\u0645\u064a",
    "\ufdae\u064a\u062d\u064a \ufdaf\u064a\u062c\u064a \ufdb0\u064a\u0645\u064a",
    "\ufdb1\u0645\u0645\u064a \ufdb2\u0642\u0645\u064a \ufdb3\u0646\u062d\u064a",
    "\ufdb4\u0642\u0645\u062d \ufdb5\u0644\u062d\u0645 \ufdb6\u0639\u0645\u064a",
    "\ufdb7\u0643\u0645\u064a \ufdb8\u0646\u062c\u062d \ufdb9\u0645\u062e\u064a",
    "\ufdba\u0644\u062c\u0645 \ufdbb\u0643\u0645\u0645 \ufdbc\u0644\u062c\u0645",
    "\ufdbd\u0646\u062c\u062d \ufdbe\u062c\u062d\u064a \ufdbf\u062d\u062c\u064a",
    "\ufdc0\u0645\u062c\u064a \ufdc1\u0641\u0645\u064a \ufdc2\u0628\u062d\u064a",
    "\ufdc3\u0643\u0645\u0645 \ufdc4\u0639\u062c\u0645 \ufdc5\u0635\u0645\u0645",
    "\ufdc6\u0633\u062e\u064a \ufdc7\u0646\u062c\u064a \ufdf0\u0635\u0644\u06d2",
    "\ufdf1\u0642\u0644\u06d2 \ufdf2\u0627\u0644\u0644\u0647 \ufdf3\u0627\u0643\u0628\u0631",
    "\ufdf4\u0645\u062d\u0645\u062f \ufdf5\u0635\u0644\u0639\u0645 \ufdf6\u0631\u0633\u0648\u0644",
    "\ufdf7\u0639\u0644\u064a\u0647 \ufdf8\u0648\u0633\u0644\u0645 \ufdf9\u0635\u0644\u0649",
    "\ufdfc\u0631\u06cc\u0627\u0644 ︐, ︑、 ︔; ︕! ︗〖 ︘〗 ︱— ︲– ︳_ ︴_ ︵( ︶) ︷\x7b ︸\x7d ︹〔 ︺〕 ︻【 ︼】",
    "︽《 ︾》 ︿〈 ﹀〉 ﹍_ ﹎_ ﹏_ ﹐, ﹑、 ﹔; ﹗! ﹘— ﹙( ﹚) ﹛\x7b ﹜\x7d ﹝〔 ﹞〕 ﹠& ﹡* ﹢+ ﹣- ﹦= ﹩$",
    "\ufe71\u0640\u064b \ufe77\u0640\u064e \ufe79\u0640\u064f \ufe7b\u0640\u0650",
    "\ufe7d\u0640\u0651 \ufe7f\u0640\u0652 \ufe80\u0621 \ufe81\u0622 \ufe82\u0622 \ufe83\u0623",
    "\ufe84\u0623 \ufe85\u0624 \ufe86\u0624 \ufe87\u0625 \ufe88\u0625 \ufe89\u0626 \ufe8a\u0626",
    "\ufe8b\u0626 \ufe8c\u0626 \ufe8d\u0627 \ufe8e\u0627 \ufe8f\u0628 \ufe90\u0628 \ufe91\u0628",
    "\ufe92\u0628 \ufe93\u0629 \ufe94\u0629 \ufe95\u062a \ufe96\u062a \ufe97\u062a \ufe98\u062a",
    "\ufe99\u062b \ufe9a\u062b \ufe9b\u062b \ufe9c\u062b \ufe9d\u062c \ufe9e\u062c \ufe9f\u062c",
    "\ufea0\u062c \ufea1\u062d \ufea2\u062d \ufea3\u062d \ufea4\u062d \ufea5\u062e \ufea6\u062e",
    "\ufea7\u062e \ufea8\u062e \ufea9\u062f \ufeaa\u062f \ufeab\u0630 \ufeac\u0630 \ufead\u0631",
    "\ufeae\u0631 \ufeaf\u0632 \ufeb0\u0632 \ufeb1\u0633 \ufeb2\u0633 \ufeb3\u0633 \ufeb4\u0633",
    "\ufeb5\u0634 \ufeb6\u0634 \ufeb7\u0634 \ufeb8\u0634 \ufeb9\u0635 \ufeba\u0635 \ufebb\u0635",
    "\ufebc\u0635 \ufebd\u0636 \ufebe\u0636 \ufebf\u0636 \ufec0\u0636 \ufec1\u0637 \ufec2\u0637",
    "\ufec3\u0637 \ufec4\u0637 \ufec5\u0638 \ufec6\u0638 \ufec7\u0638 \ufec8\u0638 \ufec9\u0639",
    "\ufeca\u0639 \ufecb\u0639 \ufecc\u0639 \ufecd\u063a \ufece\u063a \ufecf\u063a \ufed0\u063a",
    "\ufed1\u0641 \ufed2\u0641 \ufed3\u0641 \ufed4\u0641 \ufed5\u0642 \ufed6\u0642 \ufed7\u0642",
    "\ufed8\u0642 \ufed9\u0643 \ufeda\u0643 \ufedb\u0643 \ufedc\u0643 \ufedd\u0644 \ufede\u0644",
    "\ufedf\u0644 \ufee0\u0644 \ufee1\u0645 \ufee2\u0645 \ufee3\u0645 \ufee4\u0645 \ufee5\u0646",
    "\ufee6\u0646 \ufee7\u0646 \ufee8\u0646 \ufee9\u0647 \ufeea\u0647 \ufeeb\u0647 \ufeec\u0647",
    "\ufeed\u0648 \ufeee\u0648 \ufeef\u0649 \ufef0\u0649 \ufef1\u064a \ufef2\u064a \ufef3\u064a",
    "\ufef4\u064a \ufef5\u0644\u0622 \ufef6\u0644\u0622 \ufef7\u0644\u0623 \ufef8\u0644\u0623",
    "\ufef9\u0644\u0625 \ufefa\u0644\u0625 \ufefb\u0644\u0627 \ufefc\u0644\u0627 ！! ＂\" ＄$ ；; ＝=",
    "｝\x7d ～~ ｟⦅ ｠⦆ ｡. ｢「 ｣」 ､、 ･・ ｦヲ ｧァ ｨィ ｩゥ ｪェ ｫォ ｬャ ｭュ ｮョ ｯッ ｰー ｱア ｲイ ｳウ ｴエ ｵオ ｶカ ｷキ ｸク ｹケ ｺコ",
    "ｻサ ｼシ ｽス ｾセ ｿソ ﾀタ ﾁチ ﾂツ ﾃテ ﾄト ﾋヒ ﾌフ ﾍヘ ﾎホ ﾔヤ ﾕユ ﾜワ ﾝン ﾞ\u3099 ﾟ\u309a ﾡ\u1100 ﾢ\u1101",
    "ﾣ\u11aa ﾤ\u1102 ﾥ\u11ac ﾦ\u11ad ﾰ\u111a ﾴ\u1121 ￠¢ ￡£ ￢¬ ￤¦ ￥¥ ￦₩ ￨│ ￭■ ￮○ 𐞁ː 𐞂ˑ 𐞃æ 𐞄ʙ 𐞅ɓ 𐞇ʣ",
    "𐞈ꭦ 𐞉ʥ 𐞊ʤ 𐞋ɖ 𐞌ɗ 𐞍ᶑ 𐞎ɘ 𐞏ɞ 𐞐ʩ 𐞑ɤ 𐞒ɢ 𐞓ɠ 𐞔ʛ 𐞕ħ 𐞖ʜ 𐞗ɧ 𐞘ʄ 𐞙ʪ 𐞚ʫ 𐞛ɬ 𐞜𝼄 𐞝ꞎ 𐞞ɮ 𐞟𝼅 𐞠ʎ 𐞡𝼆 𐞢ø 𐞣ɶ 𐞤ɷ 𐞥q 𐞦ɺ",
    "𐞧𝼈 𐞨ɽ 𐞩ɾ 𐞪ʀ 𐞫ʨ 𐞬ʦ 𐞭ꭧ 𐞮ʧ 𐞯ʈ 𐞰ⱱ 𐞲ʏ 𐞳ʡ 𐞴ʢ 𐞵ʘ 𐞹𝼊 𐞺𝼞 𝅗𝅥𝅗𝅥 𝅘𝅥𝅘𝅥 𝅘𝅥𝅮𝅘𝅥𝅮 𝅘𝅥𝅯𝅘𝅥𝅯 𝅘𝅥𝅰𝅘𝅥𝅰 𝅘𝅥𝅱𝅘𝅥𝅱 𝅘𝅥𝅲𝅘𝅥𝅲 𝆹𝅥𝆹𝅥 𝆺𝅥𝆺𝅥",
    "𝆹𝅥𝅮𝆹𝅥𝅮 𝆺𝅥𝅮𝆺𝅥𝅮 𝆹𝅥𝅯𝆹𝅥𝅯 𝆺𝅥𝅯𝆺𝅥𝅯 𝒜a 𝒞c 𝒟d 𝒢g 𝒥j 𝒦k 𝒻f 𝔄a 𝔅b 𝔸a 𝔹b 𝕆o 𝚤ı 𝚥ȷ 𝚹θ 𝛁∇ 𝛓σ 𝛛∂ 𝛜ε 𝛝θ 𝛞κ 𝛟φ 𝛠ρ 𝛡π",
    "𝛳θ 𝛻∇ 𝜍σ 𝜕∂ 𝜖ε 𝜗θ 𝜘κ 𝜙φ 𝜚ρ 𝜛π 𝜭θ 𝜵∇ 𝝇σ 𝝏∂ 𝝐ε 𝝑θ 𝝒κ 𝝓φ 𝝔ρ 𝝕π 𝝧θ 𝝯∇ 𝞁σ 𝞉∂ 𝞊ε 𝞋θ 𝞌κ 𝞍φ 𝞎ρ 𝞏π 𝞡θ",
    "𝞩∇ 𝞻σ 𝟃∂ 𝟄ε 𝟅θ 𝟆κ 𝟇φ 𝟈ρ 𝟉π 𝟊ϝ 𝟋ϝ 𞁇ы 𞁈э 𞁉ю 𞁊ꚉ 𞁋ә 𞁌і 𞁍ј 𞁎ө 𞁏ү 𞁐ӏ 𞁚к 𞁛л 𞁜о 𞁝п 𞁞с 𞁥ъ 𞁦ы 𞁧ґ 𞁨і 𞁩ѕ",
    "𞁪џ 𞁫ҫ 𞁬ꙑ 𞁭ұ 𞸀\u0627 𞸁\u0628 𞸂\u062c 𞸃\u062f 𞸅\u0648 𞸆\u0632 𞸇\u062d 𞸈\u0637 𞸉\u064a 𞸎\u0633",
    "𞸏\u0639 𞸐\u0641 𞸑\u0635 𞸒\u0642 𞸓\u0631 𞸔\u0634 𞸕\u062a 𞸖\u062b 𞸗\u062e 𞸘\u0630 𞸙\u0636",
    "𞸚\u0638 𞸛\u063a 𞸜\u066e 𞸝\u06ba 𞸞\u06a1 𞸟\u066f 𞸡\u0628 𞸢\u062c 𞸤\u0647 𞸧\u062d 𞸩\u064a",
    "𞸮\u0633 𞸯\u0639 𞸰\u0641 𞸱\u0635 𞸲\u0642 𞸴\u0634 𞸵\u062a 𞸶\u062b 𞸷\u062e 𞸹\u0636 𞸻\u063a",
    "𞹂\u062c 𞹇\u062d 𞹉\u064a 𞹋\u0644 𞹍\u0646 𞹎\u0633 𞹏\u0639 𞹑\u0635 𞹒\u0642 𞹔\u0634 𞹗\u062e",
    "𞹙\u0636 𞹛\u063a 𞹝\u06ba 𞹟\u066f 𞹡\u0628 𞹢\u062c 𞹤\u0647 𞹧\u062d 𞹨\u0637 𞹩\u064a 𞹪\u0643",
    "𞹬\u0645 𞹭\u0646 𞹮\u0633 𞹯\u0639 𞹰\u0641 𞹱\u0635 𞹲\u0642 𞹴\u0634 𞹵\u062a 𞹶\u062b 𞹷\u062e",
    "𞹹\u0636 𞹺\u0638 𞹻\u063a 𞹼\u066e 𞹾\u06a1 𞺀\u0627 𞺁\u0628 𞺂\u062c 𞺃\u062f 𞺄\u0647 𞺅\u0648",
    "𞺆\u0632 𞺇\u062d 𞺈\u0637 𞺉\u064a 𞺎\u0633 𞺏\u0639 𞺐\u0641 𞺑\u0635 𞺒\u0642 𞺓\u0631 𞺔\u0634",
    "𞺕\u062a 𞺖\u062b 𞺗\u062e 𞺘\u0630 𞺙\u0636 𞺚\u0638 𞺛\u063a 𞺡\u0628 𞺢\u062c 𞺣\u062f 𞺥\u0648",
    "𞺦\u0632 𞺧\u062d 𞺨\u0637 𞺩\u064a 𞺮\u0633 𞺯\u0639 𞺰\u0641 𞺱\u0635 𞺲\u0642 𞺳\u0631 𞺴\u0634",
    "𞺵\u062a 𞺶\u062b 𞺷\u062e 𞺸\u0630 𞺹\u0636 𞺺\u0638 𞺻\u063a 🄁0, 🄂1, 🄃2, 🄄3, 🄅4, 🄆5, 🄇6, 🄈7, 🄉8,",
    "🄊9, 🄐(a) 🄑(b) 🄒(c) 🄓(d) 🄔(e) 🄕(f) 🄖(g) 🄗(h) 🄘(i) 🄙(j) 🄚(k) 🄛(l) 🄜(m) 🄝(n) 🄞(o) 🄟(p) 🄠(q)",
    "🄡(r) 🄢(s) 🄣(t) 🄤(u) 🄥(v) 🄦(w) 🄧(x) 🄨(y) 🄩(z) 🄪〔s〕 🄫c 🄬r 🄭cd 🄮wz 🅊hv 🅋mv 🅌sd 🅍ss 🅎ppv 🅏wc 🅪mc",
    "🅫md 🅬mr 🆐dj 🈀ほか 🈁ココ 🈂サ 🈐手 🈑字 🈒双 🈓デ 🈔二 🈕多 🈖解 🈗天 🈘交 🈙映 🈚無 🈛料 🈜前 🈝後 🈞再 🈟新 🈠初 🈡終 🈢生 🈣販 🈤声 🈥吹 🈦演",
    "🈧投 🈨捕 🈩一 🈪三 🈫遊 🈬左 🈭中 🈮右 🈯指 🈰走 🈱打 🈲禁 🈳空 🈴合 🈵満 🈶有 🈷月 🈸申 🈹割 🈺営 🈻配 🉀〔本〕 🉁〔三〕 🉂〔二〕 🉃〔安〕 🉄〔点〕 🉅〔打〕",
    "🉆〔盗〕 🉇〔勝〕 🉈〔敗〕 🉐得 🉑可 丽丽 丸丸 乁乁 𠄢𠄢 你你 侮侮 侻侻 倂倂 偺偺 備備 僧僧 像像 㒞㒞 𠘺𠘺 免免 兔兔 兤兤 具具 𠔜𠔜 㒹㒹 內內 再再 𠕋𠕋 冗冗",
    "冤冤 仌仌 冬冬 况况 𩇟𩇟 凵凵 刃刃 㓟㓟 刻刻 剆剆 割割 剷剷 㔕㔕 勇勇 勉勉 勤勤 勺勺 包包 匆匆 北北 卉卉 卑卑 博博 即即 卽卽 卿卿 卿卿 卿卿 𠨬𠨬 灰灰 及及",
    "叟叟 𠭣𠭣 叫叫 叱叱 吆吆 咞咞 吸吸 呈呈 周周 咢咢 哶哶 唐唐 啓啓 啣啣 善善 善善 喙喙 喫喫 喳喳 嗂嗂 圖圖 嘆嘆 圗圗 噑噑 噴噴 切切 壮壮 城城 埴埴 堍堍 型型",
    "堲堲 報報 墬墬 𡓤𡓤 売売 壷壷 夆夆 多多 夢夢 奢奢 𡚨𡚨 𡛪𡛪 姬姬 娛娛 娧娧 姘姘 婦婦 㛮㛮 㛼㛼 嬈嬈 嬾嬾 嬾嬾 𡧈𡧈 寃寃 寘寘 寧寧 寳寳 𡬘𡬘 寿寿 将将 当当",
    "尢尢 㞁㞁 屠屠 屮屮 峀峀 岍岍 𡷤𡷤 嵃嵃 𡷦𡷦 嵮嵮 嵫嵫 嵼嵼 巡巡 巢巢 㠯㠯 巽巽 帨帨 帽帽 幩幩 㡢㡢 𢆃𢆃 㡼㡼 庰庰 庳庳 庶庶 廊廊 𪎒𪎒 廾廾 𢌱𢌱 𢌱𢌱 舁舁",
    "弢弢 弢弢 㣇㣇 𣊸𣊸 𦇚𦇚 形形 彫彫 㣣㣣 徚徚 忍忍 志志 忹忹 悁悁 㤺㤺 㤜㤜 悔悔 𢛔𢛔 惇惇 慈慈 慌慌 慎慎 慌慌 慺慺 憎憎 憲憲 憤憤 憯憯 懞懞 懲懲 懶懶 成成",
    "戛戛 扝扝 抱抱 拔拔 捐捐 𢬌𢬌 挽挽 拼拼 捨捨 掃掃 揤揤 𢯱𢯱 搢搢 揅揅 掩掩 㨮㨮 摩摩 摾摾 撝撝 摷摷 㩬㩬 敏敏 敬敬 𣀊𣀊 旣旣 書書 晉晉 㬙㬙 暑暑 㬈㬈 㫤㫤",
    "冒冒 冕冕 最最 暜暜 肭肭 䏙䏙 朗朗 望望 朡朡 杞杞 杓杓 𣏃𣏃 㭉㭉 柺柺 枅枅 桒桒 梅梅 𣑭𣑭 梎梎 栟栟 椔椔 㮝㮝 楂楂 榣榣 槪槪 檨檨 𣚣𣚣 櫛櫛 㰘㰘 次次 𣢧𣢧",
    "歔歔 㱎㱎 歲歲 殟殟 殺殺 殻殻 𣪍𣪍 𡴋𡴋 𣫺𣫺 汎汎 𣲼𣲼 沿沿 泍泍 汧汧 洖洖 派派 海海 流流 浩浩 浸浸 涅涅 𣴞𣴞 洴洴 港港 湮湮 㴳㴳 滋滋 滇滇 𣻑𣻑 淹淹 潮潮",
    "𣽞𣽞 𣾎𣾎 濆濆 瀹瀹 瀞瀞 瀛瀛 㶖㶖 灊灊 災災 灷灷 炭炭 𠔥𠔥 煅煅 𤉣𤉣 熜熜 𤎫𤎫 爨爨 爵爵 牐牐 𤘈𤘈 犀犀 犕犕 𤜵𤜵 𤠔𤠔 獺獺 王王 㺬㺬 玥玥 㺸㺸 㺸㺸 瑇瑇",
    "瑜瑜 瑱瑱 璅璅 瓊瓊 㼛㼛 甤甤 𤰶𤰶 甾甾 𤲒𤲒 異異 𢆟𢆟 瘐瘐 𤾡𤾡 𤾸𤾸 𥁄𥁄 㿼㿼 䀈䀈 直直 𥃳𥃳 𥃲𥃲 𥄙𥄙 𥄳𥄳 眞眞 真真 真真 睊睊 䀹䀹 瞋瞋 䁆䁆 䂖䂖 𥐝𥐝",
    "硎硎 碌碌 磌磌 䃣䃣 𥘦𥘦 祖祖 𥚚𥚚 𥛅𥛅 福福 秫秫 䄯䄯 穀穀 穊穊 穏穏 𥥼𥥼 𥪧𥪧 𥪧𥪧 竮竮 䈂䈂 𥮫𥮫 篆篆 築築 䈧䈧 𥲀𥲀 糒糒 䊠䊠 糨糨 糣糣 紀紀 𥾆𥾆 絣絣",
    "䌁䌁 緇緇 縂縂 繅繅 䌴䌴 𦈨𦈨 𦉇𦉇 䍙䍙 𦋙𦋙 罺罺 𦌾𦌾 羕羕 翺翺 者者 𦓚𦓚 𦔣𦔣 聠聠 𦖨𦖨 聰聰 𣍟𣍟 䏕䏕 育育 脃脃 䐋䐋 脾脾 媵媵 𦞧𦞧 𦞵𦞵 𣎓𣎓 𣎜𣎜 舁舁",
    "舄舄 辞辞 䑫䑫 芑芑 芋芋 芝芝 劳劳 花花 芳芳 芽芽 苦苦 𦬼𦬼 若若 茝茝 荣荣 莭莭 茣茣 莽莽 菧菧 著著 荓荓 菊菊 菌菌 菜菜 𦰶𦰶 𦵫𦵫 𦳕𦳕 䔫䔫 蓱蓱 蓳蓳 蔖蔖",
    "𧏊𧏊 蕤蕤 𦼬𦼬 䕝䕝 䕡䕡 𦾱𦾱 𧃒𧃒 䕫䕫 虐虐 虜虜 虧虧 虩虩 蚩蚩 蚈蚈 蜎蜎 蛢蛢 蝹蝹 蜨蜨 蝫蝫 螆螆 䗗䗗 蟡蟡 蠁蠁 䗹䗹 衠衠 衣衣 𧙧𧙧 裗裗 裞裞 䘵䘵 裺裺",
    "㒻㒻 𧢮𧢮 𧥦𧥦 䚾䚾 䛇䛇 誠誠 諭諭 變變 豕豕 𧲨𧲨 貫貫 賁賁 贛贛 起起 𧼯𧼯 𠠄𠠄 跋跋 趼趼 跰跰 𠣞𠣞 軔軔 輸輸 𨗒𨗒 𨗭𨗭 邔邔 郱郱 鄑鄑 𨜮𨜮 鄛鄛 鈸鈸 鋗鋗",
    "鋘鋘 鉼鉼 鏹鏹 鐕鐕 𨯺𨯺 開開 䦕䦕 閷閷 𨵷𨵷 䧦䧦 雃雃 嶲嶲 霣霣 𩅅𩅅 𩈚𩈚 䩮䩮 䩶䩶 韠韠 𩐊𩐊 䪲䪲 𩒖𩒖 頋頋 頋頋 頩頩 𩖶𩖶 飢飢 䬳䬳 餩餩 馧馧 駂駂 駾駾",
    "䯎䯎 𩬰𩬰 鬒鬒 鱀鱀 鳽鳽 䳎䳎 䳭䳭 鵧鵧 𪃎𪃎 䳸䳸 𪄅𪄅 𪈎𪈎 𪊑𪊑 麻麻 䵖䵖 黹黹 黾黾 鼅鼅 鼏鼏 鼖鼖 鼻鼻 𪘀𪘀"
  ]

/-- The first character of a text, and the others. -/
def splitFirst? (entry : String) : Option (Char × List Char) :=
  match entry.toList with
  | c :: cs => some (c, cs)
  | [] => none

/-- Single characters with what they fold to. -/
def folds : List (Char × List Char) :=
  foldLines.flatMap fun line => (line.splitOn " ").filterMap splitFirst?

/-- The ranges of characters that fold to nothing: they only say how to show what stands beside
them. -/
def unseenRanges : List (Nat × Nat) :=
  [
    (0xad, 0xad), (0x34f, 0x34f), (0x180b, 0x180d), (0x180f, 0x180f), (0x200b, 0x200b),
    (0x2060, 0x2060), (0x2064, 0x2064), (0xfe00, 0xfe0f), (0xfeff, 0xfeff), (0x1bca0, 0x1bca3),
    (0xe0100, 0xe01ef)
  ]

/-- What a character folds to. -/
def foldChar (c : Char) : List Char :=
  if c.toNat < 0x80 then [c.toLower]
  else if isWithin unseenRanges c then []
  else match foldRuns.find? fun (first, last, _) => first ≤ c.toNat && c.toNat ≤ last with
    | some (_, _, shift) => [Char.ofNat (c.toNat + shift).toNat]
    | none => (folds.lookup c).getD (lowerChar c)

/-- The folded form of a text. -/
def folded (cs : List Char) : List Char := cs.flatMap foldChar

end Galley.Text
