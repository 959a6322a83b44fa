import Galley.Text.Mark

/-!
# Composed characters

A letter with marks can be written in more than one way: as one character, or as a letter with
characters for its marks behind it, and these in more than one order. In the *composed* form of a
text the marks stand in the order of their classes, and a letter and its marks are one character
where there is one for them. Texts that are written differently and mean the same have the same
composed form.

The syllables of Hangul are composed by arithmetic; for all others there is a table.
-/

namespace Galley.Text

/-- The composite characters, each with the two characters that it is composed of. -/
def compositeLines : List String :=
  [
    "ÀA\u0300 ÁA\u0301 ÂA\u0302 ÃA\u0303 ÄA\u0308 ÅA\u030a ÇC\u0327 ÈE\u0300 ÉE\u0301 ÊE\u0302",
    "ËE\u0308 ÌI\u0300 ÍI\u0301 ÎI\u0302 ÏI\u0308 ÑN\u0303 ÒO\u0300 ÓO\u0301 ÔO\u0302 ÕO\u0303",
    "ÖO\u0308 ÙU\u0300 ÚU\u0301 ÛU\u0302 ÜU\u0308 ÝY\u0301 àa\u0300 áa\u0301 âa\u0302 ãa\u0303",
    "äa\u0308 åa\u030a çc\u0327 èe\u0300 ée\u0301 êe\u0302 ëe\u0308 ìi\u0300 íi\u0301 îi\u0302",
    "ïi\u0308 ñn\u0303 òo\u0300 óo\u0301 ôo\u0302 õo\u0303 öo\u0308 ùu\u0300 úu\u0301 ûu\u0302",
    "üu\u0308 ýy\u0301 ÿy\u0308 ĀA\u0304 āa\u0304 ĂA\u0306 ăa\u0306 ĄA\u0328 ąa\u0328 ĆC\u0301",
    "ćc\u0301 ĈC\u0302 ĉc\u0302 ĊC\u0307 ċc\u0307 ČC\u030c čc\u030c ĎD\u030c ďd\u030c ĒE\u0304",
    "ēe\u0304 ĔE\u0306 ĕe\u0306 ĖE\u0307 ėe\u0307 ĘE\u0328 ęe\u0328 ĚE\u030c ěe\u030c ĜG\u0302",
    "ĝg\u0302 ĞG\u0306 ğg\u0306 ĠG\u0307 ġg\u0307 ĢG\u0327 ģg\u0327 ĤH\u0302 ĥh\u0302 ĨI\u0303",
    "ĩi\u0303 ĪI\u0304 īi\u0304 ĬI\u0306 ĭi\u0306 ĮI\u0328 įi\u0328 İI\u0307 ĴJ\u0302 ĵj\u0302",
    "ĶK\u0327 ķk\u0327 ĹL\u0301 ĺl\u0301 ĻL\u0327 ļl\u0327 ĽL\u030c ľl\u030c ŃN\u0301 ńn\u0301",
    "ŅN\u0327 ņn\u0327 ŇN\u030c ňn\u030c ŌO\u0304 ōo\u0304 ŎO\u0306 ŏo\u0306 ŐO\u030b őo\u030b",
    "ŔR\u0301 ŕr\u0301 ŖR\u0327 ŗr\u0327 ŘR\u030c řr\u030c ŚS\u0301 śs\u0301 ŜS\u0302 ŝs\u0302",
    "ŞS\u0327 şs\u0327 ŠS\u030c šs\u030c ŢT\u0327 ţt\u0327 ŤT\u030c ťt\u030c ŨU\u0303 ũu\u0303",
    "ŪU\u0304 ūu\u0304 ŬU\u0306 ŭu\u0306 ŮU\u030a ůu\u030a ŰU\u030b űu\u030b ŲU\u0328 ųu\u0328",
    "ŴW\u0302 ŵw\u0302 ŶY\u0302 ŷy\u0302 ŸY\u0308 ŹZ\u0301 źz\u0301 ŻZ\u0307 żz\u0307 ŽZ\u030c",
    "žz\u030c ƠO\u031b ơo\u031b ƯU\u031b ưu\u031b ǍA\u030c ǎa\u030c ǏI\u030c ǐi\u030c ǑO\u030c",
    "ǒo\u030c ǓU\u030c ǔu\u030c ǕÜ\u0304 ǖü\u0304 ǗÜ\u0301 ǘü\u0301 ǙÜ\u030c ǚü\u030c ǛÜ\u0300",
    "ǜü\u0300 ǞÄ\u0304 ǟä\u0304 ǠȦ\u0304 ǡȧ\u0304 ǢÆ\u0304 ǣæ\u0304 ǦG\u030c ǧg\u030c ǨK\u030c",
    "ǩk\u030c ǪO\u0328 ǫo\u0328 ǬǪ\u0304 ǭǫ\u0304 ǮƷ\u030c ǯʒ\u030c ǰj\u030c ǴG\u0301 ǵg\u0301",
    "ǸN\u0300 ǹn\u0300 ǺÅ\u0301 ǻå\u0301 ǼÆ\u0301 ǽæ\u0301 ǾØ\u0301 ǿø\u0301 ȀA\u030f ȁa\u030f",
    "ȂA\u0311 ȃa\u0311 ȄE\u030f ȅe\u030f ȆE\u0311 ȇe\u0311 ȈI\u030f ȉi\u030f ȊI\u0311 ȋi\u0311",
    "ȌO\u030f ȍo\u030f ȎO\u0311 ȏo\u0311 ȐR\u030f ȑr\u030f ȒR\u0311 ȓr\u0311 ȔU\u030f ȕu\u030f",
    "ȖU\u0311 ȗu\u0311 ȘS\u0326 șs\u0326 ȚT\u0326 țt\u0326 ȞH\u030c ȟh\u030c ȦA\u0307 ȧa\u0307",
    "ȨE\u0327 ȩe\u0327 ȪÖ\u0304 ȫö\u0304 ȬÕ\u0304 ȭõ\u0304 ȮO\u0307 ȯo\u0307 ȰȮ\u0304 ȱȯ\u0304",
    "ȲY\u0304 ȳy\u0304 ΅¨\u0301 ΆΑ\u0301 ΈΕ\u0301 ΉΗ\u0301 ΊΙ\u0301 ΌΟ\u0301 ΎΥ\u0301 ΏΩ\u0301",
    "ΐϊ\u0301 ΪΙ\u0308 ΫΥ\u0308 άα\u0301 έε\u0301 ήη\u0301 ίι\u0301 ΰϋ\u0301 ϊι\u0308 ϋυ\u0308",
    "όο\u0301 ύυ\u0301 ώω\u0301 ϓϒ\u0301 ϔϒ\u0308 ЀЕ\u0300 ЁЕ\u0308 ЃГ\u0301 ЇІ\u0308 ЌК\u0301",
    "ЍИ\u0300 ЎУ\u0306 ЙИ\u0306 йи\u0306 ѐе\u0300 ёе\u0308 ѓг\u0301 їі\u0308 ќк\u0301 ѝи\u0300",
    "ўу\u0306 ѶѴ\u030f ѷѵ\u030f ӁЖ\u0306 ӂж\u0306 ӐА\u0306 ӑа\u0306 ӒА\u0308 ӓа\u0308 ӖЕ\u0306",
    "ӗе\u0306 ӚӘ\u0308 ӛә\u0308 ӜЖ\u0308 ӝж\u0308 ӞЗ\u0308 ӟз\u0308 ӢИ\u0304 ӣи\u0304 ӤИ\u0308",
    "ӥи\u0308 ӦО\u0308 ӧо\u0308 ӪӨ\u0308 ӫө\u0308 ӬЭ\u0308 ӭэ\u0308 ӮУ\u0304 ӯу\u0304 ӰУ\u0308",
    "ӱу\u0308 ӲУ\u030b ӳу\u030b ӴЧ\u0308 ӵч\u0308 ӸЫ\u0308 ӹы\u0308 \u0622\u0627\u0653",
    "\u0623\u0627\u0654 \u0624\u0648\u0654 \u0625\u0627\u0655 \u0626\u064a\u0654",
    "\u06c0\u06d5\u0654 \u06c2\u06c1\u0654 \u06d3\u06d2\u0654 ऩन\u093c ऱर\u093c ऴळ\u093c",
    "\u09cb\u09c7\u09be \u09cc\u09c7\u09d7 \u0b48\u0b47\u0b56 \u0b4b\u0b47\u0b3e",
    "\u0b4c\u0b47\u0b57 ஔஒ\u0bd7 \u0bca\u0bc6\u0bbe \u0bcb\u0bc7\u0bbe \u0bcc\u0bc6\u0bd7",
    "\u0c48\u0c46\u0c56 \u0cc0\u0cbf\u0cd5 \u0cc7\u0cc6\u0cd5 \u0cc8\u0cc6\u0cd6",
    "\u0cca\u0cc6\u0cc2 \u0ccb\u0cca\u0cd5 \u0d4a\u0d46\u0d3e \u0d4b\u0d47\u0d3e",
    "\u0d4c\u0d46\u0d57 \u0dda\u0dd9\u0dca \u0ddc\u0dd9\u0dcf \u0ddd\u0ddc\u0dca",
    "\u0dde\u0dd9\u0ddf ဦဥ\u102e ᬆᬅ\u1b35 ᬈᬇ\u1b35 ᬊᬉ\u1b35 ᬌᬋ\u1b35 ᬎᬍ\u1b35 ᬒᬑ\u1b35",
    "\u1b3b\u1b3a\u1b35 \u1b3d\u1b3c\u1b35 \u1b40\u1b3e\u1b35 \u1b41\u1b3f\u1b35",
    "\u1b43\u1b42\u1b35 ḀA\u0325 ḁa\u0325 ḂB\u0307 ḃb\u0307 ḄB\u0323 ḅb\u0323 ḆB\u0331 ḇb\u0331",
    "ḈÇ\u0301 ḉç\u0301 ḊD\u0307 ḋd\u0307 ḌD\u0323 ḍd\u0323 ḎD\u0331 ḏd\u0331 ḐD\u0327 ḑd\u0327",
    "ḒD\u032d ḓd\u032d ḔĒ\u0300 ḕē\u0300 ḖĒ\u0301 ḗē\u0301 ḘE\u032d ḙe\u032d ḚE\u0330 ḛe\u0330",
    "ḜȨ\u0306 ḝȩ\u0306 ḞF\u0307 ḟf\u0307 ḠG\u0304 ḡg\u0304 ḢH\u0307 ḣh\u0307 ḤH\u0323 ḥh\u0323",
    "ḦH\u0308 ḧh\u0308 ḨH\u0327 ḩh\u0327 ḪH\u032e ḫh\u032e ḬI\u0330 ḭi\u0330 ḮÏ\u0301 ḯï\u0301",
    "ḰK\u0301 ḱk\u0301 ḲK\u0323 ḳk\u0323 ḴK\u0331 ḵk\u0331 ḶL\u0323 ḷl\u0323 ḸḶ\u0304 ḹḷ\u0304",
    "ḺL\u0331 ḻl\u0331 ḼL\u032d ḽl\u032d ḾM\u0301 ḿm\u0301 ṀM\u0307 ṁm\u0307 ṂM\u0323 ṃm\u0323",
    "ṄN\u0307 ṅn\u0307 ṆN\u0323 ṇn\u0323 ṈN\u0331 ṉn\u0331 ṊN\u032d ṋn\u032d ṌÕ\u0301 ṍõ\u0301",
    "ṎÕ\u0308 ṏõ\u0308 ṐŌ\u0300 ṑō\u0300 ṒŌ\u0301 ṓō\u0301 ṔP\u0301 ṕp\u0301 ṖP\u0307 ṗp\u0307",
    "ṘR\u0307 ṙr\u0307 ṚR\u0323 ṛr\u0323 ṜṚ\u0304 ṝṛ\u0304 ṞR\u0331 ṟr\u0331 ṠS\u0307 ṡs\u0307",
    "ṢS\u0323 ṣs\u0323 ṤŚ\u0307 ṥś\u0307 ṦŠ\u0307 ṧš\u0307 ṨṢ\u0307 ṩṣ\u0307 ṪT\u0307 ṫt\u0307",
    "ṬT\u0323 ṭt\u0323 ṮT\u0331 ṯt\u0331 ṰT\u032d ṱt\u032d ṲU\u0324 ṳu\u0324 ṴU\u0330 ṵu\u0330",
    "ṶU\u032d ṷu\u032d ṸŨ\u0301 ṹũ\u0301 ṺŪ\u0308 ṻū\u0308 ṼV\u0303 ṽv\u0303 ṾV\u0323 ṿv\u0323",
    "ẀW\u0300 ẁw\u0300 ẂW\u0301 ẃw\u0301 ẄW\u0308 ẅw\u0308 ẆW\u0307 ẇw\u0307 ẈW\u0323 ẉw\u0323",
    "ẊX\u0307 ẋx\u0307 ẌX\u0308 ẍx\u0308 ẎY\u0307 ẏy\u0307 ẐZ\u0302 ẑz\u0302 ẒZ\u0323 ẓz\u0323",
    "ẔZ\u0331 ẕz\u0331 ẖh\u0331 ẗt\u0308 ẘw\u030a ẙy\u030a ẛſ\u0307 ẠA\u0323 ạa\u0323 ẢA\u0309",
    "ảa\u0309 ẤÂ\u0301 ấâ\u0301 ẦÂ\u0300 ầâ\u0300 ẨÂ\u0309 ẩâ\u0309 ẪÂ\u0303 ẫâ\u0303 ẬẠ\u0302",
    "ậạ\u0302 ẮĂ\u0301 ắă\u0301 ẰĂ\u0300 ằă\u0300 ẲĂ\u0309 ẳă\u0309 ẴĂ\u0303 ẵă\u0303 ẶẠ\u0306",
    "ặạ\u0306 ẸE\u0323 ẹe\u0323 ẺE\u0309 ẻe\u0309 ẼE\u0303 ẽe\u0303 ẾÊ\u0301 ếê\u0301 ỀÊ\u0300",
    "ềê\u0300 ỂÊ\u0309 ểê\u0309 ỄÊ\u0303 ễê\u0303 ỆẸ\u0302 ệẹ\u0302 ỈI\u0309 ỉi\u0309 ỊI\u0323",
    "ịi\u0323 ỌO\u0323 ọo\u0323 ỎO\u0309 ỏo\u0309 ỐÔ\u0301 ốô\u0301 ỒÔ\u0300 ồô\u0300 ỔÔ\u0309",
    "ổô\u0309 ỖÔ\u0303 ỗô\u0303 ỘỌ\u0302 ộọ\u0302 ỚƠ\u0301 ớơ\u0301 ỜƠ\u0300 ờơ\u0300 ỞƠ\u0309",
    "ởơ\u0309 ỠƠ\u0303 ỡơ\u0303 ỢƠ\u0323 ợơ\u0323 ỤU\u0323 ụu\u0323 ỦU\u0309 ủu\u0309 ỨƯ\u0301",
    "ứư\u0301 ỪƯ\u0300 ừư\u0300 ỬƯ\u0309 ửư\u0309 ỮƯ\u0303 ữư\u0303 ỰƯ\u0323 ựư\u0323 ỲY\u0300",
    "ỳy\u0300 ỴY\u0323 ỵy\u0323 ỶY\u0309 ỷy\u0309 ỸY\u0303 ỹy\u0303 ἀα\u0313 ἁα\u0314 ἂἀ\u0300",
    "ἃἁ\u0300 ἄἀ\u0301 ἅἁ\u0301 ἆἀ\u0342 ἇἁ\u0342 ἈΑ\u0313 ἉΑ\u0314 ἊἈ\u0300 ἋἉ\u0300 ἌἈ\u0301",
    "ἍἉ\u0301 ἎἈ\u0342 ἏἉ\u0342 ἐε\u0313 ἑε\u0314 ἒἐ\u0300 ἓἑ\u0300 ἔἐ\u0301 ἕἑ\u0301 ἘΕ\u0313",
    "ἙΕ\u0314 ἚἘ\u0300 ἛἙ\u0300 ἜἘ\u0301 ἝἙ\u0301 ἠη\u0313 ἡη\u0314 ἢἠ\u0300 ἣἡ\u0300 ἤἠ\u0301",
    "ἥἡ\u0301 ἦἠ\u0342 ἧἡ\u0342 ἨΗ\u0313 ἩΗ\u0314 ἪἨ\u0300 ἫἩ\u0300 ἬἨ\u0301 ἭἩ\u0301 ἮἨ\u0342",
    "ἯἩ\u0342 ἰι\u0313 ἱι\u0314 ἲἰ\u0300 ἳἱ\u0300 ἴἰ\u0301 ἵἱ\u0301 ἶἰ\u0342 ἷἱ\u0342 ἸΙ\u0313",
    "ἹΙ\u0314 ἺἸ\u0300 ἻἹ\u0300 ἼἸ\u0301 ἽἹ\u0301 ἾἸ\u0342 ἿἹ\u0342 ὀο\u0313 ὁο\u0314 ὂὀ\u0300",
    "ὃὁ\u0300 ὄὀ\u0301 ὅὁ\u0301 ὈΟ\u0313 ὉΟ\u0314 ὊὈ\u0300 ὋὉ\u0300 ὌὈ\u0301 ὍὉ\u0301 ὐυ\u0313",
    "ὑυ\u0314 ὒὐ\u0300 ὓὑ\u0300 ὔὐ\u0301 ὕὑ\u0301 ὖὐ\u0342 ὗὑ\u0342 ὙΥ\u0314 ὛὙ\u0300 ὝὙ\u0301",
    "ὟὙ\u0342 ὠω\u0313 ὡω\u0314 ὢὠ\u0300 ὣὡ\u0300 ὤὠ\u0301 ὥὡ\u0301 ὦὠ\u0342 ὧὡ\u0342 ὨΩ\u0313",
    "ὩΩ\u0314 ὪὨ\u0300 ὫὩ\u0300 ὬὨ\u0301 ὭὩ\u0301 ὮὨ\u0342 ὯὩ\u0342 ὰα\u0300 ὲε\u0300 ὴη\u0300",
    "ὶι\u0300 ὸο\u0300 ὺυ\u0300 ὼω\u0300 ᾀἀ\u0345 ᾁἁ\u0345 ᾂἂ\u0345 ᾃἃ\u0345 ᾄἄ\u0345 ᾅἅ\u0345",
    "ᾆἆ\u0345 ᾇἇ\u0345 ᾈἈ\u0345 ᾉἉ\u0345 ᾊἊ\u0345 ᾋἋ\u0345 ᾌἌ\u0345 ᾍἍ\u0345 ᾎἎ\u0345 ᾏἏ\u0345",
    "ᾐἠ\u0345 ᾑἡ\u0345 ᾒἢ\u0345 ᾓἣ\u0345 ᾔἤ\u0345 ᾕἥ\u0345 ᾖἦ\u0345 ᾗἧ\u0345 ᾘἨ\u0345 ᾙἩ\u0345",
    "ᾚἪ\u0345 ᾛἫ\u0345 ᾜἬ\u0345 ᾝἭ\u0345 ᾞἮ\u0345 ᾟἯ\u0345 ᾠὠ\u0345 ᾡὡ\u0345 ᾢὢ\u0345 ᾣὣ\u0345",
    "ᾤὤ\u0345 ᾥὥ\u0345 ᾦὦ\u0345 ᾧὧ\u0345 ᾨὨ\u0345 ᾩὩ\u0345 ᾪὪ\u0345 ᾫὫ\u0345 ᾬὬ\u0345 ᾭὭ\u0345",
    "ᾮὮ\u0345 ᾯὯ\u0345 ᾰα\u0306 ᾱα\u0304 ᾲὰ\u0345 ᾳα\u0345 ᾴά\u0345 ᾶα\u0342 ᾷᾶ\u0345 ᾸΑ\u0306",
    "ᾹΑ\u0304 ᾺΑ\u0300 ᾼΑ\u0345 ῁¨\u0342 ῂὴ\u0345 ῃη\u0345 ῄή\u0345 ῆη\u0342 ῇῆ\u0345 ῈΕ\u0300",
    "ῊΗ\u0300 ῌΗ\u0345 ῍᾿\u0300 ῎᾿\u0301 ῏᾿\u0342 ῐι\u0306 ῑι\u0304 ῒϊ\u0300 ῖι\u0342 ῗϊ\u0342",
    "ῘΙ\u0306 ῙΙ\u0304 ῚΙ\u0300 ῝῾\u0300 ῞῾\u0301 ῟῾\u0342 ῠυ\u0306 ῡυ\u0304 ῢϋ\u0300 ῤρ\u0313",
    "ῥρ\u0314 ῦυ\u0342 ῧϋ\u0342 ῨΥ\u0306 ῩΥ\u0304 ῪΥ\u0300 ῬΡ\u0314 ῭¨\u0300 ῲὼ\u0345 ῳω\u0345",
    "ῴώ\u0345 ῶω\u0342 ῷῶ\u0345 ῸΟ\u0300 ῺΩ\u0300 ῼΩ\u0345 ↚←\u0338 ↛→\u0338 ↮↔\u0338 ⇍⇐\u0338",
    "⇎⇔\u0338 ⇏⇒\u0338 ∄∃\u0338 ∉∈\u0338 ∌∋\u0338 ∤∣\u0338 ∦∥\u0338 ≁∼\u0338 ≄≃\u0338 ≇≅\u0338",
    "≉≈\u0338 ≠=\u0338 ≢≡\u0338 ≭≍\u0338 ≮<\u0338 ≯>\u0338 ≰≤\u0338 ≱≥\u0338 ≴≲\u0338 ≵≳\u0338",
    "≸≶\u0338 ≹≷\u0338 ⊀≺\u0338 ⊁≻\u0338 ⊄⊂\u0338 ⊅⊃\u0338 ⊈⊆\u0338 ⊉⊇\u0338 ⊬⊢\u0338 ⊭⊨\u0338",
    "⊮⊩\u0338 ⊯⊫\u0338 ⋠≼\u0338 ⋡≽\u0338 ⋢⊑\u0338 ⋣⊒\u0338 ⋪⊲\u0338 ⋫⊳\u0338 ⋬⊴\u0338 ⋭⊵\u0338",
    "がか\u3099 ぎき\u3099 ぐく\u3099 げけ\u3099 ごこ\u3099 ざさ\u3099 じし\u3099 ずす\u3099 ぜせ\u3099 ぞそ\u3099",
    "だた\u3099 ぢち\u3099 づつ\u3099 でて\u3099 どと\u3099 ばは\u3099 ぱは\u309a びひ\u3099 ぴひ\u309a ぶふ\u3099",
    "ぷふ\u309a べへ\u3099 ぺへ\u309a ぼほ\u3099 ぽほ\u309a ゔう\u3099 ゞゝ\u3099 ガカ\u3099 ギキ\u3099 グク\u3099",
    "ゲケ\u3099 ゴコ\u3099 ザサ\u3099 ジシ\u3099 ズス\u3099 ゼセ\u3099 ゾソ\u3099 ダタ\u3099 ヂチ\u3099 ヅツ\u3099",
    "デテ\u3099 ドト\u3099 バハ\u3099 パハ\u309a ビヒ\u3099 ピヒ\u309a ブフ\u3099 プフ\u309a ベヘ\u3099 ペヘ\u309a",
    "ボホ\u3099 ポホ\u309a ヴウ\u3099 ヷワ\u3099 ヸヰ\u3099 ヹヱ\u3099 ヺヲ\u3099 ヾヽ\u3099 𐗉𐗒\u0307 𐗤𐗚\u0307",
    "𑂚𑂚 𑂜𑂜 𑂫𑂫 𑄮𑄮 𑄯𑄯 𑍋𑍋 𑍌𑍌 𑎃𑎃 𑎅𑎅 𑎎𑎎 𑎑𑎑 𑏅𑏅 𑏇𑏇 𑏈𑏈 𑒻𑒻 𑒼𑒼 𑒾𑒾 𑖺𑖺 𑖻𑖻 𑤸𑤸 𖄡𖄡 𖄢𖄢 𖄣𖄣",
    "𖄤𖄤 𖄥𖄥 𖄦𖄦 𖄧𖄧 𖄨𖄨 𖵨𖵨 𖵩𖵩 𖵪𖵪"
  ]

/-- A composite and its two parts. -/
structure Composite where
  whole : Char
  first : Char
  second : Char
  deriving DecidableEq, Repr

/-- The composite that three characters tell. -/
def Composite.ofText? (entry : String) : Option Composite :=
  match entry.toList with
  | [whole, first, second] => some ⟨whole, first, second⟩
  | _ => none

/-- The composites. -/
def composites : List Composite :=
  compositeLines.flatMap fun line => (line.splitOn " ").filterMap Composite.ofText?

-- ---------------------------------------------------------------------------
-- Hangul
-- ---------------------------------------------------------------------------

namespace Hangul

/-- The first syllable. -/
def base : Nat := 0xac00

/-- The first leading consonant. -/
def leading : Nat := 0x1100

/-- The first vowel. -/
def vowel : Nat := 0x1161

/-- One before the first trailing consonant: number zero stands for none. -/
def trailing : Nat := 0x11a7

/-- How many leading consonants there are. -/
def leadingCount : Nat := 19

/-- How many vowels there are. -/
def vowelCount : Nat := 21

/-- How many trailing consonants there are, none being one of them. -/
def trailingCount : Nat := 28

/-- How many syllables there are. -/
def syllableCount : Nat := leadingCount * vowelCount * trailingCount

/-- The number of a syllable. -/
def syllable? (c : Char) : Option Nat :=
  if base ≤ c.toNat ∧ c.toNat < base + syllableCount then some (c.toNat - base) else none

/-- The parts of a syllable. -/
def parts (n : Nat) : List Char :=
  let opening := n / trailingCount
  let last := n % trailingCount
  Char.ofNat (leading + opening / vowelCount) :: Char.ofNat (vowel + opening % vowelCount)
    :: if last = 0 then [] else [Char.ofNat (trailing + last)]

/-- The syllable of two parts: a leading consonant and a vowel, or a syllable without a trailing
consonant and one. -/
def compose? (a b : Char) : Option Char :=
  let l := a.toNat - leading
  let v := b.toNat - vowel
  let t := b.toNat - trailing
  if leading ≤ a.toNat ∧ l < leadingCount ∧ vowel ≤ b.toNat ∧ v < vowelCount then
    some (Char.ofNat (base + (l * vowelCount + v) * trailingCount))
  else if 0 < t ∧ t < trailingCount then
    match syllable? a with
    | some n => if n % trailingCount = 0 then some (Char.ofNat (a.toNat + t)) else none
    | none => none
  else none

end Hangul

-- ---------------------------------------------------------------------------
-- Taking apart
-- ---------------------------------------------------------------------------

/-- The composite of two characters, if there is one. -/
def compose? (a b : Char) : Option Char :=
  if b.toNat < 0x300 then none
  else (Hangul.compose? a b).or <|
    (composites.find? fun c => c.first = a ∧ c.second = b).map Composite.whole

/-- The characters that a character is composed of, taken apart so many times. -/
def partsOf : Nat → Char → List Char
  | 0, c => [c]
  | depth + 1, c =>
    if c.toNat < 0xc0 then [c]
    else match Hangul.syllable? c with
      | some n => Hangul.parts n
      | none =>
        match composites.find? fun composite => composite.whole = c with
        | some composite => partsOf depth composite.first ++ [composite.second]
        | none => [c]

/-- How often a character can be taken apart. -/
def depth : Nat := 4

/-- Puts a character in front of characters in order: behind the marks that it can be moved past
and that are of a lower class. -/
def insertOrdered (c : Char) : List Char → List Char
  | [] => [c]
  | d :: ds =>
    if 0 < markClass d ∧ markClass d < markClass c then d :: insertOrdered c ds else c :: d :: ds

/-- A text taken apart, with its marks in order. -/
def decomposed (cs : List Char) : List Char := (cs.flatMap (partsOf depth)).foldr insertOrdered []

-- ---------------------------------------------------------------------------
-- Putting together
-- ---------------------------------------------------------------------------

/-- Where the putting together of a text stands: what is done, the last character that others can be
composed with, and the marks behind it. What is done and the marks come last first. -/
structure Composing where
  done : List Char
  letter : Option Char
  marks : List Char

namespace Composing

/-- All characters so far, last first. -/
def all (s : Composing) : List Char := s.marks ++ (s.letter.toList ++ s.done)

/-- Whether a mark stands between the letter and a character so that the two cannot be composed. -/
def isBlocked (s : Composing) (c : Char) : Bool :=
  s.marks.head?.any fun m => markClass c ≤ markClass m

/-- Takes the next character. -/
def step (s : Composing) (c : Char) : Composing :=
  let whole? := if s.isBlocked c then none else s.letter.bind fun letter => compose? letter c
  match whole? with
  | some whole => { s with letter := some whole }
  | none => if markClass c = 0 then ⟨s.all, some c, []⟩ else { s with marks := c :: s.marks }

end Composing

/-- The composed form of a text. -/
def composed (cs : List Char) : List Char :=
  ((decomposed cs).foldl Composing.step ⟨[], none, []⟩).all.reverse

end Galley.Text
