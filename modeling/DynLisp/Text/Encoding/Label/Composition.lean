/-!
How letters and marks join, and which marks pass one another on the way.
-/

namespace DynLisp.Label

/-- Threes of characters: a first one, a second one, and the character that they make. -/
def compositions : String :=
  "<\u0338≮=\u0338≠>\u0338≯A\u0300ÀA\u0301ÁA\u0302ÂA\u0303ÃA\u0304ĀA\u0306ĂA\u0307ȦA\u0308Ä" ++
  "A\u0309ẢA\u030aÅA\u030cǍA\u030fȀA\u0311ȂA\u0323ẠA\u0325ḀA\u0328ĄB\u0307ḂB\u0323ḄB\u0331Ḇ" ++
  "C\u0301ĆC\u0302ĈC\u0307ĊC\u030cČC\u0327ÇD\u0307ḊD\u030cĎD\u0323ḌD\u0327ḐD\u032dḒD\u0331Ḏ" ++
  "E\u0300ÈE\u0301ÉE\u0302ÊE\u0303ẼE\u0304ĒE\u0306ĔE\u0307ĖE\u0308ËE\u0309ẺE\u030cĚE\u030fȄ" ++
  "E\u0311ȆE\u0323ẸE\u0327ȨE\u0328ĘE\u032dḘE\u0330ḚF\u0307ḞG\u0301ǴG\u0302ĜG\u0304ḠG\u0306Ğ" ++
  "G\u0307ĠG\u030cǦG\u0327ĢH\u0302ĤH\u0307ḢH\u0308ḦH\u030cȞH\u0323ḤH\u0327ḨH\u032eḪI\u0300Ì" ++
  "I\u0301ÍI\u0302ÎI\u0303ĨI\u0304ĪI\u0306ĬI\u0307İI\u0308ÏI\u0309ỈI\u030cǏI\u030fȈI\u0311Ȋ" ++
  "I\u0323ỊI\u0328ĮI\u0330ḬJ\u0302ĴK\u0301ḰK\u030cǨK\u0323ḲK\u0327ĶK\u0331ḴL\u0301ĹL\u030cĽ" ++
  "L\u0323ḶL\u0327ĻL\u032dḼL\u0331ḺM\u0301ḾM\u0307ṀM\u0323ṂN\u0300ǸN\u0301ŃN\u0303ÑN\u0307Ṅ" ++
  "N\u030cŇN\u0323ṆN\u0327ŅN\u032dṊN\u0331ṈO\u0300ÒO\u0301ÓO\u0302ÔO\u0303ÕO\u0304ŌO\u0306Ŏ" ++
  "O\u0307ȮO\u0308ÖO\u0309ỎO\u030bŐO\u030cǑO\u030fȌO\u0311ȎO\u031bƠO\u0323ỌO\u0328ǪP\u0301Ṕ" ++
  "P\u0307ṖR\u0301ŔR\u0307ṘR\u030cŘR\u030fȐR\u0311ȒR\u0323ṚR\u0327ŖR\u0331ṞS\u0301ŚS\u0302Ŝ" ++
  "S\u0307ṠS\u030cŠS\u0323ṢS\u0326ȘS\u0327ŞT\u0307ṪT\u030cŤT\u0323ṬT\u0326ȚT\u0327ŢT\u032dṰ" ++
  "T\u0331ṮU\u0300ÙU\u0301ÚU\u0302ÛU\u0303ŨU\u0304ŪU\u0306ŬU\u0308ÜU\u0309ỦU\u030aŮU\u030bŰ" ++
  "U\u030cǓU\u030fȔU\u0311ȖU\u031bƯU\u0323ỤU\u0324ṲU\u0328ŲU\u032dṶU\u0330ṴV\u0303ṼV\u0323Ṿ" ++
  "W\u0300ẀW\u0301ẂW\u0302ŴW\u0307ẆW\u0308ẄW\u0323ẈX\u0307ẊX\u0308ẌY\u0300ỲY\u0301ÝY\u0302Ŷ" ++
  "Y\u0303ỸY\u0304ȲY\u0307ẎY\u0308ŸY\u0309ỶY\u0323ỴZ\u0301ŹZ\u0302ẐZ\u0307ŻZ\u030cŽZ\u0323Ẓ" ++
  "Z\u0331Ẕa\u0300àa\u0301áa\u0302âa\u0303ãa\u0304āa\u0306ăa\u0307ȧa\u0308äa\u0309ảa\u030aå" ++
  "a\u030cǎa\u030fȁa\u0311ȃa\u0323ạa\u0325ḁa\u0328ąb\u0307ḃb\u0323ḅb\u0331ḇc\u0301ćc\u0302ĉ" ++
  "c\u0307ċc\u030cčc\u0327çd\u0307ḋd\u030cďd\u0323ḍd\u0327ḑd\u032dḓd\u0331ḏe\u0300èe\u0301é" ++
  "e\u0302êe\u0303ẽe\u0304ēe\u0306ĕe\u0307ėe\u0308ëe\u0309ẻe\u030cěe\u030fȅe\u0311ȇe\u0323ẹ" ++
  "e\u0327ȩe\u0328ęe\u032dḙe\u0330ḛf\u0307ḟg\u0301ǵg\u0302ĝg\u0304ḡg\u0306ğg\u0307ġg\u030cǧ" ++
  "g\u0327ģh\u0302ĥh\u0307ḣh\u0308ḧh\u030cȟh\u0323ḥh\u0327ḩh\u032eḫh\u0331ẖi\u0300ìi\u0301í" ++
  "i\u0302îi\u0303ĩi\u0304īi\u0306ĭi\u0308ïi\u0309ỉi\u030cǐi\u030fȉi\u0311ȋi\u0323ịi\u0328į" ++
  "i\u0330ḭj\u0302ĵj\u030cǰk\u0301ḱk\u030cǩk\u0323ḳk\u0327ķk\u0331ḵl\u0301ĺl\u030cľl\u0323ḷ" ++
  "l\u0327ļl\u032dḽl\u0331ḻm\u0301ḿm\u0307ṁm\u0323ṃn\u0300ǹn\u0301ńn\u0303ñn\u0307ṅn\u030cň" ++
  "n\u0323ṇn\u0327ņn\u032dṋn\u0331ṉo\u0300òo\u0301óo\u0302ôo\u0303õo\u0304ōo\u0306ŏo\u0307ȯ" ++
  "o\u0308öo\u0309ỏo\u030bőo\u030cǒo\u030fȍo\u0311ȏo\u031bơo\u0323ọo\u0328ǫp\u0301ṕp\u0307ṗ" ++
  "r\u0301ŕr\u0307ṙr\u030cřr\u030fȑr\u0311ȓr\u0323ṛr\u0327ŗr\u0331ṟs\u0301śs\u0302ŝs\u0307ṡ" ++
  "s\u030cšs\u0323ṣs\u0326șs\u0327şt\u0307ṫt\u0308ẗt\u030cťt\u0323ṭt\u0326țt\u0327ţt\u032dṱ" ++
  "t\u0331ṯu\u0300ùu\u0301úu\u0302ûu\u0303ũu\u0304ūu\u0306ŭu\u0308üu\u0309ủu\u030aůu\u030bű" ++
  "u\u030cǔu\u030fȕu\u0311ȗu\u031bưu\u0323ụu\u0324ṳu\u0328ųu\u032dṷu\u0330ṵv\u0303ṽv\u0323ṿ" ++
  "w\u0300ẁw\u0301ẃw\u0302ŵw\u0307ẇw\u0308ẅw\u030aẘw\u0323ẉx\u0307ẋx\u0308ẍy\u0300ỳy\u0301ý" ++
  "y\u0302ŷy\u0303ỹy\u0304ȳy\u0307ẏy\u0308ÿy\u0309ỷy\u030aẙy\u0323ỵz\u0301źz\u0302ẑz\u0307ż" ++
  "z\u030cžz\u0323ẓz\u0331ẕ¨\u0300῭¨\u0301΅¨\u0342῁Â\u0300ẦÂ\u0301ẤÂ\u0303ẪÂ\u0309ẨÄ\u0304Ǟ" ++
  "Å\u0301ǺÆ\u0301ǼÆ\u0304ǢÇ\u0301ḈÊ\u0300ỀÊ\u0301ẾÊ\u0303ỄÊ\u0309ỂÏ\u0301ḮÔ\u0300ỒÔ\u0301Ố" ++
  "Ô\u0303ỖÔ\u0309ỔÕ\u0301ṌÕ\u0304ȬÕ\u0308ṎÖ\u0304ȪØ\u0301ǾÜ\u0300ǛÜ\u0301ǗÜ\u0304ǕÜ\u030cǙ" ++
  "â\u0300ầâ\u0301ấâ\u0303ẫâ\u0309ẩä\u0304ǟå\u0301ǻæ\u0301ǽæ\u0304ǣç\u0301ḉê\u0300ềê\u0301ế" ++
  "ê\u0303ễê\u0309ểï\u0301ḯô\u0300ồô\u0301ốô\u0303ỗô\u0309ổõ\u0301ṍõ\u0304ȭõ\u0308ṏö\u0304ȫ" ++
  "ø\u0301ǿü\u0300ǜü\u0301ǘü\u0304ǖü\u030cǚĂ\u0300ẰĂ\u0301ẮĂ\u0303ẴĂ\u0309Ẳă\u0300ằă\u0301ắ" ++
  "ă\u0303ẵă\u0309ẳĒ\u0300ḔĒ\u0301Ḗē\u0300ḕē\u0301ḗŌ\u0300ṐŌ\u0301Ṓō\u0300ṑō\u0301ṓŚ\u0307Ṥ" ++
  "ś\u0307ṥŠ\u0307Ṧš\u0307ṧŨ\u0301Ṹũ\u0301ṹŪ\u0308Ṻū\u0308ṻſ\u0307ẛƠ\u0300ỜƠ\u0301ỚƠ\u0303Ỡ" ++
  "Ơ\u0309ỞƠ\u0323Ợơ\u0300ờơ\u0301ớơ\u0303ỡơ\u0309ởơ\u0323ợƯ\u0300ỪƯ\u0301ỨƯ\u0303ỮƯ\u0309Ử" ++
  "Ư\u0323Ựư\u0300ừư\u0301ứư\u0303ữư\u0309ửư\u0323ựƷ\u030cǮǪ\u0304Ǭǫ\u0304ǭȦ\u0304Ǡȧ\u0304ǡ" ++
  "Ȩ\u0306Ḝȩ\u0306ḝȮ\u0304Ȱȯ\u0304ȱʒ\u030cǯΑ\u0300ᾺΑ\u0301ΆΑ\u0304ᾹΑ\u0306ᾸΑ\u0313ἈΑ\u0314Ἁ" ++
  "Α\u0345ᾼΕ\u0300ῈΕ\u0301ΈΕ\u0313ἘΕ\u0314ἙΗ\u0300ῊΗ\u0301ΉΗ\u0313ἨΗ\u0314ἩΗ\u0345ῌΙ\u0300Ὶ" ++
  "Ι\u0301ΊΙ\u0304ῙΙ\u0306ῘΙ\u0308ΪΙ\u0313ἸΙ\u0314ἹΟ\u0300ῸΟ\u0301ΌΟ\u0313ὈΟ\u0314ὉΡ\u0314Ῥ" ++
  "Υ\u0300ῪΥ\u0301ΎΥ\u0304ῩΥ\u0306ῨΥ\u0308ΫΥ\u0314ὙΩ\u0300ῺΩ\u0301ΏΩ\u0313ὨΩ\u0314ὩΩ\u0345ῼ" ++
  "ά\u0345ᾴή\u0345ῄα\u0300ὰα\u0301άα\u0304ᾱα\u0306ᾰα\u0313ἀα\u0314ἁα\u0342ᾶα\u0345ᾳε\u0300ὲ" ++
  "ε\u0301έε\u0313ἐε\u0314ἑη\u0300ὴη\u0301ήη\u0313ἠη\u0314ἡη\u0342ῆη\u0345ῃι\u0300ὶι\u0301ί" ++
  "ι\u0304ῑι\u0306ῐι\u0308ϊι\u0313ἰι\u0314ἱι\u0342ῖο\u0300ὸο\u0301όο\u0313ὀο\u0314ὁρ\u0313ῤ" ++
  "ρ\u0314ῥυ\u0300ὺυ\u0301ύυ\u0304ῡυ\u0306ῠυ\u0308ϋυ\u0313ὐυ\u0314ὑυ\u0342ῦω\u0300ὼω\u0301ώ" ++
  "ω\u0313ὠω\u0314ὡω\u0342ῶω\u0345ῳϊ\u0300ῒϊ\u0301ΐϊ\u0342ῗϋ\u0300ῢϋ\u0301ΰϋ\u0342ῧώ\u0345ῴ" ++
  "ϒ\u0301ϓϒ\u0308ϔІ\u0308ЇА\u0306ӐА\u0308ӒГ\u0301ЃЕ\u0300ЀЕ\u0306ӖЕ\u0308ЁЖ\u0306ӁЖ\u0308Ӝ" ++
  "З\u0308ӞИ\u0300ЍИ\u0304ӢИ\u0306ЙИ\u0308ӤК\u0301ЌО\u0308ӦУ\u0304ӮУ\u0306ЎУ\u0308ӰУ\u030bӲ" ++
  "Ч\u0308ӴЫ\u0308ӸЭ\u0308Ӭа\u0306ӑа\u0308ӓг\u0301ѓе\u0300ѐе\u0306ӗе\u0308ёж\u0306ӂж\u0308ӝ" ++
  "з\u0308ӟи\u0300ѝи\u0304ӣи\u0306йи\u0308ӥк\u0301ќо\u0308ӧу\u0304ӯу\u0306ўу\u0308ӱу\u030bӳ" ++
  "ч\u0308ӵы\u0308ӹэ\u0308ӭі\u0308їѴ\u030fѶѵ\u030fѷӘ\u0308Ӛә\u0308ӛӨ\u0308Ӫө\u0308ӫ" ++
  "\u0627\u0653\u0622\u0627\u0654\u0623\u0627\u0655\u0625\u0648\u0654\u0624" ++
  "\u064a\u0654\u0626\u06c1\u0654\u06c2\u06d2\u0654\u06d3\u06d5\u0654\u06c0न\u093cऩर\u093cऱ" ++
  "ळ\u093cऴ\u09c7\u09be\u09cb\u09c7\u09d7\u09cc\u0b47\u0b3e\u0b4b\u0b47\u0b56\u0b48" ++
  "\u0b47\u0b57\u0b4cஒ\u0bd7ஔ\u0bc6\u0bbe\u0bca\u0bc6\u0bd7\u0bcc\u0bc7\u0bbe\u0bcb" ++
  "\u0c46\u0c56\u0c48\u0cbf\u0cd5\u0cc0\u0cc6\u0cc2\u0cca\u0cc6\u0cd5\u0cc7" ++
  "\u0cc6\u0cd6\u0cc8\u0cca\u0cd5\u0ccb\u0d46\u0d3e\u0d4a\u0d46\u0d57\u0d4c" ++
  "\u0d47\u0d3e\u0d4b\u0dd9\u0dca\u0dda\u0dd9\u0dcf\u0ddc\u0dd9\u0ddf\u0dde" ++
  "\u0ddc\u0dca\u0dddဥ\u102eဦᬅ\u1b35ᬆᬇ\u1b35ᬈᬉ\u1b35ᬊᬋ\u1b35ᬌᬍ\u1b35ᬎᬑ\u1b35ᬒ" ++
  "\u1b3a\u1b35\u1b3b\u1b3c\u1b35\u1b3d\u1b3e\u1b35\u1b40\u1b3f\u1b35\u1b41" ++
  "\u1b42\u1b35\u1b43Ḷ\u0304Ḹḷ\u0304ḹṚ\u0304Ṝṛ\u0304ṝṢ\u0307Ṩṣ\u0307ṩẠ\u0302ẬẠ\u0306Ặ" ++
  "ạ\u0302ậạ\u0306ặẸ\u0302Ệẹ\u0302ệỌ\u0302Ộọ\u0302ộἀ\u0300ἂἀ\u0301ἄἀ\u0342ἆἀ\u0345ᾀἁ\u0300ἃ" ++
  "ἁ\u0301ἅἁ\u0342ἇἁ\u0345ᾁἂ\u0345ᾂἃ\u0345ᾃἄ\u0345ᾄἅ\u0345ᾅἆ\u0345ᾆἇ\u0345ᾇἈ\u0300ἊἈ\u0301Ἄ" ++
  "Ἀ\u0342ἎἈ\u0345ᾈἉ\u0300ἋἉ\u0301ἍἉ\u0342ἏἉ\u0345ᾉἊ\u0345ᾊἋ\u0345ᾋἌ\u0345ᾌἍ\u0345ᾍἎ\u0345ᾎ" ++
  "Ἇ\u0345ᾏἐ\u0300ἒἐ\u0301ἔἑ\u0300ἓἑ\u0301ἕἘ\u0300ἚἘ\u0301ἜἙ\u0300ἛἙ\u0301Ἕἠ\u0300ἢἠ\u0301ἤ" ++
  "ἠ\u0342ἦἠ\u0345ᾐἡ\u0300ἣἡ\u0301ἥἡ\u0342ἧἡ\u0345ᾑἢ\u0345ᾒἣ\u0345ᾓἤ\u0345ᾔἥ\u0345ᾕἦ\u0345ᾖ" ++
  "ἧ\u0345ᾗἨ\u0300ἪἨ\u0301ἬἨ\u0342ἮἨ\u0345ᾘἩ\u0300ἫἩ\u0301ἭἩ\u0342ἯἩ\u0345ᾙἪ\u0345ᾚἫ\u0345ᾛ" ++
  "Ἤ\u0345ᾜἭ\u0345ᾝἮ\u0345ᾞἯ\u0345ᾟἰ\u0300ἲἰ\u0301ἴἰ\u0342ἶἱ\u0300ἳἱ\u0301ἵἱ\u0342ἷἸ\u0300Ἲ" ++
  "Ἰ\u0301ἼἸ\u0342ἾἹ\u0300ἻἹ\u0301ἽἹ\u0342Ἷὀ\u0300ὂὀ\u0301ὄὁ\u0300ὃὁ\u0301ὅὈ\u0300ὊὈ\u0301Ὄ" ++
  "Ὁ\u0300ὋὉ\u0301Ὅὐ\u0300ὒὐ\u0301ὔὐ\u0342ὖὑ\u0300ὓὑ\u0301ὕὑ\u0342ὗὙ\u0300ὛὙ\u0301ὝὙ\u0342Ὗ" ++
  "ὠ\u0300ὢὠ\u0301ὤὠ\u0342ὦὠ\u0345ᾠὡ\u0300ὣὡ\u0301ὥὡ\u0342ὧὡ\u0345ᾡὢ\u0345ᾢὣ\u0345ᾣὤ\u0345ᾤ" ++
  "ὥ\u0345ᾥὦ\u0345ᾦὧ\u0345ᾧὨ\u0300ὪὨ\u0301ὬὨ\u0342ὮὨ\u0345ᾨὩ\u0300ὫὩ\u0301ὭὩ\u0342ὯὩ\u0345ᾩ" ++
  "Ὢ\u0345ᾪὫ\u0345ᾫὬ\u0345ᾬὭ\u0345ᾭὮ\u0345ᾮὯ\u0345ᾯὰ\u0345ᾲὴ\u0345ῂὼ\u0345ῲᾶ\u0345ᾷ᾿\u0300῍" ++
  "᾿\u0301῎᾿\u0342῏ῆ\u0345ῇῶ\u0345ῷ῾\u0300῝῾\u0301῞῾\u0342῟←\u0338↚→\u0338↛↔\u0338↮⇐\u0338⇍" ++
  "⇒\u0338⇏⇔\u0338⇎∃\u0338∄∈\u0338∉∋\u0338∌∣\u0338∤∥\u0338∦∼\u0338≁≃\u0338≄≅\u0338≇≈\u0338≉" ++
  "≍\u0338≭≡\u0338≢≤\u0338≰≥\u0338≱≲\u0338≴≳\u0338≵≶\u0338≸≷\u0338≹≺\u0338⊀≻\u0338⊁≼\u0338⋠" ++
  "≽\u0338⋡⊂\u0338⊄⊃\u0338⊅⊆\u0338⊈⊇\u0338⊉⊑\u0338⋢⊒\u0338⋣⊢\u0338⊬⊨\u0338⊭⊩\u0338⊮⊫\u0338⊯" ++
  "⊲\u0338⋪⊳\u0338⋫⊴\u0338⋬⊵\u0338⋭う\u3099ゔか\u3099がき\u3099ぎく\u3099ぐけ\u3099げこ\u3099ごさ\u3099ざ" ++
  "し\u3099じす\u3099ずせ\u3099ぜそ\u3099ぞた\u3099だち\u3099ぢつ\u3099づて\u3099でと\u3099どは\u3099ばは\u309aぱ" ++
  "ひ\u3099びひ\u309aぴふ\u3099ぶふ\u309aぷへ\u3099べへ\u309aぺほ\u3099ぼほ\u309aぽゝ\u3099ゞウ\u3099ヴカ\u3099ガ" ++
  "キ\u3099ギク\u3099グケ\u3099ゲコ\u3099ゴサ\u3099ザシ\u3099ジス\u3099ズセ\u3099ゼソ\u3099ゾタ\u3099ダチ\u3099ヂ" ++
  "ツ\u3099ヅテ\u3099デト\u3099ドハ\u3099バハ\u309aパヒ\u3099ビヒ\u309aピフ\u3099ブフ\u309aプヘ\u3099ベヘ\u309aペ" ++
  "ホ\u3099ボホ\u309aポワ\u3099ヷヰ\u3099ヸヱ\u3099ヹヲ\u3099ヺヽ\u3099ヾ𑂚𑂚𑂜𑂜𑂫𑂫𑄮𑄮𑄯𑄯𑍋𑍋𑍌𑍌𑒼𑒼𑒻𑒻𑒾𑒾" ++
  "𑖺𑖺𑖻𑖻𑤸𑤸"

/-- Ranges of marks, and their classes. Marks of two classes do not touch each other. -/
def markClasses : List (Nat × Nat × Nat) := [
  (0x0300, 0x0314, 230), (0x0315, 0x0315, 232), (0x0316, 0x0319, 220), (0x031a, 0x031a, 232),
  (0x031b, 0x031b, 216), (0x031c, 0x0320, 220), (0x0321, 0x0322, 202), (0x0323, 0x0326, 220),
  (0x0327, 0x0328, 202), (0x0329, 0x0333, 220), (0x0334, 0x0338, 1), (0x0339, 0x033c, 220),
  (0x033d, 0x0344, 230), (0x0345, 0x0345, 240), (0x0346, 0x0346, 230), (0x0347, 0x0349, 220),
  (0x034a, 0x034c, 230), (0x034d, 0x034e, 220), (0x0350, 0x0352, 230), (0x0353, 0x0356, 220),
  (0x0357, 0x0357, 230), (0x0358, 0x0358, 232), (0x0359, 0x035a, 220), (0x035b, 0x035b, 230),
  (0x035c, 0x035c, 233), (0x035d, 0x035e, 234), (0x035f, 0x035f, 233), (0x0360, 0x0361, 234),
  (0x0362, 0x0362, 233), (0x0363, 0x036f, 230), (0x0483, 0x0487, 230), (0x0591, 0x0591, 220),
  (0x0592, 0x0595, 230), (0x0596, 0x0596, 220), (0x0597, 0x0599, 230), (0x059a, 0x059a, 222),
  (0x059b, 0x059b, 220), (0x059c, 0x05a1, 230), (0x05a2, 0x05a7, 220), (0x05a8, 0x05a9, 230),
  (0x05aa, 0x05aa, 220), (0x05ab, 0x05ac, 230), (0x05ad, 0x05ad, 222), (0x05ae, 0x05ae, 228),
  (0x05af, 0x05af, 230), (0x05b0, 0x05b0, 10), (0x05b1, 0x05b1, 11), (0x05b2, 0x05b2, 12),
  (0x05b3, 0x05b3, 13), (0x05b4, 0x05b4, 14), (0x05b5, 0x05b5, 15), (0x05b6, 0x05b6, 16),
  (0x05b7, 0x05b7, 17), (0x05b8, 0x05b8, 18), (0x05b9, 0x05ba, 19), (0x05bb, 0x05bb, 20),
  (0x05bc, 0x05bc, 21), (0x05bd, 0x05bd, 22), (0x05bf, 0x05bf, 23), (0x05c1, 0x05c1, 24),
  (0x05c2, 0x05c2, 25), (0x05c4, 0x05c4, 230), (0x05c5, 0x05c5, 220), (0x05c7, 0x05c7, 18),
  (0x0610, 0x0617, 230), (0x0618, 0x0618, 30), (0x0619, 0x0619, 31), (0x061a, 0x061a, 32),
  (0x064b, 0x064b, 27), (0x064c, 0x064c, 28), (0x064d, 0x064d, 29), (0x064e, 0x064e, 30),
  (0x064f, 0x064f, 31), (0x0650, 0x0650, 32), (0x0651, 0x0651, 33), (0x0652, 0x0652, 34),
  (0x0653, 0x0654, 230), (0x0655, 0x0656, 220), (0x0657, 0x065b, 230), (0x065c, 0x065c, 220),
  (0x065d, 0x065e, 230), (0x065f, 0x065f, 220), (0x0670, 0x0670, 35), (0x06d6, 0x06dc, 230),
  (0x06df, 0x06e2, 230), (0x06e3, 0x06e3, 220), (0x06e4, 0x06e4, 230), (0x06e7, 0x06e8, 230),
  (0x06ea, 0x06ea, 220), (0x06eb, 0x06ec, 230), (0x06ed, 0x06ed, 220), (0x0711, 0x0711, 36),
  (0x0730, 0x0730, 230), (0x0731, 0x0731, 220), (0x0732, 0x0733, 230), (0x0734, 0x0734, 220),
  (0x0735, 0x0736, 230), (0x0737, 0x0739, 220), (0x073a, 0x073a, 230), (0x073b, 0x073c, 220),
  (0x073d, 0x073d, 230), (0x073e, 0x073e, 220), (0x073f, 0x0741, 230), (0x0742, 0x0742, 220),
  (0x0743, 0x0743, 230), (0x0744, 0x0744, 220), (0x0745, 0x0745, 230), (0x0746, 0x0746, 220),
  (0x0747, 0x0747, 230), (0x0748, 0x0748, 220), (0x0749, 0x074a, 230), (0x07eb, 0x07f1, 230),
  (0x07f2, 0x07f2, 220), (0x07f3, 0x07f3, 230), (0x07fd, 0x07fd, 220), (0x0816, 0x0819, 230),
  (0x081b, 0x0823, 230), (0x0825, 0x0827, 230), (0x0829, 0x082d, 230), (0x0859, 0x085b, 220),
  (0x0898, 0x0898, 230), (0x0899, 0x089b, 220), (0x089c, 0x089f, 230), (0x08ca, 0x08ce, 230),
  (0x08cf, 0x08d3, 220), (0x08d4, 0x08e1, 230), (0x08e3, 0x08e3, 220), (0x08e4, 0x08e5, 230),
  (0x08e6, 0x08e6, 220), (0x08e7, 0x08e8, 230), (0x08e9, 0x08e9, 220), (0x08ea, 0x08ec, 230),
  (0x08ed, 0x08ef, 220), (0x08f0, 0x08f0, 27), (0x08f1, 0x08f1, 28), (0x08f2, 0x08f2, 29),
  (0x08f3, 0x08f5, 230), (0x08f6, 0x08f6, 220), (0x08f7, 0x08f8, 230), (0x08f9, 0x08fa, 220),
  (0x08fb, 0x08ff, 230), (0x093c, 0x093c, 7), (0x094d, 0x094d, 9), (0x0951, 0x0951, 230),
  (0x0952, 0x0952, 220), (0x0953, 0x0954, 230), (0x09bc, 0x09bc, 7), (0x09cd, 0x09cd, 9),
  (0x09fe, 0x09fe, 230), (0x0a3c, 0x0a3c, 7), (0x0a4d, 0x0a4d, 9), (0x0abc, 0x0abc, 7),
  (0x0acd, 0x0acd, 9), (0x0b3c, 0x0b3c, 7), (0x0b4d, 0x0b4d, 9), (0x0bcd, 0x0bcd, 9),
  (0x0c3c, 0x0c3c, 7), (0x0c4d, 0x0c4d, 9), (0x0c55, 0x0c55, 84), (0x0c56, 0x0c56, 91),
  (0x0cbc, 0x0cbc, 7), (0x0ccd, 0x0ccd, 9), (0x0d3b, 0x0d3c, 9), (0x0d4d, 0x0d4d, 9),
  (0x0dca, 0x0dca, 9), (0x0e38, 0x0e39, 103), (0x0e3a, 0x0e3a, 9), (0x0e48, 0x0e4b, 107),
  (0x0eb8, 0x0eb9, 118), (0x0eba, 0x0eba, 9), (0x0ec8, 0x0ecb, 122), (0x0f18, 0x0f19, 220),
  (0x0f35, 0x0f35, 220), (0x0f37, 0x0f37, 220), (0x0f39, 0x0f39, 216), (0x0f71, 0x0f71, 129),
  (0x0f72, 0x0f72, 130), (0x0f74, 0x0f74, 132), (0x0f7a, 0x0f7d, 130), (0x0f80, 0x0f80, 130),
  (0x0f82, 0x0f83, 230), (0x0f84, 0x0f84, 9), (0x0f86, 0x0f87, 230), (0x0fc6, 0x0fc6, 220),
  (0x1037, 0x1037, 7), (0x1039, 0x103a, 9), (0x108d, 0x108d, 220), (0x135d, 0x135f, 230),
  (0x1714, 0x1715, 9), (0x1734, 0x1734, 9), (0x17d2, 0x17d2, 9), (0x17dd, 0x17dd, 230),
  (0x18a9, 0x18a9, 228), (0x1939, 0x1939, 222), (0x193a, 0x193a, 230), (0x193b, 0x193b, 220),
  (0x1a17, 0x1a17, 230), (0x1a18, 0x1a18, 220), (0x1a60, 0x1a60, 9), (0x1a75, 0x1a7c, 230),
  (0x1a7f, 0x1a7f, 220), (0x1ab0, 0x1ab4, 230), (0x1ab5, 0x1aba, 220), (0x1abb, 0x1abc, 230),
  (0x1abd, 0x1abd, 220), (0x1abf, 0x1ac0, 220), (0x1ac1, 0x1ac2, 230), (0x1ac3, 0x1ac4, 220),
  (0x1ac5, 0x1ac9, 230), (0x1aca, 0x1aca, 220), (0x1acb, 0x1ace, 230), (0x1b34, 0x1b34, 7),
  (0x1b44, 0x1b44, 9), (0x1b6b, 0x1b6b, 230), (0x1b6c, 0x1b6c, 220), (0x1b6d, 0x1b73, 230),
  (0x1baa, 0x1bab, 9), (0x1be6, 0x1be6, 7), (0x1bf2, 0x1bf3, 9), (0x1c37, 0x1c37, 7),
  (0x1cd0, 0x1cd2, 230), (0x1cd4, 0x1cd4, 1), (0x1cd5, 0x1cd9, 220), (0x1cda, 0x1cdb, 230),
  (0x1cdc, 0x1cdf, 220), (0x1ce0, 0x1ce0, 230), (0x1ce2, 0x1ce8, 1), (0x1ced, 0x1ced, 220),
  (0x1cf4, 0x1cf4, 230), (0x1cf8, 0x1cf9, 230), (0x1dc0, 0x1dc1, 230), (0x1dc2, 0x1dc2, 220),
  (0x1dc3, 0x1dc9, 230), (0x1dca, 0x1dca, 220), (0x1dcb, 0x1dcc, 230), (0x1dcd, 0x1dcd, 234),
  (0x1dce, 0x1dce, 214), (0x1dcf, 0x1dcf, 220), (0x1dd0, 0x1dd0, 202), (0x1dd1, 0x1df5, 230),
  (0x1df6, 0x1df6, 232), (0x1df7, 0x1df8, 228), (0x1df9, 0x1df9, 220), (0x1dfa, 0x1dfa, 218),
  (0x1dfb, 0x1dfb, 230), (0x1dfc, 0x1dfc, 233), (0x1dfd, 0x1dfd, 220), (0x1dfe, 0x1dfe, 230),
  (0x1dff, 0x1dff, 220), (0x20d0, 0x20d1, 230), (0x20d2, 0x20d3, 1), (0x20d4, 0x20d7, 230),
  (0x20d8, 0x20da, 1), (0x20db, 0x20dc, 230), (0x20e1, 0x20e1, 230), (0x20e5, 0x20e6, 1),
  (0x20e7, 0x20e7, 230), (0x20e8, 0x20e8, 220), (0x20e9, 0x20e9, 230), (0x20ea, 0x20eb, 1),
  (0x20ec, 0x20ef, 220), (0x20f0, 0x20f0, 230), (0x2cef, 0x2cf1, 230), (0x2d7f, 0x2d7f, 9),
  (0x2de0, 0x2dff, 230), (0x302a, 0x302a, 218), (0x302b, 0x302b, 228), (0x302c, 0x302c, 232),
  (0x302d, 0x302d, 222), (0x302e, 0x302f, 224), (0x3099, 0x309a, 8), (0xa66f, 0xa66f, 230),
  (0xa674, 0xa67d, 230), (0xa69e, 0xa69f, 230), (0xa6f0, 0xa6f1, 230), (0xa806, 0xa806, 9),
  (0xa82c, 0xa82c, 9), (0xa8c4, 0xa8c4, 9), (0xa8e0, 0xa8f1, 230), (0xa92b, 0xa92d, 220),
  (0xa953, 0xa953, 9), (0xa9b3, 0xa9b3, 7), (0xa9c0, 0xa9c0, 9), (0xaab0, 0xaab0, 230),
  (0xaab2, 0xaab3, 230), (0xaab4, 0xaab4, 220), (0xaab7, 0xaab8, 230), (0xaabe, 0xaabf, 230),
  (0xaac1, 0xaac1, 230), (0xaaf6, 0xaaf6, 9), (0xabed, 0xabed, 9), (0xfb1e, 0xfb1e, 26),
  (0xfe20, 0xfe26, 230), (0xfe27, 0xfe2d, 220), (0xfe2e, 0xfe2f, 230), (0x101fd, 0x101fd, 220),
  (0x102e0, 0x102e0, 220), (0x10376, 0x1037a, 230), (0x10a0d, 0x10a0d, 220),
  (0x10a0f, 0x10a0f, 230), (0x10a38, 0x10a38, 230), (0x10a39, 0x10a39, 1), (0x10a3a, 0x10a3a, 220),
  (0x10a3f, 0x10a3f, 9), (0x10ae5, 0x10ae5, 230), (0x10ae6, 0x10ae6, 220), (0x10d24, 0x10d27, 230),
  (0x10eab, 0x10eac, 230), (0x10f46, 0x10f47, 220), (0x10f48, 0x10f4a, 230),
  (0x10f4b, 0x10f4b, 220), (0x10f4c, 0x10f4c, 230), (0x10f4d, 0x10f50, 220),
  (0x10f82, 0x10f82, 230), (0x10f83, 0x10f83, 220), (0x10f84, 0x10f84, 230),
  (0x10f85, 0x10f85, 220), (0x11046, 0x11046, 9), (0x11070, 0x11070, 9), (0x1107f, 0x1107f, 9),
  (0x110b9, 0x110b9, 9), (0x110ba, 0x110ba, 7), (0x11100, 0x11102, 230), (0x11133, 0x11134, 9),
  (0x11173, 0x11173, 7), (0x111c0, 0x111c0, 9), (0x111ca, 0x111ca, 7), (0x11235, 0x11235, 9),
  (0x11236, 0x11236, 7), (0x112e9, 0x112e9, 7), (0x112ea, 0x112ea, 9), (0x1133b, 0x1133c, 7),
  (0x1134d, 0x1134d, 9), (0x11366, 0x1136c, 230), (0x11370, 0x11374, 230), (0x11442, 0x11442, 9),
  (0x11446, 0x11446, 7), (0x1145e, 0x1145e, 230), (0x114c2, 0x114c2, 9), (0x114c3, 0x114c3, 7),
  (0x115bf, 0x115bf, 9), (0x115c0, 0x115c0, 7), (0x1163f, 0x1163f, 9), (0x116b6, 0x116b6, 9),
  (0x116b7, 0x116b7, 7), (0x1172b, 0x1172b, 9), (0x11839, 0x11839, 9), (0x1183a, 0x1183a, 7),
  (0x1193d, 0x1193e, 9), (0x11943, 0x11943, 7), (0x119e0, 0x119e0, 9), (0x11a34, 0x11a34, 9),
  (0x11a47, 0x11a47, 9), (0x11a99, 0x11a99, 9), (0x11c3f, 0x11c3f, 9), (0x11d42, 0x11d42, 7),
  (0x11d44, 0x11d45, 9), (0x11d97, 0x11d97, 9), (0x16af0, 0x16af4, 1), (0x16b30, 0x16b36, 230),
  (0x16ff0, 0x16ff1, 6), (0x1bc9e, 0x1bc9e, 1), (0x1d165, 0x1d166, 216), (0x1d167, 0x1d169, 1),
  (0x1d16d, 0x1d16d, 226), (0x1d16e, 0x1d172, 216), (0x1d17b, 0x1d182, 220),
  (0x1d185, 0x1d189, 230), (0x1d18a, 0x1d18b, 220), (0x1d1aa, 0x1d1ad, 230),
  (0x1d242, 0x1d244, 230), (0x1e000, 0x1e006, 230), (0x1e008, 0x1e018, 230),
  (0x1e01b, 0x1e021, 230), (0x1e023, 0x1e024, 230), (0x1e026, 0x1e02a, 230),
  (0x1e130, 0x1e136, 230), (0x1e2ae, 0x1e2ae, 230), (0x1e2ec, 0x1e2ef, 230),
  (0x1e8d0, 0x1e8d6, 220), (0x1e944, 0x1e949, 230), (0x1e94a, 0x1e94a, 7)]

end DynLisp.Label
