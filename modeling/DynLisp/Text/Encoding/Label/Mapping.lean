/-!
What the characters of a label are replaced by, so that labels that look alike become equal: small
letters for capitals, plain forms for others, and letters and marks apart. Some vanish.
-/

namespace DynLisp.Label

/-- From a code point on, the characters that replace one character each. -/
def replacements : List (Nat × String) := [
  (0x0041, "abcdefghijklmnopqrstuvwxyz"), (0x00a0, " "), (0x00aa, "a"), (0x00b2, "23"),
  (0x00b5, "μ"), (0x00b9, "1o"), (0x00c6, "æ"), (0x00d0, "ð"), (0x00d8, "ø"), (0x00de, "þ"),
  (0x0110, "đ"), (0x0126, "ħ"), (0x0141, "ł"), (0x014a, "ŋ"), (0x0152, "œ"), (0x0166, "ŧ"),
  (0x017f, "sƀɓƃƃƅƅɔƈƈɖɗƌƌƍǝəɛƒƒɠɣƕɩɨƙ"), (0x019c, "ɯɲƞɵ"), (0x01a2, "ƣƣƥƥʀƨƨʃƪƫƭƭʈ"),
  (0x01b1, "ʊʋƴƴƶƶʒƹ"), (0x01bc, "ƽ"), (0x01e4, "ǥ"), (0x01f6, "ƕƿ"), (0x021c, "ȝ"),
  (0x0220, "ƞȡȣȣȥ"), (0x023a, "ⱥȼȼƚⱦȿɀɂɂƀʉʌɇɇɉɉɋɋɍɍɏ"), (0x02b0, "hɦjrɹɻʁwy"), (0x02e0, "ɣlsxʕ"),
  (0x0340, "\u0300\u0301"), (0x0343, "\u0313"), (0x0345, "ι"), (0x0370, "ͱͱͳͳʹ͵ͷ"), (0x037e, ";ϳ"),
  (0x0387, "·"), (0x0391, "αβγδεζηθικλμνξοπρ"), (0x03a3, "στυφχψω"), (0x03c2, "σ"),
  (0x03cf, "ϗβθυ"), (0x03d5, "φπϗϙϙϛϛϝϝϟϟϡϡϣϣϥϥϧϧϩϩϫϫϭϭϯϯκρσϳθε϶ϸϸσϻϻϼͻͼͽ"), (0x0402, "ђ"),
  (0x0404, "єѕі"), (0x0408, "јљњћ"), (0x040f, "џабвгдежзи"), (0x041a, "клмнопрстуфхцчшщъыьэюя"),
  (0x0460, "ѡѡѣѣѥѥѧѧѩѩѫѫѭѭѯѯѱѱѳѳѵ"), (0x0478, "ѹѹѻѻѽѽѿѿҁ"),
  (0x048a, "ҋҋҍҍҏҏґґғғҕҕҗҗҙҙққҝҝҟҟҡҡңңҥҥҧҧҩҩҫҫҭҭүүұұҳҳҵҵҷҷҹҹһһҽҽҿҿӏ"), (0x04c3, "ӄӄӆӆӈӈӊӊӌӌӎ"),
  (0x04d4, "ӕ"), (0x04d8, "ә"), (0x04e0, "ӡ"), (0x04e8, "ө"), (0x04f6, "ӷ"),
  (0x04fa, "ӻӻӽӽӿӿԁԁԃԃԅԅԇԇԉԉԋԋԍԍԏԏԑԑԓԓԕԕԗԗԙԙԛԛԝԝԟԟԡԡԣԣԥԥԧԧԩԩԫԫԭԭԯ"),
  (0x0531, "աբգդեզէըթժիլխծկհձղճմյնշոչպջռսվտրցւփքօֆ"), (0x0f0c, "་"),
  (0x10a0, "ⴀⴁⴂⴃⴄⴅⴆⴇⴈⴉⴊⴋⴌⴍⴎⴏⴐⴑⴒⴓⴔⴕⴖⴗⴘⴙⴚⴛⴜⴝⴞⴟⴠⴡⴢⴣⴤⴥ"), (0x10c7, "ⴧ"), (0x10cd, "ⴭ"),
  (0x13a0, "ꭰꭱꭲꭳꭴꭵꭶꭷꭸꭹꭺꭻꭼꭽꭾꭿꮀꮁꮂꮃꮄꮅꮆꮇꮈꮉꮊꮋꮌꮍꮎꮏꮐꮑꮒꮓꮔꮕꮖꮗꮘꮙꮚꮛꮜꮝꮞꮟꮠꮡꮢꮣꮤꮥꮦꮧꮨꮩꮪꮫꮬꮭꮮꮯꮰꮱꮲꮳꮴꮵꮶꮷꮸꮹꮺꮻꮼꮽ" ++
    "ꮾꮿᏸᏹᏺᏻᏼᏽ"),
  (0x1c90, "აბგდევზთიკლმნოპჟრსტუფქღყშჩცძწჭხჯჰჱჲჳჴჵჶჷჸჹჺ"), (0x1cbd, "ჽჾჿ"), (0x1efa, "ỻỻỽỽỿ"),
  (0x1fbe, "ι"), (0x1fef, "\x60"), (0x2000, "           "), (0x2011, "‐"), (0x2024, "."),
  (0x202f, " "), (0x205f, " "), (0x2070, "0i"), (0x2074, "456789+−=()n0123456789+−=()"),
  (0x2102, "c"), (0x2107, "ɛ"), (0x210a, "ghhhhħiill℔n"), (0x2119, "pqrrr"), (0x2124, "z℥ω℧z℩k"),
  (0x212c, "bc℮eefⅎmo\u05d0\u05d1\u05d2\u05d3i"), (0x213d, "γγπ∑"), (0x2145, "ddeij"),
  (0x2160, "i"), (0x2164, "v"), (0x2169, "x"), (0x216c, "lcdmi"), (0x2174, "v"), (0x2179, "x"),
  (0x217c, "lcdm"), (0x2183, "ↄ"), (0x2329, "〈〉"), (0x2460, "123456789"),
  (0x24b6, "abcdefghijklmnopqrstuvwxyzabcdefghijklmnopqrstuvwxyz0"),
  (0x2c00, "ⰰⰱⰲⰳⰴⰵⰶⰷⰸⰹⰺⰻⰼⰽⰾⰿⱀⱁⱂⱃⱄⱅⱆⱇⱈⱉⱊⱋⱌⱍⱎⱏⱐⱑⱒⱓⱔⱕⱖⱗⱘⱙⱚⱛⱜⱝⱞⱟ"), (0x2c60, "ⱡⱡɫᵽɽⱥⱦⱨⱨⱪⱪⱬⱬɑɱɐɒⱱⱳⱳⱴⱶ"),
  (0x2c7e, "ȿɀⲁⲁⲃⲃⲅⲅⲇⲇⲉⲉⲋⲋⲍⲍⲏⲏⲑⲑⲓⲓⲕⲕⲗⲗⲙⲙⲛⲛⲝⲝⲟⲟⲡⲡⲣⲣⲥⲥⲧⲧⲩⲩⲫⲫⲭⲭⲯⲯⲱⲱⲳⲳⲵⲵⲷⲷⲹⲹⲻⲻⲽⲽⲿⲿⳁⳁⳃⳃⳅⳅⳇⳇⳉⳉⳋⳋ" ++
    "ⳍⳍⳏⳏⳑⳑⳓⳓⳕⳕⳗⳗⳙⳙⳛⳛⳝⳝⳟⳟⳡⳡⳣ"),
  (0x2ceb, "ⳬⳬⳮ"), (0x2cf2, "ⳳ"), (0x2e9f, "母"), (0x2ef3, "龟"),
  (0x2f00, "一丨丶丿乙亅二亠人儿入八冂冖冫几凵刀力勹匕匚匸十卜卩厂厶又口囗土士夂夊夕大女子宀寸小尢尸屮山巛工己巾干幺广廴廾弋弓彐彡彳心戈戶手支攴文斗斤方无日曰月木欠止歹" ++
    "殳毋比毛氏气水火爪父爻爿片牙牛犬玄玉瓜瓦甘生用田疋疒癶白皮皿目矛矢石示禸禾穴立竹米糸缶网羊羽老而耒耳聿肉臣自至臼舌舛舟艮色艸虍虫血行衣襾見角言谷豆豕豸貝赤走" ++
    "足身車辛辰辵邑酉釆里金長門阜隶隹雨靑非面革韋韭音頁風飛食首香馬骨高髟鬥鬯鬲鬼魚鳥鹵鹿麥麻黃黍黑黹黽鼎鼓鼠鼻齊齒龍龜龠"),
  (0x3000, " "), (0x3036, "〒〷十卄卅"),
  (0x3131, "ᄀᄁᆪᄂᆬᆭᄃᄄᄅᆰᆱᆲᆳᆴᆵᄚᄆᄇᄈᄡᄉᄊᄋᄌᄍᄎᄏᄐᄑ하ᅢᅣᅤᅥᅦᅧᅨᅩᅪᅫᅬᅭᅮᅯᅰᅱᅲᅳᅴᅵᅠᄔᄕᇇᇈᇌᇎᇓᇗᇙᄜᇝᇟᄝᄞᄠᄢᄣᄧᄩᄫᄬᄭᄮᄯᄲᄶ" ++
    "ᅀᅇᅌᇱᇲᅗᅘᅙᆄᆅᆈᆑᆒᆔᆞᆡ"),
  (0x3192, "一二三四上中下甲乙丙丁天地人"), (0x3260, "ᄀᄂᄃᄅᄆᄇᄉᄋᄌᄎᄏᄐᄑᄒ"),
  (0x3280, "一二三四五六七八九十月火水木金土日株有社名特財祝労秘男女適優印注項休写正上中下左右医宗学監企資協夜"),
  (0x32d0, "アイウエオカキクケコサシスセソタチツテトナニヌネノハヒフヘホマミムメモヤユヨラリルレロワヰヱヲ"),
  (0xa640, "ꙁꙁꙃꙃꙅꙅꙇꙇꙉꙉꙋꙋꙍꙍꙏꙏꙑꙑꙓꙓꙕꙕꙗꙗꙙꙙꙛꙛꙝꙝꙟꙟꙡꙡꙣꙣꙥꙥꙧꙧꙩꙩꙫꙫꙭ"),
  (0xa680, "ꚁꚁꚃꚃꚅꚅꚇꚇꚉꚉꚋꚋꚍꚍꚏꚏꚑꚑꚓꚓꚕꚕꚗꚗꚙꚙꚛ"), (0xa722, "ꜣꜣꜥꜥꜧꜧꜩꜩꜫꜫꜭꜭꜯ"),
  (0xa732, "ꜳꜳꜵꜵꜷꜷꜹꜹꜻꜻꜽꜽꜿꜿꝁꝁꝃꝃꝅꝅꝇꝇꝉꝉꝋꝋꝍꝍꝏꝏꝑꝑꝓꝓꝕꝕꝗꝗꝙꝙꝛꝛꝝꝝꝟꝟꝡꝡꝣꝣꝥꝥꝧꝧꝩꝩꝫꝫꝭꝭꝯ"),
  (0xa779, "ꝺꝺꝼꝼᵹꝿꝿꞁꞁꞃꞃꞅꞅꞇ"), (0xa78b, "ꞌꞌɥꞎꞏꞑꞑꞓ"),
  (0xa796, "ꞗꞗꞙꞙꞛꞛꞝꞝꞟꞟꞡꞡꞣꞣꞥꞥꞧꞧꞩꞩɦɜɡɬɪꞯʞʇʝꭓꞵꞵꞷꞷꞹꞹꞻꞻꞽꞽꞿꞿꟁꟁꟃꟃꞔʂᶎꟈꟈꟊ"), (0xa7d0, "ꟑ"), (0xa7d6, "ꟗꟗꟙ"),
  (0xa7f5, "ꟶ"),
  (0xf900, "豈更車賈滑串句龜龜契金喇奈懶癩羅蘿螺裸邏樂洛烙珞落酪駱亂卵欄爛蘭鸞嵐濫藍襤拉臘蠟廊朗浪狼郎來冷勞擄櫓爐盧老蘆虜路露魯鷺碌祿綠菉錄鹿論壟弄籠聾牢磊賂雷壘屢樓淚" ++
    "漏累縷陋勒肋凜凌稜綾菱陵讀拏樂諾丹寧怒率異北磻便復不泌數索參塞省葉說殺辰沈拾若掠略亮兩凉梁糧良諒量勵呂女廬旅濾礪閭驪麗黎力曆歷轢年憐戀撚漣煉璉秊練聯輦蓮連鍊" ++
    "列劣咽烈裂說廉念捻殮簾獵令囹寧嶺怜玲瑩羚聆鈴零靈領例禮醴隸惡了僚寮尿料樂燎療蓼遼龍暈阮劉杻柳流溜琉留硫紐類六戮陸倫崙淪輪律慄栗率隆利吏履易李梨泥理痢罹裏裡里" ++
    "離匿溺吝燐璘藺隣鱗麟林淋臨立笠粒狀炙識什茶刺切度拓糖宅洞暴輻行降見廓兀嗀﨎﨏塚﨑晴﨓﨔凞猪益礼神祥福靖精羽﨟蘒﨡諸﨣﨤逸都"),
  (0xfa2a, "飯飼館鶴"), (0xfa30, "侮僧免勉勤卑喝嘆器塀墨層屮悔慨憎懲敏既暑梅海渚漢煮爫琢碑社祉祈祐祖祝禍禎穀突節練縉繁署者臭艹艹著褐視謁謹賓贈辶逸難響頻"),
  (0xfb20, "\u05e2\u05d0\u05d3\u05d4\u05db\u05dc\u05dd\u05e8\u05ea+"),
  (0xfb50, "\u0671\u0671\u067b\u067b\u067b\u067b\u067e\u067e\u067e\u067e\u0680\u0680\u0680" ++
    "\u0680\u067a\u067a\u067a\u067a\u067f\u067f\u067f\u067f\u0679\u0679\u0679\u0679" ++
    "\u06a4\u06a4\u06a4\u06a4\u06a6\u06a6\u06a6\u06a6\u0684\u0684\u0684\u0684\u0683" ++
    "\u0683\u0683\u0683\u0686\u0686\u0686\u0686\u0687\u0687\u0687\u0687\u068d\u068d" ++
    "\u068c\u068c\u068e\u068e\u0688\u0688\u0698\u0698\u0691\u0691\u06a9\u06a9\u06a9" ++
    "\u06a9\u06af\u06af\u06af\u06af\u06b3\u06b3\u06b3\u06b3\u06b1\u06b1\u06b1\u06b1" ++
    "\u06ba\u06ba\u06bb\u06bb\u06bb\u06bb"),
  (0xfba6, "\u06c1\u06c1\u06c1\u06c1\u06be\u06be\u06be\u06be\u06d2\u06d2"),
  (0xfbd3, "\u06ad\u06ad\u06ad\u06ad\u06c7\u06c7\u06c6\u06c6\u06c8\u06c8"),
  (0xfbde, "\u06cb\u06cb\u06c5\u06c5\u06c9\u06c9\u06d0\u06d0\u06d0\u06d0\u0649\u0649"),
  (0xfbfc, "\u06cc\u06cc\u06cc\u06cc"), (0xfe31, "—–__()\x7b\x7d〔〕【】《》〈〉「」『』"), (0xfe4d, "___,、."),
  (0xfe54, ";:?!—()\x7b\x7d〔〕#&*+-<>="), (0xfe68, "\\$%@"), (0xfe80, "\u0621"),
  (0xfe8d, "\u0627\u0627\u0628\u0628\u0628\u0628\u0629\u0629\u062a\u062a\u062a\u062a\u062b" ++
    "\u062b\u062b\u062b\u062c\u062c\u062c\u062c\u062d\u062d\u062d\u062d\u062e\u062e" ++
    "\u062e\u062e\u062f\u062f\u0630\u0630\u0631\u0631\u0632\u0632\u0633\u0633\u0633" ++
    "\u0633\u0634\u0634\u0634\u0634\u0635\u0635\u0635\u0635\u0636\u0636\u0636\u0636" ++
    "\u0637\u0637\u0637\u0637\u0638\u0638\u0638\u0638\u0639\u0639\u0639\u0639\u063a" ++
    "\u063a\u063a\u063a\u0641\u0641\u0641\u0641\u0642\u0642\u0642\u0642\u0643\u0643" ++
    "\u0643\u0643\u0644\u0644\u0644\u0644\u0645\u0645\u0645\u0645\u0646\u0646\u0646" ++
    "\u0646\u0647\u0647\u0647\u0647\u0648\u0648\u0649\u0649\u064a\u064a\u064a\u064a"),
  (0xff01, "!\"#$%&'()*+,-./0123456789:;<=>?@abcdefghijklmnopqrstuvwxyz[\\]^_\x60abcdefghi" ++
    "jklmnopqrstuvwxyz\x7b|\x7d~⦅⦆。「」、・ヲァィゥェォャュョッーアイウエオカキクケコサシスセソタチツテトナニヌネノハヒフヘホマミム" ++
    "メモヤユヨラリルレロワン\u3099\u309aᅠᄀᄁᆪᄂᆬᆭᄃᄄᄅᆰᆱᆲᆳᆴᆵᄚᄆᄇᄈᄡᄉᄊᄋᄌᄍᄎᄏᄐᄑᄒ"),
  (0xffc2, "ᅡᅢᅣᅤᅥᅦ"), (0xffca, "ᅧᅨᅩᅪᅫᅬ"), (0xffd2, "ᅭᅮᅯᅰᅱᅲ"), (0xffda, "ᅳᅴᅵ"), (0xffe0, "¢£¬"),
  (0xffe4, "¦¥₩"), (0xffe8, "│←↑→↓■○"), (0x10400, "𐐨𐐩𐐪𐐫𐐬𐐭𐐮𐐯𐐰𐐱𐐲𐐳𐐴𐐵𐐶𐐷𐐸𐐹𐐺𐐻𐐼𐐽𐐾𐐿𐑀𐑁𐑂𐑃𐑄𐑅𐑆𐑇𐑈𐑉𐑊𐑋𐑌𐑍𐑎𐑏"),
  (0x104b0, "𐓘𐓙𐓚𐓛𐓜𐓝𐓞𐓟𐓠𐓡𐓢𐓣𐓤𐓥𐓦𐓧𐓨𐓩𐓪𐓫𐓬𐓭𐓮𐓯𐓰𐓱𐓲𐓳𐓴𐓵𐓶𐓷𐓸𐓹𐓺𐓻"), (0x10570, "𐖗𐖘𐖙𐖚𐖛𐖜𐖝𐖞𐖟𐖠𐖡"),
  (0x1057c, "𐖣𐖤𐖥𐖦𐖧𐖨𐖩𐖪𐖫𐖬𐖭𐖮𐖯𐖰𐖱"), (0x1058c, "𐖳𐖴𐖵𐖶𐖷𐖸𐖹"), (0x10594, "𐖻𐖼"),
  (0x10c80, "𐳀𐳁𐳂𐳃𐳄𐳅𐳆𐳇𐳈𐳉𐳊𐳋𐳌𐳍𐳎𐳏𐳐𐳑𐳒𐳓𐳔𐳕𐳖𐳗𐳘𐳙𐳚𐳛𐳜𐳝𐳞𐳟𐳠𐳡𐳢𐳣𐳤𐳥𐳦𐳧𐳨𐳩𐳪𐳫𐳬𐳭𐳮𐳯𐳰𐳱𐳲"),
  (0x118a0, "𑣀𑣁𑣂𑣃𑣄𑣅𑣆𑣇𑣈𑣉𑣊𑣋𑣌𑣍𑣎𑣏𑣐𑣑𑣒𑣓𑣔𑣕𑣖𑣗𑣘𑣙𑣚𑣛𑣜𑣝𑣞𑣟"), (0x16e40, "𖹠𖹡𖹢𖹣𖹤𖹥𖹦𖹧𖹨𖹩𖹪𖹫𖹬𖹭𖹮𖹯𖹰𖹱𖹲𖹳𖹴𖹵𖹶𖹷𖹸𖹹𖹺𖹻𖹼𖹽𖹾𖹿"),
  (0x1d400, "abcdefghijklmnopqrstuvwxyzabcdefghijklmnopqrstuvwxyzabcdefghijklmnopqrstuvwxyz" ++
    "abcdefg"),
  (0x1d456, "ijklmnopqrstuvwxyzabcdefghijklmnopqrstuvwxyzabcdefghijklmnopqrstuvwxyza"),
  (0x1d49e, "cd"), (0x1d4a2, "g"), (0x1d4a5, "jk"), (0x1d4a9, "nopq"), (0x1d4ae, "stuvwxyzabcd"),
  (0x1d4bb, "f"), (0x1d4bd, "hijk𝓁mn"),
  (0x1d4c5, "pqrstuvwxyzabcdefghijklmnopqrstuvwxyzabcdefghijklmnopqrstuvwxyzab"),
  (0x1d507, "defg"), (0x1d50d, "jklmnopq"), (0x1d516, "stuvwxy"),
  (0x1d51e, "abcdefghijklmnopqrstuvwxyzab"), (0x1d53b, "defg"), (0x1d540, "ijklm"), (0x1d546, "o"),
  (0x1d54a, "stuvwxy"),
  (0x1d552, "abcdefghijklmnopqrstuvwxyzabcdefghijklmnopqrstuvwxyzabcdefghijklmnopqrstuvwxyz" ++
    "abcdefghijklmnopqrstuvwxyzabcdefghijklmnopqrstuvwxyzabcdefghijklmnopqrstuvwxyz" ++
    "abcdefghijklmnopqrstuvwxyzabcdefghijklmnopqrstuvwxyzabcdefghijklmnopqrstuvwxyz" ++
    "abcdefghijklmnopqrstuvwxyzabcdefghijklmnopqrstuvwxyzabcdefghijklmnopqrstuvwxyz" ++
    "abcdefghijklmnopqrstuvwxyz"),
  (0x1d6a8, "αβγδεζηθικλμνξοπρθστυφχψω∇αβγδεζηθικλμνξοπρσστυφχψω∂εθκφρπαβγδεζηθικλμνξοπρθστ" ++
    "υφχψω∇αβγδεζηθικλμνξοπρσστυφχψω∂εθκφρπαβγδεζηθικλμνξοπρθστυφχψω∇αβγδεζηθικλμνξ" ++
    "οπρσστυφχψω∂εθκφρπαβγδεζηθικλμνξοπρθστυφχψω∇αβγδεζηθικλμνξοπρσστυφχψω∂εθκφρπαβ" ++
    "γδεζηθικλμνξοπρθστυφχψω∇αβγδεζηθικλμνξοπρσστυφχψω∂εθκφρπ"),
  (0x1d7ce, "01234567890123456789012345678901234567890123456789"),
  (0x1e900, "𞤢𞤣𞤤𞤥𞤦𞤧𞤨𞤩𞤪𞤫𞤬𞤭𞤮𞤯𞤰𞤱𞤲𞤳𞤴𞤵𞤶𞤷𞤸𞤹𞤺𞤻𞤼𞤽𞤾𞤿𞥀𞥁𞥂𞥃"),
  (0x2f800, "丽丸乁𠄢你侮侻倂偺備僧像㒞𠘺免兔兤具𠔜㒹內再𠕋冗冤仌冬况𩇟凵刃㓟刻剆割剷㔕勇勉勤勺包匆北卉卑博即卽卿卿卿𠨬灰及叟𠭣叫叱吆咞吸呈周咢哶唐啓啣善善喙喫喳嗂圖嘆圗" ++
    "噑噴切壮城埴堍型堲報墬𡓤売壷夆多夢奢𡚨𡛪姬娛娧姘婦㛮𡍪嬈嬾嬾𡧈寃寘寧寳𡬘寿将弳尢㞁屠屮峀岍𡷤嵃𡷦嵮嵫嵼巡巢㠯巽帨帽幩㡢𢆃㡼庰庳庶廊𪎒廾𢌱𢌱舁弢弢㣇𣊸𦇚形彫㣣" ++
    "徚忍志忹悁㤺㤜悔𢛔惇慈慌慎慌慺憎憲憤憯懞懲懶成戛扝抱拔捐𢬌挽拼捨掃揤𢯱搢揅掩㨮摩摾撝摷㩬敏敬𣀊旣書晉㬙暑㬈㫤冒冕最暜肭䏙朗望朡杞杓𣏃㭉柺枅桒梅𣑭梎栟椔㮝楂榣" ++
    "槪檨𣚣櫛㰘次𣢧歔㱎歲殟殺殻𣪍𡴋𣫺汎𣲼沿泍汧洖派海流浩浸涅𣴞洴港湮㴳滋滇𣻑淹潮𣽞𣾎濆瀹瀞瀛㶖灊災灷炭𠔥煅𤉣熜䎫爨爵牐𤘈犀犕𤜵𤠔獺王㺬玥㺸㺸瑇瑜瑱璅瓊㼛甤𤰶甾𤲒" ++
    "異𢆟瘐𤾡𤾸𥁄㿼䀈直𥃳𥃲𥄙𥄳眞真真睊䀹瞋䁆䂖𥐝硎碌磌䃣𥘦祖𥚚𥛅福秫䄯穀穊穏𥥼𥪧𥪧窮䈂𥮫篆築䈧𥲀糒䊠糨糣紀𥾆絣䌁緇縂繅䌴𦈨𦉇䍙𦋙罺𦌾羕翺者𦓚𦔣聠𦖨聰𣍟䏕育脃䐋脾" ++
    "媵𦞧𦞵𣎓𣎜舁舄辞䑫芑芋芝劳花芳芽苦𦬼若茝荣莭茣莽菧著荓菊菌菜𦰶𦵫𦳕䔫蓱蓳蔖𧏊蕤𦼬䕝䕡𦾱𧃒䕫虐虜虧虩蚩蚈蜎蛢蝹蜨蝫螆䵗蟡蠁䗹衠衣𧙧裗裞䘵裺㒻𧢮𧥦䚾䛇誠諭變豕𧲨" ++
    "貫賁贛起𧼯𠠄跋趼跰𠣞軔輸𨗒𨗭邔郱鄑𨜮鄛鈸鋗鋘鉼鏹鐕𨯺開䦕閷𨵷䧦雃嶲霣𩅅𩈚䩮䩶韠𩐊䪲𩒖頋頋頩𩖶飢䬳餩馧駂駾䯎𩬰鬒鱀鳽䳎䳭鵧𪃎䳸𪄅𪈎𪊑麻䵖黹黾鼅鼏鼖鼻𪘀")]

/-- From a code point on, the texts that replace one character each. -/
def expansions : List (Nat × List String) := [
  (0x00a8, [" \u0308"]), (0x00ad, [""]), (0x00af, [" \u0304"]), (0x00b4, [" \u0301"]),
  (0x00b8, [" \u0327"]), (0x00bc, ["1⁄4", "1⁄2", "3⁄4"]),
  (0x00c0, ["a\u0300", "a\u0301", "a\u0302", "a\u0303", "a\u0308", "a\u030a"]),
  (0x00c7, ["c\u0327", "e\u0300", "e\u0301", "e\u0302", "e\u0308", "i\u0300", "i\u0301", "i\u0302",
    "i\u0308"]), (0x00d1, ["n\u0303", "o\u0300", "o\u0301", "o\u0302", "o\u0303", "o\u0308"]),
  (0x00d9, ["u\u0300", "u\u0301", "u\u0302", "u\u0308", "y\u0301"]),
  (0x00df, ["ss", "a\u0300", "a\u0301", "a\u0302", "a\u0303", "a\u0308", "a\u030a"]),
  (0x00e7, ["c\u0327", "e\u0300", "e\u0301", "e\u0302", "e\u0308", "i\u0300", "i\u0301", "i\u0302",
    "i\u0308"]), (0x00f1, ["n\u0303", "o\u0300", "o\u0301", "o\u0302", "o\u0303", "o\u0308"]),
  (0x00f9, ["u\u0300", "u\u0301", "u\u0302", "u\u0308", "y\u0301"]),
  (0x00ff, ["y\u0308", "a\u0304", "a\u0304", "a\u0306", "a\u0306", "a\u0328", "a\u0328", "c\u0301",
    "c\u0301", "c\u0302", "c\u0302", "c\u0307", "c\u0307", "c\u030c", "c\u030c", "d\u030c",
    "d\u030c"]),
  (0x0112, ["e\u0304", "e\u0304", "e\u0306", "e\u0306", "e\u0307", "e\u0307", "e\u0328", "e\u0328",
    "e\u030c", "e\u030c", "g\u0302", "g\u0302", "g\u0306", "g\u0306", "g\u0307", "g\u0307",
    "g\u0327", "g\u0327", "h\u0302", "h\u0302"]),
  (0x0128, ["i\u0303", "i\u0303", "i\u0304", "i\u0304", "i\u0306", "i\u0306", "i\u0328", "i\u0328",
    "i\u0307"]), (0x0132, ["ij", "ij", "j\u0302", "j\u0302", "k\u0327", "k\u0327"]),
  (0x0139, ["l\u0301", "l\u0301", "l\u0327", "l\u0327", "l\u030c", "l\u030c", "l·", "l·"]),
  (0x0143, ["n\u0301", "n\u0301", "n\u0327", "n\u0327", "n\u030c", "n\u030c", "ʼn"]),
  (0x014c, ["o\u0304", "o\u0304", "o\u0306", "o\u0306", "o\u030b", "o\u030b"]),
  (0x0154, ["r\u0301", "r\u0301", "r\u0327", "r\u0327", "r\u030c", "r\u030c", "s\u0301", "s\u0301",
    "s\u0302", "s\u0302", "s\u0327", "s\u0327", "s\u030c", "s\u030c", "t\u0327", "t\u0327",
    "t\u030c", "t\u030c"]),
  (0x0168, ["u\u0303", "u\u0303", "u\u0304", "u\u0304", "u\u0306", "u\u0306", "u\u030a", "u\u030a",
    "u\u030b", "u\u030b", "u\u0328", "u\u0328", "w\u0302", "w\u0302", "y\u0302", "y\u0302",
    "y\u0308", "z\u0301", "z\u0301", "z\u0307", "z\u0307", "z\u030c", "z\u030c"]),
  (0x01a0, ["o\u031b", "o\u031b"]), (0x01af, ["u\u031b", "u\u031b"]),
  (0x01c4, ["dz\u030c", "dz\u030c", "dz\u030c", "lj", "lj", "lj", "nj", "nj", "nj", "a\u030c",
    "a\u030c", "i\u030c", "i\u030c", "o\u030c", "o\u030c", "u\u030c", "u\u030c", "u\u0308\u0304",
    "u\u0308\u0304", "u\u0308\u0301", "u\u0308\u0301", "u\u0308\u030c", "u\u0308\u030c",
    "u\u0308\u0300", "u\u0308\u0300"]),
  (0x01de, ["a\u0308\u0304", "a\u0308\u0304", "a\u0307\u0304", "a\u0307\u0304", "æ\u0304",
    "æ\u0304"]),
  (0x01e6, ["g\u030c", "g\u030c", "k\u030c", "k\u030c", "o\u0328", "o\u0328", "o\u0328\u0304",
    "o\u0328\u0304", "ʒ\u030c", "ʒ\u030c", "j\u030c", "dz", "dz", "dz", "g\u0301", "g\u0301"]),
  (0x01f8, ["n\u0300", "n\u0300", "a\u030a\u0301", "a\u030a\u0301", "æ\u0301", "æ\u0301",
    "ø\u0301", "ø\u0301", "a\u030f", "a\u030f", "a\u0311", "a\u0311", "e\u030f", "e\u030f",
    "e\u0311", "e\u0311", "i\u030f", "i\u030f", "i\u0311", "i\u0311", "o\u030f", "o\u030f",
    "o\u0311", "o\u0311", "r\u030f", "r\u030f", "r\u0311", "r\u0311", "u\u030f", "u\u030f",
    "u\u0311", "u\u0311", "s\u0326", "s\u0326", "t\u0326", "t\u0326"]),
  (0x021e, ["h\u030c", "h\u030c"]),
  (0x0226, ["a\u0307", "a\u0307", "e\u0327", "e\u0327", "o\u0308\u0304", "o\u0308\u0304",
    "o\u0303\u0304", "o\u0303\u0304", "o\u0307", "o\u0307", "o\u0307\u0304", "o\u0307\u0304",
    "y\u0304", "y\u0304"]),
  (0x02d8, [" \u0306", " \u0307", " \u030a", " \u0328", " \u0303", " \u030b"]),
  (0x0344, ["\u0308\u0301"]), (0x034f, [""]), (0x037a, [" ι"]),
  (0x0384, [" \u0301", " \u0308\u0301", "α\u0301"]), (0x0388, ["ε\u0301", "η\u0301", "ι\u0301"]),
  (0x038c, ["ο\u0301"]), (0x038e, ["υ\u0301", "ω\u0301", "ι\u0308\u0301"]),
  (0x03aa, ["ι\u0308", "υ\u0308", "α\u0301", "ε\u0301", "η\u0301", "ι\u0301", "υ\u0308\u0301"]),
  (0x03ca, ["ι\u0308", "υ\u0308", "ο\u0301", "υ\u0301", "ω\u0301"]),
  (0x03d3, ["υ\u0301", "υ\u0308"]), (0x0400, ["е\u0300", "е\u0308"]), (0x0403, ["г\u0301"]),
  (0x0407, ["і\u0308"]), (0x040c, ["к\u0301", "и\u0300", "у\u0306"]), (0x0419, ["и\u0306"]),
  (0x0439, ["и\u0306"]), (0x0450, ["е\u0300", "е\u0308"]), (0x0453, ["г\u0301"]),
  (0x0457, ["і\u0308"]), (0x045c, ["к\u0301", "и\u0300", "у\u0306"]),
  (0x0476, ["ѵ\u030f", "ѵ\u030f"]), (0x04c1, ["ж\u0306", "ж\u0306"]),
  (0x04d0, ["а\u0306", "а\u0306", "а\u0308", "а\u0308"]), (0x04d6, ["е\u0306", "е\u0306"]),
  (0x04da, ["ә\u0308", "ә\u0308", "ж\u0308", "ж\u0308", "з\u0308", "з\u0308"]),
  (0x04e2, ["и\u0304", "и\u0304", "и\u0308", "и\u0308", "о\u0308", "о\u0308"]),
  (0x04ea, ["ө\u0308", "ө\u0308", "э\u0308", "э\u0308", "у\u0304", "у\u0304", "у\u0308", "у\u0308",
    "у\u030b", "у\u030b", "ч\u0308", "ч\u0308"]), (0x04f8, ["ы\u0308", "ы\u0308"]),
  (0x0587, ["եւ"]),
  (0x0622, ["\u0627\u0653", "\u0627\u0654", "\u0648\u0654", "\u0627\u0655", "\u064a\u0654"]),
  (0x0675, ["\u0627\u0674", "\u0648\u0674", "\u06c7\u0674", "\u064a\u0674"]),
  (0x06c0, ["\u06d5\u0654"]), (0x06c2, ["\u06c1\u0654"]), (0x06d3, ["\u06d2\u0654"]),
  (0x0929, ["न\u093c"]), (0x0931, ["र\u093c"]), (0x0934, ["ळ\u093c"]),
  (0x0958, ["क\u093c", "ख\u093c", "ग\u093c", "ज\u093c", "ड\u093c", "ढ\u093c", "फ\u093c",
    "य\u093c"]), (0x09cb, ["\u09c7\u09be", "\u09c7\u09d7"]), (0x09dc, ["ড\u09bc", "ঢ\u09bc"]),
  (0x09df, ["য\u09bc"]), (0x0a33, ["ਲ\u0a3c"]), (0x0a36, ["ਸ\u0a3c"]),
  (0x0a59, ["ਖ\u0a3c", "ਗ\u0a3c", "ਜ\u0a3c"]), (0x0a5e, ["ਫ\u0a3c"]), (0x0b48, ["\u0b47\u0b56"]),
  (0x0b4b, ["\u0b47\u0b3e", "\u0b47\u0b57"]), (0x0b5c, ["ଡ\u0b3c", "ଢ\u0b3c"]),
  (0x0b94, ["ஒ\u0bd7"]), (0x0bca, ["\u0bc6\u0bbe", "\u0bc7\u0bbe", "\u0bc6\u0bd7"]),
  (0x0c48, ["\u0c46\u0c56"]), (0x0cc0, ["\u0cbf\u0cd5"]),
  (0x0cc7, ["\u0cc6\u0cd5", "\u0cc6\u0cd6"]), (0x0cca, ["\u0cc6\u0cc2", "\u0cc6\u0cc2\u0cd5"]),
  (0x0d4a, ["\u0d46\u0d3e", "\u0d47\u0d3e", "\u0d46\u0d57"]), (0x0dda, ["\u0dd9\u0dca"]),
  (0x0ddc, ["\u0dd9\u0dcf", "\u0dd9\u0dcf\u0dca", "\u0dd9\u0ddf"]), (0x0e33, ["\u0e4dา"]),
  (0x0eb3, ["\u0ecdາ"]), (0x0edc, ["ຫນ", "ຫມ"]), (0x0f43, ["ག\u0fb7"]), (0x0f4d, ["ཌ\u0fb7"]),
  (0x0f52, ["ད\u0fb7"]), (0x0f57, ["བ\u0fb7"]), (0x0f5c, ["ཛ\u0fb7"]), (0x0f69, ["ཀ\u0fb5"]),
  (0x0f73, ["\u0f71\u0f72"]),
  (0x0f75, ["\u0f71\u0f74", "\u0fb2\u0f80", "\u0fb2\u0f71\u0f80", "\u0fb3\u0f80",
    "\u0fb3\u0f71\u0f80"]), (0x0f81, ["\u0f71\u0f80"]), (0x0f93, ["\u0f92\u0fb7"]),
  (0x0f9d, ["\u0f9c\u0fb7"]), (0x0fa2, ["\u0fa1\u0fb7"]), (0x0fa7, ["\u0fa6\u0fb7"]),
  (0x0fac, ["\u0fab\u0fb7"]), (0x0fb9, ["\u0f90\u0fb5"]), (0x1026, ["ဥ\u102e"]), (0x1806, [""]),
  (0x180b, ["", "", ""]),
  (0x1e00, ["a\u0325", "a\u0325", "b\u0307", "b\u0307", "b\u0323", "b\u0323", "b\u0331", "b\u0331",
    "c\u0327\u0301", "c\u0327\u0301", "d\u0307", "d\u0307", "d\u0323", "d\u0323", "d\u0331",
    "d\u0331", "d\u0327", "d\u0327", "d\u032d", "d\u032d", "e\u0304\u0300", "e\u0304\u0300",
    "e\u0304\u0301", "e\u0304\u0301", "e\u032d", "e\u032d", "e\u0330", "e\u0330", "e\u0327\u0306",
    "e\u0327\u0306", "f\u0307", "f\u0307", "g\u0304", "g\u0304", "h\u0307", "h\u0307", "h\u0323",
    "h\u0323", "h\u0308", "h\u0308", "h\u0327", "h\u0327", "h\u032e", "h\u032e", "i\u0330",
    "i\u0330", "i\u0308\u0301", "i\u0308\u0301", "k\u0301", "k\u0301", "k\u0323", "k\u0323",
    "k\u0331", "k\u0331", "l\u0323", "l\u0323", "l\u0323\u0304", "l\u0323\u0304", "l\u0331",
    "l\u0331", "l\u032d", "l\u032d", "m\u0301", "m\u0301", "m\u0307", "m\u0307", "m\u0323",
    "m\u0323", "n\u0307", "n\u0307", "n\u0323", "n\u0323", "n\u0331", "n\u0331", "n\u032d",
    "n\u032d", "o\u0303\u0301", "o\u0303\u0301", "o\u0303\u0308", "o\u0303\u0308", "o\u0304\u0300",
    "o\u0304\u0300", "o\u0304\u0301", "o\u0304\u0301", "p\u0301", "p\u0301", "p\u0307", "p\u0307",
    "r\u0307", "r\u0307", "r\u0323", "r\u0323", "r\u0323\u0304", "r\u0323\u0304", "r\u0331",
    "r\u0331", "s\u0307", "s\u0307", "s\u0323", "s\u0323", "s\u0301\u0307", "s\u0301\u0307",
    "s\u030c\u0307", "s\u030c\u0307", "s\u0323\u0307", "s\u0323\u0307", "t\u0307", "t\u0307",
    "t\u0323", "t\u0323", "t\u0331", "t\u0331", "t\u032d", "t\u032d", "u\u0324", "u\u0324",
    "u\u0330", "u\u0330", "u\u032d", "u\u032d", "u\u0303\u0301", "u\u0303\u0301", "u\u0304\u0308",
    "u\u0304\u0308", "v\u0303", "v\u0303", "v\u0323", "v\u0323", "w\u0300", "w\u0300", "w\u0301",
    "w\u0301", "w\u0308", "w\u0308", "w\u0307", "w\u0307", "w\u0323", "w\u0323", "x\u0307",
    "x\u0307", "x\u0308", "x\u0308", "y\u0307", "y\u0307", "z\u0302", "z\u0302", "z\u0323",
    "z\u0323", "z\u0331", "z\u0331", "h\u0331", "t\u0308", "w\u030a", "y\u030a", "aʾ", "s\u0307"]),
  (0x1e9e, ["ss"]),
  (0x1ea0, ["a\u0323", "a\u0323", "a\u0309", "a\u0309", "a\u0302\u0301", "a\u0302\u0301",
    "a\u0302\u0300", "a\u0302\u0300", "a\u0302\u0309", "a\u0302\u0309", "a\u0302\u0303",
    "a\u0302\u0303", "a\u0323\u0302", "a\u0323\u0302", "a\u0306\u0301", "a\u0306\u0301",
    "a\u0306\u0300", "a\u0306\u0300", "a\u0306\u0309", "a\u0306\u0309", "a\u0306\u0303",
    "a\u0306\u0303", "a\u0323\u0306", "a\u0323\u0306", "e\u0323", "e\u0323", "e\u0309", "e\u0309",
    "e\u0303", "e\u0303", "e\u0302\u0301", "e\u0302\u0301", "e\u0302\u0300", "e\u0302\u0300",
    "e\u0302\u0309", "e\u0302\u0309", "e\u0302\u0303", "e\u0302\u0303", "e\u0323\u0302",
    "e\u0323\u0302", "i\u0309", "i\u0309", "i\u0323", "i\u0323", "o\u0323", "o\u0323", "o\u0309",
    "o\u0309", "o\u0302\u0301", "o\u0302\u0301", "o\u0302\u0300", "o\u0302\u0300", "o\u0302\u0309",
    "o\u0302\u0309", "o\u0302\u0303", "o\u0302\u0303", "o\u0323\u0302", "o\u0323\u0302",
    "o\u031b\u0301", "o\u031b\u0301", "o\u031b\u0300", "o\u031b\u0300", "o\u031b\u0309",
    "o\u031b\u0309", "o\u031b\u0303", "o\u031b\u0303", "o\u031b\u0323", "o\u031b\u0323", "u\u0323",
    "u\u0323", "u\u0309", "u\u0309", "u\u031b\u0301", "u\u031b\u0301", "u\u031b\u0300",
    "u\u031b\u0300", "u\u031b\u0309", "u\u031b\u0309", "u\u031b\u0303", "u\u031b\u0303",
    "u\u031b\u0323", "u\u031b\u0323", "y\u0300", "y\u0300", "y\u0323", "y\u0323", "y\u0309",
    "y\u0309", "y\u0303", "y\u0303"]),
  (0x1f00, ["α\u0313", "α\u0314", "α\u0313\u0300", "α\u0314\u0300", "α\u0313\u0301",
    "α\u0314\u0301", "α\u0313\u0342", "α\u0314\u0342", "α\u0313", "α\u0314", "α\u0313\u0300",
    "α\u0314\u0300", "α\u0313\u0301", "α\u0314\u0301", "α\u0313\u0342", "α\u0314\u0342", "ε\u0313",
    "ε\u0314", "ε\u0313\u0300", "ε\u0314\u0300", "ε\u0313\u0301", "ε\u0314\u0301"]),
  (0x1f18, ["ε\u0313", "ε\u0314", "ε\u0313\u0300", "ε\u0314\u0300", "ε\u0313\u0301",
    "ε\u0314\u0301"]),
  (0x1f20, ["η\u0313", "η\u0314", "η\u0313\u0300", "η\u0314\u0300", "η\u0313\u0301",
    "η\u0314\u0301", "η\u0313\u0342", "η\u0314\u0342", "η\u0313", "η\u0314", "η\u0313\u0300",
    "η\u0314\u0300", "η\u0313\u0301", "η\u0314\u0301", "η\u0313\u0342", "η\u0314\u0342", "ι\u0313",
    "ι\u0314", "ι\u0313\u0300", "ι\u0314\u0300", "ι\u0313\u0301", "ι\u0314\u0301", "ι\u0313\u0342",
    "ι\u0314\u0342", "ι\u0313", "ι\u0314", "ι\u0313\u0300", "ι\u0314\u0300", "ι\u0313\u0301",
    "ι\u0314\u0301", "ι\u0313\u0342", "ι\u0314\u0342", "ο\u0313", "ο\u0314", "ο\u0313\u0300",
    "ο\u0314\u0300", "ο\u0313\u0301", "ο\u0314\u0301"]),
  (0x1f48, ["ο\u0313", "ο\u0314", "ο\u0313\u0300", "ο\u0314\u0300", "ο\u0313\u0301",
    "ο\u0314\u0301"]),
  (0x1f50, ["υ\u0313", "υ\u0314", "υ\u0313\u0300", "υ\u0314\u0300", "υ\u0313\u0301",
    "υ\u0314\u0301", "υ\u0313\u0342", "υ\u0314\u0342"]), (0x1f59, ["υ\u0314"]),
  (0x1f5b, ["υ\u0314\u0300"]), (0x1f5d, ["υ\u0314\u0301"]),
  (0x1f5f, ["υ\u0314\u0342", "ω\u0313", "ω\u0314", "ω\u0313\u0300", "ω\u0314\u0300",
    "ω\u0313\u0301", "ω\u0314\u0301", "ω\u0313\u0342", "ω\u0314\u0342", "ω\u0313", "ω\u0314",
    "ω\u0313\u0300", "ω\u0314\u0300", "ω\u0313\u0301", "ω\u0314\u0301", "ω\u0313\u0342",
    "ω\u0314\u0342", "α\u0300", "α\u0301", "ε\u0300", "ε\u0301", "η\u0300", "η\u0301", "ι\u0300",
    "ι\u0301", "ο\u0300", "ο\u0301", "υ\u0300", "υ\u0301", "ω\u0300", "ω\u0301"]),
  (0x1f80, ["α\u0313ι", "α\u0314ι", "α\u0313\u0300ι", "α\u0314\u0300ι", "α\u0313\u0301ι",
    "α\u0314\u0301ι", "α\u0313\u0342ι", "α\u0314\u0342ι", "α\u0313ι", "α\u0314ι", "α\u0313\u0300ι",
    "α\u0314\u0300ι", "α\u0313\u0301ι", "α\u0314\u0301ι", "α\u0313\u0342ι", "α\u0314\u0342ι",
    "η\u0313ι", "η\u0314ι", "η\u0313\u0300ι", "η\u0314\u0300ι", "η\u0313\u0301ι", "η\u0314\u0301ι",
    "η\u0313\u0342ι", "η\u0314\u0342ι", "η\u0313ι", "η\u0314ι", "η\u0313\u0300ι", "η\u0314\u0300ι",
    "η\u0313\u0301ι", "η\u0314\u0301ι", "η\u0313\u0342ι", "η\u0314\u0342ι", "ω\u0313ι", "ω\u0314ι",
    "ω\u0313\u0300ι", "ω\u0314\u0300ι", "ω\u0313\u0301ι", "ω\u0314\u0301ι", "ω\u0313\u0342ι",
    "ω\u0314\u0342ι", "ω\u0313ι", "ω\u0314ι", "ω\u0313\u0300ι", "ω\u0314\u0300ι", "ω\u0313\u0301ι",
    "ω\u0314\u0301ι", "ω\u0313\u0342ι", "ω\u0314\u0342ι", "α\u0306", "α\u0304", "α\u0300ι", "αι",
    "α\u0301ι"]),
  (0x1fb6, ["α\u0342", "α\u0342ι", "α\u0306", "α\u0304", "α\u0300", "α\u0301", "αι", " \u0313"]),
  (0x1fbf, [" \u0313", " \u0342", " \u0308\u0342", "η\u0300ι", "ηι", "η\u0301ι"]),
  (0x1fc6, ["η\u0342", "η\u0342ι", "ε\u0300", "ε\u0301", "η\u0300", "η\u0301", "ηι",
    " \u0313\u0300", " \u0313\u0301", " \u0313\u0342", "ι\u0306", "ι\u0304", "ι\u0308\u0300",
    "ι\u0308\u0301"]),
  (0x1fd6, ["ι\u0342", "ι\u0308\u0342", "ι\u0306", "ι\u0304", "ι\u0300", "ι\u0301"]),
  (0x1fdd, [" \u0314\u0300", " \u0314\u0301", " \u0314\u0342", "υ\u0306", "υ\u0304",
    "υ\u0308\u0300", "υ\u0308\u0301", "ρ\u0313", "ρ\u0314", "υ\u0342", "υ\u0308\u0342", "υ\u0306",
    "υ\u0304", "υ\u0300", "υ\u0301", "ρ\u0314", " \u0308\u0300", " \u0308\u0301"]),
  (0x1ff2, ["ω\u0300ι", "ωι", "ω\u0301ι"]),
  (0x1ff6, ["ω\u0342", "ω\u0342ι", "ο\u0300", "ο\u0301", "ω\u0300", "ω\u0301", "ωι", " \u0301",
    " \u0314"]), (0x200b, ["", "", ""]), (0x2017, [" \u0333"]), (0x2025, ["..", "..."]),
  (0x2033, ["′′", "′′′"]), (0x2036, ["‵‵", "‵‵‵"]), (0x203c, ["!!"]), (0x203e, [" \u0305"]),
  (0x2047, ["??", "?!", "!?"]), (0x2057, ["′′′′"]), (0x2060, [""]), (0x20a8, ["rs"]),
  (0x2100, ["a/c", "a/s"]), (0x2103, ["°c"]), (0x2105, ["c/o", "c/u"]), (0x2109, ["°f"]),
  (0x2116, ["no"]), (0x2120, ["sm", "tel", "tm"]), (0x212b, ["a\u030a"]),
  (0x2153, ["1⁄3", "2⁄3", "1⁄5", "2⁄5", "3⁄5", "4⁄5", "1⁄6", "5⁄6", "1⁄8", "3⁄8", "5⁄8", "7⁄8",
    "1⁄"]), (0x2161, ["ii", "iii", "iv"]), (0x2165, ["vi", "vii", "viii", "ix"]),
  (0x216a, ["xi", "xii"]), (0x2171, ["ii", "iii", "iv"]), (0x2175, ["vi", "vii", "viii", "ix"]),
  (0x217a, ["xi", "xii"]), (0x219a, ["←\u0338", "→\u0338"]), (0x21ae, ["↔\u0338"]),
  (0x21cd, ["⇐\u0338", "⇔\u0338", "⇒\u0338"]), (0x2204, ["∃\u0338"]), (0x2209, ["∈\u0338"]),
  (0x220c, ["∋\u0338"]), (0x2224, ["∣\u0338"]), (0x2226, ["∥\u0338"]), (0x222c, ["∫∫", "∫∫∫"]),
  (0x222f, ["∮∮", "∮∮∮"]), (0x2241, ["∼\u0338"]), (0x2244, ["≃\u0338"]), (0x2247, ["≅\u0338"]),
  (0x2249, ["≈\u0338"]), (0x2260, ["=\u0338"]), (0x2262, ["≡\u0338"]),
  (0x226d, ["≍\u0338", "<\u0338", ">\u0338", "≤\u0338", "≥\u0338"]),
  (0x2274, ["≲\u0338", "≳\u0338"]), (0x2278, ["≶\u0338", "≷\u0338"]),
  (0x2280, ["≺\u0338", "≻\u0338"]), (0x2284, ["⊂\u0338", "⊃\u0338"]),
  (0x2288, ["⊆\u0338", "⊇\u0338"]), (0x22ac, ["⊢\u0338", "⊨\u0338", "⊩\u0338", "⊫\u0338"]),
  (0x22e0, ["≼\u0338", "≽\u0338", "⊑\u0338", "⊒\u0338"]),
  (0x22ea, ["⊲\u0338", "⊳\u0338", "⊴\u0338", "⊵\u0338"]),
  (0x2469, ["10", "11", "12", "13", "14", "15", "16", "17", "18", "19", "20", "(1)", "(2)", "(3)",
    "(4)", "(5)", "(6)", "(7)", "(8)", "(9)", "(10)", "(11)", "(12)", "(13)", "(14)", "(15)",
    "(16)", "(17)", "(18)", "(19)", "(20)", "1.", "2.", "3.", "4.", "5.", "6.", "7.", "8.", "9.",
    "10.", "11.", "12.", "13.", "14.", "15.", "16.", "17.", "18.", "19.", "20.", "(a)", "(b)",
    "(c)", "(d)", "(e)", "(f)", "(g)", "(h)", "(i)", "(j)", "(k)", "(l)", "(m)", "(n)", "(o)",
    "(p)", "(q)", "(r)", "(s)", "(t)", "(u)", "(v)", "(w)", "(x)", "(y)", "(z)"]),
  (0x2a0c, ["∫∫∫∫"]), (0x2a74, ["::=", "==", "==="]), (0x2adc, ["⫝\u0338"]), (0x304c, ["か\u3099"]),
  (0x304e, ["き\u3099"]), (0x3050, ["く\u3099"]), (0x3052, ["け\u3099"]), (0x3054, ["こ\u3099"]),
  (0x3056, ["さ\u3099"]), (0x3058, ["し\u3099"]), (0x305a, ["す\u3099"]), (0x305c, ["せ\u3099"]),
  (0x305e, ["そ\u3099"]), (0x3060, ["た\u3099"]), (0x3062, ["ち\u3099"]), (0x3065, ["つ\u3099"]),
  (0x3067, ["て\u3099"]), (0x3069, ["と\u3099"]), (0x3070, ["は\u3099", "は\u309a"]),
  (0x3073, ["ひ\u3099", "ひ\u309a"]), (0x3076, ["ふ\u3099", "ふ\u309a"]),
  (0x3079, ["へ\u3099", "へ\u309a"]), (0x307c, ["ほ\u3099", "ほ\u309a"]), (0x3094, ["う\u3099"]),
  (0x309b, [" \u3099", " \u309a"]), (0x309e, ["ゝ\u3099", "より"]), (0x30ac, ["カ\u3099"]),
  (0x30ae, ["キ\u3099"]), (0x30b0, ["ク\u3099"]), (0x30b2, ["ケ\u3099"]), (0x30b4, ["コ\u3099"]),
  (0x30b6, ["サ\u3099"]), (0x30b8, ["シ\u3099"]), (0x30ba, ["ス\u3099"]), (0x30bc, ["セ\u3099"]),
  (0x30be, ["ソ\u3099"]), (0x30c0, ["タ\u3099"]), (0x30c2, ["チ\u3099"]), (0x30c5, ["ツ\u3099"]),
  (0x30c7, ["テ\u3099"]), (0x30c9, ["ト\u3099"]), (0x30d0, ["ハ\u3099", "ハ\u309a"]),
  (0x30d3, ["ヒ\u3099", "ヒ\u309a"]), (0x30d6, ["フ\u3099", "フ\u309a"]),
  (0x30d9, ["ヘ\u3099", "ヘ\u309a"]), (0x30dc, ["ホ\u3099", "ホ\u309a"]), (0x30f4, ["ウ\u3099"]),
  (0x30f7, ["ワ\u3099", "ヰ\u3099", "ヱ\u3099", "ヲ\u3099"]), (0x30fe, ["ヽ\u3099", "コト"]),
  (0x3200, ["(ᄀ)", "(ᄂ)", "(ᄃ)", "(ᄅ)", "(ᄆ)", "(ᄇ)", "(ᄉ)", "(ᄋ)", "(ᄌ)", "(ᄎ)", "(ᄏ)", "(ᄐ)",
    "(ᄑ)", "(ᄒ)", "(가)", "(나)", "(다)", "(라)", "(마)", "(바)", "(사)", "(아)", "(자)", "(차)",
    "(카)", "(타)", "(파)", "(하)", "(주)"]),
  (0x3220, ["(一)", "(二)", "(三)", "(四)", "(五)", "(六)", "(七)", "(八)", "(九)", "(十)", "(月)", "(火)",
    "(水)", "(木)", "(金)", "(土)", "(日)", "(株)", "(有)", "(社)", "(名)", "(特)", "(財)", "(祝)", "(労)",
    "(代)", "(呼)", "(学)", "(監)", "(企)", "(資)", "(協)", "(祭)", "(休)", "(自)", "(至)"]),
  (0x3251, ["21", "22", "23", "24", "25", "26", "27", "28", "29", "30", "31", "32", "33", "34",
    "35"]),
  (0x326e, ["가", "나", "다", "라", "마", "바", "사", "아", "자", "차", "카", "타", "파", "하"]),
  (0x32b1, ["36", "37", "38", "39", "40", "41", "42", "43", "44", "45", "46", "47", "48", "49",
    "50", "1月", "2月", "3月", "4月", "5月", "6月", "7月", "8月", "9月", "10月", "11月", "12月"]),
  (0x3300, ["アハ\u309aート", "アルファ", "アンヘ\u309aア", "アール", "イニンク\u3099", "インチ", "ウォン", "エスクート\u3099",
    "エーカー", "オンス", "オーム", "カイリ", "カラット", "カロリー", "カ\u3099ロン", "カ\u3099ンマ", "キ\u3099カ\u3099",
    "キ\u3099ニー", "キュリー", "キ\u3099ルタ\u3099ー", "キロ", "キロク\u3099ラム", "キロメートル", "キロワット", "ク\u3099ラム",
    "ク\u3099ラムトン", "クルセ\u3099イロ", "クローネ", "ケース", "コルナ", "コーホ\u309a", "サイクル", "サンチーム", "シリンク\u3099",
    "センチ", "セント", "タ\u3099ース", "テ\u3099シ", "ト\u3099ル", "トン", "ナノ", "ノット", "ハイツ", "ハ\u309aーセント",
    "ハ\u309aーツ", "ハ\u3099ーレル", "ヒ\u309aアストル", "ヒ\u309aクル", "ヒ\u309aコ", "ヒ\u3099ル", "ファラット\u3099",
    "フィート", "フ\u3099ッシェル", "フラン", "ヘクタール", "ヘ\u309aソ", "ヘ\u309aニヒ", "ヘルツ", "ヘ\u309aンス",
    "ヘ\u309aーシ\u3099", "ヘ\u3099ータ", "ホ\u309aイント", "ホ\u3099ルト", "ホン", "ホ\u309aント\u3099", "ホール",
    "ホーン", "マイクロ", "マイル", "マッハ", "マルク", "マンション", "ミクロン", "ミリ", "ミリハ\u3099ール", "メカ\u3099",
    "メカ\u3099トン", "メートル", "ヤート\u3099", "ヤール", "ユアン", "リットル", "リラ", "ルヒ\u309aー", "ルーフ\u3099ル", "レム",
    "レントケ\u3099ン", "ワット", "0点", "1点", "2点", "3点", "4点", "5点", "6点", "7点", "8点", "9点", "10点", "11点",
    "12点", "13点", "14点", "15点", "16点", "17点", "18点", "19点", "20点", "21点", "22点", "23点", "24点",
    "hpa", "da", "au", "bar", "ov", "pc"]),
  (0x337b, ["平成", "昭和", "大正", "明治", "株式会社", "pa", "na", "μa", "ma", "ka", "kb", "mb", "gb", "cal",
    "kcal", "pf", "nf", "μf", "μg", "mg", "kg", "hz", "khz", "mhz", "ghz", "thz", "μl", "ml", "dl",
    "kl", "fm", "nm", "μm", "mm", "cm", "km", "mm2", "cm2", "m2", "km2", "mm3", "cm3", "m3", "km3",
    "m∕s", "m∕s2", "pa", "kpa", "mpa", "gpa", "rad", "rad∕s", "rad∕s2", "ps", "ns", "μs", "ms",
    "pv", "nv", "μv", "mv", "kv", "mv", "pw", "nw", "μw", "mw", "kw", "mw", "kω", "mω", "a.m.",
    "bq", "cc", "cd", "c∕kg", "co.", "db", "gy", "ha", "hp", "in", "kk", "km", "kt", "lm", "ln",
    "log", "lx", "mb", "mil", "mol", "ph", "p.m.", "ppm", "pr", "sr", "sv", "wb"]),
  (0x33e0, ["1日", "2日", "3日", "4日", "5日", "6日", "7日", "8日", "9日", "10日", "11日", "12日", "13日",
    "14日", "15日", "16日", "17日", "18日", "19日", "20日", "21日", "22日", "23日", "24日", "25日", "26日",
    "27日", "28日", "29日", "30日", "31日"]), (0xfb00, ["ff", "fi", "fl", "ffi", "ffl", "st", "st"]),
  (0xfb13, ["մն", "մե", "մի", "վն", "մխ"]), (0xfb1d, ["\u05d9\u05b4"]), (0xfb1f, ["\u05f2\u05b7"]),
  (0xfb2a, ["\u05e9\u05c1", "\u05e9\u05c2", "\u05e9\u05bc\u05c1", "\u05e9\u05bc\u05c2",
    "\u05d0\u05b7", "\u05d0\u05b8", "\u05d0\u05bc", "\u05d1\u05bc", "\u05d2\u05bc", "\u05d3\u05bc",
    "\u05d4\u05bc", "\u05d5\u05bc", "\u05d6\u05bc"]),
  (0xfb38, ["\u05d8\u05bc", "\u05d9\u05bc", "\u05da\u05bc", "\u05db\u05bc", "\u05dc\u05bc"]),
  (0xfb3e, ["\u05de\u05bc"]), (0xfb40, ["\u05e0\u05bc", "\u05e1\u05bc"]),
  (0xfb43, ["\u05e3\u05bc", "\u05e4\u05bc"]),
  (0xfb46, ["\u05e6\u05bc", "\u05e7\u05bc", "\u05e8\u05bc", "\u05e9\u05bc", "\u05ea\u05bc",
    "\u05d5\u05b9", "\u05d1\u05bf", "\u05db\u05bf", "\u05e4\u05bf", "\u05d0\u05dc"]),
  (0xfba4, ["\u06d5\u0654", "\u06d5\u0654"]), (0xfbb0, ["\u06d2\u0654", "\u06d2\u0654"]),
  (0xfbdd, ["\u06c7\u0674"]),
  (0xfbea, ["\u064a\u0654\u0627", "\u064a\u0654\u0627", "\u064a\u0654\u06d5", "\u064a\u0654\u06d5",
    "\u064a\u0654\u0648", "\u064a\u0654\u0648", "\u064a\u0654\u06c7", "\u064a\u0654\u06c7",
    "\u064a\u0654\u06c6", "\u064a\u0654\u06c6", "\u064a\u0654\u06c8", "\u064a\u0654\u06c8",
    "\u064a\u0654\u06d0", "\u064a\u0654\u06d0", "\u064a\u0654\u06d0", "\u064a\u0654\u0649",
    "\u064a\u0654\u0649", "\u064a\u0654\u0649"]),
  (0xfc00, ["\u064a\u0654\u062c", "\u064a\u0654\u062d", "\u064a\u0654\u0645", "\u064a\u0654\u0649",
    "\u064a\u0654\u064a", "\u0628\u062c", "\u0628\u062d", "\u0628\u062e", "\u0628\u0645",
    "\u0628\u0649", "\u0628\u064a", "\u062a\u062c", "\u062a\u062d", "\u062a\u062e", "\u062a\u0645",
    "\u062a\u0649", "\u062a\u064a", "\u062b\u062c", "\u062b\u0645", "\u062b\u0649", "\u062b\u064a",
    "\u062c\u062d", "\u062c\u0645", "\u062d\u062c", "\u062d\u0645", "\u062e\u062c", "\u062e\u062d",
    "\u062e\u0645", "\u0633\u062c", "\u0633\u062d", "\u0633\u062e", "\u0633\u0645", "\u0635\u062d",
    "\u0635\u0645", "\u0636\u062c", "\u0636\u062d", "\u0636\u062e", "\u0636\u0645", "\u0637\u062d",
    "\u0637\u0645", "\u0638\u0645", "\u0639\u062c", "\u0639\u0645", "\u063a\u062c", "\u063a\u0645",
    "\u0641\u062c", "\u0641\u062d", "\u0641\u062e", "\u0641\u0645", "\u0641\u0649", "\u0641\u064a",
    "\u0642\u062d", "\u0642\u0645", "\u0642\u0649", "\u0642\u064a", "\u0643\u0627", "\u0643\u062c",
    "\u0643\u062d", "\u0643\u062e", "\u0643\u0644", "\u0643\u0645", "\u0643\u0649", "\u0643\u064a",
    "\u0644\u062c", "\u0644\u062d", "\u0644\u062e", "\u0644\u0645", "\u0644\u0649", "\u0644\u064a",
    "\u0645\u062c", "\u0645\u062d", "\u0645\u062e", "\u0645\u0645", "\u0645\u0649", "\u0645\u064a",
    "\u0646\u062c", "\u0646\u062d", "\u0646\u062e", "\u0646\u0645", "\u0646\u0649", "\u0646\u064a",
    "\u0647\u062c", "\u0647\u0645", "\u0647\u0649", "\u0647\u064a", "\u064a\u062c", "\u064a\u062d",
    "\u064a\u062e", "\u064a\u0645", "\u064a\u0649", "\u064a\u064a", "\u0630\u0670", "\u0631\u0670",
    "\u0649\u0670", " \u064c\u0651", " \u064d\u0651", " \u064e\u0651", " \u064f\u0651",
    " \u0650\u0651", " \u0651\u0670", "\u064a\u0654\u0631", "\u064a\u0654\u0632",
    "\u064a\u0654\u0645", "\u064a\u0654\u0646", "\u064a\u0654\u0649", "\u064a\u0654\u064a",
    "\u0628\u0631", "\u0628\u0632", "\u0628\u0645", "\u0628\u0646", "\u0628\u0649", "\u0628\u064a",
    "\u062a\u0631", "\u062a\u0632", "\u062a\u0645", "\u062a\u0646", "\u062a\u0649", "\u062a\u064a",
    "\u062b\u0631", "\u062b\u0632", "\u062b\u0645", "\u062b\u0646", "\u062b\u0649", "\u062b\u064a",
    "\u0641\u0649", "\u0641\u064a", "\u0642\u0649", "\u0642\u064a", "\u0643\u0627", "\u0643\u0644",
    "\u0643\u0645", "\u0643\u0649", "\u0643\u064a", "\u0644\u0645", "\u0644\u0649", "\u0644\u064a",
    "\u0645\u0627", "\u0645\u0645", "\u0646\u0631", "\u0646\u0632", "\u0646\u0645", "\u0646\u0646",
    "\u0646\u0649", "\u0646\u064a", "\u0649\u0670", "\u064a\u0631", "\u064a\u0632", "\u064a\u0645",
    "\u064a\u0646", "\u064a\u0649", "\u064a\u064a", "\u064a\u0654\u062c", "\u064a\u0654\u062d",
    "\u064a\u0654\u062e", "\u064a\u0654\u0645", "\u064a\u0654\u0647", "\u0628\u062c",
    "\u0628\u062d", "\u0628\u062e", "\u0628\u0645", "\u0628\u0647", "\u062a\u062c", "\u062a\u062d",
    "\u062a\u062e", "\u062a\u0645", "\u062a\u0647", "\u062b\u0645", "\u062c\u062d", "\u062c\u0645",
    "\u062d\u062c", "\u062d\u0645", "\u062e\u062c", "\u062e\u0645", "\u0633\u062c", "\u0633\u062d",
    "\u0633\u062e", "\u0633\u0645", "\u0635\u062d", "\u0635\u062e", "\u0635\u0645", "\u0636\u062c",
    "\u0636\u062d", "\u0636\u062e", "\u0636\u0645", "\u0637\u062d", "\u0638\u0645", "\u0639\u062c",
    "\u0639\u0645", "\u063a\u062c", "\u063a\u0645", "\u0641\u062c", "\u0641\u062d", "\u0641\u062e",
    "\u0641\u0645", "\u0642\u062d", "\u0642\u0645", "\u0643\u062c", "\u0643\u062d", "\u0643\u062e",
    "\u0643\u0644", "\u0643\u0645", "\u0644\u062c", "\u0644\u062d", "\u0644\u062e", "\u0644\u0645",
    "\u0644\u0647", "\u0645\u062c", "\u0645\u062d", "\u0645\u062e", "\u0645\u0645", "\u0646\u062c",
    "\u0646\u062d", "\u0646\u062e", "\u0646\u0645", "\u0646\u0647", "\u0647\u062c", "\u0647\u0645",
    "\u0647\u0670", "\u064a\u062c", "\u064a\u062d", "\u064a\u062e", "\u064a\u0645", "\u064a\u0647",
    "\u064a\u0654\u0645", "\u064a\u0654\u0647", "\u0628\u0645", "\u0628\u0647", "\u062a\u0645",
    "\u062a\u0647", "\u062b\u0645", "\u062b\u0647", "\u0633\u0645", "\u0633\u0647", "\u0634\u0645",
    "\u0634\u0647", "\u0643\u0644", "\u0643\u0645", "\u0644\u0645", "\u0646\u0645", "\u0646\u0647",
    "\u064a\u0645", "\u064a\u0647", "\u0640\u064e\u0651", "\u0640\u064f\u0651",
    "\u0640\u0650\u0651", "\u0637\u0649", "\u0637\u064a", "\u0639\u0649", "\u0639\u064a",
    "\u063a\u0649", "\u063a\u064a", "\u0633\u0649", "\u0633\u064a", "\u0634\u0649", "\u0634\u064a",
    "\u062d\u0649", "\u062d\u064a", "\u062c\u0649", "\u062c\u064a", "\u062e\u0649", "\u062e\u064a",
    "\u0635\u0649", "\u0635\u064a", "\u0636\u0649", "\u0636\u064a", "\u0634\u062c", "\u0634\u062d",
    "\u0634\u062e", "\u0634\u0645", "\u0634\u0631", "\u0633\u0631", "\u0635\u0631", "\u0636\u0631",
    "\u0637\u0649", "\u0637\u064a", "\u0639\u0649", "\u0639\u064a", "\u063a\u0649", "\u063a\u064a",
    "\u0633\u0649", "\u0633\u064a", "\u0634\u0649", "\u0634\u064a", "\u062d\u0649", "\u062d\u064a",
    "\u062c\u0649", "\u062c\u064a", "\u062e\u0649", "\u062e\u064a", "\u0635\u0649", "\u0635\u064a",
    "\u0636\u0649", "\u0636\u064a", "\u0634\u062c", "\u0634\u062d", "\u0634\u062e", "\u0634\u0645",
    "\u0634\u0631", "\u0633\u0631", "\u0635\u0631", "\u0636\u0631", "\u0634\u062c", "\u0634\u062d",
    "\u0634\u062e", "\u0634\u0645", "\u0633\u0647", "\u0634\u0647", "\u0637\u0645", "\u0633\u062c",
    "\u0633\u062d", "\u0633\u062e", "\u0634\u062c", "\u0634\u062d", "\u0634\u062e", "\u0637\u0645",
    "\u0638\u0645", "\u0627\u064b", "\u0627\u064b"]),
  (0xfd50, ["\u062a\u062c\u0645", "\u062a\u062d\u062c", "\u062a\u062d\u062c", "\u062a\u062d\u0645",
    "\u062a\u062e\u0645", "\u062a\u0645\u062c", "\u062a\u0645\u062d", "\u062a\u0645\u062e",
    "\u062c\u0645\u062d", "\u062c\u0645\u062d", "\u062d\u0645\u064a", "\u062d\u0645\u0649",
    "\u0633\u062d\u062c", "\u0633\u062c\u062d", "\u0633\u062c\u0649", "\u0633\u0645\u062d",
    "\u0633\u0645\u062d", "\u0633\u0645\u062c", "\u0633\u0645\u0645", "\u0633\u0645\u0645",
    "\u0635\u062d\u062d", "\u0635\u062d\u062d", "\u0635\u0645\u0645", "\u0634\u062d\u0645",
    "\u0634\u062d\u0645", "\u0634\u062c\u064a", "\u0634\u0645\u062e", "\u0634\u0645\u062e",
    "\u0634\u0645\u0645", "\u0634\u0645\u0645", "\u0636\u062d\u0649", "\u0636\u062e\u0645",
    "\u0636\u062e\u0645", "\u0637\u0645\u062d", "\u0637\u0645\u062d", "\u0637\u0645\u0645",
    "\u0637\u0645\u064a", "\u0639\u062c\u0645", "\u0639\u0645\u0645", "\u0639\u0645\u0645",
    "\u0639\u0645\u0649", "\u063a\u0645\u0645", "\u063a\u0645\u064a", "\u063a\u0645\u0649",
    "\u0641\u062e\u0645", "\u0641\u062e\u0645", "\u0642\u0645\u062d", "\u0642\u0645\u0645",
    "\u0644\u062d\u0645", "\u0644\u062d\u064a", "\u0644\u062d\u0649", "\u0644\u062c\u062c",
    "\u0644\u062c\u062c", "\u0644\u062e\u0645", "\u0644\u062e\u0645", "\u0644\u0645\u062d",
    "\u0644\u0645\u062d", "\u0645\u062d\u062c", "\u0645\u062d\u0645", "\u0645\u062d\u064a",
    "\u0645\u062c\u062d", "\u0645\u062c\u0645", "\u0645\u062e\u062c", "\u0645\u062e\u0645"]),
  (0xfd92, ["\u0645\u062c\u062e", "\u0647\u0645\u062c", "\u0647\u0645\u0645", "\u0646\u062d\u0645",
    "\u0646\u062d\u0649", "\u0646\u062c\u0645", "\u0646\u062c\u0645", "\u0646\u062c\u0649",
    "\u0646\u0645\u064a", "\u0646\u0645\u0649", "\u064a\u0645\u0645", "\u064a\u0645\u0645",
    "\u0628\u062e\u064a", "\u062a\u062c\u064a", "\u062a\u062c\u0649", "\u062a\u062e\u064a",
    "\u062a\u062e\u0649", "\u062a\u0645\u064a", "\u062a\u0645\u0649", "\u062c\u0645\u064a",
    "\u062c\u062d\u0649", "\u062c\u0645\u0649", "\u0633\u062e\u0649", "\u0635\u062d\u064a",
    "\u0634\u062d\u064a", "\u0636\u062d\u064a", "\u0644\u062c\u064a", "\u0644\u0645\u064a",
    "\u064a\u062d\u064a", "\u064a\u062c\u064a", "\u064a\u0645\u064a", "\u0645\u0645\u064a",
    "\u0642\u0645\u064a", "\u0646\u062d\u064a", "\u0642\u0645\u062d", "\u0644\u062d\u0645",
    "\u0639\u0645\u064a", "\u0643\u0645\u064a", "\u0646\u062c\u062d", "\u0645\u062e\u064a",
    "\u0644\u062c\u0645", "\u0643\u0645\u0645", "\u0644\u062c\u0645", "\u0646\u062c\u062d",
    "\u062c\u062d\u064a", "\u062d\u062c\u064a", "\u0645\u062c\u064a", "\u0641\u0645\u064a",
    "\u0628\u062d\u064a", "\u0643\u0645\u0645", "\u0639\u062c\u0645", "\u0635\u0645\u0645",
    "\u0633\u062e\u064a", "\u0646\u062c\u064a"]),
  (0xfdf0, ["\u0635\u0644\u06d2", "\u0642\u0644\u06d2", "\u0627\u0644\u0644\u0647",
    "\u0627\u0643\u0628\u0631", "\u0645\u062d\u0645\u062f", "\u0635\u0644\u0639\u0645",
    "\u0631\u0633\u0648\u0644", "\u0639\u0644\u064a\u0647", "\u0648\u0633\u0644\u0645",
    "\u0635\u0644\u0649",
    "\u0635\u0644\u0649 \u0627\u0644\u0644\u0647 \u0639\u0644\u064a\u0647 \u0648\u0633\u0644\u0645",
    "\u062c\u0644 \u062c\u0644\u0627\u0644\u0647", "\u0631\u06cc\u0627\u0644"]),
  (0xfe00, ["", "", "", "", "", "", "", "", "", "", "", "", "", "", "", ""]), (0xfe30, [".."]),
  (0xfe49, [" \u0305", " \u0305", " \u0305", " \u0305"]),
  (0xfe70, [" \u064b", "\u0640\u064b", " \u064c"]), (0xfe74, [" \u064d"]),
  (0xfe76, [" \u064e", "\u0640\u064e", " \u064f", "\u0640\u064f", " \u0650", "\u0640\u0650",
    " \u0651", "\u0640\u0651", " \u0652", "\u0640\u0652"]),
  (0xfe81, ["\u0627\u0653", "\u0627\u0653", "\u0627\u0654", "\u0627\u0654", "\u0648\u0654",
    "\u0648\u0654", "\u0627\u0655", "\u0627\u0655", "\u064a\u0654", "\u064a\u0654", "\u064a\u0654",
    "\u064a\u0654"]),
  (0xfef5, ["\u0644\u0627\u0653", "\u0644\u0627\u0653", "\u0644\u0627\u0654", "\u0644\u0627\u0654",
    "\u0644\u0627\u0655", "\u0644\u0627\u0655", "\u0644\u0627", "\u0644\u0627"]), (0xfeff, [""]),
  (0xffe3, [" \u0304"]), (0x1d15e, ["𝅗𝅥", "𝅘𝅥", "𝅘𝅥𝅮", "𝅘𝅥𝅯", "𝅘𝅥𝅰", "𝅘𝅥𝅱", "𝅘𝅥𝅲"]),
  (0x1d1bb, ["𝆹𝅥", "𝆺𝅥", "𝆹𝅥𝅮", "𝆺𝅥𝅮", "𝆹𝅥𝅯", "𝆺𝅥𝅯"])]

end DynLisp.Label
