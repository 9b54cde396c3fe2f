import GameConfig.Unicode.Table

/-!
# Scripts

The script of every character that belongs to one.
-/

namespace GameConfig
namespace Unicode

def scriptTables : List Table :=
    [ ⟨["adlm", "adlam"],
      ["Zwe0YB4941"]⟩,
      ⟨["ahom"],
      ["Ybu0Q2E4M"]⟩,
      ⟨["hluw", "anatolianhieroglyphs"],
      ["YnW0o6"]⟩,
      ⟨["arab", "arabic"],
      ["Xm04151D121V19BP1ZB1X1YGXFdGU115YA1SXyoGZIGhA2YF2XL70X0FZG41a6Zx3UY32XN3Xtu031Q11102",
       "01913101060401010121110201010101011102316131310191G52141GXK1"]⟩,
      ⟨["armn", "armenian"],
      ["XfHX52XH22Xzi34"]⟩,
      ⟨["avst", "avestan"],
      ["YYu0XL36"]⟩,
      ⟨["bali", "balinese"],
      ["cu0YC1XH"]⟩,
      ⟨["bamu", "bamum"],
      ["Xfr0YNXme8nO"]⟩,
      ⟨["bass", "bassavah"],
      ["YwsGT25"]⟩,
      ⟨["batk", "batak"],
      ["c.0XJ83"]⟩,
      ⟨["beng", "bengali"],
      ["Yi0317212L1610332821238041142O"]⟩,
      ⟨["bhks", "bhaiksuki"],
      ["YdW081XC1DAS"]⟩,
      ⟨["bopo", "bopomofo"],
      ["tA1hmPXAZGV"]⟩,
      ⟨["brah", "brahmi"],
      ["YaW0YD4X390"]⟩,
      ⟨["brai", "braille"],
      ["gW0dV"]⟩,
      ⟨["bugi", "buginese"],
      ["cm0R21"]⟩,
      ⟨["buhd", "buhid"],
      ["bw0J"]⟩,
      ⟨["cans", "canadianaboriginal"],
      ["bW0pVnGY5YWjQF"]⟩,
      ⟨["cari", "carian"],
      ["YWr0XG"]⟩,
      ⟨["aghb", "caucasianalbanian"],
      ["YXfGXJB0"]⟩,
      ⟨["cakm", "chakma"],
      ["Yae0XK1H"]⟩,
      ⟨["cham"],
      ["Xgm0XM9D2923"]⟩,
      ⟨["cher", "cherokee"],
      ["az0YL25XbxIYF"]⟩,
      ⟨["chrs", "chorasmian"],
      ["YZzGR"]⟩,
      ⟨["zyyy", "common"],
      ["0Y0Q5QXE1E14N0V0k1X6542JZK0906010pT060E030X00aS0m40a11XcP0iL3f20XlF2Y71cB110XcD0D073",
       "151220u5B2YM1A3A1EHX0XVX512251Q1GX924qPMALyVe0pJ2V1Z8m0YTiIK101OF743YR130YQ1aJFX0X59",
       "0XGXVVYGXF0YOb7ck0XVse0X1Z62b59dK0b00iB0E1qkI1cG9MX21I13aJ01VQ5QAA0XD1Y0616A4e224XC3",
       "8YGCXJXCd4QXkj43ZwSdP6jJaSZJXSdLAX62XT3G817T4XScLJCJCYM9Oa7YK1Y6112021231B10161Y0132",
       "7161R131410361gJ2f32XHbZHY3YCXSs2XB4Z3CE2E1E1X4AbDXOP11DXB4871E5aQ.N4G3C3ZM4YU6B40FB",
       "4XN896X78T2B41XUgJCD2C395XN7E2A687aI1Z5uXW70UYV"]⟩,
      ⟨["copt", "qaac", "coptic"],
      ["_2DgaGZJ56"]⟩,
      ⟨["xsux", "cuneiform"],
      ["YeW0yPZ6ZE14Bc3"]⟩,
      ⟨["cprt", "cypriot"],
      ["YYW05201XB113020"]⟩,
      ⟨["cpmn", "cyprominoan"],
      ["YhyGZ2"]⟩,
      ⟨["cyrl", "cyrillic"],
      ["XW0a42b8bwGAb00YC0aZ7V.Y0YVryE1Xum0XTX10"]⟩,
      ⟨["dsrt", "deseret"],
      ["YXW0YF"]⟩,
      ⟨["deva", "devanagari"],
      ["Ye0YG4E2PXdx0Vym09"]⟩,
      ⟨["diak", "divesakuru"],
      ["Yce062027111T112B99"]⟩,
      ⟨["dogr", "dogra"],
      ["YcW0XR"]⟩,
      ⟨["dupl", "duployan"],
      ["ZlW0ZA5C387923"]⟩,
      ⟨["egyp", "egyptianhieroglyphs"],
      ["YiW0XYLAZyQ"]⟩,
      ⟨["elba", "elbasan"],
      ["YXe0X7"]⟩,
      ⟨["elym", "elymaic"],
      ["YZ_0M"]⟩,
      ⟨["ethi", "ethiopic"],
      ["am0Y8132610132X8132X0132610132E1XO132Y22V3Pcl6M9616161616161616_f2525259616YlbH61311",
       "1E"]⟩,
      ⟨["gara", "garay"],
      ["YZg0X53S81"]⟩,
      ⟨["geor", "georgian"],
      ["ab0X510502XA13YyGXA22aY0X51050"]⟩,
      ⟨["glag", "glagolitic"],
      ["hW0YVZiz061G261114"]⟩,
      ⟨["goth", "gothic"],
      ["YWvGQ"]⟩,
      ⟨["gran", "grantha"],
      ["Yau0317212L1611142821222060562634"]⟩,
      ⟨["grek", "greek"],
      ["xG3122310401012101J1XUEFcf64XI444YK0g0L252X525271010101U2XK1E1D251I2218f70XYnU0rkQYE",
       "H0XqYVY5"]⟩,
      ⟨["gujr", "gujarati"],
      ["Yq1218121L16111429121220F32B76"]⟩,
      ⟨["gong", "gunjalagondi"],
      ["Ydh05111X4111579"]⟩,
      ⟨["guru", "gurmukhi"],
      ["Ym1215412L16111111201441223073107G"]⟩,
      ⟨["gukh", "gurungkhema"],
      ["Yue0XP"]⟩,
      ⟨["han", "hani"],
      ["hq0P1YOCcLXF010P8E3.4cjVY0qlVse0hD2Z9ze81C1XaWEXfsVX0aXP6cT2bq1EdfGFpDYj2mTXl2awA5aY",
       "V"]⟩,
      ⟨["hang", "hangul"],
      ["ae0dVdnE1e1YTZHUY1Uzt1Sq3gz3CM4XGfz4U35252522"]⟩,
      ⟨["rohg", "hanifirohingya"],
      ["YZe0X789"]⟩,
      ⟨["hano", "hanunoo"],
      ["bv0K"]⟩,
      ⟨["hatr", "hatran"],
      ["YYd0I1154"]⟩,
      ⟨["hebr", "hebrew"],
      ["XiHXM8Q45Xzf8P1410111119"]⟩,
      ⟨["hira", "hiragana"],
      ["iY1YL62Y_x1eUI0T2mbD0"]⟩,
      ⟨["armi", "imperialaramaic"],
      ["YYY0L18"]⟩,
      ⟨["qaai", "zinh", "inherited"],
      ["u0ZFeL1k4AQ0t03agRUm121C16406031c6XVmC1c2X0ZvP3ZB1Xph5FGD.F0d20aYQ0Xk.4XD2Mn02H726U3",
       "uhwIdF"]⟩,
      ⟨["phli", "inscriptionalpahlavi"],
      ["YYx0I57"]⟩,
      ⟨["prti", "inscriptionalparthian"],
      ["YYw0L27"]⟩,
      ⟨["java", "javanese"],
      ["Xgi0YD2941"]⟩,
      ⟨["kthi", "kaithi"],
      ["Yaa0Y2A0"]⟩,
      ⟨["knda", "kannada"],
      ["Za0C121M19142812137161132912"]⟩,
      ⟨["kana", "katakana"],
      ["ib1YP22dGFcGXE1YNXpWE91XCXiYI3161110eV2XI0E3"]⟩,
      ⟨["kawi"],
      ["Ydu0G1X83S"]⟩,
      ⟨["kali", "kayahli"],
      ["Xge0XD10"]⟩,
      ⟨["khar", "kharoshthi"],
      ["YYm031157121S224978"]⟩,
      ⟨["kits", "khitansmallscript"],
      ["Yx_40cuRkLX90"]⟩,
      ⟨["khmr", "khmer"],
      ["by0YT2969l6V"]⟩,
      ⟨["khoj", "khojki"],
      ["Yam0H1XE"]⟩,
      ⟨["sind", "khudawadi"],
      ["YarGXQ59"]⟩,
      ⟨["krai", "kiratrai"],
      ["Yxg0XP"]⟩,
      ⟨["lao", "laoo"],
      ["Zq1110141N101M2410161923"]⟩,
      ⟨["latn", "latin"],
      ["Y1P6PXF0F05M1U1k0X74cmRX56XG535C1Y5Y1dVhH0D0GCaD160R0HX8YsNV.r2Z53Y2211017LDvGXA1813",
       "pyM6XWQP6PYX551X918Xrw5U65"]⟩,
      ⟨["lepc", "lepcha"],
      ["dW0XN3E32"]⟩,
      ⟨["limb", "limbu"],
      ["ce0U1B4B403B"]⟩,
      ⟨["lina", "lineara"],
      ["YXm0fM9LA7"]⟩,
      ⟨["linb", "linearb"],
      ["YWW0B1P1I111E2DX2ZQ"]⟩,
      ⟨["lisu"],
      ["XfcGXF.rG0"]⟩,
      ⟨["lyci", "lycian"],
      ["YWq0S"]⟩,
      ⟨["lydi", "lydian"],
      ["YYf0P50"]⟩,
      ⟨["mahj", "mahajani"],
      ["YagGX6"]⟩,
      ⟨["maka", "makasar"],
      ["Ydt0O"]⟩,
      ⟨["mlym", "malayalam"],
      ["Ze0C121XI12154F2P"]⟩,
      ⟨["mand", "mandaic"],
      ["YY0R20"]⟩,
      ⟨["mani", "manichaean"],
      ["YYs0X64B"]⟩,
      ⟨["marc", "marchen"],
      ["YdZGV2L1D"]⟩,
      ⟨["gonm", "masaramgondi"],
      ["Yde06111XB30111889"]⟩,
      ⟨["medf", "medefaidrin"],
      ["Yxo0YQ"]⟩,
      ⟨["mtei", "meeteimayek"],
      ["Xgt0Mc9XD29"]⟩,
      ⟨["mend", "mendekikakui"],
      ["ZwW0c42F"]⟩,
      ⟨["merc", "meroiticcursive"],
      ["YYj0N4J2XD"]⟩,
      ⟨["mero", "meroitichieroglyphs"],
      ["YYi0V"]⟩,
      ⟨["miao", "plrd"],
      ["Yxu0YA4XO7G"]⟩,
      ⟨["modi"],
      ["Ybm0Y4B9"]⟩,
      ⟨["mong", "mongolian"],
      ["cW01201J6YO7XAX_jLC"]⟩,
      ⟨["mro", "mroo"],
      ["Ywo0U1941"]⟩,
      ⟨["mult", "multani"],
      ["Yaq0610131E1A"]⟩,
      ⟨["mymr", "myanmar"],
      ["aW0aVXcg0UZ1VxYGJ"]⟩,
      ⟨["nbat", "nabataean"],
      ["YYa0U88"]⟩,
      ⟨["nagm", "nagmundari"],
      ["ZvcGX9"]⟩,
      ⟨["nand", "nandinagari"],
      ["Ycj072XD2A"]⟩,
      ⟨["talu", "newtailue"],
      ["ci0XB4P6A31"]⟩,
      ⟨["newa"],
      ["YbW0YR14"]⟩,
      ⟨["nko", "nkoo"],
      ["X.0XQ22"]⟩,
      ⟨["nshu", "nushu"],
      ["Yx_10miEiB"]⟩,
      ⟨["hmnp", "nyiakengpuachuehmong"],
      ["Zue0XC3D2941"]⟩,
      ⟨["ogam", "ogham"],
      ["bq0S"]⟩,
      ⟨["olck", "olchiki"],
      ["dYGXF"]⟩,
      ⟨["onao", "olonal"],
      ["ZvkGXA40"]⟩,
      ⟨["hung", "oldhungarian"],
      ["YZa0XIDXI75"]⟩,
      ⟨["ital", "olditalic"],
      ["YWu0X392"]⟩,
      ⟨["narb", "oldnortharabian"],
      ["YYq0V"]⟩,
      ⟨["perm", "oldpermic"],
      ["YWwGXA"]⟩,
      ⟨["xpeo", "oldpersian"],
      ["YWz0X34D"]⟩,
      ⟨["sogo", "oldsogdian"],
      ["YZu0X7"]⟩,
      ⟨["sarb", "oldsoutharabian"],
      ["YYp0V"]⟩,
      ⟨["orkh", "oldturkic"],
      ["YZW0Y8"]⟩,
      ⟨["ougr", "olduyghur"],
      ["YZxGP"]⟩,
      ⟨["orya", "oriya"],
      ["Yu1217212L1611142821227241142H"]⟩,
      ⟨["osge", "osage"],
      ["YXbGX34X3"]⟩,
      ⟨["osma", "osmanya"],
      ["YXa0T29"]⟩,
      ⟨["hmng", "pahawhhmong"],
      ["Ywu0Y5A9161K5I"]⟩,
      ⟨["palm", "palmyrene"],
      ["YYZ0V"]⟩,
      ⟨["pauc", "paucinhau"],
      ["Ycs0XO"]⟩,
      ⟨["phag", "phagspa"],
      ["XgY0XN"]⟩,
      ⟨["phnx", "phoenician"],
      ["YYe0R30"]⟩,
      ⟨["phlp", "psalterpahlavi"],
      ["YYy0H73C6"]⟩,
      ⟨["rjng", "rejang"],
      ["XgfGX3B0"]⟩,
      ⟨["runr", "runic"],
      ["br0YA3A"]⟩,
      ⟨["samr", "samaritan"],
      ["YW0XD2E"]⟩,
      ⟨["saur", "saurashtra"],
      ["Xga0Y58B"]⟩,
      ⟨["shrd", "sharada"],
      ["Yai0YV"]⟩,
      ⟨["shaw", "shavian"],
      ["YXYGXF"]⟩,
      ⟨["sidd", "siddham"],
      ["Ybi0XL2X5"]⟩,
      ⟨["sgnw", "signwriting"],
      ["ZsW0qBF41E"]⟩,
      ⟨["sinh", "sinhala"],
      ["Zi121H3N181026304510176922YW_CJ"]⟩,
      ⟨["sogd", "sogdian"],
      ["YZvGX9"]⟩,
      ⟨["sora", "sorasompeng"],
      ["YacGO79"]⟩,
      ⟨["soyo", "soyombo"],
      ["YcoGYI"]⟩,
      ⟨["sund", "sundanese"],
      ["cy0XVe07"]⟩,
      ⟨["sunu", "sunuwar"],
      ["Yc.0X1E9"]⟩,
      ⟨["sylo", "sylotinagri"],
      ["XgW0XC"]⟩,
      ⟨["syrc", "syriac"],
      ["Xu0D1XR22eGA"]⟩,
      ⟨["tglg", "tagalog"],
      ["bu0L90"]⟩,
      ⟨["tagb", "tagbanwa"],
      ["bx0C1211"]⟩,
      ⟨["tale", "taile"],
      ["cgGT24"]⟩,
      ⟨["lana", "taitham"],
      ["cn0XU1S2A696D"]⟩,
      ⟨["tavt", "taiviet"],
      ["Xgq0Y2O4"]⟩,
      ⟨["takr", "takri"],
      ["Ybq0XP69"]⟩,
      ⟨["taml", "tamil"],
      ["Yy2115321331101131323B4432132060EKYa.5XHD0"]⟩,
      ⟨["tnsa", "tangsa"],
      ["YwpGYE19"]⟩,
      ⟨["tang", "tangut"],
      ["Yx_00Vb_N8tVm08"]⟩,
      ⟨["telu", "telugu"],
      ["ZW0C121M1F281213711220232978"]⟩,
      ⟨["thaa", "thaana"],
      ["Xy0XH"]⟩,
      ⟨["thai"],
      ["Zm1XP5R"]⟩,
      ⟨["tibt", "tibetan"],
      ["Zu0Y71X34X61X31E1641"]⟩,
      ⟨["tfng", "tifinagh"],
      ["hfGXN71E0"]⟩,
      ⟨["tirh", "tirhuta"],
      ["Yba0Y789"]⟩,
      ⟨["todr", "todhri"],
      ["YXk0XJ"]⟩,
      ⟨["toto"],
      ["ZuqGU"]⟩,
      ⟨["tutg", "tulutigalari"],
      ["Yay0910201X519102013191181"]⟩,
      ⟨["ugar", "ugaritic"],
      ["YWy0T10"]⟩,
      ⟨["vai", "vaii"],
      ["Xfe0fB"]⟩,
      ⟨["vith", "vithkuqi"],
      ["YXhGA1E16111A1E1611"]⟩,
      ⟨["wcho", "wancho"],
      ["Zus0XP50"]⟩,
      ⟨["wara", "warangciti"],
      ["Ycb0YIC0"]⟩,
      ⟨["yezi", "yezidi"],
      ["YZq0X91221"]⟩,
      ⟨["yi", "yiii"],
      ["XeW0XaC3XM"]⟩,
      ⟨["zanb", "zanabazarsquare"],
      ["Ycm0Y7"]⟩ ]

end Unicode
end GameConfig
