import GameConfig.Unicode.Table

/-!
# Script extensions

The scripts in which a character is used, which may be several.
-/

namespace GameConfig
namespace Unicode

def scriptExtensionTables : List Table :=
    [ ⟨["adlm", "adlam"],
      ["XmV0X00cmE0ZlH0ZkrUYB4941"]⟩,
      ⟨["ahom"],
      ["Ybu0Q2E4M"]⟩,
      ⟨["hluw", "anatolianhieroglyphs"],
      ["YnW0o6"]⟩,
      ⟨["arab", "arabic"],
      ["Xm041cM1X1YGXFdGU115YA1SbwF0ZlH0XpeEZIGjS2XL70X0FZG41a6_3RYx4UY32XN3Xtu031Q111020191",
       "3101060401010121110201010101011102316131310191G52141GXK1"]⟩,
      ⟨["armn", "armenian"],
      ["u80n8X52XH22Xzi34"]⟩,
      ⟨["avst", "avestan"],
      ["bN0hhO1XtcEXL36"]⟩,
      ⟨["bali", "balinese"],
      ["cu0YC1XH"]⟩,
      ⟨["bamu", "bamum"],
      ["Xfr0YNXme8nO"]⟩,
      ⟨["bass", "bassavah"],
      ["YwsGT25"]⟩,
      ⟨["batk", "batak"],
      ["c.0XJ83"]⟩,
      ⟨["beng", "bengali"],
      ["rS0XqK1H1Q317212L1610332821238041142OasH01021108080204022XY_P0"]⟩,
      ⟨["bhks", "bhaiksuki"],
      ["YdW081XC1DAS"]⟩,
      ⟨["bopo", "bopomofo"],
      ["s7012D0G1heL2491CA32060c309XAZGVXpa51eQ4"]⟩,
      ⟨["brah", "brahmi"],
      ["YaW0YD4X390"]⟩,
      ⟨["brai", "braille"],
      ["gW0dV"]⟩,
      ⟨["bugi", "buginese"],
      ["cm0R21XZzF0"]⟩,
      ⟨["buhd", "buhid"],
      ["bvL19J"]⟩,
      ⟨["cans", "canadianaboriginal"],
      ["bW0pVnGY5YWjQF"]⟩,
      ⟨["cari", "carian"],
      ["bN0dz2020ZkJ0XrZEXG"]⟩,
      ⟨["aghb", "caucasianalbanian"],
      ["u40XC0XC0YWkHXJB0"]⟩,
      ⟨["cakm", "chakma"],
      ["Yl69XoG9YWbMXK1H"]⟩,
      ⟨["cham"],
      ["Xgm0XM9D2923"]⟩,
      ⟨["cher", "cherokee"],
      ["u021061M1B1aZEYL25XbxIYF"]⟩,
      ⟨["chrs", "chorasmian"],
      ["YZzGR"]⟩,
      ⟨["zyyy", "common"],
      ["0Y0Q5QXE1B1114N0V0k12191030181015542JZU06010pT0cN0m40XgS0iL3aX7B2X01U1911161A3A1EHX0",
       "XVX512251Q1GX924qPMALyVe0pJ2V1Z8m0M1N2913101Pj2030D0D0L0mHNV0XHEC3b195YVV0ck0XVse8PZ",
       "62.G0E1qr49MK2B1I13aJ01VQ5Q5ZV616A4iICXJXCXom3dP6jJaSZJXSdLAX62XT3G817T4XScLJCJCYMR6",
       "a7YK1Y6112021231B10161Y01327161R131410361gJ2f32XHbZHY3YCXSs2XB4Z3CE2E1E1X4AbDXOP11DX",
       "B48N5aQ.N4G3C3ZM4YU6B40FB4XN896X78T2B41XUgJCD2C395XN7E2A687aI1Z5uXW70UYV"]⟩,
      ⟨["copt", "qaac", "coptic"],
      ["bN0o803110ZC1ZCDgaGZJ56eN0Xrc8R"]⟩,
      ⟨["xsux", "cuneiform"],
      ["YeW0yPZ6ZE14Bc3"]⟩,
      ⟨["cprt", "cypriot"],
      ["YWe024XC38Xs05201XB113020"]⟩,
      ⟨["cpmn", "cyprominoan"],
      ["YWe01hqEZ2"]⟩,
      ⟨["cyrl", "cyrillic"],
      ["rS0Y321010102050dEfFbwGAb00YC0ZV0Z_7VY30z_SYVryE1Xum0XTX10"]⟩,
      ⟨["dsrt", "deseret"],
      ["YXW0YF"]⟩,
      ⟨["deva", "devanagari"],
      ["rS0Xo3YI2XAawGX611_M0XXvV9b6Vym09"]⟩,
      ⟨["diak", "divesakuru"],
      ["Yce062027111T112B99"]⟩,
      ⟨["dogr", "dogra"],
      ["Yh4BXds09x.6XR"]⟩,
      ⟨["dupl", "duployan"],
      ["bN0oF110O1guN0ZZk3ZA5C387927"]⟩,
      ⟨["egyp", "egyptianhieroglyphs"],
      ["YiW0XYLAZyQ"]⟩,
      ⟨["elba", "elbasan"],
      ["bN0oD0YWlQX7"]⟩,
      ⟨["elym", "elymaic"],
      ["YZ_0M"]⟩,
      ⟨["ethi", "ethiopic"],
      ["uE0ZtHY8132610132X8132X0132610132E1XO132Y22V3Pcl6M9616161616161616_f2525259616YlbH61",
       "3111E"]⟩,
      ⟨["gara", "garay"],
      ["XmC0E030YXv0X53S81"]⟩,
      ⟨["geor", "georgian"],
      ["bN0XcH0YuMX510502XFYyGXA22yQ0Zb5X51050e30"]⟩,
      ⟨["glag", "glagolitic"],
      ["bN0oB010hU020e10YxH0ZwU0Yz5YVl30.XB0YkiG61G261114"]⟩,
      ⟨["goth", "gothic"],
      ["bN0oC120X80X__UQ"]⟩,
      ⟨["gran", "grantha"],
      ["YgH1H1q0DacS011U231_M0XymF317212L1611141921222060562634ZYR110"]⟩,
      ⟨["grek", "greek"],
      ["bN0o81201010A0XE020XA72310401012101J1XUEFcf64XI444YK2fUL252X525271010101U2XK1E1D251I",
       "2218YU0c80XYnU0rkQYEH0XqYVY5"]⟩,
      ⟨["gujr", "gujarati"],
      ["YgH1H1eR218121L16111429121220F32B76XdfG9"]⟩,
      ⟨["gong", "gunjalagondi"],
      ["bN0YbC1Ya_Q5111X4111579"]⟩,
      ⟨["guru", "gurmukhi"],
      ["YgH1H1aR215412L16111111201441223073107GXdjP9"]⟩,
      ⟨["gukh", "gurungkhema"],
      ["Yh50YryQXP"]⟩,
      ⟨["han", "hani"],
      ["bN0hk8P1YOCcLQF121C1C1C2068bR0aKFX0X590XGX7XOXGFBXJ0YOOA4Z0U1cjVY0qlVXu07qlOhD2Z9xB1",
       "eQ4yZS1C1uxEHdsU1ZjEXfsVX0aXP6cT2bq1EdfGFpDYj2mTXl2awA5aYV"]⟩,
      ⟨["hang", "hangul"],
      ["ae0dVdm12491CE260c30XLYTZHUY1Uzt1Sq3gz3CM4XGfo91eQ4XQU35252522"]⟩,
      ⟨["rohg", "hanifirohingya"],
      ["XmC0E030X00aJ0YXnBX789"]⟩,
      ⟨["hano", "hanunoo"],
      ["bv0M"]⟩,
      ⟨["hatr", "hatran"],
      ["YYd0I1154"]⟩,
      ⟨["hebr", "hebrew"],
      ["u71q8XM8Q45Xzf8P1410111119"]⟩,
      ⟨["hira", "hiragana"],
      ["iW12491CG510413YL27YQ1Xpg81eQ4A0XD1XiZ1eUI0T2mbD0"]⟩,
      ⟨["armi", "imperialaramaic"],
      ["YYY0L18"]⟩,
      ⟨["qaai", "zinh", "inherited"],
      ["uF0201B1136202F111H1413XlG1agRUtJXL1014mC1c2VXteGFGD.F0Xpe2XD2Mn02H726U3uhwIdF"]⟩,
      ⟨["phli", "inscriptionalpahlavi"],
      ["YYx0I57"]⟩,
      ⟨["prti", "inscriptionalparthian"],
      ["YYw0L27"]⟩,
      ⟨["java", "javanese"],
      ["Xgi0YD1A41"]⟩,
      ⟨["kthi", "kaithi"],
      ["Yh69fc10.lU9wY6Y2A0"]⟩,
      ⟨["knda", "kannada"],
      ["YgH1H1uQC121M19142812137161132912Z.S01160N010XYvR5"]⟩,
      ⟨["kana", "katakana"],
      ["u50T0hcT2491CG51041YR33YVdGFcGXE1YNXotD1eQXUXiYG3161110eV2XI0E3"]⟩,
      ⟨["kawi"],
      ["Ydu0G1X83S"]⟩,
      ⟨["kali", "kayahli"],
      ["Xge0XF"]⟩,
      ⟨["khar", "kharoshthi"],
      ["YYm031157121S224978"]⟩,
      ⟨["kits", "khitansmallscript"],
      ["Yx_40cuRkLX90"]⟩,
      ⟨["khmr", "khmer"],
      ["by0YT2969l6V"]⟩,
      ⟨["khoj", "khojki"],
      ["Yt69Xdg09wk6H1XE"]⟩,
      ⟨["sind", "khudawadi"],
      ["Yh41XdsA9wpMXQ59"]⟩,
      ⟨["krai", "kiratrai"],
      ["Yxg0XP"]⟩,
      ⟨["lao", "laoo"],
      ["Zq1110141N101M2410161923"]⟩,
      ⟨["latn", "latin"],
      ["Y1P6PXF0C0205M1U1k030A01210901064RE1110C0227111X60504CeL1XcA1Xz80ZW4X56XG535C1Y5XP07",
       "dVfF0Y10D0GCYJ0XP160R0HX8YsNViN0.d87QZ53Y2211017LDfE0m1XA1813pyM6XWQP6PYX551X918Xrw5",
       "U65"]⟩,
      ⟨["lepc", "lepcha"],
      ["dW0XN3E32"]⟩,
      ⟨["limb", "limbu"],
      ["Yh50ZyQU1B4B403B"]⟩,
      ⟨["lina", "lineara"],
      ["YWe7XCXcCfM9LA7"]⟩,
      ⟨["linb", "linearb"],
      ["YWW0B1P1I111E2DX2ZQ524XC38"]⟩,
      ⟨["lisu"],
      ["rS0G0hfS1zc4XF.rG0"]⟩,
      ⟨["lyci", "lycian"],
      ["eYQ0Xun5S"]⟩,
      ⟨["lydi", "lydian"],
      ["bN0hhP0XstEP50"]⟩,
      ⟨["mahj", "mahajani"],
      ["bN0YbCBXds09weMX6"]⟩,
      ⟨["maka", "makasar"],
      ["Ydt0O"]⟩,
      ⟨["mlym", "malayalam"],
      ["YgH1H1yQC121XI12154F2PZwQ0N0XYvT2"]⟩,
      ⟨["mand", "mandaic"],
      ["Xo00lVR20"]⟩,
      ⟨["mani", "manichaean"],
      ["Xo00YXZVX64B"]⟩,
      ⟨["marc", "marchen"],
      ["YdZGV2L1D"]⟩,
      ⟨["gonm", "masaramgondi"],
      ["Yh41YayQ6111XB30111889"]⟩,
      ⟨["medf", "medefaidrin"],
      ["Yxo0YQ"]⟩,
      ⟨["mtei", "meeteimayek"],
      ["Xgt0Mc9XD29"]⟩,
      ⟨["mend", "mendekikakui"],
      ["ZwW0c42F"]⟩,
      ⟨["merc", "meroiticcursive"],
      ["YYj0N4J2XD"]⟩,
      ⟨["mero", "meroitichieroglyphs"],
      ["eYT0Xwf2V"]⟩,
      ⟨["miao", "plrd"],
      ["Yxu0YA4XO7G"]⟩,
      ⟨["modi"],
      ["XgXG9xk6Y4B9"]⟩,
      ⟨["mong", "mongolian"],
      ["cW0P6YO7XAXy40Z.H153XvoKC"]⟩,
      ⟨["mro", "mroo"],
      ["Ywo0U1941"]⟩,
      ⟨["mult", "multani"],
      ["Yp69YYWG610131E1A"]⟩,
      ⟨["mymr", "myanmar"],
      ["aW0aVXcaE0bHUZ1VxYGJ"]⟩,
      ⟨["nbat", "nabataean"],
      ["YYa0U88"]⟩,
      ⟨["nagm", "nagmundari"],
      ["ZvcGX9"]⟩,
      ⟨["nand", "nandinagari"],
      ["Yh41y09Z_P08070XYvL5yhA72XD2A"]⟩,
      ⟨["talu", "newtailue"],
      ["ci0XB4P6A31"]⟩,
      ⟨["newa"],
      ["YbW0YR14"]⟩,
      ⟨["nko", "nkoo"],
      ["XmC0E030j0XQ22XzfU1"]⟩,
      ⟨["nshu", "nushu"],
      ["Yx_10miEiB"]⟩,
      ⟨["hmnp", "nyiakengpuachuehmong"],
      ["Zue0XC3D2941"]⟩,
      ⟨["ogam", "ogham"],
      ["bq0S"]⟩,
      ⟨["olck", "olchiki"],
      ["dYGXF"]⟩,
      ⟨["onao", "olonal"],
      ["Yh41ZtZAXA40"]⟩,
      ⟨["hung", "oldhungarian"],
      ["eYQ020ZkJ0F0XtnUXIDXI75"]⟩,
      ⟨["ital", "olditalic"],
      ["YWu0X392"]⟩,
      ⟨["narb", "oldnortharabian"],
      ["YYq0V"]⟩,
      ⟨["perm", "oldpermic"],
      ["bN0o8052A0hF0X_sCXA"]⟩,
      ⟨["xpeo", "oldpersian"],
      ["YWz0X34D"]⟩,
      ⟨["sogo", "oldsogdian"],
      ["YZu0X7"]⟩,
      ⟨["sarb", "oldsoutharabian"],
      ["YYp0V"]⟩,
      ⟨["orkh", "oldturkic"],
      ["eYQ0ZkL0XtkFY8"]⟩,
      ⟨["ougr", "olduyghur"],
      ["Xo00YXbH0XZTP"]⟩,
      ⟨["orya", "oriya"],
      ["YgH1H1iR217212L1611142821227241142Hah20N0"]⟩,
      ⟨["osge", "osage"],
      ["u102060YC0YWgNX34X3"]⟩,
      ⟨["osma", "osmanya"],
      ["YXa0T29"]⟩,
      ⟨["hmng", "pahawhhmong"],
      ["Ywu0Y5A9161K5I"]⟩,
      ⟨["palm", "palmyrene"],
      ["YYZ0V"]⟩,
      ⟨["pauc", "paucinhau"],
      ["Ycs0XO"]⟩,
      ⟨["phag", "phagspa"],
      ["cW2110YX90Z.I0.XTXN"]⟩,
      ⟨["phnx", "phoenician"],
      ["YYe0R30"]⟩,
      ⟨["phlp", "psalterpahlavi"],
      ["Xo00YXfVH73C6"]⟩,
      ⟨["rjng", "rejang"],
      ["XgfGX3B0"]⟩,
      ⟨["runr", "runic"],
      ["br0YO"]⟩,
      ⟨["samr", "samaritan"],
      ["YW0XD2EflI0"]⟩,
      ⟨["saur", "saurashtra"],
      ["Xga0Y58B"]⟩,
      ⟨["shrd", "sharada"],
      ["YgH0ay50102120XYwF520wg7YV"]⟩,
      ⟨["shaw", "shavian"],
      ["bN0YWyOXF"]⟩,
      ⟨["sidd", "siddham"],
      ["Ybi0XL2X5"]⟩,
      ⟨["sgnw", "signwriting"],
      ["ZsW0qBF41E"]⟩,
      ⟨["sinh", "sinhala"],
      ["Yh41XWR21H3N181026304510176922ZtT0XzdEJ"]⟩,
      ⟨["sogd", "sogdian"],
      ["Xo00YYdFX9"]⟩,
      ⟨["sora", "sorasompeng"],
      ["YacGO79"]⟩,
      ⟨["soyo", "soyombo"],
      ["YcoGYI"]⟩,
      ⟨["sund", "sundanese"],
      ["cy0XVe07"]⟩,
      ⟨["sunu", "sunuwar"],
      ["u01109020S030YcaEX1E9"]⟩,
      ⟨["sylo", "sylotinagri"],
      ["Yh41a09XdmGXC"]⟩,
      ⟨["syrc", "syriac"],
      ["u312110L0227110sR0E120X00AAQ0aFD1XR22eGAbiD010"]⟩,
      ⟨["tglg", "tagalog"],
      ["bu0L90L1"]⟩,
      ⟨["tagb", "tagbanwa"],
      ["bvL1X9C1211"]⟩,
      ⟨["tale", "taile"],
      ["u015130ZfJ9Ye6T24"]⟩,
      ⟨["lana", "taitham"],
      ["cn0XU1S2A696D"]⟩,
      ⟨["tavt", "taiviet"],
      ["Xgq0Y2O4"]⟩,
      ⟨["takr", "takri"],
      ["Yh41XdsA9xo6XP69"]⟩,
      ⟨["taml", "tamil"],
      ["YgH1H1mS115321331101131323B4432132060EKacV0XZWO0wmD010XN1Za3XHD0"]⟩,
      ⟨["tnsa", "tangsa"],
      ["YwpGYE19"]⟩,
      ⟨["tang", "tangut"],
      ["h_GFlF0YllG0Vb_N8tVm08"]⟩,
      ⟨["telu", "telugu"],
      ["YgH1H1qQC121M1F281213711220232978aYQ0N0"]⟩,
      ⟨["thaa", "thaana"],
      ["XmC0E120Y09eMXHXzo00A0"]⟩,
      ⟨["thai"],
      ["rS0Q0XB0XD0YsFXP5R"]⟩,
      ⟨["tibt", "tibetan"],
      ["Zu0Y71X34X61X31E1641eXD3"]⟩,
      ⟨["tfng", "tifinagh"],
      ["u20102010gn6XN71E0"]⟩,
      ⟨["tirh", "tirhuta"],
      ["YgH1H1ayC0XYvT9xY6Y789"]⟩,
      ⟨["todr", "todhri"],
      ["u1020209010YA0YWp1XJ"]⟩,
      ⟨["toto"],
      ["rS0Zt.JU"]⟩,
      ⟨["tutg", "tulutigalari"],
      ["Zd69aW2010XYvR5bR0wqE910201X519102013191181"]⟩,
      ⟨["ugar", "ugaritic"],
      ["YWy0T10"]⟩,
      ⟨["vai", "vaii"],
      ["Xfe0fB"]⟩,
      ⟨["vith", "vithkuqi"],
      ["YXhGA1E16111A1E1611"]⟩,
      ⟨["wcho", "wancho"],
      ["Zus0XP50"]⟩,
      ⟨["wara", "warangciti"],
      ["Ycb0YIC0"]⟩,
      ⟨["yezi", "yezidi"],
      ["XmC0E030Y09YYWMX91221"]⟩,
      ⟨["yi", "yiii"],
      ["iW115927cV0xu4XaC3XMsqQ4"]⟩,
      ⟨["zanb", "zanabazarsquare"],
      ["Ycm0Y7"]⟩ ]

end Unicode
end GameConfig
