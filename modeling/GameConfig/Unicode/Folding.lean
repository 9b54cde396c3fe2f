import GameConfig.Unicode.Table

/-!
# Case folding

Characters that differ in case alone form a family, and its least member stands for the
family.  A character without relatives is in no family.
-/

namespace GameConfig
namespace Unicode

/-- For every member of a family but the least the gap from the character listed before it, and
one less than the distance to the least member. -/
def foldingRows : List String :=
    [ "Z1V0V0V0V0V0V0V0V0V0V0V0V0V0V0V0V0V0V0V0V0V0V0V0V0V0VZ5V0V0V0V0V0V0V0V0V0V0V0V0V0V0V",
      "0V0V0V0V0V0V0V0V1V0V0V0V0V0V0V201010101010101010101010101010101010101010101010301010",
      "201010101010101020101010101010101010101010101010101010101010100ZO1010100fB3010203050",
      "607010102040203010203070011001100110101010101010100YE1010101010101010102001100Z00XN1",
      "0101010101010101010101010101010101010100a1201010101010101010800b2400c230101010103cH0",
      "cD1cC0cC1c91cA4cC2cE4cG0cI5cI2cK2cLAcP2cP4cP0Y40cO0cO0Y65cQcU01030X1YJ2t6FX50X40X40X",
      "41V0V0V0V0V0V0V0V0ZJ0V0V0u60V0V0V0V0V0U0V0V0V0V0V0V0V0V0V0XV0XU0XU1XT0XO3XE0XL071010",
      "101010101010101010100YL0YF1ZJ0YR0YV2006101a10a10a1XGV0V0V0V0V0V0V0V0V0V0V0V0V0V0V0V0",
      "V0V0V0V0V0V0V0V0V0V0V0V0V0V0V0V0YF0YF0YF0YF0YF0YF0YF0YF0YF0YF0YF0YF0YF0YF0YF0YF10101",
      "010101010101010101010101010109010101010101010101010101010101010101010101010101010102",
      "01010101010100E101010101010101010101010101010101010101010101010101010101010101010101",
      "010101010101010101010101010XHXF0XF0XF0XF0XF0XF0XF0XF0XF0XF0XF0XF0XF0XF0XF0XF0XF0XF0X",
      "F0XF0XF0XF0XF0XF0XF0XF0XF0XF0XF0XF0XF0XF0XF0XF0XF0XF0XF0XFZpH70707070707Ya2cZD0cZC0c",
      "Z30cZ10cZ10cZ20cYR0cX4205YzV0YzV0YzV0YzV0YzV0YzV0YzV0YzV0YzV0YzV0YzV0YzV0YzV0YzV0YzV",
      "0YzV0YzV0YzV0YzV0YzV0YzV0YzV0YzV0YzV0YzV0YzV0YzV0YzV0YzV0YzV0YzV0YzV0YzV0YzV0YzV0YzV",
      "0YzV0YzV0YzV0YzV0YzV0YzV0YzV2YzV0YzV0YzVg1010101010101010101010101010101010101010101",
      "010101010101010101010101010101010101010101010101010101010101010101010101010101010101",
      "010101010101010101010105XQ2djU201010101010101010101010101010101010101010101010101010",
      "1010101010101010101010101010101010101010108707070707070707870707070707A7070707070707",
      "078707070707070707870707070707B71717178707070707070707O70707070707070787070707070707",
      "07870707070707070787070Y90Y9081dZO9YL0YL0YL0YL086dY247070Z30Z37dXI47070ZF0ZF06BZV0ZV",
      "0ZT0ZT08f9dhS3ecU0eZ5X2RX1F0F0F0F0F0F0F0F0F0F0F0F0F0F0F0F40wBP0P0P0P0P0P0P0P0P0P0P0P",
      "0P0P0P0P0P0P0P0P0P0P0P0P0P0PXw6XF0XF0XF0XF0XF0XF0XF0XF0XF0XF0XF0XF0XF0XF0XF0XF0XF0XF",
      "0XF0XF0XF0XF0XF0XF0XF0XF0XF0XF0XF0XF0XF0XF0XF0XF0XF0XF0XF0XF0XF0XF0XF0XF0XF0XF0XF0XF",
      "0XF0XF100glM0Zt50gl60gnA0gn71010100gmR0glS0gmU0gmT20207gnU0gnU1010101010101010101010",
      "101010101010101010101010101010101010101010101010101010101010101010101010101010801040",
      "CdYV0dYV0dYV0dYV0dYV0dYV0dYV0dYV0dYV0dYV0dYV0dYV0dYV0dYV0dYV0dYV0dYV0dYV0dYV0dYV0dYV",
      "0dYV0dYV0dYV0dYV0dYV0dYV0dYV0dYV0dYV0dYV0dYV0dYV0dYV0dYV0dYV0dYV0dYV1dYV5dYV.eJ01010",
      "10100XYk10XYk21010101010101010101010101010101010J010101010101010101010101010a7010101",
      "010101030101010101010101010101010101010101010101010101010101010101010A0100XYm3101010",
      "1010400Xff73010301010101010101010100Xfg30XfgE0XfgA0Xfg00Xfg31XfeH0Xff90XfeK201010101",
      "01010100XF0Xfg20XYnN10100Xfh610305010100Xfo0P0wSyVSXb.F0Xb.F0Xb.F0Xb.F0Xb.F0Xb.F0Xb.",
      "F0Xb.F0Xb.F0Xb.F0Xb.F0Xb.F0Xb.F0Xb.F0Xb.F0Xb.F0Xb.F0Xb.F0Xb.F0Xb.F0Xb.F0Xb.F0Xb.F0Xb",
      ".F0Xb.F0Xb.F0Xb.F0Xb.F0Xb.F0Xb.F0Xb.F0Xb.F0Xb.F0Xb.F0Xb.F0Xb.F0Xb.F0Xb.F0Xb.F0Xb.F0X",
      "b.F0Xb.F0Xb.F0Xb.F0Xb.F0Xb.F0Xb.F0Xb.F0Xb.F0Xb.F0Xb.F0Xb.F0Xb.F0Xb.F0Xb.F0Xb.F0Xb.F0",
      "Xb.F0Xb.F0Xb.F0Xb.F0Xb.F0Xb.F0Xb.F0Xb.F0Xb.F0Xb.F0Xb.F0Xb.F0Xb.F0Xb.F0Xb.F0Xb.F0Xb.F",
      "0Xb.F0Xb.F0Xb.F0Xb.F0Xb.F0Xb.Fpw60XXQV0V0V0V0V0V0V0V0V0V0V0V0V0V0V0V0V0V0V0V0V0V0V0V",
      "0V0VXcDX70X70X70X70X70X70X70X70X70X70X70X70X70X70X70X70X70X70X70X70X70X70X70X70X70X7",
      "0X70X70X70X70X70X70X70X70X70X70X70X70X70X7a8X70X70X70X70X70X70X70X70X70X70X70X70X70X",
      "70X70X70X70X70X70X70X70X70X70X70X70X70X70X70X70X70X70X70X70X70X70X7aRX60X60X60X60X60",
      "X60X60X60X60X60X61X60X60X60X60X60X60X60X60X60X60X60X60X60X60X61X60X60X60X60X60X60X61",
      "X60X6Xu3XV0XV0XV0XV0XV0XV0XV0XV0XV0XV0XV0XV0XV0XV0XV0XV0XV0XV0XV0XV0XV0XV0XV0XV0XV0X",
      "V0XV0XV0XV0XV0XV0XV0XV0XV0XV0XV0XV0XV0XV0XV0XV0XV0XV0XV0XV0XV0XV0XV0XV0XV0XVZTV0V0V0",
      "V0V0V0V0V0V0V0V0V0V0V0V0V0V0V0V0V0V0VYvQV0V0V0V0V0V0V0V0V0V0V0V0V0V0V0V0V0V0V0V0V0V0",
      "V0V0V0V0V0V0V0V0V0Vri0V0V0V0V0V0V0V0V0V0V0V0V0V0V0V0V0V0V0V0V0V0V0V0V0V0V0V0V0V0V0V0",
      "V.r2X10X10X10X10X10X10X10X10X10X10X10X10X10X10X10X10X10X10X10X10X10X10X10X10X10X10X1",
      "0X10X10X10X10X10X10X1" ]

def foldingPairs (next : Nat) : List Nat → List (Nat × Nat)
  | gap :: less :: rest =>
      let code := next + gap
      (code, code - (less + 1)) :: foldingPairs (code + 1) rest
  | _ => []

def foldings : List (Nat × Nat) :=
  foldingPairs 0 (numbers foldingRows)

def Ranges.leastRelatives (s : Ranges) : Ranges :=
  .ofCodes ((foldings.filter fun pair => s.contains pair.1 || s.contains pair.2).map Prod.snd)

def Ranges.anyCase (s : Ranges) : Ranges :=
  let least := s.leastRelatives
  let others := (foldings.filter fun pair => least.contains pair.2).map Prod.fst
  s.union (least.union (.ofCodes others))

end Unicode
end GameConfig
