import GameConfig.Unicode.Table

/-!
# Characters that cannot be seen

Controls, formatting marks, blanks but the plain space, marks that extend the character before
them, characters that are left out of a display, and code points without a meaning.  The two
halfwidth sound marks extend the character before them, too, but they are letters with a width
of their own and can be seen.  This table is that of version 17 of the standard.
-/

namespace GameConfig
namespace Unicode

def invisibleRows : List String :=
    [ "0VYVX1C0oIZF81637010K0d06b60X61XI13XD10111118R36GAA10XEKG0Z57152113X0110USYPA1DXB872O318",
      "1216F0P410B4X0FXAXOXN010474036A1T0208121M0701242102521201C2033O4106321M0702020233N4016A1",
      "301B109030M07020524710221E23C617208121M07020521115212E2033IA106230422010222232C410223032",
      "1KL5308030N0G2124I302123A6A0B030N0A05221102M3023A03DB030X91102430302330A3Q120I2O09011782",
      "576A13BXG02A87DX4201050O010A028115018A14VO1R01010E0X4H14115XG8060DX4XD3151121P142G3D0216",
      "0F0X801411aF1d8041701041X9041X1041701041F0XP041Y34T2Q5YM161q00S2YP6ICJ228IDD03EXK116802A",
      "92A5A5B4A5YP651X2014Y69V34133206612XA15AXC3Q5B2XP122XO01810276CA5A5EYLXG94280T8C1X0325XO",
      "011301CXG724F2XU4XB1BA1C1640603114c0XVeM161X616180101010V1XL0F0E160J1309GO7XFG21R0D2X2XT",
      "aC3qQLBKXuK1hP224XD01411XO62EN8707070707070707X0YUX1Q0YPBcMPG0X95G0YM3Z54XB0XJ0XA0YM8XG0",
      "ypD2XN8gSJXF319X01YG167cTJH03040P153A5XO7Y49CND0X67PA1BU5XG0232120D0B370P0X95212A308011A",
      "1X00XJ0122151101NH18A6161687070XS3ZL02042A5gz4BN3XH3YW0cdVhE1ZAX57B5410O050102020qAVGFAL",
      "X30J04350a73aV0U261616132707C21C0Q0J020F1EX1ZR433XD2YO0D21XEXDa2T2XHFR3X48U4X69U0X53EX9a",
      "U1A5X43X43X87XKAC0F07020B0F07022XKBfN8M98N60XA09Y46110XC02211N0Y879XFJ024X12R4RX5XO3K1XF",
      "E4030T99696Y0VX55C8XM2T1R4Q64B7YFY9XMXJCXJ6XABA5X67O72cFV0XA2112F679X6X87MA9LI34X5SJN810",
      "XME73U0211BXH321204DP6A8X4418I7X303AXK8108320G0KAI0S223602XU701040F0B5XF03CA7208121M0702",
      "05210104121221B7RA01110X60102E102210302X6XO72210L0103TXG0251020111147Ab5XF0254111RX3XJ72",
      "0114AA5DIXB0102725A5KRR2102318NbOXF8111Z3YJB81118020O050254038AY581XA7404Q19X8523881522X",
      "EC119CY96AYM12101YNX2DA590X6D1069T2X0O16111YA7020X6K18A56020X53201016A5XC3AdLJ148F0X4722",
      "NYL1EXICyRZ5ZF05Ac4YoBZ3CXXGG6OZyR4o7crOUB32AXs5nP6V0A3YH0A5U619XG6F9A070L4JjFXQc5YR4P1P",
      "XBYB4XOADXV4D58dcMX8X0Z0ZJelS407020f3E1S311D47iCYe3ZB4D296A1111ZwVdT2jK5NEHYUZKXRdM9X71X",
      "S43L26U3XTKY221ZPKBKBYN8Pa6YL0Y7021112140C01070Y10418070S040501270gK1f41nIXM4XH80E07XZJV",
      "56e4XUaHXD971A32fVUHXC3A41kFS3AcLU1B31bVV0302071582cV704020F0c519XFY4613A32uGY4YBXTc140R",
      "0201110A040101513101010302011101010101020114070404010A0H43050HXJ2eDXC3Z4BF1F0F0X59bEXNTC",
      "XC3962D6aP.P2H2D2cQ5C31EC3XO7A5X87U1C32D9X6gO7E1D2B2XP013G1C3A6aJ0Z7XW4Xft0VaeU1bqE1dfHE",
      "pEYj1mUXl1awB4efAxoy5" ]

def invisible : Ranges :=
  .ofRows invisibleRows

end Unicode
end GameConfig
