import GameConfig.Unicode.Table

/-!
# Letters and numerals

The characters that names are made of.  These tables are those of version 17 of the standard.
-/

namespace GameConfig
namespace Unicode

def letterRows : List String :=
    [ "Y1P6PXF0A0405M1U1k94BE47010YM0TH1123106012101J1YI1aA8b51X5206X8X7D101111108Q43TA5XN16EZ5",
      "174742A220GXFDZ4OX091405N2IJO7A5N16708X9AB366YB1F124EDI17212L16103337212110804114C1A0421",
      "5412L16111111444121407310H5B218121L16111438121130F3L34217212L161114372121914114D0G115321",
      "331101131323B4432123060X8C121M1F37121281121123S317121M1914371212815213D2CC121X8271212105",
      "374M5121H3N181026851017I1DXP5660XJ110141N101I12241060E3X00XV71X34I4F1X3Y3XM1024GXVA32X51",
      "0502XA1gC132610132X8132X0132610132E1XO132Y2X5FGYL253pB2G1P5YA3A7JBKCJCC1211CXJ2IE040Y3YO",
      "7XA5Y5AU1B48NT24BXB4PXMR4XU2JXI0N1B2XHXJ1E17XJX923AXB1AEXMM2AX32A5XA22X931511305bVJX1BeL",
      "252X525271010101U2XK1610321633254C5216ZK0D0GCZ5040291034601010131A235440HX8vDXJXuMd46331",
      "CX510502XN70GM96161616161616161VXF0kL2P874244YL621YP135XA1YTHVXGFm0cjVY0rqCY3XD2eC3FA1KX",
      "E573ZGX782Z62YHKK1X0OXJCY310XC53012AX05X2DS3XI1BF0GFA41XM9DIM3Y41010O22F23B5252596161XA1",
      "D6ZQLgz3CM4XGee4hD2Z9X66C45B1C141011111ZBX1hAIXV2XLX8BZK41a6X4P6PBYO35252522X3B1P1I111E2",
      "DX2ZQY5XKeBS3XGXFVDT5XA5T2X34714XAaTIX34X34X78XJCA1E16111A1E16113XJCfM9LA7O51X918Y55201X",
      "B11302MAM9UY1I11ALAP6PX6XN61Y031157121SXAS3SX371RRXLALAIDHZEY8XNXIDXIDX7X2R305MdQX91131G",
      "5XI23SA08LXAHXEKRM9Y5XB4AXO90DONXIH38X2309XV1391A010X3H1X12063XU610131E197XON317212L1611",
      "14372121306056S910201X519102013113010XCY11213K2UY12110bOXL26P5X2XU1030XRXL20Y7Q2DL6bPXOZ",
      "7XVV72027111T112123YT72XD251011RXI29HY750IY8Z77YOX0V81XC1610XHT2L1DY96111XB3011121021O51",
      "11X4111310NXBe4M9G1X832ZF0YFyPZ6ZEHc3YoCZ0FXXFH5PZyQ5o6crPXEXsHnO7UHYEHTIXFG3VK5IjGXCcJX",
      "VX0O2OXCYA4XO7GY0110C69dcLX9VZ1ZIelT316111f2F0T220E38iBYe4ZA5C387940bx1YK1Y6112021231B10",
      "161Y01327161R131410361gJ2O1O1U1O1U1O1U1O1U1O17XvKU65cL61G2611145XTX10ZGXCA6G0g1TIXBl4Rd4",
      "T20cFU1L81d0613111E1c4XRY33030XbK31Q1110201913101060401010121110201010101011102316131310",
      "191G52141GpKP6P6PZpMXfsVX0aeT2bqD2dfGFpDYj2mTXl2awA5ef9" ]

def numeralRows : List String :=
    [ "XG9ZO15022Xj19a69c69iS9ZM945ZC9ZM9ZM925ZECZJ986Z79Z867IZD9Z09ZM9Y6JeC9Y69sFJXZ3969M9fC9a",
      "0Ab5969bM9YM9a6969XWM03569c6FX90sMXRYELpMTXh90XaK3aA9U71EX09X7Eyx09m65aQ9X69c69M9YM9iM9q",
      "uM9lDXCY13H1gLQX43hS9zE7P6X78YB4M5b012F2XDY08XK1U2YB4Z87O7X96gA5XG969eMUaU9XA3ZG6a6Ta09X",
      "S9aG97JdR9gM9ZM9hM9Z696JYCBj4IYT9qM9YMSd39Y69XM9h69Z6KmgR9Yf69YM9a6916mE9e6MtoP9Xk6JCJZC",
      "OXYLXHYg09j69lM9dN9sC8a09uNXQ1213YCXC1E.2CYt39" ]

def letters : Ranges :=
  .ofRows letterRows

def numerals : Ranges :=
  .ofRows numeralRows

end Unicode
end GameConfig
