import PluginRecovery.Text.Bounds
import PluginRecovery.Text.Table

/-!
The composed form of text: a letter and the marks on it become one character where there is one, and
marks that do not touch each other stand in a fixed order.
-/

set_option autoImplicit false
set_option relaxedAutoImplicit false

namespace PluginRecovery.Domain

open PluginRecovery.Text

/-- Where the combining class of characters changes. -/
def combiningEntries : Array Nat := #[
  0xA100, 0x300E6, 0x315E8, 0x316DC, 0x31AE8, 0x31BD8, 0x31CDC, 0x321CA, 0x323DC, 0x327CA, 0x329DC,
  0x33401, 0x339DC, 0x33DE6, 0x347DC, 0x34AE6, 0x34DDC, 0x350E6, 0x353DC, 0x357E6, 0x358E8, 0x359DC,
  0x35BE6, 0x35CE9, 0x35DEA, 0x35FE9, 0x360EA, 0x362E9, 0x363E6, 0x37100, 0x483E6, 0x48800, 0x591DC,
  0x592E6, 0x596DC, 0x597E6, 0x59ADE, 0x59BDC, 0x59CE6, 0x5A2DC, 0x5A8E6, 0x5AADC, 0x5ABE6, 0x5ADDE,
  0x5AEE4, 0x5AFE6, 0x5B00A, 0x5B10B, 0x5B20C, 0x5B30D, 0x5B40E, 0x5B50F, 0x5B610, 0x5B711, 0x5B812,
  0x5B913, 0x5BB14, 0x5BC15, 0x5BD16, 0x5BE00, 0x5BF17, 0x5C000, 0x5C118, 0x5C219, 0x5C300, 0x5C4E6,
  0x5C5DC, 0x5C600, 0x5C712, 0x5D000, 0x610E6, 0x6181E, 0x6191F, 0x61A20, 0x61B00, 0x64B1B, 0x64C1C,
  0x64D1D, 0x64E1E, 0x64F1F, 0x65020, 0x65121, 0x65222, 0x653E6, 0x655DC, 0x657E6, 0x65CDC, 0x65DE6,
  0x65FDC, 0x66000, 0x67023, 0x67100, 0x6D6E6, 0x6DE00, 0x6DFE6, 0x6E3DC, 0x6E4E6, 0x6E500, 0x6E7E6,
  0x6E900, 0x6EADC, 0x6EBE6, 0x6EDDC, 0x6EE00, 0x71124, 0x71200, 0x730E6, 0x731DC, 0x732E6, 0x734DC,
  0x735E6, 0x737DC, 0x73AE6, 0x73BDC, 0x73DE6, 0x73EDC, 0x73FE6, 0x742DC, 0x743E6, 0x744DC, 0x745E6,
  0x746DC, 0x747E6, 0x748DC, 0x749E6, 0x74D00, 0x7EBE6, 0x7F2DC, 0x7F3E6, 0x7F400, 0x7FDDC, 0x7FE00,
  0x816E6, 0x81A00, 0x81BE6, 0x82400, 0x825E6, 0x82800, 0x829E6, 0x83000, 0x859DC, 0x85E00, 0x898E6,
  0x899DC, 0x89CE6, 0x8A000, 0x8CAE6, 0x8CFDC, 0x8D4E6, 0x8E3DC, 0x8E4E6, 0x8E6DC, 0x8E7E6, 0x8E9DC,
  0x8EAE6, 0x8EDDC, 0x8F01B, 0x8F11C, 0x8F21D, 0x8F3E6, 0x8F6DC, 0x8F7E6, 0x8F9DC, 0x8FBE6, 0x90000,
  0x93C07, 0x93D00, 0x94D09, 0x94E00, 0x951E6, 0x952DC, 0x953E6, 0x95500, 0x9BC07, 0x9BD00, 0x9CD09,
  0x9CE00, 0x9FEE6, 0xA0100, 0xA3C07, 0xA3E00, 0xA4D09, 0xA5100, 0xABC07, 0xABD00, 0xACD09, 0xAD000,
  0xB3C07, 0xB3D00, 0xB4D09, 0xB5500, 0xBCD09, 0xBD000, 0xC3C07, 0xC3D00, 0xC4D09, 0xC5554, 0xC565B,
  0xC5800, 0xCBC07, 0xCBD00, 0xCCD09, 0xCD500, 0xD3B09, 0xD3D00, 0xD4D09, 0xD4E00, 0xDCA09, 0xDCF00,
  0xE3867, 0xE3A09, 0xE3F00, 0xE486B, 0xE4C00, 0xEB876, 0xEBA09, 0xEBB00, 0xEC87A, 0xECC00, 0xF18DC,
  0xF1A00, 0xF35DC, 0xF3600, 0xF37DC, 0xF3800, 0xF39D8, 0xF3A00, 0xF7181, 0xF7282, 0xF7484, 0xF7A82,
  0xF7E00, 0xF8082, 0xF82E6, 0xF8409, 0xF8500, 0xF86E6, 0xF8800, 0xFC6DC, 0xFC700, 0x103707,
  0x103800, 0x103909, 0x103B00, 0x108DDC, 0x108E00, 0x135DE6, 0x136000, 0x171409, 0x171F00,
  0x173409, 0x173500, 0x17D209, 0x17D300, 0x17DDE6, 0x17E000, 0x18A9E4, 0x18AA00, 0x1939DE,
  0x193AE6, 0x193BDC, 0x194000, 0x1A17E6, 0x1A18DC, 0x1A1900, 0x1A6009, 0x1A6100, 0x1A75E6,
  0x1A7FDC, 0x1A8000, 0x1AB0E6, 0x1AB5DC, 0x1ABBE6, 0x1ABDDC, 0x1ABE00, 0x1ABFDC, 0x1AC1E6,
  0x1AC3DC, 0x1AC5E6, 0x1ACADC, 0x1ACBE6, 0x1ACF00, 0x1B3407, 0x1B3500, 0x1B4409, 0x1B4500,
  0x1B6BE6, 0x1B6CDC, 0x1B6DE6, 0x1B7400, 0x1BAA09, 0x1BAC00, 0x1BE607, 0x1BE700, 0x1BF209,
  0x1BFC00, 0x1C3707, 0x1C3B00, 0x1CD0E6, 0x1CD300, 0x1CD401, 0x1CD5DC, 0x1CDAE6, 0x1CDCDC,
  0x1CE0E6, 0x1CE100, 0x1CE201, 0x1CE900, 0x1CEDDC, 0x1CEE00, 0x1CF4E6, 0x1CF500, 0x1CF8E6,
  0x1CFA00, 0x1DC0E6, 0x1DC2DC, 0x1DC3E6, 0x1DCADC, 0x1DCBE6, 0x1DCDEA, 0x1DCED6, 0x1DCFDC,
  0x1DD0CA, 0x1DD1E6, 0x1DF6E8, 0x1DF7E4, 0x1DF9DC, 0x1DFADA, 0x1DFBE6, 0x1DFCE9, 0x1DFDDC,
  0x1DFEE6, 0x1DFFDC, 0x1E0100, 0x20D0E6, 0x20D201, 0x20D4E6, 0x20D801, 0x20DBE6, 0x20DD00,
  0x20E1E6, 0x20E200, 0x20E501, 0x20E7E6, 0x20E8DC, 0x20E9E6, 0x20EA01, 0x20ECDC, 0x20F0E6,
  0x210400, 0x2CEFE6, 0x2CF300, 0x2D7F09, 0x2D8000, 0x2DE0E6, 0x2E0000, 0x302ADA, 0x302BE4,
  0x302CE8, 0x302DDE, 0x302EE0, 0x303000, 0x309908, 0x309D00, 0xA66FE6, 0xA67000, 0xA674E6,
  0xA67E00, 0xA69EE6, 0xA6A000, 0xA6F0E6, 0xA6F200, 0xA80609, 0xA80700, 0xA82C09, 0xA83000,
  0xA8C409, 0xA8C500, 0xA8E0E6, 0xA8F200, 0xA92BDC, 0xA92E00, 0xA95309, 0xA95F00, 0xA9B307,
  0xA9B400, 0xA9C009, 0xA9C100, 0xAAB0E6, 0xAAB100, 0xAAB2E6, 0xAAB4DC, 0xAAB500, 0xAAB7E6,
  0xAAB900, 0xAABEE6, 0xAAC000, 0xAAC1E6, 0xAAC200, 0xAAF609, 0xAB0100, 0xABED09, 0xABF000,
  0xFB1E1A, 0xFBB200, 0xFE20E6, 0xFE27DC, 0xFE2EE6, 0xFE4500, 0x101FDDC, 0x1028000, 0x102E0DC,
  0x102E100, 0x10376E6, 0x1038000, 0x10A0DDC, 0x10A0E00, 0x10A0FE6, 0x10A1000, 0x10A38E6, 0x10A3901,
  0x10A3ADC, 0x10A3F09, 0x10A4000, 0x10AE5E6, 0x10AE6DC, 0x10AEB00, 0x10D24E6, 0x10D3000, 0x10EABE6,
  0x10EAD00, 0x10EFDDC, 0x10F0000, 0x10F46DC, 0x10F48E6, 0x10F4BDC, 0x10F4CE6, 0x10F4DDC, 0x10F5100,
  0x10F82E6, 0x10F83DC, 0x10F84E6, 0x10F85DC, 0x10F8600, 0x1104609, 0x1104700, 0x1107009, 0x1107100,
  0x1107F09, 0x1108000, 0x110B909, 0x110BA07, 0x110BB00, 0x11100E6, 0x1110300, 0x1113309, 0x1113600,
  0x1117307, 0x1117400, 0x111C009, 0x111C100, 0x111CA07, 0x111CB00, 0x1123509, 0x1123607, 0x1123700,
  0x112E907, 0x112EA09, 0x112F000, 0x1133B07, 0x1133D00, 0x1134D09, 0x1135000, 0x11366E6, 0x1138000,
  0x1144209, 0x1144300, 0x1144607, 0x1144700, 0x1145EE6, 0x1145F00, 0x114C209, 0x114C307, 0x114C400,
  0x115BF09, 0x115C007, 0x115C100, 0x1163F09, 0x1164000, 0x116B609, 0x116B707, 0x116B800, 0x1172B09,
  0x1173000, 0x1183909, 0x1183A07, 0x1183B00, 0x1193D09, 0x1193F00, 0x1194307, 0x1194400, 0x119E009,
  0x119E100, 0x11A3409, 0x11A3500, 0x11A4709, 0x11A5000, 0x11A9909, 0x11A9A00, 0x11C3F09, 0x11C4000,
  0x11D4207, 0x11D4300, 0x11D4409, 0x11D4600, 0x11D9709, 0x11D9800, 0x11F4109, 0x11F4300, 0x16AF001,
  0x16AF500, 0x16B30E6, 0x16B3700, 0x16FF006, 0x16FF200, 0x1BC9E01, 0x1BC9F00, 0x1D165D8, 0x1D16701,
  0x1D16A00, 0x1D16DE2, 0x1D16ED8, 0x1D17BDC, 0x1D18300, 0x1D185E6, 0x1D18ADC, 0x1D18C00, 0x1D1AAE6,
  0x1D1AE00, 0x1D242E6, 0x1D24500, 0x1E000E6, 0x1E10000, 0x1E130E6, 0x1E13700, 0x1E2AEE6, 0x1E2C000,
  0x1E2ECE6, 0x1E2F000, 0x1E4ECE8, 0x1E4EEDC, 0x1E4EFE6, 0x1E4F000, 0x1E8D0DC, 0x1E92200, 0x1E944E6,
  0x1E94A07, 0x1E94B00]

/-- The letters with marks that can be in names, and what they are composed of. -/
def compositionLines : List String := [
  "E0=61,300 E1=61,301 E2=61,302 E3=61,303 E4=61,308 E5=61,30A E7=63,327 E8=65,300 E9=65,301",
  "EA=65,302 EB=65,308 EC=69,300 ED=69,301 EE=69,302 EF=69,308 F1=6E,303 F2=6F,300 F3=6F,301",
  "F4=6F,302 F5=6F,303 F6=6F,308 F9=75,300 FA=75,301 FB=75,302 FC=75,308 FD=79,301 FF=79,308",
  "101=61,304 103=61,306 105=61,328 107=63,301 109=63,302 10B=63,307 10D=63,30C 10F=64,30C",
  "113=65,304 115=65,306 117=65,307 119=65,328 11B=65,30C 11D=67,302 11F=67,306 121=67,307",
  "123=67,327 125=68,302 129=69,303 12B=69,304 12D=69,306 12F=69,328 135=6A,302 137=6B,327",
  "13A=6C,301 13C=6C,327 13E=6C,30C 144=6E,301 146=6E,327 148=6E,30C 14D=6F,304 14F=6F,306",
  "151=6F,30B 155=72,301 157=72,327 159=72,30C 15B=73,301 15D=73,302 15F=73,327 161=73,30C",
  "163=74,327 165=74,30C 169=75,303 16B=75,304 16D=75,306 16F=75,30A 171=75,30B 173=75,328",
  "175=77,302 177=79,302 17A=7A,301 17C=7A,307 17E=7A,30C 1A1=6F,31B 1B0=75,31B 1CE=61,30C",
  "1D0=69,30C 1D2=6F,30C 1D4=75,30C 1D6=FC,304 1D8=FC,301 1DA=FC,30C 1DC=FC,300 1DF=E4,304",
  "1E1=227,304 1E3=E6,304 1E7=67,30C 1E9=6B,30C 1EB=6F,328 1ED=1EB,304 1EF=292,30C 1F0=6A,30C",
  "1F5=67,301 1F9=6E,300 1FB=E5,301 1FD=E6,301 1FF=F8,301 201=61,30F 203=61,311 205=65,30F",
  "207=65,311 209=69,30F 20B=69,311 20D=6F,30F 20F=6F,311 211=72,30F 213=72,311 215=75,30F",
  "217=75,311 219=73,326 21B=74,326 21F=68,30C 227=61,307 229=65,327 22B=F6,304 22D=F5,304",
  "22F=6F,307 231=22F,304 233=79,304 390=3CA,301 3AC=3B1,301 3AD=3B5,301 3AE=3B7,301 3AF=3B9,301",
  "3B0=3CB,301 3CA=3B9,308 3CB=3C5,308 3CC=3BF,301 3CD=3C5,301 3CE=3C9,301 439=438,306 450=435,300",
  "451=435,308 453=433,301 457=456,308 45C=43A,301 45D=438,300 45E=443,306 477=475,30F 4C2=436,306",
  "4D1=430,306 4D3=430,308 4D7=435,306 4DB=4D9,308 4DD=436,308 4DF=437,308 4E3=438,304 4E5=438,308",
  "4E7=43E,308 4EB=4E9,308 4ED=44D,308 4EF=443,304 4F1=443,308 4F3=443,30B 4F5=447,308 4F9=44B,308",
  "622=627,653 623=627,654 624=648,654 625=627,655 626=64A,654 6C0=6D5,654 6C2=6C1,654 6D3=6D2,654",
  "929=928,93C 931=930,93C 934=933,93C 9CB=9C7,9BE 9CC=9C7,9D7 B48=B47,B56 B4B=B47,B3E B4C=B47,B57",
  "B94=B92,BD7 BCA=BC6,BBE BCB=BC7,BBE BCC=BC6,BD7 C48=C46,C56 CC0=CBF,CD5 CC7=CC6,CD5 CC8=CC6,CD6",
  "CCA=CC6,CC2 CCB=CCA,CD5 D4A=D46,D3E D4B=D47,D3E D4C=D46,D57 DDA=DD9,DCA DDC=DD9,DCF DDD=DDC,DCA",
  "DDE=DD9,DDF 1026=1025,102E 1B06=1B05,1B35 1B08=1B07,1B35 1B0A=1B09,1B35 1B0C=1B0B,1B35",
  "1B0E=1B0D,1B35 1B12=1B11,1B35 1B3B=1B3A,1B35 1B3D=1B3C,1B35 1B40=1B3E,1B35 1B41=1B3F,1B35",
  "1B43=1B42,1B35 1E01=61,325 1E03=62,307 1E05=62,323 1E07=62,331 1E09=E7,301 1E0B=64,307",
  "1E0D=64,323 1E0F=64,331 1E11=64,327 1E13=64,32D 1E15=113,300 1E17=113,301 1E19=65,32D",
  "1E1B=65,330 1E1D=229,306 1E1F=66,307 1E21=67,304 1E23=68,307 1E25=68,323 1E27=68,308 1E29=68,327",
  "1E2B=68,32E 1E2D=69,330 1E2F=EF,301 1E31=6B,301 1E33=6B,323 1E35=6B,331 1E37=6C,323",
  "1E39=1E37,304 1E3B=6C,331 1E3D=6C,32D 1E3F=6D,301 1E41=6D,307 1E43=6D,323 1E45=6E,307",
  "1E47=6E,323 1E49=6E,331 1E4B=6E,32D 1E4D=F5,301 1E4F=F5,308 1E51=14D,300 1E53=14D,301",
  "1E55=70,301 1E57=70,307 1E59=72,307 1E5B=72,323 1E5D=1E5B,304 1E5F=72,331 1E61=73,307",
  "1E63=73,323 1E65=15B,307 1E67=161,307 1E69=1E63,307 1E6B=74,307 1E6D=74,323 1E6F=74,331",
  "1E71=74,32D 1E73=75,324 1E75=75,330 1E77=75,32D 1E79=169,301 1E7B=16B,308 1E7D=76,303",
  "1E7F=76,323 1E81=77,300 1E83=77,301 1E85=77,308 1E87=77,307 1E89=77,323 1E8B=78,307 1E8D=78,308",
  "1E8F=79,307 1E91=7A,302 1E93=7A,323 1E95=7A,331 1E96=68,331 1E97=74,308 1E98=77,30A 1E99=79,30A",
  "1EA1=61,323 1EA3=61,309 1EA5=E2,301 1EA7=E2,300 1EA9=E2,309 1EAB=E2,303 1EAD=1EA1,302",
  "1EAF=103,301 1EB1=103,300 1EB3=103,309 1EB5=103,303 1EB7=1EA1,306 1EB9=65,323 1EBB=65,309",
  "1EBD=65,303 1EBF=EA,301 1EC1=EA,300 1EC3=EA,309 1EC5=EA,303 1EC7=1EB9,302 1EC9=69,309",
  "1ECB=69,323 1ECD=6F,323 1ECF=6F,309 1ED1=F4,301 1ED3=F4,300 1ED5=F4,309 1ED7=F4,303",
  "1ED9=1ECD,302 1EDB=1A1,301 1EDD=1A1,300 1EDF=1A1,309 1EE1=1A1,303 1EE3=1A1,323 1EE5=75,323",
  "1EE7=75,309 1EE9=1B0,301 1EEB=1B0,300 1EED=1B0,309 1EEF=1B0,303 1EF1=1B0,323 1EF3=79,300",
  "1EF5=79,323 1EF7=79,309 1EF9=79,303 1F00=3B1,313 1F01=3B1,314 1F02=1F00,300 1F03=1F01,300",
  "1F04=1F00,301 1F05=1F01,301 1F06=1F00,342 1F07=1F01,342 1F10=3B5,313 1F11=3B5,314 1F12=1F10,300",
  "1F13=1F11,300 1F14=1F10,301 1F15=1F11,301 1F20=3B7,313 1F21=3B7,314 1F22=1F20,300 1F23=1F21,300",
  "1F24=1F20,301 1F25=1F21,301 1F26=1F20,342 1F27=1F21,342 1F30=3B9,313 1F31=3B9,314 1F32=1F30,300",
  "1F33=1F31,300 1F34=1F30,301 1F35=1F31,301 1F36=1F30,342 1F37=1F31,342 1F40=3BF,313 1F41=3BF,314",
  "1F42=1F40,300 1F43=1F41,300 1F44=1F40,301 1F45=1F41,301 1F50=3C5,313 1F51=3C5,314 1F52=1F50,300",
  "1F53=1F51,300 1F54=1F50,301 1F55=1F51,301 1F56=1F50,342 1F57=1F51,342 1F60=3C9,313 1F61=3C9,314",
  "1F62=1F60,300 1F63=1F61,300 1F64=1F60,301 1F65=1F61,301 1F66=1F60,342 1F67=1F61,342 1F70=3B1,300",
  "1F72=3B5,300 1F74=3B7,300 1F76=3B9,300 1F78=3BF,300 1F7A=3C5,300 1F7C=3C9,300 1FB0=3B1,306",
  "1FB1=3B1,304 1FB6=3B1,342 1FC6=3B7,342 1FD0=3B9,306 1FD1=3B9,304 1FD2=3CA,300 1FD6=3B9,342",
  "1FD7=3CA,342 1FE0=3C5,306 1FE1=3C5,304 1FE2=3CB,300 1FE4=3C1,313 1FE5=3C1,314 1FE6=3C5,342",
  "1FE7=3CB,342 1FF6=3C9,342 219A=2190,338 219B=2192,338 21AE=2194,338 21CD=21D0,338 21CE=21D4,338",
  "21CF=21D2,338 2204=2203,338 2209=2208,338 220C=220B,338 2224=2223,338 2226=2225,338",
  "2241=223C,338 2244=2243,338 2247=2245,338 2249=2248,338 2260=3D,338 2262=2261,338 226D=224D,338",
  "226E=3C,338 226F=3E,338 2270=2264,338 2271=2265,338 2274=2272,338 2275=2273,338 2278=2276,338",
  "2279=2277,338 2280=227A,338 2281=227B,338 2284=2282,338 2285=2283,338 2288=2286,338",
  "2289=2287,338 22AC=22A2,338 22AD=22A8,338 22AE=22A9,338 22AF=22AB,338 22E0=227C,338",
  "22E1=227D,338 22E2=2291,338 22E3=2292,338 22EA=22B2,338 22EB=22B3,338 22EC=22B4,338",
  "22ED=22B5,338 304C=304B,3099 304E=304D,3099 3050=304F,3099 3052=3051,3099 3054=3053,3099",
  "3056=3055,3099 3058=3057,3099 305A=3059,3099 305C=305B,3099 305E=305D,3099 3060=305F,3099",
  "3062=3061,3099 3065=3064,3099 3067=3066,3099 3069=3068,3099 3070=306F,3099 3071=306F,309A",
  "3073=3072,3099 3074=3072,309A 3076=3075,3099 3077=3075,309A 3079=3078,3099 307A=3078,309A",
  "307C=307B,3099 307D=307B,309A 3094=3046,3099 309E=309D,3099 30AC=30AB,3099 30AE=30AD,3099",
  "30B0=30AF,3099 30B2=30B1,3099 30B4=30B3,3099 30B6=30B5,3099 30B8=30B7,3099 30BA=30B9,3099",
  "30BC=30BB,3099 30BE=30BD,3099 30C0=30BF,3099 30C2=30C1,3099 30C5=30C4,3099 30C7=30C6,3099",
  "30C9=30C8,3099 30D0=30CF,3099 30D1=30CF,309A 30D3=30D2,3099 30D4=30D2,309A 30D6=30D5,3099",
  "30D7=30D5,309A 30D9=30D8,3099 30DA=30D8,309A 30DC=30DB,3099 30DD=30DB,309A 30F4=30A6,3099",
  "30F7=30EF,3099 30F8=30F0,3099 30F9=30F1,3099 30FA=30F2,3099 30FE=30FD,3099 105C9=105D2,307",
  "105E4=105DA,307 1109A=11099,110BA 1109C=1109B,110BA 110AB=110A5,110BA 1112E=11131,11127",
  "1112F=11132,11127 1134B=11347,1133E 1134C=11347,11357 11383=11382,113C9 11385=11384,113BB",
  "1138E=1138B,113C2 11391=11390,113C9 113C5=113C2,113C2 113C7=113C2,113B8 113C8=113C2,113C9",
  "114BB=114B9,114BA 114BC=114B9,114B0 114BE=114B9,114BD 115BA=115B8,115AF 115BB=115B9,115AF",
  "11938=11935,11930 16121=1611E,1611E 16122=1611E,16129 16123=1611E,1611F 16124=16129,1611F",
  "16125=1611E,16120 16126=16121,1611F 16127=16122,1611F 16128=16121,16120 16D68=16D67,16D67",
  "16D69=16D63,16D67 16D6A=16D69,16D67"]

/-- Where a mark stands around its letter; zero for what is no such mark. -/
def combiningClass (c : Char) : Nat :=
  valueAt combiningEntries c.toNat

/-- Composed characters with their two parts. -/
def compositions : List (Char × Char × Char) :=
  (entriesOf compositionLines).filterMap fun (whole, parts) =>
    match parts with
    | [first, second] => some (Char.ofNat (codeOf whole), first, second)
    | _ => none

/-! ### Korean syllables, which are composed by a rule -/

/-- The syllable of a leading consonant and a vowel, or of such a syllable and a closing
consonant. -/
def syllable? (a b : Char) : Option Char :=
  let first := a.toNat
  let second := b.toNat
  if 0x1100 ≤ first && first < 0x1113 && 0x1161 ≤ second && second < 0x1176 then
    some (Char.ofNat (0xAC00 + ((first - 0x1100) * 21 + (second - 0x1161)) * 28))
  else if 0xAC00 ≤ first && first < 0xD7A4 && (first - 0xAC00) % 28 == 0 &&
      0x11A7 < second && second < 0x11C3 then
    some (Char.ofNat (first + (second - 0x11A7)))
  else none

def syllableParts? (c : Char) : Option (Char × Char) :=
  let n := c.toNat
  if 0xAC00 ≤ n && n < 0xD7A4 then
    let index := n - 0xAC00
    if index % 28 == 0 then
      some (Char.ofNat (0x1100 + index / 588), Char.ofNat (0x1161 + index % 588 / 28))
    else some (Char.ofNat (n - index % 28), Char.ofNat (0x11A7 + index % 28))
  else none

def whole? (a b : Char) : Option Char :=
  match syllable? a b with
  | some c => some c
  | none => (compositions.find? fun (_, first, second) => first == a && second == b).map Prod.fst

def parts? (c : Char) : Option (Char × Char) :=
  match syllableParts? c with
  | some parts => some parts
  | none => compositions.lookup c

/-- A character taken apart; no character takes more than `depth` steps. -/
def takeApart : (depth : Nat) → Char → List Char
  | 0, c => [c]
  | depth + 1, c =>
    match parts? c with
    | some (first, second) => takeApart depth first ++ [second]
    | none => [c]

/-- Add a mark to marks in reverse order, before those of a higher class. -/
def insertMark (mark : Char) : List Char → List Char
  | [] => [mark]
  | other :: rest =>
    if combiningClass mark < combiningClass other then other :: insertMark mark rest
    else mark :: other :: rest

/-- A letter with marks on it, in reverse order, as text in reverse order. -/
structure Cluster where
  done : List Char := []
  letter : Option Char := none
  marks : List Char := []

namespace Cluster

def reversed (s : Cluster) : List Char :=
  s.marks ++ s.letter.toList ++ s.done

/-- Add a character to the marks in their order, or begin anew with it. -/
def arrange (s : Cluster) (c : Char) : Cluster :=
  if combiningClass c = 0 then { done := s.reversed, letter := some c }
  else { s with marks := insertMark c s.marks }

/-- Whether a mark between a letter and a character keeps them apart. -/
def isBlocked (s : Cluster) (c : Char) : Bool :=
  match s.marks with
  | [] => false
  | mark :: _ => combiningClass c ≤ combiningClass mark

/-- Add a character, to the letter if they compose. -/
def join (s : Cluster) (c : Char) : Cluster :=
  match s.letter.bind fun letter => if s.isBlocked c then none else whole? letter c with
  | some whole => { s with letter := some whole }
  | none =>
    if combiningClass c = 0 then { done := s.reversed, letter := some c }
    else { s with marks := c :: s.marks }

end Cluster

def compose (text : List Char) : List Char :=
  if text.all (·.toNat < 128) then text
  else
    let apart := text.flatMap (takeApart 4)
    let arranged := (apart.foldl Cluster.arrange {}).reversed.reverse
    (arranged.foldl Cluster.join {}).reversed.reverse

end PluginRecovery.Domain
