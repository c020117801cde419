import PluginRecovery.Text.Bounds

/-!
What the characters of host names do to their neighbours: in which direction they run, how they join
in cursive writing, and whether they are marks.
-/

set_option autoImplicit false
set_option relaxedAutoImplicit false

namespace PluginRecovery.Domain

open PluginRecovery.Text

inductive Direction where
  | leftToRight
  | rightToLeft
  | arabicNumber
  | number
  | neutral
  /-- As the character before it. -/
  | mark
  deriving DecidableEq, Repr

/-- On which sides a character joins others in cursive writing. -/
inductive Joining where
  | none
  /-- The characters around it join as if it were not there. -/
  | transparent
  | both
  | right
  | left
  | causing
  deriving DecidableEq, Repr

/-- What a character does to its neighbours. -/
structure Trait where
  direction : Direction
  isMark : Bool
  joining : Joining
  deriving DecidableEq, Repr

/-- Where, beyond ASCII, the traits of characters change. The second last digit is the direction, the
last one the joining, with eight added for marks. -/
def traitEntries : Array Nat := #[
  0xA140, 0xDF00, 0xF740, 0xF800, 0x2B940, 0x2BB00, 0x2C240, 0x2D000, 0x2D240, 0x2EE00, 0x2EF40,
  0x30059, 0x37100, 0x37540, 0x37700, 0x3F640, 0x3F800, 0x48359, 0x48B00, 0x58A40, 0x59159, 0x5BE10,
  0x5BF59, 0x5C010, 0x5C159, 0x5C310, 0x5C459, 0x5C610, 0x5C759, 0x5D010, 0x60640, 0x60810, 0x60940,
  0x60B10, 0x60C40, 0x60D10, 0x60E40, 0x61059, 0x61B10, 0x62012, 0x62110, 0x62213, 0x62612, 0x62713,
  0x62812, 0x62913, 0x62A12, 0x62F13, 0x63312, 0x64015, 0x64112, 0x64813, 0x64912, 0x64B59, 0x66020,
  0x66A40, 0x66B20, 0x66D10, 0x66E12, 0x67059, 0x67113, 0x67410, 0x67912, 0x68813, 0x69A12, 0x6C013,
  0x6C112, 0x6C313, 0x6CC12, 0x6CD13, 0x6CE12, 0x6CF13, 0x6D012, 0x6D213, 0x6D410, 0x6D513, 0x6D659,
  0x6DE40, 0x6DF59, 0x6E510, 0x6E759, 0x6E940, 0x6EA59, 0x6EE13, 0x6F030, 0x6FA12, 0x6FD10, 0x6FF12,
  0x70010, 0x71013, 0x71159, 0x71212, 0x71513, 0x71A12, 0x71E13, 0x71F12, 0x72813, 0x72912, 0x72A13,
  0x72B12, 0x72C13, 0x72D12, 0x72F13, 0x73059, 0x74D13, 0x74E12, 0x75913, 0x75C12, 0x76B13, 0x76D12,
  0x77113, 0x77212, 0x77313, 0x77512, 0x77813, 0x77A12, 0x78010, 0x7A659, 0x7B110, 0x7CA12, 0x7EB59,
  0x7F410, 0x7F640, 0x7FA15, 0x7FD59, 0x7FE10, 0x81659, 0x81A10, 0x81B59, 0x82410, 0x82559, 0x82810,
  0x82959, 0x83010, 0x84013, 0x84112, 0x84613, 0x84812, 0x84913, 0x84A12, 0x85413, 0x85512, 0x85613,
  0x85959, 0x85E10, 0x86012, 0x86110, 0x86212, 0x86610, 0x86713, 0x86812, 0x86913, 0x88315, 0x88612,
  0x88710, 0x88912, 0x88E13, 0x88F10, 0x89718, 0x89859, 0x8A012, 0x8AA13, 0x8AD10, 0x8AE13, 0x8AF12,
  0x8B113, 0x8B312, 0x8B913, 0x8BA12, 0x8C910, 0x8CA59, 0x90308, 0x90400, 0x93A59, 0x93B08, 0x93C59,
  0x93D00, 0x93E08, 0x94159, 0x94908, 0x94D59, 0x94E08, 0x95000, 0x95159, 0x96000, 0x96259, 0x96400,
  0x98159, 0x98208, 0x98500, 0x9BC59, 0x9BD00, 0x9BE08, 0x9C159, 0x9C708, 0x9CD59, 0x9CE00, 0x9D708,
  0x9E000, 0x9E259, 0x9E600, 0x9F240, 0x9F400, 0x9FB40, 0x9FC00, 0x9FE59, 0xA0308, 0xA0500, 0xA3C59,
  0xA3E08, 0xA4159, 0xA5C00, 0xA7059, 0xA7200, 0xA7559, 0xA7600, 0xA8159, 0xA8308, 0xA8500, 0xABC59,
  0xABD00, 0xABE08, 0xAC159, 0xAC908, 0xACD59, 0xAD000, 0xAE259, 0xAE600, 0xAF140, 0xAF900, 0xAFA59,
  0xB0208, 0xB0500, 0xB3C59, 0xB3D00, 0xB3E08, 0xB3F59, 0xB4008, 0xB4159, 0xB4708, 0xB4D59, 0xB5708,
  0xB5F00, 0xB6259, 0xB6600, 0xB8259, 0xB8300, 0xBBE08, 0xBC059, 0xBC108, 0xBCD59, 0xBD000, 0xBD708,
  0xBE600, 0xBF340, 0xC0059, 0xC0108, 0xC0459, 0xC0500, 0xC3C59, 0xC3D00, 0xC3E59, 0xC4108, 0xC4659,
  0xC5800, 0xC6259, 0xC6600, 0xC7840, 0xC7F00, 0xC8159, 0xC8208, 0xC8400, 0xCBC59, 0xCBD00, 0xCBE08,
  0xCBF09, 0xCC008, 0xCC609, 0xCC708, 0xCCC59, 0xCD508, 0xCDC00, 0xCE259, 0xCE600, 0xCF308, 0xD0059,
  0xD0208, 0xD0400, 0xD3B59, 0xD3D00, 0xD3E08, 0xD4159, 0xD4608, 0xD4D59, 0xD4E00, 0xD5708, 0xD5800,
  0xD6259, 0xD6600, 0xD8159, 0xD8208, 0xD8500, 0xDCA59, 0xDCF08, 0xDD259, 0xDD808, 0xDE600, 0xDF208,
  0xDF400, 0xE3159, 0xE3200, 0xE3459, 0xE3F40, 0xE4000, 0xE4759, 0xE4F00, 0xEB159, 0xEB200, 0xEB459,
  0xEBD00, 0xEC859, 0xED000, 0xF1859, 0xF1A00, 0xF3559, 0xF3600, 0xF3759, 0xF3800, 0xF3959, 0xF3A40,
  0xF3E08, 0xF4000, 0xF7159, 0xF7F08, 0xF8059, 0xF8500, 0xF8659, 0xF8800, 0xF8D59, 0xFBE00, 0xFC659,
  0xFC700, 0x102B08, 0x102D59, 0x103108, 0x103259, 0x103808, 0x103959, 0x103B08, 0x103D59, 0x103F00,
  0x105608, 0x105859, 0x105A00, 0x105E59, 0x106100, 0x106208, 0x106500, 0x106708, 0x106E00,
  0x107159, 0x107500, 0x108259, 0x108308, 0x108559, 0x108708, 0x108D59, 0x108E00, 0x108F08,
  0x109000, 0x109A08, 0x109D59, 0x109E00, 0x135D59, 0x136000, 0x139040, 0x13A000, 0x140040,
  0x140100, 0x169B40, 0x16A000, 0x171259, 0x171508, 0x171F00, 0x173259, 0x173408, 0x173500,
  0x175259, 0x176000, 0x177259, 0x178000, 0x17B608, 0x17B759, 0x17BE08, 0x17C659, 0x17C708,
  0x17C959, 0x17D400, 0x17DB40, 0x17DC00, 0x17DD59, 0x17E000, 0x17F040, 0x180742, 0x180840,
  0x180A45, 0x181000, 0x182002, 0x188000, 0x188559, 0x188702, 0x18A959, 0x18AA02, 0x18B000,
  0x192059, 0x192308, 0x192759, 0x192908, 0x193259, 0x193308, 0x193959, 0x194040, 0x194600,
  0x19DE40, 0x1A0000, 0x1A1759, 0x1A1908, 0x1A1B59, 0x1A1E00, 0x1A5508, 0x1A5659, 0x1A5708,
  0x1A5859, 0x1A6108, 0x1A6259, 0x1A6308, 0x1A6559, 0x1A6D08, 0x1A7359, 0x1A8000, 0x1AB059,
  0x1ACF08, 0x1B0059, 0x1B0408, 0x1B0500, 0x1B3459, 0x1B3508, 0x1B3659, 0x1B3B08, 0x1B3C59,
  0x1B3D08, 0x1B4259, 0x1B4308, 0x1B4500, 0x1B6B59, 0x1B7400, 0x1B8059, 0x1B8208, 0x1B8300,
  0x1BA108, 0x1BA259, 0x1BA608, 0x1BA859, 0x1BAA08, 0x1BAB59, 0x1BAE00, 0x1BE659, 0x1BE708,
  0x1BE859, 0x1BEA08, 0x1BED59, 0x1BEE08, 0x1BEF59, 0x1BF208, 0x1BFC00, 0x1C2408, 0x1C2C59,
  0x1C3408, 0x1C3659, 0x1C3B00, 0x1CD059, 0x1CD300, 0x1CD459, 0x1CE108, 0x1CE259, 0x1CE900,
  0x1CED59, 0x1CEE00, 0x1CF459, 0x1CF500, 0x1CF708, 0x1CF859, 0x1CFA00, 0x1DC059, 0x1E0100,
  0x200C40, 0x200D45, 0x201040, 0x20D059, 0x210440, 0x214E00, 0x218A40, 0x233600, 0x237B40,
  0x239500, 0x239640, 0x242700, 0x244040, 0x26AC00, 0x26AD40, 0x280000, 0x290040, 0x2B9600,
  0x2B9740, 0x2C3000, 0x2CE540, 0x2CEC00, 0x2CEF59, 0x2CF300, 0x2CF940, 0x2D0000, 0x2D7F59,
  0x2D8000, 0x2DE059, 0x2E0040, 0x300500, 0x300840, 0x302100, 0x302A59, 0x302E08, 0x303040,
  0x303100, 0x303740, 0x303B00, 0x303D40, 0x304100, 0x309959, 0x309D00, 0x30A040, 0x30A100,
  0x30FB40, 0x30FC00, 0x31C040, 0x31E400, 0x4DC040, 0x4E0000, 0xA49040, 0xA4D000, 0xA60D40,
  0xA61000, 0xA66F59, 0xA67340, 0xA67459, 0xA67E40, 0xA68100, 0xA69E59, 0xA6A000, 0xA6F059,
  0xA6F200, 0xA70040, 0xA72300, 0xA78840, 0xA78900, 0xA80259, 0xA80300, 0xA80659, 0xA80700,
  0xA80B59, 0xA80C00, 0xA82308, 0xA82559, 0xA82708, 0xA82840, 0xA82C59, 0xA83000, 0xA83840,
  0xA84002, 0xA87204, 0xA87300, 0xA87440, 0xA88008, 0xA88200, 0xA8B408, 0xA8C459, 0xA8CE00,
  0xA8E059, 0xA8F200, 0xA8FF59, 0xA90000, 0xA92659, 0xA92E00, 0xA94759, 0xA95208, 0xA95F00,
  0xA98059, 0xA98308, 0xA98400, 0xA9B359, 0xA9B408, 0xA9B659, 0xA9BA08, 0xA9BC59, 0xA9BE08,
  0xA9C100, 0xA9E559, 0xA9E600, 0xAA2959, 0xAA2F08, 0xAA3159, 0xAA3308, 0xAA3559, 0xAA4000,
  0xAA4359, 0xAA4400, 0xAA4C59, 0xAA4D08, 0xAA5000, 0xAA7B08, 0xAA7C59, 0xAA7D08, 0xAA7E00,
  0xAAB059, 0xAAB100, 0xAAB259, 0xAAB500, 0xAAB759, 0xAAB900, 0xAABE59, 0xAAC000, 0xAAC159,
  0xAAC200, 0xAAEB08, 0xAAEC59, 0xAAEE08, 0xAAF000, 0xAAF508, 0xAAF659, 0xAB0100, 0xAB6A40,
  0xABC000, 0xABE308, 0xABE559, 0xABE608, 0xABE859, 0xABE908, 0xABEB00, 0xABEC08, 0xABED59,
  0xABF000, 0xFB1E59, 0xFBB210, 0xFD3E40, 0xFD9010, 0xFDCF40, 0xFE2059, 0xFE4540, 0xFE7310,
  0x1000000, 0x1010140, 0x1010200, 0x1014040, 0x1018D00, 0x1019040, 0x101D000, 0x101FD59, 0x1028000,
  0x102E059, 0x102E130, 0x1030000, 0x1037659, 0x1038000, 0x1080010, 0x1091F40, 0x1092010, 0x10A0159,
  0x10A1010, 0x10A3859, 0x10A4010, 0x10AC012, 0x10AC513, 0x10AC610, 0x10AC713, 0x10AC810, 0x10AC913,
  0x10ACB10, 0x10ACD14, 0x10ACE13, 0x10AD312, 0x10AD714, 0x10AD812, 0x10ADD13, 0x10ADE12, 0x10AE113,
  0x10AE210, 0x10AE413, 0x10AE559, 0x10AEB12, 0x10AEF13, 0x10AF010, 0x10B3940, 0x10B4010, 0x10B8012,
  0x10B8113, 0x10B8212, 0x10B8313, 0x10B8612, 0x10B8913, 0x10B8A12, 0x10B8C13, 0x10B8D12, 0x10B8E13,
  0x10B9012, 0x10B9113, 0x10B9910, 0x10BA913, 0x10BAD12, 0x10BAF10, 0x10D0014, 0x10D0112, 0x10D2213,
  0x10D2312, 0x10D2459, 0x10D3020, 0x10D4010, 0x10D6918, 0x10D6E10, 0x10E6020, 0x10E8010, 0x10EAB59,
  0x10EAD10, 0x10EFA18, 0x10EFD59, 0x10F0010, 0x10F3012, 0x10F3313, 0x10F3412, 0x10F4510, 0x10F4659,
  0x10F5112, 0x10F5413, 0x10F5510, 0x10F7012, 0x10F7413, 0x10F7612, 0x10F8259, 0x10F8610, 0x10FB012,
  0x10FB110, 0x10FB212, 0x10FB413, 0x10FB710, 0x10FB812, 0x10FB913, 0x10FBB12, 0x10FBD13, 0x10FBE12,
  0x10FC010, 0x10FC112, 0x10FC213, 0x10FC412, 0x10FC510, 0x10FC913, 0x10FCA12, 0x10FCB14, 0x10FE010,
  0x1100008, 0x1100159, 0x1100208, 0x1100300, 0x1103859, 0x1104700, 0x1105240, 0x1106600, 0x1107059,
  0x1107100, 0x1107359, 0x1107500, 0x1107F59, 0x1108208, 0x1108300, 0x110B008, 0x110B359, 0x110B708,
  0x110B959, 0x110BB00, 0x110C259, 0x110D000, 0x1110059, 0x1110300, 0x1112759, 0x1112C08, 0x1112D59,
  0x1113600, 0x1114508, 0x1114700, 0x1117359, 0x1117400, 0x1118059, 0x1118208, 0x1118300, 0x111B308,
  0x111B659, 0x111BF08, 0x111C100, 0x111C959, 0x111CD00, 0x111CE08, 0x111CF59, 0x111D000, 0x1122C08,
  0x1122F59, 0x1123208, 0x1123459, 0x1123508, 0x1123659, 0x1123800, 0x1123E59, 0x1123F00, 0x1124159,
  0x1128000, 0x112DF59, 0x112E008, 0x112E359, 0x112F000, 0x1130059, 0x1130208, 0x1130500, 0x1133B59,
  0x1133D00, 0x1133E08, 0x1134059, 0x1134108, 0x1135000, 0x1135708, 0x1135D00, 0x1136208, 0x1136659,
  0x1138000, 0x113B808, 0x113D100, 0x113D208, 0x113D300, 0x113E108, 0x1140000, 0x1143508, 0x1143859,
  0x1144008, 0x1144259, 0x1144508, 0x1144659, 0x1144700, 0x1145E59, 0x1145F00, 0x114B008, 0x114B359,
  0x114B908, 0x114BA59, 0x114BB08, 0x114BF59, 0x114C108, 0x114C259, 0x114C400, 0x115AF08, 0x115B259,
  0x115B808, 0x115BC59, 0x115BE08, 0x115BF59, 0x115C100, 0x115DC59, 0x1160000, 0x1163008, 0x1163359,
  0x1163B08, 0x1163D59, 0x1163E08, 0x1163F59, 0x1164100, 0x1166040, 0x1168000, 0x116AB59, 0x116AC08,
  0x116AD59, 0x116AE08, 0x116B059, 0x116B608, 0x116B759, 0x116B800, 0x1171D59, 0x1172008, 0x1172259,
  0x1172608, 0x1172759, 0x1173000, 0x1182C08, 0x1182F59, 0x1183808, 0x1183959, 0x1183B00, 0x1193008,
  0x1193B59, 0x1193D08, 0x1193E59, 0x1193F00, 0x1194008, 0x1194100, 0x1194208, 0x1194359, 0x1194400,
  0x119D108, 0x119D459, 0x119DC08, 0x119E059, 0x119E100, 0x119E408, 0x11A0000, 0x11A0159, 0x11A0709,
  0x11A0959, 0x11A0B00, 0x11A3359, 0x11A3908, 0x11A3A00, 0x11A3B59, 0x11A3F00, 0x11A4759, 0x11A5000,
  0x11A5159, 0x11A5708, 0x11A5959, 0x11A5C00, 0x11A8A59, 0x11A9708, 0x11A9859, 0x11A9A00, 0x11B6008,
  0x11BC000, 0x11C2F08, 0x11C3059, 0x11C3E08, 0x11C3F09, 0x11C4000, 0x11C9259, 0x11CA908, 0x11CAA59,
  0x11CB108, 0x11CB259, 0x11CB408, 0x11CB559, 0x11D0000, 0x11D3159, 0x11D4600, 0x11D4759, 0x11D5000,
  0x11D8A08, 0x11D9059, 0x11D9308, 0x11D9559, 0x11D9608, 0x11D9759, 0x11D9800, 0x11EF359, 0x11EF508,
  0x11EF700, 0x11F0059, 0x11F0200, 0x11F0308, 0x11F0400, 0x11F3408, 0x11F3659, 0x11F3E08, 0x11F4059,
  0x11F4108, 0x11F4259, 0x11F4300, 0x11F5A08, 0x11FB000, 0x11FD540, 0x11FFF00, 0x1344059, 0x1344100,
  0x1344759, 0x1346000, 0x1611E08, 0x1613000, 0x16AF059, 0x16AF500, 0x16B3059, 0x16B3700, 0x16F4F59,
  0x16F5000, 0x16F5108, 0x16F8F59, 0x16F9300, 0x16FE240, 0x16FE300, 0x16FE459, 0x16FF008, 0x16FF200,
  0x1BC9D59, 0x1BC9F00, 0x1CF0059, 0x1CF5000, 0x1D16508, 0x1D16759, 0x1D16A00, 0x1D16D08, 0x1D17B59,
  0x1D18300, 0x1D18559, 0x1D18C00, 0x1D1AA59, 0x1D1AE00, 0x1D1E940, 0x1D24259, 0x1D24540, 0x1D2C000,
  0x1D30040, 0x1D36000, 0x1DA0059, 0x1DA3700, 0x1DA3B59, 0x1DA6D00, 0x1DA7559, 0x1DA7600, 0x1DA8459,
  0x1DA8500, 0x1DA9B59, 0x1DF0000, 0x1E00059, 0x1E10000, 0x1E13059, 0x1E13700, 0x1E2AE59, 0x1E2C000,
  0x1E2EC59, 0x1E2F000, 0x1E2FF40, 0x1E4D000, 0x1E4EC59, 0x1E4F000, 0x1E5EE08, 0x1E5F000, 0x1E6E308,
  0x1E6E400, 0x1E6E608, 0x1E6E700, 0x1E6EE08, 0x1E6F000, 0x1E6F508, 0x1E6FE00, 0x1E80010, 0x1E8D059,
  0x1E92212, 0x1E94459, 0x1E94B11, 0x1E95010, 0x1EEF040, 0x1F15000, 0x1F16D40, 0x1F17000, 0x1F1AD40,
  0x1F1E600, 0x1F26040, 0x1F6D800, 0x1F6DC40, 0x1F77700, 0x1F77B40, 0x1F8B200, 0x1F90040, 0x1FA5400,
  0x1FA6040, 0x1FA8900, 0x1FA9040, 0x1FABE00, 0x1FABF40, 0x1FAC600, 0x1FACE40, 0x1FADC00, 0x1FAE040,
  0x1FAE900, 0x1FAF040, 0x1FBCB00]

/-- The trait that a number from the table stands for. -/
def Trait.ofCode (code : Nat) : Trait where
  direction := match code / 16 with
    | 0 => .leftToRight
    | 1 => .rightToLeft
    | 2 => .arabicNumber
    | 3 => .number
    | 4 => .neutral
    | _ => .mark
  isMark := code % 16 / 8 == 1
  joining := match code % 8 with
    | 0 => .none
    | 1 => .transparent
    | 2 => .both
    | 3 => .right
    | 4 => .left
    | _ => .causing

def traitOf (c : Char) : Trait :=
  if c.toNat < 128 then
    ⟨if c.isAlpha then .leftToRight else if c.isDigit then .number else .neutral, false, .none⟩
  else .ofCode (valueAt traitEntries c.toNat)

end PluginRecovery.Domain
