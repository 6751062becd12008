/-!
# Letters that often follow each other

The letters of a language are numbered from the most frequent one on. Each letter has a number,
whose bits tell which letters often follow it.
-/
namespace RowRecipe.Encoding.Table

def russianPairs : Array Nat := #[
  0x17FCDFFB, 0x1BFCDFF3, 0x1FFCFFFA, 0x1FFCDFFF, 0xC27B47F, 0x3A7DF, 0x623FFFF, 0x4A7A4DF,
  0x387BE7F, 0x10BF5FF, 0x23FF, 0x2A0DF, 0x803A7FF, 0x17BC5FF2, 0x2A19F, 0x12881EF2, 0x5088C52,
  0x3704FF2, 0x319F, 0x16BF9F, 0x1002A1DF, 0x1243E, 0x201070, 0x301E, 0x1249F, 0x31D, 0x10101060,
  0x2200F, 0xE, 0x20, 0x200F, 0x22, 0x20043, 0x10, 0x101, 0x5, 0x80, 0x2000D, 0xF, 0x20007,
  0x800005, 0x0, 0x0, 0x3, 0x5, 0x1, 0x20, 0x40, 0x0, 0x20, 0x4, 0x0, 0x0, 0x0, 0x0, 0x0, 0x0,
  0x0, 0x0, 0x0, 0x0, 0x0, 0x0]

def greekPairs : Array Nat := #[
  0xB958EFF2, 0x6A75ADF, 0x3BD9EFF2, 0x1B78FFF6, 0x35FFB7EF, 0x7B7585F, 0x1BE45F5F, 0xFEF5E3F,
  0x4A7D89F, 0x18A7533D, 0x6B7DE9F, 0x2168A7EB, 0x148A6E2, 0x0, 0xA1D8B7EF, 0x6A7D91F,
  0x200B958A7E6, 0x2002948A7EF, 0x1058A7E2, 0x24EFD6BD, 0x6A6589D, 0x15827E2, 0x6A548BF,
  0x10823E2, 0x6A61A9D, 0x100A7EE, 0x1022E2, 0xA7489F, 0x21809D, 0x2A2100F, 0x89A0, 0x80100C,
  0x4000009, 0x9C520, 0x400008D, 0x0, 0x1806, 0x114, 0x10, 0x0, 0x14, 0x1004, 0x10, 0x10001,
  0x100, 0x400020, 0x0, 0x800, 0x0, 0x80, 0x0, 0x1, 0x0, 0x2, 0x0, 0x0, 0x0, 0x0, 0x0, 0x0, 0x0,
  0x0, 0x0]

def bulgarianPairs : Array Nat := #[
  0x17FEFFF6, 0x17FAFFFF, 0x17FAFFF8, 0x17FAFFF6, 0x78BFF, 0x103D8CBF, 0x56FAFBF, 0x5BB7F,
  0x11CEFF, 0x200004F89BF, 0x45BBEF, 0x2503FF, 0x5024F, 0x7932F, 0xE3FFF, 0x1022FB0, 0xDA7FF8,
  0x8583EF, 0x45A7FF1, 0x5026F, 0x4092F, 0x7, 0x20427, 0x4000F, 0x4016B, 0x8B0, 0x827, 0x4001121F,
  0xF, 0x24D, 0x220, 0x1000D, 0x49, 0x4D, 0x7, 0xF, 0x40000F, 0xF, 0x40009, 0x4100, 0x10,
  0x100000, 0x4, 0x0, 0x0, 0x4, 0x1, 0x0, 0x0, 0x4, 0x0, 0x8, 0x0, 0x0, 0x0, 0x0, 0x0, 0x0, 0x0,
  0x0, 0x0, 0x0, 0x0]

def thaiPairs : Array Nat := #[
  0x240242BFED96, 0x10C348D603FFB, 0x818994CC3E79, 0x8409979F, 0x200201800445A6B, 0x8D8D, 0x98D,
  0x2000000922415, 0x4C452122D, 0x404400020F89F4, 0x81002639F691E, 0x40C7F7, 0x8070,
  0x820880809267, 0x4246092E9, 0x2400011AB5, 0x80012A17, 0x80C844C132F, 0x8042026B, 0x804092C0,
  0x100004437F, 0x2001F2510, 0x8202421D2DB4, 0x12884404A66, 0x100001000005202, 0x8882200207,
  0x10068, 0x4000176014, 0x2021A0004, 0x8000000249, 0x2004400207, 0x400008C01B0, 0x1082902,
  0x84400065, 0x1004070, 0x900404, 0x2010004, 0x0, 0x400004020, 0xF0, 0x1084004, 0x8000000001,
  0x10102000200001, 0x8400000041, 0x2201, 0x40000000001, 0x400000000001, 0x2000401000, 0x1, 0x0,
  0x8000000000, 0x40010000, 0x2000000000, 0x0, 0x4, 0x0, 0x400000, 0x0, 0x800000000000000, 0x0,
  0x0, 0x0, 0x0]

def turkishPairs : Array Nat := #[
  0xD7DB2FEC, 0xD79B2FED, 0x609BFDF, 0x308BF9B, 0x14120FEC, 0x868BBFFF, 0x101BBDB, 0x288BBFB,
  0x18010BBFB, 0x14201B43F, 0x10000B43B, 0x588BC5B, 0x559B0FEC, 0x57593FEC, 0x10000B033,
  0x95120BEC, 0x209B, 0x199B, 0xB043, 0x10000B86B, 0x6001E1F, 0x500A07EC, 0x403, 0x38A3, 0x8032FB,
  0x10080B033, 0x80B113, 0x400000003EC, 0x903B, 0x80B001, 0x102B, 0xA91B, 0x1110036C, 0xB083,
  0x100008023, 0x3003, 0x2, 0x8A023, 0x1000, 0x8002004C, 0x40000E8, 0x1011, 0x3001, 0x8001,
  0x2003, 0x3003, 0x2023, 0x2, 0x100000, 0x48, 0x1003, 0x0, 0x0, 0x4, 0x0, 0x0, 0x0, 0x0, 0x0,
  0x0, 0x0, 0x0, 0x0]

def hebrewPairs : Array Nat := #[
  0x7FFFFFF, 0x40FFFFFFF, 0x40FFFFFF, 0x21BFFFFF, 0x4B7FFF, 0xFFFFFF, 0x5FFFFFF, 0x8FFFBFF,
  0x3FFEEFF, 0x20012BFFFF, 0x0, 0xFFFFFF, 0xBD8EFF, 0x958EFF, 0xBC6EFFF, 0xB9FFF, 0x36BBFF,
  0x7D7B5F, 0x22BF8FF, 0xC09EFF, 0x3B9FF, 0xA39DF, 0x0, 0x1416F, 0x0, 0x0, 0x0, 0x170000000, 0x4,
  0x0, 0x1, 0x0, 0x1, 0x0, 0x0, 0x0, 0x1, 0x0, 0x0, 0x0, 0x0, 0x0, 0x0, 0x0, 0x0, 0x0, 0x0, 0x0,
  0x0, 0x0, 0x0, 0x0, 0x0, 0x0, 0x0, 0x0, 0x0, 0x0, 0x0, 0x0, 0x0, 0x0, 0x0]

end RowRecipe.Encoding.Table
