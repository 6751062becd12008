/-!
# Kana that hardly follow each other

Each kana has a number, whose bits tell which kana hardly follow it.
-/
namespace RowRecipe.Encoding.Table

def rareKana : Array Nat := #[
  0x3FF77FFFFFF7FFFFFFFF7, 0x120549249080000000154, 0x3FFFFFFFFFFFBFFFFFFFB,
  0x1A0540248000000000155, 0x7FFFFFFFFFFFFFFFFFFFF, 0x20540241000000000155,
  0x7FFFFFFFFFFFBFFFFFFFF, 0x120541A49001200000155, 0x7FFFFFFFFFF7FFFFFFFFF,
  0x1A0541389080000000055, 0x1A0540041000000000154, 0x120540200000200020155,
  0x20001240000000000151, 0x120009F6F10102802B355, 0x120540040080000000155,
  0x1A07D1A79182008ABA1D5, 0x1A054164100000C000154, 0x1A0741EED0102300B2115,
  0xA0540249000008000155, 0xA0D413DD98120408A1D5, 0x1A0541248000208000154,
  0x1B0741FDF89732EAA8155, 0x120001241000000000150, 0x120001BCD00122C2201D5,
  0xB0540240081100200155, 0x20540245081328220155, 0x120741ED90012280A0155,
  0x1B8751FFDD1122D82E975, 0x1A054124908300E200155, 0x124541F7D9032CEA2A155,
  0xA0540040000000000155, 0x1A0541A48080000000155, 0x28000240000008008115,
  0x1F6721FEF9385BD8BE1F5, 0x7FBFFC1B23A560AAA8BDD, 0xA0540000000000200154,
  0x4F0749EDD0C742FAA09F5, 0x120540000000200020151, 0x120540340001220000155,
  0x1A0540200080008000155, 0x12054124D081228220055, 0x120541249000000000154,
  0x3C000240001200000155, 0x13054D2CD18130E3A0155, 0x1F074124910002C0A0115,
  0xA0540040000000000155, 0x120540000000000000155, 0x1A0541B6D00320000A155,
  0x3F4FFFFFFD9723EAFABF7, 0x120249B69000020000151, 0x160251D52000220022155,
  0x3FCAFFFFFFB52BFBFABFF, 0x1A0541A69080002000145, 0x1A0741AFD80020A0881D5,
  0x3F8F7FFFFFF73FE3FBBD7, 0x12054084100022C020155, 0x1E0555EFD10120C828155,
  0x3ECFFFFFFFFDFBFFBEBF7, 0x2A05413ED0C4120002155, 0x1E0F61FEDC8322AA2B157,
  0x1EDFFFF7FD832AFEAA3D7, 0x120541349000020000154, 0x12014134D000008020155,
  0x1A0541AE90822080001D5, 0x12054137D00000C002155, 0x120540240001008000155,
  0x1A07412C1081208200154, 0x1205412C900000A0001D5, 0x3EFFFFFFDFBB2FEFF8FD7,
  0x2A0DE92C95F232880A155, 0x3EDFDF7FFD13B3BB92BD7, 0x1A074124108302A200155,
  0x130540200000000000155, 0x20000201000000000155, 0x130541009000000020155,
  0x12050126800000C020154, 0x1AC540249002008000155, 0x7FFFFFFFFFFFFFFFFFFFF,
  0x1A0541E4B000208000155, 0x3E2775FFF8194398FBFFF, 0x3FCDF1FFD91973D7EF5FF,
  0x1A0540000001000020155, 0x1A0540000000000000155]

end RowRecipe.Encoding.Table
