import RowRecipe.Text.CodeSet

/-!
# Frequent characters

The characters of large sets stand in tables of rows and columns. Each set lists the places of the
512 characters that are most frequent in texts.
-/
namespace RowRecipe.Encoding.Table

open Text (CodeSet)

def frequentBig5 : CodeSet := .read [
  "0 3 5-8 A-B F 11 13-15 17 1D 24 26 28 2A-2C 30 33 35-37 3E 41-42 45 4B 4E 52-53 56 58-59 5B 5E",
  "64 6B-6D 6F 71 74 7C-7D 80 82-83 86-87 89 8F 92 97 9D 9F A1 A5 A9 AB B5 B8-BA BC C1 C5-C6 CE",
  "D1-D2 D5 D9 DB DD E1 E6 E8 ED EF F6-F7 FA FC 108-109 10C 110 113 117 11A 121 12E-12F 132-133",
  "135 138-13B 14A 14F-153 157-158 15B-15C 162 168-16A 16D 171 178-179 180 184-185 18B 190-192",
  "1A2 1A9-1AB 1B3-1B4 1BA 1BE 1C0 1C4-1C5 1CB 1D5 1D7-1D8 1DA 1E1 1E6 1E8 1EC 1F0 200 22E 232",
  "243 24B 24F 253 257 260 264 268 26A 276-278 281 287 29F 2A7-2A8 2B0 2B5 2B7 2BD 2BF-2C0 2CC",
  "2D5 2D8-2DA 2E1 2E3 2E5 2F2 2F4-2F6 2FE 300 305 30C 30E 31E 323 336 33D 348 361 368 379 37D",
  "37F 381 3A0 3A2 3A5 3A9 3AF 3B4-3B5 3BA 3D9 3E4 3F7 406 409-40A 40C 411 418 41D 42D 439 43D",
  "443-445 44F 453 456 45A 470 473 479-47A 489 495 4AD 4B1 4C0-4C1 4C5 4CA 4E2 4E5 4EE 4F7-4F8",
  "50C 519 521 527 536 54F 561 563 569 572 57F 582 5A3 5B3 5B5 5BD 5CE 5D4 5D8 5DA-5DB 5DD-5DE",
  "5EF 5F6-5F7 60F 61E 643 647 64B 658 684 686 689 691 695 697 6A6 6B0 6B8 6BC 6D2 6E5 6F4 708",
  "715 73D 745 76B 770 77B 790 798 79D 7A2 7A4 7AF 7C2 7C4 7C9 7CB 7CD 7D7 7E4 7EC 806-807",
  "819-81A 822-823 828 82A 833 838 84C 857 85D 867 87D 88F 8A3 8B6 8CC 8CF-8D1 8D7 8E7-8E8 8F0",
  "8F8 902 909 935 941 944 94A 94F-950 962 964 966-967 96C 972 974 980-981 997 99D 9A1 9B0 9B7",
  "9C6 9C9 9DE 9E8 A11 A23 A2D A2F A79-A7A A92 A9C AA8 AB0 ABD AC4 AE3 AE6 B03 B12 B19 B1C B33",
  "B3B B47 B49 B58 B5D B5F B6F B84 BB5 BB7-BB9 BDA BE3 BE5 C0C C18 C32 C59 C64 C6B C75 C85 C9B",
  "CAD-CAE CB3 CB5 CB7 CBE CCC CD6 CDD CE3-CE5 CE7 CED D12 D18 D32 D4D-D4E D51 D69 D6E DB2 DBD",
  "DF4 DFA E07 E10 E2A-E2B E2D E4E E56 E5A E6D E70 E93 E96 EAB EB2 ECF EEB-EEC EEE-EEF F1C F21",
  "F26 F2C F4C F8A FC3 FC8 FCA FDB 1049 1057 1059 1064 106A 1073 1087 10F8 1119 111C 1127 1145",
  "117D 11A3 11B1 11BC 11BE 11E9 11F7 11F9 1205 1230 1240 126F 12E4 12E9 1307 1373 1385 1397 1399",
  "139F 13EF 13F1 13F3 1410 1430 1473-1474 1480 14B7 14BE 14C4 14D8 14F1 14F5"]

/-- Frequent characters of KS X 1001, without the rows of signs. -/
def frequentKorean : CodeSet := .read [
  "0-2 4 7 9 C-D F 12 1A 24 26 28 2A-2C 33 39 3B-3C 3E 40 45 47 4C 56-57 59 5B 70 75-77 84 91 94",
  "96 98 9A-9B 9F A1 A3 AB CD DB DE F4 11A 123 126 128 12B 134 136-137 13D 142-143 147 14A",
  "14F-150 156 15B 164 166 16D-16E 180-181 184 191 197 199 1A0 1A6-1A8 1B0 1B3 1B5 1BA-1BB 1BE",
  "1C2 1CC 1CF 1DA 1DE 1EA-1EB 1EE 1F4 1FC-1FE 200 203 206 20F 211 217 21A 21C 21E 222-223 225",
  "22E 230 23A 243 245 24E 25A-25B 279 286-288 28A-28B 292-294 296 29C 29F-2A2 2A4-2A5 2A9-2AB",
  "2B2-2B5 2BA 2BF-2C4 2D2 2D8 2DD 2EA 2F2 2F4-2F6 2FD-302 304-308 30A 311 314 316 31A 322",
  "324-325 32D 336 338 33C-33D 33F-340 342 347 358 35B 35D 374 379 37D 383-384 386-388 38A-38C",
  "393 395-396 3A3 3A5 3A9-3AA 3AE 3B0 3B2 3B9-3BB 3BF 3C3-3C4 3C6-3C7 3D9 3DB 3DD 3E4 3F5 3F8",
  "3FC 407 43C 450-451 453 455 45C 45E-45F 466 474-475 478 47A 481 483-485 489 48E 499-49A",
  "49C-49D 4A2 4BD 4BF 4C1 4C4 4CE 4D1 4D6 4DF 4E2 4E5-4E6 4E8-4EA 4EC 4EE-4EF 4F2 506 535",
  "537-538 542 549 54B 54D-54E 552-553 555 558-55A 562-563 56A 571-573 575-576 579-57D 582 584",
  "58A-58B 58D-58E 595-596 59A 5A1 5A3-5A4 5A6 5AA 5AE 5B0 5B3 5B5 5B7 5BD 5C5 5CC-5D0 5D3",
  "5D7-5DA 5DF 5E4 5E6 5E8 5EE 5F1 5F7 5F9-5FA 5FC 5FF 606 60B-60F 612-613 615 619-61A 61E",
  "620-621 624 626 639-63C 63E-63F 641 643-644 64B-64C 650 653-655 658 65B 65E 66F 673 675-676",
  "67A 67C 68B-68C 68F 692-695 697 69A 6A0 6AB 6C5 6F2 6F4 6F7 6FB-6FE 70C 70E 712 714-715 71D",
  "723 72F 738-739 73B 73F 744 751 758-75A 75E-75F 762 76A 776 778 77A-77B 780 786 788 791",
  "793-794 7BA 7BE 7C0-7C2 7C5 7C7-7C8 7CB-7CD 7D3 7D7-7D8 7E2 7E4 7EC-7ED 7EF-7F0 7F9 7FC 800",
  "80A 80D 821-823 825 82F 831-832 836-837 83A 843 84E 857 85F-860 865 86A 86C-86D 876 87F 881",
  "88C 892 894 898-899 89B 89F-8A3 8A5-8A6 8A8-8A9 8AB 8AF-8B1 8B3-8B4 8B9 8BD 8C5 8C7 8CD",
  "8D2-8D3 8D7 8DC-8DF 8E1 8E7 8EE 8F3 926"]

/-- Frequent characters of CNS 11643, without the rows of signs. -/
def frequentTaiwanese : CodeSet := .read [
  "0 3 5-8 A-B F 11 13-15 17 1D 24 26 28 2A-2C 30 33 35-37 3E 41-42 45 4B 4E 52-53 56 58-59 5B 5E",
  "64 6B-6D 6F 71 74 7C-7D 80 82-83 86-87 89 8F 92 97 9D 9F A1 A5 A9 AB B5 B8-BA BC C1 C5-C6 CE",
  "D1-D2 D5 D9 DB DD E1 E6 E8 ED EF F6-F7 FA FC 108-109 10C 110 113 117 11A 121 12E-12F 132-133",
  "135 138-13B 14A 14F-153 157-158 15B-15C 162 168-16A 16D 171 178-179 180 184-185 18B 190-192",
  "1A2 1A9-1AB 1B3-1B4 1BA 1BE 1C0 1C4-1C5 1CB 1D5 1D7-1D8 1DA 1E1 1E6 1E8 1EC 1F0 200 22E 232",
  "243 24B 24F 253 257 260 264 268 26A 276-278 281 287 29F 2A7-2A8 2B0 2B5 2B7 2BD 2BF-2C0 2CC",
  "2D5 2D8-2DA 2E1 2E3 2E5 2F2 2F4-2F6 2FE 300 305 30C 30E 31E 323 336 33D 348 361 368 379 37D",
  "37F 381 3A0 3A2 3A5 3A9 3AF 3B4-3B5 3BA 3D9 3E4 3F7 406 409-40A 40C 411 418 41D 42D 439 43D",
  "443-445 44F 453 456 45A 470 473 479-47A 489 495 4AD 4B1 4C0-4C1 4C5 4CA 4E2 4E5 4EE 4F7-4F8",
  "50C 519 521 527 536 54F 561 563 569 572 57F 582 5A2 5B2 5B4 5BC 5CD 5D3 5D7 5D9-5DA 5DC-5DD",
  "5EE 5F5-5F6 60E 61D 642 646 64A 657 683 685 688 690 694 696 6A5 6AF 6B7 6BB 6D1 6E4 6F3 707",
  "714 73D 745 76B 770 77B 790 798 79D 7A2 7A4 7AF 7C2 7C4 7C9 7CB 7CD 7D7 7E4 7EC 806-807",
  "819-81A 822-823 828 82A 833 838 84C 857 85D 867 87D 88F 8A3 8B6 8CC 8CF-8D1 8D7 8E7-8E8 8F0",
  "8F8 902 909 935 941 944 94A 94F-950 962 964 966-967 96C 972 974 980-981 997 99D 9A1 9B0 9B7",
  "9C6 9C9 9DE 9E8 A11 A23 A2D A2F A79-A7A A92 A9C AA8 AB0 ABD AC4 AE3 AE6 B03 B12 B19 B1C B33",
  "B3B B47 B49 B58 B5D B5F B6F B84 BB5 BB7-BB9 BDA BE3 BE5 C0C C18 C32 C59 C64 C6B C75 C85 C9B",
  "CAD-CAE CB3 CB5 CB7 CBE CCC CD6 CDD CE3-CE5 CE7 CED D12 D18 D32 D4D-D4E D51 D69 D6E DB2 DBD",
  "DF4 DFA E07 E10 E2A-E2B E2D E4E E56 E5A E6D E70 E94 E97 EAC EB3 ED0 EEC-EED EEF-EF0 F1D F22",
  "F27 F2D F4D F8B FC4 FC9 FCB FDC 1049 1057 1059 1064 106A 1073 1087 10F8 1119 111C 1127 1145",
  "117D 11A3 11B1 11BC 11BE 11E9 11F7 11F9 1205 1231 1241 1270 12E4 12E9 1307 1374 1386 1398 139A",
  "13A0 13EF 13F1 13F3 1410 1430 1473-1474 1480 14B7 14BE 14C4 14D8 14F1 14F5"]

/-- Frequent characters of GB 2312, without the rows of signs. -/
def frequentChinese : CodeSet := .read [
  "11 13 17 30 38 4B 5B 60 65 6E 75 78 7B 85 95 A1 A7 AA AD BD D6-D8 DA E0-E1 E4 E9 FA 104 115",
  "11A 11C-11D 120 12E 140 142 145 14F 16F 17D 182 18B 1A2 1A5 1AA 1BC 1C6 1C9-1CA 1CF 1D1 1DA",
  "1E0 1E6 1E8 1F1-1F2 1F5 1F7-1F9 1FD 20D 20F 218 21C 22C 23B 23E 242 24F 25B 266-267 273 28B",
  "291 293 299 2A5 2AE 2B0 2B6 2B8 2C2 2C7 2CE 2D8 2EF 2FD 300 309-30A 312-313 318 31F 32A 32E",
  "335 33E 340 345-348 34B 351 353 356 358 35F 366 376 385 388-389 38F-390 393 3A7-3A8 3AA 3AE",
  "3CE 3D8-3DA 3DE 3E7 3FE 40D 410-411 413 417-419 420 422 441 44A 457 45A-45B 45E 462-463 466",
  "472 476-477 47D 47F 481 483 48A 48D-48E 491 494 499-49A 4A2 4A8 4AB 4C2 4C5 4CD 4D0 4D2 4E0",
  "4F1 4F4 4F8 4FF 506-507 50C 515-516 51B 51D 521 52C 52E 530 536 542 550 559 55C 560 562 579",
  "57C 57F 58B 595 5A7 5AA 5AC 5AE 5BB 5CD 5CF 5D7 5EC 5F3 60C 60E 61F 62C-62E 639-63A 63F 643",
  "647 649 65A 65C 668 66C-66D 673 689 694 6B2 6C4-6C5 6D6 6E8 70C-70D 714 718-719 71E 720 730",
  "73F 74A 750 754 75A 776 77E 786 788 791 793 7A1 7BE 7C3 80F 82A 830 84D 857 863 866 86B 881",
  "890 8B1 8B6 8BA 8C4 8C9 8D0 8D4 8D7 8DA 8E6 8E9-8EA 8F7 8FA 8FD-8FE 904 916 91A 92B-92C 938",
  "94A 959 95C 966 974-975 97A-97B 97E 987 98C 991 994 999-99A 99C 99E 9A0-9A2 9A4 9A7-9AB 9AD",
  "9B1-9B2 9BB 9BE 9C0-9C2 9C6-9C7 9D4 9E0 9E8 9F7 9F9 9FE A02 A05 A07 A0D A22 A42 A44-A46 A4F",
  "A5F A7F A88-A89 A8C A93 A9C AAD AB1 AB8 ABB-ABC AC6 ACA-ACB AE7 AEF AF7 AFA B00 B0D B12 B1E",
  "B27-B28 B2D B35 B41 B48 B52 B54 B5A B63 B70 B76 B83 B89 B97 B99 B9F-BA1 BA8 BAC BAF BB3-BB4",
  "BBB-BBC BC0 BC2 BC6 BC8 BCC BE1 BE3-BE4 BEA BEC-BED BEF BF3 C07 C0C C17 C1E C24 C33 C44",
  "C4C-C4D C66 C68 C75-C76 C85 C8D C90 C96 C98 CAC CAF-CB0 CB2 CB5 CBD CC0-CC1 CC4 CCD CD3 CD8",
  "CDF CE3 CE9 CFC CFE D02 D07 D09 D0F D13 D24 D36 D41 D44 D48 D4B D51 D53-D54 D59 D62 D70-D71",
  "D83 D87 D89 D8D DAE DB1-DB2 DBA DD4 DD7 DDB DE7 DEE DF0 DF2-DF3 DF7 DFA DFD E01-E04 E08 E0B",
  "E0E E11 E14 E19 E1D E21 E23 E29 E2B E2D E2F-E30 E4A E52 E56 E59 E5B E61 E6D E76 E7B E84-E85",
  "E8D E90 E96 E9A E9F EA7-EA8"]

/-- Frequent characters of JIS X 0208. -/
def frequentJapanese : CodeSet := .read [
  "0-6 8-9 18 1B-1C 23 29-2A 2D-2E 33-38 53 65 11B 11D 11F 121 123-13A 13C-149 14B-14C 14E-14F",
  "151-152 154-155 157-15D 15F-166 168-169 16B-16C 178-17B 17D-182 184 186-188 18A 18C-192 194",
  "196-198 19A-19B 19D-1A2 1A4 1A6-1A8 1AA-1AE 1B0-1BA 1BC-1BE 1C0-1C4 1C6 1CA 292 29D 587 58E",
  "5A3 5AB 5AD 5B6 5BC-5BD 5C4 5CD 5DB 5E5 5FD 63B 63D 64D 658-65C 660-661 665 669 67E 685",
  "68E-690 6A6 6AB 6C1 6C9 6CB 6D3 6D5 6DF 6E3 70F 712 723 72F 731 737 73C 742 749 755 758-759",
  "75B 764 766 778 7A6 7AD 7B5-7B6 7BB 7C2 7C4 7CA 7DD 7F6-7F7 801 80A 822 82E 834 843 84A 85B",
  "85E 861 872-873 87C 886-887 88E 891 893 896-897 8AF 8B6-8B7 8BD 8C8 8CB 8CE-8CF 8D4 8E8 8EC",
  "8FC 903 911 915-916 920 92D 930 94F 953-954 966 96A 96C 97B 99B 99D-99E 9AF-9B0 9B3 9B8 9BA",
  "9BD 9C2-9C3 9CB 9CF 9D1 9E1 9E5 9E8-9EA 9F1 9F4 9F9-9FA A03 A0A-A0B A1B A1D A1F A30-A31 A33",
  "A38 A3E A51 A5F A64 A6C A77 A79 A87 A8F-A91 A98 A9E AA3 AB3-AB4 AC8 ACD AD5 AE1 AEA AF1",
  "AF4-AF5 AFA B0A B0C B11 B17 B1A B20 B22-B23 B29 B2B B2D B30 B48 B57 B65 B6A B6E-B6F B76 B79",
  "B7D B85 B9B B9D BA0 BA3 BA9 BBF BC4 BC9 BCF BD2-BD3 BE7 BF1 BFA C00 C09 C16 C21 C2A-C2B C30",
  "C35 C3B-C3C C44 C4B C4D C51 C53 C62-C65 C67 C7E C8A C8C C97 CA5-CA6 CA8-CAA CB1 CC0-CC1 CC8",
  "CD3 CDE CE4 CED CF2 CF7 D02 D05 D23 D2C D41 D43 D4E D57 D5B-D5C D70 D7E D83 D8D D90-D91 DA1",
  "DA5-DA6 DB0 DB5 DB8 DBE DC2 DD7 DE8 DF1 DF3 DFA E02 E10 E22 E2E E45 E60 E78 E87 E91 EA4 EBB",
  "EC7 ECC ED1 ED9 EE3-EE4 EE6 EEA EF2 F03 F06 F10 F17 F19 F25-F26 F2C F39 F3E F43 F4A F4F F59",
  "F60 F6A F6C F80 F98 FA7 FC1 FCC FDE FE7-FE9 FF5 1003 1005 100D 1010 1014 1017 101E 1034 103A",
  "1045 104D 1054 1058 105C 105E 106F 1075 107E-107F 1084 108E 1093 10A3 10AE 10B4 10C5 10C8 10E5",
  "10FD 1103 1106"]

end RowRecipe.Encoding.Table
