/-!
# Letters of single bytes

Each table lists the bytes of the letters of a language, the most frequent letter first. The bytes
of other characters that count are listed in stretches.
-/
namespace RowRecipe.Encoding.Table

def windows1251RussianLetters : List String := [
  "EE E5 E0 E8 ED F2 F1 EB F0 E2 EA EC E4 F3 EF FF FC FB E3 E7 E1 F7 E9 E6 F8 F5 FE F6 F9 FD CD",
  "D1 C2 CE CF CA C0 CC F4 D2 C4 C8 DF C1 D0 C3 DD C5 CB D7 C7 D3 D4 FA D5 C6 D8 D6 DE C9 DC DB",
  "D9"]

def windows1251RussianOthers : List String := [
  "41-5A 61-7A 80-BC DA"]

def koi8RussianLetters : List String := [
  "CF C5 C1 C9 CE D4 D3 CC D2 D7 CB CD C4 D5 D0 D1 D8 D9 C7 DA C2 DE CA D6 DB C8 C0 C3 DD DC EE",
  "F3 F7 EF F0 EB E1 ED C6 F4 E4 E9 F1 E2 F2 E7 FC E5 EC FE FA F5 E6 DF E8 F6 FB E3 E0 EA F8 F9",
  "FD"]

def koi8RussianOthers : List String := [
  "41-5A 61-7A 80-BC FF"]

def iso8859RussianLetters : List String := [
  "DE D5 D0 D8 DD E2 E1 DB E0 D2 DA DC D4 E3 DF EF EC EB D3 D7 D1 E7 D9 D6 E8 E5 EE E6 E9 ED BD",
  "C1 B2 BE BF BA B0 BC E4 C2 B4 B8 CF B1 C0 B3 CD B5 BB C7 B7 C3 C4 EA C5 B6 C8 C6 CE B9 CC CB",
  "C9"]

def iso8859RussianOthers : List String := [
  "41-5A 61-7A 80-AF CA F0-FC"]

def macRussianLetters : List String := [
  "EE E5 E0 E8 ED F2 F1 EB F0 E2 EA EC E4 F3 EF DF FC FB E3 E7 E1 F7 E9 E6 F8 F5 FE F6 F9 FD 8D",
  "91 82 8E 8F 8A 80 8C F4 92 84 88 9F 81 90 83 9D 85 8B 97 87 93 94 FA 95 86 98 96 9E 89 9C 9B",
  "99"]

def macRussianOthers : List String := [
  "41-5A 61-7A 9A A0-DB DE"]

def ibm866RussianLetters : List String := [
  "AE A5 A0 A8 AD E2 E1 AB E0 A2 AA AC A4 E3 AF EF EC EB A3 A7 A1 E7 A9 A6 E8 E5 EE E6 E9 ED 8D",
  "91 82 8E 8F 8A 80 8C E4 92 84 88 9F 81 90 83 9D 85 8B 97 87 93 94 EA 95 86 98 96 9E 89 9C 9B",
  "99"]

def ibm866RussianOthers : List String := [
  "41-5A 61-7A 9A B0-DF F0-FC"]

def ibm855RussianLetters : List String := [
  "D6 A8 A0 B7 D4 E5 E3 D0 E1 EB C6 D2 A6 E7 D8 DE ED F1 AC F3 A2 FB BD E9 F5 B5 9C A4 F9 F7 D5",
  "E4 EC D7 DD C7 A1 D3 AA E6 A7 B8 E0 A3 E2 AD F8 A9 D1 FC F4 E8 AB 9E B6 EA F6 A5 9D BE EE F2",
  "FA"]

def ibm855RussianOthers : List String := [
  "41-5A 61-7A 80-9B 9F AE-B4 B9-BC BF-C5 C8-CF D9-DC DF EF-F0"]

def iso8859GreekLetters : List String := [
  "E1 F4 E5 EF E9 ED F3 F1 F0 EC EA F5 E7 F2 DF EB DC DD FC E3 E4 DE F7 F9 E8 FD FE F6 E2 EE C1",
  "E6 D4 C5 D0 B7 D3 CC CF C7 C4 F8 C3 CA D5 B8 C9 D1 CD D7 C2 C8 CB BC 6F D6 D9 74 CE 65 B6"]

def iso8859GreekOthers : List String := [
  "41-5A 61-64 66-6E 70-73 75-7A A1-A2 AD B4-B5 B9-BA BE-C0 C6 D2 D8 DA-DB E0 FA-FB"]

def windows1253GreekLetters : List String := [
  "E1 F4 E5 EF E9 ED F3 F1 F0 EC EA F5 E7 F2 DF EB DC DD FC E3 E4 DE F7 F9 E8 FD FE F6 E2 EE C1",
  "E6 D4 C5 D0 B7 D3 CC CF C7 C4 F8 C3 CA D5 B8 C9 D1 CD D7 C2 C8 CB BC 6F D6 D9 74 CE 65 A2"]

def windows1253GreekOthers : List String := [
  "41-5A 61-64 66-6E 70-73 75-7A A1 AD B4 B9-BA BE-C0 C6 D2 D8 DA-DB E0 FA-FB"]

def iso8859BulgarianLetters : List String := [
  "D0 D8 D5 DE E2 DD E0 E1 D2 DB D4 DA DF DC D7 EF EA D1 E3 D3 E7 E6 D6 E9 E5 D9 E8 C1 E4 BF B0",
  "B1 BA C2 B2 BD B4 BC C0 B8 BE EE B3 B5 AD BB B7 C4 C5 C7 C3 EC C6 C8 B6 CF C9 F4 B9 CE CA F0",
  "65"]

def iso8859BulgarianOthers : List String := [
  "41-5A 61-64 66-7A 80-AC AE-AF CB-CD EB ED F1-F3 F5-FB FD"]

def windows1251BulgarianLetters : List String := [
  "E0 E8 E5 EE F2 ED F0 F1 E2 EB E4 EA EF EC E7 FF FA E1 F3 E3 F7 F6 E6 F9 F5 E9 F8 D1 F4 CF C0",
  "C1 CA D2 C2 CD C4 CC D0 C8 CE FE C3 C5 AD CB C7 D4 D5 D7 D3 FC D6 D8 C6 DF D9 BA C9 DE DA B9",
  "65"]

def windows1251BulgarianOthers : List String := [
  "41-5A 61-64 66-7A 80-AC AE-B8 BB-BF DC FB"]

def tis620ThaiLetters : List String := [
  "D2 C3 B9 CD A1 E8 E9 A7 C1 D1 E0 C7 D5 B7 C5 C2 BA CA B5 B4 CB D0 D4 A4 BB A8 D7 E1 E3 A2 BE",
  "D8 E4 AA D9 D3 E7 EC BC D6 E2 C8 B3 B6 C0 C9 AD B8 B0 E6 AB A9 B1 BF B2 F1 AF AE F2 F5 C4 BD",
  "CF"]

def tis620ThaiOthers : List String := [
  "41-5A 61-7A 80-A0 A3 A5-A6 AC C6 CC CE DA-DF E5 EA-EB ED-F0 F3-F4 F6-FC"]

def iso8859TurkishLetters : List String := [
  "61 65 69 6E 6C FD 72 73 74 6B 79 64 6D 75 6F 4B FC 66 FE 4D 62 7A 41 6A 68 70 67 63 45 F0 54",
  "76 E7 F6 53 47 42 56 44 DE DD 4F 59 52 48 4E 43 50 4C D6 55 46 49 C7 DC 5A 77 78 E2 4A EE 57",
  "B7"]

def iso8859TurkishOthers : List String := [
  "51 58 71 80-B6 B8-C6 C8-D5 D7-DB DF-E1 E3-E6 E8-ED EF F1-F5 F7-FB FF"]

def windows1255HebrewLetters : List String := [
  "E9 E5 E4 EC FA EE F8 E1 E0 F9 ED F0 F2 E7 EB E3 F7 F4 F1 E2 F6 E8 EF E6 EA F3 F5 CC C8 C0 C7",
  "96 C4 A0 C9 C6 C5 D1 BD 85 C2 65 73 74 D2 94 93 BC 6F 61 72 92 69 6E B4 6C BE 86 C1 63 64 CB",
  "75"]

def windows1255HebrewOthers : List String := [
  "41-5A 62 66-68 6A-6B 6D 70-71 76-7A 80-84 87-91 95 97-9F A1-B3 B5-BB BF C3 CA CD-D0 D3-DF",
  "FD-FE"]

end RowRecipe.Encoding.Table
