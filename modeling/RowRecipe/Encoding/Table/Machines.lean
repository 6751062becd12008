import RowRecipe.Encoding.ByteMachine

/-!
# Machines of encodings

Each machine accepts the bytes of one encoding, or looks for the escapes by which one is told.
-/
namespace RowRecipe.Encoding.Table

/-- The machine of UTF-8, with the long forms that it once had. -/
def utf8 : ByteMachine := .read
  ["0-D:1 E-F:0 10-1A:1 1B:0 1C-7F:1 80-83:2 84-87:3 88-9F:4 A0-BF:5 C0-C1:0 C2-DF:6 E0:7",
    "E1-EC:8 ED:9 EE-EF:8 F0:A F1-F7:B F8:C F9-FB:D FC:E FD:F FE-FF:0"]
  ["x0xxxxA879654321", "xx3333xxxxxxxxxx", "xxx333xxxxxxxxxx", "xx5555xxxxxxxxxx",
    "xxxx55xxxxxxxxxx", "xx7777xxxxxxxxxx", "xxxxx7xxxxxxxxxx", "xxAAAAxxxxxxxxxx",
    "xxxxxAxxxxxxxxxx", "xxAAAxxxxxxxxxxx", "xx0000xxxxxxxxxx"]
  "0100002333445566"

def shiftJis : ByteMachine := .read
  ["0-D:1 E-F:0 10-1A:1 1B:0 1C-3F:1 40-7E:2 7F:1 80-84:3 85-86:2 87-9F:3 A0-DF:2 E0-EC:3",
    "ED-EF:4 F0-FC:3 FD-FF:0"]
  ["x001xx", "xx0000"]
  "011200"

def eucJp : ByteMachine := .read
  ["0-D:4 E-F:5 10-1A:4 1B:5 1C-7F:4 80-8D:5 8E:1 8F:3 90-A0:5 A1-DF:2 E0-FE:0 FF:5"]
  ["12130x", "0x0xxx", "xx0xxx", "1x1xxx"]
  "222310"

/-- The machine of GB 2312, which four bytes of GB 18030 make certain. -/
def gb2312 : ByteMachine := .read
  ["0-D:1 E-F:0 10-1A:1 1B:0 1C-2F:1 30-39:3 3A-3F:1 40-7E:2 7F:4 80:5 81-FE:6 FF:0"]
  ["x000001", "xx02x00", "xxxxxx3", "xxx!xxx"]
  "0111112"

def eucKr : ByteMachine := .read
  ["0-D:1 E-F:0 10-1A:1 1B:0 1C-7F:1 80-A0:0 A1-AC:2 AD-AF:3 B0-C8:2 C9:3 CA-FE:2 FF:0"]
  ["x01x", "xx00"]
  "0120"

def cp949 : ByteMachine := .read
  ["0-D:1 E-F:0 10-1A:1 1B:0 1C-40:1 41-51:4 52-5A:5 5B-60:1 61-7A:5 7B-7F:1 80:0 81-A0:6",
    "A1-AC:7 AD-AF:8 B0-C5:7 C6:9 C7-C8:2 C9:3 CA-FE:2 FF:0"]
  ["x01x0023x4", "xx00xxx000", "xx00000000", "x000000000", "x0000xx000"]
  "0120112202"

def big5 : ByteMachine := .read
  ["0-D:1 E-F:0 10-1A:1 1B:0 1C-3F:1 40-7E:2 7F:1 80-A0:4 A1-FE:3 FF:0"]
  ["x001x", "xx000"]
  "01120"

def eucTw : ByteMachine := .read
  ["0-D:2 E-F:0 10-1A:2 1B:0 1C-7F:2 80-8D:0 8E:6 8F-A0:0 A1:3 A2-A7:4 A8-A9:5 AA-C1:1 C2:3 C3:1",
    "C4-FE:3 FF:0"]
  ["xx01112", "x0x000x", "xxxx3xx", "x0x000x"]
  "0012223"

def hz : ByteMachine := .read
  ["0:1 1-1A:0 1B:1 1C-7A:0 7B:4 7C:0 7D:5 7E:2 7F:0 80-FF:1"]
  ["0x1000", "xx002x", "3x4x33", "2x2x22", "2x2x2!"]
  "000000"

def iso2022Jp : ByteMachine := .read
  ["0:2 1-D:0 E-F:2 10-1A:0 1B:1 1C-23:0 24:7 25-27:0 28:3 29-3F:0 40:6 41:0 42:4 43:0 44:8",
    "45-48:0 49:9 4A:5 4B-7F:0 80-FF:2"]
  ["01x0000000", "xxx3xxx2xx", "xxx4!x!xxx", "xxxx!!xxx!", "xxxxxxxx!x"]
  "0000000000"

def iso2022Kr : ByteMachine := .read
  ["0:2 1-1A:0 1B:1 1C-23:0 24:3 25-28:0 29:4 2A-42:0 43:5 44-7F:0 80-FF:2"]
  ["01x000", "xxx2xx", "xxxx3x", "xxxxx!"]
  "000000"

end RowRecipe.Encoding.Table
