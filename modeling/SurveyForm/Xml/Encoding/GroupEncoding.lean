/-!
Encodings in which a character takes one byte or several.  The bytes below 128 are
those of ASCII.  Of the other characters only the groups of bytes are known here: each
group is some letter of its own.
-/

namespace SurveyForm.Xml.GroupEncoding

/-- The bytes that may stand at the places of a group. -/
abbrev Group : Type :=
  List (Nat × Nat)

/-- A pair of bytes with the first in one range and the second in one of several. -/
def pairs (first : Nat × Nat) (seconds : List (Nat × Nat)) : List Group :=
  seconds.map fun second => [first, second]

def high : Nat × Nat :=
  (0xa1, 0xfe)

/-- The encodings by their names. -/
def encodings : List (List String × List Group) :=
  [(["SHIFT_JIS", "SHIFT-JIS", "SJIS", "MS_KANJI", "CSSHIFTJIS", "CP932"],
      [(0xa1, 0xdf)] :: (pairs (0x81, 0x9f) [(0x40, 0x7e), (0x80, 0xfc)] ++
        pairs (0xe0, 0xfc) [(0x40, 0x7e), (0x80, 0xfc)])),
    (["EUC-JP", "EUCJP", "EXTENDED_UNIX_CODE_PACKED_FORMAT_FOR_JAPANESE",
      "CSEUCPKDFMTJAPANESE"],
      [[high, high], [(0x8e, 0x8e), (0xa1, 0xdf)], [(0x8f, 0x8f), high, high]]),
    (["EUC-CN", "EUCCN", "GB2312", "CN-GB", "CSGB2312", "EUC-KR", "EUCKR", "CSEUCKR"],
      [[high, high]]),
    (["EUC-TW", "EUCTW", "CSEUCTW"],
      [[high, high], [(0x8e, 0x8e), (0xa1, 0xb0), high, high]]),
    (["BIG5", "BIG-5", "BIG-FIVE", "BIGFIVE", "CN-BIG5", "CSBIG5", "CP950"],
      pairs (0xa1, 0xf9) [(0x40, 0x7e), high]),
    (["BIG5-HKSCS", "BIG5HKSCS"], pairs (0x87, 0xfe) [(0x40, 0x7e), high]),
    (["GBK", "CP936", "MS936", "WINDOWS-936"],
      pairs (0x81, 0xfe) [(0x40, 0x7e), (0x80, 0xfe)]),
    (["GB18030"],
      [(0x81, 0xfe), (0x30, 0x39), (0x81, 0xfe), (0x30, 0x39)] ::
        pairs (0x81, 0xfe) [(0x40, 0x7e), (0x80, 0xfe)]),
    (["CP949", "UHC"],
      pairs (0x81, 0xfe) [(0x41, 0x5a), (0x61, 0x7a), (0x81, 0xfe)]),
    (["JOHAB", "CP1361"],
      pairs (0x84, 0xd3) [(0x41, 0x7e), (0x81, 0xfe)] ++
        pairs (0xd9, 0xf9) [(0x31, 0x7e), (0x91, 0xfe)]),
    (["ISO-2022-JP", "CSISO2022JP", "ISO-2022-JP-1", "ISO-2022-JP-2", "CSISO2022JP2",
      "ISO-2022-CN", "CSISO2022CN", "ISO-2022-CN-EXT", "ISO-2022-KR", "CSISO2022KR",
      "ISO-2022-JP-MS", "CP50221", "HZ", "HZ-GB-2312", "UTF-7", "UNICODE-1-1-UTF-7",
      "CSUNICODE11UTF7", "C99", "JAVA", "ISO646-JP", "ISO-IR-14", "JIS_C6220-1969-RO", "JP",
      "CSISO14JISC6220RO", "ISO646-CN", "CN", "GB_1988-80", "ISO-IR-57", "CSISO57GB1988"],
      []),
    (["JISX0201-1976", "JIS_X0201", "X0201", "CSHALFWIDTHKATAKANA"], [[(0xa1, 0xdf)]]),
    (["CP1131", "MACCENTRALEUROPE", "MACICELAND", "MACCROATIAN", "MACROMANIA",
      "MACCYRILLIC", "MACUKRAINE", "MACGREEK", "MACTURKISH", "MACHEBREW", "MACARABIC",
      "MACTHAI", "HP-ROMAN8", "R8", "ROMAN8", "CSHPROMAN8", "NEXTSTEP", "ARMSCII-8",
      "GEORGIAN-ACADEMY", "GEORGIAN-PS", "CP154", "CYRILLIC-ASIAN", "PT154", "PTCP154",
      "CSPTCP154", "KZ-1048", "RK1048", "STRK1048-2002", "CSKZ1048", "MULELAO-1", "CP1133",
      "IBM-CP1133", "VISCII", "VISCII1.1-1", "CSVISCII", "TCVN", "TCVN-5712", "TCVN5712-1"],
      [[(0x80, 0xff)]])]

def groups? (name : String) : Option (List Group) :=
  (encodings.find? fun encoding => encoding.1.contains name).map (·.2)

/-- Whether bytes start with a group. -/
def starts : Group → List UInt8 → Bool
  | [], _ => true
  | _, [] => false
  | range :: group, byte :: bytes =>
      range.1 ≤ byte.toNat && byte.toNat ≤ range.2 && starts group bytes

/-- The letter of a group. -/
def letter (bytes : List UInt8) : Char :=
  Char.ofNat (0x20000 + bytes.foldl (fun code byte => (code * 256 + byte.toNat) % 0x10000) 0)

/-- The characters of bytes; each takes a byte at least. -/
def decode? (groups : List Group) : (fuel : Nat) → List UInt8 → Option (List Char)
  | _, [] => some []
  | 0, _ => none
  | fuel + 1, byte :: bytes =>
      if byte < 128 then (Char.ofNat byte.toNat :: ·) <$> decode? groups fuel bytes
      else do
        let group ← groups.find? fun group => !group.isEmpty && starts group (byte :: bytes)
        let rest ← decode? groups fuel ((byte :: bytes).drop group.length)
        return letter ((byte :: bytes).take group.length) :: rest

end SurveyForm.Xml.GroupEncoding
