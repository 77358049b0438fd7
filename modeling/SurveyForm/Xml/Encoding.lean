import SurveyForm.Xml.Declaration
import SurveyForm.Xml.Encoding.ByteEncoding
import SurveyForm.Xml.Encoding.GroupEncoding
/-!
From bytes to characters.  The first bytes of a document show how wide its characters
are; if they show nothing else, its declaration says how it is encoded, and without one
it is UTF-8.
-/

namespace SurveyForm.Xml

/-- What the first bytes of a document show. -/
inductive Signature where
  | bytes
  | markedUtf8
  | utf16
  | utf32
deriving DecidableEq, Repr

/-- The encoding that a document counts as having, by its first bytes and its
declaration.  What the first bytes show wins. -/
def Signature.encoding? (signature : Signature) (declared : Option String) : Option String :=
  match signature with
  | .bytes => declared
  | .markedUtf8 =>
      declared.map fun name =>
        if name.toUpper = "UTF-8" || name.toUpper = "UTF8" then name else "UTF-8"
  | .utf16 => declared.map fun _ => "UTF-16"
  | .utf32 => some "UTF-32"

/-! ### Wide characters -/

/-- The characters of 16-bit units, with pairs of surrogates joined. -/
def ofUnits? : List Nat → Option (List Char)
  | [] => some []
  | unit :: rest =>
      if 0xd800 ≤ unit ∧ unit < 0xdc00 then
        match rest with
        | low :: more =>
            if 0xdc00 ≤ low ∧ low < 0xe000 then
              (Char.ofNat (0x10000 + (unit - 0xd800) * 0x400 + (low - 0xdc00)) :: ·) <$>
                ofUnits? more
            else none
        | [] => none
      else if 0xdc00 ≤ unit ∧ unit < 0xe000 then none
      else (Char.ofNat unit :: ·) <$> ofUnits? rest

/-- The characters of numbers, each of which has to be that of one. -/
def ofNumbers? (numbers : List Nat) : Option (List Char) :=
  numbers.mapM fun number =>
    if (Char.ofNat number).toNat = number then some (Char.ofNat number) else none

/-- The numbers that groups of bytes stand for, of which all are complete. -/
def numbersOf? (width : Nat) (bigEndian : Bool) : (fuel : Nat) → List UInt8 →
    Option (List Nat)
  | _, [] => some []
  | 0, _ => none
  | fuel + 1, bytes =>
      let group := bytes.take width
      if group.length < width then none
      else
        let digits := if bigEndian then group else group.reverse
        (digits.foldl (fun number byte => number * 256 + byte.toNat) 0 :: ·) <$>
          numbersOf? width bigEndian fuel (bytes.drop width)

def ofUtf16? (bigEndian : Bool) (bytes : List UInt8) : Option (List Char) :=
  (numbersOf? 2 bigEndian bytes.length bytes).bind ofUnits?

def ofUtf32? (bigEndian : Bool) (bytes : List UInt8) : Option (List Char) :=
  (numbersOf? 4 bigEndian bytes.length bytes).bind ofNumbers?

/-! ### Declared encodings -/

def ofLatin1 (bytes : List UInt8) : List Char :=
  bytes.map fun byte => Char.ofNat byte.toNat

def latin1Names : List String :=
  ["ISO-8859-1", "ISO8859-1", "ISO_8859-1", "ISO-LATIN-1", "ISO-IR-100", "LATIN1", "L1",
    "CP819", "IBM819", "CSISOLATIN1"]

def asciiNames : List String :=
  ["ASCII", "US-ASCII", "ANSI_X3.4-1968", "ANSI_X3.4-1986", "CP367", "IBM367", "ISO-IR-6",
    "ISO646-US", "US", "CSASCII"]

/-- The characters of a document whose first bytes show nothing, by the encoding that it
declares, if that is known. -/
def ofDeclared? (bytes : ByteArray) (declared : Option String) : Option (List Char) :=
  match declared.map String.toUpper with
  | none | some "UTF-8" | some "UTF8" => (String.fromUTF8? bytes).map String.toList
  | some name =>
      if latin1Names.contains name then some (ofLatin1 bytes.toList)
      else if asciiNames.contains name then GroupEncoding.decode? [] bytes.size bytes.toList
      else
        ((ByteEncoding.upper? name).bind (ByteEncoding.decode? · bytes.toList)).or
          ((GroupEncoding.groups? name).bind
            (GroupEncoding.decode? · bytes.size bytes.toList))

/-- The characters of a document, and what its first bytes show.  A mark in front that
shows an encoding is no part of the document. -/
def decode? (bytes : ByteArray) : Option (Signature × List Char) :=
  let all := bytes.toList
  match all with
  | 0x00 :: 0x00 :: 0xfe :: 0xff :: rest => (ofUtf32? true rest).map (.utf32, ·)
  | 0xff :: 0xfe :: 0x00 :: 0x00 :: rest => (ofUtf32? false rest).map (.utf32, ·)
  | 0x00 :: 0x00 :: 0x00 :: 0x3c :: _ => (ofUtf32? true all).map (.utf32, ·)
  | 0x3c :: 0x00 :: 0x00 :: 0x00 :: _ => (ofUtf32? false all).map (.utf32, ·)
  | 0xfe :: 0xff :: rest => (ofUtf16? true rest).map (.utf16, ·)
  | 0xff :: 0xfe :: rest => (ofUtf16? false rest).map (.utf16, ·)
  | 0x00 :: 0x3c :: 0x00 :: 0x3f :: _ => (ofUtf16? true all).map (.utf16, ·)
  | 0x3c :: 0x00 :: 0x3f :: 0x00 :: _ => (ofUtf16? false all).map (.utf16, ·)
  | 0xef :: 0xbb :: 0xbf :: _ =>
      (String.fromUTF8? (bytes.extract 3 bytes.size)).map fun text =>
        (.markedUtf8, text.toList)
  | _ => do
      let (declaration, _) ← Declaration.read? (ofLatin1 all)
      let text ← ofDeclared? bytes (declaration.bind (·.encoding))
      return (.bytes, text)

/-- Every line end as a line feed: a carriage return, a line feed, or both. -/
def normalizeLines (chars : List Char) : List Char :=
  ((' ' :: chars).zip chars).filterMap fun (before, c) =>
    if before = '\r' ∧ c = '\n' then none else some (if c = '\r' then '\n' else c)

end SurveyForm.Xml
