import RuleDesk.Text.Blank
import RuleDesk.Text.Encoding.BigFive
import RuleDesk.Text.Encoding.CodePage
import RuleDesk.Text.Encoding.Guobiao
import RuleDesk.Text.Encoding.Japanese
import RuleDesk.Text.Encoding.Korean
import RuleDesk.Text.Encoding.Utf16
import RuleDesk.Text.Utf8

/-!
# Charsets

The encodings that a text may name by a label, and the text of octets in an encoding. A byte order
mark at the start of the octets overrides the encoding that is named. The labels are those in use
on the web.
-/

set_option autoImplicit false

namespace RuleDesk.Text

open Encoding

/-- An encoding of text in octets. -/
inductive Charset where
  | utf8
  | utf16 (order : ByteOrder)
  | page (page : CodePage)
  | shiftJis
  | eucJp
  | iso2022Jp
  | eucKr
  | bigFive
  | guobiao
  /-- ASCII, with private-use characters for all other octets. -/
  | userDefined
  /-- An encoding that is known and not read. -/
  | refused
  deriving DecidableEq, Repr

namespace Charset

open Encoding.CodePage

/-- The encodings with their labels. -/
def labels : List (List String × Charset) :=
  [
    (["unicode-1-1-utf-8", "unicode11utf8", "unicode20utf8", "utf8", "utf-8", "x-unicode20utf8"],
      .utf8),
    (["866", "cp866", "csibm866", "ibm866"], .page .ibm866),
    (["csisolatin2", "iso-8859-2", "iso-ir-101", "iso8859-2", "iso88592", "iso_8859-2",
      "iso_8859-2:1987", "l2", "latin2"], .page .latin2),
    (["csisolatin3", "iso-8859-3", "iso-ir-109", "iso8859-3", "iso88593", "iso_8859-3",
      "iso_8859-3:1988", "l3", "latin3"], .page .latin3),
    (["csisolatin4", "iso-8859-4", "iso-ir-110", "iso8859-4", "iso88594", "iso_8859-4",
      "iso_8859-4:1988", "l4", "latin4"], .page .latin4),
    (["csisolatincyrillic", "cyrillic", "iso-8859-5", "iso-ir-144", "iso8859-5", "iso88595",
      "iso_8859-5", "iso_8859-5:1988"], .page .cyrillic),
    (["arabic", "asmo-708", "csiso88596e", "csiso88596i", "csisolatinarabic", "ecma-114",
      "iso-8859-6", "iso-8859-6-e", "iso-8859-6-i", "iso-ir-127", "iso8859-6", "iso88596",
      "iso_8859-6", "iso_8859-6:1987"], .page .arabic),
    (["csisolatingreek", "ecma-118", "elot_928", "greek", "greek8", "iso-8859-7", "iso-ir-126",
      "iso8859-7", "iso88597", "iso_8859-7", "iso_8859-7:1987", "sun_eu_greek"], .page .greek),
    (["csiso88598e", "csisolatinhebrew", "hebrew", "iso-8859-8", "iso-8859-8-e", "iso-ir-138",
      "iso8859-8", "iso88598", "iso_8859-8", "iso_8859-8:1988", "visual", "csiso88598i",
      "iso-8859-8-i", "logical"], .page .hebrew),
    (["csisolatin6", "iso-8859-10", "iso-ir-157", "iso8859-10", "iso885910", "l6", "latin6"],
      .page .latin6),
    (["iso-8859-13", "iso8859-13", "iso885913"], .page .latin7),
    (["iso-8859-14", "iso8859-14", "iso885914"], .page .latin8),
    (["csisolatin9", "iso-8859-15", "iso8859-15", "iso885915", "iso_8859-15", "l9"],
      .page .latin9),
    (["iso-8859-16"], .page .latin10),
    (["cskoi8r", "koi", "koi8", "koi8-r", "koi8_r"], .page .koi8r),
    (["koi8-ru", "koi8-u"], .page .koi8u),
    (["csmacintosh", "mac", "macintosh", "x-mac-roman"], .page .macRoman),
    (["dos-874", "iso-8859-11", "iso8859-11", "iso885911", "tis-620", "windows-874"],
      .page .windows874),
    (["cp1250", "windows-1250", "x-cp1250"], .page .windows1250),
    (["cp1251", "windows-1251", "x-cp1251"], .page .windows1251),
    (["ansi_x3.4-1968", "ascii", "cp1252", "cp819", "csisolatin1", "ibm819", "iso-8859-1",
      "iso-ir-100", "iso8859-1", "iso88591", "iso_8859-1", "iso_8859-1:1987", "l1", "latin1",
      "us-ascii", "windows-1252", "x-cp1252"], .page .windows1252),
    (["cp1253", "windows-1253", "x-cp1253"], .page .windows1253),
    (["cp1254", "csisolatin5", "iso-8859-9", "iso-ir-148", "iso8859-9", "iso88599", "iso_8859-9",
      "iso_8859-9:1989", "l5", "latin5", "windows-1254", "x-cp1254"], .page .windows1254),
    (["cp1255", "windows-1255", "x-cp1255"], .page .windows1255),
    (["cp1256", "windows-1256", "x-cp1256"], .page .windows1256),
    (["cp1257", "windows-1257", "x-cp1257"], .page .windows1257),
    (["cp1258", "windows-1258", "x-cp1258"], .page .windows1258),
    (["x-mac-cyrillic", "x-mac-ukrainian"], .page .macCyrillic),
    (["chinese", "csgb2312", "csiso58gb231280", "gb2312", "gb_2312", "gb_2312-80", "gbk",
      "iso-ir-58", "x-gbk", "gb18030"], .guobiao),
    (["big5", "big5-hkscs", "cn-big5", "csbig5", "x-x-big5"], .bigFive),
    (["cseucpkdfmtjapanese", "euc-jp", "x-euc-jp"], .eucJp),
    (["csiso2022jp", "iso-2022-jp"], .iso2022Jp),
    (["csshiftjis", "ms932", "ms_kanji", "shift-jis", "shift_jis", "sjis", "windows-31j",
      "x-sjis"], .shiftJis),
    (["cseuckr", "csksc56011987", "euc-kr", "iso-ir-149", "korean", "ks_c_5601-1987",
      "ks_c_5601-1989", "ksc5601", "ksc_5601", "windows-949"], .eucKr),
    (["csiso2022kr", "hz-gb-2312", "iso-2022-cn", "iso-2022-cn-ext", "iso-2022-kr", "replacement"],
      .refused),
    (["unicodefffe", "utf-16be"], .utf16 .bigEndian),
    (["csunicode", "iso-10646-ucs-2", "ucs-2", "unicode", "unicodefeff", "utf-16le", "utf-16"],
      .utf16 .littleEndian),
    (["x-user-defined"], .userDefined) ]

/-- A blank around a label. -/
def isLabelBlank (c : Char) : Bool :=
  c == ' ' || c == '\t' || c == '\n' || c == '\x0c' || c == '\r'

/-- The encoding with a given label, in either case and with blanks around it. -/
def ofLabel? (label : String) : Option Charset :=
  let label := String.ofList ((strip isLabelBlank label.toList).map Char.toLower)
  (labels.find? (fun (names, _) => names.contains label)).map (·.2)

/-- The character of an octet for private use. -/
def userDefinedChar (b : UInt8) : Char :=
  if isAscii b then plain b else Char.ofNat (0xF700 + b.toNat)

/-- The text of octets in an encoding. -/
def read (octets : List UInt8) : Charset → List Char
  | .utf8 => lossyText octets
  | .utf16 order => (Encoding.utf16 order).read octets
  | .page table => table.read octets
  | .shiftJis => Encoding.shiftJis.decoder.read octets
  | .eucJp => Encoding.eucJp.read octets
  | .iso2022Jp => Encoding.iso2022Jp.read octets
  | .eucKr => Encoding.eucKr.decoder.read octets
  | .bigFive => Encoding.bigFive.decoder.read octets
  | .guobiao => Encoding.guobiao.read octets
  | .userDefined => octets.map userDefinedChar
  | .refused => if octets.isEmpty then [] else [unreadable]

/-- The encoding that a byte order mark announces, and the octets behind the mark. -/
def ofMark? : List UInt8 → Option (Charset × List UInt8)
  | 0xEF :: 0xBB :: 0xBF :: rest => some (.utf8, rest)
  | 0xFF :: 0xFE :: rest => some (.utf16 .littleEndian, rest)
  | 0xFE :: 0xFF :: rest => some (.utf16 .bigEndian, rest)
  | _ => none

/-- The text of octets: in the encoding that their byte order mark announces, and else in the given
one. -/
def decode (charset : Charset) (octets : List UInt8) : List Char :=
  match ofMark? octets with
  | some (announced, rest) => announced.read rest
  | none => charset.read octets

end Charset

end RuleDesk.Text
