import DynLisp.Text.Encoding.CodePage.Dos
import DynLisp.Text.Encoding.CodePage.Ebcdic
import DynLisp.Text.Encoding.CodePage.Mac
import DynLisp.Text.Encoding.CodePage.National
import DynLisp.Text.Encoding.CodePage.Windows
import DynLisp.Text.Encoding.DomainName
import DynLisp.Text.Encoding.Escaped
import DynLisp.Text.Encoding.Iso2022
import DynLisp.Text.Encoding.Utf7

/-!
Byte encodings of text, and the names by which they are known.
-/

namespace DynLisp

/-- An encoding, by the text that it makes of bytes. -/
abbrev Encoding := List UInt8 → Except Undecodable (List Char)

namespace Encoding

def ofFaulty (decode : List UInt8 → Except DecodeFault (List Char)) : Encoding := fun bs =>
  (decode bs).mapError .bytes

def latin1 : Encoding := fun bs => .ok (bs.map fun b => Char.ofNat b.toNat)

def ascii : Encoding := Punycode.ascii

/-- Stands for no bytes at all. -/
def undefined : Encoding := fun _ => .error (.text .undefined)

def unicode : List (Listing Encoding) := [
  ⟨"utf_7", ["u7", "unicode_1_1_utf_7", "utf7"], ofFaulty Utf7.decode⟩,
  ⟨"utf_8", ["cp65001", "u8", "utf", "utf8", "utf8_ucs2", "utf8_ucs4"], ofFaulty (Utf.decode8 0)⟩,
  ⟨"utf_8_sig", [], ofFaulty Utf.signed8⟩,
  ⟨"utf_16", ["u16", "utf16"], ofFaulty Utf.signed16⟩,
  ⟨"utf_16_le", ["unicodelittleunmarked", "utf_16le"], ofFaulty (Utf.decode16 .little 0)⟩,
  ⟨"utf_16_be", ["unicodebigunmarked", "utf_16be"], ofFaulty (Utf.decode16 .big 0)⟩,
  ⟨"utf_32", ["u32", "utf32"], ofFaulty Utf.signed32⟩,
  ⟨"utf_32_le", ["utf_32le"], ofFaulty (Utf.decode32 .little 0)⟩,
  ⟨"utf_32_be", ["utf_32be"], ofFaulty (Utf.decode32 .big 0)⟩,
  ⟨"unicode_escape", [], Escaped.decode⟩,
  ⟨"raw_unicode_escape", [], Escaped.decodeRaw⟩,
  ⟨"punycode", [], DomainName.punycode⟩,
  ⟨"idna", [], DomainName.decode⟩]

def western : List (Listing Encoding) := [
  ⟨"ascii", ["646", "ansi_x3.4_1968", "ansi_x3.4_1986", "ansi_x3_4_1968", "cp367", "csascii",
    "ibm367", "iso646_us", "iso_646.irv_1991", "iso_ir_6", "us", "us_ascii"], ascii⟩,
  ⟨"latin_1", ["8859", "cp819", "csisolatin1", "ibm819", "iso8859", "iso8859_1", "iso_8859_1",
    "iso_8859_1_1987", "iso_ir_100", "l1", "latin", "latin1"], latin1⟩,
  ⟨"charmap", [], latin1⟩,
  ⟨"undefined", [], undefined⟩]

def codePages : List (Listing CodePage) :=
  CodePage.iso ++ CodePage.windows ++ CodePage.dos ++ CodePage.mac ++ CodePage.ebcdic ++
    CodePage.national

def asian : List (Listing Encoding) := [
  ⟨"big5", ["big5_tw", "csbig5", "x_mac_trad_chinese"], Chinese.taiwan⟩,
  ⟨"big5hkscs", ["big5_hkscs", "hkscs"], Chinese.hongKong⟩,
  ⟨"cp932", ["932", "ms932", "ms_kanji", "mskanji"], Japanese.windows⟩,
  ⟨"cp949", ["949", "ms949", "uhc"], Korean.unified⟩,
  ⟨"cp950", ["950", "ms950"], Chinese.windowsTaiwan⟩,
  ⟨"euc_jis_2004", ["euc_jis2004", "eucjis2004", "jisx0213"], Japanese.extendedX0213 .of2004⟩,
  ⟨"euc_jisx0213", ["eucjisx0213"], Japanese.extendedX0213 .of2000⟩,
  ⟨"euc_jp", ["eucjp", "u_jis", "ujis"], Japanese.extended⟩,
  ⟨"euc_kr", ["euckr", "korean", "ks_c_5601", "ks_c_5601_1987", "ks_x_1001", "ksc5601", "ksx1001",
    "x_mac_korean"], Korean.extended⟩,
  ⟨"gb18030", ["gb18030_2000"], Chinese.gb18030⟩,
  ⟨"gb2312", ["chinese", "csiso58gb231280", "euc_cn", "euccn", "eucgb2312_cn", "gb2312_1980",
    "gb2312_80", "iso_ir_58", "x_mac_simp_chinese"], Chinese.gb⟩,
  ⟨"gbk", ["936", "cp936", "ms936"], Chinese.gbk⟩,
  ⟨"hz", ["hz_gb", "hz_gb_2312", "hzgb"], Chinese.tildes⟩,
  ⟨"iso2022_jp", ["csiso2022jp", "iso2022jp", "iso_2022_jp"], Iso2022.decode Iso2022.jp⟩,
  ⟨"iso2022_jp_1", ["iso2022jp_1", "iso_2022_jp_1"], Iso2022.decode Iso2022.jp1⟩,
  ⟨"iso2022_jp_2", ["iso2022jp_2", "iso_2022_jp_2"], Iso2022.decode Iso2022.jp2⟩,
  ⟨"iso2022_jp_2004", ["iso2022jp_2004", "iso_2022_jp_2004"], Iso2022.decode Iso2022.jp2004⟩,
  ⟨"iso2022_jp_3", ["iso2022jp_3", "iso_2022_jp_3"], Iso2022.decode Iso2022.jp3⟩,
  ⟨"iso2022_jp_ext", ["iso2022jp_ext", "iso_2022_jp_ext"], Iso2022.decode Iso2022.jpExtended⟩,
  ⟨"iso2022_kr", ["csiso2022kr", "iso2022kr", "iso_2022_kr"], Iso2022.decode Iso2022.kr⟩,
  ⟨"johab", ["cp1361", "ms1361"], Korean.combining⟩,
  ⟨"shift_jis", ["csshiftjis", "s_jis", "shiftjis", "sjis", "x_mac_japanese"], Japanese.shifted⟩,
  ⟨"shift_jis_2004", ["s_jis_2004", "shiftjis2004", "sjis_2004"], Japanese.shiftedX0213 .of2004⟩,
  ⟨"shift_jisx0213", ["s_jisx0213", "shiftjisx0213", "sjisx0213"], Japanese.shiftedX0213 .of2000⟩]

/-- Codings between bytes and bytes, or between texts and texts. -/
def transforms : List (Listing Unit) := [
  ⟨"base64_codec", ["base64", "base_64"], ()⟩,
  ⟨"bz2_codec", ["bz2"], ()⟩,
  ⟨"hex_codec", ["hex"], ()⟩,
  ⟨"quopri_codec", ["quopri", "quoted_printable", "quotedprintable"], ()⟩,
  ⟨"rot_13", ["rot13"], ()⟩,
  ⟨"uu_codec", ["uu"], ()⟩,
  ⟨"zlib_codec", ["zip", "zlib"], ()⟩]

/-- What names are known, and which of them are those of encodings. -/
def known : List (Listing (Option Encoding)) :=
  (unicode ++ western ++ codePages.map (Listing.map fun page => ofFaulty page.decode) ++
    asian).map (Listing.map some) ++ transforms.map (Listing.map fun _ => none)

end Encoding

inductive NameFault where
  | unknown
  | notText
  deriving DecidableEq, Repr

/-- The encoding of a name. -/
def Encoding.ofName (given : String) : Except NameFault Encoding :=
  match Listing.find? known given with
  | none => .error .unknown
  | some none => .error .notText
  | some (some encoding) => .ok encoding

end DynLisp
