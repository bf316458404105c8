import Migration.Character.Script
import Migration.Character.Trait

namespace Migration.Character

/-! Classes of characters that decide where text can be broken into clusters, words and sentences,
as of Unicode 16.
-/

def carriageReturn : CharSet := .range 0x0D 0x0D

def lineFeed : CharSet := .range 0x0A 0x0A

def zeroWidthJoiner : CharSet := .range 0x200D 0x200D

def script (name : String) : CharSet :=
  (script? name.toList).getD .empty

/-- Marks that belong to the character before them. -/
def attached : CharSet :=
  .unions [graphemeExtend, categories ["Mc"], zeroWidthJoiner]

namespace Cluster

def control : CharSet :=
  let unassigned := (categories ["Cn"]).intersection defaultIgnorableCodePoint
  ((categories ["Zl", "Zp", "Cc", "Cf"]).union unassigned).difference
    (.unions
      [prependedConcatenationMark, graphemeExtend, carriageReturn, lineFeed, zeroWidthJoiner])

/-- Marks with a width of their own that begin a cluster of their own all the same. -/
def separateMarks : CharSet := ⟨[
  0x102B, 0x102D, 0x1038, 0x1039, 0x1062, 0x1065, 0x1067, 0x106E, 0x1083, 0x1084, 0x1087, 0x108D,
  0x108F, 0x1090, 0x109A, 0x109D, 0x1A61, 0x1A62, 0x1A63, 0x1A65, 0xAA7B, 0xAA7C, 0xAA7D, 0xAA7E,
  0x11720, 0x11722]⟩

def spacingMark : CharSet :=
  (((categories ["Mc"]).difference graphemeExtend).difference separateMarks).union
    (.ofCodes [0xE33, 0xEB3])

def prepend : CharSet :=
  prependedConcatenationMark.union ⟨[
    0xD4E, 0xD4F, 0x111C2, 0x111C4, 0x113D1, 0x113D2, 0x1193F, 0x11940, 0x11941, 0x11942, 0x11A3A,
    0x11A3B, 0x11A84, 0x11A8A, 0x11D46, 0x11D47, 0x11F02, 0x11F03]⟩

/-- Hangul syllables, which are numbered by their first consonant, their vowel and their last
consonant. -/
def syllables : CharSet := .range 0xAC00 0xD7A3

def openSyllables : CharSet :=
  .ofCodes ((List.range 399).map fun index => 0xAC00 + 28 * index)

def classes : List (List String × CharSet) := [
  (["cn", "control"], control), (["cr"], carriageReturn),
  (["ex", "extend"], graphemeExtend.union emojiModifier),
  (["l"], ⟨[0x1100, 0x1160, 0xA960, 0xA97D]⟩), (["lf"], lineFeed), (["lv"], openSyllables),
  (["lvt"], syllables.difference openSyllables), (["pp", "prepend"], prepend),
  (["ri", "regionalindicator"], regionalIndicator), (["sm", "spacingmark"], spacingMark),
  (["t"], ⟨[0x11A8, 0x1200, 0xD7CB, 0xD7FC]⟩),
  (["v"], ⟨[0x1160, 0x11A8, 0xD7B0, 0xD7C7, 0x16D63, 0x16D64, 0x16D67, 0x16D6B]⟩),
  (["zwj"], zeroWidthJoiner)]

end Cluster

namespace Word

def extend : CharSet :=
  (CharSet.unions [graphemeExtend, categories ["Mc"], emojiModifier]).difference zeroWidthJoiner

/-- Format characters that belong to numbers or letters. -/
def wordFormats : CharSet := ⟨[
  0x600, 0x606, 0x6DD, 0x6DE, 0x70F, 0x710, 0x890, 0x892, 0x8E2, 0x8E3, 0x200B, 0x200C, 0x110BD,
  0x110BE, 0x110CD, 0x110CE]⟩

def format : CharSet :=
  ((categories ["Cf"]).difference attached).difference wordFormats

def hebrewLetter : CharSet :=
  (script "hebrew").intersection (categories ["Lo"])

def katakana : CharSet :=
  (script "katakana").union ⟨[
    0x3031, 0x3036, 0x309B, 0x309D, 0x30A0, 0x30A1, 0x30FC, 0x30FD, 0xFF70, 0xFF71]⟩

/-- Characters that behave as letters though they are not alphabetic. -/
def letterLike : CharSet := ⟨[
  0x2C2, 0x2C6, 0x2D2, 0x2D8, 0x2DE, 0x2E0, 0x2E5, 0x2EC, 0x2ED, 0x2EE, 0x2EF, 0x300, 0x55A, 0x55D,
  0x55E, 0x55F, 0x58A, 0x58B, 0x5F3, 0x5F4, 0x70F, 0x710, 0xA708, 0xA717, 0xA720, 0xA722, 0xA789,
  0xA78B, 0xAB5B, 0xAB5C]⟩

/-- Scripts that put no space between words. -/
def unspaced : CharSet :=
  .unions (["thai", "lao", "khmer", "myanmar", "newtailue", "taile", "taitham", "taiviet", "ahom",
    "hiragana"].map script)

def letter : CharSet :=
  (alphabetic.difference
    (.unions [ideographic, katakana, extend, hebrewLetter, unspaced])).union letterLike

def numeric : CharSet :=
  decimalDigits.union ⟨[
    0x600, 0x606, 0x66B, 0x66C, 0x6DD, 0x6DE, 0x890, 0x892, 0x8E2, 0x8E3, 0x19DA, 0x19DB, 0x110BD,
    0x110BE, 0x110CD, 0x110CE]⟩

def connector : CharSet :=
  (categories ["Pc"]).union (.range 0x202F 0x202F)

def midNumber : CharSet := ⟨[
  0x2C, 0x2D, 0x3B, 0x3C, 0x37E, 0x37F, 0x589, 0x58A, 0x60C, 0x60E, 0x66C, 0x66D, 0x7F8, 0x7F9,
  0x2044, 0x2045, 0xFE50, 0xFE51, 0xFE54, 0xFE55, 0xFF0C, 0xFF0D, 0xFF1B, 0xFF1C]⟩

def space : CharSet := ⟨[
  0x20, 0x21, 0x1680, 0x1681, 0x2000, 0x2007, 0x2008, 0x200B, 0x205F, 0x2060, 0x3000, 0x3001]⟩

def classes : List (List String × CharSet) := [
  (["le", "aletter"], letter), (["cr"], carriageReturn),
  (["dq", "doublequote"], .range 0x22 0x22), (["ex", "extendnumlet"], connector),
  (["extend"], extend), (["fo", "format"], format), (["hl", "hebrewletter"], hebrewLetter),
  (["ka", "katakana"], katakana), (["lf"], lineFeed), (["mb", "midnumlet"], midNumLet),
  (["ml", "midletter"], midLetter), (["mn", "midnum"], midNumber),
  (["nl", "newline"], ⟨[0x0B, 0x0D, 0x85, 0x86, 0x2028, 0x202A]⟩), (["nu", "numeric"], numeric),
  (["ri", "regionalindicator"], regionalIndicator), (["sq", "singlequote"], singleQuote),
  (["wsegspace"], space), (["zwj"], zeroWidthJoiner)]

end Word

namespace Sentence

def separator : CharSet := ⟨[0x85, 0x86, 0x2028, 0x202A]⟩

def space : CharSet :=
  whiteSpace.difference (.unions [separator, carriageReturn, lineFeed])

/-- Georgian letters, whose two cases do not mark the start of a sentence. -/
def caselessSmall : CharSet := ⟨[0x10D0, 0x10FB, 0x10FD, 0x1100]⟩

def caselessCapital : CharSet := ⟨[0x1C90, 0x1CBB, 0x1CBD, 0x1CC0]⟩

def lower : CharSet :=
  (lowercase.difference attached).difference caselessSmall

def upper : CharSet :=
  ((uppercase.union (categories ["Lt"])).difference attached).difference caselessCapital

def letter : CharSet :=
  (alphabetic.union (.range 0x5F3 0x5F3)).difference (.unions [lower, upper, attached])

def numeric : CharSet :=
  Word.numeric.union (.range 0x66C 0x66C)

def format : CharSet :=
  (categories ["Cf"]).difference (attached.union numeric)

/-- Full stops, which do not always end a sentence. -/
def stop : CharSet := ⟨[0x2E, 0x2F, 0x2024, 0x2025, 0xFE52, 0xFE53, 0xFF0E, 0xFF0F]⟩

def close : CharSet :=
  (categories ["Ps", "Pe", "Pi", "Pf"]).union ⟨[
    0x22, 0x23, 0x27, 0x28, 0x275B, 0x2761, 0x2E00, 0x2E02, 0x2E06, 0x2E09, 0x2E0B, 0x2E0C, 0x1F676,
    0x1F679]⟩

def continuation : CharSet := ⟨[
  0x2C, 0x2E, 0x3A, 0x3C, 0x37E, 0x37F, 0x55D, 0x55E, 0x60C, 0x60E, 0x7F8, 0x7F9, 0x1802, 0x1803,
  0x1808, 0x1809, 0x2013, 0x2015, 0x3001, 0x3002, 0xFE10, 0xFE12, 0xFE13, 0xFE15, 0xFE31, 0xFE33,
  0xFE50, 0xFE52, 0xFE54, 0xFE56, 0xFE58, 0xFE59, 0xFE63, 0xFE64, 0xFF0C, 0xFF0E, 0xFF1A, 0xFF1C,
  0xFF64, 0xFF65]⟩

def classes : List (List String × CharSet) := [
  (["at", "aterm"], stop), (["cl", "close"], close), (["cr"], carriageReturn),
  (["ex", "extend"], attached), (["fo", "format"], format),
  (["le", "oletter"], letter), (["lf"], lineFeed), (["lo", "lower"], lower),
  (["nu", "numeric"], numeric), (["sc", "scontinue"], continuation), (["se", "sep"], separator),
  (["sp"], space), (["st", "sterm"], sentenceTerminal.difference stop), (["up", "upper"], upper)]

end Sentence

/-- The characters of the class with a name. -/
def class? (classes : List (List String × CharSet)) (name : Text) : Option CharSet :=
  (classes.find? fun (names, _) => names.contains name.str).map fun (_, set) => set

end Migration.Character
