import PklHost.Text.Mark

/-!
# Writing direction

Letters run to the left or to the right; numbers and marks take part in either direction. A label with
both directions in it would be drawn in an order that nobody can read back, so a name that holds letters
to the left is bound to a rule for each of its labels.
-/

namespace PklHost.Text

/-- How a character takes part in the direction of its surroundings. -/
inductive Direction where
  /-- A letter of a script from left to right. -/
  | rightward
  /-- A letter of a script from right to left. -/
  | leftward
  /-- An Arabic digit. -/
  | arabicNumber
  /-- Another digit. -/
  | europeanNumber
  /-- A nonspacing mark. -/
  | mark
  /-- Punctuation and symbols. -/
  | neutral
deriving DecidableEq, Repr

/-- Letters of scripts from right to left. -/
def leftwardRanges : CodePointRanges := [
  (0x5be, 0x5be), (0x5c0, 0x5c0), (0x5c3, 0x5c3), (0x5c6, 0x5c6), (0x5d0, 0x5ea), (0x5ef, 0x5f4),
  (0x608, 0x608), (0x60b, 0x60b), (0x60d, 0x60d), (0x61b, 0x61b), (0x61d, 0x64a), (0x66d, 0x66f),
  (0x671, 0x674), (0x679, 0x6d5), (0x6e5, 0x6e6), (0x6ee, 0x6ef), (0x6fa, 0x70d), (0x70f, 0x710),
  (0x712, 0x72f), (0x74d, 0x7a5), (0x7b1, 0x7b1), (0x7c0, 0x7ea), (0x7f4, 0x7f5), (0x7fa, 0x7fa),
  (0x7fe, 0x815), (0x81a, 0x81a), (0x824, 0x824), (0x828, 0x828), (0x830, 0x83e), (0x840, 0x858),
  (0x85e, 0x85e), (0x860, 0x86a), (0x870, 0x88e), (0x8a0, 0x8c9), (0xfbb2, 0xfbc2),
  (0xfe73, 0xfe73), (0x10800, 0x10805), (0x10808, 0x10808), (0x1080a, 0x10835), (0x10837, 0x10838),
  (0x1083c, 0x1083c), (0x1083f, 0x10855), (0x10857, 0x1089e), (0x108a7, 0x108af),
  (0x108e0, 0x108f2), (0x108f4, 0x108f5), (0x108fb, 0x1091b), (0x10920, 0x10939),
  (0x1093f, 0x1093f), (0x10980, 0x109b7), (0x109bc, 0x109cf), (0x109d2, 0x10a00),
  (0x10a10, 0x10a13), (0x10a15, 0x10a17), (0x10a19, 0x10a35), (0x10a40, 0x10a48),
  (0x10a50, 0x10a58), (0x10a60, 0x10a9f), (0x10ac0, 0x10ae4), (0x10aeb, 0x10af6),
  (0x10b00, 0x10b35), (0x10b40, 0x10b55), (0x10b58, 0x10b72), (0x10b78, 0x10b91),
  (0x10b99, 0x10b9c), (0x10ba9, 0x10baf), (0x10c00, 0x10c48), (0x10cc0, 0x10cf2),
  (0x10cfa, 0x10d23), (0x10d4a, 0x10d4f), (0x10d6f, 0x10d85), (0x10d8e, 0x10d8f),
  (0x10e80, 0x10ea9), (0x10ead, 0x10ead), (0x10eb0, 0x10eb1), (0x10ec2, 0x10ec4),
  (0x10f00, 0x10f27), (0x10f30, 0x10f45), (0x10f51, 0x10f59), (0x10f70, 0x10f81),
  (0x10f86, 0x10f89), (0x10fb0, 0x10fcb), (0x10fe0, 0x10ff6), (0x1e800, 0x1e8c4),
  (0x1e8c7, 0x1e8cf), (0x1e922, 0x1e943), (0x1e94b, 0x1e94b), (0x1e950, 0x1e959),
  (0x1e95e, 0x1e95f), (0x1ec71, 0x1ecb4), (0x1ed01, 0x1ed3d)]

/-- Arabic digits and their separators. -/
def arabicNumberRanges : CodePointRanges := [
  (0x600, 0x605), (0x660, 0x669), (0x66b, 0x66c), (0x6dd, 0x6dd), (0x890, 0x891), (0x8e2, 0x8e2),
  (0x10d30, 0x10d39), (0x10d40, 0x10d49), (0x10e60, 0x10e7e)]

/-- Digits of other scripts that are read in either direction. -/
def europeanNumberRanges : CodePointRanges := [
  (0x6f0, 0x6f9), (0x102e1, 0x102fb)]

/-- Punctuation and symbols beyond ASCII. -/
def neutralRanges : CodePointRanges := [
  (0xa1, 0xa7), (0xa9, 0xa9), (0xab, 0xac), (0xae, 0xae), (0xb0, 0xb1), (0xb6, 0xb7), (0xbb, 0xbb),
  (0xbf, 0xbf), (0xd7, 0xd7), (0xf7, 0xf7), (0x2b9, 0x2ba), (0x2c2, 0x2cf), (0x2d2, 0x2d7),
  (0x2de, 0x2df), (0x2e5, 0x2ed), (0x2ef, 0x2ff), (0x375, 0x375), (0x3f6, 0x3f6), (0x58a, 0x58a),
  (0x58d, 0x58f), (0x606, 0x607), (0x609, 0x60a), (0x60c, 0x60c), (0x60e, 0x60f), (0x66a, 0x66a),
  (0x6de, 0x6de), (0x6e9, 0x6e9), (0x7f6, 0x7f9), (0x9f2, 0x9f3), (0x9fb, 0x9fb), (0xaf1, 0xaf1),
  (0xbf3, 0xbfa), (0xc78, 0xc7e), (0xe3f, 0xe3f), (0xf3a, 0xf3d), (0x1390, 0x1399),
  (0x1400, 0x1400), (0x169b, 0x169c), (0x17db, 0x17db), (0x17f0, 0x17f9), (0x1800, 0x180a),
  (0x1940, 0x1940), (0x1944, 0x1945), (0x19de, 0x19ff), (0x2010, 0x2010), (0x2012, 0x2016),
  (0x2018, 0x2023), (0x2027, 0x2027), (0x2030, 0x2032), (0x2035, 0x2035), (0x2038, 0x203b),
  (0x203d, 0x203d), (0x203f, 0x2046), (0x204a, 0x2056), (0x2058, 0x205e), (0x20a0, 0x20a7),
  (0x20a9, 0x20c0), (0x2104, 0x2104), (0x2108, 0x2108), (0x2114, 0x2114), (0x2117, 0x2118),
  (0x211e, 0x211f), (0x2123, 0x2123), (0x2125, 0x2125), (0x2127, 0x2127), (0x2129, 0x2129),
  (0x212e, 0x212e), (0x213a, 0x213a), (0x2141, 0x2144), (0x214a, 0x214d), (0x218a, 0x218b),
  (0x2190, 0x222b), (0x222e, 0x222e), (0x2231, 0x2328), (0x232b, 0x2335), (0x237b, 0x2394),
  (0x2396, 0x2426), (0x2440, 0x244a), (0x24eb, 0x26ab), (0x26ad, 0x27ff), (0x2900, 0x2a0b),
  (0x2a0d, 0x2a73), (0x2a77, 0x2adb), (0x2add, 0x2b73), (0x2b76, 0x2b95), (0x2b97, 0x2bff),
  (0x2ce5, 0x2cea), (0x2cf9, 0x2cff), (0x2e00, 0x2e5d), (0x2e80, 0x2e99), (0x2e9b, 0x2e9e),
  (0x2ea0, 0x2ef2), (0x3001, 0x3001), (0x3003, 0x3004), (0x3008, 0x3020), (0x3030, 0x3030),
  (0x3037, 0x3037), (0x303d, 0x303f), (0x30a0, 0x30a0), (0x30fb, 0x30fb), (0x31c0, 0x31e3),
  (0x4dc0, 0x4dff), (0xa490, 0xa4c6), (0xa60d, 0xa60f), (0xa673, 0xa673), (0xa67e, 0xa67f),
  (0xa700, 0xa721), (0xa788, 0xa788), (0xa828, 0xa82b), (0xa838, 0xa839), (0xa874, 0xa877),
  (0xab6a, 0xab6b), (0xfd3e, 0xfd4f), (0xfdcf, 0xfdcf), (0xfdfd, 0xfdff), (0xfe45, 0xfe46),
  (0xfff9, 0xfffb), (0x10101, 0x10101), (0x10140, 0x1018c), (0x10190, 0x1019c), (0x101a0, 0x101a0),
  (0x1091f, 0x1091f), (0x10b39, 0x10b3f), (0x11052, 0x11065), (0x11660, 0x1166c),
  (0x11fd5, 0x11ff1), (0x16fe2, 0x16fe2), (0x1d1e9, 0x1d1ea), (0x1d200, 0x1d241),
  (0x1d245, 0x1d245), (0x1d300, 0x1d356), (0x1e2ff, 0x1e2ff), (0x1eef0, 0x1eef1),
  (0x1f000, 0x1f02b), (0x1f030, 0x1f093), (0x1f0a0, 0x1f0ae), (0x1f0b1, 0x1f0bf),
  (0x1f0c1, 0x1f0cf), (0x1f0d1, 0x1f0f5), (0x1f10b, 0x1f10f), (0x1f12f, 0x1f12f),
  (0x1f16d, 0x1f16f), (0x1f1ad, 0x1f1ad), (0x1f260, 0x1f265), (0x1f300, 0x1f6d7),
  (0x1f6dc, 0x1f6ec), (0x1f6f0, 0x1f6fc), (0x1f700, 0x1f776), (0x1f77b, 0x1f7d9),
  (0x1f7e0, 0x1f7eb), (0x1f7f0, 0x1f7f0), (0x1f800, 0x1f80b), (0x1f810, 0x1f847),
  (0x1f850, 0x1f859), (0x1f860, 0x1f887), (0x1f890, 0x1f8ad), (0x1f8b0, 0x1f8b1),
  (0x1f900, 0x1fa53), (0x1fa60, 0x1fa6d), (0x1fa70, 0x1fa7c), (0x1fa80, 0x1fa88),
  (0x1fa90, 0x1fabd), (0x1fabf, 0x1fac5), (0x1face, 0x1fadb), (0x1fae0, 0x1fae8),
  (0x1faf0, 0x1faf8), (0x1fb00, 0x1fb92), (0x1fb94, 0x1fbca)]

/-- The direction of a character. -/
def direction (c : Char) : Direction :=
  let n := c.toNat
  if n < 0x80 then
    if c.isAlpha then .rightward else if c.isDigit then .europeanNumber else .neutral
  else if leftwardRanges.contains n then .leftward
  else if isNonspacing c then .mark
  else if arabicNumberRanges.contains n then .arabicNumber
  else if europeanNumberRanges.contains n then .europeanNumber
  else if neutralRanges.contains n || n = 0x200c || n = 0x200d then .neutral
  else .rightward

/-- A character that binds a name to the rule. -/
def needsDirection (c : Char) : Bool :=
  match direction c with
  | .leftward | .arabicNumber => true
  | _ => false

/-- What may stand inside a label whose first letter has a direction. -/
def Direction.mayStandIn (label : Direction) : Direction → Bool
  | .rightward => label = .rightward
  | .leftward | .arabicNumber => label = .leftward
  | _ => true

/-- What may end such a label. -/
def Direction.mayEnd (label : Direction) : Direction → Bool
  | .mark | .neutral => false
  | other => label.mayStandIn other

/-- A label keeps to the direction of its first character, which is a letter: it ends in a letter or
digit, marks aside, and a label to the left has digits of one kind. -/
def keepsDirection : List Char → Bool
  | [] => true
  | first :: rest =>
    let way := direction first
    let others := rest.map direction
    let trimmed := (others.reverse.dropWhile (· = .mark)).reverse
    (way = .rightward || way = .leftward) && others.all way.mayStandIn &&
      (trimmed.getLast?.all way.mayEnd) &&
      !(way = .leftward && others.contains .arabicNumber && others.contains .europeanNumber)

/-- A digit may end a label in either direction, and begin none. -/
example : keepsDirection "a1".toList = true ∧ keepsDirection "א1".toList = true ∧
    keepsDirection "1א".toList = false ∧ keepsDirection "aא".toList = false ∧
    keepsDirection "א-".toList = false := by decide +kernel

end PklHost.Text
