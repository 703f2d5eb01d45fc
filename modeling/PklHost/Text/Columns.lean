import PklHost.Text.Emoji
import PklHost.Text.Width

/-!
# Columns of a text

The columns of a text are those of its characters, except where characters join with what follows them.
A picture with its selector or its skin tone, or several joined by U+200D, takes two columns whatever the
number of its characters; two letters of some scripts make one. So the columns are counted from the end,
with a note of what has been read last: `Follower`. Where nothing joins, they are the sum of the widths:
`columns_of_plain`.
-/

namespace PklHost.Text

/-- The letters alef, in all their forms. -/
def alefRanges : CodePointRanges := [
  (0x622, 0x623), (0x625, 0x625), (0x627, 0x627), (0x671, 0x673), (0x675, 0x675), (0x773, 0x774),
  (0x870, 0x882)]

/-- The letters lam, in all their forms. -/
def lamRanges : CodePointRanges := [
  (0x644, 0x644), (0x6b5, 0x6b8), (0x76a, 0x76a), (0x8a6, 0x8a6), (0x8c7, 0x8c7)]

/-- Letters of Khmer that have a form below another letter. -/
def subscriptRanges : CodePointRanges := [
  (0x1780, 0x1782), (0x1784, 0x1787), (0x1789, 0x178c), (0x178e, 0x1793), (0x1795, 0x1798),
  (0x179b, 0x179d), (0x17a0, 0x17a0), (0x17a2, 0x17a2), (0x17a7, 0x17a7), (0x17ab, 0x17ac),
  (0x17af, 0x17af)]

/-- Marks that are never drawn, between which letters join as if side by side. -/
def hiddenMarkRanges : CodePointRanges := [
  (0x34f, 0x34f), (0x17b4, 0x17b5), (0x180b, 0x180d), (0x180f, 0x180f), (0xfe00, 0xfe0f),
  (0xe0100, 0xe01ef)]

/-- The joiner, which makes one of two neighbours. -/
def joiner : Char := '\u200D'

/-! ## What follows a character -/

/-- The selectors of the form of the character before them. -/
inductive Selector where
  /-- The text form. -/
  | text
  /-- The picture. -/
  | picture
  /-- The wide form of a quotation mark. -/
  | wide
deriving DecidableEq, Repr

/-- Letters that make one with letters before them. -/
inductive Ligature where
  /-- The Arabic alef, after lam. -/
  | alef
  /-- The Hebrew lamed, joined to alef. -/
  | lamed
  /-- The Buginese ya, joined to a letter with the vowel sign i. -/
  | ya
  /-- The vowel sign and the ya. -/
  | signedYa
  /-- A consonant of Tifinagh, joined to another. -/
  | consonant
  /-- The consonant joiner of Tifinagh and a consonant. -/
  | joinedConsonant
  /-- A second tone letter of Lisu. -/
  | toneLetter
  /-- The Old Turkic letter i, joined to another. -/
  | orkhonI
  /-- A letter of Khmer that has a form below another. -/
  | subscript
deriving DecidableEq, Repr

/-- What follows a character, as far as it changes the columns of that character. -/
inductive Follower where
  /-- Nothing, or what joins with no character before it. -/
  | plain
  /-- A selector. -/
  | selector (s : Selector)
  /-- A picture. -/
  | picture
  /-- A skin tone. -/
  | tone
  /-- A letter of a flag. -/
  | flagLetter
  /-- Letters of flags, two or more. -/
  | flag
  /-- A joiner and a picture. -/
  | joined
  /-- The selector of pictures before that. -/
  | joinedSelector
  /-- The frame of a key before a joiner and a picture. -/
  | joinedKey
  /-- The selector of pictures before that. -/
  | joinedKeySelector
  /-- A letter of a flag before a joiner and a picture. -/
  | joinedFlagLetter
  /-- Letters of flags before that, an even number of them or an odd one. -/
  | joinedFlag (isEven : Bool)
  /-- The end of a tag before a joiner and a picture, with a number of letters before it. -/
  | tagLetters (count : Nat)
  /-- The same with a number of digits. -/
  | tagDigits (count : Nat)
  /-- The vowel sign e of Kirat Rai. -/
  | vowelE
  /-- The vowel sign ai of Kirat Rai. -/
  | vowelAi
  /-- A letter that makes one with letters before it, with a joiner before it or without, and with a
  selector before that or without. -/
  | ligature (l : Ligature) (hasJoiner : Bool) (pending : Option Selector)
deriving DecidableEq, Repr

/-- The selector that a character is. -/
def selector? (c : Char) : Option Selector :=
  match c.toNat with
  | 0xfe01 => some .wide
  | 0xfe0e => some .text
  | 0xfe0f => some .picture
  | _ => none

/-- A consonant of Tifinagh. -/
def isTifinaghConsonant (c : Char) : Bool :=
  decide (0x2d31 ≤ c.toNat) && decide (c.toNat ≤ 0x2d65) || c.toNat = 0x2d6f

/-- A quotation mark with a wide form. -/
def isQuotationMark (c : Char) : Bool :=
  [0x2018, 0x2019, 0x201c, 0x201d].contains c.toNat

/-- The ligature that a letter may end. -/
def ligature? (c : Char) : Option Ligature :=
  match c.toNat with
  | 0x5dc => some .lamed
  | 0x1a10 => some .ya
  | 0xa4fc | 0xa4fd => some .toneLetter
  | 0x10c03 => some .orkhonI
  | n =>
    if alefRanges.contains n then some .alef
    else if isTifinaghConsonant c then some .consonant
    else if subscriptRanges.contains n then some .subscript
    else none

/-- What a character is to the one before it, if it joins with nothing after it. -/
def Follower.of (c : Char) : Follower :=
  if c.toNat < 0x500 then .plain
  else
    match selector? c with
    | some s => .selector s
    | none =>
      match ligature? c with
      | some l => .ligature l false none
      | none =>
        if isTone c then .tone
        else if isFlagLetter c then .flagLetter
        else if isPicture c then .picture
        else if c.toNat = 0x16d67 then .vowelE
        else if c.toNat = 0x16d68 then .vowelAi
        else .plain

/-- The columns of a character that joins with nothing after it, and what it is to the one before. -/
def standing (c : Char) : Int × Follower :=
  (charWidth c, .of c)

/-! ## Joining -/

/-- The columns of a character whose form the selector after it decides. -/
def Follower.selected? (c : Char) : Follower → Option (Int × Follower)
  | .joinedSelector | .joinedKeySelector => if isSelectable c then some (0, .picture) else none
  | .selector s | .ligature _ _ (some s) =>
    match s with
    | .picture => if isSelectable c then some (2, .picture) else none
    | .text => if isNarrowAsText c then some (1, .plain) else none
    | .wide => if isQuotationMark c then some (2, .plain) else none
  | _ => none

/-- A follower whose selector decided nothing. -/
def Follower.unselected : Follower → Follower
  | .selector _ | .joinedSelector | .joinedKeySelector => .plain
  | .ligature l hasJoiner _ => .ligature l hasJoiner none
  | f => f

/-- A selector before a follower. It hides all but a ligature, and a picture with a joiner from the
selector of pictures. -/
def Follower.select (s : Selector) : Follower → Follower
  | .ligature l hasJoiner _ => .ligature l hasJoiner (some s)
  | .joined => if s = .picture then .joinedSelector else .selector s
  | .joinedKey => if s = .picture then .joinedKeySelector else .selector s
  | _ => .selector s

/-- The columns of a character that makes one with a ligature's letters. The joining signs of Khmer and
Tifinagh take away a column that was counted for a letter. -/
def Ligature.before? (hasJoiner : Bool) (c : Char) : Ligature → Option (Int × Follower)
  | .alef =>
    if lamRanges.contains c.toNat then some (0, .plain)
    else if isTransparent c then some (0, .ligature .alef hasJoiner none)
    else none
  | .lamed => if hasJoiner && c.toNat = 0x5d0 then some (0, .plain) else none
  | .ya => if hasJoiner && c.toNat = 0x1a17 then some (0, .ligature .signedYa false none) else none
  | .signedYa => if c.toNat = 0x1a15 then some (0, .plain) else none
  | .consonant =>
    if c.toNat = 0x2d7f then some (1, .ligature .joinedConsonant false none)
    else if hasJoiner && isTifinaghConsonant c then some (0, .plain)
    else none
  | .joinedConsonant => if isTifinaghConsonant c then some (-1, .plain) else none
  | .toneLetter =>
    if 0xa4f8 ≤ c.toNat ∧ c.toNat ≤ 0xa4fb then some (0, .plain) else none
  | .orkhonI => if hasJoiner && c.toNat = 0x10c32 then some (0, .plain) else none
  | .subscript => if c.toNat = 0x17d2 then some (-1, .plain) else none

/-- The columns of a character that joins with what follows it. Letters of flags pair off from the first
one on, so before a joiner and a picture the second letter takes back the column of the first, and the
third gives the pair its columns again. -/
def Follower.before? (c : Char) : Follower → Option (Int × Follower)
  | .plain | .selector _ | .joinedSelector | .joinedKey | .joinedKeySelector => none
  | .picture => if c = joiner then some (0, .joined) else none
  | .tone =>
    if c = joiner then some (0, .joined)
    else if takesTone c then some (0, .picture)
    else none
  | .flagLetter => if isFlagLetter c then some (1, .flag) else none
  | .flag =>
    if c = joiner then some (0, .joined) else if isFlagLetter c then some (1, .flag) else none
  | .joined =>
    if c.toNat = 0x20e3 then some (0, .joinedKey)
    else if isFlagLetter c then some (1, .joinedFlagLetter)
    else if isTone c then some (0, .tone)
    else if c.toNat = 0xe007f then some (0, .tagLetters 0)
    else if isPicture c then some (0, .picture)
    else none
  | .joinedFlagLetter => if isFlagLetter c then some (-1, .joinedFlag true) else none
  | .joinedFlag isEven =>
    if c = joiner then some (0, .joined)
    else if isFlagLetter c then some (if isEven then (3, .joinedFlag false) else (-1, .joinedFlag true))
    else none
  | .tagLetters count =>
    if isTagLetter c && count < 6 then some (0, .tagLetters (count + 1))
    else if isTagDigit c && count < 5 then some (0, .tagDigits 1)
    else if c.toNat = 0x1f3f4 && 3 ≤ count then some (0, .picture)
    else none
  | .tagDigits count =>
    if isTagDigit c && count < 3 then some (0, .tagDigits (count + 1))
    else if c.toNat = 0x1f3f4 && count = 3 then some (0, .picture)
    else none
  | .vowelE =>
    match c.toNat with
    | 0x16d63 | 0x16d69 => some (0, .plain)
    | 0x16d67 => some (0, .vowelAi)
    | 0x16d68 => some (1, .vowelE)
    | _ => none
  | .vowelAi => if c.toNat = 0x16d63 then some (0, .plain) else none
  | .ligature l hasJoiner s =>
    if l ≠ .alef ∧ c = joiner then some (0, .ligature l true s)
    else if l ≠ .alef ∧ hiddenMarkRanges.contains c.toNat then some (0, .ligature l hasJoiner s)
    else l.before? hasJoiner c

/-- The columns that a character adds before a follower, and what it is to the one before it. -/
def Follower.before (c : Char) (f : Follower) : Int × Follower :=
  match f.selected? c with
  | some r => r
  | none =>
    if c.toNat < 0xa1 then standing c
    else
      match selector? c with
      | some s => (0, f.unselected.select s)
      | none => (f.unselected.before? c).getD (standing c)

/-- The columns of a run of characters, and what the run is to a character before it. -/
def columns (cs : List Char) : Int × Follower :=
  cs.foldr (fun c after =>
    let here := after.2.before c
    (here.1 + after.1, here.2)) (0, .plain)

/-- The columns of a line of text. -/
def lineWidth (s : String) : Nat :=
  (columns s.toList).1.toNat

/-! ## Laws -/

theorem columns_cons (c : Char) (cs : List Char) :
    columns (c :: cs) =
      (((columns cs).2.before c).1 + (columns cs).1, ((columns cs).2.before c).2) := rfl

theorem Follower.before_plain {c : Char} (h : selector? c = none) :
    Follower.plain.before c = standing c := by
  simp [Follower.before, Follower.selected?, Follower.unselected, Follower.before?, h]

theorem selector?_eq_none {c : Char} (h : Follower.of c = .plain) : selector? c = none := by
  unfold Follower.of at h
  split at h
  · next hlow =>
    unfold selector?
    split
    · omega
    · omega
    · omega
    · rfl
  · split at h
    · cases h
    · assumption

/-- Characters that join with nothing before them take the sum of their widths. -/
theorem columns_of_plain {cs : List Char} (h : ∀ c ∈ cs, Follower.of c = .plain) :
    columns cs = (Int.ofNat (cs.foldr (fun c n => charWidth c + n) 0), .plain) := by
  induction cs with
  | nil => rfl
  | cons c cs ih =>
    have hc := h c (by simp)
    rw [columns_cons, ih fun d hd => h d (by simp [hd]), Follower.before_plain (selector?_eq_none hc)]
    simp [standing, hc]

/-- A picture takes two columns, with its selector, its tone, or another picture joined to it. -/
example : lineWidth "❤️" = 2 ∧ lineWidth "👍🏽" = 2 ∧ lineWidth "👩‍💻" = 2 ∧ lineWidth "🏳️‍🌈" = 2 ∧
    lineWidth "🇪🇺" = 2 := by decide +kernel

/-- A selector decides between the forms; digits become keys. -/
example : lineWidth "❤" = 1 ∧ lineWidth "⌚" = 2 ∧ lineWidth "⌚\uFE0E" = 1 ∧ lineWidth "1️⃣" = 2 ∧
    lineWidth "12" = 2 ∧ lineWidth "\u2018\uFE01" = 2 ∧ lineWidth "\u2018\uFE00" = 1 := by
  decide +kernel

/-- The second letter of the name of Khmer is below the first one. -/
example : lineWidth "ខ្មែរ" = 3 ∧ lineWidth "a\u00ADb" = 2 := by decide +kernel

/-- Lam and alef make one letter, unless a non-joiner parts them. -/
example : lineWidth "لا" = 1 ∧ lineWidth "لَا" = 1 ∧ lineWidth "ل\u200Cا" = 2 ∧
    lineWidth "日本é" = 5 := by decide +kernel

end PklHost.Text
