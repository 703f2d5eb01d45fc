import Mathlib.Data.List.TakeWhile
import PklHost.Double.Text
import PklHost.Proofs.Double.Shortest

/-!
# The text of a number read back

A decimal text is read as the digits before and after its point, and the exponent after its `e`.  Whatever
the style, the text of a decimal reads as that decimal (`readDecimal_decimalText`): zeros that fill it up,
the place of the point and the sign of the exponent do not count.  As the shortest digits read back as one
number only, finite numbers with the same text are the same (`text_injective`).
-/

namespace PklHost

open Nat (ofDigitChars toDigits)

/-! ## Reading a decimal text -/

/-- Digits, of which those after the point count as a fraction. -/
def readPlain (cs : List Char) : ℚ :=
  ofDigitChars 10 (cs.filter (· != '.')) 0 *
    (10 : ℚ) ^ (-(((cs.dropWhile (· != '.')).drop 1).length : Int))

/-- An exponent with or without a sign; none is zero. -/
def readExponent : List Char → Int
  | '-' :: ds => -(ofDigitChars 10 ds 0 : Int)
  | '+' :: ds => ofDigitChars 10 ds 0
  | ds => ofDigitChars 10 ds 0

/-- A text without a sign. -/
def readDecimal (cs : List Char) : ℚ :=
  readPlain (cs.takeWhile (· != 'e')) * (10 : ℚ) ^ readExponent ((cs.dropWhile (· != 'e')).drop 1)

/-- Only digits. -/
def AllDigits (cs : List Char) : Prop := ∀ c ∈ cs, c.isDigit = true

namespace AllDigits

theorem append {cs ds : List Char} (hcs : AllDigits cs) (hds : AllDigits ds) : AllDigits (cs ++ ds) :=
  List.forall_mem_append.2 ⟨hcs, hds⟩

theorem replicate_zero (n : Nat) : AllDigits (List.replicate n '0') := fun c hc => by
  rw [List.eq_of_mem_replicate hc]
  decide

theorem toDigits (n : Nat) : AllDigits (toDigits 10 n) := fun _ hc =>
  Nat.isDigit_of_mem_toDigits (by decide) (by decide) hc

theorem toString (n : Nat) : AllDigits (toString n).toList := by
  rw [Nat.toString_eq_repr, Nat.toList_repr]
  exact toDigits n

theorem ne {cs : List Char} (h : AllDigits cs) {mark : Char} (hmark : mark.isDigit = false) :
    ∀ c ∈ cs, (c != mark) = true := fun c hc => by
  have hdigit := h c hc
  rw [bne_iff_ne]
  rintro rfl
  rw [hdigit] at hmark
  cases hmark

end AllDigits

theorem readPlain_point {whole fraction : List Char} (hwhole : AllDigits whole)
    (hfraction : AllDigits fraction) :
    readPlain (whole ++ '.' :: fraction) =
      ofDigitChars 10 (whole ++ fraction) 0 * (10 : ℚ) ^ (-(fraction.length : Int)) := by
  have hfilter : (whole ++ '.' :: fraction).filter (· != '.') = whole ++ fraction := by
    rw [List.filter_append, List.filter_cons_of_neg (by decide),
      List.filter_eq_self.2 (hwhole.ne (by decide)), List.filter_eq_self.2 (hfraction.ne (by decide))]
  have hdrop : (whole ++ '.' :: fraction).dropWhile (· != '.') = '.' :: fraction := by
    rw [List.dropWhile_append_of_pos (hwhole.ne (by decide)), List.dropWhile_cons_of_neg (by decide)]
  rw [readPlain, hfilter, hdrop]
  rfl

theorem readPlain_whole {whole : List Char} (hwhole : AllDigits whole) :
    readPlain whole = ofDigitChars 10 whole 0 := by
  have hdrop : whole.dropWhile (· != '.') = [] := List.dropWhile_eq_nil_iff.2 (hwhole.ne (by decide))
  rw [readPlain, List.filter_eq_self.2 (hwhole.ne (by decide)), hdrop]
  exact mul_one _

theorem readDecimal_plain {cs : List Char} (h : ∀ c ∈ cs, (c != 'e') = true) :
    readDecimal cs = readPlain cs := by
  rw [readDecimal, List.takeWhile_eq_self_iff.2 h, List.dropWhile_eq_nil_iff.2 h]
  exact mul_one _

theorem readDecimal_exponent {cs ds : List Char} (h : ∀ c ∈ cs, (c != 'e') = true) :
    readDecimal (cs ++ 'e' :: ds) = readPlain cs * (10 : ℚ) ^ readExponent ds := by
  rw [readDecimal, List.takeWhile_append_of_pos h, List.dropWhile_append_of_pos h,
    List.takeWhile_cons_of_neg (by decide), List.dropWhile_cons_of_neg (by decide), List.append_nil]
  rfl

/-! ## The exponent -/

theorem ofDigitChars_toString (n : Nat) : ofDigitChars 10 (toString n).toList 0 = n := by
  rw [Nat.toString_eq_repr, Nat.toList_repr]
  exact Nat.ofDigitChars_toDigits (by decide) (by decide)

/-- Without a sign. -/
theorem readExponent_digits {ds : List Char} (h : AllDigits ds) :
    readExponent ds = ofDigitChars 10 ds 0 := by
  cases ds with
  | nil => rfl
  | cons d ds =>
      have hdigit := h d List.mem_cons_self
      unfold readExponent
      split
      · next heq =>
          cases heq
          exact absurd hdigit (by decide)
      · next heq =>
          cases heq
          exact absurd hdigit (by decide)
      · rfl

theorem readExponent_toString (e : Int) : readExponent (toString e).toList = e := by
  cases e with
  | ofNat n =>
      show readExponent (toString n).toList = (n : Int)
      rw [readExponent_digits (AllDigits.toString n), ofDigitChars_toString]
  | negSucc n =>
      have hlist : (toString (Int.negSucc n)).toList = '-' :: (toString (n + 1)).toList :=
        String.toList_append
      rw [hlist]
      show -(ofDigitChars 10 (toString (n + 1)).toList 0 : Int) = Int.negSucc n
      rw [ofDigitChars_toString]
      rfl

theorem readExponent_signed {e : Int} (he : 0 ≤ e) :
    readExponent ('+' :: (toString e).toList) = e := by
  obtain ⟨n, rfl⟩ := Int.eq_ofNat_of_zero_le he
  show ((ofDigitChars 10 (toString n).toList 0 : Nat) : Int) = n
  rw [ofDigitChars_toString]

/-! ## The text of a decimal -/

/-- How the digits of a number, of which `width` stand left of the point, are written. -/
inductive Layout (style : NumberStyle) (digits : List Char) (width : Int) : List Char → Prop
  /-- All after the point, filled up with zeros. -/
  | fraction (hwidth : width ≤ 0) :
    Layout style digits width (['0'] ++ '.' :: (List.replicate (-width).toNat '0' ++ digits))
  /-- On both sides of the point. -/
  | divided (hleft : 0 < width) (hright : width.toNat < digits.length) :
    Layout style digits width (digits.take width.toNat ++ '.' :: digits.drop width.toNat)
  /-- All before the point, filled up with zeros. -/
  | wholePoint (hwidth : digits.length ≤ width.toNat) (hleft : 0 < width) :
    Layout style digits width
      ((digits ++ List.replicate (width.toNat - digits.length) '0') ++ '.' :: ['0'])
  | whole (hwidth : digits.length ≤ width.toNat) (hleft : 0 < width) (hstyle : style.keepsPoint = false) :
    Layout style digits width (digits ++ List.replicate (width.toNat - digits.length) '0')
  /-- One before the point, and an exponent. -/
  | exponent {head : Char} {tail ds : List Char} (hdigits : digits = head :: tail)
    (hds : readExponent ds = width - 1) : Layout style digits width (([head] ++ '.' :: tail) ++ 'e' :: ds)
  | exponentWhole {head : Char} {ds : List Char} (hdigits : digits = [head])
    (hds : readExponent ds = width - 1) : Layout style digits width ([head] ++ 'e' :: ds)

namespace NumberStyle

variable (style : NumberStyle)

theorem layout_positionalText (digits : String) (width : Int) :
    Layout style digits.toList width (style.positionalText digits width).toList := by
  unfold positionalText
  dsimp only
  split
  · next hwidth =>
      simp only [String.toList_append, String.toList_ofList]
      exact .fraction hwidth
  · next hpos =>
      rw [← String.length_toList]
      split
      · next hinside =>
          simp only [String.toList_append, String.toList_ofList, List.append_assoc]
          exact .divided (not_le.1 hpos) hinside
      · next houtside =>
          simp only [String.toList_append, String.toList_ofList]
          split
          · exact .wholePoint (not_lt.1 houtside) (not_le.1 hpos)
          · next hplain =>
              rw [String.toList_empty, List.append_nil]
              exact .whole (not_lt.1 houtside) (not_le.1 hpos) (Bool.eq_false_of_not_eq_true hplain)

theorem layout_exponentText {digits : String} (hne : digits.toList ≠ []) (width : Int) :
    Layout style digits.toList width (style.exponentText digits width).toList := by
  obtain ⟨head, tail, hdigits⟩ := List.exists_cons_of_ne_nil hne
  let sign : List Char := if 0 ≤ width - 1 ∧ style.signsExponent then ['+'] else []
  have hexponent : readExponent (sign ++ (toString (width - 1)).toList) = width - 1 := by
    show readExponent ((if 0 ≤ width - 1 ∧ style.signsExponent then ['+'] else []) ++ _) = _
    split
    · next hsigned => exact readExponent_signed hsigned.1
    · exact readExponent_toString (width - 1)
  have hsign : (if 0 ≤ width - 1 ∧ style.signsExponent then "+" else "").toList = sign := by
    show _ = if 0 ≤ width - 1 ∧ style.signsExponent then ['+'] else []
    split <;> rfl
  have htext : (style.exponentText digits width).toList =
      [head] ++ (if tail = [] then [] else '.' :: tail) ++
        'e' :: (sign ++ (toString (width - 1)).toList) := by
    unfold exponentText
    simp only [hdigits, List.take_succ_cons, List.take_zero, List.drop_succ_cons, List.drop_zero,
      String.toList_append, String.toList_ofList, hsign, String.isEmpty_iff, String.ofList_eq_empty_iff]
    split
    · simp only [List.append_assoc]
      rfl
    · simp only [String.toList_append, String.toList_ofList, List.append_assoc]
      rfl
  rw [htext]
  cases tail with
  | nil => exact .exponentWhole hdigits hexponent
  | cons c cs => exact .exponent hdigits hexponent

/-- The text of a decimal lays out its digits. -/
theorem layout_decimalText (d : Decimal) :
    Layout style (toString d.digits).toList ((toString d.digits).length + d.exponent)
      (style.decimalText d).toList := by
  have hne : (toString d.digits).toList ≠ [] := by
    rw [Nat.toString_eq_repr, Nat.toList_repr]
    exact Nat.toDigits_ne_nil
  unfold decimalText
  split
  · exact style.layout_positionalText _ _
  · dsimp only
    split
    · exact style.layout_positionalText _ _
    · exact style.layout_exponentText hne _

end NumberStyle

/-- No digit and no point opens an exponent. -/
theorem AllDigits.ne_exponent {whole fraction : List Char} (hwhole : AllDigits whole)
    (hfraction : AllDigits fraction) : ∀ c ∈ whole ++ '.' :: fraction, (c != 'e') = true := by
  rw [List.forall_mem_append, List.forall_mem_cons]
  exact ⟨hwhole.ne (by decide), by decide, hfraction.ne (by decide)⟩

theorem ofDigitChars_append_zeros (ds : List Char) (n : Nat) :
    ofDigitChars 10 (ds ++ List.replicate n '0') 0 = 10 ^ n * ofDigitChars 10 ds 0 := by
  rw [Nat.ofDigitChars_append, Nat.ofDigitChars_replicate_zero]

theorem ofDigitChars_zeros_append (ds : List Char) (n : Nat) :
    ofDigitChars 10 (List.replicate n '0' ++ ds) 0 = ofDigitChars 10 ds 0 := by
  rw [Nat.ofDigitChars_append, Nat.ofDigitChars_replicate_zero, Nat.mul_zero]

/-- The digits of a layout, with their point, are a rational. -/
theorem Layout.readDecimal_eq {style : NumberStyle} {digits cs : List Char} {width : Int}
    (h : Layout style digits width cs) (hdigits : AllDigits digits) :
    readDecimal cs = ofDigitChars 10 digits 0 * (10 : ℚ) ^ (width - digits.length) := by
  have hten : (10 : ℚ) ≠ 0 := by norm_num
  have hzero : AllDigits ['0'] := AllDigits.replicate_zero 1
  cases h with
  | fraction hwidth =>
      have hfraction : AllDigits (List.replicate (-width).toNat '0' ++ digits) :=
        (AllDigits.replicate_zero _).append hdigits
      have hlength : -((List.replicate (-width).toNat '0' ++ digits).length : Int) = width - digits.length := by
        rw [List.length_append, List.length_replicate]
        omega
      have hvalue : ofDigitChars 10 (['0'] ++ (List.replicate (-width).toNat '0' ++ digits)) 0 =
          ofDigitChars 10 digits 0 := ofDigitChars_zeros_append digits ((-width).toNat)
      rw [readDecimal_plain (hzero.ne_exponent hfraction), readPlain_point hzero hfraction, hlength, hvalue]
  | divided hleft hright =>
      have htake : AllDigits (digits.take width.toNat) := fun c hc => hdigits c (List.mem_of_mem_take hc)
      have hdrop : AllDigits (digits.drop width.toNat) := fun c hc => hdigits c (List.mem_of_mem_drop hc)
      have hlength : -((digits.drop width.toNat).length : Int) = width - digits.length := by
        rw [List.length_drop]
        omega
      rw [readDecimal_plain (htake.ne_exponent hdrop), readPlain_point htake hdrop, hlength,
        List.take_append_drop]
  | wholePoint hwidth hleft =>
      have hwhole := hdigits.append (AllDigits.replicate_zero (width.toNat - digits.length))
      have hvalue : ofDigitChars 10 ((digits ++ List.replicate (width.toNat - digits.length) '0') ++ ['0']) 0 =
          10 ^ (width.toNat - digits.length + 1) * ofDigitChars 10 digits 0 := by
        rw [List.append_assoc, ← List.replicate_succ', ofDigitChars_append_zeros]
      have hexponent : width - digits.length = ((width.toNat - digits.length : Nat) : Int) := by omega
      rw [readDecimal_plain (hwhole.ne_exponent hzero), readPlain_point hwhole hzero, hvalue, hexponent,
        zpow_natCast, Nat.cast_mul, Nat.cast_pow, pow_succ]
      show (10 : ℚ) ^ (width.toNat - digits.length) * 10 * _ * 10 ^ (-1 : Int) = _
      rw [zpow_neg_one]
      field_simp
  | whole hwidth hleft hstyle =>
      have hwhole := hdigits.append (AllDigits.replicate_zero (width.toNat - digits.length))
      have hexponent : width - digits.length = ((width.toNat - digits.length : Nat) : Int) := by omega
      rw [readDecimal_plain (hwhole.ne (by decide)), readPlain_whole hwhole, ofDigitChars_append_zeros,
        hexponent, zpow_natCast, Nat.cast_mul, mul_comm, Nat.cast_pow]
      rfl
  | @exponent head tail ds hlist hds =>
      have hhead : AllDigits [head] := fun c hc => hdigits c (hlist ▸ List.mem_append_left tail hc)
      have htail : AllDigits tail := fun c hc => hdigits c (hlist ▸ List.mem_append_right [head] hc)
      have hlength : -(tail.length : Int) + (width - 1) = width - digits.length := by
        rw [hlist, List.length_cons]
        omega
      rw [readDecimal_exponent (hhead.ne_exponent htail), readPlain_point hhead htail, hds, mul_assoc,
        ← zpow_add₀ hten, hlength, hlist]
      rfl
  | @exponentWhole head ds hlist hds =>
      have hhead : AllDigits [head] := hlist ▸ hdigits
      rw [readDecimal_exponent (hhead.ne (by decide)), readPlain_whole hhead, hds, hlist]
      rfl

/-! ## The text of a magnitude -/

/-- A text that begins with a digit. -/
def OpensWithDigit (cs : List Char) : Prop := ∃ c rest, cs = c :: rest ∧ c.isDigit = true

theorem Layout.opensWithDigit {style : NumberStyle} {digits cs : List Char} {width : Int}
    (h : Layout style digits width cs) (hdigits : AllDigits digits) (hne : digits ≠ []) :
    OpensWithDigit cs := by
  obtain ⟨c, rest, rfl⟩ := List.exists_cons_of_ne_nil hne
  have hc := hdigits c List.mem_cons_self
  cases h with
  | fraction hwidth => exact ⟨'0', _, rfl, by decide⟩
  | divided hleft hright =>
      obtain ⟨n, hn⟩ : ∃ n, width.toNat = n + 1 := ⟨width.toNat - 1, by omega⟩
      rw [hn]
      exact ⟨c, _, rfl, hc⟩
  | wholePoint hwidth hleft => exact ⟨c, _, rfl, hc⟩
  | whole hwidth hleft hstyle => exact ⟨c, _, rfl, hc⟩
  | exponent hlist hds => exact ⟨_, _, rfl, hdigits _ (hlist ▸ List.mem_cons_self)⟩
  | exponentWhole hlist hds => exact ⟨_, _, rfl, hdigits _ (hlist ▸ List.mem_cons_self)⟩

/-- A style that keeps the point marks every number by a point or an exponent. -/
theorem Layout.marked {style : NumberStyle} {digits cs : List Char} {width : Int}
    (h : Layout style digits width cs) (hstyle : style.keepsPoint = true) : '.' ∈ cs ∨ 'e' ∈ cs := by
  cases h with
  | fraction | divided | wholePoint => exact .inl (List.mem_append_right _ List.mem_cons_self)
  | whole _ _ hplain =>
      rw [hstyle] at hplain
      cases hplain
  | exponent | exponentWhole => exact .inr (List.mem_append_right _ List.mem_cons_self)

namespace NumberStyle

variable (style : NumberStyle)

theorem toString_ne_nil (n : Nat) : (toString n).toList ≠ [] := by
  rw [Nat.toString_eq_repr, Nat.toList_repr]
  exact Nat.toDigits_ne_nil

/-- A decimal reads back from its text. -/
theorem readDecimal_decimalText (d : Decimal) :
    readDecimal (style.decimalText d).toList = d.value := by
  rw [(style.layout_decimalText d).readDecimal_eq (AllDigits.toString d.digits), String.length_toList,
    add_sub_cancel_left, ofDigitChars_toString]
  rfl

theorem opensWithDigit_magnitudeText (m : Magnitude) : OpensWithDigit (style.magnitudeText m).toList := by
  unfold magnitudeText
  split
  · split
    · exact ⟨'0', _, rfl, by decide⟩
    · exact ⟨'0', _, rfl, by decide⟩
  · exact (style.layout_decimalText _).opensWithDigit (AllDigits.toString _) (toString_ne_nil _)

theorem marked_magnitudeText (hstyle : style.keepsPoint = true) (m : Magnitude) :
    '.' ∈ (style.magnitudeText m).toList ∨ 'e' ∈ (style.magnitudeText m).toList := by
  unfold magnitudeText
  split
  · exact .inl (by decide)
  · exact (style.layout_decimalText _).marked hstyle

theorem readDecimal_zero : readDecimal (if style.keepsPoint then "0.0" else "0").toList = 0 := by
  have hzero : AllDigits ['0'] := AllDigits.replicate_zero 1
  split
  · show readDecimal (['0'] ++ '.' :: ['0']) = 0
    rw [readDecimal_plain (hzero.ne_exponent hzero), readPlain_point hzero hzero]
    exact zero_mul _
  · show readDecimal ['0'] = 0
    rw [readDecimal_plain (hzero.ne (by decide)), readPlain_whole hzero]
    rfl

/-- A magnitude of the format reads back from its text. -/
theorem reads_magnitudeText {word : Nat} (hfinite : word < Double.infinityMagnitude) :
    (Magnitude.ofWord word).Reads (readDecimal (style.magnitudeText (Magnitude.ofWord word)).toList) := by
  unfold magnitudeText
  split
  · next hmantissa =>
      rw [Magnitude.mantissa_ofWord_eq_zero_iff] at hmantissa
      subst hmantissa
      rw [readDecimal_zero]
      refine (if_pos rfl).mpr ⟨(zero_mul _).le, ?_⟩
      exact mul_nonneg (by positivity) (Magnitude.unit_pos _).le
  · next hmantissa =>
      have hpos : 0 < word := by
        rw [Magnitude.mantissa_ofWord_eq_zero_iff] at hmantissa
        exact Nat.pos_of_ne_zero hmantissa
      rw [readDecimal_decimalText]
      exact (Magnitude.fits_ofWord hpos hfinite).reads_shortest style.tie

theorem magnitudeText_injective {a b : Nat} (ha : a < Double.infinityMagnitude)
    (hb : b < Double.infinityMagnitude)
    (h : style.magnitudeText (Magnitude.ofWord a) = style.magnitudeText (Magnitude.ofWord b)) : a = b := by
  refine Magnitude.reads_unique (style.reads_magnitudeText ha) ?_
  rw [h]
  exact style.reads_magnitudeText hb

end NumberStyle

/-! ## The text of a number -/

namespace Double

variable (style : NumberStyle)

theorem eq_of_fields {x y : Double} (hmagnitude : x.magnitudeBits = y.magnitudeBits)
    (hsign : x.negative = y.negative) : x = y := by
  have hbits : x.bits.toNat = y.bits.toNat := by
    have hx := x.bits.toNat_lt
    have hy := y.bits.toNat_lt
    unfold magnitudeBits at hmagnitude
    unfold negative at hsign
    rw [decide_eq_decide] at hsign
    omega
  have hword : x.bits = y.bits := UInt64.toNat_inj.1 hbits
  cases x
  cases y
  exact congrArg Double.mk hword

theorem not_isNaN_of_isFinite {x : Double} (h : x.isFinite = true) : x.isNaN = false :=
  decide_eq_false (Nat.lt_asymm (of_decide_eq_true h))

theorem text_of_isFinite {x : Double} (h : x.isFinite = true) :
    x.text style = (if x.negative then "-" else "") ++ style.magnitudeText x.magnitude := by
  have hmagnitude : x.magnitudeBits < infinityMagnitude := of_decide_eq_true h
  have hinfinite : x.isInfinite = false := decide_eq_false hmagnitude.ne
  rw [text, NumberStyle.text, not_isNaN_of_isFinite h, hinfinite]
  rfl

/-- The sign of a number shows in its text, before a digit. -/
theorem toList_text {x : Double} (h : x.isFinite = true) :
    (x.text style).toList =
      (if x.negative then ['-'] else []) ++ (style.magnitudeText x.magnitude).toList := by
  rw [text_of_isFinite style h, String.toList_append]
  split <;> rfl

/-- Finite numbers with the same text are the same. -/
theorem text_injective {x y : Double} (hx : x.isFinite = true) (hy : y.isFinite = true)
    (h : x.text style = y.text style) : x = y := by
  have hlists : (x.text style).toList = (y.text style).toList := congrArg String.toList h
  rw [toList_text style hx, toList_text style hy] at hlists
  obtain ⟨c, cs, hcs, hc⟩ := style.opensWithDigit_magnitudeText x.magnitude
  obtain ⟨d, ds, hds, hd⟩ := style.opensWithDigit_magnitudeText y.magnitude
  have hminus : ('-').isDigit = false := by decide
  have hsame (hrest : (style.magnitudeText x.magnitude).toList = (style.magnitudeText y.magnitude).toList) :
      x.magnitudeBits = y.magnitudeBits :=
    style.magnitudeText_injective (of_decide_eq_true hx) (of_decide_eq_true hy) (String.toList_inj.1 hrest)
  cases hsignx : x.negative with
  | false =>
      cases hsigny : y.negative with
      | false =>
          rw [hsignx, hsigny] at hlists
          exact eq_of_fields (hsame hlists) (hsignx.trans hsigny.symm)
      | true =>
          rw [hsignx, hsigny, hcs] at hlists
          cases hlists
          rw [hminus] at hc
          cases hc
  | true =>
      cases hsigny : y.negative with
      | false =>
          rw [hsignx, hsigny, hds] at hlists
          cases hlists
          rw [hminus] at hd
          cases hd
      | true =>
          rw [hsignx, hsigny] at hlists
          exact eq_of_fields (hsame (List.cons.inj hlists).2) (hsignx.trans hsigny.symm)

end Double

end PklHost
