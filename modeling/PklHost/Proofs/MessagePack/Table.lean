import PklHost.MessagePack.Extent
import PklHost.Proofs.MessagePack.Reading

/-!
# The table of markers, read backwards

`Marker.listed_ofOctet`: an octet is taken for a marker only where the format lists it as one.  The table
is that of the format as a relation, so that whatever stands behind a marker with the octets that it
announces spells something (`exists_spelledBy_of_header`), whoever found it there.
-/

namespace PklHost.MessagePack

/-- The octet is a marker of the form, and says its size so. -/
def HeadForm.Lists (form : HeadForm) (b : UInt8) : SizeField → Prop
  | .inMarker n => (b, n) ∈ form.fixed
  | .octets width => (b, width) ∈ form.sized

instance (form : HeadForm) (b : UInt8) (size : SizeField) : Decidable (form.Lists b size) :=
  match size with
  | .inMarker n => inferInstanceAs (Decidable ((b, n) ∈ form.fixed))
  | .octets width => inferInstanceAs (Decidable ((b, width) ∈ form.sized))

/-- The format lists the octet as this marker. -/
def Marker.Listed (b : UInt8) : Marker → Prop
  | .nil => b = 0xc0
  | .reserved => b = 0xc1
  | .bool x => b = if x then 0xc3 else 0xc2
  | .small k => b.toNat < 0x80 ∧ k = Int8.ofNat b.toNat ∨
      0xe0 ≤ b.toNat ∧ k = Int8.ofInt ((b.toNat : Int) - 256)
  | .unsigned width => (b, width) ∈ unsignedMarkers
  | .signed width => (b, width) ∈ signedMarkers
  | .single => b = 0xca
  | .double => b = 0xcb
  | .text size => HeadForm.text.Lists b size
  | .bin size => HeadForm.bin.Lists b size
  | .array size => HeadForm.array.Lists b size
  | .map size => HeadForm.map.Lists b size
  | .ext size => HeadForm.ext.Lists b size

instance (b : UInt8) (m : Marker) : Decidable (m.Listed b) :=
  match m with
  | .nil => inferInstanceAs (Decidable (b = _))
  | .reserved => inferInstanceAs (Decidable (b = _))
  | .bool _ => inferInstanceAs (Decidable (b = _))
  | .small _ => inferInstanceAs (Decidable (_ ∧ _ ∨ _ ∧ _))
  | .unsigned _ => inferInstanceAs (Decidable (_ ∈ unsignedMarkers))
  | .signed _ => inferInstanceAs (Decidable (_ ∈ signedMarkers))
  | .single => inferInstanceAs (Decidable (b = _))
  | .double => inferInstanceAs (Decidable (b = _))
  | .text size => inferInstanceAs (Decidable (HeadForm.text.Lists b size))
  | .bin size => inferInstanceAs (Decidable (HeadForm.bin.Lists b size))
  | .array size => inferInstanceAs (Decidable (HeadForm.array.Lists b size))
  | .map size => inferInstanceAs (Decidable (HeadForm.map.Lists b size))
  | .ext size => inferInstanceAs (Decidable (HeadForm.ext.Lists b size))

theorem Marker.listed_ofOctet (b : UInt8) : (Marker.ofOctet b).Listed b := by
  have hall : ∀ n < 256, (Marker.ofOctet (UInt8.ofNat n)).Listed (UInt8.ofNat n) := by
    decide +kernel
  have hb := hall b.toNat b.toNat_lt
  rwa [UInt8.ofNat_toNat] at hb

/-! ## Sizes -/

/-- A size that is found behind a marker of a form is what the form says. -/
theorem HeadForm.says_of_peek? {form : HeadForm} {b : UInt8} {size : SizeField} {bs : Bytes} {n : Nat}
    (hlists : form.Lists b size) (hpeek : size.peek? bs = some n) :
    size.width ≤ bs.length ∧ form.Says n (b :: bs.take size.width) := by
  cases size with
  | inMarker m =>
      obtain rfl : m = n := by simpa [SizeField.peek?] using hpeek
      exact ⟨Nat.zero_le _, .inMarker hlists⟩
  | octets width =>
      obtain ⟨⟨digits, more⟩, hsplit, rfl⟩ := Option.map_eq_some_iff.1 hpeek
      obtain ⟨rfl, rfl⟩ := Bytes.append_of_split? hsplit
      refine ⟨by simp [SizeField.width], ?_⟩
      have hhead := HeadForm.Says.inOctets hlists (Bytes.toNat_lt digits)
      rw [Bytes.ofNat_toNat] at hhead
      simpa [SizeField.width] using hhead

/-- The reader finds the size that the walk finds, and goes on behind it. -/
theorem SizeField.read_eq_ok_iff {size : SizeField} {bs more : Bytes} {n : Nat} :
    size.read bs = .ok (n, more) ↔ size.peek? bs = some n ∧ more = bs.drop size.width := by
  cases size with
  | inMarker m => simp [SizeField.read, SizeField.peek?, SizeField.width, eq_comm]
  | octets width =>
      simp only [SizeField.read, readNat, SizeField.peek?, SizeField.width]
      cases hsplit : bs.split? width with
      | none => simp
      | some parts =>
          obtain ⟨rfl, rfl⟩ := Bytes.append_of_split? hsplit
          simp [eq_comm]

/-! ## Items -/

theorem spelledBy_ofStringOctets {head body : Bytes} (h : HeadForm.text.Says body.length head) :
    (Item.ofStringOctets body).SpelledBy (head ++ body) := by
  unfold Item.ofStringOctets
  split
  · next s hs =>
      rw [← Bytes.ofText_of_text? hs] at h ⊢
      exact ⟨head, h, rfl⟩
  · exact ⟨head, h, rfl⟩

/-! ### Pairs -/

/-- Keys and values in a row, each key before its value. -/
def keysAndValues : List (Item × Item) → List Item
  | [] => []
  | (k, v) :: ps => k :: v :: keysAndValues ps

theorem length_keysAndValues (ps : List (Item × Item)) : (keysAndValues ps).length = 2 * ps.length := by
  induction ps with
  | nil => rfl
  | cons p ps ih =>
      rw [keysAndValues, List.length_cons, List.length_cons, List.length_cons, ih]
      omega

theorem exists_keysAndValues {n : Nat} {xs : List Item} (h : xs.length = 2 * n) :
    ∃ ps, keysAndValues ps = xs := by
  induction n generalizing xs with
  | zero => exact ⟨[], (List.eq_nil_of_length_eq_zero h).symm⟩
  | succ n ih =>
      match xs, h with
      | [_], h => simp only [List.length_singleton] at h; omega
      | k :: v :: xs, h =>
          simp only [List.length_cons] at h
          obtain ⟨ps, rfl⟩ := ih (show xs.length = 2 * n by omega)
          exact ⟨(k, v) :: ps, rfl⟩

theorem spelledPairs_iff {ps : List (Item × Item)} {octets : Bytes} :
    SpelledPairs ps octets ↔ SpelledItems (keysAndValues ps) octets := by
  induction ps generalizing octets with
  | nil => rfl
  | cons p ps ih =>
      obtain ⟨k, v⟩ := p
      constructor
      · rintro ⟨key, value, more, hkey, hvalue, hmore, rfl⟩
        exact ⟨key, _, hkey, ⟨value, more, hvalue, ih.1 hmore, rfl⟩, rfl⟩
      · rintro ⟨key, _, hkey, ⟨value, more, hvalue, hmore, rfl⟩, rfl⟩
        exact ⟨key, value, more, hkey, hvalue, ih.2 hmore, rfl⟩

theorem depthPairs_eq (ps : List (Item × Item)) : depthPairs ps = depthItems (keysAndValues ps) := by
  induction ps with
  | nil => rfl
  | cons p ps ih => rw [depthPairs, keysAndValues, depthItems, depthItems, ih, Nat.max_assoc]

/-! ### Numbers -/

theorem exists_spelledBy_of_small {b : UInt8} {k : Int8} (h : (Marker.small k).Listed b) :
    ∃ x : Item, x.SpelledBy [b] := by
  have hb : b.toNat < 256 := b.toNat_lt
  rcases h with ⟨hpositive, -⟩ | ⟨hnegative, -⟩
  · refine ⟨.int ⟨b.toNat, by omega, by omega⟩, ?_⟩
    have hspells := SpellsInt.positive hpositive
    rwa [UInt8.ofNat_toNat] at hspells
  · refine ⟨.int ⟨((b.toNat - 0xe0 : Nat) : Int) - 0x20, by omega, by omega⟩, ?_⟩
    have hspells := SpellsInt.negative (show b.toNat - 0xe0 < 0x20 by omega)
    rwa [show 0xe0 + (b.toNat - 0xe0) = b.toNat by omega, UInt8.ofNat_toNat] at hspells

theorem exists_spelledBy_of_unsigned {b : UInt8} {digits : Bytes}
    (h : (b, digits.length) ∈ unsignedMarkers) : ∃ x : Item, x.SpelledBy (b :: digits) := by
  have hwidth : digits.length ≤ 8 := (unsignedMarkers_announce _ h).2
  have hword : Bytes.toNat digits < 0x10000000000000000 :=
    Nat.lt_of_lt_of_le (Bytes.toNat_lt digits)
      (show Nat.pow 256 digits.length ≤ Nat.pow 256 8 from Nat.pow_le_pow_right (by omega) hwidth)
  refine ⟨.int ⟨Bytes.toNat digits, by omega, by omega⟩, ?_⟩
  have hspells := SpellsInt.unsigned h (Bytes.toNat_lt digits)
  rwa [Bytes.ofNat_toNat] at hspells

theorem exists_spelledBy_of_signed {b : UInt8} {digits : Bytes}
    (h : (b, digits.length) ∈ signedMarkers) : ∃ x : Item, x.SpelledBy (b :: digits) := by
  obtain ⟨-, hpos, hwidth⟩ := signedMarkers_announce _ h
  obtain ⟨hlow, hhigh⟩ := signed_bounds (Bytes.toNat_lt digits) hwidth hpos
  refine ⟨.int ⟨Bytes.signed digits.length (Bytes.toNat digits), hlow, by omega⟩, ?_⟩
  have hspells := SpellsInt.signed h (Bytes.toNat_lt digits)
  rwa [Bytes.ofNat_toNat] at hspells

theorem exists_spelledBy_of_single {digits : Bytes} (h : digits.length = 4) :
    ∃ x : Item, x.SpelledBy (0xca :: digits) := by
  have hlt := Bytes.toNat_lt digits
  rw [h] at hlt
  refine ⟨.single ⟨UInt32.ofNat (Bytes.toNat digits)⟩, ?_⟩
  show _ = 0xca :: Bytes.ofNat 4 _
  rw [UInt32.toNat_ofNat_of_lt' hlt, ← h, Bytes.ofNat_toNat]

theorem exists_spelledBy_of_double {digits : Bytes} (h : digits.length = 8) :
    ∃ x : Item, x.SpelledBy (0xcb :: digits) := by
  have hlt := Bytes.toNat_lt digits
  rw [h] at hlt
  refine ⟨.double ⟨UInt64.ofNat (Bytes.toNat digits)⟩, ?_⟩
  show _ = 0xcb :: Bytes.ofNat 8 _
  rw [UInt64.toNat_ofNat_of_lt' hlt, ← h, Bytes.ofNat_toNat]

/-! ### Everything behind a marker -/

/-- A sized header that was found: the size is there, and the form says it. -/
theorem says_of_sizedHeader {form : HeadForm} {b : UInt8} {size : SizeField} {f : Nat → Header}
    {bs : Bytes} {header : Header} (hlists : form.Lists b size)
    (h : sizedHeader size f bs = .ok header) :
    ∃ n, header = f n ∧ size.width ≤ bs.length ∧ form.Says n (b :: bs.take size.width) := by
  unfold sizedHeader at h
  cases hpeek : size.peek? bs with
  | none => simp [hpeek] at h
  | some n =>
      rw [hpeek] at h
      exact ⟨n, by simpa using h.symm, HeadForm.says_of_peek? hlists hpeek⟩

/-- What a form announces in octets, with the octets that were stepped over. -/
theorem take_body {width n : Nat} {bs : Bytes} (h : width + n ≤ bs.length) :
    bs.take (width + n) = bs.take width ++ (bs.drop width).take n ∧
      ((bs.drop width).take n).length = n := by
  refine ⟨List.take_add, ?_⟩
  rw [List.length_take, List.length_drop]
  omega

/-- A header that was found and stepped over, with as many items behind it as it owes, spells an
item. -/
theorem exists_spelledBy_of_header {b : UInt8} {bs octets : Bytes} {header : Header} {xs : List Item}
    (h : (Marker.ofOctet b).header bs = some (.ok header)) (hskip : header.skip ≤ bs.length)
    (hlength : xs.length = header.owed) (hxs : SpelledItems xs octets) :
    ∃ x : Item, x.SpelledBy (b :: (bs.take header.skip ++ octets)) := by
  have hlisted := Marker.listed_ofOctet b
  -- most headers owe nothing
  have hnothing : header.owed = 0 → octets = [] := fun howed => by
    obtain rfl : xs = [] := List.eq_nil_of_length_eq_zero (hlength.trans howed)
    exact hxs
  generalize Marker.ofOctet b = m at h hlisted
  cases m with
  | nil =>
      obtain rfl : header = ⟨0, 0⟩ := by simpa [Marker.header] using h.symm
      obtain rfl : b = 0xc0 := hlisted
      rw [hnothing rfl]
      exact ⟨.nil, rfl⟩
  | reserved =>
      simp [Marker.header] at h
  | bool x =>
      obtain rfl : header = ⟨0, 0⟩ := by simpa [Marker.header] using h.symm
      rw [hnothing rfl]
      exact ⟨.bool x, congrArg (fun b => [b]) hlisted⟩
  | small k =>
      obtain rfl : header = ⟨0, 0⟩ := by simpa [Marker.header] using h.symm
      rw [hnothing rfl]
      exact exists_spelledBy_of_small hlisted
  | unsigned width =>
      obtain rfl : header = ⟨width, 0⟩ := by simpa [Marker.header] using h.symm
      rw [hnothing rfl, List.append_nil]
      refine exists_spelledBy_of_unsigned ?_
      rwa [List.length_take_of_le hskip]
  | signed width =>
      obtain rfl : header = ⟨width, 0⟩ := by simpa [Marker.header] using h.symm
      rw [hnothing rfl, List.append_nil]
      refine exists_spelledBy_of_signed ?_
      rwa [List.length_take_of_le hskip]
  | single =>
      obtain rfl : header = ⟨4, 0⟩ := by simpa [Marker.header] using h.symm
      obtain rfl : b = 0xca := hlisted
      rw [hnothing rfl, List.append_nil]
      exact exists_spelledBy_of_single (List.length_take_of_le hskip)
  | double =>
      obtain rfl : header = ⟨8, 0⟩ := by simpa [Marker.header] using h.symm
      obtain rfl : b = 0xcb := hlisted
      rw [hnothing rfl, List.append_nil]
      exact exists_spelledBy_of_double (List.length_take_of_le hskip)
  | text size =>
      obtain ⟨n, rfl, -, hhead⟩ := says_of_sizedHeader hlisted (Option.some.inj h)
      obtain ⟨htake, hbody⟩ := take_body hskip
      rw [hnothing rfl, htake, List.append_nil]
      rw [← hbody] at hhead
      exact ⟨_, spelledBy_ofStringOctets hhead⟩
  | bin size =>
      obtain ⟨n, rfl, -, hhead⟩ := says_of_sizedHeader hlisted (Option.some.inj h)
      obtain ⟨htake, hbody⟩ := take_body hskip
      rw [hnothing rfl, htake, List.append_nil]
      rw [← hbody] at hhead
      exact ⟨.bin _, _, hhead, rfl⟩
  | ext size =>
      obtain ⟨n, rfl, -, hhead⟩ := says_of_sizedHeader hlisted (Option.some.inj h)
      obtain ⟨htake, hbody⟩ := take_body hskip
      -- the octet behind the size is the kind
      have hkind : size.width < bs.length := by
        have : size.width + 1 + n ≤ bs.length := hskip
        omega
      rw [hnothing rfl, htake, List.append_nil, List.take_succ_eq_append_getElem hkind,
        List.append_assoc]
      rw [← hbody] at hhead
      refine ⟨.ext bs[size.width].toInt8 _, _, hhead, ?_⟩
      rw [UInt8.toUInt8_toInt8]
      rfl
  | array size =>
      obtain ⟨n, rfl, -, hhead⟩ := says_of_sizedHeader hlisted (Option.some.inj h)
      obtain rfl : xs.length = n := hlength
      exact ⟨.array xs, _, octets, hhead, hxs, rfl⟩
  | map size =>
      obtain ⟨n, rfl, -, hhead⟩ := says_of_sizedHeader hlisted (Option.some.inj h)
      obtain ⟨ps, rfl⟩ := exists_keysAndValues hlength
      rw [length_keysAndValues] at hlength
      obtain rfl : ps.length = n := by
        have : 2 * ps.length = 2 * n := hlength
        omega
      exact ⟨.map ps, _, octets, hhead, spelledPairs_iff.2 hxs, rfl⟩

end PklHost.MessagePack
