import PklHost.MessagePack.Extent
import PklHost.MessagePack.Reader
import PklHost.Proofs.MessagePack.Spelling

/-!
# Reading what is spelled

`Item.read_of_spelledBy`: a reader that finds a spelling at the front of its octets takes exactly the
spelling off, whatever follows, and gives its item, if its depth budget covers the item; otherwise the
budget is what it complains of.  In particular no spelling reads as cut short.
-/

namespace PklHost.MessagePack

/-! ## Numbers and sizes -/

theorem readNat_ofNat {width n : Nat} (rest : Bytes) (hn : n < Nat.pow 256 width) :
    readNat width (Bytes.ofNat width n ++ rest) = .ok (n, rest) := by
  have hsplit := Bytes.split?_append (Bytes.ofNat width n) rest
  rw [Bytes.length_ofNat] at hsplit
  simp [readNat, hsplit, Bytes.toNat_ofNat hn]

theorem readBody_append (body rest : Bytes) :
    readBody body.length (body ++ rest) = .ok (body, rest) := by
  simp [readBody, Bytes.split?_append]

/-- The head of a form is a marker of its kind, and behind it the size is found. -/
theorem HeadForm.Says.marker {form : HeadForm} {kind : SizeField → Marker} {n : Nat} {head : Bytes}
    (hkind : form.Announces kind) (h : form.Says n head) :
    ∃ b digits size, head = b :: digits ∧ Marker.ofOctet b = kind size ∧
      size.width = digits.length ∧
      ∀ rest, size.read (digits ++ rest) = .ok (n, rest) ∧ size.peek? (digits ++ rest) = some n := by
  cases h with
  | @inMarker marker n h =>
      exact ⟨marker, [], .inMarker n, rfl, hkind.1 _ h, rfl, fun rest => ⟨rfl, rfl⟩⟩
  | @inOctets marker width n h hn =>
      refine ⟨marker, Bytes.ofNat width n, .octets width, rfl, hkind.2 _ h, by simp [SizeField.width],
        fun rest => ⟨readNat_ofNat rest hn, ?_⟩⟩
      have hsplit := Bytes.split?_append (Bytes.ofNat width n) rest
      rw [Bytes.length_ofNat] at hsplit
      simp [SizeField.peek?, hsplit, Bytes.toNat_ofNat hn]

/-! ## Items of one piece -/

/-- A marker with the octets behind it is the whole of an item, to the reader and to the walk alike. -/
structure Flat (x : Item) (b : UInt8) (digits : Bytes) : Prop where
  read : ∀ budget inner rest,
    readAfter budget inner (Marker.ofOctet b) (digits ++ rest) = .ok (x, rest)
  header : ∀ rest, (Marker.ofOctet b).header (digits ++ rest) = some (.ok ⟨digits.length, 0⟩)

theorem WireInt.ext {m n : WireInt} (h : m.val = n.val) : m = n := by
  cases m
  cases n
  simpa using h

/-- A number that fits a word is written as that word. -/
theorem eq_ofUInt64_of_toUInt64? {n : WireInt} {word : UInt64} (h : n.toUInt64? = some word) :
    n = .ofUInt64 word := by
  unfold WireInt.toUInt64? at h
  split at h
  · next hn =>
      obtain rfl : UInt64.ofNat n.val.toNat = word := by simpa using h
      apply WireInt.ext
      have hlt : n.val.toNat < 2 ^ 64 := by
        have := n.upper
        omega
      show n.val = ((UInt64.ofNat n.val.toNat).toNat : Int)
      rw [UInt64.toNat_ofNat_of_lt' hlt]
      omega
  · simp at h

theorem flat_small {n : WireInt} {b : UInt8} {k : Int8} (hmarker : Marker.ofOctet b = .small k)
    (hk : k.toInt = n.val) : Flat (.int n) b [] where
  read budget inner rest := by
    have hval : WireInt.ofInt64 k.toInt64 = n := WireInt.ext (by simp [WireInt.ofInt64, hk])
    rw [hmarker]
    show Except.ok (Item.int (WireInt.ofInt64 k.toInt64), rest) = _
    rw [hval]
  header _ := by
    rw [hmarker]
    rfl

theorem flat_unsigned {n : WireInt} {marker : UInt8} {width m : Nat}
    (hmarker : Marker.ofOctet marker = .unsigned width) (hm : m < Nat.pow 256 width)
    (hwidth : width ≤ 8) (hn : n.val = m) : Flat (.int n) marker (Bytes.ofNat width m) where
  read budget inner rest := by
    have hword : m < 2 ^ 64 := by
      have : Nat.pow 256 width ≤ Nat.pow 256 8 := Nat.pow_le_pow_right (by omega) hwidth
      exact Nat.lt_of_lt_of_le hm this
    have hval : WireInt.ofUInt64 (UInt64.ofNat m) = n := by
      apply WireInt.ext
      show ((UInt64.ofNat m).toNat : Int) = n.val
      rw [UInt64.toNat_ofNat', Nat.mod_eq_of_lt hword, hn]
    rw [hmarker]
    simp only [readAfter, readNat_ofNat rest hm, bind, Except.bind, pure, Except.pure,
      Item.ofUInt64, hval]
  header _ := by
    rw [hmarker, Bytes.length_ofNat]
    rfl

theorem signed_bounds {width n : Nat} (hn : n < Nat.pow 256 width) (hwidth : width ≤ 8)
    (hpos : 0 < width) :
    -0x8000000000000000 ≤ Bytes.signed width n ∧ Bytes.signed width n < 0x8000000000000000 := by
  have hpow : Nat.pow 256 width ≤ 0x10000000000000000 :=
    Nat.pow_le_pow_right (n := 256) (by omega) hwidth
  have heven : Nat.pow 256 width = 2 * (Nat.pow 256 width / 2) := by
    obtain ⟨w, rfl⟩ : ∃ w, width = w + 1 := ⟨width - 1, by omega⟩
    show Nat.pow 256 w * 256 = 2 * (Nat.pow 256 w * 256 / 2)
    omega
  unfold Bytes.signed
  dsimp only
  generalize Nat.pow 256 width = range at *
  split <;> omega

theorem flat_signed {n : WireInt} {marker : UInt8} {width m : Nat}
    (hmarker : Marker.ofOctet marker = .signed width) (hm : m < Nat.pow 256 width)
    (hwidth : 0 < width ∧ width ≤ 8) (hn : n.val = Bytes.signed width m) :
    Flat (.int n) marker (Bytes.ofNat width m) where
  read budget inner rest := by
    obtain ⟨hlow, hhigh⟩ := signed_bounds hm hwidth.2 hwidth.1
    have hval : WireInt.ofInt64 (Int64.ofInt (Bytes.signed width m)) = n := by
      apply WireInt.ext
      show (Int64.ofInt (Bytes.signed width m)).toInt = n.val
      rw [Int64.toInt_ofInt_of_le hlow hhigh, hn]
    rw [hmarker]
    simp only [readAfter, readNat_ofNat rest hm, bind, Except.bind, pure, Except.pure,
      Item.ofInt64, hval]
  header _ := by
    rw [hmarker, Bytes.length_ofNat]
    rfl

theorem unsignedMarkers_announce :
    ∀ p ∈ unsignedMarkers, Marker.ofOctet p.1 = .unsigned p.2 ∧ p.2 ≤ 8 := by
  decide

theorem signedMarkers_announce :
    ∀ p ∈ signedMarkers, Marker.ofOctet p.1 = .signed p.2 ∧ 0 < p.2 ∧ p.2 ≤ 8 := by
  decide

/-- The markers that hold small integers. -/
theorem ofOctet_positive {n : Nat} (hn : n < 0x80) :
    Marker.ofOctet (UInt8.ofNat n) = .small (Int8.ofNat n) := by
  have : (UInt8.ofNat n).toNat = n := by
    rw [UInt8.toNat_ofNat']
    omega
  unfold Marker.ofOctet
  simp [this, hn]

theorem ofOctet_negative {n : Nat} (hn : n < 0x20) :
    Marker.ofOctet (UInt8.ofNat (0xe0 + n)) = .small (Int8.ofInt ((n : Int) - 0x20)) := by
  have hb : (UInt8.ofNat (0xe0 + n)).toNat = 0xe0 + n := by
    rw [UInt8.toNat_ofNat']
    omega
  have hint : ((0xe0 + n : Nat) : Int) - 256 = (n : Int) - 0x20 := by omega
  unfold Marker.ofOctet
  simp only [hb, hint]
  rw [if_neg (by omega), if_neg (by omega), if_neg (by omega), if_neg (by omega),
    if_pos (by omega)]

theorem SpellsInt.flat {n : WireInt} {octets : Bytes} (h : SpellsInt n.val octets) :
    ∃ b digits, octets = b :: digits ∧ Flat (.int n) b digits := by
  generalize hval : n.val = v at h
  cases h with
  | @positive m hm =>
      refine ⟨_, _, rfl, flat_small (ofOctet_positive hm) ?_⟩
      rw [hval, Int8.toInt_ofNat_of_lt hm]
  | @negative m hm =>
      refine ⟨_, _, rfl, flat_small (ofOctet_negative hm) ?_⟩
      rw [hval, Int8.toInt_ofInt_of_le (by omega) (by omega)]
  | unsigned h hm =>
      obtain ⟨hmarker, hwidth⟩ := unsignedMarkers_announce _ h
      exact ⟨_, _, rfl, flat_unsigned hmarker hm hwidth hval⟩
  | signed h hm =>
      obtain ⟨hmarker, hwidth⟩ := signedMarkers_announce _ h
      exact ⟨_, _, rfl, flat_signed hmarker hm hwidth hval⟩

theorem flat_nil : Flat .nil 0xc0 [] where
  read _ _ _ := rfl
  header _ := rfl

theorem flat_bool (b : Bool) : Flat (.bool b) (if b then 0xc3 else 0xc2) [] where
  read _ _ _ := by cases b <;> rfl
  header _ := by cases b <;> rfl

theorem flat_single (x : Single) : Flat (.single x) 0xca (Bytes.ofNat 4 x.bits.toNat) where
  read budget inner rest := by
    have hx : x.bits.toNat < Nat.pow 256 4 := x.bits.toNat_lt
    show readAfter budget inner .single (Bytes.ofNat 4 x.bits.toNat ++ rest) = _
    simp only [readAfter, readNat_ofNat rest hx, bind, Except.bind, pure, Except.pure,
      UInt32.ofNat_toNat]
  header _ := rfl

theorem flat_double (x : Double) : Flat (.double x) 0xcb (Bytes.ofNat 8 x.bits.toNat) where
  read budget inner rest := by
    have hx : x.bits.toNat < Nat.pow 256 8 := x.bits.toNat_lt
    show readAfter budget inner .double (Bytes.ofNat 8 x.bits.toNat ++ rest) = _
    simp only [readAfter, readNat_ofNat rest hx, bind, Except.bind, pure, Except.pure,
      UInt64.ofNat_toNat]
  header _ := rfl

/-! ## Bodies -/

theorem Item.ofStringOctets_octets (t : BrokenText) :
    Item.ofStringOctets t.octets = .brokenText t := by
  unfold ofStringOctets
  split
  · next s h =>
      rw [t.broken] at h
      simp at h
  · rfl

/-- The kind of an extension comes back from its octet. -/
theorem kind_of_signed (k : Int8) : Int8.ofInt (Bytes.signed 1 k.toUInt8.toNat) = k := by
  have hlt : k.toUInt8.toNat < 256 := k.toUInt8.toNat_lt
  have hk : k.toInt = (k.toUInt8.toNat : Int).bmod 256 := by
    show k.toBitVec.toInt = _
    rw [BitVec.toInt_eq_toNat_bmod]
    rfl
  apply Int8.toInt_inj.1
  rw [Int8.toInt_ofInt, hk]
  unfold Bytes.signed
  dsimp only
  -- either way the number is the one in range that the octet leaves
  split
  · rfl
  · show ((k.toUInt8.toNat : Int) - (256 : Nat)).bmod 256 = _
    dsimp only [Int.bmod]
    omega

/-- The reader of nested items that a budget leaves behind a marker. -/
def nested : (budget : Nat) → Option (Bytes → Reading Item)
  | 0 => none
  | budget + 1 => some (Item.read budget)

theorem Item.read_cons (budget : Nat) (b : UInt8) (bs : Bytes) :
    Item.read (budget + 1) (b :: bs) =
      readAfter budget (nested budget) (Marker.ofOctet b) bs := by
  cases budget <;> rfl

theorem Flat.read_eq {x : Item} {b : UInt8} {digits : Bytes} (h : Flat x b digits) (budget : Nat)
    (rest : Bytes) :
    Item.read budget ((b :: digits) ++ rest) =
      if 1 ≤ budget then .ok (x, rest) else .error .tooDeep := by
  cases budget with
  | zero => rfl
  | succ budget =>
      rw [if_pos (by omega), List.cons_append, Item.read_cons]
      exact h.read budget (nested budget) rest

/-- A body behind its size is read if the budget covers the units that it takes. -/
theorem read_body {form : HeadForm} {kind : SizeField → Marker} {build : Bytes → Item}
    {head body : Bytes} (units : Nat) (hkind : form.Announces kind) (h : form.Says body.length head)
    (hafter : ∀ size budget inner bs n more, size.read bs = .ok (n, more) →
      readAfter budget inner (kind size) bs = (do
        spend units budget
        let (body, bs) ← readBody n more
        return (build body, bs))) (budget : Nat) (rest : Bytes) :
    Item.read budget ((head ++ body) ++ rest) =
      if units + 1 ≤ budget then .ok (build body, rest) else .error .tooDeep := by
  obtain ⟨b, digits, size, rfl, hmarker, -, hsize⟩ := h.marker hkind
  cases budget with
  | zero => rfl
  | succ budget =>
      rw [List.append_assoc, List.cons_append, Item.read_cons, hmarker,
        hafter size budget _ _ _ _ (hsize (body ++ rest)).1]
      by_cases hbudget : units ≤ budget
      · rw [if_pos (by omega)]
        simp only [spend, hbudget, if_true, readBody_append, bind, Except.bind, pure, Except.pure]
      · rw [if_neg (by omega)]
        simp only [spend, hbudget, if_false, bind, Except.bind]

theorem read_string {head body : Bytes} (budget : Nat) (rest : Bytes)
    (h : HeadForm.text.Says body.length head) :
    Item.read budget ((head ++ body) ++ rest) =
      if 3 ≤ budget then .ok (.ofStringOctets body, rest) else .error .tooDeep := by
  refine read_body 2 HeadForm.text_announces h ?_ budget rest
  intro size budget inner bs n more hread
  simp only [readAfter, hread, bind, Except.bind]

theorem read_bin {head body : Bytes} (budget : Nat) (rest : Bytes)
    (h : HeadForm.bin.Says body.length head) :
    Item.read budget ((head ++ body) ++ rest) =
      if 2 ≤ budget then .ok (.bin body, rest) else .error .tooDeep := by
  refine read_body 1 HeadForm.bin_announces h ?_ budget rest
  intro size budget inner bs n more hread
  simp only [readAfter, hread, bind, Except.bind]

theorem read_ext {kind : Int8} {head body : Bytes} (budget : Nat) (rest : Bytes)
    (h : HeadForm.ext.Says body.length head) :
    Item.read budget ((head ++ kind.toUInt8 :: body) ++ rest) =
      if 3 ≤ budget then .ok (.ext kind body, rest) else .error .tooDeep := by
  obtain ⟨b, digits, size, rfl, hmarker, -, hsize⟩ := h.marker HeadForm.ext_announces
  have hkind : readNat 1 (kind.toUInt8 :: (body ++ rest)) = .ok (kind.toUInt8.toNat, body ++ rest) := by
    have hsplit := Bytes.split?_append [kind.toUInt8] (body ++ rest)
    have hdigit : Bytes.toNat [kind.toUInt8] = kind.toUInt8.toNat := by simp [Bytes.toNat]
    simp only [List.length_singleton, List.singleton_append] at hsplit
    simp [readNat, hsplit, hdigit]
  cases budget with
  | zero => rfl
  | succ budget =>
      rw [List.append_assoc, List.cons_append, Item.read_cons, hmarker]
      simp only [readAfter, List.cons_append, (hsize (kind.toUInt8 :: (body ++ rest))).1, readExt,
        spend, bind, Except.bind]
      -- one unit is for the kind and one for the contents
      by_cases hone : 1 ≤ budget
      · rw [if_pos hone]
        simp only [hkind]
        by_cases hbudget : 2 ≤ budget
        · rw [if_pos hbudget, if_pos (by omega)]
          simp only [readBody_append, pure, Except.pure, kind_of_signed]
        · rw [if_neg hbudget, if_neg (by omega)]
      · rw [if_neg hone, if_neg (show ¬ 3 ≤ budget + 1 by omega)]

/-- What a reader of nested items makes of contents, if there is one. -/
def readNested {α : Type} (many : (Bytes → Reading Item) → Bytes → Reading α) (build : α → Item)
    (inner : Option (Bytes → Reading Item)) (bs : Bytes) : Reading Item :=
  match inner with
  | none => .error .tooDeep
  | some read => (many read bs).map fun r => (build r.1, r.2)

theorem readAfter_array {size : SizeField} {bs more : Bytes} {n : Nat} (budget : Nat)
    (inner : Option (Bytes → Reading Item)) (h : size.read bs = .ok (n, more)) :
    readAfter budget inner (.array size) bs =
      readNested (fun read => readMany read n) .array inner more := by
  simp only [readAfter, h, bind, Except.bind]
  cases inner with
  | none => rfl
  | some read =>
      dsimp only [readNested]
      cases readMany read n more <;> rfl

theorem readAfter_map {size : SizeField} {bs more : Bytes} {n : Nat} (budget : Nat)
    (inner : Option (Bytes → Reading Item)) (h : size.read bs = .ok (n, more)) :
    readAfter budget inner (.map size) bs =
      readNested (fun read => readMany (readPair read) n) .map inner more := by
  simp only [readAfter, h, bind, Except.bind]
  cases inner with
  | none => rfl
  | some read =>
      dsimp only [readNested]
      cases readMany (readPair read) n more <;> rfl

/-- What is nested behind a size is read with the budget that two units are taken off. -/
theorem read_nested {α : Type} {form : HeadForm} {kind : SizeField → Marker} {n depth : Nat}
    {head body : Bytes} {build : α → Item} {contents : α}
    (many : (Bytes → Reading Item) → Bytes → Reading α) (hkind : form.Announces kind)
    (h : form.Says n head)
    (hafter : ∀ {size : SizeField} {bs more : Bytes} (budget : Nat)
      (inner : Option (Bytes → Reading Item)), size.read bs = .ok (n, more) →
      readAfter budget inner (kind size) bs = readNested many build inner more)
    (hmany : ∀ budget rest, many (Item.read budget) (body ++ rest) =
      if depth ≤ budget then .ok (contents, rest) else .error .tooDeep)
    (budget : Nat) (rest : Bytes) :
    Item.read budget ((head ++ body) ++ rest) =
      if 2 + depth ≤ budget then .ok (build contents, rest) else .error .tooDeep := by
  obtain ⟨b, digits, size, rfl, hmarker, -, hsize⟩ := h.marker hkind
  have hread : ∀ budget, Item.read (budget + 1) ((b :: digits ++ body) ++ rest) =
      readNested many build (nested budget) (body ++ rest) := by
    intro budget
    rw [List.append_assoc, List.cons_append, Item.read_cons, hmarker]
    exact hafter budget (nested budget) (hsize (body ++ rest)).1
  match budget with
  | 0 =>
      rw [if_neg (by omega)]
      rfl
  | 1 =>
      -- there is no unit left for a nested item, not even where there is none
      rw [if_neg (by omega), hread]
      rfl
  | budget + 2 =>
      rw [hread, nested, readNested, hmany budget rest]
      by_cases hdepth : depth ≤ budget
      · rw [if_pos hdepth, if_pos (by omega)]
        rfl
      · rw [if_neg hdepth, if_neg (by omega)]
        rfl

/-! ## All items -/

mutual

theorem Item.read_of_spelledBy : (x : Item) → {octets : Bytes} → x.SpelledBy octets →
    (budget : Nat) → (rest : Bytes) →
    Item.read budget (octets ++ rest) =
      if x.depth ≤ budget then .ok (x, rest) else .error .tooDeep
  | .nil, octets, h, budget, rest => by
      rw [show octets = 0xc0 :: [] from h]
      exact flat_nil.read_eq budget rest
  | .bool b, octets, h, budget, rest => by
      rw [show octets = (if b then 0xc3 else 0xc2) :: [] from h]
      exact (flat_bool b).read_eq budget rest
  | .int n, octets, h, budget, rest => by
      obtain ⟨b, digits, rfl, hflat⟩ := SpellsInt.flat h
      exact hflat.read_eq budget rest
  | .single x, octets, h, budget, rest => by
      rw [show octets = 0xca :: Bytes.ofNat 4 x.bits.toNat from h]
      exact (flat_single x).read_eq budget rest
  | .double x, octets, h, budget, rest => by
      rw [show octets = 0xcb :: Bytes.ofNat 8 x.bits.toNat from h]
      exact (flat_double x).read_eq budget rest
  | .text s, octets, h, budget, rest => by
      obtain ⟨head, hhead, rfl⟩ := h
      rw [read_string budget rest hhead, Item.ofStringOctets_ofText]
      rfl
  | .brokenText t, octets, h, budget, rest => by
      obtain ⟨head, hhead, rfl⟩ := h
      rw [read_string budget rest hhead, Item.ofStringOctets_octets]
      rfl
  | .bin body, octets, h, budget, rest => by
      obtain ⟨head, hhead, rfl⟩ := h
      exact read_bin budget rest hhead
  | .ext kind body, octets, h, budget, rest => by
      obtain ⟨head, hhead, rfl⟩ := h
      exact read_ext budget rest hhead
  | .array items, octets, h, budget, rest => by
      obtain ⟨head, body, hhead, hbody, rfl⟩ := h
      exact read_nested (fun read => readMany read items.length) HeadForm.array_announces hhead
        readAfter_array (readMany_of_spelledItems items hbody) budget rest
  | .map pairs, octets, h, budget, rest => by
      obtain ⟨head, body, hhead, hbody, rfl⟩ := h
      exact read_nested (fun read => readMany (readPair read) pairs.length)
        HeadForm.map_announces hhead readAfter_map (readMany_of_spelledPairs pairs hbody) budget rest

theorem readMany_of_spelledItems : (xs : List Item) → {octets : Bytes} → SpelledItems xs octets →
    (budget : Nat) → (rest : Bytes) →
    readMany (Item.read budget) xs.length (octets ++ rest) =
      if depthItems xs ≤ budget then .ok (xs, rest) else .error .tooDeep
  | [], octets, h, budget, rest => by
      rw [show octets = [] from h, depthItems, if_pos (Nat.zero_le _)]
      rfl
  | x :: xs, octets, h, budget, rest => by
      obtain ⟨first, more, hx, hxs, rfl⟩ := h
      rw [List.append_assoc, List.length_cons, readMany,
        Item.read_of_spelledBy x hx budget (more ++ rest), depthItems]
      -- the first item that is too deep is what the reader complains of
      by_cases hdepth : x.depth ≤ budget
      · rw [if_pos hdepth]
        dsimp only
        rw [readMany_of_spelledItems xs hxs budget rest]
        by_cases hmore : depthItems xs ≤ budget
        · rw [if_pos hmore, if_pos (by omega)]
        · rw [if_neg hmore, if_neg (by omega)]
      · rw [if_neg hdepth, if_neg (by omega)]

theorem readMany_of_spelledPairs : (ps : List (Item × Item)) → {octets : Bytes} →
    SpelledPairs ps octets → (budget : Nat) → (rest : Bytes) →
    readMany (readPair (Item.read budget)) ps.length (octets ++ rest) =
      if depthPairs ps ≤ budget then .ok (ps, rest) else .error .tooDeep
  | [], octets, h, budget, rest => by
      rw [show octets = [] from h, depthPairs, if_pos (Nat.zero_le _)]
      rfl
  | (k, v) :: ps, octets, h, budget, rest => by
      obtain ⟨key, value, more, hk, hv, hps, rfl⟩ := h
      rw [List.append_assoc, List.append_assoc, List.length_cons, readMany, readPair,
        Item.read_of_spelledBy k hk budget (value ++ (more ++ rest)), depthPairs]
      by_cases hkey : k.depth ≤ budget
      · rw [if_pos hkey]
        dsimp only
        rw [Item.read_of_spelledBy v hv budget (more ++ rest)]
        by_cases hvalue : v.depth ≤ budget
        · rw [if_pos hvalue]
          dsimp only
          rw [readMany_of_spelledPairs ps hps budget rest]
          by_cases hmore : depthPairs ps ≤ budget
          · rw [if_pos hmore, if_pos (by omega)]
          · rw [if_neg hmore, if_neg (by omega)]
        · rw [if_neg hvalue, if_neg (by omega)]
      · rw [if_neg hkey, if_neg (by omega)]

end

end PklHost.MessagePack
