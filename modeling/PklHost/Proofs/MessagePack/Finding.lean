import PklHost.Proofs.Except
import PklHost.Proofs.MessagePack.Growth
import PklHost.Proofs.MessagePack.Table

/-!
# What is found is spelled

Both traversals of a buffer find nothing but spellings.

* `Walk.spelled_of_run`: a walk that comes to its end has passed exactly as many values as it owed.
* `Item.spelledBy_of_read`: a reader that gives an item has read a spelling of it, or would have if the
  reserved markers that it met were those of nil.  What it gives is within its depth budget.

The reader takes the reserved marker for nil, and the walk refuses it, so that what the reader takes off
is what the walk finds only where no reserved marker was met (`Item.meetsReserved`).
-/

namespace PklHost.MessagePack

/-! ## Items one after another -/

theorem spelledItems_append_iff {xs ys : List Item} {octets : Bytes} :
    SpelledItems (xs ++ ys) octets ↔
      ∃ first more, SpelledItems xs first ∧ SpelledItems ys more ∧ octets = first ++ more := by
  induction xs generalizing octets with
  | nil => simp [SpelledItems]
  | cons x xs ih =>
      constructor
      · rintro ⟨first, more, hx, hmore, rfl⟩
        obtain ⟨others, behind, hxs, hys, rfl⟩ := ih.1 hmore
        exact ⟨first ++ others, behind, ⟨first, others, hx, hxs, rfl⟩, hys, by simp⟩
      · rintro ⟨_, behind, ⟨first, others, hx, hxs, rfl⟩, hys, rfl⟩
        exact ⟨first, others ++ behind, hx, ih.2 ⟨others, behind, hxs, hys, rfl⟩, by simp⟩

/-! ## The walk -/

/-- A walk that ends has passed as many values as it owed, and stands behind them.  The induction is
along the walk: what a header owes are the first of the values that are passed after it. -/
theorem Walk.spelled_of_run {w : Walk} {n : Nat} (h : w.run = some (.complete n)) :
    ∃ xs octets more, xs.length = w.owed ∧ SpelledItems xs octets ∧ w.rest = octets ++ more ∧
      n = w.position + octets.length := by
  induction w using Walk.run_induction with
  | on w w' hstep ih =>
      rw [run_of_on hstep] at h
      obtain ⟨xs, octets, more, hlength, hxs, hrest, hn⟩ := ih h
      cases Finds.of_step hstep with
      | @passes b bs header position owed hheader hskip =>
          dsimp only at hlength hrest hn
          have hxs' := hxs
          rw [← List.take_append_drop header.owed xs] at hxs'
          obtain ⟨inside, behind, hinside, hbehind, rfl⟩ := spelledItems_append_iff.1 hxs'
          have hcount : (xs.take header.owed).length = header.owed := by
            rw [List.length_take]
            omega
          obtain ⟨x, hx⟩ := exists_spelledBy_of_header hheader hskip hcount hinside
          refine ⟨x :: xs.drop header.owed, (b :: (bs.take header.skip ++ inside)) ++ behind, more,
            ?_, ⟨_, behind, hx, hbehind, rfl⟩, ?_, ?_⟩
          · show (x :: xs.drop header.owed).length = owed + 1
            rw [List.length_cons, List.length_drop]
            omega
          · have hbs := List.take_append_drop header.skip bs
            rw [hrest] at hbs
            exact congrArg (b :: ·) (hbs.symm.trans (by simp))
          · simp only [List.length_append, List.length_cons, List.length_take_of_le hskip] at hn ⊢
            omega
  | done w e hstep =>
      rw [run_of_done hstep, Option.some.injEq] at h
      subst h
      cases Finds.of_step hstep with
      | owesNothing position rest => exact ⟨[], [], rest, rfl, rfl, rfl, rfl⟩
  | reserved w hstep =>
      rw [run_of_reserved hstep] at h
      simp at h

/-- The extent of a buffer is that of the value at its front. -/
theorem spelledBy_of_extent {bs : Bytes} {n : Nat} (h : extent bs = some (.complete n)) :
    ∃ x : Item, x.SpelledBy (bs.take n) := by
  obtain ⟨xs, octets, more, hlength, hxs, rfl, rfl⟩ := Walk.spelled_of_run h
  obtain ⟨x, rfl⟩ := List.length_eq_one_iff.1 hlength
  obtain ⟨first, _, hx, rfl, rfl⟩ := hxs
  refine ⟨x, ?_⟩
  simpa using hx

/-! ## The reserved marker -/

/-- One of `count` items that are read one after another meets the reserved marker. -/
def anyMeets (meets : Bytes → Bool) (read : Bytes → Reading Item) : Nat → Bytes → Bool
  | 0, _ => false
  | count + 1, bs =>
    meets bs || match read bs with
      | .ok (_, bs) => anyMeets meets read count bs
      | .error _ => false

/-- Contents behind a size meet the reserved marker; `per` items are read for each that it counts. -/
def contentsMeet (meets : Bytes → Bool) (read : Bytes → Reading Item) (per : Nat) (size : SizeField)
    (bs : Bytes) : Bool :=
  match size.read bs with
  | .ok (count, bs) => anyMeets meets read (per * count) bs
  | .error _ => false

/-- The reader takes an octet of these for a marker, and it is the reserved one. -/
def Item.meetsReserved : (budget : Nat) → Bytes → Bool
  | 0, _ | _ + 1, [] => false
  | 1, b :: _ => decide (Marker.ofOctet b = .reserved)
  | budget + 2, b :: bs =>
    match Marker.ofOctet b with
    | .reserved => true
    | .array size => contentsMeet (Item.meetsReserved budget) (Item.read budget) 1 size bs
    | .map size => contentsMeet (Item.meetsReserved budget) (Item.read budget) 2 size bs
    | _ => false

/-! ## The reader -/

/-- The marker of a value with no values in it. -/
def Marker.Plain : Marker → Prop
  | .reserved | .array _ | .map _ => False
  | _ => True

theorem readNat_eq_ok {width n : Nat} {bs more : Bytes} (h : readNat width bs = .ok (n, more)) :
    width ≤ bs.length ∧ more = bs.drop width := by
  unfold readNat at h
  cases hsplit : bs.split? width with
  | none => simp [hsplit] at h
  | some parts =>
      obtain ⟨rfl, rfl⟩ := Bytes.append_of_split? hsplit
      rw [hsplit] at h
      simp only [Except.ok.injEq, Prod.mk.injEq] at h
      simp [← h.2]

theorem le_of_readBody {n : Nat} {bs body more : Bytes} (h : readBody n bs = .ok (body, more)) :
    n ≤ bs.length := by
  unfold readBody at h
  cases hsplit : bs.split? n with
  | none => simp [hsplit] at h
  | some parts =>
      obtain ⟨rfl, rfl⟩ := Bytes.append_of_split? hsplit
      simp

/-- The header of a sized marker whose size and body were read. -/
theorem sizedHeader_of_read {size : SizeField} {bs more : Bytes} {n extra : Nat} (f : Nat → Header)
    (hread : size.read bs = .ok (n, more)) (hbody : extra ≤ more.length) :
    sizedHeader size f bs = .ok (f n) ∧ size.width + extra ≤ bs.length := by
  obtain ⟨hpeek, rfl⟩ := SizeField.read_eq_ok_iff.1 hread
  have hwidth : size.width ≤ bs.length := Nat.le_of_not_lt fun hshort => by
    rw [SizeField.peek?_eq_none_iff.2 hshort] at hpeek
    simp at hpeek
  rw [List.length_drop] at hbody
  exact ⟨by rw [sizedHeader, hpeek], by omega⟩

/-- What was read behind a plain marker, the walk steps over. -/
theorem header_of_readAfter {budget : Nat} {inner : Option (Bytes → Reading Item)} {m : Marker}
    {bs rest : Bytes} {x : Item} (hplain : m.Plain)
    (h : readAfter budget inner m bs = .ok (x, rest)) :
    ∃ skip, m.header bs = some (.ok ⟨skip, 0⟩) ∧ skip ≤ bs.length := by
  cases m with
  | reserved | array size | map size => exact hplain.elim
  | nil | bool b | small k => exact ⟨0, rfl, Nat.zero_le _⟩
  | unsigned width | signed width | single | double =>
      simp only [readAfter, bind_eq_ok_iff, Prod.exists] at h
      obtain ⟨n, more, hread, -⟩ := h
      exact ⟨_, rfl, (readNat_eq_ok hread).1⟩
  | text size | bin size =>
      simp only [readAfter, bind_eq_ok_iff, Prod.exists] at h
      obtain ⟨n, more, hread, -, -, body, behind, hbody, -⟩ := h
      obtain ⟨hheader, hskip⟩ :=
        sizedHeader_of_read (fun n => ⟨size.width + n, 0⟩) hread (le_of_readBody hbody)
      exact ⟨size.width + n, congrArg some hheader, hskip⟩
  | ext size =>
      simp only [readAfter, readExt, bind_eq_ok_iff, Prod.exists] at h
      obtain ⟨n, more, hread, -, -, kind, behind, hkind, -, -, body, behind', hbody, -⟩ := h
      obtain ⟨hone, rfl⟩ := readNat_eq_ok hkind
      have hbody := le_of_readBody hbody
      rw [List.length_drop] at hbody
      obtain ⟨hheader, hskip⟩ := sizedHeader_of_read (fun n => ⟨size.width + 1 + n, 0⟩) hread
        (show 1 + n ≤ more.length by omega)
      exact ⟨size.width + 1 + n, congrArg some hheader, by omega⟩

/-- What was read behind a plain marker is spelled by the octets that are gone. -/
theorem spelledBy_of_readAfter {budget : Nat} {b : UInt8} {bs rest : Bytes} {x : Item}
    (hplain : (Marker.ofOctet b).Plain)
    (h : readAfter budget (nested budget) (Marker.ofOctet b) bs = .ok (x, rest)) :
    ∃ octets, x.SpelledBy octets ∧ x.depth ≤ budget + 1 ∧ b :: bs = octets ++ rest := by
  obtain ⟨skip, hheader, hskip⟩ := header_of_readAfter hplain h
  obtain ⟨x', hspelled⟩ := exists_spelledBy_of_header hheader hskip
    (show ([] : List Item).length = 0 from rfl) (show SpelledItems [] [] from rfl)
  rw [List.append_nil] at hspelled
  have hbs : b :: bs = (b :: bs.take skip) ++ bs.drop skip := by
    rw [List.cons_append, List.take_append_drop]
  have hread := Item.read_of_spelledBy x' hspelled (budget + 1) (bs.drop skip)
  rw [← hbs, Item.read_cons, h] at hread
  by_cases hdepth : x'.depth ≤ budget + 1
  · rw [if_pos hdepth] at hread
    simp only [Except.ok.injEq, Prod.mk.injEq] at hread
    obtain ⟨rfl, rfl⟩ := hread
    exact ⟨_, hspelled, hdepth, hbs⟩
  · rw [if_neg hdepth] at hread
    simp at hread

/-- What a reader gives is spelled, within its budget, and where it met no reserved marker the spelling
is what it took off. -/
def Spells (meets : Bytes → Bool) (read : Bytes → Reading Item) (budget : Nat) : Prop :=
  ∀ (bs rest : Bytes) (x : Item), read bs = .ok (x, rest) →
    ∃ octets, x.SpelledBy octets ∧ x.depth ≤ budget ∧ (meets bs = false → bs = octets ++ rest)

/-- Reading pairs is reading keys and values in a row. -/
theorem readMany_of_readPair {read : Bytes → Reading Item} {n : Nat} {bs rest : Bytes}
    {ps : List (Item × Item)} (h : readMany (readPair read) n bs = .ok (ps, rest)) :
    readMany read (2 * n) bs = .ok (keysAndValues ps, rest) := by
  induction n generalizing bs ps with
  | zero =>
      simp only [readMany, Except.ok.injEq, Prod.mk.injEq] at h
      obtain ⟨rfl, rfl⟩ := h
      rfl
  | succ n ih =>
      rw [readMany, readPair] at h
      rw [show 2 * (n + 1) = 2 * n + 1 + 1 by omega, readMany]
      cases hkey : read bs with
      | error e => simp [hkey] at h
      | ok key =>
          cases hvalue : read key.2 with
          | error e => simp [hkey, hvalue] at h
          | ok value =>
              cases hmore : readMany (readPair read) n value.2 with
              | error e => simp [hkey, hvalue, hmore] at h
              | ok more =>
                  simp only [hkey, hvalue, hmore, Except.ok.injEq, Prod.mk.injEq] at h
                  obtain ⟨rfl, rfl⟩ := h
                  dsimp only
                  rw [readMany, hvalue]
                  dsimp only
                  rw [ih hmore]
                  rfl

theorem Spells.readMany {meets : Bytes → Bool} {read : Bytes → Reading Item} {budget n : Nat}
    {bs rest : Bytes} {xs : List Item} (hread : Spells meets read budget)
    (h : readMany read n bs = .ok (xs, rest)) :
    ∃ octets, xs.length = n ∧ SpelledItems xs octets ∧ depthItems xs ≤ budget ∧
      (anyMeets meets read n bs = false → bs = octets ++ rest) := by
  induction n generalizing bs xs with
  | zero =>
      simp only [MessagePack.readMany, Except.ok.injEq, Prod.mk.injEq] at h
      obtain ⟨rfl, rfl⟩ := h
      exact ⟨[], rfl, rfl, Nat.zero_le _, fun _ => rfl⟩
  | succ n ih =>
      rw [MessagePack.readMany] at h
      cases hfirst : read bs with
      | error e => simp [hfirst] at h
      | ok first =>
          cases hmore : MessagePack.readMany read n first.2 with
          | error e => simp [hfirst, hmore] at h
          | ok more =>
              simp only [hfirst, hmore, Except.ok.injEq, Prod.mk.injEq] at h
              obtain ⟨rfl, rfl⟩ := h
              obtain ⟨octets, hx, hdepth, hoff⟩ := hread _ _ _ hfirst
              obtain ⟨others, hlength, hxs, hdepths, hoffs⟩ := ih hmore
              refine ⟨octets ++ others, by rw [List.length_cons, hlength],
                ⟨octets, others, hx, hxs, rfl⟩, Nat.max_le.2 ⟨hdepth, hdepths⟩, fun hmeets => ?_⟩
              rw [anyMeets, hfirst, Bool.or_eq_false_iff] at hmeets
              rw [List.append_assoc, ← hoffs hmeets.2]
              exact hoff hmeets.1

/-- Items that were read behind the size of a container. -/
theorem Spells.contents {meets : Bytes → Bool} {read : Bytes → Reading Item} {budget n per : Nat}
    {form : HeadForm} {b : UInt8} {size : SizeField} {bs more rest : Bytes} {xs : List Item}
    (hread : Spells meets read budget) (hlists : form.Lists b size)
    (hsize : size.read bs = .ok (n, more)) (h : MessagePack.readMany read (per * n) more = .ok (xs, rest)) :
    ∃ head octets, form.Says n head ∧ xs.length = per * n ∧ SpelledItems xs octets ∧
      depthItems xs ≤ budget ∧
      (contentsMeet meets read per size bs = false → b :: bs = (head ++ octets) ++ rest) := by
  obtain ⟨octets, hlength, hxs, hdepth, hoff⟩ := hread.readMany h
  obtain ⟨hpeek, hmore⟩ := SizeField.read_eq_ok_iff.1 hsize
  obtain ⟨-, hhead⟩ := HeadForm.says_of_peek? hlists hpeek
  refine ⟨_, octets, hhead, hlength, hxs, hdepth, fun hmeets => ?_⟩
  rw [contentsMeet, hsize] at hmeets
  rw [List.append_assoc, ← hoff hmeets, hmore, List.cons_append, List.take_append_drop]

/-- The reader gives what is spelled. -/
theorem Item.spells_read : (budget : Nat) → Spells (Item.meetsReserved budget) (Item.read budget) budget
  | 0 => fun bs rest x h => by simp [Item.read] at h
  | budget + 1 => fun bs rest x h => by
      cases bs with
      | nil => cases budget <;> simp [Item.read] at h
      | cons b bs =>
          rw [Item.read_cons] at h
          have hlisted := Marker.listed_ofOctet b
          cases hmarker : Marker.ofOctet b with
          | reserved =>
              rw [hmarker] at h
              simp only [readAfter, Except.ok.injEq, Prod.mk.injEq] at h
              obtain ⟨rfl, rfl⟩ := h
              refine ⟨[0xc0], rfl, Nat.le_add_left 1 budget, fun hmeets => ?_⟩
              cases budget <;> simp [Item.meetsReserved, hmarker] at hmeets
          | array size =>
              rw [hmarker] at h hlisted
              simp only [readAfter, bind_eq_ok_iff, Prod.exists] at h
              obtain ⟨n, more, hsize, h⟩ := h
              cases budget with
              | zero => simp [nested] at h
              | succ budget =>
                  simp only [nested, bind_eq_ok_iff, Prod.exists, pure_eq_ok_iff, Prod.mk.injEq] at h
                  obtain ⟨xs, _, hxs, rfl, rfl⟩ := h
                  rw [← Nat.one_mul n] at hxs
                  obtain ⟨head, octets, hhead, hlength, hspelled, hdepth, hoff⟩ :=
                    (Item.spells_read budget).contents hlisted hsize hxs
                  obtain rfl : xs.length = n := by omega
                  refine ⟨_, ⟨head, octets, hhead, hspelled, rfl⟩, ?_, fun hmeets => hoff ?_⟩
                  · show 2 + depthItems xs ≤ budget + 1 + 1
                    omega
                  · simpa [Item.meetsReserved, hmarker] using hmeets
          | map size =>
              rw [hmarker] at h hlisted
              simp only [readAfter, bind_eq_ok_iff, Prod.exists] at h
              obtain ⟨n, more, hsize, h⟩ := h
              cases budget with
              | zero => simp [nested] at h
              | succ budget =>
                  simp only [nested, bind_eq_ok_iff, Prod.exists, pure_eq_ok_iff, Prod.mk.injEq] at h
                  obtain ⟨ps, _, hps, rfl, rfl⟩ := h
                  obtain ⟨head, octets, hhead, hlength, hspelled, hdepth, hoff⟩ :=
                    (Item.spells_read budget).contents hlisted hsize (readMany_of_readPair hps)
                  rw [length_keysAndValues] at hlength
                  obtain rfl : ps.length = n := by omega
                  refine ⟨_, ⟨head, octets, hhead, spelledPairs_iff.2 hspelled, rfl⟩, ?_,
                    fun hmeets => hoff ?_⟩
                  · show 2 + depthPairs ps ≤ budget + 1 + 1
                    rw [depthPairs_eq]
                    omega
                  · simpa [Item.meetsReserved, hmarker] using hmeets
          | nil | bool _ | small _ | unsigned _ | signed _ | single | double | text _ | bin _ | ext _ =>
              have hplain : (Marker.ofOctet b).Plain := by
                rw [hmarker]
                trivial
              obtain ⟨octets, hx, hdepth, hoff⟩ := spelledBy_of_readAfter hplain h
              exact ⟨octets, hx, hdepth, fun _ => hoff⟩

/-! ## No spelling meets the reserved marker -/

theorem anyMeets_of_spelledItems {budget : Nat}
    (hmeets : ∀ {x : Item} {octets : Bytes}, x.SpelledBy octets →
      ∀ rest, Item.meetsReserved budget (octets ++ rest) = false)
    {xs : List Item} {octets : Bytes} (h : SpelledItems xs octets) (rest : Bytes) :
    anyMeets (Item.meetsReserved budget) (Item.read budget) xs.length (octets ++ rest) = false := by
  induction xs generalizing octets with
  | nil => rfl
  | cons x xs ih =>
      obtain ⟨first, more, hx, hxs, rfl⟩ := h
      rw [List.append_assoc, List.length_cons, anyMeets, hmeets hx, Bool.false_or,
        Item.read_of_spelledBy x hx]
      by_cases hdepth : x.depth ≤ budget
      · rw [if_pos hdepth]
        exact ih hxs
      · rw [if_neg hdepth]

theorem Item.meetsReserved_of_plain {b : UInt8} (hplain : (Marker.ofOctet b).Plain) (budget : Nat)
    (bs : Bytes) : Item.meetsReserved budget (b :: bs) = false := by
  match budget with
  | 0 => rfl
  | 1 => cases hmarker : Marker.ofOctet b <;> simp_all [Item.meetsReserved, Marker.Plain]
  | budget + 2 => cases hmarker : Marker.ofOctet b <;> simp_all [Item.meetsReserved, Marker.Plain]

theorem SpellsInt.plain {v : Int} {octets : Bytes} (h : SpellsInt v octets) :
    ∃ b digits, octets = b :: digits ∧ (Marker.ofOctet b).Plain := by
  cases h with
  | positive hn => exact ⟨_, _, rfl, by rw [ofOctet_positive hn]; trivial⟩
  | negative hn => exact ⟨_, _, rfl, by rw [ofOctet_negative hn]; trivial⟩
  | unsigned h hn => exact ⟨_, _, rfl, by rw [(unsignedMarkers_announce _ h).1]; trivial⟩
  | signed h hn => exact ⟨_, _, rfl, by rw [(signedMarkers_announce _ h).1]; trivial⟩

theorem HeadForm.Says.plain {form : HeadForm} {kind : SizeField → Marker} {n : Nat} {head : Bytes}
    (h : form.Says n head) (hkind : form.Announces kind) (hplain : ∀ size, (kind size).Plain)
    (budget : Nat) (bs : Bytes) : Item.meetsReserved budget (head ++ bs) = false := by
  obtain ⟨b, digits, size, rfl, hmarker, -, -⟩ := h.marker hkind
  refine Item.meetsReserved_of_plain ?_ budget _
  rw [hmarker]
  exact hplain size

/-- The contents of a container that is spelled are those that are met behind its size. -/
theorem HeadForm.Says.meetsReserved {form : HeadForm} {kind : SizeField → Marker} {budget n : Nat}
    {head body : Bytes} {xs : List Item} (per : Nat) (h : form.Says n head)
    (hkind : form.Announces kind) (hmeets : ∀ {b bs size}, Marker.ofOctet b = kind size →
      Item.meetsReserved (budget + 2) (b :: bs) =
        contentsMeet (Item.meetsReserved budget) (Item.read budget) per size bs)
    (hitems : ∀ {x : Item} {octets : Bytes}, x.SpelledBy octets →
      ∀ rest, Item.meetsReserved budget (octets ++ rest) = false)
    (hlength : xs.length = per * n) (hxs : SpelledItems xs body) (rest : Bytes) :
    Item.meetsReserved (budget + 2) ((head ++ body) ++ rest) = false := by
  obtain ⟨b, digits, size, rfl, hmarker, -, hsize⟩ := h.marker hkind
  rw [List.append_assoc, List.cons_append, hmeets hmarker, contentsMeet, (hsize (body ++ rest)).1]
  dsimp only
  rw [← hlength]
  exact anyMeets_of_spelledItems hitems hxs rest

/-- No octet of a spelling is taken for the reserved marker, however deep the reader gets. -/
theorem Item.meetsReserved_of_spelledBy : (budget : Nat) → {x : Item} → {octets : Bytes} →
    x.SpelledBy octets → (rest : Bytes) → Item.meetsReserved budget (octets ++ rest) = false
  | 0, _, _, _, _ => rfl
  | 1, .array _, octets, ⟨head, body, hhead, _, hoctets⟩, rest => by
      obtain ⟨b, digits, size, rfl, hmarker, -, -⟩ := hhead.marker HeadForm.array_announces
      subst hoctets
      simp [Item.meetsReserved, hmarker]
  | 1, .map _, octets, ⟨head, body, hhead, _, hoctets⟩, rest => by
      obtain ⟨b, digits, size, rfl, hmarker, -, -⟩ := hhead.marker HeadForm.map_announces
      subst hoctets
      simp [Item.meetsReserved, hmarker]
  | budget + 2, .array xs, octets, ⟨head, body, hhead, hxs, hoctets⟩, rest => by
      subst hoctets
      refine hhead.meetsReserved 1 HeadForm.array_announces (fun hmarker => ?_)
        (Item.meetsReserved_of_spelledBy budget) (Nat.one_mul _).symm hxs rest
      simp only [Item.meetsReserved, hmarker]
  | budget + 2, .map ps, octets, ⟨head, body, hhead, hps, hoctets⟩, rest => by
      subst hoctets
      refine hhead.meetsReserved 2 HeadForm.map_announces (fun hmarker => ?_)
        (Item.meetsReserved_of_spelledBy budget) (length_keysAndValues ps) (spelledPairs_iff.1 hps) rest
      simp only [Item.meetsReserved, hmarker]
  | budget + 1, .nil, octets, h, rest => by
      rw [show octets = [0xc0] from h]
      exact Item.meetsReserved_of_plain (b := 0xc0) trivial _ _
  | budget + 1, .bool b, octets, h, rest => by
      rw [show octets = [if b then 0xc3 else 0xc2] from h]
      exact Item.meetsReserved_of_plain (by cases b <;> trivial) _ _
  | budget + 1, .int n, octets, h, rest => by
      obtain ⟨b, digits, rfl, hplain⟩ := SpellsInt.plain h
      exact Item.meetsReserved_of_plain hplain _ _
  | budget + 1, .single x, octets, h, rest => by
      rw [show octets = 0xca :: Bytes.ofNat 4 x.bits.toNat from h]
      exact Item.meetsReserved_of_plain (b := 0xca) trivial _ _
  | budget + 1, .double x, octets, h, rest => by
      rw [show octets = 0xcb :: Bytes.ofNat 8 x.bits.toNat from h]
      exact Item.meetsReserved_of_plain (b := 0xcb) trivial _ _
  | budget + 1, .text s, octets, ⟨head, hhead, hoctets⟩, rest => by
      rw [hoctets, List.append_assoc]
      exact hhead.plain HeadForm.text_announces (fun _ => trivial) _ _
  | budget + 1, .brokenText t, octets, ⟨head, hhead, hoctets⟩, rest => by
      rw [hoctets, List.append_assoc]
      exact hhead.plain HeadForm.text_announces (fun _ => trivial) _ _
  | budget + 1, .bin body, octets, ⟨head, hhead, hoctets⟩, rest => by
      rw [hoctets, List.append_assoc]
      exact hhead.plain HeadForm.bin_announces (fun _ => trivial) _ _
  | budget + 1, .ext kind body, octets, ⟨head, hhead, hoctets⟩, rest => by
      rw [hoctets, List.append_assoc]
      exact hhead.plain HeadForm.ext_announces (fun _ => trivial) _ _

end PklHost.MessagePack
