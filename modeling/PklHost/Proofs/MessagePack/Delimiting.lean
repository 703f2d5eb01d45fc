import PklHost.Proofs.Except
import PklHost.Proofs.MessagePack.Reading

/-!
# Items end by themselves

Where an item ends is said by its own octets: a reader that gives an item takes the same octets off
whatever follows them, and if some of these are gone, octets are what it misses (`Item.delimits_read`).
The reserved marker, which the reader takes for nil, is no exception.

`Delimits` has a rule for each way in which readers are put together, so that the proof for items is one
case for each marker and an induction on the depth budget.
-/

namespace PklHost.MessagePack

variable {α β : Type}

/-- A reader that finds the end of what it reads by what it has read. -/
structure Delimits (read : Bytes → Except ReadError (α × Bytes)) : Prop where
  /-- Nothing is put back that was not there. -/
  shrinks : ∀ {bs x rest}, read bs = .ok (x, rest) → rest.length ≤ bs.length
  /-- What follows stays where it is. -/
  extend : ∀ {bs x rest} (more), read bs = .ok (x, rest) → read (bs ++ more) = .ok (x, rest ++ more)
  /-- Octets from the end on are either left as they are, or some of them were needed.  Without these
  the reader does not give a result, and does not complain of the depth. -/
  cut : ∀ {bs more x rest}, read (bs ++ more) = .ok (x, rest) →
    (∃ left, rest = left ++ more ∧ read bs = .ok (x, left)) ∨
      rest.length < more.length ∧ ∃ e, read bs = .error e ∧ e ≠ .tooDeep

namespace Delimits

/-! ## How readers are put together -/

theorem ok (x : α) : Delimits fun bs => .ok (x, bs) where
  shrinks h := by
    obtain ⟨-, rfl⟩ := Prod.mk.inj (Except.ok.inj h)
    exact Nat.le_refl _
  extend more h := by
    obtain ⟨rfl, rfl⟩ := Prod.mk.inj (Except.ok.inj h)
    rfl
  cut {bs _ _ _} h := by
    obtain ⟨rfl, rfl⟩ := Prod.mk.inj (Except.ok.inj h)
    exact .inl ⟨bs, rfl, rfl⟩

/-- A reader that gives nothing. -/
theorem error {read : Bytes → Reading α} {e : ReadError} (h : ∀ bs, read bs = .error e) :
    Delimits read where
  shrinks hread := by simp [h] at hread
  extend _ hread := by simp [h] at hread
  cut hread := by simp [h] at hread

theorem bind {read : Bytes → Except ReadError (α × Bytes)}
    {next : α × Bytes → Except ReadError (β × Bytes)} (h : Delimits read)
    (hnext : ∀ a, Delimits fun bs => next (a, bs)) : Delimits fun bs => read bs >>= next where
  shrinks hrun := by
    obtain ⟨⟨a, mid⟩, hread, hrest⟩ := bind_eq_ok_iff.1 hrun
    exact Nat.le_trans ((hnext a).shrinks hrest) (h.shrinks hread)
  extend more hrun := by
    obtain ⟨⟨a, mid⟩, hread, hrest⟩ := bind_eq_ok_iff.1 hrun
    exact bind_eq_ok_iff.2 ⟨_, h.extend more hread, (hnext a).extend more hrest⟩
  cut {bs more x rest} hrun := by
    obtain ⟨⟨a, mid⟩, hread, hrest⟩ := bind_eq_ok_iff.1 hrun
    rcases h.cut hread with ⟨left, rfl, hleft⟩ | ⟨hshort, e, he, hcause⟩
    · -- the first reader left all of `more` to the second
      rw [hleft, ok_bind]
      exact (hnext a).cut hrest
    · refine .inr ⟨Nat.lt_of_le_of_lt ((hnext a).shrinks hrest) hshort, e, ?_, hcause⟩
      rw [he]
      rfl

theorem map {read : Bytes → Except ReadError (α × Bytes)} (h : Delimits read) (f : α → β) :
    Delimits fun bs => (read bs).map fun p => (f p.1, p.2) :=
  h.bind fun x => ok (f x)

/-- The budget does not depend on the octets. -/
theorem spend {read : Bytes → Except ReadError (α × Bytes)} (h : Delimits read) (n budget : Nat) :
    Delimits fun bs => MessagePack.spend n budget >>= fun _ => read bs := by
  by_cases hbudget : n ≤ budget
  · simpa only [MessagePack.spend, if_pos hbudget, ok_bind] using h
  · simp only [MessagePack.spend, if_neg hbudget]
    exact error fun _ => rfl

theorem readMany {read : Bytes → Except ReadError (α × Bytes)} (h : Delimits read) (n : Nat) :
    Delimits (MessagePack.readMany read n) := by
  induction n with
  | zero => exact ok []
  | succ n ih =>
      have hmany : MessagePack.readMany read (n + 1) = fun bs =>
          (read bs >>= fun p => (MessagePack.readMany read n p.2).map fun q => (p.1 :: q.1, q.2) :
            Except ReadError (List α × Bytes)) := by
        funext bs
        rw [MessagePack.readMany]
        cases read bs with
        | error e => rfl
        | ok p =>
            rw [ok_bind]
            dsimp only
            cases MessagePack.readMany read n p.2 <;> rfl
      rw [hmany]
      exact h.bind fun x => ih.map fun xs => x :: xs

theorem readPair {read : Bytes → Except ReadError (α × Bytes)} (h : Delimits read) :
    Delimits (MessagePack.readPair read) := by
  have hpair : MessagePack.readPair read = fun bs =>
      (read bs >>= fun p => (read p.2).map fun q => ((p.1, q.1), q.2) :
        Except ReadError ((α × α) × Bytes)) := by
    funext bs
    rw [MessagePack.readPair]
    cases read bs with
    | error e => rfl
    | ok p =>
        rw [ok_bind]
        dsimp only
        cases read p.2 <;> rfl
  rw [hpair]
  exact h.bind fun k => h.map fun v => (k, v)

end Delimits

/-! ## Octets of a known number -/

/-- A reader of a fixed number of octets, for any complaint about their number. -/
theorem delimits_split {f : Bytes → α} {complaint : Bytes → ReadError} {n : Nat}
    (hcomplaint : ∀ bs, complaint bs ≠ .tooDeep) :
    Delimits fun bs => match bs.split? n with
      | some (body, rest) => .ok (f body, rest)
      | none => .error (complaint bs) where
  shrinks {bs x rest} h := by
    cases hsplit : bs.split? n with
    | none => simp [hsplit] at h
    | some parts =>
        obtain ⟨rfl, -⟩ := Bytes.append_of_split? hsplit
        simp only [hsplit, Except.ok.injEq, Prod.mk.injEq] at h
        simp [← h.2]
  extend {bs x rest} more h := by
    cases hsplit : bs.split? n with
    | none => simp [hsplit] at h
    | some parts =>
        simp only [hsplit, Except.ok.injEq, Prod.mk.injEq] at h
        simp [Bytes.split?_append_of_some more hsplit, h.1, h.2]
  cut {bs more x rest} h := by
    cases hsplit : bs.split? n with
    | some parts =>
        simp only [Bytes.split?_append_of_some more hsplit, Except.ok.injEq, Prod.mk.injEq] at h
        exact .inl ⟨parts.2, h.2.symm, by simp [h.1]⟩
    | none =>
        refine .inr ⟨?_, complaint bs, by simp, hcomplaint bs⟩
        have hshort := Bytes.split?_eq_none_iff.1 hsplit
        cases hwhole : Bytes.split? n (bs ++ more) with
        | none => simp [hwhole] at h
        | some parts =>
            simp only [hwhole, Except.ok.injEq, Prod.mk.injEq] at h
            obtain ⟨hparts, hlength⟩ := Bytes.append_of_split? hwhole
            have hcount := congrArg List.length hparts
            simp only [List.length_append] at hcount
            rw [← h.2]
            omega

theorem delimits_readNat (width : Nat) : Delimits (readNat width) :=
  delimits_split fun _ => ReadError.noConfusion

theorem delimits_readBody (size : Nat) : Delimits (readBody size) :=
  delimits_split fun _ => ReadError.noConfusion

theorem SizeField.delimits_read (size : SizeField) : Delimits size.read := by
  cases size with
  | inMarker n => exact .ok n
  | octets width => exact delimits_readNat width

/-! ## Items -/

theorem delimits_readExt (budget size : Nat) : Delimits (readExt budget size) := by
  refine .spend ?_ 1 budget
  refine .bind (delimits_readNat 1) fun kind => ?_
  refine .spend ?_ 2 budget
  exact .bind (delimits_readBody size) fun _ => .ok _

/-- Behind a marker, if what reads the nested items finds their ends. -/
theorem delimits_readAfter {inner : Option (Bytes → Reading Item)} (budget : Nat)
    (hinner : ∀ read ∈ inner, Delimits read) (m : Marker) : Delimits (readAfter budget inner m) := by
  cases m with
  | nil | reserved | bool b | small n => exact .ok _
  | unsigned width | signed width => exact .bind (delimits_readNat width) fun _ => .ok _
  | single => exact .bind (delimits_readNat 4) fun _ => .ok _
  | double => exact .bind (delimits_readNat 8) fun _ => .ok _
  | text size =>
      refine .bind size.delimits_read fun n => ?_
      refine .spend ?_ 2 budget
      exact .bind (delimits_readBody n) fun _ => .ok _
  | bin size =>
      refine .bind size.delimits_read fun n => ?_
      refine .spend ?_ 1 budget
      exact .bind (delimits_readBody n) fun _ => .ok _
  | ext size => exact .bind size.delimits_read fun n => delimits_readExt budget n
  | array size =>
      refine .bind size.delimits_read fun n => ?_
      cases inner with
      | none => exact .error fun _ => rfl
      | some read => exact .bind ((hinner read rfl).readMany n) fun _ => .ok _
  | map size =>
      refine .bind size.delimits_read fun n => ?_
      cases inner with
      | none => exact .error fun _ => rfl
      | some read => exact .bind ((hinner read rfl).readPair.readMany n) fun _ => .ok _

/-- A reader that takes one octet off first. -/
theorem Delimits.cons {read : Bytes → Reading α} {after : UInt8 → Bytes → Reading α} {e : ReadError}
    (he : e ≠ .tooDeep) (hnil : read [] = .error e) (hcons : ∀ b bs, read (b :: bs) = after b bs)
    (h : ∀ b, Delimits (after b)) : Delimits read where
  shrinks {bs x rest} hread := by
    cases bs with
    | nil => simp [hnil] at hread
    | cons b bs => exact Nat.le_succ_of_le ((h b).shrinks (hcons b bs ▸ hread))
  extend {bs x rest} more hread := by
    cases bs with
    | nil => simp [hnil] at hread
    | cons b bs =>
        rw [List.cons_append, hcons]
        exact (h b).extend more (hcons b bs ▸ hread)
  cut {bs more x rest} hread := by
    cases bs with
    | nil =>
        cases more with
        | nil => simp [hnil] at hread
        | cons b more =>
            rw [List.nil_append, hcons] at hread
            exact .inr ⟨Nat.lt_succ_of_le ((h b).shrinks hread), e, hnil, he⟩
    | cons b bs =>
        rw [List.cons_append, hcons] at hread
        rw [hcons]
        exact (h b).cut hread

/-- Items end by themselves, however deep they may be. -/
theorem Item.delimits_read : (budget : Nat) → Delimits (Item.read budget)
  | 0 => .error fun _ => rfl
  | budget + 1 => by
      refine .cons (e := .noMarker) ReadError.noConfusion (by cases budget <;> rfl)
        (Item.read_cons budget) fun b => delimits_readAfter budget ?_ _
      intro read hread
      cases budget with
      | zero => cases hread
      | succ budget =>
          obtain rfl : Item.read budget = read := Option.some.inj hread
          exact Item.delimits_read budget

end PklHost.MessagePack
