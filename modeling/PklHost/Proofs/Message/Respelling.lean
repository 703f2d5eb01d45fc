import PklHost.Proofs.Message.Lockstep

/-!
# Records that are spelled in other ways

A record can be written in many ways that mean the same: its pairs in another order, with pairs under keys
that are none of its names, with a field that is absent as one that is nil, and the same in each record
inside it.  `Respells` is generated by these.  As long as no name stands twice in a record or in one
inside it (`Keyed`), a reader makes the same message of all of them, or refuses them for the same reason
(`reading_ignores_spelling`).

A map that is no record, such as that of a project's dependencies, is not respelled: its order and its
keys are read.
-/

namespace PklHost.Message

open MessagePack (Item WireInt)

/-! ## Records within contents -/

/-- The pairs of a record that stands somewhere in the contents of a field. -/
inductive Stands (s : RecordName) (inner : List (Item × Item)) : Contents → Item → Prop
  | record : Stands s inner (.record s) (.map inner)
  | records {items : List Item} (h : .map inner ∈ items) : Stands s inner (.records s) (.array items)
  | named {k : Item} {pairs : List (Item × Item)} (h : (k, .map inner) ∈ pairs) :
      Stands s inner (.named s) (.map pairs)

/-- Contents of a field but for one record in them. -/
inductive Place (s : RecordName) : Contents → (List (Item × Item) → Item) → Prop
  | record : Place s (.record s) .map
  | records (front back : List Item) :
      Place s (.records s) fun inner => .array (front ++ .map inner :: back)
  | named (front : List (Item × Item)) (k : Item) (back : List (Item × Item)) :
      Place s (.named s) fun inner => .map (front ++ (k, .map inner) :: back)

variable {r s : RecordName} {c : Contents} {place : List (Item × Item) → Item}
  {pairs pairs' inner inner' : List (Item × Item)}

theorem Place.stands (h : Place s c place) (inner : List (Item × Item)) :
    Stands s inner c (place inner) := by
  cases h with
  | record => exact .record
  | records front back => exact .records (by simp)
  | named front k back => exact .named (List.mem_append_right front List.mem_cons_self)

/-- Of the records in contents, putting one into its place changes that one alone. -/
theorem Place.stands_cases {t : RecordName} {other : List (Item × Item)} (h : Place s c place)
    (hstands : Stands t other c (place inner')) :
    t = s ∧ other = inner' ∨ Stands t other c (place inner) := by
  cases h with
  | record =>
      cases hstands with
      | record => exact .inl ⟨rfl, rfl⟩
  | records front back =>
      cases hstands with
      | records hmem =>
          rcases List.mem_append.1 hmem with hfront | hmem
          · exact .inr (.records (List.mem_append_left _ hfront))
          · rcases List.mem_cons.1 hmem with hsame | hback
            · exact .inl ⟨rfl, Item.map.inj hsame⟩
            · exact .inr (.records (List.mem_append_right _ (List.mem_cons_of_mem _ hback)))
  | named front k back =>
      cases hstands with
      | named hmem =>
          rcases List.mem_append.1 hmem with hfront | hmem
          · exact .inr (.named (List.mem_append_left _ hfront))
          · rcases List.mem_cons.1 hmem with hsame | hback
            · exact .inl ⟨rfl, Item.map.inj (Prod.mk.inj hsame).2⟩
            · exact .inr (.named (List.mem_append_right _ (List.mem_cons_of_mem _ hback)))

/-- Contents are read alike if the records in one place are. -/
theorem Place.alike (h : Place s c place) (hinner : s.Alike (.map inner) (.map inner')) :
    c.Alike (place inner) (place inner') := by
  cases h with
  | record => exact hinner
  | records front back =>
      have hsame : ∀ items : List Item, List.Forall₂ s.Alike items items := fun _ =>
        List.forall₂_same.2 fun v _ => .refl s v
      exact .inr ⟨_, _, rfl, rfl, List.rel_append (hsame front) (.cons hinner (hsame back))⟩
  | named front k back =>
      have hsame : ∀ pairs : List (Item × Item),
          List.Forall₂ (fun p p' => p.1 = p'.1 ∧ s.Alike p.2 p'.2) pairs pairs := fun _ =>
        List.forall₂_same.2 fun p _ => ⟨rfl, .refl s p.2⟩
      exact .inr ⟨_, _, rfl, rfl, List.rel_append (hsame front) (.cons ⟨rfl, hinner⟩ (hsame back))⟩

theorem Place.ne_nil (h : Place s c place) (inner : List (Item × Item)) : place inner ≠ .nil := by
  cases h <;> exact Item.noConfusion

/-! ## Keys and spellings -/

/-- No name stands twice in a record, nor in a record inside it. -/
inductive Keyed : RecordName → List (Item × Item) → Prop
  | intro {r : RecordName} {pairs : List (Item × Item)} (once : NamesOnce r pairs)
      (inside : ∀ name c v s inner, (name, c) ∈ r.fields → (.text name, v) ∈ pairs → Stands s inner c v →
        Keyed s inner) : Keyed r pairs

/-- One spelling of a record is made into another. -/
inductive Respells : RecordName → List (Item × Item) → List (Item × Item) → Prop
  /-- The pairs are put into another order. -/
  | permutes {r : RecordName} {pairs pairs' : List (Item × Item)} (h : pairs.Perm pairs') :
      Respells r pairs pairs'
  /-- A pair is added under a key that is none of the names. -/
  | adds {r : RecordName} {pairs : List (Item × Item)} {k : Item} (v : Item)
      (h : ∀ field ∈ r.fields, k ≠ .text field.1) : Respells r pairs ((k, v) :: pairs)
  /-- A field that is absent becomes one that is nil. -/
  | fills {r : RecordName} {pairs : List (Item × Item)} {name : String} {c : Contents}
      (hfield : (name, c) ∈ r.fields) (habsent : ∀ v, (.text name, v) ∉ pairs) :
      Respells r pairs ((.text name, .nil) :: pairs)
  /-- A field that is nil is left out. -/
  | empties {r : RecordName} {pairs : List (Item × Item)} {name : String} {c : Contents}
      (hfield : (name, c) ∈ r.fields) : Respells r ((.text name, .nil) :: pairs) pairs
  /-- A record inside is respelled in its place. -/
  | inside {r s : RecordName} {c : Contents} {place : List (Item × Item) → Item}
      {inner inner' : List (Item × Item)} {name : String} (front back : List (Item × Item))
      (hfield : (name, c) ∈ r.fields) (hplace : Place s c place) (h : Respells s inner inner') :
      Respells r (front ++ (.text name, place inner) :: back) (front ++ (.text name, place inner') :: back)
  | trans {r : RecordName} {pairs pairs' pairs'' : List (Item × Item)} (h : Respells r pairs pairs')
      (h' : Respells r pairs' pairs'') : Respells r pairs pairs''

/-- The texts that are keys. -/
def textKeys (pairs : List (Item × Item)) : List String :=
  pairs.filterMap fun p =>
    match p.1 with
    | .text name => some name
    | _ => none

/-- If no two keys are the same text, no name stands twice. -/
theorem namesOnce_of_nodup (r : RecordName) (h : (textKeys pairs).Nodup) : NamesOnce r pairs := by
  intro field _
  have hcount : pairs.countP (fun p => isName field.1 p.1) = (textKeys pairs).count field.1 := by
    rw [textKeys, List.count_filterMap]
    refine List.countP_congr fun p _ => ?_
    cases p.1 <;> simp [isName]
  rw [hcount]
  exact List.nodup_iff_count_le_one.1 h field.1

theorem Keyed.once (h : Keyed r pairs) : NamesOnce r pairs := by
  cases h with
  | intro once inside => exact once

theorem Keyed.inside {name : String} {v : Item} (h : Keyed r pairs) (hfield : (name, c) ∈ r.fields)
    (hmem : (.text name, v) ∈ pairs) (hstands : Stands s inner c v) : Keyed s inner := by
  cases h with
  | intro once inside => exact inside name c v s inner hfield hmem hstands

/-- A pair under another key is no pair of a name. -/
theorem countP_cons_of_ne {name : String} {k v : Item} (h : k ≠ .text name) :
    ((k, v) :: pairs).countP (fun p => isName name p.1) = pairs.countP fun p => isName name p.1 :=
  List.countP_cons_of_neg fun hname => h (isName_iff.1 hname)

/-- A respelling repeats no name. -/
theorem Respells.namesOnce (h : Respells r pairs pairs') (honce : NamesOnce r pairs) :
    NamesOnce r pairs' := by
  induction h with
  | permutes h =>
      intro field hfield
      rw [← h.countP_eq]
      exact honce field hfield
  | adds v h =>
      intro field hfield
      rw [countP_cons_of_ne (h field hfield)]
      exact honce field hfield
  | @fills r pairs name c hfield habsent =>
      intro field hfield'
      by_cases hname : field.1 = name
      · exact Nat.le_of_eq (by rw [hname, countP_cons_self, countP_eq_zero_iff.2 habsent])
      · rw [countP_cons_of_ne fun heq => hname (Item.text.inj heq).symm]
        exact honce field hfield'
  | empties hfield =>
      intro field hfield
      exact Nat.le_trans (List.sublist_cons_self _ _).countP_le (honce field hfield)
  | inside front back hfield hplace h ih =>
      intro field hfield
      have hcount := honce field hfield
      simpa only [List.countP_append, List.countP_cons] using hcount
  | trans h h' ih ih' => exact ih' (ih honce)

/-- A respelling of a keyed record is keyed. -/
theorem Respells.keyed (h : Respells r pairs pairs') (hkeyed : Keyed r pairs) : Keyed r pairs' := by
  induction h with
  | permutes h =>
      refine .intro ((Respells.permutes h).namesOnce hkeyed.once) fun name c v s inner hfield hmem => ?_
      exact hkeyed.inside hfield (h.mem_iff.2 hmem)
  | adds v h =>
      refine .intro ((Respells.adds v h).namesOnce hkeyed.once) fun name c w s inner hfield hmem => ?_
      rcases List.mem_cons.1 hmem with hnew | hold
      · exact absurd (Prod.mk.inj hnew).1.symm (h _ hfield)
      · exact hkeyed.inside hfield hold
  | fills hfield habsent =>
      refine .intro ((Respells.fills hfield habsent).namesOnce hkeyed.once)
        fun name c w s inner hfield' hmem hstands => ?_
      rcases List.mem_cons.1 hmem with hnew | hold
      -- no record stands in a field that is nil
      · obtain ⟨-, rfl⟩ := Prod.mk.inj hnew
        cases hstands
      · exact hkeyed.inside hfield' hold hstands
  | empties hfield =>
      refine .intro ((Respells.empties hfield).namesOnce hkeyed.once)
        fun name c v s inner hfield' hmem => hkeyed.inside hfield' (List.mem_cons_of_mem _ hmem)
  | @inside r s c place inner inner' name front back hfield hplace h ih =>
      refine .intro ((Respells.inside front back hfield hplace h).namesOnce hkeyed.once)
        fun name' c' v t other hfield' hmem hstands => ?_
      have hold : (.text name, place inner) ∈ front ++ (.text name, place inner) :: back :=
        List.mem_append_right front List.mem_cons_self
      rcases List.mem_append.1 hmem with hfront | hmem
      · exact hkeyed.inside hfield' (List.mem_append_left _ hfront) hstands
      rcases List.mem_cons.1 hmem with hnew | hback
      · obtain ⟨hname, rfl⟩ := Prod.mk.inj hnew
        obtain rfl := Item.text.inj hname
        obtain rfl := RecordName.contents_unique hfield hfield'
        rcases hplace.stands_cases hstands with ⟨rfl, rfl⟩ | hstands
        · exact ih (hkeyed.inside hfield hold (hplace.stands inner))
        · exact hkeyed.inside hfield hold hstands
      · exact hkeyed.inside hfield' (List.mem_append_right _ (List.mem_cons_of_mem _ hback)) hstands
  | trans h h' ih ih' => exact ih' (ih hkeyed)

/-! ## Reading -/

theorem rel_alike_refl (c : Contents) (o : Option Item) : Option.Rel c.Alike o o := by
  cases o with
  | none => exact .none
  | some v => exact .some (.refl c v)

/-- Records that hold the same fields are read alike. -/
theorem alike_of_mem_iff (honce : NamesOnce r pairs) (honce' : NamesOnce r pairs')
    (h : ∀ field ∈ r.fields, ∀ v, v ≠ .nil → ((.text field.1, v) ∈ pairs ↔ (.text field.1, v) ∈ pairs')) :
    r.Alike (.map pairs) (.map pairs') := by
  refine alike_of_abreast ⟨rfl, rfl, honce, honce', fun name c hfield => ?_⟩
  show Option.Rel c.Alike (found name pairs) (found name pairs')
  rw [found_congr (honce _ hfield) (honce' _ hfield) (h _ hfield)]
  exact rel_alike_refl c _

/-- A keyed record is read like each of its spellings. -/
theorem Respells.alike (h : Respells r pairs pairs') (hkeyed : Keyed r pairs) :
    r.Alike (.map pairs) (.map pairs') := by
  have hkeyed' := h.keyed hkeyed
  induction h with
  | permutes h => exact alike_of_mem_iff hkeyed.once hkeyed'.once fun _ _ _ _ => h.mem_iff
  | adds v h =>
      refine alike_of_mem_iff hkeyed.once hkeyed'.once fun field hfield w _ => ?_
      rw [List.mem_cons, or_iff_right]
      exact fun hnew => h field hfield (Prod.mk.inj hnew).1.symm
  | fills hfield habsent =>
      refine alike_of_mem_iff hkeyed.once hkeyed'.once fun _ _ v hv => ?_
      rw [List.mem_cons, or_iff_right]
      exact fun hnew => hv (Prod.mk.inj hnew).2
  | empties hfield =>
      refine alike_of_mem_iff hkeyed.once hkeyed'.once fun _ _ v hv => ?_
      rw [List.mem_cons, or_iff_right]
      exact fun hnew => hv (Prod.mk.inj hnew).2
  | @inside r s c place inner inner' name front back hfield hplace h ih =>
      have hinner : Keyed s inner := hkeyed.inside hfield
        (List.mem_append_right front List.mem_cons_self) (hplace.stands inner)
      refine alike_of_abreast ⟨rfl, rfl, hkeyed.once, hkeyed'.once, fun name' c' hfield' => ?_⟩
      dsimp only
      by_cases hname : name' = name
      · subst hname
        obtain rfl := RecordName.contents_unique hfield hfield'
        have hfound : ∀ inner pairs, NamesOnce r pairs →
            (.text name', place inner) ∈ pairs → found name' pairs = some (place inner) :=
          fun inner pairs honce hmem =>
            (found_eq_some_iff (honce _ hfield)).2 ⟨hmem, hplace.ne_nil inner⟩
        rw [hfound inner _ hkeyed.once (by simp), hfound inner' _ hkeyed'.once (by simp)]
        exact .some (hplace.alike (ih hinner (h.keyed hinner)))
      · rw [found_congr (hkeyed.once _ hfield') (hkeyed'.once _ hfield') fun v _ => by simp [hname]]
        exact rel_alike_refl c' _
  | trans h h' ih ih' =>
      have hmid := h.keyed hkeyed
      exact (ih hkeyed hmid).trans (ih' hmid hkeyed')

/-- The record that a number announces, if it is the code of a kind. -/
def announced? (n : WireInt) : Option RecordName :=
  (n.toUInt64?.bind Kind.ofCode?).map .message

theorem recordOf_pair (n : WireInt) (pairs : List (Item × Item)) :
    recordOf (.array [.int n, .map pairs]) =
      match n.toUInt64? with
      | none => .error (.notARecord (.negativeKind n))
      | some code => .ok (code, pairs) := by
  unfold recordOf
  dsimp only
  cases n.toUInt64? <;> rfl

theorem readKind_congr {α : Type} {reader? : Kind → Option (FieldReader α)} {code : UInt64}
    (h : ∀ kind ∈ Kind.ofCode? code, ∀ read ∈ reader? kind,
      FieldReader.ofMap (.message kind) read (.map pairs) =
        FieldReader.ofMap (.message kind) read (.map pairs')) :
    readKind reader? code pairs = readKind reader? code pairs' := by
  unfold readKind
  cases hkind : Kind.ofCode? code with
  | none => rfl
  | some kind =>
      dsimp only
      cases hread : reader? kind with
      | none => rfl
      | some read => exact h kind hkind read hread

/-- Neither the order of the fields of a record, nor fields that it does not have, nor whether an absent
one is nil makes a difference, for the record and for those inside it: a host and a server read the same
message of it or refuse it for the same reason.  A number that announces no record is refused whatever
follows it. -/
theorem reading_ignores_spelling {n : WireInt} (hkeyed : ∀ r ∈ announced? n, Keyed r pairs)
    (h : ∀ r ∈ announced? n, Respells r pairs pairs') :
    Incoming.ofItem (.array [.int n, .map pairs]) = Incoming.ofItem (.array [.int n, .map pairs']) ∧
      Outgoing.ofItem (.array [.int n, .map pairs]) = Outgoing.ofItem (.array [.int n, .map pairs']) := by
  unfold Incoming.ofItem Outgoing.ofItem
  rw [recordOf_pair, recordOf_pair]
  cases hcode : n.toUInt64? with
  | none => exact ⟨rfl, rfl⟩
  | some code =>
      have halike : ∀ kind ∈ Kind.ofCode? code,
          (RecordName.message kind).Alike (.map pairs) (.map pairs') := by
        intro kind hkind
        have hannounced : RecordName.message kind ∈ announced? n := by
          rw [announced?, hcode, Option.bind_some, hkind]
          rfl
        exact (h _ hannounced).alike (hkeyed _ hannounced)
      exact ⟨readKind_congr fun kind hkind => (halike kind hkind).1,
        readKind_congr fun kind hkind => (halike kind hkind).2⟩

/-- A listing whose only element is written backwards, with an error that is nil, a key that is no text,
and the whole in another order. -/
theorem reading_ignores_spelling_listing :
    let element : List (Item × Item) := [(.text "name", .text "a"), (.text "isDirectory", .bool true)]
    let ids : List (Item × Item) :=
      [(.text "requestId", .ofInt64 1), (.text "evaluatorId", .ofInt64 2)]
    let listing (element : List (Item × Item)) : Item × Item :=
      (.text "pathElements", .array [.map element])
    let pairs := ids ++ [listing element]
    let pairs' := [(.bin [], .bool true), (.text "error", .nil), listing element.reverse] ++ ids
    (∀ r ∈ announced? (.ofUInt64 0x2d), Keyed r pairs ∧ Respells r pairs pairs') ∧
      Outgoing.ofItem (.array [.int (.ofUInt64 0x2d), .map pairs]) =
        Outgoing.ofItem (.array [.int (.ofUInt64 0x2d), .map pairs']) ∧
      Outgoing.ofItem (.array [.int (.ofUInt64 0x2d), .map pairs]) =
        .ok (.listModulesResponse ⟨1, 2, .ok [⟨"a", true⟩]⟩) := by
  intro element ids listing pairs pairs'
  have helement : Keyed .pathElement element := by
    refine .intro (namesOnce_of_nodup _ (by decide)) fun name c v s inner hfield _ hstands => ?_
    cases hstands <;> simp [RecordName.fields] at hfield
  have hkeyed : Keyed (.message .listModulesResponse) pairs := by
    refine .intro (namesOnce_of_nodup _ (by decide)) fun name c v s inner hfield hmem hstands => ?_
    cases hstands with
    | record | named h => simp [RecordName.fields, replyFields] at hfield
    | records h =>
        obtain ⟨rfl, rfl⟩ : name = "pathElements" ∧ s = .pathElement := by
          simpa [RecordName.fields, replyFields] using hfield
        obtain rfl := by simpa [pairs, ids, listing] using hmem
        obtain rfl := by simpa using h
        exact helement
  have hrespells : Respells (.message .listModulesResponse) pairs pairs' := by
    have hlisting : Respells (.message .listModulesResponse) pairs (ids ++ [listing element.reverse]) :=
      .inside ids [] (c := .records .pathElement) (by decide) (.records [] [])
        (.permutes element.reverse_perm.symm)
    have herror : Respells (.message .listModulesResponse) (ids ++ [listing element.reverse])
        ((.text "error", .nil) :: (ids ++ [listing element.reverse])) :=
      .fills (c := .plain) (by decide) fun v => by simp [ids, listing]
    have hkey : Respells (.message .listModulesResponse)
        ((.text "error", .nil) :: (ids ++ [listing element.reverse]))
        ((.bin [], .bool true) :: (.text "error", .nil) :: (ids ++ [listing element.reverse])) :=
      .adds _ fun _ _ => Item.noConfusion
    exact hlisting.trans (herror.trans (hkey.trans (.permutes ((List.perm_append_comm.cons _).cons _))))
  have hannounced : ∀ r ∈ announced? (.ofUInt64 0x2d), Keyed r pairs ∧ Respells r pairs pairs' := by
    intro r hr
    obtain rfl : RecordName.message .listModulesResponse = r := Option.some.inj hr
    exact ⟨hkeyed, hrespells⟩
  exact ⟨hannounced, (reading_ignores_spelling (fun r hr => (hannounced r hr).1)
    fun r hr => (hannounced r hr).2).2, rfl⟩

end PklHost.Message
