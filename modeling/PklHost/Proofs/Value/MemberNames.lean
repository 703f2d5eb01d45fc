import PklHost.Proofs.Double.Reading
import PklHost.Proofs.Except
import PklHost.Value.Render

/-!
# The names of members

The members of a JSON object are named by properties, by the keys of entries and by the indices of
elements.  A property and a textual key give the name themselves; every other name is written for an
integer, a truth value or a finite number, and no two of those are written alike
(`Literal.text_injective`).  Members of one object thus meet under one name only if one of them is named
by a text that reads like the other, or if an element has an integer key for its index
(`Member.name_eq_iff`).
-/

namespace PklHost

open Nat (toDigits)

/-! ## Names that are written -/

/-- What a name is written for. -/
inductive Literal where
  | int (n : Int)
  | bool (b : Bool)
  | float (x : Double)

namespace Literal

def text : Literal → String
  | .int n => toString n
  | .bool b => if b then "true" else "false"
  | .float x => x.text .json

/-- Only a finite number is written. -/
def IsWritten : Literal → Prop
  | .float x => x.isFinite = true
  | .int _ | .bool _ => True

/-- An integer is written with digits and a sign. -/
theorem mem_text_int {n : Int} {c : Char} (h : c ∈ (text (.int n)).toList) : c.isDigit = true ∨ c = '-' := by
  cases n with
  | ofNat n => exact .inl (AllDigits.toString n c h)
  | negSucc n =>
      have hlist : (toString (Int.negSucc n)).toList = '-' :: (toString (n + 1)).toList :=
        String.toList_append
      rw [text, hlist, List.mem_cons] at h
      rcases h with rfl | hdigit
      · exact .inr rfl
      · exact .inl (AllDigits.toString (n + 1) c hdigit)

/-- Anything else has a point in it or an `e`. -/
theorem marked_text {l : Literal} (hwritten : l.IsWritten) (hint : ∀ n, l ≠ .int n) :
    '.' ∈ l.text.toList ∨ 'e' ∈ l.text.toList := by
  cases l with
  | int n => exact absurd rfl (hint n)
  | bool b =>
      cases b with
      | false => exact .inr (by decide)
      | true => exact .inr (by decide)
  | float x =>
      have htext : (text (.float x)).toList = _ := x.toList_text .json hwritten
      rw [htext]
      rcases NumberStyle.json.marked_magnitudeText rfl x.magnitude with hpoint | hexponent
      · exact .inl (List.mem_append_right _ hpoint)
      · exact .inr (List.mem_append_right _ hexponent)

theorem text_int_ne {n : Int} {l : Literal} (hwritten : l.IsWritten) (hint : ∀ n, l ≠ .int n) :
    text (.int n) ≠ l.text := by
  intro h
  have hmarked := marked_text hwritten hint
  rw [← h] at hmarked
  rcases hmarked with hpoint | hexponent
  · exact absurd (mem_text_int hpoint) (by decide)
  · exact absurd (mem_text_int hexponent) (by decide)

/-- A number opens with a digit or a sign. -/
theorem text_float_ne_bool {x : Double} {b : Bool} (hx : x.isFinite = true) :
    text (.float x) ≠ text (.bool b) := by
  intro h
  have hlists : (text (.float x)).toList = (text (.bool b)).toList := congrArg String.toList h
  have htext : (text (.float x)).toList = _ := x.toList_text .json hx
  obtain ⟨c, cs, hcs, hc⟩ := NumberStyle.json.opensWithDigit_magnitudeText x.magnitude
  rw [htext, hcs] at hlists
  have hopens (d : Char) (ds : List Char) (hletter : d.isDigit = false ∧ d ≠ '-') :
      (if x.negative then ['-'] else []) ++ c :: cs ≠ d :: ds := by
    intro heq
    split at heq
    · exact hletter.2 (List.cons.inj heq).1.symm
    · rw [(List.cons.inj heq).1, hletter.1] at hc
      cases hc
  cases b with
  | false => exact hopens 'f' ['a', 'l', 's', 'e'] (by decide) hlists
  | true => exact hopens 't' ['r', 'u', 'e'] (by decide) hlists

/-- No two names are written alike. -/
theorem text_injective {l l' : Literal} (hl : l.IsWritten) (hl' : l'.IsWritten) (h : l.text = l'.text) :
    l = l' := by
  cases l with
  | int n =>
      cases l' with
      | int n' =>
          have hread := congrArg (fun s : String => readExponent s.toList) h
          rw [Literal.int.injEq]
          exact (readExponent_toString n).symm.trans (hread.trans (readExponent_toString n'))
      | bool | float => exact absurd h (text_int_ne hl' nofun)
  | bool b =>
      cases l' with
      | int n' => exact absurd h.symm (text_int_ne hl nofun)
      | bool b' =>
          cases b with
          | false => cases b' with
            | false => rfl
            | true => exact absurd h (by decide)
          | true => cases b' with
            | false => exact absurd h (by decide)
            | true => rfl
      | float x' => exact absurd h.symm (text_float_ne_bool hl')
  | float x =>
      cases l' with
      | int n' => exact absurd h.symm (text_int_ne hl nofun)
      | bool b' => exact absurd h (text_float_ne_bool hl)
      | float x' => rw [Double.text_injective .json hl hl' h]

end Literal

/-! ## Members -/

/-- Where a member of an object comes from. -/
inductive Member where
  | property (name : String)
  | entry (key : Value)
  | element (index : Nat)

namespace Member

/-- The name under which a member stands. -/
def name : Member → Except RenderError String
  | .property name => .ok name
  | .entry key => key.memberName
  | .element index => .ok (toString index)

/-- The text of a property or of a textual key. -/
def text? : Member → Option String
  | .property name => some name
  | .entry (.string s) => some s
  | .entry (.regex pattern) => some pattern
  | .entry _ | .element _ => none

/-- What the name of any other member is written for. -/
def literal? : Member → Option Literal
  | .entry (.int n) => some (.int n.toInt)
  | .entry (.bool b) => some (.bool b)
  | .entry (.float x) => some (.float x)
  | .element index => some (.int index)
  | .property _ | .entry _ => none

/-- An element with an integer key for its index. -/
def IsIndex : Member → Member → Prop
  | .element index, .entry (.int n) => n.toInt = index
  | _, _ => False

/-- The members of one kind differ as they do in the object that holds them. -/
def Apart : Member → Member → Prop
  | .property name, .property name' => name ≠ name'
  | .entry key, .entry key' => key.equal key' = false
  | .element index, .element index' => index ≠ index'
  | _, _ => True

/-- One of two members is named by a text that reads like the name of the other, or one is an element and
the other has its index for a key. -/
def Clash (a b : Member) : Prop :=
  (∃ s, a.text? = some s ∧ b.name = .ok s) ∨ (∃ s, b.text? = some s ∧ a.name = .ok s) ∨
    a.IsIndex b ∨ b.IsIndex a

theorem name_of_text? {a : Member} {s : String} (h : a.text? = some s) : a.name = .ok s := by
  cases a with
  | property _ => exact congrArg Except.ok (Option.some.inj h)
  | entry key =>
      cases key with
      | string | regex => rw [← Option.some.inj h]; rfl
      | _ => cases h
  | element index => cases h

/-- A name is a text or is written for a literal. -/
theorem text?_or_literal? {a : Member} {s : String} (h : a.name = .ok s) :
    a.text? = some s ∨ ∃ l, a.literal? = some l ∧ l.IsWritten ∧ s = l.text := by
  cases a with
  | property name => exact .inl (congrArg some (Except.ok.inj h))
  | element index => exact .inr ⟨_, rfl, trivial, (Except.ok.inj h).symm⟩
  | entry key =>
      cases key with
      | string | regex => exact .inl (congrArg some (Except.ok.inj h))
      | int | bool => exact .inr ⟨_, rfl, trivial, (Except.ok.inj h).symm⟩
      | float x =>
          have hfloat : (if x.isFinite then Except.ok (x.text .json) else .error .keyNotFinite) =
              (.ok s : Except RenderError String) := h
          split at hfloat
          · next hfinite => exact .inr ⟨_, rfl, hfinite, (Except.ok.inj hfloat).symm⟩
          · cases hfloat
      | _ => cases h

theorem of_literal? {a : Member} {l : Literal} (h : a.literal? = some l) :
    (∃ n : Int64, a = .entry (.int n) ∧ l = .int n.toInt) ∨ (∃ b, a = .entry (.bool b) ∧ l = .bool b) ∨
      (∃ x, a = .entry (.float x) ∧ l = .float x) ∨ ∃ index : Nat, a = .element index ∧ l = .int index := by
  cases a with
  | property name => cases h
  | element index => exact .inr (.inr (.inr ⟨index, rfl, (Option.some.inj h).symm⟩))
  | entry key =>
      cases key with
      | int n => exact .inl ⟨n, rfl, (Option.some.inj h).symm⟩
      | bool b => exact .inr (.inl ⟨b, rfl, (Option.some.inj h).symm⟩)
      | float x => exact .inr (.inr (.inl ⟨x, rfl, (Option.some.inj h).symm⟩))
      | _ => cases h

/-- Of one object only an element and an entry are written for the same literal. -/
theorem isIndex_of_literal? {a b : Member} {l : Literal} (hwritten : l.IsWritten)
    (ha : a.literal? = some l) (hb : b.literal? = some l) (hapart : Apart a b) :
    a.IsIndex b ∨ b.IsIndex a := by
  rcases of_literal? ha with ⟨n, rfl, rfl⟩ | ⟨t, rfl, rfl⟩ | ⟨x, rfl, rfl⟩ | ⟨i, rfl, rfl⟩
  · rcases of_literal? hb with ⟨m, rfl, hm⟩ | ⟨_, _, hm⟩ | ⟨_, _, hm⟩ | ⟨j, rfl, hm⟩
    · rw [Int64.toInt_inj.1 (Literal.int.inj hm)] at hapart
      exact absurd hapart (by simp [Apart, Value.equal])
    · cases hm
    · cases hm
    · exact .inr (Literal.int.inj hm)
  · rcases of_literal? hb with ⟨_, _, hm⟩ | ⟨t', rfl, hm⟩ | ⟨_, _, hm⟩ | ⟨_, _, hm⟩
    · cases hm
    · rw [Literal.bool.inj hm] at hapart
      exact absurd hapart (by simp [Apart, Value.equal])
    · cases hm
    · cases hm
  · rcases of_literal? hb with ⟨_, _, hm⟩ | ⟨_, _, hm⟩ | ⟨y, rfl, hm⟩ | ⟨_, _, hm⟩
    · cases hm
    · cases hm
    · have hself : x.eq x = true := Double.eq_self_iff.2 (Double.not_isNaN_of_isFinite hwritten)
      rw [← Literal.float.inj hm, Apart, Value.equal, hself] at hapart
      cases hapart
    · cases hm
  · rcases of_literal? hb with ⟨m, rfl, hm⟩ | ⟨_, _, hm⟩ | ⟨_, _, hm⟩ | ⟨j, rfl, hm⟩
    · exact .inl (Literal.int.inj hm).symm
    · cases hm
    · cases hm
    · exact absurd (Int.ofNat.inj (Literal.int.inj hm)) hapart

theorem name_eq_of_isIndex {a b : Member} (h : a.IsIndex b) : a.name = b.name := by
  unfold IsIndex at h
  split at h
  · next index n =>
      show Except.ok (toString index) = Except.ok (toString n.toInt)
      rw [h]
      rfl
  · exact h.elim

/-- Two members of one object get the same name exactly if they clash. -/
theorem name_eq_iff {a b : Member} (hapart : Apart a b) (ha : Succeeds a.name) (hb : Succeeds b.name) :
    a.name = b.name ↔ Clash a b := by
  obtain ⟨s, hs⟩ := ha
  obtain ⟨t, ht⟩ := hb
  constructor
  · intro hsame
    rcases text?_or_literal? hs with htext | ⟨l, hl, hwritten, rfl⟩
    · exact .inl ⟨s, htext, hsame ▸ hs⟩
    · rcases text?_or_literal? ht with htext | ⟨l', hl', hwritten', rfl⟩
      · exact .inr (.inl ⟨t, htext, hsame ▸ ht⟩)
      · have htexts : l.text = l'.text := Except.ok.inj (hs.symm.trans (hsame.trans ht))
        cases Literal.text_injective hwritten hwritten' htexts
        exact .inr (.inr (isIndex_of_literal? hwritten hl hl' hapart))
  · rintro (⟨u, hu, hname⟩ | ⟨u, hu, hname⟩ | hindex | hindex)
    · exact (name_of_text? hu).trans hname.symm
    · exact hname.trans (name_of_text? hu).symm
    · exact name_eq_of_isIndex hindex
    · exact (name_eq_of_isIndex hindex).symm

end Member

end PklHost
