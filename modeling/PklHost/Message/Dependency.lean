import PklHost.Message.Fields

/-!
# Dependencies of a project

A project and each of its dependencies have one description on the wire: local ones name a project
file and have dependencies of their own, remote ones name a package and may have a checksum. The
description is read recursively; the recursion ends because a field is smaller than its record.
-/

namespace PklHost.Message

open MessagePack (Item)

/-- Where a dependency lives. -/
inductive DependencyKind where
  | «local»
  | remote
  deriving DecidableEq, Repr

def DependencyKind.text : DependencyKind → String
  | .local => "local"
  | .remote => "remote"

def DependencyKind.ofText? (s : String) : Option DependencyKind :=
  if s == "local" then some .local else if s == "remote" then some .remote else none

/-- A project or a dependency of one; `checksum` is a SHA-256 sum. Dependencies are in the order of
their names. -/
inductive Dependency where
  | mk (kind : DependencyKind) (packageUri projectFileUri checksum : Option String)
      (dependencies : Option (List (String × Dependency)))

namespace Dependency

/-! ## Writing -/

/-- The fields of a description, its dependencies already written. -/
def fieldsItem (kind : DependencyKind) (packageUri projectFileUri checksum : Option String)
    (dependencies : Option Item) : Item :=
  .map (put? "packageUri" (packageUri.map .text) ++
    put "type" (.text kind.text) ++
    put? "projectFileUri" (projectFileUri.map .text) ++
    put? "checksums" (checksum.map fun sum => .map (put "sha256" (.text sum))) ++
    put? "dependencies" dependencies)

mutual

/-- The item of a description. -/
def toItem : Dependency → Item
  | .mk kind packageUri projectFileUri checksum none =>
    fieldsItem kind packageUri projectFileUri checksum none
  | .mk kind packageUri projectFileUri checksum (some dependencies) =>
    fieldsItem kind packageUri projectFileUri checksum (some (.map (toPairs dependencies)))

def toPairs : List (String × Dependency) → List (Item × Item)
  | [] => []
  | (name, d) :: rest => (.text name, d.toItem) :: toPairs rest

end

/-! ## Reading -/

/-- What is read of a description before its own dependencies. -/
structure Head where
  kind : DependencyKind
  checksum : Option String
  dependencies : Option Item

def checksumOf : Item → Except FrameError String :=
  FieldReader.ofMap .checksums (FieldReader.text "sha256")

def readKind : FieldReader DependencyKind := do
  let text ← FieldReader.text "type"
  match DependencyKind.ofText? text with
  | some kind => return kind
  | none => FieldReader.invalid "type" .dependencyType

def readChecksum : FieldReader (Option String) :=
  FieldReader.optional "checksums" fun v => StateT.lift (checksumOf v)

/-- The kind, the checksum and the unread dependencies. -/
def readHead : FieldReader Head := do
  let kind ← readKind
  let checksum ← readChecksum
  let dependencies ← FieldReader.take "dependencies"
  return ⟨kind, checksum, dependencies⟩

/-- The description from its head and its dependencies, once the remaining fields are read. -/
def readTail (head : Head) (dependencies : Option (List (String × Dependency))) :
    FieldReader Dependency := do
  let packageUri ← FieldReader.text? "packageUri"
  let projectFileUri ← FieldReader.text? "projectFileUri"
  return .mk head.kind packageUri projectFileUri head.checksum dependencies

/-- A reading that leaves no more than it found. -/
def Shrinks {α : Type} (read : FieldReader α) : Prop :=
  ∀ f x f', read f = .ok (x, f') → sizeOf f'.pairs ≤ sizeOf f.pairs

theorem Shrinks.bind {α β : Type} {read : FieldReader α} {next : α → FieldReader β}
    (h : Shrinks read) (hNext : ∀ x, Shrinks (next x)) : Shrinks (read >>= next) := by
  intro f x f' hRun
  simp only [Bind.bind, StateT.bind, Except.bind] at hRun
  split at hRun
  · simp at hRun
  · next hRead => exact Nat.le_trans (hNext _ _ _ _ hRun) (h _ _ _ hRead)

theorem Shrinks.pure {α : Type} (x : α) : Shrinks (Pure.pure x : FieldReader α) := by
  intro f y f' hRun
  have hRun : (Except.ok (x, f) : Except FrameError (α × Fields)) = .ok (y, f') := hRun
  simp only [Except.ok.injEq, Prod.mk.injEq] at hRun
  simp [hRun.2]

theorem Shrinks.lift {α : Type} (r : Except FrameError α) :
    Shrinks (StateT.lift r : FieldReader α) := by
  intro f y f' hRun
  cases r with
  | error e => simp [StateT.lift, Bind.bind, Except.bind] at hRun
  | ok x =>
    simp only [StateT.lift, Bind.bind, Except.bind, Pure.pure, Except.pure, Except.ok.injEq,
      Prod.mk.injEq] at hRun
    simp [hRun.2]

theorem shrinks_invalid {α : Type} (field : String) (expected : Expectation) :
    Shrinks (FieldReader.invalid field expected : FieldReader α) := by
  intro f x f' hRun
  simp [FieldReader.invalid] at hRun

/-- A taken field is smaller than the fields it was taken from. -/
theorem sizeOf_lt_of_take {field : String} {f f' : Fields} {v : Item}
    (h : FieldReader.take field f = .ok (some v, f')) : sizeOf v < sizeOf f.pairs := by
  unfold FieldReader.take at h
  split at h
  · simp at h
  · simp at h
  · next rest _ hTake =>
    simp only [Except.ok.injEq, Prod.mk.injEq, Option.some.injEq] at h
    obtain ⟨rfl, _⟩ := h
    have := sizeOf_takePair hTake
    have : 0 < sizeOf rest := by cases rest <;> simp +arith
    omega

theorem shrinks_take (field : String) : Shrinks (FieldReader.take field) := by
  intro f x f' h
  unfold FieldReader.take at h
  split at h
  · simp only [Except.ok.injEq, Prod.mk.injEq] at h
    simp [h.2]
  all_goals
    next hTake =>
    simp only [Except.ok.injEq, Prod.mk.injEq] at h
    have := sizeOf_takePair hTake
    rw [← h.2]
    simp only
    omega

theorem shrinks_text (field : String) : Shrinks (FieldReader.text field) := by
  refine Shrinks.bind (Shrinks.bind (shrinks_take field) fun o => ?_) fun v => ?_
  · cases o with
    | none => exact fun f x f' hRun => by simp at hRun
    | some v => exact Shrinks.pure v
  · unfold FieldReader.textOf
    split
    · exact Shrinks.pure _
    · exact shrinks_invalid _ _
    · exact shrinks_invalid _ _

theorem shrinks_readKind : Shrinks readKind := by
  refine Shrinks.bind (shrinks_text _) fun text => ?_
  cases DependencyKind.ofText? text with
  | none => exact shrinks_invalid _ _
  | some kind => exact Shrinks.pure kind

theorem shrinks_readChecksum : Shrinks readChecksum := by
  refine Shrinks.bind (shrinks_take _) fun o => ?_
  cases o with
  | none => exact Shrinks.pure _
  | some v => exact Shrinks.bind (Shrinks.lift _) fun _ => Shrinks.pure _

/-- The unread dependencies are smaller than the record that holds them. -/
theorem sizeOf_lt_of_readHead {f f' : Fields} {head : Head} {v : Item}
    (h : readHead f = .ok (head, f')) (hv : head.dependencies = some v) :
    sizeOf v < sizeOf f.pairs := by
  simp only [readHead, Bind.bind, StateT.bind, Except.bind] at h
  split at h
  · simp at h
  · next hKind =>
    split at h
    · simp at h
    · next hSum =>
      split at h
      · simp at h
      · next taken hTake =>
        obtain ⟨dependencies, fields⟩ := taken
        have h : (Except.ok (_, fields) : Except FrameError (Head × Fields)) = .ok (head, f') := h
        simp only [Except.ok.injEq, Prod.mk.injEq] at h
        obtain ⟨rfl, _⟩ := h
        simp only at hv
        subst hv
        have := shrinks_readKind _ _ _ hKind
        have := shrinks_readChecksum _ _ _ hSum
        have := sizeOf_lt_of_take hTake
        omega

mutual

/-- The description that an item holds. -/
def ofItem : Item → Except FrameError Dependency
  | .map pairs =>
    match _h : readHead ⟨.dependency, pairs⟩ with
    | .error e => .error e
    | .ok (head, fields) =>
      match _hd : head.dependencies with
      | none => readTail head none |>.run' fields
      | some (.map inner) =>
        match ofPairs inner with
        | .error e => .error e
        | .ok dependencies => readTail head (some (Ordered.ofPairs dependencies)) |>.run' fields
      | some _ => .error (.invalidField .dependency "dependencies" .map)
  | _ => .error (.notARecord (.notMap .dependency))
termination_by item => sizeOf item
decreasing_by
  have := sizeOf_lt_of_readHead _h _hd
  simp only [Item.map.sizeOf_spec] at this ⊢
  omega

/-- Named descriptions, each read right after its name. -/
def ofPairs : List (Item × Item) → Except FrameError (List (String × Dependency))
  | [] => .ok []
  | (.text name, v) :: rest =>
    match ofItem v with
    | .error e => .error e
    | .ok d =>
      match ofPairs rest with
      | .error e => .error e
      | .ok ds => .ok ((name, d) :: ds)
  | _ :: _ => .error (.invalidField .dependency "dependencies" .stringKeys)
termination_by pairs => sizeOf pairs

end

/-- The description that begins with a head: its dependencies, then its remaining fields. -/
def ofHead (head : Head) (fields : Fields) : Except FrameError Dependency :=
  match head.dependencies with
  | none => readTail head none |>.run' fields
  | some (.map inner) =>
    match ofPairs inner with
    | .error e => .error e
    | .ok dependencies => readTail head (some (Ordered.ofPairs dependencies)) |>.run' fields
  | some _ => .error (.invalidField .dependency "dependencies" .map)

theorem ofItem_map (pairs : List (Item × Item)) :
    ofItem (.map pairs) =
      match readHead ⟨.dependency, pairs⟩ with
      | .error e => .error e
      | .ok (head, fields) => ofHead head fields := by
  rw [ofItem]
  split
  · next e h => rw [h]
  · next head fields h =>
    rw [h]
    dsimp only
    unfold ofHead
    split
    · next hd => rw [hd]
    · next inner hd => rw [hd]
    · next v hNot hd =>
      rw [hd]
      cases v with
      | map inner => exact absurd rfl (hNot inner)
      | _ => rfl

end Dependency

end PklHost.Message
