import PklHost.Host.Job
import PklHost.Proofs.Project.Fields
import PklHost.Proofs.Value.Decoded

/-!
# The files of an answer

Who asks for the output files gets a dictionary exactly if the payload is a map of texts under texts, and
then no file is lost: the dictionary has the contents of every entry under its name, and as many names as the
map has entries (`files_complete`).  Names cannot fall together, since a map that was decoded has no key twice,
however often the payload had it (`Value.keysDistinct_of_decode`).
-/

namespace PklHost

/-! ## Dictionaries -/

section Pairs

variable {α : Type} {pairs : List (String × α)} (hnames : (pairs.map Prod.fst).Nodup)

include hnames

theorem Dict.get?_ofPairs {name : String} {v : α} (hmem : (name, v) ∈ pairs) :
    (Dict.ofPairs pairs).get? name = some v := by
  have hperm := Ordered.ofPairs_perm hnames
  unfold Dict.get? Dict.ofPairs
  dsimp only
  cases hfind : (Ordered.ofPairs pairs).find? fun p => p.1 == name with
  | none =>
      have hno := List.find?_eq_none.1 hfind (name, v) (hperm.mem_iff.2 hmem)
      exact absurd (beq_self_eq_true name) hno
  | some p =>
      -- there is no other pair of that name
      have hname : p.1 = name := by simpa using List.find?_some hfind
      have hp : p ∈ pairs := hperm.mem_iff.1 (List.mem_of_find?_eq_some hfind)
      obtain rfl := List.inj_on_of_nodup_map hnames hp hmem hname
      rfl

theorem Dict.length_ofPairs : (Dict.ofPairs pairs).pairs.length = pairs.length :=
  (Ordered.ofPairs_perm hnames).length_eq

end Pairs

/-! ## Files of maps that were decoded -/

namespace Query

/-- The entry of a file in a map. -/
def fileEntry (file : String × String) : Value × Value :=
  (.string file.1, .string file.2)

theorem fileOf_eq_ok_iff {entry : Value × Value} {file : String × String} :
    fileOf entry = .ok file ↔ entry = fileEntry file := by
  obtain ⟨key, value⟩ := entry
  obtain ⟨name, contents⟩ := file
  cases key with
  | string s =>
      cases value with
      | string t => simp [fileOf, fileEntry]
      | _ => simp [fileOf, fileEntry]
  | _ => simp [fileOf, fileEntry]

theorem mapM_fileOf_eq_ok_iff {entries : Entries} {files : List (String × String)} :
    entries.mapM fileOf = .ok files ↔ entries = files.map fileEntry := by
  rw [mapM_eq_ok_iff]
  simp only [fileOf_eq_ok_iff]
  rw [← List.forall₂_map_right_iff (R := fun entry entry' : Value × Value => entry = entry'),
    List.forall₂_eq_eq_eq]

theorem filesOf_map (entries : Entries) :
    filesOf (.map entries) = Dict.ofPairs <$> entries.mapM fileOf := by
  show (entries.mapM fileOf >>= fun files => pure (Dict.ofPairs files)) = _
  cases entries.mapM fileOf <;> rfl

/-- A refusal names what was found instead. -/
theorem filesOf_eq_error {v : Value} {e : EvaluatorError} (h : filesOf v = .error e) :
    ∃ expected found, e = .unexpectedResult expected found := by
  cases v with
  | map entries =>
      rw [filesOf_map] at h
      cases hfiles : entries.mapM fileOf with
      | ok files =>
          rw [hfiles] at h
          cases h
      | error e' =>
          rw [hfiles] at h
          cases h
          obtain ⟨entry, -, hentry⟩ := exists_of_mapM_eq_error hfiles
          unfold fileOf at hentry
          split at hentry
          · cases hentry
          · cases hentry
            exact ⟨_, _, rfl⟩
  | _ =>
      cases h
      exact ⟨_, _, rfl⟩

theorem nodup_names {files : List (String × String)}
    (h : Assoc.Distinct Value.equal (files.map fileEntry)) : (files.map Prod.fst).Nodup := by
  rw [Assoc.Distinct, Assoc.keys, List.map_map, List.pairwise_map] at h
  refine List.pairwise_map.2 (h.imp fun {file other} hdistinct heq => ?_)
  simp [fileEntry, heq, Value.equal] at hdistinct

/-- A dictionary of files has every entry of a map, and no others. -/
structure Transcribes (entries : Entries) (files : Dict String) : Prop where
  /-- Every entry has the contents of a file under its name. -/
  complete : ∀ entry ∈ entries, ∃ name contents, entry = (.string name, .string contents) ∧
    files.get? name = some contents
  size : files.pairs.length = entries.length

/-- The outcome of asking for the files, with a payload for a result. -/
structure AnswersFiles (payload : Bytes) (outcome : Except EvaluatorError JobResult) : Prop where
  /-- There are files exactly if the payload is a map whose keys and values are texts. -/
  given_iff : (∃ files, outcome = .ok (.answer (.files files))) ↔
    ∃ entries, Value.decode payload = .ok (.map entries) ∧
      ∀ entry ∈ entries, ∃ name contents, entry = (.string name, .string contents)
  /-- The files are those of the map, and all of them. -/
  transcribes : ∀ files entries, outcome = .ok (.answer (.files files)) →
    Value.decode payload = .ok (.map entries) → Transcribes entries files
  /-- Otherwise the payload cannot be decoded or is not what was asked for, and nothing else is given. -/
  refused : (∀ files, outcome ≠ .ok (.answer (.files files))) →
    (∃ cause, Value.decode payload = .error cause ∧ outcome = .error (.decode cause)) ∨
    ∃ v expected found, Value.decode payload = .ok v ∧ outcome = .error (.unexpectedResult expected found)

theorem answersFiles_of_decode_error {payload : Bytes} {cause : DecodeError}
    (h : Value.decode payload = .error cause) : AnswersFiles payload (.error (.decode cause)) where
  given_iff := by simp [h]
  transcribes files entries houtcome := by cases houtcome
  refused _ := .inl ⟨cause, h, rfl⟩

theorem answersFiles_of_map {payload : Bytes} {files : List (String × String)}
    (h : Value.decode payload = .ok (.map (files.map fileEntry))) :
    AnswersFiles payload (.ok (.answer (.files (Dict.ofPairs files)))) where
  given_iff := by
    refine iff_of_true ⟨_, rfl⟩ ⟨_, h, fun entry hentry => ?_⟩
    obtain ⟨file, -, rfl⟩ := List.mem_map.1 hentry
    exact ⟨file.1, file.2, rfl⟩
  transcribes := by
    rintro _ entries ⟨⟩ hdecode
    have hnames := nodup_names (throughout_iff.1 (Value.keysDistinct_of_decode h)).1
    obtain rfl := Value.map.inj (Except.ok.inj (h.symm.trans hdecode))
    refine ⟨fun entry hentry => ?_, ?_⟩
    · obtain ⟨file, hfile, rfl⟩ := List.mem_map.1 hentry
      exact ⟨file.1, file.2, rfl, Dict.get?_ofPairs hnames hfile⟩
    · rw [Dict.length_ofPairs hnames, List.length_map]
  refused hnone := absurd rfl (hnone _)

theorem answersFiles_of_filesOf_error {payload : Bytes} {v : Value} {e : EvaluatorError}
    (h : Value.decode payload = .ok v) (hfiles : filesOf v = .error e) :
    AnswersFiles payload (.error e) where
  given_iff := by
    refine iff_of_false (fun hgiven => ?_) ?_
    · obtain ⟨files, hgiven⟩ := hgiven
      cases hgiven
    · rintro ⟨entries, hdecode, htexts⟩
      obtain rfl := Except.ok.inj (h.symm.trans hdecode)
      obtain ⟨files, hread⟩ : Succeeds (entries.mapM fileOf) := by
        refine succeeds_mapM_iff.2 fun entry hentry => ?_
        obtain ⟨name, contents, rfl⟩ := htexts entry hentry
        exact succeeds_ok _
      rw [filesOf_map, hread] at hfiles
      cases hfiles
  transcribes files entries houtcome := by cases houtcome
  refused _ := by
    obtain ⟨expected, found, rfl⟩ := filesOf_eq_error hfiles
    exact .inr ⟨v, expected, found, h, rfl⟩

theorem answer_files (payload : Bytes) :
    Query.files.answer payload = Answer.files <$> (valueOf payload >>= filesOf) := by
  show (valueOf payload >>= fun v => filesOf v >>= fun files => pure (Answer.files files)) = _
  cases valueOf payload with
  | error e => rfl
  | ok v =>
      rw [ok_bind, ok_bind]
      cases filesOf v <;> rfl

theorem answersFiles (payload : Bytes) :
    AnswersFiles payload ((Query.files.answer payload).map .answer) := by
  rw [answer_files, valueOf]
  cases hdecode : Value.decode payload with
  | error cause => exact answersFiles_of_decode_error hdecode
  | ok v =>
      dsimp only
      rw [ok_bind]
      cases hfiles : filesOf v with
      | error e => exact answersFiles_of_filesOf_error hdecode hfiles
      | ok files =>
          cases v with
          | map entries =>
              rw [filesOf_map] at hfiles
              obtain ⟨read, hread, rfl⟩ := map_eq_ok_iff.1 hfiles
              obtain rfl := mapM_fileOf_eq_ok_iff.1 hread
              exact answersFiles_of_map hdecode
          | _ => cases hfiles

end Query

/-- Whoever asks for the files of a module gets all of them, or is told why there are none: once the call has
come back with a payload, the job is over, with the files of the map that the payload is. -/
theorem Job.files_complete {h : Hub} {i : Nat} {payload : Bytes}
    (hpayload : Job.evaluated? h i = some (.ok payload)) (s : Nat) :
    ∃ outcome, (Job.evaluating s .files i).resume? h = some (.finished outcome, []) ∧
      Query.AnswersFiles payload outcome := by
  refine ⟨(Query.files.answer payload).map .answer, ?_, Query.answersFiles payload⟩
  unfold Job.resume?
  dsimp only
  rw [hpayload]
  rfl

/-- A payload that is a map with one name twice. -/
def Query.repeatedName : Bytes :=
  [0x92, 0x02, 0x82, 0xa1, 0x61, 0xa1, 0x78, 0xa1, 0x61, 0xa1, 0x79]

/-- The item that the payload spells. -/
def Query.repeatedNameItem : MessagePack.Item :=
  taggedItem 0x02 [.map [(.text "a", .text "x"), (.text "a", .text "y")]]

theorem Query.decode_repeatedName :
    Value.decode repeatedName = .ok (.map [(.string "a", .string "y")]) := by
  have hwrite : repeatedName = repeatedNameItem.write := by rfl
  have hshort : ∀ s ∈ ["a", "x", "y"], (MessagePack.Item.text s).LengthsFit := by
    simp only [MessagePack.Item.LengthsFit]
    decide
  have hlengths : repeatedNameItem.LengthsFit :=
    ⟨by decide, trivial, ⟨by decide, ⟨hshort _ (by simp), hshort _ (by simp)⟩,
      ⟨hshort _ (by simp), hshort _ (by simp)⟩, trivial⟩, trivial⟩
  have htext : repeatedNameItem.AllText :=
    ⟨trivial, ⟨⟨trivial, trivial⟩, ⟨trivial, trivial⟩, trivial⟩, trivial⟩
  have hdepth : repeatedNameItem.depth ≤ MessagePack.depthLimit := by decide
  have hdenotes : Value.Denotes repeatedNameItem
      (.map (Entries.ofPairs [(.string "a", .string "x"), (.string "a", .string "y")])) :=
    @Value.Denotes.map 0x02 (.inl rfl)
      [((.text "a", .string "a"), (.text "x", .string "x")),
        ((.text "a", .string "a"), (.text "y", .string "y"))]
      (by simp [Value.Denotes.text]) (by simp [Value.Denotes.text]) []
  have hsame : Value.equal (.string "a") (.string "a") = true := by
    rw [Value.equal]
    decide
  rw [hwrite, Value.decode_write hlengths htext hdepth,
    Value.ofItem_of_denotes hdenotes]
  simp [Entries.ofPairs, Assoc.ofPairs, Assoc.insertAll, Assoc.insert, hsame]

/-- A hub with a call that has come back with that payload. -/
def Query.repeatedNameHub : Hub where
  workingDir := FilePath.ofText "/"
  evaluates := [{
    session := 0
    source := .ofText "name = 1"
    expr := Query.filesExpr
    stage := .finished (.ok Query.repeatedName) }]

/-- Its one file is the later one of that name. -/
theorem Job.files_complete_repeatedName :
    Value.decode Query.repeatedName = .ok (.map [(.string "a", .string "y")]) ∧
    Job.evaluated? Query.repeatedNameHub 0 = some (.ok Query.repeatedName) ∧
    ∃ outcome, (Job.evaluating 0 .files 0).resume? Query.repeatedNameHub =
        some (.finished outcome, []) ∧ Query.AnswersFiles Query.repeatedName outcome := by
  have hpayload : Job.evaluated? Query.repeatedNameHub 0 = some (.ok Query.repeatedName) := by rfl
  exact ⟨Query.decode_repeatedName, hpayload, Job.files_complete hpayload 0⟩

end PklHost
