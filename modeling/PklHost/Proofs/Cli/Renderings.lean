import PklHost.Cli.Run
import PklHost.Proofs.Except
import PklHost.Proofs.Value.Decoded

/-!
# What is printed of an answer

`Renders` says of the octets of a result what is printed of them, for each thing that can be shown of a
module and each format.  Printing an answer prints that, or fails before it prints anything
(`printAnswer_prints_or_fails`): whatever can fail is done when the first octet is printed.
-/

namespace PklHost.Cli

variable {p q : Printing Unit} {a b : Bytes} {e : Failure}

/-! ## Printing -/

/-- A command that prints octets and succeeds, whatever was printed before. -/
def Prints (p : Printing Unit) (octets : Bytes) : Prop :=
  ∀ stdout, p.run.run stdout = (.ok (), stdout ++ octets)

/-- A command that fails and prints nothing. -/
def Fails (p : Printing Unit) (e : Failure) : Prop :=
  ∀ stdout, p.run.run stdout = (.error e, stdout)

theorem prints_print (octets : Bytes) : Prints (print octets) octets := fun _ => rfl

theorem prints_pure : Prints (pure ()) [] := by
  intro stdout
  rw [List.append_nil]
  rfl

theorem Prints.bind (hp : Prints p a) (hq : Prints q b) : Prints (do p; q) (a ++ b) := by
  intro stdout
  have hrun : (do p; q : Printing Unit).run.run stdout = q.run.run (stdout ++ a) := by
    rw [ExceptT.run_bind, StateT.run_bind, hp stdout]
    rfl
  rw [hrun, hq, List.append_assoc]

theorem prints_forM {α : Type} {f : α → Printing Unit} {g : α → Bytes} (xs : List α)
    (hf : ∀ x, Prints (f x) (g x)) : Prints (xs.forM f) (xs.flatMap g) := by
  induction xs with
  | nil => exact prints_pure
  | cons x xs ih =>
      rw [List.flatMap_cons]
      exact (hf x).bind ih

theorem fails_throw (e : Failure) : Fails (throw e) e := fun _ => rfl

theorem endingOf_prints (hp : Prints p a) : endingOf p = { code := .success, stdout := a } := by
  rw [endingOf, hp []]
  rfl

theorem endingOf_fails (hp : Fails p e) :
    endingOf p = { code := e.code, message := some e.message } := by
  rw [endingOf, hp []]

/-! ## Failures -/

theorem code_ofEvaluator_ne_success (context : String) (fault : EvaluatorError) :
    (Failure.ofEvaluator context fault).code ≠ .success := by
  cases fault with
  | frame cause => cases cause <;> exact ExitCode.noConfusion
  | io cause =>
      obtain ⟨kind, text⟩ := cause
      cases kind <;> exact ExitCode.noConfusion
  | _ => exact ExitCode.noConfusion

theorem code_of_valueJson {v : Value} (h : valueJson v = .error e) : e.code = .internal := by
  unfold valueJson at h
  split at h
  · cases h
  · cases h
    rfl

theorem code_of_map_valueJson {v : Value} {f : Json → String}
    (h : (valueJson v).map f = .error e) : e.code = .internal := by
  cases hjson : valueJson v with
  | ok x =>
      rw [hjson] at h
      cases h
  | error e' =>
      rw [hjson] at h
      cases h
      exact code_of_valueJson hjson

theorem code_of_memberRow {m : String × Value} (h : memberRow m = .error e) : e.code = .internal := by
  have hcell : cell m.2 = .error e := by
    unfold memberRow at h
    cases hcell : cell m.2 with
    | ok s =>
        rw [hcell] at h
        cases h
    | error e' =>
        rw [hcell] at h
        cases h
        rfl
  unfold cell at hcell
  split at hcell
  · cases hcell
  · cases hcell
  · cases hcell
  · exact code_of_map_valueJson hcell

/-- A value that cannot be printed is a fault of the program. -/
theorem code_of_valueText {format : Format} {v : Value} (h : valueText format v = .error e) :
    e.code = .internal := by
  cases format with
  | json | raw | pretty => exact code_of_map_valueJson h
  | table =>
      unfold valueText valueTable at h
      cases hrows : (members v).mapM memberRow with
      | ok rows =>
          dsimp only at h
          rw [hrows] at h
          cases h
      | error e' =>
          dsimp only at h
          rw [hrows] at h
          cases h
          obtain ⟨m, -, hm⟩ := exists_of_mapM_eq_error hrows
          exact code_of_memberRow hm

/-! ## What is shown of a result -/

/-- A file under its name, its last line ended. -/
def fileOctets (name contents : String) : Bytes :=
  Bytes.ofText ("--- " ++ name ++ " ---\n") ++ Bytes.ofText contents ++
    if contents.toList.getLast? = some '\n' then [] else Bytes.ofText "\n"

/-- Files in a format: as a line of JSON, as a table of their sizes, or one after another. -/
def filesOctets (format : Format) (files : Dict String) : Bytes :=
  match format with
  | .json => Bytes.ofText ((filesJson files).compact ++ "\n")
  | .table => Bytes.ofText ((filesTable files).text ++ "\n")
  | .pretty => files.pairs.flatMap fun file => fileOctets file.1 file.2
  | .raw => files.pairs.flatMap fun file => Bytes.ofText file.2

/-- What is printed of the octets of a result, in a format. -/
inductive Renders (format : Format) (result : Bytes) : Shown → Bytes → Prop
  | text {t : String} (hresult : Value.decode result = .ok (.string t)) :
      Renders format result .text (Bytes.ofText t)
  | files {entries : Entries} {files : Dict String}
      (hresult : Value.decode result = .ok (.map entries))
      (hfiles : Query.filesOf (.map entries) = .ok files) :
      Renders format result .files (filesOctets format files)
  /-- The result as it is. -/
  | raw {expr : String} (hformat : format = .raw) : Renders format result (.expression expr) result
  | value {expr line : String} {v : Value} (hformat : format ≠ .raw)
      (hresult : Value.decode result = .ok v) (hline : valueText format v = .ok line) :
      Renders format result (.expression expr) (Bytes.ofText (line ++ "\n"))

theorem prints_printFile (name contents : String) :
    Prints (printFile name contents) (fileOctets name contents) := by
  have hend : Prints (if contents.toList.getLast? != some '\n' then printText "\n" else pure ())
      (if contents.toList.getLast? = some '\n' then [] else Bytes.ofText "\n") := by
    by_cases hlast : contents.toList.getLast? = some '\n'
    · rw [if_neg (by simp [hlast]), if_pos hlast]
      exact prints_pure
    · rw [if_pos (by simp [hlast]), if_neg hlast]
      exact prints_print _
  have hname : "--- " ++ name ++ " ---" ++ "\n" = "--- " ++ name ++ " ---\n" :=
    @String.append_assoc ("--- " ++ name) " ---" "\n"
  rw [fileOctets, ← hname, List.append_assoc]
  exact (prints_print _).bind ((prints_print (Bytes.ofText contents)).bind hend)

theorem prints_printFiles (format : Format) (files : Dict String) :
    Prints (printFiles format files) (filesOctets format files) := by
  cases format with
  | json | table => exact prints_print _
  | pretty => exact prints_forM files.pairs fun file => prints_printFile file.1 file.2
  | raw => exact prints_forM files.pairs fun file => prints_print (Bytes.ofText file.2)

theorem printValue_prints_or_fails (format : Format) (v : Value) :
    (∃ line, valueText format v = .ok line ∧
      Prints (printValue format v) (Bytes.ofText (line ++ "\n"))) ∨
    ∃ e, e.code ≠ .success ∧ Fails (printValue format v) e := by
  unfold printValue
  cases hline : valueText format v with
  | ok line => exact .inl ⟨line, rfl, prints_print _⟩
  | error e =>
      refine .inr ⟨e, ?_, fails_throw e⟩
      rw [code_of_valueText hline]
      exact ExitCode.noConfusion

/-- Printing an answer prints all that is to be printed of the result, or fails and prints nothing. -/
theorem printAnswer_prints_or_fails {shown : Shown} {format : Format} {result : Bytes} {answer : Answer}
    (hanswer : (queryOf shown format).answer result = .ok answer) :
    (∃ printed, Renders format result shown printed ∧ Prints (printAnswer format answer) printed) ∨
    ∃ e, e.code ≠ .success ∧ Fails (printAnswer format answer) e := by
  cases shown with
  | text =>
      obtain ⟨v, hv, h⟩ := bind_eq_ok_iff.1 hanswer
      obtain ⟨t, ht, h⟩ := bind_eq_ok_iff.1 h
      cases h
      cases v with
      | string t' =>
          cases ht
          exact .inl ⟨_, .text (Query.decode_of_valueOf hv), prints_print _⟩
      | _ => cases ht
  | files =>
      obtain ⟨v, hv, h⟩ := bind_eq_ok_iff.1 hanswer
      obtain ⟨files, hfiles, h⟩ := bind_eq_ok_iff.1 h
      cases h
      cases v with
      | map entries =>
          exact .inl ⟨_, .files (Query.decode_of_valueOf hv) hfiles, prints_printFiles format files⟩
      | _ => cases hfiles
  | expression expr =>
      by_cases hformat : format = .raw
      · rw [queryOf, if_pos hformat] at hanswer
        cases hanswer
        exact .inl ⟨result, .raw hformat, prints_print result⟩
      · rw [queryOf, if_neg hformat] at hanswer
        obtain ⟨v, hv, h⟩ := bind_eq_ok_iff.1 hanswer
        cases h
        rcases printValue_prints_or_fails format v with ⟨line, hline, hprints⟩ | hfails
        · exact .inl ⟨_, .value hformat (Query.decode_of_valueOf hv) hline, hprints⟩
        · exact .inr hfails

end PklHost.Cli
